import MergeMessage.CommandLine.Basic

/-!
# Coloured texts

Some words are coloured where a terminal shows them.  The program takes its outputs for no
terminals unless the environment says otherwise.

## Main definitions

* `Terminal.Style` — a colour and a weight; `Terminal.Style.paint`.
* `Terminal.isColoured` — are words coloured?
* `Terminal.keepsControls` — do the colours reach the log?
-/

namespace MergeMessage.Terminal

/-- A colour and a weight, as the numbers that stand for them. -/
structure Style where
  /-- The numbers, with semicolons between them. -/
  codes : String
  deriving DecidableEq, Repr

namespace Style

/-- Green. -/
def green : Style := ⟨"32"⟩

/-- Yellow. -/
def yellow : Style := ⟨"33"⟩

/-- Red. -/
def red : Style := ⟨"31"⟩

/-- Grey. -/
def grey : Style := ⟨"90"⟩

/-- Bold and green. -/
def boldGreen : Style := ⟨"1;32"⟩

/-- Bold and yellow. -/
def boldYellow : Style := ⟨"1;33"⟩

/-- Bold and red. -/
def boldRed : Style := ⟨"1;31"⟩

/-- Bold and white. -/
def boldWhite : Style := ⟨"1;37"⟩

/-- The text between the control sequences that switch the style on and off, where words are
coloured. -/
def paint (coloured : Bool) (style : Style) (s : Text) : Text :=
  if coloured then
    "\x1b[".toList ++ style.codes.toList ++ 'm' :: s ++ "\x1b[0m".toList
  else s

@[simp] theorem paint_false (style : Style) (s : Text) : style.paint false s = s := rfl

end Style

/-- The variable of the environment that asks for colours. -/
def forceVariable : Text := "CLICOLOR_FORCE".toList

/-- Are words coloured?  The environment must ask for it. -/
def isColoured (environment : Environment) : Bool :=
  match environment forceVariable with
  | some value => value ≠ ['0']
  | none => false

/-- Do control sequences reach the log?  The environment must ask for colours and must not
refuse them. -/
def keepsControls (environment : Environment) : Bool :=
  ((environment "NO_COLOR".toList).getD []).isEmpty &&
    !((environment forceVariable).getD []).isEmpty

end MergeMessage.Terminal
