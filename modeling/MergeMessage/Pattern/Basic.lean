import MergeMessage.Pattern.CharSet

/-!
# Patterns

A pattern describes stretches of a text.  It is built from sets of characters and from conditions
on the place between two characters, by sequence, choice and repetition.  What a pattern describes
is given by the places that it leads to: from a set of places in a text, where a stretch may
start, to the places where such a stretch may end.  A pattern occurs in a text if it leads
anywhere from the places of the text.

## Main definitions

* `Anchor` — a condition on a place; `Anchor.holdsAt`.
* `Pattern` — a pattern; `Pattern.reach`, the places that it leads to.
* `Pattern.occursIn` — does the text have a stretch that the pattern describes?
* `Pattern.weight` — what a machine that searches for the pattern would take.
-/

namespace MergeMessage

/-- What there may be of words at a place. -/
inductive WordEdge
  /-- A word starts or ends. -/
  | edge
  /-- No word starts or ends. -/
  | noEdge
  /-- A word starts. -/
  | start
  /-- A word ends. -/
  | stop
  /-- The character before is no part of a word. -/
  | noneBefore
  /-- The character after is no part of a word. -/
  | noneAfter
  deriving DecidableEq, Repr

/-- A condition on a place in a text. -/
inductive Anchor
  /-- The start of the text. -/
  | textStart
  /-- The end of the text. -/
  | textEnd
  /-- The start of a line; with the flag, a carriage return may end lines too. -/
  | lineStart (returns : Bool)
  /-- The end of a line; with the flag, a carriage return may end lines too. -/
  | lineEnd (returns : Bool)
  /-- The edge of a word; with the flag, words are of ASCII characters. -/
  | word (e : WordEdge) (ascii : Bool)
  deriving DecidableEq, Repr

/-- Does the edge lie between these two characters, of which each may be part of a word? -/
def WordEdge.liesBetween : WordEdge → Bool → Bool → Bool
  | .edge, before, after => before != after
  | .noEdge, before, after => before == after
  | .start, before, after => !before && after
  | .stop, before, after => before && !after
  | .noneBefore, before, _ => !before
  | .noneAfter, _, after => !after

/-- The condition holds between two neighbours, which are absent at the ends of a text. -/
def Anchor.holdsBetween (before after : Option Char) : Anchor → Bool
  | .textStart => before.isNone
  | .textEnd => after.isNone
  | .lineStart false => before.isNone || before == some '\n'
  | .lineStart true =>
    before.isNone || before == some '\n' || (before == some '\r' && after != some '\n')
  | .lineEnd false => after.isNone || after == some '\n'
  | .lineEnd true =>
    after.isNone || after == some '\r' || (after == some '\n' && before != some '\r')
  | .word e ascii =>
    let isPart (c : Char) : Bool := isWordChar c && (!ascii || c.toNat < 0x80)
    e.liesBetween (before.any isPart) (after.any isPart)

/-- A description of stretches of a text. -/
inductive Pattern
  /-- The empty stretch. -/
  | empty
  /-- A character of a set. -/
  | char (s : CharSet)
  /-- The empty stretch, at the places with a condition. -/
  | anchor (a : Anchor)
  /-- One stretch and then another one. -/
  | seq (p q : Pattern)
  /-- A stretch of either kind. -/
  | either (p q : Pattern)
  /-- A group, whose stretch is marked. -/
  | group (p : Pattern)
  /-- At least so many stretches, and at most so many if there is a bound. -/
  | repeated (least : Nat) (most : Option Nat) (p : Pattern)
  deriving DecidableEq, Repr

/-- A set of places in a text, each given by the number of characters before it, in increasing
order. -/
abbrev Places := List Nat

namespace Places

/-- The places of either set. -/
def union : Places → Places → Places
  | [], js => js
  | is, [] => is
  | i :: is, j :: js =>
    if i < j then i :: union is (j :: js)
    else if j < i then j :: union (i :: is) js
    else i :: union is js
termination_by is js => is.length + js.length

/-- What `step` leads to when it is taken so many times. -/
def after (step : Places → Places) : Nat → Places → Places
  | 0, is => is
  | n + 1, is => after step n (step is)

/-- What `step` leads to when it is taken up to so many times.  Once nothing is added, nothing
more can be. -/
def within (step : Places → Places) : Nat → Places → Places
  | 0, is => is
  | n + 1, is =>
    let wider := union is (step is)
    if wider.length = is.length then is else within step n wider

end Places

namespace Pattern

/-- The places that the pattern leads to from the given ones.  A repetition need not be followed
more often than there are places: on a longer way some place comes twice. -/
def reach (text : Array Char) : Pattern → Places → Places
  | .empty, is => is
  | .char s, is => (is.filter fun i => text[i]?.any s.contains).map (· + 1)
  | .anchor a, is =>
    is.filter fun i => a.holdsBetween (if i = 0 then none else text[i - 1]?) text[i]?
  | .seq p q, is => q.reach text (p.reach text is)
  | .either p q, is => (p.reach text is).union (q.reach text is)
  | .group p, is => p.reach text is
  | .repeated least most p, is =>
    let bound := text.size + 1
    let started := Places.after (p.reach text) (min least bound) is
    match most with
    | none => Places.within (p.reach text) bound started
    | some most => Places.within (p.reach text) (min (most - least) bound) started

/-- Does the text have a stretch that the pattern describes? -/
def occursIn (p : Pattern) (text : Text) : Bool :=
  !(p.reach text.toArray (List.range (text.length + 1))).isEmpty

/-- What a state of a searching machine takes, in octets. -/
def stateWeight : Nat := 32

/-- What the part of a searching machine for a set of characters takes, in octets: the large sets
take a machine of many states. -/
def setWeight : CharSet → Nat
  | .points ps =>
    if ps.all (· ≤ 0x80) then stateWeight else ps.length * stateWeight
  | .word => 1500 * stateWeight
  | .property p => if p = .decimal || p = .blank then 100 * stateWeight else 800 * stateWeight
  | .compl s => 12 * stateWeight + setWeight s
  | .union s t => max (setWeight s) (setWeight t)
  | .inter s t => min (setWeight s) (setWeight t)
  | .withForms s => setWeight s
  | .withAsciiForms s => setWeight s

/-- What a machine that searches for the pattern takes, in octets. -/
def weight : Pattern → Nat
  | .empty => stateWeight
  | .char s => setWeight s
  | .anchor _ => stateWeight
  | .seq p q => p.weight + q.weight
  | .either p q => 2 * stateWeight + p.weight + q.weight
  | .group p => 2 * stateWeight + p.weight
  | .repeated least most p =>
    match most with
    | none => stateWeight + (least + 1) * p.weight
    | some most => stateWeight + least * p.weight + (most - least) * (stateWeight + p.weight)

/-- The most that a searching machine may take, in octets. -/
def weightLimit : Nat := 10 * Nat.pow 2 20

end Pattern

end MergeMessage
