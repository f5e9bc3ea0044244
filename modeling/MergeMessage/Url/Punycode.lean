import MergeMessage.Text.Basic

/-!
# Punycode

A label of an international host name is written with ASCII characters: first its own ASCII
characters, then after a hyphen the others, each as a number that says which character comes
next and where it goes.  The numbers are written in a mixed base that adapts to their size.

## Main definitions

* `Punycode.decode?` — the label that such a text stands for.
* `Punycode.encode` — the text of a label.
-/

namespace MergeMessage.Punycode

/-- The number of digits. -/
def base : Nat := 36

/-- The least and the greatest weight of a digit position. -/
def thresholdRange : Nat × Nat := (1, 26)

/-- The threshold of the digit position `k` for a bias. -/
def threshold (bias k : Nat) : Nat :=
  if k ≤ bias then thresholdRange.1 else min thresholdRange.2 (k - bias)

/-- The number of times that `delta` is divided before it is small, and what is left of it. -/
def reduce : Nat → Nat → Nat → Nat × Nat
  | 0, delta, k => (delta, k)
  | fuel + 1, delta, k => if delta > 455 then reduce fuel (delta / 35) (k + base) else (delta, k)

/-- The bias after a number `delta` was read or written, when `count` characters are known. -/
def adapt (delta count : Nat) (first : Bool) : Nat :=
  let delta := if first then delta / 700 else delta / 2
  let (delta, k) := reduce 64 (delta + delta / count) 0
  k + 36 * delta / (delta + 38)

/-- The value of a digit. -/
def digit? (c : Char) : Option Nat :=
  if c.isLower then some (c.toNat - 97)
  else if c.isUpper then some (c.toNat - 65)
  else if c.isDigit then some (c.toNat - 22)
  else none

/-- The digit of a value. -/
def digit (n : Nat) : Char := if n < 26 then Char.ofNat (n + 97) else Char.ofNat (n + 22)

/-- The number at the front of a text, added to `i`, and what follows it. -/
def number? (bias : Nat) : Nat → Nat → Nat → Text → Option (Nat × Text)
  | _, _, _, [] => none
  | i, weight, k, c :: s =>
    match digit? c with
    | none => none
    | some d =>
      let i := i + d * weight
      let t := threshold bias k
      if i > 0x7FFFFFFF then none
      else if d < t then some (i, s)
      else number? bias i (weight * (base - t)) (k + base) s

/-- The label after the numbers of a text were read into it.  Each number consumes at least
one character, so the length of the text is enough fuel. -/
def insertAll? : Nat → Nat → Nat → Nat → Text → Text → Option Text
  | _, _, _, _, label, [] => some label
  | 0, _, _, _, _, _ => none
  | fuel + 1, n, i, bias, label, s =>
    match number? bias i 1 base s with
    | none => none
    | some (next, rest) =>
      let count := label.length + 1
      let point := n + next / count
      if point ≥ 0x110000 || (0xD800 ≤ point && point < 0xE000) then none
      else
        let place := next % count
        insertAll? fuel point (place + 1) (adapt (next - i) count (i == 0))
          (label.insertIdx place (Char.ofNat point)) rest

/-- The two sides of the last hyphen of a text; without one, all of it is the second side. -/
def splitLastHyphen (s : Text) : Text × Text :=
  match s.reverse.dropWhile (· ≠ '-') with
  | [] => ([], s)
  | _ :: front => (front.reverse, (s.reverse.takeWhile (· ≠ '-')).reverse)

/-- The label that a text stands for. -/
def decode? (s : Text) : Option Text :=
  let (ascii, numbers) := splitLastHyphen s
  if ascii.all (·.toNat < 0x80) then insertAll? numbers.length 0x80 0 72 ascii numbers else none

/-- The digits of a number; `fuel` bounds their count. -/
def writeNumber (bias : Nat) : Nat → Nat → Nat → Text
  | 0, _, _ => []
  | fuel + 1, q, k =>
    let t := threshold bias k
    if q < t then [digit q]
    else digit (t + (q - t) % (base - t)) :: writeNumber bias fuel ((q - t) / (base - t)) (k + base)

/-- What was written so far and what the next number counts from. -/
structure Encoding where
  /-- The digits written. -/
  written : Text
  /-- The number that the next character adds to. -/
  delta : Nat
  /-- The bias of the next number. -/
  bias : Nat
  /-- The number of characters written. -/
  count : Nat
  /-- Was no number written yet? -/
  first : Bool

/-- Passes one character of the label in the round for the code point `n`. -/
def Encoding.pass (n : Nat) (e : Encoding) (c : Char) : Encoding :=
  if c.toNat < n then { e with delta := e.delta + 1 }
  else if c.toNat = n then
    { written := e.written ++ writeNumber e.bias 64 e.delta base
      delta := 0
      bias := adapt e.delta (e.count + 1) e.first
      count := e.count + 1
      first := false }
  else e

/-- The code points beyond ASCII of a label, in order and without repetition. -/
def pointsBeyondAscii (label : Text) : List Nat :=
  ((label.map Char.toNat).filter (· ≥ 0x80)).mergeSort.eraseDups

/-- The rounds of the encoding, one for each code point; `n` is the next one that could occur. -/
def encodeRounds (label : Text) : Nat → List Nat → Encoding → Encoding
  | _, [], e => e
  | n, point :: points, e =>
    let e := { e with delta := e.delta + (point - n) * (e.count + 1) }
    let e := label.foldl (Encoding.pass point) e
    encodeRounds label (point + 1) points { e with delta := e.delta + 1 }

/-- The text of a label. -/
def encode (label : Text) : Text :=
  let ascii := label.filter (·.toNat < 0x80)
  let start := if ascii.isEmpty then [] else ascii ++ ['-']
  (encodeRounds label 0x80 (pointsBeyondAscii label) ⟨start, 0, 72, ascii.length, true⟩).written

end MergeMessage.Punycode
