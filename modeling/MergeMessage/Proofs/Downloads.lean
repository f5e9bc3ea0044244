import Mathlib.Data.List.Basic
import MergeMessage.Provider.Pull

/-!
# Downloads stop at the first bad line

A download is followed line by line until the first line that ends it.  What is reported is what the
lines before that one say, in their order and each of them once; what comes behind it is not even
looked at.  So a stream can be followed in two parts: the second one counts only if the first one
has come to its end, and then as if it stood alone.

## Main definitions

* `terminator?` — why a line ends a download.
* `progressOf?` — the progress that a line tells.
* `pullReference` — what lines report, and how a download with them ends.
* `pullFrom` — what comes of lines after others were reported.

## Main results

* `pieces_eq_splitOn`, `pieces_eq_lines_or` — the lines of a stream.
* `pullFrom_eq_pullReference` — the run over lines, after any others.
* `followPull_stops_at_first_terminator` — a download is what the reference says.
-/

namespace MergeMessage

open Text

/-! ### The lines of a stream -/

namespace Octets

theorem pieces_ne_nil (s : Octets) : pieces s ≠ [] := by
  cases s with
  | nil => simp
  | cons b s =>
    unfold pieces
    split
    · simp
    · split <;> simp

/-- The pieces of a stream are what stands between its line feeds. -/
theorem pieces_eq_splitOn (s : Octets) : pieces s = s.splitOn 0x0A := by
  induction s with
  | nil => rfl
  | cons b s ih =>
    rw [List.splitOn_cons_eq_if_modifyHead, ← ih, pieces]
    by_cases hb : b = 0x0A
    · simp [hb]
    · obtain ⟨line, lines, hpieces⟩ := List.exists_cons_of_ne_nil (pieces_ne_nil s)
      simp [hb, hpieces]

/-- At most an empty piece behind the last line feed is no line. -/
theorem pieces_eq_lines_or (s : Octets) : pieces s = lines s ∨ pieces s = lines s ++ [[]] := by
  unfold lines
  split
  · next hlast => exact .inr (List.dropLast_append_getLast? [] hlast).symm
  · exact .inl rfl

end Octets

/-! ### One line -/

section

variable {σ ε : Type} {handler : σ → Text → Step σ ε} {state : σ} {line : Octets} {s : Text}

theorem readLines_unreadable (h : line.text? = none) (lines : List Octets) :
    readLines handler state (line :: lines) = (state, .error .notText) := by
  rw [readLines, h]

theorem readLines_of_blank (h : line.text? = some s) (hblank : trim s = []) (lines : List Octets) :
    readLines handler state (line :: lines) = readLines handler state lines := by
  simp [readLines, h, hblank]

theorem readLines_of_text (h : line.text? = some s) (htext : trim s ≠ []) (lines : List Octets) :
    readLines handler state (line :: lines) =
      match handler state (trim s) with
      | .next state => readLines handler state lines
      | .stop state => (state, .ok ())
      | .fail state error => (state, .error (.handler error)) := by
  rw [readLines, h]
  refine (if_neg (mt List.isEmpty_iff.mp htext)).trans ?_
  cases handler state (trim s) <;> rfl

end

/-! ### What a line means for a download -/

/-- Why a line ends a download: it is not well formed, it is no progress object, or it reports an
error.  A blank line does not. -/
def terminator? (line : Octets) : Option (StreamError PullError) :=
  match line.text? with
  | none => some .notText
  | some s =>
    if trim s = [] then none
    else match Progress.ofLine? (trim s) with
      | none => some (.handler .notProgress)
      | some progress => progress.error.map fun reason => .handler (.reported reason)

/-- The progress that a line tells, if it is a progress object. -/
def progressOf? (line : Octets) : Option Progress :=
  line.text?.bind fun s => if trim s = [] then none else Progress.ofLine? (trim s)

/-- What lines report, and how a download with them ends: all lines before the first one that ends
it are reported, and that one says why it failed. -/
def pullReference (lines : List Octets) : List Progress × Except (StreamError PullError) Unit :=
  ((lines.takeWhile fun line => (terminator? line).isNone).filterMap progressOf?,
    match lines.findSome? terminator? with
    | none => .ok ()
    | some error => .error error)

theorem pullReference_cons_of_some {line : Octets} {error : StreamError PullError}
    (h : terminator? line = some error) (lines : List Octets) :
    pullReference (line :: lines) = ([], .error error) := by
  simp [pullReference, h]

theorem pullReference_cons_of_none {line : Octets} (h : terminator? line = none)
    (lines : List Octets) :
    pullReference (line :: lines) =
      ((progressOf? line).toList ++ (pullReference lines).1, (pullReference lines).2) := by
  cases hprogress : progressOf? line <;> simp [pullReference, h, hprogress]

/-- What stands behind a first part only counts if that part has come to its end. -/
theorem pullReference_append (before after : List Octets) :
    pullReference (before ++ after) =
      match (pullReference before).2 with
      | .error error => ((pullReference before).1, .error error)
      | .ok () =>
        ((pullReference before).1 ++ (pullReference after).1, (pullReference after).2) := by
  induction before with
  | nil => rfl
  | cons line before ih =>
    rw [List.cons_append]
    cases hline : terminator? line with
    | some error => rw [pullReference_cons_of_some hline, pullReference_cons_of_some hline]
    | none =>
      rw [pullReference_cons_of_none hline, pullReference_cons_of_none hline, ih]
      cases (pullReference before).2 with
      | error error => rfl
      | ok _ => simp [List.append_assoc]

/-! ### Following a stream -/

/-- What comes of the lines of a download, after some others were reported. -/
def pullFrom (reported : List Progress) (lines : List Octets) :
    List Progress × Except (StreamError PullError) Unit :=
  let (pull, outcome) := readLines pullStep { reported } lines
  pull.result outcome

theorem followPull_eq_pullFrom (stream : Octets) : followPull stream = pullFrom [] stream.lines :=
  rfl

/-- A line that ends the download is not reported, and nothing behind it is looked at. -/
theorem pullFrom_of_some {line : Octets} {error : StreamError PullError}
    (h : terminator? line = some error) (reported : List Progress) (lines : List Octets) :
    pullFrom reported (line :: lines) = (reported.reverse, .error error) := by
  unfold terminator? at h
  unfold pullFrom
  cases htext : line.text? with
  | none =>
    rw [htext] at h
    obtain rfl := Option.some.inj h
    rw [readLines_unreadable htext]
    rfl
  | some s =>
    rw [htext] at h
    dsimp only at h
    by_cases hblank : trim s = []
    · simp [hblank] at h
    · rw [if_neg hblank] at h
      rw [readLines_of_text htext hblank, pullStep]
      cases hprogress : Progress.ofLine? (trim s) with
      | none =>
        rw [hprogress] at h
        obtain rfl := Option.some.inj h
        rfl
      | some progress =>
        -- the handler only stops, and the error it kept is told after the loop
        rw [hprogress] at h
        obtain ⟨reason, hreason, rfl⟩ := Option.map_eq_some_iff.mp h
        simp [hreason, Pull.result]

/-- A line that does not end the download is reported once, unless it is blank. -/
theorem pullFrom_of_none {line : Octets} (h : terminator? line = none)
    (reported : List Progress) (lines : List Octets) :
    pullFrom reported (line :: lines) =
      pullFrom ((progressOf? line).toList ++ reported) lines := by
  unfold terminator? at h
  rw [pullFrom, pullFrom, progressOf?]
  -- a line that ends nothing is blank or tells progress
  cases htext : line.text? with
  | none => rw [htext] at h; simp at h
  | some s =>
    rw [htext] at h
    dsimp only [Option.bind_some] at h ⊢
    by_cases hblank : trim s = []
    · rw [readLines_of_blank htext hblank, if_pos hblank]
      rfl
    · rw [if_neg hblank] at h
      rw [readLines_of_text htext hblank, if_neg hblank, pullStep]
      cases hprogress : Progress.ofLine? (trim s) with
      | none => rw [hprogress] at h; simp at h
      | some progress =>
        rw [hprogress] at h
        simp [Option.map_eq_none_iff.mp h]

/-- **The run over lines.**  To what was reported before, a run adds what the reference reports; it
ends as the reference does. -/
theorem pullFrom_eq_pullReference (reported : List Progress) (lines : List Octets) :
    pullFrom reported lines =
      (reported.reverse ++ (pullReference lines).1, (pullReference lines).2) := by
  induction lines generalizing reported with
  | nil => simp [pullFrom, pullReference, Pull.result]
  | cons line lines ih =>
    cases hline : terminator? line with
    | some error =>
      rw [pullFrom_of_some hline, pullReference_cons_of_some hline, List.append_nil]
    | none =>
      rw [pullFrom_of_none hline, ih, pullReference_cons_of_none hline]
      cases progressOf? line <;> simp

theorem followPull_eq_pullReference_lines (stream : Octets) :
    followPull stream = pullReference stream.lines := by
  rw [followPull_eq_pullFrom, pullFrom_eq_pullReference]
  rfl

/-- The reference does not care for an empty piece behind the last line feed. -/
theorem pullReference_pieces (stream : Octets) :
    pullReference stream.pieces = pullReference stream.lines := by
  rcases stream.pieces_eq_lines_or with hpieces | hpieces
  · rw [hpieces]
  · have hempty : pullReference [[]] = ([], .ok ()) := rfl
    rw [hpieces, pullReference_append, hempty]
    cases h : pullReference stream.lines with
    | mk reported outcome => cases outcome <;> simp

theorem followPull_eq_pullReference (stream : Octets) :
    followPull stream = pullReference (stream.splitOn 0x0A) := by
  rw [followPull_eq_pullReference_lines, ← pullReference_pieces, Octets.pieces_eq_splitOn]

/-- **A download stops at the first line that ends it.**  Of the lines of a stream, those before the
first one that is not well formed, is no progress object or reports an error are reported, in their
order and each of them once.  The download succeeds exactly if there is no such line, and otherwise
fails for the reason of the first one.  So octets behind a line feed count only if the download has
not failed before, and then as a stream of their own.  An error that a line reports is told with the
name of the model. -/
theorem followPull_stops_at_first_terminator (stream : Octets) (model : Text) :
    followPull stream = pullReference (stream.splitOn 0x0A) ∧
    ((followPull stream).2 = .ok () ↔ ∀ line ∈ stream.splitOn 0x0A, terminator? line = none) ∧
    (∀ tail, followPull (stream ++ 0x0A :: tail) =
      match followPull stream with
      | (reported, .error error) => (reported, .error error)
      | (reported, .ok ()) => (reported ++ (followPull tail).1, (followPull tail).2)) ∧
    ∀ reason, PullError.message model (.handler (.reported reason)) =
      "Ollama failed to pull ".toList ++ model ++ ": ".toList ++ reason := by
  refine ⟨followPull_eq_pullReference stream, ?_, fun tail => ?_, fun _ => rfl⟩
  · rw [followPull_eq_pullReference, ← List.findSome?_eq_none_iff, pullReference]
    cases (stream.splitOn 0x0A).findSome? terminator? <;> simp
  · have hpieces : (stream ++ 0x0A :: tail).splitOn 0x0A =
        stream.splitOn 0x0A ++ tail.splitOn 0x0A :=
      List.splitOnP_append_cons stream tail (by simp)
    rw [followPull_eq_pullReference, hpieces, pullReference_append, ← followPull_eq_pullReference,
      ← followPull_eq_pullReference]
    cases followPull stream with
    | mk reported outcome => cases outcome <;> rfl

end MergeMessage
