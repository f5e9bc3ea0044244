import MergeMessage.Proofs.Downloads
import MergeMessage.Proofs.Octets
import MergeMessage.Proofs.Texts

/-!
# Runs of a handler over a stream

A handler hears the lines of a stream one after the other, without blanks at their ends, and a line
that is nothing but blanks is not heard.  A run goes through lines as long as they are text and the
handler goes on; it comes to its end, or the first other line settles it.  So nothing behind that line
matters, and neither do blanks around the lines or blank lines between them.

## Main definitions

* `heard?` — what a handler hears of lines.
* `Passes` — the lines are text, and the handler goes on at each of them.
* `Run` — the four ways in which a run comes to its end.
* `Reaches` — the handler comes to a line.
* `recordingCalls` — a handler that records its calls.
* `PaddedLines` — lines with blanks around them and blank lines between them.

## Main results

* `exists_run` — every run comes to its end in one of the four ways.
* `readLines_append_of_passes`, `readLines_append_of_not_passes` — lines behind others.
* `readLines_padded` — blanks make no difference.
* `readStream_settled_by_first_line` — what a handler hears of a stream, and how its run ends.
-/

namespace MergeMessage

open Text

/-! ### What a handler hears -/

/-- What a handler hears of lines: those that are not blank, without blanks at their ends.  It is
nothing unless all of them are text. -/
def heard? (lines : List Octets) : Option (List Text) :=
  (lines.mapM Octets.text?).map fun texts => (texts.map trim).filter (· ≠ [])

theorem heard?_append (before after : List Octets) :
    heard? (before ++ after) =
      (heard? before).bind fun calls => (heard? after).map (calls ++ ·) := by
  rw [heard?, List.mapM_append, heard?, heard?]
  cases before.mapM Octets.text? with
  | none => rfl
  | some texts => cases after.mapM Octets.text? <;> simp

theorem heard?_of_blank {line : Octets} {text : Text} (h : line.text? = some text)
    (hblank : trim text = []) : heard? [line] = some [] := by
  simp [heard?, h, hblank]

theorem heard?_of_text {line : Octets} {text : Text} (h : line.text? = some text)
    (htext : trim text ≠ []) : heard? [line] = some [trim text] := by
  simp [heard?, h, htext]

section

variable {σ ε : Type}

/-- The state in which a handler goes on. -/
def Step.next? : Step σ ε → Option σ
  | .next state => some state
  | .stop _ => none
  | .fail _ _ => none

/-- The state of a handler that has gone on at each of the texts. -/
def goOn? (handler : σ → Text → Step σ ε) (state : σ) (texts : List Text) : Option σ :=
  texts.foldlM (fun state text => (handler state text).next?) state

/-- The lines are text, the handler goes on at each of them, and is in the state `after` then. -/
structure Passes (handler : σ → Text → Step σ ε) (state : σ) (lines : List Octets)
    (calls : List Text) (after : σ) : Prop where
  heard : heard? lines = some calls
  goes_on : goOn? handler state calls = some after

/-- **The ways in which a run comes to its end.** -/
inductive Run (handler : σ → Text → Step σ ε) (state : σ) :
    List Octets → List Text → σ → Except (StreamError ε) Unit → Prop
  /-- There are no more lines. -/
  | ended {lines calls final} (passed : Passes handler state lines calls final) :
    Run handler state lines calls final (.ok ())
  /-- A line is no text; the handler does not hear of it. -/
  | unreadable {before line rest calls final} (passed : Passes handler state before calls final)
    (cut : line.text? = none) :
    Run handler state (before ++ line :: rest) calls final (.error .notText)
  /-- The handler stops at a line. -/
  | stopped {before line rest calls after text final}
    (passed : Passes handler state before calls after) (heard : heard? [line] = some [text])
    (stops : handler after text = .stop final) :
    Run handler state (before ++ line :: rest) (calls ++ [text]) final (.ok ())
  /-- The handler fails at a line. -/
  | failed {before line rest calls after text final error}
    (passed : Passes handler state before calls after) (heard : heard? [line] = some [text])
    (fails : handler after text = .fail final error) :
    Run handler state (before ++ line :: rest) (calls ++ [text]) final (.error (.handler error))

/-! ### Lines that are passed -/

variable {handler : σ → Text → Step σ ε} {state state' final : σ} {lines before : List Octets}
  {line : Octets} {text : Text} {calls calls' : List Text} {outcome : Except (StreamError ε) Unit}

theorem passes_nil (handler : σ → Text → Step σ ε) (state : σ) :
    Passes handler state [] [] state := ⟨rfl, rfl⟩

theorem Passes.append {after : List Octets} (h : Passes handler state before calls state')
    (h' : Passes handler state' after calls' final) :
    Passes handler state (before ++ after) (calls ++ calls') final where
  heard := by rw [heard?_append, h.heard, h'.heard]; rfl
  goes_on := by
    rw [goOn?, List.foldlM_append]
    exact Option.bind_eq_some_iff.mpr ⟨state', h.goes_on, h'.goes_on⟩

theorem passes_blank (h : heard? [line] = some []) : Passes handler state [line] [] state :=
  ⟨h, rfl⟩

theorem passes_next (h : heard? [line] = some [text]) (hnext : handler state text = .next state') :
    Passes handler state [line] [text] state' :=
  ⟨h, by simp [goOn?, hnext, Step.next?]⟩

/-- A run goes on behind lines that are passed. -/
theorem Run.append (h : Passes handler state before calls state')
    (hrun : Run handler state' lines calls' final outcome) :
    Run handler state (before ++ lines) (calls ++ calls') final outcome := by
  cases hrun with
  | ended passed => exact .ended (h.append passed)
  | unreadable passed cut =>
    rw [← List.append_assoc]
    exact .unreadable (h.append passed) cut
  | stopped passed heard stops =>
    rw [← List.append_assoc, ← List.append_assoc]
    exact .stopped (h.append passed) heard stops
  | failed passed heard fails =>
    rw [← List.append_assoc, ← List.append_assoc]
    exact .failed (h.append passed) heard fails

/-! ### One line -/

/-- A line is no text, or blank, or heard. -/
theorem line_heard_cases (line : Octets) :
    line.text? = none ∨ heard? [line] = some [] ∨ ∃ text, heard? [line] = some [text] := by
  cases h : line.text? with
  | none => exact .inl rfl
  | some text =>
    by_cases hblank : trim text = []
    · exact .inr (.inl (heard?_of_blank h hblank))
    · exact .inr (.inr ⟨_, heard?_of_text h hblank⟩)

theorem readLines_blank (h : heard? [line] = some []) (lines : List Octets) :
    readLines handler state (line :: lines) = readLines handler state lines := by
  cases hline : line.text? with
  | none => simp [heard?, hline] at h
  | some s =>
    by_cases hblank : trim s = []
    · exact readLines_of_blank hline hblank lines
    · simp [heard?_of_text hline hblank] at h

theorem readLines_heard (h : heard? [line] = some [text]) (lines : List Octets) :
    readLines handler state (line :: lines) =
      match handler state text with
      | .next state => readLines handler state lines
      | .stop state => (state, .ok ())
      | .fail state error => (state, .error (.handler error)) := by
  cases hline : line.text? with
  | none => simp [heard?, hline] at h
  | some s =>
    by_cases hblank : trim s = []
    · simp [heard?_of_blank hline hblank] at h
    · rw [heard?_of_text hline hblank] at h
      obtain rfl : trim s = text := by simpa using h
      exact readLines_of_text hline hblank lines

/-! ### Recorded runs -/

/-- The answer with another state. -/
def Step.map {τ : Type} (f : σ → τ) : Step σ ε → Step τ ε
  | .next state => .next (f state)
  | .stop state => .stop (f state)
  | .fail state error => .fail (f state) error

/-- The handler, recording behind its state what it is called with. -/
def recordingCalls (handler : σ → Text → Step σ ε) :
    σ × List Text → Text → Step (σ × List Text) ε :=
  fun (state, calls) text => (handler state text).map (·, calls ++ [text])

/-- **Every run comes to its end** in one of the four ways, with the calls that are recorded. -/
theorem exists_run (handler : σ → Text → Step σ ε) (state : σ) (lines : List Octets)
    (record : List Text) :
    ∃ calls final outcome, readLines handler state lines = (final, outcome) ∧
      readLines (recordingCalls handler) (state, record) lines = ((final, record ++ calls), outcome) ∧
      Run handler state lines calls final outcome := by
  -- along the lines: one that is passed stands before the run over the others
  induction lines generalizing state record with
  | nil => exact ⟨[], state, .ok (), rfl, by simp, .ended (passes_nil handler state)⟩
  | cons line lines ih =>
    rcases line_heard_cases line with hnone | hblank | ⟨text, htext⟩
    · refine ⟨[], state, _, readLines_unreadable hnone lines, ?_, ?_⟩
      · rw [readLines_unreadable hnone, List.append_nil]
      · exact .unreadable (passes_nil handler state) hnone
    · obtain ⟨calls, final, outcome, hread, hrecord, hrun⟩ := ih state record
      refine ⟨calls, final, outcome, ?_, ?_, ?_⟩
      · rw [readLines_blank hblank, hread]
      · rw [readLines_blank hblank, hrecord]
      · exact Run.append (passes_blank hblank) hrun
    · cases hstep : handler state text with
      | next state' =>
        obtain ⟨calls, final, outcome, hread, hrecord, hrun⟩ := ih state' (record ++ [text])
        refine ⟨text :: calls, final, outcome, ?_, ?_, ?_⟩
        · simp [readLines_heard htext, hstep, hread]
        · simp [readLines_heard htext, recordingCalls, hstep, Step.map, hrecord]
        · exact Run.append (passes_next htext hstep) hrun
      | stop final =>
        refine ⟨[text], final, .ok (), ?_, ?_, ?_⟩
        · rw [readLines_heard htext, hstep]
        · simp [readLines_heard htext, recordingCalls, hstep, Step.map]
        · exact .stopped (passes_nil handler state) htext hstep
      | fail final error =>
        refine ⟨[text], final, .error (.handler error), ?_, ?_, ?_⟩
        · rw [readLines_heard htext, hstep]
        · simp [readLines_heard htext, recordingCalls, hstep, Step.map]
        · exact .failed (passes_nil handler state) htext hstep

/-! ### Lines behind others -/

/-- The first of the lines that are passed is blank, or the handler goes on at it. -/
theorem Passes.cons_cases (h : Passes handler state (line :: lines) calls final) :
    (heard? [line] = some [] ∧ Passes handler state lines calls final) ∨
      ∃ text state' calls', heard? [line] = some [text] ∧ handler state text = .next state' ∧
        calls = text :: calls' ∧ Passes handler state' lines calls' final := by
  have hheard : heard? ([line] ++ lines) = some calls := h.heard
  rw [heard?_append] at hheard
  obtain ⟨first, hfirst, hrest⟩ := Option.bind_eq_some_iff.mp hheard
  obtain ⟨calls', hcalls, rfl⟩ := Option.map_eq_some_iff.mp hrest
  rcases line_heard_cases line with hnone | hblank | ⟨text, htext⟩
  · simp [heard?, hnone] at hfirst
  · obtain rfl : [] = first := Option.some.inj (hblank.symm.trans hfirst)
    exact .inl ⟨hblank, hcalls, h.goes_on⟩
  · obtain rfl : [text] = first := Option.some.inj (htext.symm.trans hfirst)
    have hgo := h.goes_on
    rw [goOn?, List.singleton_append, List.foldlM_cons] at hgo
    obtain ⟨state', hnext, hgo⟩ := Option.bind_eq_some_iff.mp hgo
    refine .inr ⟨text, state', calls', htext, ?_, rfl, hcalls, hgo⟩
    cases hstep : handler state text with
    | next s => simpa [hstep, Step.next?] using hnext
    | stop s => simp [hstep, Step.next?] at hnext
    | fail s error => simp [hstep, Step.next?] at hnext

/-- Lines behind those that are passed are read as if they stood alone. -/
theorem readLines_append_of_passes (h : Passes handler state before calls state')
    (after : List Octets) :
    readLines handler state (before ++ after) = readLines handler state' after := by
  induction before generalizing state calls with
  | nil =>
    obtain rfl : [] = calls := Option.some.inj h.heard
    obtain rfl : state = state' := Option.some.inj h.goes_on
    rfl
  | cons line before ih =>
    rw [List.cons_append]
    rcases h.cons_cases with ⟨hblank, hpass⟩ | ⟨text, next, rest, htext, hnext, -, hpass⟩
    · rw [readLines_blank hblank, ih hpass]
    · rw [readLines_heard htext, hnext]
      exact ih hpass

/-- Lines behind those that are not passed do not matter. -/
theorem readLines_append_of_not_passes
    (h : ∀ calls state', ¬Passes handler state before calls state') (after : List Octets) :
    readLines handler state (before ++ after) = readLines handler state before := by
  obtain ⟨calls, final, outcome, -, -, hrun⟩ := exists_run handler state before []
  cases hrun with
  | ended passed => exact absurd passed (h _ _)
  | unreadable passed cut =>
    rw [List.append_assoc, readLines_append_of_passes passed, readLines_append_of_passes passed,
      List.cons_append, readLines_unreadable cut, readLines_unreadable cut]
  | stopped passed heard stops =>
    rw [List.append_assoc, readLines_append_of_passes passed, readLines_append_of_passes passed,
      List.cons_append, readLines_heard heard, readLines_heard heard, stops]
  | failed passed heard fails =>
    rw [List.append_assoc, readLines_append_of_passes passed, readLines_append_of_passes passed,
      List.cons_append, readLines_heard heard, readLines_heard heard, fails]

/-! ### Lines that are reached -/

/-- The handler comes to the line, in this state. -/
def Reaches (handler : σ → Text → Step σ ε) (state : σ) (lines : List Octets) (line : Octets)
    (reached : σ) : Prop :=
  ∃ before rest calls, lines = before ++ line :: rest ∧ Passes handler state before calls reached

theorem Reaches.readLines_eq {reached : σ} (h : Reaches handler state lines line reached) :
    ∃ rest, readLines handler state lines = readLines handler reached (line :: rest) := by
  obtain ⟨before, rest, calls, rfl, hpass⟩ := h
  exact ⟨rest, readLines_append_of_passes hpass _⟩

theorem readLines_eq_notText_iff : (readLines handler state lines).2 = .error .notText ↔
    ∃ line reached, Reaches handler state lines line reached ∧ line.text? = none := by
  constructor
  · intro h
    obtain ⟨calls, final, outcome, hread, -, hrun⟩ := exists_run handler state lines []
    rw [hread] at h
    cases hrun with
    | unreadable passed cut => exact ⟨_, _, ⟨_, _, _, rfl, passed⟩, cut⟩
    | ended | stopped | failed => simp at h
  · rintro ⟨line, reached, hreach, hnone⟩
    obtain ⟨rest, hread⟩ := hreach.readLines_eq
    rw [hread, readLines_unreadable hnone]

theorem readLines_eq_handler_iff {error : ε} :
    (readLines handler state lines).2 = .error (.handler error) ↔
      ∃ line reached text final, Reaches handler state lines line reached ∧
        heard? [line] = some [text] ∧ handler reached text = .fail final error := by
  constructor
  · intro h
    obtain ⟨calls, final, outcome, hread, -, hrun⟩ := exists_run handler state lines []
    rw [hread] at h
    cases hrun with
    | failed passed heard fails =>
      obtain rfl : _ = error := by simpa using h
      exact ⟨_, _, _, _, ⟨_, _, _, rfl, passed⟩, heard, fails⟩
    | ended | stopped | unreadable => simp at h
  · rintro ⟨line, reached, text, final, hreach, hheard, hfail⟩
    obtain ⟨rest, hread⟩ := hreach.readLines_eq
    rw [hread, readLines_heard hheard, hfail]

theorem readLines_eq_ok_iff : (readLines handler state lines).2 = .ok () ↔
    ∀ line reached, Reaches handler state lines line reached → line.text? ≠ none ∧
      ∀ text final error, heard? [line] = some [text] → handler reached text ≠ .fail final error := by
  constructor
  · intro h line reached hreach
    refine ⟨fun hnone => ?_, fun text final error hheard hfail => ?_⟩
    · rw [readLines_eq_notText_iff.mpr ⟨line, reached, hreach, hnone⟩] at h
      simp at h
    · rw [readLines_eq_handler_iff.mpr ⟨line, reached, text, final, hreach, hheard, hfail⟩] at h
      simp at h
  · intro h
    match hout : (readLines handler state lines).2 with
    | .ok () => rfl
    | .error .notText =>
      obtain ⟨line, reached, hreach, hnone⟩ := readLines_eq_notText_iff.mp hout
      exact absurd hnone (h line reached hreach).1
    | .error (.handler error) =>
      obtain ⟨line, reached, text, final, hreach, hheard, hfail⟩ := readLines_eq_handler_iff.mp hout
      exact absurd hfail ((h line reached hreach).2 text final error hheard)

/-! ### Blanks -/

/-- The second lines are the first ones with blanks around them, which may be carriage returns, and
with blank lines between them. -/
inductive PaddedLines : List Octets → List Octets → Prop
  /-- There are no more lines. -/
  | nil : PaddedLines [] []
  /-- A blank line, which may be empty. -/
  | blank {blanks lines lines'} (hblanks : ∀ c ∈ blanks, isBlank c = true)
    (hlines : PaddedLines lines lines') : PaddedLines lines (Text.octets blanks :: lines')
  /-- A line with blanks before and behind it. -/
  | line {lead line tail lines lines'} (hlead : ∀ c ∈ lead, isBlank c = true)
    (htail : ∀ c ∈ tail, isBlank c = true) (hlines : PaddedLines lines lines') :
    PaddedLines (line :: lines) ((Text.octets lead ++ (line ++ Text.octets tail)) :: lines')

/-- An empty line behind the others is a blank line. -/
theorem paddedLines_append_nil (lines : List Octets) : PaddedLines lines (lines ++ [[]]) := by
  have hnil : ∀ c ∈ ([] : Text), isBlank c = true := List.forall_mem_nil _
  induction lines with
  | nil => exact PaddedLines.blank hnil .nil
  | cons line lines ih => simpa [Text.octets] using PaddedLines.line hnil hnil ih

theorem heard?_octets_of_isBlank {blanks : Text} (h : ∀ c ∈ blanks, isBlank c = true) :
    heard? [Text.octets blanks] = some [] :=
  heard?_of_blank (Octets.text?_octets blanks) (trim_eq_nil_iff.mpr (List.all_eq_true.mpr h))

/-- Blanks around a line do not change whether it is text, and are not heard. -/
theorem padded_line {lead tail : Text} (hlead : ∀ c ∈ lead, isBlank c = true)
    (htail : ∀ c ∈ tail, isBlank c = true) (line : Octets) :
    (line.text? = none → (Text.octets lead ++ (line ++ Text.octets tail)).text? = none) ∧
      heard? [Text.octets lead ++ (line ++ Text.octets tail)] = heard? [line] := by
  have htext : (Text.octets lead ++ (line ++ Text.octets tail)).text? =
      line.text?.map fun s => lead ++ (s ++ tail) := by
    rw [Octets.text?_octets_append, Octets.text?_append_octets, Option.map_map]
    rfl
  refine ⟨fun hnone => by rw [htext, hnone, Option.map_none], ?_⟩
  cases hline : line.text? with
  | none => simp [heard?, htext, hline]
  | some s => simp [heard?, htext, hline, trim_append_append hlead htail]

/-- **Blanks make no difference** to a run. -/
theorem readLines_padded {lines lines' : List Octets} (h : PaddedLines lines lines')
    (handler : σ → Text → Step σ ε) (state : σ) :
    readLines handler state lines' = readLines handler state lines := by
  induction h generalizing state with
  | nil => rfl
  | blank hblanks _ ih => rw [readLines_blank (heard?_octets_of_isBlank hblanks), ih]
  | @line lead line tail _ _ hlead htail _ ih =>
    obtain ⟨hnone, hheard⟩ := padded_line hlead htail line
    rcases line_heard_cases line with hcut | hblank | ⟨text, htext⟩
    · rw [readLines_unreadable hcut, readLines_unreadable (hnone hcut)]
    · rw [readLines_blank hblank, readLines_blank (hheard.trans hblank), ih]
    · rw [readLines_heard htext, readLines_heard (hheard.trans htext)]
      cases handler state text with
      | next state' => exact ih state'
      | stop | fail => rfl

/-! ### Streams -/

/-- An empty piece behind the last line feed is not heard. -/
theorem readStream_eq (handler : σ → Text → Step σ ε) (state : σ) (stream : Octets) :
    readStream handler state stream = readLines handler state (stream.splitOn 0x0A) := by
  rw [readStream, ← Octets.pieces_eq_splitOn]
  rcases stream.pieces_eq_lines_or with h | h
  · rw [h]
  · rw [h, readLines_padded (paddedLines_append_nil _)]

/-- **A run is settled by the first line that does not let it go on.**  A handler is called with the
lines of a stream, without blanks at their ends and without the blank lines, up to the first one that
is no text, or at which it stops or fails; the run ends in one of the four ways.  It succeeds exactly
if the handler comes to no line that is no text and to none at which it fails, and otherwise fails for
that line.  Behind lines that are passed, a stream is read as if it stood alone; behind others, it
does not matter.  Neither do blanks around the lines, nor blank lines. -/
theorem readStream_settled_by_first_line (handler : σ → Text → Step σ ε) (state : σ)
    (stream : Octets) :
    (∃ calls final outcome, readStream handler state stream = (final, outcome) ∧
      readStream (recordingCalls handler) (state, []) stream = ((final, calls), outcome) ∧
      Run handler state (stream.splitOn 0x0A) calls final outcome) ∧
    ((readStream handler state stream).2 = .ok () ↔
      ∀ line reached, Reaches handler state (stream.splitOn 0x0A) line reached →
        line.text? ≠ none ∧ ∀ text final error, heard? [line] = some [text] →
          handler reached text ≠ .fail final error) ∧
    ((readStream handler state stream).2 = .error .notText ↔
      ∃ line reached, Reaches handler state (stream.splitOn 0x0A) line reached ∧
        line.text? = none) ∧
    (∀ error, (readStream handler state stream).2 = .error (.handler error) ↔
      ∃ line reached text final, Reaches handler state (stream.splitOn 0x0A) line reached ∧
        heard? [line] = some [text] ∧ handler reached text = .fail final error) ∧
    (∀ calls reached, Passes handler state (stream.splitOn 0x0A) calls reached →
      ∀ rest, readStream handler state (stream ++ 0x0A :: rest) = readStream handler reached rest) ∧
    ((∀ calls reached, ¬Passes handler state (stream.splitOn 0x0A) calls reached) →
      ∀ rest, readStream handler state (stream ++ 0x0A :: rest) = readStream handler state stream) ∧
    ∀ padded : Octets, PaddedLines (stream.splitOn 0x0A) (padded.splitOn 0x0A) →
      readStream handler state padded = readStream handler state stream := by
  have hpieces (rest : Octets) : (stream ++ 0x0A :: rest).splitOn 0x0A =
      stream.splitOn 0x0A ++ rest.splitOn 0x0A :=
    List.splitOnP_append_cons stream rest (by simp)
  simp only [readStream_eq, hpieces]
  refine ⟨?_, readLines_eq_ok_iff, readLines_eq_notText_iff, fun _ => readLines_eq_handler_iff,
    fun _ _ h rest => readLines_append_of_passes h _, fun h rest =>
    readLines_append_of_not_passes h _, fun padded h => readLines_padded h handler state⟩
  simpa using exists_run handler state (stream.splitOn 0x0A) []

/-- A handler that counts its calls, stops at `stop` and fails at `boom`. -/
def countUntilStop : ℕ → Text → Step ℕ Unit := fun count text =>
  if text = "stop".toList then .stop (count + 1)
  else if text = "boom".toList then .fail (count + 1) ()
  else .next (count + 1)

/-- The lines `a`, nothing, ` b`, which ends with a carriage return, and `stop`. -/
def linesUntilStop : Octets := [0x61, 0x0A, 0x0A, 0x20, 0x62, 0x0D, 0x0A, 0x73, 0x74, 0x6F, 0x70]

/-- Octets that are no text do not matter behind the line at which the handler stops. -/
theorem readStream_settled_by_first_line_stop :
    (∀ calls reached, ¬Passes countUntilStop 0 (linesUntilStop.splitOn 0x0A) calls reached) ∧
      readStream countUntilStop 0 (linesUntilStop ++ 0x0A :: [0xFF]) = (3, .ok ()) := by
  have hheard : heard? (linesUntilStop.splitOn 0x0A) =
      some [['a'], ['b'], ['s', 't', 'o', 'p']] := by decide +kernel
  have hstop : goOn? countUntilStop 0 [['a'], ['b'], ['s', 't', 'o', 'p']] = none := by
    decide +kernel
  have hpass (calls : List Text) (reached : ℕ) :
      ¬Passes countUntilStop 0 (linesUntilStop.splitOn 0x0A) calls reached := by
    rintro ⟨hcalls, hgo⟩
    obtain rfl := Option.some.inj (hheard.symm.trans hcalls)
    rw [hstop] at hgo
    simp at hgo
  refine ⟨hpass, ?_⟩
  rw [(readStream_settled_by_first_line countUntilStop 0 _).2.2.2.2.2.1 hpass]
  decide +kernel

end

end MergeMessage
