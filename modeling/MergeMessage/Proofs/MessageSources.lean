import Mathlib.Logic.Relation
import MergeMessage.Proofs.KeptVerdicts
import MergeMessage.Proofs.LineVerdicts

/-!
# Where a message comes from

A message is linted as an argument, from the standard input or from a file, and in a file there may
be comments between its lines.  A line with a number sign that is put where a line starts makes no
difference to what the linter reads, so any number of them makes none.  What it reads without them
has other line ends at most at its end, and these are trimmed.  So all sources lead to one verdict.

## Main definitions

* `InsertsComment`, `Commented` — one comment more between the lines of a text, and any number.
* `Supplies` — a source of a message has it, in a file among comments.

## Main results

* `withoutComments_of_insertsComment`, `withoutComments_of_commented` — comments are not read.
* `trim_join_lines` — a text is its lines, up to a line feed at its end.
* `lint_same_from_every_source` — what a run says of a message, wherever it comes from.
-/

namespace MergeMessage

open Text Terminal

/-! ### Comments between lines -/

/-- The place behind this text is where a line starts. -/
def EndsLine (before : Text) : Prop := before = [] ∨ before.getLast? = some '\n'

/-- The second text is the first one with a line more, which has a number sign at its start and a
line feed at its end, and was put where a line starts. -/
def InsertsComment (s t : Text) : Prop :=
  ∃ before after note, EndsLine before ∧ '\n' ∉ note ∧ s = before ++ after ∧
    t = before ++ ('#' :: note ++ '\n' :: after)

/-- The second text is the first one with any number of such lines more. -/
def Commented : (message file : Text) → Prop := Relation.ReflTransGen InsertsComment

/-- Where a line starts, the lines before are apart from those behind. -/
theorem lines_append_of_endsLine {before : Text} (h : EndsLine before) (s : Text) :
    lines (before ++ s) = lines before ++ lines s := by
  rcases h with rfl | hlast
  · simp
  · obtain ⟨front, rfl⟩ := List.getLast?_eq_some_iff.mp hlast
    clear hlast
    induction front using pieces_induction '\n' with
    | last line hline =>
      rw [List.append_assoc, List.singleton_append, lines_append_newline hline,
        lines_append_newline hline, lines_nil, List.singleton_append]
    | cut line rest hline ih =>
      rw [List.append_assoc, List.append_assoc, List.cons_append, lines_append_newline hline,
        ← List.append_assoc, ih, List.append_assoc, List.cons_append, lines_append_newline hline,
        List.cons_append]

/-- **One comment more is not read.** -/
theorem withoutComments_of_insertsComment {s t : Text} (h : InsertsComment s t) :
    withoutComments t = withoutComments s := by
  obtain ⟨before, after, note, hbefore, hnote, rfl, rfl⟩ := h
  have hcomment : '\n' ∉ '#' :: note := by simpa using hnote
  have hsign : (dropReturn ('#' :: note)).startsWith ['#'] = true := startsWith_dropReturn _
  rw [withoutComments, withoutComments, lines_append_of_endsLine hbefore,
    lines_append_of_endsLine hbefore, lines_append_newline hcomment, List.filter_append,
    List.filter_append, List.filter_cons_of_neg (by simp [hsign])]

/-- Comments are not read. -/
theorem withoutComments_of_commented {message file : Text} (h : Commented message file) :
    withoutComments file = withoutComments message := by
  induction h with
  | refl => rfl
  | tail _ hstep ih => rw [withoutComments_of_insertsComment hstep, ih]

/-! ### The lines of a text -/

/-- A text is its lines with line feeds between them, and maybe one more. -/
theorem join_lines_append {s : Text} (h : '\r' ∉ s) :
    s = join ['\n'] (lines s) ∨ s = join ['\n'] (lines s) ++ ['\n'] := by
  -- a break at the end of the text is the one that `lines` does not give back
  induction s using pieces_induction '\n' with
  | last s hs =>
    rw [lines_of_notMem hs]
    cases s <;> simp [join]
  | cut line s hline ih =>
    rw [List.mem_append, List.mem_cons, not_or, not_or] at h
    rw [lines_append_newline hline, dropReturn_of_notMem h.1]
    by_cases hnil : s = []
    · subst hnil
      exact Or.inr (by simp [join])
    · rw [join_cons (mt lines_eq_nil_iff.mp hnil)]
      refine (ih h.2.2).imp (fun heq => ?_) fun heq => ?_
      · conv_lhs => rw [heq]
        rfl
      · conv_lhs => rw [heq]
        simp

/-- Trimming takes the line feed at the end away. -/
theorem trim_join_lines {s : Text} (h : '\r' ∉ s) : trim (join ['\n'] (lines s)) = trim s := by
  rcases join_lines_append h with heq | heq
  · rw [← heq]
  · conv_rhs => rw [heq, trim_append_blank (by decide)]

/-- A text without comments is read as it is, but for a line feed at its end. -/
theorem trim_withoutComments {message : Text} (hreturn : '\r' ∉ message)
    (hcomments : ∀ line ∈ lines message, line.startsWith ['#'] = false) :
    trim (withoutComments message) = trim message := by
  have hkept : (lines message).filter (fun line => !line.startsWith ['#']) = lines message :=
    List.filter_eq_self.mpr fun line hline => by rw [hcomments line hline]; rfl
  rw [withoutComments, hkept, trim_join_lines hreturn]

/-! ### Runs -/

/-- A run is given this message, as far as it has found anything at the source of its message: as an
argument, on the standard input, or in a file, where comments may stand between its lines. -/
def Supplies (said : List WorldEvent) (message : Text) : MessageSource → Prop
  | .argument given => given = message
  | .file path => ∃ file, Commented message file ∧
      ∀ content, .read path content ∈ said → content = .octets (Text.octets file)
  | .input => ∀ data, .took data ∈ said → data = Text.octets message

/-- What is found, comments left out, is the message that is given up to a line feed at its end. -/
theorem Supplies.exists_finds {said : List WorldEvent} {message : Text} {source : MessageSource}
    (h : Supplies said message source) (hreturn : '\r' ∉ message)
    (hcomments : ∀ line ∈ lines message, line.startsWith ['#'] = false) :
    ∃ found, Finds said found source ∧ trim found = trim message := by
  cases source with
  | argument given => exact ⟨message, h, rfl⟩
  | input => exact ⟨message, h, rfl⟩
  | file path =>
    obtain ⟨file, hfile, hread⟩ := h
    refine ⟨withoutComments message, fun content hmem => ?_, trim_withoutComments hreturn hcomments⟩
    exact ⟨file, hread content hmem, withoutComments_of_commented hfile⟩

theorem supplies_input {said : List WorldEvent} {message : Text}
    (h : said.filterMap WorldEvent.took? = [Text.octets message]) : Supplies said message .input := by
  intro data hmem
  have hfound : data ∈ said.filterMap WorldEvent.took? := List.mem_filterMap.mpr ⟨_, hmem, rfl⟩
  rwa [h, List.mem_singleton] at hfound

theorem supplies_file {said : List WorldEvent} {message file path : Text}
    (hfile : Commented message file)
    (h : said.filterMap WorldEvent.read? = [(path, .octets (Text.octets file))]) :
    Supplies said message (.file path) := by
  refine ⟨file, hfile, fun content hmem => ?_⟩
  have hfound : (path, content) ∈ said.filterMap WorldEvent.read? :=
    List.mem_filterMap.mpr ⟨_, hmem, rfl⟩
  rw [h, List.mem_singleton] at hfound
  exact (Prod.mk.inj hfound).2

variable {m : Type → Type} [Monad m] [LawfulMonad m]

/-- **What a run says of a message, wherever it comes from.**  A message without carriage returns and
without lines that start with a number sign leads to one verdict, given as an argument, on the
standard input or in a file with any number of comments.  The run fails exactly if the verdict is an
error. -/
theorem lint_same_from_every_source {message : Text} (hreturn : '\r' ∉ message)
    (hcomments : ∀ line ∈ lines message, line.startsWith ['#'] = false) (title : Option Text)
    (world : World m) {words : List Text} {source : MessageSource}
    (h : AsksToLint world.environment words source title) :
    Records (fun said status => Supplies said message source →
        LintsAs world.environment (Commit.lint message title) said status ∧
        (status ≠ 0 ↔ (Commit.lint message title).severity = .error))
      (run world.recorded words) := by
  refine records_imp ?_ (records_run_lint_found world h)
  intro said status hlints hsupplies
  obtain ⟨found, hfound, htrim⟩ := hsupplies.exists_finds hreturn hcomments
  have hsaid := hlints found hfound
  rw [Commit.lint_of_trim htrim] at hsaid
  refine ⟨hsaid, ?_⟩
  rw [hsaid.blocks, Commit.severity_eq_error_iff]
  cases (Commit.lint message title).blocksMerge <;> simp

/-- A message with the ticket of a neighbour in its body. -/
def neighbourMessage : Text := "feat: add x\n\nRefs ECHO-12\n".toList

/-- A file with this message among comments. -/
def commentedFile : Text := "# Lines like this one\nfeat: add x\n#\n\nRefs ECHO-12\n# are left out\n".toList

/-- The file has three comments more than the message. -/
theorem commented_neighbourMessage : Commented neighbourMessage commentedFile := by
  have hfirst : InsertsComment neighbourMessage
      "# Lines like this one\nfeat: add x\n\nRefs ECHO-12\n".toList :=
    ⟨[], neighbourMessage, " Lines like this one".toList, Or.inl rfl, by decide, by decide,
      by decide⟩
  have hmiddle : InsertsComment "# Lines like this one\nfeat: add x\n\nRefs ECHO-12\n".toList
      "# Lines like this one\nfeat: add x\n#\n\nRefs ECHO-12\n".toList :=
    ⟨"# Lines like this one\nfeat: add x\n".toList, "\nRefs ECHO-12\n".toList, [],
      Or.inr (by decide), by decide, by decide, by decide⟩
  have hlast : InsertsComment "# Lines like this one\nfeat: add x\n#\n\nRefs ECHO-12\n".toList
      commentedFile :=
    ⟨"# Lines like this one\nfeat: add x\n#\n\nRefs ECHO-12\n".toList, [], " are left out".toList,
      Or.inr (by decide), by decide, by decide, by decide⟩
  exact ((Relation.ReflTransGen.single hfirst).tail hmiddle).tail hlast

/-- A world where the message is on the standard input and among comments in every file. -/
def supplyingWorld : World (StateM Nat) where
  __ := quietWorld
  fileAt _ := pure (.octets (Text.octets commentedFile))
  input := pure (Text.octets neighbourMessage)

/-- The status and the record of a run in this world. -/
def suppliedRun (words : List Text) : ℕ × List WorldEvent :=
  (((run supplyingWorld.recorded words).run []).run 0).1

/-- The words that ask for a verdict for the title of a pull request. -/
def lintWords (more : List Text) : List Text :=
  ["lint", "--title", "ECHO-1 Add x"].map String.toList ++ more

/-- The ticket of the title is missing, wherever the message comes from. -/
theorem neighbour_lints_same_from_every_source :
    '\r' ∉ neighbourMessage ∧
    (∀ line ∈ lines neighbourMessage, line.startsWith ['#'] = false) ∧
    Commented neighbourMessage commentedFile ∧
    ∀ more ∈ [[neighbourMessage], [], ["--file".toList, "msg.txt".toList]],
      LintsAs (fun _ => none) (some (.contextTicketMissing "ECHO-1".toList))
          (suppliedRun (lintWords more)).2 (suppliedRun (lintWords more)).1 ∧
        ((suppliedRun (lintWords more)).1 ≠ 0 ↔
          Commit.Verdict.severity (some (.contextTicketMissing "ECHO-1".toList)) = .error) := by
  have hreturn : '\r' ∉ neighbourMessage := by decide
  have hcomments : ∀ line ∈ lines neighbourMessage, line.startsWith ['#'] = false := by decide
  have hverdict : Commit.lint neighbourMessage (some "ECHO-1 Add x".toList) =
      some (.contextTicketMissing "ECHO-1".toList) := by decide +kernel
  have hlints {more : List Text} (source : MessageSource)
      (hasks : AsksToLint (fun _ => none) (lintWords more) source (some "ECHO-1 Add x".toList))
      (hsupplies : Supplies (suppliedRun (lintWords more)).2 neighbourMessage source) :
      LintsAs (fun _ => none) (some (.contextTicketMissing "ECHO-1".toList))
          (suppliedRun (lintWords more)).2 (suppliedRun (lintWords more)).1 ∧
        ((suppliedRun (lintWords more)).1 ≠ 0 ↔
          Commit.Verdict.severity (some (.contextTicketMissing "ECHO-1".toList)) = .error) := by
    obtain ⟨said, hsaid, hsame⟩ :
        ∃ said, (suppliedRun (lintWords more)).2 = [] ++ said ∧ _ :=
      alwaysReturns_state_iff.mp (lint_same_from_every_source hreturn hcomments _ supplyingWorld
        hasks []) 0
    rw [List.nil_append] at hsaid
    rw [hverdict, ← hsaid] at hsame
    exact hsame hsupplies
  refine ⟨hreturn, hcomments, commented_neighbourMessage, ?_⟩
  rw [List.forall_mem_cons, List.forall_mem_cons, List.forall_mem_singleton]
  exact ⟨hlints (.argument neighbourMessage) ⟨_, rfl, rfl⟩ rfl,
    hlints .input ⟨_, rfl, rfl⟩ (supplies_input (by decide +kernel)),
    hlints (.file "msg.txt".toList) ⟨_, rfl, rfl⟩
      (supplies_file commented_neighbourMessage (by decide +kernel))⟩

end MergeMessage
