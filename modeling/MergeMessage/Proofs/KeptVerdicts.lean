import MergeMessage.Proofs.KeptMessages
import MergeMessage.Proofs.LineEnds
import MergeMessage.Proofs.Octets

/-!
# Verdicts on kept messages

A message that is shown with a verdict may be linted once more when it has been kept for the next
commit.  The file holds the message and a line feed, and the linter cuts it into lines and leaves
out those that git takes for comments.  What it says is the verdict on the message without such
lines: the verdict that was shown, if there are none, and maybe another one if there are.

## Main definitions

* `withoutCommentLines` — a message without the lines that start with a number sign.
* `AsksToLint`, `Finds`, `LintsAs` — what the words of a command line ask for, the message that a run
  finds then, and what it says.

## Main results

* `lint_withoutComments` — the verdict on what the linter reads in a file.
* `records_run_lint_found`, `records_run_lint` — what a run does that lints a message, and a file.
* `kept_message_lints_without_comments` — the verdict on a message that was kept.
-/

namespace MergeMessage

open Text Terminal

/-! ### Lines without comments -/

/-- The message without the lines that start with a number sign. -/
def withoutCommentLines (message : Text) : Text :=
  join ['\n'] ((pieces '\n' message).filter fun line => !line.startsWith ['#'])

theorem withoutCommentLines_eq_self {message : Text}
    (h : ∀ line ∈ pieces '\n' message, line.startsWith ['#'] = false) :
    withoutCommentLines message = message := by
  rw [withoutCommentLines, List.filter_eq_self.mpr (by simpa using h), join_pieces]

theorem startsWith_dropReturn (line : Text) :
    (dropReturn line).startsWith ['#'] = line.startsWith ['#'] := by
  rcases dropReturn_append line with heq | heq
  · rw [← heq]
  · conv_rhs => rw [heq]
    cases dropReturn line <;> rfl

theorem join_map_dropReturn {words : List Text} (h : ∀ w ∈ words, '\n' ∉ w) :
    join ['\n'] (words.map dropReturn) ++ ['\n'] =
      withoutReturns (join ['\n'] words ++ ['\n']) := by
  induction words with
  | nil => rfl
  | cons w words ih =>
    rw [List.forall_mem_cons] at h
    by_cases hnil : words = []
    · subst hnil
      simpa [join] using (withoutReturns_append_newline h.1 []).symm
    · rw [List.map_cons, join_cons (by simpa using hnil), join_cons hnil, List.append_assoc,
        List.append_assoc, ih h.2, List.append_assoc, List.append_assoc]
      exact (withoutReturns_append_newline h.1 _).symm

/-- **What the linter reads in a file with a message and a line feed** is the message without
comments, with other line ends. -/
theorem withoutComments_append_newline (message : Text) :
    withoutComments (message ++ ['\n']) ++ ['\n'] =
      withoutReturns (withoutCommentLines message ++ ['\n']) := by
  have hfilter : (fun line : Text => !line.startsWith ['#']) ∘ dropReturn =
      fun line => !line.startsWith ['#'] := by
    funext line
    exact congrArg (!·) (startsWith_dropReturn line)
  rw [withoutComments, lines_append_newline_nil, List.filter_map, hfilter, withoutCommentLines]
  exact join_map_dropReturn fun w hw => newline_notMem_of_mem_pieces (List.mem_filter.mp hw).1

namespace Commit

/-- Blank characters at the ends make no difference to a verdict. -/
theorem lint_of_trim {message other : Text} (h : trim other = trim message)
    (title : Option Text) : lint other title = lint message title := by
  simp only [lint, Draft.ofMessage, h]

/-- A line feed at the end is trimmed away. -/
theorem lint_append_newline (message : Text) (title : Option Text) :
    lint (message ++ ['\n']) title = lint message title :=
  lint_of_trim (trim_append_blank (by decide) message) title

/-- **The verdict on what the linter reads in a file with a message.** -/
theorem lint_withoutComments {message : Text}
    (h : HasPlainEnd (firstLine (withoutCommentLines message).trim)) (title : Option Text) :
    lint (withoutComments (message ++ ['\n'])) title =
      lint (withoutCommentLines message) title := by
  have htrim : trim (withoutCommentLines message ++ ['\n']) = trim (withoutCommentLines message) :=
    trim_append_blank (by decide) _
  rw [← lint_append_newline, withoutComments_append_newline, lint_withoutReturns (htrim ▸ h),
    lint_append_newline]

end Commit

/-! ### Runs of the linter -/

/-- The words ask for a verdict on this message and title. -/
def AsksToLint (environment : Environment) (words : List Text) (source : MessageSource)
    (title : Option Text) : Prop :=
  ∃ line, CommandLine.parse environment words = .ok line ∧ line.command = .lint source title

/-- What a run says and returns with this verdict. -/
structure LintsAs (environment : Environment) (verdict : Commit.Verdict) (said : List WorldEvent)
    (status : ℕ) : Prop where
  /-- The verdict is all that is printed. -/
  shows : said.filterMap WorldEvent.printed? = [verdictText (isColoured environment) verdict]
  /-- The run fails if the verdict blocks the merge. -/
  blocks : status = if verdict.blocksMerge then 1 else 0

variable {m n : Type → Type} [Monad m] [Monad n] [LawfulMonad m] [LawfulMonad n]

theorem printed?_complaints {said : List WorldEvent}
    (h : ∀ e ∈ said, ∃ text, e = .complained text) :
    said.filterMap WorldEvent.printed? = [] :=
  printed?_preparation fun e he => isPreparation_of_complaint e (h e he)

/-- A file with the octets of a text has that text. -/
theorem FileContent.text_octets (s : Text) :
    (FileContent.octets (Text.octets s)).text = .ok s := by
  rw [FileContent.text, Octets.text?_octets]

/-- A run has this message to lint, as far as it has found anything at the source of its message: an
argument is the message itself, the standard input holds it, and a file holds it once comments are
left out. -/
def Finds (said : List WorldEvent) (message : Text) : MessageSource → Prop
  | .argument given => given = message
  | .file path => ∀ content, .read path content ∈ said →
      ∃ text, content = .octets (Text.octets text) ∧ withoutComments text = message
  | .input => ∀ data, .took data ∈ said → data = Text.octets message

theorem Finds.of_subset {said all : List WorldEvent} {message : Text} {source : MessageSource}
    (h : Finds all message source) (hsubset : said ⊆ all) : Finds said message source := by
  cases source with
  | argument given => exact h
  | file path => exact fun content hmem => h content (hsubset hmem)
  | input => exact fun data hmem => h data (hsubset hmem)

/-- What is read is the message that is found, and nothing is printed meanwhile. -/
theorem records_readMessage (world : World m) (source : MessageSource) :
    Records (fun said read => said.filterMap WorldEvent.printed? = [] ∧
        ∀ message, Finds said message source → read = .ok message)
      (readMessage world.recorded source) := by
  unfold readMessage
  -- only the file and the input are read, and each of them once
  cases source with
  | argument given => exact records_pure ⟨rfl, fun message hfound => congrArg Except.ok hfound⟩
  | file path =>
    refine records_bind (records_recorded _ (alwaysReturns_true _)) ?_
    rintro said content ⟨rfl, -⟩
    have hread {message : Text} (hfound : Finds ([.read path content] ++ []) message (.file path)) :
        ∃ text, content.text = .ok text ∧ withoutComments text = message := by
      obtain ⟨text, rfl, hmessage⟩ := hfound content (by simp)
      exact ⟨text, FileContent.text_octets text, hmessage⟩
    split
    · next s hs =>
      refine records_pure ⟨rfl, fun message hfound => ?_⟩
      obtain ⟨text, htext, rfl⟩ := hread hfound
      rw [Except.ok.inj (hs.symm.trans htext)]
    · next reason hreason =>
      refine records_pure ⟨rfl, fun message hfound => ?_⟩
      obtain ⟨text, htext, -⟩ := hread hfound
      cases hreason.symm.trans htext
  | input =>
    refine records_bind (records_recorded _ (alwaysReturns_true _)) ?_
    rintro said data ⟨rfl, -⟩
    have hread {message : Text} (hfound : Finds ([.took data] ++ []) message .input) :
        (FileContent.octets data).text = .ok message := by
      rw [hfound data (by simp), FileContent.text_octets]
    split
    · next s hs =>
      refine records_pure ⟨rfl, fun message hfound => ?_⟩
      rw [Except.ok.inj (hs.symm.trans (hread hfound))]
    · next reason hreason =>
      exact records_pure ⟨rfl, fun message hfound => nomatch hreason.symm.trans (hread hfound)⟩

/-- What the linter says of the message that it finds. -/
theorem records_lintCommand {note : Reporter (StateT (List WorldEvent) m)}
    (hnote : ∀ entry, RecordsOnly (fun e => ∃ text, e = .complained text) (note entry))
    (world : World m) {line : CommandLine} {source : MessageSource} {title : Option Text}
    (h : line.command = .lint source title) :
    Records (fun said outcome => ∀ message, Finds said message source →
        said.filterMap WorldEvent.printed? =
          [verdictText (isColoured world.environment) (Commit.lint message title)] ∧
        outcome = .ok (!(Commit.lint message title).blocksMerge))
      (runCommand world.recorded note line) := by
  unfold runCommand
  rw [h]
  unfold runLint
  refine records_bind (records_readMessage world source) ?_
  rintro made read ⟨hsilent, hread⟩
  -- a message that was found cannot have failed to be read
  cases read with
  | error failure =>
    exact records_pure fun message hfound => nomatch hread message (hfound.of_subset (by simp))
  | ok read =>
    refine records_bind (hnote _) ?_
    rintro notes ⟨⟩ hnotes
    refine records_bind (records_printed world _) ?_
    rintro printed ⟨⟩ rfl
    refine records_pure fun message hfound => ?_
    obtain rfl := Except.ok.inj (hread message (hfound.of_subset (by simp)))
    refine ⟨?_, rfl⟩
    simp only [List.filterMap_append, hsilent, printed?_complaints hnotes]
    rfl

/-- **What a run does that lints a message.**  The verdict on the message that it finds is printed,
and it decides how the run ends. -/
theorem records_run_lint_found (world : World m) {words : List Text} {source : MessageSource}
    {title : Option Text} (h : AsksToLint world.environment words source title) :
    Records (fun said status => ∀ message, Finds said message source →
        LintsAs world.environment (Commit.lint message title) said status)
      (run world.recorded words) := by
  obtain ⟨line, hparse, hcommand⟩ := h
  refine records_imp ?_ (records_run world hparse fun note hnote =>
    records_lintCommand hnote world hcommand)
  rintro said status ⟨outcome, before, core, after, rfl, hcomplaints, hcore, hstatus⟩
  intro message hfound
  rw [List.forall_mem_append] at hcomplaints
  obtain ⟨hprinted, rfl⟩ := hcore message (hfound.of_subset (by simp))
  refine ⟨?_, ?_⟩
  · rw [List.filterMap_append, List.filterMap_append, printed?_complaints hcomplaints.1,
      printed?_complaints hcomplaints.2, hprinted, List.append_nil, List.nil_append]
  · cases hblocks : (Commit.lint message title).blocksMerge with
    | false => simpa [hblocks] using hstatus
    | true => simpa [hblocks] using hstatus

/-- If a file has a text, its lines without comments are the message. -/
theorem records_run_lint (world : World m) {words : List Text} {path : Text} {title : Option Text}
    (h : AsksToLint world.environment words (.file path) title) :
    Records (fun said status => ∀ files text, Shows files said →
        files path = .octets (Text.octets text) →
        LintsAs world.environment (Commit.lint (withoutComments text) title) said status)
      (run world.recorded words) := by
  refine records_imp ?_ (records_run_lint_found world h)
  intro said status hlints files text hshows hfile
  exact hlints _ fun content hmem => ⟨text, (hshows path content hmem).trans hfile, rfl⟩

/-! ### A message that was kept -/

/-- **What the linter says of a message that was kept.**  A run that keeps a message and succeeds
has shown the verdict for a title, which is the one given with the options if there is one.  Any
later run, in any world, that lints a file with what was kept there, for the same title, says the
verdict on the message without the lines that start with a number sign, provided that no carriage
return is taken for a part of its first line.  If there are no such lines, this is the verdict that
was shown. -/
theorem kept_message_lints_without_comments (world : World m) {words : List Text}
    {options : GenerateOptions} (h : AsksToGenerate world.environment words options)
    (happly : options.apply = true) (later : World n) :
    Records (fun made status => status = 0 → ∃ title message directory,
        (∀ given ∈ options.title, given = title) ∧
        KeepsMessage world.environment title message directory made ∧
        ((∀ line ∈ pieces '\n' message, line.startsWith ['#'] = false) →
          withoutCommentLines message = message) ∧
        (Commit.HasPlainEnd (Commit.firstLine (withoutCommentLines message).trim) →
          ∀ question path, AsksToLint later.environment question (.file path) (some title) →
            Records (fun said answer => ∀ files found, Shows found said →
                found path = filesAfter files made (Repository.messagePath directory.trim) →
                LintsAs later.environment
                  (Commit.lint (withoutCommentLines message) (some title)) said answer)
              (run later.recorded question)))
      (run world.recorded words) := by
  refine records_imp ?_ (records_run_generate world h)
  rintro made status ⟨outcome, before, core, after, rfl, hcomplaints, hcore, hstatus⟩ hzero
  rw [List.forall_mem_append] at hcomplaints
  obtain rfl : outcome = .ok true := by
    rcases hstatus with ⟨ho, -⟩ | ⟨-, hs⟩
    · exact ho
    · rw [hzero] at hs
      cases hs
  obtain ⟨title, message, directory, htitle, hkeeps⟩ := hcore.completes.keepsMessage
    (fun e he => isPreparation_of_complaint e (hcomplaints.1 e he))
    (fun e he => isPreparation_of_complaint e (hcomplaints.2 e he)) happly
  refine ⟨title, message, directory, htitle, hkeeps, withoutCommentLines_eq_self, ?_⟩
  intro hplain question path hasks
  refine records_imp ?_ (records_run_lint later hasks)
  intro said answer hsaid files found hshows hfound
  -- the file still holds the message and its line feed
  rw [hkeeps.stores, Function.update_self] at hfound
  rw [← Commit.lint_withoutComments hplain]
  exact hsaid found _ hshows hfound

/-- A world with files, a repository, and a daemon that answers with this text in JSON. -/
def fileWorld (reply : String) : World (StateM Files) where
  environment := fun _ => none
  home := none
  fileAt path := do return (← get) path
  input := pure []
  askGit
    | .branch => pure (.ok "main\n".toList)
    | .directory => pure (.ok ".git\n".toList)
  network request := pure (some (answeringHost reply.toList request))
  store path content := do
    modify fun files => Function.update files path (.octets (Text.octets content))
    return .ok ()
  print _ := pure ()
  complain _ := pure ()

/-- The status and the record of a run that keeps a message, and the files after it. -/
def keptRun (reply title : String) : (ℕ × List WorldEvent) × Files :=
  ((run (fileWorld reply).recorded
    (["generate", "--apply", "--title", title].map String.toList)).run []).run fun _ => .missing

/-- The status and the record of a run that lints the message that was kept. -/
def lintedRun (reply title : String) : ℕ × List WorldEvent :=
  (((run (fileWorld reply).recorded (["lint", "--file", ".git/COMMIT_EDITMSG", "--title",
    title].map String.toList)).run []).run (keptRun reply title).2).1

/-- A heading above the subject is shown to be an error, and then the linter does not see it. -/
theorem heading_lints_unlike_shown :
    (keptRun "# Notes\\nfeat: add x" "Add x").1.1 = 0 ∧
    (keptRun "# Notes\\nfeat: add x" "Add x").1.2.filterMap WorldEvent.printed? =
      [previewText "# Notes\nfeat: add x".toList,
        "error: Try: type(scope): description or type: description\n".toList,
        "Wrote message to .git/COMMIT_EDITMSG\n".toList] ∧
    (lintedRun "# Notes\\nfeat: add x" "Add x").1 = 0 ∧
    (lintedRun "# Notes\\nfeat: add x" "Add x").2.filterMap WorldEvent.printed? =
      ["✔ Looks good.\n".toList] ∧
    Commit.lint "# Notes\nfeat: add x".toList (some "Add x".toList) ≠
      Commit.lint (withoutComments "# Notes\nfeat: add x\n".toList) (some "Add x".toList) := by
  decide +kernel

/-- A reply with a ticket on a line that git takes for a comment. -/
def commentedReply : String := "feat: add x\\r\\n\\r\\n# Refs ECHO-1"

/-- The message in it. -/
def commentedMessage : Text := "feat: add x\r\n\r\n# Refs ECHO-1".toList

/-- A ticket that is mentioned in a comment only is missing for the linter. -/
theorem commented_ticket_lints_as_missing :
    (keptRun commentedReply "ECHO-1 Add x").1.1 = 0 ∧
    Commit.HasPlainEnd (Commit.firstLine (withoutCommentLines commentedMessage).trim) ∧
    Commit.lint (withoutCommentLines commentedMessage) (some "ECHO-1 Add x".toList) =
      some (.contextTicketMissing "ECHO-1".toList) ∧
    LintsAs (fun _ => none) (some (.contextTicketMissing "ECHO-1".toList))
      (lintedRun commentedReply "ECHO-1 Add x").2 (lintedRun commentedReply "ECHO-1 Add x").1 := by
  -- what the two runs record is computed; the verdict follows from the theorem
  obtain ⟨hzero, hshown, hasked⟩ : (keptRun commentedReply "ECHO-1 Add x").1.1 = 0 ∧
      ((keptRun commentedReply "ECHO-1 Add x").1.2.filterMap WorldEvent.printed?).head? =
        some (previewText commentedMessage) ∧
      ((keptRun commentedReply "ECHO-1 Add x").1.2.filterMap WorldEvent.directory?).map
        Except.toOption = [some ".git\n".toList] := by decide +kernel
  have hlast : (Commit.firstLine (withoutCommentLines commentedMessage).trim).getLast? =
      some 'x' := by decide +kernel
  have hplain : Commit.HasPlainEnd (Commit.firstLine (withoutCommentLines commentedMessage).trim) :=
    ⟨by decide +kernel, fun subject h => by simp [h] at hlast⟩
  have hmissing : Commit.lint (withoutCommentLines commentedMessage) (some "ECHO-1 Add x".toList) =
      some (.contextTicketMissing "ECHO-1".toList) := by decide +kernel
  have hread : (lintedRun commentedReply "ECHO-1 Add x").2.filterMap WorldEvent.read? =
      [(".git/COMMIT_EDITMSG".toList, .octets (Text.octets (commentedMessage ++ ['\n'])))] := by
    decide +kernel
  refine ⟨hzero, hplain, hmissing, ?_⟩
  -- the first run keeps the message that it has shown
  have hkept := kept_message_lints_without_comments (fileWorld commentedReply)
    (show AsksToGenerate (fileWorld commentedReply).environment
      (["generate", "--apply", "--title", "ECHO-1 Add x"].map String.toList) _ from ⟨_, rfl, rfl⟩)
    rfl (fileWorld commentedReply)
  obtain ⟨made, hmade, hkept⟩ :
      ∃ made, (keptRun commentedReply "ECHO-1 Add x").1.2 = [] ++ made ∧ _ :=
    alwaysReturns_state_iff.mp (hkept []) fun _ => .missing
  obtain ⟨title, message, directory, htitle, hkeeps, -, hlints⟩ := hkept hzero
  obtain rfl : "ECHO-1 Add x".toList = title := htitle _ rfl
  rw [hmade, List.nil_append, hkeeps.shows] at hshown
  rw [hmade, List.nil_append, hkeeps.asks] at hasked
  obtain rfl : message = commentedMessage :=
    List.append_cancel_left (List.append_cancel_right (Option.some.inj hshown))
  obtain rfl : directory = ".git\n".toList := Option.some.inj (List.cons.inj hasked).1
  -- the second run reads it back from the files that the first one leaves
  have hlinted := hlints hplain
    (["lint", "--file", ".git/COMMIT_EDITMSG", "--title", "ECHO-1 Add x"].map String.toList)
    ".git/COMMIT_EDITMSG".toList ⟨_, rfl, rfl⟩
  obtain ⟨said, hsaid, hverdict⟩ :
      ∃ said, (lintedRun commentedReply "ECHO-1 Add x").2 = [] ++ said ∧ _ :=
    alwaysReturns_state_iff.mp (hlinted []) (keptRun commentedReply "ECHO-1 Add x").2
  rw [← hmissing, hsaid]
  rw [hsaid] at hread
  have hpath : Repository.messagePath (trim ".git\n".toList) = ".git/COMMIT_EDITMSG".toList := by
    decide
  have hshows : Shows (filesAfter (fun _ => .missing) made) said := by
    rw [shows_iff, ← List.nil_append said, hread, hkeeps.stores, List.forall_mem_singleton, hpath,
      Function.update_self]
  exact hverdict (fun _ => .missing) _ hshows rfl

end MergeMessage
