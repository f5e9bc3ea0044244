import Mathlib.Logic.Function.Basic
import MergeMessage.Proofs.Lockstep

/-!
# Recorded worlds

Whatever a run does to its world is recorded with the answer that it got, so that the order of all
its effects can be spoken of.  What the files of a machine hold after a run follows from the record:
a file that was written holds what was written last, and a write that failed changed nothing.

## Main definitions

* `WorldEvent`, `World.recorded` — what is done to a world, and a world that records it.
* `Files`, `filesAfter` — the files of a machine, and what a run makes of them.
* `Shows` — the files that a run has found.

## Main results

* `erases_run` — a run is the same without its record.
* `filesAfter_eq_self` — a run that writes nothing leaves the files as they are.
-/

namespace MergeMessage

variable {m : Type → Type} [Monad m]

/-- What is done to a world, with its answer. -/
inductive WorldEvent
  /-- A file is read. -/
  | read (path : Text) (content : FileContent)
  /-- The standard input is read. -/
  | took (data : Octets)
  /-- A question about the repository is asked. -/
  | asked (query : GitQuery) (answer : Except GitFault Text)
  /-- A request is sent. -/
  | sent (request : Http.Request) (reply : Option Http.Reply)
  /-- A file is written, or cannot be written. -/
  | stored (path content : Text) (result : Except Text Unit)
  /-- Something is written to the standard output. -/
  | printed (text : Text)
  /-- Something is written to the standard error output. -/
  | complained (text : Text)

/-- The world that records everything that is done to it. -/
def World.recorded (world : World m) : World (StateT (List WorldEvent) m) where
  environment := world.environment
  home := world.home
  fileAt path := MergeMessage.recorded (.read path) (world.fileAt path)
  input := MergeMessage.recorded .took world.input
  askGit query := MergeMessage.recorded (.asked query) (world.askGit query)
  network request := MergeMessage.recorded (.sent request) (world.network request)
  store path content := MergeMessage.recorded (.stored path content) (world.store path content)
  print text := MergeMessage.recorded (fun _ => .printed text) (world.print text)
  complain text := MergeMessage.recorded (fun _ => .complained text) (world.complain text)

@[simp] theorem World.recorded_environment (world : World m) :
    world.recorded.environment = world.environment := rfl

@[simp] theorem World.recorded_home (world : World m) : world.recorded.home = world.home := rfl

namespace WorldEvent

/-- Is it something that is done before there is a message, without an effect on files and standard
output? -/
def isPreparation : WorldEvent → Bool
  | .stored .. => false
  | .printed _ => false
  | .asked .directory _ => false
  | _ => true

/-- Is it something that is done to load settings and views, or to report about that? -/
def isLoading : WorldEvent → Bool
  | .read .. => true
  | .complained _ => true
  | _ => false

/-- Is a request sent? -/
def isSent : WorldEvent → Bool
  | .sent .. => true
  | _ => false

/-- Is a file written? -/
def isStored : WorldEvent → Bool
  | .stored .. => true
  | _ => false

/-- What is read, and what is found there. -/
def read? : WorldEvent → Option (Text × FileContent)
  | .read path content => some (path, content)
  | _ => none

/-- What is found on the standard input. -/
def took? : WorldEvent → Option Octets
  | .took data => some data
  | _ => none

/-- What is written to the standard output. -/
def printed? : WorldEvent → Option Text
  | .printed text => some text
  | _ => none

/-- The answer to the question where the repository is. -/
def directory? : WorldEvent → Option (Except GitFault Text)
  | .asked .directory answer => some answer
  | _ => none

theorem isPreparation_of_isLoading {e : WorldEvent} (h : e.isLoading = true) :
    e.isPreparation = true := by
  cases e <;> first | rfl | cases h

theorem isSent_of_isLoading {e : WorldEvent} (h : e.isLoading = true) : e.isSent = false := by
  cases e <;> first | rfl | cases h

theorem isStored_of_isPreparation {e : WorldEvent} (h : e.isPreparation = true) :
    e.isStored = false := by
  cases e <;> first | rfl | cases h

theorem printed?_of_isPreparation {e : WorldEvent} (h : e.isPreparation = true) :
    e.printed? = none := by
  cases e <;> first | rfl | cases h

theorem directory?_of_isPreparation {e : WorldEvent} (h : e.isPreparation = true) :
    e.directory? = none := by
  cases e with
  | asked query answer => cases query <;> first | rfl | cases h
  | _ => rfl

end WorldEvent

/-! ### Files -/

/-- What is found at each path. -/
abbrev Files := Text → FileContent

/-- The files after something was done.  A write fails on opening the file, before the file is emptied
for what is written, so one that fails changes nothing. -/
def WorldEvent.apply (files : Files) : WorldEvent → Files
  | .stored path content (.ok ()) => Function.update files path (.octets (Text.octets content))
  | _ => files

/-- The files after a run. -/
def filesAfter (files : Files) (made : List WorldEvent) : Files := made.foldl WorldEvent.apply files

/-- Whatever was read in a run was found in these files. -/
def Shows (files : Files) (made : List WorldEvent) : Prop :=
  ∀ path content, .read path content ∈ made → content = files path

theorem shows_iff {files : Files} {made : List WorldEvent} :
    Shows files made ↔ ∀ p ∈ made.filterMap WorldEvent.read?, p.2 = files p.1 := by
  simp only [Shows, List.mem_filterMap]
  constructor
  · rintro h p ⟨e, he, hp⟩
    cases e with
    | read path content =>
      obtain rfl := Option.some.inj hp
      exact h path content he
    | _ => cases hp
  · exact fun h path content hmem => h (path, content) ⟨_, hmem, rfl⟩

theorem filesAfter_append (files : Files) (made more : List WorldEvent) :
    filesAfter files (made ++ more) = filesAfter (filesAfter files made) more :=
  List.foldl_append

theorem filesAfter_eq_self {made : List WorldEvent} (h : ∀ e ∈ made, e.isStored = false)
    (files : Files) : filesAfter files made = files := by
  induction made with
  | nil => rfl
  | cons e made ih =>
    rw [List.forall_mem_cons] at h
    have happly : e.apply files = files := by
      cases e with
      | stored path content result => cases h.1
      | _ => rfl
    rw [filesAfter, List.foldl_cons, happly]
    exact ih h.2

theorem Shows.append_left {files : Files} {made more : List WorldEvent}
    (h : Shows files (made ++ more)) : Shows files made :=
  fun path content hmem => h path content (List.mem_append_left _ hmem)

theorem Shows.append_right {files : Files} {made more : List WorldEvent}
    (h : Shows files (made ++ more)) : Shows files more :=
  fun path content hmem => h path content (List.mem_append_right _ hmem)

/-! ### What single actions record -/

section

variable [LawfulMonad m] {p : WorldEvent → Prop} (world : World m)

theorem recordsOnly_fileAt (path : Text) (h : ∀ content, p (.read path content)) :
    RecordsOnly p (world.recorded.fileAt path) :=
  recordsOnly_recorded h _

theorem recordsOnly_input (h : ∀ data, p (.took data)) : RecordsOnly p world.recorded.input :=
  recordsOnly_recorded h _

theorem recordsOnly_askGit (query : GitQuery) (h : ∀ answer, p (.asked query answer)) :
    RecordsOnly p (world.recorded.askGit query) :=
  recordsOnly_recorded h _

theorem recordsOnly_network (request : Http.Request) (h : ∀ reply, p (.sent request reply)) :
    RecordsOnly p (world.recorded.network request) :=
  recordsOnly_recorded h _

theorem recordsOnly_print (text : Text) (h : p (.printed text)) :
    RecordsOnly p (world.recorded.print text) :=
  recordsOnly_recorded (fun _ => h) _

theorem recordsOnly_complain (text : Text) (h : p (.complained text)) :
    RecordsOnly p (world.recorded.complain text) :=
  recordsOnly_recorded (fun _ => h) _

end

/-! ### Without the record -/

/-- Keeping a record makes no difference to a run. -/
theorem erases_run [LawfulMonad m] (world : World m) (words : List Text) :
    Erases (run world.recorded words) (run world words) :=
  lockstep_erases.run rfl rfl (fun _ => erases_recorded _ _) (erases_recorded _ _)
    (erases_recorded _ _) (erases_recorded _ _) (fun _ => erases_recorded _ _)
    (fun _ _ => erases_recorded _ _) (fun _ => erases_recorded _ _) (fun _ => erases_recorded _ _)
    words

end MergeMessage
