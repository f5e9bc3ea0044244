import Mathlib.Data.List.Chain
import Mathlib.Data.List.Forall2
import MergeMessage.Proofs.Traces
import MergeMessage.Provider.OnDevice

/-!
# Sessions are given back

Whoever opens a session with the model on this machine has to give it back.  A request to the
provider does so on each of its ways: it looks whether the model is ready, opens a session only
then, and once a session is open it is asked and released before anything else happens, whether it
answers or fails.  However many requests are made, and whatever each of them asks, the calls of the
runtime are those of one such visit after the other.

## Main definitions

* `RuntimeEvent`, `LocalRuntime.recorded` — a call with its answer, and a runtime that records it.
* `Visit` — the calls of one request, and what comes of them.
* `askSeries` — requests to a provider, each of which may depend on those before it.
* `RuntimeEvent.Follows`, `Disciplined` — what may come after a call, and records that keep to it.

## Main results

* `OnDevice.records_generate` — a request is one visit.
* `disciplined_of_visits` — visits one after the other keep to the discipline.
* `askSeries_gives_sessions_back` — a series of requests is one visit after the other.
-/

namespace MergeMessage

/-! ### Calls and visits -/

/-- A call of a runtime with its answer. -/
inductive RuntimeEvent
  /-- The question whether the model is ready. -/
  | availability (answer : Availability)
  /-- The opening of a session. -/
  | openSession (outcome : Except Failure Unit)
  /-- A prompt. -/
  | prompt (text : Text) (answer : Except Failure Text)
  /-- The release of the session. -/
  | release

/-- The call without its answer. -/
def RuntimeEvent.call : RuntimeEvent → RuntimeCall
  | availability _ => .availability
  | openSession _ => .openSession
  | prompt text _ => .prompt text
  | release => .release

/-- The calls in the order in which the runtime that traces them keeps them: the last one first. -/
def tracedCalls (made : List RuntimeEvent) : List RuntimeCall :=
  (made.map RuntimeEvent.call).reverse

/-- The runtime that records every call with its answer. -/
def LocalRuntime.recorded {m : Type → Type} [Monad m] (runtime : LocalRuntime m) :
    LocalRuntime (StateT (List RuntimeEvent) m) where
  availability := MergeMessage.recorded .availability runtime.availability
  openSession := MergeMessage.recorded .openSession runtime.openSession
  prompt text := MergeMessage.recorded (.prompt text) (runtime.prompt text)
  release := MergeMessage.recorded (fun _ => .release) runtime.release

/-- The calls of one request with a prompt, and what comes of them. -/
inductive Visit (text : Text) : List RuntimeEvent → Generated → Prop
  /-- The model is not ready. -/
  | notReady (answer : Availability) (h : answer ≠ .available) :
    Visit text [.availability answer] (.ok none)
  /-- No session can be opened. -/
  | notOpened (failure : Failure) :
    Visit text [.availability .available, .openSession (.error failure)]
      (.error (.requestFailed failure.chain))
  /-- The session answers. -/
  | answered (reply : Text) :
    Visit text [.availability .available, .openSession (.ok ()), .prompt text (.ok reply), .release]
      (.ok (some (Text.trim reply)))
  /-- The session fails. -/
  | failed (failure : Failure) :
    Visit text
      [.availability .available, .openSession (.ok ()), .prompt text (.error failure), .release]
      (.error (.requestFailed failure.chain))

/-- A series of requests to a provider, with the prompt of each and what comes of it.  Whoever makes
them chooses each prompt after looking at all that came before, and may do anything in between. -/
def askSeries {m : Type → Type} [Monad m] (provider : Provider m)
    (next : List (Text × Generated) → m Text) : (count : Nat) → m (List (Text × Generated))
  | 0 => return []
  | count + 1 => do
    let earlier ← askSeries provider next count
    let text ← next earlier
    let outcome ← provider text
    return earlier ++ [(text, outcome)]

/-! ### The discipline -/

namespace RuntimeEvent

/-- The calls after which nothing is left to do: no session is open. -/
inductive IsLast : RuntimeEvent → Prop
  /-- The model is not ready. -/
  | notReady (answer : Availability) (h : answer ≠ .available) : IsLast (.availability answer)
  /-- No session could be opened. -/
  | notOpened (failure : Failure) : IsLast (.openSession (.error failure))
  /-- The session was given back. -/
  | released : IsLast .release

/-- What may come right after a call: a session is opened only if the model is ready, an open
session is asked and then released, and a new visit begins only when no session is open. -/
inductive Follows : RuntimeEvent → RuntimeEvent → Prop
  /-- The model is ready. -/
  | opening (outcome : Except Failure Unit) :
    Follows (.availability .available) (.openSession outcome)
  /-- The session is open. -/
  | asking (text : Text) (answer : Except Failure Text) :
    Follows (.openSession (.ok ())) (.prompt text answer)
  /-- The session was asked. -/
  | releasing (text : Text) (answer : Except Failure Text) : Follows (.prompt text answer) .release
  /-- No session is open. -/
  | beginning {last : RuntimeEvent} (h : last.IsLast) (answer : Availability) :
    Follows last (.availability answer)

end RuntimeEvent

/-- A record of calls that begins with a visit, ends with no session open, and in which each call
may come after the one before it. -/
structure Disciplined (made : List RuntimeEvent) : Prop where
  begins : ∀ first ∈ made.head?, ∃ answer, first = .availability answer
  follows : made.IsChain RuntimeEvent.Follows
  ends : ∀ last ∈ made.getLast?, last.IsLast

open RuntimeEvent in
/-- A visit keeps to the discipline. -/
theorem Visit.disciplined {text : Text} {made : List RuntimeEvent} {outcome : Generated}
    (h : Visit text made outcome) : Disciplined made := by
  cases h with
  | notReady answer h =>
    exact ⟨by simp, List.isChain_singleton _, by simpa using IsLast.notReady answer h⟩
  | notOpened failure =>
    refine ⟨by simp, ?_, by simpa using IsLast.notOpened failure⟩
    exact List.isChain_pair.mpr (.opening _)
  | answered reply =>
    refine ⟨by simp, ?_, by simpa using IsLast.released⟩
    simp only [List.isChain_cons_cons, List.isChain_singleton, and_true]
    exact ⟨.opening _, .asking _ _, .releasing _ _⟩
  | failed failure =>
    refine ⟨by simp, ?_, by simpa using IsLast.released⟩
    simp only [List.isChain_cons_cons, List.isChain_singleton, and_true]
    exact ⟨.opening _, .asking _ _, .releasing _ _⟩

theorem Disciplined.nil : Disciplined [] := ⟨by simp, List.isChain_nil, by simp⟩

/-- What keeps to the discipline can be followed by anything else that does. -/
theorem Disciplined.append {made more : List RuntimeEvent} (h : Disciplined made)
    (hmore : Disciplined more) : Disciplined (made ++ more) := by
  refine ⟨?_, ?_, ?_⟩
  · intro first hfirst
    rw [List.head?_append, Option.mem_def, Option.or_eq_some_iff] at hfirst
    rcases hfirst with hfirst | ⟨-, hfirst⟩
    · exact h.begins first hfirst
    · exact hmore.begins first hfirst
  · -- where the two meet, no session is open and a visit begins
    rw [List.isChain_append]
    refine ⟨h.follows, hmore.follows, ?_⟩
    intro last hlast first hfirst
    obtain ⟨answer, rfl⟩ := hmore.begins first hfirst
    exact .beginning (h.ends last hlast) answer
  · intro last hlast
    rw [List.getLast?_append, Option.mem_def, Option.or_eq_some_iff] at hlast
    rcases hlast with hlast | ⟨-, hlast⟩
    · exact hmore.ends last hlast
    · exact h.ends last hlast

/-- Visits one after the other keep to the discipline. -/
theorem disciplined_of_visits {series : List (Text × Generated)} {visits : List (List RuntimeEvent)}
    (h : List.Forall₂ (fun asked visit => Visit asked.1 visit asked.2) series visits) :
    Disciplined visits.flatten := by
  induction h with
  | nil => exact Disciplined.nil
  | cons hvisit _ ih =>
    rw [List.flatten_cons]
    exact hvisit.disciplined.append ih

/-! ### Requests -/

section

variable {m : Type → Type} [Monad m] [LawfulMonad m]

/-- A request is one visit. -/
theorem OnDevice.records_generate (note : Reporter m) (runtime : LocalRuntime m) (text : Text) :
    Records (Visit text) (generate note.beside runtime.recorded text) := by
  unfold generate
  refine records_bind (records_recorded _ (alwaysReturns_true _)) ?_
  rintro made availability ⟨rfl, -⟩
  split
  · next hready =>
    subst hready
    refine records_bind (records_recorded _ (alwaysReturns_true _)) ?_
    rintro made opened ⟨rfl, -⟩
    match opened with
    | .error failure => exact records_pure (.notOpened failure)
    | .ok () =>
      refine records_bind (records_recorded _ (alwaysReturns_true _)) ?_
      rintro made reply ⟨rfl, -⟩
      -- the session is released before the reply is looked at
      refine records_bind (records_recorded _ (alwaysReturns_true _)) ?_
      rintro made ⟨⟩ ⟨rfl, -⟩
      cases reply with
      | ok reply => exact records_pure (.answered reply)
      | error failure => exact records_pure (.failed failure)
  · next hready => exact records_note_bind note _ (records_pure (.notReady availability hready))

/-- A series of requests is one visit after the other. -/
theorem records_askSeries {provider : Provider (StateT (List RuntimeEvent) m)}
    (hprovider : ∀ text, Records (Visit text) (provider text))
    (next : List (Text × Generated) → m Text) (count : Nat) :
    Records (fun made series => series.length = count ∧ ∃ visits, made = visits.flatten ∧
        List.Forall₂ (fun asked visit => Visit asked.1 visit asked.2) series visits)
      (askSeries provider (fun earlier => StateT.lift (next earlier)) count) := by
  induction count with
  | zero => exact records_pure ⟨rfl, [], rfl, .nil⟩
  | succ count ih =>
    refine records_bind ih ?_
    rintro made earlier ⟨hlength, visits, rfl, hvisits⟩
    refine records_bind (records_lift _) ?_
    rintro made text rfl
    refine records_bind (hprovider text) ?_
    intro visit outcome hvisit
    refine records_pure ⟨by simp [hlength], visits ++ [visit], by simp, ?_⟩
    exact List.rel_append hvisits (.cons hvisit .nil)

/-! ### Other records -/

theorem OnDevice.erases_generate (note : Reporter m) (runtime : LocalRuntime m) (text : Text) :
    Erases (generate note.beside runtime.recorded text) (generate note runtime text) := by
  unfold generate
  refine erases_bind (erases_recorded _ _) fun availability => ?_
  split
  · refine erases_bind (erases_recorded _ _) fun opened => ?_
    match opened with
    | .error failure => exact erases_pure _
    | .ok () =>
      exact erases_bind (erases_recorded _ _) fun reply =>
        erases_bind (erases_recorded _ _) fun _ => erases_pure _
  · exact erases_bind (erases_note note _) fun _ => erases_pure _

theorem erases_askSeries {provider : Provider (StateT (List RuntimeEvent) m)} {plain : Provider m}
    (hprovider : ∀ text, Erases (provider text) (plain text))
    (next : List (Text × Generated) → m Text) (count : Nat) :
    Erases (askSeries provider (fun earlier => StateT.lift (next earlier)) count)
      (askSeries plain next count) := by
  induction count with
  | zero => exact erases_pure _
  | succ count ih =>
    exact erases_bind ih fun earlier => erases_bind (erases_lift _) fun text =>
      erases_bind (hprovider text) fun outcome => erases_pure _

/-- A call that is traced before it is passed on shows in the same way as one that is recorded with
its answer. -/
theorem keepsView_traced {α : Type} {event : α → RuntimeEvent} {call : RuntimeCall} (x : m α)
    (h : ∀ a, (event a).call = call) :
    KeepsView tracedCalls (recorded event x)
      (do modify (call :: ·); x : StateT (List RuntimeCall) m α) := by
  refine keepsView_recorded fun before a => ?_
  simp [tracedCalls, h]

theorem OnDevice.keepsView_generate (note : Reporter m) (runtime : LocalRuntime m) (text : Text) :
    KeepsView tracedCalls (generate note.beside runtime.recorded text)
      (generate note.beside runtime.traced text) := by
  unfold generate
  refine keepsView_bind (keepsView_traced _ fun _ => rfl) fun availability => ?_
  split
  · refine keepsView_bind (keepsView_traced _ fun _ => rfl) fun opened => ?_
    match opened with
    | .error failure => exact keepsView_pure _
    | .ok () =>
      exact keepsView_bind (keepsView_traced _ fun _ => rfl) fun reply =>
        keepsView_bind (keepsView_traced _ fun _ => rfl) fun _ => keepsView_pure _
  · exact keepsView_bind (keepsView_lift _) fun _ => keepsView_pure _

theorem keepsView_askSeries {provider : Provider (StateT (List RuntimeEvent) m)}
    {traced : Provider (StateT (List RuntimeCall) m)}
    (hprovider : ∀ text, KeepsView tracedCalls (provider text) (traced text))
    (next : List (Text × Generated) → m Text) (count : Nat) :
    KeepsView tracedCalls (askSeries provider (fun earlier => StateT.lift (next earlier)) count)
      (askSeries traced (fun earlier => StateT.lift (next earlier)) count) := by
  induction count with
  | zero => exact keepsView_pure _
  | succ count ih =>
    exact keepsView_bind ih fun earlier => keepsView_bind (keepsView_lift _) fun text =>
      keepsView_bind (hprovider text) fun outcome => keepsView_pure _

/-- **Sessions are given back.**  Whatever the runtime answers to each call, a series of requests is
one visit after the other, each with its own prompt and with the outcome that its visit leads to.
In between no session is open: one is opened only if the model is ready, and then asked once and
released once before anything else happens.  The calls are those that the tracing runtime keeps, and
keeping a record makes no difference to the outcomes. -/
theorem askSeries_gives_sessions_back (note : Reporter m) (runtime : LocalRuntime m)
    (next : List (Text × Generated) → m Text) (count : Nat) :
    Records (fun made series => series.length = count ∧ Disciplined made ∧
        ∃ visits, made = visits.flatten ∧
          List.Forall₂ (fun asked visit => Visit asked.1 visit asked.2) series visits)
      (askSeries (OnDevice.generate note.beside runtime.recorded)
        (fun earlier => StateT.lift (next earlier)) count) ∧
    KeepsView tracedCalls
      (askSeries (OnDevice.generate note.beside runtime.recorded)
        (fun earlier => StateT.lift (next earlier)) count)
      (askSeries (OnDevice.generate note.beside runtime.traced)
        (fun earlier => StateT.lift (next earlier)) count) ∧
    Erases
      (askSeries (OnDevice.generate note.beside runtime.recorded)
        (fun earlier => StateT.lift (next earlier)) count)
      (askSeries (OnDevice.generate note runtime) next count) := by
  refine ⟨?_, keepsView_askSeries (OnDevice.keepsView_generate note runtime) next count,
    erases_askSeries (OnDevice.erases_generate note runtime) next count⟩
  refine records_imp ?_ (records_askSeries (OnDevice.records_generate note runtime) next count)
  rintro made series ⟨hlength, visits, rfl, hvisits⟩
  exact ⟨hlength, disciplined_of_visits hvisits, visits, rfl, hvisits⟩

end

/-- A runtime that gets on better each time: first it has not got the model, then it cannot open a
session, then the session fails, and from then on it answers. -/
def improvingRuntime : LocalRuntime (StateM Nat) where
  availability := do
    modify (· + 1)
    if (← get) = 1 then return .downloadable else return .available
  openSession := do
    if (← get) = 2 then return .error ⟨["no memory".toList]⟩ else return .ok ()
  prompt text := do
    if (← get) = 3 then return .error ⟨["no answer".toList, "reset".toList]⟩
    else return .ok (' ' :: text ++ " it is\n".toList)
  release := pure ()

/-- The session that fails is released as well as the one that answers. -/
theorem improvingRuntime_gives_sessions_back :
    ((askSeries (OnDevice.generate Reporter.silent.beside improvingRuntime.recorded)
        (fun earlier => StateT.lift (pure (Text.ofNat earlier.length))) 4).run []).run 0 =
      (([("0".toList, .ok none), ("1".toList, .error (.requestFailed "no memory".toList)),
          ("2".toList, .error (.requestFailed "no answer: reset".toList)),
          ("3".toList, .ok (some "3 it is".toList))],
        [.availability .downloadable,
          .availability .available, .openSession (.error ⟨["no memory".toList]⟩),
          .availability .available, .openSession (.ok ()),
            .prompt "2".toList (.error ⟨["no answer".toList, "reset".toList]⟩), .release,
          .availability .available, .openSession (.ok ()),
            .prompt "3".toList (.ok " 3 it is\n".toList), .release]), 4) ∧
    Disciplined (((askSeries (OnDevice.generate Reporter.silent.beside improvingRuntime.recorded)
        (fun earlier => StateT.lift (pure (Text.ofNat earlier.length))) 4).run []).run 0).1.2 := by
  constructor
  · rfl
  · obtain ⟨made, hmade, -, hdisciplined, -⟩ := alwaysReturns_state_iff.mp
      ((askSeries_gives_sessions_back Reporter.silent improvingRuntime
        (fun earlier => pure (Text.ofNat earlier.length)) 4).1 []) 0
    rw [hmade]
    exact hdisciplined

end MergeMessage
