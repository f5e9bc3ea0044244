import MergeMessage.Log.Entry
import MergeMessage.Proofs.Outcomes

/-!
# Recorded computations

To speak of everything that a computation does, its actions are recorded together with their
answers.  The record is kept beside the computation, so it makes no difference to what is returned,
and what is recorded by a sequence of steps is what the steps record, one after the other.

## Main definitions

* `recorded` — an action that is recorded with its answer.
* `Records` — a property of all that a computation records and returns.
* `Erases` — without its record, a computation is another one.
* `KeepsView` — two computations that differ only in the form of what they record.

## Main results

* `records_bind`, `records_recorded` — what sequences and single actions record.
* `erases_bind`, `erases_recorded` — the record makes no difference.
* `alwaysReturns_of_records` — what a recorded computation returns is returned without the record.
* `keepsView_bind` — sequences of such computations are such computations.
-/

namespace MergeMessage

variable {m : Type → Type} {ε δ α β : Type} [Monad m]

/-- The action, and behind what was recorded before the event that it was, with its answer. -/
def recorded (event : α → ε) (x : m α) : StateT (List ε) m α := do
  let a ← x
  modify (· ++ [event a])
  return a

/-- The reporter beside a record, in which entries of the log do not appear. -/
def Reporter.beside (note : Reporter m) : Reporter (StateT (List ε) m) :=
  fun entry => StateT.lift (note entry)

/-- Whatever was recorded before, the computation adds events that satisfy `p` together with what it
returns. -/
def Records (p : List ε → α → Prop) (x : StateT (List ε) m α) : Prop :=
  ∀ before, AlwaysReturns (fun r => ∃ made, r.2 = before ++ made ∧ p made r.1) (x.run before)

/-- Whatever was recorded before, the computation without its record is `y`. -/
def Erases (x : StateT (List ε) m α) (y : m α) : Prop :=
  ∀ before, Prod.fst <$> x.run before = y

/-- Whatever was recorded before, the computation `y` does what `x` does, and what it has recorded
then is a view of what `x` has. -/
def KeepsView (view : List ε → List δ) (x : StateT (List ε) m α) (y : StateT (List δ) m α) : Prop :=
  ∀ before, y.run (view before) = Prod.map id view <$> x.run before

variable [LawfulMonad m]

/-! ### What is recorded -/

theorem records_pure {p : List ε → α → Prop} {a : α} (h : p [] a) :
    Records p (pure a : StateT (List ε) m α) := by
  intro before
  rw [StateT.run_pure]
  exact alwaysReturns_pure ⟨[], by simp, h⟩

theorem records_imp {p q : List ε → α → Prop} (hpq : ∀ made a, p made a → q made a)
    {x : StateT (List ε) m α} (h : Records p x) : Records q x := by
  intro before
  refine alwaysReturns_imp ?_ (h before)
  rintro r ⟨made, hmade, hp⟩
  exact ⟨made, hmade, hpq made r.1 hp⟩

/-- The events of a sequence are those of its first step and then those of the others. -/
theorem records_bind {p : List ε → α → Prop} {q : List ε → β → Prop} {x : StateT (List ε) m α}
    {f : α → StateT (List ε) m β} (hx : Records p x)
    (hf : ∀ made a, p made a → Records (fun more b => q (made ++ more) b) (f a)) :
    Records q (x >>= f) := by
  intro before
  rw [StateT.run_bind]
  refine alwaysReturns_bind_of (hx before) ?_
  rintro ⟨a, after⟩ ⟨made, rfl, hp⟩
  refine alwaysReturns_imp ?_ (hf made a hp (before ++ made))
  rintro r ⟨more, hmore, hq⟩
  exact ⟨made ++ more, by rw [hmore, List.append_assoc], hq⟩

theorem run_recorded (event : α → ε) (x : m α) (before : List ε) :
    (recorded event x).run before = (fun a => (a, before ++ [event a])) <$> x := by
  simp [recorded]

/-- An action is one event. -/
theorem records_recorded {q : α → Prop} {x : m α} (event : α → ε) (h : AlwaysReturns q x) :
    Records (fun made a => made = [event a] ∧ q a) (recorded event x) := by
  intro before
  rw [run_recorded, map_eq_pure_bind]
  refine alwaysReturns_bind_of h fun a ha => alwaysReturns_pure ⟨[event a], rfl, rfl, ha⟩

/-- What is done beside the record is no event. -/
theorem records_lift (x : m α) :
    Records (fun made _ => made = []) (StateT.lift x : StateT (List ε) m α) := by
  intro before
  rw [StateT.run_lift]
  exact alwaysReturns_bind (fun _ => alwaysReturns_pure ⟨[], by simp, rfl⟩) _

/-- An entry of the log is no event. -/
theorem records_note (note : Reporter m) (entry : LogEntry) :
    Records (fun made _ => made = []) (note.beside entry : StateT (List ε) m Unit) :=
  records_lift (note entry)

/-- Events come from the steps that are no entries of the log. -/
theorem records_note_bind {p : List ε → α → Prop} {f : Unit → StateT (List ε) m α}
    (note : Reporter m) (entry : LogEntry) (h : Records p (f ())) :
    Records p (note.beside entry >>= f) := by
  refine records_bind (records_note note entry) ?_
  rintro made ⟨⟩ rfl
  simpa using h

/-! ### Without the record -/

theorem erases_pure (a : α) : Erases (pure a : StateT (List ε) m α) (pure a) := by
  intro before
  simp

theorem erases_bind {x : StateT (List ε) m α} {y : m α} {f : α → StateT (List ε) m β}
    {g : α → m β} (hx : Erases x y) (hf : ∀ a, Erases (f a) (g a)) :
    Erases (x >>= f) (y >>= g) := by
  intro before
  rw [StateT.run_bind, map_bind, ← hx before, bind_map_left]
  exact bind_congr fun r => hf r.1 r.2

theorem erases_recorded (event : α → ε) (x : m α) : Erases (recorded event x) x := by
  intro before
  rw [run_recorded, Functor.map_map]
  exact id_map' x

theorem erases_lift (x : m α) : Erases (StateT.lift x : StateT (List ε) m α) x := by
  intro before
  rw [StateT.run_lift]
  simp

theorem erases_note (note : Reporter m) (entry : LogEntry) :
    Erases (note.beside entry : StateT (List ε) m Unit) (note entry) :=
  erases_lift (note entry)

/-- What is known of a recorded computation holds without the record. -/
theorem alwaysReturns_of_records {p : List ε → α → Prop} {x : StateT (List ε) m α} {y : m α}
    (hx : Records p x) (hy : Erases x y) : AlwaysReturns (fun a => ∃ made, p made a) y := by
  rw [← hy [], map_eq_pure_bind]
  refine alwaysReturns_bind_of (hx []) ?_
  rintro ⟨a, after⟩ ⟨made, -, hp⟩
  exact alwaysReturns_pure ⟨made, hp⟩

/-! ### Two forms of a record -/

section

variable {view : List ε → List δ}

theorem keepsView_pure (a : α) : KeepsView (m := m) view (pure a) (pure a) := by
  intro before
  simp

theorem keepsView_lift (x : m α) : KeepsView view (StateT.lift x) (StateT.lift x) := by
  intro before
  simp only [StateT.run_lift, map_bind, map_pure]
  rfl

theorem keepsView_bind {x : StateT (List ε) m α} {y : StateT (List δ) m α}
    {f : α → StateT (List ε) m β} {g : α → StateT (List δ) m β} (hx : KeepsView view x y)
    (hf : ∀ a, KeepsView view (f a) (g a)) : KeepsView view (x >>= f) (y >>= g) := by
  intro before
  rw [StateT.run_bind, StateT.run_bind, hx before, bind_map_left, map_bind]
  exact bind_congr fun r => hf r.1 r.2

/-- An action whose trace is left before it is done shows what is recorded after it, if the trace
says nothing of the answer. -/
theorem keepsView_recorded {event : α → ε} {x : m α} {mark : List δ → List δ}
    (h : ∀ before a, view (before ++ [event a]) = mark (view before)) :
    KeepsView view (recorded event x) (do modify mark; StateT.lift x) := by
  intro before
  rw [run_recorded, Functor.map_map]
  simp [h]

end

end MergeMessage
