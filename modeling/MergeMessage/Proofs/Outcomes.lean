import Mathlib.Tactic.Choose
import MergeMessage.Text.Basic

/-!
# What computations return

A computation may ask a world that answers as it likes.  Still, something can be said about all
values that it returns, in whatever monad it runs.

## Main definitions

* `AlwaysReturns` — a property of everything that a computation returns.

## Main results

* `alwaysReturns_bind` — what comes first only matters through what comes last.
* `alwaysReturns_state_iff` — over a state, it is a statement about every state to start from.
-/

namespace MergeMessage

variable {m : Type → Type} {α β : Type}

/-- Whatever happens, what the computation returns satisfies `p`: it might as well have returned
it together with a proof. -/
def AlwaysReturns [Functor m] (p : α → Prop) (x : m α) : Prop :=
  ∃ y : m { a // p a }, Subtype.val <$> y = x

theorem alwaysReturns_pure [Monad m] [LawfulMonad m] {p : α → Prop} {a : α} (h : p a) :
    AlwaysReturns p (pure a : m α) :=
  ⟨pure ⟨a, h⟩, by rw [map_pure]⟩

theorem alwaysReturns_imp [Monad m] [LawfulMonad m] {p q : α → Prop} (hpq : ∀ a, p a → q a)
    {x : m α} (h : AlwaysReturns p x) : AlwaysReturns q x := by
  obtain ⟨y, rfl⟩ := h
  refine ⟨(fun a => ⟨a.val, hpq a.val a.property⟩) <$> y, ?_⟩
  rw [← comp_map]
  rfl

theorem alwaysReturns_true [Monad m] [LawfulMonad m] (x : m α) :
    AlwaysReturns (fun _ => True) x := by
  refine ⟨(fun a => ⟨a, trivial⟩) <$> x, ?_⟩
  rw [← comp_map]
  exact id_map' x

/-- A computation returns what its last part returns, for values that its first part returns. -/
theorem alwaysReturns_bind_of [Monad m] [LawfulMonad m] {p : α → Prop} {q : β → Prop} {x : m α}
    {f : α → m β} (hx : AlwaysReturns p x) (hf : ∀ a, p a → AlwaysReturns q (f a)) :
    AlwaysReturns q (x >>= f) := by
  obtain ⟨y, rfl⟩ := hx
  -- one computation with proofs for each value of the first part
  choose z hz using hf
  refine ⟨y >>= fun a => z a.val a.property, ?_⟩
  rw [map_bind, bind_map_left]
  simp only [hz]

/-- A computation returns what its last part returns. -/
theorem alwaysReturns_bind [Monad m] [LawfulMonad m] {p : β → Prop} {f : α → m β}
    (h : ∀ a, AlwaysReturns p (f a)) (x : m α) : AlwaysReturns p (x >>= f) :=
  alwaysReturns_bind_of (alwaysReturns_true x) fun a _ => h a

/-- Over a state, the property holds of the result from every state. -/
theorem alwaysReturns_state_iff {σ : Type} {p : α → Prop} {x : StateM σ α} :
    AlwaysReturns p x ↔ ∀ s, p (x.run s).1 := by
  constructor
  · rintro ⟨y, rfl⟩ s
    exact (y.run s).1.property
  · intro h
    exact ⟨fun s => (⟨(x.run s).1, h s⟩, (x.run s).2), rfl⟩

end MergeMessage
