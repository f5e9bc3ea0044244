import MergeMessage.Proofs.OneBackend
import MergeMessage.Proofs.Texts

/-!
# Spellings of a base address

A base address may be given with slashes at its end, and with the version of the service or without
it.  All these spellings lead to one endpoint.  It is made of the base and the path of the service,
without a slash too many between the two and without a version too many.

## Main definitions

* `Remote.bare` — a base address without slashes at its end.
* `Remote.Spelling` — the ways to write a base address.

## Main results

* `Remote.endpoint_of_spelling` — the spellings of a base address have the same endpoint.
* `Remote.exists_endpoint_eq` — what the endpoint is made of.
* `Remote.spellings_share_endpoint` — a request goes to this endpoint, however the base is written.
-/

namespace MergeMessage.Remote

open Text

/-- The base address without slashes at its end. -/
def bare (base : Text) : Text := dropEndWhile (· == '/') base

/-- The ways to write a base address: without slashes at its end, with any number of them more, and,
if no version ends it, with the version and any number of slashes. -/
inductive Spelling (base : Text) : Text → Prop
  /-- There are no slashes at the end. -/
  | plain : Spelling base (bare base)
  /-- There are more slashes at the end. -/
  | slashes (count : ℕ) : Spelling base (base ++ List.replicate count '/')
  /-- The version is named, too. -/
  | version (count : ℕ) (h : ¬"/v1".toList <:+ bare base) :
    Spelling base (bare base ++ "/v1".toList ++ List.replicate count '/')

/-! ### The base without slashes -/

theorem bare_append_slashes (base : Text) (count : ℕ) :
    bare (base ++ List.replicate count '/') = bare base :=
  dropEndWhile_append_of_pos (by simp) base

theorem bare_bare (base : Text) : bare (bare base) = bare base :=
  List.rdropWhile_idempotent _ base

theorem bare_append_version (base : Text) : bare (base ++ versionPart) = base ++ versionPart := by
  refine dropEndWhile_eq_self_iff.mpr fun c hc => ?_
  have hlast : (base ++ versionPart).getLast? = some '1' := by simp [versionPart]
  obtain rfl : '1' = c := Option.some.inj (hlast.symm.trans hc)
  decide

theorem getLast?_bare (base : Text) : (bare base).getLast? ≠ some '/' := fun h =>
  absurd (not_of_mem_getLast?_dropEndWhile h) (by decide)

/-! ### The endpoint -/

theorem endpoint_of_version {base : Text} (h : versionPart <:+ bare base) :
    endpoint base = bare base ++ "/chat/completions".toList := by
  rw [endpoint]
  exact if_pos (List.isSuffixOf_iff_suffix.mpr h)

theorem endpoint_of_not_version {base : Text} (h : ¬versionPart <:+ bare base) :
    endpoint base = bare base ++ "/v1/chat/completions".toList := by
  rw [endpoint]
  exact if_neg (mt List.isSuffixOf_iff_suffix.mp h)

/-- Only what comes before the slashes at the end of a base matters. -/
theorem endpoint_congr {base base' : Text} (h : bare base = bare base') :
    endpoint base = endpoint base' := by
  change dropEndWhile (· == '/') base = dropEndWhile (· == '/') base' at h
  rw [endpoint, endpoint, h]

/-- **The spellings of a base address have the same endpoint.** -/
theorem endpoint_of_spelling {base spelled : Text} (h : Spelling base spelled) :
    endpoint spelled = endpoint base := by
  cases h with
  | plain => exact endpoint_congr (bare_bare base)
  | slashes count => exact endpoint_congr (bare_append_slashes base count)
  | version count h =>
    -- without the slashes at its end the base ends in the version, which is not added again
    have hbare : bare (bare base ++ versionPart ++ List.replicate count '/') =
        bare base ++ versionPart := by
      rw [bare_append_slashes, bare_append_version]
    have hversion : versionPart <:+ bare (bare base ++ versionPart ++ List.replicate count '/') := by
      rw [hbare]
      exact List.suffix_append (bare base) versionPart
    calc
      endpoint (bare base ++ versionPart ++ List.replicate count '/')
      _ = bare base ++ versionPart ++ "/chat/completions".toList := by
        rw [endpoint_of_version hversion, hbare]
      _ = bare base ++ "/v1/chat/completions".toList := by
        rw [List.append_assoc]
        rfl
      _ = endpoint base := (endpoint_of_not_version h).symm

/-- **What an endpoint is made of**: the base without its version, if it has one, and the path of
the service with the version. -/
theorem exists_endpoint_eq (base : Text) :
    ∃ front, endpoint base = front ++ "/v1/chat/completions".toList ∧
      (bare base = front ++ versionPart ∨ ¬versionPart <:+ bare base ∧ bare base = front) := by
  by_cases hversion : versionPart <:+ bare base
  · obtain ⟨front, hfront⟩ := hversion
    refine ⟨front, ?_, .inl hfront.symm⟩
    rw [endpoint_of_version ⟨front, hfront⟩, ← hfront, List.append_assoc]
    rfl
  · exact ⟨bare base, endpoint_of_not_version hversion, .inr ⟨hversion, rfl⟩⟩

/-- A slash before the path of the service is one that stood before the version of the base. -/
theorem getLast?_front_iff {base front : Text}
    (h : bare base = front ++ versionPart ∨ ¬versionPart <:+ bare base ∧ bare base = front) :
    front.getLast? = some '/' ↔ "//v1".toList <:+ bare base := by
  have hslash : "//v1".toList = ['/'] ++ versionPart := rfl
  rcases h with h | ⟨hversion, h⟩
  · rw [h, hslash, List.suffix_append_self_iff, List.getLast?_eq_some_iff]
    exact exists_congr fun t => eq_comm
  · rw [← h]
    refine iff_of_false (getLast?_bare base) fun hend => hversion ?_
    exact (List.suffix_append ['/'] versionPart).trans (hslash ▸ hend)

/-- **One endpoint for all spellings.**  However a base address is written, the provider sends its
one request to the same endpoint.  This starts with the base without slashes at its end and ends
with the path of the service; before that path there is a slash only if one stands before the
version of the base. -/
theorem spellings_share_endpoint {m : Type → Type} [Monad m] [LawfulMonad m] (note : Reporter m)
    (backends : Backends m) (key model prompt base : Text) :
    (∀ spelled, Spelling base spelled →
      Records (fun made _ => ∃ reply,
          made = [.post (endpoint base) key ⟨model, prompt⟩ reply])
        (generate note.beside backends.recorded.post ⟨key, model, spelled⟩ prompt) ∧
      Erases (generate note.beside backends.recorded.post ⟨key, model, spelled⟩ prompt)
        (generate note backends.post ⟨key, model, spelled⟩ prompt)) ∧
    bare base <+: endpoint base ∧
    ∃ front, endpoint base = front ++ "/v1/chat/completions".toList ∧
      (front.getLast? = some '/' ↔ "//v1".toList <:+ bare base) := by
  refine ⟨fun spelled hspelled => ⟨?_, erases_generate note backends _ prompt⟩, ?_, ?_⟩
  · refine records_imp ?_ (records_generate note backends ⟨key, model, spelled⟩ prompt)
    rintro made outcome ⟨reply, hmade, -⟩
    exact ⟨reply, by rw [hmade, endpoint_of_spelling hspelled]⟩
  · by_cases hversion : versionPart <:+ bare base
    · exact ⟨_, (endpoint_of_version hversion).symm⟩
    · exact ⟨_, (endpoint_of_not_version hversion).symm⟩
  · obtain ⟨front, hendpoint, hfront⟩ := exists_endpoint_eq base
    exact ⟨front, hendpoint, getLast?_front_iff hfront⟩

/-- A base that ends in a slash, and its spelling with the version and two slashes. -/
theorem spellings_share_endpoint_localhost :
    Spelling "http://localhost/".toList "http://localhost/v1//".toList ∧
    ∃ reply, ((generate Reporter.silent.beside mutedBackends.recorded.post
        ⟨"k".toList, [], "http://localhost/v1//".toList⟩ "hi".toList).run []).run 0 =
      ((.ok (some "fix: x".toList),
        [.post "http://localhost/v1/chat/completions".toList "k".toList ⟨[], "hi".toList⟩ reply]),
        1) := by
  have hspelling : Spelling "http://localhost/".toList "http://localhost/v1//".toList :=
    .version 2 (by decide)
  have hrecords := alwaysReturns_state_iff.mp (((spellings_share_endpoint Reporter.silent
    mutedBackends "k".toList [] "hi".toList "http://localhost/".toList).1 _ hspelling).1 []) 0
  obtain ⟨made, hmade, reply, rfl⟩ := hrecords
  exact ⟨hspelling, reply, Prod.ext (Prod.ext (by cbv) hmade) (by cbv)⟩

/-- A slash before the version of a base stays. -/
example : endpoint "http://h//v1/".toList = "http://h//v1/chat/completions".toList := by decide

end MergeMessage.Remote
