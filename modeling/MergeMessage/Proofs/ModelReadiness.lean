import MergeMessage.Proofs.DaemonVisits
import MergeMessage.Proofs.Subjects

/-!
# Whether a model is ready

The daemon is asked once which models are installed, and the names in its reply settle whether the
model is ready: the model is named as it is or, without a tag of its own, with the tag `latest`.  The
order of the names and how often each of them stands there make no difference.

## Main definitions

* `IsNameOf` — the names that an installed model may have to be the wanted one.

## Main results

* `modelMatches_iff` — which names are matched.
* `Daemon.readiness_eq_downloadable_iff`, `Daemon.readiness_eq_unavailable_iff` — the other answers.
* `Daemon.readiness_settled_by_names` — the names that are listed settle whether the model is ready.
-/

namespace MergeMessage

open Text

/-- A name for the model: its own or, if it has no tag, its own with the tag `latest`. -/
def IsNameOf (model name : Text) : Prop :=
  name = model ∨ ':' ∉ model ∧ name = model ++ ":latest".toList

instance (model name : Text) : Decidable (IsNameOf model name) :=
  inferInstanceAs (Decidable (_ ∨ _))

/-- **Which names are matched.**  The name of a tag may be cut off only where the wanted name has no
colon, so it is cut off behind the wanted name. -/
theorem modelMatches_iff {model name : Text} :
    modelMatches model name = true ↔ IsNameOf model name := by
  have hlatest : ":latest".toList = ':' :: "latest".toList := rfl
  unfold modelMatches IsNameOf
  by_cases hmodel : ':' ∈ model
  · rw [if_pos (by simpa using hmodel), beq_iff_eq, or_iff_left (fun h => h.1 hmodel)]
    exact eq_comm
  rw [if_neg (by simpa using hmodel), and_iff_right hmodel, hlatest]
  -- a name is split at its first colon, and the model has none
  by_cases hname : ':' ∈ name
  · obtain ⟨front, tag, rfl, hfront⟩ := List.eq_append_cons_of_mem hname
    have hsplit {front : Text} (hfront : ':' ∉ front) (tag : Text) :
        splitOnce? (front ++ ':' :: tag) [':'] = some (front, tag) :=
      Commit.splitOnce?_append hfront [] tag
    have hne : front ++ ':' :: tag ≠ model := fun heq => hmodel (heq ▸ hname)
    rw [hsplit hfront, or_iff_right hne]
    simp only [Bool.and_eq_true, beq_iff_eq]
    constructor
    · rintro ⟨rfl, rfl⟩
      rfl
    · intro heq
      have hparts := (hsplit hfront tag).symm.trans (heq ▸ hsplit hmodel "latest".toList)
      exact Prod.mk.inj (Option.some.inj hparts)
  · have hne : name ≠ model ++ ':' :: "latest".toList := by
      rintro rfl
      simp at hname
    rw [Commit.splitOnce?_of_notMem hname [], or_iff_left hne]
    simp

namespace Daemon

/-! ### The three answers -/

theorem readiness_eq_available_iff {model : Text} {listing : Option Http.Reply} :
    readiness model listing = .available ↔
      ∃ names, listedNames? listing = some names ∧ ∃ name ∈ names, IsNameOf model name := by
  simp only [readiness, readinessOf_eq_available_iff, modelMatches_iff]

theorem readiness_eq_unavailable_iff {model : Text} {listing : Option Http.Reply} :
    readiness model listing = .unavailable ↔ listedNames? listing = none := by
  unfold readiness
  cases listedNames? listing with
  | none => simp [readinessOf]
  | some names =>
    rw [readinessOf]
    split <;> simp

theorem readiness_eq_downloadable_iff {model : Text} {listing : Option Http.Reply} :
    readiness model listing = .downloadable ↔
      ∃ names, listedNames? listing = some names ∧ ∀ name ∈ names, ¬IsNameOf model name := by
  unfold readiness
  cases listedNames? listing with
  | none => simp [readinessOf]
  | some names => simp [readinessOf, modelMatches_iff]

/-! ### The set of names -/

section

variable {model : Text} {listing listing' : Option Http.Reply} {names names' : List Text}

/-- A model that is listed is listed among more names, too. -/
theorem readiness_mono (h : listedNames? listing = some names)
    (h' : listedNames? listing' = some names') (hsub : names ⊆ names')
    (hready : readiness model listing = .available) : readiness model listing' = .available := by
  obtain ⟨other, hother, name, hname, hmodel⟩ := readiness_eq_available_iff.mp hready
  obtain rfl : names = other := Option.some.inj (h.symm.trans hother)
  exact readiness_eq_available_iff.mpr ⟨names', h', name, hsub hname, hmodel⟩

/-- Only the set of the names matters. -/
theorem readiness_congr (h : listedNames? listing = some names)
    (h' : listedNames? listing' = some names') (hsame : ∀ name, name ∈ names ↔ name ∈ names') :
    readiness model listing' = readiness model listing := by
  have hany : names'.any (modelMatches model) = names.any (modelMatches model) := by
    rw [Bool.eq_iff_iff, List.any_eq_true, List.any_eq_true]
    exact exists_congr fun name => and_congr_left' (hsame name).symm
  rw [readiness, readiness, h, h', readinessOf, readinessOf, hany]

end

/-- **The names that are listed settle whether a model is ready.**  One request asks for the
installed models, and whatever becomes of it settles the answer.  The model is available exactly if
there is a list, in a reply that is no refusal, and it has a name of the model; it can be downloaded
exactly if there is a list and it has no such name; and without a list, for whatever reason, no
runtime answers.  So two lists of the same names lead to the same answer, and a model that is
available stays so if more names are listed. -/
theorem readiness_settled_by_names {m : Type → Type} [Monad m] [LawfulMonad m] (note : Reporter m)
    (network : Http.Network m) (d : Daemon) :
    Records (Sends fun tried ready => ∃ listing,
        tried = [⟨{ address := d.base ++ "/api/tags".toList }, listing⟩] ∧
        ready = readiness d.model listing)
      (availability note.beside network.recorded d) ∧
    Erases (availability note.beside network.recorded d) (availability note network d) ∧
    (∀ listing,
      (readiness d.model listing = .available ↔
        ∃ names, listedNames? listing = some names ∧ ∃ name ∈ names, IsNameOf d.model name) ∧
      (readiness d.model listing = .downloadable ↔
        ∃ names, listedNames? listing = some names ∧ ∀ name ∈ names, ¬IsNameOf d.model name) ∧
      (readiness d.model listing = .unavailable ↔ listedNames? listing = none)) ∧
    ∀ listing listing' names names', listedNames? listing = some names →
      listedNames? listing' = some names' →
      ((∀ name, name ∈ names ↔ name ∈ names') →
        readiness d.model listing' = readiness d.model listing) ∧
      (names ⊆ names' → readiness d.model listing = .available →
        readiness d.model listing' = .available) := by
  refine ⟨records_readiness note network d, ?_, fun listing => ⟨?_, ?_, ?_⟩, ?_⟩
  · exact lockstep_erases.availability (erases_note note) (erases_recorded _ _)
  · exact readiness_eq_available_iff
  · exact readiness_eq_downloadable_iff
  · exact readiness_eq_unavailable_iff
  · intro listing listing' names names' h h'
    exact ⟨readiness_congr h h', readiness_mono h h'⟩

/-- A reply that lists the model in another size only. -/
def otherSize : Http.Reply where
  status := 200
  body := Text.octets "\x7b\"models\":[\x7b\"name\":\"m:1b\"\x7d]\x7d".toList

/-- A reply that lists the model twice, and in another size. -/
def bothSizes : Http.Reply where
  status := 200
  body := Text.octets ("\x7b\"models\":[\x7b\"name\":\"m:latest\"\x7d,\x7b\"name\":\"m:1b\"\x7d," ++
    "\x7b\"name\":\"m:latest\"\x7d]\x7d").toList

/-- A host that replies with both sizes, and counts how often it is asked. -/
def bothSizesHost : Http.Network (StateM Nat) := fun _ => do
  modify (· + 1)
  return some bothSizes

/-- The record of the question whether a model is ready. -/
def bothSizesAnswer : Availability × List Delivery :=
  (((availability Reporter.silent.beside bothSizesHost.recorded
    ⟨"http://localhost".toList, "m".toList⟩).run []).run 0).1

/-- A model without a tag is not ready in another size; with the tag `latest` it is. -/
theorem readiness_settled_by_tag :
    bothSizesAnswer.1 = readiness "m".toList (some bothSizes) ∧
    (bothSizesAnswer.2.map fun e => (e.request.address, e.reply)) =
      [("http://localhost/api/tags".toList, some bothSizes)] ∧
    readiness "m".toList (some bothSizes) = .available ∧
    readiness "m".toList (some otherSize) = .downloadable := by
  have hmap : (bothSizesAnswer.2.map fun e => (e.request.address, e.reply)) =
      [("http://localhost/api/tags".toList, some bothSizes)] := by decide +kernel
  have hboth : listedNames? (some bothSizes) =
      some ["m:latest".toList, "m:1b".toList, "m:latest".toList] := by decide +kernel
  have hother : listedNames? (some otherSize) = some ["m:1b".toList] := by decide +kernel
  obtain ⟨hrecords, -, hanswers, -⟩ := readiness_settled_by_names Reporter.silent bothSizesHost
    ⟨"http://localhost".toList, "m".toList⟩
  obtain ⟨made, hmade, tried, ⟨listing, rfl, hready⟩, rfl, -⟩ :=
    alwaysReturns_state_iff.mp (hrecords []) 0
  refine ⟨?_, hmap, (hanswers (some bothSizes)).1.mpr ⟨_, hboth, by decide⟩,
    (hanswers (some otherSize)).2.1.mpr ⟨_, hother, by decide⟩⟩
  -- the recorded reply is the one that settles the answer
  have hmem : ("http://localhost/api/tags".toList, some bothSizes) ∈
      bothSizesAnswer.2.map fun e => (e.request.address, e.reply) := by
    rw [hmap]
    exact List.mem_singleton_self _
  obtain ⟨e, he, heq⟩ := List.mem_map.mp hmem
  change bothSizesAnswer.2 = _ at hmade
  rw [hmade, List.nil_append] at he
  obtain rfl := List.mem_singleton.mp (List.mem_filter.mp he).1
  obtain rfl : listing = some bothSizes := (Prod.mk.inj heq).2
  exact hready

end Daemon

end MergeMessage
