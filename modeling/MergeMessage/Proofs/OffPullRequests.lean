import MergeMessage.Proofs.ContextHistory

/-!
# Views that are of no pull request

Pages other than those of pull requests have no key, and any two of them count as the same page.
What is known is dropped when the views leave a pull request, but from then on it is kept from one
such page to the next.  So a view of no pull request never brings up anything of a pull request, and
what it does bring up, besides what it shows itself, is from the views since the last one.

## Main definitions

* `viewsOff` — the views since the last one of a pull request.

## Main results

* `afterViews_concat_of_none` — what is known at a view of no pull request.
* `carried_off_pull_requests_iff` — when a view of no pull request brings up something that it does
  not show.
-/

namespace MergeMessage.PullRequest

namespace Context

/-- The last views, as far back as none of them is of a pull request. -/
def viewsOff (views : List Snapshot) : List Snapshot := views.rtakeWhile (hasKey none)

theorem key_of_mem_viewsOff {views : List Snapshot} {view : Snapshot} (h : view ∈ viewsOff views) :
    key? view.location = none :=
  hasKey_iff.mp (List.mem_rtakeWhile_imp h)

/-- Right behind a view of a pull request there are none. -/
theorem viewsOff_eq_nil {views : List Snapshot} (h : keyAfter views ≠ none) :
    viewsOff views = [] := by
  rw [viewsOff, List.rtakeWhile_eq_nil_iff]
  intro hviews hlast
  refine h ?_
  rw [keyAfter, List.getLast?_eq_some_getLast hviews]
  exact hasKey_iff.mp hlast

theorem viewsOff_viewsOff (views : List Snapshot) : viewsOff (viewsOff views) = viewsOff views :=
  List.rtakeWhile_idempotent _ _

theorem currentViews_concat_of_none (views : List Snapshot) {view : Snapshot}
    (h : key? view.location = none) : currentViews (views ++ [view]) = viewsOff views ++ [view] := by
  rw [currentViews, keyAfter_concat, h, List.rtakeWhile_concat_pos _ _ _ (hasKey_iff.mpr h),
    viewsOff]

/-- At a view of no pull request, what it shows is learned on top of what the views since the last
pull request have shown. -/
theorem afterViews_concat_of_none (views : List Snapshot) {view : Snapshot}
    (h : key? view.location = none) :
    afterViews (views ++ [view]) = (summary none (viewsOff views)).learn view := by
  rw [afterViews_eq_summary, keyAfter_concat, h, currentViews_concat_of_none views h, learn_summary]

/-- Something to fall back on makes no difference if there is a value, or if it is nothing. -/
theorem or_eq_or_none_iff {α : Type} {own other : Option α} :
    own.or other = own.or none ↔ own.isSome = true ∨ other = none := by
  cases own <;> simp

theorem isSome_descriptionOf? (view : Snapshot) :
    (descriptionOf? view).isSome = showsDescription view := by
  rw [descriptionOf?_eq]
  cases showsDescription view <;> rfl

theorem description_summary_eq_none_iff {key : Option Text} {recent : List Snapshot} :
    (summary key recent).description = none ↔ ∀ view ∈ recent, showsDescription view = false := by
  simp [summary]

theorem ticket_summary_eq_none_iff {key : Option Text} {recent : List Snapshot} :
    (summary key recent).ticket = none ↔ ∀ view ∈ recent, linksTicket view = false := by
  have hticket : (summary key recent).ticket =
      (recent.filter linksTicket).getLast?.bind ticketOf? := rfl
  rw [hticket]
  cases hlast : (recent.filter linksTicket).getLast? with
  | none => simpa using hlast
  | some view =>
    -- the last view with a link gives a ticket
    obtain ⟨hmem, hlinks⟩ := List.mem_filter.mp (List.mem_of_getLast? hlast)
    have hsome : (ticketOf? view).isSome = true := by rw [isSome_ticketOf?, hlinks]
    rw [Option.bind_some, ← Option.not_isSome_iff_eq_none]
    refine iff_of_false (not_not_intro hsome) fun hnone => ?_
    simp [hnone view hmem] at hlinks

/-- **What a view of no pull request brings up.**  Nothing of a pull request, and behind a view of a
pull request nothing but what it shows itself.  In general, its description is its own exactly if it
shows one or if no view since the last pull request has shown one, and so is its ticket. -/
theorem carried_off_pull_requests_iff (views : List Snapshot) {view : Snapshot}
    (h : key? view.location = none) :
    (viewsOff views <:+ views ∧ (∀ earlier ∈ viewsOff views, key? earlier.location = none) ∧
      afterViews (views ++ [view]) = afterViews (viewsOff views ++ [view])) ∧
    (keyAfter views ≠ none → afterViews (views ++ [view]) = afterViews [view]) ∧
    ((afterViews (views ++ [view])).description = (afterViews [view]).description ↔
      showsDescription view = true ∨
        ∀ earlier ∈ viewsOff views, showsDescription earlier = false) ∧
    ((afterViews (views ++ [view])).ticket = (afterViews [view]).ticket ↔
      linksTicket view = true ∨ ∀ earlier ∈ viewsOff views, linksTicket earlier = false) := by
  have hall := afterViews_concat_of_none views h
  have hown : afterViews [view] = (summary none []).learn view := afterViews_concat_of_none [] h
  refine ⟨⟨List.rtakeWhile_suffix _ _, fun earlier => key_of_mem_viewsOff, ?_⟩, ?_, ?_, ?_⟩
  · rw [hall, afterViews_concat_of_none _ h, viewsOff_viewsOff]
  · intro hkey
    rw [hall, hown, viewsOff_eq_nil hkey]
  · rw [hall, hown, ← isSome_descriptionOf?, ← @description_summary_eq_none_iff none]
    exact or_eq_or_none_iff
  · rw [hall, hown, ← isSome_ticketOf?, ← @ticket_summary_eq_none_iff none]
    exact or_eq_or_none_iff

/-- A page with a notice and a linked ticket, which is of no pull request. -/
def noticePage : Snapshot where
  location := "/acme/shop/src/main/".toList
  rawDescription := "Moved to another host.".toList
  ticketAddress := some "https://acme.example/browse/ECHO-7".toList

/-- The notice on one page, and the ticket linked there, are brought up by another page. -/
theorem carried_to_unrelated_page :
    key? "/pull-requests/".toList = none ∧
    (afterViews ([noticePage] ++ [{ location := "/pull-requests/".toList }])).description ≠
      (afterViews [{ location := "/pull-requests/".toList }]).description ∧
    (afterViews ([noticePage] ++ [{ location := "/pull-requests/".toList }])).ticket ≠
      (afterViews [{ location := "/pull-requests/".toList }]).ticket := by
  have hkey : key? "/pull-requests/".toList = none := by decide +kernel
  have hoff : viewsOff [noticePage] = [noticePage] := by decide +kernel
  obtain ⟨-, -, hdescription, hticket⟩ :=
    @carried_off_pull_requests_iff [noticePage] { location := "/pull-requests/".toList } hkey
  rw [hoff] at hdescription hticket
  exact ⟨hkey, mt hdescription.mp (by decide +kernel), mt hticket.mp (by decide +kernel)⟩

end Context

end MergeMessage.PullRequest
