import MergeMessage.Proofs.Texts
import MergeMessage.PullRequest.Context

/-!
# What is remembered of a sequence of views

The context is refreshed with one view after the other.  What it holds in the end is a function
of the last views alone, those since the page became the one it is: the last description and the
last ticket among them.  Nothing that was shown before the page changed is left, whether the page
was seen before or not.

## Main definitions

* `keyAfter` — the key of the last view.
* `currentViews` — the views since the page became that of the last view.
* `showsDescription`, `linksTicket` — does a view tell something?

## Main results

* `currentViews_concat` — one more view continues the current ones, or replaces them.
* `suffix_currentViews` — no longer run of last views is of one page.
* `afterViews_eq_of_currentViews` — what is remembered.
-/

namespace MergeMessage.PullRequest

namespace Context

/-- The key of the last view. -/
def keyAfter (views : List Snapshot) : Option Text :=
  views.getLast?.bind fun view => key? view.location

/-- Is this the key of the view? -/
def hasKey (key : Option Text) (view : Snapshot) : Bool := key? view.location = key

/-- The last views, as far back as all of them have the key of the last one. -/
def currentViews (views : List Snapshot) : List Snapshot :=
  views.rtakeWhile (hasKey (keyAfter views))

/-- Does the view show a description that is not blank? -/
def showsDescription (view : Snapshot) : Bool := !Text.isAllBlank view.rawDescription

/-- Does the address of the view's ticket link hold a ticket id? -/
def linksTicket (view : Snapshot) : Bool := (view.ticketAddress.bind Ticket.firstId?).isSome

@[simp] theorem keyAfter_nil : keyAfter [] = none := rfl

@[simp] theorem keyAfter_concat (views : List Snapshot) (view : Snapshot) :
    keyAfter (views ++ [view]) = key? view.location := by
  simp [keyAfter]

@[simp] theorem hasKey_iff {key : Option Text} {view : Snapshot} :
    hasKey key view = true ↔ key? view.location = key := by
  simp [hasKey]

/-! ### The current views -/

theorem currentViews_suffix (views : List Snapshot) : currentViews views <:+ views :=
  List.rtakeWhile_suffix _ _

theorem key_of_mem_currentViews {views : List Snapshot} {view : Snapshot}
    (h : view ∈ currentViews views) : key? view.location = keyAfter views :=
  hasKey_iff.mp (List.mem_rtakeWhile_imp h)

/-- The current views are as many as can be: all last views of the same page are among them. -/
theorem suffix_currentViews {views longer : List Snapshot} (hsuffix : longer <:+ views)
    (hkey : ∀ view ∈ longer, key? view.location = keyAfter views) :
    longer <:+ currentViews views := by
  obtain ⟨before, hviews⟩ := hsuffix
  have hall : ∀ view ∈ longer.reverse, hasKey (keyAfter views) view = true := by
    intro view hview
    exact hasKey_iff.mpr (hkey view (List.mem_reverse.mp hview))
  unfold currentViews List.rtakeWhile
  rw [← hviews] at hall ⊢
  rw [List.reverse_append, List.takeWhile_append_of_pos hall, List.reverse_append,
    List.reverse_reverse]
  exact List.suffix_append _ _

/-- One more view of the same page joins the current ones; a view of another page is the only
current one. -/
theorem currentViews_concat (views : List Snapshot) (view : Snapshot) :
    currentViews (views ++ [view]) =
      (if key? view.location = keyAfter views then currentViews views else []) ++ [view] := by
  have hview : hasKey (key? view.location) view = true := hasKey_iff.mpr rfl
  rw [currentViews, keyAfter_concat, List.rtakeWhile_concat_pos _ _ _ hview]
  split
  · next heq => rw [heq, currentViews]
  · next hne =>
    congr 1
    -- another page: the view before this one, if there is any, is not of it
    rw [List.rtakeWhile_eq_nil_iff]
    intro hviews hlast
    refine hne ?_
    rw [keyAfter, List.getLast?_eq_some_getLast hviews]
    exact (hasKey_iff.mp hlast).symm

/-! ### What one view tells -/

theorem descriptionOf?_eq (view : Snapshot) :
    descriptionOf? view =
      if showsDescription view then some (Text.trim view.rawDescription) else none := by
  have hiff : view.description.isEmpty = Text.isAllBlank view.rawDescription := by
    rw [Bool.eq_iff_iff, List.isEmpty_iff]
    exact Text.trim_eq_nil_iff
  unfold descriptionOf? showsDescription
  rw [hiff]
  cases Text.isAllBlank view.rawDescription <;> rfl

/-- A view tells a ticket exactly if its link holds an id. -/
theorem isSome_ticketOf? (view : Snapshot) : (ticketOf? view).isSome = linksTicket view := by
  unfold ticketOf? linksTicket
  cases view.ticketAddress with
  | none => rfl
  | some address => simp [Ticket.ofLink?]

/-! ### The last word -/

/-- The last value of the views that have one, when one more view comes. -/
theorem getLast?_filter_concat (p : Snapshot → Bool) (views : List Snapshot) (view : Snapshot) :
    ((views ++ [view]).filter p).getLast? =
      if p view then some view else (views.filter p).getLast? := by
  rw [List.filter_append]
  by_cases hp : p view = true
  · simp [hp]
  · simp [hp]

/-- What is known after views of one page with this key. -/
def summary (key : Option Text) (recent : List Snapshot) : Context where
  key := key
  description := (recent.filter showsDescription).getLast?.map fun v => Text.trim v.rawDescription
  ticket := (recent.filter linksTicket).getLast?.bind ticketOf?

@[simp] theorem summary_nil (key : Option Text) : summary key [] = { key := key } := rfl

/-- One more view is learned on top of the others. -/
theorem learn_summary (key : Option Text) (recent : List Snapshot) (view : Snapshot) :
    (summary key recent).learn view = summary key (recent ++ [view]) := by
  have hticket := isSome_ticketOf? view
  -- a view without a ticket of its own leaves the last one standing
  unfold learn summary
  congr 1
  · rw [descriptionOf?_eq, getLast?_filter_concat]
    cases showsDescription view <;> rfl
  · rw [getLast?_filter_concat]
    cases ht : ticketOf? view with
    | none =>
      rw [ht] at hticket
      simp [← hticket]
    | some ticket =>
      rw [ht] at hticket
      simp [← hticket, ht]

/-- **The invariant of a history.**  What is known is the summary of the current views. -/
theorem afterViews_eq_summary (views : List Snapshot) :
    afterViews views = summary (keyAfter views) (currentViews views) := by
  induction views using List.reverseRecOn with
  | nil => rfl
  | append_singleton views view ih =>
    rw [afterViews_concat, refresh, ih, keyAfter_concat, currentViews_concat, ← learn_summary]
    congr 1
    unfold moveTo
    split
    · next heq =>
      -- the same page: the current views go on
      have hkey : key? view.location = keyAfter views := heq
      rw [if_pos hkey, hkey]
    · next hne =>
      -- another page: nothing is left of what was known
      have hkey : ¬key? view.location = keyAfter views := hne
      rw [if_neg hkey, summary_nil]

/-- The key of the current views is that of all views. -/
theorem keyAfter_currentViews (views : List Snapshot) :
    keyAfter (currentViews views) = keyAfter views := by
  induction views using List.reverseRecOn with
  | nil => rfl
  | append_singleton views view ih => rw [currentViews_concat, keyAfter_concat, keyAfter_concat]

theorem currentViews_currentViews (views : List Snapshot) :
    currentViews (currentViews views) = currentViews views := by
  conv_lhs => rw [currentViews, keyAfter_currentViews, currentViews]
  rw [List.rtakeWhile_idempotent, currentViews]

/-- **What is remembered.**  The key is that of the last view.  Among the longest run of last
views with this key, the last description that is not blank and the last ticket are known, and
what came before this run makes no difference. -/
theorem afterViews_eq_of_currentViews (views : List Snapshot) :
    (currentViews views <:+ views ∧
      (∀ view ∈ currentViews views, key? view.location = keyAfter views) ∧
      ∀ longer, longer <:+ views → (∀ view ∈ longer, key? view.location = keyAfter views) →
        longer <:+ currentViews views) ∧
    (afterViews views).key = keyAfter views ∧
    (afterViews views).description =
      ((currentViews views).filter showsDescription).getLast?.map
        (fun view => Text.trim view.rawDescription) ∧
    (afterViews views).ticket =
      ((currentViews views).filter linksTicket).getLast?.bind ticketOf? ∧
    afterViews views = afterViews (currentViews views) := by
  have hsummary := afterViews_eq_summary views
  -- on their own, the current views have the same summary
  have hcurrent := afterViews_eq_summary (currentViews views)
  rw [keyAfter_currentViews, currentViews_currentViews, ← hsummary] at hcurrent
  refine ⟨⟨currentViews_suffix views, fun view => key_of_mem_currentViews,
    fun longer => suffix_currentViews⟩, ?_, ?_, ?_, hcurrent.symm⟩
  · rw [hsummary, summary]
  · rw [hsummary, summary]
  · rw [hsummary, summary]

end Context

end MergeMessage.PullRequest
