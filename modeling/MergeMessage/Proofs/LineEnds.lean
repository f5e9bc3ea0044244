import MergeMessage.Proofs.Advice
import MergeMessage.Proofs.FirstLines

/-!
# Line ends

A line may end in a carriage return and a line feed, and whoever cuts a text into lines and puts
them together again keeps the line feeds only.  For the rules on messages this makes no difference,
since both characters are blank and in no class that a rule looks for.  The exceptions are a header
that ends after its colon, where the carriage return would be its description, and a first line that
ends in two carriage returns, if the one that is left hides a mark, is all of the description, or
makes the subject too long.

## Main definitions

* `Text.withoutReturns` — a text whose lines end in line feeds only.
* `BearsReturn` — a subject that one more carriage return does not change.
* `HasPlainEnd` — a line whose carriage return is not taken for a part of it.
* `subjectRules` — the rules that look at the subject and its description.

## Main results

* `takeWhile_withoutReturns`, `dropWhile_withoutReturns` — runs of a class with both line ends or
  without both.
* `withoutReturns_append_newline` — the first line, and those after it.
* `subjectOf_withoutReturns_cases` — what becomes of the subject.
* `lint_withoutReturns` — line ends make no difference to a verdict.
-/

namespace MergeMessage

namespace Text

/-- The text with a line feed for each carriage return and line feed. -/
def withoutReturns : Text → Text
  | '\r' :: '\n' :: s => '\n' :: withoutReturns s
  | c :: s => c :: withoutReturns s
  | [] => []

/-- Both characters of a line end are in the class, or neither is. -/
def KeepsLineEnds (p : Char → Bool) : Prop := p '\r' = p '\n'

@[simp] theorem withoutReturns_nil : withoutReturns [] = [] := by simp [withoutReturns]

@[simp] theorem withoutReturns_return_newline (s : Text) :
    withoutReturns ('\r' :: '\n' :: s) = '\n' :: withoutReturns s := by
  rw [withoutReturns]

theorem withoutReturns_cons {c : Char} {s : Text} (h : c = '\r' → s.head? ≠ some '\n') :
    withoutReturns (c :: s) = c :: withoutReturns s := by
  rw [withoutReturns]
  rintro s' rfl rfl
  exact h rfl rfl

/-- **Induction along the line ends of a text.** -/
theorem lineEnds_induction {P : Text → Prop} (nil : P [])
    (lineEnd : ∀ s, P s → P ('\r' :: '\n' :: s))
    (other : ∀ c s, (c = '\r' → s.head? ≠ some '\n') → P s → P (c :: s)) (s : Text) : P s := by
  induction s using withoutReturns.induct with
  | case1 s ih => exact lineEnd s ih
  | case2 c s hne ih =>
    refine other c s (fun hc hs => ?_) ih
    obtain ⟨rest, rfl⟩ := List.head?_eq_some_iff.mp hs
    exact hne rest hc rfl
  | case3 => exact nil

theorem withoutReturns_eq_nil_iff {s : Text} : withoutReturns s = [] ↔ s = [] := by
  induction s using lineEnds_induction with
  | nil => simp
  | lineEnd s ih => simp
  | other c s h ih => simp [withoutReturns_cons h]

/-! ### Runs of a class -/

section

variable {p : Char → Bool} (hp : KeepsLineEnds p)
include hp

theorem takeWhile_withoutReturns (s : Text) :
    (withoutReturns s).takeWhile p = withoutReturns (s.takeWhile p) := by
  induction s using lineEnds_induction with
  | nil => simp
  | lineEnd s ih => cases hn : p '\n' <;> simp [hn, hp.trans hn, ih]
  | other c s h ih =>
    rw [withoutReturns_cons h]
    cases hc : p c with
    | false => simp [hc]
    | true =>
      -- what the run starts with is what the text starts with
      have hrun : c = '\r' → (s.takeWhile p).head? ≠ some '\n' := by
        intro hr hn
        refine h hr ?_
        rw [List.head?_takeWhile] at hn
        exact (Option.filter_eq_some_iff.mp hn).1
      simp [hc, withoutReturns_cons hrun, ih]

theorem dropWhile_withoutReturns (s : Text) :
    (withoutReturns s).dropWhile p = withoutReturns (s.dropWhile p) := by
  induction s using lineEnds_induction with
  | nil => simp
  | lineEnd s ih => cases hn : p '\n' <;> simp [hn, hp.trans hn, ih]
  | other c s h ih =>
    rw [withoutReturns_cons h]
    cases hc : p c with
    | false => simp [hc, withoutReturns_cons h]
    | true => simp [hc, ih]

theorem all_withoutReturns (s : Text) : (withoutReturns s).all p = s.all p := by
  induction s using lineEnds_induction with
  | nil => simp
  | lineEnd s ih => cases hn : p '\n' <;> simp [hn, hp.trans hn, ih]
  | other c s h ih => simp [withoutReturns_cons h, ih]

theorem any_withoutReturns (s : Text) : (withoutReturns s).any p = s.any p := by
  induction s using lineEnds_induction with
  | nil => simp
  | lineEnd s ih => cases hn : p '\n' <;> simp [hn, hp.trans hn, ih]
  | other c s h ih => simp [withoutReturns_cons h, ih]

theorem stopsAt_withoutReturns_iff {s : Text} : StopsAt p (withoutReturns s) ↔ StopsAt p s := by
  cases s using lineEnds_induction with
  | nil => simp
  | lineEnd s _ => simp [hp.symm]
  | other c s h _ => simp [withoutReturns_cons h]

end

/-! ### Parts -/

theorem withoutReturns_eq_self {s : Text} (h : '\n' ∉ s) : withoutReturns s = s := by
  induction s using lineEnds_induction with
  | nil => simp
  | lineEnd s _ => simp at h
  | other c s hc ih =>
    rw [List.mem_cons, not_or] at h
    rw [withoutReturns_cons hc, ih h.2]

/-- A text is cut anywhere but in a line end. -/
theorem withoutReturns_append {s t : Text} (h : s.getLast? = some '\r' → t.head? ≠ some '\n') :
    withoutReturns (s ++ t) = withoutReturns s ++ withoutReturns t := by
  -- a line end may only be torn apart where the two texts meet
  induction s using lineEnds_induction with
  | nil => simp
  | lineEnd s ih =>
    cases s with
    | nil => simp
    | cons c s => simpa using ih (by simpa using h)
  | other c s hc ih =>
    cases s with
    | nil =>
      have hct : c = '\r' → t.head? ≠ some '\n' := by simpa using h
      rw [List.cons_append, List.nil_append, withoutReturns_cons hct, withoutReturns_cons (by simp)]
      simp
    | cons d s =>
      have hih := ih (by simpa using h)
      rw [List.cons_append, withoutReturns_cons (by simpa using hc), hih, withoutReturns_cons hc,
        List.cons_append]

/-- The first line, and those after it. -/
theorem withoutReturns_append_newline {line : Text} (h : '\n' ∉ line) (s : Text) :
    withoutReturns (line ++ '\n' :: s) = dropReturn line ++ '\n' :: withoutReturns s := by
  rcases List.eq_nil_or_concat line with rfl | ⟨line, c, rfl⟩
  · rw [List.nil_append, withoutReturns_cons (by simp)]
    rfl
  · rw [List.concat_eq_append] at h ⊢
    have hline : '\n' ∉ line := fun hmem => h (List.mem_append_left _ hmem)
    by_cases hc : c = '\r'
    · subst hc
      rw [List.append_assoc, withoutReturns_append (by simp), withoutReturns_eq_self hline]
      simp [dropReturn, dropLastIf]
    · rw [withoutReturns_append (by simp [hc]), withoutReturns_eq_self h,
        withoutReturns_cons (by simp)]
      simp [dropReturn, dropLastIf, hc]

/-- A part of a line that stands in the text was there before. -/
theorem exists_append_of_withoutReturns {s front rest : Text} (hfront : '\n' ∉ front)
    (h : withoutReturns s = front ++ rest) :
    ∃ more, s = front ++ more ∧ withoutReturns more = rest := by
  induction front generalizing s with
  | nil => exact ⟨s, rfl, h⟩
  | cons d front ih =>
    rw [List.mem_cons, not_or] at hfront
    cases s using lineEnds_induction with
    | nil => simp at h
    | lineEnd s _ => exact absurd (List.cons.inj (by simpa using h)).1 hfront.1
    | other c s hc _ =>
      rw [withoutReturns_cons hc] at h
      obtain ⟨rfl, hrest⟩ := List.cons.inj h
      obtain ⟨more, rfl, hmore⟩ := ih hfront.2 hrest
      exact ⟨more, rfl, hmore⟩

theorem dropEndWhile_withoutReturns {p : Char → Bool} (hreturn : p '\r' = true)
    (hnewline : p '\n' = true) (s : Text) :
    dropEndWhile p (withoutReturns s) = withoutReturns (dropEndWhile p s) := by
  have hp : KeepsLineEnds p := hreturn.trans hnewline.symm
  obtain ⟨tail, htail, hs⟩ := exists_dropEndWhile_append p s
  have hdropped : dropEndWhile p (withoutReturns tail) = [] := by
    refine List.rdropWhile_eq_nil_iff.mpr (List.all_eq_true.mp ?_)
    rw [all_withoutReturns hp]
    exact List.all_eq_true.mpr htail
  rcases List.eq_nil_or_concat (dropEndWhile p s) with hnil | ⟨front, c, hc⟩
  · rw [hnil, List.nil_append] at hs
    rw [hnil, hs, hdropped, withoutReturns_nil]
  · rw [List.concat_eq_append] at hc
    -- the last character that is kept belongs to no line end
    have hrun : s.rdropWhile p = front ++ [c] := hc
    have hlast : p c = false := by simpa [hrun] using List.rdropWhile_last_not p s
    have hne : c ≠ '\r' ∧ c ≠ '\n' := by
      constructor <;> rintro rfl <;> simp_all
    have hcons (t : Text) :
        withoutReturns (front ++ c :: t) = withoutReturns front ++ c :: withoutReturns t := by
      rw [withoutReturns_append (by simp [hne.2]), withoutReturns_cons fun h => absurd h hne.1]
    rw [hc]
    conv_lhs => rw [hs, hc, List.append_assoc, List.singleton_append]
    rw [hcons, hcons, dropEndWhile_append_stop hlast, hdropped, withoutReturns_nil]

/-- Blank characters at the ends go with their line ends. -/
theorem trim_withoutReturns (s : Text) : trim (withoutReturns s) = withoutReturns (trim s) := by
  rw [trim, trimBy, dropWhile_withoutReturns (p := isBlank) rfl,
    dropEndWhile_withoutReturns (by decide) (by decide), trim, trimBy]

end Text

namespace Commit

open Subject Text Ticket

/-! ### Readers -/

theorem run?_withoutReturns {p : Char → Bool} (hp : KeepsLineEnds p) (s : Text) :
    run? p (withoutReturns s) = (run? p s).map (Prod.map withoutReturns withoutReturns) := by
  rw [run?, run?, takeWhile_withoutReturns hp, dropWhile_withoutReturns hp]
  cases hrun : s.takeWhile p with
  | nil => simp
  | cons c run =>
    obtain ⟨d, more, hmore⟩ := List.exists_cons_of_ne_nil
      (mt withoutReturns_eq_nil_iff.mp (List.cons_ne_nil c run))
    simp [hmore]

theorem scope?_withoutReturns (s : Text) :
    scope? (withoutReturns s) = (scope? s).map (Prod.map withoutReturns withoutReturns) := by
  cases s using lineEnds_induction with
  | nil => rfl
  | lineEnd s _ => simp [scope?_of_ne]
  | other c s hc _ =>
    rw [withoutReturns_cons hc]
    by_cases hopen : c = '('
    · subst hopen
      -- the scope is a run up to its parenthesis, and only that may follow it
      rw [scope?, scope?, run?_withoutReturns (p := (· ≠ ')')) rfl]
      cases hrun : run? (· ≠ ')') s with
      | none => rfl
      | some parts =>
        obtain ⟨scope, rest⟩ := parts
        cases rest using lineEnds_induction with
        | nil => rfl
        | lineEnd rest _ => simp
        | other d rest hd _ =>
          by_cases hclose : d = ')'
          · subst hclose
            simp [withoutReturns_cons hd]
          · simp [withoutReturns_cons hd, hclose]
    · rw [scope?_of_ne hopen, scope?_of_ne hopen]
      rfl

theorem dropBang_withoutReturns (s : Text) :
    dropBang (withoutReturns s) = withoutReturns (dropBang s) := by
  cases s using lineEnds_induction with
  | nil => rfl
  | lineEnd s _ => simp [dropBang]
  | other c s hc _ =>
    by_cases hbang : c = '!'
    · subst hbang
      simp [withoutReturns_cons hc, dropBang]
    · simp [withoutReturns_cons hc, dropBang, hbang]

/-! ### Rules about the message -/

section

open Rule

theorem lacksColon_withoutReturns (s : Text) : lacksColon (withoutReturns s) = lacksColon s := by
  rw [lacksColon, lacksColon, run?_withoutReturns (p := Char.isLower) rfl]
  cases run? Char.isLower s with
  | none => rfl
  | some parts =>
    dsimp only [Option.map_some, Prod.map]
    rw [scope?_withoutReturns]
    cases scope? parts.2 with
    | none => rfl
    | some parts =>
      dsimp only [Option.map_some, Prod.map]
      rw [dropBang_withoutReturns, run?_withoutReturns (p := isBlank) rfl]
      cases run? isBlank (dropBang parts.2) with
      | none => rfl
      | some parts =>
        obtain ⟨blanks, rest⟩ := parts
        -- neither character of a line end is a colon
        cases rest using lineEnds_induction with
        | nil => rfl
        | lineEnd rest _ => simp; decide
        | other c rest hc _ => simp [withoutReturns_cons hc]

theorem hasSpaceBeforeScope_withoutReturns (s : Text) :
    hasSpaceBeforeScope (withoutReturns s) = hasSpaceBeforeScope s := by
  rw [hasSpaceBeforeScope, hasSpaceBeforeScope, run?_withoutReturns (p := Char.isLower) rfl]
  cases run? Char.isLower s with
  | none => rfl
  | some parts =>
    dsimp only [Option.map_some, Prod.map]
    rw [run?_withoutReturns (p := isBlank) rfl]
    cases run? isBlank parts.2 with
    | none => rfl
    | some parts =>
      obtain ⟨blanks, rest⟩ := parts
      cases rest using lineEnds_induction with
      | nil => rfl
      | lineEnd rest _ => simp
      | other c rest hc _ => simp [withoutReturns_cons hc]

theorem hasUppercaseType_withoutReturns (s : Text) :
    hasUppercaseType (withoutReturns s) = hasUppercaseType s := by
  rw [hasUppercaseType, hasUppercaseType, run?_withoutReturns (p := Char.isAlpha) rfl]
  cases run? Char.isAlpha s with
  | none => rfl
  | some parts =>
    obtain ⟨kind, rest⟩ := parts
    dsimp only [Option.map_some, Prod.map]
    cases rest using lineEnds_induction with
    | nil => rfl
    | lineEnd rest _ => simp
    | other c rest hc _ =>
      rw [withoutReturns_cons hc]
      dsimp only
      rw [any_withoutReturns (p := Char.isUpper) rfl]

theorem hasNonKebabScope_withoutReturns (s : Text) :
    hasNonKebabScope (withoutReturns s) = hasNonKebabScope s := by
  rw [hasNonKebabScope, hasNonKebabScope, run?_withoutReturns (p := Char.isLower) rfl]
  cases run? Char.isLower s with
  | none => rfl
  | some parts =>
    dsimp only [Option.map_some, Prod.map]
    rw [scope?_withoutReturns]
    cases scope? parts.2 with
    | none => rfl
    | some parts =>
      obtain ⟨scope, rest⟩ := parts
      dsimp only [Option.map_some, Prod.map]
      rw [dropBang_withoutReturns]
      cases dropBang rest using lineEnds_induction with
      | nil => rfl
      | lineEnd rest _ => simp
      | other c rest hc _ =>
        rw [withoutReturns_cons hc]
        by_cases hcolon : c = ':'
        · subst hcolon
          exact congrArg (!·) (all_withoutReturns (p := isKebab) rfl scope)
        · simp [hcolon]

theorem startsWithTicket_withoutReturns (s : Text) :
    startsWithTicket (withoutReturns s) = startsWithTicket s := by
  have hat : idAt? (withoutReturns s) = idAt? s := by
    refine Option.ext fun id => ?_
    rw [idAt?_eq_some_iff, idAt?_eq_some_iff]
    -- an id holds neither character of a line end, so it cannot reach over one
    refine and_congr_right fun hid => ?_
    have hnewline := notMem_of_isTicketBreak hid isTicketBreak_newline
    have hlast : id.getLast? ≠ some '\r' := fun h =>
      notMem_of_isTicketBreak hid isTicketBreak_return (List.mem_of_getLast? h)
    constructor
    · rintro ⟨rest, hrest, heq⟩
      obtain ⟨more, rfl, rfl⟩ := exists_append_of_withoutReturns hnewline heq
      exact ⟨more, (stopsAt_withoutReturns_iff (p := Char.isDigit) rfl).mp hrest, rfl⟩
    · rintro ⟨rest, hrest, rfl⟩
      have hstop := (stopsAt_withoutReturns_iff (p := Char.isDigit) rfl).mpr hrest
      refine ⟨withoutReturns rest, hstop, ?_⟩
      rw [withoutReturns_append fun h => absurd h hlast, withoutReturns_eq_self hnewline]
  rw [startsWithTicket, startsWithTicket, hat]

end

/-! ### The first line -/

/-- One more carriage return at the end of a subject makes no difference: it is not all that follows
the colon, it does not hide a mark, and the subject does not just keep within a limit. -/
structure BearsReturn (subject : Text) : Prop where
  described : ¬[':', ' '] <:+ subject
  unmarked : ∀ c ∈ subject.getLast?, Rule.isEndMark c = false
  length_ne_limit : subject.length ≠ subjectLimit
  length_ne_preferred : subject.length ≠ subjectPreferred

/-- A carriage return at the end of the line is not taken for a part of it: it is not all that
follows the colon of a header, and if it stands behind another one, that makes no difference. -/
structure HasPlainEnd (line : Text) : Prop where
  not_description : ¬[':', ' ', '\r'] <:+ line
  two_returns : ∀ subject, line = subject ++ ['\r', '\r'] → BearsReturn subject

/-- A header that is well formed with line feeds only is well formed. -/
theorem kindOf?_of_withoutReturns {s kind : Text} (h : kindOf? (withoutReturns s) = some kind) :
    kindOf? s = some kind := by
  obtain ⟨header, hlead, hkind, ⟨c, t, hc, hdesc⟩, hs⟩ := kindOf?_eq_some_iff.mp h
  rw [Header.render_eq_lead_append] at hs
  obtain ⟨more, rfl, hmore⟩ := exists_append_of_withoutReturns (newline_notMem_lead hlead) hs
  refine kindOf?_eq_some_iff.mpr
    ⟨{ header with description := more }, ⟨hlead.1, hlead.2, hlead.3⟩, hkind, ?_, ?_⟩
  · cases more using lineEnds_induction with
    | nil => simp [hdesc] at hmore
    | lineEnd more _ =>
      rw [withoutReturns_return_newline, hdesc] at hmore
      exact absurd (List.cons.inj hmore).1.symm hc
    | other d more hd _ =>
      rw [withoutReturns_cons hd, hdesc] at hmore
      exact ⟨d, more, (List.cons.inj hmore).1 ▸ hc, rfl⟩
  · rw [Header.render_eq_lead_append]
    rfl

/-- The other way round, the description must not be the carriage return of a line end. -/
theorem kindOf?_withoutReturns_render {header : Header} (hlead : header.HasStrictLead) {c : Char}
    {t : Text} (hc : c ≠ '\n') (hdesc : header.description = c :: t)
    (hend : c = '\r' → t.head? ≠ some '\n') :
    kindOf? (withoutReturns header.render) = some header.kind := by
  refine kindOf?_eq_some_iff.mpr ⟨{ header with description := withoutReturns header.description },
    ⟨hlead.1, hlead.2, hlead.3⟩, rfl, ⟨c, withoutReturns t, hc, ?_⟩, ?_⟩
  · rw [hdesc]
    exact withoutReturns_cons hend
  · rw [Header.render_eq_lead_append, Header.render_eq_lead_append, withoutReturns_append (by simp),
      withoutReturns_eq_self (newline_notMem_lead hlead)]
    rfl

/-- If a carriage return and a line feed follow the lead of a header, the first line is the lead and
the carriage return. -/
theorem firstLine_lead_append_return {header : Header} (hlead : header.HasStrictLead) (t : Text) :
    firstLine (header.lead ++ '\r' :: '\n' :: t) = header.lead ++ ['\r'] := by
  have hline : '\n' ∉ header.lead ++ ['\r'] := by simp [newline_notMem_lead hlead]
  rw [List.append_cons]
  exact firstLine_append_newline hline t

theorem kindOf?_withoutReturns {s : Text} (h : HasPlainEnd (firstLine s)) :
    kindOf? (withoutReturns s) = kindOf? s := by
  refine Option.ext fun kind => ⟨kindOf?_of_withoutReturns, fun hkind => ?_⟩
  obtain ⟨header, hlead, rfl, ⟨c, t, hc, hdesc⟩, rfl⟩ := kindOf?_eq_some_iff.mp hkind
  refine kindOf?_withoutReturns_render hlead hc hdesc fun hr hn => h.not_description ?_
  -- otherwise the description would be the carriage return of the line end
  obtain ⟨t, rfl⟩ := List.head?_eq_some_iff.mp hn
  rw [Header.render_eq_lead_append, hdesc, hr, firstLine_lead_append_return hlead]
  exact ⟨header.kind ++ (renderScope header.scope ++ renderBreaking header.breaking),
    by simp [Header.lead]⟩

/-- The subject loses the carriage return that stands before the one of the line end. -/
theorem subjectOf_withoutReturns_cases (s : Text) :
    subjectOf (withoutReturns s) = subjectOf s ∨
      (subjectOf s = subjectOf (withoutReturns s) ++ ['\r'] ∧
        firstLine s = subjectOf (withoutReturns s) ++ ['\r', '\r']) := by
  rcases line_cases s with hmem | ⟨line, rest, hline, rfl⟩
  · exact Or.inl (by rw [withoutReturns_eq_self hmem])
  · have hdrop : '\n' ∉ dropReturn line := fun hmem =>
      hline ((dropLastIf_isPrefix _ line).sublist.mem hmem)
    rw [withoutReturns_append_newline hline, subjectOf_append_newline hdrop,
      subjectOf_append_newline hline, firstLine_append_newline hline]
    rcases dropReturn_append (dropReturn line) with hone | htwo
    · exact Or.inl hone.symm
    · refine Or.inr ⟨htwo, ?_⟩
      rcases dropReturn_append line with heq | heq
      · rw [← heq, ← heq] at htwo
        simpa using congrArg List.length htwo
      · conv_lhs => rw [heq, htwo]
        simp

/-- A carriage return at the end of a text makes no separator whole. -/
theorem isPrefixOf?_append_return {s : Text} (h : List.isPrefixOf? [':', ' '] s = none) :
    List.isPrefixOf? [':', ' '] (s ++ ['\r']) = none := by
  rw [Option.eq_none_iff_forall_ne_some] at h ⊢
  intro rest hrest
  obtain heq := List.isPrefixOf?_eq_some_iff_append_eq.mp hrest
  match s with
  | [] | [_] => simp at heq
  | c :: d :: s =>
    obtain ⟨rfl, rfl, -⟩ : ':' = c ∧ ' ' = d ∧ rest = s ++ ['\r'] := by simpa using heq
    exact h s (List.isPrefixOf?_eq_some_iff_append_eq.mpr rfl)

theorem splitOnce?_append_return (s : Text) :
    splitOnce? s [':', ' '] = none ∧ splitOnce? (s ++ ['\r']) [':', ' '] = none ∨
      ∃ before after, s = before ++ ':' :: ' ' :: after ∧
        splitOnce? s [':', ' '] = some (before, after) ∧
        splitOnce? (s ++ ['\r']) [':', ' '] = some (before, after ++ ['\r']) := by
  induction s with
  | nil => exact Or.inl ⟨rfl, rfl⟩
  | cons c s ih =>
    -- the separator stands here, or it is looked for behind this character
    cases hcut : List.isPrefixOf? [':', ' '] (c :: s) with
    | some rest =>
      have heq := List.isPrefixOf?_eq_some_iff_append_eq.mp hcut
      have hcut' : List.isPrefixOf? [':', ' '] (c :: s ++ ['\r']) = some (rest ++ ['\r']) :=
        List.isPrefixOf?_eq_some_iff_append_eq.mpr (by rw [← heq]; simp)
      refine Or.inr ⟨[], rest, heq.symm, by rw [splitOnce?, hcut], ?_⟩
      rw [List.cons_append, splitOnce?, ← List.cons_append, hcut']
    | none =>
      have hcut' := isPrefixOf?_append_return hcut
      rw [List.cons_append] at hcut'
      rw [List.cons_append, splitOnce?, hcut, splitOnce?, hcut']
      rcases ih with ⟨hnone, hnone'⟩ | ⟨before, after, rfl, hsome, hsome'⟩
      · exact Or.inl ⟨by rw [hnone]; rfl, by rw [hnone']; rfl⟩
      · exact Or.inr ⟨c :: before, after, rfl, by rw [hsome]; rfl, by rw [hsome']; rfl⟩

/-- The description of a subject with one more carriage return has it, too, if there is one. -/
theorem descriptionOf_append_return {s : Text} (h : ¬[':', ' '] <:+ s) :
    descriptionOf (s ++ ['\r']) = descriptionOf s ∨
      descriptionOf s ≠ [] ∧ descriptionOf s <:+ s ∧
        descriptionOf (s ++ ['\r']) = descriptionOf s ++ ['\r'] := by
  rcases splitOnce?_append_return s with ⟨hnone, hnone'⟩ | ⟨before, after, hs, hsome, hsome'⟩
  · exact Or.inl (by rw [descriptionOf, descriptionOf, hnone, hnone'])
  · have hdesc : descriptionOf s = after := by rw [descriptionOf, hsome]
    rw [hdesc, descriptionOf, hsome']
    refine Or.inr ⟨?_, ⟨before ++ [':', ' '], by simp [hs]⟩, rfl⟩
    rintro rfl
    exact h ⟨before, hs.symm⟩

/-! ### Tickets -/

theorem map_ids_lines_withoutReturns (s : Text) :
    (lines (withoutReturns s)).map ids = (lines s).map ids := by
  induction s using pieces_induction '\n' with
  | last s hs => rw [withoutReturns_eq_self hs]
  | cut line s hline ih =>
    have hdrop : '\n' ∉ dropReturn line := fun hmem =>
      hline ((dropLastIf_isPrefix _ line).sublist.mem hmem)
    rw [withoutReturns_append_newline hline, lines_append_newline hdrop, lines_append_newline hline,
      List.map_cons, List.map_cons, ids_dropReturn, ih]

theorem ids_withoutReturns (s : Text) : ids (withoutReturns s) = ids s := by
  rw [ids_eq_flatMap_lines, ids_eq_flatMap_lines, List.flatMap_def, List.flatMap_def,
    map_ids_lines_withoutReturns]

theorem any_mentions_withoutReturns (s id : Text) :
    ((lines (withoutReturns s)).drop 1).any (mentions · id) =
      ((lines s).drop 1).any (mentions · id) := by
  have hmentions (words : List Text) :
      words.any (mentions · id) = (words.map ids).any (·.contains id) := by
    rw [List.any_map]
    rfl
  rw [hmentions, hmentions, List.map_drop, List.map_drop, map_ids_lines_withoutReturns]

/-! ### Verdicts -/

theorem when_congr {condition : Draft → Bool} {finding : Finding} {d d' : Draft}
    (h : condition d = condition d') :
    Rule.when condition finding d = Rule.when condition finding d' := by
  rw [Rule.when, Rule.when, h]

open Rule in
/-- The rules that look at the subject and its description. -/
def subjectRules : List Rule :=
  [missingDescription, uppercaseDescription, endPunctuation, subjectTooLong, subjectLong,
    ticketInSubject]

open Rule in
theorem rules_eq_leadRules_append :
    rules = leadRules ++ malformedSubject :: unknownType :: missingDescription :: adviceRules := rfl

open Rule in
theorem missingDescription_cons_adviceRules : missingDescription :: adviceRules =
    subjectRules ++ [ticketNotInFooter, contextTicketMissing] := rfl

/-- Before the colon, line ends make no difference. -/
theorem leadRules_withoutReturns {d d' : Draft} (h : d.message = withoutReturns d'.message) :
    ∀ rule ∈ leadRules, rule d = rule d' := by
  have hempty : (withoutReturns d'.message).isEmpty = d'.message.isEmpty := by
    rw [Bool.eq_iff_iff, List.isEmpty_iff, List.isEmpty_iff, withoutReturns_eq_nil_iff]
  simp only [leadRules, List.forall_mem_cons]
  refine ⟨when_congr ?_, when_congr ?_, when_congr ?_, when_congr ?_, when_congr ?_,
    when_congr ?_, by simp⟩ <;> rw [h]
  · exact hempty
  · exact startsWithTicket_withoutReturns _
  · exact lacksColon_withoutReturns _
  · exact hasSpaceBeforeScope_withoutReturns _
  · exact hasUppercaseType_withoutReturns _
  · exact hasNonKebabScope_withoutReturns _

/-- A subject that bears one more carriage return has the same remarks on its description. -/
theorem description_append_return {s : Text} (h : BearsReturn s) :
    (descriptionOf s).isEmpty = (descriptionOf (s ++ ['\r'])).isEmpty ∧
      (descriptionOf s).head?.any Char.isUpper =
        (descriptionOf (s ++ ['\r'])).head?.any Char.isUpper ∧
      (descriptionOf s).getLast?.any Rule.isEndMark =
        (descriptionOf (s ++ ['\r'])).getLast?.any Rule.isEndMark := by
  rcases descriptionOf_append_return h.described with heq | ⟨hne, ⟨front, hfront⟩, hmore⟩
  · rw [heq]
    exact ⟨rfl, rfl, rfl⟩
  · rw [hmore]
    have hempty : (descriptionOf s).isEmpty = false := List.isEmpty_eq_false_iff.mpr hne
    have hempty' : (descriptionOf s ++ ['\r']).isEmpty = false :=
      List.isEmpty_eq_false_iff.mpr (by simp)
    refine ⟨by rw [hempty, hempty'], by rw [List.head?_append_of_ne_nil _ hne], ?_⟩
    -- neither the last character of the subject nor the carriage return is a mark
    have hlast : (descriptionOf s).getLast? = s.getLast? := by
      conv_rhs => rw [← hfront, List.getLast?_append_of_ne_nil _ hne]
    rw [hlast, List.getLast?_concat]
    cases hs : s.getLast? with
    | none => rfl
    | some c => exact h.unmarked c hs

/-- One more carriage return behind a subject makes no difference, if the subject bears it. -/
theorem subjectRules_append_return {d d' : Draft} (h : BearsReturn d.subject)
    (hsubject : d'.subject = d.subject ++ ['\r']) (hdesc : d.description = descriptionOf d.subject)
    (hdesc' : d'.description = descriptionOf d'.subject) (hticket : d.ticket = d'.ticket) :
    ∀ rule ∈ subjectRules, rule d = rule d' := by
  obtain ⟨hempty, hupper, hmark⟩ := description_append_return h
  have hlength : d'.subject.length = d.subject.length + 1 := by
    rw [hsubject, List.length_append, List.length_singleton]
  have hlimit := h.length_ne_limit
  have hpreferred := h.length_ne_preferred
  simp only [subjectRules, List.forall_mem_cons]
  refine ⟨when_congr ?_, when_congr ?_, when_congr ?_, when_congr ?_, when_congr ?_, ?_, by simp⟩
  · rw [hdesc, hdesc', hsubject, hempty]
  · rw [hdesc, hdesc', hsubject, hupper]
  · rw [hdesc, hdesc', hsubject, hmark]
  · rw [decide_eq_decide]
    omega
  · rw [decide_eq_decide]
    omega
  · have hmentions : ∀ id, mentions d.subject id = mentions d'.subject id := by
      intro id
      rw [mentions, mentions, hsubject, ids_append_break isTicketBreak_return, ids_nil,
        List.append_nil]
    exact congrArg₂ Option.bind hticket (funext fun id => when_congr (hmentions id))

/-- **Line ends make no difference to a verdict**, unless a carriage return is taken for a part of
the subject. -/
theorem lint_withoutReturns {message : Text} (h : HasPlainEnd (firstLine message.trim))
    (title : Option Text) : lint (withoutReturns message) title = lint message title := by
  have hkind := kindOf?_withoutReturns h
  have hids := ids_withoutReturns message.trim
  have hdraft : Draft.ofMessage (withoutReturns message) title =
      { Draft.ofMessage message title with
        message := withoutReturns message.trim
        subject := subjectOf (withoutReturns message.trim)
        description := descriptionOf (subjectOf (withoutReturns message.trim)) } := by
    simp only [Draft.ofMessage, trim_withoutReturns, firstId?, hids]
  have hsubject : ∀ rule ∈ subjectRules, rule (Draft.ofMessage (withoutReturns message) title) =
      rule (Draft.ofMessage message title) := by
    rw [hdraft]
    -- the subject is the same, or it loses a carriage return that it bears
    rcases subjectOf_withoutReturns_cases message.trim with heq | ⟨hreturn, hline⟩
    · rw [heq]
      simp only [subjectRules, List.forall_mem_cons]
      exact ⟨rfl, rfl, rfl, rfl, rfl, rfl, by simp⟩
    · exact subjectRules_append_return (h.two_returns _ hline) hreturn rfl rfl rfl
  have hrules : ∀ rule ∈ rules, rule (Draft.ofMessage (withoutReturns message) title) =
      rule (Draft.ofMessage message title) := by
    rw [rules_eq_leadRules_append, missingDescription_cons_adviceRules, List.forall_mem_append,
      List.forall_mem_cons, List.forall_mem_cons, List.forall_mem_append]
    -- the other rules look at the front of the message, at the type and at ticket ids
    refine ⟨leadRules_withoutReturns (by rw [hdraft]; rfl), ?_, ?_, hsubject, ?_⟩
    · rw [hdraft]
      exact when_congr (congrArg Option.isNone hkind)
    · rw [hdraft]
      exact congrArg (Option.bind · _) hkind
    · rw [hdraft]
      simp only [List.forall_mem_cons]
      refine ⟨?_, ?_, by simp⟩
      · exact congrArg (Option.bind _) (funext fun id =>
          when_congr (congrArg (!·) (any_mentions_withoutReturns _ id)))
      · exact congrArg (Option.bind _) (funext fun id =>
          when_congr (congrArg (fun found => !found.contains id) hids))
  rw [lint, lint, ← List.head?_filterMap, ← List.head?_filterMap, List.filterMap_congr hrules]

end Commit

end MergeMessage
