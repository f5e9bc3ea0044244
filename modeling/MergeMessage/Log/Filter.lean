import MergeMessage.Log.Entry
import MergeMessage.Pattern.Reader

/-!
# Which entries are shown

How much of the log is shown depends on how often the user asked for more.  The environment may
say it more precisely: it holds directives with commas between them, each of which sets the most
detailed level that is shown, for all topics or for those whose names start with a given text.
After a slash stands a pattern that must occur in the entries.

## Main definitions

* `Directive` — a level for some topics; `Directive.ofText`.
* `LogFilter` — the directives that hold; `LogFilter.admits`.
* `LogFilter.refine` — a filter with the directives of a text, and what is wrong in the text.
-/

namespace MergeMessage

/-- The rank that entries must not exceed, for a level by its name in letters of either case. -/
def rankOfName? (s : Text) : Option Nat :=
  [("off", 0), ("error", 1), ("warn", 2), ("info", 3), ("debug", 4), ("trace", 5)].findSome?
    fun (name, rank) => if s.map Char.toLower = name.toList then some rank else none

/-- The greatest rank. -/
def maxRank : Nat := 5

/-- A directive: what is shown of some topics. -/
structure Directive where
  /-- What the names of the topics start with; all topics if absent. -/
  topics : Option Text
  /-- The rank that entries must not exceed. -/
  rank : Nat
  deriving DecidableEq, Repr

namespace Directive

/-- The directive that a text stands for, or the part of the text that stands for nothing: a
level, a start of topics, or both with an equals sign between them. -/
def ofText (s : Text) : Except Text Directive :=
  match Text.pieces '=' s with
  | [topics] =>
    match rankOfName? topics with
    | some rank => .ok ⟨none, rank⟩
    | none => .ok ⟨some topics, maxRank⟩
  | [topics, level] =>
    let level := Text.trim level
    if level.isEmpty then .ok ⟨some topics, maxRank⟩
    else
      match rankOfName? level with
      | some rank => .ok ⟨some topics, rank⟩
      | none => .error level
  | _ => .error s

/-- Does the directive speak of a topic? -/
def covers (d : Directive) (topic : Topic) : Bool :=
  match d.topics with
  | some start => topic.name.startsWith start
  | none => true

/-- How precisely the directive says which topics it speaks of. -/
def precision (d : Directive) : Nat := (d.topics.getD []).length

end Directive

/-- Which entries are shown. -/
structure LogFilter where
  /-- The directives, in their order. -/
  directives : List Directive
  /-- A pattern that must occur in the entries. -/
  pattern : Option Pattern := none
  deriving DecidableEq, Repr

namespace LogFilter

/-- The filter of a user who asked for more so many times. -/
def ofVerbosity (verbosity : Nat) : LogFilter := ⟨[⟨none, min (verbosity + 2) maxRank⟩], none⟩

/-- The directives with one more, which takes the place of one for the same topics. -/
def insert (d : Directive) : List Directive → List Directive
  | [] => [d]
  | e :: es => if e.topics = d.topics then d :: es else e :: insert d es

/-- The directive for a topic: the most precise one, of two the later. -/
def directive? (f : LogFilter) (topic : Topic) : Option Directive :=
  (f.directives.filter (·.covers topic)).foldl (fun best d =>
    match best with
    | some b => if b.precision ≤ d.precision then some d else some b
    | none => some d) none

/-- Is an entry shown? -/
def admits (f : LogFilter) (e : LogEntry) : Bool :=
  (f.directive? e.topic).any (e.level.rank ≤ ·.rank) &&
    f.pattern.all (·.occursIn e.message)

/-- What is said about a part that is passed over. -/
def complaint (what : Text) : Text := "warning: ".toList ++ what ++ ", ignoring it".toList

/-- What is said about a text that stands for nothing. -/
def invalid (s : Text) (why : Text) : Text :=
  complaint ("invalid logging spec '".toList ++ s ++ '\'' :: why)

/-- What is said about a text that is no pattern. -/
def noPattern (report : Text) : Text := complaint ("invalid regex filter - ".toList ++ report)

/-- The filter with one more directive, or what is wrong with the directive. -/
def refineBy (step : LogFilter × List Text) (s : Text) : LogFilter × List Text :=
  match Directive.ofText s with
  | .ok d => ({ step.1 with directives := insert d step.1.directives }, step.2)
  | .error part => (step.1, step.2 ++ [invalid part []])

/-- The filter with the directives of a text, and what is wrong in the text. -/
def refine (f : LogFilter) (s : Text) : LogFilter × List Text :=
  let refineAll (f : LogFilter) (s : Text) : LogFilter × List Text :=
    (((Text.pieces ',' s).map Text.trim).filter (!·.isEmpty)).foldl refineBy (f, [])
  match Text.pieces '/' s with
  | [directives] => refineAll { f with pattern := none } directives
  | [directives, pattern] =>
    match Pattern.ofText pattern with
    | .ok pattern => refineAll { f with pattern := some pattern } directives
    | .error report =>
      let (refined, complaints) := refineAll { f with pattern := none } directives
      (refined, complaints ++ [noPattern report])
  | _ => ({ f with pattern := none }, [invalid s " (too many '/'s)".toList])

/-- What is shown of the log, as the user and the environment ask for it, and what is wrong in
the words of the environment. -/
def ofUser (verbosity : Nat) (directives : Option Text) : LogFilter × List Text :=
  match directives with
  | some s => (ofVerbosity verbosity).refine s
  | none => (ofVerbosity verbosity, [])

end LogFilter

end MergeMessage
