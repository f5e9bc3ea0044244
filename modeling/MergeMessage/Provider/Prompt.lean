import MergeMessage.Text.Blank

/-!
# Prompts

A prompt for a commit message states the rules of such messages and then what is known of the
pull request.  Blank parts are left out.

## Main definitions

* `commitRules` — the rules.
* `buildPrompt` — the prompt for a pull request.
* `pingPrompt` — the prompt that only asks for some answer.
-/

namespace MergeMessage

/-- The rules for commit messages that a model is given. -/
def commitRules : Text :=
  Text.join ['\n'] <| List.map String.toList [
    "Generate a Conventional Commit message. Return ONLY the commit message, nothing else.",
    "",
    "Format: type(scope): description",
    "",
    "Types:",
    "- feat: new feature or capability",
    "- fix: bug fix",
    "- refactor: code change that neither fixes a bug nor adds a feature",
    "- docs: documentation only",
    "- test: adding or updating tests",
    "- chore: maintenance tasks, dependencies",
    "- style: formatting, whitespace (not CSS)",
    "- perf: performance improvement",
    "- build: build system or external dependencies",
    "- ci: CI configuration",
    "- revert: reverting a previous commit",
    "",
    "Rules:",
    "- Type must be lowercase (feat, not Feat or FEAT)",
    "- Description must start lowercase (add feature, not Add feature)",
    "- Start the description with a verb such as add, fix, update, remove, extract, rename, support",
    "- Use imperative mood (\"add feature\" not \"added feature\" or \"adds feature\")",
    "- No period at the end",
    "- Scope is optional; use kebab-case with no space before it: type(scope): not type (scope):",
    "- Keep under 50 characters (max 72 characters)",
    "- Be specific, not vague (\"add password validation\" not \"update auth\")",
    "- Never start with a ticket ID (e.g. don't start with ECHO-1234)",
    "",
    "Examples:",
    "- feat(auth): add OAuth2 login support",
    "- fix(cart): prevent duplicate items when clicking rapidly",
    "- refactor(api): extract validation logic into middleware",
    "- docs: update installation instructions",
    "- chore: upgrade webpack to v5"]

/-- A prompt that only asks for some answer. -/
def pingPrompt : Text := "Say hi".toList

/-- A part of a prompt: the text without blanks at its ends between two fixed texts, or nothing
if it is blank. -/
def promptSection (before : String) (text : Text) (after : String) : Text :=
  if (Text.trim text).isEmpty then [] else before.toList ++ Text.trim text ++ after.toList

/-- The prompt for a pull request.  The author's own notes come first and take priority. -/
def buildPrompt (notes title description : Text) (ticketTitle : Option Text) : Text :=
  Text.trim <|
    commitRules ++ "\n\n".toList ++
    promptSection "User's notes (prioritize this over the PR details):\n" notes "\n\n" ++
    "PR Title: ".toList ++ Text.trim title ++ "\n".toList ++
    promptSection "Ticket Title: " (ticketTitle.getD []) "\n" ++
    promptSection "\nPR Description:\n" description ""

end MergeMessage
