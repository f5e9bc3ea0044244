import MergeMessage.Url.Reader

/-!
# Pull request keys

The key of a pull request is the part of its address that all its views share: owner,
repository and number.  Locations are full addresses or paths, and what follows the number
does not count.

## Main definitions

* `PullRequest.keyOfPath?` — the key in a path.
* `PullRequest.key?` — the key in a location.
-/

namespace MergeMessage.PullRequest

/-- The name of the segment before the number. -/
def pullRequestsSegment : Text := "pull-requests".toList

/-- The path of a pull request without what follows its number. -/
def renderKey (owner repository number : Text) : Text :=
  '/' :: owner ++ '/' :: repository ++ '/' :: pullRequestsSegment ++ '/' :: number

/-- The key in a path, which starts with owner, repository, the name of the section and a
segment that starts with a digit. -/
def keyOfPath? (path : Text) : Option Text :=
  match path.pieces '/' with
  | [] :: owner :: repository :: name :: last :: _ =>
    let number := last.takeWhile Char.isDigit
    if owner.isEmpty || repository.isEmpty || name ≠ pullRequestsSegment || number.isEmpty then none
    else some (renderKey owner repository number)
  | _ => none

/-- The address that paths are taken against. -/
def localBase : Url :=
  { Url.ofScheme "https".toList with host := some "localhost".toList, path := ['/'] }

/-- The address of a location: an address of its own, or a path. -/
def addressOf? (location : Text) : Option Url :=
  (Url.parse? location).orElse fun _ => Url.join? localBase location

/-- The key of the pull request at a location, or `none` for any other page. -/
def key? (location : Text) : Option Text :=
  (addressOf? location).bind fun address => keyOfPath? address.path

end MergeMessage.PullRequest
