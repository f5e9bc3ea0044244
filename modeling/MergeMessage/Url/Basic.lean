import MergeMessage.Text.Basic

/-!
# Web addresses

An address has a scheme, for most schemes a host, and a path, a query and a fragment, each in
its encoded form.

## Main definitions

* `Url` — the parts of an address.
* `Url.render` — the text of an address.
-/

namespace MergeMessage

/-- The parts of a web address, in their encoded forms. -/
structure Url where
  /-- The scheme, in small letters. -/
  scheme : Text
  /-- The user name. -/
  username : Text
  /-- The password. -/
  password : Option Text
  /-- The host; absent if the scheme needs none. -/
  host : Option Text
  /-- The port, if it is not the usual one of the scheme. -/
  port : Option Nat
  /-- The path. -/
  path : Text
  /-- The query, without its question mark. -/
  query : Option Text
  /-- The fragment, without its number sign. -/
  fragment : Option Text
  deriving DecidableEq, Repr

namespace Url

/-- The user name and the password as they stand before the host. -/
def renderUser (u : Url) : Text :=
  match u.password with
  | some password => u.username ++ ':' :: password ++ ['@']
  | none => if u.username.isEmpty then [] else u.username ++ ['@']

/-- The host and what belongs to it, after two slashes. -/
def renderAuthority (u : Url) : Text :=
  match u.host with
  | some host =>
    '/' :: '/' :: u.renderUser ++ host ++ (u.port.map fun n => ':' :: Text.ofNat n).getD []
  | none => if u.scheme = "file".toList then ['/', '/'] else []

/-- The path as it stands in an address.  Where no host comes before it, two slashes at its front
could be taken for the start of one, and a dot is put before them. -/
def renderPath (u : Url) : Text :=
  match u.renderAuthority, u.path with
  | [], '/' :: '/' :: path => '/' :: '.' :: '/' :: '/' :: path
  | _, path => path

/-- The text of an address. -/
def render (u : Url) : Text :=
  u.scheme ++ ':' :: u.renderAuthority ++ u.renderPath ++ (u.query.map ('?' :: ·)).getD [] ++
    (u.fragment.map ('#' :: ·)).getD []

end Url

end MergeMessage
