import MergeMessage.Url.Basic
import MergeMessage.Url.Host
import MergeMessage.Url.Path

/-!
# Reading web addresses

An address is read as browsers do it: blanks around it and line breaks and tabs in it do not
count, backslashes stand for slashes in the schemes of the web, and an address without a scheme
is taken against another one.

## Main definitions

* `Url.parse?` — the address that a text stands for on its own.
* `Url.join?` — the address that a text stands for when it is taken against another address.
-/

namespace MergeMessage.Url

/-! ### Before the path -/

/-- The text without control characters and spaces at its ends. -/
def trimmed (s : Text) : Text := Text.trimBy (·.toNat ≤ 0x20) s

/-- Is the character one that may follow the first letter of a scheme? -/
def isSchemeChar (c : Char) : Bool := c.isAlphanum || c == '+' || c == '-' || c == '.'

/-- The scheme at the front of a text, in small letters, and what follows its colon. -/
def scheme? (s : Text) : Option (Text × Text) :=
  match s.takeWhile isSchemeChar, s.dropWhile isSchemeChar with
  | c :: scheme, ':' :: rest =>
    if c.isAlpha then some ((c :: scheme).map Char.toLower, rest) else none
  | _, _ => none

/-- The usual port of a scheme. -/
def usualPort? (scheme : Text) : Option Nat :=
  ([("http", 80), ("https", 443), ("ws", 80), ("wss", 443), ("ftp", 21)].find? fun (name, _) =>
    name.toList = scheme).map Prod.snd

/-- Does the character end the part of an address that holds user and host? -/
def endsAuthority (kind : SchemeKind) (c : Char) : Bool := kind.isSlash c || endsPath c

/-- The two sides of the last at sign of a text. -/
def splitLastAt? (s : Text) : Option (Text × Text) :=
  match s.reverse.dropWhile (· ≠ '@') with
  | [] => none
  | _ :: before => some (before.reverse, (s.reverse.takeWhile (· ≠ '@')).reverse)

/-- The text up to a colon that does not stand in brackets, and the rest. -/
def splitHost : Bool → Text → Text × Text
  | _, [] => ([], [])
  | inside, c :: s =>
    if c = ':' && !inside then ([], c :: s)
    else
      let (host, rest) := splitHost (if c = '[' then true else if c = ']' then false else inside) s
      (c :: host, rest)

/-- The user name and the password in the text before an at sign. -/
def readUser (s : Text) : Text × Option Text :=
  let encode := percentEncode inUserSet
  match Text.splitOnce? s [':'] with
  | some (name, []) => (encode name, none)
  | some (name, password) => (encode name, some (encode password))
  | none => (encode s, none)

/-- The port after a colon, if it is not the usual one, and what follows it. -/
def port? (scheme : Text) (s : Text) : Option (Option Nat × Text) :=
  let digits := s.takeWhile Char.isDigit
  let rest := s.dropWhile Char.isDigit
  if rest.head?.any fun c => !(c == '/' || c == '\\' || endsPath c) then none
  else if digits.isEmpty then some (none, rest)
  else
    match digitsValue? 10 digits with
    | some n =>
      if n > 65535 then none
      else some (if usualPort? scheme = some n then none else some n, rest)
    | none => none

/-! ### The path and what follows it -/

/-- An address with the query and the fragment that a text starts with. -/
def withQuery (u : Url) (s : Text) : Url :=
  let kind := SchemeKind.ofScheme u.scheme
  let (query, s) := match s with
    | '?' :: s =>
      let set := if kind.isSpecial then inSpecialQuerySet else inQuerySet
      (some (percentEncode set (s.takeWhile (· ≠ '#'))), s.dropWhile (· ≠ '#'))
    | s => (none, s)
  let fragment := match s with
    | '#' :: s => some (percentEncode inFragmentSet s)
    | _ => none
  { u with query := query, fragment := fragment }

/-- An address whose path starts with `path` and goes on with this text, after which come query
and fragment. -/
def withPath (u : Url) (path s : Text) : Url :=
  let (path, rest, dropsHost) := readPath (.ofScheme u.scheme) path s
  withQuery { u with path := path, host := if dropsHost then none else u.host }
    (withoutBreaks rest)

/-- An address of the web whose path starts after the host. -/
def withWebPath (u : Url) (s : Text) : Url :=
  match s with
  | c :: rest => u.withPath ['/'] (if SchemeKind.web.isSlash c then rest else s)
  | [] => u.withPath ['/'] []

/-- An address of another scheme whose path starts after the host. -/
def withPathStart (u : Url) (s : Text) : Url :=
  match s with
  | [] => u.withPath [] []
  | c :: _ =>
    if endsPath c then u.withQuery s else u.withPath (if c = '/' then [] else ['/']) s

/-- An address of this scheme and nothing else. -/
def ofScheme (scheme : Text) : Url := ⟨scheme, [], none, none, none, [], none, none⟩

/-- The address whose user and host come next. -/
def afterSlashes? (scheme s : Text) : Option Url :=
  let kind := SchemeKind.ofScheme scheme
  let authority := s.takeWhile fun c => !endsAuthority kind c
  let tail := s.dropWhile fun c => !endsAuthority kind c
  let (user, hostAndPort) := match splitLastAt? authority with
    | some (user, rest) => (some user, rest)
    | none => (none, authority)
  if user = some [] && hostAndPort.isEmpty && !tail.isEmpty then none
  else
    let (username, password) := readUser (user.getD [])
    let (hostText, afterHost) := splitHost false hostAndPort
    if hostText.isEmpty &&
        (kind.isSpecial || !afterHost.isEmpty || !username.isEmpty || password.isSome) then none
    else do
      let host ← if kind.isSpecial then host? hostText else opaqueHost? hostText
      let (port, rest) ← match afterHost ++ tail with
        | ':' :: s => port? scheme s
        | s => some (none, s)
      let u := { ofScheme scheme with
        username := username, password := password, host := some host, port := port }
      return if kind.isSpecial then u.withWebPath rest else u.withPathStart rest

/-- The address of a file.  The characters that do not count are still in the text. -/
def file? (s : Text) : Option Url :=
  let kind := SchemeKind.file
  let u := ofScheme "file".toList
  let s := s.dropWhile isBreak
  match s with
  | [] => some (u.withPath ['/'] [])
  | c :: afterSlash =>
    if kind.isSlash c then
      match afterSlash.dropWhile isBreak with
      | [] => some (u.withPath [] s)
      | d :: afterSlashes =>
        if kind.isSlash d then
          let hostText := withoutBreaks (afterSlashes.takeWhile fun c => !endsAuthority kind c)
          let tail := afterSlashes.dropWhile fun c => !endsAuthority kind c
          if isDrive hostText then some (u.withPath ['/'] afterSlashes)
          else if hostText.isEmpty then some (u.withPath [] tail)
          else do
            let host ← host? hostText
            if host = "localhost".toList then return u.withPath [] tail
            else return { u with host := some host }.withWebPath tail
        else some (u.withPath [] s)
    else some (u.withPath ['/'] s)

/-- The address that a text without a scheme stands for when it is taken against an address of
the web. -/
def relative? (base : Url) (s : Text) : Option Url :=
  let kind := SchemeKind.ofScheme base.scheme
  let bare := { base with fragment := none }
  match s with
  | [] => some bare
  | '?' :: _ => some (bare.withQuery s)
  | '#' :: rest => some { bare with fragment := some (percentEncode inFragmentSet rest) }
  | c :: rest =>
    if kind.isSlash c then
      match rest with
      | d :: after =>
        if kind.isSlash d then
          if c = '/' && d = '/' then afterSlashes? base.scheme after
          else afterSlashes? base.scheme (after.dropWhile kind.isSlash)
        else some (bare.withPath ['/'] rest)
      | [] => some (bare.withPath ['/'] rest)
    else some (bare.withPath (endInSlash (popSegment kind base.path)) s)

/-- The address of this scheme that a text stands for, taken against `base` if there is one.  The
text is also given with the characters that do not count. -/
def withScheme? (base : Option Url) (scheme s raw : Text) : Option Url :=
  match SchemeKind.ofScheme scheme with
  | .file => file? raw
  | .web =>
    let slashes := s.takeWhile SchemeKind.web.isSlash
    match base with
    | some base =>
      if slashes.length < 2 && base.scheme = scheme then relative? base s
      else afterSlashes? scheme (s.drop slashes.length)
    | none => afterSlashes? scheme (s.drop slashes.length)
  | .other =>
    match s with
    | '/' :: '/' :: rest => afterSlashes? scheme rest
    | '/' :: rest => some ((ofScheme scheme).withPath ['/'] rest)
    | s =>
      let opaquePath := percentEncode inControlSet (s.takeWhile fun c => !endsPath c)
      let u := { ofScheme scheme with path := opaquePath }
      some (u.withQuery (s.dropWhile fun c => !endsPath c))

/-- The address that a text stands for, taken against `base` if it has no scheme. -/
def read? (base : Option Url) (s : Text) : Option Url :=
  let raw := trimmed s
  let s := withoutBreaks raw
  match scheme? s with
  | some (scheme, rest) => withScheme? base scheme rest ((raw.dropWhile (· ≠ ':')).drop 1)
  | none => base.bind (relative? · s)

/-- The address that a text stands for on its own. -/
def parse? (s : Text) : Option Url := read? none s

/-- The address that a text stands for when it is taken against an address of the web. -/
def join? (base : Url) (s : Text) : Option Url := read? (some base) s

end MergeMessage.Url
