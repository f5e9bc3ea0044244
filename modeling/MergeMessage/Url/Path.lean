import MergeMessage.Url.Percent

/-!
# Paths

The path of a web address is made of segments with slashes before them.  While it is read, a
segment of one dot is left out and a segment of two dots takes the one before it away; a dot may
be written in its encoded form.  Drive letters are never taken away.

## Main definitions

* `Url.SchemeKind` — what kind of scheme an address has.
* `Url.readSegments` — the path that segments lead to.
* `Url.readPath` — the path that a text stands for.
-/

namespace MergeMessage.Url

/-- The kinds of schemes. -/
inductive SchemeKind
  /-- Files. -/
  | file
  /-- The other schemes of the web, which always have a host. -/
  | web
  /-- All others. -/
  | other
  deriving DecidableEq, Repr

/-- The kind of a scheme in small letters. -/
def SchemeKind.ofScheme (scheme : Text) : SchemeKind :=
  if scheme = "file".toList then .file
  else if (["http", "https", "ws", "wss", "ftp"].map String.toList).contains scheme then .web
  else .other

/-- Does a backslash separate parts like a slash? -/
def SchemeKind.isSpecial (kind : SchemeKind) : Bool := kind != .other

/-- Does the character separate the segments of a path? -/
def SchemeKind.isSlash (kind : SchemeKind) (c : Char) : Bool :=
  c == '/' || (c == '\\' && kind.isSpecial)

/-- Does the character end a path? -/
def endsPath (c : Char) : Bool := c == '?' || c == '#'

/-! ### Drive letters -/

/-- Does the text start with a letter and a colon or bar, and then end or go on with another
part? -/
def startsWithDrive : Text → Bool
  | [c, d] => c.isAlpha && (d == ':' || d == '|')
  | c :: d :: e :: _ =>
    c.isAlpha && (d == ':' || d == '|') && (e == '/' || e == '\\' || e == '?' || e == '#')
  | _ => false

/-- Is the segment a letter and a colon or bar? -/
def isDrive (segment : Text) : Bool := segment.length == 2 && startsWithDrive segment

/-! ### Segments -/

/-- Is the segment one dot? -/
def isSingleDot (segment : Text) : Bool :=
  segment.map Char.toLower == ['.'] || segment.map Char.toLower == "%2e".toList

/-- Is the segment two dots? -/
def isDoubleDot (segment : Text) : Bool :=
  (["..", "%2e%2e", "%2e.", ".%2e"].map String.toList).contains (segment.map Char.toLower)

/-- Is the character one that does not count in an address? -/
def isBreak (c : Char) : Bool := c == '\t' || c == '\n' || c == '\r'

/-- The text without the characters that do not count. -/
def withoutBreaks (s : Text) : Text := s.filter (!isBreak ·)

/-- The segments of a text between its slashes. -/
def rawSegments (kind : SchemeKind) : Text → List Text
  | [] => [[]]
  | c :: s =>
    if kind.isSlash c then [] :: rawSegments kind s
    else match rawSegments kind s with
      | [] => [[c]]
      | segment :: segments => (c :: segment) :: segments

/-- The drive letter with its colon at the front of a segment, and what follows it, if it does
so after characters that do not count. -/
def brokenDrive? (segment : Text) : Option (Text × Text) :=
  match segment.dropWhile isBreak with
  | [] => none
  | letter :: s =>
    match s.dropWhile isBreak with
    | ':' :: c :: s =>
      let rest := s.dropWhile isBreak
      if letter.isAlpha && isBreak c && !rest.isEmpty then some ([letter, ':'], rest) else none
    | _ => none

/-! ### Paths that grow -/

/-- A path up to and with its last slash. -/
def upToSlash (path : Text) : Text := (path.reverse.dropWhile (· ≠ '/')).reverse

/-- What follows the last slash of a path. -/
def lastSegment (path : Text) : Text := (path.reverse.takeWhile (· ≠ '/')).reverse

/-- Does the slash at the end of a path follow a segment that may be taken away?  Drive letters
may not. -/
def endsInSegment (path : Text) : Bool :=
  match path.reverse with
  | '/' :: before =>
    before.contains '/' && !startsWithDrive (lastSegment before.reverse ++ ['/'])
  | _ => false

/-- The path without its last segment, where the drive letter of a file stays. -/
def popSegment (kind : SchemeKind) (path : Text) : Text :=
  if kind == .file && isDrive (lastSegment path) && path.getLast? == some ':' then path
  else upToSlash path

/-- The path with a slash at its end, if it has none there. -/
def endInSlash (path : Text) : Text := if path.getLast? == some '/' then path else path ++ ['/']

/-- The path before a segment of two dots, after which a slash stands if `slash` says so. -/
def goUp (kind : SchemeKind) (path : Text) (slash : Bool) : Text :=
  let path := popSegment kind (if endsInSegment path then path.dropLast else path)
  if slash then endInSlash path else path

/-- What reading a path leads to. -/
structure PathReading where
  /-- The path. -/
  path : Text
  /-- Did a drive letter take the place of the host? -/
  dropsHost : Bool

/-- Reads segments after the path so far; `first` says that none was read yet.  Between two
segments a slash stands.  In the address of a file, the first segment may be a drive letter, which
takes the place of the host; where characters that do not count separate the letter from what
follows, the letter is a segment of its own, and what follows is taken as it is. -/
def readSegments (kind : SchemeKind) : Bool → Text → List Text → PathReading
  | _, path, [] => ⟨path, false⟩
  | first, path, segment :: rest =>
    let slash := if rest.isEmpty then [] else ['/']
    let encoded := percentEncode inPathSet (withoutBreaks segment)
    match (if kind == .file && path.length == 1 then brokenDrive? segment else none) with
    | some (drive, s) =>
      readSegments kind false
        (path ++ drive ++ '/' :: percentEncode inPathSet (withoutBreaks s) ++ slash) rest
    | none =>
      if isDoubleDot encoded then readSegments kind false (goUp kind path !rest.isEmpty) rest
      else if isSingleDot encoded then readSegments kind false (endInSlash path) rest
      else if kind == .file && first && isDrive encoded then
        let path := path ++ encoded.take 1 ++ ':' :: slash
        { readSegments kind false path rest with dropsHost := true }
      else readSegments kind false (path ++ encoded ++ slash) rest

/-- The path that starts with `path` and goes on with the text up to a query or fragment; what
follows; and whether a drive letter took the host's place. -/
def readPath (kind : SchemeKind) (path s : Text) : Text × Text × Bool :=
  let reading := readSegments kind true path (rawSegments kind (s.takeWhile fun c => !endsPath c))
  let path := if kind == .file then '/' :: reading.path.dropWhile (· == '/') else reading.path
  (path, s.dropWhile fun c => !endsPath c, reading.dropsHost)

end MergeMessage.Url
