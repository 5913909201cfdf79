import LineShell.Text.Quoted
import LineShell.Text.Utf8

/-!
# Request targets

A target names a scheme and an authority, which do not matter here, a path, a query and a fragment.
Of the path the segments `.` and `..` are resolved and the escapes are replaced, in that order: an
escaped dot is a name like any other.
-/

namespace LineShell.Http

/-- The value of the two hexadecimal digits that follow a percent sign. -/
def percentByte? (first second : Char) : Option UInt8 := do
  let digit := fun character : Char =>
    "0123456789abcdef".toList.findIdx? (· == character.toLower)
  return (16 * (← digit first) + (← digit second)).toUInt8

/-- The bytes of a text, where each escape is the byte that it stands for. -/
def escapedBytes : Text → Bytes
  | '%' :: first :: second :: rest =>
      match percentByte? first second with
      | some byte => byte :: escapedBytes rest
      | none => Text.utf8 ['%'] ++ escapedBytes (first :: second :: rest)
  | character :: rest => Text.utf8 [character] ++ escapedBytes rest
  | [] => []

/-- The text with its escapes replaced. -/
def unescape (text : Text) : Text :=
  Utf8.decode (escapedBytes text)

/-- A request target in its parts.  The query and the fragment are left out. -/
structure Target where
  scheme : Text
  authority : Text
  path : Text
  deriving DecidableEq

namespace Target

/-- What is wrong with a request target. -/
inductive Fault where
  /-- It has a control character at a position. -/
  | controlCharacter (character : Char) (position : Nat)
  /-- It has neither scheme nor authority, and its path begins with two slashes. -/
  | doubleSlash
  /-- It has neither scheme nor authority, and its path begins with a colon. -/
  | leadingColon
  deriving DecidableEq

/-- The wording of a faulty target. -/
def Fault.message : Fault → Text
  | .controlCharacter character position =>
      "Invalid non-printable ASCII character in URL, " ++ Text.quoted [character] ++
        " at position " ++ Text.ofNat position ++ "."
  | .doubleSlash => "Relative URLs cannot have a path starting with '//'"
  | .leadingColon => "Relative URLs cannot have a path starting with ':'"

/-- Whether a character may be in a scheme, which begins with a letter.  All are of the ASCII range.
-/
def isSchemeCharacter (character : Char) : Bool :=
  character.isAlphanum || character == '+' || character == '-' || character == '.'

/-- Whether a character is a control character of the ASCII range. -/
def isControl (character : Char) : Bool :=
  character.toNat < 0x20 || character.toNat = 0x7F

/-- Whether a character ends the path. -/
def endsPath (character : Char) : Bool :=
  character == '?' || character == '#'

/-- Whether a character ends the authority. -/
def endsAuthority (character : Char) : Bool :=
  character == '/' || endsPath character

/-- A text cut at the colon after its scheme, which may be empty.  Without a colon in that position
there is no scheme. -/
def cutScheme (text : Text) : Text × Text :=
  let scheme := text.takeWhile isSchemeCharacter
  match text.drop scheme.length with
  | ':' :: rest => if (scheme.take 1).all Char.isAlpha then (scheme, rest) else ([], text)
  | _ => ([], text)

/-- A text cut after the authority, which comes after two slashes. -/
def cutAuthority (text : Text) : Text × Text :=
  match text with
  | '/' :: '/' :: rest =>
      (rest.takeWhile (!endsAuthority ·), rest.dropWhile (!endsAuthority ·))
  | _ => ([], text)

/-- What is left of the segments of a path when `.` and `..` are resolved.  The empty segment before
the root stays. -/
def resolveSegments (segments : List Text) : List Text :=
  let step := fun (before : List Text) (segment : Text) =>
    if segment = "." then before
    else if segment = ".." then if before = [[]] then before else before.dropLast
    else before ++ [segment]
  segments.foldl step []

/-- A path with its dots resolved. -/
def resolveDots (path : Text) : Text :=
  Text.joinWith "/" (resolveSegments (Text.splitOn '/' path))

/-- The parts of a target.  Where it names a scheme or an authority, the dots of its path are
resolved at once. -/
def ofText (text : Text) : Target :=
  let (scheme, rest) := cutScheme text
  let (authority, rest) := cutAuthority rest
  let path := rest.takeWhile (!endsPath ·)
  { scheme, authority
    path := if scheme.isEmpty && authority.isEmpty then path else resolveDots path }

/-- The path seen from the root.  Unless the target names both a scheme and an authority, its path
has a single slash in front. -/
def rootedPath (target : Target) : Text :=
  if target.scheme.isEmpty || target.authority.isEmpty then
    '/' :: target.path.dropWhile (· == '/')
  else target.path

/-- The path that is looked up for a path in a target: without dots, without escapes and never
empty. -/
def lookedUp (path : Text) : Text :=
  let resolved := resolveDots path
  unescape (if resolved.isEmpty then "/" else resolved)

/-- What is wrong with a text as a target, if anything. -/
def fault? (text : Text) : Option Fault :=
  match text.dropWhile (!isControl ·) with
  | character :: rest =>
      some (.controlCharacter character (text.length - (rest.length + 1)))
  | [] =>
      let target := ofText text
      if !target.scheme.isEmpty || !target.authority.isEmpty then none
      else if Text.startsWith target.path "//" then some .doubleSlash
      else if Text.startsWith target.path ":" then some .leadingColon
      else none

/-- The path that a target leads to.  Escapes are replaced twice, because the percent sign of one
may be escaped itself. -/
def read (text : Text) : Except Fault Text :=
  match fault? text with
  | some fault => .error fault
  | none => .ok (unescape (lookedUp (ofText text).rootedPath))

end Target

end LineShell.Http
