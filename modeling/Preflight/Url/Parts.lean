import Preflight.Url.Address

/-!
# URLs

A URL is taken apart into scheme, authority and path; query, fragment and parameters are cut off.
`parse?` refuses an authority whose brackets hold no address, and one that would change its
meaning under compatibility normalisation. A value counts as a URL when it has a scheme, and an
authority or a path.
-/

set_option autoImplicit false

namespace Preflight

/-- The parts of a URL that say whether it is one. -/
structure Url where
  scheme : List Char
  authority : List Char
  path : List Char
  deriving Repr, DecidableEq

namespace Url

/-- A letter of the Latin alphabet. -/
def isLetter (c : Char) : Bool := c.isAlpha

/-- A character of a scheme. -/
def isSchemeChar (c : Char) : Bool :=
  c.isAlpha || Text.isAsciiDigit c || c == '+' || c == '-' || c == '.'

/-- The text without leading control characters and spaces, and without tabs and line ends. -/
def clean (text : List Char) : List Char :=
  (text.dropWhile fun c => c.toNat ≤ 0x20).filter fun c => c != '\t' && c != '\r' && c != '\n'

/-- The scheme before the first colon, in lower case, and what follows the colon. -/
def splitScheme (text : List Char) : List Char × List Char :=
  let before := text.takeWhile (· != ':')
  match text.dropWhile (· != ':') with
  | _ :: after =>
    if before.head?.any isLetter && before.all isSchemeChar then (before.map Char.toLower, after)
    else ([], text)
  | [] => ([], text)

/-- The end of an authority. -/
def endsAuthority (c : Char) : Bool := c == '/' || c == '?' || c == '#'

/-- The authority between two slashes and its end, and what follows it. -/
def splitAuthority : List Char → List Char × List Char
  | '/' :: '/' :: rest => (rest.takeWhile (!endsAuthority ·), rest.dropWhile (!endsAuthority ·))
  | rest => ([], rest)

/-- What follows the last at sign, all if there is none. -/
def hostPart (authority : List Char) : List Char :=
  (authority.reverse.takeWhile (· != '@')).reverse

/-- The host that an authority with brackets names, and whether the brackets stand around it. -/
def bracketedHost (authority : List Char) : Option (List Char) :=
  let host := hostPart authority
  if host.contains '[' then
    match host with
    | '[' :: inner =>
      match inner.dropWhile (· != ']') with
      | [] | [_] | _ :: ':' :: _ => some (inner.takeWhile (· != ']'))
      | _ => none
    | _ => none
  else some (host.takeWhile (· != ':'))

/-- Brackets in an authority are paired and hold an address. -/
def bracketsOk (authority : List Char) : Bool :=
  match authority.contains '[', authority.contains ']' with
  | false, false => true
  | true, true =>
    match bracketedHost authority with
    | some host => if host.head? == some 'v' then isFutureAddress host else isAddress6 host
    | none => false
  | _, _ => false

/-- The characters outside ASCII whose compatibility form holds one of the characters `/?#@:`. -/
def disguised : List Nat :=
  [0x2047, 0x2048, 0x2049, 0x2100, 0x2101, 0x2105, 0x2106, 0x2A74, 0xFE13, 0xFE16, 0xFE55, 0xFE56,
   0xFE5F, 0xFE6B, 0xFF03, 0xFF0F, 0xFF1A, 0xFF1F, 0xFF20]

/-- No character of an authority hides a character with a meaning of its own. -/
def undisguised (authority : List Char) : Bool :=
  authority.all fun c => !disguised.contains c.toNat

/-- The path before a query or fragment. -/
def cutQuery (rest : List Char) : List Char :=
  (rest.takeWhile (· != '#')).takeWhile (· != '?')

/-- The schemes whose last path segment may have parameters. -/
def parameterSchemes : List String :=
  ["", "ftp", "hdl", "prospero", "http", "imap", "https", "shttp", "rtsp", "rtspu", "sip", "sips",
   "mms", "sftp", "tel"]

/-- The path before the parameters of its last segment. -/
def cutParameters (path : List Char) : List Char :=
  let last := (path.reverse.takeWhile (· != '/')).reverse
  path.take (path.length - last.length) ++ last.takeWhile (· != ';')

/-- The parts of a URL; none if its authority is refused. -/
def parse? (text : String) : Option Url :=
  let (scheme, rest) := splitScheme (clean text.toList)
  let (authority, rest) := splitAuthority rest
  if bracketsOk authority && undisguised authority then
    let path := cutQuery rest
    some ⟨scheme, authority,
      if parameterSchemes.contains (String.ofList scheme) then cutParameters path else path⟩
  else none

/-- The value is a URL: it has a scheme, and an authority or a path. -/
def isValid (value : String) : Bool :=
  match parse? value with
  | some url => !url.scheme.isEmpty && !(url.authority.isEmpty && url.path.isEmpty)
  | none => false

end Url

end Preflight
