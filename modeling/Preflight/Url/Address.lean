import Preflight.Text.Digit

/-!
# Internet addresses

The numeric addresses that may stand in brackets in a URL: eight groups of up to four hexadecimal
digits, one run of zero groups left out as `::`, the last two groups perhaps written as four
decimal numbers, and perhaps a zone after a percent sign.
-/

set_option autoImplicit false

namespace Preflight.Url

/-- A hexadecimal digit of either case. -/
def isHexDigit (c : Char) : Bool :=
  Text.isAsciiDigit c || ('a' ≤ c && c ≤ 'f') || ('A' ≤ c && c ≤ 'F')

/-- One of the four decimal numbers of an address: at most 255 and without a leading zero. -/
def isOctet (part : List Char) : Bool :=
  !part.isEmpty && part.all Text.isAsciiDigit && part.length ≤ 3 &&
    (part == ['0'] || part.head? != some '0') && Text.numeral part ≤ 255

/-- An address of four decimal numbers. -/
def isAddress4 (text : List Char) : Bool :=
  let parts := text.splitOn '.'
  parts.length == 4 && parts.all isOctet

/-- A group of an address: one to four hexadecimal digits. -/
def isGroup (part : List Char) : Bool :=
  !part.isEmpty && part.length ≤ 4 && part.all isHexDigit

/-- The parts between colons, with a last part of four decimal numbers replaced by two groups;
none if that last part is no such address. -/
def addressParts (text : List Char) : Option (List (List Char)) :=
  let parts := text.splitOn ':'
  let last := parts.getLastD []
  if parts.length < 3 then none
  else if last.contains '.' then
    if isAddress4 last then some (parts.dropLast ++ [['0'], ['0']]) else none
  else some parts

/-- The groups before the one gap or after it: an empty outermost part is allowed only if it is
all there is, as in an address that begins or ends with the gap. -/
def isSide (parts : List (List Char)) : Bool :=
  parts == [[]] || parts.all isGroup

/-- The groups on a side of the gap. -/
def sideGroups (parts : List (List Char)) : Nat :=
  if parts == [[]] then 0 else parts.length

/-- The parts make an address: eight groups, or fewer around one gap that is not at an end. -/
def isGrouped (parts : List (List Char)) : Bool :=
  let inner := (parts.drop 1).dropLast
  if parts.length > 9 then false
  else match inner.count [] with
    | 0 => parts.length == 8 && parts.all isGroup
    | 1 =>
      let before := parts.take (1 + inner.idxOf [])
      let after := parts.drop (2 + inner.idxOf [])
      isSide before && isSide after && sideGroups before + sideGroups after < 8
    | _ => false

/-- An address of eight groups, perhaps with a zone. -/
def isAddress6 (text : List Char) : Bool :=
  let address := text.takeWhile (· != '%')
  let zoneOk := match text.dropWhile (· != '%') with
    | [] => true
    | _ :: zone => !zone.isEmpty && !zone.contains '%'
  zoneOk && (addressParts address).any isGrouped

/-- A future kind of address: a version in hexadecimal digits, a point and a text. -/
def isFutureAddress (text : List Char) : Bool :=
  match text with
  | 'v' :: rest =>
    match rest.dropWhile isHexDigit with
    | '.' :: _ :: _ => !(rest.takeWhile isHexDigit).isEmpty
    | _ => false
  | _ => false

end Preflight.Url
