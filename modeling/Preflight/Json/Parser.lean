import Preflight.Failure
import Preflight.Json.Basic
import Preflight.Pairs
import Preflight.Text.Digit

/-!
# Reading JSON

A reader of JSON values that also accepts `NaN`, `Infinity` and `-Infinity`. It reads from left to
right and stops at the first thing it cannot read: `ParseError.malformed` tells the place. An
integer of too many digits and a nesting of too many levels are failures of their own; how much is
too much, is a parameter (`Bounds`).
-/

set_option autoImplicit false

namespace Preflight.Json

/-- Why a text was not read. -/
inductive ParseError
  /-- The text is no JSON value; reading stopped at the position. -/
  | malformed (position : Nat)
  /-- The text may be a JSON value, but is not read. -/
  | refused (failure : Failure)
  deriving Repr, DecidableEq

/-- What a reader takes. -/
structure Bounds where
  /-- The most digits of an integer. -/
  digits : Nat := digitLimit
  /-- The most levels of lists and objects. They are read on the stack of the caller, which decides
  how many levels there is room for. -/
  depth : Nat := 990

/-- The end of a reading: `malformed` counts the characters that were left. -/
inductive Stop
  | malformed (left : Nat)
  | refused (failure : Failure)

/-- Reading stops before these characters. -/
def stopAt {α : Type} (rest : List Char) : Except Stop α :=
  .error (.malformed rest.length)

/-- A blank between the parts of a value. -/
def isBlank (c : Char) : Bool :=
  c == ' ' || c == '\t' || c == '\n' || c == '\r'

/-- The characters after leading blanks. -/
def skipBlanks (chars : List Char) : List Char :=
  chars.dropWhile isBlank

/-! ## Texts -/

/-- The value of a hexadecimal digit. -/
def hexValue? (c : Char) : Option Nat :=
  if '0' ≤ c && c ≤ '9' then some (c.toNat - 0x30)
  else if 'a' ≤ c && c ≤ 'f' then some (c.toNat - 0x57)
  else if 'A' ≤ c && c ≤ 'F' then some (c.toNat - 0x37)
  else none

/-- The number that hexadecimal digits write. -/
def hexNumber? (digits : List Char) : Option Nat :=
  digits.foldl (fun total c => do return (← total) * 16 + (← hexValue? c)) (some 0)

/-- The unit is the first half of a surrogate pair. -/
def isHighHalf (unit : Nat) : Bool := 0xD800 ≤ unit && unit < 0xDC00

/-- The unit is the second half of a surrogate pair. -/
def isLowHalf (unit : Nat) : Bool := 0xDC00 ≤ unit && unit < 0xE000

/-- The symbol of an escaped unit. -/
def Symbol.ofUnit (unit : Nat) : Symbol :=
  if isHighHalf unit || isLowHalf unit then .half unit else .char (Char.ofNat unit)

/-- A first half directly before a second half makes one character with it. -/
def joinHalves : Text → Text
  | .half high :: .half low :: rest =>
    if isHighHalf high && isLowHalf low then
      .char (Char.ofNat (0x10000 + (high - 0xD800) * 0x400 + (low - 0xDC00))) :: joinHalves rest
    else .half high :: joinHalves (.half low :: rest)
  | symbol :: rest => symbol :: joinHalves rest
  | [] => []

/-- The character that a one-letter escape stands for. -/
def shortEscape? (c : Char) : Option Char :=
  match c with
  | '\x22' => some '\x22'
  | '\\' => some '\\'
  | '/' => some '/'
  | 'b' => some '\x08'
  | 'f' => some '\x0c'
  | 'n' => some '\n'
  | 'r' => some '\r'
  | 't' => some '\t'
  | _ => none

/-- The rest of a text after its opening mark, up to the closing one. An unclosed text stops at
its opening mark, before which `opening` characters were left; a numeric escape stops at its
letter and needs a character after its four digits. -/
def readText (opening : Nat) (found : Text) : List Char → Except Stop (Text × List Char)
  | [] => .error (.malformed opening)
  | '\x22' :: rest => .ok (joinHalves found.reverse, rest)
  | '\\' :: 'u' :: a :: b :: c :: d :: rest =>
    match rest, hexNumber? [a, b, c, d] with
    | _ :: _, some unit => readText opening (.ofUnit unit :: found) rest
    | _, _ => stopAt ('u' :: a :: b :: c :: d :: rest)
  | '\\' :: 'u' :: rest => stopAt ('u' :: rest)
  | ['\\'] => .error (.malformed opening)
  | '\\' :: c :: rest =>
    match shortEscape? c with
    | some e => readText opening (.char e :: found) rest
    | none => stopAt ('\\' :: c :: rest)
  | c :: rest =>
    if c.toNat < 0x20 then stopAt (c :: rest) else readText opening (.char c :: found) rest

/-! ## Numbers -/

/-- The digits at the start and the characters after them. -/
def spanDigits (chars : List Char) : List Char × List Char :=
  (chars.takeWhile Text.isAsciiDigit, chars.dropWhile Text.isAsciiDigit)

/-- The digits of a fraction, if a point and a digit follow. -/
def spanFraction : List Char → List Char × List Char
  | '.' :: rest =>
    match spanDigits rest with
    | ([], _) => ([], '.' :: rest)
    | found => found
  | rest => ([], rest)

/-- An exponent, if its letter, a sign or none, and a digit follow. -/
def spanExponent : List Char → Option Int × List Char
  | e :: rest =>
    if e == 'e' || e == 'E' then
      let (negative, digits) :=
        match rest with
        | '-' :: more => (true, more)
        | '+' :: more => (false, more)
        | more => (false, more)
      match spanDigits digits with
      | ([], _) => (none, e :: rest)
      | (found, after) =>
        let size : Int := Text.numeral found
        (some (if negative then -size else size), after)
    else (none, e :: rest)
  | [] => (none, [])

/-- The digits before a fraction: a zero alone, or digits that start with another one. -/
def spanWhole : List Char → List Char × List Char
  | '0' :: rest => (['0'], rest)
  | chars => spanDigits chars

/-- A number after its sign. Without fraction and exponent it is an integer, which has a limit of
digits. -/
def readNumber (limit : Nat) (negative : Bool) (chars : List Char) :
    Except Stop (Value × List Char) :=
  match spanWhole chars with
  | ([], _) => stopAt (if negative then '-' :: chars else chars)
  | (whole, rest) =>
    let (fraction, rest) := spanFraction rest
    let (exponent, rest) := spanExponent rest
    if fraction.isEmpty && exponent.isNone then
      if whole.length > limit then .error (.refused (.tooManyDigits whole.length))
      else
        let size : Int := Text.numeral whole
        .ok (.int (if negative then -size else size), rest)
    else
      .ok (.real (.ofDecimal negative (Text.numeral (whole ++ fraction))
        (exponent.getD 0 - fraction.length)), rest)

/-! ## Values -/

/-- The items of a list after its opening bracket or a comma, each read by `item`. Every item has
a character, so `bound` items, one for each character of the text, are enough. -/
def readItems (item : List Char → Except Stop (Value × List Char)) :
    (bound : Nat) → List Value → List Char → Except Stop (List Value × List Char)
  | 0, _, chars => stopAt chars
  | bound + 1, found, chars => do
    let (value, rest) ← item chars
    match skipBlanks rest with
    | ']' :: rest => .ok ((value :: found).reverse, rest)
    | ',' :: rest => readItems item bound (value :: found) (skipBlanks rest)
    | rest => stopAt rest

/-- The fields of an object after its opening brace or a comma. -/
def readFields (item : List Char → Except Stop (Value × List Char)) :
    (bound : Nat) → List (Text × Value) → List Char → Except Stop (List (Text × Value) × List Char)
  | bound + 1, found, '\x22' :: chars => do
    let (key, rest) ← readText (chars.length + 1) [] chars
    match skipBlanks rest with
    | ':' :: rest => do
      let (value, rest) ← item (skipBlanks rest)
      let found := Pairs.put key value found
      match skipBlanks rest with
      | '\x7d' :: rest => .ok (found, rest)
      | ',' :: rest => readFields item bound found (skipBlanks rest)
      | rest => stopAt rest
    | rest => stopAt rest
  | _, _, chars => stopAt chars

/-- The characters after a word, if the text starts with it. -/
def afterWord? (word : String) (chars : List Char) : Option (List Char) :=
  if word.toList.isPrefixOf chars then some (chars.drop word.length) else none

/-- The words that are values. -/
def literals : List (String × Value) :=
  [("null", .null), ("true", .bool true), ("false", .bool false), ("NaN", .real .notANumber),
   ("Infinity", .real (.infinite false)), ("-Infinity", .real (.infinite true))]

/-- A word that is a value, or else a number. -/
def readScalar (limit : Nat) (chars : List Char) : Except Stop (Value × List Char) :=
  match literals.findSome? fun (word, value) => (afterWord? word chars).map ((value, ·)) with
  | some found => .ok found
  | none =>
    match chars with
    | '-' :: rest => readNumber limit true rest
    | chars => readNumber limit false chars

/-- A value with at most `depth` levels of lists and objects. -/
def readValue (limit bound : Nat) : (depth : Nat) → List Char → Except Stop (Value × List Char)
  | _, '\x22' :: rest => do
    let (text, rest) ← readText (rest.length + 1) [] rest
    .ok (.text text, rest)
  | 0, '[' :: _ => .error (.refused .tooDeep)
  | 0, '\x7b' :: _ => .error (.refused .tooDeep)
  | depth + 1, '[' :: rest =>
    match skipBlanks rest with
    | ']' :: rest => .ok (.list [], rest)
    | rest => do
      let (items, rest) ← readItems (readValue limit bound depth) bound [] rest
      .ok (.list items, rest)
  | depth + 1, '\x7b' :: rest =>
    match skipBlanks rest with
    | '\x7d' :: rest => .ok (.object [], rest)
    | rest => do
      let (fields, rest) ← readFields (readValue limit bound depth) bound [] rest
      .ok (.object fields, rest)
  | _, chars => readScalar limit chars

/-- The value of a whole text, blanks around it apart. -/
def readAll (chars : List Char) (bounds : Bounds := {}) : Except Stop Value := do
  if chars.head? == some '\ufeff' then throw (.malformed chars.length)
  let (value, rest) ← readValue bounds.digits chars.length bounds.depth (skipBlanks chars)
  match skipBlanks rest with
  | [] => return value
  | rest => throw (.malformed rest.length)

/-- The value that a text writes. -/
def parse (text : String) (bounds : Bounds := {}) : Except ParseError Value :=
  let chars := text.toList
  match readAll chars bounds with
  | .ok value => .ok value
  | .error (.malformed left) => .error (.malformed (chars.length - left))
  | .error (.refused failure) => .error (.refused failure)

end Preflight.Json
