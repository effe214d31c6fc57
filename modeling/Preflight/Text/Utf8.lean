/-!
# Texts of files

The bytes of a file are read as UTF-8, where bytes that belong to no character are passed over, and
line ends of every kind become line feeds. A byte that starts no character is passed over alone:
what follows it cannot start one either unless it starts a character of its own.
-/

set_option autoImplicit false

namespace Preflight.Text.Utf8

/-- The byte goes on with a character. -/
def isContinuation (b : UInt8) : Bool := 0x80 ≤ b && b < 0xC0

/-- The payload of a continuation byte. -/
def payload (b : UInt8) : Nat := b.toNat % 0x40

/-- The character at the start of the bytes and its length; none if they start no character. The
second byte of a long form must keep the form shortest and the character outside the surrogates. -/
def firstChar? : List UInt8 → Option (Char × Nat)
  | [] => none
  | a :: rest =>
    if a < 0x80 then some (Char.ofNat a.toNat, 1)
    else match rest with
    | [] => none
    | b :: rest =>
      if !isContinuation b then none
      else if 0xC2 ≤ a && a < 0xE0 then
        some (Char.ofNat (a.toNat % 0x20 * 0x40 + payload b), 2)
      else match rest with
      | [] => none
      | c :: rest =>
        if !isContinuation c then none
        else if 0xE0 ≤ a && a < 0xF0 then
          if (a == 0xE0 && b < 0xA0) || (a == 0xED && b ≥ 0xA0) then none
          else some (Char.ofNat (a.toNat % 0x10 * 0x1000 + payload b * 0x40 + payload c), 3)
        else match rest with
        | [] => none
        | d :: _ =>
          if !isContinuation d then none
          else if 0xF0 ≤ a && a < 0xF5 then
            if (a == 0xF0 && b < 0x90) || (a == 0xF4 && b ≥ 0x90) then none
            else some (Char.ofNat
              (a.toNat % 0x08 * 0x40000 + payload b * 0x1000 + payload c * 0x40 + payload d), 4)
          else none

/-- The characters of the bytes, of which the first `skip` belong to the character before. -/
def decodeFrom : (skip : Nat) → List UInt8 → List Char
  | _, [] => []
  | skip + 1, _ :: rest => decodeFrom skip rest
  | 0, a :: rest =>
    match firstChar? (a :: rest) with
    | some (c, length) => c :: decodeFrom (length - 1) rest
    | none => decodeFrom 0 rest

/-- The characters that the bytes write, without the bytes that write none. -/
def decode (bytes : List UInt8) : List Char := decodeFrom 0 bytes

/-- The bytes that write a string. -/
def encode (s : String) : List UInt8 := s.toList.flatMap String.utf8EncodeChar

/-- The characters with every line end written as a line feed: a return, perhaps with the feed
that follows it. -/
def plainLineEnds : List Char → List Char
  | '\r' :: '\n' :: rest => '\n' :: plainLineEnds rest
  | '\r' :: rest => '\n' :: plainLineEnds rest
  | c :: rest => c :: plainLineEnds rest
  | [] => []

/-- The text of the bytes of a file. -/
def fileText (bytes : List UInt8) : String :=
  String.ofList (plainLineEnds (decode bytes))

end Preflight.Text.Utf8
