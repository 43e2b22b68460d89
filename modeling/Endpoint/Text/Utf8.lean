/-!
# UTF-8

Reading text from bytes that may not be well formed.  `Utf8.decode` replaces every maximal
ill-formed piece, a truncated sequence or a byte that starts none, by one replacement
character.
-/

namespace Endpoint.Utf8

/-- The character that stands for what cannot be read. -/
def replacement : Char := '\ufffd'

/-- How a first byte starts a sequence: the number of bytes to follow, the range of the
    second byte, and the bits the first byte contributes. -/
def lead? (b : Nat) : Option (Nat × Nat × Nat × Nat) :=
  if b < 0x80 then some (0, 0, 0, b)
  else if 0xC2 ≤ b ∧ b ≤ 0xDF then some (1, 0x80, 0xBF, b - 0xC0)
  else if b = 0xE0 then some (2, 0xA0, 0xBF, 0)
  else if b = 0xED then some (2, 0x80, 0x9F, 13)
  else if 0xE1 ≤ b ∧ b ≤ 0xEF then some (2, 0x80, 0xBF, b - 0xE0)
  else if b = 0xF0 then some (3, 0x90, 0xBF, 0)
  else if 0xF1 ≤ b ∧ b ≤ 0xF3 then some (3, 0x80, 0xBF, b - 0xF0)
  else if b = 0xF4 then some (3, 0x80, 0x8F, 4)
  else none

/-- Continuation bytes at the front, at most `count`, the first of them in a range of its
    own: how many fit, and the value they extend. -/
def follow (value : Nat) : Nat → Nat → Nat → List UInt8 → Nat × Nat
  | 0, _, _, _ => (0, value)
  | _, _, _, [] => (0, value)
  | count + 1, lo, hi, b :: rest =>
    if lo ≤ b.toNat ∧ b.toNat ≤ hi then
      let (n, v) := follow (value * 64 + (b.toNat - 0x80)) count 0x80 0xBF rest
      (n + 1, v)
    else (0, value)

/-- Reads characters; `skip` bytes belong to a character already read. -/
def decodeFrom : Nat → List UInt8 → List Char
  | _, [] => []
  | skip + 1, _ :: rest => decodeFrom skip rest
  | 0, b :: rest =>
    match lead? b.toNat with
    | none => replacement :: decodeFrom 0 rest
    | some (count, lo, hi, start) =>
      let (n, value) := follow start count lo hi rest
      if n = count then Char.ofNat value :: decodeFrom n rest
      else replacement :: decodeFrom n rest

/-- The text of some bytes, with replacement characters where they are ill formed. -/
def decode (bytes : List UInt8) : String := String.ofList (decodeFrom 0 bytes)

/-- The text of some bytes, if they are well formed. -/
def decode? (bytes : ByteArray) : Option String := String.fromUTF8? bytes

/-- The bytes of a text. -/
def encode (s : String) : List UInt8 := s.toUTF8.toList

end Endpoint.Utf8
