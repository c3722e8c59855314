import StorageBackends.Text.Characters

namespace StorageBackends.Url

open StorageBackends.Text

/-!
# Percent escapes

A byte may be written as a percent sign and two hexadecimal digits. Lenient
decoding leaves a percent sign that starts no escape as it is; strict decoding
refuses it. The bytes of an escaped text are read in UTF-8.
-/

/-- The byte of two hexadecimal digits. -/
def byteOf (high low : Char) : UInt8 :=
  UInt8.ofNat (16 * hexValue high + hexValue low)

/-- The hexadecimal digit of a value below sixteen, in upper case. -/
def upperHexDigit (value : Nat) : Char :=
  if value < 10 then
    Char.ofNat ('0'.toNat + value)
  else
    Char.ofNat ('A'.toNat + (value - 10))

/-- The escape of one byte. -/
def escapeByte (byte : UInt8) : List Char :=
  ['%', upperHexDigit (byte.toNat / 16), upperHexDigit (byte.toNat % 16)]

/-- Escape the characters of a class, byte by byte. -/
def escape (escapes : Char → Bool) (text : List Char) : List Char :=
  text.flatMap fun c =>
    if escapes c then
      (String.utf8EncodeChar c).flatMap escapeByte
    else
      [c]

/-- The text of some bytes; nothing if they are no UTF-8. -/
def ofBytes? (bytes : List UInt8) : Option (List Char) :=
  (String.fromUTF8? ⟨bytes.toArray⟩).map String.toList

/-- The bytes of a text, with every escape read as its byte. -/
def lenientBytes : List Char → List UInt8
  | [] => []
  | '%' :: high :: low :: rest =>
      if isHexDigit high && isHexDigit low then
        byteOf high low :: lenientBytes rest
      else
        String.utf8EncodeChar '%' ++ lenientBytes (high :: low :: rest)
  | c :: rest => String.utf8EncodeChar c ++ lenientBytes rest
termination_by text => text.length

/-- The text of a leniently decoded text; nothing if it is no UTF-8. -/
def decode? (text : List Char) : Option (List Char) :=
  ofBytes? (lenientBytes text)

/-- The bytes of a text in which every percent sign starts an escape. -/
def strictBytes? (keeps : UInt8 → Bool) : List Char → Option (List UInt8)
  | [] => some []
  | '%' :: high :: low :: rest =>
      if isHexDigit high && isHexDigit low then
        let byte := byteOf high low
        let bytes :=
          if keeps byte then
            ['%', high, low].flatMap String.utf8EncodeChar
          else
            [byte]
        (strictBytes? keeps rest).map (bytes ++ ·)
      else
        none
  | c :: rest =>
      if c = '%' then
        none
      else
        (strictBytes? keeps rest).map (String.utf8EncodeChar c ++ ·)
termination_by text => text.length

/--
The text of a strictly decoded text, in which the escapes of some bytes stay
as they are written.
-/
def decodeExcept? (keeps : UInt8 → Bool) (text : List Char) :
    Option (List Char) :=
  (strictBytes? keeps text).bind ofBytes?

end StorageBackends.Url
