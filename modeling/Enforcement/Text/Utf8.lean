/-!
UTF-8 read with replacement: bytes that start no character become U+FFFD, one for each longest
run that could still have started one.
-/

namespace Enforcement.Text

private def replacement : Char := '\uFFFD'

/-- The bytes that may follow a leading byte: how many, and the span allowed for the first. -/
private def followers (byte : UInt8) : Option (Nat × UInt8 × UInt8) :=
  if 0xC2 ≤ byte && byte ≤ 0xDF then some (1, 0x80, 0xBF)
  else if byte == 0xE0 then some (2, 0xA0, 0xBF)
  else if byte == 0xED then some (2, 0x80, 0x9F)
  else if 0xE1 ≤ byte && byte ≤ 0xEF then some (2, 0x80, 0xBF)
  else if byte == 0xF0 then some (3, 0x90, 0xBF)
  else if byte == 0xF4 then some (3, 0x80, 0x8F)
  else if 0xF1 ≤ byte && byte ≤ 0xF3 then some (3, 0x80, 0xBF)
  else none

private def payload (byte : UInt8) : Nat :=
  if byte < 0xE0 then byte.toNat % 0x20 else if byte < 0xF0 then byte.toNat % 0x10
  else byte.toNat % 8

/--
Reads bytes left to right. `owed` is the number of tail bytes the character begun still needs,
`low` and `high` bound the next of them, and `code` is what its bytes have spelled so far.
-/
private def decodeFrom : List UInt8 → Nat → UInt8 → UInt8 → Nat → List Char
  | [], owed, _, _, _ => if owed = 0 then [] else [replacement]
  | byte :: rest, owed, low, high, code =>
    if 0 < owed && low ≤ byte && byte ≤ high then
      let next := code * 64 + byte.toNat % 64
      if owed = 1 then Char.ofNat next :: decodeFrom rest 0 0x80 0xBF 0
      else decodeFrom rest (owed - 1) 0x80 0xBF next
    else
      let broken := if owed = 0 then [] else [replacement]
      if byte < 0x80 then broken ++ Char.ofNat byte.toNat :: decodeFrom rest 0 0x80 0xBF 0
      else
        match followers byte with
        | none => broken ++ replacement :: decodeFrom rest 0 0x80 0xBF 0
        | some (count, first, last) => broken ++ decodeFrom rest count first last (payload byte)

def decodeUtf8 (bytes : List UInt8) : String := String.ofList (decodeFrom bytes 0 0x80 0xBF 0)

def encodeUtf8 (text : String) : List UInt8 := text.toUTF8.data.toList

def readUtf8? (bytes : List UInt8) : Option String := String.fromUTF8? (ByteArray.mk bytes.toArray)

theorem readUtf8?_encodeUtf8 (text : String) : readUtf8? (encodeUtf8 text) = some text := by
  change String.fromUTF8? text.toUTF8 = some text
  rw [String.fromUTF8?, String.toUTF8_eq_toByteArray, dif_pos text.isValidUTF8]
  rfl

end Enforcement.Text
