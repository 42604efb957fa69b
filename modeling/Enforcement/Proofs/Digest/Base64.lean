import Enforcement.Digest.Base64

/-! Base64 read back: the bytes, and the text that they encode. -/

namespace Enforcement.Digest

def digitValue? (c : Char) : Option Nat :=
  if c.isUpper then some (c.toNat - 65)
  else if c.isLower then some (c.toNat - 97 + 26)
  else if c.isDigit then some (c.toNat - 48 + 52)
  else if c = '+' then some 62
  else if c = '/' then some 63
  else none

/-! The bytes of a group of four digits, each from the values of two of them. -/

def firstByte (a b : Nat) : UInt8 := .ofNat (a * 4 + b / 16)

def secondByte (b c : Nat) : UInt8 := .ofNat (b % 16 * 16 + c / 4)

def thirdByte (c d : Nat) : UInt8 := .ofNat (c % 4 * 64 + d)

/-- Padding only stands at the end, and the bits that it leaves over are zero. -/
def decodeBase64? : List Char → Option (List UInt8)
  | [] => some []
  | [a, b, '=', '='] => do
    let a ← digitValue? a
    let b ← digitValue? b
    if b % 16 = 0 then some [firstByte a b] else none
  | [a, b, c, '='] => do
    let a ← digitValue? a
    let b ← digitValue? b
    let c ← digitValue? c
    if c % 4 = 0 then some [firstByte a b, secondByte b c] else none
  | a :: b :: c :: d :: rest => do
    let a ← digitValue? a
    let b ← digitValue? b
    let c ← digitValue? c
    let d ← digitValue? d
    return firstByte a b :: secondByte b c :: thirdByte c d :: (← decodeBase64? rest)
  | _ => none

def decodedText? (encoded : String) : Option String :=
  (decodeBase64? encoded.toList).bind Text.readUtf8?

theorem digitValue?_base64Digit {value : Nat} (small : value < 64) :
    digitValue? (base64Digit value) = some value := by
  have all : ∀ value < 64, digitValue? (base64Digit value) = some value := by decide
  exact all value small

theorem base64Digit_ne_pad {value : Nat} (small : value < 64) : base64Digit value ≠ '=' := by
  have all : ∀ value < 64, base64Digit value ≠ '=' := by decide
  exact all value small

theorem ofNat_eq {byte : UInt8} {value : Nat} (same : value = byte.toNat) :
    UInt8.ofNat value = byte := by
  rw [same, UInt8.ofNat_toNat]

theorem firstByte_digits (a : UInt8) {low : Nat} (small : low < 16) :
    firstByte (a.toNat / 4) (a.toNat % 4 * 16 + low) = a :=
  ofNat_eq (by omega)

theorem secondByte_digits (high : Nat) (b : UInt8) {low : Nat} (small : low < 4) :
    secondByte (high * 16 + b.toNat / 16) (b.toNat % 16 * 4 + low) = b := by
  have bound := b.toNat_lt
  exact ofNat_eq (by omega)

theorem thirdByte_digits (high : Nat) (c : UInt8) :
    thirdByte (high * 4 + c.toNat / 64) (c.toNat % 64) = c := by
  have bound := c.toNat_lt
  exact ofNat_eq (by omega)

theorem decodeBase64?_base64 (bytes : List UInt8) : decodeBase64? (base64 bytes) = some bytes := by
  induction bytes using base64.induct with
  | case1 => rfl
  | case2 a =>
      have bound := a.toNat_lt
      have first : firstByte (a.toNat / 4) (a.toNat % 4 * 16) = a :=
        @firstByte_digits a 0 (by decide)
      have left : a.toNat % 4 * 16 % 16 = 0 := Nat.mul_mod_left _ _
      rw [base64, decodeBase64?, digitValue?_base64Digit (by omega),
        digitValue?_base64Digit (by omega)]
      change (if a.toNat % 4 * 16 % 16 = 0 then some [firstByte _ _] else none) = _
      rw [if_pos left, first]
  | case3 a b =>
      have bound := a.toNat_lt
      have bound' := b.toNat_lt
      have first : firstByte (a.toNat / 4) (a.toNat % 4 * 16 + b.toNat / 16) = a :=
        firstByte_digits a (by omega)
      have second : secondByte (a.toNat % 4 * 16 + b.toNat / 16) (b.toNat % 16 * 4) = b :=
        @secondByte_digits _ b 0 (by decide)
      have left : b.toNat % 16 * 4 % 4 = 0 := Nat.mul_mod_left _ _
      have pad := @base64Digit_ne_pad (b.toNat % 16 * 4) (by omega)
      rw [base64, decodeBase64?, digitValue?_base64Digit (by omega),
        digitValue?_base64Digit (by omega), digitValue?_base64Digit (by omega)]
      · change (if b.toNat % 16 * 4 % 4 = 0 then some [firstByte _ _, secondByte _ _] else none) = _
        rw [if_pos left, first, second]
      · exact pad
  | case4 a b c rest ih =>
      have bound := a.toNat_lt
      have bound' := b.toNat_lt
      have bound'' := c.toNat_lt
      have first : firstByte (a.toNat / 4) (a.toNat % 4 * 16 + b.toNat / 16) = a :=
        firstByte_digits a (by omega)
      have second : secondByte (a.toNat % 4 * 16 + b.toNat / 16)
          (b.toNat % 16 * 4 + c.toNat / 64) = b := secondByte_digits _ b (by omega)
      have third : thirdByte (b.toNat % 16 * 4 + c.toNat / 64) (c.toNat % 64) = c :=
        thirdByte_digits _ c
      have pad := @base64Digit_ne_pad (c.toNat % 64) (by omega)
      rw [base64, decodeBase64?, digitValue?_base64Digit (by omega),
        digitValue?_base64Digit (by omega), digitValue?_base64Digit (by omega),
        digitValue?_base64Digit (by omega), ih]
      · change some (firstByte _ _ :: secondByte _ _ :: thirdByte _ _ :: rest) = _
        rw [first, second, third]
      · exact fun _ same => absurd same pad
      · exact fun same => absurd same pad

theorem decodedText?_textBase64 (text : String) : decodedText? (textBase64 text) = some text := by
  rw [decodedText?, textBase64, String.toList_ofList, decodeBase64?_base64, Option.bind_some,
    Text.readUtf8?_encodeUtf8]

end Enforcement.Digest
