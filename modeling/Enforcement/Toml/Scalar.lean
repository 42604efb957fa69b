import Enforcement.Decimal.Binary64
import Enforcement.Toml.Value

/-! Values that are one bare word: flags, numbers, dates and times. -/

namespace Enforcement.Toml

open Enforcement.Decimal

def plainDigits? (isDigit : Char → Bool) : List Char → Option (List Char)
  | [] => none
  | [c] => if isDigit c then some [c] else none
  | c :: '_' :: rest => if isDigit c then (plainDigits? isDigit rest).map (c :: ·) else none
  | c :: rest => if isDigit c then (plainDigits? isDigit rest).map (c :: ·) else none

def digitValue (c : Char) : Nat :=
  if c.isDigit then c.toNat - 48
  else if 'a' ≤ c then c.toNat - 87
  else c.toNat - 55

def isHexDigit (c : Char) : Bool :=
  c.isDigit || ('a' ≤ c && c ≤ 'f') || ('A' ≤ c && c ≤ 'F')

def valueOf (base : Nat) (digits : List Char) : Nat :=
  digits.foldl (fun value digit => value * base + digitValue digit) 0

def signOf : List Char → Bool × List Char
  | '-' :: rest => (true, rest)
  | '+' :: rest => (false, rest)
  | word => (false, word)

def wholeDigits? (word : List Char) : Option (List Char) := do
  match ← plainDigits? Char.isDigit word with
  | '0' :: _ :: _ => none
  | digits => some digits

def inRange? (value : Int) : Option Int :=
  let bound : Int := Nat.pow 2 63
  if -bound ≤ value && value < bound then some value else none

def whole? : List Char → Option Int
  | '0' :: 'x' :: rest => do inRange? (valueOf 16 (← plainDigits? isHexDigit rest))
  | '0' :: 'o' :: rest => do
    inRange? (valueOf 8 (← plainDigits? (fun c => '0' ≤ c && c ≤ '7') rest))
  | '0' :: 'b' :: rest => do
    inRange? (valueOf 2 (← plainDigits? (fun c => c == '0' || c == '1') rest))
  | word => do
    let (negative, word) := signOf word
    let value : Int := valueOf 10 (← wholeDigits? word)
    inRange? (if negative then -value else value)

/-- The power of ten in which a number with this many more digits would be out of range. -/
private def greatestTen : Int := 310

def isTooGreat (significand : Nat) (power : Int) : Bool :=
  let size : Int := (Nat.toDigits 10 significand).length + power
  if significand = 0 || size < 300 then false
  else if greatestTen < size then true
  else if 0 ≤ power then (Binary64.nearest false (significand * Nat.pow 10 power.toNat) 1).isNone
  else (Binary64.nearest false significand (Nat.pow 10 power.natAbs)).isNone

private def isExponentMark (c : Char) : Bool := c == 'e' || c == 'E'

private def exponent? : List Char → Option Int
  | [] => some 0
  | mark :: rest =>
    if isExponentMark mark then do
      let (negative, rest) := signOf rest
      let value : Int := valueOf 10 (← plainDigits? Char.isDigit rest)
      return if negative then -value else value
    else none

def isFraction (word : List Char) : Bool :=
  let (negative, word) := signOf word
  if word == "inf".toList || word == "nan".toList then true
  else
    let whole := word.takeWhile fun c => c.isDigit || c == '_'
    let rest := word.dropWhile fun c => c.isDigit || c == '_'
    let result : Option Bool := do
      let digits ← wholeDigits? whole
      match rest with
      | '.' :: rest =>
        let places ← plainDigits? Char.isDigit (rest.takeWhile fun c => !isExponentMark c)
        let power ← exponent? (rest.dropWhile fun c => !isExponentMark c)
        return negative || !isTooGreat (valueOf 10 (digits ++ places)) (power - places.length)
      | [] => none
      | rest =>
        let power ← exponent? rest
        return negative || !isTooGreat (valueOf 10 digits) power
    result == some true

private def pair? (least greatest : Nat) : List Char → Option (Nat × List Char)
  | a :: b :: rest =>
    let value := valueOf 10 [a, b]
    if a.isDigit && b.isDigit && least ≤ value && value ≤ greatest then some (value, rest) else none
  | _ => none

private def after? (mark : Char) : List Char → Option (List Char)
  | c :: rest => if c = mark then some rest else none
  | [] => none

def daysIn (year month : Nat) : Nat :=
  if month = 2 then
    if year % 4 = 0 && (year % 100 ≠ 0 || year % 400 = 0) then 29 else 28
  else if month = 4 || month = 6 || month = 9 || month = 11 then 30
  else 31

def afterDate? : List Char → Option (List Char)
  | a :: b :: c :: d :: rest => do
    if !List.all [a, b, c, d] Char.isDigit then none
    let (month, rest) ← pair? 1 12 (← after? '-' rest)
    let (day, rest) ← pair? 1 31 (← after? '-' rest)
    if daysIn (valueOf 10 [a, b, c, d]) month < day then none else some rest
  | _ => none

def afterTime? (word : List Char) : Option (List Char) := do
  let (_, rest) ← pair? 0 23 word
  let (_, rest) ← pair? 0 59 (← after? ':' rest)
  let (_, rest) ← pair? 0 60 (← after? ':' rest)
  match rest with
  | '.' :: places =>
    if (places.takeWhile Char.isDigit).isEmpty then none
    else some (places.dropWhile Char.isDigit)
  | rest => some rest

def isOffset : List Char → Bool
  | [] => true
  | ['Z'] => true
  | ['z'] => true
  | sign :: rest =>
    (sign == '+' || sign == '-') && (do
      let (_, rest) ← pair? 0 23 rest
      let (_, rest) ← pair? 0 59 (← after? ':' rest)
      if rest.isEmpty then some () else none).isSome

def isMoment (word : List Char) : Bool :=
  match afterDate? word with
  | some [] => true
  | some (mark :: rest) =>
    (mark == 'T' || mark == 't' || mark == ' ') && (afterTime? rest).any isOffset
  | none => (afterTime? word).any List.isEmpty

def isWordCharacter (c : Char) : Bool :=
  c.isAlphanum || c == '_' || c == '-' || c == '+' || c == '.' || c == ':'

/-- A bare word; a date and the time after one blank are one word. -/
def wordOf (text : List Char) : List Char × List Char :=
  let word := text.takeWhile isWordCharacter
  let rest := text.dropWhile isWordCharacter
  match rest with
  | ' ' :: digit :: more =>
    if digit.isDigit && afterDate? word == some [] then
      (word ++ ' ' :: (digit :: more).takeWhile isWordCharacter,
        (digit :: more).dropWhile isWordCharacter)
    else (word, rest)
  | _ => (word, rest)

def scalar? (word : List Char) : Option Value :=
  if word == "true".toList then some (.flag true)
  else if word == "false".toList then some (.flag false)
  else if isMoment word then some .moment
  else if isFraction word then some .fraction
  else (whole? word).map .whole

end Enforcement.Toml
