import Enforcement.Json.Number

/-! The words of a document: blanks, literals, strings and numbers. -/

namespace Enforcement.Json

open Enforcement.Decimal

inductive Fault where
  /-- The text ends inside a value. -/
  | truncated
  /-- The grammar does not allow what stands there. -/
  | malformed
  /-- The value is well-formed so far and not of the kind that is wanted. -/
  | mismatched
  deriving DecidableEq, Repr, Inhabited

def Fault.category : Fault → String
  | truncated => "eof"
  | malformed => "syntax"
  | mismatched => "data"

def isSpace (c : Char) : Bool := c == ' ' || c == '\n' || c == '\t' || c == '\r'

def skipSpaces (text : List Char) : List Char := text.dropWhile isSpace

def readLiteral {α : Type} (value : α) : List Char → List Char → Except Fault (α × List Char)
  | [], text => .ok (value, text)
  | _ :: _, [] => .error .truncated
  | letter :: letters, c :: text =>
    if c = letter then readLiteral value letters text else .error .malformed

def hexValue? (c : Char) : Option Nat :=
  if '0' ≤ c && c ≤ '9' then some (c.toNat - 48)
  else if 'a' ≤ c && c ≤ 'f' then some (c.toNat - 87)
  else if 'A' ≤ c && c ≤ 'F' then some (c.toNat - 55)
  else none

def hexUnit? (a b c d : Char) : Option Nat := do
  let a ← hexValue? a
  let b ← hexValue? b
  let c ← hexValue? c
  let d ← hexValue? d
  return ((a * 16 + b) * 16 + c) * 16 + d

def isLeadUnit (unit : Nat) : Bool := 0xD800 ≤ unit && unit ≤ 0xDBFF

def isTrailUnit (unit : Nat) : Bool := 0xDC00 ≤ unit && unit ≤ 0xDFFF

/-- Fewer than four characters follow: four bytes are enough to see that they are no digits. -/
def shortEscape (text : List Char) : Fault :=
  if 4 ≤ (text.map (·.utf8Size)).foldl (· + ·) 0 then .malformed else .truncated

def plainEscape? (c : Char) : Option Char :=
  if c = '"' then some '"'
  else if c = '\\' then some '\\'
  else if c = '/' then some '/'
  else if c = 'b' then some '\x08'
  else if c = 'f' then some '\x0c'
  else if c = 'n' then some '\n'
  else if c = 'r' then some '\r'
  else if c = 't' then some '\t'
  else none

private def before (c : Char) :
    Except Fault (List Char × List Char) → Except Fault (List Char × List Char)
  | .ok (text, rest) => .ok (c :: text, rest)
  | .error fault => .error fault

def readString : List Char → Except Fault (List Char × List Char)
  | [] => .error .truncated
  | c :: rest =>
    if c = '"' then .ok ([], rest)
    else if c = '\\' then
      match rest with
      | [] => .error .truncated
      | mark :: rest =>
        if mark = 'u' then
          match rest with
          | a :: b :: c :: d :: rest =>
            match hexUnit? a b c d with
            | none => .error .malformed
            | some unit =>
              if isTrailUnit unit then .error .malformed
              else if isLeadUnit unit then
                match rest with
                | [] => .error .truncated
                | slash :: rest =>
                  if slash = '\\' then
                    match rest with
                    | [] => .error .truncated
                    | mark :: rest =>
                      if mark = 'u' then
                        match rest with
                        | a :: b :: c :: d :: rest =>
                          match hexUnit? a b c d with
                          | none => .error .malformed
                          | some trail =>
                            if isTrailUnit trail then
                              before (Char.ofNat
                                (0x10000 + (unit - 0xD800) * 0x400 + (trail - 0xDC00)))
                                (readString rest)
                            else .error .malformed
                        | short => .error (shortEscape short)
                      else .error .malformed
                  else .error .malformed
              else before (Char.ofNat unit) (readString rest)
          | short => .error (shortEscape short)
        else
          match plainEscape? mark with
          | none => .error .malformed
          | some plain => before plain (readString rest)
    else if c.toNat < 32 then .error .malformed
    else before c (readString rest)

/-- Decimal digits gathered into a number of 64 bits: their value and the digits left over. -/
def gather : List Char → Nat → Nat × List Char
  | [], value => (value, [])
  | c :: rest, value =>
    let next := value * 10 + (c.toNat - 48)
    if next < Nat.pow 2 64 then gather rest next else (value, c :: rest)

def greatestTen : Nat := 308

def powerOfTen (power : Nat) : Option Binary64 := Binary64.nearest false (Nat.pow 10 power) 1

/-- Divides by great powers of ten; after three of them nothing is left of any value. -/
private def shrink : Nat → Nat → Binary64 → Option Binary64
  | 0, _, value => some (Binary64.zero value.negative)
  | steps + 1, power, value =>
    if power ≤ greatestTen then do value.dividedBy (← powerOfTen power)
    else do shrink steps (power - greatestTen) (← value.dividedBy (← powerOfTen greatestTen))

/--
`significand * 10 ^ power` in two rounded steps: the significand first, then its product or
quotient with the power.
-/
def scaleByTen (negative : Bool) (significand : Nat) (power : Int) : Except Fault Number :=
  let scaled : Option Binary64 := do
    let value ← Binary64.nearest negative significand 1
    if significand = 0 then return value
    else if 0 ≤ power then
      if greatestTen < power.toNat then none else value.times (← powerOfTen power.toNat)
    else shrink 4 power.natAbs value
  match scaled with
  | some value => .ok (.fraction value)
  | none => .error .malformed

def greatestExponent : Nat := Nat.pow 2 31 - 1

/-- A number without its sign as it is written; no decimals stand for the lack of a point. -/
structure Numeral where
  whole : List Char
  decimals : List Char
  exponent : Option (Bool × List Char)
  deriving DecidableEq, Repr, Inhabited

def digitsValue (digits : List Char) : Nat :=
  digits.foldl (fun value c => value * 10 + (c.toNat - 48)) 0

def scaleByExponent (negative : Bool) (significand : Nat) (power : Int) (down : Bool)
    (digits : List Char) : Except Fault Number :=
  let shift := digitsValue digits
  if greatestExponent < shift then
    if significand ≠ 0 && !down then .error .malformed else .ok (.fraction (.zero negative))
  else scaleByTen negative significand (if down then power - shift else power + shift)

/-- A whole number of 64 bits stays one. -/
def wholeValue (negative : Bool) (significand : Nat) : Except Fault Number :=
  if !negative then .ok (.whole significand)
  else if significand = 0 || Nat.pow 2 63 < significand then scaleByTen true significand 0
  else .ok (.whole (-significand))

def Numeral.value (negative : Bool) (numeral : Numeral) : Except Fault Number :=
  let (significand, dropped) := gather numeral.whole 0
  let (full, left) := gather numeral.decimals significand
  let power : Int := (dropped.length : Int) - (numeral.decimals.length - left.length : Nat)
  match numeral.exponent with
  | some (down, digits) => scaleByExponent negative full power down digits
  | none =>
    if dropped.isEmpty && numeral.decimals.isEmpty then wholeValue negative significand
    else scaleByTen negative full power

def readDigits (text : List Char) : Except Fault (List Char × List Char) :=
  match text.takeWhile Char.isDigit with
  | [] => .error (if text.isEmpty then .truncated else .malformed)
  | digits => .ok (digits, text.dropWhile Char.isDigit)

def readWhole (text : List Char) : Except Fault (List Char × List Char) :=
  match readDigits text with
  | .ok ('0' :: _ :: _, _) => .error .malformed
  | result => result

def readDecimals : List Char → Except Fault (List Char × List Char)
  | '.' :: rest => readDigits rest
  | text => .ok ([], text)

def exponentSign : List Char → Bool × List Char
  | '+' :: rest => (false, rest)
  | '-' :: rest => (true, rest)
  | text => (false, text)

def readExponent : List Char → Except Fault (Option (Bool × List Char) × List Char)
  | 'e' :: rest | 'E' :: rest =>
    (readDigits (exponentSign rest).2).map fun (digits, left) =>
      (some ((exponentSign rest).1, digits), left)
  | text => .ok (none, text)

def readNumeral (text : List Char) : Except Fault (Numeral × List Char) := do
  let (whole, rest) ← readWhole text
  let (decimals, rest) ← readDecimals rest
  let (exponent, rest) ← readExponent rest
  return (⟨whole, decimals, exponent⟩, rest)

def readUnsigned (negative : Bool) (text : List Char) : Except Fault (Number × List Char) := do
  let (numeral, rest) ← readNumeral text
  return (← numeral.value negative, rest)

def readNumber : List Char → Except Fault (Number × List Char)
  | '-' :: rest => readUnsigned true rest
  | text => readUnsigned false text

end Enforcement.Json
