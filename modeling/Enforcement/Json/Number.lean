import Enforcement.Decimal.Shortest

/-! Numbers of a document: whole numbers of 64 bits, and binary fractions for all others. -/

namespace Enforcement.Json

open Enforcement.Decimal

inductive Number where
  | whole (value : Int)
  | fraction (value : Binary64)
  deriving DecidableEq, Repr, Inhabited

namespace Number

def leastWhole : Int := -Nat.pow 2 63
def greatestWhole : Int := Nat.pow 2 64 - 1

def zeros (count : Nat) : List Char := List.replicate count '0'

/--
A decimal exponent from -5 to 15 is written positionally with at least one decimal, any other one
scientifically with its sign.
-/
def renderFraction (value : Binary64) : List Char :=
  let sign := if value.negative then ['-'] else []
  if value.mantissa = 0 then sign ++ ['0', '.', '0']
  else
    let ⟨digits, point⟩ := shortest value
    let count : Int := digits.length
    let ten := point - 1
    let body :=
      if ten < -5 || 15 < ten then
        let lead := digits.take 1
        let tail := digits.drop 1
        let mark := if tail.isEmpty then [] else '.' :: tail
        let power := if ten < 0 then ['-'] else ['+']
        lead ++ mark ++ ['e'] ++ power ++ Nat.toDigits 10 ten.natAbs
      else if point ≤ 0 then ['0', '.'] ++ zeros (-point).toNat ++ digits
      else if count ≤ point then digits ++ zeros (point - count).toNat ++ ['.', '0']
      else digits.take point.toNat ++ ['.'] ++ digits.drop point.toNat
    sign ++ body

def renderWhole (value : Int) : List Char :=
  (if value < 0 then ['-'] else []) ++ Nat.toDigits 10 value.natAbs

def render : Number → List Char
  | whole value => renderWhole value
  | fraction value => renderFraction value

def signed? (width : Nat) : Number → Option Int
  | whole value =>
    let bound : Int := Nat.pow 2 (width - 1)
    if -bound ≤ value && value < bound then some value else none
  | fraction _ => none

end Number

end Enforcement.Json
