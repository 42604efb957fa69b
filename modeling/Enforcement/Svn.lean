import Enforcement.Error

/-! Security version numbers: decimal digits, with a value of 64 bits. -/

namespace Enforcement.Svn

def limit : Nat := Nat.pow 2 64

def digitsValue (digits : List Char) : Nat :=
  digits.foldl (fun value digit => value * 10 + (digit.toNat - 48)) 0

def parse? (text : String) : Option Nat :=
  let digits := text.toList
  if digits.isEmpty || !digits.all Char.isDigit then none
  else if digitsValue digits < limit then some (digitsValue digits) else none

def parse (text : String) : Except Error Nat :=
  match parse? text with
  | some value => .ok value
  | none => .error (.trust (.versionInvalid text))

end Enforcement.Svn
