import Enforcement.Shell.Word

/-! Sums in scripts: whole numbers, variables, and the operators on them. -/

namespace Enforcement.Shell

def wrapped (value : Int) : Int := Int.bmod value (Nat.pow 2 64)

private def ofBool (holds : Bool) : Int := if holds then 1 else 0

private def skipSpace (text : List Char) : List Char :=
  text.dropWhile fun c => c == ' ' || c == '\t' || c == '\n'

private def digitIn? (base : Nat) (c : Char) : Option Nat :=
  let value :=
    if c.isDigit then c.toNat - 48
    else if 'a' ≤ c && c ≤ 'z' then c.toNat - 87
    else if 'A' ≤ c && c ≤ 'Z' then c.toNat - 55
    else 99
  if value < base then some value else none

/-- A number in decimal, octal after a zero, or hexadecimal. -/
def wholeNumber? (text : List Char) : Option Int := do
  let (base, digits) := match text with
    | '0' :: 'x' :: rest => (16, rest)
    | '0' :: 'X' :: rest => (16, rest)
    | '0' :: rest => (8, '0' :: rest)
    | text => (10, text)
  if digits.isEmpty then none
  let value ← digits.foldlM (fun (value : Nat) c => (digitIn? base c).map (value * base + ·)) 0
  return wrapped value

/-- The operators between two operands, from the one that binds least. -/
private def levels : List (List (List Char × (Int → Int → Option Int))) :=
  [[(['|', '|'], fun a b => some (ofBool (a != 0 || b != 0)))],
   [(['&', '&'], fun a b => some (ofBool (a != 0 && b != 0)))],
   [(['=', '='], fun a b => some (ofBool (a == b))),
    (['!', '='], fun a b => some (ofBool (a != b)))],
   [(['<', '='], fun a b => some (ofBool (a ≤ b))), (['>', '='], fun a b => some (ofBool (b ≤ a))),
    (['<'], fun a b => some (ofBool (a < b))), (['>'], fun a b => some (ofBool (b < a)))],
   [(['+'], fun a b => some (wrapped (a + b))), (['-'], fun a b => some (wrapped (a - b)))],
   [(['*'], fun a b => some (wrapped (a * b))),
    (['/'], fun a b => if b = 0 then none else some (wrapped (a.tdiv b))),
    (['%'], fun a b => if b = 0 then none else some (a.tmod b))]]

mutual

private def readLevel (value : String → Option Int) :
    Nat → List (List (List Char × (Int → Int → Option Int))) → List Char →
    Option (Int × List Char)
  | 0, _, _ => none
  | fuel + 1, [], text => readOperandValue value fuel (skipSpace text)
  | fuel + 1, level :: inner, text => do
    let (first, rest) ← readLevel value fuel inner text
    readMore value fuel level inner first rest

private def readMore (value : String → Option Int) :
    Nat → List (List Char × (Int → Int → Option Int)) →
    List (List (List Char × (Int → Int → Option Int))) → Int → List Char →
    Option (Int × List Char)
  | 0, _, _, _, _ => none
  | fuel + 1, level, inner, first, text =>
    let text := skipSpace text
    match level.find? fun operator => operator.1.isPrefixOf text with
    | none => some (first, text)
    | some (mark, operate) => do
      let (second, rest) ← readLevel value fuel inner (text.drop mark.length)
      readMore value fuel level inner (← operate first second) rest

private def readOperandValue (value : String → Option Int) :
    Nat → List Char → Option (Int × List Char)
  | 0, _ => none
  | fuel + 1, text =>
    match text with
    | '(' :: rest => do
      let (inner, rest) ← readLevel value fuel levels rest
      match skipSpace rest with
      | ')' :: rest => return (inner, rest)
      | _ => none
    | '-' :: rest => do
      let (operand, rest) ← readOperandValue value fuel (skipSpace rest)
      return (wrapped (-operand), rest)
    | '+' :: rest => readOperandValue value fuel (skipSpace rest)
    | '!' :: rest => do
      let (operand, rest) ← readOperandValue value fuel (skipSpace rest)
      return (ofBool (operand == 0), rest)
    | c :: _ =>
      let word := text.takeWhile isNameCharacter
      let rest := text.dropWhile isNameCharacter
      if c.isDigit then do return (← wholeNumber? word, rest)
      else if isNameStart c then do return (← value (String.ofList word), rest)
      else none
    | [] => none

end

/-- The value of a sum; variables that are not set count as zero. -/
def sumOf? (value : String → Option Int) (text : List Char) : Option Int := do
  if (skipSpace text).isEmpty then return 0
  let (result, rest) ← readLevel value (10 * text.length + 40) levels text
  if (skipSpace rest).isEmpty then some result else none

end Enforcement.Shell
