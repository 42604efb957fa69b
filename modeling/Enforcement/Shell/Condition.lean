import Enforcement.Files.Store
import Enforcement.Shell.Format

/-! Conditions on files, texts and numbers. -/

namespace Enforcement.Shell

open Enforcement.Files

private def isExecutable : Entry → Bool
  | .directory => true
  | .file _ executable => executable

private def fileSize : Entry → Nat
  | .directory => 4096
  | .file bytes _ => bytes.length

private def unary? (files : Store) (mark operand : String) : Option Bool :=
  let entry := files.find? operand
  match mark with
  | "-n" => some (!operand.isEmpty)
  | "-z" => some operand.isEmpty
  | "-e" => some entry.isSome
  | "-f" => some (files.isFile operand)
  | "-d" => some (files.isDirectory operand)
  | "-s" => some (entry.any fun entry => fileSize entry != 0)
  | "-r" => some entry.isSome
  | "-w" => some entry.isSome
  | "-x" => some (entry.any isExecutable)
  | "-h" | "-L" | "-p" | "-b" | "-c" | "-S" | "-u" | "-g" | "-k" | "-t" => some false
  | _ => none

private def wholeOperand? (text : String) : Option Int :=
  let isSpace (c : Char) := c == ' ' || c == '\t' || c == '\n'
  let inner := ((text.toList.dropWhile isSpace).reverse.dropWhile isSpace).reverse
  let (negative, digits) := match inner with
    | '-' :: rest => (true, rest)
    | '+' :: rest => (false, rest)
    | rest => (false, rest)
  if digits.isEmpty || !digits.all Char.isDigit then none
  else
    let value : Int := digits.foldl (fun value c => value * 10 + (c.toNat - 48)) 0
    some (if negative then -value else value)

inductive ConditionFault where
  | notNumber (text : String)
  | unexpected (word : String)
  | missing (word : String)
  deriving DecidableEq, Repr, Inhabited

def ConditionFault.message : ConditionFault → String
  | notNumber text => s!"Illegal number: {text}"
  | unexpected word => s!"{word}: unexpected operator"
  | missing word => s!"{word}: argument expected"

private def compare? (mark : String) : Option (Int → Int → Bool) :=
  match mark with
  | "-eq" => some (· == ·)
  | "-ne" => some (· != ·)
  | "-gt" => some fun a b => decide (b < a)
  | "-ge" => some fun a b => decide (b ≤ a)
  | "-lt" => some fun a b => decide (a < b)
  | "-le" => some fun a b => decide (a ≤ b)
  | _ => none

private def isBinary (mark : String) : Bool :=
  ["=", "==", "!=", "<", ">"].contains mark || (compare? mark).isSome

private def binary (left mark right : String) : Except ConditionFault Bool :=
  match compare? mark with
  | some compare =>
    match wholeOperand? left, wholeOperand? right with
    | none, _ => .error (.notNumber left)
    | _, none => .error (.notNumber right)
    | some a, some b => .ok (compare a b)
  | none =>
    if mark == "=" || mark == "==" then .ok (left == right)
    else if mark == "!=" then .ok (left != right)
    else if mark == "<" then .ok (decide (left < right))
    else .ok (decide (right < left))

mutual

private def readOr (files : Store) : Nat → List String →
    Except ConditionFault (Bool × List String)
  | 0, _ => .ok (false, [])
  | fuel + 1, words => do
    let (first, rest) ← readAnd files fuel words
    match rest with
    | "-o" :: rest =>
      let (second, rest) ← readOr files fuel rest
      return (first || second, rest)
    | rest => return (first, rest)

private def readAnd (files : Store) : Nat → List String →
    Except ConditionFault (Bool × List String)
  | 0, _ => .ok (false, [])
  | fuel + 1, words => do
    let (first, rest) ← readNot files fuel words
    match rest with
    | "-a" :: rest =>
      let (second, rest) ← readAnd files fuel rest
      return (first && second, rest)
    | rest => return (first, rest)

private def readNot (files : Store) : Nat → List String →
    Except ConditionFault (Bool × List String)
  | 0, _ => .ok (false, [])
  | fuel + 1, words =>
    match words with
    | [] => .ok (false, [])
    | [word] => .ok (!word.isEmpty, [])
    | word :: mark :: rest =>
      match isBinary mark, rest with
      | true, right :: rest => do return (← binary word mark right, rest)
      | _, _ =>
        if word == "!" then do
          let (inner, rest) ← readNot files fuel (mark :: rest)
          return (!inner, rest)
        else if word == "(" then do
          let (inner, rest) ← readOr files fuel (mark :: rest)
          match rest with
          | ")" :: rest => return (inner, rest)
          | _ => throw (.missing "closing paren")
        else
          match unary? files word mark with
          | some holds => .ok (holds, rest)
          | none => .ok (!word.isEmpty, mark :: rest)

end

def condition (files : Store) (words : List String) : Except ConditionFault Bool := do
  let (holds, rest) ← readOr files (3 * words.length + 3) words
  match rest with
  | [] => return holds
  | word :: _ => throw (.unexpected word)

end Enforcement.Shell
