import Enforcement.Shell.Machine
import Enforcement.Shell.Pattern
import Enforcement.Shell.Word
import Enforcement.Shell.Arithmetic

/-! Words expanded to texts: variables, output of commands, sums, splitting and file names. -/

namespace Enforcement.Shell

open Enforcement.Files

inductive Part where
  | solid (text : List Char)
  | plain (text : List Char)
  | loose (text : List Char)
  | boundary
  deriving DecidableEq, Repr, Inhabited

abbrev Capture := List Char → Script String

def processNumber : String := "1000"

def valueOfName (machine : Machine) (name : String) : Option String :=
  if name == "#" then some (toString machine.arguments.length)
  else if name == "?" then some (toString machine.status)
  else if name == "$" then some processNumber
  else if name == "-" then some (if machine.stopOnFailure then "e" else "")
  else if name == "!" then none
  else if name == "0" then some machine.name
  else if name.toList.all Char.isDigit then machine.arguments[name.toNat?.getD 0 - 1]?
  else machine.lookup? name

private def isList (name : String) : Bool := name == "@" || name == "*"

private def part (inQuotes : Bool) (text : String) : Part :=
  if inQuotes then .solid text.toList else .loose text.toList

private def separated (parts : List Part) : List Part := parts.intersperse .boundary

/-- All arguments: between quotes either each on its own or joined to one text. -/
private def listParts (machine : Machine) (name : String) (inQuotes : Bool) : List Part :=
  if inQuotes && name == "*" then
    let joint := match machine.lookup? "IFS" with
      | some marks => String.ofList (marks.toList.take 1)
      | none => " "
    [.solid (joint.intercalate machine.arguments).toList]
  else separated (machine.arguments.map (part inQuotes))

private def isEmptyFor (alsoEmpty : Bool) : Option String → Bool
  | none => true
  | some value => alsoEmpty && value.isEmpty

def lettersOf (parts : List Part) : List Letter :=
  parts.flatMap fun part => match part with
    | .solid text => text.map fun c => (c, true)
    | .plain text => text.map fun c => (c, false)
    | .loose text => text.map fun c => (c, false)
    | .boundary => [(' ', true)]

def textOfLetters (letters : List Letter) : String := String.ofList (letters.map (·.1))

private def withHome (machine : Machine) : Word → Word
  | .plain ('~' :: rest) :: word =>
    match machine.lookup? "HOME", rest, word with
    | some home, [], [] => [.quoted home.toList]
    | some home, '/' :: rest, word => .quoted home.toList :: .plain ('/' :: rest) :: word
    | _, rest, word => .plain ('~' :: rest) :: word
  | word => word

mutual

def expandPiece (capture : Capture) : Nat → Piece → Script (List Part)
  | 0, _ => throw .overtime
  | _ + 1, .plain text => return [.plain text]
  | _ + 1, .quoted text => return [.solid text]
  | _ + 1, .outputOf source inQuotes => return [part inQuotes (← capture source)]
  | fuel + 1, .sum source inQuotes => do
    let word := (readOperand true source).getD []
    let text := (lettersOf (← expandPieces capture fuel word)).map (·.1)
    let machine ← get
    let value (name : String) : Option Int :=
      match valueOfName machine name with
      | none => some 0
      | some held => if held.isEmpty then some 0 else sumOf? (fun _ => none) held.toList
    match sumOf? value text with
    | some result => return [part inQuotes (toString result)]
    | none =>
      Script.complainHere s!"arithmetic expression: expecting primary: \"{String.ofList text}\""
      throw (.exit 2)
  | fuel + 1, .variableValue name use inQuotes => do
    let machine ← get
    let held := if isList name then
        if machine.arguments.isEmpty then none else some (" ".intercalate machine.arguments)
      else valueOfName machine name
    let own := if isList name then listParts machine name inQuotes
      else match held with
        | some value => [part inQuotes value]
        | none => if inQuotes then [.solid []] else []
    let operandParts (operand : List Char) : Script (List Part) := do
      match readOperand inQuotes operand with
      | some word => expandPieces capture fuel (if inQuotes then word else withHome machine word)
      | none => throw (.exit 2)
    let pattern (operand : List Char) : Script (List Mark) := do
      let word := (readOperand false operand).getD []
      return patternOf (lettersOf (← expandPieces capture fuel word))
    match use with
    | .value => return own
    | .length => return [part inQuotes (toString ((held.getD "").length))]
    | .orElse operand alsoEmpty =>
      if isEmptyFor alsoEmpty held then operandParts operand else return own
    | .ifSet operand alsoEmpty =>
      if isEmptyFor alsoEmpty held then return (if inQuotes then [.solid []] else [])
      else operandParts operand
    | .orAssign operand alsoEmpty =>
      if isEmptyFor alsoEmpty held then
        let value := textOfLetters (lettersOf (← operandParts operand))
        modify (·.setVariable name value)
        return [part inQuotes value]
      else return own
    | .orFail operand alsoEmpty =>
      if isEmptyFor alsoEmpty held then
        let reason := textOfLetters (lettersOf (← operandParts operand))
        let standard := if alsoEmpty then "parameter not set or null" else "parameter not set"
        let why := if reason.isEmpty then standard else reason
        Script.complainHere s!"{name}: {why}"
        throw (.exit 2)
      else return own
    | .withoutStart operand longest =>
      let text := dropStart (← pattern operand) longest (held.getD "").toList
      return [part inQuotes (String.ofList text)]
    | .withoutEnd operand longest =>
      let text := dropEnd (← pattern operand) longest (held.getD "").toList
      return [part inQuotes (String.ofList text)]

def expandPieces (capture : Capture) : Nat → Word → Script (List Part)
  | 0, _ => throw .overtime
  | _ + 1, [] => return []
  | fuel + 1, piece :: word => do
    let first ← expandPiece capture fuel piece
    return first ++ (← expandPieces capture fuel word)

end

def partsOf (capture : Capture) (word : Word) : Script (List Part) := do
  expandPieces capture (depthLimit + word.length) (withHome (← get) word)

private structure Splitting where
  done : List (List Letter)
  current : Option (List Letter)

private def Splitting.close (splitting : Splitting) : Splitting :=
  match splitting.current with
  | some field => ⟨splitting.done ++ [field], none⟩
  | none => splitting

private def Splitting.add (letters : List Letter) (splitting : Splitting) : Splitting :=
  { splitting with current := some (splitting.current.getD [] ++ letters) }

private def splitCharacter (marks : List Char) (splitting : Splitting) (c : Char) : Splitting :=
  if !marks.contains c then splitting.add [(c, false)]
  else if c == ' ' || c == '\t' || c == '\n' then splitting.close
  else (splitting.add []).close

private def splitPart (marks : List Char) (splitting : Splitting) : Part → Splitting
  | .solid text => splitting.add (text.map fun c => (c, true))
  | .plain text => splitting.add (text.map fun c => (c, false))
  | .loose text => text.foldl (splitCharacter marks) splitting
  | .boundary => splitting.close

def fieldsOf (marks : List Char) (parts : List Part) : List (List Letter) :=
  ((parts.foldl (splitPart marks) ⟨[], none⟩).close).done

private def components : List Letter → List Letter → List (List Letter)
  | [], name => [name.reverse]
  | (c, isQuoted) :: rest, name =>
    if c = '/' then name.reverse :: components rest [] else components rest ((c, isQuoted) :: name)

private def pathsFor (files : Store) : List (List Letter) → String → List String
  | [], path => [path]
  | [name], path =>
    if hasMarks name then namesFor name path
    else
      let whole := path ++ textOfLetters name
      if (files.find? whole).isSome then [whole] else []
  | name :: rest, path =>
    if hasMarks name then
      (namesFor name path).flatMap fun found => pathsFor files rest (found ++ "/")
    else pathsFor files rest (path ++ textOfLetters name ++ "/")
where
  namesFor (name : List Letter) (path : String) : List String :=
    match files.resolve (if path.isEmpty then "." else path) with
    | .error _ => []
    | .ok place =>
      let fitting := (files.namesIn place).filter fun held =>
        fits (patternOf name) held.toList &&
          (held.toList.head? != some '.' || name.head?.map (·.1) == some '.')
      fitting.map (path ++ ·)

def pathsOf (files : Store) (field : List Letter) : List String :=
  if !hasMarks field then [textOfLetters field]
  else
    match pathsFor files (components field []) "" with
    | [] => [textOfLetters field]
    | paths => paths

def expandWords (capture : Capture) (words : List Word) : Script (List String) := do
  let mut texts : List String := []
  for word in words do
    let parts ← partsOf capture word
    let machine ← get
    let marks := ((machine.lookup? "IFS").getD " \t\n").toList
    texts := texts ++ (fieldsOf marks parts).flatMap (pathsOf machine.files)
  return texts

def expandText (capture : Capture) (word : Word) : Script String := do
  return textOfLetters (lettersOf (← partsOf capture word))

def expandPattern (capture : Capture) (word : Word) : Script (List Mark) := do
  return patternOf (lettersOf (← partsOf capture word))

end Enforcement.Shell
