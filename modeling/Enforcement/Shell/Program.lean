import Enforcement.Files.Path
import Enforcement.Shell.Condition
import Enforcement.Shell.Utility.Editing
import Enforcement.Shell.Utility.Files

/-! Programs: those that are always there, and the files that can be started. -/

namespace Enforcement.Shell

open Enforcement.Files Enforcement.Text

def shellNames : List String := ["sh", "dash", "bash"]

def expression (arguments : List String) : Script Nat := do
  match arguments with
  | [left, "=", right] =>
    Utility.putTextLine (if left == right then "1" else "0")
    return if left == right then 0 else 1
  | [left, "!=", right] =>
    Utility.putTextLine (if left == right then "0" else "1")
    return if left == right then 1 else 0
  | words =>
    match sumOf? (fun _ => none) (" ".intercalate words).toList with
    | some value =>
      Utility.putTextLine (toString value)
      return if value == 0 then 1 else 0
    | none =>
      Script.complain "expr: syntax error"
      return 2

def utilities : List (String × (List String → Script Nat)) :=
  open Utility in
  [("cat", cat), ("head", head), ("tail", tail), ("wc", wc), ("tr", tr), ("sort", sort),
    ("uniq", uniq), ("seq", seq), ("cut", cut), ("rev", rev), ("grep", grep), ("sed", sed),
    ("basename", basename), ("dirname", dirname), ("ls", ls), ("cp", cp), ("mv", mv), ("rm", rm),
    ("mkdir", mkdir), ("rmdir", rmdir), ("touch", touch), ("chmod", chmod), ("tee", tee),
    ("sleep", sleep), ("env", env), ("printenv", env),
    ("expr", expression), ("true", fun _ => return 0), ("false", fun _ => return 1),
    ("echo", fun arguments => do Script.put (echoedPlain arguments); return 0),
    ("pwd", fun _ => do putTextLine (Script.placeText (← get).files.home); return 0)]

def printFormatted (complain : String → Script Unit) (arguments : List String) : Script Nat := do
  match arguments with
  | [] =>
    complain "printf: usage: printf format [arg ...]"
    return 2
  | format :: rest =>
    let rest := if format == "--" then rest.drop 1 else rest
    let format := if format == "--" then (arguments.drop 1).headD "" else format
    let pass := formatted format (rest.length + 1) rest
    Script.put pass.bytes
    for word in pass.misfits do complain s!"printf: {word}: expected numeric value"
    match pass.invalid with
    | some directive =>
      complain s!"printf: {directive}: invalid directive"
      return 2
    | none => return if pass.misfits.isEmpty then 0 else 1

def testCondition (complain : String → Script Unit) (name : String) (arguments : List String) :
    Script Nat := do
  let words := if name == "[" then arguments.dropLast else arguments
  if name == "[" && arguments.getLast? != some "]" then
    complain "[: missing ]"
    return 2
  match condition (← get).files words with
  | .ok holds => return if holds then 0 else 1
  | .error fault =>
    complain s!"{name}: {fault.message}"
    return 2

inductive Found where
  /-- A file that starts with the name of the program that reads it. -/
  | script (path interpreter : String) (option : Option String)
  /-- A file that can be started and does not say what it is. -/
  | unmarked (path : String)
  | utility (name : String)
  | fault (fault : Fault)
  deriving DecidableEq, Repr, Inhabited

def isUtility (name : String) : Bool :=
  shellNames.contains name || name == "printf" || name == "test" || name == "[" ||
    utilities.any (·.1 == name)

private def systemDirectories : List String := ["/bin", "/usr/bin", "/usr/local/bin"]

private def systemProgram? (path : String) : Option String :=
  match fileName? path, parent? path with
  | some name, some directory =>
    if systemDirectories.contains directory && isUtility name then some name else none
  | _, _ => none

private def interpreter? (bytes : List UInt8) : Option (String × Option String) :=
  match (decodeUtf8 (bytes.takeWhile (· != 10))).toList with
  | '#' :: '!' :: line =>
    let isSpace (c : Char) := c == ' ' || c == '\t'
    let words := line.dropWhile isSpace
    let rest := ((words.dropWhile (!isSpace ·)).dropWhile isSpace).reverse.dropWhile isSpace
    some (String.ofList (words.takeWhile (!isSpace ·)),
      if rest.isEmpty then none else some (String.ofList rest.reverse))
  | _ => none

def foundAt (files : Store) (path : String) : Found :=
  let ofSystem (path : String) (fault : Fault) : Found :=
    match systemProgram? path with
    | some name => .utility name
    | none => .fault (if systemDirectories.contains path then .permission else fault)
  match files.resolve path with
  | .error fault => ofSystem path fault
  | .ok place =>
    match files.entry? place with
    | none => ofSystem (Script.placeText place) .notFound
    | some .directory => .fault .permission
    | some (.file bytes executable) =>
      if !executable then .fault .permission
      else
        match interpreter? bytes with
        | some (interpreter, option) => .script path interpreter option
        | none => .unmarked path

/-- Looks for a program: at its path, or in the directories of the search path in their order. -/
def findProgram (files : Store) (searchPath : String) (program : String) : Found :=
  if program.isEmpty then .fault .notFound
  else if program.toList.contains '/' then foundAt files program
  else
    let directories := searchPath.splitOn ":"
    let tried := directories.map fun directory =>
      foundAt files (join (if directory.isEmpty then "." else directory) program)
    let isUsable : Found → Bool
      | .fault _ => false
      | _ => true
    match tried.find? isUsable with
    | some found => found
    | none => if tried.contains (.fault .permission) then .fault .permission else .fault .notFound

end Enforcement.Shell
