import Enforcement.Json.Printer
import Enforcement.Policy.Encoding
import Enforcement.Policy.Fragment
import Enforcement.Template.Basic
import Enforcement.Text.Blank
import Enforcement.Tool.Job

/-! The file that lists the imports of a policy. Its other members are kept. -/

namespace Enforcement

open Enforcement.Json Enforcement.Template Enforcement.Text

structure ImportsFile where
  others : List (String × Value)
  fragments : List FragmentImport
  deriving Repr, Inhabited

namespace ImportsFile

def empty : ImportsFile := ⟨[], []⟩

def fragmentsKey : String := "fragments"

/-- One import may stand for the list of it. -/
def readFragments (members : List (String × Value)) : Except Error (List FragmentImport) :=
  match member? fragmentsKey members with
  | none => .ok []
  | some (.array entries) => entries.mapM FragmentImport.ofValue
  | some (.object members) => return [← FragmentImport.ofValue (.object members)]
  | some _ => .error (.input .importsFragmentsNotList)

def ofValue : Value → Except Error ImportsFile
  | .object members => do
    let fragments ← readFragments members
    return ⟨members.filter fun held => !sameLetters held.1 fragmentsKey, fragments⟩
  | .array _ => .error (.input .importsTopLevelList)
  | _ => .error (.input .importsNotObject)

def append (file : ImportsFile) (imports : List FragmentImport) : ImportsFile :=
  { file with fragments := distinct (file.fragments ++ imports) }

def sortedEntry (fragment : FragmentImport) : Value :=
  .object ((fragment.toValue.members?.getD []).foldl
    (fun members held => insertMember held.1 held.2 members) [])

def document (file : ImportsFile) : Value :=
  .object (insertMember fragmentsKey (.array (file.fragments.map sortedEntry)) file.others)

def prettyText (file : ImportsFile) : String := file.document.prettyText

/-- A file that is not there, or holds nothing but blanks, lists nothing. -/
def load (path : String) : Job ImportsFile := do
  match (← Job.files).readText path with
  | .error .notFound => return empty
  | .error fault => Job.fail (.file path fault)
  | .ok text =>
    if isBlankText text then return empty
    ofValue (← readJson path text)

def write (file : ImportsFile) (path : String) : Job Unit :=
  Job.writeText path (file.prettyText ++ "\n")

end ImportsFile

end Enforcement
