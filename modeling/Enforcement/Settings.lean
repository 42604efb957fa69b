import Enforcement.Image.Registry
import Enforcement.Tool.Environment
import Enforcement.Toml.Reader
import Enforcement.Trust.Signer

/-!
Settings: which tools are called and for how long, how fragments are signed and where they are
unpacked. Variables of the environment win over the settings file, and that over the standard.
-/

namespace Enforcement

open Enforcement.Files

structure Settings where
  signer : ToolSetting
  registry : ToolSetting
  algorithmName : String
  artifactType : String
  scratch : String
  deriving DecidableEq, Repr, Inhabited

namespace Settings

def standard (environment : Environment) : Settings where
  signer := ⟨"sign1util", 60⟩
  registry := ⟨"oras", 120⟩
  algorithmName := Algorithm.standard.name
  artifactType := fragmentArtifactType
  scratch := join ((environment.value? "TMPDIR").getD "/tmp") "confcom"

/--
The values of a section under the given names. It may also be a list of them in that order, and a
date is a section that sets nothing.
-/
def sectionValues (names : List String) : Option Toml.Value → Option (List (Option Toml.Value))
  | none => some (names.map fun _ => none)
  | some (.table _ members) => some (names.map (Toml.Members.valueAt? · members))
  | some (.list items) => some ((List.range names.length).map (items[·]?))
  | some (.tables items) =>
    some ((List.range names.length).map fun place => items[place]?.map (.table .declared))
  | some .moment => some (names.map fun _ => none)
  | some _ => none

def textOr (standard : String) : Option Toml.Value → Option String
  | none => some standard
  | some (.text text) => some text
  | some _ => none

def secondsOr (standard : Nat) : Option Toml.Value → Option Nat
  | none => some standard
  | some (.whole value) => if 0 ≤ value then some value.toNat else none
  | some _ => none

private def textIn (members : Toml.Members) (owner name standard : String) : Option String := do
  match ← sectionValues [name] (Toml.Members.valueAt? owner members) with
  | [value] => textOr standard value
  | _ => none

private def pairIn {α : Type} (members : Toml.Members) (owner first second : String)
    (read : α → Option Toml.Value → Option α) (standard : α × α) : Option (α × α) := do
  match ← sectionValues [first, second] (Toml.Members.valueAt? owner members) with
  | [left, right] => return (← read standard.1 left, ← read standard.2 right)
  | _ => none

/-- Settings of a file; what it does not set stays as it is, and what is not known is left out. -/
def ofMembers (standard : Settings) (members : Toml.Members) : Option Settings := do
  let programs ← pairIn members "tools" "sign1util" "oras" textOr
    (standard.signer.program, standard.registry.program)
  let seconds ← pairIn members "timeouts" "signing_secs" "registry_secs" secondsOr
    (standard.signer.seconds, standard.registry.seconds)
  return {
    signer := ⟨programs.1, seconds.1⟩
    registry := ⟨programs.2, seconds.2⟩
    algorithmName := ← textIn members "signing" "algorithm" standard.algorithmName
    artifactType := ← textIn members "registry" "artifact_type" standard.artifactType
    scratch := ← textIn members "paths" "scratch_dir" standard.scratch }

def ofText (standard : Settings) (text : String) : Except SettingsFault Settings :=
  match (Toml.readText text.toList).bind (ofMembers standard) with
  | some settings => .ok settings
  | none => .error .malformed

def path? (environment : Environment) : Option String :=
  match environment.value? "CONFCOM_CONFIG_PATH" with
  | some path => some path
  | none =>
    ((environment.value? "HOME").filter (!·.isEmpty)).map fun home =>
      join (join home ".confcom") "config.toml"

def ofFile (standard : Settings) (files : Store) (path : String) :
    Except SettingsFault Settings :=
  match files.readText path with
  | .error .notFound => .ok standard
  | .error fault => .error (.unreadable path fault)
  | .ok text => (ofText standard text).mapError fun _ => .malformedFile path

/-- Seconds are decimal digits, possibly after a plus sign, with a value of 64 bits. -/
def readSeconds? (text : String) : Option Nat :=
  match text.toList with
  | '+' :: digits => Svn.parse? (String.ofList digits)
  | _ => Svn.parse? text

/-- A variable that does not hold a number of seconds is not heeded. -/
def overridden (environment : Environment) (settings : Settings) : Settings :=
  let seconds (name : String) (held : Nat) :=
    ((environment.value? name).bind readSeconds?).getD held
  { settings with
    signer := ⟨(environment.value? "CONFCOM_SIGN1UTIL").getD settings.signer.program,
      seconds "CONFCOM_SIGNING_TIMEOUT_SECS" settings.signer.seconds⟩
    registry := ⟨(environment.value? "CONFCOM_ORAS").getD settings.registry.program,
      seconds "CONFCOM_REGISTRY_TIMEOUT_SECS" settings.registry.seconds⟩
    scratch := (environment.value? "CONFCOM_SCRATCH_DIR").getD settings.scratch }

def load (environment : Environment) (files : Store) : Except SettingsFault Settings := do
  let settings ← match path? environment with
    | none => pure (standard environment)
    | some path => ofFile (standard environment) files path
  return settings.overridden environment

def algorithm (settings : Settings) : Except SettingsFault Algorithm :=
  match Algorithm.ofName settings.algorithmName with
  | .ok algorithm => .ok algorithm
  | .error _ => .error (.algorithm (.algorithmUnknown settings.algorithmName))

end Settings

end Enforcement
