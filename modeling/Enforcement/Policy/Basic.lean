/-! Policies: the containers that may run, and the fragments that may add to them. -/

namespace Enforcement

inductive EnvStrategy where
  | string
  | re2
  deriving DecidableEq, Repr, Inhabited

structure EnvRule where
  pattern : String
  strategy : EnvStrategy
  required : Bool
  deriving DecidableEq, Repr, Inhabited

namespace EnvRule

def literal (name value : String) : EnvRule := ⟨name ++ "=" ++ value, .string, false⟩

def regex (name value : String) : EnvRule := ⟨name ++ "=" ++ value, .re2, false⟩

def wildcard (name : String) : EnvRule := regex name ".*"

end EnvRule

structure MountRule where
  destination : String
  source : String
  kind : String
  options : List String
  deriving DecidableEq, Repr, Inhabited

structure ExecProcess where
  command : List String
  signals : List Int32
  deriving DecidableEq, Repr, Inhabited

structure Capabilities where
  add : List String
  drop : List String
  deriving DecidableEq, Repr, Inhabited

structure SecurityContext where
  privileged : Option Bool
  allowPrivilegeEscalation : Option Bool
  runAsUser : Option Int64
  runAsGroup : Option Int64
  capabilities : Option Capabilities
  deriving DecidableEq, Repr, Inhabited

structure Container where
  id : String
  name : String
  command : List String
  envRules : List EnvRule
  mounts : List MountRule
  execProcesses : List ExecProcess
  signals : List Int32
  allowStdioAccess : Bool
  securityContext : Option SecurityContext
  deriving DecidableEq, Repr, Inhabited

inductive Contribution where
  | containers
  | fragments
  deriving DecidableEq, Repr, Inhabited

namespace Contribution

def all : List Contribution := [containers, fragments]

def name : Contribution → String
  | containers => "containers"
  | fragments => "fragments"

def ofName? (name : String) : Option Contribution := all.find? (·.name == name)

theorem ofName?_name (contribution : Contribution) :
    ofName? contribution.name = some contribution := by
  cases contribution <;> decide

def normalize (contributions : List Contribution) : List Contribution :=
  all.filter (contributions.contains ·)

end Contribution

structure FragmentImport where
  issuer : String
  feed : String
  minimumSvn : String
  includes : List Contribution
  deriving DecidableEq, Repr, Inhabited

structure Policy where
  fragments : List FragmentImport
  containers : List Container
  deriving DecidableEq, Repr, Inhabited

/-- Keeps the first of several equal items. -/
def distinct {α : Type} [DecidableEq α] : List α → List α
  | [] => []
  | item :: rest => item :: (distinct rest).filter (· ≠ item)

structure BuildOptions where
  debugMode : Bool
  allowStdioAccess : Bool
  approveWildcards : Bool
  infrastructureSvn : Option String
  excludeDefaultFragments : Bool
  deriving DecidableEq, Repr, Inhabited

end Enforcement
