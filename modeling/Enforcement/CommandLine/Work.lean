import Enforcement.CommandLine.Failure
import Enforcement.Tool.Job

/-! Work of a command. It fails as a command fails, and ends with the text that is printed. -/

namespace Enforcement.CommandLine

abbrev Work := ReaderT Tools (ExceptT Failure (StateM Desk))

namespace Work

def perform {α : Type} (work : Work α) (tools : Tools) (desk : Desk) :
    Except Failure α × Desk :=
  (ReaderT.run work tools).run.run desk

def fail {α : Type} (failure : Failure) : Work α := throw failure

/-- A job done for a command, which says how the failure of the job is its own. -/
def ofJob {α : Type} (failure : Error → Failure) (job : Job α) : Work α := fun tools desk =>
  let (result, after) := job.perform tools desk
  (result.mapError failure, after)

instance : MonadLift Job Work := ⟨ofJob .error⟩

def writeText (path text : String) : Work Unit := do
  match (← Job.files).writeText path text with
  | .ok files => Job.setFiles files
  | .error fault => fail (.writing path fault)

end Work

def outputLines (texts : List String) : String := String.join (texts.map (· ++ "\n"))

end Enforcement.CommandLine
