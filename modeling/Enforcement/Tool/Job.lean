import Enforcement.Error
import Enforcement.Files.Store
import Enforcement.Tool.Call

/-!
Work that reads and writes files and calls tools. The tools may do anything: what one answers, and
what it does to the files, may hang on the call, on the files and on all calls before it.
-/

namespace Enforcement

open Enforcement.Files

/-- Given the calls before it, the files and a call: the answer and the files after it. -/
abbrev Tools := List ToolCall → Store → ToolCall → Except RunFault ToolOutput × Store

structure Desk where
  files : Store
  calls : List ToolCall
  deriving Repr, Inhabited

abbrev Job := ReaderT Tools (ExceptT Error (StateM Desk))

namespace Job

def perform {α : Type} (job : Job α) (tools : Tools) (desk : Desk) : Except Error α × Desk :=
  (ReaderT.run job tools).run.run desk

def fail {α : Type} (error : Error) : Job α := throw error

def files : Job Store := return (← get).files

def setFiles (files : Store) : Job Unit := modify ({ · with files })

def change (path : String) (result : Except Fault Store) : Job Unit :=
  match result with
  | .ok files => setFiles files
  | .error fault => fail (.file path fault)

def readText (path : String) : Job String := do
  match (← files).readText path with
  | .ok text => return text
  | .error fault => fail (.file path fault)

def writeText (path text : String) : Job Unit := do
  change path ((← files).writeText path text)

def createDirectories (path : String) : Job Unit := do
  let (result, files) := (← files).createDirectories path
  setFiles files
  match result with
  | .ok _ => return
  | .error fault => fail (.file path fault)

def withHint (hint : String) : RunFault → RunFault
  | .notFound program _ => .notFound program hint
  | fault => fault

def call (hint : String) (call : ToolCall) : Job ToolOutput := do
  let desk ← get
  let (answer, files) := (← read) desk.calls desk.files call
  set (⟨files, desk.calls ++ [call]⟩ : Desk)
  match answer with
  | .ok output => return output
  | .error fault => fail (.run (withHint hint fault))

/--
Cleans up after the work, also when that fails. Nothing is made of a clean-up that fails: it is not
tried again, and the result stays that of the work.
-/
def withCleanUp {α : Type} (work : Job α) (cleanUp : Store → Except Fault Unit × Store) : Job α :=
  fun tools desk =>
    let (result, after) := work.perform tools desk
    let (_, files) := cleanUp after.files
    (result, { after with files })

end Job

end Enforcement
