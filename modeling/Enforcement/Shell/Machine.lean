import Enforcement.Files.Store
import Enforcement.Shell.Syntax

/-! What a script works on, and what ends it before its last command. -/

namespace Enforcement.Shell

open Enforcement.Files

inductive Channel where
  | buffer (index : Nat)
  | file (place : Place)
  | nothing
  deriving DecidableEq, Repr, Inhabited

structure Machine where
  files : Store
  buffers : List (List UInt8)
  channels : List (Nat × Channel)
  bindings : List (String × String)
  exported : List String
  functions : List (String × Command)
  name : String
  arguments : List String
  line : Nat
  status : Nat
  /-- Milliseconds slept so far, and how many there may be. -/
  elapsed : Nat
  limit : Nat
  stopOnFailure : Bool
  /-- What to do at the end, under zero, and when a signal comes, under its number. -/
  traps : List (Nat × String)
  deriving Inhabited

inductive Interruption where
  | exit (status : Nat)
  | killed (signal : Nat)
  | broken (levels : Nat)
  | continued (levels : Nat)
  | returned (status : Nat)
  | overtime
  deriving DecidableEq, Repr, Inhabited

abbrev Script := ExceptT Interruption (StateM Machine)

/-- Turns that a loop may take, and commands inside one another. -/
def loopLimit : Nat := 20000

def depthLimit : Nat := 400

namespace Machine

def valueAt {α β : Type} [BEq α] (key : α) (held : List (α × β)) : Option β :=
  (held.find? (·.1 == key)).map (·.2)

def putAt {α β : Type} [BEq α] (key : α) (value : β) (held : List (α × β)) : List (α × β) :=
  if held.any (·.1 == key) then held.map fun entry => if entry.1 == key then (key, value) else entry
  else held ++ [(key, value)]

def lookup? (machine : Machine) (name : String) : Option String :=
  valueAt name machine.bindings

def setVariable (machine : Machine) (name value : String) : Machine :=
  { machine with bindings := putAt name value machine.bindings }

def buffer (machine : Machine) (index : Nat) : List UInt8 := machine.buffers.getD index []

def write (machine : Machine) (stream : Nat) (bytes : List UInt8) : Machine :=
  match valueAt stream machine.channels with
  | some (.buffer index) =>
    { machine with buffers := machine.buffers.set index (machine.buffer index ++ bytes) }
  | some (.file place) =>
    match machine.files.entry? place with
    | some (.file held executable) =>
      { machine with files := machine.files.put place (.file (held ++ bytes) executable) }
    | _ => machine
  | _ => machine

def pending (machine : Machine) (stream : Nat) : List UInt8 :=
  match valueAt stream machine.channels with
  | some (.buffer index) => machine.buffer index
  | _ => []

def setPending (machine : Machine) (stream : Nat) (bytes : List UInt8) : Machine :=
  match valueAt stream machine.channels with
  | some (.buffer index) => { machine with buffers := machine.buffers.set index bytes }
  | _ => machine

def addBuffer (machine : Machine) (bytes : List UInt8) : Nat × Machine :=
  (machine.buffers.length, { machine with buffers := machine.buffers ++ [bytes] })

def setChannel (machine : Machine) (stream : Nat) (channel : Channel) : Machine :=
  { machine with channels := putAt stream channel machine.channels }

def closeChannel (machine : Machine) (stream : Nat) : Machine :=
  { machine with channels := machine.channels.filter (·.1 != stream) }

end Machine

namespace Script

def put (bytes : List UInt8) : Script Unit := modify (·.write 1 bytes)

def putText (text : String) : Script Unit := put (Text.encodeUtf8 text)

def complain (text : String) : Script Unit := modify (·.write 2 (Text.encodeUtf8 (text ++ "\n")))

def complainHere (text : String) : Script Unit := do
  let machine ← get
  complain s!"{machine.name}: {machine.line}: {text}"

def readFile (path : String) : Script (Except Fault (List UInt8)) := do
  if path == "/dev/null" then return .ok [] else return (← get).files.readBytes path

def takeInput : Script (List UInt8) := do
  let machine ← get
  set (machine.setPending 0 [])
  return machine.pending 0

def setStatus (status : Nat) : Script Unit := modify ({ · with status := status })

/-- Time passes; when there is no more of it, everything ends. -/
def sleep (milliseconds : Nat) : Script Unit := do
  let machine ← get
  set { machine with elapsed := machine.elapsed + milliseconds }
  if machine.limit ≤ machine.elapsed + milliseconds then throw .overtime

def placeText (place : Place) : String := "/" ++ "/".intercalate place

end Script

end Enforcement.Shell
