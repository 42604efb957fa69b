import Enforcement.Files.Fault
import Enforcement.Files.Path
import Enforcement.Text.Utf8

/-! Files and directories, each at a place given by the names that lead to it from the root. -/

namespace Enforcement.Files

abbrev Place := List String

inductive Entry where
  | directory
  | file (bytes : List UInt8) (executable : Bool)
  deriving DecidableEq, Repr, Inhabited

/--
Where relative paths start, and what no removal takes away: at these places entries stay when a
directory above them is removed, be it that the system does not let them go (a directory that is
read-only keeps what is in it) or that the removal stopped before it came to them.
-/
structure Ground where
  home : Place
  lasting : List Place
  deriving Repr, Inhabited

/-- Ground on which everything can be removed. -/
instance : Coe Place Ground := ⟨(⟨·, []⟩)⟩

structure Store extends Ground where
  entries : List (Place × Entry)
  deriving Repr, Inhabited

namespace Store

/-- The root is always a directory. -/
def entry? (store : Store) (place : Place) : Option Entry :=
  if place = [] then some .directory
  else (store.entries.find? (·.1 == place)).map (·.2)

def put (store : Store) (place : Place) (entry : Entry) : Store :=
  if store.entries.any (·.1 == place) then
    { store with entries := store.entries.map fun held =>
        if held.1 == place then (place, entry) else held }
  else { store with entries := store.entries ++ [(place, entry)] }

def namesIn (store : Store) (place : Place) : List String :=
  let names := store.entries.filterMap fun (held, _) =>
    if held.dropLast == place then held.getLast? else none
  names.mergeSort fun left right => decide (left ≤ right)

/-- Something at a place or below it stays there, and so does what leads to it. -/
def outlasts (store : Store) (place : Place) : Bool :=
  store.entries.any fun held => place.isPrefixOf held.1 && store.lasting.contains held.1

/-- Without a place and all that lies below it, but for what stays. -/
def cut (store : Store) (place : Place) : Store :=
  { store with entries := store.entries.filter fun held =>
      !place.isPrefixOf held.1 || store.outlasts held.1 }

private def nameLimit : Nat := 255

private def pathLimit : Nat := 4096

def follow (store : Store) (place : Place) : List String → Except Fault Place
  | [] => .ok place
  | name :: rest =>
    match store.entry? place with
    | none => .error .notFound
    | some (.file ..) => .error .notDirectory
    | some .directory =>
      if nameLimit < name.utf8ByteSize then .error .nameTooLong
      else if name = "" || name = "." then follow store place rest
      else if name = ".." then follow store place.dropLast rest
      else follow store (place ++ [name]) rest

/-- The place that a path names; the last name need not be there. -/
def resolve (store : Store) (path : String) : Except Fault Place :=
  if path.isEmpty then .error .notFound
  else if path.toList.contains '\x00' then .error .nameWithNul
  else if pathLimit ≤ path.utf8ByteSize then .error .nameTooLong
  else store.follow (if isAbsolute path then [] else store.home) (names path.toList)

def find? (store : Store) (path : String) : Option Entry :=
  match store.resolve path with
  | .ok place => store.entry? place
  | .error _ => none

def isFile (store : Store) (path : String) : Bool :=
  match store.find? path with
  | some (.file ..) => true
  | _ => false

def isDirectory (store : Store) (path : String) : Bool :=
  store.find? path == some .directory

def readBytes (store : Store) (path : String) : Except Fault (List UInt8) := do
  match store.entry? (← store.resolve path) with
  | none => throw .notFound
  | some .directory => throw .isDirectory
  | some (.file bytes _) => return bytes

def readText (store : Store) (path : String) : Except Fault String := do
  match Text.readUtf8? (← store.readBytes path) with
  | some text => return text
  | none => throw .notText

def endsInSlash (path : String) : Bool := path.toList.getLast? == some '/'

def writeBytes (store : Store) (path : String) (bytes : List UInt8) : Except Fault Store := do
  let trimmed := if endsInSlash path then (parent? (path ++ "x")).getD path else path
  let place ← store.resolve trimmed
  match store.entry? place with
  | some .directory => throw .isDirectory
  | some (.file _ executable) =>
    if endsInSlash path then throw .notDirectory
    return store.put place (.file bytes executable)
  | none =>
    if endsInSlash path then throw .isDirectory
    return store.put place (.file bytes false)

def writeText (store : Store) (path text : String) : Except Fault Store :=
  store.writeBytes path (Text.encodeUtf8 text)

def makeDirectory (store : Store) (path : String) : Except Fault Store := do
  let trimmed := if endsInSlash path then (parent? (path ++ "x")).getD path else path
  let place ← store.resolve trimmed
  match store.entry? place with
  | some _ => throw .alreadyExists
  | none => return store.put place .directory

/-- Makes a directory and those above it; what was made stays also when a step fails. -/
def makeDirectories : Nat → String → Store → Except Fault Unit × Store
  | 0, _, store => (.ok (), store)
  | levels + 1, path, store =>
    if path.isEmpty then (.ok (), store)
    else
      match store.makeDirectory path with
      | .ok store => (.ok (), store)
      | .error .notFound =>
        match parent? path with
        | none => (.error .notFound, store)
        | some parent =>
          match makeDirectories levels parent store with
          | (.error fault, store) => (.error fault, store)
          | (.ok (), store) =>
            match store.makeDirectory path with
            | .ok store => (.ok (), store)
            | .error fault =>
              (if store.isDirectory path then .ok () else .error fault, store)
      | .error fault => (if store.isDirectory path then .ok () else .error fault, store)

def createDirectories (store : Store) (path : String) : Except Fault Unit × Store :=
  makeDirectories (path.length + 1) path store

/-- Removes a directory with all that is in it, as far as it goes. -/
def removeDirectory (store : Store) (path : String) : Except Fault Unit × Store :=
  match store.resolve path with
  | .error fault => (.error fault, store)
  | .ok place =>
    match store.entry? place with
    | none => (.error .notFound, store)
    | some (.file ..) => (.error .notDirectory, store)
    | some .directory =>
      (if store.outlasts place then .error .permission else .ok (), store.cut place)

end Store

end Enforcement.Files
