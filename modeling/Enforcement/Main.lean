import Enforcement.CommandLine.Run

/-!
The program on a disk. The files that the words, the settings and the search path name are read,
the command is run on them, and what it changed is written back. Tools are scripts.
-/

namespace Enforcement.CommandLine

open Enforcement.Files

def variableNames : List String :=
  ["HOME", "PATH", "PWD", "TMPDIR", "CONFCOM_CONFIG_PATH", "CONFCOM_SIGN1UTIL", "CONFCOM_ORAS",
    "CONFCOM_SIGNING_TIMEOUT_SECS", "CONFCOM_REGISTRY_TIMEOUT_SECS", "CONFCOM_SCRATCH_DIR"]

def readEnvironment : IO Environment :=
  variableNames.filterMapM fun name => return (← IO.getEnv name).map fun value => (name, value)

def namedPaths (word : String) : List String :=
  match Word.ofText word with
  | .name _ joined => joined.toList
  | .letters group => [String.ofList (group.drop 1), String.ofList (group.drop 2)]
  | _ => [word]

def settingsPaths (environment : Environment) (settings : Settings) : List String :=
  let directories := ((environment.value? "PATH").getD "").splitOn ":"
  let places (program : String) := program :: directories.map (join · program)
  settings.scratch :: (places settings.signer.program ++ places settings.registry.program)

def placeFrom (home : Place) (path : String) : Place :=
  (names path.toList).foldl (fun place name =>
    if name = "" || name = "." then place
    else if name = ".." then place.dropLast
    else place ++ [name]) (if isAbsolute path then [] else home)

def pathOf (place : Place) : String := "/" ++ "/".intercalate place

def readEntry (path : String) : IO (Option Entry) := do
  try
    let bytes := (← IO.FS.readBinFile path).toList
    return some (.file bytes ("#!".toUTF8.toList.isPrefixOf bytes))
  catch _ =>
    try
      let _ ← IO.FS.realPath path
      return some .directory
    catch _ => return none

def readPath (store : Store) (path : String) : IO Store := do
  let place := placeFrom store.home path
  (List.range place.length).foldlM (fun store above => do
    let here := place.take (above + 1)
    match ← readEntry (pathOf here) with
    | some entry => return store.put here entry
    | none => return store) store

def readPaths (store : Store) (paths : List String) : IO Store := paths.foldlM readPath store

/-- Writes what differs; what is inside a directory is removed before the directory. -/
def writeBack (before after : Store) : IO Unit := do
  for (place, entry) in before.entries.reverse do
    if (after.entry? place).isNone then
      match entry with
      | .directory => IO.FS.removeDirAll (pathOf place)
      | .file .. => IO.FS.removeFile (pathOf place)
  for (place, entry) in after.entries do
    if before.entry? place ≠ some entry then
      match entry with
      | .directory => IO.FS.createDirAll (pathOf place)
      | .file bytes _ => IO.FS.writeBinFile (pathOf place) ⟨bytes.toArray⟩

end Enforcement.CommandLine

open Enforcement Enforcement.CommandLine in
def main (words : List String) : IO UInt32 := do
  let environment ← readEnvironment
  let directory := (← IO.currentDir).toString
  let store ← readPaths ⟨placeFrom [] directory, []⟩
    (directory :: (Settings.path? environment).toList ++ words.flatMap namedPaths)
  let settings := (Settings.load environment store).toOption.getD (Settings.standard environment)
  let store ← readPaths store (settingsPaths environment settings)
  let (ending, after) := run environment words store
  writeBack store after
  (← IO.getStdout).putStr ending.stdout
  (← IO.getStderr).putStr ending.stderr
  return ending.exit.toUInt32
