import Enforcement.Files.Path
import Enforcement.Shell.Utility.Streams

/-! Programs that look at files and directories and change them. -/

namespace Enforcement.Shell.Utility

open Enforcement.Files Enforcement.Text

private def withoutSlashes (path : List Char) : List Char :=
  (path.reverse.dropWhile (· == '/')).reverse

def lastComponent (path : String) : String :=
  let inner := withoutSlashes path.toList
  if inner.isEmpty then (if path.isEmpty then "" else "/")
  else String.ofList ((inner.reverse.takeWhile (· != '/')).reverse)

def basename (arguments : List String) : Script Nat := do
  match arguments with
  | [] =>
    Script.complain "basename: missing operand"
    Script.complain "Try 'basename --help' for more information."
    return 1
  | path :: rest =>
    let name := lastComponent path
    let ending := rest.headD ""
    let name := if ending != "" && ending != name && ending.toList.isSuffixOf name.toList then
        String.ofList (name.toList.take (name.length - ending.length))
      else name
    putTextLine name
    return 0

def dirname (arguments : List String) : Script Nat := do
  for path in arguments do
    let inner := withoutSlashes path.toList
    let above := inner.reverse.dropWhile (· != '/')
    let directory := (withoutSlashes above.reverse)
    putTextLine (if !directory.isEmpty then String.ofList directory
      else if inner.isEmpty && !path.isEmpty then "/"
      else if above.isEmpty then "." else "/")
  if arguments.isEmpty then
    Script.complain "dirname: missing operand"
    Script.complain "Try 'dirname --help' for more information."
    return 1
  return 0

private def shownNames (letters : List Char) (names : List String) : List String :=
  let isHidden (name : String) := name.toList.head? == some '.'
  let shown := if letters.contains 'a' then "." :: ".." :: names
    else if letters.contains 'A' then names else names.filter (!isHidden ·)
  if letters.contains 'r' then shown.reverse else shown

def ls (arguments : List String) : Script Nat := do
  let (letters, operands) := lettersAndOperands arguments
  let paths := (if operands.isEmpty then ["."] else operands).mergeSort
    fun left right => decide (left ≤ right)
  let files := (← get).files
  let mut plain : List String := []
  let mut directories : List (String × List String) := []
  let mut whole := true
  for path in paths do
    match files.resolve path with
    | .error fault =>
      Script.complain s!"ls: cannot access '{path}': {reason fault}"
      whole := false
    | .ok place =>
      match files.entry? place with
      | none =>
        Script.complain s!"ls: cannot access '{path}': {reason .notFound}"
        whole := false
      | some (.file ..) => plain := plain ++ [path]
      | some .directory =>
        if letters.contains 'd' then plain := plain ++ [path]
        else directories := directories ++ [(path, shownNames letters (files.namesIn place))]
  for path in plain do putTextLine path
  let headed := 1 < paths.length
  let mut following := !plain.isEmpty
  for (path, names) in directories do
    if headed then
      if following then putTextLine ""
      putTextLine (path ++ ":")
    following := true
    for name in names do putTextLine name
  return if whole then 0 else 2

private def targetPath (files : Store) (source target : String) : String :=
  if files.isDirectory target then join target (lastComponent source) else target

private def copyTree (files : Store) (source target : Place) : Store :=
  let held := files.entries.filter fun entry => source.isPrefixOf entry.1
  held.foldl (fun files (place, entry) =>
    files.put (target ++ place.drop source.length) entry) files

private def copyOne (program : String) (recursive : Bool) (source target : String) :
    Script Bool := do
  let files := (← get).files
  let target := targetPath files source target
  match files.resolve source with
  | .error fault =>
    Script.complain s!"{program}: cannot stat '{source}': {reason fault}"
    return false
  | .ok place =>
    match files.entry? place with
    | none =>
      Script.complain s!"{program}: cannot stat '{source}': {reason .notFound}"
      return false
    | some .directory =>
      if !recursive then
        Script.complain s!"{program}: -r not specified; omitting directory '{source}'"
        return false
      match files.resolve target with
      | .ok goal =>
        modify ({ · with files := copyTree files place goal })
        return true
      | .error fault =>
        Script.complain s!"{program}: cannot create directory '{target}': {reason fault}"
        return false
    | some (.file bytes executable) =>
      match files.resolve target with
      | .ok goal =>
        if goal == place then
          Script.complain s!"{program}: '{source}' and '{target}' are the same file"
          return false
        match files.entry? goal with
        | some (.file _ kept) =>
          modify ({ · with files := files.put goal (.file bytes kept) })
          return true
        | _ =>
          modify ({ · with files := files.put goal (.file bytes executable) })
          return true
      | .error fault =>
        Script.complain s!"{program}: cannot create regular file '{target}': {reason fault}"
        return false

private def missingOperand (program : String) (operands : List String) : Script Nat := do
  match operands with
  | [] => Script.complain s!"{program}: missing file operand"
  | path :: _ => Script.complain s!"{program}: missing destination file operand after '{path}'"
  Script.complain s!"Try '{program} --help' for more information."
  return 1

def cp (arguments : List String) : Script Nat := do
  let (letters, operands) := lettersAndOperands arguments
  match operands.getLast?, operands.dropLast with
  | some target, source :: others =>
    if !others.isEmpty && !(← get).files.isDirectory target then
      Script.complain s!"cp: target '{target}' is not a directory"
      return 1
    let recursive := letters.contains 'r' || letters.contains 'R' || letters.contains 'a'
    let mut whole := true
    for path in source :: others do
      if !(← copyOne "cp" recursive path target) then whole := false
    return statusOf whole
  | _, _ => missingOperand "cp" operands

/-- Removes all at a place and below it; whether nothing stayed. -/
private def removeAt (complaint : String) (place : Place) : Script Bool := do
  let files := (← get).files
  modify ({ · with files := files.cut place })
  if files.outlasts place then
    Script.complain s!"{complaint}: {reason .permission}"
    return false
  return true

def mv (arguments : List String) : Script Nat := do
  let (_, operands) := lettersAndOperands arguments
  match operands.getLast?, operands.dropLast with
  | some target, source :: others =>
    let mut whole := true
    for path in source :: others do
      if ← copyOne "mv" true path target then
        match (← get).files.resolve path with
        | .ok place => if !(← removeAt s!"mv: cannot remove '{path}'" place) then whole := false
        | .error _ => pure ()
      else whole := false
    return statusOf whole
  | _, _ => missingOperand "mv" operands

def rm (arguments : List String) : Script Nat := do
  let (letters, operands) := lettersAndOperands arguments
  let recursive := letters.contains 'r' || letters.contains 'R'
  let mut whole := true
  for path in operands do
    let files := (← get).files
    let fault? : Option String := match files.resolve path with
      | .error fault => if letters.contains 'f' then none else some (reason fault)
      | .ok place =>
        match files.entry? place with
        | none => if letters.contains 'f' then none else some (reason .notFound)
        | some .directory => if recursive then none else some (reason .isDirectory)
        | some (.file ..) => none
    match fault?, files.resolve path with
    | some fault, _ =>
      Script.complain s!"rm: cannot remove '{path}': {fault}"
      whole := false
    | none, .ok place =>
      if !(← removeAt s!"rm: cannot remove '{path}'" place) then whole := false
    | none, .error _ => pure ()
  return statusOf whole

def mkdir (arguments : List String) : Script Nat := do
  let (letters, operands) := lettersAndOperands arguments
  let mut whole := true
  for path in operands do
    let files := (← get).files
    let (result, files) := if letters.contains 'p' then files.createDirectories path
      else match files.makeDirectory path with
        | .ok files => (.ok (), files)
        | .error fault => (.error fault, files)
    modify ({ · with files := files })
    match result with
    | .ok () => pure ()
    | .error fault =>
      Script.complain s!"mkdir: cannot create directory '{path}': {reason fault}"
      whole := false
  return statusOf whole

def rmdir (arguments : List String) : Script Nat := do
  let mut whole := true
  for path in arguments do
    let files := (← get).files
    let fault? : Option String := match files.resolve path with
      | .error fault => some (reason fault)
      | .ok place =>
        match files.entry? place with
        | none => some (reason .notFound)
        | some (.file ..) => some (reason .notDirectory)
        | some .directory =>
          if (files.namesIn place).isEmpty then none else some "Directory not empty"
    match fault?, files.resolve path with
    | some fault, _ =>
      Script.complain s!"rmdir: failed to remove '{path}': {fault}"
      whole := false
    | none, .ok place =>
      if !(← removeAt s!"rmdir: failed to remove '{path}'" place) then whole := false
    | none, .error _ => pure ()
  return statusOf whole

def touch (arguments : List String) : Script Nat := do
  let (_, operands) := lettersAndOperands arguments
  let mut whole := true
  for path in operands do
    let files := (← get).files
    if (files.find? path).isNone then
      match files.writeBytes path [] with
      | .ok files => modify ({ · with files := files })
      | .error fault =>
        Script.complain s!"touch: cannot touch '{path}': {reason fault}"
        whole := false
  return statusOf whole

private def executes? (mode : String) : Option Bool :=
  if mode.toList.all Char.isDigit then
    some (mode.toList.any fun c => c.toNat % 2 = 1)
  else if mode.toList.contains 'x' then some (!mode.toList.contains '-')
  else none

def chmod (arguments : List String) : Script Nat := do
  let mode := arguments.headD ""
  let mut whole := true
  for path in arguments.drop 1 do
    let files := (← get).files
    match files.resolve path with
    | .ok place =>
      match files.entry? place, executes? mode with
      | some (.file bytes _), some executable =>
        modify ({ · with files := files.put place (.file bytes executable) })
      | some _, _ => pure ()
      | none, _ =>
        Script.complain s!"chmod: cannot access '{path}': {reason .notFound}"
        whole := false
    | .error fault =>
      Script.complain s!"chmod: cannot access '{path}': {reason fault}"
      whole := false
  return statusOf whole

def tee (arguments : List String) : Script Nat := do
  let (letters, operands) := lettersAndOperands arguments
  let bytes ← Script.takeInput
  Script.put bytes
  let mut whole := true
  for path in operands do
    let files := (← get).files
    let held := if letters.contains 'a' then (files.readBytes path).toOption.getD [] else []
    match files.writeBytes path (held ++ bytes) with
    | .ok files => modify ({ · with files := files })
    | .error fault =>
      Script.complain s!"tee: {path}: {reason fault}"
      whole := false
  return statusOf whole

def milliseconds? (text : String) : Option Nat :=
  let body := text.toList.takeWhile fun c => c.isDigit || c == '.'
  let factor? : Option Nat := match text.toList.drop body.length with
    | [] => some 1000
    | ['s'] => some 1000
    | ['m'] => some 60000
    | ['h'] => some 3600000
    | ['d'] => some 86400000
    | _ => none
  let whole := body.takeWhile Char.isDigit
  let places := (body.dropWhile Char.isDigit).drop 1
  if body.isEmpty || !places.all Char.isDigit || (whole.isEmpty && places.isEmpty) then none
  else factor?.map fun factor =>
    let value (digits : List Char) := digits.foldl (fun value c => value * 10 + (c.toNat - 48)) 0
    value whole * factor + value places * factor / Nat.pow 10 places.length

def sleep (arguments : List String) : Script Nat := do
  if arguments.isEmpty then
    Script.complain "sleep: missing operand"
    Script.complain "Try 'sleep --help' for more information."
    return 1
  match arguments.mapM milliseconds? with
  | some times =>
    Script.sleep (times.foldl (· + ·) 0)
    return 0
  | none =>
    let wrong := (arguments.find? fun word => (milliseconds? word).isNone).getD ""
    Script.complain s!"sleep: invalid time interval '{wrong}'"
    Script.complain "Try 'sleep --help' for more information."
    return 1

def env (arguments : List String) : Script Nat := do
  let machine ← get
  match arguments with
  | [] =>
    for (name, value) in machine.bindings do
      if machine.exported.contains name then putTextLine (name ++ "=" ++ value)
    return 0
  | names =>
    let mut whole := true
    for name in names do
      match machine.lookup? name with
      | some value => if machine.exported.contains name then putTextLine value else whole := false
      | none => whole := false
    return statusOf whole

end Enforcement.Shell.Utility
