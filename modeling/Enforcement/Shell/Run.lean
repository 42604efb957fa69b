import Enforcement.Shell.Expansion
import Enforcement.Shell.Program
import Enforcement.Shell.Reader

/-!
Scripts carried out: each command in a machine that holds the files, the streams and the variables.
Every loop and every nesting has a limit, behind which time is up.
-/

namespace Enforcement.Shell

open Enforcement.Files Enforcement.Text

abbrev Runner := Command → Script Unit

inductive Ending where
  | status (code : Nat)
  | signal (number : Nat)
  deriving DecidableEq, Repr, Inhabited

namespace Script

def attempt {α : Type} (work : Script α) : Script (Except Interruption α) :=
  fun machine => let (result, after) := work machine; (.ok result, after)

/-- What a part of its own leaves behind: the files, what was written, and the time. -/
def rejoin (before after : Machine) : Machine :=
  { before with
    files := { after.files with home := before.files.home }
    buffers := after.buffers
    elapsed := after.elapsed }

/-- Does work whose variables, directory and streams are its own. -/
def isolated (work : Script Unit) : Script Unit := do
  let before ← get
  let result ← attempt work
  let after ← get
  set (rejoin before after)
  match result with
  | .ok () => setStatus after.status
  | .error (.exit status) => setStatus status
  | .error (.returned status) => setStatus status
  | .error (.broken _) => setStatus after.status
  | .error (.continued _) => setStatus after.status
  | .error interruption => throw interruption

/-- Conditions may fail without ending a script that stops on failures. -/
def forgiving (work : Script Unit) : Script Unit := do
  let before := (← get).stopOnFailure
  modify ({ · with stopOnFailure := false })
  work
  modify ({ · with stopOnFailure := before })

end Script

private def closesQuotes : Option Char → List Char → Bool
  | opened, [] => opened.isNone
  | opened, '\\' :: c :: rest =>
    if opened = some '\'' then closesQuotes (if c = '\'' then none else opened) rest
    else closesQuotes opened rest
  | some mark, c :: rest => closesQuotes (if c = mark then none else some mark) rest
  | none, c :: rest => closesQuotes (if c == '\'' || c == '"' then some c else none) rest

def runText (run : Runner) (text : List Char) : Script Unit := do
  let lines := text.count '\n'
  let mut rest := skipLines text
  Script.setStatus 0
  for _ in List.range (text.length + 1) do
    if rest.isEmpty then break
    match readNext lines rest with
    | none => do
      modify ({ · with line := lines + 1 })
      Script.complainHere (if closesQuotes none rest then "Syntax error: end of file unexpected"
        else "Syntax error: Unterminated quoted string")
      throw (.exit 2)
    | some (commands, left) => do
      match skipBlanks left with
      | [] => pure ()
      | '\n' :: _ => pure ()
      | left =>
        modify ({ · with line := lines - left.count '\n' + 1 })
        let word := left.takeWhile fun c => c != '\n' && c != ' '
        Script.complainHere ("Syntax error: \"" ++ String.ofList word ++ "\" unexpected")
        throw (.exit 2)
      for command in commands do run command
      rest := skipLines left

def captureText (run : Runner) : Capture := fun text => do
  let before ← get
  let (index, machine) := before.addBuffer []
  set (machine.setChannel 1 (.buffer index))
  Script.isolated (runText run text)
  let after ← get
  set { after with channels := before.channels }
  let bytes := (after.buffer index).reverse.dropWhile (· == 10)
  return decodeUtf8 bytes.reverse

private def openingFault (creates : Bool) (path : String) (fault : Fault) : String :=
  let missing := fault == .notFound || fault == .notDirectory
  let absent := if creates then "Directory nonexistent" else "No such file"
  let why := if missing then absent else Utility.reason fault
  if creates then s!"cannot create {path}: {why}" else s!"cannot open {path}: {why}"

private def deviceStream? (path : String) : Option Nat :=
  if path == "/dev/stdin" then some 0
  else if path == "/dev/stdout" then some 1
  else if path == "/dev/stderr" then some 2
  else none

private def copyChannel (stream : Nat) (source : String) : Script Bool := do
  let machine ← get
  if source == "-" then
    set (machine.closeChannel stream)
    return true
  match source.toNat?.bind fun number => Machine.valueAt number machine.channels with
  | some channel =>
    set (machine.setChannel stream channel)
    return true
  | none =>
    Script.complainHere s!"{source}: Bad file descriptor"
    return false

private def openFile (stream : Nat) (direction : Direction) (path : String) : Script Bool := do
  let machine ← get
  match direction, deviceStream? path with
  | .copy, _ => copyChannel stream path
  | .here, _ =>
    let (index, machine) := machine.addBuffer (encodeUtf8 path)
    set (machine.setChannel stream (.buffer index))
    return true
  | _, some source => copyChannel stream (toString source)
  | .input, none =>
    if path == "/dev/null" then
      set (machine.setChannel stream .nothing)
      return true
    match machine.files.readBytes path with
    | .ok bytes =>
      let (index, machine) := machine.addBuffer bytes
      set (machine.setChannel stream (.buffer index))
      return true
    | .error fault =>
      Script.complainHere (openingFault false path fault)
      return false
  | direction, none =>
    if path == "/dev/null" then
      set (machine.setChannel stream .nothing)
      return true
    let held := if direction == .append then (machine.files.readBytes path).toOption.getD [] else []
    match machine.files.writeBytes path held, machine.files.resolve path with
    | .ok files, .ok place =>
      set { machine.setChannel stream (.file place) with files := files }
      return true
    | .error fault, _ | .ok _, .error fault =>
      Script.complainHere (openingFault true path fault)
      return false

private def redirect (capture : Capture) (redirections : List Redirection) : Script Bool := do
  for redirection in redirections do
    let target ← expandText capture redirection.target
    if !(← openFile redirection.stream redirection.direction target) then return false
  return true

def startScript (run : Runner) (name : String) (arguments : List String) (stops : Bool)
    (text : List Char) : Script Ending := do
  let before ← get
  set { before with
    bindings := before.bindings.filter fun held => before.exported.contains held.1
    functions := [], name := name, arguments := arguments, line := 1, stopOnFailure := stops
    traps := [] }
  let result ← Script.attempt (runText run text)
  let reached := (← get).status
  let status := match result with
    | .error (.exit status) => status
    | _ => reached
  let result ← match result, Machine.valueAt 0 (← get).traps with
    | .error (.killed signal), _ => pure (.error (.killed signal))
    | .error .overtime, _ => pure (.error .overtime)
    | result, none => pure result
    | _, some text =>
      modify ({ · with status := status, traps := [] })
      Script.attempt do
        runText run text.toList
        throw (.exit status)
  let after ← get
  set (Script.rejoin before after)
  match result with
  | .ok () => return .status after.status
  | .error (.exit status) => return .status status
  | .error (.returned status) => return .status status
  | .error (.killed signal) => return .signal signal
  | .error .overtime => throw .overtime
  | .error _ => return .status after.status

private def isShellOption (word : String) : Bool :=
  match word.toList with
  | '-' :: c :: rest => c != '-' && (c :: rest).all Char.isAlpha
  | _ => false

def startShell (run : Runner) (name : String) (arguments : List String) : Script Ending := do
  let options := (arguments.takeWhile isShellOption).flatMap String.toList
  let operands := arguments.dropWhile isShellOption
  let operands := if operands.head? == some "--" then operands.drop 1 else operands
  let stops := options.contains 'e'
  if options.contains 'c' then
    match operands with
    | [] =>
      Script.complain s!"{name}: 0: -c requires an argument"
      return .status 2
    | text :: rest => startScript run (rest.headD name) (rest.drop 1) stops text.toList
  else
    match operands with
    | [] => do
      let bytes ← Script.takeInput
      startScript run name [] stops (decodeUtf8 bytes).toList
    | path :: rest =>
      match (← get).files.readBytes path with
      | .ok bytes => startScript run path rest stops (decodeUtf8 bytes).toList
      | .error fault =>
        let reason := if fault == .notFound || fault == .notDirectory then "No such file"
          else Utility.reason fault
        Script.complain s!"{name}: 0: cannot open {path}: {reason}"
        return .status 2

def startUtility (run : Runner) (name : String) (arguments : List String) : Script Ending := do
  let complain := Script.complain
  if shellNames.contains name then startShell run name arguments
  else if name == "printf" then
    if arguments.isEmpty then
      complain "printf: missing operand"
      complain "Try 'printf --help' for more information."
      return .status 1
    return .status (← printFormatted complain arguments)
  else if name == "test" || name == "[" then
    return .status (← testCondition complain name arguments)
  else if name == "env" then
    let settings := arguments.takeWhile fun word => (assignment? [.plain word.toList]).isSome
    match arguments.drop settings.length with
    | program :: rest =>
      let before ← get
      for setting in settings do
        let name := setting.toList.takeWhile (· != '=')
        let value := (setting.toList.dropWhile (· != '=')).drop 1
        modify fun machine => { machine.setVariable (String.ofList name) (String.ofList value) with
          exported := machine.exported ++ [String.ofList name] }
      let ending ← if isUtility program && shellNames.contains program then
          startShell run program rest
        else
          match utilities.find? (·.1 == program) with
          | some (_, work) => pure (Ending.status (← work rest))
          | none =>
            Script.complain s!"env: '{program}': No such file or directory"
            pure (.status 127)
      modify fun machine => { machine with
        bindings := before.bindings, exported := before.exported }
      return ending
    | [] => return .status (← Utility.env [])
  else
    match utilities.find? (·.1 == name) with
    | some (_, work) => return .status (← work arguments)
    | none => return .status 127

def startFound (run : Runner) (found : Found) (name : String) (arguments : List String) :
    Script (Except Fault Ending) := do
  match found with
  | .fault fault => return .error fault
  | .utility utility =>
    if shellNames.contains utility then return .ok (← startShell run name arguments)
    return .ok (← startUtility run utility arguments)
  | .unmarked path => return .ok (← startShell run name (path :: arguments))
  | .script path interpreter option =>
    match foundAt (← get).files interpreter with
    | .utility utility =>
      return .ok (← startUtility run utility (option.toList ++ path :: arguments))
    | .fault fault => return .error fault
    | _ => return .error .notFound

private def signalNumbers : List (String × Nat) :=
  [("HUP", 1), ("INT", 2), ("QUIT", 3), ("ILL", 4), ("TRAP", 5), ("ABRT", 6), ("BUS", 7),
    ("FPE", 8), ("KILL", 9), ("USR1", 10), ("SEGV", 11), ("USR2", 12), ("PIPE", 13), ("ALRM", 14),
    ("TERM", 15), ("CHLD", 17), ("CONT", 18), ("STOP", 19)]

private def signalOf? (text : String) : Option Nat :=
  match text.toNat? with
  | some number => some number
  | none =>
    let name := if "SIG".toList.isPrefixOf text.toList then String.ofList (text.toList.drop 3)
      else text
    Machine.valueAt name signalNumbers

private def signalText? (signal : Nat) : Option String :=
  Machine.valueAt signal
    [(1, "Hangup"), (3, "Quit"), (4, "Illegal instruction"), (6, "Aborted"), (7, "Bus error"),
      (8, "Floating point exception"), (9, "Killed"), (10, "User defined signal 1"),
      (11, "Segmentation fault"), (12, "User defined signal 2"), (14, "Alarm clock"),
      (15, "Terminated")]

private def setTraps (arguments : List String) : Script Nat := do
  let arguments := if arguments.head? == some "--" then arguments.drop 1 else arguments
  for name in arguments.drop 1 do
    let number? := if name == "EXIT" then some 0 else signalOf? name
    match number? with
    | none => pure ()
    | some number =>
      modify fun machine => { machine with
        traps := if arguments.head? == some "-" then machine.traps.filter (·.1 != number)
          else Machine.putAt number (arguments.headD "") machine.traps }
  return 0

/-- Sends a signal; only the script itself can be met by it. -/
private def kill (run : Runner) (arguments : List String) : Script Nat := do
  let (signal?, targets) : Option Nat × List String := match arguments with
    | "-s" :: name :: rest => (signalOf? name, rest)
    | word :: rest =>
      match word.toList with
      | '-' :: name => (signalOf? (String.ofList name), rest)
      | _ => (some 15, word :: rest)
    | [] => (some 15, [])
  match signal? with
  | none =>
    Script.complainHere ("kill: Illegal option " ++ arguments.headD "")
    return 2
  | some signal =>
    let mut whole := true
    for target in targets do
      if target == processNumber then
        match Machine.valueAt signal (← get).traps with
        | some text => if signal == 9 then throw (.killed signal) else runText run text.toList
        | none => if signal != 0 && signal != 17 && signal != 18 then throw (.killed signal)
      else
        Script.complainHere "kill: No such process"
        whole := false
    return if whole then 0 else 1

private def levelsOf (arguments : List String) : Nat :=
  max 1 ((arguments.head?.bind String.toNat?).getD 1)

private def splitAssignment (word : String) : String × Option String :=
  let name := word.toList.takeWhile (· != '=')
  match word.toList.dropWhile (· != '=') with
  | _ :: value => (String.ofList name, some (String.ofList value))
  | [] => (String.ofList name, none)

private def changeDirectory (arguments : List String) : Script Nat := do
  let machine ← get
  let path := (arguments.head?.orElse fun _ => machine.lookup? "HOME").getD ""
  if path.isEmpty then return 0
  match machine.files.resolve path with
  | .ok place =>
    if machine.files.entry? place == some .directory then
      set { machine with files := { machine.files with home := place } }
      return 0
    Script.complainHere s!"cd: can't cd to {path}"
    return 2
  | .error _ =>
    Script.complainHere s!"cd: can't cd to {path}"
    return 2

private def readVariables (arguments : List String) : Script Nat := do
  let names := arguments.filter fun word => word != "-r"
  let machine ← get
  let bytes := machine.pending 0
  let line := bytes.takeWhile (· != 10)
  let rest := bytes.dropWhile (· != 10)
  set (machine.setPending 0 (rest.drop 1))
  let marks := ((machine.lookup? "IFS").getD " \t\n").toList
  let isMark (c : Char) := marks.contains c
  let mut text := (decodeUtf8 line).toList.dropWhile isMark
  let mut left := names.length
  for name in names do
    left := left - 1
    let value := if left = 0 then (text.reverse.dropWhile isMark).reverse
      else text.takeWhile (!isMark ·)
    let after := text.drop value.length
    text := after.dropWhile isMark
    modify (·.setVariable name (String.ofList value))
  return if rest.isEmpty then 1 else 0

private def exportNames (arguments : List String) : Script Nat := do
  for word in arguments.filter (· != "-p") do
    let (name, value?) := splitAssignment word
    match value? with
    | some value => modify (·.setVariable name value)
    | none => pure ()
    modify fun machine => { machine with exported := machine.exported ++ [name] }
  return 0

private def setOptions (arguments : List String) : Script Nat := do
  let isOption (word : String) := match word.toList with
    | '-' :: c :: _ => c != '-'
    | '+' :: _ :: _ => true
    | _ => false
  for option in arguments.takeWhile isOption do
    if option.toList.contains 'e' then
      modify ({ · with stopOnFailure := option.toList.head? == some '-' })
  match arguments.dropWhile isOption with
  | "--" :: rest => modify ({ · with arguments := rest })
  | [] => pure ()
  | rest => modify ({ · with arguments := rest })
  return 0

private def decimal? (word : String) : Option Nat :=
  if word.toList.all Char.isDigit then word.toNat? else none

def builtin? (run : Runner) (name : String) (arguments : List String) : Option (Script Nat) :=
  let number (standard : Nat) : Script Nat := do
    match arguments.head? with
    | none => return standard
    | some word =>
      match decimal? word with
      | some value => return value
      | none =>
        Script.complainHere s!"{name}: Illegal number: {word}"
        throw (.exit 2)
  match name with
  | ":" | "true" | "wait" | "umask" | "ulimit" | "hash" => some (return 0)
  | "false" => some (return 1)
  | "echo" => some do Script.put (echoed arguments); return 0
  | "printf" => some (printFormatted Script.complainHere arguments)
  | "test" | "[" => some (testCondition Script.complainHere name arguments)
  | "exit" => some do throw (.exit ((← number (← get).status) % 256))
  | "return" => some do throw (.returned ((← number (← get).status) % 256))
  | "break" => some (throw (.broken (levelsOf arguments)))
  | "continue" => some (throw (.continued (levelsOf arguments)))
  | "shift" => some do
    let count ← number 1
    let machine ← get
    if machine.arguments.length < count then
      Script.complainHere "shift: can't shift that many"
      throw (.exit 2)
    set { machine with arguments := machine.arguments.drop count }
    return 0
  | "set" => some (setOptions arguments)
  | "cd" => some (changeDirectory arguments)
  | "pwd" => some do Utility.putTextLine (Script.placeText (← get).files.home); return 0
  | "export" | "readonly" => some (exportNames arguments)
  | "local" => some do
    for word in arguments do
      let (name, value?) := splitAssignment word
      modify (·.setVariable name (value?.getD ""))
    return 0
  | "unset" => some do
    modify fun machine => { machine with
      bindings := machine.bindings.filter fun held => !arguments.contains held.1
      functions := machine.functions.filter fun held => !arguments.contains held.1 }
    return 0
  | "read" => some (readVariables arguments)
  | "kill" => some (kill run arguments)
  | "trap" => some (setTraps arguments)
  | "eval" => some do
    runText run (" ".intercalate arguments).toList
    return (← get).status
  | "." => some do
    match arguments with
    | [] => return 0
    | path :: _ =>
      match (← get).files.readBytes path with
      | .ok bytes =>
        runText run (decodeUtf8 bytes).toList
        return (← get).status
      | .error _ =>
        Script.complainHere s!".: cannot open {path}: No such file"
        throw (.exit 2)
  | _ => none

private def describe (run : Runner) (names : List String) : Script Nat := do
  let mut status := 0
  for name in names do
    let machine ← get
    if (Machine.valueAt name machine.functions).isSome then
      Utility.putTextLine s!"{name} is a shell function"
    else if (builtin? run name []).isSome then Utility.putTextLine s!"{name} is a shell builtin"
    else
      match findProgram machine.files ((machine.lookup? "PATH").getD "") name with
      | .fault _ =>
        Utility.putTextLine s!"{name}: not found"
        status := 127
      | .script path .. | .unmarked path => Utility.putTextLine s!"{name} is {path}"
      | .utility utility => Utility.putTextLine s!"{name} is /usr/bin/{utility}"
  return status

def startNamed (run : Runner) (name : String) (arguments : List String) : Script Nat := do
  let machine ← get
  let searchPath := (machine.lookup? "PATH").getD ""
  let found := findProgram machine.files searchPath name
  match ← startFound run found name arguments with
  | .ok (.signal signal) =>
    match signalText? signal with
    | some text => Script.complain text
    | none => pure ()
    return 128 + signal
  | .ok (.status code) => return code
  | .error fault =>
    if fault == .notFound || fault == .notDirectory then
      Script.complainHere s!"{name}: not found"
      return 127
    Script.complainHere s!"{name}: {Utility.reason fault}"
    return 126

private def callFunction (run : Runner) (body : Command) (arguments : List String) :
    Script Nat := do
  let before := (← get).arguments
  modify ({ · with arguments := arguments })
  let result ← Script.attempt (run body)
  modify ({ · with arguments := before })
  match result with
  | .ok () => return (← get).status
  | .error (.returned status) => return status
  | .error interruption => throw interruption

private def dispatch (run : Runner) (words : List String) : Script Nat := do
  match words with
  | [] => return (← get).status
  | name :: arguments =>
    match Machine.valueAt name (← get).functions with
    | some body => callFunction run body arguments
    | none =>
      match name, arguments with
      | "command", name :: arguments =>
        if name == "-v" then
          match arguments with
          | [] => return 0
          | wanted :: _ =>
            if (builtin? run wanted []).isSome then Utility.putTextLine wanted; return 0
            match findProgram (← get).files (((← get).lookup? "PATH").getD "") wanted with
            | .fault _ => return 127
            | .utility utility => Utility.putTextLine s!"/usr/bin/{utility}"; return 0
            | _ => Utility.putTextLine wanted; return 0
        match builtin? run name arguments with
        | some work => work
        | none => startNamed run name arguments
      | "type", names => describe run names
      | "exec", [] => return 0
      | "exec", name :: arguments => throw (.exit (← startNamed run name arguments))
      | name, arguments =>
        match builtin? run name arguments with
        | some work => work
        | none => startNamed run name arguments

private def runSimple (run : Runner) (line : Nat) (assignments : List (String × Word))
    (words : List Word) : Script Unit := do
  modify ({ · with line := line })
  let capture := captureText run
  let earlier := (← get).status
  let texts ← expandWords capture words
  let before ← get
  if texts.isEmpty then
    Script.setStatus (if before.status == earlier && words.isEmpty then 0 else before.status)
  for (name, word) in assignments do
    let value ← expandText capture word
    modify (·.setVariable name value)
  if texts.isEmpty then return
  if !assignments.isEmpty then
    modify fun machine => { machine with exported := machine.exported ++ assignments.map (·.1) }
  let status ← dispatch run texts
  if !assignments.isEmpty then
    modify fun machine => { machine with
      exported := before.exported
      bindings := machine.bindings.filterMap fun (name, value) =>
        if assignments.any (·.1 == name) then (before.lookup? name).map fun held => (name, held)
        else some (name, value) }
  Script.setStatus status
  if status != 0 && (← get).stopOnFailure then throw (.exit status)

private def runAll (run : Runner) (commands : List Command) : Script Unit := do
  for command in commands do run command

private def runTurn (run : Runner) (body : List Command) : Script Bool := do
  match ← Script.attempt (runAll run body) with
  | .ok () => return true
  | .error (.broken levels) => if 1 < levels then throw (.broken (levels - 1)) else return false
  | .error (.continued levels) =>
    if 1 < levels then throw (.continued (levels - 1)) else return true
  | .error interruption => throw interruption

private def runLoop (run : Runner) (whileFails : Bool) (condition body : List Command) :
    Script Unit := do
  let mut status := 0
  for _ in List.range loopLimit do
    match ← Script.attempt (Script.forgiving (runAll run condition)) with
    | .ok () => pure ()
    | .error (.broken _) => Script.setStatus 0; return
    | .error interruption => throw interruption
    if ((← get).status == 0) == whileFails then
      Script.setStatus status
      return
    let goesOn ← runTurn run body
    status := (← get).status
    if !goesOn then Script.setStatus 0; return
  throw .overtime

/-- Each stage reads what the one before it wrote. -/
private def runStages (run : Runner) : List Command → Option Nat → Script Unit
  | [], _ => return
  | stage :: rest, source => do
    let before ← get
    let (index, machine) := before.addBuffer []
    let machine := match source with
      | some held => machine.setChannel 0 (.buffer held)
      | none => machine
    set (if rest.isEmpty then machine else machine.setChannel 1 (.buffer index))
    Script.isolated (run stage)
    modify ({ · with channels := before.channels })
    runStages run rest (some index)

private def selectBranch (run : Runner) (subject : String) :
    List (List Word × List Command) → Script Unit
  | [] => Script.setStatus 0
  | (patterns, body) :: rest => do
    let mut fitting := false
    for pattern in patterns do
      if !fitting && fits (← expandPattern (captureText run) pattern) subject.toList then
        fitting := true
    if fitting then
      Script.setStatus 0
      runAll run body
    else selectBranch run subject rest

private def chooseBranch (run : Runner) (otherwise : List Command) :
    List (List Command × List Command) → Script Unit
  | [] => do
    Script.setStatus 0
    runAll run otherwise
  | (condition, body) :: rest => do
    Script.forgiving (runAll run condition)
    if (← get).status == 0 then runAll run body else chooseBranch run otherwise rest

private def isBareExec : Command → Bool
  | .simple _ _ [[.plain text]] => text == "exec".toList
  | _ => false

def step (run : Runner) : Runner
  | .simple line assignments words => runSimple run line assignments words
  | .pipeline stages => runStages run stages none
  | .negated command => do
    Script.forgiving (run command)
    Script.setStatus (if (← get).status == 0 then 1 else 0)
  | .both first second => do
    Script.forgiving (run first)
    if (← get).status == 0 then run second
  | .either first second => do
    Script.forgiving (run first)
    if (← get).status != 0 then run second
  | .background command => do
    Script.isolated (run command)
    Script.setStatus 0
  | .group body => runAll run body
  | .subshell body => do
    Script.isolated (runAll run body)
    let machine ← get
    if machine.status != 0 && machine.stopOnFailure then throw (.exit machine.status)
  | .choice branches otherwise => chooseBranch run otherwise branches
  | .loop whileFails condition body => runLoop run whileFails condition body
  | .each name words body => do
    let values ← match words with
      | some words => expandWords (captureText run) words
      | none => pure (← get).arguments
    Script.setStatus 0
    for value in values do
      modify (·.setVariable name value)
      if !(← runTurn run body) then
        Script.setStatus 0
        return
  | .select subject branches => do
    selectBranch run (← expandText (captureText run) subject) branches
  | .define name body => do
    modify fun machine => { machine with functions := Machine.putAt name body machine.functions }
    Script.setStatus 0
  | .redirected command line redirections => do
    modify ({ · with line := line })
    let before ← get
    if ← redirect (captureText run) redirections then
      if isBareExec command then return
      let result ← Script.attempt (run command)
      modify ({ · with channels := before.channels })
      match result with
      | .ok () => return
      | .error interruption => throw interruption
    else
      modify ({ · with channels := before.channels })
      Script.setStatus 2
      if before.stopOnFailure then throw (.exit 2)

/-- Runs a command that has at most so many others inside one another. -/
def runWithin : Nat → Runner
  | 0 => fun _ => throw .overtime
  | depth + 1 => step (runWithin depth)

def runCommand : Runner := runWithin depthLimit

end Enforcement.Shell
