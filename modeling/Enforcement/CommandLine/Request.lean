import Enforcement.CommandLine.Argument
import Enforcement.Policy.Authoring

/-! The commands and what each of them is asked to do. -/

namespace Enforcement.CommandLine

inductive PolicyFormat where
  | json
  | rego
  | base64
  deriving DecidableEq, Repr, Inhabited

namespace PolicyFormat

def name : PolicyFormat → String
  | json => "json"
  | rego => "rego"
  | base64 => "base64"

def all : List PolicyFormat := [json, rego, base64]

def ofName? (name : String) : Option PolicyFormat := all.find? (·.name == name)

end PolicyFormat

inductive PolicySource where
  | template (path : String) (parameters : Option String)
  | specFile (path : String)
  deriving DecidableEq, Repr, Inhabited

inductive Delivery where
  | output (format : PolicyFormat) (path : Option String)
  | injection
  deriving DecidableEq, Repr, Inhabited

structure PolicyRequest where
  source : Option PolicySource
  imports : Option String
  options : BuildOptions
  delivery : Delivery
  deriving DecidableEq, Repr, Inhabited

structure KeyPaths where
  key : String
  chain : String
  deriving DecidableEq, Repr, Inhabited

structure GenerateRequest where
  input : String
  options : BuildOptions
  package : String
  svn : String
  feed : Option String
  outputDirectory : String
  signing : Option KeyPaths
  algorithm : Option String
  publication : Option Publication
  deriving DecidableEq, Repr, Inhabited

structure EnvelopeRequest where
  payload : String
  signing : KeyPaths
  feed : Option String
  issuer : Option String
  algorithm : Option String
  out : Option String
  deriving DecidableEq, Repr, Inhabited

inductive ImportSource where
  | image (image : String)
  | signed (path : String)
  deriving DecidableEq, Repr, Inhabited

structure ImportRequest where
  source : ImportSource
  minimumSvn : String
  imports : String
  deriving DecidableEq, Repr, Inhabited

inductive Request where
  | policy (request : PolicyRequest)
  | generate (request : GenerateRequest)
  | sign (request : EnvelopeRequest)
  | verify (signed : String)
  | imports (request : ImportRequest)
  | discover (image : String)
  | push (signed destination : String)
  | attach (signed image : String)
  deriving DecidableEq, Repr, Inhabited

structure Invocation where
  logDirectory : Option String
  request : Request
  deriving DecidableEq, Repr, Inhabited

private def flag (name : String) : Switch := ⟨name, none, .flag⟩

private def path (name : String) : Switch := ⟨name, none, .valued .path⟩

private def text (name : String) : Switch := ⟨name, none, .valued .text⟩

private def lettered (letter : Char) (switch : Switch) : Switch :=
  { switch with letter := some letter }

private def helpSwitch : Switch := ⟨"help", some 'h', .asks .help⟩

private def versionSwitch : Switch := ⟨"version", some 'V', .asks .version⟩

private def everywhere : List Switch := [helpSwitch, path "log-dir"]

private def buildSwitches : List Switch :=
  [flag "debug-mode", flag "disable-stdio", lettered 'y' (flag "approve-wildcards")]

private def signingSwitches : List Switch :=
  [path "key", path "chain", text "feed", text "algorithm"]

def mainGrammar : Grammar where
  switches := versionSwitch :: everywhere
  operands := []
  commands := ["policy", "fragment", "sign", "verify", "import", "discover", "push", "attach",
    "help"]

def fragmentGrammar : Grammar where
  switches := everywhere
  operands := []
  commands := ["generate", "help"]

private def policyGrammar : Grammar where
  switches := everywhere ++ buildSwitches ++
    [lettered 'a' (path "template"), lettered 'p' (path "parameters"), lettered 'i' (path "input"),
      path "fragments-json", text "infrastructure-svn", flag "exclude-default-fragments",
      ⟨"output", none, .valued (.oneOf (PolicyFormat.all.map (·.name)))⟩, path "out-file",
      flag "inject"]
  operands := []
  commands := []

private def generateGrammar : Grammar where
  switches := everywhere ++ buildSwitches ++ signingSwitches ++
    [lettered 'i' (path "input"), text "namespace", text "svn", path "output-dir",
      text "attach-to", text "push-to"]
  operands := []
  commands := []

private def signGrammar : Grammar where
  switches := everywhere ++ signingSwitches ++ [path "payload", text "issuer", path "out"]
  operands := []
  commands := []

private def importGrammar : Grammar where
  switches := everywhere ++
    [text "image", path "path", text "minimum-svn", path "fragments-json"]
  operands := []
  commands := []

private def operandGrammar (operands : List Slot) : Grammar := ⟨everywhere, operands, []⟩

private def buildOptions (given : Given) : BuildOptions where
  debugMode := given.has "debug-mode"
  allowStdioAccess := !given.has "disable-stdio"
  approveWildcards := given.has "approve-wildcards"
  infrastructureSvn := none
  excludeDefaultFragments := false

/--
A template and a specification file exclude each other. What needs a template is let through beside
a specification file, where the template could not be given.
-/
def PolicyRequest.ofGiven (given : Given) : Except Halt PolicyRequest := do
  for name in ["template", "infrastructure-svn", "exclude-default-fragments"] do
    given.apart name "input"
  for name in ["out-file", "output"] do
    given.apart "inject" name
  if !given.has "input" then
    for name in ["parameters", "inject"] do
      given.withOther name "template"
  let format := ((given.value? "output").bind PolicyFormat.ofName?).getD .rego
  return {
    source :=
      match given.value? "template", given.value? "input" with
      | some path, _ => some (.template path (given.value? "parameters"))
      | none, some path => some (.specFile path)
      | none, none => none
    imports := given.value? "fragments-json"
    options := { buildOptions given with
      infrastructureSvn := given.value? "infrastructure-svn"
      excludeDefaultFragments := given.has "exclude-default-fragments" }
    delivery :=
      if given.has "inject" then .injection else .output format (given.value? "out-file") }

def GenerateRequest.ofGiven (given : Given) : Except Halt GenerateRequest := do
  given.apart "attach-to" "push-to"
  given.withOther "key" "chain"
  given.withOther "chain" "key"
  return {
    input := ← given.required "input"
    options := buildOptions given
    package := ← given.required "namespace"
    svn := ← given.required "svn"
    feed := given.value? "feed"
    outputDirectory := (given.value? "output-dir").getD "."
    signing := do return ⟨← given.value? "key", ← given.value? "chain"⟩
    algorithm := given.value? "algorithm"
    publication :=
      ((given.value? "attach-to").map .attachTo).or ((given.value? "push-to").map .pushTo) }

def EnvelopeRequest.ofGiven (given : Given) : Except Halt EnvelopeRequest := do
  return {
    payload := ← given.required "payload"
    signing := ⟨← given.required "key", ← given.required "chain"⟩
    feed := given.value? "feed"
    issuer := given.value? "issuer"
    algorithm := given.value? "algorithm"
    out := given.value? "out" }

def ImportRequest.ofGiven (given : Given) : Except Halt ImportRequest := do
  given.apart "image" "path"
  let source ← match given.value? "path" with
    | some path => pure (.signed path)
    | none => pure (.image (← given.required "image"))
  return ⟨source, ← given.required "minimum-svn", ← given.required "fragments-json"⟩

private def readRequest (grammar : Grammar) (request : Given → Except Halt Request)
    (words : List String) : Except Halt Invocation := do
  let reading ← grammar.read words
  return ⟨reading.given.value? "log-dir", ← request reading.given⟩

/-- The innermost directory for logs counts. -/
private def Invocation.orLogDirectory (invocation : Invocation) (outer : Given) : Invocation :=
  { invocation with logDirectory := invocation.logDirectory.or (outer.value? "log-dir") }

private def askedHelp (grammar : Grammar) : List String → Except Halt Unit
  | [] => .error (.answer .help)
  | word :: words =>
    if !grammar.commands.contains word then .error (.usage (.wordUnknown word))
    else
      match word, words with
      | "fragment", words => askedHelp fragmentGrammar words
      | _, [] => .error (.answer .help)
      | _, word :: _ => .error (.usage (.wordUnknown word))

private def readCommand (grammar : Grammar)
    (ofCommand : String → List String → Except Halt Invocation) (words : List String) :
    Except Halt Invocation := do
  let reading ← grammar.read words
  match reading.command with
  | none => .error (.usage .commandMissing)
  | some ("help", words) =>
    askedHelp grammar words
    .error (.answer .help)
  | some (command, words) =>
    return (← ofCommand command words).orLogDirectory reading.given

private def ofFragmentCommand (_ : String) : List String → Except Halt Invocation :=
  readRequest generateGrammar fun given => return .generate (← GenerateRequest.ofGiven given)

private def ofCommand (command : String) (words : List String) : Except Halt Invocation :=
  let signed : Slot := ⟨"signed", .path⟩
  let image : Slot := ⟨"image", .text⟩
  let destination : Slot := ⟨"destination", .text⟩
  let read (grammar : Grammar) (request : Given → Except Halt Request) :=
    readRequest grammar request words
  match command with
  | "policy" => read policyGrammar fun given => return .policy (← PolicyRequest.ofGiven given)
  | "fragment" => readCommand fragmentGrammar ofFragmentCommand words
  | "sign" => read signGrammar fun given => return .sign (← EnvelopeRequest.ofGiven given)
  | "import" => read importGrammar fun given => return .imports (← ImportRequest.ofGiven given)
  | "verify" =>
    read (operandGrammar [signed]) fun given => return .verify (← given.required "signed")
  | "discover" =>
    read (operandGrammar [image]) fun given => return .discover (← given.required "image")
  | "push" => read (operandGrammar [signed, destination]) fun given =>
    return .push (← given.required "signed") (← given.required "destination")
  | _ => read (operandGrammar [signed, image]) fun given =>
    return .attach (← given.required "signed") (← given.required "image")

def Invocation.ofWords (words : List String) : Except Halt Invocation :=
  readCommand mainGrammar ofCommand words

end Enforcement.CommandLine
