/-!
Words of a command line. A switch has a name and perhaps a letter, an operand has a place. The value
of a switch is joined to it or is the next word; a word that begins with a dash is a value only when
it is joined, and a lone dash is an ordinary word.
-/

namespace Enforcement.CommandLine

inductive ValueKind where
  | path
  | text
  | oneOf (words : List String)
  deriving DecidableEq, Repr, Inhabited

def ValueKind.accepts : ValueKind → String → Bool
  | path, value => !value.isEmpty
  | text, _ => true
  | oneOf words, value => words.contains value

structure Slot where
  name : String
  kind : ValueKind
  deriving DecidableEq, Repr, Inhabited

/-- A question about the program itself, which ends the reading of the words. -/
inductive Inquiry where
  | help
  | version
  deriving DecidableEq, Repr, Inhabited

inductive SwitchRole where
  | flag
  | valued (kind : ValueKind)
  | asks (inquiry : Inquiry)
  deriving DecidableEq, Repr, Inhabited

structure Switch where
  name : String
  letter : Option Char
  role : SwitchRole
  deriving DecidableEq, Repr, Inhabited

/-- What the words may be. Where there are commands, the first ordinary word names one. -/
structure Grammar where
  switches : List Switch
  operands : List Slot
  commands : List String
  deriving Repr, Inhabited

inductive UsageFault where
  | wordUnknown (word : String)
  | valueMissing (name : String)
  | valueUnexpected (name value : String)
  | valueRefused (name value : String)
  | repeated (name : String)
  | conflicting (name other : String)
  | argumentMissing (name : String)
  | commandMissing
  deriving DecidableEq, Repr, Inhabited

def UsageFault.message : UsageFault → String
  | wordUnknown word => s!"unexpected argument '{word}'"
  | valueMissing name => s!"a value is required for '{name}'"
  | valueUnexpected name value => s!"unexpected value '{value}' for '{name}'"
  | valueRefused name value => s!"invalid value '{value}' for '{name}'"
  | repeated name => s!"'{name}' cannot be used more than once"
  | conflicting name other => s!"'{name}' cannot be used with '{other}'"
  | argumentMissing name => s!"'{name}' is required"
  | commandMissing => "a command is required"

inductive Halt where
  | usage (fault : UsageFault)
  | answer (inquiry : Inquiry)
  deriving DecidableEq, Repr, Inhabited

abbrev Given := List (String × String)

namespace Given

def value? (given : Given) (name : String) : Option String :=
  (given.find? (·.1 == name)).map (·.2)

def has (given : Given) (name : String) : Bool := (given.value? name).isSome

def add (given : Given) (name value : String) : Except Halt Given :=
  if given.has name then .error (.usage (.repeated name)) else .ok (given ++ [(name, value)])

def fill (given : Given) (slot : Slot) (value : String) : Except Halt Given :=
  if slot.kind.accepts value then given.add slot.name value
  else .error (.usage (.valueRefused slot.name value))

def required (given : Given) (name : String) : Except Halt String :=
  match given.value? name with
  | some value => .ok value
  | none => .error (.usage (.argumentMissing name))

def apart (given : Given) (name other : String) : Except Halt Unit :=
  if given.has name && given.has other then .error (.usage (.conflicting name other)) else .ok ()

def withOther (given : Given) (name other : String) : Except Halt Unit :=
  if given.has name && !given.has other then .error (.usage (.argumentMissing other)) else .ok ()

end Given

/-- A switch taken up; one whose value is not joined to it waits for the next word. -/
def Switch.take (switch : Switch) (joined : Option String) (given : Given) :
    Except Halt (Given × Option Slot) :=
  match switch.role, joined with
  | .valued kind, none => .ok (given, some ⟨switch.name, kind⟩)
  | .valued kind, some value => return (← given.fill ⟨switch.name, kind⟩ value, none)
  | _, some value => .error (.usage (.valueUnexpected switch.name value))
  | .flag, none => return (← given.add switch.name "", none)
  | .asks inquiry, none => .error (.answer inquiry)

inductive Word where
  | ordinary
  /-- Only operands follow. -/
  | ending
  | name (name : String) (joined : Option String)
  | letters (group : List Char)
  deriving DecidableEq, Repr, Inhabited

def Word.ofText (text : String) : Word :=
  match text.toList with
  | ['-', '-'] => .ending
  | '-' :: '-' :: rest =>
    .name (String.ofList (rest.takeWhile (· != '=')))
      (((rest.dropWhile (· != '=')).tail?).map String.ofList)
  | '-' :: letter :: group => .letters (letter :: group)
  | _ => .ordinary

namespace Grammar

/-- Letters of switches share a word up to the first with a value, which is the rest of the word. -/
def takeLetters (grammar : Grammar) : List Char → Given → Except Halt (Given × Option Slot)
  | [], given => .ok (given, none)
  | letter :: rest, given =>
    match grammar.switches.find? (·.letter == some letter) with
    | none => .error (.usage (.wordUnknown (String.ofList ['-', letter])))
    | some switch =>
      match switch.role, rest with
      | .valued _, [] => switch.take none given
      | .valued _, '=' :: value => switch.take (some (String.ofList value)) given
      | .valued _, value => switch.take (some (String.ofList value)) given
      | _, _ => do
        let (given, _) ← switch.take none given
        grammar.takeLetters rest given

def fillOperands : List Slot → List String → Given → Except Halt Given
  | _, [], given => .ok given
  | [], word :: _, _ => .error (.usage (.wordUnknown word))
  | slot :: slots, word :: words, given => do
    fillOperands slots words (← given.fill slot word)

structure Reading where
  given : Given
  command : Option (String × List String)
  deriving Repr, Inhabited

def readFrom (grammar : Grammar) (waiting : Option Slot) (operands : List Slot) (given : Given) :
    List String → Except Halt Reading
  | [] =>
    match waiting with
    | some slot => .error (.usage (.valueMissing slot.name))
    | none => .ok ⟨given, none⟩
  | word :: words =>
    match waiting, Word.ofText word with
    | some slot, .ordinary => do grammar.readFrom none operands (← given.fill slot word) words
    | some slot, _ => .error (.usage (.valueMissing slot.name))
    | none, .ordinary =>
      if grammar.commands.contains word then .ok ⟨given, some (word, words)⟩
      else
        match operands with
        | slot :: operands => do grammar.readFrom none operands (← given.fill slot word) words
        | [] => .error (.usage (.wordUnknown word))
    | none, .ending => return ⟨← fillOperands operands words given, none⟩
    | none, .name name joined =>
      match grammar.switches.find? (·.name == name) with
      | none => .error (.usage (.wordUnknown word))
      | some switch => do
        let (given, waiting) ← switch.take joined given
        grammar.readFrom waiting operands given words
    | none, .letters group => do
      let (given, waiting) ← grammar.takeLetters group given
      grammar.readFrom waiting operands given words

def read (grammar : Grammar) (words : List String) : Except Halt Reading :=
  grammar.readFrom none grammar.operands [] words

end Grammar

end Enforcement.CommandLine
