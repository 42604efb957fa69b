/-!
The values of a settings text, and how its tables grow: by headers, by headers of listed tables and
by dotted names. What stands once is never replaced.
-/

namespace Enforcement.Toml

/-- How a table came about, which decides what may still be added to it. -/
inductive Standing where
  /-- Written within braces: complete. -/
  | closed
  /-- Only named by a longer header. -/
  | implied
  /-- Opened by a dotted name. -/
  | dotted
  /-- Opened by its own header. -/
  | declared
  deriving DecidableEq, Repr, Inhabited

inductive Value where
  | text (value : String)
  | whole (value : Int)
  /-- A number with a fraction or an exponent, or one that is not finite. -/
  | fraction
  | flag (value : Bool)
  /-- A date, a time or both. -/
  | moment
  | list (items : List Value)
  | table (standing : Standing) (members : List (String × Value))
  /-- Tables under one name, each opened by a header of its own. -/
  | tables (items : List (List (String × Value)))
  deriving Inhabited

abbrev Members := List (String × Value)

namespace Members

def valueAt? (name : String) (members : Members) : Option Value :=
  (members.find? (·.1 == name)).map (·.2)

def put (name : String) (value : Value) (members : Members) : Members :=
  if members.any (·.1 == name) then
    members.map fun member => if member.1 == name then (name, value) else member
  else members ++ [(name, value)]

/-- Changes the members that a header leads to; of listed tables the last one counts. -/
def changeBelow (change : Members → Option Members) : List String → Members → Option Members
  | [], members => change members
  | name :: path, members => do
    let value ← match valueAt? name members with
      | none => some (.table .implied (← changeBelow change path []))
      | some (.table .closed _) => none
      | some (.table standing inner) => some (.table standing (← changeBelow change path inner))
      | some (.tables items) =>
        match items.getLast? with
        | none => none
        | some inner => some (.tables (items.dropLast ++ [← changeBelow change path inner]))
      | some _ => none
    return put name value members

/--
Gives a new name its value. A dotted name goes through tables that only dotted names or longer
headers opened, and the last of these must be one that a dotted name opened.
-/
def assign (value : Value) : List String → Members → Option Members
  | [], _ => none
  | [name], members =>
    if (valueAt? name members).isSome then none else some (members ++ [(name, value)])
  | name :: path, members => do
    let last := path.length == 1
    let held ← match valueAt? name members with
      | none => some (.table .dotted (← assign value path []))
      | some (.table .dotted inner) => some (.table .dotted (← assign value path inner))
      | some (.table .implied inner) =>
        if last then none else some (.table .implied (← assign value path inner))
      | some (.tables items) =>
        match items.getLast? with
        | none => none
        | some inner =>
          if last then none else some (.tables (items.dropLast ++ [← assign value path inner]))
      | some _ => none
    return put name held members

def assignAll (assignments : List (List String × Value)) (members : Members) : Option Members :=
  assignments.foldlM (fun members (path, value) => assign value path members) members

end Members

/-- Assignments under one header; those before all headers are under none. -/
inductive Section where
  | table (path : List String) (assignments : List (List String × Value))
  | listed (path : List String) (assignments : List (List String × Value))
  deriving Inhabited

private def openTable (name : String) (assignments : List (List String × Value))
    (members : Members) : Option Members := do
  let start ← match Members.valueAt? name members with
    | none => some []
    | some (.table .implied inner) => some inner
    | some _ => none
  return Members.put name (.table .declared (← Members.assignAll assignments start)) members

private def addTable (name : String) (assignments : List (List String × Value))
    (members : Members) : Option Members := do
  let earlier ← match Members.valueAt? name members with
    | none => some []
    | some (.tables items) => some items
    | some _ => none
  return Members.put name (.tables (earlier ++ [← Members.assignAll assignments []])) members

def Section.addTo (members : Members) : Section → Option Members
  | table path assignments =>
    match path.getLast? with
    | none => Members.assignAll assignments members
    | some name => Members.changeBelow (openTable name assignments) path.dropLast members
  | listed path assignments =>
    match path.getLast? with
    | none => none
    | some name => Members.changeBelow (addTable name assignments) path.dropLast members

def membersOf (sections : List Section) : Option Members :=
  sections.foldlM Section.addTo []

end Enforcement.Toml
