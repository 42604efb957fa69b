import Enforcement.Json.Number

/-! Documents as trees. The members of an object that was read stand in the order of their keys. -/

namespace Enforcement.Json

inductive Value where
  | null
  | bool (flag : Bool)
  | number (number : Number)
  | string (text : String)
  | array (items : List Value)
  | object (members : List (String × Value))
  deriving Repr, BEq, Inhabited

namespace Value

def isObject : Value → Bool
  | object _ => true
  | _ => false

def isNull : Value → Bool
  | null => true
  | _ => false

def string? : Value → Option String
  | string text => some text
  | _ => none

def array? : Value → Option (List Value)
  | array items => some items
  | _ => none

def members? : Value → Option (List (String × Value))
  | object members => some members
  | _ => none

end Value

def insertMember (key : String) (value : Value) :
    List (String × Value) → List (String × Value)
  | [] => [(key, value)]
  | (other, held) :: rest =>
    if key < other then (key, value) :: (other, held) :: rest
    else if key = other then (key, value) :: rest
    else (other, held) :: insertMember key value rest

def memberAt? (key : String) (members : List (String × Value)) : Option Value :=
  (members.find? (·.1 == key)).map (·.2)

theorem memberAt?_nil (key : String) : memberAt? key [] = none := rfl

theorem memberAt?_cons (key : String) (member : String × Value)
    (members : List (String × Value)) :
    memberAt? key (member :: members) =
      if member.1 = key then some member.2 else memberAt? key members := by
  unfold memberAt?
  by_cases same : member.1 = key
  · rw [List.find?_cons_of_pos (by simp [same]), if_pos same]
    rfl
  · rw [List.find?_cons_of_neg (by simp [same]), if_neg same]

end Enforcement.Json
