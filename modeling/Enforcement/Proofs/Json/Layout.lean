import Mathlib.Tactic.SplitIfs
import Enforcement.Json.Printer
import Enforcement.Json.Token
import Enforcement.Proofs.Json.Structure

/-! One layout of documents that both printed forms are cases of, and strings in it read back. -/

namespace Enforcement.Json

mutual

/-- A gap stands before each item, each key and the end of a list, and a pause after each colon. -/
def spread (gap : Nat → List Char) (pause : List Char) (level : Nat) : Value → List Char
  | .array items => '[' :: spreadItems gap pause level true items
  | .object members => '{' :: spreadMembers gap pause level true members
  | leaf => compact leaf

def spreadItems (gap : Nat → List Char) (pause : List Char) (level : Nat) (first : Bool) :
    List Value → List Char
  | [] => (if first then [] else gap level) ++ [']']
  | item :: rest =>
    (if first then [] else [',']) ++ (gap (level + 1) ++
      (spread gap pause (level + 1) item ++ spreadItems gap pause level false rest))

def spreadMembers (gap : Nat → List Char) (pause : List Char) (level : Nat) (first : Bool) :
    List (String × Value) → List Char
  | [] => (if first then [] else gap level) ++ ['}']
  | (key, value) :: rest =>
    (if first then [] else [',']) ++ (gap (level + 1) ++ (printString key ++ ':' :: (pause ++
      (spread gap pause (level + 1) value ++ spreadMembers gap pause level false rest))))

end

def noGap (_ : Nat) : List Char := []

theorem compactItems_eq (level : Nat) {items : List Value}
    (each : ∀ item ∈ items, ∀ level, compact item = spread noGap [] level item) :
    compactItems items = spreadItems noGap [] level true items := by
  induction items with
  | nil => rfl
  | cons item rest ih =>
      have head := each item List.mem_cons_self (level + 1)
      have tail := ih fun other member => each other (List.mem_cons_of_mem item member)
      cases rest with
      | nil => simp [compactItems, spreadItems, head, noGap]
      | cons next rest =>
          rw [compactItems, head, tail]
          · simp [spreadItems, noGap]
          · simp

theorem compactMembers_eq (level : Nat) {members : List (String × Value)}
    (each : ∀ member ∈ members, ∀ level, compact member.2 = spread noGap [] level member.2) :
    compactMembers members = spreadMembers noGap [] level true members := by
  induction members with
  | nil => rfl
  | cons member rest ih =>
      obtain ⟨key, value⟩ := member
      have head := each (key, value) List.mem_cons_self (level + 1)
      have tail := ih fun other held => each other (List.mem_cons_of_mem _ held)
      cases rest with
      | nil => simp_all [compactMembers, spreadMembers, noGap]
      | cons next rest =>
          rw [compactMembers, head, tail]
          · simp [spreadMembers, noGap]
          · simp

theorem compact_eq_spread (value : Value) :
    ∀ level, compact value = spread noGap [] level value := by
  induction value using Value.byParts with
  | null | bool | number | string => intro level; rfl
  | array items each => intro level; rw [compact, spread, compactItems_eq level each]
  | object members each => intro level; rw [compact, spread, compactMembers_eq level each]

theorem prettyItems_eq (level : Nat) {items : List Value} (some : items ≠ [])
    (each : ∀ item ∈ items, ∀ level, prettyAt level item = spread newline [' '] level item) :
    newline (level + 1) ++ prettyItems level items =
      spreadItems newline [' '] level true items := by
  induction items with
  | nil => contradiction
  | cons item rest ih =>
      have head := each item List.mem_cons_self (level + 1)
      cases rest with
      | nil => simp [prettyItems, spreadItems, head]
      | cons next rest =>
          have tail := ih (by simp) fun other member =>
            each other (List.mem_cons_of_mem item member)
          have later : ',' :: spreadItems newline [' '] level true (next :: rest) =
              spreadItems newline [' '] level false (next :: rest) := by
            simp [spreadItems]
          rw [prettyItems, head, spreadItems, ← later, ← tail]
          · simp
          · simp

theorem prettyMembers_eq (level : Nat) {members : List (String × Value)} (some : members ≠ [])
    (each : ∀ member ∈ members, ∀ level,
      prettyAt level member.2 = spread newline [' '] level member.2) :
    newline (level + 1) ++ prettyMembers level members =
      spreadMembers newline [' '] level true members := by
  induction members with
  | nil => contradiction
  | cons member rest ih =>
      obtain ⟨key, value⟩ := member
      have head := each (key, value) List.mem_cons_self (level + 1)
      simp only at head
      cases rest with
      | nil => simp [prettyMembers, spreadMembers, head]
      | cons next rest =>
          have tail := ih (by simp) fun other held => each other (List.mem_cons_of_mem _ held)
          have later : ',' :: spreadMembers newline [' '] level true (next :: rest) =
              spreadMembers newline [' '] level false (next :: rest) := by
            simp [spreadMembers]
          rw [prettyMembers, head, spreadMembers, ← later, ← tail]
          · simp
          · simp

theorem prettyAt_eq_spread (value : Value) :
    ∀ level, prettyAt level value = spread newline [' '] level value := by
  induction value using Value.byParts with
  | null | number | string => intro level; rfl
  | bool flag => intro level; cases flag <;> rfl
  | array items each =>
      intro level
      cases items with
      | nil => rfl
      | cons item rest => rw [prettyAt, spread, prettyItems_eq level (by simp) each]; simp
  | object members each =>
      intro level
      cases members with
      | nil => rfl
      | cons member rest => rw [prettyAt, spread, prettyMembers_eq level (by simp) each]; simp

end Enforcement.Json
