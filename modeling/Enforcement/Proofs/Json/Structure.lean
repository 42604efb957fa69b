import Enforcement.Json.Value

/-! The parts of a document, what can be said of all of them, and how deep they are nested. -/

namespace Enforcement.Json

namespace Value

@[elab_as_elim]
theorem byParts {motive : Value → Prop} (null : motive .null)
    (bool : ∀ flag, motive (.bool flag)) (number : ∀ number, motive (.number number))
    (string : ∀ text, motive (.string text))
    (array : ∀ items, (∀ item ∈ items, motive item) → motive (.array items))
    (object : ∀ members, (∀ member ∈ members, motive member.2) → motive (.object members))
    (value : Value) : motive value := by
  apply Value.rec (motive_1 := motive)
    (motive_2 := fun items => ∀ item ∈ items, motive item)
    (motive_3 := fun members => ∀ member ∈ members, motive member.2)
    (motive_4 := fun member => motive member.2)
  all_goals first | assumption | simp_all

mutual

def parts : Value → List Value
  | array items => array items :: partsOfItems items
  | object members => object members :: partsOfMembers members
  | leaf => [leaf]

def partsOfItems : List Value → List Value
  | [] => []
  | item :: rest => parts item ++ partsOfItems rest

def partsOfMembers : List (String × Value) → List Value
  | [] => []
  | (_, value) :: rest => parts value ++ partsOfMembers rest

end

theorem partsOfItems_eq (items : List Value) : partsOfItems items = items.flatMap parts := by
  induction items with
  | nil => rfl
  | cons item rest ih => simp [partsOfItems, ih]

theorem partsOfMembers_eq (members : List (String × Value)) :
    partsOfMembers members = members.flatMap (parts ·.2) := by
  induction members with
  | nil => rfl
  | cons member rest ih => simp [partsOfMembers, ih]

def Every (good : Value → Prop) (value : Value) : Prop := ∀ part ∈ value.parts, good part

instance (good : Value → Prop) [DecidablePred good] (value : Value) :
    Decidable (Every good value) :=
  inferInstanceAs (Decidable (∀ part ∈ value.parts, good part))

theorem every_array {good : Value → Prop} {items : List Value} :
    Every good (array items) ↔ good (array items) ∧ ∀ item ∈ items, Every good item := by
  simp only [Every, parts, partsOfItems_eq, List.mem_cons, List.mem_flatMap]
  constructor
  · intro all
    exact ⟨all _ (Or.inl rfl), fun item member part inside =>
      all part (Or.inr ⟨item, member, inside⟩)⟩
  · rintro ⟨whole, each⟩ part (rfl | ⟨item, member, inside⟩)
    · exact whole
    · exact each item member part inside

theorem every_object {good : Value → Prop} {members : List (String × Value)} :
    Every good (object members) ↔
      good (object members) ∧ ∀ member ∈ members, Every good member.2 := by
  simp only [Every, parts, partsOfMembers_eq, List.mem_cons, List.mem_flatMap]
  constructor
  · intro all
    exact ⟨all _ (Or.inl rfl), fun member held part inside =>
      all part (Or.inr ⟨member, held, inside⟩)⟩
  · rintro ⟨whole, each⟩ part (rfl | ⟨member, held, inside⟩)
    · exact whole
    · exact each member held part inside

theorem Every.self {good : Value → Prop} {value : Value} (every : value.Every good) :
    good value := by
  apply every
  cases value <;> simp [parts]

theorem every_leaf {good : Value → Prop} {value : Value} (single : value.parts = [value]) :
    Every good value ↔ good value := by
  rw [Every, single, List.forall_mem_singleton]

mutual

def nesting : Value → Nat
  | array items => nestingOfItems items + 1
  | object members => nestingOfMembers members + 1
  | _ => 0

def nestingOfItems : List Value → Nat
  | [] => 0
  | item :: rest => max (nesting item) (nestingOfItems rest)

def nestingOfMembers : List (String × Value) → Nat
  | [] => 0
  | (_, value) :: rest => max (nesting value) (nestingOfMembers rest)

end

theorem nestingOfItems_le {bound : Nat} {items : List Value} :
    nestingOfItems items ≤ bound ↔ ∀ item ∈ items, item.nesting ≤ bound := by
  induction items with
  | nil => simp [nestingOfItems]
  | cons item rest ih => rw [nestingOfItems, Nat.max_le, ih, List.forall_mem_cons]

theorem nestingOfMembers_le {bound : Nat} {members : List (String × Value)} :
    nestingOfMembers members ≤ bound ↔ ∀ member ∈ members, member.2.nesting ≤ bound := by
  induction members with
  | nil => simp [nestingOfMembers]
  | cons member rest ih => rw [nestingOfMembers, Nat.max_le, ih, List.forall_mem_cons]

mutual

def mapLeaves (change : Value → Value) : Value → Value
  | array items => array (mapItems change items)
  | object members => object (mapMembers change members)
  | leaf => change leaf

def mapItems (change : Value → Value) : List Value → List Value
  | [] => []
  | item :: rest => mapLeaves change item :: mapItems change rest

def mapMembers (change : Value → Value) : List (String × Value) → List (String × Value)
  | [] => []
  | (key, value) :: rest => (key, mapLeaves change value) :: mapMembers change rest

end

theorem mapItems_eq (change : Value → Value) (items : List Value) :
    mapItems change items = items.map (mapLeaves change) := by
  induction items with
  | nil => rfl
  | cons item rest ih => simp [mapItems, ih]

theorem mapMembers_eq (change : Value → Value) (members : List (String × Value)) :
    mapMembers change members =
      members.map fun member => (member.1, mapLeaves change member.2) := by
  induction members with
  | nil => rfl
  | cons member rest ih => simp [mapMembers, ih]

/-- Said of numbers and of the keys of an object, whatever else the document holds. -/
structure AboutKeys (good : Value → Prop) : Prop where
  string : ∀ text, good (string text)
  array : ∀ items, good (array items)
  object : ∀ members others : List (String × Value), members.map (·.1) = others.map (·.1) →
    good (object members) → good (object others)

theorem Every.mapLeaves {good : Value → Prop} (about : AboutKeys good) {change : Value → Value}
    (fresh : ∀ value, value.Every good → (change value).Every good) {value : Value}
    (every : value.Every good) : (value.mapLeaves change).Every good := by
  induction value using Value.byParts with
  | null | bool | number | string =>
      rw [Value.mapLeaves]
      · exact fresh _ every
      · simp
      · simp
  | array items ih =>
      have parts := every_array.mp every
      rw [Value.mapLeaves, mapItems_eq]
      refine every_array.mpr ⟨about.array _, ?_⟩
      intro item member
      obtain ⟨former, held, rfl⟩ := List.mem_map.mp member
      exact ih former held (parts.2 former held)
  | object members ih =>
      have parts := every_object.mp every
      rw [Value.mapLeaves, mapMembers_eq]
      refine every_object.mpr ⟨about.object members _ (by simp) parts.1, ?_⟩
      intro member held
      obtain ⟨former, before, rfl⟩ := List.mem_map.mp held
      exact ih former before (parts.2 former before)

def KeysInOrder : Value → Prop
  | object members => members.Pairwise (·.1 < ·.1)
  | _ => True

instance : DecidablePred KeysInOrder
  | object members => inferInstanceAs (Decidable (members.Pairwise (·.1 < ·.1)))
  | null | bool _ | number _ | string _ | array _ => isTrue trivial

theorem aboutKeys_keysInOrder : AboutKeys KeysInOrder where
  string _ := trivial
  array _ := trivial
  object members others same ordered := by
    have keys := (List.pairwise_map (f := Prod.fst) (R := (· < ·))).mpr ordered
    rw [same] at keys
    exact List.pairwise_map.mp keys

/-- What every document that was read is like. -/
def Ordered (value : Value) : Prop := value.Every KeysInOrder

instance (value : Value) : Decidable value.Ordered :=
  inferInstanceAs (Decidable (value.Every KeysInOrder))

end Value

end Enforcement.Json
