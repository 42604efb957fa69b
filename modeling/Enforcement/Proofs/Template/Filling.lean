import Enforcement.Template.Substitution
import Enforcement.Proofs.Json.Structure
import Enforcement.Proofs.Template.Reference

/-!
What substitution means for a document as a tree: a string that is one reference gives way to the
value, and within a longer string a reference gives way to the text of the value.
-/

namespace Enforcement.Template

open Enforcement.Json

abbrev Finder := List Char → Option (Reference × List Char)

def isControl (c : Char) : Bool := c.toNat < 32

/--
A reference as the strings of a document are searched for it. A control character stands escaped in
the text of a document, so a reference with one in its white space is none there.
-/
def written? : Finder := fun text =>
  (reference? text).filter fun found =>
    (text.take (text.length - found.2.length)).all (!isControl ·)

/-- What the references of one kind stand for. -/
structure Pass where
  kind : ReferenceKind
  resolve : String → Option Value

namespace Pass

def value? (pass : Pass) (reference : Reference) : Option Value :=
  if reference.kind = pass.kind then pass.resolve (String.ofList reference.name) else none

def valueAt? (pass : Pass) (finder : Finder) (text : List Char) : Option (Value × List Char) := do
  let (reference, rest) ← finder text
  let value ← pass.value? reference
  return (value, rest)

/-- `covered` counts the characters that still belong to the reference found last. -/
def fillFrom (pass : Pass) (finder : Finder) : Nat → List Char → List Char
  | _, [] => []
  | covered + 1, _ :: rest => fillFrom pass finder covered rest
  | 0, c :: rest =>
    match pass.valueAt? finder (c :: rest) with
    | none => c :: fillFrom pass finder 0 rest
    | some (value, after) =>
      plainText value ++ fillFrom pass finder (rest.length - after.length) rest

def filled (pass : Pass) (finder : Finder) (text : String) : Value :=
  match pass.valueAt? finder text.toList with
  | some (value, []) => value
  | _ => .string (String.ofList (pass.fillFrom finder 0 text.toList))

def leaf (pass : Pass) (finder : Finder) : Value → Value
  | .string text => pass.filled finder text
  | other => other

def walk (pass : Pass) (finder : Finder) (document : Value) : Value :=
  document.mapLeaves (pass.leaf finder)

/-- Only clear names have a value. -/
def ResolvesClear (pass : Pass) : Prop :=
  ∀ name, (pass.resolve name).isSome = true → Clear name.toList

variable {pass : Pass} {finder : Finder}

theorem fillFrom_covered (word text : List Char) :
    pass.fillFrom finder word.length (word ++ text) = pass.fillFrom finder 0 text := by
  induction word with
  | nil => rfl
  | cons c word ih => rw [List.length_cons, List.cons_append, fillFrom, ih]

theorem fillFrom_none {c : Char} {text : List Char}
    (none : pass.valueAt? finder (c :: text) = none) :
    pass.fillFrom finder 0 (c :: text) = c :: pass.fillFrom finder 0 text := by
  rw [fillFrom, none]

theorem fillFrom_some {c : Char} {word text : List Char} {value : Value}
    (found : pass.valueAt? finder (c :: (word ++ text)) = some (value, text)) :
    pass.fillFrom finder 0 (c :: (word ++ text)) =
      plainText value ++ pass.fillFrom finder 0 text := by
  rw [fillFrom, found]
  simp only [List.length_append, Nat.add_sub_cancel, fillFrom_covered]

theorem walk_array (items : List Value) :
    pass.walk finder (.array items) = .array (items.map (pass.walk finder)) := by
  rw [walk, Value.mapLeaves, Value.mapItems_eq]
  rfl

theorem walk_object (members : List (String × Value)) :
    pass.walk finder (.object members) =
      .object (members.map fun member => (member.1, pass.walk finder member.2)) := by
  rw [walk, Value.mapLeaves, Value.mapMembers_eq]
  rfl

end Pass

theorem written?_iff {text rest : List Char} {reference : Reference} :
    written? text = some (reference, rest) ↔
      ∃ spelling : Spelling, spelling.Valid ∧ spelling.reference = reference ∧
        text = spelling.text ++ rest ∧ ∀ c ∈ spelling.text, isControl c = false := by
  rw [written?, Option.filter_eq_some_iff, reference?_iff]
  constructor
  · intro given
    obtain ⟨⟨spelling, valid, same, rfl⟩, visible⟩ := given
    refine ⟨spelling, valid, same, rfl, ?_⟩
    simpa using visible
  · intro given
    obtain ⟨spelling, valid, same, rfl, visible⟩ := given
    refine ⟨⟨spelling, valid, same, rfl⟩, ?_⟩
    simpa using visible

theorem Pass.valueAt?_iff {pass : Pass} {finder : Finder} {text rest : List Char} {value : Value} :
    pass.valueAt? finder text = some (value, rest) ↔
      ∃ reference, finder text = some (reference, rest) ∧ pass.value? reference = some value := by
  simp only [valueAt?, Option.bind_eq_bind, Option.bind_eq_some_iff, Prod.exists, Option.pure_def,
    Option.some.injEq, Prod.mk.injEq]
  constructor
  · intro given
    obtain ⟨reference, rest, found, value, held, rfl, rfl⟩ := given
    exact ⟨reference, found, held⟩
  · intro given
    obtain ⟨reference, found, held⟩ := given
    exact ⟨reference, rest, found, value, held, rfl, rfl⟩

theorem Pass.ResolvesClear.name {pass : Pass} (clear : pass.ResolvesClear) {reference : Reference}
    {value : Value} (held : pass.value? reference = some value) : Clear reference.name := by
  unfold Pass.value? at held
  split at held
  · have name := clear (String.ofList reference.name) (by rw [held]; rfl)
    rwa [String.toList_ofList] at name
  · cases held

/-! Texts and keys without a bracket. -/

namespace Pass

variable {pass : Pass}

theorem valueAt?_none {c : Char} {text : List Char} (other : c ≠ '[') :
    pass.valueAt? reference? (c :: text) = none ∧ pass.valueAt? written? (c :: text) = none := by
  have none : reference? (c :: text) = .none := reference?_none other text
  constructor
  · simp [valueAt?, none]
  · simp [valueAt?, written?, none]

theorem fillFrom_quiet {text : List Char} (quiet : '[' ∉ text) :
    pass.fillFrom written? 0 text = text := by
  induction text with
  | nil => rfl
  | cons c text ih =>
      simp only [List.mem_cons, not_or] at quiet
      rw [fillFrom_none (valueAt?_none (Ne.symm quiet.1)).2, ih quiet.2]

theorem filled_quiet {text : String} (quiet : '[' ∉ text.toList) :
    pass.filled written? text = .string text := by
  have none : pass.valueAt? written? text.toList = .none := by
    cases start : text.toList with
    | nil => rfl
    | cons c rest =>
        rw [start] at quiet
        exact (valueAt?_none fun same => quiet (by simp [same])).2
  rw [filled, none]
  simp [fillFrom_quiet quiet]

end Pass

def QuietKeys : Value → Prop
  | .object members => ∀ member ∈ members, '[' ∉ member.1.toList
  | _ => True

instance : DecidablePred QuietKeys
  | .object members => inferInstanceAs (Decidable (∀ member ∈ members, '[' ∉ member.1.toList))
  | .null | .bool _ | .number _ | .string _ | .array _ => isTrue trivial

end Enforcement.Template
