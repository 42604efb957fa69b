import Enforcement.Policy.Container
import Enforcement.Proofs.Template.Editing
import Enforcement.Proofs.Template.Evaluation
import Enforcement.Proofs.Template.Tracking

/-!
What becomes of the parts of a template. Evaluation may put anything in the place of a string, but a
list stays a list with one item for each item, and an object whose keys hold no reference stays an
object with the same keys. So whatever is found by name and by place in a template is found there in
the evaluated document too.
-/

namespace Enforcement.Template

open Enforcement.Json Enforcement.Text

section Lists

variable {α β γ : Type}

theorem forall₂_comp {first : α → β → Prop} {second : β → γ → Prop} {items : List α}
    {middle : List β} {others : List γ} (one : List.Forall₂ first items middle)
    (two : List.Forall₂ second middle others) :
    List.Forall₂ (fun item other => ∃ between, first item between ∧ second between other) items
      others := by
  induction one generalizing others with
  | nil =>
      cases two
      exact .nil
  | cons head _ ih =>
      cases two with
      | cons head' rest' => exact .cons ⟨_, head, head'⟩ (ih rest')

theorem forall₂_getElem? {related : α → β → Prop} {items : List α} {others : List β}
    (each : List.Forall₂ related items others) {place : Nat} {item : α}
    (held : items[place]? = some item) :
    ∃ other, others[place]? = some other ∧ related item other := by
  induction each generalizing place with
  | nil => cases held
  | @cons _ other _ _ head _ ih =>
      cases place with
      | zero =>
          cases held
          exact ⟨other, rfl, head⟩
      | succ place => exact ih held

end Lists

namespace Pass

variable {pass : Pass}

theorem turns_null {draft found : Draft} (turns : pass.Turns draft found) :
    found = .null ↔ draft = .null := by
  cases turns with
  | null => exact Iff.rfl
  | string turned => exact iff_of_false turned.solid nofun
  | bool | number | array | object => exact iff_of_false nofun nofun

theorem turns_keys {keys : List String} {found : List Draft}
    (free : ∀ key ∈ keys, containsReference key.toList = false)
    (turns : List.Forall₂ pass.Turns (keys.map .string) found) : found = keys.map .string := by
  induction keys generalizing found with
  | nil =>
      cases turns
      rfl
  | cons key keys ih =>
      simp only [List.mem_cons, forall_eq_or_imp] at free
      cases turns with
      | cons head rest =>
          cases head with
          | string turned => rw [turned.free free.1, ih free.2 rest, List.map_cons]

end Pass

def FreeKeys (value : Value) : Prop :=
  ∀ member ∈ value.members?.getD [], containsReference member.1.toList = false

instance : DecidablePred FreeKeys := fun value =>
  inferInstanceAs (Decidable (∀ member ∈ value.members?.getD [], _))

theorem keys_ofMember (members : List (String × Value)) :
    (members.map Draft.ofMember).map (·.1) = (members.map (·.1)).map Draft.string := by
  rw [List.map_map, List.map_map]
  rfl

theorem ofValue_null {value : Value} : Draft.ofValue value = .null ↔ value = .null := by
  cases value with
  | null => exact iff_of_true rfl rfl
  | bool | number | string | array | object => exact iff_of_false nofun nofun

theorem ofValue_string {value : Value} {text : String}
    (same : Draft.ofValue value = .string text) : value = .string text := by
  cases value with
  | string other =>
      cases same
      rfl
  | null | bool | number | array | object => cases same

theorem isNull_iff {value : Value} : value.isNull = true ↔ value = .null := by
  cases value with
  | null => exact iff_of_true rfl rfl
  | bool | number | string | array | object => exact iff_of_false nofun nofun

theorem isNull_reread (value : Value) : value.reread.isNull = value.isNull := by
  cases value <;> rfl

section

variable {first second : Pass}

/-- What two passes and the reading of what they leave may make of a value with keys in order. -/
structure Becomes (first second : Pass) (value found : Value) : Prop where
  ordered : value.Ordered
  passed : ∃ middle document, first.Turns (.ofValue value) middle ∧
    second.Turns middle (.ofValue document) ∧ document.reread = found

theorem Becomes.isNull {value found : Value} (becomes : Becomes first second value found) :
    found.isNull = value.isNull := by
  obtain ⟨-, middle, document, one, two, rfl⟩ := becomes
  rw [isNull_reread, Bool.eq_iff_iff, isNull_iff, isNull_iff, ← ofValue_null, Pass.turns_null two,
    Pass.turns_null one, ofValue_null]

theorem Becomes.array {items : List Value} {found : Value}
    (becomes : Becomes first second (.array items) found) :
    ∃ others, found = .array others ∧ List.Forall₂ (Becomes first second) items others := by
  obtain ⟨ordered, middle, document, one, two, rfl⟩ := becomes
  rw [Draft.ofValue_array] at one
  cases one with
  | array each =>
      generalize same : Draft.ofValue document = last at two
      cases two with
      | array later =>
          cases document with
          | array parts =>
              rw [Draft.ofValue_array] at same
              obtain rfl := Draft.array.inj same
              refine ⟨parts.map Value.reread, by rw [Value.reread, Value.rereadItems_eq], ?_⟩
              have both := (List.forall₂_and_left _ _).mpr ⟨(Value.every_array.mp ordered).2,
                forall₂_comp (List.forall₂_map_left_iff.mp each)
                  (List.forall₂_map_right_iff.mp later)⟩
              refine List.forall₂_map_right_iff.mpr (both.imp ?_)
              rintro item part ⟨inside, between, one, two⟩
              exact ⟨inside, between, part, one, two, rfl⟩
          | null | bool | number | string | object => cases same

def MemberBecomes (first second : Pass) (member other : String × Value) : Prop :=
  member.1 = other.1 ∧ Becomes first second member.2 other.2

theorem Becomes.object {members : List (String × Value)} {found : Value}
    (free : FreeKeys (.object members)) (becomes : Becomes first second (.object members) found) :
    ∃ others, found = .object others ∧
      List.Forall₂ (MemberBecomes first second) members others := by
  obtain ⟨ordered, middle, document, one, two, rfl⟩ := becomes
  obtain ⟨inOrder, inside⟩ := Value.every_object.mp ordered
  have keysFree : ∀ key ∈ members.map (·.1), containsReference key.toList = false := by
    intro key listed
    obtain ⟨member, held, rfl⟩ := List.mem_map.mp listed
    exact free member held
  rw [Draft.ofValue_object] at one
  cases one with
  | object keys values =>
      generalize same : Draft.ofValue document = last at two
      cases two with
      | object keys' values' =>
          cases document with
          | object parts =>
              rw [Draft.ofValue_object] at same
              obtain rfl := Draft.object.inj same
              rw [keys_ofMember] at keys keys'
              rw [Pass.turns_keys keysFree keys] at keys'
              have sameKeys : members.map (·.1) = parts.map (·.1) :=
                List.map_injective_iff.mpr (fun _ _ => Draft.string.inj)
                  (Pass.turns_keys keysFree keys').symm
              have later : parts.Pairwise (·.1 < ·.1) :=
                Value.aboutKeys_keysInOrder.object members parts sameKeys inOrder
              refine ⟨parts.map fun held => (held.1, held.2.reread), ?_, ?_⟩
              · rw [Value.reread, @Value.rereadMembers_ordered [] parts later, List.nil_append]
              · have both := forall₂_comp values values'
                rw [List.map_map, List.map_map, List.forall₂_map_left_iff,
                  List.forall₂_map_right_iff] at both
                have paired := (List.forall₂_and_left _ _).mpr ⟨inside,
                  List.forall₂_map_right_iff.mp
                    (List.forall₂_map_left_iff.mp (List.forall₂_eq_eq_eq ▸ sameKeys))⟩
                refine List.forall₂_map_right_iff.mpr (List.Forall₂.mp ?_ paired both)
                rintro member part ⟨below, key⟩ ⟨between, one, two⟩
                exact ⟨key, below, between, part.2, one, two, rfl⟩
          | null | bool | number | string | array => cases same

theorem entryFor?_becomes {members others : List (String × Value)}
    (each : List.Forall₂ (MemberBecomes first second) members others) (name : String) :
    Option.Rel (MemberBecomes first second) (entryFor? name members) (entryFor? name others) := by
  have search (test : String → Bool) : Option.Rel (MemberBecomes first second)
      (members.find? (test ·.1)) (others.find? (test ·.1)) :=
    find?_of_forall₂ each _ _ fun member other same => congrArg test same.1
  have direct := search (· == name)
  have close := search (sameLetters · name)
  unfold entryFor?
  generalize members.find? (·.1 == name) = member at direct
  generalize others.find? (·.1 == name) = other at direct
  cases direct with
  | none => exact close
  | some same => exact .some same

theorem property?_becomes {members : List (String × Value)} {found : Value}
    (free : FreeKeys (.object members)) (becomes : Becomes first second (.object members) found)
    (name : String) :
    Option.Rel (Becomes first second) (property? (.object members) name)
      (property? found name) := by
  obtain ⟨others, rfl, each⟩ := becomes.object free
  have entry := entryFor?_becomes each name
  rw [property?_object, property?_object]
  generalize entryFor? name members = member at entry
  generalize entryFor? name others = other at entry
  cases entry with
  | none => exact .none
  | some same =>
      rw [Option.map_some, Option.map_some, Option.filter_some, Option.filter_some, same.2.isNull]
      split
      · exact .some same.2
      · exact .none

theorem property_of_becomes {owner found value : Value} {name : String} (free : FreeKeys owner)
    (becomes : Becomes first second owner found) (held : property? owner name = some value) :
    ∃ other, property? found name = some other ∧ Becomes first second value other := by
  cases owner with
  | object members =>
      have property := property?_becomes free becomes name
      rw [held] at property
      generalize property? found name = other at property
      cases property with
      | some same => exact ⟨_, rfl, same⟩
  | null | bool | number | string | array => cases held

theorem either_of_becomes {owner found value : Value} {name other : String} (free : FreeKeys owner)
    (becomes : Becomes first second owner found)
    (held : (property? owner name).or (property? owner other) = some value) :
    ∃ value', (property? found name).or (property? found other) = some value' ∧
      Becomes first second value value' := by
  rcases Option.or_eq_some_iff.mp held with here | ⟨missing, there⟩
  · obtain ⟨value', here', same⟩ := property_of_becomes free becomes here
    exact ⟨value', by rw [here', Option.some_or], same⟩
  · obtain ⟨value', there', same⟩ := property_of_becomes free becomes there
    cases owner with
    | object members =>
        have absent := property?_becomes free becomes name
        rw [missing] at absent
        generalize property? found name = none' at absent
        cases absent
        exact ⟨value', by rw [Option.none_or, there'], same⟩
    | null | bool | number | string | array => cases there

def itemAt? (owner : Value) (name : String) (place : Nat) : Option Value :=
  (listProperty? owner name).bind (·[place]?)

theorem itemAt?_iff {owner item : Value} {name : String} {place : Nat} :
    itemAt? owner name place = some item ↔
      ∃ items, property? owner name = some (.array items) ∧ items[place]? = some item := by
  unfold itemAt? listProperty?
  constructor
  · intro held
    obtain ⟨items, listed, place⟩ := Option.bind_eq_some_iff.mp held
    obtain ⟨value, found, list⟩ := Option.bind_eq_some_iff.mp listed
    cases value with
    | array others =>
        cases list
        exact ⟨items, found, place⟩
    | null | bool | number | string | object => cases list
  · rintro ⟨items, found, place⟩
    rw [found]
    exact place

theorem item_of_becomes {owner found item : Value} {name : String} {place : Nat}
    (free : FreeKeys owner) (becomes : Becomes first second owner found)
    (held : itemAt? owner name place = some item) :
    ∃ other, itemAt? found name place = some other ∧ Becomes first second item other := by
  obtain ⟨items, listed, inside⟩ := itemAt?_iff.mp held
  obtain ⟨value, there, list⟩ := property_of_becomes free becomes listed
  obtain ⟨others, rfl, each⟩ := list.array
  obtain ⟨other, beside, same⟩ := forall₂_getElem? each inside
  exact ⟨other, itemAt?_iff.mpr ⟨others, there, beside⟩, same⟩

theorem Becomes.fixed {text shown : String} {value found : Value}
    (becomes : Becomes first second (.string text) found) (fixes : first.Fixes text value)
    (scalar : Container.scalarText? value = some shown)
    (known : containsReference shown.toList = false) (number : NumberReadsBack value) :
    found = value := by
  obtain ⟨-, middle, document, one, two, rfl⟩ := becomes
  cases one with
  | string turned =>
      obtain rfl := turned.fixed value fixes
      generalize same : Draft.ofValue document = last at two
      cases value with
      | string held =>
          cases scalar
          cases two with
          | string later =>
              rw [later.free known] at same
              rw [ofValue_string same]
              rfl
      | bool flag =>
          cases two
          cases document with
          | bool other =>
              cases same
              rfl
          | null | number | string | array | object => cases same
      | number held =>
          cases two
          cases document with
          | number other =>
              cases same
              exact congrArg Value.number (Number.ReadsBack.reread_eq number)
          | null | bool | string | array | object => cases same
      | null | array | object => cases scalar

theorem Becomes.free {text : String} {found : Value}
    (becomes : Becomes first second (.string text) found)
    (none : containsReference text.toList = false) : found = .string text := by
  obtain ⟨-, middle, document, one, two, rfl⟩ := becomes
  cases one with
  | string turned =>
      obtain rfl := turned.free none
      generalize same : Draft.ofValue document = last at two
      cases two with
      | string later =>
          rw [later.free none] at same
          rw [ofValue_string same]
          rfl

end

/-! The passes of a template. -/

theorem solid_of_member? {name : String} {members : List (String × Value)} {value : Value}
    (found : member? name members = some value) : value.isNull = false := by
  simpa using (Option.filter_eq_some_iff.mp found).2

theorem solid_of_property? {document : Value} {name : String} {value : Value}
    (found : property? document name = some value) : value.isNull = false := by
  obtain ⟨members, -, held⟩ := Option.bind_eq_some_iff.mp found
  exact solid_of_member? held

/-- No name that may have a value holds a quote. -/
structure Unquoted (template : Template) : Prop where
  parameterNames : ∀ name ∈ template.parameterNames, '"' ∉ name.toList
  variableNames : ∀ name ∈ template.variableNames, '"' ∉ name.toList

theorem anyCase_unquoted : AnyCase fun name => '"' ∉ name.toList :=
  fun _ _ same => notMem_of_sameLetters (by decide) same

variable {template : Template} {supplied : Supplied}

theorem parametersPass_sound (unquoted : template.Unquoted)
    (declared : ∀ name ∈ supplied.names, Supplied.Declares template name) :
    (template.parametersPass supplied).Sound where
  unquoted _ _ found :=
    name_of_parameterValue? anyCase_unquoted unquoted.parameterNames declared found
  solid name value found := by
    rcases Option.or_eq_some_iff.mp found with given | ⟨-, default⟩
    · exact solid_of_member? given
    · obtain ⟨declaration, -, chosen⟩ := Option.bind_eq_some_iff.mp default
      rcases Option.or_eq_some_iff.mp chosen with plain | ⟨-, fallback⟩
      · exact solid_of_property? plain
      · exact solid_of_property? fallback

theorem variablesPass_sound (unquoted : template.Unquoted) : template.variablesPass.Sound where
  unquoted _ _ found := name_of_variableValue? anyCase_unquoted unquoted.variableNames found
  solid name value found := by
    obtain ⟨members, -, held⟩ := Option.bind_eq_some_iff.mp found
    exact solid_of_member? held

/-- Every part of an evaluated document is what the two passes made of a part of the template. -/
theorem evaluate_becomes (unquoted : template.Unquoted) {evaluated : Evaluated}
    (ordered : template.document.Ordered) (done : template.evaluate supplied = .ok evaluated) :
    Becomes (template.parametersPass supplied) template.variablesPass template.document
      evaluated.document := by
  obtain ⟨declared, read⟩ := evaluate_ok_iff.mp done
  obtain ⟨middle, one, first⟩ := Pass.turns_substitute (parametersPass_sound unquoted declared)
    (Draft.ofValue template.document)
  obtain ⟨last, two, second⟩ := Pass.turns_substitute (variablesPass_sound unquoted) middle
  have text : template.substitutedText supplied = last.text := by
    rw [Draft.text_ofValue] at first
    rw [← second, ← first]
    rfl
  rw [text] at read
  obtain ⟨document, rfl, -, same⟩ := Draft.document_of_readText read
  exact ⟨ordered, middle, document, one, two, same⟩

end Enforcement.Template
