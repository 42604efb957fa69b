import Enforcement.Proofs.Json.Reading
import Enforcement.Proofs.Template.Substitution

/-!
Documents as a pass may leave them. A string gives way to any value, also where it was the key of a
member, so the keys of such a document may be anything.
-/

namespace Enforcement.Template

open Enforcement.Json Enforcement.Text

/-- A document whose keys may be anything. -/
inductive Draft where
  | null
  | bool (flag : Bool)
  | number (number : Number)
  | string (text : String)
  | array (items : List Draft)
  | object (members : List (Draft × Draft))

def comma (first : Bool) : List Char := if first then [] else [',']

namespace Draft

@[elab_as_elim]
theorem byParts {motive : Draft → Prop} (null : motive .null)
    (bool : ∀ flag, motive (.bool flag)) (number : ∀ number, motive (.number number))
    (string : ∀ text, motive (.string text))
    (array : ∀ items, (∀ item ∈ items, motive item) → motive (.array items))
    (object : ∀ members, (∀ member ∈ members, motive member.1 ∧ motive member.2) →
      motive (.object members))
    (draft : Draft) : motive draft := by
  apply @Draft.rec motive (fun items => ∀ item ∈ items, motive item)
    (fun members => ∀ member ∈ members, motive member.1 ∧ motive member.2)
    (fun member => motive member.1 ∧ motive member.2)
  all_goals first | assumption | simp_all

mutual

def text : Draft → List Char
  | .null => compact .null
  | .bool flag => compact (.bool flag)
  | .number value => compact (.number value)
  | .string text => printString text
  | .array items => '[' :: textOfItems true items
  | .object members => '\x7b' :: textOfMembers true members

def textOfItems (first : Bool) : List Draft → List Char
  | [] => [']']
  | item :: rest => comma first ++ (text item ++ textOfItems false rest)

def textOfMembers (first : Bool) : List (Draft × Draft) → List Char
  | [] => ['\x7d']
  | (key, value) :: rest =>
    comma first ++ (text key ++ ([':'] ++ (text value ++ textOfMembers false rest)))

end

mutual

def ofValue : Value → Draft
  | .null => .null
  | .bool flag => .bool flag
  | .number value => .number value
  | .string text => .string text
  | .array items => .array (ofItems items)
  | .object members => .object (ofMembers members)

def ofItems : List Value → List Draft
  | [] => []
  | item :: rest => ofValue item :: ofItems rest

def ofMembers : List (String × Value) → List (Draft × Draft)
  | [] => []
  | (key, value) :: rest => (.string key, ofValue value) :: ofMembers rest

end

mutual

/-- The draft with each of its strings filled, the keys among them. -/
def fill (pass : Pass) : Draft → Draft
  | .string text => ofValue (pass.filled written? text)
  | .array items => .array (fillItems pass items)
  | .object members => .object (fillMembers pass members)
  | leaf => leaf

def fillItems (pass : Pass) : List Draft → List Draft
  | [] => []
  | item :: rest => fill pass item :: fillItems pass rest

def fillMembers (pass : Pass) : List (Draft × Draft) → List (Draft × Draft)
  | [] => []
  | (key, value) :: rest => (fill pass key, fill pass value) :: fillMembers pass rest

end

def ofMember (member : String × Value) : Draft × Draft := (.string member.1, ofValue member.2)

theorem ofValue_array (items : List Value) :
    ofValue (.array items) = .array (items.map ofValue) := by
  have each : ofItems items = items.map ofValue := by
    induction items with
    | nil => rfl
    | cons item rest ih => rw [ofItems, ih, List.map_cons]
  rw [ofValue, each]

theorem ofValue_object (members : List (String × Value)) :
    ofValue (.object members) = .object (members.map ofMember) := by
  have each : ofMembers members = members.map ofMember := by
    induction members with
    | nil => rfl
    | cons member rest ih => rw [ofMembers, ih, List.map_cons]; rfl
  rw [ofValue, each]

theorem fill_array (pass : Pass) (items : List Draft) :
    fill pass (.array items) = .array (items.map (fill pass)) := by
  have each : fillItems pass items = items.map (fill pass) := by
    induction items with
    | nil => rfl
    | cons item rest ih => rw [fillItems, ih, List.map_cons]
  rw [fill, each]

theorem fill_object (pass : Pass) (members : List (Draft × Draft)) :
    fill pass (.object members) =
      .object (members.map fun member => (fill pass member.1, fill pass member.2)) := by
  have each : fillMembers pass members =
      members.map fun member => (fill pass member.1, fill pass member.2) := by
    induction members with
    | nil => rfl
    | cons member rest ih => rw [fillMembers, ih, List.map_cons]
  rw [fill, each]

theorem textOfItems_ofValue {items : List Value}
    (each : ∀ item ∈ items, (ofValue item).text = compact item) (level : Nat) (first : Bool) :
    textOfItems first (items.map ofValue) = spreadItems noGap [] level first items := by
  induction items generalizing first with
  | nil => cases first <;> rfl
  | cons item rest ih =>
      simp only [List.mem_cons, forall_eq_or_imp] at each
      rw [List.map_cons, textOfItems, each.1, ih each.2, compact_eq_spread item (level + 1)]
      rfl

theorem textOfMembers_ofValue {members : List (String × Value)}
    (each : ∀ member ∈ members, (ofValue member.2).text = compact member.2) (level : Nat)
    (first : Bool) :
    textOfMembers first (members.map ofMember) = spreadMembers noGap [] level first members := by
  induction members generalizing first with
  | nil => cases first <;> rfl
  | cons member rest ih =>
      obtain ⟨key, value⟩ := member
      simp only [List.mem_cons, forall_eq_or_imp] at each
      rw [List.map_cons, ofMember, textOfMembers, each.1, ih each.2,
        compact_eq_spread value (level + 1)]
      rfl

theorem text_ofValue (value : Value) : (ofValue value).text = compact value := by
  induction value using Value.byParts with
  | null | bool | number | string => rfl
  | array items each =>
      rw [ofValue_array, text, textOfItems_ofValue each 0, compact_eq_spread _ 0]
      rfl
  | object members each =>
      rw [ofValue_object, text, textOfMembers_ofValue each 0, compact_eq_spread _ 0]
      rfl

/-- Where no key holds a bracket, what is left of a document is a document again. -/
theorem fill_ofValue (pass : Pass) {value : Value} (quiet : value.Every QuietKeys) :
    fill pass (ofValue value) = ofValue (pass.walk written? value) := by
  induction value using Value.byParts with
  | null | bool | number | string => rfl
  | array items ih =>
      have parts := (Value.every_array.mp quiet).2
      rw [ofValue_array, fill_array, Pass.walk_array, ofValue_array, List.map_map, List.map_map]
      exact congrArg _ (List.map_congr_left fun item member => ih item member (parts item member))
  | object members ih =>
      obtain ⟨keys, parts⟩ := Value.every_object.mp quiet
      rw [ofValue_object, fill_object, Pass.walk_object, ofValue_object, List.map_map, List.map_map]
      refine congrArg _ (List.map_congr_left fun member held => ?_)
      have key : fill pass (.string member.1) = .string member.1 := by
        rw [fill, Pass.filled_quiet (keys member held)]
        rfl
      have value := ih member held (parts member held)
      change (fill pass (.string member.1), fill pass (ofValue member.2)) = _
      rw [key, value]
      rfl

def NoKeyword (c : Char) : Prop := isBlank c = false ∧ c ≠ 'p' ∧ c ≠ 'v'

instance : DecidablePred NoKeyword := fun _ => inferInstanceAs (Decidable (_ ∧ _))

theorem noKeyword_numeric {c : Char} (numeric : isNumeric c = true) : NoKeyword c := by
  have plain : c = '+' ∨ c = '.' ∨ isPlainChar c = true := by
    unfold isNumeric at numeric
    unfold isPlainChar Char.isAlphanum
    simp only [Bool.or_eq_true, beq_iff_eq] at numeric ⊢
    rcases numeric with ((((digit | rfl) | rfl) | rfl) | rfl) | rfl
    · exact Or.inr (Or.inr (Or.inl (Or.inl (Or.inr digit))))
    all_goals decide
  refine ⟨?_, ?_, ?_⟩
  · rcases plain with rfl | rfl | plain
    · decide
    · decide
    · exact plain_not_blank plain
  · rintro rfl
    revert numeric
    decide
  · rintro rfl
    revert numeric
    decide

theorem text_start (draft : Draft) : ∃ c tail, draft.text = c :: tail ∧ Opens c ∧ NoKeyword c ∧
    c ≠ '\x7d' ∧ (c = '"' → ∃ text, draft = .string text) := by
  cases draft with
  | null => exact ⟨'n', _, rfl, by decide, by decide, by decide, nofun⟩
  | bool flag => cases flag <;> exact ⟨_, _, rfl, by decide, by decide, by decide, nofun⟩
  | number number =>
      obtain ⟨c, tail, text, numeric⟩ := number.render_start
      have other := ne_of_isNumeric numeric
      exact ⟨c, tail, text, ⟨not_isSpace_of_isNumeric numeric, other ']' rfl⟩,
        noKeyword_numeric numeric, other '\x7d' rfl, fun quote => (other '"' rfl quote).elim⟩
  | string text => exact ⟨'"', _, rfl, by decide, by decide, by decide, fun _ => ⟨text, rfl⟩⟩
  | array items => exact ⟨'[', _, rfl, by decide, by decide, by decide, nofun⟩
  | object members => exact ⟨'\x7b', _, rfl, by decide, by decide, by decide, nofun⟩

theorem unmarked_number (number : Number) :
    (Draft.number number).text.all (fun c => c != '"' && c != '[') = true := by
  rw [List.all_eq_true]
  intro c member
  have numeric := number.numeric_render c member
  simp [ne_of_isNumeric numeric '"' rfl, ne_of_isNumeric numeric '[' rfl]

end Draft

namespace Pass

variable {pass : Pass}

/-- What follows a value does not begin with a bracket. -/
def Outside (rest : List Char) : Prop := ∀ c ∈ rest.head?, c ≠ '['

/-- A draft in a text gives way to the filled one. -/
def Fills (pass : Pass) (draft : Draft) : Prop :=
  ∀ place rest, place.Unescaped → Outside rest →
    pass.Gives place draft.text (draft.fill pass).text rest

theorem gives_comma (first : Bool) {place : Place} (unescaped : first = true → place.Unescaped)
    (rest : List Char) :
    pass.Gives place (comma first) (comma first) rest ∧ (place.past (comma first)).Unescaped := by
  cases first with
  | true => exact ⟨gives_nil place rest, unescaped rfl⟩
  | false =>
      exact ⟨gives_char (by decide) (by decide) place rest,
        @Place.unescaped_of_last [] ',' (by decide) place⟩

theorem outside_items (items : List Draft) (rest : List Char) :
    Outside (Draft.textOfItems false items ++ rest) := by
  intro c head
  cases items with
  | nil => cases head; decide
  | cons item items => cases head; decide

theorem outside_members (members : List (Draft × Draft)) (rest : List Char) :
    Outside (Draft.textOfMembers false members ++ rest) := by
  intro c head
  cases members with
  | nil => cases head; decide
  | cons member members => cases head; decide

theorem gives_items {items : List Draft} (each : ∀ item ∈ items, pass.Fills item) (first : Bool)
    {place : Place} (unescaped : first = true → place.Unescaped) (rest : List Char) :
    pass.Gives place (Draft.textOfItems first items)
      (Draft.textOfItems first (items.map (Draft.fill pass))) rest := by
  induction items generalizing first place with
  | nil => exact gives_char (by decide) (by decide) place rest
  | cons item items ih =>
      simp only [List.mem_cons, forall_eq_or_imp] at each
      obtain ⟨separator, start⟩ := @gives_comma pass first place unescaped
        (item.text ++ Draft.textOfItems false items ++ rest)
      have head := each.1 _ (Draft.textOfItems false items ++ rest) start (outside_items items rest)
      exact separator.append (head.append (ih each.2 false nofun))

theorem gives_members {members : List (Draft × Draft)}
    (each : ∀ member ∈ members, pass.Fills member.1 ∧ pass.Fills member.2) (first : Bool)
    {place : Place} (unescaped : first = true → place.Unescaped) (rest : List Char) :
    pass.Gives place (Draft.textOfMembers first members)
      (Draft.textOfMembers first
        (members.map fun member => (member.1.fill pass, member.2.fill pass))) rest := by
  induction members generalizing first place with
  | nil => exact gives_char (by decide) (by decide) place rest
  | cons member members ih =>
      obtain ⟨key, value⟩ := member
      simp only [List.mem_cons, forall_eq_or_imp] at each
      obtain ⟨separator, start⟩ := @gives_comma pass first place unescaped
        (key.text ++ ([':'] ++ (value.text ++ Draft.textOfMembers false members)) ++ rest)
      have follows :
          Outside ([':'] ++ (value.text ++ Draft.textOfMembers false members) ++ rest) := by
        intro c head
        cases head
        decide
      have name := each.1.1 _ _ start follows
      have colon := @gives_char pass ':' (by decide) (by decide)
        ((place.past (comma first)).past key.text)
        (value.text ++ Draft.textOfMembers false members ++ rest)
      have held := each.1.2 _ (Draft.textOfMembers false members ++ rest)
        (@Place.unescaped_of_last [] ':' (by decide) ((place.past (comma first)).past key.text))
        (outside_members members rest)
      exact separator.append (name.append (colon.append (held.append (ih each.2 false nofun))))

theorem valueAt?_bracket {c : Char} (other : Draft.NoKeyword c) (text : List Char) :
    pass.valueAt? reference? ('[' :: c :: text) = none := by
  have none : keyword? (c :: text) = none := by
    simp [keyword?, parameters_keyword, variables_keyword, after?, Ne.symm other.2.1,
      Ne.symm other.2.2]
  have foreign : keyword? (trimStart (c :: text)) = .none := by rw [trimStart_cons other.1, none]
  simp [valueAt?, reference?_of_keyword foreign]

theorem items_start (items : List Draft) :
    ∃ c tail, Draft.textOfItems true items = c :: tail ∧ Draft.NoKeyword c := by
  cases items with
  | nil => exact ⟨']', _, rfl, by decide⟩
  | cons item items =>
      obtain ⟨c, tail, start, -, other, -⟩ := item.text_start
      refine ⟨c, tail ++ Draft.textOfItems false items, ?_, other⟩
      rw [Draft.textOfItems, start]
      rfl

theorem fills_word {draft : Draft} (word : draft.text.all (fun c => c != '"' && c != '['))
    (same : draft.fill pass = draft) : pass.Fills draft := by
  intro place rest _ _
  rw [same]
  exact gives_plain (by simpa using word) place rest

theorem fills_array {items : List Draft} (each : ∀ item ∈ items, pass.Fills item) :
    pass.Fills (.array items) := by
  intro place rest _ _
  obtain ⟨c, tail, start, other⟩ := items_start items
  have bracket : pass.Gives place ['['] ['['] (Draft.textOfItems true items ++ rest) := by
    apply run_char
    · rw [start]
      exact valueAt?_bracket other _
    · exact notWhole_of_char (by decide) place _
  have inside := gives_items each true
    (fun _ => @Place.unescaped_of_last [] '[' (by decide) place) rest
  rw [Draft.fill_array]
  exact bracket.append inside

theorem fills_object {members : List (Draft × Draft)}
    (each : ∀ member ∈ members, pass.Fills member.1 ∧ pass.Fills member.2) :
    pass.Fills (.object members) := by
  intro place rest _ _
  have brace := @gives_char pass '\x7b' (by decide) (by decide) place
    (Draft.textOfMembers true members ++ rest)
  have inside := gives_members each true
    (fun _ => @Place.unescaped_of_last [] '\x7b' (by decide) place) rest
  rw [Draft.fill_object]
  exact brace.append inside

theorem fills (clear : pass.ResolvesClear) (draft : Draft) : pass.Fills draft := by
  induction draft using Draft.byParts with
  | null => exact fills_word (by decide) rfl
  | bool flag => cases flag <;> exact fills_word (by decide) rfl
  | number number => exact fills_word (Draft.unmarked_number number) rfl
  | string text =>
      intro place rest unescaped outside
      rw [Draft.fill, Draft.text_ofValue]
      exact gives_string clear text unescaped outside
  | array items ih => exact fills_array ih
  | object members ih => exact fills_object ih

theorem substitute_draft (clear : pass.ResolvesClear) (draft : Draft) :
    substitute pass.kind pass.resolve draft.text = (draft.fill pass).text := by
  have given := fills clear draft ⟨0, []⟩ [] rfl nofun
  rw [Gives, List.append_nil] at given
  rw [substitute_eq_run clear, given, run, splicesFrom, applySplices, List.append_nil]

/-- Substitution in the text of a document is the walk over the document. -/
theorem substitute_compact (clear : pass.ResolvesClear) {document : Value}
    (quiet : document.Every QuietKeys) :
    substitute pass.kind pass.resolve (compact document) =
      compact (pass.walk written? document) := by
  rw [← Draft.text_ofValue, substitute_draft clear, Draft.fill_ofValue pass quiet,
    Draft.text_ofValue]

end Pass

end Enforcement.Template
