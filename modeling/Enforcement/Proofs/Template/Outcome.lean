import Enforcement.Proofs.Template.DraftReading
import Enforcement.Proofs.Template.Evaluation

/-!
When evaluation succeeds. A reference may be all of a key, and then its value stands in the place of
the key as it is. The text that is left can be read only if each such value is a string.
-/

namespace Enforcement.Template.Draft

open Enforcement.Json

/-- All numbers of a draft, those in its keys among them, can be read where they are printed. -/
inductive Legible : Draft → Prop
  | null : Legible .null
  | bool (flag : Bool) : Legible (.bool flag)
  | number {number : Number} : number.Readable → Legible (.number number)
  | string (text : String) : Legible (.string text)
  | array {items : List Draft} : (∀ item ∈ items, Legible item) → Legible (.array items)
  | object {members : List (Draft × Draft)} : (∀ member ∈ members, Legible member.1) →
      (∀ member ∈ members, Legible member.2) → Legible (.object members)

theorem legible_ofValue {value : Value} :
    (ofValue value).Legible ↔ value.Every NumberReadable := by
  induction value using Value.byParts with
  | null => exact iff_of_true .null ((Value.every_leaf rfl).mpr trivial)
  | bool flag => exact iff_of_true (.bool flag) ((Value.every_leaf rfl).mpr trivial)
  | string text => exact iff_of_true (.string text) ((Value.every_leaf rfl).mpr trivial)
  | number number =>
      rw [Value.every_leaf rfl]
      constructor
      · intro legible
        cases legible with
        | number readable => exact readable
      · exact Legible.number
  | array items each =>
      rw [ofValue_array, Value.every_array]
      constructor
      · intro legible
        cases legible with
        | array parts =>
            exact ⟨trivial, fun item member =>
              (each item member).mp (parts _ (List.mem_map_of_mem member))⟩
      · intro every
        refine .array fun item member => ?_
        obtain ⟨value, held, rfl⟩ := List.mem_map.mp member
        exact (each value held).mpr (every.2 value held)
  | object members each =>
      rw [ofValue_object, Value.every_object]
      constructor
      · intro legible
        cases legible with
        | object _ parts =>
            exact ⟨trivial, fun member held =>
              (each member held).mp (parts _ (List.mem_map_of_mem held))⟩
      · intro every
        refine .object (fun member held => ?_) fun member held => ?_
        · obtain ⟨other, -, rfl⟩ := List.mem_map.mp held
          exact .string other.1
        · obtain ⟨other, listed, rfl⟩ := List.mem_map.mp held
          exact (each other listed).mpr (every.2 other listed)

theorem aboutKeys_numberReadable : Value.AboutKeys NumberReadable :=
  ⟨fun _ => trivial, fun _ => trivial, fun _ _ _ _ => trivial⟩

theorem legible_fill {pass : Pass}
    (values : ∀ name value, pass.resolve name = some value → value.Every NumberReadable)
    {draft : Draft} (legible : draft.Legible) : (draft.fill pass).Legible := by
  induction legible with
  | null => exact .null
  | bool flag => exact .bool flag
  | number readable => exact .number readable
  | string text =>
      exact legible_ofValue.mpr (Pass.filled_every aboutKeys_numberReadable values written? text)
  | array _ each =>
      rw [fill_array]
      refine .array fun item member => ?_
      obtain ⟨other, held, rfl⟩ := List.mem_map.mp member
      exact each other held
  | object _ _ keys each =>
      rw [fill_object]
      refine .object (fun member held => ?_) fun member held => ?_
      · obtain ⟨other, listed, rfl⟩ := List.mem_map.mp held
        exact keys other listed
      · obtain ⟨other, listed, rfl⟩ := List.mem_map.mp held
        exact each other listed

theorem readText_text {draft : Draft} (legible : draft.Legible) {found : Value} :
    readText draft.text = .ok found ↔
      ∃ document, draft = ofValue document ∧ document.nesting < depthLimit ∧
        document.reread = found := by
  refine ⟨document_of_readText, ?_⟩
  rintro ⟨document, rfl, shallow, rfl⟩
  rw [text_ofValue]
  exact readText_printed (legible_ofValue.mp legible) shallow

end Enforcement.Template.Draft

namespace Enforcement.Template

open Enforcement.Json

/-- What the two passes leave; only a draft, since a key may have given way to any value. -/
def draft (template : Template) (supplied : Supplied) : Draft :=
  ((Draft.ofValue template.document).fill (template.parametersPass supplied)).fill
    template.variablesPass

/-- Names hold no quote, backslash or closing parenthesis, and numbers can be read again. -/
structure Legible (template : Template) (supplied : Supplied) : Prop where
  parameterNames : ∀ name ∈ template.parameterNames, Clear name.toList
  variableNames : ∀ name ∈ template.variableNames, Clear name.toList
  numbers : template.document.Every NumberReadable
  suppliedNumbers : ∀ entry ∈ supplied, entry.2.Every NumberReadable

variable {template : Template} {supplied : Supplied}

theorem draft_legible (legible : template.Legible supplied) :
    (template.draft supplied).Legible := by
  have document := Draft.legible_ofValue.mpr legible.numbers
  have filled := @Draft.legible_fill (template.parametersPass supplied)
    (parameterValue?_every legible.numbers legible.suppliedNumbers) _ document
  exact @Draft.legible_fill template.variablesPass (variableValue?_every legible.numbers) _ filled

theorem substitutedText_draft (legible : template.Legible supplied)
    (declared : ∀ name ∈ supplied.names, Supplied.Declares template name) :
    template.substitutedText supplied = (template.draft supplied).text := by
  have first := Pass.substitute_draft (parametersPass_clear legible.parameterNames declared)
    (Draft.ofValue template.document)
  have second := Pass.substitute_draft (variablesPass_clear legible.variableNames)
    ((Draft.ofValue template.document).fill (template.parametersPass supplied))
  rw [Draft.text_ofValue] at first
  unfold substitutedText draft
  rw [← second]
  exact congrArg _ first

/--
Evaluation reports the first supplied name that is not declared. If all are declared, it succeeds
when the draft is a document that is not too deep, and else what is left cannot be read.
-/
theorem evaluate_outcome (legible : template.Legible supplied) :
    (∀ name, supplied.names.find? (¬ Supplied.Declares template ·) = some name →
      template.evaluate supplied = .error (.input (.parameterUndeclared name))) ∧
    ((∀ name ∈ supplied.names, Supplied.Declares template name) →
      (∀ document, template.draft supplied = .ofValue document →
        document.nesting < depthLimit → template.evaluate supplied = .ok ⟨document.reread⟩) ∧
      ((∀ document, template.draft supplied = .ofValue document →
          depthLimit ≤ document.nesting) →
        ∃ fault, template.evaluate supplied =
          .error (.json "evaluated ARM template" fault))) := by
  refine ⟨?_, fun declared => ⟨?_, ?_⟩⟩
  · intro name missing
    unfold evaluate Supplied.ensureDeclared
    rw [missing]
    rfl
  · intro document same shallow
    rw [evaluate_ok_iff, substitutedText_draft legible declared,
      Draft.readText_text (draft_legible legible)]
    exact ⟨declared, document, same, shallow, rfl⟩
  · intro deep
    unfold evaluate
    rw [ensureDeclared_iff.mpr declared, substitutedText_draft legible declared]
    cases read : readText (template.draft supplied).text with
    | error fault => exact ⟨fault, rfl⟩
    | ok found =>
        obtain ⟨document, same, shallow, -⟩ :=
          (Draft.readText_text (draft_legible legible)).mp read
        exact absurd (deep document same) (Nat.not_le.mpr shallow)

def labelled : Template :=
  ⟨[("[parameters('key')]", .string "[variables('list')]"),
    ("parameters", .object [("key", .object [("defaultValue", .null)])]),
    ("variables", .object [("list", .array [.number (.whole 1), .string "[parameters('key')]"])])]⟩

def labelledZone : Value :=
  .object [("zone", .array [.number (.whole 1), .string "[parameters('key')]"]),
    ("parameters", .object [("key", .object [("defaultValue", .null)])]),
    ("variables", .object [("list", .array [.number (.whole 1), .string "zone"])])]

theorem evaluate_labelled :
    labelled.evaluate [("KEY", .string "zone")] = .ok ⟨labelledZone.reread⟩ ∧
      labelledZone.reread.compactText =
        "\x7b\"parameters\":\x7b\"key\":\x7b\"defaultValue\":null\x7d\x7d," ++
          "\"variables\":\x7b\"list\":[1,\"zone\"]\x7d," ++
          "\"zone\":[1,\"[parameters('key')]\"]\x7d" := by
  have legible : labelled.Legible [("KEY", .string "zone")] :=
    ⟨by decide +kernel, by decide +kernel, by decide +kernel, by decide +kernel⟩
  have declared : ∀ name ∈ Supplied.names [("KEY", Value.string "zone")],
      Supplied.Declares labelled name := by decide +kernel
  have filled : labelled.draft [("KEY", .string "zone")] = .ofValue labelledZone := rfl
  exact ⟨((evaluate_outcome legible).2 declared).1 labelledZone filled (by decide +kernel),
    by decide +kernel⟩

/-- The value of a parameter stands where a key was, and it is no string. -/
def numbered : Template :=
  ⟨[("[parameters('x')]", .bool true),
    ("parameters", .object [("x", .object [("value", .number (.whole 1))])])]⟩

theorem evaluate_numbered :
    String.ofList (numbered.substitutedText []) =
        "\x7b1:true,\"parameters\":\x7b\"x\":\x7b\"value\":1\x7d\x7d\x7d" ∧
      numbered.evaluate [] = .error (.json "evaluated ARM template" .malformed) :=
  ⟨by decide +kernel, rfl⟩

end Enforcement.Template
