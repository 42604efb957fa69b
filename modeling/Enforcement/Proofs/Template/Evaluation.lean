import Enforcement.Proofs.Json.Ordered
import Enforcement.Proofs.Json.Reading
import Enforcement.Proofs.Template.Draft
import Enforcement.Proofs.Template.Lookup
import Enforcement.Template.Evaluation

/-!
Evaluation seen on the tree: the document that comes out is the one that two walks over the strings
of the template leave.
-/

namespace Enforcement.Template

open Enforcement.Json Enforcement.Text

theorem aboutKeys_quietKeys : Value.AboutKeys QuietKeys where
  string _ := trivial
  array _ := trivial
  object members others same quiet := by
    have keys : ∀ key ∈ members.map (·.1), '[' ∉ key.toList := by
      intro key listed
      obtain ⟨member, held, rfl⟩ := List.mem_map.mp listed
      exact quiet member held
    intro member held
    exact keys member.1 (same ▸ List.mem_map_of_mem held)

theorem aboutKeys_numberReadsBack : Value.AboutKeys NumberReadsBack :=
  ⟨fun _ => trivial, fun _ => trivial, fun _ _ _ _ => trivial⟩

theorem Pass.filled_every {good : Value → Prop} (about : Value.AboutKeys good) {pass : Pass}
    (values : ∀ name value, pass.resolve name = some value → value.Every good) (finder : Finder)
    (text : String) : (pass.filled finder text).Every good := by
  rw [Pass.filled]
  split
  · rename_i value found
    obtain ⟨reference, -, resolved⟩ := Pass.valueAt?_iff.mp found
    unfold Pass.value? at resolved
    split at resolved
    · exact values _ _ resolved
    · cases resolved
  · exact (Value.every_leaf rfl).mpr (about.string _)

theorem Pass.walk_every {good : Value → Prop} (about : Value.AboutKeys good) {pass : Pass}
    (values : ∀ name value, pass.resolve name = some value → value.Every good) (finder : Finder)
    {document : Value} (every : document.Every good) : (pass.walk finder document).Every good := by
  apply every.mapLeaves about
  intro value held
  cases value with
  | string text => exact Pass.filled_every about values finder text
  | null | bool | number | array | object => exact held

end Enforcement.Template

namespace Enforcement

open Enforcement.Json Enforcement.Template Enforcement.Text

namespace Template

def parametersPass (template : Template) (supplied : Supplied) : Pass :=
  ⟨.parameters, template.parameterValue? supplied⟩

def variablesPass (template : Template) : Pass := ⟨.variables, template.variableValue?⟩

/-- The document after the two walks; a variable has the value that the template declares. -/
def walked (template : Template) (supplied : Supplied) (finder : Finder) : Value :=
  template.variablesPass.walk finder
    ((template.parametersPass supplied).walk finder template.document)

def parameterNames (template : Template) : List String :=
  (template.parameters?.getD []).map (·.1)

def variableNames (template : Template) : List String :=
  (template.variables?.getD []).map (·.1)

/-- Names are plain, no key holds a bracket, and keys are in order as in all that was read. -/
structure Tame (template : Template) (supplied : Supplied) : Prop where
  plainParameters : ∀ name ∈ template.parameterNames, Plain name.toList
  plainVariables : ∀ name ∈ template.variableNames, Plain name.toList
  quiet : template.document.Every QuietKeys
  suppliedQuiet : ∀ entry ∈ supplied, entry.2.Every QuietKeys
  ordered : template.document.Ordered
  suppliedOrdered : ∀ entry ∈ supplied, entry.2.Ordered

variable {template : Template} {supplied : Supplied}

theorem ordered_of_readJson {context text : String} {value : Value}
    (read : readJson context text = .ok value) : value.Ordered :=
  readText_ordered (mapError_ok_iff.mp read)

def AnyCase (good : String → Prop) : Prop :=
  ∀ left right, sameLetters left right = true → good left → good right

theorem anyCase_clear : AnyCase fun name => Clear name.toList :=
  fun _ _ same => clear_of_sameLetters same

theorem name_of_declared {good : String → Prop} (stable : AnyCase good)
    (names : ∀ name ∈ template.parameterNames, good name) {name : String}
    (declared : Supplied.Declares template name) : good name := by
  unfold Supplied.Declares at declared
  cases listed : template.parameters? with
  | none => simp [listed] at declared
  | some members =>
      rw [listed, Option.bind_some] at declared
      obtain ⟨value, found⟩ := Option.isSome_iff_exists.mp declared
      obtain ⟨key, held, same⟩ := member?_mem found
      apply stable key name same
      apply names
      simp only [parameterNames, listed, Option.getD_some]
      exact List.mem_map_of_mem held

theorem name_of_parameterValue? {good : String → Prop} (stable : AnyCase good)
    (names : ∀ name ∈ template.parameterNames, good name)
    (declared : ∀ name ∈ supplied.names, Supplied.Declares template name) {name : String}
    {value : Value} (found : template.parameterValue? supplied name = some value) : good name := by
  unfold parameterValue? at found
  rcases Option.or_eq_some_iff.mp found with given | ⟨-, default⟩
  · obtain ⟨key, held, same⟩ := member?_mem given
    apply stable key name same
    exact name_of_declared stable names (declared key (List.mem_map_of_mem held))
  · obtain ⟨declaration, found, -⟩ := Option.bind_eq_some_iff.mp default
    apply name_of_declared stable names
    rw [Supplied.Declares, found]
    rfl

theorem name_of_variableValue? {good : String → Prop} (stable : AnyCase good)
    (names : ∀ name ∈ template.variableNames, good name) {name : String} {value : Value}
    (found : template.variableValue? name = some value) : good name := by
  obtain ⟨members, declared, found⟩ := Option.bind_eq_some_iff.mp found
  obtain ⟨key, listed, same⟩ := member?_mem found
  apply stable key name same
  apply names
  simp only [variableNames, declared, Option.getD_some]
  exact List.mem_map_of_mem listed

theorem parametersPass_clear (clear : ∀ name ∈ template.parameterNames, Clear name.toList)
    (declared : ∀ name ∈ supplied.names, Supplied.Declares template name) :
    (template.parametersPass supplied).ResolvesClear := by
  intro name resolved
  obtain ⟨value, found⟩ := Option.isSome_iff_exists.mp resolved
  exact name_of_parameterValue? anyCase_clear clear declared found

theorem variablesPass_clear (clear : ∀ name ∈ template.variableNames, Clear name.toList) :
    template.variablesPass.ResolvesClear := by
  intro name resolved
  obtain ⟨value, found⟩ := Option.isSome_iff_exists.mp resolved
  exact name_of_variableValue? anyCase_clear clear found

theorem section_every {good : Value → Prop} {name : String} {members : List (String × Value)}
    (every : template.document.Every good)
    (listed : (member? name template.members).bind Value.members? = some members) :
    (Value.object members).Every good := by
  obtain ⟨value, found, object⟩ := Option.bind_eq_some_iff.mp listed
  have part := Every.member every found
  cases value with
  | object others =>
      cases object
      exact part
  | null | bool | number | string | array => cases object

theorem variableValue?_every {good : Value → Prop} (every : template.document.Every good)
    (name : String) (value : Value) (found : template.variableValue? name = some value) :
    value.Every good := by
  obtain ⟨members, listed, held⟩ := Option.bind_eq_some_iff.mp found
  exact Every.member (section_every every listed) held

theorem parameterValue?_every {good : Value → Prop} (every : template.document.Every good)
    (given : ∀ entry ∈ supplied, entry.2.Every good) (name : String) (value : Value)
    (found : template.parameterValue? supplied name = some value) : value.Every good := by
  rcases Option.or_eq_some_iff.mp found with direct | ⟨-, default⟩
  · obtain ⟨key, held, -⟩ := member?_mem direct
    exact given _ held
  · obtain ⟨declaration, declares, chosen⟩ := Option.bind_eq_some_iff.mp default
    obtain ⟨members, listed, held⟩ := Option.bind_eq_some_iff.mp declares
    have part := Every.member (section_every every listed) held
    rcases Option.or_eq_some_iff.mp chosen with plain | ⟨-, fallback⟩
    · exact Every.property part plain
    · exact Every.property part fallback

theorem walked_every {good : Value → Prop} (about : Value.AboutKeys good)
    (every : template.document.Every good) (given : ∀ entry ∈ supplied, entry.2.Every good)
    (finder : Finder) : (template.walked supplied finder).Every good :=
  Pass.walk_every about (variableValue?_every every) finder
    (Pass.walk_every about (parameterValue?_every every given) finder every)

theorem substitutedText_eq (tame : template.Tame supplied)
    (declared : ∀ name ∈ supplied.names, Supplied.Declares template name) :
    template.substitutedText supplied = compact (template.walked supplied written?) := by
  have parametersClear := parametersPass_clear
    (fun name listed => (tame.plainParameters name listed).clear) declared
  have variablesClear := variablesPass_clear fun name listed =>
    (tame.plainVariables name listed).clear
  have first := Pass.substitute_compact parametersClear tame.quiet
  have quiet : ((template.parametersPass supplied).walk written? template.document).Every
      QuietKeys :=
    Pass.walk_every aboutKeys_quietKeys
      (parameterValue?_every tame.quiet tame.suppliedQuiet) written? tame.quiet
  have second := Pass.substitute_compact variablesClear quiet
  unfold substitutedText walked
  rw [← second]
  exact congrArg _ first

theorem ensureDeclared_iff : supplied.ensureDeclared template = .ok () ↔
    ∀ name ∈ supplied.names, Supplied.Declares template name := by
  unfold Supplied.ensureDeclared
  split
  · rename_i name missing
    have undeclared := List.find?_some missing
    simp only [decide_eq_true_eq] at undeclared
    constructor
    · nofun
    · intro declared
      exact absurd (declared name (List.mem_of_find?_eq_some missing)) undeclared
  · rename_i none
    refine iff_of_true rfl ?_
    simpa using none

/-- Evaluation succeeds if all names are declared and the text that is left can be read. -/
theorem evaluate_ok_iff {evaluated : Evaluated} : template.evaluate supplied = .ok evaluated ↔
    (∀ name ∈ supplied.names, Supplied.Declares template name) ∧
      readText (template.substitutedText supplied) = .ok evaluated.document := by
  rw [← ensureDeclared_iff]
  unfold evaluate
  cases supplied.ensureDeclared template with
  | error failure => exact iff_of_false nofun nofun
  | ok done =>
      cases readText (template.substitutedText supplied) with
      | error fault => exact iff_of_false nofun nofun
      | ok document =>
          constructor
          · intro same
            cases same
            exact ⟨rfl, rfl⟩
          · intro same
            cases same.2
            rfl

theorem evaluate_of_text
    (declared : ∀ name ∈ supplied.names, Supplied.Declares template name) {document : Value}
    (text : template.substitutedText supplied = compact document) (ordered : document.Ordered)
    (numbers : document.Every NumberReadsBack) (shallow : document.nesting < depthLimit) :
    template.evaluate supplied = .ok ⟨document⟩ := by
  rw [evaluate_ok_iff, text]
  exact ⟨declared, readText_compact ordered numbers shallow⟩

/--
Evaluation succeeds, and the document is the one that a walk for the parameters and then one for
the variables leaves of the template.
-/
theorem evaluate_eq_walked (tame : template.Tame supplied)
    (declared : ∀ name ∈ supplied.names, Supplied.Declares template name)
    (numbers : template.document.Every NumberReadsBack)
    (suppliedNumbers : ∀ entry ∈ supplied, entry.2.Every NumberReadsBack)
    (shallow : (template.walked supplied written?).nesting < depthLimit) :
    template.evaluate supplied = .ok ⟨template.walked supplied written?⟩ := by
  have ordered : (template.walked supplied written?).Ordered :=
    walked_every Value.aboutKeys_keysInOrder tame.ordered tame.suppliedOrdered written?
  have back := walked_every aboutKeys_numberReadsBack numbers suppliedNumbers written?
  exact evaluate_of_text declared (substitutedText_eq tame declared) ordered back shallow

def greeting : Template :=
  ⟨[("parameters", .object [("count", .object [("defaultValue", .number (.whole 3))]),
      ("flags", .object [("defaultValue", .array [.bool true])])]),
    ("resources", .array [.string "[parameters('Flags')]", .string "on: [variables('name')]"]),
    ("variables", .object [("name", .string "\"[parameters('count')]\"")])]⟩

theorem evaluate_greeting :
    greeting.evaluate [("COUNT", .string "x")] =
        .ok ⟨greeting.walked [("COUNT", .string "x")] written?⟩ ∧
      (greeting.walked [("COUNT", .string "x")] written?).compactText =
        "\x7b\"parameters\":\x7b\"count\":\x7b\"defaultValue\":3\x7d," ++
          "\"flags\":\x7b\"defaultValue\":[true]\x7d\x7d," ++
          "\"resources\":[[true],\"on: \\\"[parameters('count')]\\\"\"]," ++
          "\"variables\":\x7b\"name\":\"\\\"x\\\"\"\x7d\x7d" := by
  have tame : greeting.Tame [("COUNT", .string "x")] :=
    ⟨by decide +kernel, by decide +kernel, by decide +kernel, by decide +kernel,
      by decide +kernel, by decide +kernel⟩
  exact ⟨evaluate_eq_walked tame (by decide +kernel) (by decide +kernel) (by decide +kernel)
    (by decide +kernel), by decide +kernel⟩

/-- A tab in the white space of a reference stands escaped in the text that is searched. -/
def tabbed : Template :=
  ⟨[("a", .string "[\tparameters('x')]"),
    ("parameters", .object [("x", .object [("value", .number (.whole 1))])])]⟩

theorem evaluate_tabbed :
    tabbed.Tame [] ∧ tabbed.document.Every NumberReadsBack ∧
      (tabbed.walked [] reference?).nesting < depthLimit ∧
      tabbed.evaluate [] = .ok ⟨tabbed.document⟩ ∧
      tabbed.evaluate [] ≠ .ok ⟨tabbed.walked [] reference?⟩ := by
  have tame : tabbed.Tame [] :=
    ⟨by decide +kernel, by decide +kernel, by decide +kernel, by decide +kernel,
      by decide +kernel, by decide +kernel⟩
  have stays : tabbed.evaluate [] = .ok ⟨tabbed.document⟩ :=
    evaluate_of_text (by decide +kernel) (by decide +kernel) tame.ordered (by decide +kernel)
      (by decide +kernel)
  refine ⟨tame, by decide +kernel, by decide +kernel, stays, ?_⟩
  rw [stays]
  intro same
  injection same with same
  have text := congrArg (compact ·.document) same
  revert text
  decide +kernel

end Template

end Enforcement
