import Mathlib.Data.List.Basic
import Enforcement.Proofs.Policy.Document
import Enforcement.Proofs.Policy.Header

/-!
A rendered module says which policy it was made from. The two lists of a policy stand in it as
documents that show where they end, whatever strings they hold, and the lines around them are fixed
but for a word, a number and a flag.
-/

namespace Enforcement

open Enforcement.Json Enforcement.Text

theorem fragmentsValue_injective : Function.Injective fragmentsValue := by
  have each : Function.Injective FragmentImport.toValue := fun fragment other same => by
    have back := FragmentImport.decode?_toValue fragment
    rw [same, FragmentImport.decode?_toValue] at back
    exact (Option.some.inj back).symm
  intro fragments others same
  exact List.map_injective_iff.mpr each (Value.array.inj same)

theorem containersValue_injective : Function.Injective containersValue := by
  have each : Function.Injective Container.toValue := fun container other same => by
    have back := Container.ofValue?_toValue container
    rw [same, Container.ofValue?_toValue] at back
    exact (Option.some.inj back).symm
  intro containers others same
  exact List.map_injective_iff.mpr each (Value.array.inj same)

namespace Rego

def policyHeader : String :=
  "package policy\n\nimport future.keywords.every\nimport future.keywords.in\n\n" ++
    "api_version := \"" ++ apiVersion ++ "\"\n" ++
    "framework_version := \"" ++ frameworkVersion ++ "\"\n\n"

def policyRules (debug : String) : String :=
  "\n" ++ "allow_runtime_logging := " ++ debug ++ "\n" ++
    "allow_environment_variable_dropping := true\n" ++
    "allow_unencrypted_scratch := false\n" ++
    "allow_capability_dropping := true\n\n" ++
    String.join (frameworkRules.map frameworkRule) ++
    "reason := \x7b\"errors\": data.framework.errors\x7d\n"

def policyDecisions (debugMode : Bool) : String :=
  let debug := if debugMode then "true" else "false"
  "\n" ++ ("allow_properties_access := true\n" ++
    ("allow_dump_stacks := " ++ (debug ++ policyRules debug)))

theorem policyDecisions_injective : Function.Injective policyDecisions := by
  intro debugMode debugMode' same
  have text := congrArg String.toList same
  simp only [policyDecisions, String.toList_append, List.append_right_inj] at text
  cases debugMode with
  | true =>
      cases debugMode' with
      | true => rfl
      | false => cases (List.cons.inj text).1
  | false =>
      cases debugMode' with
      | true => cases (List.cons.inj text).1
      | false => rfl

theorem renderPolicy_eq (policy : Policy) (debugMode : Bool) :
    renderPolicy policy debugMode =
      policyHeader ++ (listRules policy ++ policyDecisions debugMode) := by
  unfold renderPolicy policyHeader policyDecisions policyRules
  generalize String.join (frameworkRules.map frameworkRule) = rules
  generalize listRules policy = lists
  generalize (if debugMode then "true" else "false") = debug
  simp only [String.append_assoc]

theorem listRules_inj {policy policy' : Policy} {rest rest' : List Char}
    (same : (listRules policy).toList ++ rest = (listRules policy').toList ++ rest') :
    policy = policy' ∧ rest = rest' := by
  have split (policy : Policy) (rest : List Char) : (listRules policy).toList ++ rest =
      "fragments := ".toList ++ (prettyAt 0 (fragmentsValue policy.fragments) ++
        '\n' :: ('\n' :: "containers := ".toList ++
          (prettyAt 0 (containersValue policy.containers) ++ '\n' :: rest))) := by
    simp [listRules, Value.prettyText]
  have line (text : List Char) : Delimited ('\n' :: text) := delimited_cons (by decide)
  obtain ⟨fragments, behind⟩ := Shape.pretty_inj
    (Shapes.normal_list Shapes.normal_fragment policy.fragments)
    (Shapes.normal_list Shapes.normal_fragment policy'.fragments) 0 (line _) (line _)
    (List.append_cancel_left ((split policy rest).symm.trans (same.trans (split policy' rest'))))
  obtain ⟨containers, ended⟩ := Shape.pretty_inj
    (Shapes.normal_list Shapes.normal_container policy.containers)
    (Shapes.normal_list Shapes.normal_container policy'.containers) 0 (line rest) (line rest')
    (List.append_cancel_left (List.cons.inj behind).2)
  have fragments := fragmentsValue_injective fragments
  have containers := containersValue_injective containers
  refine ⟨?_, (List.cons.inj ended).2⟩
  cases policy
  cases policy'
  exact congrArg₂ Policy.mk fragments containers

theorem renderPolicy_inj {policy policy' : Policy} {debugMode debugMode' : Bool}
    (same : renderPolicy policy debugMode = renderPolicy policy' debugMode') :
    policy = policy' ∧ debugMode = debugMode' := by
  have text := congrArg String.toList same
  simp only [renderPolicy_eq, String.toList_append] at text
  obtain ⟨policies, rest⟩ := listRules_inj (List.append_cancel_left text)
  exact ⟨policies, policyDecisions_injective (String.toList_inj.mp rest)⟩

theorem renderFragment_inj {policy policy' : Policy} {package package' svn svn' text : String}
    (rendered : renderFragment policy package svn = .ok text)
    (rendered' : renderFragment policy' package' svn' = .ok text) :
    policy = policy' ∧ package = package' ∧ svn = svn' := by
  obtain ⟨-, unbroken, ⟨value, parsed⟩, same⟩ := renderFragment_ok_iff.mp rendered
  obtain ⟨-, unbroken', ⟨value', parsed'⟩, same'⟩ := renderFragment_ok_iff.mp rendered'
  obtain ⟨packages, bodies⟩ := @run_inj (!isBlank ·) package.toList package'.toList _ _
    (by simpa [Unbroken] using unbroken) (by simpa [Unbroken] using unbroken')
    (fun c head => by cases head; decide) (fun c head => by cases head; decide)
    (List.append_cancel_left (same.symm.trans same'))
  have declared := @List.append_cancel_left _ "\n\nsvn := \"".toList _ _ bodies
  obtain ⟨versions, rest⟩ := @run_inj Char.isDigit svn.toList svn'.toList _ _
    (digits_of_parse parsed).2 (digits_of_parse parsed').2
    (fun c head => by cases head; decide) (fun c head => by cases head; decide) declared
  have rules := List.append_cancel_left (List.append_cancel_left
    (List.append_cancel_left (List.cons.inj rest).2))
  obtain ⟨policies, -⟩ := @listRules_inj policy policy' [] [] (by simpa using rules)
  exact ⟨policies, String.toList_inj.mp packages, String.toList_inj.mp versions⟩

/--
The text of a module determines what it was made from. No string of a container, a rule, a mount or
a fragment can stand for the end of its list, so no two policies have one text.
-/
theorem rendering_inj {policy policy' : Policy} {debugMode debugMode' : Bool}
    {package package' svn svn' text : String} :
    (renderPolicy policy debugMode = renderPolicy policy' debugMode' →
      policy = policy' ∧ debugMode = debugMode') ∧
    (renderFragment policy package svn = .ok text →
      renderFragment policy' package' svn' = .ok text →
        policy = policy' ∧ package = package' ∧ svn = svn') :=
  ⟨renderPolicy_inj, renderFragment_inj⟩

theorem rendering_inj_contoso :
    renderPolicy quotingPolicy true = renderPolicy quotingPolicy (!false) ∧ true = !false ∧
      ∃ text, renderFragment quotingPolicy "contoso" "007" = .ok text ∧
        renderFragment quotingPolicy ("con" ++ "toso") ("00" ++ "7") = .ok text ∧
        "contoso" = "con" ++ "toso" ∧ "007" = "00" ++ "7" := by
  have rendered := (@renderFragment_ok_iff quotingPolicy "contoso" "007" _).mpr
    ⟨by decide, by decide, ⟨7, rfl⟩, String.toList_ofList⟩
  have joined : renderFragment quotingPolicy ("con" ++ "toso") ("00" ++ "7") = .ok _ := rendered
  obtain ⟨whole, part⟩ := @rendering_inj quotingPolicy quotingPolicy true (!false) "contoso"
    ("con" ++ "toso") "007" ("00" ++ "7") _
  obtain ⟨-, package, svn⟩ := part rendered joined
  exact ⟨rfl, (whole rfl).2, _, rendered, joined, package, svn⟩

end Rego

end Enforcement
