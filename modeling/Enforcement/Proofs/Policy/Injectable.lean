import Enforcement.Proofs.Policy.Compilation
import Enforcement.Proofs.Policy.Writing

/-!
A template that gives policies takes them too, unless something that is no object stands where the
policy of a group goes. A null does: it counts as absent when policies are compiled, but not when
they are written.
-/

namespace Enforcement

open Enforcement.Json Enforcement.Template

namespace Template

theorem substitutedText_of_free {template : Template}
    (free : containsReference (compact template.document) = false) (supplied : Supplied) :
    template.substitutedText supplied = compact template.document := by
  have none : occurrences (compact template.document) = [] := by
    simpa [containsReference] using free
  have same (kind : ReferenceKind) (resolve : String → Option Value) :
      substitute kind resolve (compact template.document) = compact template.document := by
    rw [substitute, splices, none]
    rfl
  rw [substitutedText, same, same]

theorem unnumbered_of_free {template : Template} (ordered : template.document.Ordered)
    (free : containsReference (compact template.document) = false) {supplied : Supplied}
    {evaluated : Evaluated} (evaluation : template.evaluate supplied = .ok evaluated) :
    evaluated.document.unnumbered = template.document.unnumbered := by
  obtain ⟨-, read⟩ := evaluate_ok_iff.mp evaluation
  rw [substitutedText_of_free free] at read
  exact unnumbered_of_readText_compact ordered read

end Template

namespace Injection

def groups (document : Value) : List Value :=
  ((listProperty? document "resources").getD []).filter isContainerGroup

def isOpen (resource : Value) : Bool :=
  ((property? resource "properties").bind Value.members?).isSome

def isSealed (resource : Value) : Bool :=
  (((memberFor? "properties" (resource.members?.getD [])).bind Value.members?).bind
    (memberFor? confidentialKey)).any (·.members?.isNone)

/-- What becomes of a group that takes its policy. -/
def outcomeFor (approver : OverwriteApprover) (resource : Value) : Outcome :=
  if refuses approver resource then .kept (groupName resource) else .written (groupName resource)

theorem obstacle?_of_open {resource : Value} (opens : isOpen resource = true) :
    obstacle? resource =
      if isSealed resource then some (.input (.confidentialNotObject (groupName resource)))
      else none := by
  have same : (property? resource "properties").bind Value.members? =
      ((memberFor? "properties" (resource.members?.getD [])).bind Value.members?).bind
        (some ·) := property?_bind (fun _ none => none) resource "properties"
  rw [isOpen, same, Option.bind_fun_some] at opens
  obtain ⟨properties, held⟩ := Option.isSome_iff_exists.mp opens
  have sealed : isSealed resource = (confidential? properties).isNone := by
    rw [isSealed, held, Option.bind_some, confidential?]
    cases memberFor? confidentialKey properties with
    | none => rfl
    | some found => rfl
  rw [obstacle?, held, sealed]
  dsimp only
  cases confidential? properties with
  | none => rfl
  | some confidential => rfl

section Groups

variable {approver : OverwriteApprover} {policy : String} {policies : List String}
  {resource changed : Value} {resources after : List Value} {outcome : Outcome}
  {outcomes : List Outcome}

theorem Injects.free (injects : Injects approver policy resource outcome changed) :
    obstacle? resource = none ∧ outcome = outcomeFor approver resource := by
  cases injects with
  | kept refused =>
      have present : hasPolicy resource = true := (Bool.and_eq_true_iff.mp refused).1
      refine ⟨?_, by rw [outcomeFor, if_pos refused]⟩
      rw [hasPolicy, policyOf?_eq] at present
      rw [obstacle?]
      cases held : (memberFor? "properties" (resource.members?.getD [])).bind Value.members? with
      | none =>
          rw [held] at present
          cases present
      | some properties =>
          rw [held, Option.bind_some] at present
          cases found : confidential? properties with
          | none =>
              rw [found] at present
              cases present
          | some confidential =>
              dsimp only
              rw [found]
  | written free wrote found =>
      refine ⟨?_, by rw [outcomeFor, free, if_neg Bool.false_ne_true]⟩
      cases wrote with
      | intro propertiesHeld confidentialHeld =>
          rw [obstacle?, Value.members?, Option.getD_some, propertiesHeld, Option.bind_some,
            Value.members?]
          dsimp only
          rw [confidential?_iff.mpr confidentialHeld]

theorem Run.free (run : Run approver policies resources outcomes after) :
    (∀ group ∈ resources.filter isContainerGroup, obstacle? group = none) ∧
      outcomes = (resources.filter isContainerGroup).map (outcomeFor approver) := by
  induction run with
  | done => exact ⟨nofun, rfl⟩
  | other single run ih => rwa [List.filter_cons_of_neg (by simp [single])]
  | group group first run ih =>
      obtain ⟨clear, rfl⟩ := first.free
      rw [List.filter_cons_of_pos group, ih.2]
      exact ⟨List.forall_mem_cons.mpr ⟨clear, ih.1⟩, rfl⟩

end Groups

/-- What an injection comes to: the first group that does not take its policy stops it. -/
def verdict (approver : OverwriteApprover) (groups : List Value) : Except Error (List Outcome) :=
  match groups.findSome? obstacle? with
  | some failure => .error failure
  | none => .ok (groups.map (outcomeFor approver))

theorem injectResources_verdict (approver : OverwriteApprover) {policies : List String}
    {resources : List Value} (ordered : ∀ resource ∈ resources, resource.Ordered)
    (count : (resources.filter isContainerGroup).length = policies.length) :
    (injectResources approver policies resources).result =
      verdict approver (resources.filter isContainerGroup) := by
  rcases injectResources_outcome approver ordered count with
    ⟨outcomes, after, run, progress⟩ | stops
  · obtain ⟨free, rfl⟩ := run.free
    rw [progress, verdict, List.findSome?_eq_none_iff.mpr free]
    rfl
  · generalize injectResources approver policies resources = progress at stops
    cases stops with
    | @intro taken rest policy earlier later after resource outcomes failure alone run group
        fails =>
        have obstacle : obstacle? resource = some failure := by
          rcases injectGroup_outcome approver policy (ordered resource (by simp)) with
            ⟨failure', obstacle, work⟩ | ⟨outcome, changed, work, -⟩
          · cases work.symm.trans fails
            exact obstacle
          · cases work.symm.trans fails
        rw [List.filter_append, List.filter_cons_of_pos group, verdict, List.findSome?_append,
          List.findSome?_eq_none_iff.mpr run.free.1, Option.none_or, List.findSome?_cons, obstacle]
        rfl

theorem inject_verdict (approver : OverwriteApprover) {policies : List String} {document : Value}
    (ordered : document.Ordered) (present : (listProperty? document "resources").isSome = true)
    (count : (groups document).length = policies.length) :
    (inject approver policies document).result = verdict approver (groups document) := by
  obtain ⟨resources, listed⟩ := Option.isSome_iff_exists.mp present
  have selected : groups document = resources.filter isContainerGroup := by
    rw [groups, listed, Option.getD_some]
  rw [selected] at count ⊢
  obtain ⟨members, rfl, held⟩ := listed_object listed
  rw [inject_listed approver held count]
  exact injectResources_verdict approver
    (Value.every_array.mp (ordered_memberFor? ordered held)).2 count

theorem findSome?_obstacle {groups : List Value} (opens : ∀ group ∈ groups, isOpen group = true) :
    groups.findSome? obstacle? =
      (groups.find? isSealed).map (.input <| .confidentialNotObject <| groupName ·) := by
  induction groups with
  | nil => rfl
  | cons group rest ih =>
      obtain ⟨first, opens⟩ := List.forall_mem_cons.mp opens
      rw [List.findSome?_cons, List.find?_cons, obstacle?_of_open first, ih opens]
      cases isSealed group <;> rfl

/-! What a build has found in the evaluated document is there in the template as well. -/

theorem members?_unnumbered (value : Value) :
    value.unnumbered.members?.isSome = value.members?.isSome := by
  cases value with
  | object members => rw [Value.unnumbered_object]; rfl
  | null | bool | number | string | array => rfl

theorem isOpen_unnumbered (resource : Value) : isOpen resource.unnumbered = isOpen resource := by
  rw [isOpen, isOpen, property?_unnumbered]
  cases property? resource "properties" with
  | none => rfl
  | some properties => exact members?_unnumbered properties

theorem groups_unnumbered (document : Value) :
    groups document.unnumbered = (groups document).map Value.unnumbered := by
  rw [groups, groups, listProperty?_unnumbered]
  cases listProperty? document "resources" with
  | none => rfl
  | some resources =>
      simp only [Option.map_some, Option.getD_some, List.filter_map]
      congr 2
      funext resource
      exact isContainerGroup_unnumbered resource

theorem groups_of_build {approver : WildcardApprover} {options : BuildOptions}
    {pulled : List FragmentImport} {evaluated : Evaluated} {policies : List Policy}
    (built : (Policy.ofTemplate approver options pulled evaluated).outcome.1 = .ok policies) :
    (listProperty? evaluated.document "resources").isSome = true ∧
      (groups evaluated.document).length = policies.length ∧
      ∀ group ∈ groups evaluated.document, isOpen group = true := by
  obtain ⟨resources, listed, done⟩ := Policy.groups_of_gives (Prod.ext built rfl)
  have opens : ∀ resource policy before after,
      Consulting.Gives (Policy.ofGroup approver options pulled resource) before policy after →
        isOpen resource = true := by
    intro resource policy before after given
    obtain ⟨properties, declared, found, filled⟩ := Policy.filled_of_gives given
    obtain ⟨list, present, -⟩ :=
      Option.bind_eq_some_iff.mp (Option.filter_eq_some_iff.mp filled).1
    obtain ⟨members, object, -⟩ := Option.bind_eq_some_iff.mp present
    rw [isOpen, found, Option.bind_some, object]
    rfl
  have each := (Consulting.gives_each done).imp fun resource policy given => by
    obtain ⟨before, after, given⟩ := given
    exact And.intro (opens resource policy before after given) trivial
  have listed : listProperty? evaluated.document "resources" = some resources := listed
  rw [groups, listed]
  exact ⟨rfl, each.length_eq, ((List.forall₂_and_left _ _).mp each).1⟩

/--
A template without references that gives policies takes as many encoded ones: an injection succeeds,
or the first group where something that is no object stands for the policy's object stops it.
-/
theorem inject_of_build {template : Template} {supplied : Supplied} {evaluated : Evaluated}
    {approver : WildcardApprover} {options : BuildOptions} {pulled : List FragmentImport}
    {policies : List Policy} {encoded : List String} (ordered : template.document.Ordered)
    (free : containsReference (compact template.document) = false)
    (evaluation : template.evaluate supplied = .ok evaluated)
    (built : (Policy.ofTemplate approver options pulled evaluated).outcome.1 = .ok policies)
    (one : encoded.length = policies.length) (overwrite : OverwriteApprover) :
    (inject overwrite encoded template.document).result =
      match (groups template.document).find? isSealed with
      | some group => .error (.input (.confidentialNotObject (groupName group)))
      | none => .ok ((groups template.document).map (outcomeFor overwrite)) := by
  obtain ⟨present, count, opens⟩ := groups_of_build built
  have same := unnumbered_of_free ordered free evaluation
  have listed : (listProperty? template.document "resources").isSome = true := by
    rw [← Option.isSome_map, ← listProperty?_unnumbered, ← same, listProperty?_unnumbered,
      Option.isSome_map, present]
  have alike : (groups template.document).map Value.unnumbered =
      (groups evaluated.document).map Value.unnumbered := by
    rw [← groups_unnumbered, ← same, groups_unnumbered]
  have opened : ∀ group ∈ groups template.document, isOpen group = true := by
    intro group member
    have held := alike ▸ List.mem_map_of_mem (f := Value.unnumbered) member
    obtain ⟨other, inside, equal⟩ := List.mem_map.mp held
    rw [← isOpen_unnumbered, ← equal, isOpen_unnumbered, opens other inside]
  have number : (groups template.document).length = encoded.length := by
    rw [← List.length_map (f := Value.unnumbered), alike, List.length_map, count, one]
  rw [inject_verdict overwrite ordered listed number, verdict, findSome?_obstacle opened]
  cases (groups template.document).find? isSealed with
  | none => rfl
  | some group => rfl

def harbor (held : Value) : Template :=
  ⟨[("resources", .array
    [.object [("name", .string "pier"),
      ("properties", .object [("confidentialComputeProperties", held),
        ("containers", .array [.object [("name", .string "crane"),
          ("properties", .object [("image", .string "crane:1")])]])]),
      ("type", .string "Microsoft.ContainerInstance/containerGroups")],
    .object [("name", .string "quay"),
      ("properties", .object [("containers", .array [.object [("name", .string "winch"),
        ("properties", .object [("image", .string "winch:1")])]])]),
      ("type", .string "Microsoft.ContainerInstance/containerGroups")]])]⟩

theorem harbor_evaluates {held : Value} (ordered : (harbor held).document.Ordered)
    (free : containsReference (compact (harbor held).document) = false)
    (numbers : (harbor held).document.Every NumberReadsBack)
    (shallow : (harbor held).document.nesting < depthLimit) :
    (harbor held).evaluate [] = .ok ⟨(harbor held).document⟩ :=
  Template.evaluate_of_text (by simp [Supplied.names]) (Template.substitutedText_of_free free [])
    ordered numbers shallow

theorem inject_harbor :
    let template := harbor (.object [("ccePolicy", .string "T0xE")])
    ∃ policies, (Policy.ofTemplate (fun _ => false) ⟨false, false, false, none, false⟩ []
        ⟨template.document⟩).outcome.1 = .ok policies ∧ policies.length = 2 ∧
      (inject (fun _ => false) ["QUFB", "QkJC"] template.document).result =
        .ok [.kept "pier", .written "quay"] := by
  intro template
  have ordered : template.document.Ordered := by decide +kernel
  have free : containsReference (compact template.document) = false := by decide +kernel
  have evaluation := harbor_evaluates ordered free (by decide +kernel) (by decide +kernel)
  obtain ⟨policies, built, two⟩ := exists_ok
    (Policy.ofTemplate (fun _ => false) ⟨false, false, false, none, false⟩ []
      ⟨template.document⟩).outcome.1 List.length 2 (by decide +kernel)
  have one : ["QUFB", "QkJC"].length = policies.length := two.symm
  have clear : (groups template.document).find? isSealed = none :=
    Option.isNone_iff_eq_none.mp (by decide +kernel)
  have outcomes : (groups template.document).map (outcomeFor fun _ => false) =
      [.kept "pier", .written "quay"] := by decide +kernel
  have injected := inject_of_build ordered free evaluation built one fun _ => false
  rw [clear] at injected
  exact ⟨policies, built, two, injected.trans (congrArg Except.ok outcomes)⟩

/-- A null there is no obstacle to compiling the policies but to writing them. -/
theorem inject_harbor_null :
    let template := harbor .null
    template.document.Ordered ∧ containsReference (compact template.document) = false ∧
      template.evaluate [] = .ok ⟨template.document⟩ ∧
      (∃ policies, (Policy.ofTemplate (fun _ => false) ⟨false, false, false, none, false⟩ []
        ⟨template.document⟩).outcome.1 = .ok policies ∧ policies.length = 2) ∧
      (inject (fun _ => true) ["QUFB", "QkJC"] template.document).result =
        .error (.input (.confidentialNotObject "pier")) := by
  intro template
  have ordered : template.document.Ordered := by decide +kernel
  have free : containsReference (compact template.document) = false := by decide +kernel
  have evaluation := harbor_evaluates ordered free (by decide +kernel) (by decide +kernel)
  obtain ⟨policies, built, two⟩ := exists_ok
    (Policy.ofTemplate (fun _ => false) ⟨false, false, false, none, false⟩ []
      ⟨template.document⟩).outcome.1 List.length 2 (by decide +kernel)
  have obstacle : (groups template.document).findSome? obstacle? =
      some (.input (.confidentialNotObject "pier")) := by decide +kernel
  have refused := @inject_verdict (fun _ => true) ["QUFB", "QkJC"] template.document ordered
    (by decide +kernel) (by decide +kernel)
  rw [verdict, obstacle] at refused
  exact ⟨ordered, free, evaluation, ⟨policies, built, two⟩, refused⟩

end Injection

end Enforcement
