import Mathlib.Data.List.Basic
import Enforcement.Policy.Injection
import Enforcement.Proofs.Json.Resemblance
import Enforcement.Proofs.Policy.Consultation
import Enforcement.Proofs.Template.Evaluation

/-!
Policies are compiled from the evaluated document and written into the one it was evaluated from.
The groups of the two are at the same places, or nothing is written.
-/

namespace Enforcement

open Enforcement.Json Enforcement.Template Enforcement.Text

def groupPlaces (resources : List Value) : List Nat := resources.findIdxs isContainerGroup

section Places

variable {α β : Type}

theorem findIdxs_cons_shift (holds : α → Bool) (item : α) (rest : List α) :
    (item :: rest).findIdxs holds =
      (if holds item then [0] else []) ++ (rest.findIdxs holds).map (· + 1) := by
  rw [List.findIdxs_cons, List.findIdxs_start (s := 0 + 1)]
  split
  · rfl
  · rfl

theorem getElem?_filter_eq (holds : α → Bool) (items : List α) (index : Nat) :
    (items.filter holds)[index]? = (items.findIdxs holds)[index]?.bind (items[·]?) := by
  induction items generalizing index with
  | nil => rfl
  | cons item rest ih =>
      have later (index : Nat) : ((rest.findIdxs holds).map (· + 1))[index]?.bind
          ((item :: rest)[·]?) = (rest.findIdxs holds)[index]?.bind (rest[·]?) := by
        rw [List.getElem?_map]
        cases (rest.findIdxs holds)[index]? with
        | none => rfl
        | some place => rfl
      rw [findIdxs_cons_shift]
      cases held : holds item with
      | false =>
          rw [List.filter_cons_of_neg (by simp [held]), ih, ← later]
          rfl
      | true =>
          rw [List.filter_cons_of_pos held]
          cases index with
          | zero => rfl
          | succ index =>
              rw [List.getElem?_cons_succ, ih, ← later]
              rfl

theorem length_filter_eq (holds : α → Bool) (items : List α) :
    (items.filter holds).length = (items.findIdxs holds).length := by
  induction items with
  | nil => rfl
  | cons item rest ih =>
      rw [findIdxs_cons_shift]
      cases held : holds item with
      | false => simp [held, ih]
      | true => simp [held, ih]

theorem findIdxs_map (change : α → β) (holds : β → Bool) (items : List α) :
    (items.map change).findIdxs holds = items.findIdxs fun item => holds (change item) := by
  induction items with
  | nil => rfl
  | cons item rest ih => rw [List.map_cons, findIdxs_cons_shift, findIdxs_cons_shift, ih]

theorem findIdxs_of_count {strong weak : α → Bool} {items : List α}
    (weaker : ∀ item, strong item = true → weak item = true)
    (count : (items.filter weak).length = (items.filter strong).length) :
    items.findIdxs weak = items.findIdxs strong := by
  have fewer (items : List α) : (items.filter strong).length ≤ (items.filter weak).length := by
    rw [← List.countP_eq_length_filter, ← List.countP_eq_length_filter]
    exact List.countP_mono_left fun item _ => weaker item
  induction items with
  | nil => rfl
  | cons item rest ih =>
      rw [findIdxs_cons_shift, findIdxs_cons_shift]
      have rest_fewer := fewer rest
      cases firm : strong item with
      | true =>
          have held := weaker item firm
          simp only [List.filter_cons_of_pos held, List.filter_cons_of_pos firm,
            List.length_cons, Nat.add_right_cancel_iff] at count
          rw [held, ih count]
      | false =>
          cases held : weak item with
          | true =>
              simp only [List.filter_cons, held, firm, if_true, Bool.false_eq_true, if_false,
                List.length_cons] at count
              omega
          | false =>
              simp only [List.filter_cons, held, firm, Bool.false_eq_true, if_false] at count
              rw [ih count]

theorem mapM_getElem? {step : α → Except Error β} {items : List α} {results : List β}
    (done : items.mapM step = .ok results) :
    results.length = items.length ∧ ∀ (index : Nat) item, items[index]? = some item →
      ∃ result, results[index]? = some result ∧ step item = .ok result := by
  induction items generalizing results with
  | nil =>
      cases done
      exact ⟨rfl, nofun⟩
  | cons item rest ih =>
      rw [List.mapM_cons] at done
      cases first : step item with
      | error failure =>
          rw [first] at done
          cases done
      | ok result =>
          rw [first] at done
          cases others : rest.mapM step with
          | error failure =>
              rw [others] at done
              cases done
          | ok later =>
              rw [others] at done
              cases done
              obtain ⟨length, each⟩ := ih others
              refine ⟨congrArg (· + 1) length, ?_⟩
              intro index found listed
              cases index with
              | zero =>
                  cases listed
                  exact ⟨result, rfl, first⟩
              | succ index => exact each index found listed

end Places

/-! What a container group is does not depend on numbers or references. -/

def isGroupType (type : String) : Bool :=
  sameLetters type "Microsoft.ContainerInstance/containerGroups" ||
    sameLetters type "Microsoft.ContainerInstance/containerGroupProfiles"

theorem isContainerGroup_eq (resource : Value) :
    isContainerGroup resource = (textProperty? resource "type").any isGroupType := by
  unfold isContainerGroup ResourceKind.ofResource
  cases textProperty? resource "type" with
  | none => decide
  | some type =>
      simp only [Option.getD_some, Option.any_some, isGroupType]
      split
      · simp_all [ResourceKind.isGroup]
      · split
        · simp_all [ResourceKind.isGroup]
        · simp_all [ResourceKind.isGroup]

theorem unnumbered_isNull (value : Value) : value.unnumbered.isNull = value.isNull := by
  cases value <;> rfl

theorem member?_map {change : Value → Value} (nulls : ∀ value, (change value).isNull = value.isNull)
    (name : String) (members : List (String × Value)) :
    member? name (members.map (onValue change)) = (member? name members).map change := by
  rw [member?, member?, memberFor?_map]
  cases memberFor? name members with
  | none => rfl
  | some value => cases null : value.isNull <;> simp [Option.filter, nulls, null]

theorem property?_unnumbered (document : Value) (name : String) :
    property? document.unnumbered name = (property? document name).map Value.unnumbered := by
  cases document with
  | object members =>
      rw [Value.unnumbered_object]
      exact member?_map unnumbered_isNull name members
  | null | bool | number | string | array => rfl

theorem textProperty?_unnumbered (document : Value) (name : String) :
    textProperty? document.unnumbered name = textProperty? document name := by
  rw [textProperty?, textProperty?, property?_unnumbered]
  rcases property? document name with _ | value
  · rfl
  · cases value <;> rfl

theorem listProperty?_unnumbered (document : Value) (name : String) :
    listProperty? document.unnumbered name =
      (listProperty? document name).map (List.map Value.unnumbered) := by
  rw [listProperty?, listProperty?, property?_unnumbered]
  rcases property? document name with _ | value
  · rfl
  · cases value with
    | array items => simp [Value.unnumbered_array, Value.array?]
    | object members => simp [Value.unnumbered_object, Value.array?]
    | null | bool | number | string => rfl

theorem isContainerGroup_unnumbered (resource : Value) :
    isContainerGroup resource.unnumbered = isContainerGroup resource := by
  rw [isContainerGroup_eq, isContainerGroup_eq, textProperty?_unnumbered]

theorem groupPlaces_unnumbered (resources : List Value) :
    groupPlaces (resources.map Value.unnumbered) = groupPlaces resources := by
  rw [groupPlaces, findIdxs_map]
  simp only [isContainerGroup_unnumbered]
  rfl

theorem quiet_of_isGroupType {type : String} (group : isGroupType type = true) :
    '[' ∉ type.toList := by
  have folded {known : String} (same : sameLetters type known = true)
      (quiet : '[' ∉ foldCase known) : '[' ∉ type.toList := by
    rw [← sameLetters_iff.mp same] at quiet
    intro member
    apply quiet
    exact List.mem_map.mpr ⟨'[', member, rfl⟩
  rcases (Bool.or_eq_true _ _).mp group with same | same
  · exact folded same (by decide +kernel)
  · exact folded same (by decide +kernel)

theorem isContainerGroup_walk {pass : Pass} {resource : Value}
    (group : isContainerGroup resource = true) :
    isContainerGroup (pass.walk written? resource) = true := by
  rw [isContainerGroup_eq, Option.any_eq_true] at group ⊢
  obtain ⟨type, found, known⟩ := group
  refine ⟨type, ?_, known⟩
  obtain ⟨value, property, text⟩ := Option.bind_eq_some_iff.mp found
  cases resource with
  | object members =>
      obtain ⟨present, visible⟩ := Option.filter_eq_some_iff.mp property
      cases value with
      | string held =>
          cases text
          have stays : pass.walk written? (.string type) = .string type :=
            Pass.filled_quiet (quiet_of_isGroupType known)
          have walked : memberFor? "type" (members.map (onValue (pass.walk written?))) =
              some (.string type) := by
            rw [memberFor?_map, present, Option.map_some, stays]
          rw [Pass.walk_object]
          change ((memberFor? "type" (members.map (onValue (pass.walk written?)))).filter
            (!·.isNull)).bind Value.string? = some type
          rw [walked]
          rfl
      | null | bool | number | array | object => cases text
  | null | bool | number | string | array => cases property

/-! Policies and the groups they are compiled from. -/

/-- The policies of an evaluated document, each with the group that it is compiled from. -/
structure Compiled (approver : WildcardApprover) (options : BuildOptions)
    (pulled : List FragmentImport) (resources : List Value) (policies : List Policy) : Prop where
  count : policies.length = (groupPlaces resources).length
  group : ∀ (index place : Nat), (groupPlaces resources)[index]? = some place →
    ∃ resource policy, resources[place]? = some resource ∧ policies[index]? = some policy ∧
      (Policy.ofGroup approver options pulled resource).outcome.1 = .ok policy

theorem compiled_of_build {approver : WildcardApprover} {options : BuildOptions}
    {pulled : List FragmentImport} {evaluated : Evaluated} {policies : List Policy}
    (built : (Policy.ofTemplate approver options pulled evaluated).outcome.1 = .ok policies) :
    ∃ resources, evaluated.resources? = some resources ∧
      Compiled approver options pulled resources policies := by
  unfold Policy.ofTemplate at built
  cases listed : evaluated.resources?.filter (!·.isEmpty) with
  | none =>
      rw [listed] at built
      cases built
  | some resources =>
      rw [listed] at built
      refine ⟨resources, (Option.filter_eq_some_iff.mp listed).1, ?_⟩
      have each := Policy.appends_ofGroup approver options pulled
      have groups : ((resources.filter isContainerGroup).mapM
          (Policy.ofGroup approver options pulled)).outcome.1 = .ok policies := by
        dsimp only at built
        split at built
        · rename_i svn _
          cases parsed : Svn.parse svn with
          | error failure =>
              rw [parsed] at built
              cases built
          | ok value =>
              rw [parsed] at built
              exact built
        · exact built
      rw [Consulting.outcome_mapM each] at groups
      obtain ⟨count, compiled⟩ := mapM_getElem? groups
      refine ⟨by rw [count, length_filter_eq]; rfl, ?_⟩
      intro index place stands
      have inside : place < resources.length := by
        have member := List.mem_of_getElem? stands
        exact (List.mem_findIdxs_iff_exists_getElem_pos.mp member).1
      have listed : (resources.filter isContainerGroup)[index]? = some resources[place] := by
        rw [getElem?_filter_eq]
        change (groupPlaces resources)[index]?.bind (resources[·]?) = _
        rw [stands, Option.bind_some, List.getElem?_eq_getElem inside]
      obtain ⟨policy, held, compiled⟩ := compiled index _ listed
      exact ⟨resources[place], policy, List.getElem?_eq_getElem inside, held, compiled⟩

end Enforcement

namespace Enforcement.Injection

open Enforcement.Json Enforcement.Template

/-- What an injection does to the resources: each group takes the policy of its own index. -/
structure Handled (approver : OverwriteApprover) (policies : List String) (resources : List Value)
    (outcomes : List Outcome) (after : List Value) : Prop where
  count : outcomes.length = (groupPlaces resources).length
  group : ∀ (index place : Nat), (groupPlaces resources)[index]? = some place →
    ∃ resource policy outcome changed, resources[place]? = some resource ∧
      policies[index]? = some policy ∧
      (injectGroup approver policy resource).outcome.1 = .ok (outcome, changed) ∧
      outcomes[index]? = some outcome ∧ after[place]? = some changed
  other : ∀ place, place ∉ groupPlaces resources → after[place]? = resources[place]?

theorem groupPlaces_cons (resource : Value) (rest : List Value) :
    groupPlaces (resource :: rest) =
      (if isContainerGroup resource then [0] else []) ++ (groupPlaces rest).map (· + 1) :=
  findIdxs_cons_shift isContainerGroup resource rest

theorem succ_mem_groupPlaces_cons {resource : Value} {rest : List Value} {place : Nat} :
    place + 1 ∈ groupPlaces (resource :: rest) ↔ place ∈ groupPlaces rest := by
  rw [groupPlaces_cons]
  split
  · simp
  · simp

theorem Handled.skip {approver : OverwriteApprover} {policies : List String} {resource : Value}
    {rest after : List Value} {outcomes : List Outcome}
    (single : isContainerGroup resource = false)
    (handled : Handled approver policies rest outcomes after) :
    Handled approver policies (resource :: rest) outcomes (resource :: after) := by
  have places : groupPlaces (resource :: rest) = (groupPlaces rest).map (· + 1) := by
    rw [groupPlaces_cons, single]
    rfl
  refine ⟨by rw [handled.count, places, List.length_map], ?_, ?_⟩
  · intro index place stands
    rw [places, List.getElem?_map, Option.map_eq_some_iff] at stands
    obtain ⟨former, stands, rfl⟩ := stands
    exact handled.group index former stands
  · intro place outside
    cases place with
    | zero => rfl
    | succ place =>
        refine handled.other place fun inside => outside ?_
        exact succ_mem_groupPlaces_cons.mpr inside

theorem Handled.take {approver : OverwriteApprover} {policy : String} {policies : List String}
    {resource changed : Value} {rest after : List Value} {outcome : Outcome}
    {outcomes : List Outcome} (group : isContainerGroup resource = true)
    (done : (injectGroup approver policy resource).outcome.1 = .ok (outcome, changed))
    (handled : Handled approver policies rest outcomes after) :
    Handled approver (policy :: policies) (resource :: rest) (outcome :: outcomes)
      (changed :: after) := by
  have places : groupPlaces (resource :: rest) = 0 :: (groupPlaces rest).map (· + 1) := by
    rw [groupPlaces_cons, group]
    rfl
  refine ⟨?_, ?_, ?_⟩
  · rw [places, List.length_cons, handled.count, List.length_cons, List.length_map]
  · intro index place stands
    rw [places] at stands
    cases index with
    | zero =>
        cases stands
        exact ⟨resource, policy, outcome, changed, rfl, rfl, done, rfl, rfl⟩
    | succ index =>
        rw [List.getElem?_cons_succ, List.getElem?_map, Option.map_eq_some_iff] at stands
        obtain ⟨former, stands, rfl⟩ := stands
        exact handled.group index former stands
  · intro place outside
    cases place with
    | zero => exact absurd (by simp [places]) outside
    | succ place =>
        refine handled.other place fun inside => outside ?_
        exact succ_mem_groupPlaces_cons.mpr inside

theorem handled_of_success (approver : OverwriteApprover) {policies : List String}
    {resources : List Value}
    (count : (resources.filter isContainerGroup).length = policies.length)
    (success : (injectResources approver policies resources).failure = none) :
    Handled approver policies resources (injectResources approver policies resources).outcomes
      (injectResources approver policies resources).resources := by
  induction resources generalizing policies with
  | nil => exact ⟨rfl, nofun, fun _ _ => rfl⟩
  | cons resource rest ih =>
      cases group : isContainerGroup resource with
      | false =>
          rw [List.filter_cons_of_neg (by simp [group])] at count
          simp only [injectResources, group, Bool.false_eq_true, if_false] at success ⊢
          exact (ih count success).skip group
      | true =>
          rw [List.filter_cons_of_pos group] at count
          cases policies with
          | nil => cases count
          | cons policy policies =>
              simp only [injectResources, group, if_true] at success ⊢
              rcases work : (injectGroup approver policy resource).outcome with
                ⟨failure | ⟨outcome, changed⟩, asked⟩
              · rw [work] at success
                cases success
              · rw [work] at success
                simp only at success ⊢
                exact (ih (by simpa using count) success).take group (by rw [work])

theorem listed_object {document : Value} {name : String} {items : List Value}
    (listed : listProperty? document name = some items) :
    ∃ members, document = .object members ∧ memberFor? name members = some (.array items) := by
  obtain ⟨value, held, array⟩ := Option.bind_eq_some_iff.mp listed
  obtain ⟨members, object, found⟩ := Option.bind_eq_some_iff.mp held
  cases document with
  | null | bool | number | string | array => cases object
  | object inner =>
      cases object
      cases value with
      | null | bool | number | string | object => cases array
      | array items =>
          cases array
          exact ⟨members, rfl, (Option.filter_eq_some_iff.mp found).1⟩

theorem resources_eq (document : Value) :
    (memberAt? (spelling (document.members?.getD []) "resources")
      (document.members?.getD [])).bind Value.array? = listProperty? document "resources" := by
  have lists (found : Option Value) :
      found.bind Value.array? = (found.filter (!·.isNull)).bind Value.array? := by
    rcases found with _ | value
    · rfl
    · cases value <;> rfl
  rw [memberAt?_spelling, lists]
  cases document with
  | object members => rfl
  | null | bool | number | string | array => rfl

end Enforcement.Injection

namespace Enforcement.Template

open Enforcement.Json Enforcement.Injection

variable {template : Template} {supplied : Supplied} {evaluated : Evaluated}

def walkedPart (template : Template) (supplied : Supplied) (part : Value) : Value :=
  template.variablesPass.walk written? ((template.parametersPass supplied).walk written? part)

theorem walked_eq (template : Template) (supplied : Supplied) :
    template.walked supplied written? =
      .object (template.members.map (onValue (template.walkedPart supplied))) := by
  unfold walked document
  rw [Pass.walk_object, Pass.walk_object, List.map_map]
  rfl

theorem walkedPart_array (template : Template) (supplied : Supplied) (items : List Value) :
    template.walkedPart supplied (.array items) =
      .array (items.map (template.walkedPart supplied)) := by
  unfold walkedPart
  rw [Pass.walk_array, Pass.walk_array, List.map_map]
  rfl

theorem unnumbered_of_evaluate (tame : template.Tame supplied)
    (evaluation : template.evaluate supplied = .ok evaluated) :
    evaluated.document.unnumbered = (template.walked supplied written?).unnumbered := by
  obtain ⟨declared, read⟩ := evaluate_ok_iff.mp evaluation
  have ordered : (template.walked supplied written?).Ordered :=
    walked_every Value.aboutKeys_keysInOrder tame.ordered tame.suppliedOrdered written?
  rw [substitutedText_eq tame declared] at read
  exact unnumbered_of_readText_compact ordered read

theorem resources_of_evaluate (tame : template.Tame supplied)
    (evaluation : template.evaluate supplied = .ok evaluated) {raw : List Value}
    (listed : listProperty? template.document "resources" = some raw) :
    ∃ final, evaluated.resources? = some final ∧
      groupPlaces final = groupPlaces (raw.map (template.walkedPart supplied)) := by
  obtain ⟨members, object, former⟩ := listed_object listed
  cases object
  have walked : listProperty? (template.walked supplied written?) "resources" =
      some (raw.map (template.walkedPart supplied)) := by
    rw [walked_eq, listProperty?]
    change ((memberFor? "resources" (template.members.map
      (onValue (template.walkedPart supplied)))).filter (!·.isNull)).bind Value.array? = _
    rw [memberFor?_map, former, Option.map_some, walkedPart_array]
    rfl
  have same : (listProperty? evaluated.document "resources").map (List.map Value.unnumbered) =
      some ((raw.map (template.walkedPart supplied)).map Value.unnumbered) := by
    rw [← listProperty?_unnumbered, unnumbered_of_evaluate tame evaluation,
      listProperty?_unnumbered, walked, Option.map_some]
  obtain ⟨final, found, alike⟩ := Option.map_eq_some_iff.mp same
  exact ⟨final, found, by rw [← groupPlaces_unnumbered, alike, groupPlaces_unnumbered]⟩

theorem groupPlaces_walked {raw : List Value}
    (count : (groupPlaces (raw.map (template.walkedPart supplied))).length =
      (groupPlaces raw).length) :
    groupPlaces (raw.map (template.walkedPart supplied)) = groupPlaces raw := by
  unfold groupPlaces at count ⊢
  rw [findIdxs_map] at count ⊢
  rw [← length_filter_eq, ← length_filter_eq] at count
  exact findIdxs_of_count
    (fun resource group => isContainerGroup_walk (isContainerGroup_walk group)) count

end Enforcement.Template

namespace Enforcement.Injection

open Enforcement.Json Enforcement.Template

def Progress.result (progress : Progress) : Except Error (List Outcome) :=
  match progress.failure with
  | some failure => .error failure
  | none => .ok progress.outcomes

theorem inject_listed (approver : OverwriteApprover) {policies : List String}
    {members : List (String × Value)} {raw : List Value}
    (listed : memberFor? "resources" members = some (.array raw))
    (count : (raw.filter isContainerGroup).length = policies.length) :
    inject approver policies (.object members) =
      ⟨(injectResources approver policies raw).result,
        .object (insertMember (spelling members "resources")
          (.array (injectResources approver policies raw).resources) members),
        (injectResources approver policies raw).asked⟩ := by
  unfold inject
  dsimp only [Value.members?, Option.getD_some]
  rw [memberAt?_spelling, listed]
  exact if_neg (not_not_intro count)

theorem inject_refused {overwrite : OverwriteApprover} {encoded : List String} {document : Value}
    (differs : ∀ raw, listProperty? document "resources" = some raw →
      (groupPlaces raw).length ≠ encoded.length) :
    ∃ failure, (inject overwrite encoded document).result = .error failure ∧
      (inject overwrite encoded document).document = document := by
  unfold inject
  dsimp only
  rw [resources_eq]
  cases listed : listProperty? document "resources" with
  | none => exact ⟨_, rfl, rfl⟩
  | some raw =>
      have count := differs raw listed
      unfold groupPlaces at count
      rw [← length_filter_eq] at count
      dsimp only
      rw [if_pos count]
      exact ⟨_, rfl, rfl⟩

theorem counted_of_success {overwrite : OverwriteApprover} {encoded : List String}
    {document : Value} {outcomes : List Outcome}
    (success : (inject overwrite encoded document).result = .ok outcomes) :
    ∃ raw, listProperty? document "resources" = some raw ∧
      (groupPlaces raw).length = encoded.length := by
  apply Classical.byContradiction
  intro none
  obtain ⟨failure, refused, -⟩ := @inject_refused overwrite encoded document
    fun raw listed count => none ⟨raw, listed, count⟩
  rw [refused] at success
  cases success

theorem resources_after {template : Template} {overwrite : OverwriteApprover}
    {encoded : List String} {raw : List Value} (ordered : template.document.Ordered)
    (listed : listProperty? template.document "resources" = some raw)
    (count : (groupPlaces raw).length = encoded.length) :
    listProperty? (inject overwrite encoded template.document).document "resources" =
      some (injectResources overwrite encoded raw).resources := by
  obtain ⟨members, object, held⟩ := listed_object listed
  cases object
  have number : (raw.filter isContainerGroup).length = encoded.length := by
    rw [length_filter_eq]
    exact count
  have written := memberFor?_insertMember ordered.self held
    (.array (injectResources overwrite encoded raw).resources)
  rw [Template.document, inject_listed overwrite held number, ← resources_eq, memberAt?_spelling]
  exact congrArg (·.bind Value.array?) written

section Places

variable {template : Template} {supplied : Supplied} {evaluated : Evaluated}
  {approver : WildcardApprover} {options : BuildOptions} {pulled : List FragmentImport}
  {policies : List Policy} {encoded : List String} {raw final : List Value}

theorem groupPlaces_same (tame : template.Tame supplied)
    (evaluation : template.evaluate supplied = .ok evaluated)
    (compiled : Compiled approver options pulled final policies)
    (evaluatedList : evaluated.resources? = some final) (one : encoded.length = policies.length)
    (listed : listProperty? template.document "resources" = some raw)
    (count : (groupPlaces raw).length = encoded.length) :
    groupPlaces raw = groupPlaces final := by
  obtain ⟨walked, found, places⟩ := resources_of_evaluate tame evaluation listed
  rw [evaluatedList] at found
  cases found
  rw [places]
  refine (groupPlaces_walked ?_).symm
  rw [← places, ← compiled.count, ← one, count]

theorem handled_of_inject {overwrite : OverwriteApprover} {document : Value}
    {outcomes : List Outcome}
    (success : (inject overwrite encoded document).result = .ok outcomes)
    (listed : listProperty? document "resources" = some raw)
    (count : (groupPlaces raw).length = encoded.length) :
    Handled overwrite encoded raw outcomes (injectResources overwrite encoded raw).resources := by
  obtain ⟨members, rfl, held⟩ := listed_object listed
  have number : (raw.filter isContainerGroup).length = encoded.length := by
    rw [length_filter_eq]
    exact count
  rw [inject_listed overwrite held number] at success
  dsimp only [Progress.result] at success
  split at success
  · cases success
  · rename_i failed
    cases success
    exact handled_of_success overwrite number failed

end Places

/--
The policy compiled from a resource goes into the resource at the same place of the template; when
the places of the groups differ, nothing is written.
-/
theorem inject_places {template : Template} {supplied : Supplied} {evaluated : Evaluated}
    {approver : WildcardApprover} {options : BuildOptions} {pulled : List FragmentImport}
    {policies : List Policy} {encoded : List String} (tame : template.Tame supplied)
    (evaluation : template.evaluate supplied = .ok evaluated)
    (built : (Policy.ofTemplate approver options pulled evaluated).outcome.1 = .ok policies)
    (one : encoded.length = policies.length) (overwrite : OverwriteApprover) :
    (∀ outcomes, (inject overwrite encoded template.document).result = .ok outcomes →
      ∃ raw final after, listProperty? template.document "resources" = some raw ∧
        evaluated.resources? = some final ∧
        listProperty? (inject overwrite encoded template.document).document "resources" =
          some after ∧
        groupPlaces raw = groupPlaces final ∧
        Compiled approver options pulled final policies ∧
        Handled overwrite encoded raw outcomes after) ∧
      ((listProperty? template.document "resources").map groupPlaces ≠
          evaluated.resources?.map groupPlaces →
        ∃ failure, (inject overwrite encoded template.document).result = .error failure ∧
          (inject overwrite encoded template.document).document = template.document) := by
  obtain ⟨final, evaluatedList, compiled⟩ := compiled_of_build built
  constructor
  · intro outcomes success
    obtain ⟨raw, listed, count⟩ := counted_of_success success
    have same := groupPlaces_same tame evaluation compiled evaluatedList one listed count
    exact ⟨raw, final, _, listed, evaluatedList, resources_after tame.ordered listed count, same,
      compiled, handled_of_inject success listed count⟩
  · intro differs
    apply inject_refused
    intro raw listed count
    apply differs
    have same := groupPlaces_same tame evaluation compiled evaluatedList one listed count
    rw [listed, evaluatedList, Option.map_some, Option.map_some, same]

def shop : Template :=
  ⟨[("parameters", .object [("image", .object [("defaultValue", .string "registry/shop:1")])]),
    ("resources", .array
      [.object [],
        .object [("name", .string "shop"),
          ("properties", .object [("containers", .array [.object [("properties", .object
            [("image", .string "[parameters('image')]")])]])]),
          ("type", .string "Microsoft.ContainerInstance/containerGroups")]])]⟩

theorem inject_shop : ∃ policies raw final after,
    listProperty? shop.document "resources" = some raw ∧ groupPlaces raw = [1] ∧
      groupPlaces final = [1] ∧
      Compiled (fun _ => false) ⟨false, false, false, none, false⟩ [] final policies ∧
      Handled (fun _ => false) ["cG9saWN5"] raw [.written "shop"] after := by
  have tame : shop.Tame [] :=
    ⟨by decide +kernel, by decide +kernel, by decide +kernel, by decide +kernel,
      by decide +kernel, by decide +kernel⟩
  have evaluation : shop.evaluate [] = .ok ⟨shop.walked [] written?⟩ :=
    evaluate_of_text (by decide +kernel) (by decide +kernel) (by decide +kernel)
      (by decide +kernel) (by decide +kernel)
  obtain ⟨policies, built, one⟩ := exists_ok (Policy.ofTemplate (fun _ => false)
    ⟨false, false, false, none, false⟩ [] ⟨shop.walked [] written?⟩).outcome.1 List.length 1
    (by decide +kernel)
  obtain ⟨outcomes, success, rfl⟩ := exists_ok
    (inject (fun _ => false) ["cG9saWN5"] shop.document).result id [.written "shop"]
    (by decide +kernel)
  have single : ["cG9saWN5"].length = policies.length := one.symm
  obtain ⟨raw, final, after, listed, -, -, same, compiled, handled⟩ :=
    (inject_places tame evaluation built single fun _ => false).1 _ success
  have places : (listProperty? shop.document "resources").map groupPlaces = some [1] := by
    decide +kernel
  rw [listed] at places
  have place : groupPlaces raw = [1] := by simpa using places
  exact ⟨policies, raw, final, after, listed, place, same ▸ place, compiled, handled⟩

end Enforcement.Injection
