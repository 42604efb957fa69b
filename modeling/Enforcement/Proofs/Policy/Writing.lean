import Enforcement.Proofs.Policy.Placement

/-!
What an injection writes: the policies of the groups, each where its group is searched for it, and
nothing else. When it fails, the groups before the failing one are done and the others as they were.
-/

namespace Enforcement.Injection

open Enforcement.Json Enforcement.Template

def policyOf? (resource : Value) : Option Value :=
  ((property? resource "properties").bind (property? · confidentialKey)).bind
    (property? · policyKey)

def isPolicy : Option Value → Bool
  | some (.string held) => !held.isEmpty
  | _ => false

def hasPolicy (resource : Value) : Bool := isPolicy (policyOf? resource)

def refuses (approver : OverwriteApprover) (resource : Value) : Bool :=
  hasPolicy resource && !approver (groupName resource)

def questions (resources : List Value) : List String :=
  ((resources.filter isContainerGroup).filter hasPolicy).map groupName

/-- A policy written into a group. An object for it is made when there is none. -/
inductive Wrote (policy : String) : Value → Value → Prop
  | intro {members properties confidential : List (String × Value)}
      {changed changedProperties changedConfidential : List (String × Value)}
      (propertiesHeld : memberFor? "properties" members = some (.object properties))
      (confidentialHeld : memberFor? confidentialKey properties = some (.object confidential) ∨
        memberFor? confidentialKey properties = none ∧ confidential = [])
      (policyPut : Puts policyKey (.string policy) confidential changedConfidential)
      (confidentialPut : Puts confidentialKey (.object changedConfidential) properties
        changedProperties)
      (propertiesPut : Puts "properties" (.object changedProperties) members changed) :
      Wrote policy (.object members) (.object changed)

/-- What becomes of a group whose policy is injected. -/
inductive Injects (approver : OverwriteApprover) (policy : String) (resource : Value) :
    Outcome → Value → Prop
  | kept (refused : refuses approver resource = true) :
      Injects approver policy resource (.kept (groupName resource)) resource
  | written {changed : Value} (free : refuses approver resource = false)
      (wrote : Wrote policy resource changed)
      (found : policyOf? changed = some (.string policy)) :
      Injects approver policy resource (.written (groupName resource)) changed

theorem property?_object {members : List (String × Value)} {name : String} {value : Value}
    (found : memberFor? name members = some value) (present : value.isNull = false) :
    property? (.object members) name = some value := by
  change (memberFor? name members).filter (!·.isNull) = _
  rw [found, Option.filter_some, present]
  rfl

theorem property?_bind {α : Type} {next : Value → Option α}
    (scalar : ∀ value, value.members? = none → next value = none) (document : Value)
    (name : String) :
    (property? document name).bind next =
      ((memberFor? name (document.members?.getD [])).bind Value.members?).bind
        (next <| .object ·) := by
  cases document with
  | object members =>
      change ((memberFor? name members).filter (!·.isNull)).bind next =
        ((memberFor? name members).bind Value.members?).bind _
      cases memberFor? name members with
      | none => rfl
      | some held =>
          cases held with
          | null => rfl
          | object inner => rfl
          | bool | number | string | array => exact scalar _ rfl
  | null | bool | number | string | array => rfl

theorem Wrote.policyOf?_eq {policy : String} {before after : Value}
    (wrote : Wrote policy before after) : policyOf? after = some (.string policy) := by
  cases wrote with
  | intro propertiesHeld confidentialHeld policyPut confidentialPut propertiesPut =>
      rw [policyOf?, property?_object propertiesPut.found rfl, Option.bind_some,
        property?_object confidentialPut.found rfl, Option.bind_some,
        property?_object policyPut.found rfl]

def confidential? (properties : List (String × Value)) : Option (List (String × Value)) :=
  ((memberFor? confidentialKey properties).getD (.object [])).members?

def obstacle? (resource : Value) : Option Error :=
  match (memberFor? "properties" (resource.members?.getD [])).bind Value.members? with
  | none => some (.input (.groupPropertiesNotObject (groupName resource)))
  | some properties =>
    match confidential? properties with
    | none => some (.input (.confidentialNotObject (groupName resource)))
    | some _ => none

def withConfidential (members properties confidential : List (String × Value)) : Value :=
  .object (insertMember (spelling members "properties")
    (.object (insertMember (spelling properties confidentialKey) (.object confidential) properties))
    members)

theorem injectGroup_eq (approver : OverwriteApprover) (policy : String) (resource : Value) :
    injectGroup approver policy resource =
      match (memberFor? "properties" (resource.members?.getD [])).bind Value.members? with
      | none => throw (.input (.groupPropertiesNotObject (groupName resource)))
      | some properties =>
        match confidential? properties with
        | none => throw (.input (.confidentialNotObject (groupName resource)))
        | some confidential =>
          let write : Consulting String (Outcome × Value) :=
            return (.written (groupName resource), withConfidential (resource.members?.getD [])
              properties (insertMember (spelling confidential policyKey) (.string policy)
                confidential))
          if isPolicy (memberFor? policyKey confidential) then do
            if ← Consulting.ask approver (groupName resource) then write
            else return (.kept (groupName resource), withConfidential (resource.members?.getD [])
              properties confidential)
          else write := by
  unfold injectGroup
  simp only [memberAt?_spelling]
  rfl

theorem policyOf?_eq (resource : Value) :
    policyOf? resource =
      (((memberFor? "properties" (resource.members?.getD [])).bind Value.members?).bind
        confidential?).bind (member? policyKey) := by
  have scalar (name : String) (value : Value) (single : value.members? = none) :
      property? value name = none := by rw [property?, single]; rfl
  have within (properties : List (String × Value)) :
      (property? (.object properties) confidentialKey).bind (property? · policyKey) =
        (confidential? properties).bind (member? policyKey) := by
    rw [property?_bind (scalar policyKey)]
    change ((memberFor? confidentialKey properties).bind Value.members?).bind _ = _
    rw [confidential?]
    cases memberFor? confidentialKey properties with
    | none => rfl
    | some held => rfl
  have first (value : Value) (single : value.members? = none) :
      (property? value confidentialKey).bind (property? · policyKey) = none := by
    rw [scalar _ value single]
    rfl
  rw [policyOf?, Option.bind_assoc, property?_bind first, Option.bind_assoc _ confidential?]
  exact congrArg _ (funext within)

theorem isPolicy_filter (held : Option Value) :
    isPolicy (held.filter (!·.isNull)) = isPolicy held := by
  rcases held with _ | value
  · rfl
  · cases value <;> rfl

theorem hasPolicy_eq {resource : Value} {properties confidential : List (String × Value)}
    (propertiesHeld : (memberFor? "properties" (resource.members?.getD [])).bind Value.members? =
      some properties) (found : confidential? properties = some confidential) :
    hasPolicy resource = isPolicy (memberFor? policyKey confidential) := by
  rw [hasPolicy, policyOf?_eq, propertiesHeld, Option.bind_some, found]
  exact isPolicy_filter _

section Step

variable {approver : OverwriteApprover} {policy : String}
  {members properties confidential : List (String × Value)}

theorem ordered_memberFor? {name : String} {value : Value}
    (ordered : (Value.object members).Ordered) (found : memberFor? name members = some value) :
    value.Ordered := by
  obtain ⟨key, held, -⟩ := memberFor?_mem found
  exact (Value.every_object.mp ordered).2 _ held

theorem confidential?_iff :
    confidential? properties = some confidential ↔
      memberFor? confidentialKey properties = some (.object confidential) ∨
        memberFor? confidentialKey properties = none ∧ confidential = [] := by
  rw [confidential?]
  cases memberFor? confidentialKey properties with
  | none => simp [Value.members?, eq_comm]
  | some held => cases held <;> simp [Value.members?]

theorem withConfidential_same (ordered : (Value.object members).Ordered)
    (propertiesHeld : memberFor? "properties" members = some (.object properties))
    (confidentialHeld : memberFor? confidentialKey properties = some (.object confidential)) :
    withConfidential members properties confidential = .object members := by
  have within := ordered_memberFor? ordered propertiesHeld
  rw [← memberAt?_spelling] at propertiesHeld confidentialHeld
  rw [withConfidential, insertMember_same within.self confidentialHeld,
    insertMember_same ordered.self propertiesHeld]

theorem wrote_withConfidential (ordered : (Value.object members).Ordered)
    (propertiesHeld : memberFor? "properties" members = some (.object properties))
    (found : confidential? properties = some confidential) :
    Wrote policy (.object members) (withConfidential members properties
      (insertMember (spelling confidential policyKey) (.string policy) confidential)) := by
  have within := ordered_memberFor? ordered propertiesHeld
  have innermost : confidential.Pairwise (·.1 < ·.1) := by
    rcases confidential?_iff.mp found with held | ⟨-, rfl⟩
    · exact (ordered_memberFor? within held).self
    · exact List.Pairwise.nil
  exact .intro propertiesHeld (confidential?_iff.mp found) (puts_insertMember _ _ innermost)
    (puts_insertMember _ _ within.self) (puts_insertMember _ _ ordered.self)

theorem outcome_ask {α : Type} (approver : OverwriteApprover) (group : String)
    (yes no : Except Error α) :
    Consulting.outcome (do if ← Consulting.ask approver group then liftM yes else liftM no) =
      (if approver group then yes else no, [group]) := by
  change
    ((if approver group then liftM yes else liftM no : Consulting String α).run.run [group]) = _
  split
  · cases yes <;> rfl
  · cases no <;> rfl

theorem injectGroup_found (approver : OverwriteApprover) (policy : String)
    (ordered : (Value.object members).Ordered)
    (propertiesHeld : memberFor? "properties" members = some (.object properties))
    (found : confidential? properties = some confidential) :
    ∃ outcome changed, (injectGroup approver policy (.object members)).outcome =
        (.ok (outcome, changed),
          if hasPolicy (.object members) then [groupName (.object members)] else []) ∧
      Injects approver policy (.object members) outcome changed := by
  have object : (memberFor? "properties" ((Value.object members).members?.getD [])).bind
      Value.members? = some properties := congrArg (·.bind Value.members?) propertiesHeld
  have wrote := @wrote_withConfidential policy _ _ _ ordered propertiesHeld found
  have here := hasPolicy_eq object found
  rw [injectGroup_eq, object]
  dsimp only
  rw [found]
  dsimp only
  rw [← here]
  cases present : hasPolicy (.object members) with
  | false =>
      have free : refuses approver (.object members) = false := by rw [refuses, present]; rfl
      exact ⟨_, _, rfl, .written free wrote wrote.policyOf?_eq⟩
  | true =>
      have asked := outcome_ask approver (groupName (.object members))
        (.ok (Outcome.written (groupName (.object members)), withConfidential members properties
          (insertMember (spelling confidential policyKey) (.string policy) confidential)))
        (.ok (.kept (groupName (.object members)),
          withConfidential members properties confidential))
      cases answer : approver (groupName (.object members)) with
      | true =>
          have free : refuses approver (.object members) = false := by
            rw [refuses, present, answer]
            rfl
          rw [answer] at asked
          exact ⟨_, _, asked, .written free wrote wrote.policyOf?_eq⟩
      | false =>
          have refused : refuses approver (.object members) = true := by
            rw [refuses, present, answer]
            rfl
          have there : memberFor? confidentialKey properties = some (.object confidential) := by
            refine (confidential?_iff.mp found).resolve_right ?_
            rintro ⟨-, rfl⟩
            rw [present] at here
            cases here
          have kept : Injects approver policy (.object members)
              (.kept (groupName (.object members)))
              (withConfidential members properties confidential) := by
            rw [withConfidential_same ordered propertiesHeld there]
            exact .kept refused
          rw [answer] at asked
          exact ⟨_, _, asked, kept⟩

theorem injectGroup_outcome (approver : OverwriteApprover) (policy : String) {resource : Value}
    (ordered : resource.Ordered) :
    (∃ failure, obstacle? resource = some failure ∧
      (injectGroup approver policy resource).outcome = (.error failure, [])) ∨
    ∃ outcome changed, (injectGroup approver policy resource).outcome =
        (.ok (outcome, changed), if hasPolicy resource then [groupName resource] else []) ∧
      Injects approver policy resource outcome changed := by
  cases propertiesHeld : (memberFor? "properties" (resource.members?.getD [])).bind
      Value.members? with
  | none =>
      left
      rw [injectGroup_eq, obstacle?, propertiesHeld]
      exact ⟨_, rfl, rfl⟩
  | some properties =>
      cases found : confidential? properties with
      | none =>
          left
          rw [injectGroup_eq, obstacle?, propertiesHeld]
          dsimp only
          rw [found]
          exact ⟨_, rfl, rfl⟩
      | some confidential =>
          right
          cases resource with
          | null | bool | number | string | array => cases propertiesHeld
          | object members =>
              obtain ⟨value, held, object⟩ := Option.bind_eq_some_iff.mp propertiesHeld
              cases value with
              | null | bool | number | string | array => cases object
              | object inner =>
                  cases object
                  exact injectGroup_found approver policy ordered held found

end Step

/-- The resources when each group has taken the next policy, with what became of the groups. -/
inductive Run (approver : OverwriteApprover) :
    List String → List Value → List Outcome → List Value → Prop
  | done : Run approver [] [] [] []
  | other {policies : List String} {resource : Value} {rest after : List Value}
      {outcomes : List Outcome} (single : isContainerGroup resource = false)
      (run : Run approver policies rest outcomes after) :
      Run approver policies (resource :: rest) outcomes (resource :: after)
  | group {policy : String} {policies : List String} {resource changed : Value}
      {rest after : List Value} {outcome : Outcome} {outcomes : List Outcome}
      (group : isContainerGroup resource = true)
      (first : Injects approver policy resource outcome changed)
      (run : Run approver policies rest outcomes after) :
      Run approver (policy :: policies) (resource :: rest) (outcome :: outcomes) (changed :: after)

theorem questions_other {resource : Value} (single : isContainerGroup resource = false)
    (rest : List Value) : questions (resource :: rest) = questions rest := by
  rw [questions, List.filter_cons_of_neg (by simp [single])]
  rfl

theorem questions_group {resource : Value} (group : isContainerGroup resource = true)
    (rest : List Value) :
    questions (resource :: rest) =
      (if hasPolicy resource then [groupName resource] else []) ++ questions rest := by
  rw [questions, List.filter_cons_of_pos group, List.filter_cons]
  split
  · rfl
  · rfl

theorem injectResources_other (approver : OverwriteApprover) (policies : List String)
    {resource : Value} (single : isContainerGroup resource = false) (rest : List Value) :
    injectResources approver policies (resource :: rest) =
      { injectResources approver policies rest with
        resources := resource :: (injectResources approver policies rest).resources } := by
  cases policies <;> simp only [injectResources, single, Bool.false_eq_true, if_false]

theorem injectResources_group {approver : OverwriteApprover} {policy : String}
    {resource changed : Value} {outcome : Outcome} {asked : List String}
    (group : isContainerGroup resource = true)
    (work : (injectGroup approver policy resource).outcome = (.ok (outcome, changed), asked))
    (policies : List String) (rest : List Value) :
    injectResources approver (policy :: policies) (resource :: rest) =
      ⟨outcome :: (injectResources approver policies rest).outcomes,
        changed :: (injectResources approver policies rest).resources,
        (injectResources approver policies rest).failure,
        asked ++ (injectResources approver policies rest).asked⟩ := by
  simp only [injectResources, group, if_true, work]

inductive Stops (approver : OverwriteApprover) : List String → List Value → Progress → Prop
  | intro {taken rest : List String} {policy : String} {earlier later after : List Value}
      {resource : Value} {outcomes : List Outcome} {failure : Error}
      (alone : injectResources approver taken earlier = ⟨outcomes, after, none, questions earlier⟩)
      (run : Run approver taken earlier outcomes after) (group : isContainerGroup resource = true)
      (fails : (injectGroup approver policy resource).outcome = (.error failure, [])) :
      Stops approver (taken ++ policy :: rest) (earlier ++ resource :: later)
        ⟨outcomes, after ++ resource :: later, some failure, questions earlier⟩

theorem Stops.other {approver : OverwriteApprover} {policies : List String} {rest : List Value}
    {progress : Progress} (stops : Stops approver policies rest progress) {resource : Value}
    (single : isContainerGroup resource = false) :
    Stops approver policies (resource :: rest)
      { progress with resources := resource :: progress.resources } := by
  cases stops with
  | @intro taken left policy earlier later after _ outcomes _ alone run group fails =>
      have first : injectResources approver taken (resource :: earlier) =
          ⟨outcomes, resource :: after, none, questions (resource :: earlier)⟩ := by
        rw [injectResources_other approver taken single, alone, questions_other single]
      have stops := @Stops.intro _ _ left _ _ later _ _ _ _ first (.other single run) group fails
      rwa [questions_other single] at stops

theorem Stops.group {approver : OverwriteApprover} {policies : List String} {rest : List Value}
    {progress : Progress} (stops : Stops approver policies rest progress) {policy : String}
    {resource changed : Value} {outcome : Outcome} (group : isContainerGroup resource = true)
    (work : (injectGroup approver policy resource).outcome =
      (.ok (outcome, changed), if hasPolicy resource then [groupName resource] else []))
    (injects : Injects approver policy resource outcome changed) :
    Stops approver (policy :: policies) (resource :: rest)
      ⟨outcome :: progress.outcomes, changed :: progress.resources, progress.failure,
        (if hasPolicy resource then [groupName resource] else []) ++ progress.asked⟩ := by
  cases stops with
  | @intro taken left next earlier later after _ outcomes _ alone run failing fails =>
      have first : injectResources approver (policy :: taken) (resource :: earlier) =
          ⟨outcome :: outcomes, changed :: after, none, questions (resource :: earlier)⟩ := by
        rw [injectResources_group group work, alone, questions_group group]
      have stops := @Stops.intro _ _ left _ _ later _ _ _ _ first (.group group injects run)
        failing fails
      rwa [questions_group group] at stops

theorem injectResources_outcome (approver : OverwriteApprover) {policies : List String}
    {resources : List Value} (ordered : ∀ resource ∈ resources, resource.Ordered)
    (count : (resources.filter isContainerGroup).length = policies.length) :
    (∃ outcomes after, Run approver policies resources outcomes after ∧
      injectResources approver policies resources =
        ⟨outcomes, after, none, questions resources⟩) ∨
    Stops approver policies resources (injectResources approver policies resources) := by
  induction resources generalizing policies with
  | nil =>
      cases policies with
      | nil => exact .inl ⟨[], [], .done, rfl⟩
      | cons policy policies => cases count
  | cons resource rest ih =>
      simp only [List.mem_cons, forall_eq_or_imp] at ordered
      cases group : isContainerGroup resource with
      | false =>
          rw [List.filter_cons_of_neg (by simp [group])] at count
          rw [injectResources_other approver policies group, questions_other group]
          rcases ih ordered.2 count with ⟨outcomes, after, run, progress⟩ | stops
          · rw [progress]
            exact .inl ⟨outcomes, _, .other group run, rfl⟩
          · exact .inr (stops.other group)
      | true =>
          rw [List.filter_cons_of_pos group] at count
          -- Only a group takes a policy, so the policies are split along with the groups.
          cases policies with
          | nil => cases count
          | cons policy policies =>
              rcases injectGroup_outcome approver policy ordered.1 with ⟨failure, -, work⟩ |
                ⟨outcome, changed, work, first⟩
              · have stops := @Stops.intro approver [] policies policy [] rest [] resource []
                  failure rfl .done group work
                simp only [injectResources, group, if_true, work]
                exact .inr stops
              · rw [injectResources_group group work, questions_group group]
                rcases ih ordered.2 (by simpa using count) with ⟨outcomes, after, run, progress⟩ |
                  stops
                · rw [progress]
                  exact .inl ⟨_, _, .group group first run, rfl⟩
                · exact .inr (stops.group group work first)

/--
What an injection reports. Only the list of resources is replaced in the document. After a failure
it holds what the groups before the failing one became, the same as if they were injected alone.
-/
inductive Reports (approver : OverwriteApprover) (policies : List String) (document : Value) :
    Report → Prop
  | missing (absent : listProperty? document "resources" = none) :
      Reports approver policies document ⟨.error (.input .resourcesMissing), document, []⟩
  | miscounted {raw : List Value} (listed : listProperty? document "resources" = some raw)
      (differs : (raw.filter isContainerGroup).length ≠ policies.length) :
      Reports approver policies document
        ⟨.error (.input (.policyCountDiffers (raw.filter isContainerGroup).length
          policies.length)), document, []⟩
  | finished {members changed : List (String × Value)} {raw after : List Value}
      {outcomes : List Outcome} (object : document = .object members)
      (listed : listProperty? document "resources" = some raw)
      (run : Run approver policies raw outcomes after)
      (put : Puts "resources" (.array after) members changed) :
      Reports approver policies document ⟨.ok outcomes, .object changed, questions raw⟩
  | stopped {members cut alone changed : List (String × Value)} {taken rest : List String}
      {policy : String} {earlier later after : List Value} {resource : Value}
      {outcomes : List Outcome} {failure : Error} (object : document = .object members)
      (listed : listProperty? document "resources" = some (earlier ++ resource :: later))
      (split : policies = taken ++ policy :: rest) (group : isContainerGroup resource = true)
      (fails : (injectGroup approver policy resource).outcome = (.error failure, []))
      (cutPut : Puts "resources" (.array earlier) members cut)
      (injected : inject approver taken (.object cut) =
        ⟨.ok outcomes, .object alone, questions earlier⟩)
      (alonePut : Puts "resources" (.array after) cut alone)
      (run : Run approver taken earlier outcomes after)
      (put : Puts "resources" (.array (after ++ resource :: later)) members changed) :
      Reports approver policies document ⟨.error failure, .object changed, questions earlier⟩

theorem Run.count {approver : OverwriteApprover} {policies : List String}
    {resources after : List Value} {outcomes : List Outcome}
    (run : Run approver policies resources outcomes after) :
    (resources.filter isContainerGroup).length = policies.length := by
  induction run with
  | done => rfl
  | other single run ih => rwa [List.filter_cons_of_neg (by simp [single])]
  | group group first run ih =>
      rw [List.filter_cons_of_pos group, List.length_cons, ih, List.length_cons]

theorem inject_reports (approver : OverwriteApprover) (policies : List String) {document : Value}
    (ordered : document.Ordered) :
    Reports approver policies document (inject approver policies document) := by
  cases listed : listProperty? document "resources" with
  | none =>
      unfold inject
      dsimp only
      rw [resources_eq, listed]
      exact .missing listed
  | some raw =>
      by_cases count : (raw.filter isContainerGroup).length = policies.length
      · obtain ⟨members, rfl, held⟩ := listed_object listed
        have each : ∀ resource ∈ raw, resource.Ordered :=
          (Value.every_array.mp (ordered_memberFor? ordered held)).2
        have put (list : List Value) := puts_insertMember "resources" (.array list) ordered.self
        rw [inject_listed approver held count]
        rcases injectResources_outcome approver each count with ⟨outcomes, after, run, progress⟩ |
          stops
        · rw [progress]
          exact .finished rfl listed run (put after)
        · generalize injectResources approver policies raw = progress at stops
          cases stops with
          | @intro taken rest policy earlier later after resource outcomes failure alone run group
              fails =>
              have injected := inject_listed approver (put earlier).found run.count
              rw [alone] at injected
              exact .stopped rfl listed rfl group fails (put earlier) injected
                (puts_insertMember _ _ (put earlier).ordered) run (put _)
      · unfold inject
        dsimp only
        rw [resources_eq, listed]
        dsimp only
        rw [if_pos count]
        exact .miscounted listed count

def pair : Value :=
  .object [("resources", .array
    [.object [("name", .string "web"),
      ("properties", .object [("confidentialComputeProperties",
        .object [("ccePolicy", .string "T0xE")])]),
      ("type", .string "Microsoft.ContainerInstance/containerGroups")],
    .object [("name", .string "worker"), ("properties", .object []),
      ("type", .string "Microsoft.ContainerInstance/containerGroups")]])]

theorem inject_pair : ∃ document, Reports (fun _ => false) ["QUFB", "QkJC"] pair
    ⟨.ok [.kept "web", .written "worker"], document, ["web"]⟩ := by
  have reports := @inject_reports (fun _ => false) ["QUFB", "QkJC"] pair (by decide +kernel)
  obtain ⟨outcomes, success, rfl⟩ := exists_ok
    (inject (fun _ => false) ["QUFB", "QkJC"] pair).result id [.kept "web", .written "worker"]
    (by decide +kernel)
  have asked : (inject (fun _ => false) ["QUFB", "QkJC"] pair).asked = ["web"] := by decide +kernel
  rcases report : inject (fun _ => false) ["QUFB", "QkJC"] pair with ⟨result, document, questions⟩
  rw [report] at reports success asked
  cases success
  cases asked
  exact ⟨document, reports⟩

end Enforcement.Injection
