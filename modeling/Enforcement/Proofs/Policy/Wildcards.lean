import Enforcement.Proofs.Policy.Compilation

/-!
Variables whose value is unknown: nothing but a yes lets any value through, and what is unknown
never becomes the value that a variable must have.
-/

namespace Enforcement

open Enforcement.Consulting Enforcement.Json Enforcement.Template

structure Assignment where
  name : String
  text : String
  deriving DecidableEq, Repr

namespace Container

def assignment? (declaration : Value) : Option Assignment := do
  let name ← textProperty? declaration "name"
  let text ← ((property? declaration "value").or (property? declaration "secureValue")).bind
    scalarText?
  return ⟨name, text⟩

def environmentVariables (declaration : Value) : List Value :=
  (listProperty? (propertiesOf declaration) "environmentVariables").getD []

def assignments (declaration : Value) : List Assignment :=
  ((listProperty? (propertiesOf declaration) "environmentVariables").getD []).filterMap assignment?

def nameOf (declaration : Value) : String :=
  (textProperty? declaration "name").getD
    ((textProperty? (propertiesOf declaration) "image").getD "")

/-- A text that refers to a parameter or a variable is not known, and any value takes consent. -/
def ruleFor? (approver : WildcardApprover) (options : BuildOptions) (container : String)
    (declared : Assignment) : Option EnvRule :=
  if containsReference declared.text.toList then
    if options.approveWildcards || approver ⟨container, declared.name⟩ then
      some ⟨declared.name ++ "=.*", .re2, false⟩
    else none
  else some ⟨declared.name ++ "=" ++ declared.text, .string, false⟩

def openQuestions (container : String) (declared : List Assignment) : List WildcardQuestion :=
  (declared.filter fun item => containsReference item.text.toList).map (⟨container, ·.name⟩)

def questions (options : BuildOptions) (container : String) (declared : List Assignment) :
    List WildcardQuestion :=
  if options.approveWildcards then [] else openQuestions container declared

/-- The rules of a container are those of its variables, and after them the built-in ones. -/
structure Consented (approver : WildcardApprover) (options : BuildOptions) (declaration : Value)
    (container : Container) : Prop where
  name : container.name = nameOf declaration
  readable : ∀ item ∈ (listProperty? (propertiesOf declaration) "environmentVariables").getD [],
    (assignment? item).isSome = true
  envRules : container.envRules =
    (assignments declaration).filterMap (ruleFor? approver options container.name) ++
      Defaults.envRules

theorem wildcard_eq (name : String) : EnvRule.wildcard name = ⟨name ++ "=.*", .re2, false⟩ := by
  have joined : name ++ "=" ++ ".*" = name ++ "=.*" := by rw [String.append_assoc]; rfl
  rw [EnvRule.wildcard, EnvRule.regex, joined]

theorem textField_ok {owner : Value} {key : String} {text : Option String}
    (read : textField owner key = .ok text) : textProperty? owner key = text := by
  unfold textField at read
  unfold textProperty?
  cases found : property? owner key with
  | none =>
      rw [found] at read
      cases read
      rfl
  | some value =>
      rw [found] at read
      cases value with
      | string text =>
          cases read
          rfl
      | null | bool | number | array | object => cases read

theorem requiredText_ok {owner : Value} {key role text : String}
    (read : requiredText owner key role = .ok text) : textProperty? owner key = some text := by
  unfold requiredText at read
  cases found : textField owner key with
  | error failure =>
      rw [found] at read
      cases read
  | ok text? =>
      rw [found] at read
      cases text? with
      | none => cases read
      | some held =>
          cases read
          exact textField_ok found

theorem requiredText_of {owner : Value} {key text : String}
    (found : property? owner key = some (.string text)) (role : String) :
    requiredText owner key role = .ok text := by
  rw [requiredText, textField, found]
  rfl

theorem property?_of_text {owner : Value} {key text : String}
    (found : textProperty? owner key = some text) : property? owner key = some (.string text) := by
  obtain ⟨value, held, string⟩ := Option.bind_eq_some_iff.mp found
  cases value with
  | string text =>
      cases string
      exact held
  | null | bool | number | array | object => cases string

theorem requiredText_iff {owner : Value} {key role text : String} :
    requiredText owner key role = .ok text ↔ textProperty? owner key = some text :=
  ⟨requiredText_ok, fun found => requiredText_of (property?_of_text found) role⟩

def readAssignment (container : String) (declaration : Value) : Except Error Assignment := do
  let name ← requiredText declaration "name" "environment variable"
  match (property? declaration "value").or (property? declaration "secureValue") with
  | none => fail (.variableWithoutValue name container)
  | some value =>
    match scalarText? value with
    | none => fail (.variableNotScalar name container)
    | some text => return ⟨name, text⟩

theorem readAssignment_ok {container : String} {declaration : Value} {declared : Assignment} :
    readAssignment container declaration = .ok declared ↔
      assignment? declaration = some declared := by
  unfold readAssignment assignment?
  cases named : requiredText declaration "name" "environment variable" with
  | error failure =>
      have missing : textProperty? declaration "name" = none := by
        refine Option.eq_none_iff_forall_ne_some.mpr fun name found => ?_
        rw [requiredText_iff.mpr found] at named
        cases named
      rw [missing]
      exact iff_of_false nofun nofun
  | ok name =>
      rw [requiredText_ok named]
      cases (property? declaration "value").or (property? declaration "secureValue") with
      | none => exact iff_of_false nofun nofun
      | some value =>
          dsimp only [Option.bind_some]
          change (match scalarText? value with
            | none => fail (.variableNotScalar name container)
            | some text => .ok ⟨name, text⟩) = Except.ok declared ↔
              (scalarText? value).bind (fun text => some ⟨name, text⟩) = some declared
          cases scalarText? value with
          | none => exact iff_of_false nofun nofun
          | some text => exact ⟨fun same => congrArg some (Except.ok.inj same),
              fun same => congrArg Except.ok (Option.some.inj same)⟩

def ruleOf (approver : WildcardApprover) (options : BuildOptions) (container : String)
    (declared : Assignment) : Consulting WildcardQuestion (Option EnvRule) :=
  if containsReference declared.text.toList then openRule approver options container declared.name
  else pure (some (.literal declared.name declared.text))

theorem templateEnvRule_eq (approver : WildcardApprover) (options : BuildOptions)
    (container : String) (declaration : Value) :
    templateEnvRule approver options container declaration =
      liftM (readAssignment container declaration) >>= ruleOf approver options container := by
  unfold templateEnvRule readAssignment
  cases requiredText declaration "name" "environment variable" with
  | error failure => rfl
  | ok name =>
      cases (property? declaration "value").or (property? declaration "secureValue") with
      | none => rfl
      | some value =>
          change _ = liftM (match scalarText? value with
            | none => fail (.variableNotScalar name container)
            | some text => Except.ok (⟨name, text⟩ : Assignment)) >>=
              ruleOf approver options container
          dsimp only
          cases scalarText? value with
          | none => rfl
          | some text => rfl

theorem listField_ok {owner : Value} {key : String} {items : List Value}
    (read : listField owner key = .ok items) : (listProperty? owner key).getD [] = items := by
  unfold listField at read
  unfold listProperty?
  cases found : property? owner key with
  | none =>
      rw [found] at read
      cases read
      rfl
  | some value =>
      rw [found] at read
      cases value with
      | array items =>
          cases read
          rfl
      | null | bool | number | string | object => cases read

section

variable {approver : WildcardApprover} {options : BuildOptions} {container : String}
  {before after : List WildcardQuestion}

theorem questions_append (first second : List Assignment) :
    questions options container (first ++ second) =
      questions options container first ++ questions options container second := by
  unfold questions openQuestions
  split
  · rfl
  · rw [List.filter_append, List.map_append]

theorem gives_ruleOf {declared : Assignment} {rule : Option EnvRule}
    (done : Gives (ruleOf approver options container declared) before rule after) :
    rule = ruleFor? approver options container declared ∧
      after = before ++ questions options container [declared] := by
  unfold ruleOf at done
  unfold ruleFor? questions openQuestions
  cases refers : containsReference declared.text.toList with
  | false =>
      rw [refers] at done
      obtain ⟨rfl, rfl⟩ := gives_pure.mp done
      simp [refers, EnvRule.literal]
  | true =>
      rw [refers] at done
      unfold openRule at done
      cases approved : options.approveWildcards with
      | true =>
          rw [approved] at done
          obtain ⟨rfl, rfl⟩ := gives_pure.mp done
          simp [wildcard_eq]
      | false =>
          rw [approved] at done
          obtain ⟨answer, _, asked, done⟩ := gives_bind.mp done
          obtain ⟨answered, rfl⟩ := gives_ask.mp asked
          cases answer with
          | true =>
              obtain ⟨rfl, rfl⟩ := gives_pure.mp done
              simp [refers, answered, wildcard_eq]
          | false =>
              obtain ⟨rfl, rfl⟩ := gives_pure.mp done
              simp [refers, answered]

theorem gives_templateEnvRule {declaration : Value} {rule : Option EnvRule}
    (done : Gives (templateEnvRule approver options container declaration) before rule after) :
    ∃ declared, assignment? declaration = some declared ∧
      rule = ruleFor? approver options container declared ∧
        after = before ++ questions options container [declared] := by
  rw [templateEnvRule_eq] at done
  obtain ⟨declared, _, first, done⟩ := gives_bind.mp done
  obtain ⟨read, rfl⟩ := gives_lift.mp first
  exact ⟨declared, readAssignment_ok.mp read, gives_ruleOf done⟩

theorem gives_templateEnvRules {items : List Value} {found : List (Option EnvRule)}
    (done : Gives (items.mapM (templateEnvRule approver options container)) before found after) :
    ∃ declared, items.map assignment? = declared.map some ∧
      found = declared.map (ruleFor? approver options container) ∧
        after = before ++ questions options container declared := by
  induction items generalizing before found with
  | nil =>
      obtain ⟨rfl, rfl⟩ := gives_pure.mp done
      refine ⟨[], rfl, rfl, ?_⟩
      simp [questions, openQuestions]
  | cons item rest ih =>
      rw [List.mapM_cons] at done
      obtain ⟨rule, middle, first, done⟩ := gives_bind.mp done
      obtain ⟨rules, _, later, done⟩ := gives_bind.mp done
      obtain ⟨rfl, rfl⟩ := gives_pure.mp done
      obtain ⟨declared, read, rfl, rfl⟩ := gives_templateEnvRule first
      obtain ⟨others, readable, rfl, rfl⟩ := ih later
      refine ⟨declared :: others, ?_, rfl, ?_⟩
      · rw [List.map_cons, read, readable, List.map_cons]
      · rw [List.append_assoc, ← questions_append, List.singleton_append]

theorem consented_of_gives {volumes : List Value} {declaration : Value} {compiled : Container}
    (done : Gives (compile approver options (.template volumes) declaration) before compiled
      after) :
    Consented approver options declaration compiled ∧
      after = before ++ questions options (nameOf declaration) (assignments declaration) := by
  have seen := compiled_of_gives done
  obtain ⟨name?, read, named⟩ := seen.name
  have name : compiled.name = nameOf declaration := by
    rw [nameOf, textField_ok read, textField_ok seen.image, named]
    rfl
  obtain ⟨rules, complete, ruled⟩ := seen.envRules
  obtain ⟨items, _, first, ruled⟩ := gives_bind.mp ruled
  obtain ⟨listed, rfl⟩ := gives_lift.mp first
  obtain ⟨found, _, run, ruled⟩ := gives_bind.mp ruled
  obtain ⟨rfl, rfl⟩ := gives_pure.mp ruled
  obtain ⟨declared, readable, rfl, log⟩ := gives_templateEnvRules run
  have items := listField_ok listed
  have all : assignments declaration = declared := by
    calc
      assignments declaration
          = ((listProperty? (propertiesOf declaration) "environmentVariables").getD []).filterMap
              assignment? := rfl
      _ = (declared.map some).filterMap fun item => item := by
        rw [items, ← readable, List.filterMap_map]
        rfl
      _ = declared := by
        rw [List.filterMap_map]
        exact List.filterMap_some
  refine ⟨⟨name, ?_, ?_⟩, ?_⟩
  · intro item member
    rw [items] at member
    have read : assignment? item ∈ declared.map some := readable ▸ List.mem_map_of_mem member
    obtain ⟨given, -, same⟩ := List.mem_map.mp read
    rw [← same]
    rfl
  · rw [complete, all, List.filterMap_map]
    rfl
  · rw [log, all, name]

end

end Container

namespace Policy

def groupQuestions (resource : Value) : List WildcardQuestion :=
  (declarations ((property? resource "properties").getD .null)).flatMap fun declaration =>
    Container.openQuestions (Container.nameOf declaration) (Container.assignments declaration)

def Consented (approver : WildcardApprover) (options : BuildOptions) (resource : Value)
    (policy : Policy) : Prop :=
  ∃ properties, property? resource "properties" = some properties ∧
    List.Forall₂ (Container.Consented approver options) (declarations properties)
      policy.containers

variable {approver : WildcardApprover} {options : BuildOptions} {pulled : List FragmentImport}
  {before after : List WildcardQuestion}

theorem consented_of_gives {resource : Value} {policy : Policy}
    (done : Gives (ofGroup approver options pulled resource) before policy after) :
    Consented approver options resource policy ∧
      after = before ++ if options.approveWildcards then [] else groupQuestions resource := by
  obtain ⟨properties, found, run⟩ := containers_of_gives done
  obtain ⟨each, log⟩ := gives_mapM (Container.Consented approver options)
    (fun declaration => Container.questions options (Container.nameOf declaration)
      (Container.assignments declaration))
    (fun _ _ _ _ => Container.consented_of_gives) run
  refine ⟨⟨properties, found, each⟩, ?_⟩
  rw [log, groupQuestions, found]
  unfold Container.questions
  split
  · exact congrArg _ (List.flatMap_eq_nil_iff.mpr fun _ _ => rfl)
  · rfl

theorem agreement_yes (approver : WildcardApprover) (options : BuildOptions) :
    Agreement (fun _ _ => True) approver { options with approveWildcards := true }
      (fun _ => true) { options with approveWildcards := false } where
  debugMode := rfl
  stdio := rfl
  infrastructureSvn := rfl
  excluded := rfl
  consent _ _ _ _ _ := ⟨.done rfl, trivial⟩

theorem agreement_silent (approver : WildcardApprover) {options : BuildOptions}
    (approved : options.approveWildcards = true) :
    Agreement (fun asked _ => asked = []) approver options approver options where
  debugMode := rfl
  stdio := rfl
  infrastructureSvn := rfl
  excluded := rfl
  consent container name before before' silent := by
    unfold Container.openRule
    rw [approved]
    exact ⟨.done rfl, silent⟩

theorem mountsKept_self (resource : Value) : MountsKept Eq resource resource := by
  intro properties found properties' found' declaration _ declaration' same
  cases found.symm.trans found'
  cases same
  exact paired_self _

/--
A template that gives policies: every container has one rule for each variable that it declares and
whose value is known, and for each other variable the one that consent allows. The questions come in
the order of the groups, of their containers and of the variables, one for each unknown value; the
consent of the options is as good as an approver who always says yes, and leaves nothing to ask.
-/
theorem ofTemplate_consent (approver : WildcardApprover) (options : BuildOptions)
    (pulled : List FragmentImport) (evaluated : Evaluated) :
    (∀ policies asked,
      (ofTemplate approver options pulled evaluated).outcome = (.ok policies, asked) →
        ∃ resources, evaluated.resources? = some resources ∧
          List.Forall₂ (Consented approver options) (resources.filter isContainerGroup) policies ∧
          asked = if options.approveWildcards then []
            else (resources.filter isContainerGroup).flatMap groupQuestions) ∧
    (options.approveWildcards = true →
      (ofTemplate approver options pulled evaluated).outcome.2 = []) ∧
    (ofTemplate approver { options with approveWildcards := true } pulled
        evaluated).outcome.1.toOption =
      (ofTemplate (fun _ => true) { options with approveWildcards := false } pulled
        evaluated).outcome.1.toOption := by
  have kept : ∀ resources ∈ evaluated.resources?, ∀ resource ∈ resources,
      isContainerGroup resource = true → ∀ resource', resource = resource' →
        MountsKept Eq resource resource' := by
    rintro _ _ resource _ _ _ rfl
    exact mountsKept_self resource
  refine ⟨?_, ?_, ?_⟩
  · intro policies asked run
    obtain ⟨resources, found, groups⟩ := groups_of_gives run
    obtain ⟨each, log⟩ := gives_mapM (Consented approver options)
      (fun resource => if options.approveWildcards then [] else groupQuestions resource)
      (fun _ _ _ _ => consented_of_gives) groups
    refine ⟨resources, found, each, ?_⟩
    rw [log, List.nil_append]
    split
    · exact List.flatMap_eq_nil_iff.mpr fun _ _ => rfl
    · rfl
  · intro approved
    have silent := tracks_ofTemplate likeness_eq (agreement_silent approver approved) pulled
      evaluated evaluated rfl kept
    exact (silent.outcome rfl).2
  · have yes := tracks_ofTemplate likeness_eq (agreement_yes approver options) pulled
      evaluated evaluated rfl kept
    exact paired_eq_iff.mp (yes.outcome trivial).1

def kiosk : Evaluated where
  document := .object [("resources", .array [.object [
    ("name", .string "kiosk"),
    ("properties", .object [("containers", .array [.object [
      ("environmentVariables", .array [
        .object [("name", .string "MODE"), ("value", .string "demo")],
        .object [("name", .string "TOKEN"), ("secureValue", .string "[parameters('token')]")]]),
      ("image", .string "kiosk:1"),
      ("name", .string "web")]])]),
    ("type", .string "Microsoft.ContainerInstance/containerGroups")]])]

def cautious : BuildOptions := ⟨false, true, false, none, false⟩

theorem kiosk_consent :
    (∃ policies asked,
      (ofTemplate (fun _ => false) cautious [] kiosk).outcome = (.ok policies, asked) ∧
        asked = [⟨"web", "TOKEN"⟩] ∧
        policies.map (·.containers.map (·.envRules)) =
          [[⟨"MODE=demo", .string, false⟩ :: Defaults.envRules]]) ∧
      (ofTemplate (fun _ => false) { cautious with approveWildcards := true } []
        kiosk).outcome.2 = [] := by
  refine ⟨?_, (ofTemplate_consent _ { cautious with approveWildcards := true } [] kiosk).2.1 rfl⟩
  obtain ⟨policies, built, rules⟩ := exists_ok
    (ofTemplate (fun _ => false) cautious [] kiosk).outcome.1
    (·.map (·.containers.map (·.envRules)))
    [[⟨"MODE=demo", .string, false⟩ :: Defaults.envRules]] (by decide +kernel)
  obtain ⟨resources, found, -, log⟩ :=
    (ofTemplate_consent (fun _ => false) cautious [] kiosk).1 policies _ (Prod.ext built rfl)
  have asked : kiosk.resources?.map (fun resources =>
      (resources.filter isContainerGroup).flatMap groupQuestions) = some [⟨"web", "TOKEN"⟩] := by
    decide +kernel
  rw [found] at asked
  exact ⟨policies, _, Prod.ext built rfl, log.trans (Option.some.inj asked), rules⟩

end Policy

end Enforcement
