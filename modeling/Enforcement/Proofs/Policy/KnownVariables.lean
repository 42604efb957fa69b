import Enforcement.Proofs.Policy.Questions
import Enforcement.Proofs.Template.Correspondence

/-!
Variables that refer to a parameter with a value. The policy requires this value, and there is
nothing to ask about them.
-/

namespace Enforcement

open Enforcement.Consulting Enforcement.Json Enforcement.Template

namespace Container

def declaredText? (declaration : Value) : Option String :=
  ((property? declaration "value").or (property? declaration "secureValue")).bind Value.string?

def RefersTo (declaration : Value) (name : List Char) : Prop :=
  ∃ text ∈ declaredText? declaration, reference? text.toList = some (⟨.parameters, name⟩, [])

instance (declaration : Value) (name : List Char) : Decidable (RefersTo declaration name) :=
  inferInstanceAs (Decidable (∃ text ∈ declaredText? declaration, _))

/-- A variable has a text that refers to nothing. -/
structure Known (item : Value) (text : String) : Prop where
  value : ((property? item "value").or (property? item "secureValue")).bind scalarText? = some text
  free : containsReference text.toList = false

namespace Known

variable {item : Value} {text : String}

theorem assignment? (known : Known item text) :
    Container.assignment? item = (textProperty? item "name").map (⟨·, text⟩) := by
  unfold Container.assignment?
  rw [known.value]
  cases textProperty? item "name" <;> rfl

theorem openQuestions_nil (known : Known item text) (container : String) :
    openQuestions container (Container.assignment? item).toList = [] := by
  rw [known.assignment?]
  cases textProperty? item "name" with
  | none => rfl
  | some name => simp [openQuestions, known.free]

theorem rule (known : Known item text) {name : String}
    (named : textProperty? item "name" = some name) (approver : WildcardApprover)
    (options : BuildOptions) (container : String) :
    (templateEnvRule approver options container item).outcome =
      (.ok (some (.literal name text)), []) := by
  have read : readAssignment container item = .ok ⟨name, text⟩ := by
    rw [readAssignment_ok, known.assignment?, named]
    rfl
  rw [templateEnvRule_eq, read]
  change (ruleOf approver options container ⟨name, text⟩).outcome = _
  rw [ruleOf, known.free]
  rfl

end Known

end Container

structure VariablePath where
  resource : Nat
  /-- Whether the container is one of those that prepare the group. -/
  initial : Bool
  container : Nat
  position : Nat
  deriving DecidableEq, Repr

namespace VariablePath

variable (path : VariablePath) (document : Value)

def resource? : Option Value := itemAt? document "resources" path.resource

def properties? : Option Value := (path.resource? document).bind (property? · "properties")

def listName : String := if path.initial then "initContainers" else "containers"

def container? : Option Value :=
  (path.properties? document).bind (itemAt? · path.listName path.container)

def declaration? : Option Value :=
  (path.container? document).bind fun container =>
    itemAt? (Container.propertiesOf container) "environmentVariables" path.position

/-- No key of the objects on the way to the variable holds a reference. -/
structure FreeWay : Prop where
  top : FreeKeys document
  resource : ∀ resource ∈ path.resource? document, FreeKeys resource
  properties : ∀ properties ∈ path.properties? document, FreeKeys properties
  container : ∀ container ∈ path.container? document, FreeKeys container
  inner : ∀ container ∈ path.container? document, FreeKeys (Container.propertiesOf container)
  declaration : ∀ declaration ∈ path.declaration? document, FreeKeys declaration

def Asks (question : WildcardQuestion) : Prop :=
  ∃ container ∈ path.container? document, ∃ item ∈ path.declaration? document,
    question ∈ Container.openQuestions (Container.nameOf container)
      (Container.assignment? item).toList

/-- How many policies there are before the one of the group. -/
def policyIndex : Nat :=
  ((((listProperty? document "resources").getD []).take path.resource).filter
    isContainerGroup).length

def containerIndex : Nat :=
  if path.initial then
    (((path.properties? document).bind (listProperty? · "containers")).getD []).length +
      path.container
  else path.container

def compiled? (policies : List Policy) : Option Container :=
  policies[path.policyIndex document]?.bind (·.containers[path.containerIndex document]?)

variable {path document}

section

variable {first second : Pass} {found : Value}

theorem propertiesOf_becomes {container : Value} {name : String}
    (free : FreeKeys container) (becomes : Becomes first second container found)
    (own : property? (Container.propertiesOf container) name ≠ none) :
    Becomes first second (Container.propertiesOf container) (Container.propertiesOf found) := by
  cases container with
  | object members =>
      unfold Container.propertiesOf
      have property := property?_becomes free becomes "properties"
      generalize property? (.object members) "properties" = inside at property
      generalize property? found "properties" = inside' at property
      cases property with
      | none => exact becomes
      | some same => exact same
  | null | bool | number | string | array => exact absurd rfl own

theorem declaration?_becomes (free : path.FreeWay document)
    (becomes : Becomes first second document found) {declaration : Value}
    (declared : path.declaration? document = some declaration) :
    ∃ item, path.declaration? found = some item ∧ Becomes first second declaration item := by
  obtain ⟨container, contained, listed⟩ := Option.bind_eq_some_iff.mp declared
  obtain ⟨properties, inside, held⟩ := Option.bind_eq_some_iff.mp contained
  obtain ⟨resource, placed, own⟩ := Option.bind_eq_some_iff.mp inside
  obtain ⟨resource', placed', one⟩ := item_of_becomes free.top becomes placed
  obtain ⟨properties', own', two⟩ := property_of_becomes (free.resource _ placed) one own
  obtain ⟨container', held', three⟩ := item_of_becomes (free.properties _ inside) two held
  obtain ⟨items, list, -⟩ := itemAt?_iff.mp listed
  have four := propertiesOf_becomes (free.container _ contained) three (by rw [list]; nofun)
  obtain ⟨item, listed', last⟩ := item_of_becomes (free.inner _ contained) four listed
  refine ⟨item, ?_, last⟩
  rw [declaration?, container?, properties?, resource?, placed', Option.bind_some, own',
    Option.bind_some, held', Option.bind_some, listed']

end

/-! What is asked. -/

theorem exists_itemAt? {owner item : Value} {name : String}
    (listed : item ∈ (listProperty? owner name).getD []) :
    ∃ place, itemAt? owner name place = some item := by
  unfold itemAt?
  cases found : listProperty? owner name with
  | none =>
      rw [found] at listed
      cases listed
  | some items =>
      rw [found, Option.getD_some] at listed
      exact List.mem_iff_getElem?.mp listed

theorem asks_of_groupQuestions {resources : List Value} {resource : Value}
    {question : WildcardQuestion} (found : listProperty? document "resources" = some resources)
    (member : resource ∈ resources) (asked : question ∈ Policy.groupQuestions resource) :
    ∃ path : VariablePath, path.Asks document question := by
  obtain ⟨place, here⟩ := exists_itemAt?
    (show resource ∈ (listProperty? document "resources").getD [] by rwa [found])
  obtain ⟨container, contained, open'⟩ := List.mem_flatMap.mp asked
  obtain ⟨item, listed, about⟩ := Container.mem_openQuestions.mp open'
  obtain ⟨position, below⟩ := exists_itemAt? listed
  have inside (initial : Bool) (properties : Value)
      (own : property? resource "properties" = some properties)
      (declared : container ∈ (listProperty? properties
        (if initial then "initContainers" else "containers")).getD []) :
      ∃ path : VariablePath, path.Asks document question := by
    obtain ⟨index, held⟩ := exists_itemAt? declared
    have there : container? ⟨place, initial, index, position⟩ document = some container := by
      rw [container?, properties?, resource?, here, Option.bind_some, own, Option.bind_some]
      exact held
    refine ⟨⟨place, initial, index, position⟩, container, there, item, ?_, about⟩
    rw [declaration?, there, Option.bind_some]
    exact below
  cases own : property? resource "properties" with
  | none =>
      rw [own] at contained
      cases contained
  | some properties =>
      rw [own] at contained
      rcases List.mem_append.mp contained with run | prepare
      · exact inside false properties own run
      · exact inside true properties own prepare

/-- All that a build asks is about other variables than a known one. -/
theorem asked_elsewhere {evaluated : Evaluated} {item : Value} {text : String}
    (declared : path.declaration? evaluated.document = some item)
    (known : Container.Known item text) (approver : WildcardApprover) (options : BuildOptions)
    (pulled : List FragmentImport) :
    ∀ question ∈ (Policy.ofTemplate approver options pulled evaluated).outcome.2,
      ∃ other : VariablePath, other ≠ path ∧ other.Asks evaluated.document question := by
  intro question asked
  obtain ⟨resources, found, resource, member, -, open'⟩ :=
    Policy.asked_of_ofTemplate approver options pulled evaluated question asked
  obtain ⟨other, asks⟩ := asks_of_groupQuestions found member open'
  refine ⟨other, ?_, asks⟩
  rintro rfl
  obtain ⟨container, -, item', there, about⟩ := asks
  cases declared.symm.trans there
  rw [known.openQuestions_nil] at about
  cases about

/-! What is built. -/

theorem filter_getElem? {α : Type} {items : List α} {test : α → Bool} {place : Nat} {item : α}
    (held : items[place]? = some item) (passes : test item = true) :
    (items.filter test)[((items.take place).filter test).length]? = some item := by
  induction items generalizing place with
  | nil => cases held
  | cons head rest ih =>
      cases place with
      | zero =>
          cases held
          simp [passes]
      | succ place =>
          rw [List.take_succ_cons, List.filter_cons, List.filter_cons]
          split
          · exact ih held
          · exact ih held

variable {approver : WildcardApprover} {options : BuildOptions} {pulled : List FragmentImport}
  {before after : List WildcardQuestion} {evaluated : Evaluated} {policies : List Policy}

theorem declarations_getElem? {properties declaration : Value}
    (own : path.properties? document = some properties)
    (held : itemAt? properties path.listName path.container = some declaration) :
    (Policy.declarations properties)[path.containerIndex document]? = some declaration := by
  obtain ⟨items, list, place⟩ := Option.bind_eq_some_iff.mp held
  unfold listName at list
  unfold Policy.declarations containerIndex
  rw [own, Option.bind_some]
  cases initial : path.initial with
  | true =>
      rw [initial, if_pos rfl] at list
      rw [if_pos rfl, list, List.getElem?_append_right (Nat.le_add_right _ _),
        Nat.add_sub_cancel_left]
      exact place
  | false =>
      rw [initial, if_neg Bool.false_ne_true] at list
      have within : path.container < items.length := (List.getElem?_eq_some_iff.mp place).1
      rw [if_neg Bool.false_ne_true, list, Option.getD_some, List.getElem?_append_left within]
      exact place

theorem compiled?_of_gives
    (done : Gives (Policy.ofTemplate approver options pulled evaluated) before policies after)
    {resource declaration : Value}
    (placed : path.resource? evaluated.document = some resource)
    (group : isContainerGroup resource = true)
    (declared : path.container? evaluated.document = some declaration) :
    ∃ container, path.compiled? evaluated.document policies = some container ∧
      Container.Consented approver options declaration container := by
  obtain ⟨resources, found, groups⟩ := Policy.groups_of_gives done
  have here : resources[path.resource]? = some resource := by
    obtain ⟨items, listed, place⟩ := Option.bind_eq_some_iff.mp placed
    cases found.symm.trans listed
    exact place
  have filtered : (resources.filter isContainerGroup)[path.policyIndex evaluated.document]? =
      some resource := by
    unfold policyIndex
    rw [show listProperty? evaluated.document "resources" = some resources from found]
    exact filter_getElem? here group
  obtain ⟨policy, built, _, _, ofGroup⟩ := forall₂_getElem? (gives_each groups) filtered
  obtain ⟨properties, own, containers⟩ := Policy.containers_of_gives ofGroup
  have inside : path.properties? evaluated.document = some properties := by
    rw [properties?, placed, Option.bind_some, own]
  have held : itemAt? properties path.listName path.container = some declaration := by
    rwa [container?, inside, Option.bind_some] at declared
  obtain ⟨container, compiled, _, _, run⟩ :=
    forall₂_getElem? (gives_each containers) (declarations_getElem? inside held)
  refine ⟨container, ?_, (Container.consented_of_gives run).1⟩
  rw [compiled?, built]
  exact compiled

theorem literal_of_gives (done : Gives (Policy.ofTemplate approver options pulled evaluated) before
      policies after) {item : Value} {text : String}
    (declared : path.declaration? evaluated.document = some item)
    (known : Container.Known item text)
    (group : ∃ resource ∈ path.resource? evaluated.document, isContainerGroup resource = true) :
    ∃ name container, textProperty? item "name" = some name ∧
      path.compiled? evaluated.document policies = some container ∧
        .literal name text ∈ container.envRules := by
  obtain ⟨resource, placed, isGroup⟩ := group
  obtain ⟨declaration, contained, listed⟩ := Option.bind_eq_some_iff.mp declared
  obtain ⟨container, compiled, consented⟩ := compiled?_of_gives done placed isGroup contained
  obtain ⟨items, list, place⟩ := Option.bind_eq_some_iff.mp listed
  have member : item ∈ Container.environmentVariables declaration := by
    rw [Container.environmentVariables, list]
    exact List.mem_of_getElem? place
  have readable := consented.readable item member
  rw [known.assignment?, Option.isSome_map] at readable
  obtain ⟨name, named⟩ := Option.isSome_iff_exists.mp readable
  have assigned : (⟨name, text⟩ : Assignment) ∈ Container.assignments declaration := by
    refine List.mem_filterMap.mpr ⟨item, member, ?_⟩
    rw [known.assignment?, named]
    rfl
  refine ⟨name, container, named, compiled, ?_⟩
  rw [consented.envRules]
  refine List.mem_append_left _ (List.mem_filterMap.mpr ⟨_, assigned, ?_⟩)
  rw [Container.ruleFor?, known.free]
  rfl

end VariablePath

namespace Template

def Resolves (template : Template) (supplied : Supplied) (name : List Char) (text : String) :
    Prop :=
  ∃ value ∈ template.parameterValue? supplied (String.ofList name),
    Container.scalarText? value = some text ∧ containsReference text.toList = false

instance (template : Template) (supplied : Supplied) (name : List Char) (text : String) :
    Decidable (template.Resolves supplied name text) :=
  inferInstanceAs (Decidable (∃ value ∈ template.parameterValue? supplied (String.ofList name),
    Container.scalarText? value = some text ∧ containsReference text.toList = false))

variable {template : Template} {supplied : Supplied} {evaluated : Evaluated} {path : VariablePath}
  {declaration : Value} {name : List Char} {text : String}

theorem known_of_becomes (free : FreeKeys declaration) (clear : Clear name)
    (refers : Container.RefersTo declaration name)
    (visible : ∀ raw ∈ Container.declaredText? declaration, raw.toList.all (!isControl ·) = true)
    (resolves : template.Resolves supplied name text)
    (readsBack : ∀ value ∈ template.parameterValue? supplied (String.ofList name),
      NumberReadsBack value) {second : Pass} {item : Value}
    (becomes : Becomes (template.parametersPass supplied) second declaration item) :
    Container.Known item text := by
  obtain ⟨raw, declared, whole⟩ := refers
  obtain ⟨value, resolved, scalar, known⟩ := resolves
  obtain ⟨held, given, string⟩ := Option.bind_eq_some_iff.mp declared
  have fixes : (template.parametersPass supplied).Fixes raw value := by
    refine ⟨⟨.parameters, name⟩, ?_, clear, (if_pos rfl).trans resolved⟩
    rw [written?, whole, Option.filter_some, if_pos]
    rw [List.length_nil, Nat.sub_zero, List.take_length]
    exact visible raw declared
  obtain ⟨found, given', same⟩ := either_of_becomes free becomes given
  cases held with
  | string other =>
      cases string
      rw [same.fixed fixes scalar known (readsBack value resolved)] at given'
      exact ⟨by rw [given', Option.bind_some, scalar], known⟩
  | null | bool | number | array | object => cases string

/--
A variable whose text is all of a reference to a parameter with a plain name, and this parameter has
a scalar for its value. Evaluation leaves the variable where it was, and its name too if that refers
to nothing. Its rule requires the text of the value, in whatever build, and this rule is in the
policy of every build that succeeds. Nothing that any build asks is about this variable.
-/
theorem reference_settles (unquoted : template.Unquoted) (ordered : template.document.Ordered)
    (free : path.FreeWay template.document)
    (declared : path.declaration? template.document = some declaration)
    (refers : Container.RefersTo declaration name) (plain : Plain name)
    (visible : ∀ raw ∈ Container.declaredText? declaration, raw.toList.all (!isControl ·) = true)
    (resolves : template.Resolves supplied name text)
    (readsBack : ∀ value ∈ template.parameterValue? supplied (String.ofList name),
      NumberReadsBack value)
    (done : template.evaluate supplied = .ok evaluated) :
    ∃ item, path.declaration? evaluated.document = some item ∧
      (∀ label, textProperty? declaration "name" = some label →
        containsReference label.toList = false → textProperty? item "name" = some label) ∧
      (∀ label, textProperty? item "name" = some label → ∀ approver options container,
        (Container.templateEnvRule approver options container item).outcome =
          (.ok (some (.literal label text)), [])) ∧
      ∀ approver options pulled,
        (∀ question ∈ (Policy.ofTemplate approver options pulled evaluated).outcome.2,
          ∃ other : VariablePath, other ≠ path ∧ other.Asks evaluated.document question) ∧
        ∀ policies asked,
          (Policy.ofTemplate approver options pulled evaluated).outcome = (.ok policies, asked) →
          (∃ resource ∈ path.resource? evaluated.document, isContainerGroup resource = true) →
          ∃ label container, textProperty? item "name" = some label ∧
            path.compiled? evaluated.document policies = some container ∧
              .literal label text ∈ container.envRules := by
  have becomes := evaluate_becomes unquoted ordered done
  obtain ⟨item, there, same⟩ := VariablePath.declaration?_becomes free becomes declared
  have keys := free.declaration declaration declared
  have known := known_of_becomes keys plain.clear refers visible resolves readsBack same
  refine ⟨item, there, ?_, fun label named => known.rule named, fun approver options pulled =>
    ⟨VariablePath.asked_elsewhere there known approver options pulled, ?_⟩⟩
  · intro label named none
    obtain ⟨value, held, becomesName⟩ := property_of_becomes keys same
      (Container.property?_of_text named)
    rw [textProperty?, held, becomesName.free none]
    rfl
  · intro policies asked built group
    exact VariablePath.literal_of_gives built there known group

def lantern (items : Value) (parameters others : List (String × Value)) : Template :=
  ⟨[("parameters", .object parameters),
    ("resources", .array [.object [
      ("name", .string "lantern"),
      ("properties", .object [("containers", .array [.object [
        ("environmentVariables", items),
        ("image", .string "lantern:1"),
        ("name", .string "web")]])]),
      ("type", .string "Microsoft.ContainerInstance/containerGroups")]]),
    ("variables", .object others)]⟩

def lanternItem (name value : String) : Value :=
  .object [("name", .string name), ("value", .string value)]

def lanternParameter (name : String) (value : Value) : String × Value :=
  (name, .object [("value", value)])

def lanternPath : VariablePath := ⟨0, false, 0, 0⟩

def dimmer : Template :=
  lantern (.array [lanternItem "MODE" "[ parameters( 'mode' )]"]) [lanternParameter "mode" .null] []

def dimmed : Template :=
  lantern (.array [lanternItem "MODE" "night"]) [lanternParameter "mode" .null] []

theorem dimmer_settles :
    ∃ evaluated policies container,
      dimmer.evaluate [("MODE", .string "night")] = .ok evaluated ∧
      (Policy.ofTemplate (fun _ => false) Policy.cautious [] evaluated).outcome =
        (.ok policies, []) ∧
      lanternPath.compiled? evaluated.document policies = some container ∧
        .literal "MODE" "night" ∈ container.envRules := by
  have done : dimmer.evaluate [("MODE", .string "night")] = .ok ⟨dimmed.document⟩ :=
    evaluate_of_text (by decide +kernel) (by decide +kernel) (by decide +kernel) (by decide +kernel)
      (by decide +kernel)
  have free : lanternPath.FreeWay dimmer.document :=
    ⟨by decide +kernel, by decide +kernel, by decide +kernel, by decide +kernel, by decide +kernel,
      by decide +kernel⟩
  have declared : lanternPath.declaration? dimmer.document =
      some (lanternItem "MODE" "[ parameters( 'mode' )]") := rfl
  obtain ⟨item', there, named, -, builds⟩ := reference_settles
    ⟨by decide +kernel, by decide +kernel⟩ (by decide +kernel) free declared
    (show Container.RefersTo _ "mode".toList by decide +kernel) (by decide +kernel)
    (by decide +kernel)
    (show dimmer.Resolves [("MODE", .string "night")] "mode".toList "night" by decide +kernel)
    (by decide +kernel) done
  obtain ⟨policies, built, -⟩ := exists_ok
    (Policy.ofTemplate (fun _ => false) Policy.cautious [] ⟨dimmed.document⟩).outcome.1
    List.length 1 (by decide +kernel)
  have outcome : (Policy.ofTemplate (fun _ => false) Policy.cautious []
      ⟨dimmed.document⟩).outcome = (.ok policies, []) :=
    Prod.ext built (show _ = [] by decide +kernel)
  obtain ⟨label, container, labelled, compiled, required⟩ :=
    (builds (fun _ => false) Policy.cautious []).2 policies [] outcome (by decide +kernel)
  cases labelled.symm.trans (named "MODE" rfl (by decide +kernel))
  exact ⟨_, policies, container, done, outcome, compiled, required⟩

def lanternRules? (template : Template) : Option (Option (List EnvRule) × List WildcardQuestion) :=
  (template.evaluate []).toOption.bind fun evaluated =>
    let build := (Policy.ofTemplate (fun _ => false) Policy.cautious [] evaluated).outcome
    build.1.toOption.map fun policies =>
      ((lanternPath.compiled? evaluated.document policies).map (·.envRules), build.2)

/-- The variable refers to a parameter of this name, whose value has this text. -/
def Promises (template : Template) (name text : String) : Prop :=
  template.document.Ordered ∧ Plain name.toList ∧ template.Resolves [] name.toList text ∧
    ∃ declaration ∈ lanternPath.declaration? template.document,
      Container.RefersTo declaration name.toList

instance (template : Template) (name text : String) : Decidable (template.Promises name text) :=
  inferInstanceAs (Decidable (_ ∧ _ ∧ _ ∧
    ∃ declaration ∈ lanternPath.declaration? template.document,
      Container.RefersTo declaration name.toList))

def tabbedLantern : Template :=
  lantern (.array [lanternItem "A" "[\tparameters('x')]"]) [lanternParameter "x" (.string "one")] []

def numberedLantern : Template :=
  lantern (.array [lanternItem "A" "[parameters('x')]"])
    [lanternParameter "x" (.number (.fraction ⟨false, 8114956258021541, -53⟩))] []

def keyedLantern : Template :=
  lantern (.array [.object [("VALUE", .string "[parameters('x')]"),
      ("[parameters('k')]", .string "other"), ("name", .string "A")]])
    [lanternParameter "k" (.string "value"), lanternParameter "x" (.string "one")] []

/-- A reference that begins in one variable and ends in the next. -/
def quotedLantern (kind : String) : Template :=
  let torn := "\"\x7d,\x7b\"name\":\""
  lantern (.array [.object [("name", .string "A"), ("value", .string "[parameters('x')]"),
      ("z", .string ("[" ++ kind ++ "('"))], lanternItem "')]" "two"])
    [lanternParameter torn (.string "!"), lanternParameter "x" (.string "one")]
    [(torn, .string "!")]

def borrowedLantern : Template :=
  lantern (.string "[variables('all')]") [lanternParameter "x" (.string "one")]
    [("all", .array [lanternItem "A" "[parameters('x')]"])]

/--
Not all that refers to a known parameter gets its value: not where a tab stands in the brackets,
where a number reads back as another one, where a key turns into the one that was there, where a
name with quotes lets a reference reach from one variable into the next, or where the reference
comes in only with the value of another one.
-/
theorem lantern_unsettled :
    (tabbedLantern.Promises "x" "one" ∧
      tabbedLantern.lanternRules? = some (some Defaults.envRules, [⟨"web", "A"⟩])) ∧
    (numberedLantern.Promises "x" "0.9009411281481517" ∧ numberedLantern.lanternRules? =
      some (some (.literal "A" "0.9009411281481516" :: Defaults.envRules), [])) ∧
    (keyedLantern.Promises "x" "one" ∧
      keyedLantern.lanternRules? = some (some (.literal "A" "other" :: Defaults.envRules), [])) ∧
    (∀ kind ∈ ["parameters", "variables"], (quotedLantern kind).Promises "x" "one" ∧
      (quotedLantern kind).lanternRules? =
        some (some (.literal "A" "two" :: Defaults.envRules), [])) ∧
    (borrowedLantern.Resolves [] "x".toList "one" ∧
      Container.RefersTo (lanternItem "A" "[parameters('x')]") "x".toList ∧
      borrowedLantern.lanternRules? = some (some Defaults.envRules, [⟨"web", "A"⟩])) := by
  decide +kernel

end Template

end Enforcement
