import Enforcement.Proofs.Policy.Likeness

/-!
Policies compiled from documents that are alike, under options and approvers that agree: the runs
keep pace, from the single variable up to the template.
-/

namespace Enforcement

open Enforcement.Consulting Enforcement.Json Enforcement.Template

namespace Container

def propertiesOf (declaration : Value) : Value :=
  (property? declaration "properties").getD declaration

def openRule (approver : WildcardApprover) (options : BuildOptions) (container name : String) :
    Consulting WildcardQuestion (Option EnvRule) := do
  if options.approveWildcards then return some (.wildcard name)
  else if ← Consulting.ask approver ⟨container, name⟩ then return some (.wildcard name)
  else return none

/-- Two declarations that differ at most in their variables and mounts. -/
structure SameBeside (options options' : BuildOptions) (declaration declaration' : Value) :
    Prop where
  image : Paired Eq (textField (propertiesOf declaration) "image")
    (textField (propertiesOf declaration') "image")
  name : Paired Eq (textField declaration "name") (textField declaration' "name")
  processes : Paired Eq (allowedProcesses options (propertiesOf declaration))
    (allowedProcesses options' (propertiesOf declaration'))
  command : Paired Eq (textListField (propertiesOf declaration) "command")
    (textListField (propertiesOf declaration') "command")
  signals : Paired Eq (signalsField (propertiesOf declaration) "signals")
    (signalsField (propertiesOf declaration') "signals")
  context : Paired Eq (readSecurityContext (propertiesOf declaration))
    (readSecurityContext (propertiesOf declaration'))
  configMap : configMapMount (propertiesOf declaration) =
    configMapMount (propertiesOf declaration')

/--
Such declarations give the same container, whatever their sources, provided that the rules of their
variables and their mounts are the same.
-/
theorem SameBeside.tracks {asked : List WildcardQuestion → List WildcardQuestion → Prop}
    {approver approver' : WildcardApprover} {options options' : BuildOptions}
    {declaration declaration' : Value} {source source' : Source}
    (same : SameBeside options options' declaration declaration')
    (stdio : options.allowStdioAccess = options'.allowStdioAccess)
    (rules : ∀ name, Tracks asked Eq
      (declaredEnvRules approver options source name (propertiesOf declaration))
      (declaredEnvRules approver' options' source' name (propertiesOf declaration')))
    (mounts : Paired Eq (declaredMounts source (propertiesOf declaration))
      (declaredMounts source' (propertiesOf declaration'))) :
    Tracks asked Eq (compile approver options source declaration)
      (compile approver' options' source' declaration') := by
  refine (tracks_lift same.image).bind ?_
  rintro image _ rfl
  cases image with
  | none => exact tracks_throw _ _
  | some image =>
      refine (tracks_lift same.name).bind ?_
      rintro name _ rfl
      refine (rules _).bind ?_
      rintro envRules _ rfl
      refine (tracks_lift mounts).bind ?_
      rintro mounts _ rfl
      refine (tracks_lift same.processes).bind ?_
      rintro processes _ rfl
      refine (tracks_lift same.command).bind ?_
      rintro command _ rfl
      refine (tracks_lift same.signals).bind ?_
      rintro signals _ rfl
      refine (tracks_lift same.context).bind ?_
      rintro context _ rfl
      have configMap := same.configMap
      unfold propertiesOf at configMap
      rw [stdio, configMap]
      exact tracks_pure rfl

end Container

/-- Two settings under which the same is compiled, and the questions stay related. -/
structure Agreement (asked : List WildcardQuestion → List WildcardQuestion → Prop)
    (approver : WildcardApprover) (options : BuildOptions) (approver' : WildcardApprover)
    (options' : BuildOptions) : Prop where
  debugMode : options.debugMode = options'.debugMode
  stdio : options.allowStdioAccess = options'.allowStdioAccess
  infrastructureSvn : options.infrastructureSvn = options'.infrastructureSvn
  excluded : options.excludeDefaultFragments = options'.excludeDefaultFragments
  consent : ∀ container name, Tracks asked Eq (Container.openRule approver options container name)
    (Container.openRule approver' options' container name)

theorem agreement_self (approver : WildcardApprover) (options : BuildOptions) :
    Agreement Eq approver options approver options where
  debugMode := rfl
  stdio := rfl
  infrastructureSvn := rfl
  excluded := rfl
  consent container name before before' same := by
    rw [same]
    exact ⟨paired_self _, rfl⟩

section

variable {alike : Value → Value → Prop} (likeness : Likeness alike)
  {asked : List WildcardQuestion → List WildcardQuestion → Prop}
  {approver approver' : WildcardApprover} {options options' : BuildOptions}
  (agreement : Agreement asked approver options approver' options')

include likeness

namespace Container

theorem alike_propertiesOf {declaration declaration' : Value}
    (same : alike declaration declaration') :
    alike (propertiesOf declaration) (propertiesOf declaration') := by
  unfold propertiesOf
  exact likeness.property_cases declaration declaration' "properties" same same fun _ _ held => held

include agreement

theorem tracks_templateEnvRule (container : String) {declaration declaration' : Value}
    (same : alike declaration declaration') :
    Tracks asked Eq (templateEnvRule approver options container declaration)
      (templateEnvRule approver' options' container declaration') := by
  refine (tracks_lift (paired_requiredText likeness same "name" "environment variable")).bind ?_
  rintro name _ rfl
  have values := likeness.either same "value" "secureValue"
  generalize (property? declaration "value").or (property? declaration "secureValue") = value
    at values
  generalize (property? declaration' "value").or (property? declaration' "secureValue") = value'
    at values
  cases values with
  | none => exact tracks_throw _ _
  | some held =>
      dsimp only
      rw [(likeness.form held).scalarText?]
      split
      · exact tracks_throw _ _
      · split
        · exact agreement.consent container name
        · exact tracks_pure rfl

theorem tracks_declaredEnvRules (volumes volumes' : List Value) (container : String)
    {properties properties' : Value} (same : alike properties properties') :
    Tracks asked Eq (declaredEnvRules approver options (.template volumes) container properties)
      (declaredEnvRules approver' options' (.template volumes') container properties') := by
  refine (tracks_lift (paired_listField likeness same "environmentVariables")).bind ?_
  intro declarations declarations' listed
  refine (tracks_mapM_eq listed fun _ _ _ item =>
    tracks_templateEnvRule likeness agreement container item).bind ?_
  rintro rules _ rfl
  exact tracks_pure rfl

theorem sameBeside_of_alike {declaration declaration' : Value}
    (same : alike declaration declaration') :
    SameBeside options options' declaration declaration' := by
  have inside := alike_propertiesOf likeness same
  exact {
    image := paired_textField likeness inside "image"
    name := paired_textField likeness same "name"
    processes := paired_allowedProcesses likeness inside agreement.debugMode
    command := paired_textListField likeness inside "command"
    signals := paired_signalsField likeness inside "signals"
    context := paired_readSecurityContext likeness inside
    configMap := configMapMount_of_alike likeness inside }

theorem tracks_compile {source source' : Source} {declaration declaration' : Value}
    (same : alike declaration declaration')
    (rules : ∀ name, Tracks asked Eq
      (declaredEnvRules approver options source name (propertiesOf declaration))
      (declaredEnvRules approver' options' source' name (propertiesOf declaration')))
    (mounts : Paired Eq (declaredMounts source (propertiesOf declaration))
      (declaredMounts source' (propertiesOf declaration'))) :
    Tracks asked Eq (compile approver options source declaration)
      (compile approver' options' source' declaration') :=
  (sameBeside_of_alike likeness agreement same).tracks agreement.stdio rules mounts

end Container

theorem FragmentImport.paired_ofValue {entry entry' : Value} (same : alike entry entry') :
    Paired Eq (ofValue entry) (ofValue entry') := by
  have minimum : minimumText? entry = minimumText? entry' := by
    have either := likeness.either same "minimum_svn" "minimumSvn"
    unfold minimumText?
    generalize (property? entry "minimum_svn").or (property? entry "minimumSvn") = found at either
    generalize (property? entry' "minimum_svn").or (property? entry' "minimumSvn") = found'
      at either
    cases either with
    | none => rfl
    | some held => cases likeness.form held <;> rfl
  have includes : includes? entry = includes? entry' := by
    have lists := likeness.listProperty? same "includes"
    unfold includes?
    generalize listProperty? entry "includes" = items at lists
    generalize listProperty? entry' "includes" = items' at lists
    cases lists with
    | none => rfl
    | some each =>
        refine mapM_eq_of_alike each fun item item' held => ?_
        rw [(likeness.form held).string?]
  rw [paired_eq_iff, ofValue_toOption, ofValue_toOption, likeness.textProperty? same "issuer",
    likeness.textProperty? same "feed", minimum, includes]

theorem isContainerGroup_of_alike {resource resource' : Value} (same : alike resource resource') :
    isContainerGroup resource = isContainerGroup resource' := by
  unfold isContainerGroup ResourceKind.ofResource
  rw [likeness.textProperty? same "type"]

theorem groups_of_alike {resources resources' : List Value}
    (each : List.Forall₂ alike resources resources') :
    List.Forall₂ alike (resources.filter isContainerGroup)
      (resources'.filter isContainerGroup) :=
  List.rel_filter (fun _ _ pair => by simp only [isContainerGroup_of_alike likeness pair]) each

namespace Policy

theorem isZeroSidecar_of_alike {resource resource' : Value} (same : alike resource resource') :
    isZeroSidecar resource = isZeroSidecar resource' := by
  unfold isZeroSidecar
  refine likeness.property_cases resource resource' "tags" same rfl fun tags tags' held => ?_
  dsimp only [Option.bind_some]
  refine likeness.property_cases tags tags' _ held rfl fun tag tag' inside => ?_
  cases likeness.form inside <;> rfl

theorem paired_standaloneFragments {properties properties' : Value}
    (same : alike properties properties') :
    Paired Eq (standaloneFragments properties) (standaloneFragments properties') := by
  unfold standaloneFragments
  refine likeness.property_cases properties properties' _ same (.done rfl)
    fun confidential confidential' held => ?_
  dsimp only [Option.bind_some]
  refine likeness.property_cases confidential confidential' _ held (.done rfl)
    fun entries entries' inside => ?_
  cases likeness.form inside with
  | array each =>
      exact .mapM_eq each fun _ _ entry => FragmentImport.paired_ofValue likeness entry
  | null | bool | number | string | object => exact .failed _ _

end Policy

end

namespace Policy

def declarations (properties : Value) : List Value :=
  (listProperty? properties "containers").getD [] ++
    (listProperty? properties "initContainers").getD []

def volumes (properties : Value) : List Value := (listProperty? properties "volumes").getD []

def mounts (properties declaration : Value) : Except Error (List MountRule) :=
  Container.declaredMounts (.template (volumes properties)) (Container.propertiesOf declaration)

def MountsKept (alike : Value → Value → Prop) (resource resource' : Value) : Prop :=
  ∀ properties ∈ property? resource "properties",
    ∀ properties' ∈ property? resource' "properties",
      ∀ declaration ∈ declarations properties, ∀ declaration', alike declaration declaration' →
        Paired Eq (mounts properties declaration) (mounts properties' declaration')

variable {alike : Value → Value → Prop} (likeness : Likeness alike)
  {asked : List WildcardQuestion → List WildcardQuestion → Prop}
  {approver approver' : WildcardApprover} {options options' : BuildOptions}
  (agreement : Agreement asked approver options approver' options')

include likeness agreement

theorem externalFragments_of_alike (pulled : List FragmentImport) {resource resource' : Value}
    (same : alike resource resource') :
    externalFragments options pulled resource = externalFragments options' pulled resource' := by
  unfold externalFragments
  rw [isZeroSidecar_of_alike likeness same, agreement.excluded, agreement.infrastructureSvn]

theorem tracks_ofGroup (pulled : List FragmentImport) {resource resource' : Value}
    (same : alike resource resource') (kept : MountsKept alike resource resource') :
    Tracks asked Eq (ofGroup approver options pulled resource)
      (ofGroup approver' options' pulled resource') := by
  have external := externalFragments_of_alike likeness agreement pulled same
  have found := likeness.property same "properties"
  unfold MountsKept at kept
  unfold ofGroup
  -- Where the properties are missing on one side they are on both, and both fail alike.
  generalize property? resource "properties" = properties at kept found
  generalize property? resource' "properties" = properties' at kept found
  cases found with
  | none => exact tracks_throw _ _
  | @some properties properties' held =>
      have initial := likeness.listed held "initContainers"
      have lists := likeness.listProperty? held "containers"
      have kept := kept properties rfl properties' rfl
      unfold declarations at kept
      unfold filledList?
      dsimp only
      generalize listProperty? properties "containers" = declared at lists kept
      generalize listProperty? properties' "containers" = declared' at lists
      cases lists with
      | none => exact tracks_throw _ _
      | some each =>
          cases each with
          | nil => exact tracks_throw _ _
          | cons head rest =>
              have all := List.rel_append (.cons head rest) initial
              refine (tracks_mapM_eq all fun declaration member declaration' pair =>
                Container.tracks_compile likeness agreement pair (fun name =>
                    Container.tracks_declaredEnvRules likeness agreement _ _ name
                      (Container.alike_propertiesOf likeness pair))
                  (kept declaration member declaration' pair)).bind ?_
              rintro containers _ rfl
              refine (tracks_lift (paired_standaloneFragments likeness held)).bind ?_
              rintro standalone _ rfl
              rw [external]
              exact tracks_pure rfl

/-- Alike templates give the same policies, provided that the mounts of their groups do. -/
theorem tracks_ofTemplate (pulled : List FragmentImport) (evaluated evaluated' : Evaluated)
    (same : alike evaluated.document evaluated'.document)
    (kept : ∀ resources ∈ evaluated.resources?, ∀ resource ∈ resources,
      isContainerGroup resource = true → ∀ resource', alike resource resource' →
        MountsKept alike resource resource') :
    Tracks asked Eq (ofTemplate approver options pulled evaluated)
      (ofTemplate approver' options' pulled evaluated') := by
  have lists := likeness.listProperty? same "resources"
  unfold Evaluated.resources? at kept
  unfold ofTemplate Evaluated.resources?
  generalize listProperty? evaluated.document "resources" = resources at lists kept
  generalize listProperty? evaluated'.document "resources" = resources' at lists
  cases lists with
  | none => exact tracks_throw _ _
  | some each =>
      cases each with
      | nil => exact tracks_throw _ _
      | @cons resource resource' rest rest' head tail =>
          have groups := groups_of_alike likeness (.cons head tail)
          have listed : ∀ group ∈ (resource :: rest).filter isContainerGroup,
              ∀ group', alike group group' → MountsKept alike group group' := by
            intro group member
            obtain ⟨member, isGroup⟩ := List.mem_filter.mp member
            exact kept _ rfl group member isGroup
          have policies := tracks_mapM_eq groups fun group member group' pair =>
            tracks_ofGroup likeness agreement pulled pair (listed group member group' pair)
          dsimp only [Option.filter]
          rw [← agreement.infrastructureSvn]
          cases options.infrastructureSvn with
          | none => exact policies
          | some svn => exact (tracks_lift (paired_self (Svn.parse svn))).bind fun _ _ _ => policies

end Policy

/-! What a run that succeeds has read. -/

/-- A container, seen from the declaration that it was compiled from. -/
structure Container.Compiled (approver : WildcardApprover) (options : BuildOptions)
    (volumes : List Value) (declaration : Value) (before : List WildcardQuestion)
    (container : Container) (after : List WildcardQuestion) : Prop where
  image : textField (propertiesOf declaration) "image" = .ok (some container.id)
  name : ∃ name?, textField declaration "name" = .ok name? ∧
    container.name = name?.getD container.id
  envRules : ∃ rules, container.envRules = rules ++ Defaults.envRules ∧
    Gives (declaredEnvRules approver options (.template volumes) container.name
      (propertiesOf declaration)) before rules after
  mounts : ∃ mounts, declaredMounts (.template volumes) (propertiesOf declaration) = .ok mounts ∧
    container.mounts =
      mounts ++ configMapMount (propertiesOf declaration) ++ Defaults.userMounts container.id

section

variable {approver : WildcardApprover} {options : BuildOptions}
  {before after : List WildcardQuestion}

theorem Container.compiled_of_gives {volumes : List Value} {declaration : Value}
    {container : Container}
    (done : Gives (compile approver options (.template volumes) declaration) before container
      after) :
    Compiled approver options volumes declaration before container after := by
  obtain ⟨image?, start, first, done⟩ := gives_bind.mp done
  obtain ⟨image, rfl⟩ := gives_lift.mp first
  cases image? with
  | none => exact absurd done gives_throw
  | some id =>
      obtain ⟨name?, start', second, done⟩ := gives_bind.mp done
      obtain ⟨name, rfl⟩ := gives_lift.mp second
      obtain ⟨rules, middle, ruled, done⟩ := gives_bind.mp done
      obtain ⟨mounts, _, third, done⟩ := gives_bind.mp done
      obtain ⟨mounted, rfl⟩ := gives_lift.mp third
      obtain ⟨processes, _, fourth, done⟩ := gives_bind.mp done
      obtain ⟨-, rfl⟩ := gives_lift.mp fourth
      obtain ⟨command, _, fifth, done⟩ := gives_bind.mp done
      obtain ⟨-, rfl⟩ := gives_lift.mp fifth
      obtain ⟨signals, _, sixth, done⟩ := gives_bind.mp done
      obtain ⟨-, rfl⟩ := gives_lift.mp sixth
      obtain ⟨context, _, seventh, done⟩ := gives_bind.mp done
      obtain ⟨-, rfl⟩ := gives_lift.mp seventh
      obtain ⟨rfl, rfl⟩ := gives_pure.mp done
      exact ⟨image, ⟨name?, name, rfl⟩, ⟨rules, rfl, ruled⟩, ⟨mounts, mounted, rfl⟩⟩

namespace Policy

variable {pulled : List FragmentImport}

theorem filled_of_gives {resource : Value} {policy : Policy}
    (done : Gives (ofGroup approver options pulled resource) before policy after) :
    ∃ properties declared, property? resource "properties" = some properties ∧
      filledList? properties "containers" = some declared := by
  unfold ofGroup at done
  dsimp only at done
  cases found : property? resource "properties" with
  | none =>
      rw [found] at done
      exact absurd done gives_throw
  | some properties =>
      rw [found] at done
      dsimp only at done
      cases filled : filledList? properties "containers" with
      | none =>
          rw [filled] at done
          exact absurd done gives_throw
      | some declared => exact ⟨properties, declared, rfl, filled⟩

theorem parts_of_gives {resource : Value} {policy : Policy}
    (done : Gives (ofGroup approver options pulled resource) before policy after) :
    ∃ properties standalone, property? resource "properties" = some properties ∧
      Gives ((declarations properties).mapM
        (Container.compile approver options (.template (volumes properties)))) before
        policy.containers after ∧
      standaloneFragments properties = .ok standalone ∧
      policy.fragments = distinct (externalFragments options pulled resource ++ standalone) := by
  obtain ⟨properties, declared, found, filled⟩ := filled_of_gives done
  have listed := (Option.filter_eq_some_iff.mp filled).1
  unfold ofGroup at done
  dsimp only at done
  rw [found] at done
  dsimp only at done
  rw [filled] at done
  obtain ⟨containers, middle, compiled, done⟩ := gives_bind.mp done
  obtain ⟨standalone, end', added, done⟩ := gives_bind.mp done
  obtain ⟨own, rfl⟩ := gives_lift.mp added
  obtain ⟨rfl, rfl⟩ := gives_pure.mp done
  refine ⟨properties, standalone, found, ?_, own, rfl⟩
  unfold declarations volumes
  rw [listed]
  exact compiled

theorem containers_of_gives {resource : Value} {policy : Policy}
    (done : Gives (ofGroup approver options pulled resource) before policy after) :
    ∃ properties, property? resource "properties" = some properties ∧
      Gives ((declarations properties).mapM
        (Container.compile approver options (.template (volumes properties)))) before
        policy.containers after := by
  obtain ⟨properties, _, found, compiled, -, -⟩ := parts_of_gives done
  exact ⟨properties, found, compiled⟩

theorem groups_of_gives {evaluated : Evaluated} {policies : List Policy}
    (done : Gives (ofTemplate approver options pulled evaluated) before policies after) :
    ∃ resources, evaluated.resources? = some resources ∧
      Gives ((resources.filter isContainerGroup).mapM (ofGroup approver options pulled)) before
        policies after := by
  unfold ofTemplate at done
  cases filled : evaluated.resources?.filter (!·.isEmpty) with
  | none =>
      rw [filled] at done
      exact absurd done gives_throw
  | some resources =>
      rw [filled] at done
      refine ⟨resources, (Option.filter_eq_some_iff.mp filled).1, ?_⟩
      cases version : options.infrastructureSvn with
      | none =>
          rw [version] at done
          exact done
      | some svn =>
          rw [version] at done
          obtain ⟨_, _, read, done⟩ := gives_bind.mp done
          obtain ⟨-, rfl⟩ := gives_lift.mp read
          exact done

theorem version_of_gives {evaluated : Evaluated} {policies : List Policy}
    (done : Gives (ofTemplate approver options pulled evaluated) before policies after)
    {svn : String} (given : options.infrastructureSvn = some svn) :
    ∃ version, Svn.parse svn = .ok version := by
  unfold ofTemplate at done
  rw [given] at done
  cases filled : evaluated.resources?.filter (!·.isEmpty) with
  | none =>
      rw [filled] at done
      exact absurd done gives_throw
  | some resources =>
      rw [filled] at done
      obtain ⟨version, _, read, -⟩ := gives_bind.mp done
      exact ⟨version, (gives_lift.mp read).1⟩

end Policy

end

end Enforcement
