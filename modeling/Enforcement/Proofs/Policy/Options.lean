import Enforcement.Proofs.Policy.Wildcards
import Enforcement.Proofs.Trust.VersionNumber

/-!
Options and what they name. A template is read in one way under all options, and the options only
finish what has been read; so two builds of a template fail alike, or their policies differ in what
the options name that the two have not in common.
-/

namespace Enforcement

open Enforcement.Consulting Enforcement.Json Enforcement.Template

namespace Consulting

variable {setting question α β γ δ : Type}

/-- One reading serves every setting, and a setting only finishes what was read. -/
def Uniform (work : setting → Consulting question α) (finish : setting → β → α) : Prop :=
  ∃ reading : Except Error β, ∀ chosen before,
    ((work chosen).run.run before).1 = reading.map (finish chosen)

theorem uniform_throw (failure : Error) (finish : setting → β → α) :
    Uniform (fun _ => (throw failure : Consulting question α)) finish :=
  ⟨.error failure, fun _ _ => rfl⟩

theorem uniform_lift {result : setting → Except Error α} {finish : setting → β → α}
    {reading : Except Error β} (same : ∀ chosen, result chosen = reading.map (finish chosen)) :
    Uniform (fun chosen => (liftM (result chosen) : Consulting question α)) finish := by
  refine ⟨reading, fun chosen before => ?_⟩
  dsimp only
  rw [same chosen]
  cases reading <;> rfl

theorem uniform_read (result : Except Error α) :
    Uniform (fun _ : setting => (liftM result : Consulting question α)) fun _ found => found :=
  @uniform_lift _ _ _ _ _ _ result fun _ => by cases result <;> rfl

theorem Uniform.bind {work : setting → Consulting question α} {finish : setting → β → α}
    {next : setting → α → Consulting question γ} {finish' : setting → δ → γ}
    (start : Uniform work finish)
    (later : ∀ found, Uniform (fun chosen => next chosen (finish chosen found)) finish') :
    Uniform (fun chosen => work chosen >>= next chosen) finish' := by
  obtain ⟨reading, first⟩ := start
  cases reading with
  | error failure =>
      refine ⟨.error failure, fun chosen before => ?_⟩
      have failed := first chosen before
      rw [run_bind]
      rcases run : (work chosen).run.run before with ⟨result, after⟩
      rw [run] at failed
      cases failed
      rfl
  | ok found =>
      obtain ⟨reading, second⟩ := later found
      refine ⟨reading, fun chosen before => ?_⟩
      have done := first chosen before
      rw [run_bind]
      rcases run : (work chosen).run.run before with ⟨result, after⟩
      rw [run] at done
      cases done
      exact second chosen after

theorem uniform_mapM {step : setting → γ → Consulting question α} {finish : setting → β → α}
    (each : ∀ item, Uniform (fun chosen => step chosen item) finish) (items : List γ) :
    Uniform (fun chosen => items.mapM (step chosen)) fun chosen => List.map (finish chosen) := by
  induction items with
  | nil => exact ⟨.ok [], fun _ _ => rfl⟩
  | cons item rest ih =>
      simp only [List.mapM_cons]
      refine (each item).bind fun found => ih.bind fun others => ?_
      exact ⟨.ok (found :: others), fun _ _ => rfl⟩

end Consulting

/-- The version asked of the infrastructure fragment, if one is asked for, is a version. -/
def BuildOptions.Admissible (options : BuildOptions) : Prop :=
  ∀ svn ∈ options.infrastructureSvn, ∃ value, Svn.Reads svn value

namespace Container

/-- What a container is before any option has its say. -/
structure Outline where
  plain : Container
  declared : List Assignment

def shells (options : BuildOptions) : List ExecProcess :=
  if options.debugMode then Defaults.debugShells else []

def Outline.finish (approver : WildcardApprover) (options : BuildOptions) (outline : Outline) :
    Container :=
  { outline.plain with
    envRules := outline.declared.filterMap (ruleFor? approver options outline.plain.name) ++
      Defaults.envRules
    execProcesses := outline.plain.execProcesses ++ shells options
    allowStdioAccess := options.allowStdioAccess }

variable (approver : WildcardApprover)

theorem uniform_ruleOf (container : String) (declared : Assignment) :
    Uniform (fun options => ruleOf approver options container declared)
      fun options (item : Assignment) => ruleFor? approver options container item := by
  refine ⟨.ok declared, fun options before => ?_⟩
  change ((ruleOf approver options container declared).run.run before).1 =
    .ok (ruleFor? approver options container declared)
  unfold ruleOf openRule ruleFor?
  rw [← wildcard_eq]
  cases containsReference declared.text.toList with
  | false => rfl
  | true =>
      cases options.approveWildcards with
      | true => rfl
      | false =>
          have asked : (ask approver ⟨container, declared.name⟩).run.run before =
              (.ok (approver ⟨container, declared.name⟩), before ++ [⟨container, declared.name⟩]) :=
            gives_ask.mpr ⟨rfl, rfl⟩
          rw [if_pos rfl, if_neg Bool.false_ne_true, run_bind, asked]
          dsimp only
          cases approver ⟨container, declared.name⟩ <;> rfl

theorem uniform_declaredEnvRules (volumes : List Value) (container : String) (properties : Value) :
    Uniform (fun options =>
        declaredEnvRules approver options (.template volumes) container properties)
      fun options => List.filterMap (ruleFor? approver options container) := by
  refine (uniform_read (listField properties "environmentVariables")).bind fun items => ?_
  have each (item : Value) :
      Uniform (fun options => templateEnvRule approver options container item)
        fun options declared => ruleFor? approver options container declared := by
    simp only [templateEnvRule_eq]
    exact (uniform_read (readAssignment container item)).bind (uniform_ruleOf approver container)
  refine (uniform_mapM each items).bind fun declared => ⟨.ok declared, fun options before => ?_⟩
  change Except.ok _ = Except.ok _
  rw [List.filterMap_map]
  rfl

theorem allowedProcesses_eq (options : BuildOptions) (properties : Value) :
    allowedProcesses options properties =
      (allowedProcesses default properties).map (· ++ shells options) := by
  change _ = (· ++ shells options) <$> allowedProcesses default properties
  have none : (default : BuildOptions).debugMode = false := rfl
  unfold allowedProcesses shells
  simp only [map_bind, map_pure, none, Bool.false_eq_true, if_false, List.append_nil]

theorem uniform_compile (volumes : List Value) (declaration : Value) :
    Uniform (fun options => compile approver options (.template volumes) declaration)
      (Outline.finish approver) := by
  refine (uniform_read (textField (propertiesOf declaration) "image")).bind fun image => ?_
  cases image with
  | none => exact uniform_throw _ _
  | some image =>
      refine (uniform_read (textField declaration "name")).bind fun name => ?_
      refine (uniform_declaredEnvRules approver volumes _ _).bind fun declared => ?_
      refine (uniform_read (declaredMounts _ _)).bind fun mounts => ?_
      refine (uniform_lift fun options => allowedProcesses_eq options _).bind fun processes => ?_
      refine (uniform_read (textListField _ "command")).bind fun command => ?_
      refine (uniform_read (signalsField _ "signals")).bind fun signals => ?_
      refine (uniform_read (readSecurityContext _)).bind fun context => ?_
      exact ⟨.ok ⟨⟨image, name.getD image, command.getD [], [],
        mounts ++ configMapMount (propertiesOf declaration) ++ Defaults.userMounts image, processes,
        signals, false, context⟩, declared⟩, fun _ _ => rfl⟩

theorem Outline.finish_shells (outline : Outline) (options : BuildOptions) :
    outline.finish approver { options with debugMode := true } =
      let plain := outline.finish approver { options with debugMode := false }
      { plain with execProcesses := plain.execProcesses ++ Defaults.debugShells } := by
  unfold finish shells
  simp only [Bool.false_eq_true, if_false, if_true, List.append_nil]
  rfl

theorem ruleFor?_approved {options : BuildOptions} {container : String} {declared : Assignment}
    {rule : EnvRule}
    (given : ruleFor? approver { options with approveWildcards := false } container declared =
      some rule) :
    ruleFor? approver { options with approveWildcards := true } container declared =
      some rule := by
  unfold ruleFor? at given ⊢
  cases refers : containsReference declared.text.toList with
  | false =>
      rw [refers] at given
      exact given
  | true =>
      rw [refers] at given
      cases answer : approver ⟨container, declared.name⟩ with
      | false =>
          rw [answer] at given
          cases given
      | true =>
          rw [answer] at given
          exact given

end Container

namespace Policy

structure Outline where
  resource : Value
  standalone : List FragmentImport
  containers : List Container.Outline

def Outline.finish (approver : WildcardApprover) (pulled : List FragmentImport)
    (options : BuildOptions) (outline : Outline) : Policy where
  fragments := distinct (externalFragments options pulled outline.resource ++ outline.standalone)
  containers := outline.containers.map (·.finish approver options)

variable (approver : WildcardApprover) (pulled : List FragmentImport)

theorem uniform_ofGroup (resource : Value) :
    Uniform (fun options => ofGroup approver options pulled resource)
      (Outline.finish approver pulled) := by
  unfold ofGroup
  cases property? resource "properties" with
  | none => exact uniform_throw _ _
  | some properties =>
      dsimp only
      cases filledList? properties "containers" with
      | none => exact uniform_throw _ _
      | some declared =>
          refine (uniform_mapM (Container.uniform_compile approver _) _).bind fun containers => ?_
          refine (uniform_read (standaloneFragments properties)).bind fun standalone => ?_
          exact ⟨.ok ⟨resource, standalone, containers⟩, fun _ _ => rfl⟩

theorem uniform_ofTemplate (evaluated : Evaluated) :
    Uniform (fun options : {options : BuildOptions // options.Admissible} =>
        ofTemplate approver options pulled evaluated)
      fun options => List.map (Outline.finish approver pulled options) := by
  unfold ofTemplate
  cases evaluated.resources?.filter (!·.isEmpty) with
  | none => exact uniform_throw _ _
  | some resources =>
      obtain ⟨reading, read⟩ :=
        uniform_mapM (uniform_ofGroup approver pulled) (resources.filter isContainerGroup)
      refine ⟨reading, fun ⟨options, admissible⟩ before => ?_⟩
      dsimp only
      cases given : options.infrastructureSvn with
      | none => exact read options before
      | some svn =>
          obtain ⟨value, reads⟩ := admissible svn given
          dsimp only
          rw [Svn.parse_ok_iff.mpr reads]
          exact read options before

/-! Two builds of one template. -/

theorem sublist_filterMap {α β : Type} {keep keep' : α → Option β}
    (kept : ∀ item value, keep item = some value → keep' item = some value) (items : List α) :
    (items.filterMap keep).Sublist (items.filterMap keep') := by
  induction items with
  | nil => exact .slnil
  | cons item rest ih =>
      cases value : keep item with
      | some found =>
          rw [List.filterMap_cons_some value, List.filterMap_cons_some (kept item found value)]
          exact ih.cons_cons found
      | none =>
          rw [List.filterMap_cons_none value]
          cases value' : keep' item with
          | none => rwa [List.filterMap_cons_none value']
          | some found =>
              rw [List.filterMap_cons_some value']
              exact ih.cons found

/-- Two builds that fail alike, or give as many policies, each related to the one in its place. -/
inductive Compared (related : Policy → Policy → Prop) :
    Except Error (List Policy) → Except Error (List Policy) → Prop
  | failed (failure : Error) : Compared related (.error failure) (.error failure)
  | built {policies policies' : List Policy} (each : List.Forall₂ related policies policies') :
      Compared related (.ok policies) (.ok policies')

theorem Compared.of_ok {related : Policy → Policy → Prop} {policies : List Policy}
    {result : Except Error (List Policy)} (compared : Compared related (.ok policies) result) :
    ∃ policies', result = .ok policies' ∧ List.Forall₂ related policies policies' := by
  cases compared with
  | built each => exact ⟨_, rfl, each⟩

theorem compared_ofTemplate (evaluated : Evaluated) (options options' : BuildOptions)
    (admissible : options.Admissible) (admissible' : options'.Admissible)
    {related : Policy → Policy → Prop}
    (each : ∀ outline : Outline,
      related (outline.finish approver pulled options) (outline.finish approver pulled options')) :
    Compared related (ofTemplate approver options pulled evaluated).outcome.1
      (ofTemplate approver options' pulled evaluated).outcome.1 := by
  obtain ⟨reading, read⟩ := uniform_ofTemplate approver pulled evaluated
  have first := read ⟨options, admissible⟩ []
  have second := read ⟨options', admissible'⟩ []
  dsimp only at first second
  unfold outcome
  rw [first, second]
  cases reading with
  | error failure => exact .failed failure
  | ok outlines =>
      refine .built ?_
      rw [List.forall₂_map_left_iff, List.forall₂_map_right_iff]
      exact List.forall₂_same.mpr fun outline _ => each outline

def onContainers (change : Container → Container) (policy : Policy) : Policy :=
  { policy with containers := policy.containers.map change }

theorem Outline.finish_onContainers (outline : Outline) {options options' : BuildOptions}
    {change : Container → Container}
    (same : externalFragments options' pulled outline.resource =
      externalFragments options pulled outline.resource)
    (each : ∀ container : Container.Outline,
      container.finish approver options' = change (container.finish approver options)) :
    outline.finish approver pulled options' =
      (outline.finish approver pulled options).onContainers change := by
  have containers : outline.containers.map (·.finish approver options') =
      (outline.containers.map (·.finish approver options)).map change := by
    rw [List.map_map]
    exact List.map_congr_left fun container _ => each container
  rw [finish, same, containers]
  rfl

structure Widened (policy policy' : Policy) : Prop where
  fragments : policy'.fragments = policy.fragments
  containers : List.Forall₂
    (fun container container' => container' = { container with envRules := container'.envRules } ∧
      container.envRules.Sublist container'.envRules) policy.containers policy'.containers

/--
Each option changes what it names and nothing else: the shells at the end of the processes, the
access to the streams, the fragments, and the rules of the variables that wait for consent.
-/
theorem ofTemplate_options (options : BuildOptions) (admissible : options.Admissible)
    (evaluated : Evaluated) :
    let build (options : BuildOptions) := (ofTemplate approver options pulled evaluated).outcome.1
    Compared
        (fun policy policy' => policy' = policy.onContainers fun container =>
          { container with
            execProcesses :=
              container.execProcesses ++ [⟨["/bin/sh"], []⟩, ⟨["/bin/bash"], []⟩] })
        (build { options with debugMode := false }) (build { options with debugMode := true }) ∧
      (∀ access, Compared
        (fun policy policy' => policy' = policy.onContainers fun container =>
          { container with allowStdioAccess := access })
        (build options) (build { options with allowStdioAccess := access })) ∧
      (∀ excluded, Compared (fun policy policy' => policy'.containers = policy.containers)
        (build options) (build { options with excludeDefaultFragments := excluded })) ∧
      (∀ svn, BuildOptions.Admissible { options with infrastructureSvn := svn } →
        Compared (fun policy policy' => policy'.containers = policy.containers)
          (build options) (build { options with infrastructureSvn := svn })) ∧
      Compared Widened (build { options with approveWildcards := false })
        (build { options with approveWildcards := true }) := by
  intro build
  have compared := compared_ofTemplate approver pulled evaluated
  refine ⟨?debugMode, fun access => ?stdio, fun excluded => ?excluded, fun svn valid => ?svn,
    ?approved⟩
  case debugMode =>
    refine compared { options with debugMode := false } { options with debugMode := true }
      admissible admissible fun outline => ?_
    exact outline.finish_onContainers approver pulled rfl fun container =>
      container.finish_shells approver options
  case stdio =>
    refine compared options { options with allowStdioAccess := access } admissible admissible
      fun outline => ?_
    exact outline.finish_onContainers approver pulled rfl fun _ => rfl
  case excluded =>
    exact compared options { options with excludeDefaultFragments := excluded } admissible
      admissible fun _ => rfl
  case svn =>
    exact compared options { options with infrastructureSvn := svn } admissible valid fun _ => rfl
  case approved =>
    refine compared { options with approveWildcards := false }
      { options with approveWildcards := true } admissible admissible fun outline => ⟨rfl, ?_⟩
    rw [Outline.finish, Outline.finish, List.forall₂_map_left_iff, List.forall₂_map_right_iff]
    refine List.forall₂_same.mpr fun container _ => ⟨rfl, List.Sublist.append_right ?_ _⟩
    exact sublist_filterMap (fun _ _ => Container.ruleFor?_approved approver) _

def versioned : BuildOptions := { cautious with infrastructureSvn := some "007" }

theorem kiosk_options :
    versioned.Admissible ∧
    ∃ policies shelled widened,
      (ofTemplate (fun _ => false) versioned [] kiosk).outcome.1 = .ok policies ∧
      (ofTemplate (fun _ => false) { versioned with debugMode := true } [] kiosk).outcome.1 =
        .ok shelled ∧
      List.Forall₂ (fun policy policy' => policy' = policy.onContainers fun container =>
          { container with
            execProcesses := container.execProcesses ++ [⟨["/bin/sh"], []⟩, ⟨["/bin/bash"], []⟩] })
        policies shelled ∧
      (ofTemplate (fun _ => false) { versioned with approveWildcards := true } []
        kiosk).outcome.1 = .ok widened ∧
      List.Forall₂ Widened policies widened ∧
      policies.map (·.containers.map (·.envRules)) =
        [[⟨"MODE=demo", .string, false⟩ :: Defaults.envRules]] ∧
      widened.map (·.containers.map (·.envRules)) =
        [[⟨"MODE=demo", .string, false⟩ :: ⟨"TOKEN=.*", .re2, false⟩ :: Defaults.envRules]] := by
  have admissible : versioned.Admissible := by
    rintro svn ⟨⟩
    exact ⟨7, Svn.parse?_eq_some_iff.mp (by decide +kernel)⟩
  obtain ⟨policies, built, rules⟩ := exists_ok
    (ofTemplate (fun _ => false) versioned [] kiosk).outcome.1
    (·.map (·.containers.map (·.envRules)))
    [[⟨"MODE=demo", .string, false⟩ :: Defaults.envRules]] (by decide +kernel)
  obtain ⟨widened, built', rules'⟩ := exists_ok
    (ofTemplate (fun _ => false) { versioned with approveWildcards := true } [] kiosk).outcome.1
    (·.map (·.containers.map (·.envRules)))
    [[⟨"MODE=demo", .string, false⟩ :: ⟨"TOKEN=.*", .re2, false⟩ :: Defaults.envRules]]
    (by decide +kernel)
  obtain ⟨debugMode, -, -, -, approved⟩ :=
    ofTemplate_options (fun _ => false) [] versioned admissible kiosk
  change Compared _ (ofTemplate (fun _ => false) versioned [] kiosk).outcome.1 _ at debugMode
  change Compared _ (ofTemplate (fun _ => false) versioned [] kiosk).outcome.1 _ at approved
  rw [built] at debugMode approved
  obtain ⟨shelled, done, shells⟩ := debugMode.of_ok
  obtain ⟨_, done', wider⟩ := approved.of_ok
  cases built'.symm.trans done'
  exact ⟨admissible, policies, shelled, widened, built, done, shells, built', wider, rules, rules'⟩

end Policy

end Enforcement
