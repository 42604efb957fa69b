import Enforcement.Proofs.Policy.Volumes
import Enforcement.Proofs.Template.Editing

/-!
A container declared in a template and the same container declared in a specification file. Each
form has its own way to write variables and mounts; a declaration that says the same in both is
compiled to the same container.
-/

namespace Enforcement.Container

open Enforcement.Consulting Enforcement.Defaults Enforcement.Json Enforcement.Template
open Enforcement.Text

/-! The declaration of a template, as a specification file has it. -/

def mountKind? (volumes : List Value) (mount : Value) : Option String :=
  (mountedVolume? volumes mount).bind fun volume => (firstKind? volume).map (·.1)

/-- A mount that says the kind of its volume where it had the volume's name. -/
def specMount (volumes : List Value) (mount : Value) : Value :=
  match mountKind? volumes mount with
  | some kind => withMember "mountType" (.string kind) (withoutProperty "name" mount)
  | none => mount

def onItems (change : Value → Value) : Value → Value
  | .array items => .array (items.map change)
  | value => value

def specDeclaration (volumes : List Value) (declaration : Value) : Value :=
  let rewrite := changeProperty "volumeMounts" (onItems (specMount volumes))
  if (property? declaration "properties").isSome then
    changeProperty "properties" rewrite declaration
  else rewrite declaration

/-- A variable with a plain value that refers to nothing. -/
def Literal (item : Value) : Prop :=
  (∃ text ∈ (property? item "value").bind scalarText?, containsReference text.toList = false) ∧
    property? item "regex" = none

/-- A mount names a volume that is declared once, and one key of that volume names a kind. -/
def NamesVolume (volumes : List Value) (mount : Value) : Prop :=
  ∃ name ∈ textProperty? mount "name",
    (volumes.filter (textProperty? · "name" == some name)).length = 1 ∧
    ∀ volume ∈ volumes, textProperty? volume "name" = some name →
      (((volume.members?.getD []).map (·.1)).filter (sourceOf? · |>.isSome)).length = 1

instance : DecidablePred Literal := fun item => inferInstanceAs (Decidable
  ((∃ text ∈ (property? item "value").bind scalarText?, containsReference text.toList = false) ∧
    property? item "regex" = none))

instance (volumes : List Value) : DecidablePred (NamesVolume volumes) := fun mount =>
  inferInstanceAs (Decidable (∃ name ∈ textProperty? mount "name",
    (volumes.filter (textProperty? · "name" == some name)).length = 1 ∧
    ∀ volume ∈ volumes, textProperty? volume "name" = some name →
      (((volume.members?.getD []).map (·.1)).filter (sourceOf? · |>.isSome)).length = 1))

theorem isNull_onItems (change : Value → Value) (value : Value) :
    (onItems change value).isNull = value.isNull := by
  cases value <;> rfl

theorem isNull_changeProperty (name : String) (change : Value → Value) (value : Value) :
    (changeProperty name change value).isNull = value.isNull := by
  cases value <;> rfl

theorem propertiesOf_specDeclaration (volumes : List Value) (declaration : Value) :
    propertiesOf (specDeclaration volumes declaration) =
      changeProperty "volumeMounts" (onItems (specMount volumes)) (propertiesOf declaration) := by
  unfold propertiesOf specDeclaration
  dsimp only
  cases found : property? declaration "properties" with
  | some properties =>
      rw [if_pos Option.isSome_some, property?_change (isNull_changeProperty _ _), found]
      rfl
  | none =>
      rw [if_neg (by simp), property?_change_other (by decide +kernel), found]
      rfl

theorem property?_specDeclaration (volumes : List Value) (declaration : Value) :
    property? (specDeclaration volumes declaration) "name" = property? declaration "name" := by
  unfold specDeclaration
  dsimp only
  split
  · exact property?_change_other (by decide +kernel) _ declaration
  · exact property?_change_other (by decide +kernel) _ declaration

/-! What is beside the variables and the mounts. -/

theorem sameBeside_of_properties {declaration declaration' : Value} (options : BuildOptions)
    (name : property? declaration' "name" = property? declaration "name")
    (inside : ∀ key, sameLetters key "volumeMounts" = false →
      property? (propertiesOf declaration') key = property? (propertiesOf declaration) key) :
    SameBeside options options declaration declaration' := by
  have image := inside "image" (by decide +kernel)
  have command := inside "command" (by decide +kernel)
  have signals := inside "signals" (by decide +kernel)
  have context := inside "securityContext" (by decide +kernel)
  have configMap := inside "configMap" (by decide +kernel)
  have processes := inside "execProcesses" (by decide +kernel)
  have readiness := inside "readinessProbe" (by decide +kernel)
  have liveness := inside "livenessProbe" (by decide +kernel)
  constructor
  · unfold textField
    rw [image]
    exact paired_self _
  · unfold textField
    rw [name]
    exact paired_self _
  · unfold allowedProcesses listField probeProcess
    rw [processes, readiness, liveness]
    exact paired_self _
  · unfold textListField
    rw [command]
    exact paired_self _
  · unfold signalsField
    rw [signals]
    exact paired_self _
  · unfold readSecurityContext
    rw [context]
    exact paired_self _
  · unfold configMapMount
    rw [configMap]

/-! Fields under keys that hold the same. -/

section

variable {owner owner' : Value} {key key' : String}
  (same : property? owner key = property? owner' key')

include same

theorem paired_requiredText_of (role : String) :
    Paired Eq (requiredText owner key role) (requiredText owner' key' role) := by
  unfold requiredText textField
  rw [same]
  cases property? owner' key' with
  | none => exact .failed _ _
  | some value =>
      cases value with
      | string text => exact .done rfl
      | null | bool | number | array | object => exact .failed _ _

theorem paired_flagField_of : Paired Eq (flagField owner key) (flagField owner' key') := by
  unfold flagField
  rw [same]
  cases property? owner' key' with
  | none => exact .done rfl
  | some value =>
      cases value with
      | bool flag => exact .done rfl
      | null | number | string | array | object => exact .failed _ _

end

theorem onItems_self : onItems (fun item => item) = fun value => value := by
  funext value
  cases value <;> simp [onItems]

theorem paired_listField_of {owner owner' : Value} {key : String} {change : Value → Value}
    (same : property? owner' key = (property? owner key).map (onItems change)) :
    Paired (List.Forall₂ fun item item' =>
        item ∈ (listProperty? owner key).getD [] ∧ item' = change item)
      (listField owner key) (listField owner' key) := by
  unfold listField listProperty?
  rw [same]
  cases property? owner key with
  | none => exact .done .nil
  | some value =>
      cases value with
      | array items =>
          refine .done ?_
          rw [List.forall₂_map_right_iff, List.forall₂_same]
          exact fun item member => ⟨member, rfl⟩
      | null | bool | number | string | object => exact .failed _ _

/-! Variables. -/

section

variable {asked : List WildcardQuestion → List WildcardQuestion → Prop}

theorem tracks_envRule_of_literal (approver : WildcardApprover) (options : BuildOptions)
    (container : String) {item : Value} (literal : Literal item) :
    Tracks asked (fun rule rule' => rule = some rule')
      (templateEnvRule approver options container item) (liftM (specFileEnvRule item)) := by
  obtain ⟨⟨text, read, plain⟩, noRegex⟩ := literal
  obtain ⟨value, given, scalar⟩ := Option.bind_eq_some_iff.mp read
  unfold templateEnvRule specFileEnvRule
  rw [given, noRegex, Option.some_or, Option.bind_some]
  simp only [scalar, plain, Bool.false_eq_true, if_false]
  cases requiredText item "name" "environment variable" with
  | error failure => exact tracks_throw failure failure
  | ok name => exact tracks_pure rfl

theorem filterMap_of_some {α : Type} {found : List (Option α)} {values : List α}
    (each : List.Forall₂ (fun option value => option = some value) found values) :
    found.filterMap (fun option => option) = values := by
  induction each with
  | nil => rfl
  | cons head _ ih => simp only [head, List.filterMap_cons, ih]

theorem tracks_envRules (approver : WildcardApprover) (options : BuildOptions)
    (volumes : List Value) (container : String) {declaration declaration' : Value}
    (literal : ∀ item ∈ environmentVariables declaration, Literal item)
    (same : property? (propertiesOf declaration') "environmentVariables" =
      property? (propertiesOf declaration) "environmentVariables") :
    Tracks asked Eq
      (declaredEnvRules approver options (.template volumes) container (propertiesOf declaration))
      (declaredEnvRules approver options .specFile container (propertiesOf declaration')) := by
  have unchanged : property? (propertiesOf declaration') "environmentVariables" =
      (property? (propertiesOf declaration) "environmentVariables").map
        (onItems fun item => item) := by
    rw [same, onItems_self, Option.map_id']
  refine (tracks_lift (paired_listField_of unchanged)).bind fun items items' each => ?_
  change Tracks asked Eq
    (items.mapM (templateEnvRule approver options container) >>= fun rules =>
      pure (rules.filterMap fun rule => rule))
    (items'.mapM fun item => liftM (specFileEnvRule item))
  rw [← bind_pure (items'.mapM _)]
  have rules : Tracks asked (List.Forall₂ fun rule rule' => rule = some rule')
      (items.mapM (templateEnvRule approver options container))
      (items'.mapM fun item => liftM (specFileEnvRule item)) := by
    refine tracks_mapM each ?_
    rintro _ item ⟨member, rfl⟩
    exact tracks_envRule_of_literal approver options container (literal _ member)
  exact rules.bind fun found found' alike => tracks_pure (filterMap_of_some alike)

/-! Mounts. -/

theorem mountKind?_of_names {volumes : List Value} {mount : Value}
    (named : NamesVolume volumes mount) :
    ∃ name volume kind, textProperty? mount "name" = some name ∧
      volumes.find? (textProperty? · "name" == some name) = some volume ∧
      volumeSource? volume = sourceOf? kind ∧ mountKind? volumes mount = some kind := by
  obtain ⟨name, text, once, keys⟩ := named
  obtain ⟨volume, only⟩ := List.length_eq_one_iff.mp once
  have found : volumes.find? (textProperty? · "name" == some name) = some volume := by
    rw [← List.head?_filter, only]
    rfl
  have own : textProperty? volume "name" = some name := by
    simpa using List.find?_some found
  obtain ⟨kind, key⟩ :=
    List.length_eq_one_iff.mp (keys volume (List.mem_of_find?_eq_some found) own)
  have first : (firstKind? volume).map (·.1) = some kind := by
    have head := congrArg List.head? key
    rwa [List.head?_filter, List.find?_map] at head
  refine ⟨name, volume, kind, text, found, ?_, ?_⟩
  · obtain ⟨member, held, rfl⟩ := Option.map_eq_some_iff.mp first
    rw [volumeSource?, held, Option.bind_some]
  · rw [mountKind?, mountedVolume?, text, Option.bind_some, found, Option.bind_some, first]

theorem property?_specMount {volumes : List Value} {mount : Value} {name kind : String}
    (text : textProperty? mount "name" = some name)
    (known : mountKind? volumes mount = some kind) :
    property? (specMount volumes mount) "mountType" = some (.string kind) := by
  rw [specMount, known]
  cases mount with
  | object members => exact property?_with rfl "mountType" _
  | null | bool | number | string | array => cases text

theorem property?_specMount_other {key : String} (named : sameLetters key "name" = false)
    (typed : sameLetters key "mountType" = false) (volumes : List Value) (mount : Value) :
    property? (specMount volumes mount) key = property? mount key := by
  unfold specMount
  split
  · rw [property?_with_other typed, property?_without_other named]
  · rfl

theorem paired_mount {volumes : List Value} {mount : Value} (named : NamesVolume volumes mount)
    (flag : property? mount "readonly" = property? mount "readOnly") :
    Paired Eq (templateMount volumes mount) (specFileMount (specMount volumes mount)) := by
  obtain ⟨name, volume, kind, text, found, source, known⟩ := mountKind?_of_names named
  have path : property? mount "mountPath" = property? (specMount volumes mount) "mountPath" :=
    (property?_specMount_other (by decide +kernel) (by decide +kernel) volumes mount).symm
  have flags : property? mount "readOnly" = property? (specMount volumes mount) "readonly" := by
    rw [property?_specMount_other (by decide +kernel) (by decide +kernel), flag]
  unfold templateMount specFileMount
  rw [requiredText_of (property?_of_text text), requiredText_of (property?_specMount text known)]
  have texts : Paired (fun said said' => said = name ∧ said' = kind) (.ok name) (.ok kind) :=
    .done ⟨rfl, rfl⟩
  refine texts.bind fun said said' same => ?_
  rw [same.1, same.2]
  refine (paired_requiredText_of path "volume mount").bind ?_
  rintro destination _ rfl
  refine (paired_flagField_of flags).bind ?_
  rintro readOnly _ rfl
  rw [found]
  dsimp only
  rw [mountRule_of_volume, mountRule?_eq, source]
  cases sourceOf? kind with
  | none => exact .failed _ _
  | some place => exact .done rfl

theorem paired_mounts {volumes : List Value} {declaration declaration' : Value}
    (mounts : ∀ mount ∈ volumeMounts declaration, NamesVolume volumes mount ∧
      property? mount "readonly" = property? mount "readOnly")
    (same : property? (propertiesOf declaration') "volumeMounts" =
      (property? (propertiesOf declaration) "volumeMounts").map (onItems (specMount volumes))) :
    Paired Eq (declaredMounts (.template volumes) (propertiesOf declaration))
      (declaredMounts .specFile (propertiesOf declaration')) := by
  refine (paired_listField_of same).bind fun items items' each => Paired.mapM_eq each ?_
  rintro mount _ ⟨member, rfl⟩
  obtain ⟨named, flag⟩ := mounts mount member
  exact paired_mount named flag

end

/--
A container with literal variables, whose mounts name one volume each with one key for its kind, and
say in one way only whether they are read-only: its declaration in a template and the one in a
specification file, where the mounts name the kinds, fail together or give the same container.
Nobody is asked about either.
-/
theorem compile_specDeclaration (approver : WildcardApprover) (options : BuildOptions)
    {volumes : List Value} {declaration : Value}
    (literal : ∀ item ∈ environmentVariables declaration, Literal item)
    (named : ∀ mount ∈ volumeMounts declaration, NamesVolume volumes mount)
    (flags : ∀ mount ∈ volumeMounts declaration,
      property? mount "readonly" = property? mount "readOnly") :
    (compile approver options (.template volumes) declaration).outcome.1.toOption =
        (compile approver options .specFile
          (specDeclaration volumes declaration)).outcome.1.toOption ∧
      (compile approver options (.template volumes) declaration).outcome.2 = [] ∧
      (compile approver options .specFile
        (specDeclaration volumes declaration)).outcome.2 = [] := by
  have inside := propertiesOf_specDeclaration volumes declaration
  have others : ∀ key, sameLetters key "volumeMounts" = false →
      property? (propertiesOf (specDeclaration volumes declaration)) key =
        property? (propertiesOf declaration) key := by
    intro key other
    rw [inside, property?_change_other other]
  have beside := sameBeside_of_properties options (property?_specDeclaration volumes declaration)
    others
  have mounts := paired_mounts (fun mount member => ⟨named mount member, flags mount member⟩)
    (by rw [inside, property?_change (isNull_onItems _)])
  have tracks : Tracks (fun asked asked' => asked = [] ∧ asked' = []) Eq
      (compile approver options (.template volumes) declaration)
      (compile approver options .specFile (specDeclaration volumes declaration)) :=
    beside.tracks rfl (fun name => tracks_envRules approver options volumes name literal
      (others "environmentVariables" (by decide +kernel))) mounts
  obtain ⟨paired, asked⟩ := tracks.outcome ⟨rfl, rfl⟩
  exact ⟨paired_eq_iff.mp paired, asked⟩

def cellar (flags : List (String × Value)) : Value :=
  .object [
    ("environmentVariables",
      .array [.object [("name", .string "BINS"), ("value", .number (.whole 12))]]),
    ("image", .string "cellar:1"),
    ("volumeMounts", .array [.object ([("mountPath", .string "/data"), ("name", .string "bins")] ++
      flags)])]

def cellarVolumes : List Value :=
  [.object [("EmptyDir", .object []), ("name", .string "bins")],
    .object [("name", .string "spare")]]

theorem flag_of_single {mount : Value}
    (single : ((mount.members?.getD []).filter (sameLetters ·.1 "readonly")).length ≤ 1) :
    property? mount "readonly" = property? mount "readOnly" :=
  property?_single (by decide +kernel) single

theorem compile_cellar :
    (compile (fun _ => false) Policy.cautious .specFile
        (specDeclaration cellarVolumes (cellar [("readOnly", .bool true)]))).outcome.1.toOption.map
      (fun container =>
        (container.envRules.head?.map (·.pattern), container.mounts.map (·.options))) =
    some (some "BINS=12", [["rbind", "rshared", "ro"], ["rbind", "rshared", "rw"]]) := by
  have once : ∀ mount ∈ volumeMounts (cellar [("readOnly", .bool true)]),
      ((mount.members?.getD []).filter (sameLetters ·.1 "readonly")).length ≤ 1 := by
    decide +kernel
  have same := compile_specDeclaration (fun _ => false) Policy.cautious
    (show ∀ item ∈ environmentVariables (cellar [("readOnly", .bool true)]), Literal item by
      decide +kernel)
    (show ∀ mount ∈ volumeMounts (cellar [("readOnly", .bool true)]),
      NamesVolume cellarVolumes mount by decide +kernel)
    (fun mount member => flag_of_single (once mount member))
  rw [← same.1]
  decide +kernel

/-- A flag that is spelled in both ways may differ: each form reads its own spelling. -/
theorem compile_twoFlags :
    (∀ item ∈ environmentVariables (cellar [("readOnly", .bool true), ("readonly", .bool false)]),
      Literal item) ∧
    (∀ mount ∈ volumeMounts (cellar [("readOnly", .bool true), ("readonly", .bool false)]),
      NamesVolume cellarVolumes mount) ∧
    (compile (fun _ => false) Policy.cautious (.template cellarVolumes)
        (cellar [("readOnly", .bool true), ("readonly", .bool false)])).outcome.1.toOption ≠
      (compile (fun _ => false) Policy.cautious .specFile (specDeclaration cellarVolumes
        (cellar [("readOnly", .bool true), ("readonly", .bool false)]))).outcome.1.toOption ∧
    (compile (fun _ => false) Policy.cautious (.template cellarVolumes)
        (cellar [("readOnly", .bool true), ("readonly", .bool false)])).outcome.1.toOption.map
      (·.mounts.map (·.options)) =
        some [["rbind", "rshared", "ro"], ["rbind", "rshared", "rw"]] ∧
    (compile (fun _ => false) Policy.cautious .specFile (specDeclaration cellarVolumes
        (cellar [("readOnly", .bool true), ("readonly", .bool false)]))).outcome.1.toOption.map
      (·.mounts.map (·.options)) =
        some [["rbind", "rshared", "rw"], ["rbind", "rshared", "rw"]] := by
  decide +kernel

end Enforcement.Container
