import Enforcement.Proofs.Policy.Wildcards
import Enforcement.Proofs.Template.Nulls

/-!
Null members and policies. A null member is no member wherever a document is searched by name. The
kind of a volume is not: it is the first key that names a kind, whatever that key holds.
-/

namespace Enforcement

open Enforcement.Consulting Enforcement.Json Enforcement.Template Enforcement.Text

/-- A document with its keys apart, next to what is left of it without its null members. -/
structure Stripped (value other : Value) : Prop where
  apart : value.Every Value.KeysApart
  same : other = value.withoutNulls

theorem likeness_stripped : Likeness Stripped where
  form := by
    rintro value _ ⟨apart, rfl⟩
    cases value with
    | null => exact .null
    | bool flag => exact .bool flag
    | number number => exact .number number
    | string text => exact .string text
    | array items =>
        rw [Value.withoutNulls_array]
        refine .array (List.forall₂_map_right_iff.mpr (List.forall₂_same.mpr ?_))
        exact fun item member => ⟨(Value.every_array.mp apart).2 item member, rfl⟩
    | object members =>
        rw [Value.withoutNulls_object]
        exact .object _ _
  property := by
    rintro value _ ⟨apart, rfl⟩ name
    rw [property?_withoutNulls apart.self]
    cases found : property? value name with
    | none => exact .none
    | some held => exact .some ⟨Every.property apart found, rfl⟩

namespace Defaults

def sourceOf? (kind : String) : Option String :=
  (mountSources.find? (sameLetters ·.1 kind)).map (·.2)

theorem mountRule?_eq (kind destination : String) (readOnly : Bool) :
    mountRule? kind destination readOnly = (sourceOf? kind).map fun source =>
      ⟨destination, source, "bind", ["rbind", "rshared", if readOnly then "ro" else "rw"]⟩ := by
  unfold mountRule? sourceOf?
  rw [Option.map_map]
  rfl

theorem sameLetters_of_source {kind kind' source : String} (known : sourceOf? kind = some source)
    (known' : sourceOf? kind' = some source) : sameLetters kind kind' = true := by
  obtain ⟨entry, found, rfl⟩ := Option.map_eq_some_iff.mp known
  obtain ⟨entry', found', same⟩ := Option.map_eq_some_iff.mp known'
  have distinct : ∀ entry ∈ mountSources, ∀ entry' ∈ mountSources, entry'.2 = entry.2 →
      entry' = entry := by decide
  have equal := distinct entry (List.mem_of_find?_eq_some found) entry'
    (List.mem_of_find?_eq_some found') same
  have named : sameLetters entry.1 kind = true := by simpa using List.find?_some found
  have named' : sameLetters entry'.1 kind' = true := by simpa using List.find?_some found'
  rw [equal] at named'
  rw [sameLetters_iff] at named named' ⊢
  exact named.symm.trans named'

end Defaults

namespace Container

open Enforcement.Defaults

def firstKind? (volume : Value) : Option (String × Value) :=
  (volume.members?.getD []).find? fun member => (sourceOf? member.1).isSome

def volumeSource? (volume : Value) : Option String :=
  (firstKind? volume).bind fun member => sourceOf? member.1

/-- The kind that is named first is a kind that is given, not a null member. -/
def Settled (volume : Value) : Prop :=
  ∀ member ∈ firstKind? volume, member.2.isNull = false

instance : DecidablePred Settled := fun volume =>
  inferInstanceAs (Decidable (∀ member ∈ firstKind? volume, member.2.isNull = false))

theorem mountRule_of_volume (volume : Value) (destination : String) (readOnly : Bool) :
    ((volume.members?.getD []).map (·.1)).findSome? (mountRule? · destination readOnly) =
      (volumeSource? volume).map fun source =>
        ⟨destination, source, "bind", ["rbind", "rshared", if readOnly then "ro" else "rw"]⟩ := by
  unfold volumeSource? firstKind?
  rw [List.findSome?_map]
  induction volume.members?.getD [] with
  | nil => rfl
  | cons member rest ih =>
      rw [List.findSome?_cons, List.find?_cons, Function.comp_apply, mountRule?_eq]
      cases known : sourceOf? member.1 with
      | none => exact ih
      | some source =>
          dsimp only [Option.isSome_some, Option.bind_some, Option.map_some]
          rw [known]
          rfl

theorem firstKind?_withoutNulls (members : List (String × Value)) :
    firstKind? (Value.object members).withoutNulls =
      (members.find? fun member => !member.2.isNull && (sourceOf? member.1).isSome).map
        (onValue Value.withoutNulls) := by
  rw [Value.withoutNulls_object]
  unfold firstKind?
  simp [Value.members?, List.find?_map, List.find?_filter, Function.comp_def, onValue]

theorem firstKind?_settled {volume : Value} (settled : Settled volume) :
    firstKind? volume.withoutNulls = (firstKind? volume).map (onValue Value.withoutNulls) := by
  cases volume with
  | object members =>
      have settled : ∀ member ∈ members.find? fun member => (sourceOf? member.1).isSome,
          member.2.isNull = false := settled
      rw [firstKind?_withoutNulls]
      refine congrArg (Option.map _) ?_
      change _ = members.find? fun member => (sourceOf? member.1).isSome
      cases first : members.find? fun member => (sourceOf? member.1).isSome with
      | none =>
          refine List.find?_eq_none.mpr fun member listed both => ?_
          exact List.find?_eq_none.mp first member listed (Bool.and_eq_true_iff.mp both).2
      | some member =>
          have known : (sourceOf? member.1).isSome = true := by
            simpa using List.find?_some first
          have given : member.2.isNull = false := settled member first
          refine find?_of_weaker first ?_ fun other both => (Bool.and_eq_true_iff.mp both).2
          rw [given, known]
          rfl
  | array items =>
      rw [Value.withoutNulls_array]
      rfl
  | null | bool | number | string => rfl

theorem volumeSource?_settled {volume : Value} (settled : Settled volume) :
    volumeSource? volume.withoutNulls = volumeSource? volume := by
  unfold volumeSource?
  rw [firstKind?_settled settled, Option.bind_map]
  rfl

theorem settled_of_source {volume : Value} {source : String} (apart : volume.KeysApart)
    (known : volumeSource? volume = some source)
    (known' : volumeSource? volume.withoutNulls = some source) : Settled volume := by
  intro member first
  by_contra null
  rw [Bool.not_eq_false] at null
  cases volume with
  | object members =>
      have given : sourceOf? member.1 = some source := by
        have first : firstKind? (Value.object members) = some member := first
        rwa [volumeSource?, first] at known
      rw [volumeSource?, firstKind?_withoutNulls] at known'
      obtain ⟨changed, later, given'⟩ := Option.bind_eq_some_iff.mp known'
      obtain ⟨other, found, rfl⟩ := Option.map_eq_some_iff.mp later
      have kept : (!other.2.isNull && (sourceOf? other.1).isSome) = true := by
        simpa using List.find?_some found
      have same := eq_of_apart apart (List.mem_of_find?_eq_some first)
        (List.mem_of_find?_eq_some found) (sameLetters_of_source given given')
        (sameLetters_refl other.1)
      rw [← same, null] at kept
      cases kept
  | null | bool | number | string | array => cases first

/-! Mounts of a declaration. -/

def volumeMounts (declaration : Value) : List Value :=
  (listProperty? (propertiesOf declaration) "volumeMounts").getD []

def mountedVolume? (volumes : List Value) (mount : Value) : Option Value :=
  (textProperty? mount "name").bind fun name => volumes.find? (textProperty? · "name" == some name)

theorem source_of_templateMount {volumes : List Value} {mount : Value} {rule : MountRule}
    (read : templateMount volumes mount = .ok rule) :
    ∃ volume, mountedVolume? volumes mount = some volume ∧
      volumeSource? volume = some rule.source := by
  obtain ⟨name, named, read⟩ := bind_ok.mp read
  obtain ⟨destination, -, read⟩ := bind_ok.mp read
  obtain ⟨readOnly, -, read⟩ := bind_ok.mp read
  unfold mountedVolume?
  rw [requiredText_ok named, Option.bind_some]
  cases found : volumes.find? (textProperty? · "name" == some name) with
  | none =>
      rw [found] at read
      cases read
  | some volume =>
      rw [found] at read
      dsimp only at read
      rw [mountRule_of_volume] at read
      refine ⟨volume, rfl, ?_⟩
      cases source : volumeSource? volume with
      | none =>
          rw [source] at read
          cases read
      | some source =>
          rw [source] at read
          cases read
          rfl

section

variable {alike : Value → Value → Prop} (likeness : Likeness alike)

include likeness

theorem mountedVolume?_of_alike {volumes volumes' : List Value}
    (each : List.Forall₂ alike volumes volumes') {mount mount' : Value}
    (same : alike mount mount') :
    Option.Rel alike (mountedVolume? volumes mount) (mountedVolume? volumes' mount') := by
  unfold mountedVolume?
  rw [likeness.textProperty? same "name"]
  cases textProperty? mount' "name" with
  | none => exact .none
  | some name =>
      exact find?_of_forall₂ each _ _ fun volume volume' pair => by
        rw [likeness.textProperty? pair "name"]

theorem paired_templateMount {volumes volumes' : List Value}
    (each : List.Forall₂ alike volumes volumes') {mount mount' : Value} (same : alike mount mount')
    (sources : ∀ volume ∈ mountedVolume? volumes mount, ∀ volume', alike volume volume' →
      volumeSource? volume = volumeSource? volume') :
    Paired Eq (templateMount volumes mount) (templateMount volumes' mount') := by
  refine (paired_requiredText likeness same "name" "volume mount").bind_read ?_
  rintro name _ named rfl
  refine (paired_requiredText likeness same "mountPath" "volume mount").bind ?_
  rintro destination _ rfl
  refine (paired_flagField likeness same "readOnly").bind ?_
  rintro readOnly _ rfl
  have found := find?_of_forall₂ each (textProperty? · "name" == some name)
    (textProperty? · "name" == some name)
    fun volume volume' pair => by rw [likeness.textProperty? pair "name"]
  unfold mountedVolume? at sources
  rw [requiredText_ok named, Option.bind_some] at sources
  generalize volumes.find? (textProperty? · "name" == some name) = volume at found sources
  generalize volumes'.find? (textProperty? · "name" == some name) = volume' at found
  cases found with
  | none => exact .failed _ _
  | some pair =>
      dsimp only
      rw [mountRule_of_volume, mountRule_of_volume, sources _ rfl _ pair]
      split
      · exact .failed _ _
      · exact .done rfl

end

end Container

namespace Policy

open Enforcement.Container

/-- No volume that a container mounts names a kind with a null member before all others. -/
def MountsSettled (evaluated : Evaluated) : Prop :=
  ∀ resources ∈ evaluated.resources?, ∀ resource ∈ resources, isContainerGroup resource = true →
    ∀ properties ∈ property? resource "properties", ∀ declaration ∈ declarations properties,
      ∀ mount ∈ volumeMounts declaration,
        ∀ volume ∈ mountedVolume? (volumes properties) mount, Settled volume

instance : DecidablePred MountsSettled := fun evaluated =>
  inferInstanceAs (Decidable (∀ resources ∈ evaluated.resources?, ∀ resource ∈ resources,
    isContainerGroup resource = true → ∀ properties ∈ property? resource "properties",
      ∀ declaration ∈ declarations properties, ∀ mount ∈ volumeMounts declaration,
        ∀ volume ∈ mountedVolume? (volumes properties) mount, Settled volume))

theorem mountsKept_of_sources {alike : Value → Value → Prop} (likeness : Likeness alike)
    {resource resource' : Value} (same : alike resource resource')
    (sources : ∀ properties ∈ property? resource "properties",
      ∀ declaration ∈ declarations properties, ∀ mount ∈ volumeMounts declaration,
        ∀ volume ∈ mountedVolume? (volumes properties) mount, ∀ volume', alike volume volume' →
          volumeSource? volume = volumeSource? volume') :
    MountsKept alike resource resource' := by
  intro properties found properties' found' declaration declared declaration' pair
  have held : alike properties properties' := by
    have property := likeness.property same "properties"
    rw [found, found'] at property
    cases property with
    | some held => exact held
  have listed := likeness.listed held "volumes"
  have inside := alike_propertiesOf likeness pair
  refine (paired_listField likeness inside "volumeMounts").bind_read ?_
  intro items items' read each
  have mounted : volumeMounts declaration = items := listField_ok read
  have sources := sources properties found declaration declared
  rw [mounted] at sources
  refine Paired.mapM_eq ((List.forall₂_and_left _ _).mpr ⟨sources, each⟩) ?_
  rintro mount mount' ⟨sources, pair⟩
  exact paired_templateMount likeness listed pair sources

theorem mountsKept_stripped {resource resource' : Value}
    (settled : ∀ properties ∈ property? resource "properties",
      ∀ declaration ∈ declarations properties, ∀ mount ∈ volumeMounts declaration,
        ∀ volume ∈ mountedVolume? (volumes properties) mount, Settled volume)
    (same : Stripped resource resource') : MountsKept Stripped resource resource' := by
  refine mountsKept_of_sources likeness_stripped same ?_
  rintro properties found declaration declared mount listed volume held _ ⟨-, rfl⟩
  exact (volumeSource?_settled
    (settled properties found declaration declared mount listed volume held)).symm

theorem declarations_of_alike {alike : Value → Value → Prop} (likeness : Likeness alike)
    {properties properties' : Value} (same : alike properties properties') :
    List.Forall₂ alike (declarations properties) (declarations properties') :=
  List.rel_append (likeness.listed same "containers") (likeness.listed same "initContainers")

theorem settled_of_mounts {properties properties' declaration declaration' : Value}
    (pair : Stripped properties properties') (alike : Stripped declaration declaration')
    {rules : List MountRule} (read : mounts properties declaration = .ok rules)
    (read' : mounts properties' declaration' = .ok rules) :
    ∀ mount ∈ volumeMounts declaration,
      ∀ volume ∈ mountedVolume? (volumes properties) mount, Settled volume := by
  have inside := alike_propertiesOf likeness_stripped alike
  obtain ⟨items, listed, run⟩ := bind_ok.mp read
  obtain ⟨items', listed', run'⟩ := bind_ok.mp read'
  have listed : volumeMounts declaration = items := listField_ok listed
  have listed' : volumeMounts declaration' = items' := listField_ok listed'
  have each := likeness_stripped.listed inside "volumeMounts"
  change List.Forall₂ Stripped (volumeMounts declaration) (volumeMounts declaration') at each
  rw [listed, listed'] at each
  rw [listed]
  intro mount member volume held
  obtain ⟨mount', rule, same, made, made'⟩ :=
    forall₂_common (forall₂_of_mapM run) (forall₂_of_mapM run') each mount member
  obtain ⟨_, found, source⟩ := source_of_templateMount made
  obtain ⟨volume', found', source'⟩ := source_of_templateMount made'
  have related := mountedVolume?_of_alike likeness_stripped
    (likeness_stripped.listed pair "volumes") same
  change Option.Rel Stripped (mountedVolume? (volumes properties) mount)
    (mountedVolume? (volumes properties') mount') at related
  rw [found, found'] at related
  cases found.symm.trans held
  cases related with
  | some stripped =>
      obtain ⟨apart, rfl⟩ := stripped
      exact settled_of_source apart.self source source'

variable {approver : WildcardApprover} {options : BuildOptions} {pulled : List FragmentImport}

theorem mountsSettled_of_same {evaluated : Evaluated}
    (apart : evaluated.document.Every Value.KeysApart) {policies : List Policy}
    {before before' asked asked' : List WildcardQuestion}
    (done : Gives (ofTemplate approver options pulled evaluated) before policies asked)
    (done' : Gives (ofTemplate approver options pulled ⟨evaluated.document.withoutNulls⟩) before'
      policies asked') : MountsSettled evaluated := by
  obtain ⟨resources, found, groups⟩ := groups_of_gives done
  obtain ⟨resources', found', groups'⟩ := groups_of_gives done'
  have each : List.Forall₂ Stripped resources resources' := by
    have lists := likeness_stripped.listProperty? ⟨apart, rfl⟩ "resources"
    change Option.Rel _ evaluated.resources? (Evaluated.resources? ⟨_⟩) at lists
    rw [found, found'] at lists
    cases lists with
    | some each => exact each
  intro _ same resource member isGroup properties inside declaration declared
  cases found.symm.trans same
  obtain ⟨resource', policy, stripped, ⟨_, _, one⟩, ⟨_, _, other⟩⟩ :=
    forall₂_common (gives_each groups) (gives_each groups')
      (groups_of_alike likeness_stripped each) resource (List.mem_filter.mpr ⟨member, isGroup⟩)
  obtain ⟨_, inside₁, containers⟩ := containers_of_gives one
  obtain ⟨properties', inside', containers'⟩ := containers_of_gives other
  cases inside₁.symm.trans inside
  have pair : Stripped properties properties' := by
    have property := likeness_stripped.property stripped "properties"
    rw [inside, inside'] at property
    cases property with
    | some pair => exact pair
  obtain ⟨declaration', container, alike, ⟨_, _, left⟩, ⟨_, _, right⟩⟩ :=
    forall₂_common (gives_each containers) (gives_each containers')
      (declarations_of_alike likeness_stripped pair) declaration declared
  obtain ⟨rules, read, whole⟩ := (compiled_of_gives left).mounts
  obtain ⟨rules', read', whole'⟩ := (compiled_of_gives right).mounts
  have configMap := configMapMount_of_alike likeness_stripped
    (alike_propertiesOf likeness_stripped alike)
  -- What the configuration map and the image add stands behind the others on both sides.
  have equal : rules = rules' := by
    rw [whole, configMap, List.append_assoc, List.append_assoc] at whole'
    exact List.append_cancel_right whole'
  rw [← equal] at read'
  exact settled_of_mounts pair alike read read'

/--
Null members make no difference to the policies of a template, nor to what is asked for them, as
long as no mounted volume names a kind with a null member before all others. Of the templates that
give policies exactly these give the same ones without their null members.
-/
theorem ofTemplate_withoutNulls (approver : WildcardApprover) (options : BuildOptions)
    (pulled : List FragmentImport) (evaluated : Evaluated)
    (apart : evaluated.document.Every Value.KeysApart) :
    let whole := (ofTemplate approver options pulled evaluated).outcome
    let stripped := (ofTemplate approver options pulled ⟨evaluated.document.withoutNulls⟩).outcome
    (MountsSettled evaluated →
      stripped.1.toOption = whole.1.toOption ∧ stripped.2 = whole.2) ∧
    ∀ policies, whole.1 = .ok policies →
      (stripped.1 = .ok policies ↔ MountsSettled evaluated) := by
  intro whole stripped
  have agrees : MountsSettled evaluated →
      stripped.1.toOption = whole.1.toOption ∧ stripped.2 = whole.2 := by
    intro settled
    have tracks := tracks_ofTemplate likeness_stripped (agreement_self approver options) pulled
      evaluated ⟨evaluated.document.withoutNulls⟩ ⟨apart, rfl⟩
      fun resources found resource member isGroup resource' =>
        mountsKept_stripped (settled resources found resource member isGroup)
    have outcomes := tracks.outcome rfl
    exact ⟨(paired_eq_iff.mp outcomes.1).symm, outcomes.2.symm⟩
  refine ⟨agrees, fun policies built => ⟨fun same => ?_, fun settled => ?_⟩⟩
  · have done : Gives (ofTemplate approver options pulled evaluated) [] policies whole.2 :=
      Prod.ext built rfl
    have done' : Gives (ofTemplate approver options pulled ⟨evaluated.document.withoutNulls⟩) []
        policies stripped.2 := Prod.ext same rfl
    exact mountsSettled_of_same apart done done'
  · have equal := (agrees settled).1
    rw [built] at equal
    exact ok_of_toOption equal

def mounting (volume : List (String × Value)) : Evaluated where
  document := .object [("resources", .array [.object [
    ("name", .string "shop"),
    ("properties", .object [
      ("containers", .array [.object [
        ("name", .string "web"),
        ("properties", .object [
          ("image", .string "nginx"),
          ("volumeMounts", .array [.object [
            ("mountPath", .string "/data"), ("name", .string "data")]])])]]),
      ("volumes", .array [.object volume])]),
    ("type", .string "Microsoft.ContainerInstance/containerGroups")]])]

theorem mounting_settled :
    let evaluated := mounting
      [("emptyDir", .object []), ("gitRepo", .null), ("name", .string "data")]
    evaluated.document.Every Value.KeysApart ∧ MountsSettled evaluated ∧ ∃ policies,
      (ofTemplate (fun _ => false) cautious [] evaluated).outcome.1 = .ok policies ∧
      (ofTemplate (fun _ => false) cautious [] ⟨evaluated.document.withoutNulls⟩).outcome.1 =
        .ok policies := by
  intro evaluated
  have apart : evaluated.document.Every Value.KeysApart := by decide +kernel
  have settled : MountsSettled evaluated := by decide +kernel
  obtain ⟨policies, built, -⟩ := exists_ok
    (ofTemplate (fun _ => false) cautious [] evaluated).outcome.1 (fun _ => ()) ()
    (by decide +kernel)
  have same := ofTemplate_withoutNulls (fun _ => false) cautious [] evaluated apart
  exact ⟨apart, settled, policies, built, (same.2 policies built).mpr settled⟩

/-- A null member in front of it is taken for the kind of the volume. -/
theorem mounting_unsettled :
    let evaluated := mounting [("azureFile", .null), ("emptyDir", .object []),
      ("name", .string "data")]
    evaluated.document.Every Value.KeysApart ∧ ∃ policies others,
      (ofTemplate (fun _ => false) cautious [] evaluated).outcome.1 = .ok policies ∧
      (ofTemplate (fun _ => false) cautious [] ⟨evaluated.document.withoutNulls⟩).outcome.1 =
        .ok others ∧ policies ≠ others := by
  intro evaluated
  have apart : evaluated.document.Every Value.KeysApart := by decide +kernel
  obtain ⟨policies, built, sources⟩ := exists_ok
    (ofTemplate (fun _ => false) cautious [] evaluated).outcome.1
    (·.map (·.containers.map (·.mounts.map (·.source))))
    [[["sandbox:///tmp/atlas/azureFileVolume/.+", "sandbox:///tmp/atlas/resolvconf/.+"]]]
    (by decide +kernel)
  obtain ⟨others, built', sources'⟩ := exists_ok
    (ofTemplate (fun _ => false) cautious [] ⟨evaluated.document.withoutNulls⟩).outcome.1
    (·.map (·.containers.map (·.mounts.map (·.source))))
    [[["sandbox:///tmp/atlas/emptydir/.+", "sandbox:///tmp/atlas/resolvconf/.+"]]]
    (by decide +kernel)
  refine ⟨apart, policies, others, built, built', ?_⟩
  rintro rfl
  rw [sources] at sources'
  exact absurd sources' (by decide +kernel)

end Policy

end Enforcement
