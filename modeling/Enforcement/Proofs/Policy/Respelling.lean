import Enforcement.Proofs.Policy.SpecFile
import Enforcement.Proofs.Policy.Volumes
import Enforcement.Proofs.Template.Respelling

/-!
The letters of keys and policies: upper and lower case make no difference, in templates and in
specification files. The kind of a volume is the first key that names one, and respelled keys may
change places, so it is told apart only where a single key names a kind.
-/

namespace Enforcement

open Enforcement.Consulting Enforcement.Json Enforcement.Json.Value Enforcement.Template
open Enforcement.Text

/-- A document with its keys apart, next to the same in other letters. -/
structure Recased (value other : Value) : Prop where
  apart : value.Every Value.KeysApart
  same : Respelled value other

theorem likeness_recased : Likeness Recased where
  form := by
    rintro value other ⟨apart, same⟩
    cases same with
    | null => exact .null
    | bool flag => exact .bool flag
    | number number => exact .number number
    | string text => exact .string text
    | array each =>
        have parts := (Value.every_array.mp apart).2
        refine .array (((List.forall₂_and_left _ _).mpr ⟨parts, each⟩).imp ?_)
        exact fun _ _ pair => ⟨pair.1, pair.2⟩
    | object each moved => exact .object _ _
  property := by
    rintro value other ⟨apart, same⟩ name
    have found := property?_respelled apart.self same name
    generalize held : property? value name = property at found
    generalize property? other name = property' at found
    cases found with
    | none => exact .none
    | some same => exact .some ⟨Every.property apart held, same⟩

namespace Container

open Enforcement.Defaults

/-- All keys of a volume that name a kind are one key. -/
def OneKind (volume : Value) : Prop :=
  ∀ member ∈ volume.members?.getD [], ∀ other ∈ volume.members?.getD [],
    (sourceOf? member.1).isSome = true → (sourceOf? other.1).isSome = true → member.1 = other.1

instance : DecidablePred OneKind := fun volume =>
  inferInstanceAs (Decidable (∀ member ∈ volume.members?.getD [],
    ∀ other ∈ volume.members?.getD [],
      (sourceOf? member.1).isSome = true → (sourceOf? other.1).isSome = true →
        member.1 = other.1))

theorem sourceOf?_of_sameLetters {kind kind' : String} (letters : sameLetters kind kind' = true) :
    sourceOf? kind = sourceOf? kind' := by
  have tests : (fun entry : String × String => sameLetters entry.1 kind) =
      fun entry => sameLetters entry.1 kind' :=
    funext fun entry => sameLetters_right letters entry.1
  rw [sourceOf?, sourceOf?, tests]

theorem volumeSource?_respelled {volume other : Value} (apart : volume.KeysApart)
    (single : OneKind volume) (same : Respelled volume other) :
    volumeSource? volume = volumeSource? other := by
  cases same with
  | null | bool | number | string | array => rfl
  | @object members changed others each moved =>
      have kinds (member other : String × Value) (same : RespelledMember member other) :
          (sourceOf? member.1).isSome = (sourceOf? other.1).isSome := by
        rw [sourceOf?_of_sameLetters same.letters]
      have one : ∀ item ∈ changed, ∀ other ∈ changed, (sourceOf? item.1).isSome = true →
          (sourceOf? other.1).isSome = true → item = other := by
        intro item listed other listed' known known'
        obtain ⟨member, held, letters⟩ := mem_respelled each listed
        obtain ⟨member', held', letters'⟩ := mem_respelled each listed'
        rw [← kinds _ _ letters] at known
        rw [← kinds _ _ letters'] at known'
        have key := single member held member' held' known known'
        refine eq_of_apart (apart_respelled each apart) listed listed' ?_ (sameLetters_refl other.1)
        rw [← sameLetters_left letters.letters, key]
        exact letters'.letters
      have found := find?_respelled each moved (fun member => (sourceOf? member.1).isSome) kinds one
      change (members.find? _).bind _ = (others.find? _).bind _
      generalize members.find? (fun member => (sourceOf? member.1).isSome) = member at found
      generalize others.find? (fun member => (sourceOf? member.1).isSome) = member' at found
      cases found with
      | none => rfl
      | some same => exact sourceOf?_of_sameLetters same.letters

end Container

namespace Policy

open Enforcement.Container

def VolumesOfOneKind (evaluated : Evaluated) : Prop :=
  ∀ resources ∈ evaluated.resources?, ∀ resource ∈ resources, isContainerGroup resource = true →
    ∀ properties ∈ property? resource "properties", ∀ volume ∈ volumes properties, OneKind volume

instance : DecidablePred VolumesOfOneKind := fun evaluated =>
  inferInstanceAs (Decidable (∀ resources ∈ evaluated.resources?, ∀ resource ∈ resources,
    isContainerGroup resource = true → ∀ properties ∈ property? resource "properties",
      ∀ volume ∈ volumes properties, OneKind volume))

theorem mountsKept_recased {resource resource' : Value} (same : Recased resource resource')
    (single : ∀ properties ∈ property? resource "properties",
      ∀ volume ∈ volumes properties, OneKind volume) :
    MountsKept Recased resource resource' := by
  refine mountsKept_of_sources likeness_recased same ?_
  intro properties found declaration _ mount _ volume mounted volume' pair
  obtain ⟨name, -, held⟩ := Option.bind_eq_some_iff.mp mounted
  exact volumeSource?_respelled pair.apart.self
    (single properties found volume (List.mem_of_find?_eq_some held)) pair.same


/-- Policies do not depend on the letters of keys, and neither do the questions asked for them. -/
theorem build_respelled (approver : WildcardApprover) (options : BuildOptions)
    (pulled : List FragmentImport) :
    (∀ evaluated respelled : Evaluated, evaluated.document.Every Value.KeysApart →
      VolumesOfOneKind evaluated → Respelled evaluated.document respelled.document →
        let one := (ofTemplate approver options pulled evaluated).outcome
        let other := (ofTemplate approver options pulled respelled).outcome
        one.1.toOption = other.1.toOption ∧ one.2 = other.2) ∧
    ∀ document respelled : Value, document.Every Value.KeysApart → Respelled document respelled →
      let one := (ofSpecFile approver options document).outcome
      let other := (ofSpecFile approver options respelled).outcome
      one.1.toOption = other.1.toOption ∧ one.2 = other.2 := by
  have agreement := agreement_self approver options
  constructor
  · intro evaluated respelled apart single same
    have tracks := tracks_ofTemplate likeness_recased agreement pulled evaluated respelled
      ⟨apart, same⟩ fun resources found resource member isGroup resource' pair =>
        mountsKept_recased pair (single resources found resource member isGroup)
    have outcomes := tracks.outcome rfl
    exact ⟨paired_eq_iff.mp outcomes.1, outcomes.2⟩
  · intro document respelled apart same
    have outcomes := (tracks_ofSpecFile likeness_recased agreement ⟨apart, same⟩).outcome rfl
    exact ⟨paired_eq_iff.mp outcomes.1, outcomes.2⟩

def till (environment : String) : Value :=
  .object [("name", .string "till"),
    ("properties", .object [
      (environment, .array [.object [
        ("name", .string "TOKEN"), ("value", .string "[parameters('token')]")]]),
      ("image", .string "till:2"),
      ("volumeMounts", .array [.object [
        ("mountPath", .string "/data"), ("name", .string "data")]])])]

def stall (resources environment : String) (volume : List (String × Value)) : Evaluated where
  document := .object [(resources, .array [.object [
    ("name", .string "stall"),
    ("properties", .object [
      ("containers", .array [till environment]), ("volumes", .array [.object volume])]),
    ("type", .string "Microsoft.ContainerInstance/containerGroups")]])]

theorem stall_respelled {resources resources' environment environment' : String}
    {volume volume' : List (String × Value)} (listed : sameLetters resources resources' = true)
    (declared : sameLetters environment environment' = true)
    (changed : Respelled (.object volume) (.object volume')) :
    Respelled (stall resources environment volume).document
      (stall resources' environment' volume').document := by
  have kept (member : String × Value) : RespelledMember member member :=
    .intro (sameLetters_refl member.1) (respelled_refl member.2)
  have inside (key : String) {value value' : Value} (same : Respelled value value') :
      RespelledMember (key, value) (key, value') := .intro (sameLetters_refl key) same
  have container : Respelled (till environment) (till environment') :=
    .object (.cons (kept _) (.cons (inside _ (.object (.cons (.intro declared (respelled_refl _))
      (.cons (kept _) (.cons (kept _) .nil))) (.refl _))) .nil)) (.refl _)
  refine .object (.cons (.intro listed (.array (.cons ?_ .nil))) .nil) (.refl _)
  refine .object (.cons (kept _) (.cons (inside _ ?_) (.cons (kept _) .nil))) (.refl _)
  exact .object (.cons (inside _ (.array (.cons container .nil)))
    (.cons (inside _ (.array (.cons changed .nil))) .nil)) (.refl _)

theorem build_stall :
    let one := stall "resources" "environmentVariables"
      [("emptyDir", .object []), ("name", .string "data")]
    let other := stall "Resources" "EnvironmentVariables"
      [("NAME", .string "data"), ("emptydir", .object [])]
    one.document.Every Value.KeysApart ∧ VolumesOfOneKind one ∧
      Respelled one.document other.document ∧ ∃ policies,
        (ofTemplate (fun _ => true) cautious [] one).outcome = (.ok policies, [⟨"till", "TOKEN"⟩]) ∧
        (ofTemplate (fun _ => true) cautious [] other).outcome =
          (.ok policies, [⟨"till", "TOKEN"⟩]) := by
  intro one other
  have apart : one.document.Every Value.KeysApart := by decide +kernel
  have single : VolumesOfOneKind one := by decide +kernel
  have volume : Respelled (.object [("emptyDir", .object []), ("name", .string "data")])
      (.object [("NAME", .string "data"), ("emptydir", .object [])]) :=
    .object (.cons (.intro (by decide) (respelled_refl _))
      (.cons (.intro (by decide) (respelled_refl _)) .nil)) (.swap _ _ _)
  have same : Respelled one.document other.document :=
    stall_respelled (by decide) (by decide) volume
  obtain ⟨policies, built, -⟩ := exists_ok (ofTemplate (fun _ => true) cautious [] one).outcome.1
    (fun _ => ()) () (by decide +kernel)
  have asked : (ofTemplate (fun _ => true) cautious [] one).outcome.2 = [⟨"till", "TOKEN"⟩] := by
    decide +kernel
  have agree := (build_respelled (fun _ => true) cautious []).1 one other apart single same
  refine ⟨apart, single, same, policies, Prod.ext built asked, Prod.ext ?_ (agree.2 ▸ asked)⟩
  have equal := agree.1
  rw [built] at equal
  exact ok_of_toOption equal.symm

end Policy

end Enforcement
