import Enforcement.Policy.SpecFile
import Enforcement.Proofs.Policy.Compilation

/-!
Policies compiled from specification files that are alike. Variables and mounts are written in their
own way there, and nobody is asked about them.
-/

namespace Enforcement

open Enforcement.Consulting Enforcement.Json Enforcement.Template

section

variable {alike : Value → Value → Prop} (likeness : Likeness alike)

include likeness

namespace Container

theorem paired_specFileEnvRule {declaration declaration' : Value}
    (same : alike declaration declaration') :
    Paired Eq (specFileEnvRule declaration) (specFileEnvRule declaration') := by
  refine (paired_requiredText likeness same "name" "environment variable").bind ?_
  rintro name _ rfl
  have value : (property? declaration "value").bind scalarText? =
      (property? declaration' "value").bind scalarText? :=
    likeness.bind_property same "value" fun _ _ held => (likeness.form held).scalarText?
  rw [value]
  split
  · exact .failed _ _
  · refine likeness.property_cases declaration declaration' "regex" same (.done rfl)
      fun found found' held => ?_
    cases likeness.form held with
    | bool flag => exact paired_self _
    | null | number | string | array | object => exact .failed _ _

theorem paired_specFileMount {declaration declaration' : Value}
    (same : alike declaration declaration') :
    Paired Eq (specFileMount declaration) (specFileMount declaration') := by
  refine (paired_requiredText likeness same "mountType" "volume mount").bind ?_
  rintro kind _ rfl
  refine (paired_requiredText likeness same "mountPath" "volume mount").bind ?_
  rintro destination _ rfl
  refine (paired_flagField likeness same "readonly").bind ?_
  rintro readOnly _ rfl
  exact paired_self _

theorem paired_specFileMounts {properties properties' : Value}
    (same : alike properties properties') :
    Paired Eq (declaredMounts .specFile properties) (declaredMounts .specFile properties') :=
  (paired_listField likeness same "volumeMounts").bind fun _ _ listed =>
    .mapM_eq listed fun _ _ item => paired_specFileMount likeness item

end Container

theorem Policy.paired_listedFragments {document document' : Value}
    (same : alike document document') :
    Paired Eq (listedFragments document) (listedFragments document') := by
  unfold listedFragments
  refine likeness.property_cases document document' "fragments" same (.done rfl)
    fun found found' held => ?_
  cases likeness.form held with
  | array each => exact .mapM_eq each fun _ _ entry => FragmentImport.paired_ofValue likeness entry
  | null | bool | number | string | object => exact .failed _ _

variable {asked : List WildcardQuestion → List WildcardQuestion → Prop}
  {approver approver' : WildcardApprover} {options options' : BuildOptions}

theorem Container.tracks_specFileEnvRules (container : String) {properties properties' : Value}
    (same : alike properties properties') :
    Tracks asked Eq (declaredEnvRules approver options .specFile container properties)
      (declaredEnvRules approver' options' .specFile container properties') :=
  (tracks_lift (paired_listField likeness same "environmentVariables")).bind fun _ _ listed =>
    tracks_mapM_eq listed fun _ _ _ item => tracks_lift (paired_specFileEnvRule likeness item)

theorem Policy.tracks_ofSpecFile (agreement : Agreement asked approver options approver' options')
    {document document' : Value} (same : alike document document') :
    Tracks asked Eq (ofSpecFile approver options document)
      (ofSpecFile approver' options' document') := by
  have lists := likeness.listProperty? same "containers"
  unfold ofSpecFile filledList?
  generalize listProperty? document "containers" = declared at lists
  generalize listProperty? document' "containers" = declared' at lists
  cases lists with
  | none => exact tracks_throw _ _
  | some each =>
      cases each with
      | nil => exact tracks_throw _ _
      | cons head rest =>
          refine (tracks_mapM_eq (.cons head rest) fun declaration _ declaration' pair =>
            have inside := Container.alike_propertiesOf likeness pair
            Container.tracks_compile likeness agreement pair
              (fun name => Container.tracks_specFileEnvRules likeness name inside)
              (Container.paired_specFileMounts likeness inside)).bind ?_
          rintro containers _ rfl
          refine (tracks_lift (paired_listedFragments likeness same)).bind ?_
          rintro fragments _ rfl
          exact tracks_pure rfl

end

end Enforcement
