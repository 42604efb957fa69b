import Enforcement.Proofs.CommandLine.Work
import Enforcement.Proofs.Policy.Compilation
import Enforcement.Proofs.Policy.Distinct

/-!
The fragments of a policy: where each of them comes from, in which order they stand, and that it
makes no difference how often one of them is given.
-/

namespace Enforcement

open Enforcement.CommandLine Enforcement.Consulting Enforcement.Json Enforcement.Template
open Enforcement.Text

section Distinct

variable {α : Type} [DecidableEq α]

theorem distinct_segment {segment segment' : List α} (same : distinct segment = distinct segment')
    (before after : List α) :
    distinct (before ++ segment ++ after) = distinct (before ++ segment' ++ after) := by
  have behind : distinct (segment ++ after) = distinct (segment' ++ after) := by
    rw [← distinct_distinct_append segment, same, distinct_distinct_append]
  rw [List.append_assoc, List.append_assoc, distinct_append before, behind, ← distinct_append]

theorem distinct_again (items : List α) : distinct (distinct items) = distinct items :=
  distinct_of_nodup (nodup_distinct items)

end Distinct

def Lists (declared : Option Value) (fragments : List FragmentImport) : Prop :=
  (declared = none ∧ fragments = []) ∨ ∃ entries, declared = some (.array entries) ∧
    List.Forall₂ (fun entry fragment => FragmentImport.ofValue entry = .ok fragment) entries
      fragments

theorem lists_of_mapM {entries : List Value} {fragments : List FragmentImport}
    (read : entries.mapM FragmentImport.ofValue = .ok fragments) :
    Lists (some (.array entries)) fragments := .inr ⟨entries, rfl, forall₂_of_mapM read⟩

namespace Policy

/-- A group keeps the fragments of others out by a tag that is true, as a flag or as a text. -/
def OptsOut (resource : Value) : Prop :=
  ∃ tags said, property? resource "tags" = some tags ∧
    property? tags "Annotate-zero-sidecar" = some said ∧
    (said = .bool true ∨ ∃ text, said = .string text ∧ sameLetters text "true" = true)

theorem isZeroSidecar_iff {resource : Value} :
    isZeroSidecar resource = true ↔ OptsOut resource := by
  unfold isZeroSidecar OptsOut Defaults.zeroSidecarTag
  cases property? resource "tags" with
  | none => simp
  | some tags =>
      cases said : property? tags "Annotate-zero-sidecar" with
      | none => simp [said]
      | some value => cases value <;> simp [said]

instance (resource : Value) : Decidable (OptsOut resource) :=
  decidable_of_iff _ isZeroSidecar_iff

def platformFragment (options : BuildOptions) : FragmentImport :=
  { issuer := Defaults.infrastructureIssuer
    feed := Defaults.infrastructureFeed
    minimumSvn := options.infrastructureSvn.getD "1"
    includes := [.containers, .fragments] }

def given (options : BuildOptions) (pulled : List FragmentImport) (resource : Value) :
    List FragmentImport :=
  if OptsOut resource then []
  else (if options.excludeDefaultFragments then [] else [platformFragment options]) ++ pulled

theorem externalFragments_eq (options : BuildOptions) (pulled : List FragmentImport)
    (resource : Value) :
    externalFragments options pulled resource = given options pulled resource := by
  have platform : Defaults.infrastructureFragment options.infrastructureSvn =
      platformFragment options := rfl
  unfold externalFragments given
  rw [platform]
  by_cases kept : OptsOut resource
  · rw [if_pos kept, if_pos (isZeroSidecar_iff.mpr kept)]
  · rw [if_neg kept, if_neg (mt isZeroSidecar_iff.mp kept)]
    cases options.excludeDefaultFragments with
    | true => rfl
    | false => rfl

theorem lists_standalone {properties : Value} {fragments : List FragmentImport}
    (read : standaloneFragments properties = .ok fragments) :
    Lists ((property? properties "confidentialComputeProperties").bind
      (property? · "standaloneFragments")) fragments := by
  unfold standaloneFragments at read
  generalize (property? properties "confidentialComputeProperties").bind
    (property? · "standaloneFragments") = declared at read ⊢
  split at read
  · cases read
    exact .inl ⟨rfl, rfl⟩
  · exact lists_of_mapM read
  · cases read

theorem lists_document {document : Value} {fragments : List FragmentImport}
    (read : listedFragments document = .ok fragments) :
    Lists (property? document "fragments") fragments := by
  unfold listedFragments at read
  generalize property? document "fragments" = declared at read ⊢
  split at read
  · cases read
    exact .inl ⟨rfl, rfl⟩
  · exact lists_of_mapM read
  · cases read

/-- The fragments of a group's policy: those that it is given, then those that it lists. -/
structure FragmentsOfGroup (options : BuildOptions) (pulled : List FragmentImport)
    (resource : Value) (policy : Policy) (standalone : List FragmentImport) : Prop where
  listed : ∃ properties, property? resource "properties" = some properties ∧
    Lists ((property? properties "confidentialComputeProperties").bind
      (property? · "standaloneFragments")) standalone
  exact : policy.fragments = (given options pulled resource ++ standalone).eraseDups
  once : policy.fragments.Nodup
  own : OptsOut resource → ∀ fragment ∈ policy.fragments, fragment ∈ standalone

variable {approver : WildcardApprover} {options : BuildOptions} {pulled : List FragmentImport}
  {before after : List WildcardQuestion}

theorem fragmentsOfGroup_of_gives {resource : Value} {policy : Policy}
    (done : Gives (ofGroup approver options pulled resource) before policy after) :
    ∃ standalone, FragmentsOfGroup options pulled resource policy standalone := by
  obtain ⟨properties, standalone, found, -, read, fragments⟩ := parts_of_gives done
  refine ⟨standalone, ⟨properties, found, lists_standalone read⟩, ?_, ?_, ?_⟩
  · rw [fragments, distinct_eq_eraseDups, externalFragments_eq]
  · rw [fragments]
    exact nodup_distinct _
  · intro out fragment member
    rw [fragments, mem_distinct, externalFragments_eq, given, if_pos out] at member
    exact member

theorem ofGroup_again {again : List FragmentImport} (same : distinct again = distinct pulled)
    (resource : Value) :
    ofGroup approver options again resource = ofGroup approver options pulled resource := by
  have external (standalone : List FragmentImport) :
      distinct (externalFragments options again resource ++ standalone) =
        distinct (externalFragments options pulled resource ++ standalone) := by
    rw [externalFragments_eq, externalFragments_eq]
    unfold given
    split
    · rfl
    · exact distinct_segment same _ standalone
  unfold ofGroup
  simp only [external]

theorem ofTemplate_again {again : List FragmentImport} (same : distinct again = distinct pulled)
    (evaluated : Evaluated) :
    ofTemplate approver options again evaluated = ofTemplate approver options pulled evaluated := by
  unfold ofTemplate
  simp only [funext (ofGroup_again same)]

theorem listed_of_gives {document : Value} {policy : Policy}
    (done : Gives (ofSpecFile approver options document) before policy after) :
    ∃ fragments, listedFragments document = .ok fragments ∧
      policy.fragments = distinct fragments := by
  unfold ofSpecFile at done
  cases filled : filledList? document "containers" with
  | none =>
      rw [filled] at done
      exact absurd done gives_throw
  | some declared =>
      rw [filled] at done
      obtain ⟨containers, _, -, done⟩ := gives_bind.mp done
      obtain ⟨fragments, _, read, done⟩ := gives_bind.mp done
      obtain ⟨rfl, -⟩ := gives_pure.mp done
      exact ⟨fragments, (gives_lift.mp read).1, rfl⟩

theorem perform_specFile (path : String) (tools : Tools) (desk : Desk) :
    ((PolicySource.specFile path).policies options pulled).perform tools desk =
      ((do
        let document ← ((loadSpecFile path).perform tools desk).1
        let policy ← (ofSpecFile (fun _ => false) options document).outcome.1
        return [{ policy with fragments := distinct (pulled ++ policy.fragments) }]), desk) := by
  unfold PolicySource.policies
  rw [Job.perform_bind, (quiet_loadSpecFile path).perform_eq tools desk]
  cases ((loadSpecFile path).perform tools desk).1 with
  | error failure => rfl
  | ok document =>
      dsimp only
      rw [Job.perform_bind, Job.perform_lift]
      change _ = (do
        let policy ← (ofSpecFile (fun _ => false) options document).outcome.1
        return [{ policy with fragments := distinct (pulled ++ policy.fragments) }], desk)
      cases (ofSpecFile (fun _ => false) options document).outcome.1 with
      | error failure => rfl
      | ok policy => rfl

/--
The fragments of each group, and of a specification file that is built by command: each is there
once, where it comes first among the platform's, those pulled and those listed, and a group whose
tag keeps others out has none but its own. Whether the list of those pulled names one of them again
makes no difference to anything.
-/
theorem fragments_exact (approver : WildcardApprover) (options : BuildOptions)
    (pulled : List FragmentImport) :
    (∀ evaluated policies,
      (ofTemplate approver options pulled evaluated).outcome.1 = .ok policies →
        ∃ resources, evaluated.resources? = some resources ∧
          List.Forall₂
            (fun resource policy =>
              ∃ standalone, FragmentsOfGroup options pulled resource policy standalone)
            (resources.filter isContainerGroup) policies) ∧
    (∀ evaluated,
      (ofTemplate approver options pulled.eraseDups evaluated).outcome =
        (ofTemplate approver options pulled evaluated).outcome) ∧
    ∀ path tools desk,
      (∀ policies after,
        ((PolicySource.specFile path).policies options pulled).perform tools desk =
          (.ok policies, after) →
        ∃ document own policy, ((loadSpecFile path).perform tools desk).1 = .ok document ∧
          Lists (property? document "fragments") own ∧ policies = [policy] ∧
          policy.fragments = (pulled ++ own).eraseDups ∧ policy.fragments.Nodup) ∧
      ((PolicySource.specFile path).policies options pulled.eraseDups).perform tools desk =
        ((PolicySource.specFile path).policies options pulled).perform tools desk := by
  have same : distinct pulled.eraseDups = distinct pulled := by
    rw [← distinct_eq_eraseDups, distinct_again]
  refine ⟨?_, ?_, fun path tools desk => ⟨?_, ?_⟩⟩
  · intro evaluated policies built
    obtain ⟨resources, found, groups⟩ := groups_of_gives (Prod.ext built rfl)
    refine ⟨resources, found, (gives_each groups).imp ?_⟩
    rintro resource policy ⟨_, _, group⟩
    exact fragmentsOfGroup_of_gives group
  · intro evaluated
    rw [ofTemplate_again same]
  · intro policies after run
    rw [perform_specFile] at run
    obtain ⟨document, loaded, rest⟩ := bind_ok.mp (congrArg Prod.fst run)
    obtain ⟨policy, built, rest⟩ := bind_ok.mp rest
    cases rest
    obtain ⟨own, read, listed⟩ := listed_of_gives (Prod.ext built rfl)
    refine ⟨document, own, _, loaded, lists_document read, rfl, ?_, nodup_distinct _⟩
    have inner := distinct_segment (distinct_again own) pulled []
    rw [List.append_nil, List.append_nil] at inner
    change distinct (pulled ++ policy.fragments) = _
    rw [listed, inner, distinct_eq_eraseDups]
  · have outer (own : List FragmentImport) :
        distinct (pulled.eraseDups ++ own) = distinct (pulled ++ own) := by
      rw [← distinct_eq_eraseDups, distinct_distinct_append]
    rw [perform_specFile, perform_specFile]
    simp only [outer]

def crane : FragmentImport := ⟨"did:web:vault", "vault.example/crane", "3", [.containers]⟩

def vaultGroup (said : Value) : Value :=
  .object [("name", .string "vault"),
    ("properties", .object [
      ("confidentialComputeProperties", .object [("standaloneFragments", .array [.object [
        ("feed", .string crane.feed), ("includes", .array [.string "containers"]),
        ("issuer", .string crane.issuer), ("minimumSvn", .string crane.minimumSvn)]])]),
      ("containers", .array [.object [("image", .string "vault:1"), ("name", .string "web")]])]),
    ("tags", .object [("annotate-ZERO-sidecar", said)]),
    ("type", .string "Microsoft.ContainerInstance/containerGroups")]

def vault : Evaluated where
  document := .object
    [("resources", .array [vaultGroup (.string "TRUE"), vaultGroup (.bool false)])]

theorem fragments_vault : ∃ policies,
    (ofTemplate (fun _ => false) ⟨false, false, false, some "2", false⟩ [crane, crane]
      vault).outcome.1 = .ok policies ∧
    policies.map (·.fragments) =
      [[crane], [platformFragment ⟨false, false, false, some "2", false⟩, crane]] ∧
    (ofTemplate (fun _ => false) ⟨false, false, false, some "2", false⟩ [crane]
      vault).outcome.1 = .ok policies := by
  obtain ⟨policies, built, fragments⟩ := exists_ok
    (ofTemplate (fun _ => false) ⟨false, false, false, some "2", false⟩ [crane, crane]
      vault).outcome.1 (·.map (·.fragments))
    [[crane], [platformFragment ⟨false, false, false, some "2", false⟩, crane]]
    (by decide +kernel)
  have once := (fragments_exact (fun _ => false) ⟨false, false, false, some "2", false⟩
    [crane, crane]).2.1 vault
  rw [show [crane, crane].eraseDups = [crane] by decide +kernel] at once
  exact ⟨policies, built, fragments, (congrArg Prod.fst once).trans built⟩

end Policy

end Enforcement
