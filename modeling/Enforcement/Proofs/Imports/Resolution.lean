import Enforcement.Proofs.Imports.Fragment
import Enforcement.Proofs.Policy.Distinct

/-!
The resolution of an image: which imports come of it, which error, and which calls were made. All of
its fragments are imported or none.
-/

namespace Enforcement.Resolver

open Enforcement.Files

/-- What can come of an image, and the calls that were made for it. -/
inductive Resolves (resolver : Resolver) (image minimum : String) (tools : Tools) (desk : Desk) :
    List ToolCall → Except Error (List FragmentImport) → Desk → Prop
  | noMinimum {failure : Error} (least : Svn.parse minimum = .error failure) :
      Resolves resolver image minimum tools desk [] (.error failure) desk
  | undiscovered {lowest : Nat} {calls : List ToolCall} {failure : Error} {after : Desk}
      (least : Svn.parse minimum = .ok lowest)
      (discover : resolver.registry.Discovers image tools desk calls (.error failure) after) :
      Resolves resolver image minimum tools desk calls (.error failure) after
  | malformed {lowest : Nat} {calls : List ToolCall} {digests : List String} {digest : String}
      {found : Desk} (least : Svn.parse minimum = .ok lowest)
      (discover : resolver.registry.Discovers image tools desk calls (.ok digests) found)
      (first : digests.find? (!Image.isDigest ·) = some digest) :
      Resolves resolver image minimum tools desk calls
        (.error (.output "oras" (.digestMalformed digest image))) found
  | failed {lowest : Nat} {reference : ImageReference} {discovery calls : List ToolCall}
      {digests : List String} {failure : Error} {found after : Desk}
      (least : Svn.parse minimum = .ok lowest)
      (parsed : ImageReference.parse image = .ok reference)
      (discover : resolver.registry.Discovers image tools desk discovery (.ok digests) found)
      (valid : ∀ digest ∈ digests, Image.isDigest digest = true)
      (attempts : Attempts resolver reference minimum tools found digests calls (.error failure)
        after) :
      Resolves resolver image minimum tools desk (discovery ++ calls) (.error failure) after
  | resolved {lowest : Nat} {reference : ImageReference} {discovery calls : List ToolCall}
      {digests : List String} {statements : List FragmentImport} {found after : Desk}
      (least : Svn.parse minimum = .ok lowest)
      (parsed : ImageReference.parse image = .ok reference)
      (discover : resolver.registry.Discovers image tools desk discovery (.ok digests) found)
      (valid : ∀ digest ∈ digests, Image.isDigest digest = true)
      (attempts : Attempts resolver reference minimum tools found digests calls (.ok statements)
        after) :
      Resolves resolver image minimum tools desk (discovery ++ calls) (.ok (distinct statements))
        after

theorem Resolves.calls_eq {resolver : Resolver} {image minimum : String} {tools : Tools}
    {desk after : Desk} {calls : List ToolCall} {result : Except Error (List FragmentImport)}
    (resolves : Resolves resolver image minimum tools desk calls result after) :
    after.calls = desk.calls ++ calls := by
  cases resolves with
  | noMinimum least => exact (List.append_nil _).symm
  | undiscovered least discover => exact discover.calls_eq
  | malformed least discover first => exact discover.calls_eq
  | failed least parsed discover valid attempts =>
      rw [attempts.calls_eq, discover.calls_eq, List.append_assoc]
  | resolved least parsed discover valid attempts =>
      rw [attempts.calls_eq, discover.calls_eq, List.append_assoc]

theorem ne_empty_of_isDigest {digest : String} (valid : Image.isDigest digest = true) :
    digest ≠ "" := by
  rintro rfl
  revert valid
  decide

theorem find?_malformed_none {digests : List String} :
    digests.find? (!Image.isDigest ·) = none ↔
      ∀ digest ∈ digests, Image.isDigest digest = true := by
  simp

theorem reference_of_discovers {resolver : Resolver} {image : String} {tools : Tools}
    {desk after : Desk} {calls : List ToolCall} {digests : List String}
    (discover : resolver.registry.Discovers image tools desk calls (.ok digests) after) :
    ∃ reference, ImageReference.parse image = .ok reference := by
  cases discover with
  | found parsed call read => exact ⟨_, parsed⟩

theorem discovers_ok_iff {registry : Registry} {image : String} {tools : Tools}
    {desk found : Desk} {reference : ImageReference}
    (parsed : ImageReference.parse image = .ok reference) {calls : List ToolCall}
    {digests : List String} :
    registry.Discovers image tools desk calls (.ok digests) found ↔
      ∃ output document, desk.ask tools (registry.discoverCall reference) = (.ok output, found) ∧
        output.exit = some 0 ∧ discoveryShape.readDocument output.stdout = .ok document ∧
        discoveredDigests document = digests ∧ calls = [registry.discoverCall reference] := by
  constructor
  · intro discover
    cases discover with
    | @found reference' output document _ parsed' call read =>
        rw [parsed] at parsed'
        cases parsed'
        cases call with
        | done answer exit => exact ⟨output, document, answer, exit, read, rfl, rfl⟩
  · intro given
    obtain ⟨output, document, answer, exit, read, rfl, rfl⟩ := given
    exact .found parsed (.done answer exit) read

/-- The rules are sound and complete for the resolution of an image. -/
theorem perform_resolveAll (resolver : Resolver) (image minimum : String) (tools : Tools)
    (desk : Desk) (result : Except Error (List FragmentImport)) (after : Desk) :
    (resolver.resolveAll image minimum).perform tools desk = (result, after) ↔
      ∃ calls, Resolves resolver image minimum tools desk calls result after := by
  unfold resolveAll
  rw [Job.perform_bind, Job.perform_lift]
  -- Some rule covers every run, and so the runs of the rules are all there are.
  apply eq_iff_of_total
  · intro result after given
    obtain ⟨calls, resolves⟩ := given
    cases resolves with
    | noMinimum least => rw [least]
    | undiscovered least discover =>
        rw [least]
        dsimp only
        rw [Job.perform_bind, (Registry.perform_discover ..).mpr ⟨_, discover⟩]
    | malformed least discover first =>
        rw [least]
        dsimp only
        rw [Job.perform_bind, (Registry.perform_discover ..).mpr ⟨_, discover⟩]
        dsimp only
        rw [first]
        rfl
    | failed least parsed discover valid attempts =>
        have some := fun digest member => ne_empty_of_isDigest (valid digest member)
        have all := (resolver.perform_digests parsed minimum tools some _ _ _).mpr ⟨_, attempts⟩
        rw [least]
        dsimp only
        rw [Job.perform_bind, (Registry.perform_discover ..).mpr ⟨_, discover⟩]
        dsimp only
        rw [find?_malformed_none.mpr valid]
        dsimp only
        rw [Job.perform_bind, all]
    | resolved least parsed discover valid attempts =>
        have some := fun digest member => ne_empty_of_isDigest (valid digest member)
        have all := (resolver.perform_digests parsed minimum tools some _ _ _).mpr ⟨_, attempts⟩
        rw [least]
        dsimp only
        rw [Job.perform_bind, (Registry.perform_discover ..).mpr ⟨_, discover⟩]
        dsimp only
        rw [find?_malformed_none.mpr valid]
        dsimp only
        rw [Job.perform_bind, all]
        rfl
  · cases least : Svn.parse minimum with
    | error failure => exact ⟨_, _, _, .noMinimum least⟩
    | ok lowest =>
        obtain ⟨discovered, found, discovery, discover⟩ : ∃ discovered found discovery,
            resolver.registry.Discovers image tools desk discovery discovered found :=
          ⟨_, _, (Registry.perform_discover resolver.registry image tools desk _ _).mp rfl⟩
        rcases discovered with failure | digests
        · exact ⟨_, _, _, .undiscovered least discover⟩
        · cases first : digests.find? (!Image.isDigest ·) with
          | some digest => exact ⟨_, _, _, .malformed least discover first⟩
          | none =>
              have valid := find?_malformed_none.mp first
              have some := fun digest member => ne_empty_of_isDigest (valid digest member)
              obtain ⟨reference, parsed⟩ := reference_of_discovers discover
              obtain ⟨results, after, calls, attempts⟩ : ∃ results after calls,
                  Attempts resolver reference minimum tools found digests calls results after :=
                ⟨_, _, (resolver.perform_digests parsed minimum tools some found _ _).mp rfl⟩
              rcases results with failure | statements
              · exact ⟨_, _, _, .failed least parsed discover valid attempts⟩
              · exact ⟨_, _, _, .resolved least parsed discover valid attempts⟩

theorem resolveAll_ok_iff (resolver : Resolver) (image minimum : String) (tools : Tools)
    (desk : Desk) (imports : List FragmentImport) (after : Desk) :
    (resolver.resolveAll image minimum).perform tools desk = (.ok imports, after) ↔
      ∃ lowest reference output document found calls fragments,
        Svn.parse minimum = .ok lowest ∧
        ImageReference.parse image = .ok reference ∧
        desk.ask tools (resolver.registry.discoverCall reference) = (.ok output, found) ∧
        output.exit = some 0 ∧
        discoveryShape.readDocument output.stdout = .ok document ∧
        (∀ digest ∈ discoveredDigests document, Image.isDigest digest = true) ∧
        Accepted resolver reference minimum tools found (discoveredDigests document) calls
          fragments after ∧
        imports = (fragments.map (·.statement minimum)).eraseDups := by
  rw [perform_resolveAll]
  constructor
  · intro run
    obtain ⟨_, resolves⟩ := run
    cases resolves with
    | @resolved lowest reference _ calls digests _ found _ least parsed discover valid attempts =>
        obtain ⟨output, document, answer, exit, read, rfl, rfl⟩ :=
          (discovers_ok_iff parsed).mp discover
        cases attempts with
        | @all _ fragments _ accepted =>
            exact ⟨lowest, reference, output, document, found, calls, fragments, least, parsed,
              answer, exit, read, valid, accepted, distinct_eq_eraseDups _⟩
  · intro steps
    obtain ⟨lowest, reference, output, document, found, calls, fragments, least, parsed, answer,
      exit, read, valid, accepted, rfl⟩ := steps
    have discover := (discovers_ok_iff parsed).mpr ⟨output, document, answer, exit, read, rfl, rfl⟩
    rw [← distinct_eq_eraseDups]
    exact ⟨_, .resolved least parsed discover valid (.all accepted)⟩

theorem resolvePath_ok_iff {resolver : Resolver} {path minimum : String} {tools : Tools}
    {desk after : Desk} {statement : FragmentImport} :
    (resolver.resolvePath path minimum).perform tools desk = (.ok statement, after) ↔
      ∃ lowest output fragment svn, Svn.parse minimum = .ok lowest ∧
        desk.files.isFile path = true ∧
        desk.ask tools (resolver.signer.checkCall path) = (.ok output, after) ∧
        output.exit = some 0 ∧ VerifierOutput.parse output.stdout = .ok fragment ∧
        fragment.ensureMinimum minimum = .ok svn ∧ statement = fragment.statement minimum := by
  unfold resolvePath
  rw [Job.perform_bind, Job.perform_lift]
  constructor
  · intro run
    cases least : Svn.parse minimum with
    | error failure =>
        rw [least] at run
        cases run
    | ok lowest =>
        rw [least] at run
        dsimp only at run
        rcases verify : (resolver.signer.verify path).perform tools desk with
          ⟨failure | fragment, checked⟩
        · rw [importFile_unverified verify] at run
          cases run
        · obtain ⟨calls, verifies⟩ := (Signer.perform_verify ..).mp verify
          cases gate : fragment.ensureMinimum minimum with
          | error failure =>
              rw [importFile_stale verify gate] at run
              cases run
          | ok svn =>
              rw [importFile_accepted verify gate] at run
              cases run
              cases verifies with
              | verified present answer exit parsed =>
                  exact ⟨lowest, _, fragment, svn, rfl, present, answer, exit, parsed, gate, rfl⟩
  · intro steps
    obtain ⟨lowest, output, fragment, svn, least, present, answer, exit, parsed, gate, rfl⟩ := steps
    have verify := (Signer.perform_verify ..).mpr ⟨_, .verified present answer exit parsed⟩
    rw [least]
    exact importFile_accepted verify gate

theorem resolveAll_malformed {resolver : Resolver} {image minimum : String} {tools : Tools}
    {desk found : Desk} {lowest : Nat} {reference : ImageReference} {output : ToolOutput}
    {document : Json.Value} (least : Svn.parse minimum = .ok lowest)
    (parsed : ImageReference.parse image = .ok reference)
    (answer : desk.ask tools (resolver.registry.discoverCall reference) = (.ok output, found))
    (exit : output.exit = some 0)
    (read : discoveryShape.readDocument output.stdout = .ok document)
    (invalid : ∃ digest ∈ discoveredDigests document, Image.isDigest digest = false) :
    ∃ digest ∈ discoveredDigests document, Image.isDigest digest = false ∧
      (resolver.resolveAll image minimum).perform tools desk =
        (.error (.output "oras" (.digestMalformed digest image)), found) := by
  have discover := (discovers_ok_iff parsed).mpr ⟨output, document, answer, exit, read, rfl, rfl⟩
  obtain ⟨digest, first⟩ : ∃ digest,
      (discoveredDigests document).find? (!Image.isDigest ·) = some digest := by
    rw [← Option.isSome_iff_exists, List.find?_isSome]
    obtain ⟨digest, member, bad⟩ := invalid
    exact ⟨digest, member, by simp [bad]⟩
  refine ⟨digest, List.mem_of_find?_eq_some first, ?_, ?_⟩
  · simpa using List.find?_some first
  · exact (resolver.perform_resolveAll _ _ _ _ _ _).mpr ⟨_, .malformed least discover first⟩

/--
The resolution of an image ends as its rules say, with the calls that they list and no others. It
gives imports exactly when every step succeeds for every fragment, and one invalid digest ends it
before anything is pulled.
-/
theorem resolveAll_outcome (resolver : Resolver) (image minimum : String) (tools : Tools)
    (desk : Desk) :
    (∀ result after, (resolver.resolveAll image minimum).perform tools desk = (result, after) ↔
      ∃ calls, Resolves resolver image minimum tools desk calls result after) ∧
    (∀ calls result after, Resolves resolver image minimum tools desk calls result after →
      after.calls = desk.calls ++ calls) ∧
    (∀ imports after,
      (resolver.resolveAll image minimum).perform tools desk = (.ok imports, after) ↔
        ∃ lowest reference output document found calls fragments,
          Svn.parse minimum = .ok lowest ∧
          ImageReference.parse image = .ok reference ∧
          desk.ask tools (resolver.registry.discoverCall reference) = (.ok output, found) ∧
          output.exit = some 0 ∧
          discoveryShape.readDocument output.stdout = .ok document ∧
          (∀ digest ∈ discoveredDigests document, Image.isDigest digest = true) ∧
          Accepted resolver reference minimum tools found (discoveredDigests document) calls
            fragments after ∧
          imports = (fragments.map (·.statement minimum)).eraseDups) ∧
    (∀ fragment : VerifiedFragment, (fragment.statement minimum).issuer = fragment.issuer ∧
      (fragment.statement minimum).feed = fragment.feed ∧
      (fragment.statement minimum).minimumSvn = minimum) ∧
    (∀ lowest reference output document found,
      Svn.parse minimum = .ok lowest →
      ImageReference.parse image = .ok reference →
      desk.ask tools (resolver.registry.discoverCall reference) = (.ok output, found) →
      output.exit = some 0 →
      discoveryShape.readDocument output.stdout = .ok document →
      (∃ digest ∈ discoveredDigests document, Image.isDigest digest = false) →
      ∃ digest ∈ discoveredDigests document, Image.isDigest digest = false ∧
        (resolver.resolveAll image minimum).perform tools desk =
          (.error (.output "oras" (.digestMalformed digest image)), found)) := by
  refine ⟨resolver.perform_resolveAll image minimum tools desk, ?_,
    resolver.resolveAll_ok_iff image minimum tools desk, fun _ => ⟨rfl, rfl, rfl⟩, ?_⟩
  · intro calls result after resolves
    exact resolves.calls_eq
  · intro lowest reference output document found least parsed answer exit read invalid
    exact resolveAll_malformed least parsed answer exit read invalid

def contoso : Resolver :=
  ⟨⟨⟨"oras", 60⟩, fragmentArtifactType⟩, ⟨⟨"sign1util", 60⟩⟩, "/work"⟩

def answers (discovered : String) : Tools := fun earlier files _ =>
  match earlier with
  | [] => (.ok ⟨some 0, discovered, ""⟩, files)
  | [_] =>
    (.ok ⟨some 0, "Downloaded fragment.cose\n", ""⟩,
      files.put ["work", "sha256-a1", "fragment.cose"] (.file [] false))
  | _ =>
    (.ok ⟨some 0, "iss: did:x509:abc\nfeed: contoso/infra\npayload:\nsvn := \"7\"\n", ""⟩, files)

def oneFragment : Tools := answers "\x7b\"manifests\": [\x7b\"digest\": \"sha256:a1\"\x7d]\x7d"

def oneInvalid : Tools :=
  answers ("\x7b\"manifests\": [\x7b\"digest\": \"sha256:a1\"\x7d, " ++
    "\x7b\"digest\": \"latest\"\x7d]\x7d")

def emptyDesk : Desk := ⟨⟨⟨[], []⟩, []⟩, []⟩

theorem resolveAll_contoso :
    (∃ calls after, Resolves contoso "contoso.azurecr.io/app:1" "5" oneFragment emptyDesk calls
      (.ok [⟨"did:x509:abc", "contoso/infra", "5", []⟩]) after ∧ after.calls = [] ++ calls) ∧
    ∃ digest found, (contoso.resolveAll "contoso.azurecr.io/app:1" "5").perform oneInvalid
        emptyDesk =
        (.error (.output "oras" (.digestMalformed digest "contoso.azurecr.io/app:1")), found) ∧
      found.calls.length = 1 := by
  constructor
  · obtain ⟨imports, imported, same⟩ := exists_ok ((contoso.resolveAll "contoso.azurecr.io/app:1"
      "5").perform oneFragment emptyDesk).1 id [⟨"did:x509:abc", "contoso/infra", "5", []⟩]
      (by decide +kernel)
    have outcome := resolveAll_outcome contoso "contoso.azurecr.io/app:1" "5" oneFragment emptyDesk
    rcases run : (contoso.resolveAll "contoso.azurecr.io/app:1" "5").perform oneFragment emptyDesk
      with ⟨result, after⟩
    rw [run] at imported
    change result = .ok imports at imported
    obtain ⟨calls, resolves⟩ := (outcome.1 _ _).mp run
    have made := outcome.2.1 _ _ _ resolves
    rw [imported, ← id_eq imports, same] at resolves
    exact ⟨calls, after, resolves, made⟩
  · obtain ⟨reference, parsed, -⟩ := exists_ok (ImageReference.parse "contoso.azurecr.io/app:1")
      (fun _ => ()) () (by decide +kernel)
    obtain ⟨document, read, listed⟩ := exists_ok (discoveryShape.readDocument
      "\x7b\"manifests\": [\x7b\"digest\": \"sha256:a1\"\x7d, \x7b\"digest\": \"latest\"\x7d]\x7d")
      discoveredDigests ["sha256:a1", "latest"] (by decide +kernel)
    have outcome := resolveAll_outcome contoso "contoso.azurecr.io/app:1" "5" oneInvalid emptyDesk
    have invalid : ∃ digest ∈ discoveredDigests document, Image.isDigest digest = false :=
      ⟨"latest", by simp [listed], by decide +kernel⟩
    obtain ⟨digest, -, -, run⟩ := outcome.2.2.2.2 5 reference _ document _ rfl parsed rfl rfl read
      invalid
    exact ⟨digest, _, run, rfl⟩

end Enforcement.Resolver
