import Enforcement.Proofs.Imports.Sparing
import Enforcement.Proofs.Policy.Authoring

/-!
Where a fragment is written and its envelope is asked for: beside each other, at paths that are made
of the output directory and the package. A package may be any word, also one that has slashes; only
without one are the two files in the output directory under the names that they are to have.
-/

namespace Enforcement

open Enforcement.Files Enforcement.Text

theorem Signer.maintains_checked {α : Type} {fit : Store → Prop} {tools : Tools} {signer : Signer}
    {args : List String} {next : ToolOutput → Job α}
    (called : ∀ calls files call, fit files → fit (tools calls files call).2)
    (onward : ∀ output, Job.Maintains fit tools (next output)) :
    Job.Maintains fit tools (do
      let output ← signer.call args
      if !output.succeeded then Job.fail (failure output)
      next output) := by
  refine (Job.maintains_call called _ _).bind fun output => ?_
  split
  · exact (Job.quiet_fail _).maintains.bind fun _ => onward output
  · exact onward output

namespace FragmentRequest

section

variable {request : FragmentRequest} {signer : Signer} {registry : Registry} {policy : Policy}
  {tools : Tools} {fit : Store → Prop} {home place : Place} {contents : Option (List UInt8)}

theorem maintains_write (other : place ≠ destination home request.rego) :
    Job.Maintains (Holds home place contents) tools (request.write policy) := by
  have steps (feed text : String) : Job.Maintains (Holds home place contents) tools (do
      Job.createDirectories request.outputDirectory
      Job.writeText request.rego text
      return feed) := by
    refine (Job.maintains_createDirectories fun _ held => held.made _).bind fun _ => ?_
    refine (Job.maintains_writeText fun _ _ held wrote => held.written wrote other).bind fun _ => ?_
    exact (Job.quiet_pure feed).maintains
  have sound : Job.Maintains (Holds home place contents) tools (do
      let feed ← request.feedFor policy
      let text ← Rego.renderFragment policy request.package request.svn
      Job.createDirectories request.outputDirectory
      Job.writeText request.rego text
      return feed) :=
    (Job.quiet_lift _).maintains.bind fun feed => (Job.quiet_lift _).maintains.bind fun text =>
      steps feed text
  unfold write
  cases request.publication.isSome && request.signing.isNone with
  | true => exact (Job.quiet_fail _).maintains.bind fun _ => sound
  | false => exact sound

theorem maintains_sign
    (called : ∀ calls files call, fit files → fit (tools calls files call).2)
    (material : SigningMaterial) (feed : String) :
    Job.Maintains fit tools (request.sign signer registry material feed) := by
  have issue : Job.Maintains fit tools (signer.createIssuer material.chain) := by
    refine (Job.quiet_requireFile _ _).maintains.bind fun _ => ?_
    refine Signer.maintains_checked called fun output => ?_
    split
    · exact ((Job.quiet_fail _).bind fun _ => Job.quiet_pure _).maintains
    · exact (Job.quiet_pure _).maintains
  have sign (issuer : String) : Job.Maintains fit tools
      (signer.sign (request.signRequest material feed issuer)) := by
    refine (Job.quiet_requireFile _ _).maintains.bind fun _ => ?_
    refine (Job.quiet_requireFile _ _).maintains.bind fun _ => ?_
    refine (Job.quiet_requireFile _ _).maintains.bind fun _ => ?_
    exact Signer.maintains_checked called fun _ => (Job.quiet_pure _).maintains
  have publish (path : String) (publication : Option Publication) :
      Job.Maintains fit tools (publish registry path publication) := by
    cases publication with
    | none => exact (Job.quiet_pure _).maintains
    | some publication =>
        rw [Registry.publish_eq]
        refine (Job.quiet_lift _).maintains.bind fun _ => ?_
        refine (Registry.quiet_fileOperand path).maintains.bind fun _ => ?_
        exact (Registry.maintains_callChecked called _ _ _ _).bind fun _ =>
          (Job.quiet_pure _).maintains
  exact issue.bind fun issuer => (sign issuer).bind fun path =>
    (publish path request.publication).bind fun _ => (Job.quiet_pure _).maintains

theorem maintains_generate (spared : tools.Spare place)
    (other : place ≠ destination home request.rego) :
    Job.Maintains (Holds home place contents) tools
      (request.generate signer registry policy) := by
  rw [generate_eq]
  refine (maintains_write other).bind fun feed => ?_
  split
  · exact (Job.quiet_pure _).maintains
  · exact maintains_sign (fun calls _ call held => held.called spared calls call) _ feed

theorem Progress.created {material : SigningMaterial} {feed : String} {written : Desk}
    {calls : List ToolCall}
    (progress : Progress request signer registry tools material feed written calls)
    {call : ToolCall} (member : call ∈ calls) (create : call.args.head? = some "create") :
    ∃ issuer, call = signer.createCall (request.signRequest material feed issuer) := by
  have issuing : call ≠ signer.issuerCall material.chain := by
    rintro rfl
    exact absurd (Option.some.inj create) (by decide)
  cases progress with
  | none => cases member
  | issuer => exact absurd (List.mem_singleton.mp member) issuing
  | create answer exit mark =>
      have second := (List.mem_cons.mp member).resolve_left issuing
      exact ⟨_, List.mem_singleton.mp second⟩
  | @publish _ _ _ _ publication reference name answer exit mark created _ wanted parsed last =>
      rcases List.mem_cons.mp ((List.mem_cons.mp member).resolve_left issuing) with second | third
      · exact ⟨_, second⟩
      · rw [List.mem_singleton.mp third] at create
        cases publication with
        | attachTo image => exact absurd (Option.some.inj create) (by decide)
        | pushTo destination => exact absurd (Option.some.inj create) (by decide)

end

theorem envelope_eq (request : FragmentRequest) : envelopePath request.rego =
    join request.outputDirectory (request.package ++ ".rego.cose") := by
  have filled : request.package ++ ".rego" ≠ "" := by simp
  rw [envelopePath, rego, ← join_append _ _ filled, String.append_assoc]
  rfl

theorem childPath_rego (request : FragmentRequest) :
    ChildPath request.outputDirectory (request.package ++ ".rego") request.rego ↔
      '/' ∉ request.package.toList :=
  childPath_join_self.trans (plainName_extended_iff (by decide) (by decide))

theorem childPath_envelope (request : FragmentRequest) :
    ChildPath request.outputDirectory (request.package ++ ".rego.cose")
        (envelopePath request.rego) ↔ '/' ∉ request.package.toList := by
  rw [envelope_eq]
  exact childPath_join_self.trans (plainName_extended_iff (by decide) (by decide))

/--
The job writes one file, the rendered fragment, and hands the signer that file and a path beside it
for the envelope. These are the files that the output directory is to receive exactly if the package
has no slash; then no file outside the directory is written. Any word is taken for a package.
-/
theorem generate_output (request : FragmentRequest) (signer : Signer) (registry : Registry)
    (policy : Policy) (tools : Tools) (desk : Desk) :
    let after := ((request.generate signer registry policy).perform tools desk).2.files
    (∀ place, tools.Spare place → place ≠ destination desk.files.home request.rego →
      after.contents? place = desk.files.contents? place) ∧
    (∀ calls result after,
      Generates request signer registry policy tools desk calls result after →
        (∀ call ∈ calls, call.args.head? = some "create" → ∃ material feed issuer,
          call = signer.createCall (request.signRequest material feed issuer)) ∧
        ∀ files, result = .ok files → files.rego = request.rego ∧
          ∀ signed, files.signed = some signed → signed = envelopePath request.rego) ∧
    (∀ material feed issuer, (request.signRequest material feed issuer).payload = request.rego ∧
      (request.signRequest material feed issuer).out = envelopePath request.rego) ∧
    (ChildPath request.outputDirectory (request.package ++ ".rego") request.rego ↔
      '/' ∉ request.package.toList) ∧
    (ChildPath request.outputDirectory (request.package ++ ".rego.cose")
      (envelopePath request.rego) ↔ '/' ∉ request.package.toList) ∧
    (∀ directory name path, ChildPath directory name path → ∀ home,
      destination home path = destination home directory ++ [name]) ∧
    ('/' ∉ request.package.toList → ∀ place, tools.Spare place →
      ¬ destination desk.files.home request.outputDirectory <+: place →
        after.contents? place = desk.files.contents? place) ∧
    ((∃ text, Rego.renderFragment policy request.package request.svn = .ok text) ↔
      request.package ≠ "" ∧ Rego.Unbroken request.package.toList ∧
        ∃ value, Svn.parse request.svn = .ok value) := by
  intro after
  have kept (place : Place) (spared : tools.Spare place)
      (other : place ≠ destination desk.files.home request.rego) :
      after.contents? place = desk.files.contents? place :=
    (maintains_generate spared other desk ⟨rfl, rfl⟩).contents
  refine ⟨kept, ?_, fun _ _ _ => ⟨rfl, rfl⟩, request.childPath_rego, request.childPath_envelope,
    fun _ _ _ child => child.destination_eq, ?_, ?_⟩
  · intro calls result after generates
    cases generates with
    | unwritten write => exact ⟨by simp, nofun⟩
    | written unsigned write =>
        refine ⟨by simp, fun files same => ?_⟩
        cases same
        exact ⟨rfl, nofun⟩
    | @delivered material feed _ _ _ _ signing write deliver =>
        refine ⟨fun call member create => ?_, fun files same => ?_⟩
        · obtain ⟨issuer, same⟩ := deliver.progress.created member create
          exact ⟨material, feed, issuer, same⟩
        · subst same
          obtain ⟨rego, -, envelope, -⟩ := deliver.claims
          exact ⟨rego, fun signed same => Option.some.inj (same.symm.trans envelope)⟩
  · intro clean place spared outside
    refine kept place spared fun same => outside ?_
    rw [same, (request.childPath_rego.mpr clean).destination_eq]
    exact List.prefix_append _ _
  · constructor
    · intro given
      obtain ⟨text, rendered⟩ := given
      obtain ⟨filled, unbroken, version, -⟩ := Rego.renderFragment_ok_iff.mp rendered
      exact ⟨filled, unbroken, version⟩
    · intro given
      obtain ⟨filled, unbroken, version⟩ := given
      exact ⟨_, Rego.renderFragment_ok_iff.mpr ⟨filled, unbroken, version, String.toList_ofList⟩⟩

def obligingTools : Tools := fun _ files _ => (.ok ⟨some 0, "did:x509:0:sha256:abc\n", ""⟩, files)

theorem generate_output_attached :
    Store.contents? ((attached.generate signUtility oras ⟨[], []⟩).perform obligingTools
      signingDesk).2.files ["key.pem"] = some [] ∧
    destination [] attached.rego = ["out", "shop.rego"] := by
  obtain ⟨-, -, -, child, -, place, kept, -⟩ :=
    generate_output attached signUtility oras ⟨[], []⟩ obligingTools signingDesk
  have clean : '/' ∉ attached.package.toList := by decide
  have outside : ¬ destination signingDesk.files.home attached.outputDirectory <+: ["key.pem"] := by
    decide +kernel
  exact ⟨kept clean ["key.pem"] (fun _ _ _ => ⟨rfl, rfl⟩) outside,
    place _ _ _ (child.mpr clean) []⟩

def upward : FragmentRequest :=
  ⟨"../evil", "1", some "contoso/shop", "out", some ⟨"key.pem", "chain.pem", .es384⟩, none⟩

/-- Such a fragment is written and signed, and both files lie outside the output directory. -/
theorem generate_upward :
    (¬ ∃ name, ChildPath upward.outputDirectory name upward.rego) ∧
    ∃ files after, (upward.generate signUtility oras ⟨[], []⟩).perform signingTools signingDesk =
        (.ok files, after) ∧
      files = ⟨upward.rego, some (envelopePath upward.rego), "contoso/shop",
        some "did:x509:0:sha256:abc"⟩ ∧
      destination [] upward.rego = ["evil.rego"] ∧
      (after.files.contents? ["evil.rego"]).isSome = true ∧
      (after.files.contents? ["evil.rego.cose"]).isSome = true := by
  constructor
  · rintro ⟨name, child⟩
    exact absurd child.longer (by decide +kernel)
  · obtain ⟨files, after, run, seen⟩ := Job.exists_run
      ((upward.generate signUtility oras ⟨[], []⟩).perform signingTools signingDesk)
      (fun files after => (files, (after.files.contents? ["evil.rego"]).isSome,
        (after.files.contents? ["evil.rego.cose"]).isSome))
      (⟨upward.rego, some (envelopePath upward.rego), "contoso/shop",
        some "did:x509:0:sha256:abc"⟩, true, true) (by decide +kernel)
    simp only [Prod.mk.injEq] at seen
    obtain ⟨same, written, signed⟩ := seen
    exact ⟨files, after, run, same, by decide +kernel, written, signed⟩

end FragmentRequest

end Enforcement
