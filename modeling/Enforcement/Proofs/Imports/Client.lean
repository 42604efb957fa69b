import Enforcement.Image.Registry
import Enforcement.Proofs.Tool.Job
import Enforcement.Trust.Signer

/-!
What the registry's client and the verifier make of an answer, as relations with one rule for each
way a call can end. The rules are sound and complete whatever the tools answer and do to the files.
-/

namespace Enforcement

open Enforcement.Files Enforcement.Text

theorem eq_iff_of_total {α β : Type} {outcome : α × β} {relation : α → β → Prop}
    (sound : ∀ result after, relation result after → outcome = (result, after))
    (total : ∃ result after, relation result after) (result : α) (after : β) :
    outcome = (result, after) ↔ relation result after := by
  constructor
  · rintro rfl
    obtain ⟨result', after', holds⟩ := total
    cases sound result' after' holds
    exact holds
  · exact sound result after

theorem succeeded_iff {output : ToolOutput} :
    output.succeeded = true ↔ output.exit = some 0 := by
  simp [ToolOutput.succeeded]

theorem not_succeeded {output : ToolOutput} (exit : output.exit ≠ some 0) :
    output.succeeded = false := by
  rw [Bool.eq_false_iff]
  exact fun done => exit (succeeded_iff.mp done)

namespace Registry

def refusal (reference : ImageReference) (output : ToolOutput) : Error :=
  if isRefusal output.combined then
    .trust (.unauthorized reference.registry (trimmed output.combined))
  else failure output

def toolCall (registry : Registry) (directory : Option String) (args : List String) : ToolCall :=
  ⟨registry.setting.program, args, directory, 1000 * registry.setting.seconds⟩

def discoverCall (registry : Registry) (reference : ImageReference) : ToolCall :=
  registry.toolCall none
    ["discover", reference.toText, "-o", "json", "--artifact-type", registry.artifactType]

def pullCall (registry : Registry) (reference : ImageReference) (digest directory : String) :
    ToolCall :=
  registry.toolCall (some directory) ["pull", reference.atDigest digest]

/-- A call that must succeed. -/
inductive Checked (registry : Registry) (reference : ImageReference) (tools : Tools)
    (call : ToolCall) : Desk → Except Error ToolOutput → Desk → Prop
  | unanswered {desk after : Desk} {fault : RunFault}
      (answer : desk.ask tools call = (.error fault, after)) :
      Checked registry reference tools call desk
        (.error (.run (Job.withHint installHint fault))) after
  | refused {desk after : Desk} {output : ToolOutput}
      (answer : desk.ask tools call = (.ok output, after)) (exit : output.exit ≠ some 0) :
      Checked registry reference tools call desk (.error (refusal reference output)) after
  | done {desk after : Desk} {output : ToolOutput}
      (answer : desk.ask tools call = (.ok output, after)) (exit : output.exit = some 0) :
      Checked registry reference tools call desk (.ok output) after

theorem Checked.calls_eq {registry : Registry} {reference : ImageReference} {tools : Tools}
    {call : ToolCall} {desk after : Desk} {result : Except Error ToolOutput}
    (checked : Checked registry reference tools call desk result after) :
    after.calls = desk.calls ++ [call] := by
  have asked := desk.ask_calls tools call
  cases checked with
  | unanswered answer => rwa [answer] at asked
  | refused answer exit => rwa [answer] at asked
  | done answer exit => rwa [answer] at asked

theorem perform_callChecked (registry : Registry) (reference : ImageReference) (tools : Tools)
    (directory : Option String) (args : List String) (desk : Desk)
    (result : Except Error ToolOutput) (after : Desk) :
    (registry.callChecked reference directory args).perform tools desk = (result, after) ↔
      Checked registry reference tools (registry.toolCall directory args) desk result after := by
  apply eq_iff_of_total
  · intro result after checked
    unfold callChecked
    rw [Job.perform_bind]
    have called := @Job.perform_call tools desk installHint (registry.toolCall directory args)
    change (registry.call directory args).perform tools desk = _ at called
    rw [called]
    cases checked with
    | unanswered answer =>
        rw [answer]
        rfl
    | @refused _ output answer exit =>
        rw [answer]
        dsimp only [mapError_ok]
        rw [not_succeeded exit]
        unfold refusal
        cases isRefusal output.combined with
        | true => rfl
        | false => rfl
    | @done _ output answer exit =>
        rw [answer]
        dsimp only [mapError_ok]
        rw [succeeded_iff.mpr exit]
        rfl
  · rcases answer : desk.ask tools (registry.toolCall directory args) with ⟨fault | output, after⟩
    · exact ⟨_, _, .unanswered answer⟩
    · by_cases exit : output.exit = some 0
      · exact ⟨_, _, .done answer exit⟩
      · exact ⟨_, _, .refused answer exit⟩

inductive Fetches (registry : Registry) (reference : ImageReference) (tools : Tools)
    (digest directory : String) : Desk → Except Error String → Desk → Prop
  | failed {desk after : Desk} {failure : Error}
      (call : Checked registry reference tools (registry.pullCall reference digest directory) desk
        (.error failure) after) :
      Fetches registry reference tools digest directory desk (.error failure) after
  | unnamed {desk after : Desk} {output : ToolOutput}
      (call : Checked registry reference tools (registry.pullCall reference digest directory) desk
        (.ok output) after)
      (report : downloadedName? output.stdout = none) :
      Fetches registry reference tools digest directory desk
        (.error (.output "oras" (.noDownload digest))) after
  | named {desk after : Desk} {output : ToolOutput} {name : String}
      (call : Checked registry reference tools (registry.pullCall reference digest directory) desk
        (.ok output) after)
      (report : downloadedName? output.stdout = some name) :
      Fetches registry reference tools digest directory desk (.ok (join directory name)) after

theorem Fetches.calls_eq {registry : Registry} {reference : ImageReference} {tools : Tools}
    {digest directory : String} {desk after : Desk} {result : Except Error String}
    (fetches : Fetches registry reference tools digest directory desk result after) :
    after.calls = desk.calls ++ [registry.pullCall reference digest directory] := by
  cases fetches with
  | failed call => exact call.calls_eq
  | unnamed call report => exact call.calls_eq
  | named call report => exact call.calls_eq

theorem perform_pull (registry : Registry) {reference : ImageReference} {image : String}
    (parsed : ImageReference.parse image = .ok reference) (tools : Tools)
    {digest directory : String} {desk made : Desk}
    (scratch : desk.make directory = (.ok (), made)) (result : Except Error String)
    (after : Desk) :
    (registry.pull image digest directory).perform tools desk = (result, after) ↔
      Fetches registry reference tools digest directory made result after := by
  unfold pull
  rw [Job.perform_bind, Job.perform_lift, parsed]
  dsimp only
  rw [Job.perform_bind, Job.perform_createDirectories, scratch]
  dsimp only [mapError_ok]
  rw [Job.perform_bind]
  apply eq_iff_of_total
  · intro result after fetches
    cases fetches with
    | failed call => rw [(perform_callChecked ..).mpr call]
    | unnamed call report =>
        rw [(perform_callChecked ..).mpr call]
        dsimp only
        rw [report]
        rfl
    | named call report =>
        rw [(perform_callChecked ..).mpr call]
        dsimp only
        rw [report]
        rfl
  · obtain ⟨checked, after, call⟩ : ∃ checked after, Checked registry reference tools
        (registry.pullCall reference digest directory) made checked after :=
      ⟨_, _, (perform_callChecked registry reference tools (some directory)
        ["pull", reference.atDigest digest] made _ _).mp rfl⟩
    rcases checked with failure | output
    · exact ⟨_, _, .failed call⟩
    · cases report : downloadedName? output.stdout with
      | none => exact ⟨_, _, .unnamed call report⟩
      | some name => exact ⟨_, _, .named call report⟩

inductive Discovers (registry : Registry) (image : String) (tools : Tools) (desk : Desk) :
    List ToolCall → Except Error (List String) → Desk → Prop
  | noReference {failure : Error} (parsed : ImageReference.parse image = .error failure) :
      Discovers registry image tools desk [] (.error failure) desk
  | failed {reference : ImageReference} {failure : Error} {after : Desk}
      (parsed : ImageReference.parse image = .ok reference)
      (call : Checked registry reference tools (registry.discoverCall reference) desk
        (.error failure) after) :
      Discovers registry image tools desk [registry.discoverCall reference] (.error failure) after
  | unreadable {reference : ImageReference} {output : ToolOutput} {fault : Json.Fault}
      {after : Desk}
      (parsed : ImageReference.parse image = .ok reference)
      (call : Checked registry reference tools (registry.discoverCall reference) desk
        (.ok output) after)
      (read : discoveryShape.readDocument output.stdout = .error fault) :
      Discovers registry image tools desk [registry.discoverCall reference]
        (.error (.json "oras discover output" fault)) after
  | found {reference : ImageReference} {output : ToolOutput} {document : Json.Value} {after : Desk}
      (parsed : ImageReference.parse image = .ok reference)
      (call : Checked registry reference tools (registry.discoverCall reference) desk
        (.ok output) after)
      (read : discoveryShape.readDocument output.stdout = .ok document) :
      Discovers registry image tools desk [registry.discoverCall reference]
        (.ok (discoveredDigests document)) after

theorem Discovers.calls_eq {registry : Registry} {image : String} {tools : Tools}
    {desk after : Desk} {calls : List ToolCall} {result : Except Error (List String)}
    (discovers : Discovers registry image tools desk calls result after) :
    after.calls = desk.calls ++ calls := by
  cases discovers with
  | noReference parsed => exact (List.append_nil _).symm
  | failed parsed call => exact call.calls_eq
  | unreadable parsed call read => exact call.calls_eq
  | found parsed call read => exact call.calls_eq

theorem perform_discover (registry : Registry) (image : String) (tools : Tools) (desk : Desk)
    (result : Except Error (List String)) (after : Desk) :
    (registry.discover image).perform tools desk = (result, after) ↔
      ∃ calls, Discovers registry image tools desk calls result after := by
  unfold discover
  rw [Job.perform_bind, Job.perform_lift]
  apply eq_iff_of_total
  · intro result after given
    obtain ⟨calls, discovers⟩ := given
    cases discovers with
    | noReference parsed => rw [parsed]
    | failed parsed call =>
        rw [parsed]
        dsimp only
        rw [Job.perform_bind, (perform_callChecked ..).mpr call]
    | unreadable parsed call read =>
        rw [parsed]
        dsimp only
        rw [Job.perform_bind, (perform_callChecked ..).mpr call]
        dsimp only
        rw [read]
        rfl
    | found parsed call read =>
        rw [parsed]
        dsimp only
        rw [Job.perform_bind, (perform_callChecked ..).mpr call]
        dsimp only
        rw [read]
        rfl
  · cases parsed : ImageReference.parse image with
    | error failure => exact ⟨_, _, _, .noReference parsed⟩
    | ok reference =>
        obtain ⟨checked, after, call⟩ : ∃ checked after, Checked registry reference tools
            (registry.discoverCall reference) desk checked after :=
          ⟨_, _, (perform_callChecked registry reference tools none _ desk _ _).mp rfl⟩
        rcases checked with failure | output
        · exact ⟨_, _, _, .failed parsed call⟩
        · cases read : discoveryShape.readDocument output.stdout with
          | error fault => exact ⟨_, _, _, .unreadable parsed call read⟩
          | ok document => exact ⟨_, _, _, .found parsed call read⟩

def versionCall (registry : Registry) : ToolCall := registry.toolCall none ["version"]

theorem checkAvailable_ok_iff {registry : Registry} {tools : Tools} {desk after : Desk} :
    registry.checkAvailable.perform tools desk = (.ok (), after) ↔
      ∃ version, desk.ask tools registry.versionCall = (.ok version, after) ∧
        version.exit = some 0 := by
  have called := @Job.perform_call tools desk installHint registry.versionCall
  change (registry.call none ["version"]).perform tools desk = _ at called
  unfold checkAvailable
  rw [Job.perform_bind, called]
  rcases desk.ask tools registry.versionCall with ⟨fault | version, asked⟩
  · exact ⟨nofun, nofun⟩
  · dsimp only [mapError_ok]
    by_cases exit : version.exit = some 0
    · rw [succeeded_iff.mpr exit]
      constructor
      · intro run
        cases run
        exact ⟨version, rfl, exit⟩
      · intro answer
        obtain ⟨_, answer, -⟩ := answer
        cases answer
        rfl
    · rw [not_succeeded exit]
      constructor
      · intro run
        cases run
      · intro answer
        obtain ⟨_, answer, exit'⟩ := answer
        cases answer
        exact absurd exit' exit

end Registry

namespace Signer

def checkCall (signer : Signer) (path : String) : ToolCall :=
  ⟨signer.setting.program, ["check", "--in", path, "--verbose"], none,
    1000 * signer.setting.seconds⟩

/-- The verification of a signed file; a file that is not there is not shown to the verifier. -/
inductive Verifies (signer : Signer) (tools : Tools) (path : String) (desk : Desk) :
    List ToolCall → Except Error VerifiedFragment → Desk → Prop
  | missing (absent : desk.files.isFile path = false) :
      Verifies signer tools path desk []
        (.error (.input (.fileMissing "signed fragment" path))) desk
  | unanswered {fault : RunFault} {after : Desk} (present : desk.files.isFile path = true)
      (answer : desk.ask tools (signer.checkCall path) = (.error fault, after)) :
      Verifies signer tools path desk [signer.checkCall path]
        (.error (.run (Job.withHint installHint fault))) after
  | refused {output : ToolOutput} {after : Desk} (present : desk.files.isFile path = true)
      (answer : desk.ask tools (signer.checkCall path) = (.ok output, after))
      (exit : output.exit ≠ some 0) :
      Verifies signer tools path desk [signer.checkCall path]
        (.error (.trust (.unverified path output.stderr))) after
  | unreadable {output : ToolOutput} {marker : Marker} {after : Desk}
      (present : desk.files.isFile path = true)
      (answer : desk.ask tools (signer.checkCall path) = (.ok output, after))
      (exit : output.exit = some 0) (parsed : VerifierOutput.parse output.stdout = .error marker) :
      Verifies signer tools path desk [signer.checkCall path] (.error (.verifier marker)) after
  | verified {output : ToolOutput} {fragment : VerifiedFragment} {after : Desk}
      (present : desk.files.isFile path = true)
      (answer : desk.ask tools (signer.checkCall path) = (.ok output, after))
      (exit : output.exit = some 0) (parsed : VerifierOutput.parse output.stdout = .ok fragment) :
      Verifies signer tools path desk [signer.checkCall path] (.ok fragment) after

theorem Verifies.calls_eq {signer : Signer} {tools : Tools} {path : String} {desk after : Desk}
    {calls : List ToolCall} {result : Except Error VerifiedFragment}
    (verifies : Verifies signer tools path desk calls result after) :
    after.calls = desk.calls ++ calls := by
  have asked := desk.ask_calls tools (signer.checkCall path)
  cases verifies with
  | missing absent => exact (List.append_nil _).symm
  | unanswered present answer => rwa [answer] at asked
  | refused present answer exit => rwa [answer] at asked
  | unreadable present answer exit parsed => rwa [answer] at asked
  | verified present answer exit parsed => rwa [answer] at asked

theorem perform_verify (signer : Signer) (tools : Tools) (path : String) (desk : Desk)
    (result : Except Error VerifiedFragment) (after : Desk) :
    (signer.verify path).perform tools desk = (result, after) ↔
      ∃ calls, Verifies signer tools path desk calls result after := by
  have called := @Job.perform_call tools desk installHint (signer.checkCall path)
  change (signer.call ["check", "--in", path, "--verbose"]).perform tools desk = _ at called
  unfold verify check
  rw [Job.perform_bind, Job.perform_bind, Job.perform_requireFile]
  apply eq_iff_of_total
  · intro result after given
    obtain ⟨calls, verifies⟩ := given
    cases verifies with
    | missing absent =>
        rw [absent]
        rfl
    | unanswered present answer =>
        rw [present, if_pos rfl]
        dsimp only
        rw [Job.perform_bind, called, answer]
        rfl
    | refused present answer exit =>
        rw [present, if_pos rfl]
        dsimp only
        rw [Job.perform_bind, called, answer]
        dsimp only [mapError_ok]
        rw [not_succeeded exit]
        rfl
    | unreadable present answer exit parsed =>
        rw [present, if_pos rfl]
        dsimp only
        rw [Job.perform_bind, called, answer]
        dsimp only [mapError_ok]
        rw [succeeded_iff.mpr exit, Bool.not_true, if_neg Bool.false_ne_true, Job.perform_pure]
        dsimp only
        rw [parsed]
        rfl
    | verified present answer exit parsed =>
        rw [present, if_pos rfl]
        dsimp only
        rw [Job.perform_bind, called, answer]
        dsimp only [mapError_ok]
        rw [succeeded_iff.mpr exit, Bool.not_true, if_neg Bool.false_ne_true, Job.perform_pure]
        dsimp only
        rw [parsed]
        rfl
  · cases present : desk.files.isFile path with
    | false => exact ⟨_, _, _, .missing present⟩
    | true =>
        rcases answer : desk.ask tools (signer.checkCall path) with ⟨fault | output, after⟩
        · exact ⟨_, _, _, .unanswered present answer⟩
        · by_cases exit : output.exit = some 0
          · cases parsed : VerifierOutput.parse output.stdout with
            | error marker => exact ⟨_, _, _, .unreadable present answer exit parsed⟩
            | ok fragment => exact ⟨_, _, _, .verified present answer exit parsed⟩
          · exact ⟨_, _, _, .refused present answer exit⟩

def helpCall (signer : Signer) : ToolCall :=
  ⟨signer.setting.program, ["--help"], none, 1000 * signer.setting.seconds⟩

theorem checkAvailable_ok_iff {signer : Signer} {tools : Tools} {desk after : Desk} :
    signer.checkAvailable.perform tools desk = (.ok (), after) ↔
      ∃ help, desk.ask tools signer.helpCall = (.ok help, after) := by
  have called := @Job.perform_call tools desk installHint signer.helpCall
  change (signer.call ["--help"]).perform tools desk = _ at called
  unfold checkAvailable
  rw [Job.perform_bind, called]
  rcases desk.ask tools signer.helpCall with ⟨fault | help, asked⟩
  · exact ⟨nofun, nofun⟩
  · constructor
    · intro run
      cases run
      exact ⟨help, rfl⟩
    · intro answer
      obtain ⟨_, answer⟩ := answer
      cases answer
      rfl

end Signer

end Enforcement
