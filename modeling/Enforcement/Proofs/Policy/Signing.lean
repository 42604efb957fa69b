import Enforcement.Policy.Authoring
import Enforcement.Proofs.Imports.Client

/-!
What the signer and the registry's client make of a fragment that is to be signed and published, as
relations with one rule for each way a step can end and with the calls that were made for it.
-/

namespace Enforcement

open Enforcement.Files Enforcement.Text

namespace Signer

inductive Checked (signer : Signer) (tools : Tools) (call : ToolCall) :
    Desk → Except Error ToolOutput → Desk → Prop
  | unanswered {desk after : Desk} {fault : RunFault}
      (answer : desk.ask tools call = (.error fault, after)) :
      Checked signer tools call desk (.error (.run (Job.withHint installHint fault))) after
  | refused {desk after : Desk} {output : ToolOutput}
      (answer : desk.ask tools call = (.ok output, after)) (exit : output.exit ≠ some 0) :
      Checked signer tools call desk (.error (failure output)) after
  | done {desk after : Desk} {output : ToolOutput}
      (answer : desk.ask tools call = (.ok output, after)) (exit : output.exit = some 0) :
      Checked signer tools call desk (.ok output) after

section Checked

variable {signer : Signer} {tools : Tools} {call : ToolCall} {desk after : Desk}

theorem Checked.calls_eq {result : Except Error ToolOutput}
    (checked : Checked signer tools call desk result after) :
    after.calls = desk.calls ++ [call] := by
  have asked := desk.ask_calls tools call
  cases checked with
  | unanswered answer => rwa [answer] at asked
  | refused answer exit => rwa [answer] at asked
  | done answer exit => rwa [answer] at asked

theorem exists_checked (signer : Signer) (tools : Tools) (call : ToolCall) (desk : Desk) :
    ∃ result after, Checked signer tools call desk result after := by
  rcases answer : desk.ask tools call with ⟨fault | output, after⟩
  · exact ⟨_, _, .unanswered answer⟩
  · by_cases exit : output.exit = some 0
    · exact ⟨_, _, .done answer exit⟩
    · exact ⟨_, _, .refused answer exit⟩

end Checked

def toolCall (signer : Signer) (args : List String) : ToolCall :=
  ⟨signer.setting.program, args, none, 1000 * signer.setting.seconds⟩

def issuerCall (signer : Signer) (chain : String) : ToolCall :=
  signer.toolCall ["did:x509", "-chain", chain, "-policy", "CN"]

def createCall (signer : Signer) (request : SignRequest) : ToolCall :=
  signer.toolCall request.args

section Call

variable {α : Type} {signer : Signer} {tools : Tools} {args : List String} {desk after : Desk}
  {next : ToolOutput → Job α}

theorem perform_checked_error {fault : Error}
    (checked : Checked signer tools (signer.toolCall args) desk (.error fault) after) :
    (do
      let output ← signer.call args
      if !output.succeeded then Job.fail (failure output)
      next output : Job α).perform tools desk = (.error fault, after) := by
  have called := @Job.perform_call tools desk installHint (signer.toolCall args)
  change (signer.call args).perform tools desk = _ at called
  rw [Job.perform_bind, called]
  cases checked with
  | unanswered answer =>
      rw [answer]
      rfl
  | refused answer exit =>
      rw [answer]
      dsimp only [mapError_ok]
      rw [not_succeeded exit]
      rfl

theorem perform_checked_ok {output : ToolOutput}
    (checked : Checked signer tools (signer.toolCall args) desk (.ok output) after) :
    (do
      let output ← signer.call args
      if !output.succeeded then Job.fail (failure output)
      next output : Job α).perform tools desk = (next output).perform tools after := by
  have called := @Job.perform_call tools desk installHint (signer.toolCall args)
  change (signer.call args).perform tools desk = _ at called
  rw [Job.perform_bind, called]
  cases checked with
  | done answer exit =>
      rw [answer]
      dsimp only [mapError_ok]
      rw [succeeded_iff.mpr exit]
      rfl

end Call

inductive Issues (signer : Signer) (tools : Tools) (chain : String) (desk : Desk) :
    List ToolCall → Except Error String → Desk → Prop
  | missing (absent : desk.files.isFile chain = false) :
      Issues signer tools chain desk []
        (.error (.input (.fileMissing "certificate chain" chain))) desk
  | failed {fault : Error} {after : Desk} (present : desk.files.isFile chain = true)
      (call : Checked signer tools (signer.issuerCall chain) desk (.error fault) after) :
      Issues signer tools chain desk [signer.issuerCall chain] (.error fault) after
  | unmarked {output : ToolOutput} {after : Desk} (present : desk.files.isFile chain = true)
      (call : Checked signer tools (signer.issuerCall chain) desk (.ok output) after)
      (mark : issuerMark.isPrefixOf (trimmed output.stdout).toList = false) :
      Issues signer tools chain desk [signer.issuerCall chain]
        (.error (.trust (.issuerInvalid (trimmed output.stdout)))) after
  | issued {output : ToolOutput} {after : Desk} (present : desk.files.isFile chain = true)
      (call : Checked signer tools (signer.issuerCall chain) desk (.ok output) after)
      (mark : issuerMark.isPrefixOf (trimmed output.stdout).toList = true) :
      Issues signer tools chain desk [signer.issuerCall chain] (.ok (trimmed output.stdout)) after

theorem Issues.calls_eq {signer : Signer} {tools : Tools} {chain : String} {desk after : Desk}
    {calls : List ToolCall} {result : Except Error String}
    (issues : Issues signer tools chain desk calls result after) :
    after.calls = desk.calls ++ calls := by
  cases issues with
  | missing absent => exact (List.append_nil _).symm
  | failed present call => exact call.calls_eq
  | unmarked present call mark => exact call.calls_eq
  | issued present call mark => exact call.calls_eq

theorem perform_createIssuer (signer : Signer) (tools : Tools) (chain : String) (desk : Desk)
    (result : Except Error String) (after : Desk) :
    (signer.createIssuer chain).perform tools desk = (result, after) ↔
      ∃ calls, Issues signer tools chain desk calls result after := by
  unfold createIssuer
  rw [Job.perform_bind, Job.perform_requireFile]
  apply eq_iff_of_total
  · intro result after given
    obtain ⟨calls, issues⟩ := given
    cases issues with
    | missing absent =>
        rw [absent]
        rfl
    | failed present call =>
        rw [present, if_pos rfl]
        exact perform_checked_error call
    | unmarked present call mark =>
        rw [present, if_pos rfl]
        refine (perform_checked_ok call).trans ?_
        dsimp only
        rw [mark]
        rfl
    | issued present call mark =>
        rw [present, if_pos rfl]
        refine (perform_checked_ok call).trans ?_
        dsimp only
        rw [mark]
        rfl
  · cases present : desk.files.isFile chain with
    | false => exact ⟨_, _, _, .missing present⟩
    | true =>
        obtain ⟨fault | output, after, call⟩ :=
          exists_checked signer tools (signer.issuerCall chain) desk
        · exact ⟨_, _, _, .failed present call⟩
        · cases mark : issuerMark.isPrefixOf (trimmed output.stdout).toList with
          | false => exact ⟨_, _, _, .unmarked present call mark⟩
          | true => exact ⟨_, _, _, .issued present call mark⟩

def needed (request : SignRequest) : List (String × String) :=
  [("payload", request.payload), ("signing key", request.key),
    ("certificate chain", request.chain)]

/-- A signature; the first file that is not there is complained about. -/
inductive Signs (signer : Signer) (tools : Tools) (request : SignRequest) (desk : Desk) :
    List ToolCall → Except Error String → Desk → Prop
  | missing {role path : String}
      (absent : (needed request).find? (!desk.files.isFile ·.2) = some (role, path)) :
      Signs signer tools request desk [] (.error (.input (.fileMissing role path))) desk
  | failed {fault : Error} {after : Desk}
      (present : (needed request).find? (!desk.files.isFile ·.2) = none)
      (call : Checked signer tools (signer.createCall request) desk (.error fault) after) :
      Signs signer tools request desk [signer.createCall request] (.error fault) after
  | signed {output : ToolOutput} {after : Desk}
      (present : (needed request).find? (!desk.files.isFile ·.2) = none)
      (call : Checked signer tools (signer.createCall request) desk (.ok output) after) :
      Signs signer tools request desk [signer.createCall request] (.ok request.out) after

theorem Signs.calls_eq {signer : Signer} {tools : Tools} {request : SignRequest}
    {desk after : Desk} {calls : List ToolCall} {result : Except Error String}
    (signs : Signs signer tools request desk calls result after) :
    after.calls = desk.calls ++ calls := by
  cases signs with
  | missing absent => exact (List.append_nil _).symm
  | failed present call => exact call.calls_eq
  | signed present call => exact call.calls_eq

theorem perform_requireFiles {α : Type} (files : List (String × String)) (next : Job α)
    (tools : Tools) (desk : Desk) :
    (files.foldr (fun file rest => do requireFile file.1 file.2; rest) next).perform tools desk =
      match files.find? (!desk.files.isFile ·.2) with
      | some (role, path) => (.error (.input (.fileMissing role path)), desk)
      | none => next.perform tools desk := by
  induction files with
  | nil => rfl
  | cons file files ih =>
      rw [List.foldr_cons, Job.perform_bind, Job.perform_requireFile]
      cases present : desk.files.isFile file.2 with
      | false =>
          rw [List.find?_cons_of_pos (by simp [present])]
          rfl
      | true =>
          rw [List.find?_cons_of_neg (by simp [present]), if_pos rfl]
          exact ih

theorem perform_sign (signer : Signer) (tools : Tools) (request : SignRequest) (desk : Desk)
    (result : Except Error String) (after : Desk) :
    (signer.sign request).perform tools desk = (result, after) ↔
      ∃ calls, Signs signer tools request desk calls result after := by
  have required := perform_requireFiles (needed request) (do
    let output ← signer.call request.args
    if !output.succeeded then Job.fail (failure output)
    return request.out) tools desk
  change (signer.sign request).perform tools desk = _ at required
  rw [required]
  apply eq_iff_of_total
  · intro result after given
    obtain ⟨calls, signs⟩ := given
    cases signs with
    | missing absent => rw [absent]
    | failed present call =>
        rw [present]
        exact perform_checked_error call
    | signed present call =>
        rw [present]
        exact perform_checked_ok call
  · cases absent : (needed request).find? (!desk.files.isFile ·.2) with
    | some file => exact ⟨_, _, _, .missing absent⟩
    | none =>
        obtain ⟨fault | output, after, call⟩ :=
          exists_checked signer tools (signer.createCall request) desk
        · exact ⟨_, _, _, .failed absent call⟩
        · exact ⟨_, _, _, .signed absent call⟩

end Signer

def Publication.target : Publication → String
  | .attachTo image => image
  | .pushTo destination => destination

namespace Registry

def workingDirectory (path : String) : Option String := (parent? path).filter (!·.isEmpty)

def publishArgs (registry : Registry) (reference : ImageReference) (operand : String) :
    Publication → List String
  | .attachTo _ => ["attach", "--artifact-type", registry.artifactType, reference.toText, operand]
  | .pushTo _ => ["push", operand, reference.toText]

def publishCall (registry : Registry) (publication : Publication) (reference : ImageReference)
    (directory : Option String) (operand : String) : ToolCall :=
  registry.toolCall directory (registry.publishArgs reference operand publication)

inductive Publishes (registry : Registry) (tools : Tools) (publication : Publication)
    (signed : String) (desk : Desk) : List ToolCall → Except Error Unit → Desk → Prop
  | noReference {fault : Error}
      (parsed : ImageReference.parse publication.target = .error fault) :
      Publishes registry tools publication signed desk [] (.error fault) desk
  | missing {reference : ImageReference}
      (parsed : ImageReference.parse publication.target = .ok reference)
      (absent : desk.files.isFile signed = false) :
      Publishes registry tools publication signed desk []
        (.error (.input (.fileMissing "signed fragment" signed))) desk
  | unnamed {reference : ImageReference}
      (parsed : ImageReference.parse publication.target = .ok reference)
      (present : desk.files.isFile signed = true) (last : fileName? signed = none) :
      Publishes registry tools publication signed desk []
        (.error (.input (.pathWithoutName signed))) desk
  | failed {reference : ImageReference} {name : String} {fault : Error} {after : Desk}
      (parsed : ImageReference.parse publication.target = .ok reference)
      (present : desk.files.isFile signed = true) (last : fileName? signed = some name)
      (call : Checked registry reference tools (registry.publishCall publication reference
        (workingDirectory signed) (name ++ ":" ++ fragmentMediaType)) desk (.error fault) after) :
      Publishes registry tools publication signed desk
        [registry.publishCall publication reference (workingDirectory signed)
          (name ++ ":" ++ fragmentMediaType)] (.error fault) after
  | published {reference : ImageReference} {name : String} {output : ToolOutput} {after : Desk}
      (parsed : ImageReference.parse publication.target = .ok reference)
      (present : desk.files.isFile signed = true) (last : fileName? signed = some name)
      (call : Checked registry reference tools (registry.publishCall publication reference
        (workingDirectory signed) (name ++ ":" ++ fragmentMediaType)) desk (.ok output) after) :
      Publishes registry tools publication signed desk
        [registry.publishCall publication reference (workingDirectory signed)
          (name ++ ":" ++ fragmentMediaType)] (.ok ()) after

theorem Publishes.calls_eq {registry : Registry} {tools : Tools} {publication : Publication}
    {signed : String} {desk after : Desk} {calls : List ToolCall} {result : Except Error Unit}
    (publishes : Publishes registry tools publication signed desk calls result after) :
    after.calls = desk.calls ++ calls := by
  cases publishes with
  | noReference parsed => exact (List.append_nil _).symm
  | missing parsed absent => exact (List.append_nil _).symm
  | unnamed parsed present last => exact (List.append_nil _).symm
  | failed parsed present last call => exact call.calls_eq
  | published parsed present last call => exact call.calls_eq

theorem perform_fileOperand (path : String) (tools : Tools) (desk : Desk) :
    (fileOperand path).perform tools desk =
      (if desk.files.isFile path then
        match fileName? path with
        | none => .error (.input (.pathWithoutName path))
        | some name => .ok (workingDirectory path, name ++ ":" ++ fragmentMediaType)
      else .error (.input (.fileMissing "signed fragment" path)), desk) := by
  unfold fileOperand
  rw [Job.perform_bind, Job.perform_requireFile]
  cases desk.files.isFile path with
  | false => rfl
  | true =>
      rw [if_pos rfl, if_pos rfl]
      dsimp only
      cases fileName? path with
      | none => rfl
      | some name => rfl

theorem quiet_fileOperand (path : String) : Job.Quiet (fileOperand path) := fun _ _ =>
  congrArg Prod.snd (perform_fileOperand ..)

theorem publish_eq (registry : Registry) (publication : Publication) (signed : String) :
    FragmentRequest.publish registry signed (some publication) = (do
      let reference ← ImageReference.parse publication.target
      let file ← fileOperand signed
      let _ ← registry.callChecked reference file.1
        (registry.publishArgs reference file.2 publication)) := by
  cases publication with
  | attachTo image => rfl
  | pushTo destination => rfl

theorem perform_publish (registry : Registry) (tools : Tools) (publication : Publication)
    (signed : String) (desk : Desk) (result : Except Error Unit) (after : Desk) :
    (FragmentRequest.publish registry signed (some publication)).perform tools desk =
        (result, after) ↔
      ∃ calls, Publishes registry tools publication signed desk calls result after := by
  rw [publish_eq, Job.perform_bind, Job.perform_lift]
  apply eq_iff_of_total
  · intro result after given
    obtain ⟨calls, publishes⟩ := given
    cases publishes with
    | noReference parsed => rw [parsed]
    | missing parsed absent =>
        rw [parsed]
        dsimp only
        rw [Job.perform_bind, perform_fileOperand, absent]
        rfl
    | unnamed parsed present last =>
        rw [parsed]
        dsimp only
        rw [Job.perform_bind, perform_fileOperand, present, if_pos rfl, last]
    | failed parsed present last call =>
        rw [parsed]
        dsimp only
        rw [Job.perform_bind, perform_fileOperand, present, if_pos rfl, last]
        dsimp only
        rw [Job.perform_bind, (perform_callChecked ..).mpr call]
    | published parsed present last call =>
        rw [parsed]
        dsimp only
        rw [Job.perform_bind, perform_fileOperand, present, if_pos rfl, last]
        dsimp only
        rw [Job.perform_bind, (perform_callChecked ..).mpr call]
        rfl
  · cases parsed : ImageReference.parse publication.target with
    | error fault => exact ⟨_, _, _, .noReference parsed⟩
    | ok reference =>
        cases present : desk.files.isFile signed with
        | false => exact ⟨_, _, _, .missing parsed present⟩
        | true =>
            cases last : fileName? signed with
            | none => exact ⟨_, _, _, .unnamed parsed present last⟩
            | some name =>
                obtain ⟨checked, after, call⟩ : ∃ checked after, Checked registry reference tools
                    (registry.publishCall publication reference (workingDirectory signed)
                      (name ++ ":" ++ fragmentMediaType)) desk checked after :=
                  ⟨_, _, (perform_callChecked registry reference tools (workingDirectory signed)
                    _ desk _ _).mp rfl⟩
                rcases checked with fault | output
                · exact ⟨_, _, _, .failed parsed present last call⟩
                · exact ⟨_, _, _, .published parsed present last call⟩

end Registry

end Enforcement
