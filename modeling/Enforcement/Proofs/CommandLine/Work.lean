import Enforcement.CommandLine.PolicyCommand
import Enforcement.Proofs.Files.Writing
import Enforcement.Proofs.Tool.Job

/-! What the work of a command leaves, one step at a time. -/

namespace Enforcement

open Enforcement.Files

theorem quiet_loadJson (path : String) : Job.Quiet (loadJson path) :=
  (Job.quiet_readText path).bind fun text => Job.quiet_lift (readJson path text)

theorem quiet_loadTemplate (path : String) : Job.Quiet (Template.load path) :=
  (quiet_loadJson path).bind fun value => Job.quiet_lift (Template.ofValue value)

theorem quiet_loadSupplied (path : String) : Job.Quiet (Supplied.load path) :=
  (quiet_loadJson path).bind fun value => Job.quiet_lift (Supplied.ofDocument value)

theorem quiet_loadSpecFile (path : String) : Job.Quiet (loadSpecFile path) := by
  refine (quiet_loadJson path).bind fun document => ?_
  split
  · exact (Job.quiet_fail _).bind fun _ => Job.quiet_pure document
  · exact Job.quiet_pure document

namespace CommandLine

namespace Work

variable {α β : Type} {tools : Tools} {desk : Desk}

theorem perform_bind (work : Work α) (next : α → Work β) :
    (work >>= next).perform tools desk =
      match work.perform tools desk with
      | (.ok found, after) => (next found).perform tools after
      | (.error failure, after) => (.error failure, after) := by
  change (ExceptT.bindCont (fun found => (next found).run tools)
    (work.perform tools desk).1).run (work.perform tools desk).2 = _
  rcases work.perform tools desk with ⟨failure | found, after⟩
  · rfl
  · rfl

theorem perform_pure (value : α) : (pure value : Work α).perform tools desk = (.ok value, desk) :=
  rfl

theorem perform_ofJob (failure : Error → Failure) (job : Job α) :
    (ofJob failure job).perform tools desk =
      ((job.perform tools desk).1.mapError failure, (job.perform tools desk).2) := rfl

theorem perform_job (job : Job α) :
    (liftM job : Work α).perform tools desk =
      ((job.perform tools desk).1.mapError .error, (job.perform tools desk).2) := rfl

theorem perform_writeText (path text : String) :
    (writeText path text).perform tools desk =
      match desk.files.writeText path text with
      | .ok files => (.ok (), { desk with files })
      | .error fault => (.error (.writing path fault), desk) := by
  unfold writeText
  rw [perform_bind]
  change (match desk.files.writeText path text with
    | .ok files => _
    | .error fault => _ : Work Unit).perform tools desk = _
  cases desk.files.writeText path text with
  | error fault => rfl
  | ok files => rfl

end Work

end CommandLine

end Enforcement
