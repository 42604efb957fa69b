import Enforcement.Proofs.Files.Directory
import Enforcement.Tool.Job
import Enforcement.Trust.Signer

/-! What a job leaves, one step at a time: its result, the files and the calls that were made. -/

namespace Enforcement

open Enforcement.Files

namespace Desk

def make (desk : Desk) (path : String) : Except Fault Unit × Desk :=
  ((desk.files.createDirectories path).1,
    { desk with files := (desk.files.createDirectories path).2 })

/-- A tool answers; the call is kept whatever it answers. -/
def ask (desk : Desk) (tools : Tools) (call : ToolCall) : Except RunFault ToolOutput × Desk :=
  ((tools desk.calls desk.files call).1,
    ⟨(tools desk.calls desk.files call).2, desk.calls ++ [call]⟩)

def remove (desk : Desk) (path : String) : Desk :=
  { desk with files := (desk.files.removeDirectory path).2 }

theorem make_calls (desk : Desk) (path : String) : (desk.make path).2.calls = desk.calls := rfl

theorem make_again {desk made : Desk} {path : String} (named : Named path)
    (first : desk.make path = (.ok (), made)) : made.make path = (.ok (), made) := by
  unfold make at first ⊢
  rcases created : desk.files.createDirectories path with ⟨result, files⟩
  rw [created] at first
  obtain ⟨rfl, rfl⟩ := Prod.mk.inj first
  rw [Store.createDirectories_again named created]

theorem ask_calls (desk : Desk) (tools : Tools) (call : ToolCall) :
    (desk.ask tools call).2.calls = desk.calls ++ [call] := rfl

theorem remove_calls (desk : Desk) (path : String) : (desk.remove path).calls = desk.calls := rfl

theorem remove_files (desk : Desk) (path : String) :
    (desk.remove path).files = (desk.files.removeDirectory path).2 := rfl

end Desk

namespace Job

variable {α β : Type} {tools : Tools} {desk : Desk}

theorem perform_bind (job : Job α) (next : α → Job β) :
    (job >>= next).perform tools desk =
      match job.perform tools desk with
      | (.ok found, after) => (next found).perform tools after
      | (.error failure, after) => (.error failure, after) := by
  change (ExceptT.bindCont (fun found => (next found).run tools)
    (job.perform tools desk).1).run (job.perform tools desk).2 = _
  rcases job.perform tools desk with ⟨failure | found, after⟩
  · rfl
  · rfl

theorem perform_bind_ok {job : Job α} {next : α → Job β} {value : β} {after : Desk} :
    (job >>= next).perform tools desk = (.ok value, after) ↔
      ∃ found middle, job.perform tools desk = (.ok found, middle) ∧
        (next found).perform tools middle = (.ok value, after) := by
  rw [perform_bind]
  rcases job.perform tools desk with ⟨failure | found, middle⟩
  · exact ⟨nofun, nofun⟩
  · constructor
    · intro run
      exact ⟨found, middle, rfl, run⟩
    · intro both
      obtain ⟨_, _, same, run⟩ := both
      cases same
      exact run

theorem exists_run (run : Except Error α × Desk) (view : α → Desk → β) (seen : β)
    (found : run.1.toOption.map (view · run.2) = some seen) :
    ∃ value after, run = (.ok value, after) ∧ view value after = seen := by
  rcases run with ⟨result, after⟩
  obtain ⟨value, rfl, same⟩ := exists_ok result (view · after) seen found
  exact ⟨value, after, rfl, same⟩

theorem perform_pure (value : α) :
    (pure value : Job α).perform tools desk = (.ok value, desk) := rfl

theorem perform_lift (result : Except Error α) :
    (liftM result : Job α).perform tools desk = (result, desk) := by
  cases result with
  | error failure => rfl
  | ok value => rfl

theorem perform_get : (get : Job Desk).perform tools desk = (.ok desk, desk) := rfl

theorem perform_read : (read : Job Tools).perform tools desk = (.ok tools, desk) := rfl

theorem perform_files : files.perform tools desk = (.ok desk.files, desk) := rfl

theorem perform_createDirectories (path : String) :
    (createDirectories path).perform tools desk =
      ((desk.make path).1.mapError (.file path), (desk.make path).2) := by
  unfold createDirectories Desk.make
  rw [perform_bind, perform_files]
  dsimp only
  rcases desk.files.createDirectories path with ⟨fault | done, files⟩
  · rfl
  · rfl

theorem perform_call (hint : String) (call : ToolCall) :
    (Job.call hint call).perform tools desk =
      ((desk.ask tools call).1.mapError (.run <| withHint hint ·), (desk.ask tools call).2) := by
  unfold Job.call
  rw [perform_bind, perform_get]
  dsimp only
  rw [perform_bind, perform_read]
  unfold Desk.ask
  dsimp only
  rcases tools desk.calls desk.files call with ⟨fault | output, files⟩
  · rfl
  · rfl

theorem perform_readText (path : String) :
    (readText path).perform tools desk =
      ((desk.files.readText path).mapError (.file path), desk) := by
  unfold readText
  rw [perform_bind, perform_files]
  dsimp only
  cases desk.files.readText path with
  | error fault => rfl
  | ok text => rfl

theorem perform_writeText (path text : String) :
    (writeText path text).perform tools desk =
      match desk.files.writeText path text with
      | .ok files => (.ok (), { desk with files })
      | .error fault => (.error (.file path fault), desk) := by
  unfold writeText
  rw [perform_bind, perform_files]
  dsimp only
  cases desk.files.writeText path text with
  | error fault => rfl
  | ok files => rfl

theorem perform_withCleanUp (job : Job α) (path : String) :
    (withCleanUp job (·.removeDirectory path)).perform tools desk =
      ((job.perform tools desk).1, (job.perform tools desk).2.remove path) := rfl

theorem perform_requireFile (role path : String) :
    (requireFile role path).perform tools desk =
      (if desk.files.isFile path then .ok () else .error (.input (.fileMissing role path)),
        desk) := by
  unfold requireFile
  rw [perform_bind, perform_files]
  dsimp only
  split
  · rfl
  · rfl

/-- Work that changes no file and calls no tool. -/
def Quiet (job : Job α) : Prop :=
  ∀ tools desk, (job.perform tools desk).2 = desk

theorem quiet_pure (value : α) : Quiet (pure value) := fun _ _ => rfl

theorem quiet_lift (result : Except Error α) : Quiet (liftM result) := fun _ _ =>
  congrArg Prod.snd (perform_lift result)

theorem quiet_fail (failure : Error) : Quiet (fail failure : Job α) := fun _ _ => rfl

theorem quiet_readText (path : String) : Quiet (readText path) := fun _ _ =>
  congrArg Prod.snd (perform_readText path)

theorem Quiet.bind {job : Job α} {next : α → Job β} (quiet : Quiet job)
    (onward : ∀ value, Quiet (next value)) : Quiet (job >>= next) := by
  intro tools desk
  have same := quiet tools desk
  rw [perform_bind]
  rcases run : job.perform tools desk with ⟨failure | value, after⟩ <;> rw [run] at same
  · exact same
  · exact (onward value tools after).trans same

theorem Quiet.perform_eq {job : Job α} (quiet : Quiet job) (tools : Tools) (desk : Desk) :
    job.perform tools desk = ((job.perform tools desk).1, desk) :=
  Prod.ext rfl (quiet tools desk)

theorem quiet_requireFile (role path : String) : Quiet (requireFile role path) := fun _ _ =>
  congrArg Prod.snd (perform_requireFile role path)

/-- Work that leaves the files fit if they were fit before it, also when it fails. -/
def Maintains (fit : Store → Prop) (tools : Tools) (job : Job α) : Prop :=
  ∀ desk, fit desk.files → fit (job.perform tools desk).2.files

variable {fit : Store → Prop}

theorem Quiet.maintains {job : Job α} (quiet : Quiet job) : Maintains fit tools job := by
  intro desk fine
  rw [quiet tools desk]
  exact fine

theorem Maintains.bind {job : Job α} {next : α → Job β} (first : Maintains fit tools job)
    (onward : ∀ value, Maintains fit tools (next value)) : Maintains fit tools (job >>= next) := by
  intro desk fine
  have kept := first desk fine
  rw [perform_bind]
  rcases run : job.perform tools desk with ⟨failure | value, after⟩ <;> rw [run] at kept
  · exact kept
  · exact onward value after kept

theorem maintains_mapM {items : List α} {work : α → Job β}
    (each : ∀ item ∈ items, Maintains fit tools (work item)) :
    Maintains fit tools (items.mapM work) := by
  induction items with
  | nil => exact (quiet_pure []).maintains
  | cons item rest ih =>
      rw [List.mapM_cons]
      obtain ⟨first, others⟩ := List.forall_mem_cons.mp each
      exact first.bind fun _ => (ih others).bind fun _ => (quiet_pure _).maintains

theorem maintains_call (called : ∀ calls files call, fit files → fit (tools calls files call).2)
    (hint : String) (call : ToolCall) : Maintains fit tools (Job.call hint call) := by
  intro desk fine
  rw [perform_call]
  exact called desk.calls desk.files call fine

theorem maintains_createDirectories {path : String}
    (made : ∀ files, fit files → fit (files.createDirectories path).2) :
    Maintains fit tools (createDirectories path) := by
  intro desk fine
  rw [perform_createDirectories]
  exact made desk.files fine

theorem maintains_writeText {path text : String}
    (wrote : ∀ files after, fit files → files.writeText path text = .ok after → fit after) :
    Maintains fit tools (writeText path text) := by
  intro desk fine
  rw [perform_writeText]
  cases written : desk.files.writeText path text with
  | error fault => exact fine
  | ok after => exact wrote desk.files after fine written

theorem maintains_withCleanUp {path : String}
    (removed : ∀ files, fit files → fit (files.removeDirectory path).2) {job : Job α}
    (work : Maintains fit tools job) :
    Maintains fit tools (withCleanUp job (·.removeDirectory path)) := by
  intro desk fine
  rw [perform_withCleanUp]
  exact removed _ (work desk fine)

end Job

end Enforcement
