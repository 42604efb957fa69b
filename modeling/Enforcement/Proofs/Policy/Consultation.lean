import Enforcement.Policy.Group

/-!
What was asked before changes nothing in the work that follows: neither its result nor what it asks.
-/

namespace Enforcement.Consulting

open Enforcement.Json

variable {question α β : Type}

theorem run_bind (work : Consulting question α) (next : α → Consulting question β)
    (asked : List question) :
    (work >>= next).run.run asked =
      match work.run.run asked with
      | (.ok found, later) => (next found).run.run later
      | (.error failure, later) => (.error failure, later) := by
  change (ExceptT.bindCont next (work.run.run asked).1).run (work.run.run asked).2 = _
  rcases work.run.run asked with ⟨failure | found, later⟩
  · rfl
  · rfl

/-- What was asked before only stands in front of what the work asks. -/
def Appends (work : Consulting question α) : Prop :=
  ∀ asked, work.run.run asked = (work.outcome.1, asked ++ work.outcome.2)

theorem appends_pure (value : α) : Appends (pure value : Consulting question α) := by
  intro asked
  change (Except.ok value, asked) = (Except.ok value, asked ++ [])
  rw [List.append_nil]

theorem appends_throw (failure : Error) : Appends (throw failure : Consulting question α) := by
  intro asked
  change (Except.error failure, asked) = (Except.error failure, asked ++ [])
  rw [List.append_nil]

theorem appends_lift (result : Except Error α) :
    Appends (liftM result : Consulting question α) := by
  cases result with
  | error failure => exact appends_throw failure
  | ok value => exact appends_pure value

theorem appends_ask (decide : question → α) (asked : question) : Appends (ask decide asked) := by
  intro before
  rfl

theorem outcome_bind {work : Consulting question α} {next : α → Consulting question β}
    (appends : ∀ found, Appends (next found)) :
    (work >>= next).outcome =
      match work.outcome with
      | (.ok found, asked) => ((next found).outcome.1, asked ++ (next found).outcome.2)
      | (.error failure, asked) => (.error failure, asked) := by
  unfold outcome
  rw [run_bind]
  rcases work.run.run [] with ⟨failure | found, later⟩
  · rfl
  · exact appends found later

theorem Appends.bind {work : Consulting question α} {next : α → Consulting question β}
    (start : Appends work) (appends : ∀ found, Appends (next found)) : Appends (work >>= next) := by
  intro asked
  rw [run_bind, outcome_bind appends, start asked]
  rcases work.outcome with ⟨failure | found, later⟩
  · rfl
  · dsimp only
    rw [appends found, List.append_assoc]

theorem appends_mapM {step : α → Consulting question β} (each : ∀ item, Appends (step item))
    (items : List α) : Appends (items.mapM step) := by
  induction items with
  | nil => exact appends_pure []
  | cons item rest ih =>
      rw [List.mapM_cons]
      exact (each item).bind fun found => ih.bind fun others => appends_pure (found :: others)

theorem outcome_mapM {step : α → Consulting question β} (each : ∀ item, Appends (step item))
    (items : List α) :
    (items.mapM step).outcome.1 = items.mapM fun item => (step item).outcome.1 := by
  induction items with
  | nil => rfl
  | cons item rest ih =>
      rw [List.mapM_cons, List.mapM_cons, outcome_bind fun found =>
        (appends_mapM each rest).bind fun others => appends_pure (found :: others)]
      rcases (step item).outcome with ⟨failure | found, asked⟩
      · rfl
      · dsimp only
        rw [outcome_bind fun others => appends_pure (found :: others), ← ih]
        rcases (rest.mapM step).outcome with ⟨failure | others, later⟩
        · rfl
        · rfl

end Enforcement.Consulting

namespace Enforcement

open Enforcement.Consulting Enforcement.Json Enforcement.Template

namespace Container

theorem appends_templateEnvRule (approver : WildcardApprover) (options : BuildOptions)
    (container : String) (declaration : Value) :
    Appends (templateEnvRule approver options container declaration) := by
  unfold templateEnvRule
  refine (appends_lift _).bind fun name => ?_
  split
  · exact appends_lift _
  · split
    · exact appends_lift _
    · split
      · split
        · exact appends_pure _
        · refine (appends_ask _ _).bind fun yes => ?_
          split
          · exact appends_pure _
          · exact appends_pure _
      · exact appends_pure _

theorem appends_declaredEnvRules (approver : WildcardApprover) (options : BuildOptions)
    (source : Source) (container : String) (properties : Value) :
    Appends (declaredEnvRules approver options source container properties) := by
  unfold declaredEnvRules
  refine (appends_lift _).bind fun declarations => ?_
  split
  · exact (appends_mapM (appends_templateEnvRule approver options container) declarations).bind
      fun rules => appends_pure _
  · exact appends_mapM (fun declaration => appends_lift _) declarations

theorem appends_compile (approver : WildcardApprover) (options : BuildOptions) (source : Source)
    (declaration : Value) : Appends (compile approver options source declaration) := by
  unfold compile
  refine (appends_lift _).bind fun image => ?_
  split
  · exact appends_lift _
  · refine (appends_lift _).bind fun name => ?_
    refine (appends_declaredEnvRules approver options source _ _).bind fun envRules => ?_
    refine (appends_lift _).bind fun mounts => ?_
    refine (appends_lift _).bind fun processes => ?_
    refine (appends_lift _).bind fun command => ?_
    refine (appends_lift _).bind fun signals => ?_
    refine (appends_lift _).bind fun context => ?_
    exact appends_pure _

end Container

theorem Policy.appends_ofGroup (approver : WildcardApprover) (options : BuildOptions)
    (pulled : List FragmentImport) (resource : Value) :
    Appends (ofGroup approver options pulled resource) := by
  unfold ofGroup
  dsimp only
  split
  · exact appends_throw _
  · split
    · exact appends_throw _
    · refine (appends_mapM (Container.appends_compile approver options _) _).bind
        fun containers => ?_
      exact (appends_lift _).bind fun standalone => appends_pure _

end Enforcement
