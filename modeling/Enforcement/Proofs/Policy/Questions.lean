import Enforcement.Proofs.Policy.Wildcards

/-!
What a build may ask, whether it succeeds or not: only whether a variable whose value is unknown may
have any value.
-/

namespace Enforcement

open Enforcement.Consulting Enforcement.Json Enforcement.Template

namespace Consulting

variable {question α β : Type} {kind : question → Prop}

/-- Only questions of one kind are put. -/
def AsksOnly (kind : question → Prop) (work : Consulting question α) : Prop :=
  ∀ before, (∀ asked ∈ before, kind asked) → ∀ asked ∈ (work.run.run before).2, kind asked

theorem asksOnly_pure (value : α) : AsksOnly kind (pure value : Consulting question α) :=
  fun _ earlier => earlier

theorem asksOnly_throw (failure : Error) : AsksOnly kind (throw failure : Consulting question α) :=
  fun _ earlier => earlier

theorem asksOnly_lift (result : Except Error α) :
    AsksOnly kind (liftM result : Consulting question α) := by
  cases result with
  | error failure => exact asksOnly_throw failure
  | ok value => exact asksOnly_pure value

theorem asksOnly_ask (decide : question → α) {asked : question} (holds : kind asked) :
    AsksOnly kind (ask decide asked) := by
  intro before earlier other member
  rcases List.mem_append.mp member with former | here
  · exact earlier other former
  · rw [List.mem_singleton.mp here]
    exact holds

theorem AsksOnly.bind {work : Consulting question α} {next : α → Consulting question β}
    (start : AsksOnly kind work)
    (step : ∀ value before after, Gives work before value after → AsksOnly kind (next value)) :
    AsksOnly kind (work >>= next) := by
  intro before earlier
  have middle := start before earlier
  rw [run_bind]
  rcases run : work.run.run before with ⟨failure | value, after⟩
  · rw [run] at middle
    exact middle
  · rw [run] at middle
    exact step value before after run after middle

theorem asksOnly_mapM {step : α → Consulting question β} {items : List α}
    (each : ∀ item ∈ items, AsksOnly kind (step item)) : AsksOnly kind (items.mapM step) := by
  induction items with
  | nil => exact asksOnly_pure []
  | cons item rest ih =>
      simp only [List.mem_cons, forall_eq_or_imp] at each
      rw [List.mapM_cons]
      refine each.1.bind fun value _ _ _ => ?_
      exact (ih each.2).bind fun values _ _ _ => asksOnly_pure (value :: values)

theorem AsksOnly.outcome {work : Consulting question α} (only : AsksOnly kind work) :
    ∀ asked ∈ work.outcome.2, kind asked :=
  only [] fun _ member => absurd member List.not_mem_nil

end Consulting

namespace Container

section

variable {approver : WildcardApprover} {options : BuildOptions}
  {kind : WildcardQuestion → Prop}

theorem asksOnly_templateEnvRule {container : String} {item : Value}
    (about : ∀ question ∈ openQuestions container (assignment? item).toList, kind question) :
    AsksOnly kind (templateEnvRule approver options container item) := by
  rw [templateEnvRule_eq]
  refine (asksOnly_lift _).bind fun declared _ _ done => ?_
  rw [readAssignment_ok.mp (gives_lift.mp done).1] at about
  unfold ruleOf openRule
  cases refers : containsReference declared.text.toList with
  | false => exact asksOnly_pure _
  | true =>
      have holds : kind ⟨container, declared.name⟩ := by
        apply about
        simp [openQuestions, refers]
      cases options.approveWildcards with
      | true => exact asksOnly_pure _
      | false =>
          refine (asksOnly_ask approver holds).bind fun yes _ _ _ => ?_
          cases yes with
          | true => exact asksOnly_pure _
          | false => exact asksOnly_pure _

theorem mem_openQuestions {container : String} {items : List Value} {question : WildcardQuestion} :
    question ∈ openQuestions container (items.filterMap assignment?) ↔
      ∃ item ∈ items, question ∈ openQuestions container (assignment? item).toList := by
  simp only [openQuestions, List.mem_map, List.mem_filter, List.mem_filterMap, Option.mem_toList]
  constructor
  · rintro ⟨declared, ⟨⟨item, listed, read⟩, refers⟩, same⟩
    exact ⟨item, listed, declared, ⟨read, refers⟩, same⟩
  · rintro ⟨item, listed, declared, ⟨read, refers⟩, same⟩
    exact ⟨declared, ⟨⟨item, listed, read⟩, refers⟩, same⟩

theorem asksOnly_compile {volumes : List Value} {declaration : Value}
    (about : ∀ question ∈ openQuestions (nameOf declaration) (assignments declaration),
      kind question) :
    AsksOnly kind (compile approver options (.template volumes) declaration) := by
  refine (asksOnly_lift _).bind fun image? _ _ imaged => ?_
  cases image? with
  | none => exact asksOnly_throw _
  | some image =>
      refine (asksOnly_lift _).bind fun name? _ _ named => ?_
      have name : name?.getD image = nameOf declaration := by
        have image := textField_ok (gives_lift.mp imaged).1
        rw [nameOf, textField_ok (gives_lift.mp named).1]
        exact congrArg name?.getD (congrArg (Option.getD · "") image.symm)
      rw [name]
      have rules : AsksOnly kind (declaredEnvRules approver options (.template volumes)
          (nameOf declaration) (propertiesOf declaration)) := by
        refine (asksOnly_lift _).bind fun items _ _ listed => ?_
        refine (asksOnly_mapM fun item member => ?_).bind fun _ _ _ _ => asksOnly_pure _
        refine asksOnly_templateEnvRule fun question asked => about question ?_
        refine mem_openQuestions.mpr ⟨item, ?_, asked⟩
        rwa [listField_ok (gives_lift.mp listed).1]
      refine rules.bind fun envRules _ _ _ => ?_
      refine (asksOnly_lift _).bind fun mounts _ _ _ => ?_
      refine (asksOnly_lift _).bind fun processes _ _ _ => ?_
      refine (asksOnly_lift _).bind fun command _ _ _ => ?_
      refine (asksOnly_lift _).bind fun signals _ _ _ => ?_
      exact (asksOnly_lift _).bind fun context _ _ _ => asksOnly_pure _

end

end Container

namespace Policy

variable {approver : WildcardApprover} {options : BuildOptions} {pulled : List FragmentImport}
  {kind : WildcardQuestion → Prop}

theorem asksOnly_ofGroup {resource : Value}
    (about : ∀ question ∈ groupQuestions resource, kind question) :
    AsksOnly kind (ofGroup approver options pulled resource) := by
  unfold groupQuestions at about
  unfold ofGroup
  dsimp only
  cases found : property? resource "properties" with
  | none => exact asksOnly_throw _
  | some properties =>
      dsimp only
      cases filled : filledList? properties "containers" with
      | none => exact asksOnly_throw _
      | some declared =>
          rw [found] at about
          have listed := (Option.filter_eq_some_iff.mp filled).1
          refine (asksOnly_mapM fun declaration member => ?_).bind fun containers _ _ _ => ?_
          · refine Container.asksOnly_compile fun question asked => about question ?_
            refine List.mem_flatMap.mpr ⟨declaration, ?_, asked⟩
            rw [Option.getD_some, declarations, listed]
            exact member
          · exact (asksOnly_lift _).bind fun standalone _ _ _ => asksOnly_pure _

theorem asksOnly_ofTemplate {evaluated : Evaluated}
    (about : ∀ resources ∈ evaluated.resources?, ∀ resource ∈ resources,
      isContainerGroup resource = true → ∀ question ∈ groupQuestions resource, kind question) :
    AsksOnly kind (ofTemplate approver options pulled evaluated) := by
  unfold ofTemplate
  cases filled : evaluated.resources?.filter (!·.isEmpty) with
  | none => exact asksOnly_throw _
  | some resources =>
      have listed := (Option.filter_eq_some_iff.mp filled).1
      have groups : AsksOnly kind
          ((resources.filter isContainerGroup).mapM (ofGroup approver options pulled)) := by
        refine asksOnly_mapM fun resource member => asksOnly_ofGroup ?_
        obtain ⟨member, group⟩ := List.mem_filter.mp member
        exact about resources listed resource member group
      dsimp only
      cases options.infrastructureSvn with
      | none => exact groups
      | some svn => exact (asksOnly_lift _).bind fun _ _ _ _ => groups

theorem asked_of_ofTemplate (approver : WildcardApprover) (options : BuildOptions)
    (pulled : List FragmentImport) (evaluated : Evaluated) :
    ∀ question ∈ (ofTemplate approver options pulled evaluated).outcome.2,
      ∃ resources, evaluated.resources? = some resources ∧ ∃ resource ∈ resources,
        isContainerGroup resource = true ∧ question ∈ groupQuestions resource :=
  (asksOnly_ofTemplate fun resources found resource member group _ asked =>
    ⟨resources, found, resource, member, group, asked⟩).outcome

end Policy

end Enforcement
