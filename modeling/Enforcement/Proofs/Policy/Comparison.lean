import Mathlib.Data.List.Forall2
import Enforcement.Proofs.Policy.Consultation

/-!
Two runs compared: both fail, or both succeed with related values, and what has been asked in the
one stays related to what has been asked in the other.
-/

namespace Enforcement

/-- Two results that both fail, or both succeed with related values. -/
inductive Paired {α β : Type} (related : α → β → Prop) : Except Error α → Except Error β → Prop
  | failed (failure failure' : Error) : Paired related (.error failure) (.error failure')
  | done {value : α} {value' : β} (same : related value value') :
      Paired related (.ok value) (.ok value')

section Paired

variable {α β γ δ : Type} {related : α → β → Prop} {further : γ → δ → Prop}

theorem paired_eq_iff {result other : Except Error α} :
    Paired Eq result other ↔ result.toOption = other.toOption := by
  constructor
  · intro paired
    cases paired with
    | failed => rfl
    | done same => rw [same]
  · intro same
    cases result with
    | error failure =>
        cases other with
        | error failure' => exact .failed failure failure'
        | ok value => cases same
    | ok value =>
        cases other with
        | error failure => cases same
        | ok value' => exact .done (Option.some.inj same)

theorem paired_self (result : Except Error α) : Paired Eq result result := paired_eq_iff.mpr rfl

theorem Paired.bind_read {result : Except Error α} {other : Except Error β}
    {next : α → Except Error γ} {next' : β → Except Error δ} (start : Paired related result other)
    (step : ∀ value value', result = .ok value → related value value' →
      Paired further (next value) (next' value')) :
    Paired further (result >>= next) (other >>= next') := by
  cases start with
  | failed failure failure' => exact .failed failure failure'
  | done same => exact step _ _ rfl same

theorem Paired.bind {result : Except Error α} {other : Except Error β}
    {next : α → Except Error γ} {next' : β → Except Error δ} (start : Paired related result other)
    (step : ∀ value value', related value value' → Paired further (next value) (next' value')) :
    Paired further (result >>= next) (other >>= next') :=
  start.bind_read fun value value' _ => step value value'

theorem Paired.mapM {step : α → Except Error γ} {step' : β → Except Error δ} {items : List α}
    {others : List β} (alike : List.Forall₂ related items others)
    (each : ∀ item other, related item other → Paired further (step item) (step' other)) :
    Paired (List.Forall₂ further) (items.mapM step) (others.mapM step') := by
  induction alike with
  | nil => exact .done .nil
  | cons same rest ih =>
      rw [List.mapM_cons, List.mapM_cons]
      refine (each _ _ same).bind fun value value' first => ?_
      exact ih.bind fun values values' later => .done (.cons first later)

theorem forall₂_of_mapM {step : α → Except Error β} {items : List α} {values : List β}
    (done : items.mapM step = .ok values) :
    List.Forall₂ (fun item value => step item = .ok value) items values := by
  induction items generalizing values with
  | nil =>
      cases done
      exact .nil
  | cons item rest ih =>
      rw [List.mapM_cons] at done
      obtain ⟨value, first, done⟩ := bind_ok.mp done
      obtain ⟨others, later, done⟩ := bind_ok.mp done
      cases done
      exact .cons first (ih later)

theorem forall₂_source {items : List α} {values : List β} {holds : α → β → Prop}
    (each : List.Forall₂ holds items values) :
    ∀ value ∈ values, ∃ item ∈ items, holds item value := by
  induction each with
  | nil => nofun
  | cons held _ ih =>
      intro value member
      rcases List.mem_cons.mp member with rfl | member
      · exact ⟨_, List.mem_cons_self, held⟩
      · obtain ⟨item, listed, related⟩ := ih value member
        exact ⟨item, List.mem_cons_of_mem _ listed, related⟩

theorem forall₂_common {items : List α} {others : List γ} {values : List β} {left : α → β → Prop}
    {right : γ → β → Prop} {alike : α → γ → Prop} (first : List.Forall₂ left items values)
    (second : List.Forall₂ right others values) (each : List.Forall₂ alike items others) :
    ∀ item ∈ items, ∃ other value, alike item other ∧ left item value ∧ right other value := by
  induction first generalizing others with
  | nil => exact fun _ listed => absurd listed List.not_mem_nil
  | cons held _ ih =>
      cases second with
      | cons held' later =>
          cases each with
          | cons same rest =>
              intro item listed
              rcases List.mem_cons.mp listed with rfl | listed
              · exact ⟨_, _, same, held, held'⟩
              · exact ih later rest item listed

theorem Paired.mapM_eq {step : α → Except Error γ} {step' : β → Except Error γ} {items : List α}
    {others : List β} (alike : List.Forall₂ related items others)
    (each : ∀ item other, related item other → Paired Eq (step item) (step' other)) :
    Paired Eq (items.mapM step) (others.mapM step') := by
  have paired := Paired.mapM alike each
  rwa [List.forall₂_eq_eq_eq] at paired

end Paired

namespace Consulting

variable {question α β γ δ : Type} {asked : List question → List question → Prop}
  {related : α → β → Prop} {further : γ → δ → Prop}

/-- One work keeps pace with another: related results, and related questions on the way. -/
def Tracks (asked : List question → List question → Prop) (related : α → β → Prop)
    (work : Consulting question α) (other : Consulting question β) : Prop :=
  ∀ before before', asked before before' →
    Paired related (work.run.run before).1 (other.run.run before').1 ∧
      asked (work.run.run before).2 (other.run.run before').2

theorem tracks_pure {value : α} {value' : β} (same : related value value') :
    Tracks asked related (pure value) (pure value') :=
  fun _ _ before => ⟨.done same, before⟩

theorem tracks_throw (failure failure' : Error) :
    Tracks asked related (throw failure) (throw failure') :=
  fun _ _ before => ⟨.failed failure failure', before⟩

theorem tracks_lift {result : Except Error α} {other : Except Error β}
    (paired : Paired related result other) : Tracks asked related (liftM result) (liftM other) := by
  cases paired with
  | failed failure failure' => exact tracks_throw failure failure'
  | done same => exact tracks_pure same

theorem Tracks.bind {work : Consulting question α} {other : Consulting question β}
    {next : α → Consulting question γ} {next' : β → Consulting question δ}
    (start : Tracks asked related work other)
    (step : ∀ value value', related value value' →
      Tracks asked further (next value) (next' value')) :
    Tracks asked further (work >>= next) (other >>= next') := by
  intro before before' same
  obtain ⟨paired, later⟩ := start before before' same
  rw [run_bind, run_bind]
  rcases run : work.run.run before with ⟨result, after⟩
  rcases run' : other.run.run before' with ⟨result', after'⟩
  rw [run, run'] at paired later
  change Paired related result result' at paired
  cases paired with
  | failed failure failure' => exact ⟨.failed failure failure', later⟩
  | done values => exact step _ _ values after after' later

theorem tracks_mapM {step : α → Consulting question γ} {step' : β → Consulting question δ}
    {items : List α} {others : List β} (alike : List.Forall₂ related items others)
    (each : ∀ item other, related item other → Tracks asked further (step item) (step' other)) :
    Tracks asked (List.Forall₂ further) (items.mapM step) (others.mapM step') := by
  induction alike with
  | nil => exact tracks_pure .nil
  | cons same rest ih =>
      rw [List.mapM_cons, List.mapM_cons]
      refine (each _ _ same).bind fun value value' first => ?_
      exact ih.bind fun values values' later => tracks_pure (.cons first later)

theorem tracks_mapM_eq {step : α → Consulting question γ} {step' : β → Consulting question γ}
    {items : List α} {others : List β} (alike : List.Forall₂ related items others)
    (each : ∀ item ∈ items, ∀ other, related item other →
      Tracks asked Eq (step item) (step' other)) :
    Tracks asked Eq (items.mapM step) (others.mapM step') := by
  have run := tracks_mapM ((List.forall₂_and_left _ _).mpr ⟨each, alike⟩)
    fun item other pair => pair.1 other pair.2
  rwa [List.forall₂_eq_eq_eq] at run

theorem Tracks.outcome {work : Consulting question α} {other : Consulting question β}
    (tracks : Tracks asked related work other) (start : asked [] []) :
    Paired related work.outcome.1 other.outcome.1 ∧ asked work.outcome.2 other.outcome.2 :=
  tracks [] [] start

/-! One run that succeeds. -/

/-- The work succeeds; what was asked before and in it is what has been asked after it. -/
def Gives (work : Consulting question α) (before : List question) (value : α)
    (after : List question) : Prop :=
  work.run.run before = (.ok value, after)

variable {before after : List question}

theorem gives_bind {work : Consulting question α} {next : α → Consulting question β} {value : β} :
    Gives (work >>= next) before value after ↔
      ∃ found between, Gives work before found between ∧
        Gives (next found) between value after := by
  unfold Gives
  rw [run_bind]
  rcases work.run.run before with ⟨failure | found, between⟩
  · constructor
    · intro done
      cases done
    · rintro ⟨found, between, first, -⟩
      cases first
  · constructor
    · intro done
      exact ⟨found, between, rfl, done⟩
    · rintro ⟨found, between, first, done⟩
      cases first
      exact done

theorem gives_pure {value value' : α} :
    Gives (pure value : Consulting question α) before value' after ↔
      value = value' ∧ before = after := by
  change (Except.ok value, before) = (Except.ok value', after) ↔ _
  simp

theorem gives_throw {failure : Error} {value : α} :
    ¬ Gives (throw failure : Consulting question α) before value after := nofun

theorem gives_lift {result : Except Error α} {value : α} :
    Gives (liftM result : Consulting question α) before value after ↔
      result = .ok value ∧ before = after := by
  cases result with
  | error failure =>
      constructor
      · intro done
        exact absurd done gives_throw
      · rintro ⟨done, -⟩
        cases done
  | ok found =>
      rw [Except.ok.injEq]
      exact gives_pure

theorem gives_ask {decide : question → α} {wanted : question} {value : α} :
    Gives (ask decide wanted) before value after ↔
      decide wanted = value ∧ before ++ [wanted] = after := by
  change (Except.ok (decide wanted), before ++ [wanted]) = (Except.ok value, after) ↔ _
  simp

theorem gives_each {step : α → Consulting question β} {items : List α} {values : List β}
    (done : Gives (items.mapM step) before values after) :
    List.Forall₂ (fun item value => ∃ earlier later, Gives (step item) earlier value later) items
      values := by
  induction items generalizing before values with
  | nil =>
      obtain ⟨rfl, -⟩ := gives_pure.mp done
      exact .nil
  | cons item rest ih =>
      rw [List.mapM_cons] at done
      obtain ⟨value, between, first, done⟩ := gives_bind.mp done
      obtain ⟨others, _, later, done⟩ := gives_bind.mp done
      obtain ⟨rfl, rfl⟩ := gives_pure.mp done
      exact .cons ⟨before, between, first⟩ (ih later)

theorem gives_mapM {step : α → Consulting question β} (holds : α → β → Prop)
    (asks : α → List question)
    (each : ∀ item value before after, Gives (step item) before value after →
      holds item value ∧ after = before ++ asks item)
    {items : List α} {values : List β} (done : Gives (items.mapM step) before values after) :
    List.Forall₂ holds items values ∧ after = before ++ items.flatMap asks := by
  induction items generalizing before values with
  | nil =>
      obtain ⟨rfl, rfl⟩ := gives_pure.mp done
      exact ⟨.nil, (List.append_nil _).symm⟩
  | cons item rest ih =>
      rw [List.mapM_cons] at done
      obtain ⟨value, between, first, done⟩ := gives_bind.mp done
      obtain ⟨values, end', later, done⟩ := gives_bind.mp done
      obtain ⟨rfl, rfl⟩ := gives_pure.mp done
      obtain ⟨held, rfl⟩ := each item value before between first
      obtain ⟨others, rfl⟩ := ih later
      refine ⟨.cons held others, ?_⟩
      rw [List.flatMap_cons, List.append_assoc]

end Consulting

end Enforcement
