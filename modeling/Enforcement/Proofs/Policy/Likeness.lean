import Enforcement.Proofs.Policy.Comparison

/-!
Documents compared by what is read from them: when two are alike in every property, a policy is
compiled from the one exactly as from the other. The volumes of a group are the exception, because
their keys are looked at as they are written; what is said of mounts is therefore a hypothesis.
-/

namespace Enforcement

open Enforcement.Consulting Enforcement.Json Enforcement.Template

/-- Two documents of one kind: scalars are equal, and the items of lists are alike. -/
inductive SameForm (alike : Value → Value → Prop) : Value → Value → Prop
  | null : SameForm alike .null .null
  | bool (flag : Bool) : SameForm alike (.bool flag) (.bool flag)
  | number (number : Number) : SameForm alike (.number number) (.number number)
  | string (text : String) : SameForm alike (.string text) (.string text)
  | array {items others : List Value} (each : List.Forall₂ alike items others) :
      SameForm alike (.array items) (.array others)
  | object (members others : List (String × Value)) :
      SameForm alike (.object members) (.object others)

/-- Documents that are alike have the same form, and their properties are alike. -/
structure Likeness (alike : Value → Value → Prop) : Prop where
  form : ∀ {value other}, alike value other → SameForm alike value other
  property : ∀ {value other}, alike value other → ∀ name,
    Option.Rel alike (property? value name) (property? other name)

theorem likeness_eq : Likeness Eq where
  form := by
    rintro value _ rfl
    cases value with
    | null => exact .null
    | bool flag => exact .bool flag
    | number number => exact .number number
    | string text => exact .string text
    | array items => exact .array (List.forall₂_same.mpr fun _ _ => rfl)
    | object members => exact .object members members
  property := by
    rintro value _ rfl name
    cases property? value name with
    | none => exact .none
    | some found => exact .some rfl

section SameForm

variable {alike : Value → Value → Prop} {value other : Value}

theorem mapM_eq_of_alike {items others : List Value} (each : List.Forall₂ alike items others)
    {α : Type} {view : Value → Option α}
    (views : ∀ item other, alike item other → view item = view other) :
    items.mapM view = others.mapM view := by
  induction each with
  | nil => rfl
  | cons head _ ih => rw [List.mapM_cons, List.mapM_cons, views _ _ head, ih]

theorem SameForm.string? (form : SameForm alike value other) : value.string? = other.string? := by
  cases form <;> rfl

theorem SameForm.isObject (form : SameForm alike value other) :
    value.isObject = other.isObject := by
  cases form <;> rfl

theorem SameForm.scalarText? (form : SameForm alike value other) :
    Container.scalarText? value = Container.scalarText? other := by
  cases form <;> rfl

theorem SameForm.signal? (form : SameForm alike value other) :
    Container.signal? value = Container.signal? other := by
  cases form <;> rfl

theorem SameForm.array? (form : SameForm alike value other) :
    Option.Rel (List.Forall₂ alike) value.array? other.array? := by
  cases form with
  | array each => exact .some each
  | null | bool | number | string | object => exact .none

end SameForm

namespace Likeness

variable {alike : Value → Value → Prop} (likeness : Likeness alike) {value other : Value}

include likeness

@[elab_as_elim]
theorem property_cases (value other : Value) (name : String) (same : alike value other)
    {motive : Option Value → Option Value → Prop} (absent : motive none none)
    (held : ∀ found found', alike found found' → motive (some found) (some found')) :
    motive (property? value name) (property? other name) := by
  have property := likeness.property same name
  generalize property? value name = found at property
  generalize property? other name = found' at property
  cases property with
  | none => exact absent
  | some inside => exact held _ _ inside

theorem bind_property (same : alike value other) (name : String) {α : Type}
    {view : Value → Option α}
    (views : ∀ found found', alike found found' → view found = view found') :
    (property? value name).bind view = (property? other name).bind view := by
  exact likeness.property_cases value other name same rfl views

theorem textProperty? (same : alike value other) (name : String) :
    textProperty? value name = textProperty? other name :=
  likeness.bind_property same name fun _ _ held => (likeness.form held).string?

theorem listProperty? (same : alike value other) (name : String) :
    Option.Rel (List.Forall₂ alike) (listProperty? value name) (listProperty? other name) := by
  unfold Template.listProperty?
  refine likeness.property_cases value other name same .none fun found found' held => ?_
  exact (likeness.form held).array?

theorem listed (same : alike value other) (name : String) :
    List.Forall₂ alike ((Template.listProperty? value name).getD [])
      ((Template.listProperty? other name).getD []) := by
  have lists := likeness.listProperty? same name
  generalize Template.listProperty? value name = items at lists
  generalize Template.listProperty? other name = others at lists
  cases lists with
  | none => exact .nil
  | some each => exact each

theorem either (same : alike value other) (first second : String) :
    Option.Rel alike ((property? value first).or (property? value second))
      ((property? other first).or (property? other second)) := by
  exact likeness.property_cases value other first same (likeness.property same second)
    fun _ _ held => .some held

end Likeness

/-! Fields of a declaration. -/

namespace Container

variable {alike : Value → Value → Prop} (likeness : Likeness alike) {value other : Value}

include likeness

theorem paired_textField (same : alike value other) (key : String) :
    Paired Eq (textField value key) (textField other key) := by
  unfold textField
  refine likeness.property_cases value other key same (.done rfl) fun found found' held => ?_
  cases likeness.form held with
  | string text => exact .done rfl
  | null | bool | number | array | object => exact .failed _ _

theorem paired_requiredText (same : alike value other) (key role : String) :
    Paired Eq (requiredText value key role) (requiredText other key role) := by
  refine (paired_textField likeness same key).bind ?_
  rintro text _ rfl
  exact paired_self _

theorem paired_listField (same : alike value other) (key : String) :
    Paired (List.Forall₂ alike) (listField value key) (listField other key) := by
  unfold listField
  refine likeness.property_cases value other key same (.done .nil) fun found found' held => ?_
  cases likeness.form held with
  | array each => exact .done each
  | null | bool | number | string | object => exact .failed _ _

theorem paired_textListField (same : alike value other) (key : String) :
    Paired Eq (textListField value key) (textListField other key) := by
  unfold textListField
  refine likeness.property_cases value other key same (.done rfl) fun found found' held => ?_
  cases likeness.form held with
  | array each =>
      dsimp only [Value.array?, Option.bind_some]
      rw [mapM_eq_of_alike each fun _ _ item => (likeness.form item).string?]
      exact paired_self _
  | null | bool | number | string | object => exact .failed _ _

theorem paired_flagField (same : alike value other) (key : String) :
    Paired Eq (flagField value key) (flagField other key) := by
  unfold flagField
  refine likeness.property_cases value other key same (.done rfl) fun found found' held => ?_
  cases likeness.form held with
  | bool flag => exact .done rfl
  | null | number | string | array | object => exact .failed _ _

theorem paired_integerField (same : alike value other) (key : String) :
    Paired Eq (integerField value key) (integerField other key) := by
  unfold integerField
  refine likeness.property_cases value other key same (.done rfl) fun found found' held => ?_
  cases likeness.form held with
  | number number => exact paired_self _
  | null | bool | string | array | object => exact .failed _ _

theorem paired_readSignal (same : alike value other) :
    Paired Eq (readSignal value) (readSignal other) := by
  unfold readSignal
  rw [(likeness.form same).signal?]
  cases signal? other with
  | none => exact .failed _ _
  | some number => exact .done rfl

theorem paired_signalsField (same : alike value other) (key : String) :
    Paired Eq (signalsField value key) (signalsField other key) := by
  unfold signalsField
  refine likeness.property_cases value other key same (.done rfl) fun found found' held => ?_
  cases likeness.form held with
  | array each => exact .mapM_eq each fun _ _ item => paired_readSignal likeness item
  | null | bool | number | string | object => exact .failed _ _

/-! Processes, security context and the map of settings. -/

theorem configMapMount_of_alike (same : alike value other) :
    configMapMount value = configMapMount other := by
  unfold configMapMount
  exact likeness.property_cases value other "configMap" same rfl fun _ _ _ => rfl

theorem paired_declaredProcess (same : alike value other) :
    Paired Eq (declaredProcess value) (declaredProcess other) := by
  refine (paired_textListField likeness same "command").bind ?_
  rintro command _ rfl
  cases command with
  | none => exact .failed _ _
  | some command =>
      refine (paired_signalsField likeness same "signals").bind ?_
      rintro signals _ rfl
      exact .done rfl

theorem paired_probeProcess (same : alike value other) (probe : String) :
    Paired Eq (probeProcess value probe) (probeProcess other probe) := by
  unfold probeProcess
  refine likeness.property_cases value other probe same (.done rfl) fun found found' held => ?_
  dsimp only [Option.bind_some]
  refine likeness.property_cases found found' "exec" held (.done rfl) fun exec exec' inside => ?_
  refine (paired_textListField likeness inside "command").bind ?_
  rintro command _ rfl
  exact paired_self _

theorem paired_allowedProcesses (same : alike value other) {options options' : BuildOptions}
    (debug : options.debugMode = options'.debugMode) :
    Paired Eq (allowedProcesses options value) (allowedProcesses options' other) := by
  refine (paired_listField likeness same "execProcesses").bind fun declared declared' listed => ?_
  refine (Paired.mapM_eq listed fun _ _ item => paired_declaredProcess likeness item).bind ?_
  rintro processes _ rfl
  refine (paired_probeProcess likeness same "readinessProbe").bind ?_
  rintro readiness _ rfl
  refine (paired_probeProcess likeness same "livenessProbe").bind ?_
  rintro liveness _ rfl
  rw [debug]
  exact .done rfl

theorem paired_readCapabilities (same : alike value other) :
    Paired Eq (readCapabilities value) (readCapabilities other) := by
  unfold readCapabilities
  refine likeness.property_cases value other "capabilities" same (.done rfl)
    fun found found' held => ?_
  refine (paired_textListField likeness held "add").bind ?_
  rintro add _ rfl
  refine (paired_textListField likeness held "drop").bind ?_
  rintro drop _ rfl
  exact .done rfl

theorem paired_readSecurityContext (same : alike value other) :
    Paired Eq (readSecurityContext value) (readSecurityContext other) := by
  unfold readSecurityContext
  refine likeness.property_cases value other "securityContext" same (.done rfl)
    fun context context' held => ?_
  dsimp only
  rw [(likeness.form held).isObject]
  split
  · exact .failed _ _
  · refine (paired_readCapabilities likeness held).bind ?_
    rintro capabilities _ rfl
    refine (paired_flagField likeness held "privileged").bind ?_
    rintro privileged _ rfl
    refine (paired_flagField likeness held "allowPrivilegeEscalation").bind ?_
    rintro escalation _ rfl
    refine (paired_integerField likeness held "runAsUser").bind ?_
    rintro user _ rfl
    refine (paired_integerField likeness held "runAsGroup").bind ?_
    rintro group _ rfl
    exact .done rfl

end Container

end Enforcement
