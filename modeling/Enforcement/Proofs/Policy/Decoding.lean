import Enforcement.Policy.Decoding

/-! A policy is read back from the document that it is written to. -/

namespace Enforcement

open Enforcement.Json

theorem mapM_map_some {α β : Type} {encode : α → β} {decode : β → Option α}
    (back : ∀ item, decode (encode item) = some item) (items : List α) :
    (items.map encode).mapM decode = some items := by
  induction items with
  | nil => rfl
  | cons item rest ih =>
      rw [List.map_cons, List.mapM_cons, back, ih]
      rfl

namespace Decoding

theorem optionalOf_eq {α : Type} {value : Value} {name : String} {encode : α → Value}
    {held : Option α} (found : member value name = held.map encode) (decode : Value → Option α)
    (back : ∀ item, decode (encode item) = some item) :
    optionalOf value name decode = some held := by
  unfold optionalOf
  rw [found]
  cases held with
  | none => rfl
  | some item => exact congrArg (·.map some) (back item)

theorem listOf_eq {α : Type} {value : Value} {name : String} {encode : α → Value}
    {items : List α} (found : member value name = some (.array (items.map encode)))
    (decode : Value → Option α) (back : ∀ item, decode (encode item) = some item) :
    listOf value name decode = some items := by
  unfold listOf
  rw [found]
  exact mapM_map_some back items

theorem signal?_wholeValue (signal : Int32) :
    signal? (wholeValue signal.toInt) = some signal :=
  congrArg some (Int32.ofInt_toInt signal)

theorem account?_wholeValue (account : Int64) :
    account? (wholeValue account.toInt) = some account :=
  congrArg some (Int64.ofInt_toInt account)

end Decoding

open Decoding

theorem EnvRule.ofValue?_toValue (rule : EnvRule) : ofValue? rule.toValue = some rule := by
  obtain ⟨pattern, strategy, required⟩ := rule
  cases strategy with
  | string => rfl
  | re2 => rfl

theorem MountRule.ofValue?_toValue (rule : MountRule) : ofValue? rule.toValue = some rule := by
  have options : listOf rule.toValue "options" Value.string? = some rule.options :=
    listOf_eq rfl _ fun _ => rfl
  unfold ofValue?
  rw [options]
  rfl

theorem ExecProcess.ofValue?_toValue (process : ExecProcess) :
    ofValue? process.toValue = some process := by
  have command : listOf process.toValue "command" Value.string? = some process.command :=
    listOf_eq rfl _ fun _ => rfl
  have signals : listOf process.toValue "signals" signal? = some process.signals :=
    listOf_eq rfl _ signal?_wholeValue
  unfold ofValue?
  rw [command, signals]
  rfl

theorem Capabilities.ofValue?_toValue (capabilities : Capabilities) :
    ofValue? capabilities.toValue = some capabilities := by
  have add : listOf capabilities.toValue "add" Value.string? = some capabilities.add :=
    listOf_eq rfl _ fun _ => rfl
  have drop : listOf capabilities.toValue "drop" Value.string? = some capabilities.drop :=
    listOf_eq rfl _ fun _ => rfl
  unfold ofValue?
  rw [add, drop]
  rfl

theorem SecurityContext.ofValue?_toValue (context : SecurityContext) :
    ofValue? context.toValue = some context := by
  have listed (key : String) : member context.toValue key = memberAt? key
      (optionalMember "privileged" .bool context.privileged ++
        (optionalMember "allow_privilege_escalation" .bool context.allowPrivilegeEscalation ++
          (optionalMember "run_as_user" (wholeValue ·.toInt) context.runAsUser ++
            (optionalMember "run_as_group" (wholeValue ·.toInt) context.runAsGroup ++
              (optionalMember "capabilities" Capabilities.toValue context.capabilities ++
                []))))) := by
    simp only [member, toValue, Value.members?, List.append_assoc, List.append_nil,
      Option.bind_some]
  have found : member context.toValue "privileged" = context.privileged.map .bool ∧
      member context.toValue "allow_privilege_escalation" =
        context.allowPrivilegeEscalation.map .bool ∧
      member context.toValue "run_as_user" = context.runAsUser.map (wholeValue ·.toInt) ∧
      member context.toValue "run_as_group" = context.runAsGroup.map (wholeValue ·.toInt) ∧
      member context.toValue "capabilities" = context.capabilities.map Capabilities.toValue := by
    refine ⟨?_, ?_, ?_, ?_, ?_⟩ <;> rw [listed] <;>
      simp only [memberAt?_optionalMember, String.reduceEq, if_true, if_false, memberAt?_nil,
        Option.or_none]
  obtain ⟨privileged, escalation, user, group, capabilities⟩ := found
  unfold ofValue?
  rw [optionalOf_eq privileged _ fun _ => rfl, optionalOf_eq escalation _ fun _ => rfl,
    optionalOf_eq user _ account?_wholeValue, optionalOf_eq group _ account?_wholeValue,
    optionalOf_eq capabilities _ Capabilities.ofValue?_toValue]
  rfl

theorem Container.ofValue?_toValue (container : Container) :
    ofValue? container.toValue = some container := by
  have command : listOf container.toValue "command" Value.string? = some container.command :=
    listOf_eq rfl _ fun _ => rfl
  have rules : listOf container.toValue "env_rules" EnvRule.ofValue? = some container.envRules :=
    listOf_eq rfl _ EnvRule.ofValue?_toValue
  have mounts : listOf container.toValue "mounts" MountRule.ofValue? = some container.mounts :=
    listOf_eq rfl _ MountRule.ofValue?_toValue
  have processes : listOf container.toValue "exec_processes" ExecProcess.ofValue? =
      some container.execProcesses :=
    listOf_eq rfl _ ExecProcess.ofValue?_toValue
  have signals : listOf container.toValue "signals" signal? = some container.signals :=
    listOf_eq rfl _ signal?_wholeValue
  have found : member container.toValue "security_context" =
      container.securityContext.map SecurityContext.toValue := by
    change memberAt? "security_context" (optionalMember "security_context" SecurityContext.toValue
      container.securityContext) = _
    cases container.securityContext with
    | none => rfl
    | some context => rfl
  unfold ofValue?
  rw [command, rules, mounts, processes, signals,
    optionalOf_eq found _ SecurityContext.ofValue?_toValue]
  rfl

theorem FragmentImport.decode?_toValue (fragment : FragmentImport) :
    decode? fragment.toValue = some fragment := by
  have named (item : Contribution) :
      (Value.string item.name).string?.bind Contribution.ofName? = some item :=
    Contribution.ofName?_name item
  have includes : (listOf fragment.toValue "includes" fun item =>
      item.string?.bind Contribution.ofName?) = some fragment.includes :=
    listOf_eq rfl _ named
  unfold decode?
  rw [includes]
  rfl

theorem Policy.ofValue?_toValue (policy : Policy) : ofValue? policy.toValue = some policy := by
  have fragments : listOf policy.toValue "fragments" FragmentImport.decode? =
      some policy.fragments := listOf_eq rfl _ FragmentImport.decode?_toValue
  have containers : listOf policy.toValue "containers" Container.ofValue? =
      some policy.containers := listOf_eq rfl _ Container.ofValue?_toValue
  unfold ofValue?
  rw [fragments, containers]
  rfl

end Enforcement
