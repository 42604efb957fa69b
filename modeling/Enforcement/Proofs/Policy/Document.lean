import Enforcement.Policy.Decoding
import Enforcement.Proofs.Json.Number
import Enforcement.Proofs.Json.Shape
import Enforcement.Proofs.Policy.Decoding
import Mathlib.Algebra.Order.Ring.Int

/-!
A policy is kept whole by its document: every record is written in the normal form of its shape, so
the text that was printed, in either layout, is read back as the policy it was printed from.
-/

namespace Enforcement

open Enforcement.Json

namespace Shapes

variable {fields : List (List String × Bool × Shape)} {rest : List (String × Value)}

theorem normal_nil : Shape.NormalMembers [] [] := rfl

theorem normal_member {name : String} {others : List String} {optional : Bool} {shape : Shape}
    {value : Value} (held : shape.Normal value) (normal : Shape.NormalMembers fields rest) :
    Shape.NormalMembers ((name :: others, optional, shape) :: fields) ((name, value) :: rest) :=
  .inr ⟨value, rest, rfl, held, normal⟩

theorem normal_optionalMember {α : Type} (name : String) {shape : Shape} {encode : α → Value}
    (each : ∀ item, shape.Normal (encode item)) (held : Option α)
    (normal : Shape.NormalMembers fields rest) :
    Shape.NormalMembers (([name], true, shape) :: fields)
      (optionalMember name encode held ++ rest) := by
  cases held with
  | none => exact .inl ⟨rfl, normal⟩
  | some item => exact normal_member (each item) normal

theorem normal_list {α : Type} {shape : Shape} {encode : α → Value}
    (each : ∀ item, shape.Normal (encode item)) (items : List α) :
    (Shape.list shape).Normal (.array (items.map encode)) := by
  intro value inside
  obtain ⟨item, -, rfl⟩ := List.mem_map.mp inside
  exact each item

theorem normal_wholeValue {width : Nat} {value : Int} (narrow : width ≤ 64)
    (least : -(2 : Int) ^ (width - 1) ≤ value) (greatest : value < (2 : Int) ^ (width - 1)) :
    (Shape.integer width).Normal (wholeValue value) := by
  have bound : (2 : Int) ^ (width - 1) ≤ 2 ^ 63 := pow_le_pow_right₀ (by decide) (by omega)
  have back : (Number.whole value).ReadsBack :=
    Number.readsBack_whole (show -(2 : Int) ^ 63 ≤ value by omega)
      (show value ≤ (2 : Int) ^ 64 - 1 by omega)
  have within : (Number.whole value).signed? width = some value := by
    simp [Number.signed?, least, greatest]
  exact ⟨back, by rw [integerValue?, within]; rfl⟩

theorem normal_text (text : String) : Shape.text.Normal (.string text) := trivial

theorem normal_flag (flag : Bool) : Shape.flag.Normal (.bool flag) := trivial

theorem normal_textsValue (items : List String) : texts.Normal (textsValue items) :=
  normal_list normal_text items

theorem normal_signalsValue (items : List Int32) : signals.Normal (signalsValue items) :=
  normal_list (fun signal : Int32 =>
    normal_wholeValue (by decide) signal.le_toInt signal.toInt_lt) items

theorem normal_envRule (rule : EnvRule) : envRule.Normal rule.toValue := by
  have strategy : (Shape.choice ["string", "re2"]).Normal (.string rule.strategy.word) := by
    cases rule.strategy <;> simp [Shape.Normal, EnvStrategy.word]
  exact ⟨by decide, normal_member (normal_text rule.pattern)
    (normal_member strategy (normal_member (normal_flag rule.required) normal_nil))⟩

theorem normal_mountRule (rule : MountRule) : mountRule.Normal rule.toValue :=
  ⟨by decide, normal_member (normal_text rule.destination) (normal_member (normal_text rule.source)
    (normal_member (normal_text rule.kind)
      (normal_member (normal_textsValue rule.options) normal_nil)))⟩

theorem normal_execProcess (process : ExecProcess) : execProcess.Normal process.toValue :=
  ⟨by decide, normal_member (normal_textsValue process.command)
    (normal_member (normal_signalsValue process.signals) normal_nil)⟩

theorem normal_capabilities (held : Capabilities) : capabilities.Normal held.toValue :=
  ⟨by decide, normal_member (normal_textsValue held.add)
    (normal_member (normal_textsValue held.drop) normal_nil)⟩

theorem normal_securityContext (context : SecurityContext) :
    securityContext.Normal context.toValue := by
  have account (held : Int64) : (Shape.integer 64).Normal (wholeValue held.toInt) :=
    normal_wholeValue (by decide) held.le_toInt held.toInt_lt
  have members := normal_optionalMember "privileged" normal_flag context.privileged
    (normal_optionalMember "allow_privilege_escalation" normal_flag context.allowPrivilegeEscalation
      (normal_optionalMember "run_as_user" account context.runAsUser
        (normal_optionalMember "run_as_group" account context.runAsGroup
          (normal_optionalMember "capabilities" normal_capabilities context.capabilities
            normal_nil))))
  rw [List.append_nil] at members
  simp only [← List.append_assoc] at members
  exact ⟨by decide, members⟩

theorem normal_container (held : Container) : container.Normal held.toValue := by
  have context := normal_optionalMember "security_context" normal_securityContext
    held.securityContext normal_nil
  rw [List.append_nil] at context
  exact ⟨by decide, normal_member (normal_text held.id) (normal_member (normal_text held.name)
    (normal_member (normal_textsValue held.command)
      (normal_member (normal_list normal_envRule held.envRules)
        (normal_member (normal_list normal_mountRule held.mounts)
          (normal_member (normal_list normal_execProcess held.execProcesses)
            (normal_member (normal_signalsValue held.signals)
              (normal_member (normal_flag held.allowStdioAccess) context)))))))⟩

theorem normal_fragment (held : FragmentImport) : fragment.Normal held.toValue := by
  have word (item : Contribution) :
      (Shape.choice ["containers", "fragments"]).Normal (.string item.name) := by
    cases item <;> simp [Shape.Normal, Contribution.name]
  have includes := normal_list word held.includes
  exact ⟨by decide, normal_member (normal_text held.issuer) (normal_member (normal_text held.feed)
    (normal_member (normal_text held.minimumSvn) (normal_member includes normal_nil)))⟩

theorem normal_policy (held : Policy) : policy.Normal held.toValue :=
  ⟨by decide, normal_member (normal_list normal_fragment held.fragments)
    (normal_member (normal_list normal_container held.containers) normal_nil)⟩

end Shapes

/-- The document of a policy is read back as the policy, from its compact text and from its
indented one. -/
theorem Policy.read_toValue (context : String) (policy : Policy) :
    Policy.read context policy.toValue.compactText = .ok policy ∧
      Policy.read context policy.toValue.prettyText = .ok policy := by
  obtain ⟨compactly, prettily⟩ := Shape.readDocument_text (Shapes.normal_policy policy)
  constructor
  · rw [read, compactly, decoded, ofValue?_toValue]
  · rw [read, prettily, decoded, ofValue?_toValue]

end Enforcement
