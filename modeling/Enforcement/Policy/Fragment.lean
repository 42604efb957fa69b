import Enforcement.Json.Printer
import Enforcement.Policy.Basic
import Enforcement.Svn
import Enforcement.Template.Property

/-! Fragment imports as templates, specification files and imports files declare them. -/

namespace Enforcement.FragmentImport

open Enforcement.Json Enforcement.Template

def normalized (issuer feed minimumSvn : String) (includes : List Contribution) :
    FragmentImport :=
  ⟨issuer, feed, minimumSvn, Contribution.normalize includes⟩

private def requiredText (entry : Value) (name : String) : Except Error String :=
  match textProperty? entry name with
  | some text => .ok text
  | none => .error (.input (.fragmentFieldNotText name))

def minimumText? (entry : Value) : Option String :=
  match (property? entry "minimum_svn").or (property? entry "minimumSvn") with
  | some (.string text) => some text
  | some (.number number) => some (String.ofList number.render)
  | _ => none

private def readInclude (feed : String) (item : Value) : Except Error Contribution :=
  match item.string?.bind Contribution.ofName? with
  | some contribution => .ok contribution
  | none => .error (.input (.fragmentIncludeUnknown feed item.compactText))

def ofValue (entry : Value) : Except Error FragmentImport := do
  let issuer ← requiredText entry "issuer"
  let feed ← requiredText entry "feed"
  match (minimumText? entry).filter (Svn.parse? · |>.isSome) with
  | none => throw (.input (.fragmentMinimumNotInteger feed))
  | some minimum =>
    match listProperty? entry "includes" with
    | none => throw (.input (.fragmentIncludesNotList feed))
    | some items => return normalized issuer feed minimum (← items.mapM (readInclude feed))

def includes? (entry : Value) : Option (List Contribution) :=
  (listProperty? entry "includes").bind (·.mapM fun item => item.string?.bind Contribution.ofName?)

theorem ofValue_toOption (entry : Value) :
    (ofValue entry).toOption = do
      return normalized (← textProperty? entry "issuer") (← textProperty? entry "feed")
        (← (minimumText? entry).filter (Svn.parse? · |>.isSome)) (← includes? entry) := by
  have contribution (feed : String) (item : Value) :
      (readInclude feed item).toOption = item.string?.bind Contribution.ofName? := by
    unfold readInclude
    cases item.string?.bind Contribution.ofName? with
    | none => rfl
    | some contribution => rfl
  unfold ofValue requiredText includes?
  cases textProperty? entry "issuer" with
  | none => rfl
  | some issuer =>
  cases textProperty? entry "feed" with
  | none => rfl
  | some feed =>
  cases (minimumText? entry).filter (Svn.parse? · |>.isSome) with
  | none => rfl
  | some minimum =>
  cases listProperty? entry "includes" with
  | none => rfl
  | some items =>
  change (items.mapM (readInclude feed) >>= fun includes =>
    Except.ok (normalized issuer feed minimum includes)).toOption = _
  rw [toOption_bind, toOption_mapM, funext (contribution feed)]
  rfl

end Enforcement.FragmentImport
