import Enforcement.Policy.Fragment
import Enforcement.Policy.Rego
import Enforcement.Text.Search
import Enforcement.Trust.VerifierOutput

/-! Verified fragments are imported only from a minimum security version on. -/

namespace Enforcement.VerifiedFragment

open Enforcement.Text

/-- The version that the payload declares, if it is at least the minimum. -/
def ensureMinimum (fragment : VerifiedFragment) (minimumSvn : String) : Except Error Nat := do
  let minimum ← Svn.parse minimumSvn
  match Rego.svnText? fragment.payload with
  | none => throw (.trust (.versionMissing fragment.feed))
  | some declared =>
    let found ← Svn.parse declared
    if found < minimum then throw (.trust (.belowMinimum fragment.feed found minimum))
    return found

/-- A fragment contributes what its payload has a rule for. -/
def contributions (fragment : VerifiedFragment) : List Contribution :=
  Contribution.all.filter fun contribution =>
    occursIn (contribution.name ++ " :=").toList fragment.payload.toList

def importStatement (fragment : VerifiedFragment) (minimumSvn : String) :
    Except Error FragmentImport :=
  if (Svn.parse? minimumSvn).isSome then
    .ok (.normalized fragment.issuer fragment.feed minimumSvn fragment.contributions)
  else .error (.input (.minimumNotInteger minimumSvn))

end Enforcement.VerifiedFragment
