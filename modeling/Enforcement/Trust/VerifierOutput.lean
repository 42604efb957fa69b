import Enforcement.Error
import Enforcement.Template.Reference
import Enforcement.Text.Line

/-!
What the verifier prints about a signed fragment: a header with a line for the issuer and one for
the feed, then the payload. The header ends where the payload begins, so nothing that the payload
holds is taken for a claim.
-/

namespace Enforcement

open Enforcement.Text Enforcement.Template

structure VerifiedFragment where
  issuer : String
  feed : String
  payload : String
  deriving DecidableEq, Repr, Inhabited

namespace VerifierOutput

def issuerMarker : List Char := "iss: ".toList
def feedMarker : List Char := "feed: ".toList
def payloadMarker : List Char := "payload:".toList

structure Findings where
  issuer : Option (List Char)
  feed : Option (List Char)
  payload : Option (List Char)
  deriving Repr

def isLineEnd (c : Char) : Bool := c == '\n' || c == '\r'

def visible (line : List Char) : List Char := (line.reverse.dropWhile isLineEnd).reverse

def claim? (marker line : List Char) : Option (List Char) :=
  (after? marker (trimStart (visible line))).map trim

/--
The payload that a line begins: what follows on the line but for one blank, or, if nothing
follows on it, the lines after it.
-/
def payload? (line : List Char) (rest : List (List Char)) : Option (List Char) :=
  (after? payloadMarker (trimStart (visible line))).map fun text =>
    if (trim text).isEmpty then rest.flatten
    else ((after? [' '] text).getD text) ++ line.drop (visible line).length ++ rest.flatten

/-- The first claim of each kind counts. -/
def scan (issuer feed : Option (List Char)) : List (List Char) → Findings
  | [] => ⟨issuer, feed, none⟩
  | line :: rest =>
    match payload? line rest with
    | some payload => ⟨issuer, feed, some payload⟩
    | none => scan (issuer.or (claim? issuerMarker line)) (feed.or (claim? feedMarker line)) rest

def parse (output : String) : Except Marker VerifiedFragment :=
  let findings := scan none none (fullLines output.toList)
  match findings.issuer, findings.feed, findings.payload with
  | none, _, _ => .error .issuer
  | some _, none, _ => .error .feed
  | some _, some _, none => .error .payload
  | some issuer, some feed, some payload =>
    .ok ⟨String.ofList issuer, String.ofList feed, String.ofList payload⟩

end VerifierOutput

end Enforcement
