import Enforcement.Proofs.Imports.File
import Enforcement.Proofs.Imports.Resolution

/-!
What a resolution gets to see of the world. The imports that come of it are told by this alone: by
what the tools print, once the directories can be made and the files are there that are fetched.
-/

namespace Enforcement

open Enforcement.Files

namespace Resolver

/-- What the client and the verifier print about one fragment. -/
structure Sighting where
  pulled : ToolOutput
  checked : ToolOutput
  deriving DecidableEq, Repr, Inhabited

/-- A fragment is fetched into a directory that is made for it, and is shown to the verifier. -/
inductive Sees (resolver : Resolver) (reference : ImageReference) (tools : Tools) (desk : Desk)
    (digest : String) : Sighting → Desk → Prop
  | intro {made fetched after : Desk} {sighting : Sighting} {name : String}
      (scratch : desk.make (resolver.directory digest) = (.ok (), made))
      (pull : made.ask tools (resolver.registry.pullCall reference digest
        (resolver.directory digest)) = (.ok sighting.pulled, fetched))
      (named : Registry.downloadedName? sighting.pulled.stdout = some name)
      (present : fetched.files.isFile (join (resolver.directory digest) name) = true)
      (check : fetched.ask tools (resolver.signer.checkCall
        (join (resolver.directory digest) name)) = (.ok sighting.checked, after)) :
      Sees resolver reference tools desk digest sighting
        (after.remove (resolver.directory digest))

inductive SeesEach (resolver : Resolver) (reference : ImageReference) (tools : Tools) :
    Desk → List String → List Sighting → Desk → Prop
  | none {desk : Desk} : SeesEach resolver reference tools desk [] [] desk
  | next {desk between after : Desk} {digest : String} {rest : List String} {sighting : Sighting}
      {sightings : List Sighting}
      (first : resolver.Sees reference tools desk digest sighting between)
      (others : SeesEach resolver reference tools between rest sightings after) :
      SeesEach resolver reference tools desk (digest :: rest) (sighting :: sightings) after

inductive SeesImage (resolver : Resolver) (image : String) (tools : Tools) (desk : Desk) :
    ToolOutput → List Sighting → Desk → Prop
  | intro {reference : ImageReference} {discovered : ToolOutput} {document : Json.Value}
      {sightings : List Sighting} {found after : Desk}
      (parsed : ImageReference.parse image = .ok reference)
      (answer : desk.ask tools (resolver.registry.discoverCall reference) =
        (.ok discovered, found))
      (read : discoveryShape.readDocument discovered.stdout = .ok document)
      (each : resolver.SeesEach reference tools found (discoveredDigests document) sightings
        after) :
      SeesImage resolver image tools desk discovered sightings after

inductive SeesFile (resolver : Resolver) (path : String) (tools : Tools) (desk : Desk) :
    ToolOutput → Desk → Prop
  | intro {checked : ToolOutput} {after : Desk} (present : desk.files.isFile path = true)
      (check : desk.ask tools (resolver.signer.checkCall path) = (.ok checked, after)) :
      SeesFile resolver path tools desk checked after

section

variable {resolver : Resolver} {reference : ImageReference} {minimum image path : String}
  {tools : Tools} {desk after : Desk}

theorem Accepts.again {digest : String} {fragment : VerifiedFragment}
    (accepts : Accepts resolver reference minimum tools desk digest path fragment after) :
    ∃ sighting, resolver.Sees reference tools desk digest sighting after ∧
      ∀ tools' desk' after', resolver.Sees reference tools' desk' digest sighting after' →
        Accepts resolver reference minimum tools' desk' digest path fragment after' := by
  obtain ⟨scratch, pull, pullExit, named, present, check, checkExit, parsed, least, declared,
    valid, enough⟩ := accepts
  refine ⟨⟨_, _⟩, .intro scratch pull named present check, fun tools' desk' after' sees => ?_⟩
  obtain ⟨scratch', pull', named', present', check'⟩ := sees
  cases named.symm.trans named'
  exact .intro scratch' pull' pullExit named present' check' checkExit parsed least declared valid
    enough

theorem Accepted.again {digests : List String} {calls : List ToolCall}
    {fragments : List VerifiedFragment}
    (accepted : Accepted resolver reference minimum tools desk digests calls fragments after) :
    ∃ sightings, resolver.SeesEach reference tools desk digests sightings after ∧
      ∀ tools' desk' after', resolver.SeesEach reference tools' desk' digests sightings after' →
        Accepted resolver reference minimum tools' desk' digests calls fragments after' := by
  induction accepted with
  | none =>
      refine ⟨[], .none, fun tools' desk' after' sees => ?_⟩
      cases sees
      exact .none
  | next first others ih =>
      obtain ⟨sighting, seen, once⟩ := first.again
      obtain ⟨sightings, later, rest⟩ := ih
      refine ⟨sighting :: sightings, .next seen later, fun tools' desk' after' sees => ?_⟩
      cases sees with
      | next first' others' => exact .next (once _ _ _ first') (rest _ _ _ others')

theorem resolveAll_again {imports : List FragmentImport}
    (run : (resolver.resolveAll image minimum).perform tools desk = (.ok imports, after)) :
    ∃ discovered sightings, resolver.SeesImage image tools desk discovered sightings after ∧
      ∀ tools' desk' after', resolver.SeesImage image tools' desk' discovered sightings after' →
        (resolver.resolveAll image minimum).perform tools' desk' = (.ok imports, after') := by
  obtain ⟨lowest, reference, output, document, found, calls, fragments, least, parsed, answer, exit,
    read, valid, accepted, rfl⟩ := (resolveAll_ok_iff ..).mp run
  obtain ⟨sightings, each, others⟩ := accepted.again
  refine ⟨output, sightings, .intro parsed answer read each, fun tools' desk' after' sees => ?_⟩
  obtain ⟨parsed', answer', read', each'⟩ := sees
  cases parsed.symm.trans parsed'
  cases read.symm.trans read'
  exact (resolveAll_ok_iff ..).mpr ⟨lowest, reference, output, document, _, calls, fragments, least,
    parsed, answer', exit, read, valid, others _ _ _ each', rfl⟩

theorem resolvePath_again {statement : FragmentImport}
    (run : (resolver.resolvePath path minimum).perform tools desk = (.ok statement, after)) :
    ∃ checked, resolver.SeesFile path tools desk checked after ∧
      ∀ tools' desk' after', resolver.SeesFile path tools' desk' checked after' →
        (resolver.resolvePath path minimum).perform tools' desk' = (.ok statement, after') := by
  obtain ⟨lowest, output, fragment, svn, least, present, answer, exit, parsed, gate, same⟩ :=
    resolvePath_ok_iff.mp run
  refine ⟨output, .intro present answer, fun tools' desk' after' sees => ?_⟩
  obtain ⟨present', answer'⟩ := sees
  exact resolvePath_ok_iff.mpr
    ⟨lowest, output, fragment, svn, least, present', answer', exit, parsed, gate, same⟩

theorem statement_valid {lowest : Nat} (least : Svn.parse minimum = .ok lowest)
    (fragment : VerifiedFragment) : (fragment.statement minimum).Valid := by
  refine ⟨?_, List.filter_sublist⟩
  change (Svn.parse? minimum).isSome = true
  unfold Svn.parse at least
  cases parsed : Svn.parse? minimum with
  | none =>
      rw [parsed] at least
      cases least
  | some value => rfl

theorem resolveAll_valid {imports : List FragmentImport}
    (run : (resolver.resolveAll image minimum).perform tools desk = (.ok imports, after)) :
    ∀ listed ∈ imports, listed.Valid := by
  obtain ⟨lowest, reference, output, document, found, calls, fragments, least, parsed, answer, exit,
    read, valid, accepted, rfl⟩ := (resolveAll_ok_iff ..).mp run
  intro listed member
  obtain ⟨fragment, -, rfl⟩ := List.mem_map.mp (List.mem_eraseDups.mp member)
  exact statement_valid least fragment

theorem resolvePath_valid {statement : FragmentImport}
    (run : (resolver.resolvePath path minimum).perform tools desk = (.ok statement, after)) :
    statement.Valid := by
  obtain ⟨lowest, output, fragment, svn, least, present, answer, exit, parsed, gate, rfl⟩ :=
    resolvePath_ok_iff.mp run
  exact statement_valid least fragment

end

end Resolver

end Enforcement
