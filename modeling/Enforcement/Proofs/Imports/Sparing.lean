import Enforcement.Proofs.Files.Writing
import Enforcement.Proofs.Imports.Scratch

/-!
What a resolution leaves alone. A property of the files that outlasts the calls of the tools, and
the directories for fragments made and removed, outlasts every resolution; such a property is what a
file outside the scratch directory holds, and that a path which stays outside leads to it.
-/

namespace Enforcement

open Enforcement.Files Enforcement.Text

/-- No call moves the place from which paths start, or changes what a file at some place holds. -/
def Tools.Spare (tools : Tools) (place : Place) : Prop :=
  ∀ calls files call, (tools calls files call).2.home = files.home ∧
    Store.contents? (tools calls files call).2 place = files.contents? place

def Tools.SpareWay (tools : Tools) (path : String) : Prop :=
  ∀ calls files call place, Store.resolve files path = .ok place →
    Store.resolve (tools calls files call).2 path = .ok place

/-- Paths start from one place, and the file at another one holds some bytes, or is not there. -/
structure Holds (home place : Place) (contents : Option (List UInt8)) (files : Store) : Prop where
  home : files.home = home
  contents : files.contents? place = contents

structure HoldsAt (home : Place) (path : String) (place : Place)
    (contents : Option (List UInt8)) (files : Store) : Prop
    extends Holds home place contents files where
  leads : files.resolve path = .ok place

section

variable {home place : Place} {contents : Option (List UInt8)} {files : Store}

theorem Holds.called {tools : Tools} (spared : tools.Spare place)
    (held : Holds home place contents files) (calls : List ToolCall) (call : ToolCall) :
    Holds home place contents (tools calls files call).2 := by
  obtain ⟨same, kept⟩ := spared calls files call
  exact ⟨same.trans held.home, kept.trans held.contents⟩

theorem Holds.made (held : Holds home place contents files) (path : String) :
    Holds home place contents (files.createDirectories path).2 := by
  have making := Store.made_createDirectories path files
  exact ⟨making.home.trans held.home,
    (Store.contents?_of_sameOrMade (making.entries place)).trans held.contents⟩

theorem Holds.written (held : Holds home place contents files) {path text : String} {after : Store}
    (wrote : files.writeText path text = .ok after) (other : place ≠ destination home path) :
    Holds home place contents after := by
  have written := Store.written_of_writeBytes wrote
  have same := written.others place fun leads =>
    other (held.home ▸ (Store.resolve_ok leads).2)
  exact ⟨written.home.trans held.home, (Store.contents?_of_entry same).trans held.contents⟩

end

theorem Registry.maintains_callChecked {fit : Store → Prop} {tools : Tools}
    (called : ∀ calls files call, fit files → fit (tools calls files call).2) (registry : Registry)
    (reference : ImageReference) (directory : Option String) (args : List String) :
    Job.Maintains fit tools (registry.callChecked reference directory args) := by
  refine (Job.maintains_call called _ _).bind fun output => ?_
  split
  · exact (Job.quiet_pure output).maintains
  · split
    · exact ((Job.quiet_fail _).bind fun _ => Job.quiet_fail _).maintains
    · exact (Job.quiet_fail _).maintains

namespace Resolver

/-- What a property of the files has to outlast. -/
structure Safe (resolver : Resolver) (fit : Store → Prop) (tools : Tools) : Prop where
  called : ∀ calls files call, fit files → fit (tools calls files call).2
  made : ∀ digest, digest ≠ "" → ∀ files, fit files →
    fit (files.createDirectories (resolver.directory digest)).2
  removed : ∀ digest, digest ≠ "" → ∀ files, fit files →
    fit (files.removeDirectory (resolver.directory digest)).2

section

variable {resolver : Resolver} {fit : Store → Prop} {tools : Tools}

theorem maintains_discover (safe : resolver.Safe fit tools) (image : String) :
    Job.Maintains fit tools (resolver.registry.discover image) := by
  refine (Job.quiet_lift _).maintains.bind fun reference => ?_
  refine (Registry.maintains_callChecked safe.called _ _ _ _).bind fun output => ?_
  split
  · exact (Job.quiet_pure _).maintains
  · exact (Job.quiet_fail _).maintains

theorem maintains_pull (safe : resolver.Safe fit tools) (image : String) {digest : String}
    (filled : digest ≠ "") :
    Job.Maintains fit tools
      (resolver.registry.pull image digest (resolver.directory digest)) := by
  refine (Job.quiet_lift _).maintains.bind fun reference => ?_
  refine (Job.maintains_createDirectories (safe.made digest filled)).bind fun _ => ?_
  refine (Registry.maintains_callChecked safe.called _ _ _ _).bind fun output => ?_
  split
  · exact (Job.quiet_pure _).maintains
  · exact (Job.quiet_fail _).maintains

theorem maintains_importFile (safe : resolver.Safe fit tools) (path minimum : String) :
    Job.Maintains fit tools (resolver.importFile path minimum) := by
  have check : Job.Maintains fit tools (resolver.signer.check path) := by
    refine (Job.quiet_requireFile _ _).maintains.bind fun _ => ?_
    refine (Job.maintains_call safe.called _ _).bind fun output => ?_
    split
    · exact ((Job.quiet_fail _).bind fun _ => Job.quiet_pure _).maintains
    · exact (Job.quiet_pure _).maintains
  have verify : Job.Maintains fit tools (resolver.signer.verify path) := by
    refine check.bind fun output => ?_
    split
    · exact (Job.quiet_pure _).maintains
    · exact (Job.quiet_fail _).maintains
  exact verify.bind fun fragment =>
    ((Job.quiet_lift _).bind fun _ => Job.quiet_lift _).maintains

theorem maintains_importDigest (safe : resolver.Safe fit tools) (image minimum : String)
    {digest : String} (filled : digest ≠ "") :
    Job.Maintains fit tools (resolver.importDigest image minimum digest) := by
  have work : Job.Maintains fit tools
      (resolver.registry.pull image digest (resolver.directory digest) >>=
        fun path => resolver.importFile path minimum) :=
    (maintains_pull safe image filled).bind fun path => maintains_importFile safe path minimum
  exact (Job.maintains_createDirectories (safe.made digest filled)).bind fun _ =>
    Job.maintains_withCleanUp (safe.removed digest filled) work

theorem maintains_resolveAll (safe : resolver.Safe fit tools) (image minimum : String) :
    Job.Maintains fit tools (resolver.resolveAll image minimum) := by
  refine (Job.quiet_lift _).maintains.bind fun _ => ?_
  refine (maintains_discover safe image).bind fun digests => ?_
  split
  · exact (Job.quiet_fail _).maintains
  · rename_i valid
    have each : ∀ digest ∈ digests,
        Job.Maintains fit tools (resolver.importDigest image minimum digest) :=
      fun digest member => maintains_importDigest safe image minimum
        (ne_empty_of_isDigest (find?_malformed_none.mp valid digest member))
    exact (Job.maintains_mapM each).bind fun _ => (Job.quiet_pure _).maintains

theorem maintains_resolvePath (safe : resolver.Safe fit tools) (path minimum : String) :
    Job.Maintains fit tools (resolver.resolvePath path minimum) :=
  (Job.quiet_lift _).maintains.bind fun _ => maintains_importFile safe path minimum

end

section

variable {resolver : Resolver} {tools : Tools} {home place : Place}
  {contents : Option (List UInt8)} {path : String}

theorem destination_directory_ne_root (resolver : Resolver) (home : Place) {digest : String}
    (filled : digest ≠ "") : destination home (resolver.directory digest) ≠ [] := by
  rw [destination_directory resolver home filled]
  exact resolver.place_ne_root home digest

theorem way_of_down (down : ".." ∉ names path.toList)
    (outside : ¬ resolver.scratchPlace home <+: destination home path) {passed : Place}
    (crosses : Crosses home path passed) : ¬ resolver.scratchPlace home <+: passed :=
  fun below => outside (below.trans (prefix_of_crosses down crosses))

theorem safe_holds (spared : tools.Spare place)
    (outside : ¬ resolver.scratchPlace home <+: place) :
    resolver.Safe (Holds home place contents) tools where
  called calls _ call held := held.called spared calls call
  made digest _ _ held := held.made (resolver.directory digest)
  removed digest filled files held := by
    have apart : ¬ destination files.home (resolver.directory digest) <+: place := by
      rw [held.home, destination_directory resolver home filled]
      exact fun below => outside ((List.prefix_append _ _).trans below)
    have same := Store.removeDirectory_outside
      (resolver.destination_directory_ne_root files.home filled) apart
    exact ⟨Store.removeDirectory_home.trans held.home,
      (Store.contents?_of_entry same).trans held.contents⟩

theorem safe_holdsAt (spared : tools.Spare place) (passable : tools.SpareWay path)
    (outside : ¬ resolver.scratchPlace home <+: place)
    (way : ∀ passed, Crosses home path passed → resolver.scratchPlace home <+: passed →
      passed = resolver.scratchPlace home) :
    resolver.Safe (HoldsAt home path place contents) tools where
  called calls files call held :=
    ⟨(safe_holds spared outside).called calls files call held.toHolds,
      passable calls files call place held.leads⟩
  made digest filled files held := by
    have making := Store.made_createDirectories (resolver.directory digest) files
    refine ⟨(safe_holds spared outside).made digest filled files held.toHolds, ?_⟩
    refine Store.resolve_mono making.home (fun passed _ there => ?_) held.leads
    rcases making.entries passed with same | ⟨free, made, -⟩
    · rw [same, there]
    · exact made
  removed digest filled files held := by
    refine ⟨(safe_holds spared outside).removed digest filled files held.toHolds, ?_⟩
    refine Store.resolve_mono Store.removeDirectory_home (fun passed above there => ?_) held.leads
    have apart : ¬ destination files.home (resolver.directory digest) <+: passed := by
      rw [held.home] at above ⊢
      rw [destination_directory resolver home filled]
      intro below
      have same := way passed above.crosses ((List.prefix_append _ _).trans below)
      have longer := scratch_shorter below
      rw [same] at longer
      exact Nat.lt_irrefl _ longer
    rw [Store.removeDirectory_outside (resolver.destination_directory_ne_root files.home filled)
      apart, there]

end

end Resolver

end Enforcement
