import Enforcement.Proofs.Files.Making
import Enforcement.Proofs.Imports.Resolution

/-!
The directories that fragments are fetched into. Whatever a resolution comes to, they are gone after
it, and nothing else has changed. There are two exceptions: a directory that the path of the scratch
directory itself leads through, because it is made again with that path, and one that holds
something that cannot be removed, because the removal is tried once and its failure passed over.
-/

namespace Enforcement

open Enforcement.Files

/-- A place holds what it held, and what is there can be removed if it could be before. -/
structure SameAt (before after : Store) (place : Place) : Prop where
  entry : after.entry? place = before.entry? place
  lasting : place ∈ after.lasting ↔ place ∈ before.lasting

theorem SameAt.refl (store : Store) (place : Place) : SameAt store store place := ⟨rfl, .rfl⟩

theorem SameAt.trans {first second third : Store} {place : Place}
    (same : SameAt first second place) (later : SameAt second third place) :
    SameAt first third place :=
  ⟨later.entry.trans same.entry, later.lasting.trans same.lasting⟩

/-- Files change only inside the directory that a pull is told to work in. -/
def Tools.Confined (tools : Tools) : Prop :=
  ∀ calls files call, (tools calls files call).2.home = files.home ∧
    ∀ place, SameAt files (tools calls files call).2 place ∨
      call.args.head? = some "pull" ∧ ∃ directory root, call.directory = some directory ∧
        files.resolve directory = .ok root ∧ root <+: place ∧ root ≠ place

structure Unchanged (before after : Store) : Prop where
  home : after.home = before.home
  places : ∀ place, SameAt before after place

theorem Unchanged.refl (store : Store) : Unchanged store store := ⟨rfl, .refl store⟩

structure ChangedWithin (root : Place) (before after : Store) : Prop where
  home : after.home = before.home
  places : ∀ place, ¬ (root <+: place ∧ root ≠ place) → SameAt before after place

theorem ChangedWithin.trans_unchanged {root : Place} {first second third : Store}
    (within : ChangedWithin root first second) (same : Unchanged second third) :
    ChangedWithin root first third :=
  ⟨same.home.trans within.home, fun place outside =>
    (within.places place outside).trans (same.places place)⟩

theorem Registry.discoverCall_quiet (registry : Registry) (reference : ImageReference) :
    (registry.discoverCall reference).args.head? ≠ some "pull" := by
  change some "discover" ≠ some "pull"
  decide

theorem Signer.checkCall_quiet (signer : Signer) (path : String) :
    (signer.checkCall path).args.head? ≠ some "pull" := by
  change some "check" ≠ some "pull"
  decide

section

variable {tools : Tools} (confined : tools.Confined)

include confined

theorem Tools.Confined.quiet {call : ToolCall} (other : call.args.head? ≠ some "pull")
    {desk after : Desk} {answer : Except RunFault ToolOutput}
    (asked : desk.ask tools call = (answer, after)) : Unchanged desk.files after.files := by
  obtain ⟨-, rfl⟩ := Prod.mk.inj asked
  obtain ⟨home, places⟩ := confined desk.calls desk.files call
  refine ⟨home, fun place => ?_⟩
  rcases places place with same | ⟨pull, -⟩
  · exact same
  · exact absurd pull other

theorem Registry.Checked.quiet {registry : Registry} {reference : ImageReference}
    {call : ToolCall} (other : call.args.head? ≠ some "pull") {desk after : Desk}
    {result : Except Error ToolOutput}
    (checked : registry.Checked reference tools call desk result after) :
    Unchanged desk.files after.files := by
  cases checked with
  | unanswered answer => exact confined.quiet other answer
  | refused answer exit => exact confined.quiet other answer
  | done answer exit => exact confined.quiet other answer

theorem Registry.Discovers.quiet {registry : Registry} {image : String} {desk after : Desk}
    {calls : List ToolCall} {result : Except Error (List String)}
    (discovers : registry.Discovers image tools desk calls result after) :
    Unchanged desk.files after.files := by
  cases discovers with
  | noReference parsed => exact .refl _
  | failed parsed call => exact call.quiet confined (registry.discoverCall_quiet _)
  | unreadable parsed call read => exact call.quiet confined (registry.discoverCall_quiet _)
  | found parsed call read => exact call.quiet confined (registry.discoverCall_quiet _)

theorem Signer.Verifies.quiet {signer : Signer} {path : String} {desk after : Desk}
    {calls : List ToolCall} {result : Except Error VerifiedFragment}
    (verifies : signer.Verifies tools path desk calls result after) :
    Unchanged desk.files after.files := by
  cases verifies with
  | missing absent => exact .refl _
  | unanswered present answer => exact confined.quiet (signer.checkCall_quiet _) answer
  | refused present answer exit => exact confined.quiet (signer.checkCall_quiet _) answer
  | unreadable present answer exit parsed => exact confined.quiet (signer.checkCall_quiet _) answer
  | verified present answer exit parsed => exact confined.quiet (signer.checkCall_quiet _) answer

theorem Tools.Confined.within {call : ToolCall} {directory : String}
    (given : call.directory = some directory) {desk after : Desk}
    {answer : Except RunFault ToolOutput} (asked : desk.ask tools call = (answer, after)) :
    ChangedWithin (destination desk.files.home directory) desk.files after.files := by
  obtain ⟨-, rfl⟩ := Prod.mk.inj asked
  obtain ⟨home, places⟩ := confined desk.calls desk.files call
  refine ⟨home, fun place outside => ?_⟩
  rcases places place with same | ⟨-, other, root, held, leads, inside, strict⟩
  · exact same
  · cases given.symm.trans held
    obtain ⟨-, rfl⟩ := Store.resolve_ok leads
    exact absurd ⟨inside, strict⟩ outside

theorem Registry.Checked.within {registry : Registry} {reference : ImageReference}
    {call : ToolCall} {directory : String} (given : call.directory = some directory)
    {desk after : Desk} {result : Except Error ToolOutput}
    (checked : registry.Checked reference tools call desk result after) :
    ChangedWithin (destination desk.files.home directory) desk.files after.files := by
  cases checked with
  | unanswered answer => exact confined.within given answer
  | refused answer exit => exact confined.within given answer
  | done answer exit => exact confined.within given answer

theorem Registry.Fetches.within {registry : Registry} {reference : ImageReference}
    {digest directory : String} {desk after : Desk} {result : Except Error String}
    (fetches : registry.Fetches reference tools digest directory desk result after) :
    ChangedWithin (destination desk.files.home directory) desk.files after.files := by
  cases fetches with
  | failed call => exact call.within confined rfl
  | unnamed call report => exact call.within confined rfl
  | named call report => exact call.within confined rfl

end

namespace Resolver

def scratchPlace (resolver : Resolver) (home : Place) : Place := destination home resolver.scratch

def place (resolver : Resolver) (home : Place) (digest : String) : Place :=
  resolver.scratchPlace home ++ [scratchName digest]

theorem scratchName_letters (digest : String) :
    ∀ c ∈ (scratchName digest).toList, c ≠ '/' ∧ c ≠ '.' := by
  intro c member
  rw [scratchName, String.toList_ofList] at member
  obtain ⟨former, -, rfl⟩ := List.mem_map.mp member
  split
  · rename_i letter
    constructor
    · rintro rfl
      revert letter
      decide
    · rintro rfl
      revert letter
      decide
  · decide

theorem scratchName_ne_empty {digest : String} (some : digest ≠ "") : scratchName digest ≠ "" := by
  have letters : digest.toList ≠ [] := by simpa using some
  intro empty
  have none := congrArg String.toList empty
  rw [scratchName, String.toList_ofList] at none
  exact letters (List.map_eq_nil_iff.mp none)

theorem plain_scratchName {digest : String} (some : digest ≠ "") :
    PlainName (scratchName digest) := by
  have letters := scratchName_letters digest
  refine ⟨scratchName_ne_empty some, ?_, ?_, fun slash => (letters _ slash).1 rfl⟩
  · intro idle
    rw [idle] at letters
    exact (letters '.' (by decide)).2 rfl
  · intro up
    rw [up] at letters
    exact (letters '.' (by decide)).2 rfl

theorem destination_directory (resolver : Resolver) (home : Place) {digest : String}
    (some : digest ≠ "") :
    destination home (resolver.directory digest) = resolver.place home digest :=
  destination_join home resolver.scratch (plain_scratchName some)

theorem place_ne_root (resolver : Resolver) (home : Place) (digest : String) :
    resolver.place home digest ≠ [] := by simp [place]

theorem scratch_shorter {resolver : Resolver} {home other : Place} {digest : String}
    (below : resolver.place home digest <+: other) :
    (resolver.scratchPlace home).length < other.length := by
  have length := below.length_le
  rw [place, List.length_append, List.length_singleton] at length
  omega

theorem place_not_above (resolver : Resolver) (home : Place) (digest : String) :
    ¬ resolver.place home digest <+: destination home resolver.scratch :=
  fun below => Nat.lt_irrefl _ (scratch_shorter below)

/--
What fragments that were fetched leave behind. Outside their directories nothing has changed but
that directories were made where the path of the scratch directory leads. All that can be left of a
directory for a fragment is such a directory and what leads to something that cannot be removed,
provided that the path does not lead further inside it.
-/
structure Tidy (resolver : Resolver) (used : List String) (before after : Store) : Prop where
  home : after.home = before.home
  outside : ∀ other, (∀ digest ∈ used, ¬ resolver.place before.home digest <+: other) →
    SameOrMade (Crosses before.home resolver.scratch) before after other ∧
      (other ∈ after.lasting ↔ other ∈ before.lasting)
  swept : ∀ digest ∈ used,
    (∀ other, Crosses before.home resolver.scratch other →
      resolver.place before.home digest <+: other → other = resolver.place before.home digest) →
    ∀ other, resolver.place before.home digest <+: other → after.entry? other = none ∨
      after.entry? other = some .directory ∧ Crosses before.home resolver.scratch other ∨
      after.outlasts other = true

namespace Tidy

variable {resolver : Resolver} {used later : List String} {first second third : Store}

theorem of_unchanged (same : Unchanged first second) : resolver.Tidy [] first second :=
  ⟨same.home, fun other _ => ⟨.inl (same.places other).entry, (same.places other).lasting⟩, nofun⟩

theorem outlasts (tidy : resolver.Tidy used first second) {other : Place} (inner : other ≠ [])
    (apart : ∀ deeper, other <+: deeper → ∀ digest ∈ used,
      ¬ resolver.place first.home digest <+: deeper)
    (stays : first.outlasts other = true) : second.outlasts other = true := by
  obtain ⟨deeper, listed, below, there⟩ := (Store.outlasts_iff inner).mp stays
  obtain ⟨kept, same⟩ := tidy.outside deeper (apart deeper below)
  refine (Store.outlasts_iff inner).mpr ⟨deeper, same.mpr listed, below, ?_⟩
  rcases kept with same | ⟨free, -⟩
  · rwa [same]
  · exact absurd free there

theorem trans (tidy : resolver.Tidy used first second) (next : resolver.Tidy later second third) :
    resolver.Tidy (used ++ later) first third := by
  have keeps := @next.outlasts
  obtain ⟨home, outside, swept⟩ := tidy
  obtain ⟨home', outside', swept'⟩ := next
  rw [home] at outside' swept' keeps
  refine ⟨home'.trans home, fun other apart => ?_, fun digest member alone other inside => ?_⟩
  · obtain ⟨kept, same⟩ := outside other fun digest member =>
      apart digest (List.mem_append_left _ member)
    obtain ⟨kept', same'⟩ := outside' other fun digest member =>
      apart digest (List.mem_append_right _ member)
    exact ⟨kept.trans kept', same'.trans same⟩
  · -- Both directories lie directly below the scratch directory, so they are the same.
    have same {other' : String} {deeper : Place}
        (inside' : resolver.place first.home other' <+: deeper)
        (inside : resolver.place first.home digest <+: deeper) :
        resolver.place first.home other' = resolver.place first.home digest := by
      have length : (resolver.place first.home other').length =
          (resolver.place first.home digest).length := by simp [place]
      have shorter := List.prefix_of_prefix_length_le inside' inside (Nat.le_of_eq length)
      exact shorter.eq_of_length length
    -- Used again, the directory is as the later part leaves it, and else as the first part left it.
    by_cases again : ∃ other' ∈ later, resolver.place first.home other' <+: other
    · obtain ⟨other', listed, inside'⟩ := again
      rw [← same inside' inside] at alone
      exact swept' other' listed alone other inside'
    · have apart' (deeper : Place) (below : other <+: deeper) :
          ∀ digest ∈ later, ¬ resolver.place first.home digest <+: deeper := by
        intro other' listed below'
        have here := same below' (inside.trans below)
        exact again ⟨other', listed, here ▸ inside⟩
      rcases List.mem_append.mp member with member | member
      · obtain ⟨kept, -⟩ := outside' other (apart' other List.prefix_rfl)
        rcases kept with same | ⟨-, held, here⟩
        · rw [same]
          rcases swept digest member alone other inside with none | left | stays
          · exact .inl none
          · exact .inr (.inl left)
          · have inner := inside.ne_nil (resolver.place_ne_root _ _)
            exact .inr (.inr (keeps inner apart' stays))
        · exact .inr (.inl ⟨held, here⟩)
      · exact absurd inside (apart' other List.prefix_rfl digest member)

end Tidy

section Step

variable {resolver : Resolver} {digest : String} (filled : digest ≠ "") {before made after : Store}

include filled

theorem crosses_scratch {home other : Place}
    (above : CrossesAbove home (resolver.directory digest) other) :
    Crosses home resolver.scratch other := crosses_of_join (plain_scratchName filled) above

theorem tidy_without
    (making : Made (CrossesAbove before.home (resolver.directory digest)) before made) :
    resolver.Tidy [] before made := by
  refine ⟨making.home, fun other _ => ⟨(making.entries other).mono (crosses_scratch filled), ?_⟩,
    nofun⟩
  rw [making.ground]

variable (making : Made (Crosses before.home (resolver.directory digest)) before made)
  (there : made.isDirectory (resolver.directory digest) = true)
  (fetched : ChangedWithin (resolver.place before.home digest) made after)

include making fetched

omit there in
theorem kept_outside {other : Place} (apart : ¬ resolver.place before.home digest <+: other) :
    SameOrMade (Crosses before.home resolver.scratch) before after other := by
  unfold SameOrMade
  rw [(fetched.places other fun strict => apart strict.1).entry]
  refine (making.entries other).mono fun crosses => ?_
  rcases crosses.above_or_end with above | last
  · exact crosses_scratch filled above
  · rw [last, destination_directory resolver _ filled] at apart
    exact absurd List.prefix_rfl apart

include there

theorem still_there
    (alone : ∀ other, Crosses before.home resolver.scratch other →
      resolver.place before.home digest <+: other → other = resolver.place before.home digest) :
    after.isDirectory (resolver.directory digest) = true := by
  obtain ⟨found, leads, held⟩ := Store.isDirectory_iff.mp there
  have ends : found = resolver.place before.home digest := by
    rw [(Store.resolve_ok leads).2, making.home, destination_directory resolver _ filled]
  refine Store.isDirectory_iff.mpr ⟨found, ?_, ?_⟩
  · refine Store.resolve_mono fetched.home (fun passed above held => ?_) leads
    rw [making.home] at above
    have same := alone passed (crosses_scratch filled above)
    rw [(fetched.places passed fun strict => strict.2 (same strict.1).symm).entry, held]
  · rw [(fetched.places found fun strict => strict.2 ends.symm).entry, held]

theorem tidy_removed :
    resolver.Tidy [digest] before (after.removeDirectory (resolver.directory digest)).2 := by
  have home : after.home = before.home := fetched.home.trans making.home
  have ends : destination after.home (resolver.directory digest) =
      resolver.place before.home digest := by
    rw [home, destination_directory resolver _ filled]
  have inner : destination after.home (resolver.directory digest) ≠ [] := by
    rw [ends]
    exact resolver.place_ne_root _ _
  refine ⟨Store.removeDirectory_home.trans home, fun other outside => ?_, ?_⟩
  · have apart := outside digest List.mem_cons_self
    constructor
    · unfold SameOrMade
      rw [Store.removeDirectory_outside inner (by rwa [ends])]
      exact kept_outside filled making fetched apart
    · rw [Store.removeDirectory_ground,
        (fetched.places other fun strict => apart strict.1).lasting, making.ground]
  · intro again member
    rw [List.mem_singleton.mp member]
    intro alone other inside
    have still := still_there filled making there fetched alone
    exact (Store.removeDirectory_inside inner still (by rwa [ends])).imp_right .inr

end Step

theorem make_made {desk made : Desk} {path : String} {result : Except Fault Unit}
    (scratch : desk.make path = (result, made)) :
    Made (Crosses desk.files.home path) desk.files made.files ∧
      ∀ fault, result = .error fault →
        Made (CrossesAbove desk.files.home path) desk.files made.files := by
  obtain ⟨rfl, rfl⟩ := Prod.mk.inj scratch
  exact Store.made_makeDirectories _ _ _

theorem make_there {desk made : Desk} {path : String} (named : Named path)
    (scratch : desk.make path = (.ok (), made)) : made.files.isDirectory path = true := by
  obtain ⟨done, rfl⟩ := Prod.mk.inj scratch
  exact Store.isDirectory_of_createDirectories named (Prod.ext done rfl)

section Run

variable {resolver : Resolver} {reference : ImageReference} {minimum image : String}
  {tools : Tools} (confined : tools.Confined)

include confined

theorem tidy_fetched {digest : String} (filled : digest ≠ "") {desk made fetched checked : Desk}
    {result : Except Error String}
    (scratch : desk.make (resolver.directory digest) = (.ok (), made))
    (fetch : resolver.registry.Fetches reference tools digest (resolver.directory digest) made
      result fetched)
    (quiet : Unchanged fetched.files checked.files) :
    resolver.Tidy [digest] desk.files (checked.remove (resolver.directory digest)).files := by
  have making := (make_made scratch).1
  have there := make_there (resolver.named_directory filled) scratch
  have within := (fetch.within confined).trans_unchanged quiet
  rw [making.home, destination_directory resolver _ filled] at within
  rw [Desk.remove_files]
  exact tidy_removed filled making there within

theorem Attempt.tidy {digest : String} (filled : digest ≠ "") {desk after : Desk}
    {calls : List ToolCall} {result : Except Error FragmentImport}
    (attempt : Attempt resolver reference minimum tools desk digest calls result after) :
    ∃ used : List String, (∀ again ∈ used, again = digest) ∧
      calls.filterMap (·.directory) = used.map resolver.directory ∧
      resolver.Tidy used desk.files after.files := by
  have one : ∀ again ∈ [digest], again = digest := fun _ => List.mem_singleton.mp
  have verified {path : String} {fetched checked : Desk} {calls : List ToolCall}
      {result : Except Error VerifiedFragment}
      (verify : resolver.signer.Verifies tools path fetched calls result checked) :
      (resolver.registry.pullCall reference digest (resolver.directory digest) ::
        calls).filterMap (·.directory) = [digest].map resolver.directory := by
    cases verify <;> rfl
  cases attempt with
  | noDirectory scratch =>
      exact ⟨[], nofun, rfl, tidy_without filled ((make_made scratch).2 _ rfl)⟩
  | notFetched scratch fetch =>
      exact ⟨[digest], one, rfl, tidy_fetched confined filled scratch fetch (.refl _)⟩
  | notVerified scratch fetch verify =>
      exact ⟨[digest], one, verified verify,
        tidy_fetched confined filled scratch fetch (verify.quiet confined)⟩
  | stale scratch fetch verify gate =>
      exact ⟨[digest], one, verified verify,
        tidy_fetched confined filled scratch fetch (verify.quiet confined)⟩
  | accepted scratch fetch verify gate =>
      exact ⟨[digest], one, verified verify,
        tidy_fetched confined filled scratch fetch (verify.quiet confined)⟩

theorem Accepted.tidy {digests : List String} (filled : ∀ digest ∈ digests, digest ≠ "")
    {desk after : Desk} {calls : List ToolCall} {fragments : List VerifiedFragment}
    (accepted : Accepted resolver reference minimum tools desk digests calls fragments after) :
    ∃ used : List String, (∀ digest ∈ used, digest ∈ digests) ∧
      calls.filterMap (·.directory) = used.map resolver.directory ∧
      resolver.Tidy used desk.files after.files := by
  induction accepted with
  | none => exact ⟨[], nofun, rfl, .of_unchanged (.refl _)⟩
  | @next _ _ _ digest path rest _ _ _ first others ih =>
      obtain ⟨used, own, directories, tidy⟩ :=
        first.attempt.tidy confined (filled digest List.mem_cons_self)
      obtain ⟨later, listed, directories', tidy'⟩ :=
        ih fun digest member => filled digest (List.mem_cons_of_mem _ member)
      refine ⟨used ++ later, fun again member => ?_, ?_, tidy.trans tidy'⟩
      · rcases List.mem_append.mp member with member | member
        · exact own again member ▸ List.mem_cons_self
        · exact List.mem_cons_of_mem _ (listed again member)
      · rw [List.map_append, ← directories, ← directories', ← List.filterMap_append]
        rfl

theorem Attempts.tidy {digests : List String} (filled : ∀ digest ∈ digests, digest ≠ "")
    {desk after : Desk} {calls : List ToolCall} {result : Except Error (List FragmentImport)}
    (attempts : Attempts resolver reference minimum tools desk digests calls result after) :
    ∃ used : List String, (∀ digest ∈ used, digest ∈ digests) ∧
      calls.filterMap (·.directory) = used.map resolver.directory ∧
      resolver.Tidy used desk.files after.files := by
  cases attempts with
  | all accepted => exact accepted.tidy confined filled
  | @failed earlier later digest _ _ _ _ between _ split accepted attempt =>
      subst split
      obtain ⟨used, listed, directories, tidy⟩ := accepted.tidy confined
        fun digest member => filled digest (List.mem_append_left _ member)
      obtain ⟨last, own, directories', tidy'⟩ := attempt.tidy confined
        (filled digest (List.mem_append_right _ List.mem_cons_self))
      refine ⟨used ++ last, fun again member => ?_, ?_, tidy.trans tidy'⟩
      · rcases List.mem_append.mp member with member | member
        · exact List.mem_append_left _ (listed again member)
        · exact own again member ▸ List.mem_append_right _ List.mem_cons_self
      · rw [List.filterMap_append, List.map_append, directories, directories']

theorem Resolves.tidy {desk after : Desk} {calls : List ToolCall}
    {result : Except Error (List FragmentImport)}
    (resolves : Resolves resolver image minimum tools desk calls result after) :
    ∃ used : List String, (∀ digest ∈ used, Image.isDigest digest = true) ∧
      calls.filterMap (·.directory) = used.map resolver.directory ∧
      resolver.Tidy used desk.files after.files := by
  have quiet {found : Desk} {calls : List ToolCall} {result : Except Error (List String)}
      (discover : resolver.registry.Discovers image tools desk calls result found) :
      calls.filterMap (·.directory) = [] ∧ resolver.Tidy [] desk.files found.files := by
    refine ⟨?_, .of_unchanged (discover.quiet confined)⟩
    cases discover <;> rfl
  have attempted {reference : ImageReference} {found after : Desk}
      {discovery calls : List ToolCall} {digests : List String}
      {result : Except Error (List FragmentImport)}
      (discover : resolver.registry.Discovers image tools desk discovery (.ok digests) found)
      (valid : ∀ digest ∈ digests, Image.isDigest digest = true)
      (attempts : Attempts resolver reference minimum tools found digests calls result after) :
      ∃ used : List String, (∀ digest ∈ used, Image.isDigest digest = true) ∧
        (discovery ++ calls).filterMap (·.directory) = used.map resolver.directory ∧
        resolver.Tidy used desk.files after.files := by
    obtain ⟨silent, start⟩ := quiet discover
    obtain ⟨used, listed, directories, tidy⟩ := attempts.tidy confined
      fun digest member => ne_empty_of_isDigest (valid digest member)
    refine ⟨used, fun digest member => valid digest (listed digest member), ?_, start.trans tidy⟩
    rw [List.filterMap_append, silent, List.nil_append, directories]
  cases resolves with
  | noMinimum least => exact ⟨[], nofun, rfl, .of_unchanged (.refl _)⟩
  | undiscovered least discover => exact ⟨[], nofun, quiet discover⟩
  | malformed least discover first => exact ⟨[], nofun, quiet discover⟩
  | failed least parsed discover valid attempts => exact attempted discover valid attempts
  | resolved least parsed discover valid attempts => exact attempted discover valid attempts

end Run

/--
A resolution with tools that keep to the directories they are given, whatever it comes to. Each
directory that a pull worked in is gone with all that was in it, but for what cannot be removed and
what leads there, unless the path of the scratch directory leads through it; a path that never goes
up leads through none. Everything outside these directories is as it was, but for directories made
where the path of the scratch directory leads, and so are in particular the scratch directory itself
and all that is above or beside it. Their names are single components, and they lie directly in the
scratch directory.
-/
theorem resolveAll_tidy (resolver : Resolver) (image minimum : String) {tools : Tools}
    (confined : tools.Confined) (desk : Desk) :
    let after := ((resolver.resolveAll image minimum).perform tools desk).2
    (∃ used : List String, (∀ digest ∈ used, Image.isDigest digest = true) ∧
      after.calls.filterMap (·.directory) =
        desk.calls.filterMap (·.directory) ++ used.map resolver.directory ∧
      resolver.Tidy used desk.files after.files ∧
      ∀ digest ∈ used,
        ¬ Crosses desk.files.home resolver.scratch (resolver.place desk.files.home digest) →
          ∀ other, resolver.place desk.files.home digest <+: other →
            after.files.entry? other = none ∨ after.files.outlasts other = true) ∧
    (".." ∉ names resolver.scratch.toList → ∀ digest,
      ¬ Crosses desk.files.home resolver.scratch (resolver.place desk.files.home digest)) ∧
    (∀ other, other.length ≤ (resolver.scratchPlace desk.files.home).length →
      SameOrMade (Crosses desk.files.home resolver.scratch) desk.files after.files other) ∧
    ∀ digest, Image.isDigest digest = true → scratchName digest ≠ "" ∧
      (∀ c ∈ (scratchName digest).toList, c ≠ '/' ∧ c ≠ '.') ∧
      ∀ (files : Store) place, files.home = desk.files.home →
        files.resolve (resolver.directory digest) = .ok place →
        place = resolver.place desk.files.home digest := by
  intro after
  obtain ⟨calls, resolves⟩ := (resolver.perform_resolveAll image minimum tools desk _ after).mp rfl
  obtain ⟨used, valid, directories, tidy⟩ := resolves.tidy confined
  refine ⟨⟨used, valid, ?_, tidy, ?_⟩, ?_, ?_, ?_⟩
  · rw [resolves.calls_eq, List.filterMap_append, directories]
  · intro digest member apart other inside
    have stays {other : Place} (crosses : Crosses desk.files.home resolver.scratch other) :
        ¬ resolver.place desk.files.home digest <+: other :=
      not_below_of_crosses apart (resolver.place_not_above _ _) crosses
    rcases tidy.swept digest member (fun _ crosses below => absurd below (stays crosses)) other
      inside with none | ⟨-, crosses⟩ | left
    · exact .inl none
    · exact absurd inside (stays crosses)
    · exact .inr left
  · intro down digest crosses
    exact resolver.place_not_above _ _ (prefix_of_crosses down crosses)
  · intro other short
    refine (tidy.outside other fun digest _ below => ?_).1
    have long := scratch_shorter below
    omega
  · intro digest valid
    have filled := ne_empty_of_isDigest valid
    refine ⟨scratchName_ne_empty filled, scratchName_letters digest, ?_⟩
    intro files place home leads
    rw [(Store.resolve_ok leads).2, home, destination_directory resolver _ filled]

/--
Tools that know two fragments, and fetch each into a directory inside the one that they are given,
which they may leave read-only.
-/
def pairTools (readOnly : Bool) : Tools := fun _ files call =>
  match call.args.head? with
  | some "discover" =>
    (.ok ⟨some 0, "\x7b\"manifests\": [\x7b\"digest\": \"sha256:ab\"\x7d, " ++
      "\x7b\"digest\": \"sha256:cd\"\x7d]\x7d", ""⟩, files)
  | some "pull" =>
    match call.directory.map files.resolve with
    | some (.ok root) =>
      let fetched := (files.put (root ++ ["layers"]) .directory).put
        (root ++ ["layers", "fragment.cose"]) (.file [] false)
      (.ok ⟨some 0, "Downloaded layers/fragment.cose\n", ""⟩,
        { fetched with lasting :=
            (if readOnly then [root ++ ["layers", "fragment.cose"]] else []) ++ files.lasting })
    | _ => (.error (.notStarted call.program ""), files)
  | _ =>
    (.ok ⟨some 0, "iss: did:x509:abc\nfeed: contoso/infra\npayload:\nsvn := \"7\"\n", ""⟩, files)

theorem pairTools_confined (readOnly : Bool) : (pairTools readOnly).Confined := by
  intro calls files call
  have same : files.home = files.home ∧ ∀ place, SameAt files files place ∨
      call.args.head? = some "pull" ∧ ∃ directory root, call.directory = some directory ∧
        files.resolve directory = .ok root ∧ root <+: place ∧ root ≠ place :=
    ⟨rfl, fun place => .inl (.refl files place)⟩
  unfold pairTools
  split
  · exact same
  · rename_i pull
    split
    · rename_i root leads
      obtain ⟨directory, given, found⟩ := Option.map_eq_some_iff.mp leads
      refine ⟨(Store.put_home _ _).trans (Store.put_home _ _), fun place => ?_⟩
      by_cases inside : root <+: place ∧ root ≠ place
      · exact .inr ⟨pull, directory, root, given, found, inside⟩
      · have apart {names : List String} (more : names ≠ []) : place ≠ root ++ names := by
          rintro rfl
          exact inside
            ⟨List.prefix_append _ _, fun same => more (List.self_eq_append_right.mp same)⟩
        refine .inl ⟨?_, ?_⟩
        · change Store.entry? (Store.put _ _ _) place = _
          rw [Store.entry?_put (by simp), if_neg (apart (by simp)), Store.entry?_put (by simp),
            if_neg (apart (by simp))]
        · change place ∈ (if readOnly then _ else _) ++ files.lasting ↔ _
          cases readOnly with
          | false => rfl
          | true => exact List.mem_cons.trans (or_iff_right (apart (by simp)))
    · exact same
  · exact same

def afterPair (readOnly : Bool) (scratch : String) : Desk :=
  ((Resolver.resolveAll ⟨contoso.registry, contoso.signer, scratch⟩ "contoso.azurecr.io/app:1"
    "5").perform (pairTools readOnly) emptyDesk).2

theorem resolveAll_work : (pairTools false).Confined ∧
    (afterPair false "work").calls.filterMap (·.directory) =
      ["work/sha256-ab", "work/sha256-cd"] ∧
    ∀ other, ["work", "sha256-ab"] <+: other →
      Store.entry? (afterPair false "work").files other = none := by
  obtain ⟨calls, loose⟩ : (afterPair false "work").calls.filterMap (·.directory) =
      ["work/sha256-ab", "work/sha256-cd"] ∧ (afterPair false "work").files.lasting = [] := by
    decide +kernel
  refine ⟨pairTools_confined false, calls, ?_⟩
  unfold afterPair at calls loose ⊢
  obtain ⟨⟨used, valid, directories, -, gone⟩, down, -, -⟩ :=
    resolveAll_tidy ⟨contoso.registry, contoso.signer, "work"⟩ "contoso.azurecr.io/app:1" "5"
      (pairTools_confined false) emptyDesk
  have listed := calls.symm.trans directories
  intro other inside
  have worked : "work/sha256-ab" ∈ emptyDesk.calls.filterMap (·.directory) ++
      used.map (Resolver.directory ⟨contoso.registry, contoso.signer, "work"⟩) :=
    listed ▸ List.mem_cons_self
  obtain ⟨digest, member, same⟩ := List.mem_map.mp worked
  have ends := destination_directory ⟨contoso.registry, contoso.signer, "work"⟩ []
    (ne_empty_of_isDigest (valid digest member))
  have here : destination [] "work/sha256-ab" = ["work", "sha256-ab"] := by decide +kernel
  rw [same, here] at ends
  rcases gone digest member (down (by decide +kernel) digest) other (ends ▸ inside) with none | left
  · exact none
  · obtain ⟨stays, listed, -⟩ := (Store.outlasts_iff (inside.ne_nil (by simp))).mp left
    rw [loose] at listed
    cases listed

/--
A path of the scratch directory that leads through the first directory makes it again, and a
directory with something in it that cannot be removed is left.
-/
theorem resolveAll_left :
    ((pairTools false).Confined ∧
      (afterPair false "sha256-ab/..").calls.filterMap (·.directory) =
        ["sha256-ab/../sha256-ab", "sha256-ab/../sha256-cd"] ∧
      (afterPair false "sha256-ab/..").files.isDirectory "sha256-ab/../sha256-ab" = true) ∧
    (pairTools true).Confined ∧
      (afterPair true "work").calls.filterMap (·.directory) =
        ["work/sha256-ab", "work/sha256-cd"] ∧
      (afterPair true "work").files.isDirectory "work/sha256-ab" = true :=
  ⟨⟨pairTools_confined false, by decide +kernel⟩, pairTools_confined true, by decide +kernel⟩

end Resolver

end Enforcement
