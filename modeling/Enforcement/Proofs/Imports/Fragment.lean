import Enforcement.Imports.Resolver
import Enforcement.Proofs.Files.Directory
import Enforcement.Proofs.Imports.Client
import Enforcement.Proofs.Trust.VersionGate

/-!
What comes of the fragments of an image, one after the other, as relations with one rule for each
way a step can end and with the calls that were made until then.
-/

namespace Enforcement

open Enforcement.Files Enforcement.Text

def VerifiedFragment.statement (fragment : VerifiedFragment) (minimum : String) : FragmentImport :=
  .normalized fragment.issuer fragment.feed minimum fragment.contributions

theorem VerifiedFragment.importStatement_of_gate {fragment : VerifiedFragment} {minimum : String}
    {svn : Nat} (gate : fragment.ensureMinimum minimum = .ok svn) :
    fragment.importStatement minimum = .ok (fragment.statement minimum) := by
  unfold ensureMinimum Svn.parse at gate
  unfold importStatement
  cases least : Svn.parse? minimum with
  | none =>
      rw [least] at gate
      cases gate
  | some value => rfl

namespace Resolver

def directory (resolver : Resolver) (digest : String) : String :=
  join resolver.scratch (scratchName digest)

/--
What can come of one fragment, and the calls that were made for it. Whatever was fetched is removed
again.
-/
inductive Attempt (resolver : Resolver) (reference : ImageReference) (minimum : String)
    (tools : Tools) (desk : Desk) (digest : String) :
    List ToolCall → Except Error FragmentImport → Desk → Prop
  | noDirectory {fault : Fault} {made : Desk}
      (scratch : desk.make (resolver.directory digest) = (.error fault, made)) :
      Attempt resolver reference minimum tools desk digest []
        (.error (.file (resolver.directory digest) fault)) made
  | notFetched {made fetched : Desk} {failure : Error}
      (scratch : desk.make (resolver.directory digest) = (.ok (), made))
      (fetch : resolver.registry.Fetches reference tools digest (resolver.directory digest) made
        (.error failure) fetched) :
      Attempt resolver reference minimum tools desk digest
        [resolver.registry.pullCall reference digest (resolver.directory digest)]
        (.error failure) (fetched.remove (resolver.directory digest))
  | notVerified {made fetched checked : Desk} {path : String} {calls : List ToolCall}
      {failure : Error}
      (scratch : desk.make (resolver.directory digest) = (.ok (), made))
      (fetch : resolver.registry.Fetches reference tools digest (resolver.directory digest) made
        (.ok path) fetched)
      (verify : resolver.signer.Verifies tools path fetched calls (.error failure) checked) :
      Attempt resolver reference minimum tools desk digest
        (resolver.registry.pullCall reference digest (resolver.directory digest) :: calls)
        (.error failure) (checked.remove (resolver.directory digest))
  | stale {made fetched checked : Desk} {path : String} {calls : List ToolCall}
      {fragment : VerifiedFragment} {failure : Error}
      (scratch : desk.make (resolver.directory digest) = (.ok (), made))
      (fetch : resolver.registry.Fetches reference tools digest (resolver.directory digest) made
        (.ok path) fetched)
      (verify : resolver.signer.Verifies tools path fetched calls (.ok fragment) checked)
      (gate : fragment.ensureMinimum minimum = .error failure) :
      Attempt resolver reference minimum tools desk digest
        (resolver.registry.pullCall reference digest (resolver.directory digest) :: calls)
        (.error failure) (checked.remove (resolver.directory digest))
  | accepted {made fetched checked : Desk} {path : String} {calls : List ToolCall}
      {fragment : VerifiedFragment} {svn : Nat}
      (scratch : desk.make (resolver.directory digest) = (.ok (), made))
      (fetch : resolver.registry.Fetches reference tools digest (resolver.directory digest) made
        (.ok path) fetched)
      (verify : resolver.signer.Verifies tools path fetched calls (.ok fragment) checked)
      (gate : fragment.ensureMinimum minimum = .ok svn) :
      Attempt resolver reference minimum tools desk digest
        (resolver.registry.pullCall reference digest (resolver.directory digest) :: calls)
        (.ok (fragment.statement minimum)) (checked.remove (resolver.directory digest))

theorem Attempt.calls_eq {resolver : Resolver} {reference : ImageReference} {minimum : String}
    {tools : Tools} {desk after : Desk} {digest : String} {calls : List ToolCall}
    {result : Except Error FragmentImport}
    (attempt : Attempt resolver reference minimum tools desk digest calls result after) :
    after.calls = desk.calls ++ calls := by
  have start := desk.make_calls (resolver.directory digest)
  cases attempt with
  | noDirectory scratch =>
      rw [scratch] at start
      rw [start, List.append_nil]
  | notFetched scratch fetch =>
      rw [scratch] at start
      rw [Desk.remove_calls, fetch.calls_eq, start]
  | notVerified scratch fetch verify =>
      rw [scratch] at start
      rw [Desk.remove_calls, verify.calls_eq, fetch.calls_eq, start, List.append_assoc]
      rfl
  | stale scratch fetch verify gate =>
      rw [scratch] at start
      rw [Desk.remove_calls, verify.calls_eq, fetch.calls_eq, start, List.append_assoc]
      rfl
  | accepted scratch fetch verify gate =>
      rw [scratch] at start
      rw [Desk.remove_calls, verify.calls_eq, fetch.calls_eq, start, List.append_assoc]
      rfl

theorem named_directory (resolver : Resolver) {digest : String} (some : digest ≠ "") :
    Named (resolver.directory digest) := by
  apply named_join
  have letters : digest.toList ≠ [] := by simpa using some
  rw [named_iff, scratchName, String.toList_ofList, List.getLast?_map,
    List.getLast?_eq_some_getLast letters]
  refine ⟨_, rfl, ?_⟩
  dsimp only
  split
  · rename_i letter
    intro slash
    rw [slash] at letter
    revert letter
    decide
  · decide

section File

variable {resolver : Resolver} {tools : Tools} {path minimum : String} {desk after : Desk}
  {fragment : VerifiedFragment} {failure : Error} {svn : Nat}

theorem importFile_unverified
    (verify : (resolver.signer.verify path).perform tools desk = (.error failure, after)) :
    (resolver.importFile path minimum).perform tools desk = (.error failure, after) := by
  unfold importFile
  rw [Job.perform_bind, verify]

theorem importFile_stale
    (verify : (resolver.signer.verify path).perform tools desk = (.ok fragment, after))
    (gate : fragment.ensureMinimum minimum = .error failure) :
    (resolver.importFile path minimum).perform tools desk = (.error failure, after) := by
  unfold importFile
  rw [Job.perform_bind, verify]
  dsimp only
  rw [Job.perform_bind, Job.perform_lift, gate]

theorem importFile_accepted
    (verify : (resolver.signer.verify path).perform tools desk = (.ok fragment, after))
    (gate : fragment.ensureMinimum minimum = .ok svn) :
    (resolver.importFile path minimum).perform tools desk =
      (.ok (fragment.statement minimum), after) := by
  unfold importFile
  rw [Job.perform_bind, verify]
  dsimp only
  rw [Job.perform_bind, Job.perform_lift, gate]
  dsimp only
  rw [Job.perform_lift, VerifiedFragment.importStatement_of_gate gate]

end File

section Digest

variable {resolver : Resolver} {image minimum : String} {tools : Tools} {desk made : Desk}
  {digest : String}

theorem importDigest_without {fault : Fault}
    (scratch : desk.make (resolver.directory digest) = (.error fault, made)) :
    (resolver.importDigest image minimum digest).perform tools desk =
      (.error (.file (resolver.directory digest) fault), made) := by
  unfold importDigest withDirectory
  change Job.perform (Job.createDirectories (resolver.directory digest) >>= _) tools desk = _
  rw [Job.perform_bind, Job.perform_createDirectories, scratch]
  rfl

theorem importDigest_within (scratch : desk.make (resolver.directory digest) = (.ok (), made)) :
    (resolver.importDigest image minimum digest).perform tools desk =
      (((resolver.registry.pull image digest (resolver.directory digest) >>=
          fun path => resolver.importFile path minimum).perform tools made).1,
        ((resolver.registry.pull image digest (resolver.directory digest) >>=
          fun path => resolver.importFile path minimum).perform tools made).2.remove
            (resolver.directory digest)) := by
  unfold importDigest withDirectory
  change Job.perform (Job.createDirectories (resolver.directory digest) >>= _) tools desk = _
  rw [Job.perform_bind, Job.perform_createDirectories, scratch]
  exact Job.perform_withCleanUp _ _

theorem importDigest_unfetched {fetched : Desk} {failure : Error}
    (scratch : desk.make (resolver.directory digest) = (.ok (), made))
    (fetch : (resolver.registry.pull image digest (resolver.directory digest)).perform tools made =
      (.error failure, fetched)) :
    (resolver.importDigest image minimum digest).perform tools desk =
      (.error failure, fetched.remove (resolver.directory digest)) := by
  rw [importDigest_within scratch, Job.perform_bind, fetch]

theorem importDigest_fetched {path : String} {fetched after : Desk}
    {result : Except Error FragmentImport}
    (scratch : desk.make (resolver.directory digest) = (.ok (), made))
    (fetch : (resolver.registry.pull image digest (resolver.directory digest)).perform tools made =
      (.ok path, fetched))
    (work : (resolver.importFile path minimum).perform tools fetched = (result, after)) :
    (resolver.importDigest image minimum digest).perform tools desk =
      (result, after.remove (resolver.directory digest)) := by
  rw [importDigest_within scratch, Job.perform_bind, fetch]
  dsimp only
  rw [work]

end Digest

theorem perform_importDigest (resolver : Resolver) {reference : ImageReference} {image : String}
    (parsed : ImageReference.parse image = .ok reference) (minimum : String) (tools : Tools)
    (desk : Desk) {digest : String} (some : digest ≠ "") (result : Except Error FragmentImport)
    (after : Desk) :
    (resolver.importDigest image minimum digest).perform tools desk = (result, after) ↔
      ∃ calls, Attempt resolver reference minimum tools desk digest calls result after := by
  have there {made : Desk} (scratch : desk.make (resolver.directory digest) = (.ok (), made)) :
      made.make (resolver.directory digest) = (.ok (), made) :=
    Desk.make_again (resolver.named_directory some) scratch
  have pulls {made fetched : Desk} {pulled : Except Error String}
      (scratch : desk.make (resolver.directory digest) = (.ok (), made))
      (fetch : resolver.registry.Fetches reference tools digest (resolver.directory digest) made
        pulled fetched) :
      (resolver.registry.pull image digest (resolver.directory digest)).perform tools made =
        (pulled, fetched) :=
    (Registry.perform_pull _ parsed tools (there scratch) _ _).mpr fetch
  apply eq_iff_of_total
  · intro result after given
    obtain ⟨calls, attempt⟩ := given
    cases attempt with
    | noDirectory scratch => exact importDigest_without scratch
    | notFetched scratch fetch => exact importDigest_unfetched scratch (pulls scratch fetch)
    | notVerified scratch fetch verify =>
        have verified := (Signer.perform_verify ..).mpr ⟨_, verify⟩
        exact importDigest_fetched scratch (pulls scratch fetch) (importFile_unverified verified)
    | stale scratch fetch verify gate =>
        have verified := (Signer.perform_verify ..).mpr ⟨_, verify⟩
        exact importDigest_fetched scratch (pulls scratch fetch) (importFile_stale verified gate)
    | accepted scratch fetch verify gate =>
        have verified := (Signer.perform_verify ..).mpr ⟨_, verify⟩
        exact importDigest_fetched scratch (pulls scratch fetch) (importFile_accepted verified gate)
  · rcases scratch : desk.make (resolver.directory digest) with ⟨fault | done, made⟩
    · exact ⟨_, _, _, .noDirectory scratch⟩
    · obtain ⟨pulled, fetched, fetch⟩ : ∃ pulled fetched, resolver.registry.Fetches reference tools
          digest (resolver.directory digest) made pulled fetched :=
        ⟨_, _, (Registry.perform_pull resolver.registry parsed tools (there scratch) _ _).mp rfl⟩
      rcases pulled with failure | path
      · exact ⟨_, _, _, .notFetched scratch fetch⟩
      · obtain ⟨verified, checked, calls, verify⟩ : ∃ verified checked calls,
            resolver.signer.Verifies tools path fetched calls verified checked :=
          ⟨_, _, (Signer.perform_verify resolver.signer tools path fetched _ _).mp rfl⟩
        rcases verified with failure | fragment
        · exact ⟨_, _, _, .notVerified scratch fetch verify⟩
        · cases gate : fragment.ensureMinimum minimum with
          | error failure => exact ⟨_, _, _, .stale scratch fetch verify gate⟩
          | ok svn => exact ⟨_, _, _, .accepted scratch fetch verify gate⟩

inductive Accepts (resolver : Resolver) (reference : ImageReference) (minimum : String)
    (tools : Tools) (desk : Desk) (digest : String) : String → VerifiedFragment → Desk → Prop
  | intro {made fetched checked : Desk} {pulled report : ToolOutput} {name version : String}
      {fragment : VerifiedFragment} {lowest svn : Nat}
      (scratch : desk.make (resolver.directory digest) = (.ok (), made))
      (pull : made.ask tools (resolver.registry.pullCall reference digest
        (resolver.directory digest)) = (.ok pulled, fetched))
      (pullExit : pulled.exit = some 0)
      (named : Registry.downloadedName? pulled.stdout = some name)
      (present : fetched.files.isFile (join (resolver.directory digest) name) = true)
      (check : fetched.ask tools (resolver.signer.checkCall
        (join (resolver.directory digest) name)) = (.ok report, checked))
      (checkExit : report.exit = some 0)
      (parsed : VerifierOutput.parse report.stdout = .ok fragment)
      (least : Svn.parse minimum = .ok lowest)
      (declared : Rego.svnText? fragment.payload = some version)
      (valid : Svn.parse version = .ok svn) (enough : lowest ≤ svn) :
      Accepts resolver reference minimum tools desk digest
        (join (resolver.directory digest) name) fragment
        (checked.remove (resolver.directory digest))

theorem Accepts.attempt {resolver : Resolver} {reference : ImageReference} {minimum : String}
    {tools : Tools} {desk after : Desk} {digest path : String} {fragment : VerifiedFragment}
    (accepts : Accepts resolver reference minimum tools desk digest path fragment after) :
    Attempt resolver reference minimum tools desk digest
      [resolver.registry.pullCall reference digest (resolver.directory digest),
        resolver.signer.checkCall path]
      (.ok (fragment.statement minimum)) after := by
  obtain ⟨scratch, pull, pullExit, named, present, check, checkExit, parsed, least, declared,
    valid, enough⟩ := accepts
  have gate := VerifiedFragment.ensureMinimum_ok_iff.mpr ⟨_, _, least, declared, valid, enough⟩
  exact .accepted scratch (.named (.done pull pullExit) named)
    (.verified present check checkExit parsed) gate

theorem Attempt.accepts {resolver : Resolver} {reference : ImageReference} {minimum : String}
    {tools : Tools} {desk after : Desk} {digest : String} {calls : List ToolCall}
    {statement : FragmentImport}
    (attempt : Attempt resolver reference minimum tools desk digest calls (.ok statement) after) :
    ∃ path fragment, Accepts resolver reference minimum tools desk digest path fragment after ∧
      statement = fragment.statement minimum := by
  cases attempt with
  | @accepted _ _ _ _ _ fragment _ scratch fetch verify gate =>
      cases fetch with
      | named call named =>
          cases call with
          | done pull pullExit =>
              cases verify with
              | verified present check checkExit parsed =>
                  obtain ⟨_, _, least, declared, valid, enough⟩ :=
                    VerifiedFragment.ensureMinimum_ok_iff.mp gate
                  exact ⟨_, fragment, .intro scratch pull pullExit named present check checkExit
                    parsed least declared valid enough, rfl⟩

/-- Fragments that are accepted one after the other, with the two calls for each of them. -/
inductive Accepted (resolver : Resolver) (reference : ImageReference) (minimum : String)
    (tools : Tools) :
    Desk → List String → List ToolCall → List VerifiedFragment → Desk → Prop
  | none {desk : Desk} : Accepted resolver reference minimum tools desk [] [] [] desk
  | next {desk between after : Desk} {digest path : String} {rest : List String}
      {calls : List ToolCall} {fragment : VerifiedFragment} {fragments : List VerifiedFragment}
      (first : Accepts resolver reference minimum tools desk digest path fragment between)
      (others : Accepted resolver reference minimum tools between rest calls fragments after) :
      Accepted resolver reference minimum tools desk (digest :: rest)
        (resolver.registry.pullCall reference digest (resolver.directory digest) ::
          resolver.signer.checkCall path :: calls)
        (fragment :: fragments) after

theorem Accepted.calls_eq {resolver : Resolver} {reference : ImageReference} {minimum : String}
    {tools : Tools} {desk after : Desk} {digests : List String} {calls : List ToolCall}
    {fragments : List VerifiedFragment}
    (accepted : Accepted resolver reference minimum tools desk digests calls fragments after) :
    after.calls = desk.calls ++ calls := by
  induction accepted with
  | none => exact (List.append_nil _).symm
  | next first others ih =>
      rw [ih, first.attempt.calls_eq, List.append_assoc]
      rfl

/-- The fragments are imported all together, or the first that fails ends the work. -/
inductive Attempts (resolver : Resolver) (reference : ImageReference) (minimum : String)
    (tools : Tools) (desk : Desk) (digests : List String) :
    List ToolCall → Except Error (List FragmentImport) → Desk → Prop
  | all {calls : List ToolCall} {fragments : List VerifiedFragment} {after : Desk}
      (accepted : Accepted resolver reference minimum tools desk digests calls fragments after) :
      Attempts resolver reference minimum tools desk digests calls
        (.ok (fragments.map (·.statement minimum))) after
  | failed {earlier later : List String} {digest : String} {calls last : List ToolCall}
      {fragments : List VerifiedFragment} {failure : Error} {between after : Desk}
      (split : digests = earlier ++ digest :: later)
      (accepted : Accepted resolver reference minimum tools desk earlier calls fragments between)
      (attempt : Attempt resolver reference minimum tools between digest last (.error failure)
        after) :
      Attempts resolver reference minimum tools desk digests (calls ++ last) (.error failure) after

theorem Attempts.calls_eq {resolver : Resolver} {reference : ImageReference} {minimum : String}
    {tools : Tools} {desk after : Desk} {digests : List String} {calls : List ToolCall}
    {result : Except Error (List FragmentImport)}
    (attempts : Attempts resolver reference minimum tools desk digests calls result after) :
    after.calls = desk.calls ++ calls := by
  cases attempts with
  | all accepted => exact accepted.calls_eq
  | failed split accepted attempt => rw [attempt.calls_eq, accepted.calls_eq, List.append_assoc]

theorem perform_digests (resolver : Resolver) {reference : ImageReference} {image : String}
    (parsed : ImageReference.parse image = .ok reference) (minimum : String) (tools : Tools)
    {digests : List String} (some : ∀ digest ∈ digests, digest ≠ "") (desk : Desk)
    (result : Except Error (List FragmentImport)) (after : Desk) :
    (digests.mapM (resolver.importDigest image minimum)).perform tools desk = (result, after) ↔
      ∃ calls, Attempts resolver reference minimum tools desk digests calls result after := by
  induction digests generalizing desk result after with
  | nil =>
      apply eq_iff_of_total
      · intro result after given
        obtain ⟨calls, attempts⟩ := given
        cases attempts with
        | all accepted =>
            cases accepted
            rfl
        | failed split accepted attempt => simp at split
      · exact ⟨_, _, _, .all .none⟩
  | cons digest rest ih =>
      simp only [List.mem_cons, forall_eq_or_imp] at some
      have head := resolver.perform_importDigest parsed minimum tools desk some.1
      have tail := ih some.2
      rw [List.mapM_cons, Job.perform_bind]
      -- Some rule covers every run, and so the runs of the rules are all there are.
      apply eq_iff_of_total
      · intro result after given
        obtain ⟨calls, attempts⟩ := given
        cases attempts with
        | all accepted =>
            cases accepted with
            | next first others =>
                rw [(head _ _).mpr ⟨_, first.attempt⟩]
                dsimp only
                rw [Job.perform_bind, (tail _ _ _).mpr ⟨_, .all others⟩]
                rfl
        | @failed earlier later _ _ _ _ _ _ _ split accepted attempt =>
            cases accepted with
            | none =>
                obtain ⟨rfl, rfl⟩ := List.cons.inj split
                rw [(head _ _).mpr ⟨_, attempt⟩]
            | next first others =>
                obtain ⟨rfl, behind⟩ := List.cons.inj split
                rw [(head _ _).mpr ⟨_, first.attempt⟩]
                dsimp only
                rw [Job.perform_bind, (tail _ _ _).mpr ⟨_, .failed behind others attempt⟩]
      · obtain ⟨outcome, between, calls, first⟩ : ∃ outcome between calls,
            Attempt resolver reference minimum tools desk digest calls outcome between :=
          ⟨_, _, (head _ _).mp rfl⟩
        rcases outcome with failure | statement
        · exact ⟨_, _, _, .failed (List.nil_append _).symm .none first⟩
        · obtain ⟨path, fragment, accepts, -⟩ := first.accepts
          obtain ⟨results, after, calls', others⟩ : ∃ results after calls,
              Attempts resolver reference minimum tools between rest calls results after :=
            ⟨_, _, (tail _ _ _).mp rfl⟩
          cases others with
          | all accepted => exact ⟨_, _, _, .all (.next accepts accepted)⟩
          | failed split accepted attempt =>
              exact ⟨_, _, _,
                .failed (congrArg (digest :: ·) split) (.next accepts accepted) attempt⟩

end Resolver

end Enforcement
