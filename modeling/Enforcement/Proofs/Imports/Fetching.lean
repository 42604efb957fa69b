import Enforcement.Proofs.Files.Child
import Enforcement.Proofs.Files.Writing
import Enforcement.Proofs.Imports.Scratch

/-!
Where a fetched file lies. Its name is a word that the registry's client prints, and it is put below
the directory of the fetch as it stands; so the file lies in that directory exactly when the word is
one ordinary name, or an absolute path that leads there.
-/

namespace Enforcement

open Enforcement.Files Enforcement.Text

namespace Registry

/-- What the client can report as a file: any word but the one that its report begins with. -/
structure Reportable (name : String) : Prop where
  some : name ≠ ""
  visible : ∀ c ∈ name.toList, isBlank c = false
  other : name ≠ "Downloaded"

theorem reportable_of_report {output name : String}
    (report : downloadedName? output = some name) : Reportable name := by
  obtain ⟨word, kept, rfl⟩ := Option.map_eq_some_iff.mp report
  obtain ⟨last, other⟩ := Option.filter_eq_some_iff.mp kept
  obtain ⟨line, -, last⟩ := Option.bind_eq_some_iff.mp last
  obtain ⟨filled, visible⟩ := visible_of_mem_words (List.mem_of_getLast? last)
  rw [bne_iff_ne] at other
  refine ⟨?_, by rwa [String.toList_ofList], ?_⟩
  · intro empty
    exact filled (by simpa using congrArg String.toList empty)
  · intro same
    exact other (by simpa using congrArg String.toList same)

theorem lines_report {name : String} (reportable : Reportable name) :
    (lines ("Downloaded " ++ name ++ "\n").toList).map trim =
      ["Downloaded ".toList ++ name.toList] := by
  have last : ∀ c ∈ ("Downloaded ".toList ++ name.toList).getLast?, isBlank c = false :=
    visible_last (by simpa using reportable.some) reportable.visible
  have first : ∀ c ∈ ("Downloaded ".toList ++ name.toList).head?, isBlank c = false := by
    intro c same
    rw [← Option.some.inj (same : some 'D' = some c)]
    decide
  have single : '\n' ∉ "Downloaded ".toList ++ name.toList := by
    rw [List.mem_append, not_or]
    refine ⟨by decide, fun feed => ?_⟩
    exact absurd (reportable.visible _ feed) (by decide)
  have line : lines ("Downloaded " ++ name ++ "\n").toList =
      ["Downloaded ".toList ++ name.toList] := by
    rw [String.toList_append, String.toList_append]
    refine lines_single single fun c member same => ?_
    rw [same] at member
    exact absurd (last _ member) (by decide)
  rw [line, List.map_singleton, trim_eq_self first last]

theorem words_report {name : String} (reportable : Reportable name) :
    words ("Downloaded ".toList ++ name.toList) = ["Downloaded".toList, name.toList] := by
  have blank : isBlank ' ' = true := by decide
  have split := words_append "Downloaded".toList blank name.toList
  rw [words_word (by simpa using reportable.some) reportable.visible] at split
  exact split

theorem report_of_reportable {name : String} (reportable : Reportable name) :
    downloadedName? ("Downloaded " ++ name ++ "\n") = some name := by
  have begins : "Downloaded".toList.isPrefixOf ("Downloaded ".toList ++ name.toList) = true := rfl
  have kept : (name.toList != "Downloaded".toList) = true := by
    rw [bne_iff_ne]
    exact fun same => reportable.other (String.toList_injective same)
  unfold downloadedName?
  dsimp only
  rw [lines_report reportable, List.find?_cons_of_pos begins, Option.bind_some,
    words_report reportable, List.getLast?_cons_cons, List.getLast?_singleton, Option.filter_some,
    if_pos kept, Option.map_some, String.ofList_toList]

theorem reportable_iff (name : String) :
    (∃ output, downloadedName? output = some name) ↔ Reportable name := by
  constructor
  · intro given
    obtain ⟨output, report⟩ := given
    exact reportable_of_report report
  · intro reportable
    exact ⟨_, report_of_reportable reportable⟩

theorem fetches_ok_iff {registry : Registry} {reference : ImageReference} {tools : Tools}
    {digest directory path : String} {desk after : Desk} :
    registry.Fetches reference tools digest directory desk (.ok path) after ↔
      ∃ output name, desk.ask tools (registry.pullCall reference digest directory) =
          (.ok output, after) ∧
        output.exit = some 0 ∧ downloadedName? output.stdout = some name ∧
        path = join directory name := by
  constructor
  · intro fetches
    cases fetches with
    | @named _ output name call report =>
        cases call with
        | done answer exit => exact ⟨output, name, answer, exit, report, rfl⟩
  · intro given
    obtain ⟨output, name, answer, exit, report, rfl⟩ := given
    exact .named (.done answer exit) report

theorem pull_ok_iff {registry : Registry} {image digest directory path : String} {tools : Tools}
    {desk after : Desk} :
    (registry.pull image digest directory).perform tools desk = (.ok path, after) ↔
      ∃ reference made output name, ImageReference.parse image = .ok reference ∧
        desk.make directory = (.ok (), made) ∧
        made.ask tools (registry.pullCall reference digest directory) = (.ok output, after) ∧
        output.exit = some 0 ∧ downloadedName? output.stdout = some name ∧
        path = join directory name := by
  constructor
  · intro run
    cases parsed : ImageReference.parse image with
    | error failure =>
        unfold pull at run
        rw [Job.perform_bind, Job.perform_lift, parsed] at run
        cases run
    | ok reference =>
        rcases scratch : desk.make directory with ⟨fault | done, made⟩
        · unfold pull at run
          rw [Job.perform_bind, Job.perform_lift, parsed] at run
          dsimp only at run
          rw [Job.perform_bind, Job.perform_createDirectories, scratch] at run
          cases run
        · have fetch := (perform_pull registry parsed tools scratch _ _).mp run
          obtain ⟨output, name, answer, exit, report, same⟩ := fetches_ok_iff.mp fetch
          exact ⟨reference, made, output, name, rfl, rfl, answer, exit, report, same⟩
  · intro given
    obtain ⟨reference, made, output, name, parsed, scratch, answer, exit, report, same⟩ := given
    exact (perform_pull registry parsed tools scratch _ _).mpr
      (fetches_ok_iff.mpr ⟨output, name, answer, exit, report, same⟩)

end Registry

theorem Registry.pullCall_unchecked (registry : Registry) (reference : ImageReference)
    (digest directory : String) :
    (registry.pullCall reference digest directory).args.head? ≠ some "check" := by
  change some "pull" ≠ some "check"
  decide

theorem Signer.Verifies.shown {signer : Signer} {tools : Tools} {path : String}
    {desk after : Desk} {calls : List ToolCall} {result : Except Error VerifiedFragment}
    (verifies : signer.Verifies tools path desk calls result after) {call : ToolCall}
    (member : call ∈ calls) : desk.files.isFile path = true ∧ call = signer.checkCall path := by
  cases verifies with
  | missing absent => cases member
  | unanswered present answer => exact ⟨present, List.mem_singleton.mp member⟩
  | refused present answer exit => exact ⟨present, List.mem_singleton.mp member⟩
  | unreadable present answer exit parsed => exact ⟨present, List.mem_singleton.mp member⟩
  | verified present answer exit parsed => exact ⟨present, List.mem_singleton.mp member⟩

namespace Resolver

/-- A call shows the verifier the file whose path a fetch for a digest came to. -/
def Shown (resolver : Resolver) (image : String) (tools : Tools) (calls : List ToolCall)
    (digest : String) (call : ToolCall) : Prop :=
  ∃ reference made path fetched, ImageReference.parse image = .ok reference ∧
    resolver.registry.pullCall reference digest (resolver.directory digest) ∈ calls ∧
    (resolver.registry.pull image digest (resolver.directory digest)).perform tools made =
      (.ok path, fetched) ∧
    fetched.files.isFile path = true ∧ call = resolver.signer.checkCall path

section

variable {resolver : Resolver} {reference : ImageReference} {image minimum : String}
  {tools : Tools} {calls : List ToolCall} {call : ToolCall}

theorem Shown.mono {more : List ToolCall} {digest : String}
    (shown : Shown resolver image tools calls digest call) (wider : ∀ call ∈ calls, call ∈ more) :
    Shown resolver image tools more digest call := by
  obtain ⟨reference, made, path, fetched, parsed, pulled, shown⟩ := shown
  exact ⟨reference, made, path, fetched, parsed, wider _ pulled, shown⟩

variable (parsed : ImageReference.parse image = .ok reference)
  (check : call.args.head? = some "check")

include parsed check

theorem Attempt.shown {digest : String} (filled : digest ≠ "") {desk after : Desk}
    {result : Except Error FragmentImport}
    (attempt : Attempt resolver reference minimum tools desk digest calls result after)
    (member : call ∈ calls) : Shown resolver image tools calls digest call := by
  have verified {path : String} {made fetched checked : Desk} {later : List ToolCall}
      {result : Except Error VerifiedFragment}
      (scratch : desk.make (resolver.directory digest) = (.ok (), made))
      (fetch : resolver.registry.Fetches reference tools digest (resolver.directory digest) made
        (.ok path) fetched)
      (verify : resolver.signer.Verifies tools path fetched later result checked)
      (member : call ∈ resolver.registry.pullCall reference digest (resolver.directory digest) ::
        later) :
      Shown resolver image tools
        (resolver.registry.pullCall reference digest (resolver.directory digest) :: later) digest
        call := by
    have there := Desk.make_again (resolver.named_directory filled) scratch
    rcases List.mem_cons.mp member with rfl | behind
    · exact absurd check (resolver.registry.pullCall_unchecked _ _ _)
    · obtain ⟨present, same⟩ := verify.shown behind
      exact ⟨reference, made, path, fetched, parsed, List.mem_cons_self,
        (Registry.perform_pull _ parsed tools there _ _).mpr fetch, present, same⟩
  cases attempt with
  | noDirectory scratch => cases member
  | notFetched scratch fetch =>
      rw [List.mem_singleton.mp member] at check
      exact absurd check (resolver.registry.pullCall_unchecked _ _ _)
  | notVerified scratch fetch verify => exact verified scratch fetch verify member
  | stale scratch fetch verify gate => exact verified scratch fetch verify member
  | accepted scratch fetch verify gate => exact verified scratch fetch verify member

theorem Accepted.shown {digests : List String} (filled : ∀ digest ∈ digests, digest ≠ "")
    {desk after : Desk} {fragments : List VerifiedFragment}
    (accepted : Accepted resolver reference minimum tools desk digests calls fragments after)
    (member : call ∈ calls) : ∃ digest ∈ digests, Shown resolver image tools calls digest call := by
  induction accepted with
  | none => cases member
  | @next _ _ _ digest path rest calls _ _ first others ih =>
      have split : call ∈ [resolver.registry.pullCall reference digest (resolver.directory digest),
          resolver.signer.checkCall path] ++ calls := member
      rcases List.mem_append.mp split with own | later
      · have shown := first.attempt.shown parsed check (filled digest List.mem_cons_self) own
        exact ⟨digest, List.mem_cons_self,
          shown.mono fun _ member => List.mem_append_left calls member⟩
      · obtain ⟨other, listed, shown⟩ :=
          ih (fun digest member => filled digest (List.mem_cons_of_mem _ member)) later
        exact ⟨other, List.mem_cons_of_mem _ listed, shown.mono fun _ member =>
          List.mem_cons_of_mem _ (List.mem_cons_of_mem _ member)⟩

theorem Attempts.shown {digests : List String} (filled : ∀ digest ∈ digests, digest ≠ "")
    {desk after : Desk} {result : Except Error (List FragmentImport)}
    (attempts : Attempts resolver reference minimum tools desk digests calls result after)
    (member : call ∈ calls) : ∃ digest ∈ digests, Shown resolver image tools calls digest call := by
  cases attempts with
  | all accepted => exact accepted.shown parsed check filled member
  | @failed earlier later digest calls last _ _ _ _ split accepted attempt =>
      subst split
      rcases List.mem_append.mp member with before | behind
      · obtain ⟨other, listed, shown⟩ := accepted.shown parsed check
          (fun digest member => filled digest (List.mem_append_left _ member)) before
        exact ⟨other, List.mem_append_left _ listed,
          shown.mono fun _ member => List.mem_append_left last member⟩
      · have own := List.mem_append_right earlier (List.mem_cons_self : digest ∈ digest :: later)
        exact ⟨digest, own, (attempt.shown parsed check (filled digest own) behind).mono
          fun _ member => List.mem_append_right calls member⟩

omit parsed

/-- Whatever a resolution shows the verifier was fetched for one of the digests. -/
theorem Resolves.shown {desk after : Desk} {result : Except Error (List FragmentImport)}
    (resolves : Resolves resolver image minimum tools desk calls result after)
    (member : call ∈ calls) :
    ∃ digest, Image.isDigest digest = true ∧ Shown resolver image tools calls digest call := by
  have discovery {calls : List ToolCall} {found : Desk} {result : Except Error (List String)}
      (discover : resolver.registry.Discovers image tools desk calls result found) :
      call ∉ calls := by
    have other (reference : ImageReference) : call ≠ resolver.registry.discoverCall reference := by
      rintro rfl
      exact absurd (Option.some.inj check) (by decide)
    intro member
    cases discover with
    | noReference parsed => cases member
    | failed parsed call => exact other _ (List.mem_singleton.mp member)
    | unreadable parsed call read => exact other _ (List.mem_singleton.mp member)
    | found parsed call read => exact other _ (List.mem_singleton.mp member)
  have attempted {reference : ImageReference} {found after : Desk}
      {early calls : List ToolCall} {digests : List String}
      {result : Except Error (List FragmentImport)}
      (parsed : ImageReference.parse image = .ok reference)
      (discover : resolver.registry.Discovers image tools desk early (.ok digests) found)
      (valid : ∀ digest ∈ digests, Image.isDigest digest = true)
      (attempts : Attempts resolver reference minimum tools found digests calls result after)
      (member : call ∈ early ++ calls) :
      ∃ digest, Image.isDigest digest = true ∧
        Shown resolver image tools (early ++ calls) digest call := by
    have later := (List.mem_append.mp member).resolve_left (discovery discover)
    obtain ⟨digest, listed, shown⟩ := attempts.shown parsed check
      (fun digest member => ne_empty_of_isDigest (valid digest member)) later
    exact ⟨digest, valid digest listed,
      shown.mono fun _ member => List.mem_append_right early member⟩
  cases resolves with
  | noMinimum least => cases member
  | undiscovered least discover => exact absurd member (discovery discover)
  | malformed least discover first => exact absurd member (discovery discover)
  | failed least parsed discover valid attempts =>
      exact attempted parsed discover valid attempts member
  | resolved least parsed discover valid attempts =>
      exact attempted parsed discover valid attempts member

end

theorem contents?_of_childPath {resolver : Resolver} {digest name path : String}
    (filled : digest ≠ "") (child : ChildPath (resolver.directory digest) name path)
    {files : Store} (present : files.isFile path = true) :
    ∃ bytes, files.contents? (resolver.place files.home digest ++ [name]) = some bytes := by
  obtain ⟨place, bytes, leads, held⟩ := Store.isFile_iff.mp present
  rw [(Store.resolve_ok leads).2, child.destination_eq,
    destination_directory resolver _ filled] at held
  exact ⟨bytes, held⟩

/--
A fetch that succeeds gives the path that a reported word makes below its directory, and any word
but the one that begins the report can be reported. The path leads to a file directly in the
directory exactly if the word is one ordinary name, or is absolute and leads there itself. A
resolution shows the verifier nothing but what its fetches came to, and whatever path leads directly
into the directory for its digest, the file that is shown lies there.
-/
theorem fetched_inside (resolver : Resolver) (image minimum : String) (tools : Tools)
    (desk : Desk) :
    (∀ digest directory path after,
      (resolver.registry.pull image digest directory).perform tools desk = (.ok path, after) ↔
        ∃ reference made output word, ImageReference.parse image = .ok reference ∧
          desk.make directory = (.ok (), made) ∧
          made.ask tools (resolver.registry.pullCall reference digest directory) =
            (.ok output, after) ∧
          output.exit = some 0 ∧ Registry.downloadedName? output.stdout = some word ∧
          path = join directory word) ∧
    (∀ word, (∃ output, Registry.downloadedName? output = some word) ↔ Registry.Reportable word) ∧
    (∀ directory word name, ChildPath directory name (join directory word) ↔
      isAbsolute word = false ∧ components word = [name] ∧ name ≠ ".." ∨
        isAbsolute word = true ∧ ChildPath directory name word) ∧
    (∀ directory name path, ChildPath directory name path → PlainName name ∧
      ∀ home, destination home path = destination home directory ++ [name]) ∧
    ∀ calls result after, Resolves resolver image minimum tools desk calls result after →
      ∀ call ∈ calls, call.args.head? = some "check" →
        ∃ digest reference made path fetched, Image.isDigest digest = true ∧
          ImageReference.parse image = .ok reference ∧
          resolver.registry.pullCall reference digest (resolver.directory digest) ∈ calls ∧
          (resolver.registry.pull image digest (resolver.directory digest)).perform tools made =
            (.ok path, fetched) ∧
          fetched.files.isFile path = true ∧ call = resolver.signer.checkCall path ∧
          ∀ name, ChildPath (resolver.directory digest) name path → ∃ bytes,
            fetched.files.contents? (resolver.place fetched.files.home digest ++ [name]) =
              some bytes := by
  refine ⟨fun _ _ _ _ => Registry.pull_ok_iff, Registry.reportable_iff,
    fun _ _ _ => childPath_join_iff, fun _ _ _ child => ⟨child.plain, child.destination_eq⟩, ?_⟩
  intro calls result after resolves call member check
  obtain ⟨digest, valid, reference, made, path, fetched, parsed, pulled, fetch, present, same⟩ :=
    resolves.shown check member
  exact ⟨digest, reference, made, path, fetched, valid, parsed, pulled, fetch, present, same,
    fun _ child => contents?_of_childPath (ne_empty_of_isDigest valid) child present⟩

theorem fetched_inside_contoso :
    PlainName "fragment.cose" ∧
    ∃ digest fetched bytes, contoso.directory digest = "/work/sha256-a1" ∧
      Store.contents? fetched (contoso.place fetched.home digest ++ ["fragment.cose"]) =
        some bytes := by
  have inside := fetched_inside contoso "contoso.azurecr.io/app:1" "5" oneFragment emptyDesk
  have child : ChildPath "/work/sha256-a1" "fragment.cose" "/work/sha256-a1/fragment.cose" :=
    ⟨by decide +kernel, by decide, by decide +kernel⟩
  refine ⟨(inside.2.2.2.1 _ _ _ child).1, ?_⟩
  obtain ⟨imports, after, run, seen⟩ := Job.exists_run ((contoso.resolveAll
    "contoso.azurecr.io/app:1" "5").perform oneFragment emptyDesk)
    (fun _ after => (after.calls.filterMap (·.directory), after.calls.getLast?))
    (["/work/sha256-a1"], some (contoso.signer.checkCall "/work/sha256-a1/fragment.cose"))
    (by decide +kernel)
  obtain ⟨directories, last⟩ := Prod.mk.inj seen
  obtain ⟨calls, resolves⟩ := (contoso.perform_resolveAll _ _ _ _ _ _).mp run
  have all : after.calls = calls := resolves.calls_eq
  rw [all] at directories last
  obtain ⟨digest, reference, made, path, fetched, -, -, pulled, -, -, same, there⟩ :=
    inside.2.2.2.2 calls _ after resolves _ (List.mem_of_getLast? last) rfl
  have listed : contoso.directory digest ∈ calls.filterMap (·.directory) :=
    List.mem_filterMap.mpr ⟨_, pulled, rfl⟩
  rw [directories, List.mem_singleton] at listed
  have shown : path = "/work/sha256-a1/fragment.cose" := by
    have args := congrArg ToolCall.args same
    simp only [Signer.checkCall, List.cons.injEq] at args
    exact args.2.2.1.symm
  obtain ⟨bytes, held⟩ := there "fragment.cose" (by rwa [listed, shown])
  exact ⟨digest, fetched.files, bytes, listed, held⟩

/-- The client of a registry that reports a file outside the directory that it was given. -/
def misleadingTools : Tools := fun _ files call =>
  match call.args.head? with
  | some "discover" =>
    (.ok ⟨some 0, "\x7b\"manifests\": [\x7b\"digest\": \"sha256:a1\"\x7d]\x7d", ""⟩, files)
  | some "pull" => (.ok ⟨some 0, "Downloaded ../../planted.cose\n", ""⟩, files)
  | _ =>
    (.ok ⟨some 0, "iss: did:x509:abc\nfeed: contoso/infra\npayload:\nsvn := \"7\"\n", ""⟩, files)

def plantedDesk : Desk := ⟨⟨⟨[], []⟩, [(["planted.cose"], .file [] false)]⟩, []⟩

theorem fetched_outside :
    (∃ path fetched, (contoso.registry.pull "contoso.azurecr.io/app:1" "sha256:a1"
        "/work/sha256-a1").perform misleadingTools plantedDesk = (.ok path, fetched) ∧
      destination plantedDesk.files.home path = ["planted.cose"] ∧
      ∀ name, ¬ ChildPath "/work/sha256-a1" name path) ∧
    ∃ imports after, (contoso.resolveAll "contoso.azurecr.io/app:1" "5").perform misleadingTools
        plantedDesk = (.ok imports, after) ∧
      imports = [⟨"did:x509:abc", "contoso/infra", "5", []⟩] ∧
      after.calls.getLast? =
        some (contoso.signer.checkCall "/work/sha256-a1/../../planted.cose") := by
  constructor
  · obtain ⟨path, fetched, run, same⟩ := Job.exists_run ((contoso.registry.pull
      "contoso.azurecr.io/app:1" "sha256:a1" "/work/sha256-a1").perform misleadingTools plantedDesk)
      (fun path _ => path) "/work/sha256-a1/../../planted.cose" (by decide +kernel)
    subst same
    exact ⟨_, fetched, run, by decide +kernel, fun name child =>
      absurd child.longer (by decide +kernel)⟩
  · obtain ⟨imports, after, run, seen⟩ := Job.exists_run ((contoso.resolveAll
      "contoso.azurecr.io/app:1" "5").perform misleadingTools plantedDesk)
      (fun imports after => (imports, after.calls.getLast?))
      ([⟨"did:x509:abc", "contoso/infra", "5", []⟩],
        some (contoso.signer.checkCall "/work/sha256-a1/../../planted.cose")) (by decide +kernel)
    obtain ⟨same, last⟩ := Prod.mk.inj seen
    exact ⟨imports, after, run, same, last⟩

end Resolver

end Enforcement
