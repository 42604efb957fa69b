import Enforcement.CommandLine.FragmentCommand
import Enforcement.Proofs.CommandLine.Work
import Enforcement.Proofs.Imports.Loading
import Enforcement.Proofs.Imports.Observation
import Enforcement.Proofs.Imports.Sparing

/-!
Fragments imported by a command. The imports file is written once, when all imports are there and it
was loaded; what was listed stays listed, and a run that sees the same again changes nothing.
-/

namespace Enforcement

open Enforcement.Files Enforcement.Json

namespace CommandLine

def resolverOf (settings : Settings) : Resolver :=
  ⟨registryOf settings, signerOf settings, settings.scratch⟩

namespace ImportRequest

/-- The imports that a request asks for, before the imports file is looked at. -/
def resolution (request : ImportRequest) (settings : Settings) : Job (List FragmentImport) := do
  (signerOf settings).checkAvailable
  match request.source with
  | .image image => do
    (registryOf settings).checkAvailable
    (resolverOf settings).resolveAll image request.minimumSvn
  | .signed path => return [← (resolverOf settings).resolvePath path request.minimumSvn]

theorem perform_run (request : ImportRequest) (settings : Settings) (tools : Tools) (desk : Desk) :
    (request.run settings).perform tools desk =
      match (request.resolution settings).perform tools desk with
      | (.error failure, after) => (.error (.error failure), after)
      | (.ok imports, after) =>
        match ImportsFile.stored after.files request.imports with
        | .error failure => (.error (.loading request.imports failure), after)
        | .ok file =>
          match after.files.writeText request.imports
            ((file.append imports).prettyText ++ "\n") with
          | .error fault => (.error (.error (.file request.imports fault)), after)
          | .ok files => (.ok "", { after with files }) := by
  unfold run resolution
  dsimp only
  rw [Work.perform_bind, Work.perform_job, Job.perform_bind]
  rcases (signerOf settings).checkAvailable.perform tools desk with ⟨failure | done, ready⟩
  · rfl
  · dsimp only [mapError_ok]
    rw [Work.perform_bind, Work.perform_job]
    unfold resolverOf
    rcases Job.perform (match request.source with
      | .image image => _
      | .signed path => _) tools ready with ⟨failure | imports, after⟩
    · rfl
    · dsimp only [mapError_ok]
      rw [Work.perform_bind, Work.perform_ofJob, ImportsFile.perform_load]
      rcases ImportsFile.stored after.files request.imports with failure | file
      · rfl
      · dsimp only [mapError_ok]
        rw [Work.perform_bind, Work.perform_job, ImportsFile.write, Job.perform_writeText]
        cases after.files.writeText request.imports ((file.append imports).prettyText ++ "\n") with
        | error fault => rfl
        | ok files => rfl

inductive Observation where
  | image (help version discovered : ToolOutput) (fragments : List Resolver.Sighting)
  | signed (help checked : ToolOutput)
  deriving Repr

/--
What is seen while imports are resolved: what each call of a tool prints, the directories that can
be made and the files that are there.
-/
inductive Sees (request : ImportRequest) (settings : Settings) (tools : Tools) (desk : Desk) :
    Observation → Desk → Prop
  | image {image : String} {help version discovered : ToolOutput}
      {fragments : List Resolver.Sighting} {started ready after : Desk}
      (source : request.source = .image image)
      (helped : desk.ask tools (signerOf settings).helpCall = (.ok help, started))
      (told : started.ask tools (registryOf settings).versionCall = (.ok version, ready))
      (seen : (resolverOf settings).SeesImage image tools ready discovered fragments after) :
      Sees request settings tools desk (.image help version discovered fragments) after
  | signed {path : String} {help checked : ToolOutput} {ready after : Desk}
      (source : request.source = .signed path)
      (helped : desk.ask tools (signerOf settings).helpCall = (.ok help, ready))
      (seen : (resolverOf settings).SeesFile path tools ready checked after) :
      Sees request settings tools desk (.signed help checked) after

section

variable {request : ImportRequest} {settings : Settings} {tools : Tools} {desk after : Desk}
  {imports : List FragmentImport}

theorem resolution_image_iff {image : String} (source : request.source = .image image) :
    (request.resolution settings).perform tools desk = (.ok imports, after) ↔
      ∃ help started version ready,
        desk.ask tools (signerOf settings).helpCall = (.ok help, started) ∧
        started.ask tools (registryOf settings).versionCall = (.ok version, ready) ∧
        version.exit = some 0 ∧
        ((resolverOf settings).resolveAll image request.minimumSvn).perform tools ready =
          (.ok imports, after) := by
  unfold resolution
  rw [source]
  dsimp only
  rw [Job.perform_bind_ok]
  constructor
  · intro run
    obtain ⟨_, started, first, run⟩ := run
    obtain ⟨_, ready, second, run⟩ := Job.perform_bind_ok.mp run
    obtain ⟨help, helped⟩ := Signer.checkAvailable_ok_iff.mp first
    obtain ⟨version, told, exit⟩ := Registry.checkAvailable_ok_iff.mp second
    exact ⟨help, started, version, ready, helped, told, exit, run⟩
  · intro steps
    obtain ⟨help, started, version, ready, helped, told, exit, run⟩ := steps
    exact ⟨(), started, Signer.checkAvailable_ok_iff.mpr ⟨help, helped⟩,
      Job.perform_bind_ok.mpr
        ⟨(), ready, Registry.checkAvailable_ok_iff.mpr ⟨version, told, exit⟩, run⟩⟩

theorem resolution_signed_iff {path : String} (source : request.source = .signed path) :
    (request.resolution settings).perform tools desk = (.ok imports, after) ↔
      ∃ help ready statement,
        desk.ask tools (signerOf settings).helpCall = (.ok help, ready) ∧
        ((resolverOf settings).resolvePath path request.minimumSvn).perform tools ready =
          (.ok statement, after) ∧ imports = [statement] := by
  unfold resolution
  rw [source]
  dsimp only
  rw [Job.perform_bind_ok]
  constructor
  · intro run
    obtain ⟨_, ready, first, run⟩ := run
    obtain ⟨statement, checked, run, single⟩ := Job.perform_bind_ok.mp run
    obtain ⟨help, helped⟩ := Signer.checkAvailable_ok_iff.mp first
    cases single
    exact ⟨help, ready, statement, helped, run, rfl⟩
  · intro steps
    obtain ⟨help, ready, statement, helped, run, rfl⟩ := steps
    exact ⟨(), ready, Signer.checkAvailable_ok_iff.mpr ⟨help, helped⟩,
      Job.perform_bind_ok.mpr ⟨statement, after, run, rfl⟩⟩

theorem resolution_again
    (run : (request.resolution settings).perform tools desk = (.ok imports, after)) :
    ∃ seen, request.Sees settings tools desk seen after ∧
      ∀ tools' desk' after', request.Sees settings tools' desk' seen after' →
        (request.resolution settings).perform tools' desk' = (.ok imports, after') := by
  cases source : request.source with
  | image image =>
      obtain ⟨help, started, version, ready, helped, told, exit, imported⟩ :=
        (resolution_image_iff source).mp run
      obtain ⟨discovered, fragments, seen, again⟩ := Resolver.resolveAll_again imported
      refine ⟨.image help version discovered fragments, .image source helped told seen, ?_⟩
      intro tools' desk' after' sees
      cases sees with
      | image source' helped' told' seen' =>
          cases source.symm.trans source'
          exact (resolution_image_iff source).mpr
            ⟨help, _, version, _, helped', told', exit, again _ _ _ seen'⟩
  | signed path =>
      obtain ⟨help, ready, statement, helped, imported, rfl⟩ :=
        (resolution_signed_iff source).mp run
      obtain ⟨checked, seen, again⟩ := Resolver.resolvePath_again imported
      refine ⟨.signed help checked, .signed source helped seen, ?_⟩
      intro tools' desk' after' sees
      cases sees with
      | signed source' helped' seen' =>
          cases source.symm.trans source'
          exact (resolution_signed_iff source).mpr
            ⟨help, _, statement, helped', again _ _ _ seen', rfl⟩

theorem resolution_valid
    (run : (request.resolution settings).perform tools desk = (.ok imports, after)) :
    ∀ listed ∈ imports, listed.Valid := by
  cases source : request.source with
  | image image =>
      obtain ⟨help, started, version, ready, -, -, -, imported⟩ :=
        (resolution_image_iff source).mp run
      exact Resolver.resolveAll_valid imported
  | signed path =>
      obtain ⟨help, ready, statement, -, imported, rfl⟩ := (resolution_signed_iff source).mp run
      exact List.forall_mem_singleton.mpr (Resolver.resolvePath_valid imported)

theorem maintains_resolution {fit : Store → Prop} (safe : (resolverOf settings).Safe fit tools)
    (request : ImportRequest) : Job.Maintains fit tools (request.resolution settings) := by
  have signer : Job.Maintains fit tools (signerOf settings).checkAvailable :=
    (Job.maintains_call safe.called _ _).bind fun _ => (Job.quiet_pure _).maintains
  have registry : Job.Maintains fit tools (registryOf settings).checkAvailable := by
    refine (Job.maintains_call safe.called _ _).bind fun output => ?_
    split
    · exact (Job.quiet_fail _).maintains
    · exact (Job.quiet_pure _).maintains
  refine signer.bind fun _ => ?_
  split
  · exact registry.bind fun _ => Resolver.maintains_resolveAll safe _ _
  · exact (Resolver.maintains_resolvePath safe _ _).bind fun _ => (Job.quiet_pure _).maintains

end

theorem run_ok {request : ImportRequest} {settings : Settings} {tools : Tools}
    {desk resolved : Desk} {imports : List FragmentImport} {previous : ImportsFile} {files : Store}
    (found : (request.resolution settings).perform tools desk = (.ok imports, resolved))
    (loaded : ImportsFile.stored resolved.files request.imports = .ok previous)
    (wrote : resolved.files.writeText request.imports
      ((previous.append imports).prettyText ++ "\n") = .ok files) :
    (request.run settings).perform tools desk = (.ok "", { resolved with files }) := by
  rw [perform_run, found]
  dsimp only
  rw [loaded]
  dsimp only
  rw [wrote]

theorem run_cases {request : ImportRequest} {settings : Settings} {tools : Tools}
    {desk after : Desk} {outcome : Except Failure String}
    (run : (request.run settings).perform tools desk = (outcome, after)) :
    (∃ failure, outcome = .error failure ∧
      after = ((request.resolution settings).perform tools desk).2) ∨
    (outcome = .ok "" ∧ ∃ imports resolved previous files,
      (request.resolution settings).perform tools desk = (.ok imports, resolved) ∧
      ImportsFile.stored resolved.files request.imports = .ok previous ∧
      resolved.files.writeText request.imports
        ((previous.append imports).prettyText ++ "\n") = .ok files ∧
      after = { resolved with files }) := by
  rcases found : (request.resolution settings).perform tools desk with ⟨failure | imports, resolved⟩
  · rw [perform_run, found] at run
    cases run
    exact .inl ⟨_, rfl, rfl⟩
  · rcases loaded : ImportsFile.stored resolved.files request.imports with failure | previous
    · rw [perform_run, found] at run
      dsimp only at run
      rw [loaded] at run
      cases run
      exact .inl ⟨_, rfl, rfl⟩
    · rcases wrote : resolved.files.writeText request.imports
        ((previous.append imports).prettyText ++ "\n") with fault | files
      · rw [perform_run, found] at run
        dsimp only at run
        rw [loaded] at run
        dsimp only at run
        rw [wrote] at run
        cases run
        exact .inl ⟨_, rfl, rfl⟩
      · rw [run_ok found loaded wrote] at run
        cases run
        exact .inr ⟨rfl, imports, resolved, previous, files, rfl, loaded, wrote, rfl⟩

/-- What a run leaves that succeeds: the former list with the imports, where the former list was. -/
structure Updates (request : ImportRequest) (settings : Settings) (tools : Tools)
    (desk after : Desk) (previous : ImportsFile) (imports : List FragmentImport)
    (resolved : Desk) : Prop where
  found : (request.resolution settings).perform tools desk = (.ok imports, resolved)
  kept : resolved.files.contents? (destination desk.files.home request.imports) =
    desk.files.contents? (destination desk.files.home request.imports)
  loaded : (ImportsFile.load request.imports).perform tools resolved = (.ok previous, resolved)
  written : Written request.imports
    (Text.encodeUtf8 ((previous.append imports).prettyText ++ "\n")) resolved.files after.files

section

variable {request : ImportRequest} {settings : Settings} {tools : Tools} {desk after : Desk}
  {imports : List FragmentImport} {file : ImportsFile} {home place : Place}

theorem stored_of_holdsAt (shaped : file.Shaped)
    (numbers : ∀ held ∈ file.others, held.2.Every NumberReadable) {path : String} {files : Store}
    (held : HoldsAt home path place (some (Text.encodeUtf8 (file.prettyText ++ "\n"))) files) :
    ImportsFile.stored files path = .ok file.reread := by
  have leaf : files.entry? place ≠ some .directory := by
    intro directory
    have contents := held.contents
    unfold Store.contents? at contents
    rw [directory] at contents
    cases contents
  rw [ImportsFile.stored_eq held.leads leaf, held.contents]
  exact shaped.ofContents_written numbers path

theorem run_listed (sound : file.Sound) (once : file.fragments.Nodup)
    (listed : ∀ fragment ∈ imports, fragment ∈ file.fragments)
    (slash : Store.endsInSlash request.imports = false)
    (found : (request.resolution settings).perform tools desk = (.ok imports, after))
    (held : HoldsAt home request.imports place
      (some (Text.encodeUtf8 (file.prettyText ++ "\n"))) after.files) :
    ∃ final, (request.run settings).perform tools desk = (.ok "", final) ∧
      final.files.contents? place = some (Text.encodeUtf8 (file.prettyText ++ "\n")) := by
  have loaded := stored_of_holdsAt sound.toShaped sound.readable held
  rw [sound.reread_self] at loaded
  obtain ⟨files, wrote⟩ := Store.writeBytes_of_contents held.leads held.contents slash
    (Text.encodeUtf8 (file.prettyText ++ "\n"))
  refine ⟨{ after with files }, run_ok found loaded ?_,
    Store.written_contents (Store.written_of_writeBytes wrote) held.leads⟩
  rw [ImportsFile.append_listed once listed]
  exact wrote

end

/--
The imports file is updated as a whole or not at all, by tools that leave it alone and if it lies
outside the scratch directory. After a failure it holds what it held. After a success it lists what
it listed and then the new imports, each once and where it came first, and its other members are as
they were, up to numbers that are read as others where they were printed. Where all numbers read
back, a run also succeeds that sees the same again, and the file holds the same bytes after it.
-/
theorem run_updates (request : ImportRequest) (settings : Settings) {tools : Tools} (desk : Desk)
    (spared : tools.Spare (destination desk.files.home request.imports))
    (outside : ¬ destination desk.files.home settings.scratch <+:
      destination desk.files.home request.imports) :
    match (request.run settings).perform tools desk with
    | (.error _, after) =>
      after.files.contents? (destination desk.files.home request.imports) =
        desk.files.contents? (destination desk.files.home request.imports)
    | (.ok stdout, after) =>
      stdout = "" ∧ ∃ previous imports resolved,
        request.Updates settings tools desk after previous imports resolved ∧
        ((∀ held ∈ previous.others, held.2.Every NumberReadable) →
          (ImportsFile.load request.imports).perform tools after =
            (.ok ⟨previous.others.map fun held => (held.1, held.2.reread),
              (previous.fragments ++ imports).eraseDups⟩, after)) ∧
        ((∀ held ∈ previous.others, held.2.Every NumberReadsBack) →
          (ImportsFile.load request.imports).perform tools after =
            (.ok ⟨previous.others, (previous.fragments ++ imports).eraseDups⟩, after) ∧
          ∃ seen, request.Sees settings tools desk seen resolved ∧
            ∀ again calls resolved',
              again.Spare (destination desk.files.home request.imports) →
              again.SpareWay request.imports →
              (∀ passed, Crosses desk.files.home request.imports passed →
                destination desk.files.home settings.scratch <+: passed →
                  passed = destination desk.files.home settings.scratch) →
              request.Sees settings again ⟨after.files, calls⟩ seen resolved' →
              ∃ final, (request.run settings).perform again ⟨after.files, calls⟩ =
                  (.ok "", final) ∧
                final.files.contents? (destination desk.files.home request.imports) =
                  after.files.contents? (destination desk.files.home request.imports)) := by
  generalize spot : destination desk.files.home request.imports = place at spared outside ⊢
  have safe := @Resolver.safe_holds (resolverOf settings) tools desk.files.home place
    (desk.files.contents? place) spared outside
  have held := maintains_resolution safe request desk ⟨rfl, rfl⟩
  rcases ran : (request.run settings).perform tools desk with ⟨outcome, after⟩
  obtain ⟨failure, rfl, rfl⟩ |
    ⟨rfl, imports, resolved, previous, files, found, loaded, wrote, rfl⟩ := run_cases ran
  · exact held.contents
  · rw [found] at held
    dsimp only at held ⊢
    have written := Store.written_of_writeBytes wrote
    obtain ⟨slash, place', -, leads, leaf, -⟩ := Store.writeBytes_ok wrote
    obtain rfl : place' = place := by
      rw [(Store.resolve_ok leads).2, held.home, spot]
    have load := ImportsFile.perform_load request.imports tools resolved
    rw [loaded] at load
    have updates : request.Updates settings tools desk { resolved with files } previous imports
        resolved := ⟨found, by rw [spot]; exact held.contents, load, written⟩
    have shaped : (previous.append imports).Shaped := by
      rw [ImportsFile.stored_eq leads leaf] at loaded
      exact (ImportsFile.shaped_of_contents loaded).append (resolution_valid found)
    have heldAt : HoldsAt desk.files.home request.imports place'
        (some (Text.encodeUtf8 ((previous.append imports).prettyText ++ "\n"))) files :=
      ⟨⟨written.home.trans held.home, Store.written_contents written leads⟩,
        written.leads place' leads⟩
    refine ⟨rfl, previous, imports, resolved, updates, fun numbers => ?_, fun numbers => ?_⟩
    · rw [ImportsFile.perform_load, stored_of_holdsAt shaped numbers heldAt,
        ← distinct_eq_eraseDups]
      rfl
    · have sound : (previous.append imports).Sound := ⟨shaped, numbers⟩
      constructor
      · rw [ImportsFile.perform_load, stored_of_holdsAt shaped sound.readable heldAt,
          sound.reread_self, ← distinct_eq_eraseDups]
        rfl
      · obtain ⟨seen, sees, repeats⟩ := resolution_again found
        refine ⟨seen, sees, fun again calls resolved' spared' passable way sees' => ?_⟩
        have found' := repeats _ _ _ sees'
        have safe' := @Resolver.safe_holdsAt (resolverOf settings) again desk.files.home place'
          (some (Text.encodeUtf8 ((previous.append imports).prettyText ++ "\n"))) request.imports
          spared' passable outside way
        have held' := maintains_resolution safe' request ⟨files, calls⟩ heldAt
        rw [found'] at held'
        have once : (previous.append imports).fragments.Nodup := nodup_distinct _
        have listed : ∀ fragment ∈ imports, fragment ∈ (previous.append imports).fragments :=
          fun fragment member => mem_distinct.mpr (List.mem_append_right _ member)
        obtain ⟨final, run, contents⟩ := run_listed sound once listed slash found' held'
        exact ⟨final, run, contents.trans heldAt.contents.symm⟩

def craneReport : ToolOutput :=
  ⟨some 0, "iss: did:x509:abc\nfeed: contoso/infra\npayload:\nsvn := \"7\"\n", ""⟩

def idleTools : Tools := fun _ files _ => (.ok craneReport, files)

def craneSettings : Settings :=
  ⟨⟨"sign1util", 60⟩, ⟨"oras", 120⟩, "ES384", fragmentArtifactType, "work"⟩

def craneRequest : ImportRequest := ⟨.signed "crane.cose", "5", "imports.json"⟩

def craneDesk (content : String) : Desk :=
  ⟨⟨⟨[], []⟩, [(["crane.cose"], .file [] false),
    (["imports.json"], .file (Text.encodeUtf8 content) false)]⟩, []⟩

def craneLedger : String :=
  "\x7b\"fragments\":\x7b\"issuer\":\"a\",\"feed\":\"b\"," ++
    "\"minimum_svn\":\"1\",\"includes\":[]\x7d,\"k\":1\x7d"

theorem idleTools_spare (place : Place) : idleTools.Spare place := fun _ _ _ => ⟨rfl, rfl⟩

theorem idleTools_spareWay (path : String) : idleTools.SpareWay path := fun _ _ _ _ leads => leads

theorem run_crane : idleTools.Spare ["imports.json"] ∧ ¬ ["work"] <+: ["imports.json"] ∧
    ∃ after listed final,
      (craneRequest.run craneSettings).perform idleTools
        (craneDesk craneLedger) = (.ok "", after) ∧
      (ImportsFile.load "imports.json").perform idleTools after = (.ok listed, after) ∧
      listed.fragments =
        [⟨"a", "b", "1", []⟩, ⟨"did:x509:abc", "contoso/infra", "5", []⟩] ∧
      listed.others.map (fun held => (held.1, held.2.compactText)) = [("k", "1")] ∧
      (craneRequest.run craneSettings).perform idleTools ⟨after.files, []⟩ = (.ok "", final) ∧
      final.files.contents? ["imports.json"] = after.files.contents? ["imports.json"] := by
  have outside : ¬ ["work"] <+: ["imports.json"] := by decide
  have there : destination [] "imports.json" = ["imports.json"] := by decide +kernel
  have scratch : destination [] "work" = ["work"] := by decide +kernel
  obtain ⟨succeeds, fetched⟩ : ((craneRequest.run craneSettings).perform idleTools
      (craneDesk craneLedger)).1.toOption = some "" ∧
    ((craneRequest.run craneSettings).perform idleTools
      (craneDesk craneLedger)).2.files.isFile "crane.cose" = true := by decide +kernel
  obtain ⟨imports, found, new⟩ := exists_ok ((craneRequest.resolution craneSettings).perform
    idleTools (craneDesk craneLedger)).1 id
    [⟨"did:x509:abc", "contoso/infra", "5", []⟩] (by decide +kernel)
  obtain ⟨former, loaded, old⟩ := exists_ok ((ImportsFile.load "imports.json").perform idleTools
    ((craneRequest.resolution craneSettings).perform idleTools
      (craneDesk craneLedger)).2).1
    (fun file => (file.fragments, file.others.map fun held => (held.1, held.2.compactText),
      decide (∀ held ∈ file.others, held.2.Every NumberReadsBack)))
    ([⟨"a", "b", "1", []⟩], [("k", "1")], true) (by decide +kernel)
  refine ⟨idleTools_spare _, outside, ?_⟩
  generalize start : craneDesk craneLedger = desk at succeeds fetched found loaded
  have home : desk.files.home = [] := by rw [← start]; rfl
  have apart : ¬ destination desk.files.home craneSettings.scratch <+:
      destination desk.files.home craneRequest.imports := by
    rw [home]
    change ¬ destination [] "work" <+: destination [] "imports.json"
    rwa [there, scratch]
  have updated := run_updates craneRequest craneSettings desk (idleTools_spare _) apart
  rcases ran : (craneRequest.run craneSettings).perform idleTools desk with
    ⟨failure | stdout, after⟩
  · rw [ran] at succeeds
    cases succeeds
  · rw [ran] at updated fetched
    obtain ⟨rfl, previous, imports', resolved, updates, -, back⟩ := updated
    rw [updates.found] at found loaded
    cases found
    have known : (ImportsFile.load "imports.json").perform idleTools resolved =
        (.ok previous, resolved) := updates.loaded
    rw [known] at loaded
    cases loaded
    obtain ⟨listed, others, numbers⟩ : former.fragments = _ ∧ _ = _ ∧ _ = _ := by
      simpa only [Prod.mk.injEq] using old
    obtain ⟨kept, seen, sees, rerun⟩ := back (of_decide_eq_true numbers)
    have way : ∀ passed, Crosses desk.files.home craneRequest.imports passed →
        destination desk.files.home craneSettings.scratch <+: passed →
          passed = destination desk.files.home craneSettings.scratch :=
      fun passed crosses below => absurd below
        (@Resolver.way_of_down (resolverOf craneSettings) desk.files.home _ (by decide +kernel)
          apart passed crosses)
    cases sees with
    | image source => cases source
    | signed source helped seen =>
        cases source
        cases seen with
        | intro present check =>
            cases helped
            cases check
            obtain ⟨final, second, same⟩ := rerun idleTools [] _ (idleTools_spare _)
              (idleTools_spareWay _) way (.signed rfl rfl (.intro fetched rfl))
            refine ⟨after, _, final, rfl, kept, ?_, others, second, ?_⟩
            · change (former.fragments ++ imports).eraseDups = _
              rw [listed, show imports = _ from new]
              decide +kernel
            · rw [home] at same
              change final.files.contents? (destination [] "imports.json") =
                after.files.contents? (destination [] "imports.json") at same
              rwa [there] at same

/-- Tools that list some fragments, fetch each by the same name, and do some work on the files. -/
def galleryTools (listing : String) (work : ToolCall → Store → Store) : Tools :=
  fun _ files call =>
    (.ok (match call.args.head? with
      | some "discover" => ⟨some 0, listing, ""⟩
      | some "pull" => ⟨some 0, "Downloaded crane.cose\n", ""⟩
      | _ => craneReport), work call files)

def barrenTools : Tools :=
  galleryTools "\x7b\"manifests\": [\x7b\"digest\": \"sha256:ab\"\x7d]\x7d" fun _ files => files

/-- Fetches into the scratch directory, and leaves a file there where the first directory was. -/
def litter (call : ToolCall) (files : Store) : Store :=
  if call.args = ["pull", "contoso.azurecr.io/app@sha256:cd"] then
    files.put ["work", "sha256-cd", "crane.cose"] (.file [] false)
  else if call.args = ["pull", "contoso.azurecr.io/app@sha256:ab"] then
    files.put ["work", "sha256-ab", "crane.cose"] (.file [] false)
  else if call.args = ["check", "--in", "work/sha256-ab/crane.cose", "--verbose"] then
    files.put ["work", "sha256-cd"] (.file [] false)
  else files

def litteringTools : Tools :=
  galleryTools ("\x7b\"manifests\": [\x7b\"digest\": \"sha256:cd\"\x7d, " ++
    "\x7b\"digest\": \"sha256:ab\"\x7d]\x7d") litter

theorem litteringTools_spare : litteringTools.Spare ["imports.json"] := by
  have kept {files : Store} {place : Place} (inner : place ≠ [])
      (other : ["imports.json"] ≠ place) :
      (files.put place (.file [] false)).home = files.home ∧
        (files.put place (.file [] false)).contents? ["imports.json"] =
          files.contents? ["imports.json"] :=
    ⟨Store.put_home _ _, Store.contents?_of_entry (by rw [Store.entry?_put inner, if_neg other])⟩
  intro calls files call
  dsimp only [litteringTools, galleryTools, litter]
  split
  · exact kept (by decide) (by decide)
  · split
    · exact kept (by decide) (by decide)
    · split
      · exact kept (by decide) (by decide)
      · exact ⟨rfl, rfl⟩

def galleryRequest : ImportRequest := ⟨.image "contoso.azurecr.io/app:1", "5", "imports.json"⟩

def emptyTools : Tools := galleryTools "\x7b\"manifests\": []\x7d" fun _ files => files

def driftingDesk : Desk := craneDesk "\x7b\"ratio\": 0.9009411281481518\x7d"

def leftoverDesk : Desk :=
  ⟨⟨⟨[], []⟩, [(["work"], .directory), (["work", "sha256-ab"], .directory),
    (["work", "sha256-ab", "crane.cose"], .file [] false)]⟩, []⟩

def bareDesk : Desk := ⟨⟨⟨[], []⟩, []⟩, []⟩

def firstRun (request : ImportRequest) (tools : Tools) (desk : Desk) :
    Except Failure String × Desk := (request.run craneSettings).perform tools desk

def secondRun (request : ImportRequest) (tools : Tools) (desk : Desk) :
    Except Failure String × Desk :=
  firstRun request tools ⟨(firstRun request tools desk).2.files, []⟩

/--
A second run with the same tools changes a number that is read as another one where it was printed.
It fails where the first one took a file that was left over in the scratch directory, or where the
tools left a file in the way of a directory.
-/
theorem run_unrepeatable :
    (emptyTools.Spare ["imports.json"] ∧
      (firstRun galleryRequest emptyTools driftingDesk).1.toOption = some "" ∧
      (secondRun galleryRequest emptyTools driftingDesk).1.toOption = some "" ∧
      (secondRun galleryRequest emptyTools driftingDesk).2.files.contents? ["imports.json"] ≠
        (firstRun galleryRequest emptyTools driftingDesk).2.files.contents? ["imports.json"]) ∧
    (barrenTools.Spare ["imports.json"] ∧
      (firstRun galleryRequest barrenTools leftoverDesk).1.toOption = some "" ∧
      (secondRun galleryRequest barrenTools leftoverDesk).1.toOption = none) ∧
    (litteringTools.Spare ["imports.json"] ∧
      (firstRun galleryRequest litteringTools bareDesk).1.toOption = some "" ∧
      (secondRun galleryRequest litteringTools bareDesk).1.toOption = none) := by
  refine ⟨⟨fun _ _ _ => ⟨rfl, rfl⟩, ?_⟩, ⟨fun _ _ _ => ⟨rfl, rfl⟩, ?_⟩, litteringTools_spare, ?_⟩
  · decide +kernel
  · decide +kernel
  · decide +kernel

end ImportRequest

end CommandLine

end Enforcement
