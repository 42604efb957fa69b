import Enforcement.Proofs.Files.Child
import Enforcement.Proofs.Files.Writing
import Enforcement.Proofs.Policy.Header
import Enforcement.Proofs.Policy.Signing

/-!
A fragment that is written, signed and published: what comes of it, which tools are called, and what
each call rests on. Nothing is signed before it was written, and nothing is published unsigned.
-/

namespace Enforcement.FragmentRequest

open Enforcement.Files Enforcement.Text

def rego (request : FragmentRequest) : String :=
  join request.outputDirectory (request.package ++ ".rego")

def signRequest (request : FragmentRequest) (material : SigningMaterial) (feed issuer : String) :
    SignRequest :=
  ⟨request.rego, material.key, material.chain, some feed, some issuer, material.algorithm,
    envelopePath request.rego⟩

/-- All that is done before a tool is called; it gives the feed. -/
def write (request : FragmentRequest) (policy : Policy) : Job String := do
  if request.publication.isSome && request.signing.isNone then
    Job.fail (.input .publishWithoutSigning)
  let feed ← request.feedFor policy
  let text ← Rego.renderFragment policy request.package request.svn
  Job.createDirectories request.outputDirectory
  Job.writeText request.rego text
  return feed

def sign (request : FragmentRequest) (signer : Signer) (registry : Registry)
    (material : SigningMaterial) (feed : String) : Job FragmentFiles := do
  let issuer ← signer.createIssuer material.chain
  let signed ← signer.sign (request.signRequest material feed issuer)
  publish registry signed request.publication
  return ⟨request.rego, some signed, feed, some issuer⟩

theorem generate_eq (request : FragmentRequest) (signer : Signer) (registry : Registry)
    (policy : Policy) :
    request.generate signer registry policy = (do
      let feed ← request.write policy
      match request.signing with
      | none => return ⟨request.rego, none, feed, none⟩
      | some material => request.sign signer registry material feed) := by
  unfold generate write
  cases request.publication.isSome && request.signing.isNone with
  | true => rfl
  | false =>
    simp only [Bool.false_eq_true, if_false, bind_assoc, pure_bind]
    rfl

inductive Writes (request : FragmentRequest) (policy : Policy) (desk : Desk) :
    Except Error String → Desk → Prop
  | unsigned (sense : (request.publication.isSome && request.signing.isNone) = true) :
      Writes request policy desk (.error (.input .publishWithoutSigning)) desk
  | noFeed {fault : Error}
      (sense : (request.publication.isSome && request.signing.isNone) = false)
      (named : request.feedFor policy = .error fault) :
      Writes request policy desk (.error fault) desk
  | unrendered {feed : String} {fault : Error}
      (sense : (request.publication.isSome && request.signing.isNone) = false)
      (named : request.feedFor policy = .ok feed)
      (rendered : Rego.renderFragment policy request.package request.svn = .error fault) :
      Writes request policy desk (.error fault) desk
  | noDirectory {feed text : String} {fault : Fault} {made : Desk}
      (sense : (request.publication.isSome && request.signing.isNone) = false)
      (named : request.feedFor policy = .ok feed)
      (rendered : Rego.renderFragment policy request.package request.svn = .ok text)
      (directory : desk.make request.outputDirectory = (.error fault, made)) :
      Writes request policy desk (.error (.file request.outputDirectory fault)) made
  | unwritten {feed text : String} {fault : Fault} {made : Desk}
      (sense : (request.publication.isSome && request.signing.isNone) = false)
      (named : request.feedFor policy = .ok feed)
      (rendered : Rego.renderFragment policy request.package request.svn = .ok text)
      (directory : desk.make request.outputDirectory = (.ok (), made))
      (wrote : made.files.writeText request.rego text = .error fault) :
      Writes request policy desk (.error (.file request.rego fault)) made
  | written {feed text : String} {made : Desk} {files : Store}
      (sense : (request.publication.isSome && request.signing.isNone) = false)
      (named : request.feedFor policy = .ok feed)
      (rendered : Rego.renderFragment policy request.package request.svn = .ok text)
      (directory : desk.make request.outputDirectory = (.ok (), made))
      (wrote : made.files.writeText request.rego text = .ok files) :
      Writes request policy desk (.ok feed) { made with files }

theorem Writes.calls_eq {request : FragmentRequest} {policy : Policy} {desk after : Desk}
    {result : Except Error String} (writes : Writes request policy desk result after) :
    after.calls = desk.calls := by
  have start := desk.make_calls request.outputDirectory
  cases writes with
  | unsigned sense => rfl
  | noFeed sense named => rfl
  | unrendered sense named rendered => rfl
  | noDirectory sense named rendered directory => rwa [directory] at start
  | unwritten sense named rendered directory wrote => rwa [directory] at start
  | written sense named rendered directory wrote => rwa [directory] at start

theorem perform_write (request : FragmentRequest) (policy : Policy) (tools : Tools) (desk : Desk)
    (result : Except Error String) (after : Desk) :
    (request.write policy).perform tools desk = (result, after) ↔
      Writes request policy desk result after := by
  unfold write
  have sound {feed text : String}
      (sense : (request.publication.isSome && request.signing.isNone) = false)
      (named : request.feedFor policy = .ok feed)
      (rendered : Rego.renderFragment policy request.package request.svn = .ok text) :
      (request.write policy).perform tools desk = (do
        Job.createDirectories request.outputDirectory
        Job.writeText request.rego text
        return feed : Job String).perform tools desk := by
    unfold write
    rw [sense]
    dsimp only
    rw [if_neg Bool.false_ne_true, Job.perform_bind, Job.perform_lift, named]
    dsimp only
    rw [Job.perform_bind, Job.perform_lift, rendered]
  apply eq_iff_of_total
  · intro result after writes
    cases writes with
    | unsigned sense =>
        rw [sense]
        rfl
    | noFeed sense named =>
        rw [sense]
        dsimp only
        rw [if_neg Bool.false_ne_true, Job.perform_bind, Job.perform_lift, named]
    | unrendered sense named rendered =>
        rw [sense]
        dsimp only
        rw [if_neg Bool.false_ne_true, Job.perform_bind, Job.perform_lift, named]
        dsimp only
        rw [Job.perform_bind, Job.perform_lift, rendered]
    | noDirectory sense named rendered directory =>
        refine (sound sense named rendered).trans ?_
        rw [Job.perform_bind, Job.perform_createDirectories, directory]
        rfl
    | unwritten sense named rendered directory wrote =>
        refine (sound sense named rendered).trans ?_
        rw [Job.perform_bind, Job.perform_createDirectories, directory]
        dsimp only [mapError_ok]
        rw [Job.perform_bind, Job.perform_writeText, wrote]
    | written sense named rendered directory wrote =>
        refine (sound sense named rendered).trans ?_
        rw [Job.perform_bind, Job.perform_createDirectories, directory]
        dsimp only [mapError_ok]
        rw [Job.perform_bind, Job.perform_writeText, wrote]
        rfl
  · cases sense : request.publication.isSome && request.signing.isNone with
    | true => exact ⟨_, _, .unsigned sense⟩
    | false =>
        cases named : request.feedFor policy with
        | error fault => exact ⟨_, _, .noFeed sense named⟩
        | ok feed =>
            cases rendered : Rego.renderFragment policy request.package request.svn with
            | error fault => exact ⟨_, _, .unrendered sense named rendered⟩
            | ok text =>
                rcases directory : desk.make request.outputDirectory with ⟨fault | done, made⟩
                · exact ⟨_, _, .noDirectory sense named rendered directory⟩
                · cases wrote : made.files.writeText request.rego text with
                  | error fault => exact ⟨_, _, .unwritten sense named rendered directory wrote⟩
                  | ok files => exact ⟨_, _, .written sense named rendered directory wrote⟩

inductive Delivers (request : FragmentRequest) (signer : Signer) (registry : Registry)
    (tools : Tools) (material : SigningMaterial) (feed : String) (written : Desk) :
    List ToolCall → Except Error FragmentFiles → Desk → Prop
  | unissued {calls : List ToolCall} {fault : Error} {after : Desk}
      (issue : signer.Issues tools material.chain written calls (.error fault) after) :
      Delivers request signer registry tools material feed written calls (.error fault) after
  | unsigned {issuer : String} {calls last : List ToolCall} {fault : Error} {issued after : Desk}
      (issue : signer.Issues tools material.chain written calls (.ok issuer) issued)
      (sign : signer.Signs tools (request.signRequest material feed issuer) issued last
        (.error fault) after) :
      Delivers request signer registry tools material feed written (calls ++ last) (.error fault)
        after
  | signed {issuer envelope : String} {calls last : List ToolCall} {issued after : Desk}
      (kept : request.publication = none)
      (issue : signer.Issues tools material.chain written calls (.ok issuer) issued)
      (sign : signer.Signs tools (request.signRequest material feed issuer) issued last
        (.ok envelope) after) :
      Delivers request signer registry tools material feed written (calls ++ last)
        (.ok ⟨request.rego, some envelope, feed, some issuer⟩) after
  | unpublished {publication : Publication} {issuer envelope : String}
      {calls more last : List ToolCall} {fault : Error} {issued signed after : Desk}
      (wanted : request.publication = some publication)
      (issue : signer.Issues tools material.chain written calls (.ok issuer) issued)
      (sign : signer.Signs tools (request.signRequest material feed issuer) issued more
        (.ok envelope) signed)
      (publish : registry.Publishes tools publication envelope signed last (.error fault) after) :
      Delivers request signer registry tools material feed written (calls ++ more ++ last)
        (.error fault) after
  | published {publication : Publication} {issuer envelope : String}
      {calls more last : List ToolCall} {issued signed after : Desk}
      (wanted : request.publication = some publication)
      (issue : signer.Issues tools material.chain written calls (.ok issuer) issued)
      (sign : signer.Signs tools (request.signRequest material feed issuer) issued more
        (.ok envelope) signed)
      (publish : registry.Publishes tools publication envelope signed last (.ok ()) after) :
      Delivers request signer registry tools material feed written (calls ++ more ++ last)
        (.ok ⟨request.rego, some envelope, feed, some issuer⟩) after

section

variable {request : FragmentRequest} {signer : Signer} {registry : Registry} {policy : Policy}
  {tools : Tools} {material : SigningMaterial} {feed : String} {desk written after : Desk}
  {calls : List ToolCall} {result : Except Error FragmentFiles}

theorem Delivers.calls_eq
    (delivers : Delivers request signer registry tools material feed written calls result after) :
    after.calls = written.calls ++ calls := by
  cases delivers with
  | unissued issue => exact issue.calls_eq
  | unsigned issue sign => rw [sign.calls_eq, issue.calls_eq, List.append_assoc]
  | signed kept issue sign => rw [sign.calls_eq, issue.calls_eq, List.append_assoc]
  | unpublished wanted issue sign publish =>
      rw [publish.calls_eq, sign.calls_eq, issue.calls_eq, List.append_assoc, List.append_assoc,
        List.append_assoc]
  | published wanted issue sign publish =>
      rw [publish.calls_eq, sign.calls_eq, issue.calls_eq, List.append_assoc, List.append_assoc,
        List.append_assoc]

theorem sign_unissued {fault : Error}
    (issue : signer.Issues tools material.chain written calls (.error fault) after) :
    (request.sign signer registry material feed).perform tools written = (.error fault, after) := by
  unfold sign
  rw [Job.perform_bind, (Signer.perform_createIssuer ..).mpr ⟨_, issue⟩]

theorem sign_unsigned {issuer : String} {issued : Desk} {last : List ToolCall} {fault : Error}
    (issue : signer.Issues tools material.chain written calls (.ok issuer) issued)
    (signs : signer.Signs tools (request.signRequest material feed issuer) issued last
      (.error fault) after) :
    (request.sign signer registry material feed).perform tools written = (.error fault, after) := by
  unfold sign
  rw [Job.perform_bind, (Signer.perform_createIssuer ..).mpr ⟨_, issue⟩]
  dsimp only
  rw [Job.perform_bind, (Signer.perform_sign ..).mpr ⟨_, signs⟩]

theorem sign_signed {issuer envelope : String} {issued signed : Desk} {last : List ToolCall}
    (issue : signer.Issues tools material.chain written calls (.ok issuer) issued)
    (signs : signer.Signs tools (request.signRequest material feed issuer) issued last
      (.ok envelope) signed) :
    (request.sign signer registry material feed).perform tools written =
      (do
        publish registry envelope request.publication
        return ⟨request.rego, some envelope, feed, some issuer⟩ :
          Job FragmentFiles).perform tools signed := by
  unfold sign
  rw [Job.perform_bind, (Signer.perform_createIssuer ..).mpr ⟨_, issue⟩]
  dsimp only
  rw [Job.perform_bind, (Signer.perform_sign ..).mpr ⟨_, signs⟩]

end

theorem perform_sign (request : FragmentRequest) (signer : Signer) (registry : Registry)
    (tools : Tools) (material : SigningMaterial) (feed : String) (written : Desk)
    (result : Except Error FragmentFiles) (after : Desk) :
    (request.sign signer registry material feed).perform tools written = (result, after) ↔
      ∃ calls, Delivers request signer registry tools material feed written calls result after := by
  apply eq_iff_of_total
  · intro result after given
    obtain ⟨calls, delivers⟩ := given
    cases delivers with
    | unissued issue => exact sign_unissued issue
    | unsigned issue sign => exact sign_unsigned issue sign
    | signed kept issue sign =>
        rw [sign_signed issue sign, kept]
        rfl
    | unpublished wanted issue sign publish =>
        rw [sign_signed issue sign, wanted, Job.perform_bind,
          (Registry.perform_publish ..).mpr ⟨_, publish⟩]
    | published wanted issue sign publish =>
        rw [sign_signed issue sign, wanted, Job.perform_bind,
          (Registry.perform_publish ..).mpr ⟨_, publish⟩]
        rfl
  · obtain ⟨issuing, issued, calls, issue⟩ : ∃ issuing issued calls,
        signer.Issues tools material.chain written calls issuing issued :=
      ⟨_, _, (signer.perform_createIssuer tools material.chain written _ _).mp rfl⟩
    rcases issuing with fault | issuer
    · exact ⟨_, _, _, .unissued issue⟩
    · obtain ⟨signing, signed, more, sign⟩ : ∃ signing signed more,
          signer.Signs tools (request.signRequest material feed issuer) issued more signing
            signed :=
        ⟨_, _, (signer.perform_sign tools _ issued _ _).mp rfl⟩
      rcases signing with fault | envelope
      · exact ⟨_, _, _, .unsigned issue sign⟩
      · cases wanted : request.publication with
        | none => exact ⟨_, _, _, .signed wanted issue sign⟩
        | some publication =>
            obtain ⟨publishing, after, last, publish⟩ : ∃ publishing after last,
                registry.Publishes tools publication envelope signed last publishing after :=
              ⟨_, _, (registry.perform_publish tools publication envelope signed _ _).mp rfl⟩
            rcases publishing with fault | ⟨⟩
            · exact ⟨_, _, _, .unpublished wanted issue sign publish⟩
            · exact ⟨_, _, _, .published wanted issue sign publish⟩

/-- How a request ends, and the calls that were made for it. -/
inductive Generates (request : FragmentRequest) (signer : Signer) (registry : Registry)
    (policy : Policy) (tools : Tools) (desk : Desk) :
    List ToolCall → Except Error FragmentFiles → Desk → Prop
  | unwritten {fault : Error} {after : Desk}
      (write : Writes request policy desk (.error fault) after) :
      Generates request signer registry policy tools desk [] (.error fault) after
  | written {feed : String} {after : Desk} (unsigned : request.signing = none)
      (write : Writes request policy desk (.ok feed) after) :
      Generates request signer registry policy tools desk [] (.ok ⟨request.rego, none, feed, none⟩)
        after
  | delivered {material : SigningMaterial} {feed : String} {written after : Desk}
      {calls : List ToolCall} {result : Except Error FragmentFiles}
      (signing : request.signing = some material)
      (write : Writes request policy desk (.ok feed) written)
      (deliver : Delivers request signer registry tools material feed written calls result after) :
      Generates request signer registry policy tools desk calls result after

theorem Generates.calls_eq {request : FragmentRequest} {signer : Signer} {registry : Registry}
    {policy : Policy} {tools : Tools} {desk after : Desk} {calls : List ToolCall}
    {result : Except Error FragmentFiles}
    (generates : Generates request signer registry policy tools desk calls result after) :
    after.calls = desk.calls ++ calls := by
  cases generates with
  | unwritten write => rw [write.calls_eq, List.append_nil]
  | written unsigned write => rw [write.calls_eq, List.append_nil]
  | delivered signing write deliver => rw [deliver.calls_eq, write.calls_eq]

theorem perform_generate (request : FragmentRequest) (signer : Signer) (registry : Registry)
    (policy : Policy) (tools : Tools) (desk : Desk) (result : Except Error FragmentFiles)
    (after : Desk) :
    (request.generate signer registry policy).perform tools desk = (result, after) ↔
      ∃ calls, Generates request signer registry policy tools desk calls result after := by
  rw [generate_eq, Job.perform_bind]
  apply eq_iff_of_total
  · intro result after given
    obtain ⟨calls, generates⟩ := given
    cases generates with
    | unwritten write => rw [(perform_write ..).mpr write]
    | written unsigned write =>
        rw [(perform_write ..).mpr write]
        dsimp only
        rw [unsigned]
        rfl
    | delivered signing write deliver =>
        rw [(perform_write ..).mpr write]
        dsimp only
        rw [signing]
        exact (perform_sign ..).mpr ⟨_, deliver⟩
  · obtain ⟨writing, written, write⟩ : ∃ writing written,
        Writes request policy desk writing written :=
      ⟨_, _, (perform_write request policy tools desk _ _).mp rfl⟩
    rcases writing with fault | feed
    · exact ⟨_, _, _, .unwritten write⟩
    · cases signing : request.signing with
      | none => exact ⟨_, _, _, .written signing write⟩
      | some material =>
          obtain ⟨result, after, calls, deliver⟩ : ∃ result after calls,
              Delivers request signer registry tools material feed written calls result after :=
            ⟨_, _, (perform_sign request signer registry tools material feed written _ _).mp rfl⟩
          exact ⟨_, _, _, .delivered signing write deliver⟩

/-- How far the calls for a written fragment went, and what the later ones of them rest on. -/
inductive Progress (request : FragmentRequest) (signer : Signer) (registry : Registry)
    (tools : Tools) (material : SigningMaterial) (feed : String) (written : Desk) :
    List ToolCall → Prop
  | none : Progress request signer registry tools material feed written []
  | issuer : Progress request signer registry tools material feed written
      [signer.issuerCall material.chain]
  | create {report : ToolOutput} {issued : Desk}
      (answer : written.ask tools (signer.issuerCall material.chain) = (.ok report, issued))
      (exit : report.exit = some 0) (mark : issuerMark <+: (trimmed report.stdout).toList) :
      Progress request signer registry tools material feed written
        [signer.issuerCall material.chain,
          signer.createCall (request.signRequest material feed (trimmed report.stdout))]
  | publish {report receipt : ToolOutput} {issued signed : Desk} {publication : Publication}
      {reference : ImageReference} {name : String}
      (answer : written.ask tools (signer.issuerCall material.chain) = (.ok report, issued))
      (exit : report.exit = some 0) (mark : issuerMark <+: (trimmed report.stdout).toList)
      (created : issued.ask tools (signer.createCall
        (request.signRequest material feed (trimmed report.stdout))) = (.ok receipt, signed))
      (signedExit : receipt.exit = some 0) (wanted : request.publication = some publication)
      (parsed : ImageReference.parse publication.target = .ok reference)
      (last : fileName? (envelopePath request.rego) = some name) :
      Progress request signer registry tools material feed written
        [signer.issuerCall material.chain,
          signer.createCall (request.signRequest material feed (trimmed report.stdout)),
          registry.publishCall publication reference
            (Registry.workingDirectory (envelopePath request.rego))
            (name ++ ":" ++ fragmentMediaType)]

section

variable {request : FragmentRequest} {signer : Signer} {registry : Registry} {policy : Policy}
  {tools : Tools} {material : SigningMaterial} {feed : String} {desk written after : Desk}
  {calls : List ToolCall}

theorem Progress.of_sign {issuer : String} {more : List ToolCall} {issued signed : Desk}
    {envelope : Except Error String}
    (issue : signer.Issues tools material.chain written calls (.ok issuer) issued)
    (sign : signer.Signs tools (request.signRequest material feed issuer) issued more envelope
      signed) : Progress request signer registry tools material feed written (calls ++ more) := by
  cases issue with
  | issued chain call marked =>
      cases call with
      | done answer exit =>
          have mark := List.isPrefixOf_iff_prefix.mp marked
          cases sign with
          | missing absent => exact .issuer
          | failed present call => exact .create answer exit mark
          | signed present call => exact .create answer exit mark

theorem Progress.of_publish {publication : Publication} {issuer envelope : String}
    {more last : List ToolCall} {issued signed : Desk} {result : Except Error Unit}
    (wanted : request.publication = some publication)
    (issue : signer.Issues tools material.chain written calls (.ok issuer) issued)
    (sign : signer.Signs tools (request.signRequest material feed issuer) issued more
      (.ok envelope) signed)
    (publish : registry.Publishes tools publication envelope signed last result after) :
    Progress request signer registry tools material feed written (calls ++ more ++ last) := by
  have before : Progress request signer registry tools material feed written (calls ++ more) :=
    .of_sign issue sign
  cases issue with
  | issued chain call marked =>
      cases call with
      | done answer exit =>
          have mark := List.isPrefixOf_iff_prefix.mp marked
          cases sign with
          | signed present call =>
              cases call with
              | done created signedExit =>
                  cases publish with
                  | noReference parsed => exact before
                  | missing parsed absent => exact before
                  | unnamed parsed there last => exact before
                  | failed parsed there last call =>
                      exact .publish answer exit mark created signedExit wanted parsed last
                  | published parsed there last call =>
                      exact .publish answer exit mark created signedExit wanted parsed last

theorem Delivers.progress {result : Except Error FragmentFiles}
    (delivers : Delivers request signer registry tools material feed written calls result after) :
    Progress request signer registry tools material feed written calls := by
  cases delivers with
  | unissued issue =>
      cases issue with
      | missing absent => exact .none
      | failed present call => exact .issuer
      | unmarked present call mark => exact .issuer
  | unsigned issue sign => exact .of_sign issue sign
  | signed kept issue sign => exact .of_sign issue sign
  | unpublished wanted issue sign publish => exact .of_publish wanted issue sign publish
  | published wanted issue sign publish => exact .of_publish wanted issue sign publish

theorem Delivers.claims {files : FragmentFiles}
    (delivers : Delivers request signer registry tools material feed written calls (.ok files)
      after) :
    files.rego = request.rego ∧ files.feed = feed ∧
      files.signed = some (envelopePath request.rego) ∧ ∃ issuer, files.issuer = some issuer ∧
        signer.createCall (request.signRequest material feed issuer) ∈ calls := by
  cases delivers with
  | signed kept issue sign =>
      cases sign with
      | signed present call => exact ⟨rfl, rfl, rfl, _, rfl, by simp⟩
  | published wanted issue sign publish =>
      cases sign with
      | signed present call => exact ⟨rfl, rfl, rfl, _, rfl, by simp⟩

theorem Progress.verbs
    (progress : Progress request signer registry tools material feed written calls) :
    ∃ verb ∈ ["attach", "push"],
      calls.filterMap (·.args.head?) <+: ["did:x509", "create", verb] := by
  cases progress with
  | none => exact ⟨"push", by simp, List.nil_prefix⟩
  | issuer => exact ⟨"push", by simp, ["create", "push"], rfl⟩
  | create answer exit mark => exact ⟨"push", by simp, ["push"], rfl⟩
  | @publish _ _ _ _ publication _ _ answer exit mark created signedExit wanted parsed last =>
      cases publication with
      | attachTo image => exact ⟨"attach", by simp, [], rfl⟩
      | pushTo destination => exact ⟨"push", by simp, [], rfl⟩

theorem feedFor_error_iff : (∃ fault, request.feedFor policy = .error fault) ↔
    request.feed = none ∧ policy.containers = [] := by
  unfold feedFor
  cases request.feed with
  | some feed => simp
  | none =>
      cases policy.containers with
      | nil => simp
      | cons container containers => simp

theorem Writes.of_refused
    (refused : request.publication.isSome = true ∧ request.signing = none ∨
      request.feed = none ∧ policy.containers = [] ∨
      request.package = "" ∨ ¬ Rego.Unbroken request.package.toList ∨
      ∃ fault, Svn.parse request.svn = .error fault) :
    ∃ fault, Writes request policy desk (.error fault) desk := by
  cases sense : request.publication.isSome && request.signing.isNone with
  | true => exact ⟨_, .unsigned sense⟩
  | false =>
      cases named : request.feedFor policy with
      | error fault => exact ⟨fault, .noFeed sense named⟩
      | ok feed =>
          cases rendered : Rego.renderFragment policy request.package request.svn with
          | error fault => exact ⟨fault, .unrendered sense named rendered⟩
          | ok text =>
              obtain ⟨filled, unbroken, ⟨value, parsed⟩, -⟩ :=
                Rego.renderFragment_ok_iff.mp rendered
              rcases refused with ⟨wanted, unsigned⟩ | unnamed | empty | broken | ⟨fault, invalid⟩
              · simp [wanted, unsigned] at sense
              · obtain ⟨fault, missing⟩ := feedFor_error_iff.mpr unnamed
                cases named.symm.trans missing
              · exact absurd empty filled
              · exact absurd unbroken broken
              · cases parsed.symm.trans invalid

theorem Writes.rendered (writes : Writes request policy desk (.ok feed) after) :
    request.feedFor policy = .ok feed ∧ ∃ text,
      Rego.renderFragment policy request.package request.svn = .ok text ∧
      after.files.readText request.rego = .ok text := by
  cases writes with
  | @written _ text _ _ sense named rendered directory wrote =>
      have read := (Store.written_of_writeBytes wrote).read
      exact ⟨named, text, rendered, Store.readText_of_readBytes read (readUtf8?_encodeUtf8 text)⟩

end

theorem destination_workingDirectory {path name : String} (last : fileName? path = some name)
    (home : Place) : destination home path =
      (Registry.workingDirectory path).elim home (destination home) ++ [name] := by
  obtain ⟨parent, upper⟩ := parent?_of_fileName? last
  rw [(childPath_of_fileName? last upper).destination_eq, Registry.workingDirectory, upper]
  by_cases empty : parent = ""
  · rw [empty]
    rfl
  · rw [Option.filter_some, if_pos (by simpa using empty)]
    rfl

/--
A request ends as its rules say, and the first failure ends it. The tools are called in one order:
for the issuer, for the signature, for the publication. The signature is asked for when the chain of
certificates gave an issuer that is marked as one, and it carries that issuer, the feed and the file
with the rendered text; the publication is asked for when the signature was given, for the envelope
by its name in the directory that it lies in. Without signing material no tool is called, and a
request that makes no sense changes nothing.
-/
theorem generate_outcome (request : FragmentRequest) (signer : Signer) (registry : Registry)
    (policy : Policy) (tools : Tools) (desk : Desk) :
    (∀ result after,
      (request.generate signer registry policy).perform tools desk = (result, after) ↔
        ∃ calls, Generates request signer registry policy tools desk calls result after) ∧
    (∀ material feed issuer, (request.signRequest material feed issuer).args =
      ["create", "-algo", material.algorithm.name, "-chain", material.chain, "-claims",
        request.rego, "-key", material.key, "-salt", "zero", "-content-type",
        "application/unknown+rego", "-out", envelopePath request.rego, "-feed", feed, "-issuer",
        issuer]) ∧
    (∀ calls result after,
      Generates request signer registry policy tools desk calls result after →
        after.calls = desk.calls ++ calls ∧ (request.signing = none → calls = []) ∧
        (∃ verb ∈ ["attach", "push"],
          calls.filterMap (·.args.head?) <+: ["did:x509", "create", verb]) ∧
        (calls ≠ [] → ∃ material feed written, request.signing = some material ∧
          Writes request policy desk (.ok feed) written ∧
          request.feedFor policy = .ok feed ∧
          (∃ text, Rego.renderFragment policy request.package request.svn = .ok text ∧
            written.files.readText request.rego = .ok text) ∧
          Progress request signer registry tools material feed written calls) ∧
        ∀ files, result = .ok files → files.rego = request.rego ∧
          request.feedFor policy = .ok files.feed ∧
          (request.signing = none ∧ files.signed = none ∧ files.issuer = none ∨
            ∃ material issuer, request.signing = some material ∧
              files.signed = some (envelopePath request.rego) ∧ files.issuer = some issuer ∧
              signer.createCall (request.signRequest material files.feed issuer) ∈ calls)) ∧
    (∀ path name, fileName? path = some name → ∀ home, destination home path =
      (Registry.workingDirectory path).elim home (destination home) ++ [name]) ∧
    (request.publication.isSome = true ∧ request.signing = none ∨
      request.feed = none ∧ policy.containers = [] ∨
      request.package = "" ∨ ¬ Rego.Unbroken request.package.toList ∨
      (∃ fault, Svn.parse request.svn = .error fault) →
      ∃ fault, (request.generate signer registry policy).perform tools desk =
        (.error fault, desk)) := by
  refine ⟨request.perform_generate signer registry policy tools desk, fun _ _ _ => rfl, ?_,
    fun _ _ => destination_workingDirectory, ?_⟩
  · intro calls result after generates
    refine ⟨generates.calls_eq, ?_⟩
    cases generates with
    | unwritten write => exact ⟨fun _ => rfl, ⟨"push", by simp, List.nil_prefix⟩, by simp, nofun⟩
    | written unsigned write =>
        refine ⟨fun _ => rfl, ⟨"push", by simp, List.nil_prefix⟩, by simp, ?_⟩
        intro files same
        cases same
        exact ⟨rfl, write.rendered.1, .inl ⟨unsigned, rfl, rfl⟩⟩
    | @delivered material feed written _ _ _ signing write deliver =>
        obtain ⟨named, rendered⟩ := write.rendered
        refine ⟨?_, deliver.progress.verbs, ?_, ?_⟩
        · intro unsigned
          rw [signing] at unsigned
          cases unsigned
        · intro _
          exact ⟨material, feed, written, signing, write, named, rendered, deliver.progress⟩
        · intro files same
          subst same
          obtain ⟨rego, fed, signed, issuer, issued, claimed⟩ := deliver.claims
          rw [fed]
          exact ⟨rego, named, .inr ⟨material, issuer, signing, signed, issued, claimed⟩⟩
  · intro refused
    obtain ⟨fault, writes⟩ := @Writes.of_refused _ _ desk refused
    exact ⟨fault, (perform_generate ..).mpr ⟨_, .unwritten writes⟩⟩

def attached : FragmentRequest :=
  ⟨"shop", "1", some "contoso/shop", "out", some ⟨"key.pem", "chain.pem", .es384⟩,
    some (.attachTo "contoso.azurecr.io/app:1")⟩

def signingDesk : Desk :=
  ⟨⟨⟨[], []⟩, [(["key.pem"], .file [] false), (["chain.pem"], .file [] false)]⟩, []⟩

def signingTools : Tools := fun _ files call =>
  match call.args with
  | "did:x509" :: _ => (.ok ⟨some 0, "did:x509:0:sha256:abc\n", ""⟩, files)
  | "create" :: _ =>
    match call.args[14]?.map files.resolve with
    | some (.ok place) => (.ok ⟨some 0, "", ""⟩, files.put place (.file [] false))
    | _ => (.error (.notStarted call.program ""), files)
  | _ => (.ok ⟨some 0, "", ""⟩, files)

def oras : Registry := ⟨⟨"oras", 60⟩, fragmentArtifactType⟩

def signUtility : Signer := ⟨⟨"sign1util", 60⟩⟩

theorem generate_attached :
    (∃ files after, (attached.generate signUtility oras ⟨[], []⟩).perform signingTools signingDesk =
        (.ok files, after) ∧
      files = ⟨"out/shop.rego", some "out/shop.rego.cose", "contoso/shop",
        some "did:x509:0:sha256:abc"⟩ ∧
      after.calls.filterMap (·.args.head?) = ["did:x509", "create", "attach"] ∧
      ∃ material, attached.signing = some material ∧ signUtility.createCall
        (attached.signRequest material "contoso/shop" "did:x509:0:sha256:abc") ∈ after.calls) ∧
    ∃ fault, (FragmentRequest.generate { attached with signing := none } signUtility oras
      ⟨[], []⟩).perform signingTools signingDesk = (.error fault, signingDesk) := by
  constructor
  · obtain ⟨files, after, run, seen⟩ := Job.exists_run
      ((attached.generate signUtility oras ⟨[], []⟩).perform signingTools signingDesk)
      (fun files after => (files, after.calls.filterMap (·.args.head?)))
      (⟨"out/shop.rego", some "out/shop.rego.cose", "contoso/shop",
        some "did:x509:0:sha256:abc"⟩, ["did:x509", "create", "attach"]) (by decide +kernel)
    obtain ⟨same, verbs⟩ := Prod.mk.inj seen
    have outcome := generate_outcome attached signUtility oras ⟨[], []⟩ signingTools signingDesk
    obtain ⟨calls, generates⟩ := (outcome.1 _ _).mp run
    obtain ⟨all, -, -, -, success⟩ := outcome.2.2.1 _ _ _ generates
    refine ⟨files, after, run, same, verbs, ?_⟩
    obtain ⟨-, -, claims⟩ := success files rfl
    subst same
    rcases claims with ⟨unsigned, -⟩ | ⟨material, issuer, signing, -, issued, created⟩
    · cases unsigned
    · cases issued
      rw [all]
      exact ⟨material, signing, created⟩
  · exact (generate_outcome { attached with signing := none } signUtility oras ⟨[], []⟩
      signingTools signingDesk).2.2.2.2 (.inl ⟨rfl, rfl⟩)

end Enforcement.FragmentRequest
