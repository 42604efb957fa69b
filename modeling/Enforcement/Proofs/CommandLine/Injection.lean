import Enforcement.Proofs.CommandLine.Work
import Enforcement.Proofs.Digest.Base64
import Enforcement.Proofs.Imports.Loading
import Enforcement.Proofs.Policy.Writing

/-!
Policies injected into the template that they were made from. The template is written once, when
all its groups are done, and what is printed are the hashes of the policies that it holds then.
-/

namespace Enforcement

open Enforcement.Digest Enforcement.Files Enforcement.Json Enforcement.Template

namespace Injection

theorem inject_ok {approver : OverwriteApprover} {policies : List String} {document : Value}
    {outcomes : List Outcome} (ordered : document.Ordered)
    (success : (inject approver policies document).result = .ok outcomes) :
    ∃ raw after, listProperty? document "resources" = some raw ∧
      listProperty? (inject approver policies document).document "resources" = some after ∧
      Run approver policies raw outcomes after := by
  obtain ⟨raw, listed, count⟩ := counted_of_success success
  obtain ⟨members, rfl, held⟩ := listed_object listed
  have number : (raw.filter isContainerGroup).length = policies.length := by
    rw [length_filter_eq]
    exact count
  have each : ∀ resource ∈ raw, resource.Ordered :=
    (Value.every_array.mp (ordered_memberFor? ordered held)).2
  have put := @resources_after ⟨members⟩ approver policies raw ordered listed count
  rw [inject_listed approver held number] at success
  rcases injectResources_outcome approver each number with ⟨done, after, run, progress⟩ | stops
  · rw [progress] at success put
    cases success
    exact ⟨raw, after, listed, put, run⟩
  · generalize injectResources approver policies raw = progress at success stops
    cases stops
    cases success

/--
What is printed, next to the texts of the policies and the groups before and after. Each group takes
the next text. A group that has a policy keeps it and is not mentioned; any other one is given the
text, and its line has the hash of the text that is decoded from the policy it has then.
-/
inductive Printed : List String → List Value → List Value → List String → Prop
  | done : Printed [] [] [] []
  | other {texts lines : List String} {resource : Value} {rest after : List Value}
      (single : isContainerGroup resource = false) (printed : Printed texts rest after lines) :
      Printed texts (resource :: rest) (resource :: after) lines
  | kept {text : String} {texts lines : List String} {resource : Value} {rest after : List Value}
      (group : isContainerGroup resource = true) (held : hasPolicy resource = true)
      (printed : Printed texts rest after lines) :
      Printed (text :: texts) (resource :: rest) (resource :: after) lines
  | written {text stored : String} {texts lines : List String} {resource changed : Value}
      {rest after : List Value} (group : isContainerGroup resource = true)
      (free : hasPolicy resource = false) (wrote : Wrote stored resource changed)
      (found : policyOf? changed = some (.string stored))
      (decoded : decodedText? stored = some text)
      (printed : Printed texts rest after lines) :
      Printed (text :: texts) (resource :: rest) (changed :: after)
        ((groupName resource ++ " " ++ textHash text) :: lines)

theorem printed_of_run {texts : List String} {raw after : List Value} {outcomes : List Outcome}
    (run : Run (fun _ => false) (texts.map textBase64) raw outcomes after) :
    Printed texts raw after (CommandLine.writtenLines outcomes texts) := by
  generalize encoded : texts.map textBase64 = policies at run
  induction run generalizing texts with
  | done =>
      cases List.map_eq_nil_iff.mp encoded
      exact .done
  | other single run ih => exact .other single (ih encoded)
  | @group policy policies resource changed rest after outcome outcomes group first run ih =>
      obtain ⟨text, texts, rfl, rfl, following⟩ := List.map_eq_cons_iff.mp encoded
      have later := ih following
      cases first with
      | kept refused =>
          have held : hasPolicy resource = true := by simpa [refuses] using refused
          exact .kept group held later
      | written free wrote found =>
          have fresh : hasPolicy resource = false := by simpa [refuses] using free
          exact .written group fresh wrote found (decodedText?_textBase64 text) later

end Injection

namespace CommandLine

open Enforcement.Injection

/-- What a run leaves that injects some policies into a template, and what it prints. -/
inductive Injected (path : String) (texts : List String) (before : Desk) : Desk → String → Prop
  | intro {content : String} {members : List (String × Value)} {raw after : List Value}
      {outcomes : List Outcome} {lines asked : List String} {document : Value} {files : Store}
      (loaded : before.files.readText path = .ok content)
      (parsed : readJson path content = .ok (.object members))
      (report : inject (fun _ => false) (texts.map textBase64) (.object members) =
        ⟨.ok outcomes, document, asked⟩)
      (listed : listProperty? (.object members) "resources" = some raw)
      (changed : listProperty? document "resources" = some after)
      (printed : Printed texts raw after lines)
      (written : Written path (Text.encodeUtf8 (document.prettyText ++ "\n")) before.files files) :
      Injected path texts before { before with files } (outputLines lines)

theorem loadTemplate_ok {path : String} {tools : Tools} {desk : Desk} {template : Template}
    (loaded : ((Template.load path).perform tools desk).1 = .ok template) :
    ∃ content, desk.files.readText path = .ok content ∧
      readJson path content = .ok template.document := by
  unfold Template.load loadJson at loaded
  rw [Job.perform_bind, Job.perform_bind, Job.perform_readText] at loaded
  cases held : desk.files.readText path with
  | error fault =>
      rw [held] at loaded
      cases loaded
  | ok content =>
      rw [held] at loaded
      dsimp only [Except.mapError] at loaded
      rw [Job.perform_lift] at loaded
      cases parsed : readJson path content with
      | error failure =>
          rw [parsed] at loaded
          cases loaded
      | ok value =>
          rw [parsed] at loaded
          dsimp only at loaded
          rw [Job.perform_lift] at loaded
          refine ⟨content, rfl, ?_⟩
          cases value with
          | object members =>
              cases loaded
              exact parsed
          | null | bool | number | string | array => cases loaded

theorem perform_injectInto (path : String) (policies : List Policy) (debugMode : Bool)
    (tools : Tools) (desk : Desk) :
    match (injectInto path policies debugMode).perform tools desk with
    | (.error _, after) => after = desk
    | (.ok stdout, after) =>
      Injected path (policies.map (Rego.renderPolicy · debugMode)) desk after stdout := by
  unfold injectInto
  extract_lets texts
  rw [Work.perform_bind, Work.perform_job, (quiet_loadTemplate path).perform_eq tools desk]
  cases loaded : ((Template.load path).perform tools desk).1 with
  | error failure => rfl
  | ok template =>
      dsimp only [Except.mapError]
      generalize reported :
        inject (fun _ => false) (texts.map textBase64) template.document = report
      rw [Work.perform_bind, Work.perform_job, Job.perform_lift]
      rcases report with ⟨failure | outcomes, document, asked⟩
      · rfl
      · dsimp only [Except.mapError]
        rw [Work.perform_bind, Work.perform_writeText]
        cases wrote : desk.files.writeText path (document.prettyText ++ "\n") with
        | error fault => rfl
        | ok files =>
            obtain ⟨content, read, parsed⟩ := loadTemplate_ok loaded
            have ordered : template.document.Ordered := ordered_of_readJson parsed
            obtain ⟨raw, after, listed, changed, run⟩ :=
              inject_ok ordered (congrArg Report.result reported)
            rw [reported] at changed
            exact .intro read parsed reported listed changed (printed_of_run run)
              (Store.written_of_writeBytes wrote)

theorem quiet_policies (source : PolicySource) (options : BuildOptions)
    (pulled : List FragmentImport) : Job.Quiet (source.policies options pulled) := by
  cases source with
  | template path parameters =>
      refine (quiet_loadTemplate path).bind fun template => ?_
      have onward (supplied : Supplied) : Job.Quiet (do
          let evaluated ← template.evaluate supplied
          (Policy.ofTemplate (fun _ => false) options pulled evaluated).outcome.1) :=
        (Job.quiet_lift _).bind fun _ => Job.quiet_lift _
      cases parameters with
      | none => exact onward []
      | some path => exact (quiet_loadSupplied path).bind onward
  | specFile path =>
      exact (quiet_loadSpecFile path).bind fun document =>
        (Job.quiet_lift _).bind fun policy => Job.quiet_pure _

namespace PolicyRequest

theorem pulled_quiet (request : PolicyRequest) (tools : Tools) (desk : Desk) :
    request.pulled.perform tools desk = ((request.pulled.perform tools desk).1, desk) := by
  unfold pulled
  cases request.imports with
  | none => rfl
  | some path =>
      dsimp only
      rw [Work.perform_bind, Work.perform_ofJob, ImportsFile.perform_load]
      dsimp only
      cases ImportsFile.stored desk.files path with
      | error failure => rfl
      | ok file => rfl

/--
An injection into a template. When anything fails, no file has changed. Otherwise the template is
the one file that is written: it holds the document that was loaded, with the policies in it, and
for each group that was given one its name and the hash of what it holds now are printed.
-/
theorem run_injection (source : Option PolicySource) (imports : Option String)
    (options : BuildOptions) (tools : Tools) (desk : Desk) :
    match (PolicyRequest.mk source imports options .injection).run.perform tools desk with
    | (.error _, after) => after = desk
    | (.ok stdout, after) => ∃ path parameters pulled policies,
        source = some (.template path parameters) ∧
        ((PolicyRequest.mk source imports options .injection).pulled.perform tools desk).1 =
          .ok pulled ∧
        ((PolicySource.template path parameters).policies options pulled |>.perform tools desk).1 =
          .ok policies ∧
        Injected path (policies.map (Rego.renderPolicy · options.debugMode)) desk after stdout := by
  unfold run
  rw [Work.perform_bind, pulled_quiet]
  let request := PolicyRequest.mk source imports options .injection
  cases read : (request.pulled.perform tools desk).1 with
  | error failure => rfl
  | ok pulled =>
      dsimp only
      cases source with
      | none => rfl
      | some source =>
          dsimp only
          rw [Work.perform_bind, Work.perform_job,
            (quiet_policies source options pulled).perform_eq tools desk]
          cases built : (source.policies options pulled |>.perform tools desk).1 with
          | error failure => rfl
          | ok policies =>
              dsimp only [Except.mapError]
              cases source with
              | specFile path => rfl
              | template path parameters =>
                  dsimp only
                  have injected := perform_injectInto path policies options.debugMode tools desk
                  rcases done : (injectInto path policies options.debugMode).perform tools desk with
                    ⟨failure | stdout, after⟩
                  · rw [done] at injected
                    exact injected
                  · rw [done] at injected
                    exact ⟨path, parameters, pulled, policies, rfl, rfl, built, injected⟩

end PolicyRequest

end CommandLine

end Enforcement
