import Enforcement.Proofs.Imports.Resolution
import Enforcement.Proofs.Policy.Header
import Enforcement.Proofs.Trust.VerifierOutput

/-!
From the author of a fragment to the one who imports it: what was rendered and signed is imported
for every minimum up to its own version, and for no other.
-/

namespace Enforcement

open Enforcement.Text

section Rendered

variable {policy : Policy} {package svn text : String}

/-- A mention of a version takes a colon. -/
theorem Rego.svnText?_none {text : String} (unsigned : ':' ∉ text.toList) :
    svnText? text = none := by
  cases found : svnText? text with
  | none => rfl
  | some version =>
      obtain ⟨mention, first, -⟩ := svnText?_iff.mp found
      rw [first.split] at unsigned
      exact absurd (by simp [Mention.tail]) unsigned

theorem Rego.listRules_infix (rendered : renderFragment policy package svn = .ok text) :
    (listRules policy).toList <:+: text.toList := by
  obtain ⟨-, -, -, same⟩ := renderFragment_ok_iff.mp rendered
  have behind : (listRules policy).toList <:+ (fragmentVersion policy svn).after :=
    (List.suffix_append _ _).trans ((List.suffix_append _ _).trans (List.suffix_append _ _))
  have version : (fragmentVersion policy svn).after <:+ fragmentBody policy svn := by
    refine ⟨'\n' :: '\n' :: ("svn := \"".toList ++ svn.toList ++ ['"']), ?_⟩
    simp [fragmentBody, Mention.tail, fragmentVersion]
  rw [same]
  exact ((behind.trans version).trans
    ((List.suffix_append _ _).trans (List.suffix_append _ _))).isInfix

theorem Rego.rule_infix (policy : Policy) (contribution : Contribution) :
    (contribution.name ++ " :=").toList <:+: (listRules policy).toList := by
  cases contribution with
  | containers =>
      refine ⟨("fragments := " ++ (fragmentsValue policy.fragments).prettyText ++ "\n\n").toList,
        (" " ++ (containersValue policy.containers).prettyText ++ "\n").toList, ?_⟩
      simp [listRules, Contribution.name]
  | fragments =>
      refine ⟨[], (" " ++ (fragmentsValue policy.fragments).prettyText ++ "\n\ncontainers := " ++
        (containersValue policy.containers).prettyText ++ "\n").toList, ?_⟩
      simp [listRules, Contribution.name]

theorem VerifiedFragment.contributions_rendered (issuer feed : String)
    (rendered : Rego.renderFragment policy package svn = .ok text) :
    (⟨issuer, feed, text⟩ : VerifiedFragment).contributions = Contribution.all :=
  List.filter_eq_self.mpr fun contribution _ =>
    occursIn_iff.mpr ((Rego.rule_infix policy contribution).trans (Rego.listRules_infix rendered))

theorem VerifiedFragment.ensureMinimum_rendered {issuer feed minimum : String} {least version : Nat}
    (rendered : Rego.renderFragment policy package svn = .ok text)
    (quiet : Rego.svnText? package = none) (given : Svn.parse svn = .ok version)
    (parsed : Svn.parse minimum = .ok least) :
    (⟨issuer, feed, text⟩ : VerifiedFragment).ensureMinimum minimum =
      if version < least then .error (.trust (.belowMinimum feed version least))
      else .ok version := by
  have declared := Rego.svnText?_renderFragment rendered
  rw [quiet, Option.getD_none] at declared
  unfold ensureMinimum
  rw [parsed]
  dsimp only [bind, Except.bind]
  rw [declared]
  dsimp only
  rw [given]
  rfl

end Rendered

namespace Resolver

variable {policy : Policy} {package svn text issuer feed path minimum : String}
  {further : List String} {resolver : Resolver} {tools : Tools} {desk after : Desk}

theorem perform_verify_report (issuerLine : VerifierOutput.Bare issuer.toList)
    (feedLine : VerifierOutput.Bare feed.toList)
    (others : ∀ line ∈ further, VerifierOutput.Quiet line.toList)
    (check : (resolver.signer.check path).perform tools desk =
      (.ok (VerifierOutput.report issuer feed further text), after)) :
    (resolver.signer.verify path).perform tools desk = (.ok ⟨issuer, feed, text⟩, after) := by
  unfold Signer.verify
  rw [Job.perform_bind, check]
  dsimp only
  rw [VerifierOutput.parse_report text issuerLine feedLine others]
  rfl

/--
What was rendered, signed and verified is imported exactly for the minima up to its own version. A
higher one is told which version was found.
-/
theorem resolvePath_rendered
    (letters : ∀ c ∈ package.toList, c.isAlphanum = true ∨ c = '_' ∨ c = '.')
    (rendered : Rego.renderFragment policy package svn = .ok text)
    (issuerLine : VerifierOutput.Bare issuer.toList)
    (feedLine : VerifierOutput.Bare feed.toList)
    (others : ∀ line ∈ further, VerifierOutput.Quiet line.toList)
    (check : (resolver.signer.check path).perform tools desk =
      (.ok (VerifierOutput.report issuer feed further text), after)) :
    ∃ version, Svn.parse svn = .ok version ∧
      (resolver.resolvePath path minimum).perform tools desk =
        match Svn.parse minimum with
        | .error failure => (.error failure, desk)
        | .ok least =>
          if least ≤ version then (.ok ⟨issuer, feed, minimum, [.containers, .fragments]⟩, after)
          else (.error (.trust (.belowMinimum feed version least)), after) := by
  obtain ⟨-, -, ⟨version, given⟩, -⟩ := Rego.renderFragment_ok_iff.mp rendered
  have unsigned : ':' ∉ package.toList := by
    intro member
    rcases letters ':' member with letter | other | other
    · cases letter
    · cases other
    · cases other
  have verify := perform_verify_report issuerLine feedLine others check
  refine ⟨version, given, ?_⟩
  unfold resolvePath
  rw [Job.perform_bind, Job.perform_lift]
  cases parsed : Svn.parse minimum with
  | error failure => rfl
  | ok least =>
      have gate := @VerifiedFragment.ensureMinimum_rendered _ _ _ _ issuer feed _ _ _ rendered
        (Rego.svnText?_none unsigned) given parsed
      dsimp only
      by_cases enough : least ≤ version
      · rw [if_neg (Nat.not_lt.mpr enough)] at gate
        rw [if_pos enough, importFile_accepted verify gate, VerifiedFragment.statement,
          VerifiedFragment.contributions_rendered issuer feed rendered]
        rfl
      · rw [if_pos (Nat.lt_of_not_le enough)] at gate
        rw [if_neg enough, importFile_stale verify gate]

def signedDesk : Desk := ⟨⟨⟨[], []⟩, [(["infra.cose"], .file [] false)]⟩, []⟩

def printing (report : String) : Tools := fun _ files _ => (.ok ⟨some 0, report, ""⟩, files)

theorem check_printing (report : String) :
    (contoso.signer.check "/infra.cose").perform (printing report) signedDesk =
      (.ok report, ⟨signedDesk.files, [contoso.signer.checkCall "/infra.cose"]⟩) := by
  have present : signedDesk.files.isFile "/infra.cose" = true := by decide +kernel
  unfold Signer.check
  rw [Job.perform_bind, Job.perform_requireFile, present]
  rfl

theorem resolvePath_infra : ∃ text after,
    Rego.renderFragment Rego.quotingPolicy "infra" "7" = .ok text ∧
      (contoso.resolvePath "/infra.cose" "5").perform (printing (VerifierOutput.report
        "did:x509:abc" "contoso/infra" ["cty: text"] text)) signedDesk =
          (.ok ⟨"did:x509:abc", "contoso/infra", "5", [.containers, .fragments]⟩, after) ∧
      (contoso.resolvePath "/infra.cose" "8").perform (printing (VerifierOutput.report
        "did:x509:abc" "contoso/infra" ["cty: text"] text)) signedDesk =
          (.error (.trust (.belowMinimum "contoso/infra" 7 8)), after) := by
  obtain ⟨text, rendered, -⟩ := exists_ok (Rego.renderFragment Rego.quotingPolicy "infra" "7")
    (fun _ => ()) () (by decide +kernel)
  have issuerLine : VerifierOutput.Bare "did:x509:abc".toList := ⟨by decide, by decide +kernel⟩
  have feedLine : VerifierOutput.Bare "contoso/infra".toList := ⟨by decide, by decide +kernel⟩
  have others : ∀ line ∈ ["cty: text"], VerifierOutput.Quiet line.toList := by
    intro line member
    rw [List.mem_singleton.mp member]
    exact ⟨by decide, by decide +kernel⟩
  have letters : ∀ c ∈ "infra".toList, c.isAlphanum = true ∨ c = '_' ∨ c = '.' := by simp
  have imports (minimum : String) := @resolvePath_rendered _ _ _ _ _ _ _ minimum _ _ _ _ _
    letters rendered issuerLine feedLine others (check_printing _)
  obtain ⟨version, given, enough⟩ := imports "5"
  obtain ⟨same, given', stale⟩ := imports "8"
  have seven : Svn.parse "7" = .ok 7 := rfl
  rw [seven] at given given'
  cases given
  cases given'
  exact ⟨text, _, rendered, enough, stale⟩

end Resolver

end Enforcement
