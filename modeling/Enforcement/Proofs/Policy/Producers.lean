import Enforcement.Proofs.Imports.Observation
import Enforcement.Proofs.Policy.FragmentList
import Enforcement.Proofs.Trust.VersionNumber

/-!
Where fragment imports come from: entries of documents, verified fragments, imports files, templates
and specification files. Whatever the source, the import is well-formed, and a well-formed import is
read back from the document that it is written as.
-/

namespace Enforcement

open Enforcement.Consulting Enforcement.Json Enforcement.Template

namespace Svn

theorem parse?_isSome_iff {text : String} : (parse? text).isSome = true ↔
    text ≠ "" ∧ (∀ c ∈ text.toList, c.isDigit = true) ∧
      Nat.ofDigits 10 (text.toList.reverse.map fun c => c.toNat - '0'.toNat) < 2 ^ 64 := by
  rw [Option.isSome_iff_exists]
  constructor
  · rintro ⟨value, read⟩
    obtain ⟨⟨filled, digits, rfl⟩, bounded⟩ := parse?_eq_some_iff.mp read
    exact ⟨filled, digits, bounded⟩
  · rintro ⟨filled, digits, bounded⟩
    exact ⟨_, parse?_eq_some_iff.mpr ⟨⟨filled, digits, rfl⟩, bounded⟩⟩

end Svn

namespace Contribution

def rank : Contribution → Nat
  | containers => 0
  | fragments => 1

theorem sublist_all_iff {contributions : List Contribution} :
    contributions.Sublist all ↔ contributions.Pairwise (·.rank < ·.rank) := by
  constructor
  · intro sorted
    exact List.Pairwise.sublist sorted (by decide)
  · intro increasing
    match contributions, increasing with
    | [], _ => exact List.nil_sublist _
    | [first], _ => cases first <;> decide
    | [first, second], increasing =>
        revert increasing
        cases first <;> cases second <;> decide
    | first :: second :: third :: rest, increasing =>
        -- Two ranks leave no room for three contributions.
        obtain ⟨before, increasing⟩ := List.pairwise_cons.mp increasing
        have lower := before second List.mem_cons_self
        have upper := (List.pairwise_cons.mp increasing).1 third List.mem_cons_self
        have bound : third.rank < 2 := by cases third <;> decide
        omega

end Contribution

/-- The minimum is a version in decimal digits, and what may be added is in order, each once. -/
structure FragmentImport.WellFormed (fragment : FragmentImport) : Prop where
  filled : fragment.minimumSvn ≠ ""
  digits : ∀ c ∈ fragment.minimumSvn.toList, c.isDigit = true
  bounded : Nat.ofDigits 10
    (fragment.minimumSvn.toList.reverse.map fun c => c.toNat - '0'.toNat) < 2 ^ 64
  increasing : fragment.includes.Pairwise (·.rank < ·.rank)

theorem FragmentImport.valid_iff_wellFormed {fragment : FragmentImport} :
    fragment.Valid ↔ fragment.WellFormed := by
  constructor
  · intro valid
    obtain ⟨filled, digits, bounded⟩ := Svn.parse?_isSome_iff.mp valid.minimum
    exact ⟨filled, digits, bounded, Contribution.sublist_all_iff.mp valid.includes⟩
  · intro wellFormed
    exact ⟨Svn.parse?_isSome_iff.mpr ⟨wellFormed.filled, wellFormed.digits, wellFormed.bounded⟩,
      Contribution.sublist_all_iff.mpr wellFormed.increasing⟩

/-- A file of imports that was read, or was empty, with well-formed imports appended to it. -/
inductive ImportsFile.Kept : ImportsFile → Prop
  | empty : Kept empty
  | read {document : Value} {file : ImportsFile} (accepted : ofValue document = .ok file) :
      Kept file
  | append {file : ImportsFile} {imports : List FragmentImport} (kept : Kept file)
      (wellFormed : ∀ added ∈ imports, added.WellFormed) : Kept (file.append imports)

namespace FragmentImport

inductive Produced : FragmentImport → Prop
  | declared {entry : Value} {fragment : FragmentImport} (read : ofValue entry = .ok fragment) :
      Produced fragment
  | stated {verified : VerifiedFragment} {minimum : String} {fragment : FragmentImport}
      (trusted : verified.importStatement minimum = .ok fragment) : Produced fragment
  | signed {resolver : Resolver} {path minimum : String} {tools : Tools} {desk after : Desk}
      {fragment : FragmentImport}
      (run : (resolver.resolvePath path minimum).perform tools desk = (.ok fragment, after)) :
      Produced fragment
  | attached {resolver : Resolver} {image minimum : String} {tools : Tools} {desk after : Desk}
      {imports : List FragmentImport} {fragment : FragmentImport}
      (run : (resolver.resolveAll image minimum).perform tools desk = (.ok imports, after))
      (member : fragment ∈ imports) : Produced fragment
  | kept {file : ImportsFile} {fragment : FragmentImport} (kept : file.Kept)
      (member : fragment ∈ file.fragments) : Produced fragment
  | built {approver : WildcardApprover} {options : BuildOptions} {pulled : List FragmentImport}
      {evaluated : Evaluated} {policies : List Policy} {policy : Policy}
      {fragment : FragmentImport} (wellFormed : ∀ given ∈ pulled, given.WellFormed)
      (run : (Policy.ofTemplate approver options pulled evaluated).outcome.1 = .ok policies)
      (listed : policy ∈ policies) (member : fragment ∈ policy.fragments) : Produced fragment
  | specified {approver : WildcardApprover} {options : BuildOptions} {document : Value}
      {policy : Policy} {fragment : FragmentImport}
      (run : (Policy.ofSpecFile approver options document).outcome.1 = .ok policy)
      (member : fragment ∈ policy.fragments) : Produced fragment

end FragmentImport

theorem VerifiedFragment.valid_of_importStatement {verified : VerifiedFragment} {minimum : String}
    {fragment : FragmentImport} (trusted : verified.importStatement minimum = .ok fragment) :
    fragment.Valid := by
  unfold importStatement at trusted
  split at trusted
  · rename_i version
    cases trusted
    exact ⟨version, List.filter_sublist⟩
  · cases trusted

theorem ImportsFile.Kept.valid {file : ImportsFile} (kept : file.Kept) :
    ∀ listed ∈ file.fragments, listed.Valid := by
  induction kept with
  | empty => nofun
  | read accepted =>
      obtain ⟨members, -, read, -⟩ := ofValue_ok accepted
      exact valid_of_readFragments read
  | append _ wellFormed ih =>
      intro listed member
      rcases List.mem_append.mp (mem_distinct.mp member) with former | added
      · exact ih listed former
      · exact FragmentImport.valid_iff_wellFormed.mpr (wellFormed listed added)

namespace Policy

theorem valid_standaloneFragments {properties : Value} {standalone : List FragmentImport}
    (read : standaloneFragments properties = .ok standalone) :
    ∀ listed ∈ standalone, listed.Valid := by
  unfold standaloneFragments at read
  split at read
  · cases read
    nofun
  · exact FragmentImport.valid_of_mapM read
  · cases read

theorem valid_listedFragments {document : Value} {fragments : List FragmentImport}
    (read : listedFragments document = .ok fragments) : ∀ listed ∈ fragments, listed.Valid := by
  unfold listedFragments at read
  split at read
  · cases read
    nofun
  · exact FragmentImport.valid_of_mapM read
  · cases read

variable {approver : WildcardApprover} {options : BuildOptions} {pulled : List FragmentImport}
  {before after : List WildcardQuestion}

theorem valid_externalFragments
    (version : ∀ svn, options.infrastructureSvn = some svn → ∃ value, Svn.parse svn = .ok value)
    (valid : ∀ given ∈ pulled, given.Valid) (resource : Value) :
    ∀ listed ∈ externalFragments options pulled resource, listed.Valid := by
  have infrastructure : (Defaults.infrastructureFragment options.infrastructureSvn).Valid := by
    refine ⟨?_, List.filter_sublist⟩
    cases given : options.infrastructureSvn with
    | none => exact rfl
    | some svn =>
        obtain ⟨value, parsed⟩ := version svn given
        change (Svn.parse? svn).isSome = true
        unfold Svn.parse at parsed
        cases read : Svn.parse? svn with
        | none =>
            rw [read] at parsed
            cases parsed
        | some found => rfl
  unfold externalFragments
  split
  · nofun
  · split
    · exact valid
    · exact List.forall_mem_cons.mpr ⟨infrastructure, valid⟩

theorem valid_of_ofTemplate {evaluated : Evaluated} {policies : List Policy}
    (done : Gives (ofTemplate approver options pulled evaluated) before policies after)
    (valid : ∀ given ∈ pulled, given.Valid) :
    ∀ policy ∈ policies, ∀ listed ∈ policy.fragments, listed.Valid := by
  have version := fun svn given => @version_of_gives _ _ _ _ _ _ _ done svn given
  obtain ⟨resources, -, groups⟩ := groups_of_gives done
  intro policy member
  obtain ⟨resource, -, earlier, later, group⟩ :=
    forall₂_source (gives_each groups) policy member
  obtain ⟨properties, standalone, -, -, own, fragments⟩ := parts_of_gives group
  intro listed inside
  rw [fragments, mem_distinct, List.mem_append] at inside
  rcases inside with external | standing
  · exact valid_externalFragments version valid resource listed external
  · exact valid_standaloneFragments own listed standing

theorem valid_of_ofSpecFile {document : Value} {policy : Policy}
    (done : Gives (ofSpecFile approver options document) before policy after) :
    ∀ listed ∈ policy.fragments, listed.Valid := by
  obtain ⟨fragments, read, own⟩ := listed_of_gives done
  intro listed member
  rw [own, mem_distinct] at member
  exact valid_listedFragments read listed member

end Policy

namespace FragmentImport

theorem Produced.valid {fragment : FragmentImport} (produced : Produced fragment) :
    fragment.Valid := by
  cases produced with
  | declared read => exact valid_of_ofValue read
  | stated trusted => exact VerifiedFragment.valid_of_importStatement trusted
  | signed run => exact Resolver.resolvePath_valid run
  | attached run member => exact Resolver.resolveAll_valid run _ member
  | kept kept member => exact kept.valid _ member
  | built wellFormed run listed member =>
      exact Policy.valid_of_ofTemplate (Prod.ext run rfl)
        (fun given pulled => valid_iff_wellFormed.mpr (wellFormed given pulled)) _ listed _ member
  | specified run member => exact Policy.valid_of_ofSpecFile (Prod.ext run rfl) _ member

theorem read_compactText (fragment : FragmentImport) :
    Value.read fragment.toValue.compactText = .ok (ImportsFile.sortedEntry fragment) := by
  have text (content : String) : (Value.string content).Every NumberReadable :=
    (@Value.every_leaf _ (.string content) rfl).mpr trivial
  have includes : (Value.array (fragment.includes.map (.string ·.name))).Every NumberReadable := by
    refine Value.every_array.mpr ⟨trivial, fun item member => ?_⟩
    obtain ⟨contribution, -, rfl⟩ := List.mem_map.mp member
    exact text contribution.name
  have numbers : fragment.toValue.Every NumberReadable := by
    refine Value.every_object.mpr ⟨trivial, ?_⟩
    simp only [List.forall_mem_cons]
    exact ⟨text _, text _, text _, includes, nofun⟩
  have names : Value.rereadItems (fragment.includes.map (.string ·.name)) =
      fragment.includes.map (.string ·.name) := by
    refine Value.rereadItems_self fun item member => ?_
    obtain ⟨contribution, -, rfl⟩ := List.mem_map.mp member
    rfl
  have shallow : fragment.toValue.nesting < depthLimit := by
    have flat : Value.nestingOfItems (fragment.includes.map (.string ·.name)) ≤ 0 := by
      refine Value.nestingOfItems_le.mpr fun item member => ?_
      obtain ⟨contribution, -, rfl⟩ := List.mem_map.mp member
      exact Nat.le_refl 0
    simp [toValue, Value.nesting, Value.nestingOfMembers, Nat.le_zero.mp flat, depthLimit]
  rw [Value.read, Value.compactText, String.toList_ofList, readText_printed numbers shallow]
  rw [toValue, Value.reread, ImportsFile.sortedEntry, toValue]
  simp only [Value.rereadMembers, Value.reread, names, Value.members?, Option.getD_some,
    List.foldl_cons, List.foldl_nil]

/--
Every import is well-formed that is declared, stated for a verified fragment, found with an image,
kept in a file, or listed in a policy; and each such import is read where it was written, as it is
and from its text.
-/
theorem produced_wellFormed :
    (∀ fragment, Produced fragment → fragment.WellFormed) ∧
    ∀ fragment : FragmentImport, fragment.WellFormed → ofValue fragment.toValue = .ok fragment ∧
      ∃ document, Value.read fragment.toValue.compactText = .ok document ∧
        ofValue document = .ok fragment := by
  constructor
  · exact fun fragment produced => valid_iff_wellFormed.mp produced.valid
  · intro fragment wellFormed
    have valid := valid_iff_wellFormed.mpr wellFormed
    exact ⟨ofValue_toValue valid, _, read_compactText fragment, ofValue_sortedEntry valid⟩

def depot : Evaluated where
  document := .object [("resources", .array [.object [
    ("name", .string "depot"),
    ("properties", .object [
      ("confidentialComputeProperties", .object [("standaloneFragments", .array [.object [
        ("feed", .string "depot.example/crane"),
        ("includes", .array [.string "fragments", .string "containers", .string "fragments"]),
        ("issuer", .string "did:web:depot"), ("minimumSvn", .number (.whole 3))]])]),
      ("containers", .array [.object [("image", .string "depot:1"), ("name", .string "web")]])]),
    ("type", .string "Microsoft.ContainerInstance/containerGroups")]])]

theorem produced_depot : ∃ policies,
    (Policy.ofTemplate (fun _ => false) ⟨false, false, false, some "007", false⟩
      [ImportsFile.quayImport] depot).outcome.1 = .ok policies ∧
    policies.map (·.fragments.map fun listed => (listed.minimumSvn, listed.includes)) =
      [[("007", [.containers, .fragments]), ("07", [.containers, .fragments]),
        ("3", [.containers, .fragments])]] ∧
    (∀ policy ∈ policies, ∀ listed ∈ policy.fragments, listed.WellFormed) ∧
    ofValue ImportsFile.quayImport.toValue = .ok ImportsFile.quayImport := by
  obtain ⟨policies, built, fragments⟩ := exists_ok
    (Policy.ofTemplate (fun _ => false) ⟨false, false, false, some "007", false⟩
      [ImportsFile.quayImport] depot).outcome.1
    (·.map (·.fragments.map fun listed => (listed.minimumSvn, listed.includes)))
    [[("007", [.containers, .fragments]), ("07", [.containers, .fragments]),
      ("3", [.containers, .fragments])]] (by decide +kernel)
  have quay : ImportsFile.quayImport.WellFormed :=
    valid_iff_wellFormed.mp ⟨by decide +kernel, by decide⟩
  refine ⟨policies, built, fragments, fun policy member listed inside => ?_,
    (produced_wellFormed.2 _ quay).1⟩
  exact produced_wellFormed.1 listed
    (.built (List.forall_mem_singleton.mpr quay) built member inside)

end FragmentImport

end Enforcement
