import Enforcement.Imports.File
import Enforcement.Policy.Decoding
import Enforcement.Proofs.Json.Reading
import Enforcement.Proofs.Policy.Decoding
import Enforcement.Proofs.Policy.Distinct
import Enforcement.Proofs.Template.Lookup
import Mathlib.Data.List.Sublists

/-!
An imports file through appends and rewrites: what is printed is read back as the same file, every
other member of the document stays, and each import is listed once, where it came first.
-/

namespace Enforcement

open Enforcement.Json Enforcement.Template Enforcement.Text

namespace FragmentImport

structure Valid (fragment : FragmentImport) : Prop where
  minimum : (Svn.parse? fragment.minimumSvn).isSome = true
  includes : fragment.includes.Sublist Contribution.all

theorem normalize_of_sublist {contributions : List Contribution}
    (sorted : contributions.Sublist Contribution.all) :
    Contribution.normalize contributions = contributions := by
  have each : ∀ listed ∈ Contribution.all.sublists, Contribution.normalize listed = listed := by
    decide
  exact each contributions (List.mem_sublists.mpr sorted)

theorem valid_of_ofValue {entry : Value} {fragment : FragmentImport}
    (read : ofValue entry = .ok fragment) : fragment.Valid := by
  have parts := ofValue_toOption entry
  rw [read] at parts
  simp only [Except.toOption, Option.pure_def, Option.bind_eq_bind] at parts
  obtain ⟨issuer, -, parts⟩ := Option.bind_eq_some_iff.mp parts.symm
  obtain ⟨feed, -, parts⟩ := Option.bind_eq_some_iff.mp parts
  obtain ⟨minimum, number, parts⟩ := Option.bind_eq_some_iff.mp parts
  obtain ⟨includes, -, parts⟩ := Option.bind_eq_some_iff.mp parts
  cases parts
  exact ⟨(Option.filter_eq_some_iff.mp number).2, List.filter_sublist⟩

theorem valid_of_mapM {entries : List Value} {fragments : List FragmentImport}
    (read : entries.mapM ofValue = .ok fragments) : ∀ fragment ∈ fragments, fragment.Valid := by
  induction entries generalizing fragments with
  | nil =>
      cases read
      nofun
  | cons entry rest ih =>
      rw [List.mapM_cons] at read
      obtain ⟨first, head, read⟩ := bind_ok.mp read
      obtain ⟨others, tail, made⟩ := bind_ok.mp read
      cases made
      exact List.forall_mem_cons.mpr ⟨valid_of_ofValue head, ih tail⟩

theorem sortedEntry_eq (fragment : FragmentImport) : ImportsFile.sortedEntry fragment =
    .object [("feed", .string fragment.feed),
      ("includes", .array (fragment.includes.map (.string ·.name))),
      ("issuer", .string fragment.issuer), ("minimum_svn", .string fragment.minimumSvn)] := by
  have feed : "feed" < "issuer" := by decide
  have minimum : ¬"minimum_svn" < "feed" ∧ ¬"minimum_svn" < "issuer" := by decide
  have includes : ¬"includes" < "feed" ∧ "includes" < "issuer" := by decide
  simp [ImportsFile.sortedEntry, FragmentImport.toValue, Value.members?, insertMember, feed,
    minimum, includes]

theorem ofValue_of_parts {fragment : FragmentImport} (valid : fragment.Valid) {entry : Value}
    (issuer : textProperty? entry "issuer" = some fragment.issuer)
    (feed : textProperty? entry "feed" = some fragment.feed)
    (minimum : minimumText? entry = some fragment.minimumSvn)
    (includes : listProperty? entry "includes" =
      some (fragment.includes.map (Value.string ·.name))) : ofValue entry = .ok fragment := by
  have listed : includes? entry = some fragment.includes := by
    rw [includes?, includes]
    exact @mapM_map_some Contribution Value (Value.string ·.name) _ Contribution.ofName?_name _
  apply ok_of_toOption
  rw [ofValue_toOption, issuer, feed, minimum, Option.filter_some, if_pos valid.minimum, listed]
  simp only [Option.bind_eq_bind, Option.bind_some, Option.pure_def, normalized,
    normalize_of_sublist valid.includes]

theorem ofValue_sortedEntry {fragment : FragmentImport} (valid : fragment.Valid) :
    ofValue (ImportsFile.sortedEntry fragment) = .ok fragment := by
  rw [sortedEntry_eq]
  exact ofValue_of_parts valid rfl rfl rfl rfl

theorem ofValue_toValue {fragment : FragmentImport} (valid : fragment.Valid) :
    ofValue fragment.toValue = .ok fragment := ofValue_of_parts valid rfl rfl rfl rfl

theorem mapM_sortedEntry {fragments : List FragmentImport}
    (valid : ∀ fragment ∈ fragments, fragment.Valid) :
    (fragments.map ImportsFile.sortedEntry).mapM ofValue = .ok fragments := by
  induction fragments with
  | nil => rfl
  | cons fragment rest ih =>
      obtain ⟨first, valid⟩ := List.forall_mem_cons.mp valid
      rw [List.map_cons, List.mapM_cons, ofValue_sortedEntry first, ih valid]
      rfl

end FragmentImport

namespace ImportsFile

/-- What a file is like that was read or made by appending valid imports to one that was read. -/
structure Shaped (file : ImportsFile) : Prop where
  fit : MembersFit (depthLimit - 1) file.others
  apart : ∀ held ∈ file.others, sameLetters held.1 fragmentsKey = false
  valid : ∀ fragment ∈ file.fragments, fragment.Valid

/-- Such a file, with no number that is read as another one where it was printed. -/
structure Sound (file : ImportsFile) : Prop extends Shaped file where
  numbers : ∀ held ∈ file.others, held.2.Every NumberReadsBack

theorem ofValue_ok {document : Value} {file : ImportsFile}
    (accepted : ofValue document = .ok file) :
    ∃ members, document = .object members ∧ readFragments members = .ok file.fragments ∧
      file.others = members.filter fun held => !sameLetters held.1 fragmentsKey := by
  cases document with
  | object members =>
      obtain ⟨fragments, read, made⟩ := bind_ok.mp accepted
      cases made
      exact ⟨members, rfl, read, rfl⟩
  | null | bool | number | string | array => cases accepted

theorem valid_of_readFragments {members : List (String × Value)}
    {fragments : List FragmentImport} (read : readFragments members = .ok fragments) :
    ∀ fragment ∈ fragments, fragment.Valid := by
  unfold readFragments at read
  split at read
  · cases read
    nofun
  · exact FragmentImport.valid_of_mapM read
  · obtain ⟨single, entry, made⟩ := bind_ok.mp read
    cases made
    exact List.forall_mem_singleton.mpr (FragmentImport.valid_of_ofValue entry)
  · cases read

theorem others_of_ofValue {members : List (String × Value)} {file : ImportsFile}
    (others : file.others = members.filter fun held => !sameLetters held.1 fragmentsKey) :
    ∀ held ∈ file.others, held ∈ members ∧ sameLetters held.1 fragmentsKey = false := by
  rw [others]
  intro held member
  exact (List.mem_filter.mp member).imp_right (Bool.not_eq_true' _).mp

theorem shaped_of_read {text : String} {document : Value} {file : ImportsFile}
    (read : Value.read text = .ok document) (accepted : ofValue document = .ok file) :
    file.Shaped := by
  obtain ⟨members, rfl, listed, others⟩ := ofValue_ok accepted
  have fit := (readText_fits read).members
  have kept := others_of_ofValue others
  refine ⟨⟨?_, fun held member => fit.2 held (kept held member).1⟩,
    fun held member => (kept held member).2, valid_of_readFragments listed⟩
  rw [others]
  exact fit.1.filter _

theorem Shaped.append {file : ImportsFile} (shaped : file.Shaped) {imports : List FragmentImport}
    (valid : ∀ fragment ∈ imports, fragment.Valid) : (file.append imports).Shaped where
  fit := shaped.fit
  apart := shaped.apart
  valid fragment member := by
    rcases List.mem_append.mp (mem_distinct.mp member) with former | added
    · exact shaped.valid fragment former
    · exact valid fragment added

theorem Sound.append {file : ImportsFile} (sound : file.Sound) {imports : List FragmentImport}
    (valid : ∀ fragment ∈ imports, fragment.Valid) : (file.append imports).Sound :=
  ⟨sound.toShaped.append valid, sound.numbers⟩

theorem Sound.appends {file : ImportsFile} (sound : file.Sound)
    {batches : List (List FragmentImport)}
    (valid : ∀ batch ∈ batches, ∀ fragment ∈ batch, fragment.Valid) :
    (batches.foldl ImportsFile.append file).Sound := by
  induction batches generalizing file with
  | nil => exact sound
  | cons batch rest ih =>
      obtain ⟨first, valid⟩ := List.forall_mem_cons.mp valid
      exact ih (sound.append first) valid

theorem fits_sortedEntry (fragment : FragmentImport) {depth : Nat} (deep : 2 < depth) :
    (sortedEntry fragment).Fits depth := by
  have text (content : String) (bound : Nat) : (Value.string content).Fits bound :=
    @fits_leaf (.string content) rfl trivial rfl bound
  have includes : (Value.array (fragment.includes.map (.string ·.name))).Fits (depth - 1) := by
    refine fits_array (by omega) fun item member => ?_
    obtain ⟨contribution, -, rfl⟩ := List.mem_map.mp member
    exact text contribution.name _
  have keys : ["feed", "includes", "issuer", "minimum_svn"].Pairwise (· < ·) := by decide
  rw [FragmentImport.sortedEntry_eq]
  refine fits_object (by omega)
    ⟨(List.pairwise_map (f := Prod.fst) (R := (· < ·))).mp keys, ?_⟩
  simp only [List.forall_mem_cons]
  exact ⟨text _ _, includes, text _ _, text _ _, nofun⟩

theorem numbers_sortedEntry (fragment : FragmentImport) :
    (sortedEntry fragment).Every NumberReadsBack := by
  have text (content : String) : (Value.string content).Every NumberReadsBack :=
    (@Value.every_leaf _ (.string content) rfl).mpr trivial
  have includes : (Value.array (fragment.includes.map (.string ·.name))).Every
      NumberReadsBack := by
    refine Value.every_array.mpr ⟨trivial, fun item member => ?_⟩
    obtain ⟨contribution, -, rfl⟩ := List.mem_map.mp member
    exact text contribution.name
  rw [FragmentImport.sortedEntry_eq]
  refine Value.every_object.mpr ⟨trivial, ?_⟩
  simp only [List.forall_mem_cons]
  exact ⟨text _, includes, text _, text _, nofun⟩

theorem filter_insertMember {keep : String × Value → Bool} {key : String} {value : Value}
    {members : List (String × Value)} (out : ∀ held, keep (key, held) = false) :
    (insertMember key value members).filter keep = members.filter keep := by
  induction members with
  | nil => simp [insertMember, out]
  | cons head rest ih =>
      obtain ⟨other, held⟩ := head
      unfold insertMember
      split
      · rw [List.filter_cons_of_neg (by simp [out])]
      · split
        · rename_i same
          subst same
          rw [List.filter_cons_of_neg (by simp [out]), List.filter_cons_of_neg (by simp [out])]
        · rw [List.filter_cons, List.filter_cons, ih]

theorem ofValue_document {file : ImportsFile}
    (apart : ∀ held ∈ file.others, sameLetters held.1 fragmentsKey = false)
    (valid : ∀ fragment ∈ file.fragments, fragment.Valid) : ofValue file.document = .ok file := by
  have listed : readFragments (insertMember fragmentsKey
      (.array (file.fragments.map sortedEntry)) file.others) = .ok file.fragments := by
    have held : member? fragmentsKey (insertMember fragmentsKey
        (.array (file.fragments.map sortedEntry)) file.others) =
          some (.array (file.fragments.map sortedEntry)) := by
      rw [member?, memberFor?, memberAt?_insertMember, if_pos rfl]
      rfl
    rw [readFragments, held]
    exact FragmentImport.mapM_sortedEntry valid
  have others : (insertMember fragmentsKey (.array (file.fragments.map sortedEntry))
      file.others).filter (fun held => !sameLetters held.1 fragmentsKey) = file.others := by
    rw [filter_insertMember fun held => by simp [sameLetters_refl], List.filter_eq_self]
    intro held member
    rw [apart held member]
    rfl
  rw [document, ofValue, listed, others]
  rfl

theorem Shaped.ofValue_document {file : ImportsFile} (shaped : file.Shaped) :
    ofValue file.document = .ok file := ImportsFile.ofValue_document shaped.apart shaped.valid

theorem fits_list (fragments : List FragmentImport) :
    (Value.array (fragments.map sortedEntry)).Fits (depthLimit - 1) := by
  refine fits_array (by decide) fun item inside => ?_
  obtain ⟨fragment, -, rfl⟩ := List.mem_map.mp inside
  exact fits_sortedEntry fragment (by decide)

theorem numbers_list (fragments : List FragmentImport) :
    (Value.array (fragments.map sortedEntry)).Every NumberReadsBack := by
  refine Value.every_array.mpr ⟨trivial, fun item inside => ?_⟩
  obtain ⟨fragment, -, rfl⟩ := List.mem_map.mp inside
  exact numbers_sortedEntry fragment

theorem Shaped.fits_document {file : ImportsFile} (shaped : file.Shaped) :
    file.document.Fits depthLimit := by
  refine fits_object (by decide) ⟨insertMember_ordered shaped.fit.1 _ _, fun held member => ?_⟩
  rcases mem_insertMember member with rfl | former
  · exact fits_list file.fragments
  · exact shaped.fit.2 held former

theorem every_document {good : Value → Prop} {file : ImportsFile} (whole : good file.document)
    (list : (Value.array (file.fragments.map sortedEntry)).Every good)
    (others : ∀ held ∈ file.others, held.2.Every good) : file.document.Every good := by
  refine Value.every_object.mpr ⟨whole, fun held member => ?_⟩
  rcases mem_insertMember member with rfl | former
  · exact list
  · exact others held former

def reread (file : ImportsFile) : ImportsFile :=
  { file with others := file.others.map fun held => (held.1, held.2.reread) }

theorem map_insertMember (change : Value → Value) (key : String) (value : Value)
    (members : List (String × Value)) :
    (insertMember key value members).map (fun held => (held.1, change held.2)) =
      insertMember key (change value) (members.map fun held => (held.1, change held.2)) := by
  induction members with
  | nil => rfl
  | cons head rest ih =>
      obtain ⟨other, held⟩ := head
      rw [List.map_cons, insertMember, insertMember]
      split
      · rfl
      · split
        · rfl
        · rw [List.map_cons, ih]

theorem Shaped.document_reread {file : ImportsFile} (shaped : file.Shaped) :
    file.document.reread = file.reread.document := by
  have list : (Value.array (file.fragments.map sortedEntry)).reread = _ :=
    Value.reread_self (fits_list file.fragments).ordered (numbers_list file.fragments)
  have keys : (insertMember fragmentsKey (.array (file.fragments.map sortedEntry))
      file.others).Pairwise (·.1 < ·.1) := insertMember_ordered shaped.fit.1 _ _
  have members := @Value.rereadMembers_ordered [] _ keys
  rw [document, Value.reread, members, List.nil_append, map_insertMember, list]
  rfl

theorem Shaped.read_stored {file : ImportsFile} (shaped : file.Shaped)
    (numbers : ∀ held ∈ file.others, held.2.Every NumberReadable) :
    Value.read (file.prettyText ++ "\n") = .ok file.reread.document := by
  have readable : file.document.Every NumberReadable :=
    every_document trivial (readable_of_readsBack (numbers_list file.fragments)) numbers
  rw [Value.read, prettyText, Value.prettyText, String.toList_append, String.toList_ofList,
    readText_pretty_blank readable (Nat.lt_succ_of_le shaped.fits_document.shallow)
      (by simp [AllSpace, isSpace]), shaped.document_reread]

theorem Sound.reread_self {file : ImportsFile} (sound : file.Sound) : file.reread = file := by
  have same : file.others.map (fun held => (held.1, held.2.reread)) = file.others.map id :=
    List.map_congr_left fun held member => by
      rw [Value.reread_self (sound.fit.2 held member).ordered (sound.numbers held member)]
      rfl
  rw [reread, same, List.map_id]

theorem append_listed {file : ImportsFile} (once : file.fragments.Nodup)
    {imports : List FragmentImport} (listed : ∀ fragment ∈ imports, fragment ∈ file.fragments) :
    file.append imports = file := by
  have none : (distinct imports).filter (· ∉ file.fragments) = [] := by
    refine List.filter_eq_nil_iff.mpr fun fragment member => ?_
    simpa using listed fragment (mem_distinct.mp member)
  rw [append, distinct_append, distinct_of_nodup once, none, List.append_nil]

def quayImport : FragmentImport :=
  ⟨"did:web:quay", "quay.example/winch", "07", [.containers, .fragments]⟩

end ImportsFile

end Enforcement
