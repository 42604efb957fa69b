import Enforcement.Proofs.Files.Writing
import Enforcement.Proofs.Imports.File
import Enforcement.Proofs.Tool.Job

/-! The imports file on disk: what is loaded from where it stands, and what writing it leaves. -/

namespace Enforcement.ImportsFile

open Enforcement.Files Enforcement.Json Enforcement.Text

def stored (files : Store) (path : String) : Except Error ImportsFile :=
  match files.readText path with
  | .error .notFound => .ok empty
  | .error fault => .error (.file path fault)
  | .ok text => if isBlankText text then .ok empty else readJson path text >>= ofValue

theorem perform_load (path : String) (tools : Tools) (desk : Desk) :
    (load path).perform tools desk = (stored desk.files path, desk) := by
  unfold load stored
  rw [Job.perform_bind, Job.perform_files]
  dsimp only
  rcases desk.files.readText path with fault | text
  · cases fault <;> rfl
  · dsimp only
    split
    · rfl
    · cases readJson path text with
      | error failure => rfl
      | ok value => exact Job.perform_lift (ofValue value)

def ofContents (path : String) : Option (List UInt8) → Except Error ImportsFile
  | none => .ok empty
  | some bytes =>
    match readUtf8? bytes with
    | none => .error (.file path .notText)
    | some text => if isBlankText text then .ok empty else readJson path text >>= ofValue

theorem stored_eq {files : Store} {path : String} {place : Place}
    (leads : files.resolve path = .ok place) (leaf : files.entry? place ≠ some .directory) :
    stored files path = ofContents path (files.contents? place) := by
  unfold stored ofContents Store.readText
  rw [Store.readBytes_of_leads leads leaf]
  cases files.contents? place with
  | none => rfl
  | some bytes =>
      simp only [bind, Except.bind]
      cases readUtf8? bytes with
      | none => rfl
      | some text => rfl

theorem shaped_empty : empty.Shaped := ⟨⟨.nil, nofun⟩, nofun, nofun⟩

theorem shaped_of_contents {path : String} {contents : Option (List UInt8)} {file : ImportsFile}
    (loaded : ofContents path contents = .ok file) : file.Shaped := by
  cases contents with
  | none =>
      cases loaded
      exact shaped_empty
  | some bytes =>
      dsimp only [ofContents] at loaded
      split at loaded
      · cases loaded
      · split at loaded
        · cases loaded
          exact shaped_empty
        · obtain ⟨document, read, accepted⟩ := bind_ok.mp loaded
          exact shaped_of_read (mapError_ok_iff.mp read) accepted

theorem prettyText_brace (file : ImportsFile) : '{' ∈ file.prettyText.toList := by
  rw [prettyText, Value.prettyText, String.toList_ofList, document]
  cases insertMember fragmentsKey (.array (file.fragments.map sortedEntry)) file.others with
  | nil => exact List.mem_cons_self
  | cons held rest => exact List.mem_cons_self

theorem Shaped.ofContents_written {file : ImportsFile} (shaped : file.Shaped)
    (numbers : ∀ held ∈ file.others, held.2.Every NumberReadable) (path : String) :
    ofContents path (some (encodeUtf8 (file.prettyText ++ "\n"))) = .ok file.reread := by
  have filled : isBlankText (file.prettyText ++ "\n") = false := by
    rw [isBlankText, List.all_eq_false]
    refine ⟨'{', ?_, by decide⟩
    rw [String.toList_append]
    exact List.mem_append_left _ file.prettyText_brace
  have parsed : readJson path (file.prettyText ++ "\n") = .ok file.reread.document :=
    mapError_ok_iff.mpr (shaped.read_stored numbers)
  have apart : ∀ held ∈ file.reread.others, sameLetters held.1 fragmentsKey = false := by
    intro held member
    obtain ⟨former, listed, rfl⟩ := List.mem_map.mp member
    exact shaped.apart former listed
  dsimp only [ofContents]
  rw [readUtf8?_encodeUtf8]
  dsimp only
  rw [filled, if_neg Bool.false_ne_true, parsed]
  exact ImportsFile.ofValue_document apart shaped.valid

theorem Sound.readable {file : ImportsFile} (sound : file.Sound) :
    ∀ held ∈ file.others, held.2.Every NumberReadable :=
  fun held member => readable_of_readsBack (sound.numbers held member)

end Enforcement.ImportsFile
