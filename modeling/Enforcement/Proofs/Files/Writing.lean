import Enforcement.Proofs.Files.Making

/-! What writing a file changes: the one file that the path names. -/

namespace Enforcement.Files

/-- The file at a path holds some bytes now, and nothing else has changed. -/
structure Written (path : String) (bytes : List UInt8) (before after : Store) : Prop where
  home : after.home = before.home
  leads : ∀ place, before.resolve path = .ok place → after.resolve path = .ok place
  read : after.readBytes path = .ok bytes
  others : ∀ place, before.resolve path ≠ .ok place → after.entry? place = before.entry? place

namespace Store

variable {store after : Store} {path : String} {bytes : List UInt8}

def contents? (store : Store) (place : Place) : Option (List UInt8) :=
  match store.entry? place with
  | some (.file bytes _) => some bytes
  | _ => none

theorem contents?_of_entry {place : Place} (same : after.entry? place = store.entry? place) :
    after.contents? place = store.contents? place := by
  unfold contents?
  rw [same]

theorem contents?_of_sameOrMade {allowed : Place → Prop} {place : Place}
    (kept : SameOrMade allowed store after place) :
    after.contents? place = store.contents? place := by
  rcases kept with same | ⟨free, held, -⟩
  · exact contents?_of_entry same
  · unfold contents?
    rw [free, held]

theorem isFile_iff : store.isFile path = true ↔
    ∃ place bytes, store.resolve path = .ok place ∧ store.contents? place = some bytes := by
  unfold isFile find? contents?
  cases store.resolve path with
  | error fault => simp
  | ok place =>
      cases held : store.entry? place with
      | none => simp [held]
      | some entry =>
          cases entry with
          | directory => simp [held]
          | file bytes executable => simp [held]

theorem readBytes_of_leads {place : Place} (leads : store.resolve path = .ok place)
    (leaf : store.entry? place ≠ some .directory) :
    store.readBytes path =
      match store.contents? place with
      | some bytes => .ok bytes
      | none => .error .notFound := by
  unfold readBytes contents?
  rw [leads]
  cases held : store.entry? place with
  | none => simp only [held, bind, Except.bind]; rfl
  | some entry =>
      cases entry with
      | directory => exact absurd held leaf
      | file bytes executable => simp only [held, bind, Except.bind]; rfl

theorem readText_of_readBytes {text : String} (read : store.readBytes path = .ok bytes)
    (decoded : Text.readUtf8? bytes = some text) : store.readText path = .ok text := by
  unfold readText
  simp only [read, decoded, bind, Except.bind]
  rfl

theorem contents?_of_readBytes {place : Place} (leads : store.resolve path = .ok place)
    (read : store.readBytes path = .ok bytes) : store.contents? place = some bytes := by
  have leaf : store.entry? place ≠ some .directory := by
    intro directory
    unfold readBytes at read
    rw [leads] at read
    simp only [directory, bind, Except.bind] at read
    cases read
  rw [readBytes_of_leads leads leaf] at read
  cases held : store.contents? place with
  | none =>
      rw [held] at read
      cases read
  | some found =>
      rw [held] at read
      cases read
      rfl

theorem writeBytes_ok (wrote : store.writeBytes path bytes = .ok after) :
    endsInSlash path = false ∧ ∃ place executable, store.resolve path = .ok place ∧
      store.entry? place ≠ some .directory ∧ after = store.put place (.file bytes executable) := by
  unfold writeBytes at wrote
  cases slash : endsInSlash path with
  | true =>
      rw [slash] at wrote
      cases leads : store.resolve ((parent? (path ++ "x")).getD path) with
      | error fault =>
          simp only [if_true, leads] at wrote
          cases wrote
      | ok place =>
          simp only [if_true, leads] at wrote
          rcases held : store.entry? place with _ | ⟨_ | ⟨old, executable⟩⟩ <;>
            simp only [held, bind, Except.bind] at wrote <;> cases wrote
  | false =>
      refine ⟨rfl, ?_⟩
      rw [slash] at wrote
      cases leads : store.resolve path with
      | error fault =>
          simp only [Bool.false_eq_true, if_false, leads] at wrote
          cases wrote
      | ok place =>
          simp only [Bool.false_eq_true, if_false, leads] at wrote
          rcases held : store.entry? place with _ | ⟨_ | ⟨old, executable⟩⟩ <;>
            simp only [held, bind, Except.bind] at wrote <;> cases wrote
          · exact ⟨place, false, rfl, by rw [held]; nofun, rfl⟩
          · exact ⟨place, executable, rfl, by rw [held]; nofun, rfl⟩

theorem written_of_writeBytes (wrote : store.writeBytes path bytes = .ok after) :
    Written path bytes store after := by
  obtain ⟨-, place, executable, leads, leaf, rfl⟩ := writeBytes_ok wrote
  have inner : place ≠ [] := by
    rintro rfl
    exact leaf rfl
  have again := resolve_put leaf (.file bytes executable) leads
  refine ⟨put_home _ _, fun found there => ?_, ?_, fun other elsewhere => ?_⟩
  · rw [leads] at there
    cases there
    exact again
  · have held : Store.entry? (store.put place (.file bytes executable)) place =
        some (.file bytes executable) := by rw [entry?_put inner, if_pos rfl]
    unfold readBytes
    simp only [again, held, bind, Except.bind]
    rfl
  · rw [entry?_put inner, if_neg]
    rintro rfl
    exact elsewhere leads

theorem written_contents {before : Store} (written : Written path bytes before after)
    {place : Place} (leads : before.resolve path = .ok place) :
    after.contents? place = some bytes :=
  contents?_of_readBytes (written.leads place leads) written.read

theorem writeBytes_of_contents {place : Place} {old : List UInt8}
    (leads : store.resolve path = .ok place) (held : store.contents? place = some old)
    (slash : endsInSlash path = false) (bytes : List UInt8) :
    ∃ after, store.writeBytes path bytes = .ok after := by
  unfold contents? at held
  unfold writeBytes
  rw [slash]
  simp only [Bool.false_eq_true, if_false, leads]
  rcases there : store.entry? place with _ | ⟨_ | ⟨found, executable⟩⟩ <;> rw [there] at held
  · cases held
  · cases held
  · refine ⟨store.put place (.file bytes executable), ?_⟩
    simp only [there, bind, Except.bind]
    rfl

end Store

end Enforcement.Files
