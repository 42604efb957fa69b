import Enforcement.Policy.Defaults
import Enforcement.Proofs.Image.Normalization
import Mathlib.Data.List.TakeWhile

/-!
A reference without its tag and digest. The stripper looks for a few marks only; on what the
grammar accepts it leaves the name that the grammar finds there.
-/

namespace Enforcement.ImageReference

open Enforcement.Image Enforcement.Text

theorem splitFirst_eq (mark : Char) (text : List Char) :
    text = (splitFirst mark text).1 ++ marked mark (splitFirst mark text).2 ∧
      mark ∉ (splitFirst mark text).1 := by
  by_cases found : mark ∈ text
  · obtain ⟨before, after, rfl, absent⟩ := List.eq_append_cons_of_mem found
    rw [splitFirst_append absent]
    exact ⟨rfl, absent⟩
  · rw [splitFirst_absent found]
    exact ⟨(List.append_nil text).symm, found⟩

theorem takeWhile_splitFirst (mark : Char) (text : List Char) :
    text.takeWhile (· != mark) = (splitFirst mark text).1 := by
  induction text with
  | nil => rfl
  | cons c rest ih => by_cases same : c = mark <;> simp [splitFirst, same, ih]

theorem single_or_last (text : List Char) :
    '/' ∉ text ∨ ∃ path component, text = path ++ '/' :: component ∧ '/' ∉ component := by
  induction text using parts_induction '/' with
  | single part absent => exact .inl absent
  | more part rest absent ih =>
      right
      rcases ih with single | ⟨path, component, rfl, last⟩
      · exact ⟨part, rest, rfl, single⟩
      · exact ⟨part ++ '/' :: path, component, by simp, last⟩

theorem takeWhile_single {component : List Char} (absent : '/' ∉ component) :
    (component.reverse.takeWhile (· != '/')).reverse = component := by
  have inside : ∀ c ∈ component.reverse, (c != '/') = true := by
    intro c member
    exact bne_iff_ne.mpr (ne_of_mem_of_not_mem (List.mem_reverse.mp member) absent)
  rw [List.takeWhile_eq_self_iff.mpr inside, List.reverse_reverse]

theorem splitTag_single {component : List Char} (absent : '/' ∉ component) :
    splitTag component = splitFirst ':' component := by
  simp [splitTag, takeWhile_single absent]

theorem stripTag_marked {name : List Char} {tag : Option (List Char)} (plain : ':' ∉ name)
    (tagged : tag.all isTag = true) (single : '/' ∉ name ++ marked ':' tag) :
    stripTag (name ++ marked ':' tag) = name := by
  rw [stripTag, takeWhile_single single]
  cases tag with
  | none => simp [marked, plain]
  | some tag =>
      have clear : ∀ c ∈ tag.reverse, (c != ':') = true := by
        intro c member
        rcases tag_chars tagged c (List.mem_reverse.mp member) with word | rfl | rfl
        · exact bne_iff_ne.mpr fun colon => absurd (colon ▸ word) (by decide)
        · rfl
        · rfl
      have behind : (tag.reverse ++ ':' :: name.reverse).dropWhile (· != ':') =
          ':' :: name.reverse := (takeWhile_run clear (by simp)).2
      simp [marked, behind]

theorem stripTag_single {component : List Char} (absent : '/' ∉ component)
    (tagged : (splitFirst ':' component).2.all isTag = true) :
    stripTag component = (splitFirst ':' component).1 := by
  obtain ⟨split, plain⟩ := splitFirst_eq ':' component
  have stripped := stripTag_marked plain tagged (split ▸ absent)
  rwa [← split] at stripped

theorem stripTag_append {component : List Char} (absent : '/' ∉ component) (path : List Char) :
    stripTag (path ++ '/' :: component) = path ++ '/' :: stripTag component := by
  obtain ⟨back, front⟩ := last_component absent path
  rw [stripTag, stripTag, back, front, takeWhile_single absent]
  split <;> simp

theorem stripTag_eq {text : List Char} (tagged : (splitTag text).2.all isTag = true) :
    stripTag text = (splitTag text).1 := by
  rcases single_or_last text with single | ⟨path, component, rfl, last⟩
  · rw [splitTag_single single] at tagged ⊢
    exact stripTag_single single tagged
  · rw [splitTag_append last] at tagged ⊢
    rw [stripTag_append last, stripTag_single last tagged]

theorem splitTag_eq (text : List Char) :
    text = (splitTag text).1 ++ marked ':' (splitTag text).2 := by
  rcases single_or_last text with single | ⟨path, component, rfl, last⟩
  · rw [splitTag_single single]
    exact (splitFirst_eq ':' text).1
  · rw [splitTag_append last, List.append_assoc, List.cons_append,
      ← (splitFirst_eq ':' component).1]

theorem stripVersion_parts {text : String} {name : List Char} {tag digest : Option (List Char)}
    (kept : parts? text.toList = some (name, tag, digest)) :
    (stripVersion text).toList = name ∧
      text.toList = name ++ marked ':' tag ++ marked '@' digest := by
  obtain ⟨⟨split, rfl⟩, -, tagged, -⟩ := parts?_iff.mp kept
  constructor
  · rw [stripVersion, String.toList_ofList, takeWhile_splitFirst, stripTag_eq, split]
    rwa [split]
  · have back := splitTag_eq (splitFirst '@' text.toList).1
    rw [split] at back
    rw [← back]
    exact (splitFirst_eq '@' text.toList).1

theorem parts?_name {name : List Char} (named : isName name = true) :
    parts? name = some (name, none, none) := by
  have undigested : '@' ∉ name := by
    intro member
    rcases name_chars named '@' member with slash | held | held <;> contradiction
  have untagged : splitTag name = (name, none) := by
    by_cases slashed : '/' ∈ name
    · obtain ⟨first, rest, rfl, absent⟩ := List.eq_append_cons_of_mem slashed
      obtain ⟨-, path⟩ := Bool.and_eq_true_iff.mp (isName_append absent rest ▸ named)
      simpa [marked] using @splitTag_marked rest (portless_of_path path) first none rfl
    · have portless : ':' ∉ name := by
        apply portless_of_path
        rwa [isPath_of_single slashed, ← isName_of_single slashed]
      rw [splitTag_single slashed, splitFirst_absent portless]
  rw [parts?_iff, splitFirst_absent undigested]
  exact ⟨⟨untagged, rfl⟩, named, rfl, rfl⟩

theorem splitRegistry_eq (name : List Char) :
    (splitRegistry name).1 = publicRegistry.toList ∨
      name = (splitRegistry name).1 ++ '/' :: (splitRegistry name).2 := by
  obtain ⟨split, -⟩ := splitFirst_eq '/' name
  unfold splitRegistry
  grind [marked]

theorem sidecar_registry : ∀ image ∈ Defaults.sidecarImages,
    (splitFirst '/' image.toList).1 ≠ publicRegistry.toList ∧
      (splitRegistry image.toList).1 ≠ publicRegistry.toList := by
  decide +kernel

theorem sidecar_iff (name : List Char) :
    String.ofList name ∈ Defaults.sidecarImages ↔
      String.ofList ((splitRegistry name).1 ++ '/' :: (splitRegistry name).2) ∈
        Defaults.sidecarImages := by
  rcases splitRegistry_eq name with official | own
  · have unnamed : String.ofList name ∉ Defaults.sidecarImages := by
      intro member
      have other := (sidecar_registry _ member).2
      rw [String.toList_ofList] at other
      exact other official
    have unlocated : String.ofList ((splitRegistry name).1 ++ '/' :: (splitRegistry name).2) ∉
        Defaults.sidecarImages := by
      intro member
      have other := (sidecar_registry _ member).1
      rw [official, String.toList_ofList, splitFirst_append (by decide +kernel)] at other
      exact other rfl
    exact iff_of_false unnamed unlocated
  · rw [← own]

/--
What is left of a reference without its tag and digest begins it, names the same repository, and
is left as it is. A sidecar is told by that name alone.
-/
theorem stripVersion_parsed {text : String} {reference : ImageReference}
    (bare : trimmed text = text) (parsed : ImageReference.parse text = .ok reference) :
    (stripVersion text).toList <+: text.toList ∧
      ImageReference.parse (stripVersion text) =
        .ok ⟨reference.registry, reference.repository, some "latest", none⟩ ∧
      stripVersion (stripVersion text) = stripVersion text ∧
      (Defaults.isSidecar text = true ↔ reference.name ∈ Defaults.sidecarImages) := by
  rw [ImageReference.parse, bare, mapError_ok_iff, read_ok_iff] at parsed
  obtain ⟨name, tag, digest, kept, bounded, -, rfl⟩ := parsed
  obtain ⟨-, named, -⟩ := parts?_iff.mp kept
  obtain ⟨stripped, whole⟩ := stripVersion_parts kept
  have alone := parts?_name named
  rw [← stripped] at alone
  refine ⟨?_, ?_, ?_, ?_⟩
  · rw [stripped, whole, List.append_assoc]
    exact List.prefix_append name _
  · have visible := name_visible named
    have plain : trimmed (stripVersion text) = stripVersion text := by
      rw [trimmed, stripped, trim_eq_self, ← stripped, String.ofList_toList]
      · exact fun c first => visible c (List.mem_of_head? first)
      · exact fun c last => visible c (List.mem_of_getLast? last)
    rw [ImageReference.parse, plain, mapError_ok_iff, read_ok_iff]
    exact ⟨_, none, none, alone, stripped ▸ bounded, rfl, by simp [stripped]⟩
  · rw [← String.toList_inj, (stripVersion_parts alone).1]
  · rw [Defaults.isSidecar, List.contains_iff_mem, ← String.ofList_toList (s := stripVersion text),
      stripped, sidecar_iff]
    simp [ImageReference.name, String.append_assoc]

theorem stripVersion_adapter :
    stripVersion ("mcr.microsoft.com/aci/atlas-adapter:1.2@sha256:" ++
        "9f86d081884c7d659a2feaa0c55ad015a3bf4f1b2b0b822cd15d6c15b0f00a08") =
        "mcr.microsoft.com/aci/atlas-adapter" ∧
      ImageReference.parse "mcr.microsoft.com/aci/atlas-adapter" =
        .ok ⟨"mcr.microsoft.com", "aci/atlas-adapter", some "latest", none⟩ ∧
      Defaults.isSidecar ("mcr.microsoft.com/aci/atlas-adapter:1.2@sha256:" ++
        "9f86d081884c7d659a2feaa0c55ad015a3bf4f1b2b0b822cd15d6c15b0f00a08") = true := by
  have parsed : ImageReference.parse ("mcr.microsoft.com/aci/atlas-adapter:1.2@sha256:" ++
      "9f86d081884c7d659a2feaa0c55ad015a3bf4f1b2b0b822cd15d6c15b0f00a08") =
      .ok ⟨"mcr.microsoft.com", "aci/atlas-adapter", some "1.2", some
        "sha256:9f86d081884c7d659a2feaa0c55ad015a3bf4f1b2b0b822cd15d6c15b0f00a08"⟩ :=
    ok_of_toOption (by decide +kernel)
  have stripped : stripVersion ("mcr.microsoft.com/aci/atlas-adapter:1.2@sha256:" ++
      "9f86d081884c7d659a2feaa0c55ad015a3bf4f1b2b0b822cd15d6c15b0f00a08") =
      "mcr.microsoft.com/aci/atlas-adapter" := by decide +kernel
  obtain ⟨-, back, -, sidecar⟩ := stripVersion_parsed (by decide +kernel) parsed
  rw [stripped] at back
  exact ⟨stripped, back, sidecar.mpr (by decide +kernel)⟩

end Enforcement.ImageReference
