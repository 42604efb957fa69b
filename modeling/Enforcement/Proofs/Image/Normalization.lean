import Enforcement.Proofs.Image.Grammar

/-!
What normalization leaves of a reference, and that its full text is read back. The one thing lost
is a first component with capital letters that names no registry: as a host the grammar accepts
it, but it becomes part of the path behind the public registry, and a path has no capitals.
-/

namespace Enforcement.ImageReference

open Enforcement.Text

/-- A registry that stands for itself, and the name of a repository there. -/
structure Located (registry repository : List Char) : Prop where
  host : (isComponent registry || isHost registry) = true
  known : (registry.contains '.' || registry.contains ':' ||
    registry == "localhost".toList) = true
  settled : registry ≠ "index.docker.io".toList
  nested : registry = publicRegistry.toList → '/' ∈ repository
  named : isName repository = true
  portless : ':' ∉ repository

theorem not_mem_first {first : List Char} {mark : Char}
    (accepted : (isComponent first || isHost first) = true)
    (foreign : isComponentChar mark = false) (foreign' : isHostChar mark = false) :
    mark ∉ first := by
  intro member
  rcases first_chars accepted mark member with held | held
  · exact Bool.false_ne_true (foreign.symm.trans held)
  · exact Bool.false_ne_true (foreign'.symm.trans held)

theorem portless_of_path {path : List Char} (accepted : isPath path = true) : ':' ∉ path := by
  intro member
  rcases path_chars accepted ':' member with slash | held
  · cases slash
  · cases held

theorem located_official {component : List Char} (accepted : isComponent component = true)
    (single : '/' ∉ component) :
    Located publicRegistry.toList ("library/".toList ++ component) := by
  have split : "library/".toList ++ component = "library".toList ++ '/' :: component := by simp
  have path : isPath ("library/".toList ++ component) = true := by
    rw [split, isPath_append (by decide +kernel), isPath_of_single single, accepted]
    decide +kernel
  exact ⟨by decide +kernel, by decide +kernel, by decide +kernel, fun _ => by simp,
    name_of_path path, portless_of_path path⟩

theorem located_settled {registry repository : List Char}
    (host : (isComponent registry || isHost registry) = true)
    (known : (registry.contains '.' || registry.contains ':' ||
      registry == "localhost".toList) = true)
    (settled : registry ≠ "index.docker.io".toList) (named : isName repository = true)
    (portless : ':' ∉ repository) :
    let place := if registry == publicRegistry.toList && !repository.contains '/'
      then (registry, "library/".toList ++ repository) else (registry, repository)
    Located place.1 place.2 := by
  intro place
  by_cases official : (registry == publicRegistry.toList && !repository.contains '/') = true
  · obtain ⟨same, single⟩ := Bool.and_eq_true_iff.mp official
    have single : '/' ∉ repository := by simpa using single
    rw [show place = (registry, _) from if_pos official, beq_iff_eq.mp same]
    exact located_official (isName_of_single single ▸ named) single
  · rw [show place = (registry, repository) from if_neg official]
    refine ⟨host, known, settled, fun same => ?_, named, portless⟩
    have same : registry = publicRegistry.toList := same
    simpa [same] using official

theorem located_splitRegistry {name : List Char} (accepted : isName name = true) :
    Located (splitRegistry name).1 (splitRegistry name).2 := by
  have atDefault {repository : List Char} (named : isName repository = true)
      (portless : ':' ∉ repository) :=
    @located_settled publicRegistry.toList repository (by decide +kernel) (by decide +kernel)
      (by decide +kernel) named portless
  by_cases slashed : '/' ∈ name
  · obtain ⟨first, rest, rfl, absent⟩ := List.eq_append_cons_of_mem slashed
    obtain ⟨host, path⟩ := Bool.and_eq_true_iff.mp (isName_append absent rest ▸ accepted)
    have portless := portless_of_path path
    rw [splitRegistry, splitFirst_append absent]
    dsimp only
    by_cases known : (first.contains '.' || first.contains ':' ||
        first == "localhost".toList) = true
    · rw [if_pos known]
      by_cases index : (first == "index.docker.io".toList) = true
      · rw [if_pos index]
        exact atDefault (name_of_path path) portless
      · rw [if_neg index]
        exact located_settled host known (by simpa using index) (name_of_path path) portless
    · rw [if_neg known]
      have portless : ':' ∉ first ++ '/' :: rest := by
        simp only [Bool.or_eq_true, List.contains_iff_mem] at known
        simp only [List.mem_append, List.mem_cons, not_or]
        exact ⟨fun mark => known (.inl (.inr mark)), by decide, portless⟩
      exact atDefault accepted portless
  · have path : isPath name = true := by
      rwa [isPath_of_single slashed, ← isName_of_single slashed]
    rw [splitRegistry, splitFirst_absent slashed]
    exact atDefault accepted (portless_of_path path)

theorem Located.splitRegistry {registry repository : List Char}
    (located : Located registry repository) :
    splitRegistry (registry ++ '/' :: repository) = (registry, repository) := by
  have whole : '/' ∉ registry := not_mem_first located.host (by decide) (by decide)
  have settled : (registry == "index.docker.io".toList) = false := by
    simpa using located.settled
  have own : ¬(registry == publicRegistry.toList && !repository.contains '/') = true := by
    intro official
    obtain ⟨same, single⟩ := Bool.and_eq_true_iff.mp official
    simp [located.nested (beq_iff_eq.mp same)] at single
  rw [ImageReference.splitRegistry, splitFirst_append whole]
  dsimp only
  rw [if_pos located.known, settled, if_neg Bool.false_ne_true, if_neg own]

def marked (mark : Char) : Option (List Char) → List Char
  | none => []
  | some part => mark :: part

theorem splitFirst_marked {mark : Char} {text : List Char} (absent : mark ∉ text)
    (part : Option (List Char)) : splitFirst mark (text ++ marked mark part) = (text, part) := by
  cases part with
  | none => rw [marked, List.append_nil, splitFirst_absent absent]
  | some part => rw [marked, splitFirst_append absent]

theorem last_component {component : List Char} (absent : '/' ∉ component) (path : List Char) :
    ((path ++ '/' :: component).reverse.takeWhile (· != '/')).reverse = component ∧
      (path ++ '/' :: component).take
        ((path ++ '/' :: component).length - component.length) = path ++ ['/'] := by
  have inside : ∀ c ∈ component.reverse, (c != '/') = true := by
    intro c member
    exact bne_iff_ne.mpr (ne_of_mem_of_not_mem (List.mem_reverse.mp member) absent)
  constructor
  · rw [List.reverse_append, List.reverse_cons, List.append_assoc,
      (takeWhile_run inside (by simp)).1, List.reverse_reverse]
  · have split : path ++ '/' :: component = (path ++ ['/']) ++ component := by simp
    rw [split, List.length_append, Nat.add_sub_cancel, List.take_left]

theorem splitTag_append {component : List Char} (absent : '/' ∉ component) (path : List Char) :
    splitTag (path ++ '/' :: component) =
      (path ++ '/' :: (splitFirst ':' component).1, (splitFirst ':' component).2) := by
  obtain ⟨back, front⟩ := last_component absent path
  simp only [splitTag, back, front, List.append_assoc, List.singleton_append]

theorem not_mem_tag {tag : Option (List Char)} (accepted : tag.all isTag = true) {mark : Char}
    (foreign : isWord mark = false) (others : mark ≠ ':' ∧ mark ≠ '.' ∧ mark ≠ '-') :
    mark ∉ marked ':' tag := by
  cases tag with
  | none => simp [marked]
  | some tag =>
      intro member
      rcases (List.mem_cons.mp member).resolve_left others.1 |> tag_chars accepted mark with
        word | point | hyphen
      · exact Bool.false_ne_true (foreign.symm.trans word)
      · exact others.2.1 point
      · exact others.2.2 hyphen

theorem at_last_slash {repository : List Char} (portless : ':' ∉ repository)
    (registry : List Char) : ∃ path component, registry ++ '/' :: repository =
      path ++ '/' :: component ∧ '/' ∉ component ∧ ':' ∉ component := by
  induction repository using parts_induction '/' generalizing registry with
  | single component absent => exact ⟨registry, component, rfl, absent, portless⟩
  | more part rest absent ih =>
      have later : ':' ∉ rest := fun mark =>
        portless (List.mem_append_right _ (List.mem_cons_of_mem _ mark))
      obtain ⟨path, component, split, found⟩ := ih later (registry ++ '/' :: part)
      exact ⟨path, component, by rw [← split]; simp, found⟩

theorem splitTag_marked {repository : List Char} (portless : ':' ∉ repository)
    (registry : List Char) {tag : Option (List Char)} (accepted : tag.all isTag = true) :
    splitTag (registry ++ '/' :: repository ++ marked ':' tag) =
      (registry ++ '/' :: repository, tag) := by
  obtain ⟨path, component, split, single, plain⟩ := at_last_slash portless registry
  have absent : '/' ∉ component ++ marked ':' tag := by
    rw [List.mem_append, not_or]
    exact ⟨single, not_mem_tag accepted (by decide) (by decide)⟩
  rw [split, List.append_assoc, List.cons_append, splitTag_append absent,
    splitFirst_marked plain]

theorem Located.read {registry repository : List Char} (located : Located registry repository)
    (bounded : repository.length ≤ 255) {tag digest : Option (List Char)}
    (tagged : tag.all isTag = true) (digested : digest.all isDigest = true)
    (sound : digest.bind digestFault? = none) (versioned : (tag.isNone && digest.isNone) = false) :
    read (registry ++ '/' :: repository ++ marked ':' tag ++ marked '@' digest) =
      if isPath repository then .ok ⟨String.ofList registry, String.ofList repository,
        tag.map String.ofList, digest.map String.ofList⟩
      else .error "invalid reference format" := by
  have whole : '/' ∉ registry := not_mem_first located.host (by decide) (by decide)
  have front : '@' ∉ registry ++ '/' :: repository ++ marked ':' tag := by
    simp only [List.mem_append, List.mem_cons, not_or]
    refine ⟨⟨not_mem_first located.host (by decide) (by decide), by decide, fun member => ?_⟩,
      not_mem_tag tagged (by decide) (by decide)⟩
    rcases name_chars located.named '@' member with slash | held | held
    · cases slash
    · cases held
    · cases held
  have parts : parts? (registry ++ '/' :: repository ++ marked ':' tag ++ marked '@' digest) =
      if isPath repository then some (registry ++ '/' :: repository, tag, digest) else none := by
    simp only [parts?, splitFirst_marked front, splitTag_marked located.portless registry tagged,
      isName_append whole, located.host, tagged, digested, Bool.true_and, Bool.and_true]
  have full : (registry ++ '/' :: repository ++ marked ':' tag ++ marked '@' digest).isEmpty =
      false := by simp
  rw [ImageReference.read, full, if_neg Bool.false_ne_true, parts]
  by_cases path : isPath repository = true
  · simp only [path, if_true, located.splitRegistry, sound, versioned, Bool.false_eq_true,
      if_false, if_neg (Nat.not_lt.mpr bounded)]
  · simp only [path, Bool.false_eq_true, if_false]

/-- What holds of every reference that was read. -/
structure Normal (reference : ImageReference) : Prop where
  located : Located reference.registry.toList reference.repository.toList
  bounded : reference.repository.toList.length ≤ 255
  tagged : (reference.tag.map String.toList).all isTag = true
  digested : (reference.digest.map String.toList).all isDigest = true
  sound : (reference.digest.map String.toList).bind digestFault? = none
  versioned : (reference.tag.isNone && reference.digest.isNone) = false

theorem parts?_iff {text name : List Char} {tag digest : Option (List Char)} :
    parts? text = some (name, tag, digest) ↔
      (splitTag (splitFirst '@' text).1 = (name, tag) ∧ (splitFirst '@' text).2 = digest) ∧
        isName name = true ∧ tag.all isTag = true ∧ digest.all isDigest = true := by
  unfold parts?
  grind

theorem read_ok_iff {text : List Char} {reference : ImageReference} :
    ImageReference.read text = .ok reference ↔ ∃ name tag digest,
      parts? text = some (name, tag, digest) ∧ (splitRegistry name).2.length ≤ 255 ∧
        digest.bind digestFault? = none ∧
        reference = ⟨String.ofList (splitRegistry name).1, String.ofList (splitRegistry name).2,
          (if tag.isNone && digest.isNone then some "latest".toList else tag).map String.ofList,
          digest.map String.ofList⟩ := by
  have empty : parts? [] = none := by decide
  unfold ImageReference.read
  grind

theorem map_toList_map_ofList (part : Option (List Char)) :
    (part.map String.ofList).map String.toList = part := by
  cases part <;> simp

theorem normal_of_read {text : List Char} {reference : ImageReference}
    (accepted : ImageReference.read text = .ok reference) : Normal reference := by
  obtain ⟨name, tag, digest, parts, bounded, sound, rfl⟩ := read_ok_iff.mp accepted
  obtain ⟨-, named, tagged, digested⟩ := parts?_iff.mp parts
  refine ⟨?_, ?_, ?_, ?_, ?_, ?_⟩
  · simpa only [String.toList_ofList] using located_splitRegistry named
  · simpa only [String.toList_ofList] using bounded
  · rw [map_toList_map_ofList]
    split
    · decide +kernel
    · exact tagged
  · rwa [map_toList_map_ofList]
  · rwa [map_toList_map_ofList]
  · cases tag <;> cases digest <;> rfl

def hasCapital (reference : ImageReference) : Bool := reference.repository.toList.any Char.isUpper

theorem Normal.isPath_eq {reference : ImageReference} (normal : Normal reference) :
    isPath reference.repository.toList = !reference.hasCapital := by
  rw [Bool.eq_iff_iff, isPath_iff_small normal.located.named normal.located.portless]
  simp [hasCapital]

theorem toText_toList (reference : ImageReference) : reference.toText.toList =
    reference.registry.toList ++ '/' :: reference.repository.toList ++
      marked ':' (reference.tag.map String.toList) ++
        marked '@' (reference.digest.map String.toList) := by
  obtain ⟨registry, repository, tag, digest⟩ := reference
  cases tag <;> cases digest <;> simp [toText, name, marked]

theorem Normal.visible {reference : ImageReference} (normal : Normal reference) :
    ∀ c ∈ reference.toText.toList, isBlank c = false := by
  have introduced {mark : Char} {part : Option (List Char)} {accept : List Char → Bool}
      (clear : isBlank mark = false) (kept : part.all accept = true)
      (inside : ∀ {text}, accept text = true → ∀ c ∈ text, isBlank c = false) :
      ∀ c ∈ marked mark part, isBlank c = false := by
    cases part with
    | none => simp [marked]
    | some text => exact List.forall_mem_cons.mpr ⟨clear, inside kept⟩
  rw [toText_toList]
  simp only [List.forall_mem_append, List.forall_mem_cons]
  exact ⟨⟨⟨fun c member => isBlank_of_nameChar (first_chars normal.located.host c member),
    by decide, name_visible normal.located.named⟩,
    introduced (by decide) normal.tagged tag_visible⟩,
    introduced (by decide) normal.digested digest_visible⟩

theorem Normal.parse {reference : ImageReference} (normal : Normal reference) :
    parse reference.toText =
      if reference.hasCapital
      then .error (.input (.referenceInvalid reference.toText "invalid reference format"))
      else .ok reference := by
  have same : trimmed reference.toText = reference.toText := by
    have visible := normal.visible
    rw [trimmed, trim_eq_self, String.ofList_toList]
    · exact fun c first => visible c (List.mem_of_head? first)
    · exact fun c last => visible c (List.mem_of_getLast? last)
  have versioned : ((reference.tag.map String.toList).isNone &&
      (reference.digest.map String.toList).isNone) = false := by
    simpa only [Option.isNone_map] using normal.versioned
  have back := normal.located.read normal.bounded normal.tagged normal.digested normal.sound
    versioned
  rw [ImageReference.parse, same, toText_toList, back, normal.isPath_eq]
  cases reference.hasCapital
  · simp
  · rfl

def isChecksum (value : String) : Bool :=
  value.toList.length == 64 && value.toList.all fun c => c.isDigit || 'a' ≤ c && c ≤ 'f'

theorem isDigest_checksum {value : String} (checksum : isChecksum value = true) :
    isDigest ("sha256:" ++ value).toList = true ∧
      digestFault? ("sha256:" ++ value).toList = none := by
  have split : splitFirst ':' ("sha256:" ++ value).toList =
      ("sha256".toList, some value.toList) := by
    have mark : "sha256:".toList = "sha256".toList ++ [':'] := by decide +kernel
    have absent : ':' ∉ "sha256".toList := by decide +kernel
    rw [String.toList_append, mark, List.append_assoc]
    exact splitFirst_append absent value.toList
  obtain ⟨size, digits⟩ := Bool.and_eq_true_iff.mp checksum
  have size : value.toList.length = 64 := beq_iff_eq.mp size
  have hex : value.toList.all isHexDigit = true := by
    rw [List.all_eq_true] at digits ⊢
    intro c member
    rw [isHexDigit, digits c member, Bool.true_or]
  constructor
  · rw [isDigest, split]
    dsimp only
    rw [size, hex]
    decide +kernel
  · rw [digestFault?, split]
    simp [size]

theorem atDigest_eq (reference : ImageReference) (digest : String) :
    reference.atDigest digest =
      toText { reference with tag := none, digest := some digest } := by
  simp [atDigest, toText, name, String.append_assoc]

theorem Normal.pinned {reference : ImageReference} (normal : Normal reference) {value : String}
    (checksum : isChecksum value = true) :
    Normal { reference with tag := none, digest := some ("sha256:" ++ value) } where
  located := normal.located
  bounded := normal.bounded
  tagged := rfl
  digested := (isDigest_checksum checksum).1
  sound := (isDigest_checksum checksum).2
  versioned := rfl

theorem normal_of_parse {text : String} {reference : ImageReference}
    (parsed : ImageReference.parse text = .ok reference) : Normal reference := by
  unfold ImageReference.parse at parsed
  cases result : ImageReference.read (trimmed text).toList with
  | error reason => simp [result] at parsed
  | ok read =>
      simp only [result, mapError_ok, Except.ok.injEq] at parsed
      exact normal_of_read (parsed ▸ result)

/--
Whatever text a reference was read from, its full text and the text that names one artifact of its
repository are read back, unless its path has capitals: then both are refused.
-/
theorem parse_normalized {text : String} {reference : ImageReference}
    (parsed : ImageReference.parse text = .ok reference) :
    ImageReference.parse reference.toText =
        (if reference.hasCapital
          then .error (.input (.referenceInvalid reference.toText "invalid reference format"))
          else .ok reference) ∧
      ∀ value, isChecksum value = true →
        ImageReference.parse (reference.atDigest ("sha256:" ++ value)) =
          if reference.hasCapital
          then .error (.input (.referenceInvalid (reference.atDigest ("sha256:" ++ value))
            "invalid reference format"))
          else .ok ⟨reference.registry, reference.repository, none, some ("sha256:" ++ value)⟩ := by
  have normal := normal_of_parse parsed
  refine ⟨normal.parse, fun value checksum => ?_⟩
  rw [atDigest_eq]
  exact (normal.pinned checksum).parse

theorem parse_contoso :
    ImageReference.parse " Contoso.azurecr.io:443/infra/frag\n" =
        .ok ⟨"Contoso.azurecr.io:443", "infra/frag", some "latest", none⟩ ∧
      ImageReference.parse "Contoso.azurecr.io:443/infra/frag:latest" =
        .ok ⟨"Contoso.azurecr.io:443", "infra/frag", some "latest", none⟩ ∧
      ImageReference.parse ("Contoso.azurecr.io:443/infra/frag@sha256:" ++
          "9f86d081884c7d659a2feaa0c55ad015a3bf4f1b2b0b822cd15d6c15b0f00a08") =
        .ok ⟨"Contoso.azurecr.io:443", "infra/frag", none, some
          "sha256:9f86d081884c7d659a2feaa0c55ad015a3bf4f1b2b0b822cd15d6c15b0f00a08"⟩ := by
  have parsed : ImageReference.parse " Contoso.azurecr.io:443/infra/frag\n" =
      .ok ⟨"Contoso.azurecr.io:443", "infra/frag", some "latest", none⟩ :=
    ok_of_toOption (by decide +kernel)
  obtain ⟨full, pinned⟩ := parse_normalized parsed
  have small : hasCapital ⟨"Contoso.azurecr.io:443", "infra/frag", some "latest", none⟩ =
      false := by decide +kernel
  rw [small] at full pinned
  refine ⟨parsed, ?_, ?_⟩
  · exact full
  · exact pinned "9f86d081884c7d659a2feaa0c55ad015a3bf4f1b2b0b822cd15d6c15b0f00a08"
      (by decide +kernel)

theorem parse_capital :
    ImageReference.parse "Foo/bar" = .ok ⟨"docker.io", "Foo/bar", some "latest", none⟩ ∧
      toText ⟨"docker.io", "Foo/bar", some "latest", none⟩ = "docker.io/Foo/bar:latest" ∧
      ImageReference.parse "docker.io/Foo/bar:latest" = .error (.input
        (.referenceInvalid "docker.io/Foo/bar:latest" "invalid reference format")) := by
  have parsed : ImageReference.parse "Foo/bar" =
      .ok ⟨"docker.io", "Foo/bar", some "latest", none⟩ := ok_of_toOption (by decide +kernel)
  have text : toText ⟨"docker.io", "Foo/bar", some "latest", none⟩ =
      "docker.io/Foo/bar:latest" := by decide +kernel
  have back := (normal_of_parse parsed).parse
  rw [text, if_pos (by decide +kernel)] at back
  exact ⟨parsed, text, back⟩

end Enforcement.ImageReference
