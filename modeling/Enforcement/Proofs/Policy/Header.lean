import Enforcement.Proofs.Trust.VersionNumber

/-!
The header of a rendered fragment read back. The name of the package is always found again. It
stands before the version, so the version is found again unless that name mentions another one.
-/

namespace Enforcement.Rego

open Enforcement.Template Enforcement.Text

/-! Mentions of a version in a text that goes on behind a word. -/

def Unbroken (word : List Char) : Prop := ∀ c ∈ word, isBlank c = false

instance (word : List Char) : Decidable (Unbroken word) :=
  List.decidableBAll (isBlank · = false) word

/-- A new line begins here, and what comes on it does not go on with a mention begun before. -/
structure Apart (text : List Char) : Prop where
  line : ∃ more, text = '\n' :: more
  foreign : ∀ c ∈ (trimStart text).head?, c ≠ ':' ∧ c ≠ '"'

theorem svnAt?_none {c : Char} (other : c ≠ 's') (text : List Char) :
    svnAt? (c :: text) = none := by
  have name : after? ['s', 'v', 'n'] (c :: text) = none := if_neg (Ne.symm other)
  rw [svnAt?, name]
  rfl

theorem findSvn?_skip {c : Char} (other : c ≠ 's') (text : List Char) :
    findSvn? (c :: text) = findSvn? text := by
  rw [findSvn?, svnAt?_none other, Option.none_or]

theorem after?_append_rest {marker word rest : List Char}
    (foreign : ∀ c ∈ rest.head?, c ∉ marker) :
    after? marker (word ++ rest) = (after? marker word).map (· ++ rest) := by
  induction marker generalizing word with
  | nil => rfl
  | cons letter letters ih =>
      cases word with
      | nil =>
          cases rest with
          | nil => rfl
          | cons c rest =>
              have different : letter ≠ c := fun same => foreign c rfl (by simp [same])
              exact if_neg different
      | cons c word =>
          have later := @ih word fun d head member =>
            foreign d head (List.mem_cons_of_mem letter member)
          rw [List.cons_append, after?, after?, later]
          split
          · rfl
          · rfl

theorem Unbroken.trimStart_eq {word : List Char} (unbroken : Unbroken word) :
    trimStart word = word :=
  trimStart_eq_self fun c head => unbroken c (List.mem_of_mem_head? head)

theorem Unbroken.of_after? {marker word rest : List Char} (unbroken : Unbroken word)
    (found : after? marker word = some rest) : Unbroken rest := by
  rw [after?_iff] at found
  intro c member
  exact unbroken c (by simp [found, member])

theorem after?_trimStart {letter : Char} {letters word rest : List Char}
    (unbroken : Unbroken word) (apart : Apart rest) (line : '\n' ∉ letter :: letters)
    (foreign : ∀ c ∈ (trimStart rest).head?, c ≠ letter) :
    after? (letter :: letters) (trimStart (word ++ rest)) =
      (after? (letter :: letters) (trimStart word)).map (· ++ rest) := by
  cases word with
  | nil =>
      change after? (letter :: letters) (trimStart rest) = none
      cases start : trimStart rest with
      | nil => rfl
      | cons c text =>
          rw [start] at foreign
          exact if_neg (Ne.symm (foreign c rfl))
  | cons c word =>
      have visible := unbroken c List.mem_cons_self
      rw [List.cons_append, trimStart_cons visible, trimStart_cons visible, ← List.cons_append]
      apply after?_append_rest
      obtain ⟨more, rfl⟩ := apart.line
      intro d head
      cases head
      exact line

theorem digits_append {word rest : List Char} (apart : Apart rest) :
    (word ++ rest).takeWhile isDecimalDigit = word.takeWhile isDecimalDigit ∧
      (word ++ rest).dropWhile isDecimalDigit = word.dropWhile isDecimalDigit ++ rest := by
  obtain ⟨more, rfl⟩ := apart.line
  have stop : isDecimalDigit '\n' = false := by decide
  constructor
  · rw [List.takeWhile_append]
    split
    · rename_i all
      rw [List.takeWhile_cons_of_neg (by simp [stop]), List.append_nil]
      exact (List.takeWhile_sublist _).eq_of_length all |>.symm
    · rfl
  · rw [List.dropWhile_append]
    split
    · rename_i none
      rw [List.isEmpty_iff.mp none, List.dropWhile_cons_of_neg (by simp [stop]), List.nil_append]
    · rfl

/-- No mention begins in a word and ends behind it. -/
theorem svnAt?_word {word rest : List Char} (unbroken : Unbroken word) (apart : Apart rest) :
    svnAt? (word ++ rest) = svnAt? word := by
  have line {marker : List Char} (single : '\n' ∉ marker) : ∀ c ∈ rest.head?, c ∉ marker := by
    obtain ⟨more, rfl⟩ := apart.line
    intro c head
    cases head
    exact single
  unfold svnAt?
  rw [after?_append_rest (line (by decide))]
  cases named : after? ['s', 'v', 'n'] word with
  | none => rfl
  | some first =>
      have wordFirst := unbroken.of_after? named
      change ((after? [':', '='] (trimStart (first ++ rest))).bind _) =
        ((after? [':', '='] (trimStart first)).bind _)
      rw [after?_trimStart wordFirst apart (by decide) fun c head => (apart.foreign c head).1,
        wordFirst.trimStart_eq]
      cases signed : after? [':', '='] first with
      | none => rfl
      | some second =>
          have wordSecond := wordFirst.of_after? signed
          change ((after? ['"'] (trimStart (second ++ rest))).bind _) =
            ((after? ['"'] (trimStart second)).bind _)
          rw [after?_trimStart wordSecond apart (by decide) fun c head => (apart.foreign c head).2,
            wordSecond.trimStart_eq]
          cases quoted : after? ['"'] second with
          | none => rfl
          | some third =>
              obtain ⟨taken, dropped⟩ := @digits_append third rest apart
              dsimp only [Option.map_some, Option.bind_eq_bind, Option.bind_some]
              rw [taken, dropped, after?_append_rest (line (by decide))]
              cases after? ['"'] (third.dropWhile isDecimalDigit) with
              | none => rfl
              | some last => rfl

theorem findSvn?_word {word rest : List Char} (unbroken : Unbroken word) (apart : Apart rest) :
    findSvn? (word ++ rest) = (findSvn? word).or (findSvn? rest) := by
  induction word with
  | nil => rfl
  | cons c word ih =>
      have here := svnAt?_word unbroken apart
      rw [List.cons_append] at here ⊢
      rw [findSvn?, findSvn?, here, ih fun d member => unbroken d (List.mem_cons_of_mem c member),
        Option.or_assoc]

/-! What a rendered fragment is. -/

def fragmentVersion (policy : Policy) (svn : String) : Mention where
  before := []
  spaces := [' ']
  gap := [' ']
  digits := svn.toList
  after := "\nframework_version := \"".toList ++ (frameworkVersion.toList ++
    ("\"\n\n".toList ++ (listRules policy).toList))

def fragmentBody (policy : Policy) (svn : String) : List Char :=
  '\n' :: '\n' :: (fragmentVersion policy svn).tail

theorem word_iff {package : String} :
    (package.isEmpty || package.toList.any isBlank) = false ↔
      package ≠ "" ∧ Unbroken package.toList := by
  simp [Unbroken]

theorem renderFragment_ok_iff {policy : Policy} {package svn text : String} :
    renderFragment policy package svn = .ok text ↔
      package ≠ "" ∧ Unbroken package.toList ∧ (∃ value, Svn.parse svn = .ok value) ∧
        text.toList = "package ".toList ++ (package.toList ++ fragmentBody policy svn) := by
  have body : ("package " ++ package ++ "\n\nsvn := \"" ++ svn ++ "\"\n" ++
      "framework_version := \"" ++ frameworkVersion ++ "\"\n\n" ++ listRules policy).toList =
        "package ".toList ++ (package.toList ++ fragmentBody policy svn) := by
    simp [fragmentBody, fragmentVersion, Mention.tail]
  unfold renderFragment
  cases word : package.isEmpty || package.toList.any isBlank with
  | true =>
      constructor
      · intro rendered
        cases rendered
      · rintro ⟨some, unbroken, -⟩
        rw [word_iff.mpr ⟨some, unbroken⟩] at word
        cases word
  | false =>
      obtain ⟨some, unbroken⟩ := word_iff.mp word
      cases parsed : Svn.parse svn with
      | error failure =>
          constructor
          · intro rendered
            cases rendered
          · rintro ⟨-, -, ⟨value, parsed⟩, -⟩
            cases parsed
      | ok value =>
          constructor
          · intro rendered
            cases rendered
            exact ⟨some, unbroken, ⟨value, rfl⟩, body⟩
          · rintro ⟨-, -, -, same⟩
            rw [← body] at same
            rw [String.toList_inj.mp same]
            rfl

theorem digits_of_parse {svn : String} {value : Nat} (parsed : Svn.parse svn = .ok value) :
    svn.toList ≠ [] ∧ ∀ c ∈ svn.toList, c.isDigit = true := by
  have reads := Svn.parse_ok_iff.mp parsed
  exact ⟨mt String.toList_eq_nil_iff.mp reads.filled, reads.digits⟩

theorem valid_fragmentVersion (policy : Policy) {svn : String} {value : Nat}
    (parsed : Svn.parse svn = .ok value) : (fragmentVersion policy svn).Valid := by
  obtain ⟨some, digits⟩ := digits_of_parse parsed
  have blank : AllBlank [' '] := List.all_eq_true.mp rfl
  exact ⟨blank, blank, some, fun c member => isDecimalDigit_of_isDigit (digits c member)⟩

theorem apart_fragmentBody (policy : Policy) (svn : String) : Apart (fragmentBody policy svn) where
  line := ⟨_, rfl⟩
  foreign := by
    have lines : AllBlank ['\n', '\n'] := List.all_eq_true.mp rfl
    have start : trimStart (fragmentBody policy svn) = (fragmentVersion policy svn).tail :=
      (trimStart_blanks lines _).trans (trimStart_cons (c := 's') (by decide) _)
    rw [start]
    intro c head
    cases head
    decide

theorem findSvn?_fragmentBody (policy : Policy) {svn : String} {value : Nat}
    (parsed : Svn.parse svn = .ok value) :
    findSvn? (fragmentBody policy svn) = some svn.toList := by
  have here : svnAt? (fragmentVersion policy svn).tail = some svn.toList :=
    svnAt?_iff.mpr ⟨_, valid_fragmentVersion policy parsed, rfl, rfl⟩
  obtain ⟨more, start⟩ := (fragmentVersion policy svn).tail_start
  rw [fragmentBody, findSvn?_skip (by decide), findSvn?_skip (by decide)]
  rw [start] at here ⊢
  rw [findSvn?, here, Option.some_or]

theorem findSvn?_package (text : List Char) :
    findSvn? ("package ".toList ++ text) = findSvn? text := by
  change findSvn? (['p', 'a', 'c', 'k', 'a', 'g', 'e', ' '] ++ text) = findSvn? text
  simp only [List.cons_append, List.nil_append]
  repeat rw [findSvn?_skip (by decide)]

section Rendered

variable {policy : Policy} {package svn text : String}

theorem svnText?_renderFragment (rendered : renderFragment policy package svn = .ok text) :
    svnText? text = some ((svnText? package).getD svn) := by
  obtain ⟨-, unbroken, ⟨value, parsed⟩, same⟩ := renderFragment_ok_iff.mp rendered
  unfold svnText?
  rw [same, findSvn?_package, findSvn?_word unbroken (apart_fragmentBody policy svn),
    findSvn?_fragmentBody policy parsed]
  cases findSvn? package.toList with
  | none => exact congrArg some (String.ofList_toList)
  | some digits => rfl

theorem last_visible (rendered : renderFragment policy package svn = .ok text) :
    ∀ c ∈ ("package ".toList ++ package.toList).getLast?, isBlank c = false := by
  obtain ⟨some, unbroken, -⟩ := renderFragment_ok_iff.mp rendered
  exact Text.visible_last (by simpa using some) unbroken

theorem lines_renderFragment (rendered : renderFragment policy package svn = .ok text) :
    ∃ more, lines text.toList = ("package ".toList ++ package.toList) :: more := by
  obtain ⟨-, unbroken, -, same⟩ := renderFragment_ok_iff.mp rendered
  have single : '\n' ∉ "package ".toList ++ package.toList := by
    rw [List.mem_append, not_or]
    refine ⟨by decide, fun member => ?_⟩
    cases (unbroken _ member).symm.trans (by decide : isBlank '\n' = true)
  have last : ∀ c ∈ ("package ".toList ++ package.toList).getLast?, c ≠ '\r' := by
    rintro c final rfl
    cases (last_visible rendered _ final).symm.trans (by decide : isBlank '\r' = true)
  refine ⟨(fullLines ('\n' :: (fragmentVersion policy svn).tail)).map lineBody, ?_⟩
  rw [lines, same, ← List.append_assoc, fragmentBody, fullLines_line single, List.map_cons,
    lineBody_line last]

theorem package?_renderFragment (rendered : renderFragment policy package svn = .ok text) :
    package? text = some package := by
  obtain ⟨some, unbroken, -⟩ := renderFragment_ok_iff.mp rendered
  obtain ⟨more, first⟩ := lines_renderFragment rendered
  have line : trim ("package ".toList ++ package.toList) = "package ".toList ++ package.toList := by
    refine trim_eq_self ?_ (last_visible rendered)
    intro c head
    cases head
    decide
  have name : trim package.toList = package.toList :=
    trim_eq_self (fun c head => unbroken c (List.mem_of_mem_head? head))
      fun c last => unbroken c (List.mem_of_getLast? last)
  have found : packageOfLine? ("package ".toList ++ package.toList) = .some package.toList := by
    rw [packageOfLine?, line, after?_append, Option.map_some, name]
    exact Option.filter_eq_some_iff.mpr ⟨rfl, by simpa using some⟩
  rw [package?, first, List.findSome?_cons, found]
  exact congrArg Option.some String.ofList_toList

/--
The package is read back. The version is exactly when the package mentions no other one, since the
first mention counts and the package stands before the version.
-/
theorem renderFragment_header (rendered : renderFragment policy package svn = .ok text) :
    package? text = some package ∧
      svnText? text = some ((svnText? package).getD svn) ∧
      ((svnText? text = some svn ∧ ∃ value, Svn.parse svn = .ok value ∧ svn? text = some value) ↔
        ∀ version, svnText? package = some version → version = svn) := by
  obtain ⟨-, -, ⟨value, parsed⟩, -⟩ := renderFragment_ok_iff.mp rendered
  have version := svnText?_renderFragment rendered
  refine ⟨package?_renderFragment rendered, version, ?_⟩
  constructor
  · rintro ⟨same, -⟩ other mentioned
    rw [version, mentioned] at same
    exact Option.some.inj same
  · intro only
    have same : svnText? text = some svn := by
      rw [version]
      cases mentioned : svnText? package with
      | none => rfl
      | some other => rw [only other mentioned]; rfl
    refine ⟨same, value, parsed, ?_⟩
    rw [svn?, same, Option.bind_some]
    unfold Svn.parse at parsed
    split at parsed
    · rename_i found
      cases parsed
      exact found
    · cases parsed

end Rendered

/-- A policy whose texts hold quotes, line breaks and declarations. -/
def quotingPolicy : Policy where
  fragments := [⟨"did:web:\"quay\"", "quay.example/winch\"\nsvn := \"9", "3", [.containers]⟩]
  containers := [
    { id := "harbor.example/\"crane\"\n"
      name := "crane\n\ncontainers := []\n"
      command := ["sh", "-c", "echo \"package wharf\"\nsvn := \"9\""]
      envRules := [.literal "GREETING" "say \"ahoy\"\n"]
      mounts := [⟨"/mnt/\"deck\"", "sandbox:///deck\n", "bind", ["rbind", "ro"]⟩]
      execProcesses := [⟨["echo", "\"\n"], [9]⟩]
      signals := [15]
      allowStdioAccess := true
      securityContext := none }]

theorem renderFragment_contoso : ∃ text, renderFragment quotingPolicy "contoso" "007" = .ok text ∧
    package? text = some "contoso" ∧ svnText? text = some "007" ∧ svn? text = some 7 := by
  have rendered := (@renderFragment_ok_iff quotingPolicy "contoso" "007" _).mpr
    ⟨by decide, by decide, ⟨7, rfl⟩, String.toList_ofList⟩
  obtain ⟨package, -, version⟩ := renderFragment_header rendered
  have quiet : svnText? "contoso" = none := by decide +kernel
  obtain ⟨same, value, parsed, found⟩ := version.mpr fun other mentioned => by
    rw [quiet] at mentioned
    cases mentioned
  have seven : Svn.parse "007" = .ok 7 := rfl
  rw [seven] at parsed
  cases parsed
  exact ⟨_, rendered, package, same, found⟩

/-- A package whose name mentions a version is taken for the declaration of that version. -/
theorem renderFragment_numbered_package : ∃ text,
    renderFragment ⟨[], []⟩ "svn:=\"9\"" "7" = .ok text ∧ package? text = some "svn:=\"9\"" ∧
      svnText? text = some "9" ∧ svn? text = some 9 := by
  obtain ⟨text, rendered, seen⟩ := exists_ok (renderFragment ⟨[], []⟩ "svn:=\"9\"" "7")
    (fun text => (package? text, svnText? text, svn? text))
    (some "svn:=\"9\"", some "9", some 9) (by decide +kernel)
  exact ⟨text, rendered, by simpa using seen⟩

end Enforcement.Rego
