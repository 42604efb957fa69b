import Enforcement.Proofs.Text.Words
import Enforcement.Template.Reference
import Enforcement.Text.WordCharacter

/-! How a reference is written, and that no other one with a clear name begins inside it. -/

namespace Enforcement.Template

open Enforcement.Text

theorem after?_iff {word text rest : List Char} :
    after? word text = some rest ↔ text = word ++ rest := by
  induction word generalizing text with
  | nil => simp [after?, eq_comm]
  | cons letter letters ih =>
      cases text with
      | nil => simp [after?]
      | cons c text =>
          by_cases same : letter = c
          · simp [after?, same, ih]
          · simp [after?, same, Ne.symm same]

theorem after?_append (word rest : List Char) : after? word (word ++ rest) = some rest :=
  after?_iff.mpr rfl

def AllBlank (text : List Char) : Prop := ∀ c ∈ text, isBlank c = true

theorem trimStart_blanks {blanks : List Char} (all : AllBlank blanks) (text : List Char) :
    trimStart (blanks ++ text) = trimStart text := List.dropWhile_append_of_pos all

theorem trimStart_split (text : List Char) :
    ∃ blanks, AllBlank blanks ∧ text = blanks ++ trimStart text := by
  refine ⟨text.takeWhile isBlank, ?_, (trimStart_append_dropped text).symm⟩
  exact List.all_eq_true.mp List.all_takeWhile

/-- A reference with the white space that may stand in three places of it. -/
structure Spelling where
  reference : Reference
  opening : List Char
  inner : List Char
  closing : List Char

namespace Spelling

def lead (spelling : Spelling) : List Char :=
  '[' :: (spelling.opening ++ (spelling.reference.kind.keyword ++ '(' ::
    (spelling.inner ++ ['\''])))

def tail (spelling : Spelling) : List Char := '\'' :: (spelling.closing ++ [')', ']'])

def text (spelling : Spelling) : List Char :=
  spelling.lead ++ (spelling.reference.name ++ spelling.tail)

structure Valid (spelling : Spelling) : Prop where
  opening : AllBlank spelling.opening
  inner : AllBlank spelling.inner
  closing : AllBlank spelling.closing
  named : spelling.reference.name ≠ []
  letters : ∀ c ∈ spelling.reference.name, isNameChar c = true

end Spelling

theorem parameters_keyword : ReferenceKind.parameters.keyword =
    'p' :: ['a', 'r', 'a', 'm', 'e', 't', 'e', 'r', 's'] := by decide

theorem variables_keyword : ReferenceKind.variables.keyword =
    'v' :: ['a', 'r', 'i', 'a', 'b', 'l', 'e', 's'] := by decide

theorem keyword_start (kind : ReferenceKind) :
    ∃ c letters, kind.keyword = c :: letters ∧ isBlank c = false := by
  cases kind
  · exact ⟨'p', _, parameters_keyword, by decide⟩
  · exact ⟨'v', _, variables_keyword, by decide⟩

theorem keyword?_iff {text rest : List Char} {kind : ReferenceKind} :
    keyword? text = some (kind, rest) ↔ text = kind.keyword ++ rest := by
  unfold keyword?
  cases first : after? ReferenceKind.parameters.keyword text with
  | some found =>
      have split := after?_iff.mp first
      subst split
      cases kind
      · simp
      · rw [parameters_keyword, variables_keyword]
        simp
  | none =>
      cases kind
      · constructor
        · intro read
          simp at read
        · rintro rfl
          rw [after?_append] at first
          cases first
      · simp [after?_iff]

theorem trimStart_cons {c : Char} (visible : isBlank c = false) (text : List Char) :
    trimStart (c :: text) = c :: text := trimStart_eq_self (by simp [visible])

theorem spelling_of_reference? {text rest : List Char} {reference : Reference}
    (read : reference? text = some (reference, rest)) :
    ∃ spelling : Spelling, spelling.Valid ∧ spelling.reference = reference ∧
      text = spelling.text ++ rest := by
  unfold reference? at read
  obtain ⟨afterBracket, bracket, read⟩ := Option.bind_eq_some_iff.mp read
  obtain ⟨⟨kind, afterKind⟩, keyword, read⟩ := Option.bind_eq_some_iff.mp read
  obtain ⟨afterOpen, parenthesis, read⟩ := Option.bind_eq_some_iff.mp read
  obtain ⟨afterQuote, quote, read⟩ := Option.bind_eq_some_iff.mp read
  obtain ⟨_, named, read⟩ := Option.bind_eq_some_iff.mp read
  obtain ⟨afterName, closeQuote, read⟩ := Option.bind_eq_some_iff.mp read
  obtain ⟨last, close, same⟩ := Option.bind_eq_some_iff.mp read
  cases same
  obtain ⟨opening, blankOpening, openingSplit⟩ := trimStart_split afterBracket
  obtain ⟨inner, blankInner, innerSplit⟩ := trimStart_split afterOpen
  obtain ⟨closing, blankClosing, closingSplit⟩ := trimStart_split afterName
  refine ⟨⟨⟨kind, afterQuote.takeWhile isNameChar⟩, opening, inner, closing⟩,
    ⟨blankOpening, blankInner, blankClosing, ?_, ?_⟩, rfl, ?_⟩
  · intro none
    change afterQuote.takeWhile isNameChar = [] at none
    rw [none] at named
    cases named
  · exact List.all_eq_true.mp List.all_takeWhile
  · have nameSplit : afterQuote = afterQuote.takeWhile isNameChar ++ '\'' :: afterName := by
      rw [← List.singleton_append, ← after?_iff.mp closeQuote]
      exact List.takeWhile_append_dropWhile.symm
    calc
      text = '[' :: (opening ++ trimStart afterBracket) := by
        rw [← openingSplit]
        exact after?_iff.mp bracket
      _ = '[' :: (opening ++ (kind.keyword ++ '(' :: (inner ++ trimStart afterOpen))) := by
        rw [keyword?_iff.mp keyword, after?_iff.mp parenthesis, ← innerSplit]
        rfl
      _ = '[' :: (opening ++ (kind.keyword ++ '(' :: (inner ++ '\'' ::
            (afterQuote.takeWhile isNameChar ++ '\'' :: (closing ++ trimStart afterName))))) := by
        rw [after?_iff.mp quote, ← closingSplit, ← nameSplit]
        rfl
      _ = _ := by
        rw [after?_iff.mp close]
        simp [Spelling.text, Spelling.lead, Spelling.tail]

theorem reference?_spelling {spelling : Spelling} (valid : spelling.Valid) (rest : List Char) :
    reference? (spelling.text ++ rest) = some (spelling.reference, rest) := by
  obtain ⟨c, letters, keyword, visible⟩ := keyword_start spelling.reference.kind
  have name :
      (spelling.reference.name ++ '\'' :: (spelling.closing ++ ')' :: ']' :: rest)).takeWhile
        isNameChar = spelling.reference.name ∧
      (spelling.reference.name ++ '\'' :: (spelling.closing ++ ')' :: ']' :: rest)).dropWhile
        isNameChar = '\'' :: (spelling.closing ++ ')' :: ']' :: rest) :=
    takeWhile_run valid.letters (by simp [isNameChar])
  have afterBracket : after? ['['] (spelling.text ++ rest) =
    some (spelling.opening ++ (spelling.reference.kind.keyword ++ '(' :: (spelling.inner ++
      '\'' :: (spelling.reference.name ++ '\'' :: (spelling.closing ++ ')' :: ']' :: rest))))) := by
    rw [after?_iff]
    simp [Spelling.text, Spelling.lead, Spelling.tail]
  have trimmed (tail : List Char) : trimStart (spelling.opening ++ (spelling.reference.kind.keyword
      ++ tail)) = spelling.reference.kind.keyword ++ tail := by
    rw [trimStart_blanks valid.opening, keyword, List.cons_append, trimStart_cons visible]
  have inner (tail : List Char) : trimStart (spelling.inner ++ '\'' :: tail) = '\'' :: tail := by
    rw [trimStart_blanks valid.inner, trimStart_cons (by decide)]
  have closing : trimStart (spelling.closing ++ ')' :: ']' :: rest) = ')' :: ']' :: rest := by
    rw [trimStart_blanks valid.closing, trimStart_cons (by decide)]
  have kind (tail : List Char) : keyword? (spelling.reference.kind.keyword ++ tail) =
      some (spelling.reference.kind, tail) := keyword?_iff.mpr rfl
  have named : guard (!spelling.reference.name.isEmpty) = some () :=
    if_pos (by simp [valid.named])
  unfold reference?
  refine Option.bind_eq_some_iff.mpr ⟨_, afterBracket, ?_⟩
  dsimp only
  rw [trimmed]
  refine Option.bind_eq_some_iff.mpr ⟨_, kind _, ?_⟩
  refine Option.bind_eq_some_iff.mpr ⟨_, after?_append ['('] (spelling.inner ++ '\'' ::
    (spelling.reference.name ++ '\'' :: (spelling.closing ++ ')' :: ']' :: rest))), ?_⟩
  dsimp only
  rw [inner]
  refine Option.bind_eq_some_iff.mpr ⟨_, after?_append ['\''] (spelling.reference.name ++
    '\'' :: (spelling.closing ++ ')' :: ']' :: rest)), ?_⟩
  rw [name.1, name.2]
  refine Option.bind_eq_some_iff.mpr ⟨(), named, ?_⟩
  refine Option.bind_eq_some_iff.mpr ⟨_, after?_append ['\''] (spelling.closing ++
    ')' :: ']' :: rest), ?_⟩
  rw [closing]
  exact Option.bind_eq_some_iff.mpr ⟨_, after?_append [')', ']'] rest, rfl⟩

/-- What is read as a reference is one of its spellings, and each of them is read. -/
theorem reference?_iff {text rest : List Char} {reference : Reference} :
    reference? text = some (reference, rest) ↔
      ∃ spelling : Spelling, spelling.Valid ∧ spelling.reference = reference ∧
        text = spelling.text ++ rest := by
  constructor
  · exact spelling_of_reference?
  · intro given
    obtain ⟨spelling, valid, same, split⟩ := given
    rw [split, ← same]
    exact reference?_spelling valid rest

theorem reference?_none {c : Char} (other : c ≠ '[') (text : List Char) :
    reference? (c :: text) = none := by
  have bracket : after? ['['] (c :: text) = none := if_neg (Ne.symm other)
  unfold reference?
  rw [bracket]
  rfl

theorem reference?_of_keyword {text : List Char} (foreign : keyword? (trimStart text) = none) :
    reference? ('[' :: text) = none := by
  have bracket : after? ['['] ('[' :: text) = some text := after?_append ['['] text
  unfold reference?
  rw [bracket]
  change (keyword? (trimStart text)).bind _ = none
  rw [foreign]
  rfl

theorem occurrencesFrom_ne_nil {text : List Char} (position : Nat) (before : List Char) :
    occurrencesFrom position 0 before text ≠ [] ↔
      ∃ skipped rest found, text = skipped ++ rest ∧ reference? rest = some found := by
  induction text generalizing position before with
  | nil =>
      constructor
      · intro listed
        exact absurd rfl listed
      · rintro ⟨skipped, rest, found, split, read⟩
        rw [(List.append_eq_nil_iff.mp split.symm).2] at read
        cases read
  | cons c text ih =>
      unfold occurrencesFrom
      cases here : reference? (c :: text) with
      | some found => exact ⟨fun _ => ⟨[], _, found, rfl, here⟩, fun _ => List.cons_ne_nil _ _⟩
      | none =>
          dsimp only
          rw [ih]
          constructor
          · rintro ⟨skipped, rest, found, rfl, read⟩
            exact ⟨c :: skipped, rest, found, rfl, read⟩
          · rintro ⟨skipped, rest, found, split, read⟩
            rcases List.cons_eq_append_iff.mp split with ⟨-, rfl⟩ | ⟨behind, -, same⟩
            · rw [here] at read
              cases read
            · exact ⟨behind, rest, found, same, read⟩

theorem containsReference_iff {text : List Char} :
    containsReference text = true ↔
      ∃ before rest, ∃ spelling : Spelling, spelling.Valid ∧
        text = before ++ (spelling.text ++ rest) := by
  have listed := @occurrencesFrom_ne_nil text 0 []
  rw [containsReference, Bool.not_eq_true', List.isEmpty_eq_false_iff, occurrences, listed]
  constructor
  · rintro ⟨before, rest, ⟨reference, after⟩, rfl, read⟩
    obtain ⟨spelling, valid, -, rfl⟩ := reference?_iff.mp read
    exact ⟨before, after, spelling, valid, rfl⟩
  · rintro ⟨before, rest, spelling, valid, rfl⟩
    exact ⟨before, spelling.text ++ rest, (spelling.reference, rest), rfl,
      reference?_spelling valid rest⟩

def isPlainChar (c : Char) : Bool := c.isAlphanum || c == '_' || c == '-'

def Plain (name : List Char) : Prop := ∀ c ∈ name, isPlainChar c = true

instance (name : List Char) : Decidable (Plain name) :=
  List.decidableBAll (isPlainChar · = true) name

/-- A name that no escape and no end of a reference can be taken for. -/
structure Clear (name : List Char) : Prop where
  quote : '"' ∉ name
  slash : '\\' ∉ name
  close : ')' ∉ name

instance (name : List Char) : Decidable (Clear name) :=
  decidable_of_iff ('"' ∉ name ∧ '\\' ∉ name ∧ ')' ∉ name)
    ⟨fun given => ⟨given.1, given.2.1, given.2.2⟩,
      fun clear => ⟨clear.quote, clear.slash, clear.close⟩⟩

theorem Plain.clear {name : List Char} (plain : Plain name) : Clear name := by
  have foreign {mark : Char} (other : isPlainChar mark = false) : mark ∉ name := by
    intro member
    rw [plain mark member] at other
    cases other
  exact ⟨foreign (by decide), foreign (by decide), foreign (by decide)⟩

theorem plain_not_blank {c : Char} (plain : isPlainChar c = true) : isBlank c = false := by
  have cases : c.isAlphanum = true ∨ c = '_' ∨ c = '-' := by
    simpa [isPlainChar, or_assoc] using plain
  rcases cases with letter | rfl | rfl
  · exact isBlank_of_isAlphanum letter
  · decide
  · decide

theorem split_at_quote {first second left right : List Char}
    (same : first ++ '\'' :: left = second ++ '\'' :: right) (unquoted : '\'' ∉ first)
    (unquoted' : '\'' ∉ second) : first = second ∧ left = right := by
  induction first generalizing second with
  | nil =>
      cases second with
      | nil => exact ⟨rfl, by simpa using same⟩
      | cons d second =>
          cases same
          simp at unquoted'
  | cons c first ih =>
      cases second with
      | nil =>
          cases same
          simp at unquoted
      | cons d second =>
          simp only [List.cons_append, List.cons.injEq] at same
          obtain ⟨rfl, same⟩ := same
          obtain ⟨rfl, rest⟩ := ih same (by simp_all) (by simp_all)
          exact ⟨rfl, rest⟩

namespace Spelling

theorem text_eq (spelling : Spelling) (rest : List Char) : spelling.text ++ rest =
    spelling.lead ++ (spelling.reference.name ++ (spelling.tail ++ rest)) := by
  simp [text]

theorem not_bracket_of_blank {c : Char} (blank : isBlank c = true) : c ≠ '[' := by
  rintro rfl
  revert blank
  decide

theorem bracket_notMem_keyword (kind : ReferenceKind) : '[' ∉ kind.keyword := by
  cases kind
  · rw [parameters_keyword]; decide
  · rw [variables_keyword]; decide

theorem bracket_notMem_lead {spelling : Spelling} (valid : spelling.Valid) :
    '[' ∉ spelling.lead.tail := by
  have blanks {text : List Char} (all : AllBlank text) : '[' ∉ text :=
    fun member => not_bracket_of_blank (all _ member) rfl
  simp [lead, blanks valid.opening, blanks valid.inner, bracket_notMem_keyword]

theorem bracket_notMem_tail {spelling : Spelling} (valid : spelling.Valid) :
    '[' ∉ spelling.tail := by
  have blanks : '[' ∉ spelling.closing :=
    fun member => not_bracket_of_blank (valid.closing _ member) rfl
  simp [tail, blanks]

theorem quote_notMem_lead {spelling : Spelling} (valid : spelling.Valid) :
    ∃ head, spelling.lead = head ++ ['\''] ∧ '\'' ∉ head := by
  have blanks {text : List Char} (all : AllBlank text) : '\'' ∉ text := by
    intro member
    have blank := all _ member
    revert blank
    decide
  have keyword : '\'' ∉ spelling.reference.kind.keyword := by
    cases spelling.reference.kind
    · rw [parameters_keyword]; decide
    · rw [variables_keyword]; decide
  refine ⟨'[' :: (spelling.opening ++ (spelling.reference.kind.keyword ++ '(' ::
    spelling.inner)), by simp [lead], ?_⟩
  simp [blanks valid.opening, blanks valid.inner, keyword]

theorem quote_notMem_name {spelling : Spelling} (valid : spelling.Valid) :
    '\'' ∉ spelling.reference.name := by
  intro member
  have letter := valid.letters _ member
  revert letter
  decide

theorem name_behind {outer inner : Spelling} (outside : outer.Valid) (inside : inner.Valid)
    {passed start rest left : List Char} (split : outer.reference.name = passed ++ start)
    (same : inner.text ++ left = start ++ (outer.tail ++ rest)) : ')' ∈ inner.reference.name := by
  obtain ⟨head, ends, unquoted⟩ := quote_notMem_lead inside
  have startUnquoted : '\'' ∉ start := fun member =>
    quote_notMem_name outside (by simp [split, member])
  have aligned : head ++ '\'' :: (inner.reference.name ++ (inner.tail ++ left)) =
      start ++ '\'' :: (outer.closing ++ ')' :: ']' :: rest) := by
    rw [text_eq, ends] at same
    simpa [tail] using same
  obtain ⟨-, names⟩ := split_at_quote aligned unquoted startUnquoted
  rcases List.append_eq_append_iff.mp names with ⟨more, within, behind⟩ | ⟨more, longer, behind⟩
  · cases more with
    | nil => cases behind
    | cons c more =>
        obtain ⟨rfl, -⟩ : '\'' = c ∧ _ := List.cons.inj behind
        cases outside.closing '\'' (by simp [within])
  · cases more with
    | nil => cases behind
    | cons c more =>
        obtain ⟨rfl, -⟩ := List.cons.inj behind
        simp [longer]

theorem text_start (spelling : Spelling) (rest : List Char) :
    ∃ more, spelling.text ++ rest = '[' :: more := ⟨_, rfl⟩

/-- A reference that begins inside another one has no clear name. -/
theorem not_clear_inside {outer inner : Spelling} (outside : outer.Valid) (inside : inner.Valid)
    {skipped rest left : List Char} (some : skipped ≠ [])
    (longer : rest.length < (inner.text ++ left).length)
    (same : outer.text ++ rest = skipped ++ (inner.text ++ left)) :
    ¬ Clear inner.reference.name := by
  obtain ⟨more, bracket⟩ := inner.text_start left
  have starts {part text following : List Char} (foreign : '[' ∉ text)
      (within : ∀ c ∈ part, c ∈ text) (split : inner.text ++ left = part ++ following) :
      part = [] := by
    cases part with
    | nil => rfl
    | cons c part =>
        rw [bracket] at split
        cases split
        exact absurd (within '[' List.mem_cons_self) foreign
  rw [text_eq] at same
  rcases List.append_eq_append_iff.mp same with ⟨passed, rfl, inName⟩ | ⟨part, split, inLead⟩
  · rcases List.append_eq_append_iff.mp inName with ⟨beyond, rfl, inTail⟩ | ⟨start, split, inside'⟩
    · rcases List.append_eq_append_iff.mp inTail with ⟨far, rfl, inRest⟩ | ⟨part, split, inner'⟩
      · rw [inRest, List.length_append] at longer
        omega
      · have empty := starts (bracket_notMem_tail outside)
          (fun c member => by simp [split, member]) inner'
        rw [inner', empty] at longer
        simp at longer
    · exact fun clear => clear.close (name_behind outside inside split inside')
  · have empty := starts (bracket_notMem_lead outside) (fun c member => by
      cases skipped with
      | nil => contradiction
      | cons d skipped =>
          rw [split]
          simp [member]) inLead
    subst empty
    exact fun clear => clear.close (@name_behind outer inner outside inside [] _ _ _ rfl inLead)

end Spelling

end Enforcement.Template
