import Enforcement.Text.Blank
import Enforcement.Text.LetterCase
import Enforcement.Text.Line
import Enforcement.Text.WordCharacter

/-! Texts put together from words and lines: trimming leaves them, and they are found again. -/

namespace Enforcement.Text

theorem isBlank_of_ascii {c : Char} (low : 33 ≤ c.toNat) (high : c.toNat < 128) :
    isBlank c = false := by
  rw [Bool.eq_false_iff]
  intro blank
  obtain ⟨span, member, first, last⟩ := (covers_iff blankSpans c).mp blank
  simp only [blankSpans, List.mem_cons, List.not_mem_nil, or_false] at member
  rcases member with rfl | rfl | rfl | rfl | rfl | rfl | rfl | rfl | rfl | rfl <;>
    dsimp only at first last <;> omega

theorem isBlank_of_isAlphanum {c : Char} (letter : c.isAlphanum = true) : isBlank c = false := by
  have range : 33 ≤ c.toNat ∧ c.toNat < 128 := by
    rw [isAlphanum_iff, isUpper_iff, isLower_iff, isDigit_iff] at letter
    omega
  exact isBlank_of_ascii range.1 range.2

theorem wordSpans_apart : (wordSpans.all fun word => blankSpans.all word.isApart) = true := by
  decide +kernel

theorem isBlank_of_isWord {c : Char} (word : isWord c = true) : isBlank c = false := by
  unfold isWord at word
  split at word
  · rcases Bool.or_eq_true_iff.mp word with letter | mark
    · exact isBlank_of_isAlphanum letter
    · rw [beq_iff_eq.mp mark]
      decide
  · exact covers_of_apart wordSpans_apart word

theorem trimStart_append_dropped (text : List Char) :
    text.takeWhile isBlank ++ trimStart text = text := List.takeWhile_append_dropWhile

theorem trimStart_eq_self {text : List Char} (visible : ∀ c ∈ text.head?, isBlank c = false) :
    trimStart text = text := by
  cases text with
  | nil => rfl
  | cons c rest => simp [trimStart, visible c (by simp)]

theorem trimEnd_eq_self {text : List Char} (visible : ∀ c ∈ text.getLast?, isBlank c = false) :
    trimEnd text = text := by
  have reversed : trimStart text.reverse = text.reverse :=
    trimStart_eq_self (by rwa [List.head?_reverse])
  change (trimStart text.reverse).reverse = text
  rw [reversed, List.reverse_reverse]

theorem trim_eq_self {text : List Char} (first : ∀ c ∈ text.head?, isBlank c = false)
    (last : ∀ c ∈ text.getLast?, isBlank c = false) : trim text = text := by
  rw [trim, trimStart_eq_self first, trimEnd_eq_self last]

theorem visible_last {front text : List Char} (some : text ≠ [])
    (visible : ∀ c ∈ text, isBlank c = false) :
    ∀ c ∈ (front ++ text).getLast?, isBlank c = false := by
  rw [List.getLast?_append, List.getLast?_eq_some_getLast some, Option.some_or]
  intro c last
  cases last
  exact visible _ (List.getLast_mem some)

theorem words_go_append (first : List Char) {c : Char} (blank : isBlank c = true)
    (second word : List Char) :
    words.go (first ++ c :: second) word = words.go first word ++ words second := by
  induction first generalizing word with
  | nil =>
      rw [List.nil_append, words.go, words.go, blank, if_pos rfl]
      cases word with
      | nil => rfl
      | cons d letters => rfl
  | cons d rest ih =>
      rw [List.cons_append, words.go, words.go]
      split
      · split
        · exact ih []
        · rw [ih, List.cons_append]
      · exact ih _

theorem words_append (first : List Char) {c : Char} (blank : isBlank c = true)
    (second : List Char) : words (first ++ c :: second) = words first ++ words second :=
  words_go_append first blank second []

theorem words_go_word {text : List Char} (visible : ∀ c ∈ text, isBlank c = false)
    (word : List Char) (some : text ≠ [] ∨ word ≠ []) :
    words.go text word = [word.reverse ++ text] := by
  induction text generalizing word with
  | nil =>
      have filled : word ≠ [] := some.resolve_left fun none => none rfl
      rw [words.go, if_neg (by simpa using filled), List.append_nil]
  | cons c rest ih =>
      obtain ⟨first, others⟩ := List.forall_mem_cons.mp visible
      rw [words.go, first, if_neg Bool.false_ne_true,
        ih others _ (.inr (List.cons_ne_nil _ _)), List.reverse_cons, List.append_assoc]
      rfl

theorem words_word {text : List Char} (some : text ≠ []) (visible : ∀ c ∈ text, isBlank c = false) :
    words text = [text] := words_go_word visible [] (.inl some)

theorem visible_of_mem_go {text word found : List Char} (visible : ∀ c ∈ word, isBlank c = false)
    (member : found ∈ words.go text word) : found ≠ [] ∧ ∀ c ∈ found, isBlank c = false := by
  have whole {word : List Char} (visible : ∀ c ∈ word, isBlank c = false)
      (some : ¬ word.isEmpty = true) :
      word.reverse ≠ [] ∧ ∀ c ∈ word.reverse, isBlank c = false :=
    ⟨by simpa using some, fun c member => visible c (List.mem_reverse.mp member)⟩
  induction text generalizing word with
  | nil =>
      rw [words.go] at member
      split at member
      · cases member
      · rename_i some
        rw [List.mem_singleton.mp member]
        exact whole visible some
  | cons c rest ih =>
      rw [words.go] at member
      split at member
      · split at member
        · exact ih (List.forall_mem_nil _) member
        · rename_i some
          rcases List.mem_cons.mp member with rfl | later
          · exact whole visible some
          · exact ih (List.forall_mem_nil _) later
      · rename_i letter
        have longer : ∀ d ∈ c :: word, isBlank d = false :=
          List.forall_mem_cons.mpr ⟨Bool.eq_false_iff.mpr letter, visible⟩
        exact ih longer member

theorem visible_of_mem_words {text word : List Char} (member : word ∈ words text) :
    word ≠ [] ∧ ∀ c ∈ word, isBlank c = false :=
  visible_of_mem_go (List.forall_mem_nil _) member

theorem fullLines_flatten (text : List Char) : (fullLines text).flatten = text := by
  induction text with
  | nil => rfl
  | cons c rest ih =>
    rw [fullLines]
    split
    · simp [ih]
    · split <;> simp_all

theorem fullLines_line {line : List Char} (single : '\n' ∉ line) (rest : List Char) :
    fullLines (line ++ '\n' :: rest) = (line ++ ['\n']) :: fullLines rest := by
  induction line with
  | nil => rfl
  | cons c line ih =>
    simp only [List.mem_cons, not_or] at single
    rw [List.cons_append, fullLines, if_neg (Ne.symm single.1), ih single.2]
    rfl

theorem fullLines_single {text : List Char} (single : '\n' ∉ text) (some : text ≠ []) :
    fullLines text = [text] := by
  induction text with
  | nil => exact absurd rfl some
  | cons c rest ih =>
    simp only [List.mem_cons, not_or] at single
    rw [fullLines, if_neg (Ne.symm single.1)]
    cases rest with
    | nil => rfl
    | cons d rest => rw [ih single.2 (List.cons_ne_nil d rest)]

theorem fullLines_flatMap {texts : List (List Char)} (single : ∀ text ∈ texts, '\n' ∉ text)
    (rest : List Char) :
    fullLines (texts.flatMap (· ++ ['\n']) ++ rest) =
      texts.map (· ++ ['\n']) ++ fullLines rest := by
  induction texts with
  | nil => rfl
  | cons text texts ih =>
    simp only [List.mem_cons, forall_eq_or_imp] at single
    rw [List.flatMap_cons, List.append_assoc, List.append_assoc, List.singleton_append,
      fullLines_line single.1, ih single.2]
    rfl

theorem lineBody_line {line : List Char} (last : ∀ c ∈ line.getLast?, c ≠ '\r') :
    lineBody (line ++ ['\n']) = line := by
  rw [← List.head?_reverse] at last
  rw [lineBody, List.reverse_append, List.reverse_singleton, List.singleton_append]
  split
  · rename_i body same
    obtain ⟨-, same⟩ := List.cons.inj same
    rw [same] at last
    exact absurd rfl (last '\r' rfl)
  · rename_i body _ same
    obtain ⟨-, rfl⟩ := List.cons.inj same
    exact List.reverse_reverse line
  · rename_i none
    exact absurd rfl (none line.reverse)

theorem lines_single {line : List Char} (single : '\n' ∉ line)
    (last : ∀ c ∈ line.getLast?, c ≠ '\r') : lines (line ++ ['\n']) = [line] := by
  rw [lines, fullLines_line single, List.map_cons, lineBody_line last]
  rfl

end Enforcement.Text
