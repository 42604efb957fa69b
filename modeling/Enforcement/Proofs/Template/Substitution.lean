import Enforcement.Proofs.Json.Layout
import Enforcement.Proofs.Json.Number
import Enforcement.Proofs.Template.Splicing

/-!
Substitution in the printed document is the walk over the document: no match reaches from one string
into another, and inside a string the escapes neither hide nor make a reference with a clear name.
-/

namespace Enforcement.Template

open Enforcement.Json Enforcement.Text

/-! Escapes. -/

theorem escape_cons (c : Char) (text : List Char) :
    escape (c :: text) = escapeChar c ++ escape text := rfl

theorem escape_append (first second : List Char) :
    escape (first ++ second) = escape first ++ escape second := List.flatMap_append

def Inert (c : Char) : Prop := c ≠ '"' ∧ c ≠ '\\' ∧ c ≠ '[' ∧ c ≠ '\''

theorem inert_hexDigit (value : Nat) : Inert (hexDigit value) := by
  have digits : ∀ small < 16, Inert (Nat.digitChar small) := by
    unfold Inert
    decide
  exact digits _ (Nat.mod_lt _ (by decide))

theorem escapeChar_cases (c : Char) :
    c = '"' ∨ c = '\\' ∨ (isControl c = true ∧ ∃ code, escapeChar c = '\\' :: code ∧ code ≠ [] ∧
      ∀ d ∈ code, Inert d) ∨
      (c ≠ '"' ∧ c ≠ '\\' ∧ isControl c = false ∧ escapeChar c = [c]) := by
  by_cases quote : c = '"'
  · exact Or.inl quote
  by_cases slash : c = '\\'
  · exact Or.inr (Or.inl slash)
  by_cases control : c.toNat < 32
  · refine Or.inr (Or.inr (Or.inl ⟨by simp [isControl, control], ?_⟩))
    unfold escapeChar
    rw [if_neg quote, if_neg slash]
    split_ifs
    · exact ⟨['b'], rfl, by simp, by simp [Inert]⟩
    · exact ⟨['f'], rfl, by simp, by simp [Inert]⟩
    · exact ⟨['n'], rfl, by simp, by simp [Inert]⟩
    · exact ⟨['r'], rfl, by simp, by simp [Inert]⟩
    · exact ⟨['t'], rfl, by simp, by simp [Inert]⟩
    · refine ⟨_, rfl, by simp, ?_⟩
      simp only [List.mem_cons, List.not_mem_nil, or_false]
      rintro d (rfl | rfl | rfl | rfl | rfl)
      · simp [Inert]
      · simp [Inert]
      · simp [Inert]
      · exact inert_hexDigit _
      · exact inert_hexDigit _
  · refine Or.inr (Or.inr (Or.inr ⟨quote, slash, by simpa [isControl] using control, ?_⟩))
    unfold escapeChar
    have above {code : Char} (low : code.toNat < 32) : c ≠ code := by
      rintro rfl
      exact control low
    rw [if_neg quote, if_neg slash, if_neg (above (by decide)), if_neg (above (by decide)),
      if_neg (above (by decide)), if_neg (above (by decide)), if_neg (above (by decide)),
      if_neg control]

theorem escapeChar_start (c : Char) : (∃ code, escapeChar c = '\\' :: code) ∨
    (c ≠ '"' ∧ isControl c = false ∧ escapeChar c = [c]) := by
  rcases escapeChar_cases c with rfl | rfl | ⟨-, code, escaped, -⟩ | ⟨quote, -, control, escaped⟩
  · exact Or.inl ⟨_, rfl⟩
  · exact Or.inl ⟨_, rfl⟩
  · exact Or.inl ⟨code, escaped⟩
  · exact Or.inr ⟨quote, control, escaped⟩

theorem escape_split {word after text rest : List Char} (quote : '"' ∉ word) (slash : '\\' ∉ word)
    (same : word ++ after = escape text ++ '"' :: rest) :
    ∃ left, text = word ++ left ∧ after = escape left ++ '"' :: rest ∧
      ∀ c ∈ word, isControl c = false := by
  induction word generalizing text with
  | nil => exact ⟨text, rfl, same, by simp⟩
  | cons c word ih =>
      simp only [List.mem_cons, not_or] at quote slash
      cases text with
      | nil =>
          cases same
          exact absurd rfl quote.1
      | cons d text =>
          rw [escape_cons] at same
          rcases escapeChar_start d with ⟨code, escaped⟩ | ⟨-, control, escaped⟩
          · rw [escaped] at same
            have first : c = '\\' := by simpa using congrArg List.head? same
            exact absurd first.symm slash.1
          · rw [escaped] at same
            simp only [List.cons_append, List.nil_append, List.cons.injEq] at same
            obtain ⟨rfl, same⟩ := same
            obtain ⟨left, rfl, behind, controls⟩ := ih quote.2 slash.2 same
            refine ⟨left, rfl, behind, ?_⟩
            simp only [List.mem_cons, forall_eq_or_imp]
            exact ⟨control, controls⟩

theorem escape_self {word : List Char} (quote : '"' ∉ word) (slash : '\\' ∉ word)
    (controls : ∀ c ∈ word, isControl c = false) : escape word = word := by
  induction word with
  | nil => rfl
  | cons c word ih =>
      simp only [List.mem_cons, not_or, forall_eq_or_imp] at quote slash controls
      rw [escape_cons, ih quote.2 slash.2 controls.2]
      rcases escapeChar_cases c with rfl | rfl | ⟨control, -⟩ | ⟨-, -, -, escaped⟩
      · exact absurd rfl quote.1
      · exact absurd rfl slash.1
      · rw [controls.1] at control
        cases control
      · rw [escaped]
        rfl

theorem escape_head {text rest more : List Char}
    (same : escape text ++ '"' :: rest = '"' :: more) : text = [] := by
  cases text with
  | nil => rfl
  | cons d text =>
      rw [escape_cons] at same
      rcases escapeChar_start d with ⟨code, escaped⟩ | ⟨quote, -, escaped⟩
      · rw [escaped] at same
        cases same
      · rw [escaped] at same
        cases same
        exact absurd rfl quote

structure Foreign (mark : Char) : Prop where
  visible : isBlank mark = false
  letter : isPlainChar mark = false
  outside : mark ∉ ['[', '(', '\'', ')', ']']

theorem foreign_quote : Foreign '"' := ⟨by decide, by decide, by decide⟩

theorem foreign_slash : Foreign '\\' := ⟨by decide, by decide, by decide⟩

theorem Foreign.notMem_blanks {mark : Char} (foreign : Foreign mark) {text : List Char}
    (all : AllBlank text) : mark ∉ text := by
  intro member
  have visible := foreign.visible
  rw [all mark member] at visible
  cases visible

theorem Foreign.notMem_lead {mark : Char} (foreign : Foreign mark) {spelling : Spelling}
    (valid : spelling.Valid) : mark ∉ spelling.lead := by
  have keyword : mark ∉ spelling.reference.kind.keyword := by
    intro member
    have letters : ∀ c ∈ spelling.reference.kind.keyword, isPlainChar c = true := by
      cases spelling.reference.kind
      · exact List.all_eq_true.mp (by decide)
      · exact List.all_eq_true.mp (by decide)
    have letter := foreign.letter
    rw [letters mark member] at letter
    cases letter
  have outside := foreign.outside
  simp only [List.mem_cons, List.not_mem_nil, or_false, not_or] at outside
  simp [Spelling.lead, foreign.notMem_blanks valid.opening, foreign.notMem_blanks valid.inner,
    keyword, outside]

theorem Foreign.notMem_tail {mark : Char} (foreign : Foreign mark) {spelling : Spelling}
    (valid : spelling.Valid) : mark ∉ spelling.tail := by
  have outside := foreign.outside
  simp only [List.mem_cons, List.not_mem_nil, or_false, not_or] at outside
  simp [Spelling.tail, foreign.notMem_blanks valid.closing, outside]

theorem Spelling.closes (spelling : Spelling) :
    ∃ front, spelling.text = front ++ [')'] ++ [']'] :=
  ⟨spelling.lead ++ (spelling.reference.name ++ '\'' :: spelling.closing),
    by simp [Spelling.text, Spelling.tail]⟩

theorem Foreign.notMem_text {mark : Char} (foreign : Foreign mark) {spelling : Spelling}
    (valid : spelling.Valid) (name : mark ∉ spelling.reference.name) : mark ∉ spelling.text := by
  simp [Spelling.text, foreign.notMem_lead valid, foreign.notMem_tail valid, name]

theorem unmarked_spelling {spelling : Spelling} (valid : spelling.Valid)
    (clear : Clear spelling.reference.name) : '"' ∉ spelling.text ∧ '\\' ∉ spelling.text :=
  ⟨foreign_quote.notMem_text valid clear.quote, foreign_slash.notMem_text valid clear.slash⟩

/-! Strings. -/

namespace Pass

variable {pass : Pass}

/-- What is found in the text of a string is found in the string, and the other way round. -/
theorem valueAt?_escape (clear : pass.ResolvesClear) {text after rest : List Char} {value : Value} :
    pass.valueAt? reference? (escape text ++ '"' :: rest) = some (value, after) ↔
      ∃ left, pass.valueAt? written? text = some (value, left) ∧
        after = escape left ++ '"' :: rest := by
  constructor
  · intro found
    obtain ⟨reference, read, held⟩ := valueAt?_iff.mp found
    obtain ⟨spelling, valid, rfl, same⟩ := reference?_iff.mp read
    obtain ⟨quote, slash⟩ := unmarked_spelling valid (clear.name held)
    obtain ⟨left, rfl, behind, controls⟩ := escape_split quote slash same.symm
    exact ⟨left, valueAt?_iff.mpr ⟨_, written?_iff.mpr ⟨spelling, valid, rfl, rfl, controls⟩, held⟩,
      behind⟩
  · intro given
    obtain ⟨left, found, rfl⟩ := given
    obtain ⟨reference, read, held⟩ := valueAt?_iff.mp found
    obtain ⟨spelling, valid, rfl, rfl, controls⟩ := written?_iff.mp read
    obtain ⟨quote, slash⟩ := unmarked_spelling valid (clear.name held)
    refine valueAt?_iff.mpr ⟨_, reference?_iff.mpr ⟨spelling, valid, rfl, ?_⟩, held⟩
    rw [escape_append, escape_self quote slash controls, List.append_assoc]

theorem spelling_of_valueAt? (clear : pass.ResolvesClear) {text left : List Char} {value : Value}
    (found : pass.valueAt? written? text = some (value, left)) :
    ∃ spelling : Spelling, spelling.Valid ∧ pass.value? spelling.reference = some value ∧
      text = spelling.text ++ left ∧ escape spelling.text = spelling.text := by
  obtain ⟨reference, read, held⟩ := valueAt?_iff.mp found
  obtain ⟨spelling, valid, rfl, rfl, controls⟩ := written?_iff.mp read
  obtain ⟨quote, slash⟩ := unmarked_spelling valid (clear.name held)
  exact ⟨spelling, valid, held, rfl, escape_self quote slash controls⟩

theorem notWhole_of_char {c : Char} (other : c ≠ '"') (place : Place) (text : List Char) :
    pass.NotWhole (place.past [c]) text := by
  intro given
  obtain ⟨before, opens, -⟩ := given
  simp only [Place.past, List.reverse_singleton, List.singleton_append, List.cons.injEq] at opens
  exact absurd opens.1 other

/-- A run over a text gives this and goes on with what follows the text. -/
def Gives (pass : Pass) (place : Place) (text output rest : List Char) : Prop :=
  pass.run place (text ++ rest) = output ++ pass.run (place.past text) rest

theorem Gives.append {place : Place} {first second output other rest : List Char}
    (start : pass.Gives place first output (second ++ rest))
    (next : pass.Gives (place.past first) second other rest) :
    pass.Gives place (first ++ second) (output ++ other) rest := by
  unfold Gives at start next ⊢
  rw [List.append_assoc, start, next, Place.past_past, List.append_assoc]

theorem gives_nil (place : Place) (rest : List Char) : pass.Gives place [] [] rest := rfl

theorem gives_char {c : Char} (quote : c ≠ '"') (bracket : c ≠ '[') (place : Place)
    (rest : List Char) : pass.Gives place [c] [c] rest :=
  run_char (valueAt?_none bracket).1 (notWhole_of_char quote place rest)

theorem gives_plain {word : List Char} (marks : ∀ c ∈ word, c ≠ '"' ∧ c ≠ '[') (place : Place)
    (rest : List Char) : pass.Gives place word word rest := by
  induction word generalizing place with
  | nil => exact gives_nil place rest
  | cons c word ih =>
      simp only [List.mem_cons, forall_eq_or_imp] at marks
      have first := @gives_char pass c marks.1.1 marks.1.2 place (word ++ rest)
      exact first.append (ih marks.2 (place.past [c]))

end Pass

namespace Place

def Steady (place : Place) : Prop := place.Unescaped ∧ ¬ place.OpensString

theorem steady_of_last {word : List Char} {c : Char} (quote : c ≠ '"') (slash : c ≠ '\\')
    (place : Place) : (place.past (word ++ [c])).Steady := by
  constructor
  · simp [Unescaped, past, slash]
  · intro given
    obtain ⟨before, opens, -⟩ := given
    simp only [past, List.reverse_append, List.reverse_singleton, List.cons_append,
      List.nil_append, List.cons.injEq] at opens
    exact quote opens.1

theorem steady_spelling (place : Place) (spelling : Spelling) :
    (place.past spelling.text).Steady := by
  obtain ⟨front, closes⟩ := spelling.closes
  rw [closes]
  exact steady_of_last (by decide) (by decide) place

theorem unescaped_of_last {word : List Char} {c : Char} (slash : c ≠ '\\') (place : Place) :
    (place.past (word ++ [c])).Unescaped := by
  simp [Unescaped, past, slash]

theorem steady_escapeChar {place : Place} (unescaped : place.Unescaped) (c : Char) :
    (place.past (escapeChar c)).Steady := by
  unfold Unescaped at unescaped
  rcases escapeChar_cases c with rfl | rfl | ⟨-, code, escaped, some, inert⟩ |
    ⟨quote, slash, -, escaped⟩
  · refine ⟨by simp [Unescaped, past, escapeChar], ?_⟩
    intro given
    obtain ⟨before, opens, even⟩ := given
    simp only [past, escapeChar, if_true, List.reverse_cons, List.reverse_nil, List.nil_append,
      List.cons_append, List.cons.injEq, true_and] at opens
    subst opens
    simp only [List.takeWhile_cons, beq_self_eq_true, if_true, List.length_cons] at even
    omega
  · refine ⟨?_, ?_⟩
    · simp only [Unescaped, past, escapeChar]
      simp
      omega
    · intro given
      obtain ⟨before, opens, -⟩ := given
      simp [past, escapeChar] at opens
  · obtain ⟨front, last, rfl⟩ : ∃ front last, code = front ++ [last] :=
      ⟨_, _, (List.dropLast_concat_getLast some).symm⟩
    have marks := inert last (by simp)
    rw [escaped]
    exact @steady_of_last ('\\' :: front) last marks.1 marks.2.1 place
  · rw [escaped]
    exact @steady_of_last [] c quote slash place

end Place

namespace Pass

variable {pass : Pass}

theorem notWhole_of_steady {place : Place} (steady : place.Steady) (text : List Char) :
    pass.NotWhole place text := fun opens => absurd opens steady.2

theorem gives_escapeChar (clear : pass.ResolvesClear) {c : Char} {text rest : List Char}
    (none : pass.valueAt? written? (c :: text) = none) {place : Place}
    (unescaped : place.Unescaped) :
    pass.Gives place (escapeChar c) (escapeChar c) (escape text ++ '"' :: rest) := by
  have slash {mark : Char} (escaped : escapeChar c = ['\\', mark]) (other : mark ≠ '[') :
      pass.Gives place (escapeChar c) (escapeChar c) (escape text ++ '"' :: rest) := by
    have first : pass.Gives place ['\\'] ['\\'] (mark :: (escape text ++ '"' :: rest)) :=
      gives_char (by decide) (by decide) place _
    have steady := Place.steady_escapeChar unescaped c
    have second : pass.Gives (place.past ['\\']) [mark] [mark] (escape text ++ '"' :: rest) := by
      apply run_char (valueAt?_none other).1
      rw [Place.past_past]
      rw [escaped] at steady
      exact notWhole_of_steady steady _
    rw [escaped]
    exact first.append second
  rcases escapeChar_cases c with rfl | rfl | ⟨-, code, escaped, -, inert⟩ | ⟨quote, -, -, escaped⟩
  · exact slash rfl (by decide)
  · exact slash rfl (by decide)
  · rw [escaped]
    apply gives_plain
    simp only [List.mem_cons, forall_eq_or_imp]
    exact ⟨by decide, fun d member => ⟨(inert d member).1, (inert d member).2.2.1⟩⟩
  · have quiet : pass.valueAt? reference? (c :: (escape text ++ '"' :: rest)) = .none := by
      have same : c :: (escape text ++ '"' :: rest) = escape (c :: text) ++ '"' :: rest := by
        rw [escape_cons, escaped]
        rfl
      rw [same, Option.eq_none_iff_forall_ne_some]
      rintro ⟨value, after⟩ found
      obtain ⟨left, inside, -⟩ := (valueAt?_escape clear).mp found
      rw [none] at inside
      cases inside
    rw [escaped]
    exact run_char quiet (notWhole_of_char quote place _)

theorem gives_escape (clear : pass.ResolvesClear) (text rest : List Char) {place : Place}
    (unescaped : place.Unescaped)
    (part : place.OpensString → ∀ value, pass.valueAt? written? text ≠ some (value, [])) :
    pass.Gives place (escape text) (escape (pass.fillFrom written? 0 text)) ('"' :: rest) := by
  -- A reference is passed over in one step, so the induction is on the length of the text.
  induction length : text.length using Nat.strongRecOn generalizing text place with
  | ind size ih =>
      subst length
      cases text with
      | nil => exact gives_nil place _
      | cons c text =>
          cases found : pass.valueAt? written? (c :: text) with
          | none =>
              have steady := Place.steady_escapeChar unescaped c
              have later := ih text.length (by simp) text steady.1
                (fun opens => absurd opens steady.2) rfl
              rw [fillFrom_none found, escape_cons, escape_cons]
              exact (gives_escapeChar clear found unescaped).append later
          | some pair =>
              obtain ⟨value, left⟩ := pair
              obtain ⟨spelling, valid, held, same, escaped⟩ := spelling_of_valueAt? clear found
              obtain ⟨word, bracket⟩ : ∃ word, spelling.text = '[' :: word := ⟨_, rfl⟩
              have steady := place.steady_spelling spelling
              have shorter : left.length < (c :: text).length := by
                rw [same, bracket, List.length_append, List.length_cons]
                omega
              have later := ih left.length shorter left steady.1
                (fun opens => absurd opens steady.2) rfl
              have first : pass.Gives place spelling.text (escape (plainText value))
                  (escape left ++ '"' :: rest) := by
                apply run_reference clear valid held
                intro given
                obtain ⟨opens, more, ends⟩ := given
                rw [escape_head ends] at found
                exact part opens value found
              have filled : pass.fillFrom written? 0 (c :: text) =
                  plainText value ++ pass.fillFrom written? 0 left := by
                rw [bracket] at same
                rw [same] at found ⊢
                exact fillFrom_some found
              rw [filled, same, escape_append, escaped, escape_append]
              exact first.append later

theorem valueAt?_none_of_head {text : List Char} (outside : ∀ c ∈ text.head?, c ≠ '[') :
    pass.valueAt? reference? text = none := by
  cases text with
  | nil => rfl
  | cons c text => exact (valueAt?_none (outside c rfl)).1

theorem gives_string (clear : pass.ResolvesClear) (text : String) {place : Place}
    {rest : List Char} (unescaped : place.Unescaped) (outside : ∀ c ∈ rest.head?, c ≠ '[') :
    pass.Gives place (printString text) (compact (pass.filled written? text)) rest := by
  have whole (value : Value) (found : pass.valueAt? written? text.toList = some (value, [])) :
      pass.Gives place (printString text) (compact value) rest := by
    obtain ⟨spelling, valid, held, same, escaped⟩ := spelling_of_valueAt? clear found
    have printed : printString text = '"' :: (spelling.text ++ ['"']) := by
      rw [printString, same, List.append_nil, escaped]
    have given := run_string clear valid held unescaped rest
    rw [Gives, printed]
    simpa using given
  have part (none : ∀ value, pass.valueAt? written? text.toList ≠ some (value, [])) :
      pass.Gives place (printString text)
        (printString (String.ofList (pass.fillFrom written? 0 text.toList))) rest := by
    have opening : pass.Gives place ['"'] ['"'] (escape text.toList ++ '"' :: rest) := by
      apply run_char (valueAt?_none (by decide)).1
      rintro - value more found
      obtain ⟨left, inside, ends⟩ := (valueAt?_escape clear).mp found
      rw [escape_head ends.symm] at inside
      exact none value inside
    have inside := gives_escape clear text.toList rest
      (@Place.unescaped_of_last [] '"' (by decide) place) (fun _ => none)
    have closing : pass.Gives ((place.past ['"']).past (escape text.toList)) ['"'] ['"'] rest := by
      apply run_char (valueAt?_none (by decide)).1
      intro _ value more found
      have quiet : pass.valueAt? reference? rest = .none := valueAt?_none_of_head outside
      cases quiet.symm.trans found
    have text := opening.append inside
    rw [Place.past_past] at closing
    have given := Gives.append text closing
    rw [printString, printString, String.toList_ofList]
    exact given
  unfold filled
  split
  · rename_i value found
    exact whole value found
  · rename_i other
    exact part fun value found => other value found

end Pass

end Enforcement.Template
