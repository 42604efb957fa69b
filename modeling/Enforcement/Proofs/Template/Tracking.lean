import Mathlib.Data.List.Forall2
import Enforcement.Proofs.Template.DraftReading
import Enforcement.Proofs.Template.Rewriting

/-!
A document followed through a pass whose names with a value hold no quote. No string of the document
is torn apart, so what was printed is a draft again, one part for each part; and a string that is
all of a clear reference gives way to the value.
-/

namespace Enforcement.Template

open Enforcement.Json Enforcement.Text

/-! References in the text of a string and in the string itself. -/

theorem eq_of_mem_escapeChar {c : Char} (member : '\'' ∈ escapeChar c) : c = '\'' := by
  rcases escapeChar_cases c with rfl | rfl | ⟨-, code, escaped, -, inert⟩ | ⟨-, -, -, escaped⟩
  · simp [escapeChar] at member
  · simp [escapeChar] at member
  · rw [escaped] at member
    rcases List.mem_cons.mp member with slash | inside
    · cases slash
    · exact absurd rfl (inert _ inside).2.2.2
  · rw [escaped] at member
    exact (List.mem_singleton.mp member).symm

theorem escape_split_at {word after text rest : List Char} (quote : '"' ∉ word)
    (same : word ++ '\'' :: after = escape text ++ '"' :: rest) :
    ∃ first left, text = first ++ '\'' :: left ∧ word = escape first ∧
      after = escape left ++ '"' :: rest := by
  induction text generalizing word with
  | nil =>
      cases word with
      | nil => cases same
      | cons c word =>
          obtain ⟨rfl, -⟩ := List.cons.inj same
          exact absurd List.mem_cons_self quote
  | cons c text ih =>
      have onward {more : List Char} (unquoted : '"' ∉ more)
          (later : more ++ '\'' :: after = escape text ++ '"' :: rest) :
          ∃ first left, c :: text = first ++ '\'' :: left ∧ escapeChar c ++ more = escape first ∧
            after = escape left ++ '"' :: rest := by
        obtain ⟨first, left, rfl, rfl, behind⟩ := ih unquoted later
        exact ⟨c :: first, left, rfl, rfl, behind⟩
      rw [escape_cons, List.append_assoc] at same
      rcases List.append_eq_append_iff.mp same with ⟨more, code, behind⟩ | ⟨more, rfl, behind⟩
      · cases more with
        | nil =>
            rw [List.append_nil] at code
            have later := @onward [] (by simp) behind
            rwa [List.append_nil, code] at later
        | cons d more =>
            obtain ⟨rfl, remains⟩ := List.cons.inj behind
            have apostrophe : c = '\'' := eq_of_mem_escapeChar (by rw [code]; simp)
            subst apostrophe
            have single : word ++ '\'' :: more = ['\''] := code.symm
            obtain ⟨rfl, rfl⟩ : word = [] ∧ more = [] := by
              cases word with
              | nil => simpa using single
              | cons e word => simp at single
            exact ⟨[], text, rfl, rfl, remains⟩
      · exact onward (fun member => quote (List.mem_append_right _ member)) behind.symm

theorem Spelling.of_escape {spelling : Spelling} (valid : spelling.Valid)
    (quote : '"' ∉ spelling.reference.name) {text after rest : List Char}
    (same : spelling.text ++ after = escape text ++ '"' :: rest) :
    ∃ raw : Spelling, raw.Valid ∧ escape raw.text = spelling.text ∧
      ∃ left, text = raw.text ++ left ∧ after = escape left ++ '"' :: rest := by
  rw [text_eq] at same
  obtain ⟨left, rfl, behind, leadShown⟩ := escape_split (foreign_quote.notMem_lead valid)
    (foreign_slash.notMem_lead valid) same
  obtain ⟨name, ending, rfl, named, behind⟩ := escape_split_at quote behind
  have quotes := foreign_quote.notMem_tail valid
  have slashes := foreign_slash.notMem_tail valid
  simp only [tail, List.mem_cons, not_or] at quotes slashes
  obtain ⟨left, rfl, behind, tailShown⟩ := escape_split quotes.2 slashes.2 behind
  have lead : escape spelling.lead = spelling.lead := escape_self
    (foreign_quote.notMem_lead valid) (foreign_slash.notMem_lead valid) leadShown
  have closing : escape (spelling.closing ++ [')', ']']) = spelling.closing ++ [')', ']'] :=
    escape_self quotes.2 slashes.2 tailShown
  refine ⟨{ spelling with reference := ⟨spelling.reference.kind, name⟩ },
    ⟨valid.opening, valid.inner, valid.closing, ?_, ?_⟩, ?_, left, ?_, behind⟩
  · rintro rfl
    exact valid.named named
  · intro c member
    cases plain : isNameChar c with
    | true => rfl
    | false =>
        have mark : c = '\'' ∨ c = '.' ∨ c = '/' := by
          simpa [isNameChar, Decidable.or_iff_not_imp_left] using plain
        have itself : escapeChar c = [c] := by rcases mark with rfl | rfl | rfl <;> rfl
        have shown : c ∈ spelling.reference.name := by
          rw [named]
          exact List.mem_flatMap.mpr ⟨c, member, by rw [itself]; exact List.mem_singleton_self c⟩
        rw [valid.letters c shown] at plain
        cases plain
  · change escape (spelling.lead ++ (name ++ '\'' :: (spelling.closing ++ [')', ']']))) = _
    rw [escape_append, lead, escape_append, ← named, escape_cons, closing]
    rfl
  · change _ = (spelling.lead ++ (name ++ '\'' :: (spelling.closing ++ [')', ']']))) ++ left
    simp

namespace Pass

variable {pass : Pass}

/-- Only names without a quote have a value, and no value is null. -/
structure Sound (pass : Pass) : Prop where
  unquoted : ∀ name value, pass.resolve name = some value → '"' ∉ name.toList
  solid : ∀ name value, pass.resolve name = some value → value.isNull = false

theorem Sound.reference (sound : pass.Sound) {reference : Reference} {value : Value}
    (held : pass.value? reference = some value) :
    '"' ∉ reference.name ∧ value.isNull = false := by
  unfold value? at held
  split at held
  · have unquoted := sound.unquoted _ _ held
    rw [String.toList_ofList] at unquoted
    exact ⟨unquoted, sound.solid _ _ held⟩
  · cases held

namespace Rewrites

variable {place : Place} {text rest output : List Char}

theorem cases_char {c : Char} (rewrites : pass.Rewrites place (c :: text) output) :
    (∃ left, output = c :: left ∧ pass.Idle (c :: text) ∧
      pass.Rewrites (place.past [c]) text left) ∨
    (∃ (spelling : Spelling) (value : Value) (after left : List Char), spelling.Valid ∧
      pass.value? spelling.reference = some value ∧
      ¬ (place.OpensString ∧ ∃ rest, after = '"' :: rest) ∧ c :: text = spelling.text ++ after ∧
      output = escape (plainText value) ++ left ∧
      pass.Rewrites (place.past spelling.text) after left) ∨
    (∃ (spelling : Spelling) (value : Value) (after left : List Char), spelling.Valid ∧
      pass.value? spelling.reference = some value ∧ place.Unescaped ∧ c = '"' ∧
      text = spelling.text ++ '"' :: after ∧
      output = compact value ++ left ∧ (Outside after →
        pass.Rewrites (place.past ('"' :: (spelling.text ++ ['"']))) after left)) := by
  generalize same : c :: text = whole at rewrites
  cases rewrites with
  | done => cases same
  | keep idle later =>
      cases same
      exact Or.inl ⟨_, rfl, idle, later⟩
  | part valid held part later =>
      exact Or.inr (Or.inl ⟨_, _, _, _, valid, held, part, rfl, rfl, later⟩)
  | whole valid held unescaped later =>
      obtain ⟨rfl, rfl⟩ := List.cons.inj same
      exact Or.inr (Or.inr ⟨_, _, _, _, valid, held, unescaped, rfl, rfl, rfl, later⟩)

theorem kept {c : Char} (rewrites : pass.Rewrites place (c :: text) output) (bracket : c ≠ '[')
    (alone : c = '"' → place.Unescaped → Outside text) :
    ∃ left, output = c :: left ∧ pass.Rewrites (place.past [c]) text left := by
  rcases rewrites.cases_char with ⟨left, rfl, -, later⟩ |
    ⟨spelling, _, after, _, -, -, -, same, -⟩ |
    ⟨spelling, _, after, _, -, -, unescaped, quote, rfl, -⟩
  · exact ⟨left, rfl, later⟩
  · obtain ⟨more, start⟩ := spelling.text_start after
    rw [start] at same
    exact absurd (List.cons.inj same).1 bracket
  · exact absurd rfl (alone quote unescaped '[' rfl)

theorem plain {word : List Char} (marks : ∀ c ∈ word, c ≠ '"' ∧ c ≠ '[')
    (rewrites : pass.Rewrites place (word ++ text) output) :
    ∃ left, output = word ++ left ∧ pass.Rewrites (place.past word) text left := by
  induction word generalizing place output with
  | nil => exact ⟨output, rfl, rewrites⟩
  | cons c word ih =>
      simp only [List.mem_cons, forall_eq_or_imp] at marks
      obtain ⟨_, rfl, behind⟩ := rewrites.kept marks.1.2 fun quote => absurd quote marks.1.1
      obtain ⟨left, rfl, later⟩ := ih marks.2 behind
      rw [Place.past_past] at later
      exact ⟨left, rfl, later⟩

theorem char {c : Char} (quote : c ≠ '"') (bracket : c ≠ '[')
    (rewrites : pass.Rewrites place (c :: text) output) :
    ∃ left, output = c :: left ∧ pass.Rewrites (place.past [c]) text left :=
  rewrites.kept bracket fun same => absurd same quote

theorem escaped {c : Char} (bracket : c ≠ '[') (unescaped : place.Unescaped)
    (rewrites : pass.Rewrites place (escapeChar c ++ text) output) :
    ∃ left, output = escapeChar c ++ left ∧
      pass.Rewrites (place.past (escapeChar c)) text left := by
  rcases escapeChar_cases c with rfl | rfl | ⟨-, code, shown, -, inert⟩ | ⟨quote, -, -, shown⟩
  · obtain ⟨_, rfl, behind⟩ := rewrites.char (by decide) (by decide)
    -- The backslash in front of it keeps this quote from opening a string.
    have odd : ¬ (place.past ['\\']).Unescaped := by
      unfold Place.Unescaped Place.past at *
      simp
      omega
    obtain ⟨left, rfl, later⟩ := behind.kept (by decide) fun _ even => absurd even odd
    rw [Place.past_past] at later
    exact ⟨left, rfl, later⟩
  · exact rewrites.plain (by simp [escapeChar])
  · rw [shown] at rewrites ⊢
    refine rewrites.plain ?_
    simp only [List.mem_cons, forall_eq_or_imp]
    exact ⟨by decide, fun d member => ⟨(inert d member).1, (inert d member).2.2.1⟩⟩
  · rw [shown] at rewrites ⊢
    exact rewrites.plain (by simp [quote, bracket])

theorem contains_raw {raw : Spelling} (valid : raw.Valid) (left : List Char) :
    containsReference (raw.text ++ left) = true :=
  containsReference_iff.mpr ⟨[], left, raw, valid, rfl⟩

theorem containsReference_cons {c : Char} (free : containsReference (c :: text) = false) :
    containsReference text = false := by
  rw [Bool.eq_false_iff] at free ⊢
  intro found
  obtain ⟨before, rest, spelling, valid, rfl⟩ := containsReference_iff.mp found
  exact free (containsReference_iff.mpr ⟨c :: before, rest, spelling, valid, rfl⟩)

/-- What is inside a string is the inside of a string again, and without references it stays. -/
theorem inside (sound : pass.Sound) (unescaped : place.Unescaped)
    (rewrites : pass.Rewrites place (escape text ++ '"' :: rest) output) :
    ∃ found left, output = escape found ++ left ∧
      (containsReference text = false → found = text) ∧
      (place.past (escape text)).Unescaped ∧
      pass.Rewrites (place.past (escape text)) ('"' :: rest) left := by
  -- A reference is passed over in one step, so the induction is on the length of the text.
  induction length : text.length using Nat.strongRecOn generalizing text place output with
  | ind size ih =>
      subst length
      cases text with
      | nil => exact ⟨[], output, rfl, fun _ => rfl, unescaped, rewrites⟩
      | cons c text =>
          have onward {left : List Char}
              (later :
                pass.Rewrites (place.past (escapeChar c)) (escape text ++ '"' :: rest) left) :
              ∃ found more, escapeChar c ++ left = escape found ++ more ∧
                (containsReference (c :: text) = false → found = c :: text) ∧
                (place.past (escape (c :: text))).Unescaped ∧
                pass.Rewrites (place.past (escape (c :: text))) ('"' :: rest) more := by
            obtain ⟨found, more, rfl, free, steady, later⟩ := ih text.length (by simp)
              (Place.steady_escapeChar unescaped c).1 later rfl
            rw [Place.past_past] at steady later
            refine ⟨c :: found, more, ?_, ?_, steady, later⟩
            · rw [escape_cons, List.append_assoc]
            · intro none
              rw [free (containsReference_cons none)]
          rw [escape_cons, List.append_assoc] at rewrites
          by_cases bracket : c = '['
          · subst bracket
            rcases rewrites.cases_char with ⟨left, rfl, -, later⟩ |
              ⟨spelling, value, after, left, valid, held, -, same, rfl, later⟩ |
              ⟨_, _, _, _, -, -, -, quote, -⟩
            · exact onward later
            · have spelled : spelling.text ++ after = escape ('[' :: text) ++ '"' :: rest := by
                rw [← same]
                rfl
              obtain ⟨raw, rawValid, shown, remains, split, rfl⟩ :=
                Spelling.of_escape valid (sound.reference held).1 spelled
              have shorter : remains.length < ('[' :: text).length := by
                have some : 0 < raw.text.length := by simp [Spelling.text, Spelling.lead]
                rw [split, List.length_append]
                omega
              obtain ⟨found, more, rfl, -, steady, later⟩ := ih remains.length shorter
                (place.steady_spelling spelling).1 later rfl
              have passed : escape ('[' :: text) = spelling.text ++ escape remains := by
                rw [split, escape_append, shown]
              rw [Place.past_past, ← passed] at steady later
              refine ⟨plainText value ++ found, more, ?_, ?_, steady, later⟩
              · rw [escape_append, List.append_assoc]
              · intro none
                rw [split, contains_raw rawValid] at none
                cases none
            · cases quote
          · obtain ⟨left, rfl, later⟩ := rewrites.escaped bracket unescaped
            exact onward later

end Rewrites

/-- The string is all of a clear reference to the value. -/
def Fixes (pass : Pass) (text : String) (value : Value) : Prop :=
  ∃ reference, written? text.toList = some (reference, []) ∧ Clear reference.name ∧
    pass.value? reference = some value

/-- What may have come of a string. -/
structure Turned (pass : Pass) (text : String) (found : Draft) : Prop where
  free : containsReference text.toList = false → found = .string text
  fixed : ∀ value, pass.Fixes text value → found = .ofValue value
  solid : found ≠ .null

theorem Fixes.read {text : String} {value : Value} (fixes : pass.Fixes text value)
    (rest : List Char) :
    ∃ reference, Clear reference.name ∧ pass.value? reference = some value ∧
      reference? (escape text.toList ++ '"' :: rest) = some (reference, '"' :: rest) := by
  obtain ⟨reference, read, clear, held⟩ := fixes
  obtain ⟨spelling, valid, rfl, same, shown⟩ := written?_iff.mp read
  obtain ⟨quote, slash⟩ := unmarked_spelling valid clear
  refine ⟨_, clear, held, reference?_iff.mpr ⟨spelling, valid, rfl, ?_⟩⟩
  rw [same, List.append_nil, escape_self quote slash shown]

theorem ofValue_ne_null {value : Value} (solid : value.isNull = false) :
    Draft.ofValue value ≠ .null := by
  cases value with
  | null => cases solid
  | bool | number | string | array | object => nofun

namespace Rewrites

variable {place : Place} {text : String} {rest output : List Char}

theorem unfixed (unescaped : place.Unescaped)
    (rewrites : pass.Rewrites (place.past ['"']) (escape text.toList ++ '"' :: rest) output)
    (value : Value) : ¬ pass.Fixes text value := by
  intro fixes
  obtain ⟨reference, clear, held, read⟩ := fixes.read rest
  obtain ⟨spelling, -, -, same⟩ := reference?_iff.mp read
  obtain ⟨more, start⟩ := spelling.text_start ('"' :: rest)
  rw [same, start] at rewrites read
  rcases rewrites.cases_char with ⟨_, -, idle, -⟩ |
    ⟨other, _, after, _, valid, -, part, split, -⟩ | ⟨_, _, _, _, -, -, -, quote, -⟩
  · rw [idle _ _ read clear] at held
    cases held
  · have found : reference? ('[' :: more) = some (other.reference, after) :=
      reference?_iff.mpr ⟨other, valid, rfl, split⟩
    cases read.symm.trans found
    exact part ⟨⟨place.before, rfl, unescaped⟩, rest, rfl⟩
  · cases quote

theorem string (sound : pass.Sound) (unescaped : place.Unescaped) (outside : Outside rest)
    (rewrites : pass.Rewrites place (printString text ++ rest) output) :
    ∃ found left, output = found.text ++ left ∧ pass.Turned text found ∧
      pass.Rewrites (place.past (printString text)) rest left := by
  have printed : printString text ++ rest = '"' :: (escape text.toList ++ '"' :: rest) := by
    simp [printString]
  rw [printed] at rewrites
  rcases rewrites.cases_char with ⟨_, rfl, -, opened⟩ | ⟨spelling, _, after, _, -, -, -, same, -⟩ |
    ⟨spelling, value, after, left, valid, held, -, -, same, rfl, later⟩
  · have stays := opened.unfixed unescaped
    obtain ⟨found, _, rfl, free, -, closing⟩ := opened.inside sound
      (@Place.unescaped_of_last [] '"' (by decide) place)
    obtain ⟨left, rfl, later⟩ := closing.kept (by decide) fun _ _ => outside
    refine ⟨.string (String.ofList found), left, ?_, ⟨?_, ?_, ?_⟩, ?_⟩
    · simp [Draft.text, printString]
    · intro none
      rw [free none, String.ofList_toList]
    · intro value fixes
      exact absurd fixes (stays value)
    · intro same
      cases same
    · rwa [Place.past_past, Place.past_past] at later
  · obtain ⟨more, start⟩ := spelling.text_start after
    rw [start] at same
    cases (List.cons.inj same).1
  · obtain ⟨raw, rawValid, shown, remains, split, behind⟩ :=
      Spelling.of_escape valid (sound.reference held).1 same.symm
    obtain rfl := escape_head behind.symm
    obtain rfl := (List.cons.inj behind).2
    rw [List.append_nil] at split
    refine ⟨.ofValue value, left, ?_, ⟨?_, ?_, ?_⟩, ?_⟩
    · rw [Draft.text_ofValue]
    · intro none
      have contains := contains_raw rawValid []
      rw [List.append_nil, ← split, none] at contains
      cases contains
    · intro other fixes
      obtain ⟨reference, -, resolved, read⟩ := fixes.read after
      have found : reference? (escape text.toList ++ '"' :: after) =
          some (spelling.reference, '"' :: after) := reference?_iff.mpr ⟨spelling, valid, rfl, same⟩
      cases read.symm.trans found
      cases held.symm.trans resolved
      rfl
    · exact ofValue_ne_null (sound.reference held).2
    · have passed : printString text = '"' :: (spelling.text ++ ['"']) := by
        rw [printString, split, shown]
      rw [passed]
      exact later outside

end Rewrites

/-- What may have come of a draft, part by part. -/
inductive Turns (pass : Pass) : Draft → Draft → Prop
  | null : Turns pass .null .null
  | bool (flag : Bool) : Turns pass (.bool flag) (.bool flag)
  | number (number : Number) : Turns pass (.number number) (.number number)
  | string {text : String} {found : Draft} : pass.Turned text found →
      Turns pass (.string text) found
  | array {items found : List Draft} : List.Forall₂ (Turns pass) items found →
      Turns pass (.array items) (.array found)
  | object {members found : List (Draft × Draft)} :
      List.Forall₂ (Turns pass) (members.map (·.1)) (found.map (·.1)) →
      List.Forall₂ (Turns pass) (members.map (·.2)) (found.map (·.2)) →
      Turns pass (.object members) (.object found)

/-- The text of a draft is rewritten to that of another one, and what follows by itself. -/
def Follows (pass : Pass) (draft : Draft) : Prop :=
  ∀ place rest output, place.Unescaped → Outside rest →
    pass.Rewrites place (draft.text ++ rest) output →
      ∃ found left, output = found.text ++ left ∧ pass.Turns draft found ∧
        pass.Rewrites (place.past draft.text) rest left

theorem Rewrites.comma {place : Place} {first : Bool} {text output : List Char}
    (unescaped : first = true → place.Unescaped)
    (rewrites : pass.Rewrites place (comma first ++ text) output) :
    ∃ left, output = comma first ++ left ∧ (place.past (comma first)).Unescaped ∧
      pass.Rewrites (place.past (comma first)) text left := by
  cases first with
  | true => exact ⟨output, rfl, unescaped rfl, rewrites⟩
  | false =>
      obtain ⟨left, rfl, later⟩ := rewrites.char (by decide) (by decide)
      exact ⟨left, rfl, @Place.unescaped_of_last [] ',' (by decide) place, later⟩

theorem follows_items {items : List Draft} (each : ∀ item ∈ items, pass.Follows item)
    (first : Bool) {place : Place} (unescaped : first = true → place.Unescaped)
    {rest output : List Char}
    (rewrites : pass.Rewrites place (Draft.textOfItems first items ++ rest) output) :
    ∃ found left, output = Draft.textOfItems first found ++ left ∧
      List.Forall₂ pass.Turns items found ∧
      pass.Rewrites (place.past (Draft.textOfItems first items)) rest left := by
  induction items generalizing first place output with
  | nil =>
      obtain ⟨left, rfl, later⟩ := rewrites.char (by decide) (by decide)
      exact ⟨[], left, rfl, .nil, later⟩
  | cons item items ih =>
      simp only [List.mem_cons, forall_eq_or_imp] at each
      rw [Draft.textOfItems, List.append_assoc, List.append_assoc] at rewrites
      obtain ⟨_, rfl, start, separated⟩ := rewrites.comma unescaped
      obtain ⟨head, _, rfl, turned, behind⟩ :=
        each.1 _ _ _ start (outside_items items rest) separated
      obtain ⟨found, left, rfl, others, later⟩ :=
        ih each.2 false (fun given => absurd given Bool.false_ne_true) behind
      rw [Place.past_past, Place.past_past] at later
      refine ⟨head :: found, left, ?_, .cons turned others, later⟩
      simp [Draft.textOfItems]

theorem follows_members {members : List (Draft × Draft)}
    (each : ∀ member ∈ members, pass.Follows member.1 ∧ pass.Follows member.2)
    (first : Bool) {place : Place} (unescaped : first = true → place.Unescaped)
    {rest output : List Char}
    (rewrites : pass.Rewrites place (Draft.textOfMembers first members ++ rest) output) :
    ∃ found left, output = Draft.textOfMembers first found ++ left ∧
      List.Forall₂ pass.Turns (members.map (·.1)) (found.map (·.1)) ∧
      List.Forall₂ pass.Turns (members.map (·.2)) (found.map (·.2)) ∧
      pass.Rewrites (place.past (Draft.textOfMembers first members)) rest left := by
  induction members generalizing first place output with
  | nil =>
      obtain ⟨left, rfl, later⟩ := rewrites.char (by decide) (by decide)
      exact ⟨[], left, rfl, .nil, .nil, later⟩
  | cons member members ih =>
      obtain ⟨key, value⟩ := member
      simp only [List.mem_cons, forall_eq_or_imp] at each
      simp only [Draft.textOfMembers, List.append_assoc] at rewrites
      obtain ⟨_, rfl, start, separated⟩ := rewrites.comma unescaped
      obtain ⟨name, _, rfl, named, colon⟩ := each.1.1 _ _ _ start (by
        intro c head
        cases head
        decide) separated
      obtain ⟨_, rfl, opened⟩ := colon.char (by decide) (by decide)
      obtain ⟨held, _, rfl, turned, behind⟩ := each.1.2 _ _ _
        (@Place.unescaped_of_last [] ':' (by decide) _) (outside_members members rest) opened
      obtain ⟨found, left, rfl, keys, values, later⟩ :=
        ih each.2 false (fun given => absurd given Bool.false_ne_true) behind
      simp only [Place.past_past] at later
      refine ⟨(name, held) :: found, left, ?_, .cons named keys, .cons turned values, ?_⟩
      · simp [Draft.textOfMembers]
      · simpa [Draft.textOfMembers] using later

theorem follows_word {draft : Draft} (word : draft.text.all (fun c => c != '"' && c != '['))
    (same : pass.Turns draft draft) : pass.Follows draft := by
  intro place rest output _ _ rewrites
  obtain ⟨left, rfl, later⟩ := rewrites.plain (by simpa using word)
  exact ⟨draft, left, rfl, same, later⟩

theorem follows (sound : pass.Sound) (draft : Draft) : pass.Follows draft := by
  induction draft using Draft.byParts with
  | null => exact follows_word (by decide) .null
  | bool flag => cases flag <;> exact follows_word (by decide) (.bool _)
  | number number => exact follows_word (Draft.unmarked_number number) (.number number)
  | string text =>
      intro place rest output unescaped outside rewrites
      obtain ⟨found, left, same, turned, later⟩ := rewrites.string sound unescaped outside
      exact ⟨found, left, same, .string turned, later⟩
  | array items ih =>
      intro place rest output _ _ rewrites
      rw [Draft.text, List.cons_append] at rewrites
      obtain ⟨c, tail, start, other⟩ := items_start items
      -- The bracket of a list begins no reference, since no keyword stands behind it.
      rcases rewrites.cases_char with ⟨_, rfl, -, opened⟩ |
        ⟨spelling, value, after, _, valid, held, -, same, -⟩ | ⟨_, _, _, _, -, -, -, quote, -⟩
      · obtain ⟨found, left, rfl, turned, later⟩ := follows_items ih true
          (fun _ => @Place.unescaped_of_last [] '[' (by decide) place) opened
        rw [Place.past_past] at later
        exact ⟨.array found, left, rfl, .array turned, later⟩
      · have found : pass.valueAt? reference? ('[' :: (Draft.textOfItems true items ++ rest)) =
            some (value, after) :=
          valueAt?_iff.mpr ⟨_, reference?_iff.mpr ⟨spelling, valid, rfl, same⟩, held⟩
        rw [start, List.cons_append, valueAt?_bracket other] at found
        cases found
      · cases quote
  | object members ih =>
      intro place rest output _ _ rewrites
      rw [Draft.text, List.cons_append] at rewrites
      obtain ⟨_, rfl, opened⟩ := rewrites.char (by decide) (by decide)
      obtain ⟨found, left, rfl, keys, values, later⟩ := follows_members ih true
        (fun _ => @Place.unescaped_of_last [] '\x7b' (by decide) place) opened
      rw [Place.past_past] at later
      exact ⟨.object found, left, rfl, .object keys values, later⟩

theorem turns_substitute (sound : pass.Sound) (draft : Draft) :
    ∃ found, pass.Turns draft found ∧
      substitute pass.kind pass.resolve draft.text = found.text := by
  have rewrites := rewrites_substitute pass (draft.text ++ [])
  obtain ⟨found, left, same, turned, done⟩ := follows sound draft ⟨0, []⟩ [] _ rfl nofun
    rewrites
  rw [List.append_nil] at same
  cases done
  exact ⟨found, turned, by rw [same, List.append_nil]⟩

end Pass

end Enforcement.Template
