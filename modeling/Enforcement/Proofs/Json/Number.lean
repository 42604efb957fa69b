import Mathlib.Tactic.SplitIfs
import Enforcement.Error
import Enforcement.Text.Span

/-!
Numbers in a longer text. What reads one takes only characters that numbers are written with, and
reads the same when a text follows that begins with none of them.
-/

namespace Enforcement.Json

def isNumeric (c : Char) : Bool :=
  c.isDigit || c == '-' || c == '+' || c == '.' || c == 'e' || c == 'E'

/-- A number that stands before such a text ends there. -/
def Delimited (text : List Char) : Prop := ∀ c ∈ text.head?, isNumeric c = false

theorem delimited_nil : Delimited [] := by
  intro c head
  cases head

theorem delimited_cons {c : Char} {text : List Char} (other : isNumeric c = false) :
    Delimited (c :: text) := by
  intro first head
  cases head
  exact other

theorem isNumeric_of_isDigit {c : Char} (digit : c.isDigit = true) : isNumeric c = true := by
  simp [isNumeric, digit]

theorem isDigit_of_other {c : Char} (other : isNumeric c = false) : c.isDigit = false := by
  cases digit : c.isDigit
  · rfl
  · rw [isNumeric_of_isDigit digit] at other
    cases other

theorem readDigits_iff {text digits rest : List Char} :
    readDigits text = .ok (digits, rest) ↔
      text = digits ++ rest ∧ digits ≠ [] ∧ (∀ c ∈ digits, c.isDigit = true) ∧
        ∀ c ∈ rest.head?, c.isDigit = false := by
  constructor
  · intro read
    unfold readDigits at read
    split at read
    · cases read
    · rename_i some
      cases read
      refine ⟨List.takeWhile_append_dropWhile.symm, some, fun c member => ?_, ?_⟩
      · exact (List.all_eq_true.mp List.all_takeWhile) c member
      · intro c head
        have stop := List.head?_dropWhile_not Char.isDigit text
        rw [Option.mem_def.mp head] at stop
        simpa using stop
  · intro given
    obtain ⟨rfl, some, run, stop⟩ := given
    unfold readDigits
    rw [(Text.takeWhile_run run stop).1, (Text.takeWhile_run run stop).2]
    split
    · contradiction
    · rfl

def Uses (text rest : List Char) : Prop :=
  ∃ used, text = used ++ rest ∧ ∀ c ∈ used, isNumeric c = true

theorem Uses.refl (text : List Char) : Uses text text := ⟨[], rfl, by simp⟩

theorem Uses.cons {c : Char} {text rest : List Char} (numeric : isNumeric c = true)
    (uses : Uses text rest) : Uses (c :: text) rest := by
  rcases uses with ⟨used, rfl, all⟩
  refine ⟨c :: used, rfl, ?_⟩
  intro d member
  rcases List.mem_cons.mp member with rfl | member
  · exact numeric
  · exact all d member

theorem Uses.trans {first second third : List Char} (left : Uses first second)
    (right : Uses second third) : Uses first third := by
  rcases left with ⟨used, rfl, all⟩
  rcases right with ⟨more, rfl, others⟩
  refine ⟨used ++ more, by simp, ?_⟩
  intro c member
  rcases List.mem_append.mp member with member | member
  · exact all c member
  · exact others c member

/-- A reader of numbers takes only their characters, and reads the same from a longer text. -/
def Local {α : Type} (reader : List Char → Except Fault (α × List Char)) : Prop :=
  ∀ text left found, reader text = .ok (found, left) →
    Uses text left ∧
      ∀ rest, Delimited rest → reader (text ++ rest) = .ok (found, left ++ rest)

theorem delimited_append {left rest : List Char} (stop : ∀ c ∈ left.head?, c.isDigit = false)
    (delimited : Delimited rest) : ∀ c ∈ (left ++ rest).head?, c.isDigit = false := by
  intro c head
  cases left with
  | nil => exact isDigit_of_other (delimited c head)
  | cons d left => exact stop c head

theorem readDigits_local : Local readDigits := by
  intro text left digits read
  obtain ⟨rfl, some, run, stop⟩ := readDigits_iff.mp read
  refine ⟨⟨digits, rfl, fun c member => isNumeric_of_isDigit (run c member)⟩, ?_⟩
  intro rest delimited
  exact readDigits_iff.mpr ⟨by simp, some, run, delimited_append stop delimited⟩

theorem readDigits_of_readWhole {text left digits : List Char}
    (read : readWhole text = .ok (digits, left)) : readDigits text = .ok (digits, left) := by
  unfold readWhole at read
  split at read
  · cases read
  · exact read

theorem readWhole_local : Local readWhole := by
  intro text left digits read
  have inner := readDigits_of_readWhole read
  refine ⟨(readDigits_local _ _ _ inner).1, ?_⟩
  intro rest delimited
  have longer := (readDigits_local _ _ _ inner).2 rest delimited
  unfold readWhole at read ⊢
  rw [inner] at read
  rw [longer]
  split at read
  · cases read
  · rename_i several
    split
    · rename_i zero
      cases zero
      exact absurd rfl (several _ _ _)
    · rfl

/-- A reader of numbers takes no more than is there, whatever follows. -/
def Firm {α : Type} (reader : List Char → Except Fault (α × List Char)) : Prop :=
  ∀ text left found rest, Delimited rest → reader (text ++ rest) = .ok (found, left ++ rest) →
    reader text = .ok (found, left)

theorem readDigits_firm : Firm readDigits := by
  intro text left digits rest _ read
  obtain ⟨same, some, run, stop⟩ := readDigits_iff.mp read
  rw [← List.append_assoc] at same
  refine readDigits_iff.mpr ⟨List.append_cancel_right same, some, run, fun c head => ?_⟩
  exact stop c (by rw [List.head?_append, Option.mem_def.mp head]; rfl)

theorem readWhole_firm : Firm readWhole := by
  intro text left digits rest delimited read
  unfold readWhole at read ⊢
  split at read
  · cases read
  · rename_i several
    have inner := readDigits_firm _ _ _ _ delimited read
    rw [inner]
    split
    · rename_i zero
      cases zero
      exact absurd read (several _ _ _)
    · rfl

structure Tidy {α : Type} (reader : List Char → Except Fault (α × List Char)) : Prop where
  near : Local reader
  firm : Firm reader

theorem Tidy.bind {α β : Type} {first : List Char → Except Fault (α × List Char)}
    {second : α → List Char → Except Fault (β × List Char)} (head : Tidy first)
    (tail : ∀ found, Tidy (second found)) :
    Tidy fun text => first text >>= fun (found, rest) => second found rest where
  near := by
    intro text left value read
    obtain ⟨⟨found, middle⟩, start, finish⟩ := bind_ok.mp read
    obtain ⟨uses, longer⟩ := head.near _ _ _ start
    obtain ⟨more, further⟩ := (tail found).near _ _ _ finish
    refine ⟨uses.trans more, fun rest delimited => ?_⟩
    exact bind_ok.mpr ⟨(found, middle ++ rest), longer rest delimited, further rest delimited⟩
  firm := by
    intro text left value rest delimited read
    obtain ⟨⟨found, middle⟩, start, finish⟩ := bind_ok.mp read
    obtain ⟨used, rfl, -⟩ := ((tail found).near _ _ _ finish).1
    rw [← List.append_assoc] at start finish
    exact bind_ok.mpr ⟨(found, used ++ left), head.firm _ _ _ _ delimited start,
      (tail found).firm _ _ _ _ delimited finish⟩

theorem tidy_of_result {α : Type} (result : Except Fault α) :
    Tidy fun text =>
      result >>= fun found => (.ok (found, text) : Except Fault (α × List Char)) where
  near := by
    intro text left value read
    obtain ⟨found, given, finish⟩ := bind_ok.mp read
    cases finish
    exact ⟨Uses.refl _, fun rest _ => bind_ok.mpr ⟨value, given, rfl⟩⟩
  firm := by
    intro text left value rest _ read
    obtain ⟨found, given, finish⟩ := bind_ok.mp read
    obtain ⟨rfl, same⟩ := Prod.mk.inj (Except.ok.inj finish)
    exact bind_ok.mpr ⟨found, given, by rw [List.append_cancel_right same]⟩

/-- A reader that goes on behind a mark, and else reads in a plain way. -/
theorem tidy_of_mark {α : Type} {reader plain : List Char → Except Fault (α × List Char)}
    (tidy : Tidy plain) (ends : reader [] = plain [])
    (branch : ∀ c, (isNumeric c = true ∧ ∃ behind : List Char → Except Fault (α × List Char),
      Tidy behind ∧ ∀ tail, reader (c :: tail) = behind tail) ∨
        ∀ tail, reader (c :: tail) = plain (c :: tail)) : Tidy reader := by
  -- What follows a number begins with no mark.
  have unmarked {rest : List Char} (delimited : Delimited rest) : reader rest = plain rest := by
    cases rest with
    | nil => exact ends
    | cons c tail =>
        rcases branch c with ⟨numeric, -⟩ | same
        · rw [delimited c rfl] at numeric
          cases numeric
        · exact same tail
  refine ⟨fun text left value read => ?_, fun text left value rest delimited read => ?_⟩
  · cases text with
    | nil =>
        rw [ends] at read
        obtain ⟨uses, longer⟩ := tidy.near _ _ _ read
        exact ⟨uses, fun rest delimited => (unmarked delimited).trans (longer rest delimited)⟩
    | cons c text =>
        rcases branch c with ⟨numeric, behind, marked, same⟩ | same
        · rw [same] at read
          obtain ⟨uses, longer⟩ := marked.near _ _ _ read
          exact ⟨uses.cons numeric, fun rest delimited => (same _).trans (longer rest delimited)⟩
        · rw [same] at read
          obtain ⟨uses, longer⟩ := tidy.near _ _ _ read
          exact ⟨uses, fun rest delimited => (same _).trans (longer rest delimited)⟩
  · cases text with
    | nil =>
        rw [List.nil_append, unmarked delimited] at read
        exact ends.trans (tidy.firm [] _ _ _ delimited read)
    | cons c text =>
        rcases branch c with ⟨-, behind, marked, same⟩ | same
        · rw [List.cons_append, same] at read
          exact (same _).trans (marked.firm _ _ _ _ delimited read)
        · rw [List.cons_append, same] at read
          exact (same _).trans (tidy.firm (c :: text) _ _ _ delimited read)

theorem readDigits_tidy : Tidy readDigits := ⟨readDigits_local, readDigits_firm⟩

theorem readWhole_tidy : Tidy readWhole := ⟨readWhole_local, readWhole_firm⟩

theorem readDecimals_tidy : Tidy readDecimals := by
  refine tidy_of_mark (tidy_of_result (.ok [])) rfl fun c => ?_
  by_cases point : c = '.'
  · subst point
    exact .inl ⟨rfl, _, readDigits_tidy, fun _ => rfl⟩
  · exact .inr fun tail => by simp [readDecimals, point, bind, Except.bind]

theorem exponentSign_tidy : Tidy fun text => .ok (exponentSign text) := by
  refine tidy_of_mark (tidy_of_result (.ok false)) rfl fun c => ?_
  by_cases plus : c = '+'
  · subst plus
    exact .inl ⟨rfl, _, tidy_of_result (.ok false), fun _ => rfl⟩
  · by_cases minus : c = '-'
    · subst minus
      exact .inl ⟨rfl, _, tidy_of_result (.ok true), fun _ => rfl⟩
    · exact .inr fun tail => by simp [exponentSign, plus, minus, bind, Except.bind]

theorem readExponent_tidy : Tidy readExponent := by
  have power := exponentSign_tidy.bind fun down => readDigits_tidy.bind fun digits =>
    tidy_of_result (.ok (some (down, digits)))
  have mapped (text : List Char) : (readDigits (exponentSign text).2).map (fun found =>
        (some ((exponentSign text).1, found.1), found.2)) =
      readDigits (exponentSign text).2 >>= fun found =>
        .ok (some ((exponentSign text).1, found.1), found.2) := by
    cases readDigits (exponentSign text).2 <;> rfl
  refine tidy_of_mark (tidy_of_result (.ok none)) rfl fun c => ?_
  by_cases small : c = 'e'
  · subst small
    exact .inl ⟨rfl, _, power, mapped⟩
  · by_cases great : c = 'E'
    · subst great
      exact .inl ⟨rfl, _, power, mapped⟩
    · exact .inr fun tail => by simp [readExponent, small, great, bind, Except.bind]

theorem readNumeral_tidy : Tidy readNumeral := by
  have ending (whole decimals : List Char) : Tidy fun text =>
      readExponent text >>= fun last =>
        (.ok ((⟨whole, decimals, last.1⟩ : Numeral), last.2) :
          Except Fault (Numeral × List Char)) :=
    readExponent_tidy.bind fun exponent => tidy_of_result (.ok _)
  have middle (whole : List Char) : Tidy fun text =>
      readDecimals text >>= fun decimals =>
        readExponent decimals.2 >>= fun last =>
          (.ok ((⟨whole, decimals.1, last.1⟩ : Numeral), last.2) :
            Except Fault (Numeral × List Char)) :=
    readDecimals_tidy.bind (ending whole)
  exact readWhole_tidy.bind middle

theorem readUnsigned_tidy (negative : Bool) : Tidy (readUnsigned negative) :=
  readNumeral_tidy.bind fun numeral => tidy_of_result (numeral.value negative)

theorem readNumber_unsigned {c : Char} (minus : c ≠ '-') (tail : List Char) :
    readNumber (c :: tail) = readUnsigned false (c :: tail) := by
  simp [readNumber, minus]

theorem readNumber_tidy : Tidy readNumber := by
  refine tidy_of_mark (readUnsigned_tidy false) rfl fun c => ?_
  by_cases minus : c = '-'
  · subst minus
    exact .inl ⟨rfl, _, readUnsigned_tidy true, fun _ => rfl⟩
  · exact .inr (readNumber_unsigned minus)

theorem readNumber_head {c : Char} {text left : List Char} {number : Number}
    (read : readNumber (c :: text) = .ok (number, left)) : c = '-' ∨ c.isDigit = true := by
  by_cases minus : c = '-'
  · exact Or.inl minus
  · right
    rw [readNumber_unsigned minus] at read
    obtain ⟨⟨numeral, rest⟩, spelled, -⟩ := bind_ok.mp read
    obtain ⟨⟨whole, rest⟩, digits, -⟩ := bind_ok.mp spelled
    obtain ⟨same, some, all, -⟩ := readDigits_iff.mp (readDigits_of_readWhole digits)
    cases whole with
    | nil => contradiction
    | cons d whole =>
        cases same
        exact all c List.mem_cons_self

/-! The characters of a written number. -/

namespace Number

def AllNumeric (text : List Char) : Prop := ∀ c ∈ text, isNumeric c = true

theorem AllNumeric.append {left right : List Char} (first : AllNumeric left)
    (second : AllNumeric right) : AllNumeric (left ++ right) := by
  intro c member
  rcases List.mem_append.mp member with member | member
  · exact first c member
  · exact second c member

theorem AllNumeric.of_digits {digits : List Char} (all : ∀ c ∈ digits, c.isDigit = true) :
    AllNumeric digits := fun c member => isNumeric_of_isDigit (all c member)

theorem numeric_natural (value : Nat) : AllNumeric (Nat.toDigits 10 value) :=
  .of_digits fun _ member => Nat.isDigit_of_mem_toDigits (by decide) (by decide) member

theorem numeric_sign (negative : Prop) [Decidable negative] :
    AllNumeric (if negative then ['-'] else []) := by
  split <;> simp [AllNumeric, isNumeric]

theorem numeric_zeros (count : Nat) : AllNumeric (zeros count) := by
  intro c member
  rw [List.eq_of_mem_replicate member]
  rfl

theorem numeric_fraction (value : Decimal.Binary64) : AllNumeric (renderFraction value) := by
  have digits : AllNumeric (Decimal.shortest value).digits :=
    .of_digits fun _ member => Decimal.shortest_digits value member
  have taken (count : Nat) : AllNumeric ((Decimal.shortest value).digits.take count) :=
    fun c member => digits c (List.mem_of_mem_take member)
  have dropped (count : Nat) : AllNumeric ((Decimal.shortest value).digits.drop count) :=
    fun c member => digits c (List.mem_of_mem_drop member)
  have point : AllNumeric ['.'] := by simp [AllNumeric, isNumeric]
  have zero : AllNumeric ['.', '0'] := by simp [AllNumeric, isNumeric]
  have nought : AllNumeric ['0', '.'] := by simp [AllNumeric, isNumeric]
  unfold renderFraction
  by_cases nothing : value.mantissa = 0
  · simp only [nothing, if_true]
    exact (numeric_sign _).append (by simp [AllNumeric, isNumeric])
  · simp only [nothing, if_false]
    refine (numeric_sign _).append ?_
    split
    · refine AllNumeric.append ?_ (numeric_natural _)
      refine AllNumeric.append ?_ (by split <;> simp [AllNumeric, isNumeric])
      refine AllNumeric.append ((taken 1).append ?_) (by simp [AllNumeric, isNumeric])
      split
      · simp [AllNumeric]
      · exact point.append (dropped 1)
    · split
      · exact (nought.append (numeric_zeros _)).append digits
      · split
        · exact (digits.append (numeric_zeros _)).append zero
        · exact ((taken _).append point).append (dropped _)

theorem numeric_render (number : Number) : AllNumeric number.render := by
  cases number with
  | whole value => exact (numeric_sign _).append (numeric_natural _)
  | fraction value => exact numeric_fraction value

theorem render_ne_nil (number : Number) : number.render ≠ [] := by
  cases number with
  | whole value => simp [render, renderWhole, Nat.toDigits_ne_nil]
  | fraction value =>
      simp only [render]
      unfold renderFraction
      by_cases nothing : value.mantissa = 0
      · simp [nothing]
      · simp only [nothing, if_false]
        intro none
        have body := (List.append_eq_nil_iff.mp none).2
        revert body
        split
        · simp
        · split
          · simp
          · split <;> simp

theorem render_start (number : Number) :
    ∃ c tail, number.render = c :: tail ∧ isNumeric c = true := by
  cases text : number.render with
  | nil => exact absurd text number.render_ne_nil
  | cons c tail => exact ⟨c, tail, rfl, number.numeric_render c (by simp [text])⟩

def ReadsBack (number : Number) : Prop := readNumber number.render = .ok (number, [])

instance (number : Number) : Decidable number.ReadsBack :=
  match read : readNumber number.render with
  | .ok found => decidable_of_iff (found = (number, [])) (by rw [ReadsBack, read, Except.ok.injEq])
  | .error fault => isFalse (by rw [ReadsBack, read]; nofun)

def Readable (number : Number) : Prop := ∃ found, readNumber number.render = .ok (found, [])

instance (number : Number) : Decidable number.Readable :=
  match read : readNumber number.render with
  | .ok (found, []) => isTrue ⟨found, read⟩
  | .ok (_, _ :: _) => isFalse (by rintro ⟨found, same⟩; rw [read] at same; cases same)
  | .error _ => isFalse (by rintro ⟨found, same⟩; rw [read] at same; cases same)

def reread (number : Number) : Number :=
  match readNumber number.render with
  | .ok (found, _) => found
  | .error _ => number

theorem ReadsBack.readable {number : Number} (back : number.ReadsBack) : number.Readable :=
  ⟨number, back⟩

theorem ReadsBack.reread_eq {number : Number} (back : number.ReadsBack) :
    number.reread = number := by
  rw [reread, back]

theorem Readable.before {number : Number} (readable : number.Readable) {rest : List Char}
    (delimited : Delimited rest) :
    readNumber (number.render ++ rest) = .ok (number.reread, rest) := by
  obtain ⟨found, read⟩ := readable
  rw [reread, read]
  exact (readNumber_tidy.near _ _ _ read).2 rest delimited

theorem readNumber_stops {number found : Number} {rest left : List Char}
    (delimited : Delimited rest) (remaining : Delimited left)
    (read : readNumber (number.render ++ rest) = .ok (found, left)) : left = rest := by
  obtain ⟨used, same, all⟩ := (readNumber_tidy.near _ _ _ read).1
  rcases List.append_eq_append_iff.mp same with ⟨more, rfl, split⟩ | ⟨more, split, rfl⟩
  · cases more with
    | nil => simpa using split.symm
    | cons c more =>
        have foreign := delimited c (by simp [split])
        have numeric := all c (by simp)
        rw [foreign] at numeric
        cases numeric
  · cases more with
    | nil => rfl
    | cons c more =>
        have foreign := remaining c rfl
        have numeric := numeric_render number c (by simp [split])
        rw [foreign] at numeric
        cases numeric

theorem readable_of_read {number found : Number} {rest left : List Char}
    (delimited : Delimited rest) (remaining : Delimited left)
    (read : readNumber (number.render ++ rest) = .ok (found, left)) : number.Readable := by
  obtain rfl := readNumber_stops delimited remaining read
  obtain ⟨c, tail, text, -⟩ := number.render_start
  rw [text] at read
  have alone : readNumber (c :: tail) = .ok (found, []) :=
    readNumber_tidy.firm (c :: tail) _ _ _ delimited read
  exact ⟨found, text ▸ alone⟩

/-! Whole numbers. -/

theorem le_ofDigitChars (digits : List Char) (value : Nat) :
    value ≤ Nat.ofDigitChars 10 digits value := by
  induction digits generalizing value with
  | nil => exact Nat.le_of_eq Nat.ofDigitChars_nil.symm
  | cons c rest ih =>
      rw [Nat.ofDigitChars_cons]
      exact Nat.le_trans (by omega) (ih _)

theorem gather_eq {digits : List Char} {value : Nat}
    (small : Nat.ofDigitChars 10 digits value < Nat.pow 2 64) :
    gather digits value = (Nat.ofDigitChars 10 digits value, []) := by
  induction digits generalizing value with
  | nil => rfl
  | cons c rest ih =>
      have next : value * 10 + (c.toNat - 48) = 10 * value + (c.toNat - '0'.toNat) := by
        rw [Nat.mul_comm]
        rfl
      rw [Nat.ofDigitChars_cons] at small ⊢
      rw [gather, next, if_pos (Nat.lt_of_le_of_lt (le_ofDigitChars rest _) small)]
      exact ih small

theorem toDigits_lead {value : Nat} {rest : List Char}
    (digits : Nat.toDigits 10 value = '0' :: rest) : rest = [] := by
  induction value using Nat.strongRecOn generalizing rest with
  | ind value ih =>
      by_cases small : value < 10
      · rw [Nat.toDigits_of_lt_base small] at digits
        exact (List.cons.inj digits).2.symm
      · have above := Nat.le_of_not_lt small
        rw [Nat.toDigits_of_base_le (by decide) above] at digits
        cases upper : Nat.toDigits 10 (value / 10) with
        | nil => exact absurd upper Nat.toDigits_ne_nil
        | cons c others =>
            rw [upper] at digits
            obtain ⟨rfl, -⟩ := List.cons.inj digits
            have none := ih (value / 10) (Nat.div_lt_self (by omega) (by decide)) upper
            have zero := @Nat.ofDigitChars_ten_toDigits (value / 10)
            rw [upper, none] at zero
            have zero : 0 = value / 10 := zero
            omega

theorem readWhole_toDigits (value : Nat) :
    readWhole (Nat.toDigits 10 value) = .ok (Nat.toDigits 10 value, []) := by
  have digits : readDigits (Nat.toDigits 10 value) = .ok (Nat.toDigits 10 value, []) :=
    readDigits_iff.mpr ⟨(List.append_nil _).symm, Nat.toDigits_ne_nil,
      fun _ member => Nat.isDigit_of_mem_toDigits (by decide) (by decide) member, nofun⟩
  unfold readWhole
  rw [digits]
  split
  · rename_i lead
    cases toDigits_lead (Prod.mk.inj (Except.ok.inj lead)).1
  · rfl

theorem readUnsigned_toDigits (negative : Bool) {value : Nat} (small : value < Nat.pow 2 64) :
    readUnsigned negative (Nat.toDigits 10 value) =
      (wholeValue negative value).map fun number => (number, []) := by
  have numeral : readNumeral (Nat.toDigits 10 value) =
      .ok (⟨Nat.toDigits 10 value, [], none⟩, []) := by
    unfold readNumeral
    rw [readWhole_toDigits]
    rfl
  have gathered : gather (Nat.toDigits 10 value) 0 = (value, []) := by
    rw [gather_eq (by rwa [Nat.ofDigitChars_ten_toDigits]), Nat.ofDigitChars_ten_toDigits]
  have valued : Numeral.value negative ⟨Nat.toDigits 10 value, [], none⟩ =
      wholeValue negative value := by
    unfold Numeral.value
    rw [gathered]
    rfl
  unfold readUnsigned
  rw [numeral]
  change (Numeral.value negative ⟨Nat.toDigits 10 value, [], none⟩ >>= fun number =>
    Except.ok (number, [])) = _
  rw [valued]
  cases wholeValue negative value with
  | error fault => rfl
  | ok number => rfl

theorem readsBack_whole {value : Int} (least : leastWhole ≤ value)
    (greatest : value ≤ greatestWhole) : (whole value).ReadsBack := by
  have bounds : value.natAbs < Nat.pow 2 64 := by
    simp only [leastWhole, greatestWhole, Nat.pow_eq] at least greatest ⊢
    omega
  unfold ReadsBack
  simp only [render, renderWhole]
  by_cases negative : value < 0
  · have low : ¬ Nat.pow 2 63 < value.natAbs := by
      simp only [leastWhole, Nat.pow_eq] at least ⊢
      omega
    have some : value.natAbs ≠ 0 := by omega
    have same : -(value.natAbs : Int) = value := by omega
    have spelled : wholeValue true value.natAbs = .ok (whole value) := by
      have plain : ¬(decide (value.natAbs = 0) || decide (Nat.pow 2 63 < value.natAbs)) = true := by
        simp only [some, low, decide_false, Bool.or_self, Bool.false_eq_true, not_false_eq_true]
      rw [wholeValue, if_neg (by decide), if_neg plain, same]
    rw [if_pos negative]
    change readUnsigned true (Nat.toDigits 10 value.natAbs) = _
    rw [readUnsigned_toDigits true bounds, spelled]
    rfl
  · have same : (value.natAbs : Int) = value := by omega
    have unsigned : readNumber (Nat.toDigits 10 value.natAbs) =
        readUnsigned false (Nat.toDigits 10 value.natAbs) := by
      cases digits : Nat.toDigits 10 value.natAbs with
      | nil => rfl
      | cons c rest =>
          have digit : c.isDigit = true :=
            Nat.isDigit_of_mem_toDigits (b := 10) (n := value.natAbs) (by decide) (by decide)
              (by rw [digits]; exact List.mem_cons_self)
          have minus : c ≠ '-' := by
            rintro rfl
            cases digit
          simp [readNumber, minus]
    have spelled : wholeValue false value.natAbs = .ok (whole value) := by
      rw [wholeValue, if_pos (by decide), same]
    rw [if_neg negative, List.nil_append, unsigned, readUnsigned_toDigits false bounds, spelled]
    rfl

end Number

end Enforcement.Json
