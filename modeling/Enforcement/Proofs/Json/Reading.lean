import Mathlib.Tactic.SplitIfs
import Enforcement.Json.Reader
import Enforcement.Proofs.Json.Layout
import Enforcement.Proofs.Json.Number

/-!
Printed documents read back: each number as it is read again, and each object with its members put
one after the other where their keys belong. A document in order whose numbers read back stays.
-/

namespace Enforcement.Json

/-! Strings. -/

theorem readString_quote (rest : List Char) : readString ('"' :: rest) = .ok ([], rest) := by
  rw [readString.eq_def]
  simp

theorem readString_plain {c : Char} {rest text tail : List Char} (quote : c ≠ '"')
    (slash : c ≠ '\\') (control : ¬ c.toNat < 32) (read : readString rest = .ok (text, tail)) :
    readString (c :: rest) = .ok (c :: text, tail) := by
  rw [readString.eq_def]
  simp only [quote, slash, control, if_false, read]
  rfl

theorem readString_escaped {mark c : Char} {rest text tail : List Char}
    (plain : plainEscape? mark = some c) (read : readString rest = .ok (text, tail)) :
    readString ('\\' :: mark :: rest) = .ok (c :: text, tail) := by
  have unit : mark ≠ 'u' := by
    rintro rfl
    cases plain
  rw [readString.eq_def]
  simp [unit, plain, read]
  rfl

theorem readString_unit {a b c d : Char} {unit : Nat} {rest text tail : List Char}
    (digits : hexUnit? a b c d = some unit) (trail : isTrailUnit unit = false)
    (lead : isLeadUnit unit = false) (read : readString rest = .ok (text, tail)) :
    readString ('\\' :: 'u' :: a :: b :: c :: d :: rest) = .ok (Char.ofNat unit :: text, tail) := by
  rw [readString.eq_def]
  simp [digits, trail, lead, read]
  rfl

theorem hexUnit_control : ∀ code < 32,
    hexUnit? '0' '0' (hexDigit (code / 16)) (hexDigit code) = some code := by decide

theorem readString_escapeChar (c : Char) {rest text tail : List Char}
    (read : readString rest = .ok (text, tail)) :
    readString (escapeChar c ++ rest) = .ok (c :: text, tail) := by
  unfold escapeChar
  split_ifs with quote slash backspace feed line carriage tab control
  · subst c; exact readString_escaped rfl read
  · subst c; exact readString_escaped rfl read
  · subst c; exact readString_escaped rfl read
  · subst c; exact readString_escaped rfl read
  · subst c; exact readString_escaped rfl read
  · subst c; exact readString_escaped rfl read
  · subst c; exact readString_escaped rfl read
  · have trail : isTrailUnit c.toNat = false := by simp [isTrailUnit]; omega
    have lead : isLeadUnit c.toNat = false := by simp [isLeadUnit]; omega
    simpa [Char.ofNat_toNat] using
      readString_unit (hexUnit_control c.toNat control) trail lead read
  · exact readString_plain quote slash control read

theorem readString_escape (text rest : List Char) :
    readString (escape text ++ '"' :: rest) = .ok (text, rest) := by
  induction text with
  | nil => simp [escape, readString_quote]
  | cons c text ih =>
      have head := readString_escapeChar c ih
      simpa [escape, List.flatMap_cons, List.append_assoc] using head

/-! Steps of the reader. -/

def AllSpace (text : List Char) : Prop := ∀ c ∈ text, isSpace c = true

theorem allSpace_nil : AllSpace [] := fun _ member => by cases member

theorem allSpace_lead {blank : List Char} (all : AllSpace blank) (first : Bool) :
    AllSpace (if first then [] else blank) := by
  cases first with
  | true => exact allSpace_nil
  | false => exact all

theorem skipSpaces_append {blank : List Char} (all : AllSpace blank) (text : List Char) :
    skipSpaces (blank ++ text) = skipSpaces text := List.dropWhile_append_of_pos all

theorem skipSpaces_cons {c : Char} (visible : isSpace c = false) (text : List Char) :
    skipSpaces (c :: text) = c :: text := by
  simp [skipSpaces, visible]

theorem readValue_blank {blank : List Char} (all : AllSpace blank) (fuel depth : Nat)
    (text : List Char) : readValue fuel depth (blank ++ text) = readValue fuel depth text := by
  cases fuel with
  | zero => rfl
  | succ fuel => rw [readValue, readValue, skipSpaces_append all]

theorem readValue_string (fuel depth : Nat) (text : String) (rest : List Char) :
    readValue (fuel + 1) depth (printString text ++ rest) = .ok (.string text, rest) := by
  rw [printString, List.cons_append, readValue, skipSpaces_cons (by decide)]
  simp [readString_escape, Functor.map, Except.map]

theorem ne_of_isNumeric {c : Char} (numeric : isNumeric c = true) (other : Char)
    (foreign : isNumeric other = false) : c ≠ other := by
  rintro rfl
  rw [foreign] at numeric
  cases numeric

theorem not_isSpace_of_isNumeric {c : Char} (numeric : isNumeric c = true) :
    isSpace c = false := by
  simp [isSpace, ne_of_isNumeric numeric ' ' rfl, ne_of_isNumeric numeric '\n' rfl,
    ne_of_isNumeric numeric '\t' rfl, ne_of_isNumeric numeric '\r' rfl]

theorem readValue_number {fuel depth : Nat} {c : Char} {rest : List Char}
    (numeric : isNumeric c = true) :
    readValue (fuel + 1) depth (c :: rest) =
      if c = '-' ∨ c.isDigit = true then
        (readNumber (c :: rest)).map fun (number, rest) => (.number number, rest)
      else .error .malformed := by
  have other := ne_of_isNumeric numeric
  rw [readValue, skipSpaces_cons (not_isSpace_of_isNumeric numeric)]
  simp only [other 'n' rfl, other 't' rfl, other 'f' rfl,
    other '"' rfl, other '[' rfl, other '\x7b' rfl, if_false]
  by_cases start : c = '-' ∨ c.isDigit = true
  · simp [start]
    cases readNumber (c :: rest) <;> rfl
  · simp [start]

theorem readValue_render_ok {fuel depth : Nat} {number : Number} {rest left : List Char}
    {found : Value} (read : readValue fuel depth (number.render ++ rest) = .ok (found, left)) :
    ∃ other, readNumber (number.render ++ rest) = .ok (other, left) ∧ found = .number other := by
  cases fuel with
  | zero => cases read
  | succ fuel =>
      obtain ⟨c, tail, text, numeric⟩ := number.render_start
      rw [text, List.cons_append] at read ⊢
      rw [readValue_number numeric] at read
      split at read
      · cases result : readNumber (c :: (tail ++ rest)) with
        | error fault =>
            rw [result] at read
            cases read
        | ok pair =>
            rw [result] at read
            cases read
            exact ⟨_, rfl, rfl⟩
      · cases read

theorem readValue_array {fuel depth : Nat} (deep : 1 < depth) (rest : List Char) :
    readValue (fuel + 1) depth ('[' :: rest) =
      (readItems fuel (depth - 1) true rest).map fun (items, rest) => (.array items, rest) := by
  rw [readValue, skipSpaces_cons (by decide)]
  simp [Nat.not_le.mpr deep]
  cases readItems fuel (depth - 1) true rest <;> rfl

theorem readValue_object {fuel depth : Nat} (deep : 1 < depth) (rest : List Char) :
    readValue (fuel + 1) depth ('{' :: rest) =
      (readMembers fuel (depth - 1) true [] rest).map
        fun (members, rest) => (.object members, rest) := by
  rw [readValue, skipSpaces_cons (by decide)]
  simp [Nat.not_le.mpr deep]
  cases readMembers fuel (depth - 1) true [] rest <;> rfl

theorem readValue_array_ok {fuel depth : Nat} {text left : List Char} {found : Value}
    (read : readValue fuel depth ('[' :: text) = .ok (found, left)) :
    ∃ less items, 1 < depth ∧ readItems less (depth - 1) true text = .ok (items, left) ∧
      found = .array items := by
  cases fuel with
  | zero => cases read
  | succ fuel =>
      by_cases deep : 1 < depth
      · rw [readValue_array deep] at read
        cases result : readItems fuel (depth - 1) true text with
        | error fault =>
            rw [result] at read
            cases read
        | ok pair =>
            rw [result] at read
            cases read
            exact ⟨fuel, _, deep, result, rfl⟩
      · rw [readValue, skipSpaces_cons (by decide)] at read
        simp [Nat.le_of_not_lt deep] at read

theorem readValue_object_ok {fuel depth : Nat} {text left : List Char} {found : Value}
    (read : readValue fuel depth ('{' :: text) = .ok (found, left)) :
    ∃ less members, 1 < depth ∧ readMembers less (depth - 1) true [] text = .ok (members, left) ∧
      found = .object members := by
  cases fuel with
  | zero => cases read
  | succ fuel =>
      by_cases deep : 1 < depth
      · rw [readValue_object deep] at read
        cases result : readMembers fuel (depth - 1) true [] text with
        | error fault =>
            rw [result] at read
            cases read
        | ok pair =>
            rw [result] at read
            cases read
            exact ⟨fuel, _, deep, result, rfl⟩
      · rw [readValue, skipSpaces_cons (by decide)] at read
        simp [Nat.le_of_not_lt deep] at read

def Opens (c : Char) : Prop := isSpace c = false ∧ c ≠ ']'

instance : DecidablePred Opens := fun _ => inferInstanceAs (Decidable (_ ∧ _))

theorem readItems_close {blank : List Char} (all : AllSpace blank) (fuel depth : Nat)
    (first : Bool) (rest : List Char) :
    readItems (fuel + 1) depth first (blank ++ ']' :: rest) = .ok ([], rest) := by
  rw [readItems, skipSpaces_append all, skipSpaces_cons (by decide)]
  simp

theorem readItems_item {blank : List Char} (all : AllSpace blank) {c : Char} (opens : Opens c)
    (fuel depth : Nat) (first : Bool) (text : List Char) :
    readItems (fuel + 1) depth first ((if first then [] else [',']) ++ (blank ++ c :: text)) =
      (do
        let (item, rest) ← readValue fuel depth (c :: text)
        let (items, rest) ← readItems fuel depth false rest
        return (item :: items, rest)) := by
  obtain ⟨visible, inner⟩ := opens
  have start : skipSpaces (blank ++ c :: text) = c :: text := by
    rw [skipSpaces_append all, skipSpaces_cons visible]
  cases first with
  | true =>
      simp only [if_true, List.nil_append]
      rw [readItems, start]
      simp [inner]
  | false =>
      simp only [Bool.false_eq_true, if_false, List.singleton_append]
      rw [readItems, skipSpaces_cons (by decide)]
      simp [inner, start]

theorem readItems_close_ok {blank : List Char} (all : AllSpace blank) {fuel depth : Nat}
    {first : Bool} {rest left : List Char} {found : List Value}
    (read : readItems fuel depth first (blank ++ ']' :: rest) = .ok (found, left)) :
    left = rest ∧ found = [] := by
  cases fuel with
  | zero => cases read
  | succ fuel =>
      rw [readItems_close all] at read
      cases read
      exact ⟨rfl, rfl⟩

theorem readItems_item_ok {blank text : List Char} (all : AllSpace blank)
    (opens : ∃ c tail, text = c :: tail ∧ Opens c) {fuel depth : Nat} {first : Bool}
    {rest left : List Char} {found : List Value}
    (read : readItems fuel depth first
      ((if first then [] else [',']) ++ (blank ++ (text ++ rest))) = .ok (found, left)) :
    ∃ less item middle items, readValue less depth (text ++ rest) = .ok (item, middle) ∧
      readItems less depth false middle = .ok (items, left) ∧ found = item :: items := by
  obtain ⟨c, tail, rfl, opens⟩ := opens
  cases fuel with
  | zero => cases read
  | succ fuel =>
      rw [List.cons_append, readItems_item all opens] at read
      obtain ⟨⟨item, middle⟩, head, later⟩ := bind_ok.mp read
      obtain ⟨⟨items, last⟩, others, finish⟩ := bind_ok.mp later
      cases finish
      exact ⟨fuel, item, middle, items, head, others, rfl⟩

theorem readMembers_close {blank : List Char} (all : AllSpace blank) (fuel depth : Nat)
    (first : Bool) (members : List (String × Value)) (rest : List Char) :
    readMembers (fuel + 1) depth first members (blank ++ '\x7d' :: rest) = .ok (members, rest) := by
  rw [readMembers, skipSpaces_append all, skipSpaces_cons (by decide)]
  simp

theorem readMembers_member {blank : List Char} (all : AllSpace blank) (fuel depth : Nat)
    (first : Bool) (members : List (String × Value)) (key : String) (text : List Char) :
    readMembers (fuel + 1) depth first members
        ((if first then [] else [',']) ++ (blank ++ (printString key ++ ':' :: text))) =
      (do
        let (value, rest) ← readValue fuel depth text
        readMembers fuel depth false (insertMember key value members) rest) := by
  have start : skipSpaces (blank ++ (printString key ++ ':' :: text)) =
      '"' :: (escape key.toList ++ '"' :: ':' :: text) := by
    rw [skipSpaces_append all, printString, List.cons_append, skipSpaces_cons (by decide)]
    simp
  have colon : skipSpaces (':' :: text) = ':' :: text := skipSpaces_cons (by decide) text
  cases first with
  | true =>
      simp only [if_true, List.nil_append]
      rw [readMembers, start]
      simp only [Bool.true_or, if_true, readString_escape]
      simp [bind, Except.bind, colon]
  | false =>
      simp only [Bool.false_eq_true, if_false, List.singleton_append]
      rw [readMembers, skipSpaces_cons (by decide)]
      simp [bind, Except.bind, start, readString_escape, colon]

theorem readMembers_close_ok {blank : List Char} (all : AllSpace blank) {fuel depth : Nat}
    {first : Bool} {members found : List (String × Value)} {rest left : List Char}
    (read : readMembers fuel depth first members (blank ++ '\x7d' :: rest) = .ok (found, left)) :
    left = rest ∧ found = members := by
  cases fuel with
  | zero => cases read
  | succ fuel =>
      rw [readMembers_close all] at read
      cases read
      exact ⟨rfl, rfl⟩

theorem readMembers_member_ok {blank : List Char} (all : AllSpace blank) {fuel depth : Nat}
    {first : Bool} {members found : List (String × Value)} {key : String} {text left : List Char}
    (read : readMembers fuel depth first members
      ((if first then [] else [',']) ++ (blank ++ (printString key ++ ':' :: text))) =
        .ok (found, left)) :
    ∃ less value middle, readValue less depth text = .ok (value, middle) ∧
      readMembers less depth false (insertMember key value members) middle = .ok (found, left) := by
  cases fuel with
  | zero => cases read
  | succ fuel =>
      rw [readMembers_member all] at read
      obtain ⟨⟨value, middle⟩, head, later⟩ := bind_ok.mp read
      exact ⟨fuel, value, middle, head, later⟩

/-! Whole documents. -/

theorem spread_opens (gap : Nat → List Char) (pause : List Char) (level : Nat) (value : Value) :
    ∃ c tail, spread gap pause level value = c :: tail ∧ Opens c := by
  cases value with
  | null => exact ⟨'n', _, rfl, by decide⟩
  | bool flag => cases flag <;> exact ⟨_, _, rfl, by decide⟩
  | number number =>
      obtain ⟨c, tail, text, numeric⟩ := number.render_start
      exact ⟨c, tail, text, not_isSpace_of_isNumeric numeric, ne_of_isNumeric numeric ']' rfl⟩
  | string text => exact ⟨'"', _, rfl, by decide⟩
  | array items => exact ⟨'[', _, rfl, by decide⟩
  | object members => exact ⟨'\x7b', _, rfl, by decide⟩

theorem insertMember_last {key : String} {value : Value} {members : List (String × Value)}
    (last : ∀ member ∈ members, member.1 < key) :
    insertMember key value members = members ++ [(key, value)] := by
  induction members with
  | nil => rfl
  | cons member rest ih =>
      obtain ⟨other, held⟩ := member
      have below : other < key := last (other, held) List.mem_cons_self
      have above : ¬ key < other := String.lt_asymm below
      have different : key ≠ other := fun same => String.lt_irrefl key (same ▸ below)
      have tail := ih fun member inside => last member (List.mem_cons_of_mem _ inside)
      simp [insertMember, above, different, tail]

def NumberReadsBack : Value → Prop
  | .number number => number.ReadsBack
  | _ => True

instance : DecidablePred NumberReadsBack
  | .number number => inferInstanceAs (Decidable number.ReadsBack)
  | .null | .bool _ | .string _ | .array _ | .object _ => isTrue trivial

def NumberReadable : Value → Prop
  | .number number => number.Readable
  | _ => True

instance : DecidablePred NumberReadable
  | .number number => inferInstanceAs (Decidable number.Readable)
  | .null | .bool _ | .string _ | .array _ | .object _ => isTrue trivial

namespace Value

mutual

/-- The document that is read where this one was printed. -/
def reread : Value → Value
  | number held => number held.reread
  | array items => array (rereadItems items)
  | object members => object (rereadMembers [] members)
  | leaf => leaf

def rereadItems : List Value → List Value
  | [] => []
  | item :: rest => reread item :: rereadItems rest

/-- Members are put where their keys belong; of equal keys the last one holds. -/
def rereadMembers (before : List (String × Value)) :
    List (String × Value) → List (String × Value)
  | [] => before
  | (key, value) :: rest => rereadMembers (insertMember key (reread value) before) rest

end

theorem rereadItems_eq (items : List Value) : rereadItems items = items.map reread := by
  induction items with
  | nil => rfl
  | cons item rest ih => rw [rereadItems, ih, List.map_cons]

theorem rereadItems_self {items : List Value} (each : ∀ item ∈ items, item.reread = item) :
    rereadItems items = items := by
  rw [rereadItems_eq, List.map_congr_left each, List.map_id']

theorem rereadMembers_ordered {before members : List (String × Value)}
    (ordered : (before ++ members).Pairwise (·.1 < ·.1)) :
    rereadMembers before members = before ++ members.map fun held => (held.1, held.2.reread) := by
  induction members generalizing before with
  | nil => rw [rereadMembers, List.map_nil, List.append_nil]
  | cons member rest ih =>
      obtain ⟨key, value⟩ := member
      have last : insertMember key value.reread before = before ++ [(key, value.reread)] :=
        insertMember_last fun member held =>
          (List.pairwise_append.mp ordered).2.2 member held (key, value) List.mem_cons_self
      have keys : ((before ++ [(key, value.reread)]) ++ rest).Pairwise (·.1 < ·.1) := by
        rw [← List.pairwise_map (f := Prod.fst) (R := (· < ·))] at ordered ⊢
        simpa using ordered
      rw [rereadMembers, last, ih keys, List.append_assoc]
      rfl

theorem rereadMembers_self {before members : List (String × Value)}
    (each : ∀ member ∈ members, member.2.reread = member.2)
    (ordered : (before ++ members).Pairwise (·.1 < ·.1)) :
    rereadMembers before members = before ++ members := by
  have same : members.map (fun held => (held.1, held.2.reread)) = members.map id :=
    List.map_congr_left fun held member => by rw [each held member]; rfl
  rw [rereadMembers_ordered ordered, same, List.map_id]

theorem reread_self {value : Value} (ordered : value.Ordered)
    (numbers : value.Every NumberReadsBack) : value.reread = value := by
  induction value using Value.byParts with
  | null | bool | string => rfl
  | number number =>
      rw [reread]
      exact congrArg Value.number (Number.ReadsBack.reread_eq numbers.self)
  | array items each =>
      rw [reread, rereadItems_self fun item member => each item member
        ((Value.every_array.mp ordered).2 item member)
        ((Value.every_array.mp numbers).2 item member)]
  | object members each =>
      have parts := Value.every_object.mp ordered
      have same := @rereadMembers_self [] members (fun member held => each member held
        (parts.2 member held) ((Value.every_object.mp numbers).2 member held)) parts.1
      rw [reread, same, List.nil_append]

end Value

section

variable {gap : Nat → List Char} {pause : List Char}

theorem delimited_space {blank : List Char} (all : AllSpace blank) {text : List Char}
    (delimited : Delimited text) : Delimited (blank ++ text) := by
  cases blank with
  | nil => exact delimited
  | cons c blank =>
      apply delimited_cons
      cases numeric : isNumeric c
      · rfl
      · have space := all c List.mem_cons_self
        rw [not_isSpace_of_isNumeric numeric] at space
        cases space

theorem delimited_spreadItems (blank : ∀ level, AllSpace (gap level)) (level : Nat)
    (items : List Value) (rest : List Char) :
    Delimited (spreadItems gap pause level false items ++ rest) := by
  cases items with
  | nil =>
      rw [spreadItems, List.append_assoc]
      exact delimited_space (blank level) (delimited_cons rfl)
  | cons item tail => exact delimited_cons rfl

theorem delimited_spreadMembers (blank : ∀ level, AllSpace (gap level)) (level : Nat)
    (members : List (String × Value)) (rest : List Char) :
    Delimited (spreadMembers gap pause level false members ++ rest) := by
  cases members with
  | nil =>
      rw [spreadMembers, List.append_assoc]
      exact delimited_space (blank level) (delimited_cons rfl)
  | cons member tail => exact delimited_cons rfl

def ReadsAt (gap : Nat → List Char) (pause : List Char) (value : Value) : Prop :=
  ∀ fuel depth level rest, (spread gap pause level value).length ≤ fuel → value.nesting < depth →
    Delimited rest →
      readValue fuel depth (spread gap pause level value ++ rest) = .ok (value.reread, rest)

theorem readItems_spread (blank : ∀ level, AllSpace (gap level)) {items : List Value}
    (each : ∀ item ∈ items, ReadsAt gap pause item) (fuel depth level : Nat) (first : Bool)
    (rest : List Char) (enough : (spreadItems gap pause level first items).length ≤ fuel)
    (shallow : Value.nestingOfItems items < depth) :
    readItems fuel depth first (spreadItems gap pause level first items ++ rest) =
      .ok (Value.rereadItems items, rest) := by
  induction items generalizing fuel first with
  | nil =>
      obtain ⟨fuel, rfl⟩ : ∃ steps, fuel = steps + 1 :=
        ⟨fuel - 1, by simp [spreadItems] at enough; omega⟩
      rw [spreadItems, List.append_assoc]
      exact readItems_close (allSpace_lead (blank level) first) fuel depth first rest
  | cons item tail ih =>
      obtain ⟨c, text, start, opens⟩ := spread_opens gap pause (level + 1) item
      have steps := enough
      simp only [spreadItems, List.length_append, start, List.length_cons] at steps
      obtain ⟨fuel, rfl⟩ : ∃ steps, fuel = steps + 1 := ⟨fuel - 1, by omega⟩
      have head : readValue fuel depth
          (spread gap pause (level + 1) item ++ (spreadItems gap pause level false tail ++ rest)) =
            .ok (item.reread, spreadItems gap pause level false tail ++ rest) := by
        apply each item List.mem_cons_self
        · have some : 0 < (spreadItems gap pause level false tail).length := by
            cases tail <;> simp [spreadItems]
          rw [start, List.length_cons]
          omega
        · exact Nat.lt_of_le_of_lt (Nat.le_max_left _ _) shallow
        · exact delimited_spreadItems blank level tail rest
      have later := ih (fun other member => each other (List.mem_cons_of_mem item member)) fuel
        false (by omega) (Nat.lt_of_le_of_lt (Nat.le_max_right _ _) shallow)
      have step := readItems_item (blank (level + 1)) opens fuel depth first
        (text ++ (spreadItems gap pause level false tail ++ rest))
      rw [← List.cons_append, ← start, head] at step
      simp only [spreadItems, List.append_assoc]
      rw [step]
      simp [bind, Except.bind, later]
      rfl

theorem readMembers_spread (blank : ∀ level, AllSpace (gap level)) (space : AllSpace pause)
    {members : List (String × Value)} (each : ∀ member ∈ members, ReadsAt gap pause member.2)
    (fuel depth level : Nat) (first : Bool) (before : List (String × Value)) (rest : List Char)
    (enough : (spreadMembers gap pause level first members).length ≤ fuel)
    (shallow : Value.nestingOfMembers members < depth) :
    readMembers fuel depth first before (spreadMembers gap pause level first members ++ rest) =
      .ok (Value.rereadMembers before members, rest) := by
  induction members generalizing fuel first before with
  | nil =>
      obtain ⟨fuel, rfl⟩ : ∃ steps, fuel = steps + 1 :=
        ⟨fuel - 1, by simp [spreadMembers] at enough; omega⟩
      rw [spreadMembers, List.append_assoc]
      exact readMembers_close (allSpace_lead (blank level) first) fuel depth first before rest
  | cons member tail ih =>
      obtain ⟨key, value⟩ := member
      have steps := enough
      simp only [spreadMembers, List.length_append, List.length_cons] at steps
      obtain ⟨fuel, rfl⟩ : ∃ steps, fuel = steps + 1 := ⟨fuel - 1, by omega⟩
      have head : readValue fuel depth (pause ++ (spread gap pause (level + 1) value ++
          (spreadMembers gap pause level false tail ++ rest))) =
            .ok (value.reread, spreadMembers gap pause level false tail ++ rest) := by
        rw [readValue_blank space]
        apply each (key, value) List.mem_cons_self
        · change (spread gap pause (level + 1) value).length ≤ fuel
          omega
        · exact Nat.lt_of_le_of_lt (Nat.le_max_left _ _) shallow
        · exact delimited_spreadMembers blank level tail rest
      have later := ih (fun other held => each other (List.mem_cons_of_mem _ held)) fuel false
        (insertMember key value.reread before) (by omega)
        (Nat.lt_of_le_of_lt (Nat.le_max_right _ _) shallow)
      have step := readMembers_member (blank (level + 1)) fuel depth first before key
        (pause ++ (spread gap pause (level + 1) value ++
          (spreadMembers gap pause level false tail ++ rest)))
      simp only [head, bind, Except.bind] at step
      simp only [spreadMembers, List.append_assoc, List.cons_append]
      rw [step, later]
      rfl

theorem readLiteral_self {α : Type} (value : α) (letters rest : List Char) :
    readLiteral value letters (letters ++ rest) = .ok (value, rest) := by
  induction letters with
  | nil => rfl
  | cons letter letters ih => simp [readLiteral, ih]

theorem readValue_literal (fuel depth : Nat) (rest : List Char) :
    readValue (fuel + 1) depth ("null".toList ++ rest) = .ok (.null, rest) ∧
      readValue (fuel + 1) depth ("true".toList ++ rest) = .ok (.bool true, rest) ∧
      readValue (fuel + 1) depth ("false".toList ++ rest) = .ok (.bool false, rest) := by
  refine ⟨?_, ?_, ?_⟩
  · change readValue (fuel + 1) depth ('n' :: (['u', 'l', 'l'] ++ rest)) = _
    rw [readValue, skipSpaces_cons (by decide)]
    exact readLiteral_self Value.null ['u', 'l', 'l'] rest
  · change readValue (fuel + 1) depth ('t' :: (['r', 'u', 'e'] ++ rest)) = _
    rw [readValue, skipSpaces_cons (by decide)]
    exact readLiteral_self (Value.bool true) ['r', 'u', 'e'] rest
  · change readValue (fuel + 1) depth ('f' :: (['a', 'l', 's', 'e'] ++ rest)) = _
    rw [readValue, skipSpaces_cons (by decide)]
    exact readLiteral_self (Value.bool false) ['a', 'l', 's', 'e'] rest

theorem readsAt_number {number : Number} (readable : number.Readable) :
    ReadsAt gap pause (.number number) := by
  intro fuel depth level rest enough shallow delimited
  have whole := readable.before delimited
  simp only [spread, compact] at enough ⊢
  obtain ⟨c, tail, text, numeric⟩ := number.render_start
  rw [text] at enough whole ⊢
  obtain ⟨fuel, rfl⟩ : ∃ steps, fuel = steps + 1 := ⟨fuel - 1, by simp at enough; omega⟩
  have start := readNumber_head whole
  rw [List.cons_append] at whole ⊢
  rw [readValue_number numeric, if_pos start, whole]
  rfl

theorem readValue_spread (blank : ∀ level, AllSpace (gap level)) (space : AllSpace pause)
    (value : Value) (numbers : value.Every NumberReadable) : ReadsAt gap pause value := by
  induction value using Value.byParts with
  | null =>
      intro fuel depth level rest enough shallow delimited
      obtain ⟨fuel, rfl⟩ : ∃ steps, fuel = steps + 1 :=
        ⟨fuel - 1, by simp [spread, compact] at enough; omega⟩
      exact (readValue_literal fuel depth rest).1
  | bool flag =>
      intro fuel depth level rest enough shallow delimited
      obtain ⟨fuel, rfl⟩ : ∃ steps, fuel = steps + 1 :=
        ⟨fuel - 1, by cases flag <;> simp [spread, compact] at enough <;> omega⟩
      cases flag
      · exact (readValue_literal fuel depth rest).2.2
      · exact (readValue_literal fuel depth rest).2.1
  | number number => exact readsAt_number numbers.self
  | string text =>
      intro fuel depth level rest enough shallow delimited
      obtain ⟨fuel, rfl⟩ : ∃ steps, fuel = steps + 1 :=
        ⟨fuel - 1, by simp [spread, compact, printString] at enough; omega⟩
      exact readValue_string fuel depth text rest
  | array items each =>
      intro fuel depth level rest enough shallow delimited
      simp only [spread, List.length_cons, Value.nesting] at enough shallow
      obtain ⟨fuel, rfl⟩ : ∃ steps, fuel = steps + 1 := ⟨fuel - 1, by omega⟩
      have inner := readItems_spread blank (fun item member => each item member
        ((Value.every_array.mp numbers).2 item member)) fuel (depth - 1) level true rest
        (by omega) (by omega)
      rw [spread, List.cons_append, readValue_array (by omega), inner]
      rfl
  | object members each =>
      intro fuel depth level rest enough shallow delimited
      simp only [spread, List.length_cons, Value.nesting] at enough shallow
      obtain ⟨fuel, rfl⟩ : ∃ steps, fuel = steps + 1 := ⟨fuel - 1, by omega⟩
      have inner := readMembers_spread blank space (fun member held => each member held
        ((Value.every_object.mp numbers).2 member held)) fuel (depth - 1) level true [] rest
        (by omega) (by omega)
      rw [spread, List.cons_append, readValue_object (by omega), inner]
      rfl

theorem readText_spread (blank : ∀ level, AllSpace (gap level)) (space : AllSpace pause)
    (level : Nat) {value : Value} (numbers : value.Every NumberReadable)
    (shallow : value.nesting < depthLimit) {rest : List Char} (trailing : AllSpace rest) :
    readText (spread gap pause level value ++ rest) = .ok value.reread := by
  have delimited : Delimited rest := by
    have behind := delimited_space trailing delimited_nil
    rwa [List.append_nil] at behind
  have whole := readValue_spread blank space value numbers
    ((spread gap pause level value ++ rest).length + 1) depthLimit level rest
    (by rw [List.length_append]; omega) shallow delimited
  have left : skipSpaces rest = [] := by
    have skipped := skipSpaces_append trailing []
    rwa [List.append_nil] at skipped
  rw [readText, whole, atEnd, left]
  rfl

end

theorem readable_of_readsBack {value : Value} (numbers : value.Every NumberReadsBack) :
    value.Every NumberReadable := by
  intro part member
  have back := numbers part member
  cases part with
  | number number => exact Number.ReadsBack.readable back
  | null | bool | string | array | object => trivial

theorem readText_printed {value : Value} (numbers : value.Every NumberReadable)
    (shallow : value.nesting < depthLimit) : readText (compact value) = .ok value.reread := by
  rw [compact_eq_spread value 0, ← List.append_nil (spread _ _ _ _)]
  exact readText_spread (fun _ => allSpace_nil) allSpace_nil 0 numbers shallow allSpace_nil

theorem readText_compact {value : Value} (ordered : value.Ordered)
    (numbers : value.Every NumberReadsBack) (shallow : value.nesting < depthLimit) :
    readText (compact value) = .ok value := by
  rw [readText_printed (readable_of_readsBack numbers) shallow, Value.reread_self ordered numbers]

theorem allSpace_newline (level : Nat) : AllSpace (newline level) := by
  intro c member
  rcases List.mem_cons.mp member with rfl | member
  · rfl
  · rw [List.eq_of_mem_replicate member]
    rfl

theorem readText_pretty_blank {value : Value} (numbers : value.Every NumberReadable)
    (shallow : value.nesting < depthLimit) {rest : List Char} (trailing : AllSpace rest) :
    readText (prettyAt 0 value ++ rest) = .ok value.reread := by
  rw [prettyAt_eq_spread value 0]
  exact readText_spread allSpace_newline (by simp [AllSpace, isSpace]) 0 numbers shallow trailing

end Enforcement.Json
