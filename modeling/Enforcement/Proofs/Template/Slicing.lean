import Enforcement.Proofs.Json.Side
import Enforcement.Proofs.Template.Substitution
import Enforcement.Template.Evaluation

/-!
Substitution goes through the text in one direction. What it keeps are slices of the text, each of
them behind the one before it, because a reference stands inside a string: behind a string that gave
way with its quotes the next reference is at least one quote away. For this the text need be no
document; its quotes have to be balanced, and a pass leaves them so.
-/

namespace Enforcement.Template

open Enforcement.Json Enforcement.Text

/-! The references of a text, in their order. -/

namespace Occurrence

/-- The reference is spelled in the text where it is said to stand. -/
structure Spelled (occurrence : Occurrence) (text : List Char) (spelling : Spelling) : Prop where
  valid : spelling.Valid
  split : text = occurrence.before.reverse ++ (spelling.text ++ occurrence.after)
  start : occurrence.start = occurrence.before.length
  stop : occurrence.stop = occurrence.start + spelling.text.length

def first (occurrence : Occurrence) : Nat :=
  if occurrence.isWholeString then occurrence.start - 1 else occurrence.start

def past (occurrence : Occurrence) : Nat :=
  if occurrence.isWholeString then occurrence.stop + 1 else occurrence.stop

def side (occurrence : Occurrence) : Side :=
  if occurrence.isWholeString then .outside else .inside

theorem splice_start (occurrence : Occurrence) (value : Value) :
    (occurrence.splice value).start = occurrence.first := by
  unfold splice first
  split <;> rfl

theorem splice_stop (occurrence : Occurrence) (value : Value) :
    (occurrence.splice value).stop = occurrence.past := by
  unfold splice past
  split <;> rfl

end Occurrence

theorem spelled_occurrencesFrom (text before : List Char) (covered : Nat) :
    ∀ occurrence ∈ occurrencesFrom before.length covered before text,
      ∃ spelling, occurrence.Spelled (before.reverse ++ text) spelling := by
  induction text generalizing before covered with
  | nil => cases covered <;> exact nofun
  | cons c text ih =>
      have behind (covered : Nat) := ih (c :: before) covered
      simp only [List.reverse_cons, List.append_assoc, List.singleton_append,
        List.length_cons] at behind
      cases covered with
      | succ covered => exact behind covered
      | zero =>
          rw [occurrencesFrom]
          cases read : reference? (c :: text) with
          | none => exact behind 0
          | some pair =>
              obtain ⟨reference, after⟩ := pair
              obtain ⟨spelling, valid, -, same⟩ := reference?_iff.mp read
              refine List.forall_mem_cons.mpr
                ⟨⟨spelling, valid, congrArg _ same, rfl, ?_⟩, behind _⟩
              rw [same, List.length_append, Nat.add_sub_cancel]

theorem spelled_of_mem {text : List Char} {occurrence : Occurrence}
    (member : occurrence ∈ occurrences text) : ∃ spelling, occurrence.Spelled text spelling :=
  spelled_occurrencesFrom text [] 0 occurrence member

theorem start_of_mem {text before : List Char} {position covered : Nat} {occurrence : Occurrence}
    (member : occurrence ∈ occurrencesFrom position covered before text) :
    position + covered ≤ occurrence.start := by
  induction text generalizing position covered before with
  | nil => cases covered <;> cases member
  | cons c text ih =>
      cases covered with
      | succ covered =>
          have later := ih member
          omega
      | zero =>
          rw [occurrencesFrom] at member
          cases read : reference? (c :: text) with
          | none =>
              rw [read] at member
              have later := ih member
              omega
          | some pair =>
              rw [read] at member
              rcases List.mem_cons.mp member with rfl | member
              · exact Nat.le_refl _
              · have later := ih member
                omega

theorem apart_occurrencesFrom (text before : List Char) (position covered : Nat) :
    (occurrencesFrom position covered before text).Pairwise
      fun former later => former.stop ≤ later.start := by
  induction text generalizing position covered before with
  | nil => cases covered <;> exact .nil
  | cons c text ih =>
      cases covered with
      | succ covered => exact ih _ _ _
      | zero =>
          rw [occurrencesFrom]
          cases read : reference? (c :: text) with
          | none => exact ih _ _ _
          | some pair =>
              refine List.pairwise_cons.mpr ⟨fun later member => ?_, ih _ _ _⟩
              have behind := start_of_mem member
              dsimp only
              omega

/-! Where a reference stands in a text with balanced quotes. -/

theorem Spelling.inside {spelling : Spelling} (valid : spelling.Valid) {side side' : Side}
    (leads : side.after spelling.text = some side') : side = .inside ∧ side' = .inside := by
  constructor
  · cases side with
    | inside => rfl
    | escaped => cases leads
    | outside =>
        rw [Spelling.text, Side.after_append] at leads
        obtain ⟨middle, lead, -⟩ := Option.bind_eq_some_iff.mp leads
        have plain := (Side.outside_of_quoteless (foreign_quote.notMem_lead valid) lead).2
        exact absurd rfl (plain '(' (by simp [Spelling.lead])).2.2.1
  · obtain ⟨front, ends⟩ := spelling.closes
    rw [ends, List.append_assoc, Side.after_append] at leads
    obtain ⟨middle, -, close⟩ := Option.bind_eq_some_iff.mp leads
    cases middle with
    | inside => exact (Option.some.inj close).symm
    | outside => cases close
    | escaped => cases close

namespace Occurrence

variable {occurrence : Occurrence} {text : List Char} {spelling : Spelling}

theorem Spelled.within (spelled : occurrence.Spelled text spelling) :
    occurrence.start < occurrence.stop ∧
      occurrence.stop + occurrence.after.length = text.length := by
  have some : 0 < spelling.text.length := by simp [Spelling.text, Spelling.lead]
  have length := congrArg List.length spelled.split
  rw [List.length_append, List.length_append, List.length_reverse, ← spelled.start] at length
  have stop := spelled.stop
  omega

theorem Spelled.take_start (spelled : occurrence.Spelled text spelling) :
    text.take occurrence.start = occurrence.before.reverse := by
  rw [spelled.split, List.take_left' (by rw [spelled.start, List.length_reverse])]

theorem Spelled.drop_start (spelled : occurrence.Spelled text spelling) :
    text.drop occurrence.start = spelling.text ++ occurrence.after := by
  rw [spelled.split, List.drop_left' (by rw [spelled.start, List.length_reverse])]

theorem Spelled.take_stop (spelled : occurrence.Spelled text spelling) :
    text.take occurrence.stop = occurrence.before.reverse ++ spelling.text := by
  rw [spelled.stop, List.take_add, spelled.take_start, spelled.drop_start, List.take_left]

theorem Spelled.drop_stop (spelled : occurrence.Spelled text spelling) :
    text.drop occurrence.stop = occurrence.after := by
  rw [spelled.stop, ← List.drop_drop, spelled.drop_start, List.drop_left]

/-- In a text with balanced quotes every reference stands inside a string. -/
theorem Spelled.sides (spelled : occurrence.Spelled text spelling) (balanced : Side.Balanced text) :
    Side.at? text occurrence.start = some .inside ∧
      Side.at? text occurrence.stop = some .inside := by
  rw [Side.Balanced, spelled.split, Side.after_append] at balanced
  obtain ⟨side, before, balanced⟩ := Option.bind_eq_some_iff.mp balanced
  rw [Side.after_append] at balanced
  obtain ⟨side', word, -⟩ := Option.bind_eq_some_iff.mp balanced
  obtain ⟨rfl, rfl⟩ := Spelling.inside spelled.valid word
  rw [Side.at?, Side.at?, spelled.take_start, spelled.take_stop, Side.after_append_of before]
  exact ⟨before, word⟩

theorem whole_iff : occurrence.isWholeString = true ↔
    (∃ before, occurrence.before = '"' :: before ∧
      (before.takeWhile (· == '\\')).length % 2 = 0) ∧
    ∃ after, occurrence.after = '"' :: after :=
  @isWholeString_iff ⟨occurrence.start, occurrence.before⟩ [] occurrence.after occurrence.reference

theorem Spelled.quotes (spelled : occurrence.Spelled text spelling) (balanced : Side.Balanced text)
    (whole : occurrence.isWholeString = true) :
    1 ≤ occurrence.start ∧ occurrence.stop + 1 ≤ text.length ∧
      Side.at? text (occurrence.start - 1) = some .outside ∧
      Side.at? text (occurrence.stop + 1) = some .outside := by
  obtain ⟨⟨before, opens, even⟩, after, closes⟩ := whole_iff.mp whole
  obtain ⟨start, stop⟩ := spelled.sides balanced
  obtain ⟨-, length⟩ := spelled.within
  have opening : occurrence.start = before.length + 1 := by
    rw [spelled.start, opens, List.length_cons]
  rw [closes, List.length_cons] at length
  refine ⟨by omega, by omega, ?_, ?_⟩
  · rw [Side.at?, spelled.take_start, opens] at start
    have split := spelled.split
    rw [opens, List.reverse_cons, List.append_assoc] at split
    rw [Side.at?_split split (by rw [opening, List.length_reverse, Nat.add_sub_cancel])]
    exact Side.outside_of_quote start even
  · rw [Side.at?_later stop (Nat.le_add_right _ 1), Nat.add_sub_cancel_left, spelled.drop_stop,
      closes]
    rfl

theorem Spelled.extent (spelled : occurrence.Spelled text spelling)
    (balanced : Side.Balanced text) :
    occurrence.first ≤ occurrence.past ∧ occurrence.past ≤ text.length ∧
      Side.at? text occurrence.first = some occurrence.side ∧
      Side.at? text occurrence.past = some occurrence.side := by
  obtain ⟨nonempty, length⟩ := spelled.within
  unfold first past side
  cases whole : occurrence.isWholeString with
  | true =>
      obtain ⟨-, within, opening, closing⟩ := spelled.quotes balanced whole
      simp only [if_true]
      exact ⟨by omega, within, opening, closing⟩
  | false =>
      obtain ⟨start, stop⟩ := spelled.sides balanced
      simp only [Bool.false_eq_true, if_false]
      exact ⟨by omega, by omega, start, stop⟩

/--
Of two references the later one gives way only behind what the former one gave way with. Behind the
closing quote of a string no reference begins, for there it is outside of all strings.
-/
theorem Spelled.past_le_first {later : Occurrence} {spelling' : Spelling}
    (spelled : occurrence.Spelled text spelling) (spelled' : later.Spelled text spelling')
    (balanced : Side.Balanced text) (apart : occurrence.stop ≤ later.start) :
    occurrence.past ≤ later.first := by
  obtain ⟨inside, -⟩ := spelled'.sides balanced
  have opens : (text.drop later.start).head? = some '[' := by
    rw [spelled'.drop_start]
    rfl
  have closes : (text.take occurrence.stop).getLast? = some ']' := by
    obtain ⟨front, ends⟩ := spelling.closes
    rw [spelled.take_stop, ends]
    simp
  unfold past first
  cases whole : occurrence.isWholeString with
  | true =>
      obtain ⟨-, -, -, outside⟩ := spelled.quotes balanced whole
      obtain ⟨-, after, quote⟩ := whole_iff.mp whole
      have notQuote : later.start ≠ occurrence.stop := by
        intro same
        rw [same, spelled.drop_stop, quote] at opens
        cases opens
      have notBehind : later.start ≠ occurrence.stop + 1 := by
        intro same
        rw [same, outside] at inside
        cases inside
      simp only [if_true]
      split <;> omega
  | false =>
      simp only [Bool.false_eq_true, if_false]
      cases whole' : later.isWholeString with
      | false => exact apart
      | true =>
          obtain ⟨⟨before, quote, -⟩, -⟩ := whole_iff.mp whole'
          have notBracket : occurrence.stop ≠ later.start := by
            intro same
            rw [same, spelled'.take_start, quote] at closes
            simp at closes
          simp only [if_true]
          omega

end Occurrence

/-! Slices of a text, and splices between them. -/

/-- The characters from `start` up to `stop`, if both lie in the text and in this order. -/
def slice? (text : List Char) (start stop : Nat) : Option (List Char) :=
  if start ≤ stop ∧ stop ≤ text.length then some ((text.drop start).take (stop - start)) else none

/-- Applies splices from `cursor` on, and fails where a slice is out of order or past the text. -/
def sliced? (text : List Char) : Nat → List Splice → Option (List Char)
  | cursor, [] => slice? text cursor text.length
  | cursor, splice :: rest => do
      let kept ← slice? text cursor splice.start
      let behind ← sliced? text splice.stop rest
      return kept ++ splice.insert ++ behind

def substitute? (kind : ReferenceKind) (resolve : String → Option Value) (text : List Char) :
    Option (List Char) :=
  sliced? text 0 (splices kind resolve text)

/-- The splice lies between two places of one side, and what it puts in keeps to this side. -/
structure Splice.Fits (splice : Splice) (text : List Char) : Prop where
  ordered : splice.start ≤ splice.stop
  within : splice.stop ≤ text.length
  sides : ∃ side, Side.at? text splice.start = some side ∧ Side.at? text splice.stop = some side ∧
    side.after splice.insert = some side

theorem Occurrence.Spelled.fits {occurrence : Occurrence} {text : List Char} {spelling : Spelling}
    (spelled : occurrence.Spelled text spelling) (balanced : Side.Balanced text) (value : Value) :
    (occurrence.splice value).Fits text := by
  obtain ⟨ordered, within, first, past⟩ := spelled.extent balanced
  rw [← occurrence.splice_start value] at ordered first
  rw [← occurrence.splice_stop value] at ordered within past
  refine ⟨ordered, within, occurrence.side, first, past, ?_⟩
  unfold Occurrence.splice Occurrence.side
  split
  · exact Side.balanced_compact value
  · exact Side.inside_escape (plainText value)

/-- Splices that fit, each of them behind the one before it. -/
structure Fitting (text : List Char) (splices : List Splice) : Prop where
  each : ∀ splice ∈ splices, splice.Fits text
  apart : splices.Pairwise fun former later => former.stop ≤ later.start

theorem Fitting.tail {text : List Char} {splice : Splice} {rest : List Splice}
    (fitting : Fitting text (splice :: rest)) : Fitting text rest :=
  ⟨(List.forall_mem_cons.mp fitting.each).2, (List.pairwise_cons.mp fitting.apart).2⟩

theorem pairwise_occurrences {text : List Char} (balanced : Side.Balanced text) :
    (occurrences text).Pairwise fun former later => former.past ≤ later.first := by
  refine (apart_occurrencesFrom text [] 0 0).imp_of_mem ?_
  intro former later member member' apart
  obtain ⟨spelling, spelled⟩ := spelled_of_mem member
  obtain ⟨spelling', spelled'⟩ := spelled_of_mem member'
  exact spelled.past_le_first spelled' balanced apart

theorem fitting_splices {text : List Char} (balanced : Side.Balanced text) (pass : Pass) :
    Fitting text (splices pass.kind pass.resolve text) := by
  rw [pass.splices_eq_chosen, Pass.chosen]
  constructor
  · intro splice member
    obtain ⟨occurrence, found, given⟩ := List.mem_filterMap.mp member
    obtain ⟨value, -, rfl⟩ := Option.map_eq_some_iff.mp given
    obtain ⟨spelling, spelled⟩ := spelled_of_mem found
    exact spelled.fits balanced value
  · refine (pairwise_occurrences balanced).filterMap _ fun former later apart splice given splice'
      given' => ?_
    obtain ⟨value, -, rfl⟩ := Option.map_eq_some_iff.mp given
    obtain ⟨value', -, rfl⟩ := Option.map_eq_some_iff.mp given'
    rwa [former.splice_stop, later.splice_start]

theorem sliced?_eq {text : List Char} {splices : List Splice} (fitting : Fitting text splices)
    {cursor : Nat} (within : cursor ≤ text.length)
    (behind : ∀ splice ∈ splices, cursor ≤ splice.start) :
    sliced? text cursor splices = some (applySplices cursor (text.drop cursor) splices) := by
  induction splices generalizing cursor with
  | nil =>
      rw [sliced?, slice?, if_pos ⟨within, Nat.le_refl _⟩, applySplices,
        List.take_of_length_le (Nat.le_of_eq List.length_drop)]
  | cons splice rest ih =>
      have fits := fitting.each splice List.mem_cons_self
      have start := behind splice List.mem_cons_self
      have ordered := fits.ordered
      have stop := fits.within
      have later := ih fitting.tail stop (List.pairwise_cons.mp fitting.apart).1
      rw [sliced?, slice?, if_pos ⟨start, by omega⟩, later, applySplices, List.drop_drop,
        show cursor + (splice.stop - cursor) = splice.stop by omega]
      rfl

theorem after_applySplices {text : List Char} (balanced : Side.Balanced text)
    {splices : List Splice} (fitting : Fitting text splices) {cursor : Nat} {side : Side}
    (here : Side.at? text cursor = some side) (behind : ∀ splice ∈ splices, cursor ≤ splice.start) :
    side.after (applySplices cursor (text.drop cursor) splices) = some .outside := by
  induction splices generalizing cursor side with
  | nil =>
      rw [Side.Balanced, ← List.take_append_drop cursor text, Side.after_append_of here] at balanced
      exact balanced
  | cons splice rest ih =>
      have fits := fitting.each splice List.mem_cons_self
      have start := behind splice List.mem_cons_self
      have ordered := fits.ordered
      obtain ⟨middle, before, past, insert⟩ := fits.sides
      have later := ih fitting.tail past (List.pairwise_cons.mp fitting.apart).1
      rw [Side.at?_later here start] at before
      rw [applySplices, List.drop_drop, show cursor + (splice.stop - cursor) = splice.stop by omega,
        List.append_assoc, Side.after_append_of before, Side.after_append_of insert, later]

theorem balanced_substitute {text : List Char} (balanced : Side.Balanced text)
    (kind : ReferenceKind) (resolve : String → Option Value) :
    Side.Balanced (substitute kind resolve text) :=
  @after_applySplices text balanced _ (fitting_splices balanced ⟨kind, resolve⟩) 0 .outside rfl
    fun _ _ => Nat.zero_le _

/-- A pass over the text goes forward, whichever of its references have values. -/
structure Forward (kind : ReferenceKind) (resolve : String → Option Value) (text : List Char) :
    Prop where
  /-- A reference, and the quotes that give way with it, lie in the text. -/
  within : ∀ occurrence ∈ occurrences text,
    occurrence.first ≤ occurrence.start ∧ occurrence.start < occurrence.stop ∧
      occurrence.stop ≤ occurrence.past ∧ occurrence.past ≤ text.length
  /-- The quotes around a whole string are the one that opens it and the one that closes it. -/
  quotes : ∀ occurrence ∈ occurrences text, occurrence.isWholeString = true →
    Side.at? text occurrence.first = some .outside ∧ Side.at? text occurrence.past = some .outside
  /-- Where something gave way, what gives way next begins there or later. -/
  apart : (occurrences text).Pairwise fun former later => former.past ≤ later.first
  checked : substitute? kind resolve text = some (substitute kind resolve text)

theorem forward_of_balanced {text : List Char} (balanced : Side.Balanced text)
    (kind : ReferenceKind) (resolve : String → Option Value) : Forward kind resolve text where
  within occurrence member := by
    obtain ⟨spelling, spelled⟩ := spelled_of_mem member
    obtain ⟨nonempty, -⟩ := spelled.within
    obtain ⟨-, past, -⟩ := spelled.extent balanced
    refine ⟨?_, nonempty, ?_, past⟩
    · unfold Occurrence.first
      split <;> omega
    · unfold Occurrence.past
      split <;> omega
  quotes occurrence member whole := by
    obtain ⟨spelling, spelled⟩ := spelled_of_mem member
    obtain ⟨-, -, first, past⟩ := spelled.extent balanced
    rw [Occurrence.side, if_pos whole] at first past
    exact ⟨first, past⟩
  apart := pairwise_occurrences balanced
  checked := sliced?_eq (fitting_splices balanced ⟨kind, resolve⟩) (Nat.zero_le _)
    fun _ _ => Nat.zero_le _

/-- Both passes of an evaluation go forward, the second also where the first left no document. -/
theorem evaluation_forward (template : Template) (supplied : Supplied) :
    let printed := compact template.document
    let given := template.parameterValue? supplied
    let declared := template.variableValue?
    Forward .parameters given printed ∧
      Forward .variables declared (substitute .parameters given printed) ∧
      (substitute? .parameters given printed).bind (substitute? .variables declared) =
        some (template.substitutedText supplied) := by
  intro printed given declared
  have balanced : Side.Balanced printed := Side.balanced_compact _
  have first := forward_of_balanced balanced .parameters given
  have second := forward_of_balanced (balanced_substitute balanced .parameters given)
    .variables declared
  refine ⟨first, second, ?_⟩
  rw [first.checked, Option.bind_some, second.checked]
  rfl

/-- A name that spans two strings leaves no document; the second pass goes on in what is left. -/
example :
    Template.substitutedText
      ⟨[("variables", .object [("v", .bool false)]), ("[parameters('k", .string "')]"),
        ("a", .string "[variables('v')]")]⟩ [("k\":\"", .bool true)] =
      "\x7b\"variables\":\x7b\"v\":false\x7d,true,\"a\":false\x7d".toList := by
  decide +kernel

end Enforcement.Template
