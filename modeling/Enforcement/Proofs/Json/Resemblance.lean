import Enforcement.Proofs.Json.Reading

/-!
Documents that may hold numbers which do not read back. Such a document is refused, or it is read
with other numbers in the places of its own.
-/

namespace Enforcement.Json

/-- A document with each of its numbers replaced by zero: what is left of it without them. -/
def Value.unnumbered : Value → Value :=
  Value.mapLeaves fun leaf =>
    match leaf with
    | .number _ => .number (.whole 0)
    | other => other

theorem Value.unnumbered_array (items : List Value) :
    (Value.array items).unnumbered = .array (items.map unnumbered) := by
  rw [unnumbered, mapLeaves, mapItems_eq]

def unnumberedMember (member : String × Value) : String × Value :=
  (member.1, member.2.unnumbered)

theorem Value.unnumbered_object (members : List (String × Value)) :
    (Value.object members).unnumbered = .object (members.map unnumberedMember) := by
  rw [unnumbered, mapLeaves, mapMembers_eq]
  rfl

theorem readItems_delimited {fuel depth : Nat} {text left : List Char} {items : List Value}
    (read : readItems fuel depth false text = .ok (items, left)) : Delimited text := by
  intro c head
  cases text with
  | nil => cases head
  | cons d text =>
      cases head
      cases numeric : isNumeric c with
      | false => rfl
      | true =>
          cases fuel with
          | zero => cases read
          | succ fuel =>
              rw [readItems, skipSpaces_cons (not_isSpace_of_isNumeric numeric)] at read
              simp [ne_of_isNumeric numeric ']' rfl, ne_of_isNumeric numeric ',' rfl] at read

theorem readMembers_delimited {fuel depth : Nat} {text left : List Char}
    {before members : List (String × Value)}
    (read : readMembers fuel depth false before text = .ok (members, left)) :
    Delimited text := by
  intro c head
  cases text with
  | nil => cases head
  | cons d text =>
      cases head
      cases numeric : isNumeric c with
      | false => rfl
      | true =>
          cases fuel with
          | zero => cases read
          | succ fuel =>
              rw [readMembers, skipSpaces_cons (not_isSpace_of_isNumeric numeric)] at read
              simp [ne_of_isNumeric numeric '\x7d' rfl, ne_of_isNumeric numeric ',' rfl] at read

theorem delimited_of_skipSpaces {text : List Char} (ended : (skipSpaces text).isEmpty = true) :
    Delimited text := by
  intro c head
  cases text with
  | nil => cases head
  | cons d text =>
      cases head
      cases numeric : isNumeric c with
      | false => rfl
      | true => simp [skipSpaces_cons (not_isSpace_of_isNumeric numeric)] at ended

section

variable {gap : Nat → List Char} {pause : List Char}

/-- What is read in the place where the document was printed differs at most in its numbers. -/
def ResemblesAt (gap : Nat → List Char) (pause : List Char) (value : Value) : Prop :=
  ∀ fuel depth level rest found left,
    readValue fuel depth (spread gap pause level value ++ rest) = .ok (found, left) →
      Delimited rest → Delimited left → left = rest ∧ found.unnumbered = value.unnumbered

theorem readItems_resembles (blank : ∀ level, AllSpace (gap level)) {items : List Value}
    (each : ∀ item ∈ items, ResemblesAt gap pause item) (fuel depth level : Nat) (first : Bool)
    (rest : List Char) {found : List Value} {left : List Char}
    (read : readItems fuel depth first (spreadItems gap pause level first items ++ rest) =
      .ok (found, left)) :
    left = rest ∧ found.map Value.unnumbered = items.map Value.unnumbered := by
  induction items generalizing fuel first found with
  | nil =>
      rw [spreadItems, List.append_assoc] at read
      obtain ⟨rfl, rfl⟩ := readItems_close_ok (allSpace_lead (blank level) first) read
      exact ⟨rfl, rfl⟩
  | cons item tail ih =>
      simp only [spreadItems, List.append_assoc] at read
      obtain ⟨less, head, middle, others, headRead, tailRead, rfl⟩ :=
        readItems_item_ok (blank (level + 1)) (spread_opens gap pause (level + 1) item) read
      obtain ⟨rfl, alike⟩ := each item List.mem_cons_self _ _ _ _ _ _ headRead
        (delimited_spreadItems blank level tail rest) (readItems_delimited tailRead)
      obtain ⟨same, others⟩ := ih (fun other member =>
        each other (List.mem_cons_of_mem item member)) less false tailRead
      exact ⟨same, by rw [List.map_cons, List.map_cons, alike, others]⟩

theorem ordered_replaced {before tail : List (String × Value)} {key : String}
    {value other : Value} (ordered : (before ++ (key, value) :: tail).Pairwise (·.1 < ·.1)) :
    ((before ++ [(key, other)]) ++ tail).Pairwise (·.1 < ·.1) := by
  have keys := (List.pairwise_map (f := Prod.fst) (R := (· < ·))).mpr ordered
  apply (List.pairwise_map (f := Prod.fst) (R := (· < ·))).mp
  simpa using keys

theorem readMembers_resembles (blank : ∀ level, AllSpace (gap level)) (space : AllSpace pause)
    {members : List (String × Value)} (each : ∀ member ∈ members, ResemblesAt gap pause member.2)
    (fuel depth level : Nat) (first : Bool) (before : List (String × Value)) (rest : List Char)
    (ordered : (before ++ members).Pairwise (·.1 < ·.1))
    {found : List (String × Value)} {left : List Char}
    (read : readMembers fuel depth first before
      (spreadMembers gap pause level first members ++ rest) = .ok (found, left)) :
    left = rest ∧ found.map unnumberedMember = (before ++ members).map unnumberedMember := by
  induction members generalizing fuel first before found with
  | nil =>
      rw [spreadMembers, List.append_assoc] at read
      obtain ⟨rfl, rfl⟩ := readMembers_close_ok (allSpace_lead (blank level) first) read
      exact ⟨rfl, by rw [List.append_nil]⟩
  | cons member tail ih =>
      obtain ⟨key, value⟩ := member
      simp only [spreadMembers, List.append_assoc, List.cons_append] at read
      obtain ⟨less, head, middle, headRead, later⟩ :=
        readMembers_member_ok (blank (level + 1)) read
      rw [readValue_blank space] at headRead
      obtain ⟨rfl, alike⟩ := each (key, value) List.mem_cons_self _ _ _ _ _ _ headRead
        (delimited_spreadMembers blank level tail rest) (readMembers_delimited later)
      have last : insertMember key head before = before ++ [(key, head)] :=
        insertMember_last fun member held =>
          (List.pairwise_append.mp ordered).2.2 member held (key, value) List.mem_cons_self
      rw [last] at later
      obtain ⟨same, others⟩ := ih (fun other held => each other (List.mem_cons_of_mem _ held))
        less false (before ++ [(key, head)]) (ordered_replaced ordered) later
      refine ⟨same, ?_⟩
      rw [others]
      simp [unnumberedMember, alike]

theorem resemblesAt_of_read {value : Value}
    (reads : ∀ fuel depth level rest, readValue (fuel + 1) depth
      (spread gap pause level value ++ rest) = .ok (value, rest)) :
    ResemblesAt gap pause value := by
  intro fuel depth level rest found left read _ _
  cases fuel with
  | zero => cases read
  | succ fuel =>
      cases (reads fuel depth level rest).symm.trans read
      exact ⟨rfl, rfl⟩

theorem resemblesAt_number (number : Number) : ResemblesAt gap pause (.number number) := by
  intro fuel depth level rest found left read delimited remaining
  obtain ⟨other, result, rfl⟩ := readValue_render_ok read
  exact ⟨Number.readNumber_stops delimited remaining result, rfl⟩

theorem resemblesAt_spread (blank : ∀ level, AllSpace (gap level)) (space : AllSpace pause)
    (value : Value) (ordered : value.Ordered) : ResemblesAt gap pause value := by
  induction value using Value.byParts with
  | null => exact resemblesAt_of_read fun fuel depth _ rest => (readValue_literal fuel depth rest).1
  | bool flag =>
      apply resemblesAt_of_read
      intro fuel depth level rest
      cases flag
      · exact (readValue_literal fuel depth rest).2.2
      · exact (readValue_literal fuel depth rest).2.1
  | number number => exact resemblesAt_number number
  | string text =>
      exact resemblesAt_of_read fun fuel depth _ rest => readValue_string fuel depth text rest
  | array items each =>
      intro fuel depth level rest found left read _ _
      rw [spread, List.cons_append] at read
      obtain ⟨less, others, -, result, rfl⟩ := readValue_array_ok read
      obtain ⟨same, alike⟩ := readItems_resembles blank (fun item member =>
        each item member ((Value.every_array.mp ordered).2 item member)) _ _ _ _ _ result
      exact ⟨same, by rw [Value.unnumbered_array, Value.unnumbered_array, alike]⟩
  | object members each =>
      intro fuel depth level rest found left read _ _
      rw [spread, List.cons_append] at read
      obtain ⟨less, others, -, result, rfl⟩ := readValue_object_ok read
      obtain ⟨same, alike⟩ := readMembers_resembles blank space (fun member held =>
        each member held ((Value.every_object.mp ordered).2 member held)) _ _ _ _ [] _
        (Value.every_object.mp ordered).1 result
      exact ⟨same, by rw [Value.unnumbered_object, Value.unnumbered_object, alike]; rfl⟩

end

/-- If a printed document is read at all, then it is read but for its numbers. -/
theorem unnumbered_of_readText_compact {value found : Value} (ordered : value.Ordered)
    (read : readText (compact value) = .ok found) : found.unnumbered = value.unnumbered := by
  rw [compact_eq_spread value 0] at read
  have resembles := @resemblesAt_spread noGap [] (fun _ => allSpace_nil) allSpace_nil value ordered
  unfold readText atEnd at read
  split at read
  · cases read
  · rename_i other left result
    split at read
    · rename_i ended
      cases read
      rw [← List.append_nil (spread noGap [] 0 value)] at result
      exact (resembles _ _ _ _ _ _ result delimited_nil (delimited_of_skipSpaces ended)).2
    · cases read

end Enforcement.Json
