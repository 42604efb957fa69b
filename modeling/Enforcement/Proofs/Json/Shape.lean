import Enforcement.Json.Shape
import Enforcement.Proofs.Json.Reading

/-!
Documents of a known shape. What stands in the normal form of a shape is read where it was printed,
by the reader of that shape, and nothing of the text behind it is touched.
-/

namespace Enforcement.Json

namespace Shape

@[elab_as_elim]
theorem byParts {motive : Shape → Prop} (text : motive .text) (flag : motive .flag)
    (integer : ∀ width, motive (.integer width)) (choice : ∀ words, motive (.choice words))
    (list : ∀ item, motive item → motive (.list item))
    (record : ∀ fields, (∀ field ∈ fields, motive field.2.2) → motive (.record fields))
    (shape : Shape) : motive shape := by
  refine @Shape.rec motive (fun fields => ∀ field ∈ fields, motive field.2.2)
    (fun field => motive field.2.2) (fun field => motive field.2)
    text flag integer choice list record ?_ ?_ ?_ ?_ shape
  · nofun
  · intro field fields first rest
    exact List.forall_mem_cons.mpr ⟨first, rest⟩
  · exact fun _ _ inner => inner
  · exact fun _ _ inner => inner

mutual

/-- A value as it is when it was read: each field under its first name, and in its place. -/
def Normal : Shape → Value → Prop
  | .text, .string _ => True
  | .flag, .bool _ => True
  | .integer width, .number number =>
    number.ReadsBack ∧ integerValue? width number = some (.number number)
  | .choice words, .string word => word ∈ words
  | .list item, .array values => ∀ value ∈ values, Normal item value
  | .record fields, .object members =>
    (fields.flatMap (·.1)).Nodup ∧ NormalMembers fields members
  | _, _ => False

def NormalMembers : List (List String × Bool × Shape) → List (String × Value) → Prop
  | [], members => members = []
  | (name :: _, optional, shape) :: fields, members =>
    (optional = true ∧ NormalMembers fields members) ∨
      ∃ value rest, members = (name, value) :: rest ∧ Normal shape value ∧
        NormalMembers fields rest
  | ([], _) :: _, _ => False

end

section Record

variable {fields : List (List String × Bool × Shape)} {members : List (String × Value)}

theorem normalMembers_source (normal : NormalMembers fields members) :
    ∀ member ∈ members, ∃ others optional shape,
      (member.1 :: others, optional, shape) ∈ fields ∧ Normal shape member.2 := by
  induction fields generalizing members with
  | nil =>
      cases normal
      nofun
  | cons field fields ih =>
      have later {members : List (String × Value)} (normal : NormalMembers fields members) :
          ∀ member ∈ members, ∃ others optional shape,
            (member.1 :: others, optional, shape) ∈ field :: fields ∧ Normal shape member.2 := by
        intro member inside
        obtain ⟨others, optional, shape, listed, held⟩ := ih normal member inside
        exact ⟨others, optional, shape, List.mem_cons_of_mem _ listed, held⟩
      obtain ⟨names, optional, shape⟩ := field
      cases names with
      | nil => exact normal.elim
      | cons name others =>
          rcases normal with ⟨-, normal⟩ | ⟨value, rest, rfl, held, normal⟩
          · exact later normal
          · exact List.forall_mem_cons.mpr
              ⟨⟨others, optional, shape, List.mem_cons_self, held⟩, later normal⟩

theorem normalMembers_named (normal : NormalMembers fields members) :
    ∀ member ∈ members, member.1 ∈ fields.flatMap (·.1) := by
  intro member inside
  obtain ⟨others, optional, shape, listed, -⟩ := normalMembers_source normal member inside
  exact List.mem_flatMap.mpr ⟨_, listed, List.mem_cons_self⟩

theorem memberAt?_foreign {names : List String} {rest : Bool × Shape}
    (apart : (((names, rest) :: fields).flatMap (·.1)).Nodup)
    (normal : NormalMembers fields members) {name : String} (listed : name ∈ names) :
    memberAt? name members = none := by
  have foreign := (List.nodup_append.mp (List.flatMap_cons ▸ apart)).2.2
  rw [memberAt?, Option.map_eq_none_iff, List.find?_eq_none]
  intro member inside same
  exact foreign name listed _ (normalMembers_named normal member inside) (beq_iff_eq.mp same).symm

theorem normalMembers_once (apart : (fields.flatMap (·.1)).Nodup)
    (normal : NormalMembers fields members) : (members.map (·.1)).Nodup := by
  induction fields generalizing members with
  | nil =>
      cases normal
      exact List.nodup_nil
  | cons field fields ih =>
      obtain ⟨names, optional, shape⟩ := field
      obtain ⟨-, apart', foreign⟩ := List.nodup_append.mp (List.flatMap_cons ▸ apart)
      cases names with
      | nil => exact normal.elim
      | cons name others =>
          rcases normal with ⟨-, normal⟩ | ⟨value, rest, rfl, held, normal⟩
          · exact ih apart' normal
          · refine List.nodup_cons.mpr ⟨fun again => ?_, ih apart' normal⟩
            obtain ⟨member, inside, same⟩ := List.mem_map.mp again
            exact foreign name List.mem_cons_self _ (normalMembers_named normal member inside)
              same.symm

theorem readerFor?_of_mem (apart : (fields.flatMap (·.1)).Nodup) {key : String}
    {others : List String} {optional : Bool} {shape : Shape}
    (listed : (key :: others, optional, shape) ∈ fields) :
    readerFor? fields key = some (key, orAbsent optional (read shape)) := by
  induction fields with
  | nil => cases listed
  | cons field fields ih =>
      obtain ⟨names, may, first⟩ := field
      obtain ⟨-, apart', foreign⟩ := List.nodup_append.mp (List.flatMap_cons ▸ apart)
      rw [readerFor?]
      rcases List.mem_cons.mp listed with same | listed
      · cases same
        simp
      · have behind : key ∈ fields.flatMap (·.1) :=
          List.mem_flatMap.mpr ⟨_, listed, List.mem_cons_self⟩
        have absent : names.contains key = false := by
          rw [← Bool.not_eq_true, List.contains_iff_mem]
          exact fun here => foreign key here key behind rfl
        rw [absent, ih apart' listed]
        simp

def held? (found : List (String × Option Value)) (name : String) : Option (Option Value) :=
  (found.find? (·.1 == name)).map (·.2)

theorem held?_cons (found : List (String × Option Value)) (key name : String)
    (value : Option Value) :
    held? ((key, value) :: found) name = if key = name then some value else held? found name := by
  unfold held?
  rw [List.find?_cons]
  by_cases same : key = name
  · simp [same]
  · rw [if_neg same, beq_false_of_ne same]

theorem normalMembers?_eq (apart : (fields.flatMap (·.1)).Nodup)
    (normal : NormalMembers fields members) {found : List (String × Option Value)}
    (same : ∀ name ∈ fields.flatMap (·.1), held? found name = (memberAt? name members).map some) :
    normalMembers? found fields = some members := by
  induction fields generalizing members with
  | nil =>
      cases normal
      rfl
  | cons field fields ih =>
      obtain ⟨names, optional, shape⟩ := field
      obtain ⟨-, apart', foreign⟩ := List.nodup_append.mp (List.flatMap_cons ▸ apart)
      cases names with
      | nil => exact normal.elim
      | cons name others =>
          have here := same name (by simp)
          have behind {listed : String} (inside : listed ∈ fields.flatMap (·.1)) :=
            same listed (by rw [List.flatMap_cons]; exact List.mem_append_right _ inside)
          unfold held? at here
          rcases normal with ⟨may, normal⟩ | ⟨value, rest, rfl, held, normal⟩
          · have rest := ih apart' normal fun listed inside => behind inside
            rw [memberAt?_foreign apart normal List.mem_cons_self] at here
            simp [normalMembers?, rest, here, may]
          · have rest := ih apart' normal fun listed inside => by
              rw [behind inside, memberAt?, List.find?_cons_of_neg]
              · rfl
              · simpa using foreign name List.mem_cons_self listed inside
            simp [normalMembers?, rest, here, memberAt?]

end Record

section Reading

variable {gap : Nat → List Char} {pause : List Char}

theorem spread_start {shape : Shape} {value : Value} (normal : shape.Normal value) (level : Nat) :
    ∃ c tail, spread gap pause level value = c :: tail ∧ isSpace c = false ∧ c ≠ 'n' := by
  obtain ⟨c, tail, start, visible, -⟩ := spread_opens gap pause level value
  refine ⟨c, tail, start, visible, ?_⟩
  rintro rfl
  cases value with
  | null => cases shape <;> exact normal.elim
  | bool flag => cases flag <;> cases start
  | number number =>
      obtain ⟨first, more, text, numeric⟩ := number.render_start
      cases text.symm.trans start
      cases numeric
  | string text => cases start
  | array items => cases start
  | object members => cases start

theorem read_blank {blank : List Char} (all : AllSpace blank) (shape : Shape) (text : List Char) :
    shape.read (blank ++ text) = shape.read text := by
  cases shape <;> simp only [read, readText?, readFlag, readInteger, readChoice,
    skipSpaces_append all]

def ReadsShaped (gap : Nat → List Char) (pause : List Char) (shape : Shape) (value : Value) :
    Prop :=
  ∀ level rest, Delimited rest →
    shape.read (spread gap pause level value ++ rest) = .ok (value, rest)

theorem spread_string (level : Nat) (text : String) (rest : List Char) :
    spread gap pause level (.string text) ++ rest =
      '"' :: (escape text.toList ++ '"' :: rest) := by
  simp [spread, compact, printString]

theorem readsShaped_text (text : String) : ReadsShaped gap pause .text (.string text) := by
  intro level rest _
  rw [spread_string, read, readText?, skipSpaces_cons (by decide)]
  simp [readString_escape, Except.map]

theorem readsShaped_flag (flag : Bool) : ReadsShaped gap pause .flag (.bool flag) := by
  intro level rest _
  cases flag with
  | true => exact readLiteral_self (Value.bool true) ['r', 'u', 'e'] rest
  | false => exact readLiteral_self (Value.bool false) ['a', 'l', 's', 'e'] rest

theorem readsShaped_integer {width : Nat} {number : Number} (back : number.ReadsBack)
    (within : integerValue? width number = some (.number number)) :
    ReadsShaped gap pause (.integer width) (.number number) := by
  intro level rest delimited
  have whole := back.readable.before delimited
  obtain ⟨c, tail, text, numeric⟩ := number.render_start
  change Shape.read (.integer width) (number.render ++ rest) = _
  rw [back.reread_eq, text, List.cons_append] at whole
  rw [text, List.cons_append, read, readInteger,
    skipSpaces_cons (not_isSpace_of_isNumeric numeric)]
  have start : (decide (c = '-') || c.isDigit) = true := by
    simpa using readNumber_head whole
  dsimp only
  rw [if_pos start, whole]
  simp [bind, Except.bind, within]
  rfl

theorem readsShaped_choice {words : List String} {word : String} (listed : word ∈ words) :
    ReadsShaped gap pause (.choice words) (.string word) := by
  intro level rest _
  rw [spread_string, read, readChoice, skipSpaces_cons (by decide)]
  simp [readString_escape, bind, Except.bind, listed]
  rfl

/-! Lists. -/

theorem nextItem?_close {blank : List Char} (all : AllSpace blank) (first : Bool)
    (rest : List Char) : nextItem? first (blank ++ ']' :: rest) = .ok none := by
  rw [nextItem?, skipSpaces_append all, skipSpaces_cons (by decide)]
  simp

theorem nextItem?_item {blank : List Char} (all : AllSpace blank) {c : Char} (opens : Opens c)
    (first : Bool) (text : List Char) :
    nextItem? first ((if first then [] else [',']) ++ (blank ++ c :: text)) =
      .ok (some (c :: text)) := by
  obtain ⟨visible, inner⟩ := opens
  have start : skipSpaces (blank ++ c :: text) = c :: text := by
    rw [skipSpaces_append all, skipSpaces_cons visible]
  cases first with
  | true =>
      simp only [if_true, List.nil_append]
      rw [nextItem?, start]
      simp [inner]
  | false =>
      simp only [Bool.false_eq_true, if_false, List.singleton_append]
      rw [nextItem?, skipSpaces_cons (by decide)]
      simp [inner, start]

theorem length_le_spreadItems (level : Nat) (first : Bool) (items : List Value) :
    items.length ≤ (spreadItems gap pause level first items).length := by
  induction items generalizing first with
  | nil => exact Nat.zero_le _
  | cons item rest ih =>
      obtain ⟨c, tail, start, -⟩ := spread_opens gap pause (level + 1) item
      have later := ih false
      simp only [spreadItems, start, List.length_cons, List.length_append]
      omega

theorem readEach_spread (blank : ∀ level, AllSpace (gap level))
    {item : List Char → Except Fault (Value × List Char)} {items : List Value}
    (each : ∀ value ∈ items, ∀ level rest, Delimited rest →
      item (spread gap pause level value ++ rest) = .ok (value, rest))
    (fuel level : Nat) (first : Bool) (rest : List Char) (enough : items.length < fuel) :
    readEach item fuel first (spreadItems gap pause level first items ++ rest) =
      .ok (items, rest) := by
  induction items generalizing fuel first with
  | nil =>
      obtain ⟨fuel, rfl⟩ : ∃ steps, fuel = steps + 1 := ⟨fuel - 1, by simp at enough; omega⟩
      have all := allSpace_lead (blank level) first
      have close : closeArray ((if first then [] else gap level) ++ ']' :: rest) = .ok rest := by
        rw [closeArray, expect, skipSpaces_append all, skipSpaces_cons (by decide)]
        simp
      rw [spreadItems, List.append_assoc, List.singleton_append, readEach, nextItem?_close all]
      simp [bind, Except.bind, close]
      rfl
  | cons value tail ih =>
      obtain ⟨fuel, rfl⟩ : ∃ steps, fuel = steps + 1 := ⟨fuel - 1, by simp at enough; omega⟩
      obtain ⟨head, each⟩ := List.forall_mem_cons.mp each
      obtain ⟨c, text, start, opens⟩ := spread_opens gap pause (level + 1) value
      have here := head (level + 1) (spreadItems gap pause level false tail ++ rest)
        (delimited_spreadItems blank level tail rest)
      have later := ih each fuel false (by simpa using enough)
      have next := nextItem?_item (blank (level + 1)) opens first
        (text ++ (spreadItems gap pause level false tail ++ rest))
      rw [start, List.cons_append] at here
      simp only [spreadItems, List.append_assoc, start, List.cons_append]
      rw [readEach, next]
      simp [bind, Except.bind, here, later]
      rfl

/-! Records. -/

theorem readKnown_close (field : String → Option (String × FieldReader)) {blank : List Char}
    (all : AllSpace blank) (fuel : Nat) (first : Bool) (found : List (String × Option Value))
    (rest : List Char) :
    readKnown field (fuel + 1) first found (blank ++ '\x7d' :: rest) = .ok (found, rest) := by
  rw [readKnown, skipSpaces_append all, skipSpaces_cons (by decide)]
  simp

theorem readKnown_member {field : String → Option (String × FieldReader)} {blank : List Char}
    (all : AllSpace blank) {key : String} {reader : FieldReader}
    (known : field key = some (key, reader)) (fuel : Nat) (first : Bool)
    {found : List (String × Option Value)} (fresh : found.any (·.1 == key) = false)
    (text : List Char) :
    readKnown field (fuel + 1) first found
        ((if first then [] else [',']) ++ (blank ++ (printString key ++ ':' :: text))) =
      (do
        let (value, rest) ← reader text
        readKnown field fuel false ((key, value) :: found) rest) := by
  have start : skipSpaces (blank ++ (printString key ++ ':' :: text)) =
      '"' :: (escape key.toList ++ '"' :: ':' :: text) := by
    rw [skipSpaces_append all, printString, List.cons_append, skipSpaces_cons (by decide)]
    simp
  have colon : expect ':' (':' :: text) = .ok text := by
    rw [expect, skipSpaces_cons (by decide)]
    simp
  cases first with
  | true =>
      simp only [if_true, List.nil_append]
      rw [readKnown, start]
      simp [readString_escape, bind, Except.bind, known, fresh, colon]
  | false =>
      simp only [Bool.false_eq_true, if_false, List.singleton_append]
      rw [readKnown, skipSpaces_cons (by decide)]
      simp [start, readString_escape, bind, Except.bind, known, fresh, colon]

theorem readKnown_spread (blank : ∀ level, AllSpace (gap level))
    {field : String → Option (String × FieldReader)} {members : List (String × Value)}
    (each : ∀ member ∈ members, ∃ reader, field member.1 = some (member.1, reader) ∧
      ∀ level rest, Delimited rest →
        reader (pause ++ (spread gap pause level member.2 ++ rest)) = .ok (some member.2, rest))
    (once : (members.map (·.1)).Nodup) (fuel level : Nat) (first : Bool)
    (found : List (String × Option Value))
    (fresh : ∀ member ∈ members, found.any (·.1 == member.1) = false) (rest : List Char)
    (enough : members.length < fuel) :
    ∃ all, readKnown field fuel first found
        (spreadMembers gap pause level first members ++ rest) = .ok (all, rest) ∧
      ∀ name, held? all name = ((memberAt? name members).map some).or (held? found name) := by
  induction members generalizing fuel first found with
  | nil =>
      obtain ⟨fuel, rfl⟩ : ∃ steps, fuel = steps + 1 := ⟨fuel - 1, by simp at enough; omega⟩
      refine ⟨found, ?_, fun name => rfl⟩
      rw [spreadMembers, List.append_assoc]
      exact readKnown_close field (allSpace_lead (blank level) first) fuel first found rest
  | cons member tail ih =>
      obtain ⟨key, value⟩ := member
      obtain ⟨fuel, rfl⟩ : ∃ steps, fuel = steps + 1 := ⟨fuel - 1, by simp at enough; omega⟩
      obtain ⟨⟨reader, known, reads⟩, each⟩ := List.forall_mem_cons.mp each
      obtain ⟨new, fresh⟩ := List.forall_mem_cons.mp fresh
      obtain ⟨foreign, once⟩ := List.nodup_cons.mp once
      -- No name comes twice, so the reader never meets a field that it holds already.
      have other : ∀ member ∈ tail, key ≠ member.1 := by
        rintro member inside rfl
        exact foreign (List.mem_map.mpr ⟨member, inside, rfl⟩)
      obtain ⟨all, later, lookUp⟩ := ih each once fuel false ((key, some value) :: found)
        (fun member inside => by simp [fresh member inside, other member inside])
        (by simpa using enough)
      refine ⟨all, ?_, fun name => ?_⟩
      · have here := reads (level + 1) (spreadMembers gap pause level false tail ++ rest)
          (delimited_spreadMembers blank level tail rest)
        have step := readKnown_member (blank (level + 1)) known fuel first new
          (pause ++ (spread gap pause (level + 1) value ++
            (spreadMembers gap pause level false tail ++ rest)))
        simp only [here, bind, Except.bind] at step
        simp only [spreadMembers, List.append_assoc, List.cons_append]
        rw [step, later]
      · rw [lookUp, held?_cons, memberAt?_cons]
        split
        · rename_i same
          subst same
          have none : memberAt? key tail = none := by
            rw [memberAt?, Option.map_eq_none_iff, List.find?_eq_none]
            intro member inside same
            exact other member inside (beq_iff_eq.mp same).symm
          rw [none]
          rfl
        · rfl

theorem length_le_spreadMembers (level : Nat) (first : Bool) (members : List (String × Value)) :
    members.length ≤ (spreadMembers gap pause level first members).length := by
  induction members generalizing first with
  | nil => exact Nat.zero_le _
  | cons member rest ih =>
      obtain ⟨key, value⟩ := member
      have later := ih false
      simp only [spreadMembers, List.length_cons, List.length_append]
      omega

theorem orAbsent_spread {blank : List Char} (all : AllSpace blank) {shape : Shape} {value : Value}
    (normal : shape.Normal value) (reads : ReadsShaped gap pause shape value) (optional : Bool)
    (level : Nat) {rest : List Char} (delimited : Delimited rest) :
    orAbsent optional (read shape) (blank ++ (spread gap pause level value ++ rest)) =
      .ok (some value, rest) := by
  obtain ⟨c, tail, start, visible, other⟩ := @spread_start gap pause shape value normal level
  have here := reads level rest delimited
  unfold orAbsent
  rw [skipSpaces_append all, read_blank all, here, start, List.cons_append,
    skipSpaces_cons visible]
  split
  · rename_i same
    exact absurd (List.cons.inj same).1 other
  · rfl

theorem readsShaped_record (blank : ∀ level, AllSpace (gap level)) (space : AllSpace pause)
    {fields : List (List String × Bool × Shape)} {members : List (String × Value)}
    (apart : (fields.flatMap (·.1)).Nodup) (normal : NormalMembers fields members)
    (each : ∀ field ∈ fields, ∀ value, field.2.2.Normal value →
      ReadsShaped gap pause field.2.2 value) :
    ReadsShaped gap pause (.record fields) (.object members) := by
  intro level rest _
  have known : ∀ member ∈ members, ∃ reader,
      readerFor? fields member.1 = some (member.1, reader) ∧
        ∀ level rest, Delimited rest →
          reader (pause ++ (spread gap pause level member.2 ++ rest)) =
            .ok (some member.2, rest) := by
    intro member inside
    obtain ⟨others, optional, shape, listed, held⟩ := normalMembers_source normal member inside
    exact ⟨_, readerFor?_of_mem apart listed, fun level rest delimited =>
      orAbsent_spread space held (each _ listed _ held) optional level delimited⟩
  obtain ⟨all, found, lookUp⟩ := readKnown_spread blank known (normalMembers_once apart normal)
    ((spreadMembers gap pause level true members ++ rest).length + 1) level true []
    (fun _ _ => rfl) rest (by
      have some := @length_le_spreadMembers gap pause level true members
      rw [List.length_append]
      omega)
  have back : normalMembers? all fields = some members :=
    normalMembers?_eq apart normal fun name _ => by
      rw [lookUp]
      exact Option.or_none
  rw [spread, List.cons_append, read, skipSpaces_cons (by decide)]
  simp only [bind, Except.bind]
  rw [found]
  simp only [back]
  rfl

theorem readsShaped (blank : ∀ level, AllSpace (gap level)) (space : AllSpace pause)
    (shape : Shape) (value : Value) (normal : shape.Normal value) :
    ReadsShaped gap pause shape value := by
  induction shape using Shape.byParts generalizing value with
  | text =>
      cases value with
      | string text => exact readsShaped_text text
      | null | bool | number | array | object => exact normal.elim
  | flag =>
      cases value with
      | bool flag => exact readsShaped_flag flag
      | null | number | string | array | object => exact normal.elim
  | integer width =>
      cases value with
      | number number => exact readsShaped_integer normal.1 normal.2
      | null | bool | string | array | object => exact normal.elim
  | choice words =>
      cases value with
      | string word => exact readsShaped_choice normal
      | null | bool | number | array | object => exact normal.elim
  | list item ih =>
      cases value with
      | array values =>
          intro level rest _
          have inner := readEach_spread blank (fun value inside => ih value (normal value inside))
            ((spreadItems gap pause level true values ++ rest).length + 1) level true rest (by
              have some := @length_le_spreadItems gap pause level true values
              rw [List.length_append]
              omega)
          rw [spread, List.cons_append, read, skipSpaces_cons (by decide)]
          simp only [bind, Except.bind]
          rw [inner]
          rfl
      | null | bool | number | string | object => exact normal.elim
  | record fields ih =>
      cases value with
      | object members => exact readsShaped_record blank space normal.1 normal.2 ih
      | null | bool | number | string | array => exact normal.elim

end Reading

theorem read_pretty {shape : Shape} {value : Value} (normal : shape.Normal value) (level : Nat)
    {rest : List Char} (delimited : Delimited rest) :
    shape.read (prettyAt level value ++ rest) = .ok (value, rest) := by
  rw [prettyAt_eq_spread]
  exact readsShaped allSpace_newline (by simp [AllSpace, isSpace]) shape value normal level rest
    delimited

/-- The printed values of a shape need no mark for their end. -/
theorem pretty_inj {shape : Shape} {value other : Value} (normal : shape.Normal value)
    (normal' : shape.Normal other) (level : Nat) {rest rest' : List Char}
    (delimited : Delimited rest) (delimited' : Delimited rest')
    (same : prettyAt level value ++ rest = prettyAt level other ++ rest') :
    value = other ∧ rest = rest' := by
  have left := read_pretty normal level delimited
  have right := read_pretty normal' level delimited'
  rw [same, right] at left
  cases left
  exact ⟨rfl, rfl⟩

theorem read_compact {shape : Shape} {value : Value} (normal : shape.Normal value)
    {rest : List Char} (delimited : Delimited rest) :
    shape.read (compact value ++ rest) = .ok (value, rest) := by
  rw [compact_eq_spread value 0]
  exact readsShaped (fun _ => allSpace_nil) allSpace_nil shape value normal 0 rest delimited

theorem readDocument_text {shape : Shape} {value : Value} (normal : shape.Normal value) :
    shape.readDocument value.compactText = .ok value ∧
      shape.readDocument value.prettyText = .ok value := by
  have compactly := read_compact normal delimited_nil
  have prettily := read_pretty normal 0 delimited_nil
  rw [List.append_nil] at compactly prettily
  unfold readDocument Value.compactText Value.prettyText
  rw [String.toList_ofList, String.toList_ofList, compactly, prettily]
  exact ⟨rfl, rfl⟩

end Shape

end Enforcement.Json
