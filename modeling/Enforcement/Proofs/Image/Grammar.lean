import Enforcement.Image.Reference
import Enforcement.Proofs.Text.Words

/-!
The grammar of references: how a text splits at a mark, what characters each part may hold, and
where the grammar of hosts and that of paths agree.
-/

namespace Enforcement.ImageReference

open Enforcement.Text

theorem splitFirst_absent {mark : Char} {text : List Char} (absent : mark ∉ text) :
    splitFirst mark text = (text, none) := by
  induction text with
  | nil => rfl
  | cons c rest ih =>
      obtain ⟨other, absent⟩ := not_or.mp (mt List.mem_cons.mpr absent)
      rw [splitFirst, if_neg (Ne.symm other), ih absent]

theorem splitFirst_append {mark : Char} {before : List Char} (absent : mark ∉ before)
    (after : List Char) : splitFirst mark (before ++ mark :: after) = (before, some after) := by
  induction before with
  | nil => simp [splitFirst]
  | cons c rest ih =>
      obtain ⟨other, absent⟩ := not_or.mp (mt List.mem_cons.mpr absent)
      rw [List.cons_append, splitFirst, if_neg (Ne.symm other), ih absent]

theorem splitAll_absent {mark : Char} {text : List Char} (absent : mark ∉ text) :
    splitAll mark text = [text] := by
  induction text with
  | nil => rfl
  | cons c rest ih =>
      obtain ⟨other, absent⟩ := not_or.mp (mt List.mem_cons.mpr absent)
      rw [splitAll, if_neg (Ne.symm other), ih absent]

theorem splitAll_append {mark : Char} {before : List Char} (absent : mark ∉ before)
    (after : List Char) :
    splitAll mark (before ++ mark :: after) = before :: splitAll mark after := by
  induction before with
  | nil => simp [splitAll]
  | cons c rest ih =>
      obtain ⟨other, absent⟩ := not_or.mp (mt List.mem_cons.mpr absent)
      rw [List.cons_append, splitAll, if_neg (Ne.symm other), ih absent]

theorem splitAll_ne_nil (mark : Char) (text : List Char) : splitAll mark text ≠ [] := by
  fun_cases splitAll mark text <;> simp_all

@[elab_as_elim]
theorem parts_induction (mark : Char) {motive : List Char → Prop} (text : List Char)
    (single : ∀ part, mark ∉ part → motive part)
    (more : ∀ part rest, mark ∉ part → motive rest → motive (part ++ mark :: rest)) :
    motive text := by
  by_cases marked : mark ∈ text
  · obtain ⟨part, rest, split, absent⟩ := List.eq_append_cons_of_mem marked
    rw [split]
    exact more part rest absent (parts_induction mark rest single more)
  · exact single text marked
termination_by text.length
decreasing_by simp [split]; omega

theorem mem_of_splitAll {mark : Char} {Holds : Char → Prop} {text : List Char}
    (parts : ∀ part ∈ splitAll mark text, ∀ c ∈ part, Holds c) :
    ∀ c ∈ text, c = mark ∨ Holds c := by
  induction text using parts_induction mark with
  | single part absent =>
      rw [splitAll_absent absent] at parts
      exact fun c member => .inr (parts part List.mem_cons_self c member)
  | more part rest absent ih =>
      rw [splitAll_append absent, List.forall_mem_cons] at parts
      intro c member
      rcases List.mem_append.mp member with front | back
      · exact .inr (parts.1 c front)
      · exact (List.mem_cons.mp back).elim .inl (ih parts.2 c)

def isComponentChar (c : Char) : Bool := isPathChar c || c == '.' || c == '_' || c == '-'

def isHostChar (c : Char) : Bool := c.isAlphanum || c == '-' || c == '.' || c == ':'

def isPath (path : List Char) : Bool := (splitAll '/' path).all isComponent

theorem isPath_append {first : List Char} (absent : '/' ∉ first) (rest : List Char) :
    isPath (first ++ '/' :: rest) = (isComponent first && isPath rest) := by
  rw [isPath, splitAll_append absent, List.all_cons, isPath]

theorem isPath_of_single {component : List Char} (absent : '/' ∉ component) :
    isPath component = isComponent component := by
  simp [isPath, splitAll_absent absent]

theorem isName_of_single {component : List Char} (absent : '/' ∉ component) :
    isName component = isComponent component := by
  rw [isName, splitAll_absent absent]

theorem isName_append {first : List Char} (absent : '/' ∉ first) (rest : List Char) :
    isName (first ++ '/' :: rest) = ((isComponent first || isHost first) && isPath rest) := by
  obtain ⟨part, parts, split⟩ := List.exists_cons_of_ne_nil (splitAll_ne_nil '/' rest)
  rw [isName, splitAll_append absent, isPath, split]

/-- The three states of the reader of a component accept nothing but its characters. -/
theorem run_chars :
    (∀ text, isComponent.afterRun text = true → ∀ c ∈ text, isComponentChar c = true) ∧
      (∀ text, isComponent.inHyphens text = true → ∀ c ∈ text, isComponentChar c = true) ∧
      ∀ text, isComponent.inRun text = true → ∀ c ∈ text, isComponentChar c = true := by
  apply isComponent.afterRun.mutual_induct <;>
    simp_all [isComponent.afterRun, isComponent.inHyphens, isComponent.inRun, isComponentChar]

theorem component_chars {component : List Char} (accepted : isComponent component = true) :
    ∀ c ∈ component, isComponentChar c = true := by
  cases component with
  | nil => simp
  | cons c rest =>
      obtain ⟨held, run⟩ := Bool.and_eq_true_iff.mp accepted
      exact List.forall_mem_cons.mpr ⟨by simp [isComponentChar, held], run_chars.1 rest run⟩

theorem afterRun_cons {c : Char} (held : isPathChar c = true) (rest : List Char) :
    isComponent.afterRun (c :: rest) = isComponent.afterRun rest := by
  have other {mark : Char} (foreign : isPathChar mark = false) : c ≠ mark := by
    rintro rfl
    simp [foreign] at held
  rw [isComponent.afterRun, held, Bool.true_and]
  · exact other (by decide)
  · exact fun _ mark => absurd mark (other (by decide))
  · exact other (by decide)
  · exact other (by decide)

theorem inHyphens_cons {c : Char} (held : isPathChar c = true) (rest : List Char) :
    isComponent.inHyphens (c :: rest) = isComponent.afterRun rest := by
  rw [isComponent.inHyphens, held, Bool.true_and]
  rintro rfl
  simp [isPathChar] at held

theorem run_append {text : List Char} (chars : ∀ c ∈ text, isPathChar c = true ∨ c = '-')
    (last : ∀ c ∈ text.getLast?, isPathChar c = true) (rest : List Char) :
    isComponent.afterRun (text ++ rest) = isComponent.afterRun rest ∧
      (text ≠ [] → isComponent.inHyphens (text ++ rest) = isComponent.afterRun rest) := by
  induction text with
  | nil => exact ⟨rfl, fun more => absurd rfl more⟩
  | cons c text ih =>
      obtain ⟨first, chars⟩ := List.forall_mem_cons.mp chars
      obtain ⟨run, hyphens⟩ := ih chars (by
        intro d final
        exact last d (by simp [List.getLast?_cons, Option.mem_def.mp final]))
      rcases first with held | rfl
      · rw [List.cons_append, afterRun_cons held, inHyphens_cons held]
        exact ⟨run, fun _ => run⟩
      · have more : text ≠ [] := by
          rintro rfl
          cases last '-' rfl
        exact ⟨hyphens more, fun _ => hyphens more⟩

theorem component_append {label : List Char} (accepted : isLabel label = true)
    (small : ∀ c ∈ label, c.isUpper = false) (rest : List Char) :
    isComponent (label ++ rest) = isComponent.afterRun rest := by
  have pathChar {c : Char} (member : c ∈ label) (letter : c.isAlphanum = true) :
      isPathChar c = true := by
    rw [isAlphanum_iff, small c member] at letter
    rw [isPathChar, Bool.or_eq_true]
    exact letter.imp_left (·.resolve_left Bool.false_ne_true)
  simp only [isLabel, Bool.and_eq_true, List.all_eq_true, Bool.or_eq_true, beq_iff_eq,
    Option.any_eq_true] at accepted
  obtain ⟨⟨chars, first, head, initial⟩, last, tail, final⟩ := accepted
  cases label with
  | nil => cases head
  | cons c label =>
      cases head
      have chars : ∀ d ∈ label, isPathChar d = true ∨ d = '-' := by
        intro d member
        have member := List.mem_cons_of_mem first member
        exact (chars d member).imp_left (pathChar member)
      have last : ∀ d ∈ label.getLast?, isPathChar d = true := by
        intro d stop
        have same : (first :: label).getLast? = some d := by
          simp [List.getLast?_cons, Option.mem_def.mp stop]
        cases tail.symm.trans same
        exact pathChar (List.mem_of_getLast? tail) final
      rw [List.cons_append, isComponent, pathChar List.mem_cons_self initial, Bool.true_and,
        (run_append chars last rest).1]

theorem isHost_of_portless {host : List Char} (portless : ':' ∉ host) :
    isHost host = (splitAll '.' host).all isLabel := by
  simp only [isHost, splitFirst_absent portless, Bool.and_true]

/-- The grammar of hosts without a port allows no more than that of components but capitals. -/
theorem component_of_host {host : List Char} (accepted : isHost host = true) (portless : ':' ∉ host)
    (small : ∀ c ∈ host, c.isUpper = false) : isComponent host = true := by
  rw [isHost_of_portless portless] at accepted
  clear portless
  induction host using parts_induction '.' with
  | single label absent =>
      rw [splitAll_absent absent, List.all_cons, Bool.and_eq_true] at accepted
      simpa [isComponent.afterRun] using component_append accepted.1 small []
  | more label rest absent ih =>
      rw [splitAll_append absent, List.all_cons, Bool.and_eq_true] at accepted
      rw [component_append accepted.1 fun c member => small c (List.mem_append_left _ member)]
      have later : isComponent rest = true :=
        ih accepted.2 fun c member =>
          small c (List.mem_append_right _ (List.mem_cons_of_mem _ member))
      cases rest with
      | nil => cases later
      | cons c rest => exact later

theorem labels_chars {text : List Char} (labels : (splitAll '.' text).all isLabel = true) :
    ∀ c ∈ text, isHostChar c = true := by
  have inLabel : ∀ label ∈ splitAll '.' text, ∀ c ∈ label, isHostChar c = true := by
    intro label held c inside
    have accepted := List.all_eq_true.mp labels label held
    simp only [isLabel, Bool.and_eq_true, List.all_eq_true] at accepted
    rw [isHostChar, accepted.1.1 c inside, Bool.true_or, Bool.true_or]
  intro c member
  rcases mem_of_splitAll inLabel c member with rfl | held
  · rfl
  · exact held

theorem host_chars {host : List Char} (accepted : isHost host = true) :
    ∀ c ∈ host, isHostChar c = true := by
  by_cases ported : ':' ∈ host
  · obtain ⟨front, port, rfl, absent⟩ := List.eq_append_cons_of_mem ported
    simp only [isHost, splitFirst_append absent, Bool.and_eq_true, List.all_eq_true] at accepted
    intro c member
    rcases List.mem_append.mp member with inside | outside
    · exact labels_chars (List.all_eq_true.mpr accepted.1) c inside
    · rcases List.mem_cons.mp outside with rfl | digit
      · rfl
      · simp [isHostChar, isAlphanum_iff, accepted.2.2 c digit]
  · exact labels_chars (isHost_of_portless ported ▸ accepted)

theorem path_chars {path : List Char} (accepted : isPath path = true) :
    ∀ c ∈ path, c = '/' ∨ isComponentChar c = true :=
  mem_of_splitAll fun component held =>
    component_chars (List.all_eq_true.mp accepted component held)

theorem first_chars {first : List Char} (accepted : (isComponent first || isHost first) = true) :
    ∀ c ∈ first, isComponentChar c = true ∨ isHostChar c = true := by
  intro c member
  exact (Bool.or_eq_true_iff.mp accepted).imp (component_chars · c member) (host_chars · c member)

theorem name_chars {name : List Char} (accepted : isName name = true) :
    ∀ c ∈ name, c = '/' ∨ isComponentChar c = true ∨ isHostChar c = true := by
  by_cases nested : '/' ∈ name
  · obtain ⟨first, rest, rfl, absent⟩ := List.eq_append_cons_of_mem nested
    rw [isName_append absent, Bool.and_eq_true] at accepted
    intro c member
    rcases List.mem_append.mp member with front | back
    · exact .inr (first_chars accepted.1 c front)
    · rcases List.mem_cons.mp back with slash | inside
      · exact .inl slash
      · exact (path_chars accepted.2 c inside).imp_right .inl
  · rw [isName_of_single nested] at accepted
    exact fun c member => .inr (.inl (component_chars accepted c member))

/-- A name without a port is a path unless its first component has capital letters. -/
theorem isPath_iff_small {name : List Char} (accepted : isName name = true)
    (portless : ':' ∉ name) : isPath name = true ↔ ∀ c ∈ name, c.isUpper = false := by
  constructor
  · intro path c member
    rw [Bool.eq_false_iff]
    intro capital
    have code := isUpper_iff.mp capital
    rcases path_chars path c member with rfl | held
    · cases capital
    · simp only [isComponentChar, isPathChar, Bool.or_eq_true, beq_iff_eq, isLower_iff,
        isDigit_iff] at held
      rcases held with (((held | held) | rfl) | rfl) | rfl
      · omega
      · omega
      all_goals cases capital
  · intro small
    by_cases nested : '/' ∈ name
    · obtain ⟨first, rest, rfl, absent⟩ := List.eq_append_cons_of_mem nested
      rw [isName_append absent, Bool.and_eq_true, Bool.or_eq_true] at accepted
      rw [isPath_append absent, accepted.2, Bool.and_true]
      exact accepted.1.elim id fun host => component_of_host host
        (fun mark => portless (List.mem_append_left _ mark))
        (fun c member => small c (List.mem_append_left _ member))
    · rwa [isPath_of_single nested, ← isName_of_single nested]

theorem name_of_path {path : List Char} (accepted : isPath path = true) : isName path = true := by
  by_cases nested : '/' ∈ path
  · obtain ⟨first, rest, rfl, absent⟩ := List.eq_append_cons_of_mem nested
    rw [isPath_append absent, Bool.and_eq_true] at accepted
    rw [isName_append absent, accepted.1, accepted.2]
    rfl
  · rwa [isName_of_single nested, ← isPath_of_single nested]

theorem tag_chars {tag : List Char} (accepted : isTag tag = true) :
    ∀ c ∈ tag, isWord c = true ∨ c = '.' ∨ c = '-' := by
  cases tag with
  | nil => cases accepted
  | cons c rest =>
      simp only [isTag, Bool.and_eq_true, List.all_eq_true, Bool.or_eq_true, beq_iff_eq,
        or_assoc] at accepted
      exact List.forall_mem_cons.mpr ⟨.inl accepted.1.1, accepted.2⟩

def isDigestChar (c : Char) : Bool := c.isAlphanum || isDigestSeparator c || c == ':'

theorem algorithm_chars :
    (∀ text, isDigestAlgorithm.inWord text = true → ∀ c ∈ text, isDigestChar c = true) ∧
      ∀ text, isDigestAlgorithm.atWord text = true → ∀ c ∈ text, isDigestChar c = true := by
  apply isDigestAlgorithm.inWord.mutual_induct
  case case1 | case3 => simp
  case case2 =>
    intro c rest inWord atWord accepted
    simp only [isDigestAlgorithm.inWord, Bool.or_eq_true, Bool.and_eq_true] at accepted
    rcases accepted with ⟨letter, run⟩ | ⟨separator, run⟩
    · exact List.forall_mem_cons.mpr ⟨by simp [isDigestChar, letter], inWord run⟩
    · exact List.forall_mem_cons.mpr ⟨by simp [isDigestChar, separator], atWord run⟩
  case case4 =>
    intro c rest inWord accepted
    obtain ⟨letter, run⟩ := Bool.and_eq_true_iff.mp accepted
    exact List.forall_mem_cons.mpr ⟨by simp [isDigestChar, Char.isAlphanum, letter], inWord run⟩

theorem isAlphanum_of_isHexDigit {c : Char} (hex : isHexDigit c = true) : c.isAlphanum = true := by
  simp only [isHexDigit, Bool.or_eq_true, Bool.and_eq_true, decide_eq_true_eq] at hex
  rw [isAlphanum_iff, isUpper_iff, isLower_iff]
  rcases hex with (digit | ⟨low, high⟩) | ⟨low, high⟩
  · exact .inr digit
  · have low : 97 ≤ c.toNat := low
    have high : c.toNat ≤ 102 := high
    exact .inl (.inr ⟨low, by omega⟩)
  · have low : 65 ≤ c.toNat := low
    have high : c.toNat ≤ 70 := high
    exact .inl (.inl ⟨low, by omega⟩)

theorem digest_chars {digest : List Char} (accepted : isDigest digest = true) :
    ∀ c ∈ digest, isDigestChar c = true := by
  by_cases marked : ':' ∈ digest
  · obtain ⟨algorithm, value, rfl, absent⟩ := List.eq_append_cons_of_mem marked
    simp only [isDigest, splitFirst_append absent, Bool.and_eq_true, List.all_eq_true] at accepted
    have front : ∀ c ∈ algorithm, isDigestChar c = true := by
      cases algorithm with
      | nil => simp
      | cons c rest => exact algorithm_chars.2 (c :: rest) accepted.1.1
    have back : ∀ c ∈ value, isDigestChar c = true := by
      intro c member
      simp [isDigestChar, isAlphanum_of_isHexDigit (accepted.2 c member)]
    exact List.forall_mem_append.mpr ⟨front, List.forall_mem_cons.mpr ⟨rfl, back⟩⟩
  · simp [isDigest, splitFirst_absent marked] at accepted

/-! Nothing that the grammar accepts is white space. -/

theorem isBlank_of_nameChar {c : Char} (held : isComponentChar c = true ∨ isHostChar c = true) :
    isBlank c = false := by
  have cases : c.isAlphanum = true ∨ c = '.' ∨ c = '_' ∨ c = '-' ∨ c = ':' := by
    simp only [isComponentChar, isPathChar, isHostChar, Bool.or_eq_true, beq_iff_eq,
      isAlphanum_iff] at held ⊢
    grind
  rcases cases with letter | rfl | rfl | rfl | rfl
  · exact isBlank_of_isAlphanum letter
  all_goals decide

theorem name_visible {name : List Char} (accepted : isName name = true) :
    ∀ c ∈ name, isBlank c = false := by
  intro c member
  rcases name_chars accepted c member with rfl | held
  · decide
  · exact isBlank_of_nameChar held

theorem tag_visible {tag : List Char} (accepted : isTag tag = true) :
    ∀ c ∈ tag, isBlank c = false := by
  intro c member
  rcases tag_chars accepted c member with word | rfl | rfl
  · exact isBlank_of_isWord word
  · decide
  · decide

theorem digest_visible {digest : List Char} (accepted : isDigest digest = true) :
    ∀ c ∈ digest, isBlank c = false := by
  intro c member
  have held := digest_chars accepted c member
  simp only [isDigestChar, isDigestSeparator, Bool.or_eq_true, beq_iff_eq] at held
  rcases held with (letter | ((rfl | rfl) | rfl) | rfl) | rfl
  · exact isBlank_of_isAlphanum letter
  all_goals decide

end Enforcement.ImageReference
