import Enforcement.Files.Path

/-!
Paths by their components: what joining two paths comes to, and where the parent and the last name
of a path lead.
-/

namespace Enforcement.Files

private theorem dropIdle_suffix (path : List Char) : dropIdle path <:+ path := by
  fun_induction dropIdle path with
  | case1 => exact List.suffix_rfl
  | case2 => exact List.suffix_rfl
  | case3 rest _ ih => exact ih.trans (List.suffix_cons _ _)
  | case4 rest ih => exact ih.trans (List.suffix_cons _ _)
  | case5 => exact List.suffix_rfl

private theorem dropIdle_cases (path : List Char) : dropIdle path = ['/'] ∨
    (path.head? ≠ some '/' ∧ dropIdle path = path) ∨
      ∃ dropped, path = dropped ++ '/' :: dropIdle path := by
  fun_induction dropIdle path with
  | case1 => exact .inr (.inl ⟨nofun, rfl⟩)
  | case2 => exact .inl rfl
  | case3 rest _ ih =>
      rcases ih with root | ⟨-, all⟩ | ⟨dropped, split⟩
      · exact .inl root
      · exact .inr (.inr ⟨[], by rw [all]; rfl⟩)
      · exact .inr (.inr ⟨'/' :: dropped, congrArg _ split⟩)
  | case4 rest ih =>
      rcases ih with root | ⟨slash, -⟩ | ⟨dropped, split⟩
      · exact .inl root
      · exact absurd rfl slash
      · exact .inr (.inr ⟨'.' :: dropped, congrArg _ split⟩)
  | case5 path _ _ slash _ =>
      refine .inr (.inl ⟨?_, rfl⟩)
      intro first
      cases path with
      | nil => cases first
      | cons c rest =>
          cases first
          exact slash rest rfl

private theorem parent?_eq {path parent : String} (found : parent? path = some parent) :
    parent.toList =
      (dropIdle ((dropIdle path.toList.reverse).dropWhile (· != '/'))).reverse := by
  unfold parent? at found
  generalize dropIdle path.toList.reverse = backwards at found ⊢
  split at found
  · cases found
  · cases found
  · rw [← Option.some.inj found, String.toList_ofList]

private theorem above_cases (backwards : List Char) : backwards.dropWhile (· != '/') = [] ∨
    ∃ more, backwards.dropWhile (· != '/') = '/' :: more := by
  cases rest : backwards.dropWhile (· != '/') with
  | nil => exact .inl rfl
  | cons c more =>
      have first := List.head_dropWhile_not (· != '/') (l := backwards) (by simp [rest])
      simp only [rest, List.head_cons, bne_eq_false_iff_eq] at first
      exact .inr ⟨more, by rw [first]⟩

/-- A path goes on from its parent after a slash, unless the parent is where it starts. -/
theorem parent?_cases {path parent : String} (found : parent? path = some parent) :
    parent = "" ∨ (parent = "/" ∧ isAbsolute path = true) ∨
      ∃ rest, path.toList = parent.toList ++ '/' :: rest := by
  have upper := parent?_eq found
  obtain ⟨idle, whole⟩ := dropIdle_suffix path.toList.reverse
  generalize dropIdle path.toList.reverse = backwards at upper whole
  have stop := above_cases backwards
  obtain ⟨last, split⟩ : ∃ last, last ++ backwards.dropWhile (· != '/') = backwards :=
    ⟨_, List.takeWhile_append_dropWhile⟩
  generalize backwards.dropWhile (· != '/') = above at upper stop split
  have text : path.toList = above.reverse ++ (last.reverse ++ idle.reverse) := by
    rw [← List.reverse_reverse path.toList, ← whole, ← split]
    simp
  rcases dropIdle_cases above with root | ⟨slash, -⟩ | ⟨dropped, up⟩
  · refine .inr (.inl ⟨String.toList_injective (by rw [upper, root]; rfl), ?_⟩)
    obtain ⟨before, same⟩ := dropIdle_suffix above
    rw [root] at same
    rw [isAbsolute, text, ← same]
    simp
  · refine .inl ?_
    rcases stop with none | ⟨more, first⟩
    · exact String.toList_injective (by rw [upper, none]; rfl)
    · exact absurd (congrArg List.head? first) slash
  · refine .inr (.inr ⟨dropped.reverse ++ (last.reverse ++ idle.reverse), ?_⟩)
    rw [upper, text]
    generalize dropIdle above = kept at up
    rw [up]
    simp

theorem names_go_append (first second name : List Char) :
    names.go (first ++ '/' :: second) name = names.go first name ++ names.go second [] := by
  induction first generalizing name with
  | nil =>
      have stop : names.go ('/' :: second) name =
          String.ofList name.reverse :: names.go second [] := if_pos rfl
      exact stop
  | cons c rest ih =>
      rw [List.cons_append, names.go, names.go]
      split
      · rw [ih, List.cons_append]
      · exact ih _

theorem names_append (first second : List Char) :
    names (first ++ '/' :: second) = names first ++ names second := names_go_append first second []

theorem names_go_plain {text : List Char} (plain : '/' ∉ text) (name : List Char) :
    names.go text name = [String.ofList (name.reverse ++ text)] := by
  induction text generalizing name with
  | nil => rw [names.go, List.append_nil]
  | cons c rest ih =>
      have head : c ≠ '/' := fun slash => plain (slash ▸ List.mem_cons_self)
      have tail : '/' ∉ rest := fun slash => plain (List.mem_cons_of_mem _ slash)
      rw [names.go, if_neg head, ih tail]
      simp

theorem names_plain {name : String} (plain : '/' ∉ name.toList) : names name.toList = [name] := by
  rw [names, names_go_plain plain]
  simp

theorem names_ne_nil (text : List Char) : names text ≠ [] := by
  have filled (name : List Char) : names.go text name ≠ [] := by
    induction text generalizing name with
    | nil => exact List.cons_ne_nil _ _
    | cons c rest ih =>
        rw [names.go]
        split
        · exact List.cons_ne_nil _ _
        · exact ih _
  exact filled []

def leadsOn (name : String) : Bool := name != "" && name != "."

private theorem names_trailing (path : List Char) :
    names (path ++ ['/']) = names path ++ [""] := names_append path []

private theorem names_dropIdle (path : List Char) :
    (names (dropIdle path).reverse).filter leadsOn = (names path.reverse).filter leadsOn := by
  have idle : leadsOn "" = false := rfl
  fun_induction dropIdle path with
  | case1 => rfl
  | case2 => rfl
  | case3 rest _ ih =>
      rw [ih, List.reverse_cons, names_trailing, List.filter_append]
      simp [idle]
  | case4 rest ih =>
      have behind : names (rest.reverse ++ ['/', '.']) = names rest.reverse ++ ["."] :=
        names_append rest.reverse ['.']
      have dot : leadsOn "." = false := rfl
      rw [ih, List.reverse_cons, names_trailing, List.reverse_cons, List.reverse_cons,
        List.append_assoc, List.singleton_append, behind, List.filter_append, List.filter_append]
      simp [idle, dot]
  | case5 => rfl

private theorem dropIdle_ne_nil {path : List Char} (some : path ≠ []) : dropIdle path ≠ [] := by
  fun_induction dropIdle path with
  | case1 => exact absurd rfl some
  | case2 => exact some
  | case3 rest more ih => exact ih fun none => more (none ▸ rfl)
  | case4 rest ih => exact ih (List.cons_ne_nil _ _)
  | case5 => exact some

def components (path : String) : List String := (names path.toList).filter leadsOn

theorem components_empty : components "" = [] := rfl

theorem mem_components_leadsOn {path name : String} (member : name ∈ components path) :
    leadsOn name = true := (List.mem_filter.mp member).2

private theorem slash_notMem_go {text name : List Char} (plain : '/' ∉ name) {found : String}
    (member : found ∈ names.go text name) : '/' ∉ found.toList := by
  induction text generalizing name with
  | nil =>
      rw [names.go, List.mem_singleton] at member
      rw [member, String.toList_ofList, List.mem_reverse]
      exact plain
  | cons c rest ih =>
      rw [names.go] at member
      split at member
      · rcases List.mem_cons.mp member with same | later
        · rw [same, String.toList_ofList, List.mem_reverse]
          exact plain
        · exact ih List.not_mem_nil later
      · rename_i letter
        refine ih (fun slash => ?_) member
        rcases List.mem_cons.mp slash with same | earlier
        · exact letter same.symm
        · exact plain earlier

theorem slash_notMem_components {path name : String} (member : name ∈ components path) :
    '/' ∉ name.toList :=
  slash_notMem_go List.not_mem_nil (List.mem_filter.mp member).1

theorem components_name {name : String} (plain : '/' ∉ name.toList) (onward : leadsOn name = true) :
    components name = [name] := by
  rw [components, names_plain plain, List.filter_cons_of_pos onward]
  rfl

theorem toList_slashed (base path : String) :
    (base ++ "/" ++ path).toList = base.toList ++ '/' :: path.toList := by
  rw [String.toList_append, String.toList_append, List.append_assoc]
  rfl

/-- Below a directory a path leads on from there, unless it starts from the root. -/
theorem components_join (base path : String) : components (join base path) =
    if isAbsolute path then components path else components base ++ components path := by
  unfold join
  cases isAbsolute path with
  | true => rfl
  | false =>
      rw [Bool.false_or, if_neg Bool.false_ne_true]
      split
      · rename_i empty
        have empty : base = "" := by simpa using empty
        rw [empty, components_empty, List.nil_append]
      · unfold components
        split
        · rename_i slash
          obtain ⟨front, ends⟩ := List.getLast?_eq_some_iff.mp (beq_iff_eq.mp slash)
          have idle : [""].filter leadsOn = [] := rfl
          rw [String.toList_append, ends, List.append_assoc, List.singleton_append, names_append,
            names_trailing, List.filter_append, List.filter_append, idle, List.append_nil]
        · rw [toList_slashed, names_append, List.filter_append]

theorem isAbsolute_plain {name : String} (plain : '/' ∉ name.toList) : isAbsolute name = false := by
  unfold isAbsolute
  cases letters : name.toList with
  | nil => rfl
  | cons c rest =>
      have other : c ≠ '/' := by
        rintro rfl
        exact plain (letters ▸ List.mem_cons_self)
      simpa using other

theorem isAbsolute_append {base path : String} {rest : List Char} (some : base ≠ "")
    (split : path.toList = base.toList ++ rest) : isAbsolute path = isAbsolute base := by
  have letters : base.toList ≠ [] := by simpa using some
  unfold isAbsolute
  rw [split]
  cases front : base.toList with
  | nil => exact absurd front letters
  | cons c text => rfl

theorem join_append (base more : String) {path : String} (some : path ≠ "") :
    join base (path ++ more) = join base path ++ more := by
  unfold join
  rw [isAbsolute_append some String.toList_append]
  split
  · rfl
  · split
    · exact String.append_assoc.symm
    · exact String.append_assoc.symm

theorem isAbsolute_join (base path : String) :
    isAbsolute (join base path) = (isAbsolute path || isAbsolute base) := by
  unfold join
  cases absolute : isAbsolute path with
  | true => exact absolute
  | false =>
      rw [Bool.false_or, Bool.false_or]
      split
      · rename_i empty
        have empty : base = "" := by simpa using empty
        rw [absolute, empty]
        rfl
      · rename_i filled
        have filled : base ≠ "" := by simpa using filled
        split
        · exact isAbsolute_append filled String.toList_append
        · exact isAbsolute_append filled (toList_slashed base path)

private theorem fileName?_eq {path name : String} (found : fileName? path = some name) :
    name.toList = ((dropIdle path.toList.reverse).takeWhile (· != '/')).reverse ∧
      name ≠ "" ∧ name ≠ "." ∧ name ≠ ".." := by
  unfold fileName? at found
  dsimp only at found
  generalize ((dropIdle path.toList.reverse).takeWhile (· != '/')).reverse = letters at found ⊢
  split at found
  · cases found
  · rename_i ordinary
    simp only [Bool.or_eq_true, List.isEmpty_iff, beq_iff_eq, not_or] at ordinary
    have same : letters = name.toList := by rw [← Option.some.inj found, String.toList_ofList]
    subst same
    refine ⟨rfl, ?_, ?_, ?_⟩
    · rintro rfl
      exact ordinary.1.1 rfl
    · rintro rfl
      exact ordinary.1.2 rfl
    · rintro rfl
      exact ordinary.2 rfl

theorem parent?_of_fileName? {path name : String} (last : fileName? path = some name) :
    ∃ parent, parent? path = some parent := by
  obtain ⟨letters, filled, -, -⟩ := fileName?_eq last
  unfold parent?
  generalize dropIdle path.toList.reverse = backwards at letters
  split
  · exact absurd (String.toList_injective letters) filled
  · exact absurd (String.toList_injective letters) filled
  · exact ⟨_, rfl⟩

/-- A path with a last name leads from its parent to that name. -/
theorem components_of_fileName? {path name parent : String} (last : fileName? path = some name)
    (upper : parent? path = some parent) : components path = components parent ++ [name] ∧
      name ≠ ".." ∧ isAbsolute path = isAbsolute parent := by
  obtain ⟨letters, filled, idle, up⟩ := fileName?_eq last
  have above := parent?_eq upper
  have same := names_dropIdle path.toList.reverse
  rw [List.reverse_reverse] at same
  have begins := parent?_cases upper
  obtain ⟨dropped, whole⟩ := dropIdle_suffix path.toList.reverse
  generalize dropIdle path.toList.reverse = backwards at letters above same whole
  have plain : '/' ∉ name.toList := by
    rw [letters, List.mem_reverse]
    intro slash
    have other := List.all_eq_true.mp List.all_takeWhile '/' slash
    cases other
  have split : backwards.reverse = (backwards.dropWhile (· != '/')).reverse ++ name.toList := by
    rw [letters, ← List.reverse_append, List.takeWhile_append_dropWhile]
  have text : path.toList = backwards.reverse ++ dropped.reverse := by
    rw [← List.reverse_reverse path.toList, ← whole, List.reverse_append]
  refine ⟨?_, up, ?_⟩
  · have alone : (names name.toList).filter leadsOn = [name] :=
      components_name plain (by simp [leadsOn, filled, idle])
    rw [components, ← same, split, components, above, names_dropIdle]
    rcases above_cases backwards with none | ⟨more, first⟩
    · rw [none]
      exact alone
    · have trailing : [""].filter leadsOn = [] := rfl
      rw [first, List.reverse_cons, List.append_assoc, List.singleton_append, names_append,
        names_trailing, List.filter_append, List.filter_append, alone, trailing, List.append_nil]
  · by_cases start : parent = ""
    · have none : backwards.dropWhile (· != '/') = [] := by
        refine Decidable.byContradiction fun some => dropIdle_ne_nil some ?_
        rw [← List.reverse_eq_nil_iff, ← above, start]
        rfl
      rw [split, none, List.reverse_nil, List.nil_append] at text
      rw [start, isAbsolute_append filled text, isAbsolute_plain plain]
      rfl
    · rcases begins with none | ⟨root, absolute⟩ | ⟨rest, onward⟩
      · exact absurd none start
      · rw [absolute, root]
        rfl
      · exact isAbsolute_append start onward

end Enforcement.Files
