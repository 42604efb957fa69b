import Enforcement.Proofs.Template.Reference
import Enforcement.Trust.Gate

/-!
The version that the gate holds a payload to: the first one that is mentioned anywhere in the text,
whatever stands before it on its line.
-/

namespace Enforcement

open Enforcement.Template Enforcement.Text

namespace Rego

/-- A version as a text gives it, with the text on both sides. -/
structure Mention where
  before : List Char
  spaces : List Char
  gap : List Char
  digits : List Char
  after : List Char

namespace Mention

def tail (mention : Mention) : List Char :=
  ['s', 'v', 'n'] ++ (mention.spaces ++ ([':', '='] ++ (mention.gap ++
    ('"' :: (mention.digits ++ '"' :: mention.after)))))

def version (mention : Mention) : String := String.ofList mention.digits

structure Valid (mention : Mention) : Prop where
  spaces : AllBlank mention.spaces
  gap : AllBlank mention.gap
  some : mention.digits ≠ []
  digits : ∀ c ∈ mention.digits, isDecimalDigit c = true

structure IsIn (mention : Mention) (text : List Char) : Prop where
  valid : mention.Valid
  split : text = mention.before ++ mention.tail

structure FirstIn (mention : Mention) (text : List Char) : Prop extends mention.IsIn text where
  first : ∀ other : Mention, other.IsIn text → mention.before.length ≤ other.before.length

def OpensLine (mention : Mention) : Prop :=
  AllBlank (mention.before.reverse.takeWhile (· != '\n'))

/-- A real declaration, not the tail of another name and not a part of a comment. -/
structure DeclaredIn (mention : Mention) (text : List Char) : Prop extends mention.IsIn text where
  opens : mention.OpensLine

def behind (mention : Mention) (before : List Char) : Mention := { mention with before }

theorem Valid.behind {mention : Mention} (valid : mention.Valid) (before : List Char) :
    (mention.behind before).Valid :=
  ⟨valid.spaces, valid.gap, valid.some, valid.digits⟩

theorem IsIn.cons {mention : Mention} {text : List Char} (here : mention.IsIn text) (c : Char) :
    (mention.behind (c :: mention.before)).IsIn (c :: text) :=
  ⟨here.valid.behind _, congrArg (c :: ·) here.split⟩

theorem tail_start (mention : Mention) : ∃ more, mention.tail = 's' :: more := ⟨_, rfl⟩

end Mention

theorem svnAt?_iff {text digits : List Char} :
    svnAt? text = some digits ↔
      ∃ mention : Mention, mention.Valid ∧ mention.digits = digits ∧ text = mention.tail := by
  constructor
  · intro read
    simp only [svnAt?, Option.bind_eq_bind, Option.bind_eq_some_iff] at read
    obtain ⟨afterName, name, afterSign, sign, afterQuote, quote, after, close, some⟩ := read
    have digitsSome : afterQuote.takeWhile isDecimalDigit ≠ [] := by
      intro none
      simp [none] at some
    have same : afterQuote.takeWhile isDecimalDigit = digits := by
      simpa [digitsSome] using some
    obtain ⟨spaces, blankSpaces, spacesSplit⟩ := trimStart_split afterName
    obtain ⟨gap, blankGap, gapSplit⟩ := trimStart_split afterSign
    refine ⟨⟨[], spaces, gap, digits, after⟩, ⟨blankSpaces, blankGap, ?_, ?_⟩, rfl, ?_⟩
    · rw [← same]
      exact digitsSome
    · rw [← same]
      exact List.all_eq_true.mp List.all_takeWhile
    · have digitsSplit : afterQuote = digits ++ '"' :: after := by
        rw [← List.singleton_append, ← after?_iff.mp close, ← same]
        exact List.takeWhile_append_dropWhile.symm
      calc
        text = ['s', 'v', 'n'] ++ (spaces ++ trimStart afterName) := by
          rw [← spacesSplit]
          exact after?_iff.mp name
        _ = ['s', 'v', 'n'] ++ (spaces ++ ([':', '='] ++ (gap ++ trimStart afterSign))) := by
          rw [after?_iff.mp sign, ← gapSplit]
        _ = _ := by
          rw [after?_iff.mp quote, digitsSplit]
          rfl
  · intro given
    obtain ⟨mention, valid, rfl, rfl⟩ := given
    -- Each run of characters ends at one that cannot belong to it, so it is read in full.
    have quoted : isDecimalDigit '"' = false := by decide
    have digits :
        (mention.digits ++ '"' :: mention.after).takeWhile isDecimalDigit = mention.digits ∧
        (mention.digits ++ '"' :: mention.after).dropWhile isDecimalDigit = '"' :: mention.after :=
      takeWhile_run valid.digits (by simp [quoted])
    have colon (rest : List Char) : trimStart (mention.spaces ++ ([':', '='] ++ rest)) =
        [':', '='] ++ rest := by
      rw [trimStart_blanks valid.spaces]
      exact trimStart_cons (by decide) _
    have quote (rest : List Char) : trimStart (mention.gap ++ '"' :: rest) = ['"'] ++ rest := by
      rw [trimStart_blanks valid.gap]
      exact trimStart_cons (by decide) _
    unfold svnAt? Mention.tail
    simp only [after?_append, Option.bind_eq_bind, Option.bind_some, colon, quote]
    rw [digits.1, digits.2]
    simp [after?, valid.some]

theorem Mention.IsIn.of_cons {mention : Mention} {c : Char} {rest : List Char}
    (there : mention.IsIn (c :: rest)) (none : svnAt? (c :: rest) = none) :
    ∃ before, mention.before = c :: before ∧ (mention.behind before).IsIn rest := by
  have split := there.split
  cases before : mention.before with
  | nil =>
      rw [before] at split
      rw [svnAt?_iff.mpr ⟨mention, there.valid, rfl, split⟩] at none
      cases none
  | cons d others =>
      rw [before] at split
      obtain ⟨rfl, later⟩ := List.cons.inj split
      exact ⟨others, rfl, there.valid.behind _, later⟩

theorem Mention.IsIn.none_nil {mention : Mention} : ¬ mention.IsIn [] := by
  intro here
  obtain ⟨more, start⟩ := mention.tail_start
  have empty := here.split
  simp [start] at empty

theorem findSvn?_here {text digits found : List Char} (here : svnAt? text = some found) :
    found = digits ↔ ∃ mention : Mention, mention.FirstIn text ∧ mention.digits = digits := by
  obtain ⟨mention, valid, same, tail⟩ := svnAt?_iff.mp here
  have start : (mention.behind []).IsIn text := ⟨valid.behind _, tail⟩
  constructor
  · intro equal
    exact ⟨mention.behind [], ⟨start, fun _ _ => Nat.zero_le _⟩, same.trans equal⟩
  · intro given
    obtain ⟨other, there, held⟩ := given
    have least := there.first _ start
    have none : other.before = [] := List.eq_nil_of_length_eq_zero (Nat.le_zero.mp least)
    have again : svnAt? text = some other.digits :=
      svnAt?_iff.mpr ⟨other, there.valid, rfl, by simpa [none] using there.split⟩
    rw [here, held] at again
    exact Option.some.inj again

theorem first_behind {c : Char} {rest digits : List Char} (none : svnAt? (c :: rest) = none) :
    (∃ mention : Mention, mention.FirstIn rest ∧ mention.digits = digits) ↔
      ∃ mention : Mention, mention.FirstIn (c :: rest) ∧ mention.digits = digits := by
  constructor
  · intro given
    obtain ⟨mention, there, same⟩ := given
    refine ⟨mention.behind (c :: mention.before), ⟨there.toIsIn.cons c, ?_⟩, same⟩
    intro other within
    obtain ⟨before, split, later⟩ := within.of_cons none
    rw [split]
    exact Nat.succ_le_succ (there.first _ later)
  · intro given
    obtain ⟨mention, there, same⟩ := given
    obtain ⟨before, split, later⟩ := there.toIsIn.of_cons none
    refine ⟨mention.behind before, ⟨later, ?_⟩, same⟩
    intro other within
    have earlier := there.first _ (within.cons c)
    rw [split] at earlier
    exact Nat.le_of_succ_le_succ earlier

theorem findSvn?_iff {text digits : List Char} :
    findSvn? text = some digits ↔
      ∃ mention : Mention, mention.FirstIn text ∧ mention.digits = digits := by
  induction text with
  | nil =>
      constructor
      · intro found
        cases found
      · intro given
        obtain ⟨mention, here, -⟩ := given
        exact absurd here.toIsIn Mention.IsIn.none_nil
  | cons c rest ih =>
      rw [findSvn?]
      cases here : svnAt? (c :: rest) with
      | some found =>
          rw [Option.some_or, Option.some.injEq]
          exact findSvn?_here here
      | none =>
          rw [Option.none_or, ih]
          exact first_behind here

theorem Mention.FirstIn.digits_eq {mention other : Mention} {text : List Char}
    (first : mention.FirstIn text) (first' : other.FirstIn text) :
    mention.digits = other.digits := by
  have found := findSvn?_iff.mpr ⟨mention, first, rfl⟩
  rw [findSvn?_iff.mpr ⟨other, first', rfl⟩] at found
  exact (Option.some.inj found).symm

def declarations (text : List Char) : List (List Char) :=
  (List.range text.length).filterMap fun place =>
    if ((text.take place).reverse.takeWhile (· != '\n')).all isBlank then svnAt? (text.drop place)
    else none

theorem mem_declarations {text digits : List Char} :
    digits ∈ declarations text ↔
      ∃ mention : Mention, mention.DeclaredIn text ∧ mention.digits = digits := by
  unfold declarations
  rw [List.mem_filterMap]
  constructor
  · intro given
    obtain ⟨place, -, read⟩ := given
    by_cases blank : ((text.take place).reverse.takeWhile (· != '\n')).all isBlank = true
    · rw [if_pos blank] at read
      obtain ⟨mention, valid, same, tail⟩ := svnAt?_iff.mp read
      refine ⟨mention.behind (text.take place),
        ⟨⟨valid.behind _, ?_⟩, List.all_eq_true.mp blank⟩, same⟩
      calc
        text = text.take place ++ text.drop place := (List.take_append_drop place text).symm
        _ = text.take place ++ mention.tail := by rw [tail]
    · rw [if_neg blank] at read
      cases read
  · intro given
    obtain ⟨mention, declared, rfl⟩ := given
    obtain ⟨more, start⟩ := mention.tail_start
    refine ⟨mention.before.length, ?_, ?_⟩
    · rw [List.mem_range, declared.split, List.length_append, start]
      simp
    · rw [declared.split, List.take_left, List.drop_left,
        if_pos (List.all_eq_true.mpr declared.opens)]
      exact svnAt?_iff.mpr ⟨mention, declared.valid, rfl, rfl⟩

theorem svnText?_iff {text version : String} :
    svnText? text = some version ↔
      ∃ mention : Mention, mention.FirstIn text.toList ∧ mention.version = version := by
  unfold svnText?
  constructor
  · intro found
    obtain ⟨digits, read, rfl⟩ := Option.map_eq_some_iff.mp found
    obtain ⟨mention, first, rfl⟩ := findSvn?_iff.mp read
    exact ⟨mention, first, rfl⟩
  · intro given
    obtain ⟨mention, first, rfl⟩ := given
    rw [findSvn?_iff.mpr ⟨mention, first, rfl⟩]
    rfl

end Rego

namespace VerifiedFragment

theorem ensureMinimum_ok_iff {fragment : VerifiedFragment} {minimum : String} {found : Nat} :
    fragment.ensureMinimum minimum = .ok found ↔
      ∃ least version, Svn.parse minimum = .ok least ∧
        Rego.svnText? fragment.payload = some version ∧ Svn.parse version = .ok found ∧
        least ≤ found := by
  unfold ensureMinimum
  cases Svn.parse minimum with
  | error failure => simp [bind, Except.bind]
  | ok least =>
      cases Rego.svnText? fragment.payload with
      | none => simp [bind, Except.bind, throw, throwThe, MonadExceptOf.throw]
      | some version =>
          dsimp only [bind, Except.bind]
          cases declared : Svn.parse version with
          | error failure => simp [declared]
          | ok value =>
              dsimp only
              by_cases low : value < least
              · rw [if_pos low]
                constructor
                · intro passed
                  cases passed
                · intro given
                  obtain ⟨_, _, sameLeast, sameVersion, read, enough⟩ := given
                  cases sameLeast
                  cases sameVersion
                  rw [declared] at read
                  cases read
                  omega
              · rw [if_neg low]
                constructor
                · intro passed
                  cases passed
                  exact ⟨least, version, rfl, rfl, declared, Nat.not_lt.mp low⟩
                · intro given
                  obtain ⟨_, _, -, sameVersion, read, -⟩ := given
                  cases sameVersion
                  rw [declared] at read
                  cases read
                  rfl

theorem ensureMinimum_ok_iff_first {fragment : VerifiedFragment} {minimum : String} {found : Nat} :
    fragment.ensureMinimum minimum = .ok found ↔
      ∃ least, ∃ mention : Rego.Mention, Svn.parse minimum = .ok least ∧
        mention.FirstIn fragment.payload.toList ∧ Svn.parse mention.version = .ok found ∧
        least ≤ found := by
  rw [ensureMinimum_ok_iff]
  constructor
  · intro passed
    obtain ⟨least, version, valid, text, read, enough⟩ := passed
    obtain ⟨mention, first, same⟩ := Rego.svnText?_iff.mp text
    subst same
    exact ⟨least, mention, valid, first, read, enough⟩
  · intro decided
    obtain ⟨least, mention, valid, first, read, enough⟩ := decided
    exact ⟨least, mention.version, valid, Rego.svnText?_iff.mpr ⟨mention, first, rfl⟩, read, enough⟩

/--
The first mention of a version decides the gate. So a version that the payload does not declare gets
through exactly when no declaration gives the one of the first mention, and every decision rests on
a declaration exactly when the first mention is one, unless its digits are no version at all.
-/
theorem ensureMinimum_of_first_mention (fragment : VerifiedFragment) :
    (∀ minimum found, fragment.ensureMinimum minimum = .ok found ↔
      ∃ least, ∃ mention : Rego.Mention, Svn.parse minimum = .ok least ∧
        mention.FirstIn fragment.payload.toList ∧ Svn.parse mention.version = .ok found ∧
        least ≤ found) ∧
    ((∀ minimum found, fragment.ensureMinimum minimum = .ok found →
        ∃ declaration : Rego.Mention, declaration.DeclaredIn fragment.payload.toList ∧
          Svn.parse declaration.version = .ok found) ↔
      ∀ (mention : Rego.Mention) (found : Nat), mention.FirstIn fragment.payload.toList →
        Svn.parse mention.version = .ok found →
        ∃ declaration : Rego.Mention, declaration.DeclaredIn fragment.payload.toList ∧
          Svn.parse declaration.version = .ok found) ∧
    ((∀ minimum found, fragment.ensureMinimum minimum = .ok found →
        ∀ mention : Rego.Mention, mention.FirstIn fragment.payload.toList → mention.OpensLine) ↔
      ∀ (mention : Rego.Mention) (found : Nat), mention.FirstIn fragment.payload.toList →
        Svn.parse mention.version = .ok found → mention.OpensLine) := by
  have passes {mention : Rego.Mention} {found : Nat}
      (first : mention.FirstIn fragment.payload.toList)
      (read : Svn.parse mention.version = .ok found) : fragment.ensureMinimum "0" = .ok found :=
    ensureMinimum_ok_iff_first.mpr ⟨0, mention, rfl, first, read, Nat.zero_le found⟩
  refine ⟨fun minimum found => ensureMinimum_ok_iff_first, ⟨?_, ?_⟩, ⟨?_, ?_⟩⟩
  · intro trusts mention found first read
    exact trusts "0" found (passes first read)
  · intro condition minimum found passed
    obtain ⟨least, mention, -, first, read, -⟩ := ensureMinimum_ok_iff_first.mp passed
    exact condition mention found first read
  · intro trusts mention found first read
    exact trusts "0" found (passes first read) mention first
  · intro condition minimum found passed mention first
    obtain ⟨least, other, -, other', read, -⟩ := ensureMinimum_ok_iff_first.mp passed
    refine condition mention found first ?_
    unfold Rego.Mention.version
    rw [first.digits_eq other']
    exact read

def renumbered : VerifiedFragment :=
  ⟨"did:x509:0:sha256:abc::subject:CN:Contoso", "contoso.azurecr.io/infra",
    "package infra\nold_svn := \"9\"\nsvn := \"1\"\n"⟩

theorem ensureMinimum_renumbered : renumbered.ensureMinimum "5" = .ok 9 ∧
    ¬ ∃ declaration : Rego.Mention, declaration.DeclaredIn renumbered.payload.toList ∧
      Svn.parse declaration.version = .ok 9 := by
  constructor
  · have text : Rego.svnText? renumbered.payload = some "9" := by decide +kernel
    exact ensureMinimum_ok_iff.mpr ⟨5, "9", rfl, text, rfl, by decide⟩
  · intro given
    obtain ⟨declaration, declared, read⟩ := given
    have only : Rego.declarations renumbered.payload.toList = [['1']] := by decide +kernel
    have one := Rego.mem_declarations.mpr ⟨declaration, declared, rfl⟩
    rw [only, List.mem_singleton] at one
    unfold Rego.Mention.version at read
    rw [one] at read
    cases read

end VerifiedFragment

end Enforcement
