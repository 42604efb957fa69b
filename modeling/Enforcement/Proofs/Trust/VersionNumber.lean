import Mathlib.Data.Nat.Digits.Defs
import Enforcement.Proofs.Trust.VersionGate

/-!
Versions as numbers. The gate compares what two texts of digits denote, whatever their length and
however many zeros they begin with; what it reports otherwise is the first thing that is amiss.
-/

namespace Enforcement

namespace Svn

/-- ASCII digits denote a number, of whatever size. -/
structure Denotes (text : String) (value : Nat) : Prop where
  filled : text ≠ ""
  digits : ∀ c ∈ text.toList, c.isDigit = true
  denoted : Nat.ofDigits 10 (text.toList.reverse.map fun c => c.toNat - '0'.toNat) = value

/-- A version is a number of 64 bits. -/
structure Reads (text : String) (value : Nat) : Prop extends Denotes text value where
  bounded : value < 2 ^ 64

theorem digitsValue_eq_ofDigits (digits : List Char) : digitsValue digits =
    Nat.ofDigits 10 (digits.reverse.map fun c => c.toNat - '0'.toNat) := by
  rw [Nat.ofDigits_eq_foldr, List.foldr_map, List.foldr_reverse]
  refine congrArg (List.foldl · 0 digits) (funext fun before => funext fun c => ?_)
  change before * 10 + (c.toNat - 48) = (c.toNat - 48) + 10 * before
  omega

theorem parse?_eq_some_iff {text : String} {value : Nat} :
    parse? text = some value ↔ Reads text value := by
  unfold parse? limit
  dsimp only
  rw [digitsValue_eq_ofDigits]
  split_ifs with refused small
  · refine ⟨nofun, fun reads => ?_⟩
    rw [List.all_eq_true.mpr reads.digits] at refused
    simp [reads.filled] at refused
  · have kept : text ≠ "" ∧ ∀ c ∈ text.toList, c.isDigit = true := by simpa using refused
    constructor
    · intro read
      cases read
      exact ⟨⟨kept.1, kept.2, rfl⟩, small⟩
    · intro reads
      rw [reads.denoted]
  · refine ⟨nofun, fun reads => ?_⟩
    rw [reads.denoted] at small
    exact absurd reads.bounded small

theorem parse_ok_iff {text : String} {value : Nat} :
    parse text = .ok value ↔ Reads text value := by
  rw [← parse?_eq_some_iff]
  unfold parse
  cases parse? text with
  | none => exact iff_of_false nofun nofun
  | some found => rw [Except.ok.injEq, Option.some.injEq]

theorem parse_unread {text : String} (unread : ¬ ∃ value, Reads text value) :
    parse text = .error (.trust (.versionInvalid text)) := by
  have none : parse? text = none := by
    refine Option.eq_none_iff_forall_ne_some.mpr fun value read => ?_
    exact unread ⟨value, parse?_eq_some_iff.mp read⟩
  rw [parse, none]

theorem Denotes.unique {text : String} {value other : Nat} (denotes : Denotes text value)
    (denotes' : Denotes text other) : value = other := denotes.denoted.symm.trans denotes'.denoted

end Svn

namespace Rego

theorem findSvn?_eq_none_iff {text : List Char} :
    findSvn? text = none ↔ ¬ ∃ mention : Mention, mention.IsIn text := by
  constructor
  · intro none given
    obtain ⟨mention, within⟩ := given
    induction text generalizing mention with
    | nil => exact within.none_nil
    | cons c rest ih =>
        rw [findSvn?, Option.or_eq_none_iff] at none
        obtain ⟨before, -, later⟩ := within.of_cons none.1
        exact ih none.2 _ later
  · intro unmentioned
    refine Option.eq_none_iff_forall_ne_some.mpr fun digits found => ?_
    obtain ⟨mention, first, -⟩ := findSvn?_iff.mp found
    exact unmentioned ⟨mention, first.toIsIn⟩

theorem svnText?_eq_none_iff {text : String} :
    svnText? text = none ↔ ¬ ∃ mention : Mention, mention.IsIn text.toList := by
  rw [svnText?, Option.map_eq_none_iff, findSvn?_eq_none_iff]

namespace Mention

/-- The digits are of another script, or denote a number that is too great. -/
def Unreadable (mention : Mention) : Prop :=
  (∃ c ∈ mention.digits, c.isDigit = false) ∨
    ∃ value, Svn.Denotes mention.version value ∧ 2 ^ 64 ≤ value

theorem Valid.unreadable_iff {mention : Mention} (valid : mention.Valid) :
    mention.Unreadable ↔ ¬ ∃ value, Svn.Reads mention.version value := by
  constructor
  · rintro (⟨c, member, foreign⟩ | ⟨value, denotes, great⟩) ⟨found, reads⟩
    · have ascii := reads.digits c (by simpa [version] using member)
      rw [foreign] at ascii
      cases ascii
    · have small := reads.bounded
      rw [← denotes.unique reads.toDenotes] at small
      exact absurd great (Nat.not_le.mpr small)
  · intro unread
    by_cases ascii : ∀ c ∈ mention.digits, c.isDigit = true
    · have denotes : Svn.Denotes mention.version _ :=
        ⟨by simpa [version] using valid.some, by simpa [version] using ascii, rfl⟩
      exact .inr ⟨_, denotes, Nat.not_lt.mp fun small => unread ⟨_, denotes, small⟩⟩
    · obtain ⟨c, member, foreign⟩ : ∃ c ∈ mention.digits, c.isDigit = false := by simpa using ascii
      exact .inl ⟨c, member, foreign⟩

end Mention

end Rego

namespace VerifiedFragment

/-- What the gate says of a fragment when it is asked for some minimum. -/
inductive Judged (fragment : VerifiedFragment) (minimum : String) : Except Error Nat → Prop
  | minimumInvalid (unread : ¬ ∃ least, Svn.Reads minimum least) :
      Judged fragment minimum (.error (.trust (.versionInvalid minimum)))
  | missing {least : Nat} (asked : Svn.Reads minimum least)
      (unmentioned : ¬ ∃ mention : Rego.Mention, mention.IsIn fragment.payload.toList) :
      Judged fragment minimum (.error (.trust (.versionMissing fragment.feed)))
  | invalid {least : Nat} {mention : Rego.Mention} (asked : Svn.Reads minimum least)
      (first : mention.FirstIn fragment.payload.toList) (unreadable : mention.Unreadable) :
      Judged fragment minimum (.error (.trust (.versionInvalid mention.version)))
  | below {least found : Nat} {mention : Rego.Mention} (asked : Svn.Reads minimum least)
      (first : mention.FirstIn fragment.payload.toList) (reads : Svn.Reads mention.version found)
      (less : found < least) :
      Judged fragment minimum (.error (.trust (.belowMinimum fragment.feed found least)))
  | accepted {least found : Nat} {mention : Rego.Mention} (asked : Svn.Reads minimum least)
      (first : mention.FirstIn fragment.payload.toList) (reads : Svn.Reads mention.version found)
      (enough : least ≤ found) : Judged fragment minimum (.ok found)

theorem judged_ensureMinimum (fragment : VerifiedFragment) (minimum : String) :
    fragment.Judged minimum (fragment.ensureMinimum minimum) := by
  unfold ensureMinimum
  by_cases asked : ∃ least, Svn.Reads minimum least
  · obtain ⟨least, asked⟩ := asked
    rw [Svn.parse_ok_iff.mpr asked]
    cases text : Rego.svnText? fragment.payload with
    | none => exact .missing asked (Rego.svnText?_eq_none_iff.mp text)
    | some version =>
        obtain ⟨mention, first, rfl⟩ := Rego.svnText?_iff.mp text
        by_cases readable : ∃ found, Svn.Reads mention.version found
        · obtain ⟨found, reads⟩ := readable
          dsimp only [bind, Except.bind]
          rw [Svn.parse_ok_iff.mpr reads]
          dsimp only
          by_cases less : found < least
          · rw [if_pos less]
            exact .below asked first reads less
          · rw [if_neg less]
            exact .accepted asked first reads (Nat.not_lt.mp less)
        · dsimp only [bind, Except.bind]
          rw [Svn.parse_unread readable]
          exact .invalid asked first (first.valid.unreadable_iff.mpr readable)
  · rw [Svn.parse_unread asked]
    exact .minimumInvalid asked

theorem Judged.eq {fragment : VerifiedFragment} {minimum : String} {result : Except Error Nat}
    (judged : fragment.Judged minimum result) : fragment.ensureMinimum minimum = result := by
  unfold ensureMinimum
  cases judged with
  | minimumInvalid unread =>
      rw [Svn.parse_unread unread]
      rfl
  | missing asked unmentioned =>
      rw [Svn.parse_ok_iff.mpr asked, Rego.svnText?_eq_none_iff.mpr unmentioned]
      rfl
  | @invalid least mention asked first unreadable =>
      rw [Svn.parse_ok_iff.mpr asked, Rego.svnText?_iff.mpr ⟨mention, first, rfl⟩]
      dsimp only [bind, Except.bind]
      rw [Svn.parse_unread (first.valid.unreadable_iff.mp unreadable)]
  | @below least found mention asked first reads less =>
      rw [Svn.parse_ok_iff.mpr asked, Rego.svnText?_iff.mpr ⟨mention, first, rfl⟩]
      dsimp only [bind, Except.bind]
      rw [Svn.parse_ok_iff.mpr reads]
      exact if_pos less
  | accepted asked first reads enough =>
      exact ensureMinimum_ok_iff_first.mpr
        ⟨_, _, Svn.parse_ok_iff.mpr asked, first, Svn.parse_ok_iff.mpr reads, enough⟩

theorem ensureMinimum_lower {fragment : VerifiedFragment} {minimum lower : String}
    {least less found : Nat} (asked : Svn.Reads minimum least) (asked' : Svn.Reads lower less)
    (lowers : less ≤ least) (passed : fragment.ensureMinimum minimum = .ok found) :
    fragment.ensureMinimum lower = .ok found := by
  obtain ⟨other, mention, read, first, reads, enough⟩ := ensureMinimum_ok_iff_first.mp passed
  have same := asked.toDenotes.unique (Svn.parse_ok_iff.mp read).toDenotes
  exact ensureMinimum_ok_iff_first.mpr
    ⟨less, mention, Svn.parse_ok_iff.mpr asked', first, reads, lowers.trans (same ▸ enough)⟩

theorem ensureMinimum_zero {fragment : VerifiedFragment} {found : Nat} :
    fragment.ensureMinimum "0" = .ok found ↔ Rego.svn? fragment.payload = some found := by
  rw [ensureMinimum_ok_iff, Rego.svn?, Option.bind_eq_some_iff]
  constructor
  · rintro ⟨least, version, -, text, reads, -⟩
    exact ⟨version, text, Svn.parse?_eq_some_iff.mpr (Svn.parse_ok_iff.mp reads)⟩
  · rintro ⟨version, text, reads⟩
    exact ⟨0, version, rfl, text, Svn.parse_ok_iff.mpr (Svn.parse?_eq_some_iff.mp reads),
      Nat.zero_le found⟩

/--
The gate's answer is the one of its five that fits the numbers; with a lower minimum an accepted
version is accepted all the same, and with none it is the version that is read from the payload.
-/
theorem ensureMinimum_numeric (fragment : VerifiedFragment) :
    (∀ minimum result,
      fragment.ensureMinimum minimum = result ↔ fragment.Judged minimum result) ∧
    (∀ minimum lower least less found, Svn.Reads minimum least → Svn.Reads lower less →
      less ≤ least → fragment.ensureMinimum minimum = .ok found →
        fragment.ensureMinimum lower = .ok found) ∧
    ∀ found, fragment.ensureMinimum "0" = .ok found ↔
      Rego.svn? fragment.payload = some found := by
  refine ⟨fun minimum result => ⟨?_, Judged.eq⟩, ?_, fun found => ensureMinimum_zero⟩
  · rintro rfl
    exact fragment.judged_ensureMinimum minimum
  · intro minimum lower least less found asked asked' lowers passed
    exact ensureMinimum_lower asked asked' lowers passed

def padded : VerifiedFragment :=
  ⟨"did:x509:0:sha256:abc::subject:CN:Contoso", "contoso.azurecr.io/infra",
    "package infra\nsvn := \"00018446744073709551615\"\n"⟩

/-- As texts the padded version would come before the minimum, and the lower minimum behind it. -/
theorem ensureMinimum_padded :
    padded.ensureMinimum "18446744073709551615" = .ok 18446744073709551615 ∧
    padded.ensureMinimum "9" = .ok 18446744073709551615 ∧
    padded.ensureMinimum "18446744073709551616" =
      .error (.trust (.versionInvalid "18446744073709551616")) ∧
    Rego.svn? padded.payload = some 18446744073709551615 := by
  obtain ⟨judged, closed, zero⟩ := padded.ensureMinimum_numeric
  have greatest : Svn.Reads "18446744073709551615" 18446744073709551615 :=
    Svn.parse?_eq_some_iff.mp (by decide +kernel)
  have nine : Svn.Reads "9" 9 := Svn.parse?_eq_some_iff.mp (by decide +kernel)
  have passed : padded.ensureMinimum "18446744073709551615" = .ok 18446744073709551615 := by
    decide +kernel
  have beyond : ¬ ∃ least, Svn.Reads "18446744073709551616" least := by
    rintro ⟨least, reads⟩
    have read := Svn.parse?_eq_some_iff.mpr reads
    rw [show Svn.parse? "18446744073709551616" = none by decide +kernel] at read
    cases read
  exact ⟨passed, closed _ "9" _ 9 _ greatest nine (by decide) passed,
    (judged _ _).mpr (.minimumInvalid beyond),
    (zero _).mp (closed _ "0" _ 0 _ greatest (Svn.parse?_eq_some_iff.mp rfl) (by decide) passed)⟩

end VerifiedFragment

end Enforcement
