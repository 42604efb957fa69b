import Enforcement.Proofs.Template.Reference
import Enforcement.Trust.VerifierOutput

/-!
The report of the verifier read back. The first claim of each kind in the header counts, and
nothing behind the payload marker is looked at, so the payload comes out as it went in.
-/

namespace Enforcement.VerifierOutput

open Enforcement.Template Enforcement.Text

/-- A text that fits on one line, with no white space around it. -/
structure Bare (text : List Char) : Prop where
  single : '\n' ∉ text
  trimmed : trim text = text

/-- A text that fits on one line, and no payload begins on it. -/
structure Quiet (text : List Char) : Prop where
  single : '\n' ∉ text
  foreign : after? payloadMarker (trimStart text) = none

def report (issuer feed : String) (further : List String) (payload : String) : String :=
  "iss: " ++ issuer ++ "\nfeed: " ++ feed ++ "\n" ++ String.join (further.map (· ++ "\n")) ++
    "payload:\n" ++ payload

/-! What can be seen of a line. -/

theorem visible_split (line : List Char) : ∃ ends, line = visible line ++ ends := by
  refine ⟨(line.reverse.takeWhile isLineEnd).reverse, ?_⟩
  rw [visible, ← List.reverse_append, List.takeWhile_append_dropWhile, List.reverse_reverse]

theorem visible_line (text : List Char) : visible (text ++ ['\n']) = visible text := by
  have ended : isLineEnd '\n' = true := rfl
  rw [visible, List.reverse_append, List.reverse_singleton, List.singleton_append,
    List.dropWhile_cons_of_pos ended]
  rfl

theorem visible_eq_self {text : List Char} (last : ∀ c ∈ text.getLast?, isLineEnd c = false) :
    visible text = text := by
  rw [← List.head?_reverse] at last
  rw [visible]
  cases reversed : text.reverse with
  | nil => rw [List.reverse_eq_nil_iff.mp reversed]; rfl
  | cons c rest =>
      rw [reversed] at last
      rw [List.dropWhile_cons_of_neg (by simp [last c rfl]), ← reversed, List.reverse_reverse]

theorem Bare.last_visible {text : List Char} (bare : Bare text) :
    ∀ c ∈ text.getLast?, isBlank c = false := by
  intro c last
  rw [← bare.trimmed, trim, trimEnd, List.getLast?_reverse] at last
  have stop := List.head?_dropWhile_not isBlank (trimStart text).reverse
  rw [last] at stop
  simpa using stop

theorem not_isLineEnd {c : Char} (visible : isBlank c = false) : isLineEnd c = false := by
  cases ends : isLineEnd c with
  | false => rfl
  | true =>
      have cases : c = '\n' ∨ c = '\r' := by simpa [isLineEnd] using ends
      rcases cases with rfl | rfl
      · cases visible
      · cases visible

section Claim

variable {letter : Char} {letters text : List Char}

theorem visible_append (last : isLineEnd ((letter :: letters).getLast nofun) = false)
    (front text : List Char) :
    visible (front ++ (letter :: letters) ++ text) =
      front ++ (letter :: letters) ++ visible text := by
  have ends : (front ++ (letter :: letters)).reverse.dropWhile isLineEnd =
      (front ++ (letter :: letters)).reverse := by
    obtain ⟨start, split⟩ : ∃ start, letter :: letters =
        start ++ [(letter :: letters).getLast nofun] :=
      ⟨_, (List.dropLast_concat_getLast _).symm⟩
    rw [split, ← List.append_assoc, List.reverse_append, List.reverse_singleton,
      List.singleton_append, List.dropWhile_cons_of_neg (by simp [last])]
  rw [visible, List.reverse_append, List.dropWhile_append]
  split
  · rename_i none
    rw [ends, List.reverse_reverse, visible, List.isEmpty_iff.mp none, List.reverse_nil,
      List.append_nil]
  · rw [List.reverse_append, List.reverse_reverse, visible]

theorem after?_visible (first : isBlank letter = false)
    (last : isLineEnd ((letter :: letters).getLast nofun) = false) (text : List Char) :
    after? (letter :: letters) (trimStart (visible text)) =
      (after? (letter :: letters) (trimStart text)).map visible := by
  cases found : after? (letter :: letters) (trimStart text) with
  | some rest =>
      obtain ⟨blanks, blank, start⟩ := trimStart_split text
      rw [after?_iff.mp found, ← List.append_assoc] at start
      rw [start, visible_append last, List.append_assoc, trimStart_blanks blank, List.cons_append,
        trimStart_cons first, ← List.cons_append, after?_append]
      rfl
  | none =>
      cases seen : after? (letter :: letters) (trimStart (visible text)) with
      | none => rfl
      | some rest =>
          obtain ⟨ends, split⟩ := visible_split text
          obtain ⟨blanks, blank, start⟩ := trimStart_split (visible text)
          rw [after?_iff.mp seen] at start
          have same : trimStart text = letter :: letters ++ (rest ++ ends) := by
            rw [split, start, List.append_assoc, List.append_assoc, trimStart_blanks blank]
            exact trimStart_cons first _
          rw [same, after?_append] at found
          cases found

theorem claim_visible (first : isBlank letter = false)
    (last : isLineEnd ((letter :: letters).getLast nofun) = false) (bare : Bare text) :
    trimStart (visible (letter :: letters ++ text ++ ['\n'])) = letter :: letters ++ text := by
  have whole : visible (letter :: letters ++ text) = letter :: letters ++ text := by
    apply visible_eq_self
    rw [List.getLast?_append]
    intro c found
    cases ends : text.getLast? with
    | none =>
        have found : (letter :: letters).getLast? = some c := by rwa [ends] at found
        rw [List.getLast?_eq_some_getLast (List.cons_ne_nil letter letters)] at found
        cases found
        exact last
    | some final =>
        rw [ends] at found
        cases found
        exact not_isLineEnd (bare.last_visible _ ends)
  rw [visible_line, whole, List.cons_append, trimStart_cons first]

theorem claim?_own (first : isBlank letter = false)
    (last : isLineEnd ((letter :: letters).getLast nofun) = false) (bare : Bare text) :
    claim? (letter :: letters) (letter :: letters ++ text ++ ['\n']) = some text := by
  rw [claim?, claim_visible first last bare, after?_append, Option.map_some, bare.trimmed]

theorem claim?_other {other : Char} {others : List Char} (first : isBlank letter = false)
    (last : isLineEnd ((letter :: letters).getLast nofun) = false) (bare : Bare text)
    (different : other ≠ letter) :
    claim? (other :: others) (letter :: letters ++ text ++ ['\n']) = none := by
  rw [claim?, claim_visible first last bare, List.cons_append, after?, if_neg different]
  rfl

end Claim

theorem Quiet.foreign_line {text : List Char} (quiet : Quiet text) :
    after? payloadMarker (trimStart (visible (text ++ ['\n']))) = none := by
  have marker := @after?_visible 'p' "ayload:".toList (by decide) (by decide) text
  change after? payloadMarker _ = (after? payloadMarker _).map visible at marker
  rw [visible_line, marker, quiet.foreign]
  rfl

/-! The header and what follows it. -/

theorem scan_header {header rest : List (List Char)} {issuer feed : Option (List Char)}
    (quiet : ∀ line ∈ header, after? payloadMarker (trimStart (visible line)) = none) :
    scan issuer feed (header ++ rest) =
      scan (issuer.or (header.findSome? (claim? issuerMarker)))
        (feed.or (header.findSome? (claim? feedMarker))) rest := by
  induction header generalizing issuer feed with
  | nil => simp
  | cons line header ih =>
      simp only [List.mem_cons, forall_eq_or_imp] at quiet
      have first (marker : List Char) :
          (claim? marker line).or (header.findSome? (claim? marker)) =
            (line :: header).findSome? (claim? marker) := by
        rw [List.findSome?_cons]
        cases claim? marker line with
        | none => rfl
        | some text => rfl
      have none : payload? line (header ++ rest) = none := by rw [payload?, quiet.1]; rfl
      rw [List.cons_append, scan, none]
      dsimp only
      rw [ih quiet.2, Option.or_assoc, Option.or_assoc]
      rw [first, first]

theorem scan_payload (issuer feed : Option (List Char)) (payload : List Char) :
    scan issuer feed (fullLines ("payload:\n".toList ++ payload)) =
      ⟨issuer, feed, some payload⟩ := by
  have line : fullLines ("payload:\n".toList ++ payload) =
      "payload:\n".toList :: fullLines payload := @fullLines_line payloadMarker (by decide) payload
  have begins : payload? "payload:\n".toList (fullLines payload) =
      some (fullLines payload).flatten := rfl
  rw [line, scan, begins, fullLines_flatten]

theorem report_toList (issuer feed : String) (further : List String) (payload : String) :
    (report issuer feed further payload).toList =
      ((issuerMarker ++ issuer.toList) :: (feedMarker ++ feed.toList) ::
        further.map String.toList).flatMap (· ++ ['\n']) ++
          ("payload:\n".toList ++ payload.toList) := by
  have feedLine : "\nfeed: ".toList = '\n' :: feedMarker := rfl
  have lineFeed : "\n".toList = ['\n'] := rfl
  have issuerLine : "iss: ".toList = issuerMarker := rfl
  simp only [report, String.toList_append, String.toList_join, List.flatMap_map, List.flatMap_cons,
    List.append_assoc, List.cons_append, List.nil_append, feedLine, lineFeed, issuerLine]

theorem parse_report {issuer feed : String} {further : List String} (payload : String)
    (issuerLine : Bare issuer.toList) (feedLine : Bare feed.toList)
    (others : ∀ line ∈ further, Quiet line.toList) :
    parse (report issuer feed further payload) = .ok ⟨issuer, feed, payload⟩ := by
  have issuerQuiet : Quiet (issuerMarker ++ issuer.toList) :=
    ⟨List.not_mem_append (by decide) issuerLine.single, rfl⟩
  have feedQuiet : Quiet (feedMarker ++ feed.toList) :=
    ⟨List.not_mem_append (by decide) feedLine.single, rfl⟩
  have quiet : ∀ text ∈ (issuerMarker ++ issuer.toList) :: (feedMarker ++ feed.toList) ::
      further.map String.toList, Quiet text := by
    simpa [issuerQuiet, feedQuiet] using others
  have issuerClaim : claim? issuerMarker (issuerMarker ++ issuer.toList ++ ['\n']) =
      some issuer.toList := claim?_own (by decide) (by decide) issuerLine
  have noFeed : claim? feedMarker (issuerMarker ++ issuer.toList ++ ['\n']) = none :=
    claim?_other (by decide) (by decide) issuerLine (by decide)
  have feedClaim : claim? feedMarker (feedMarker ++ feed.toList ++ ['\n']) = some feed.toList :=
    claim?_own (by decide) (by decide) feedLine
  have findings : scan none none (fullLines (report issuer feed further payload).toList) =
      ⟨some issuer.toList, some feed.toList, some payload.toList⟩ := by
    rw [report_toList, fullLines_flatMap fun text member => (quiet text member).single,
      scan_header, scan_payload]
    · simp only [List.map_cons, List.findSome?_cons, issuerClaim, noFeed, feedClaim, Option.none_or]
    · intro line member
      obtain ⟨text, stands, rfl⟩ := List.mem_map.mp member
      exact (quiet text stands).foreign_line
  rw [parse, findings]
  simp only [String.ofList_toList]

end Enforcement.VerifierOutput
