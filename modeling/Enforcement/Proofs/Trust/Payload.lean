import Mathlib.Data.List.TakeWhile
import Enforcement.Proofs.Trust.VerifierOutput

/-!
What the verifier prints, whatever it prints: a header of lines on which no payload begins, then
the payload, on the line of its marker or on the lines after it. The payload comes out letter for
letter and has no say in the claims.
-/

namespace Enforcement.Text

theorem trimStart_allBlank {blanks : List Char} (all : ∀ c ∈ blanks, isBlank c = true) :
    trimStart blanks = [] := List.dropWhile_eq_nil_iff.mpr all

theorem trim_blanks (text : List Char) {blanks : List Char}
    (all : ∀ c ∈ blanks, isBlank c = true) : trim (text ++ blanks) = trim text := by
  have backwards : blanks.reverse.dropWhile isBlank = [] :=
    List.dropWhile_eq_nil_iff.mpr fun c member => all c (List.mem_reverse.mp member)
  have start : trimStart (text ++ blanks) =
      if (trimStart text).isEmpty then trimStart blanks else trimStart text ++ blanks :=
    List.dropWhile_append
  rw [trim, start, trim]
  split
  · rename_i none
    rw [trimStart_allBlank all, List.isEmpty_iff.mp none]
  · rw [trimEnd, List.reverse_append, List.dropWhile_append, backwards]
    rfl

theorem trim_isEmpty (text : List Char) : (trim text).isEmpty = text.all isBlank := by
  rw [Bool.eq_iff_iff, List.isEmpty_iff, List.all_eq_true]
  constructor
  · intro empty
    rw [trim, trimEnd, List.reverse_eq_nil_iff, List.dropWhile_eq_nil_iff] at empty
    apply List.dropWhile_eq_nil_iff.mp
    by_contra some
    have stop : isBlank ((text.dropWhile isBlank).head some) = false :=
      List.head_dropWhile_not isBlank some
    rw [empty _ (List.mem_reverse.mpr (List.head_mem some))] at stop
    cases stop
  · intro all
    rw [trim, trimStart_allBlank all]
    rfl

end Enforcement.Text

namespace Enforcement.VerifierOutput

open Enforcement.Template Enforcement.Text

def headerText (header : List String) : String := String.join (header.map (· ++ "\n"))

/-- What follows a marker on the first line that has it first, white space aside. -/
def said? (marker : List Char) (header : List String) : Option String :=
  header.findSome? fun line => (after? marker (trimStart line.toList)).map String.ofList

/-- On the first line of the text the payload begins. -/
def Begins (text : List Char) : Prop :=
  ∃ indent rest, AllBlank indent ∧ '\n' ∉ indent ∧ text = indent ++ payloadMarker ++ rest

def firstMissing (issuer feed : Option String) : Marker :=
  if issuer.isNone then .issuer else if feed.isNone then .feed else .payload

/-! Lines and what can be seen of them. -/

theorem trim_visible (text : List Char) : trim (visible text) = trim text := by
  have ends : ∀ c ∈ text.reverse.takeWhile isLineEnd, isBlank c = true := by
    intro c member
    have ends : isLineEnd c = true := List.mem_takeWhile_imp member
    cases blank : isBlank c with
    | true => rfl
    | false =>
        rw [not_isLineEnd blank] at ends
        cases ends
  have split : text = visible text ++ (text.reverse.takeWhile isLineEnd).reverse := by
    rw [visible, ← List.reverse_append, List.takeWhile_append_dropWhile, List.reverse_reverse]
  have behind := trim_blanks (visible text) fun c member => ends c (List.mem_reverse.mp member)
  rw [← split] at behind
  exact behind.symm

theorem claim?_eq {letter : Char} {letters : List Char} (first : isBlank letter = false)
    (last : isLineEnd ((letter :: letters).getLast nofun) = false) (text : List Char) :
    claim? (letter :: letters) text = (after? (letter :: letters) (trimStart text)).map trim := by
  rw [claim?, after?_visible first last, Option.map_map]
  congr 1
  funext rest
  exact trim_visible rest

theorem claim?_lineFeed (marker text : List Char) :
    claim? marker (text ++ ['\n']) = claim? marker text := by
  rw [claim?, visible_line, claim?]

theorem findSome?_claim? {letter : Char} {letters : List Char} (first : isBlank letter = false)
    (last : isLineEnd ((letter :: letters).getLast nofun) = false) (header : List String) :
    header.findSome? (fun line => claim? (letter :: letters) line.toList) =
      (said? (letter :: letters) header).map fun text => trim text.toList := by
  induction header with
  | nil => rfl
  | cons line header ih =>
      rw [List.findSome?_cons, ih, claim?_eq first last, said?, said?, List.findSome?_cons]
      cases after? (letter :: letters) (trimStart line.toList) with
      | none => rfl
      | some text => simp

theorem claims_header (header : List String) :
    header.findSome? (fun line => claim? issuerMarker line.toList) =
        (said? issuerMarker header).map (fun text => trim text.toList) ∧
      header.findSome? (fun line => claim? feedMarker line.toList) =
        (said? feedMarker header).map (fun text => trim text.toList) :=
  ⟨@findSome?_claim? 'i' "ss: ".toList (by decide) (by decide) header,
    @findSome?_claim? 'f' "eed: ".toList (by decide) (by decide) header⟩

theorem headerText_toList (header : List String) :
    (headerText header).toList = (header.map String.toList).flatMap (· ++ ['\n']) := by
  have lineFeed : "\n".toList = ['\n'] := rfl
  simp only [headerText, String.toList_join, List.flatMap_map, String.toList_append, lineFeed]

theorem scan_headerText {header : List String} (quiet : ∀ line ∈ header, Quiet line.toList)
    (tail : List Char) :
    scan none none (fullLines ((headerText header).toList ++ tail)) =
      scan ((said? issuerMarker header).map fun text => trim text.toList)
        ((said? feedMarker header).map fun text => trim text.toList) (fullLines tail) := by
  have foreign : ∀ line ∈ header.map fun line => line.toList ++ ['\n'],
      after? payloadMarker (trimStart (visible line)) = none := by
    intro line member
    obtain ⟨text, stands, rfl⟩ := List.mem_map.mp member
    exact (quiet text stands).foreign_line
  have single : ∀ text ∈ header.map String.toList, '\n' ∉ text := by
    intro text member
    obtain ⟨line, stands, rfl⟩ := List.mem_map.mp member
    exact (quiet line stands).single
  have lineFeeds (marker : List Char) :
      (header.map fun line => line.toList ++ ['\n']).findSome? (claim? marker) =
        header.findSome? fun line => claim? marker line.toList := by
    simp only [List.findSome?_map, Function.comp_def, claim?_lineFeed]
  rw [headerText_toList, fullLines_flatMap single, List.map_map]
  change scan none none ((header.map fun line => line.toList ++ ['\n']) ++ fullLines tail) = _
  rw [scan_header foreign, Option.none_or, Option.none_or, lineFeeds, lineFeeds,
    (claims_header header).1, (claims_header header).2]

/-! Where the payload begins. -/

theorem fullLines_lead {lead : List Char} (single : '\n' ∉ lead) (some : lead ≠ [])
    (text : List Char) :
    ∃ ends more, fullLines (lead ++ text) =
        (lead ++ (text.takeWhile (· != '\n') ++ ends)) :: more ∧
      text.takeWhile (· != '\n') ++ ends ++ more.flatten = text := by
  have inner : '\n' ∉ lead ++ text.takeWhile (· != '\n') := by
    intro member
    rcases List.mem_append.mp member with member | member
    · exact single member
    · simpa using List.mem_takeWhile_imp member
  have whole : text.takeWhile (· != '\n') ++ text.dropWhile (· != '\n') = text :=
    List.takeWhile_append_dropWhile
  cases behind : text.dropWhile (· != '\n') with
  | nil =>
      rw [behind, List.append_nil] at whole
      rw [whole] at inner ⊢
      refine ⟨[], [], ?_, by simp⟩
      rw [List.append_nil]
      exact fullLines_single inner (List.append_ne_nil_of_left_ne_nil some text)
  | cons c rest =>
      have stop := List.head_dropWhile_not (· != '\n') (l := text) (by simp [behind])
      simp only [behind, List.head_cons, bne_eq_false_iff_eq] at stop
      subst stop
      rw [behind] at whole
      refine ⟨['\n'], fullLines rest, ?_, ?_⟩
      · have line := fullLines_line inner rest
        rw [List.append_assoc, whole] at line
        rw [line, List.append_assoc]
      · rw [fullLines_flatten, List.append_assoc]
        exact whole

theorem payload?_begins {indent : List Char} (blank : AllBlank indent) (text : List Char)
    (rest : List (List Char)) :
    payload? (indent ++ payloadMarker ++ text) rest =
      some (if text.all isBlank then rest.flatten
        else (after? [' '] text).getD text ++ rest.flatten) := by
  have seen : visible (indent ++ payloadMarker ++ text) = indent ++ payloadMarker ++ visible text :=
    @visible_append 'p' "ayload:".toList (by decide) indent text
  have start : trimStart (payloadMarker ++ visible text) = payloadMarker ++ visible text :=
    @trimStart_cons 'p' (by decide) ("ayload:".toList ++ visible text)
  obtain ⟨ends, split⟩ := visible_split text
  have behind : (indent ++ payloadMarker ++ text).drop
      (indent ++ payloadMarker ++ visible text).length = ends := by
    conv => lhs; arg 2; rw [split]
    rw [← List.append_assoc, List.drop_left]
  rw [payload?, seen, List.append_assoc, trimStart_blanks blank, start, after?_append,
    ← List.append_assoc, behind, Option.map_some, trim_visible, trim_isEmpty]
  congr 1
  split
  · rfl
  · rename_i some
    congr 1
    cases shown : visible text with
    | nil =>
        rw [← trim_isEmpty, ← trim_visible, shown] at some
        exact absurd rfl some
    | cons c letters =>
        rw [split, shown]
        by_cases space : ' ' = c
        · subst space
          rfl
        · simp only [List.cons_append, after?, if_neg space]
          rfl

theorem parse_found {header : List String} (quiet : ∀ line ∈ header, Quiet line.toList)
    {tail payload : String} {line : List Char} {more : List (List Char)}
    (lines : fullLines tail.toList = line :: more)
    (found : payload? line more = some payload.toList) :
    parse (headerText header ++ tail) =
      match said? issuerMarker header, said? feedMarker header with
      | some issuer, some feed => .ok ⟨trimmed issuer, trimmed feed, payload⟩
      | issuer, feed => .error (firstMissing issuer feed) := by
  rw [parse, String.toList_append, scan_headerText quiet, lines, scan, found]
  cases said? issuerMarker header with
  | none => rfl
  | some issuer =>
      cases said? feedMarker header with
      | none => rfl
      | some feed => simp [trimmed]

theorem parse_unfound {header : List String} (quiet : ∀ line ∈ header, Quiet line.toList)
    {last : String} (foreign : Quiet last.toList) :
    parse (headerText header ++ last) = .error (firstMissing (said? issuerMarker (header ++ [last]))
      (said? feedMarker (header ++ [last]))) := by
  have scanned : scan none none (fullLines (headerText header ++ last).toList) =
      ⟨(said? issuerMarker (header ++ [last])).map fun text => trim text.toList,
        (said? feedMarker (header ++ [last])).map fun text => trim text.toList, none⟩ := by
    have claims := claims_header (header ++ [last])
    rw [List.findSome?_append, List.findSome?_append, (claims_header header).1,
      (claims_header header).2] at claims
    rw [String.toList_append, scan_headerText quiet, ← claims.1, ← claims.2]
    by_cases some : last.toList = []
    · have issuer : claim? issuerMarker [] = none := rfl
      have feed : claim? feedMarker [] = none := rfl
      simp only [List.findSome?_cons, List.findSome?_nil, some, issuer, feed, Option.or_none]
      rfl
    · have marker := @after?_visible 'p' "ayload:".toList (by decide) (by decide) last.toList
      change after? payloadMarker _ = (after? payloadMarker _).map visible at marker
      rw [fullLines_single foreign.single some, scan, payload?, marker, foreign.foreign]
      simp [scan]
  rw [parse, scanned]
  cases said? issuerMarker (header ++ [last]) with
  | none => rfl
  | some issuer =>
      cases said? feedMarker (header ++ [last]) with
      | none => rfl
      | some feed => rfl

theorem found_of_begins {tail : List Char} (begins : Begins tail) :
    ∃ line more payload, fullLines tail = line :: more ∧ payload? line more = some payload := by
  obtain ⟨indent, rest, blank, single, rfl⟩ := begins
  have inner : '\n' ∉ indent ++ payloadMarker := List.not_mem_append single (by decide)
  obtain ⟨ends, more, lines, -⟩ := fullLines_lead inner
    (List.append_ne_nil_of_right_ne_nil indent (by decide)) rest
  exact ⟨_, more, _, lines, payload?_begins blank _ more⟩

theorem parse_begins {header : List String} (quiet : ∀ line ∈ header, Quiet line.toList)
    {tail : String} (begins : Begins tail.toList) :
    ∃ payload : String, parse (headerText header ++ tail) =
      match said? issuerMarker header, said? feedMarker header with
      | some issuer, some feed => .ok ⟨trimmed issuer, trimmed feed, payload⟩
      | issuer, feed => .error (firstMissing issuer feed) := by
  obtain ⟨line, more, payload, lines, found⟩ := found_of_begins begins
  rw [← String.toList_ofList (l := payload)] at found
  exact ⟨String.ofList payload, parse_found quiet lines found⟩

theorem parse_following {header : List String} (quiet : ∀ line ∈ header, Quiet line.toList)
    {issuer feed blanks : String} (issuerLine : said? issuerMarker header = some issuer)
    (feedLine : said? feedMarker header = some feed) (blank : AllBlank blanks.toList)
    (single : '\n' ∉ blanks.toList) (payload : String) :
    parse (headerText header ++ ("payload:" ++ blanks ++ "\n" ++ payload)) =
      .ok ⟨trimmed issuer, trimmed feed, payload⟩ := by
  have inner : '\n' ∉ payloadMarker ++ blanks.toList := List.not_mem_append (by decide) single
  have lines : fullLines ("payload:" ++ blanks ++ "\n" ++ payload).toList =
      (payloadMarker ++ (blanks.toList ++ ['\n'])) :: fullLines payload.toList := by
    have text : ("payload:" ++ blanks ++ "\n" ++ payload).toList =
        payloadMarker ++ blanks.toList ++ '\n' :: payload.toList := by
      simp only [String.toList_append, List.append_assoc]
      rfl
    rw [text, fullLines_line inner, List.append_assoc]
  have all : (blanks.toList ++ ['\n']).all isBlank = true := by
    rw [List.all_append, List.all_eq_true.mpr blank]
    rfl
  have found := @payload?_begins [] nofun (blanks.toList ++ ['\n']) (fullLines payload.toList)
  rw [if_pos all, fullLines_flatten] at found
  rw [parse_found quiet lines found, issuerLine, feedLine]

theorem parse_inline {header : List String} (quiet : ∀ line ∈ header, Quiet line.toList)
    {issuer feed payload : String} (issuerLine : said? issuerMarker header = some issuer)
    (feedLine : said? feedMarker header = some feed)
    (shown : ¬ AllBlank (payload.toList.takeWhile (· != '\n'))) :
    parse (headerText header ++ ("payload: " ++ payload)) =
      .ok ⟨trimmed issuer, trimmed feed, payload⟩ := by
  obtain ⟨ends, more, lines, whole⟩ :=
    @fullLines_lead "payload: ".toList (by decide) (by decide) payload.toList
  have some : ¬ (' ' :: (payload.toList.takeWhile (· != '\n') ++ ends)).all isBlank = true := by
    intro all
    refine shown fun c member => List.all_eq_true.mp all c ?_
    exact List.mem_cons_of_mem ' ' (List.mem_append_left ends member)
  have found := @payload?_begins [] nofun
    (' ' :: (payload.toList.takeWhile (· != '\n') ++ ends)) more
  rw [if_neg some] at found
  change payload? _ more =
    Option.some (payload.toList.takeWhile (· != '\n') ++ ends ++ more.flatten) at found
  rw [whole] at found
  rw [← String.toList_append] at lines
  rw [parse_found quiet lines found, issuerLine, feedLine]

def claims (fragment : VerifiedFragment) : String × String := (fragment.issuer, fragment.feed)

/--
The first issuer and the first feed of the header are returned, and the payload letter for letter
in either layout. Nothing in a payload has a say in the claims, and what is reported as missing is
the first thing that is.
-/
theorem parse_header {header : List String} (quiet : ∀ line ∈ header, Quiet line.toList) :
    (∀ issuer feed : String, said? issuerMarker header = some issuer →
      said? feedMarker header = some feed →
      (∀ blanks payload : String, AllBlank blanks.toList → '\n' ∉ blanks.toList →
        parse (headerText header ++ ("payload:" ++ blanks ++ "\n" ++ payload)) =
          .ok ⟨trimmed issuer, trimmed feed, payload⟩) ∧
      (∀ payload : String, ¬ AllBlank (payload.toList.takeWhile (· != '\n')) →
        parse (headerText header ++ ("payload: " ++ payload)) =
          .ok ⟨trimmed issuer, trimmed feed, payload⟩)) ∧
    (∀ tail other : String, Begins tail.toList → Begins other.toList →
      (parse (headerText header ++ tail)).map claims =
        (parse (headerText header ++ other)).map claims) ∧
    (∀ tail : String, Begins tail.toList →
      said? issuerMarker header = none ∨ said? feedMarker header = none →
      parse (headerText header ++ tail) =
        .error (firstMissing (said? issuerMarker header) (said? feedMarker header))) ∧
    (∀ last : String, Quiet last.toList →
      parse (headerText header ++ last) =
        .error (firstMissing (said? issuerMarker (header ++ [last]))
          (said? feedMarker (header ++ [last])))) := by
  refine ⟨?_, ?_, ?_, fun last foreign => parse_unfound quiet foreign⟩
  · intro issuer feed issuerLine feedLine
    constructor
    · intro blanks payload blank single
      exact parse_following quiet issuerLine feedLine blank single payload
    · intro payload shown
      exact parse_inline quiet issuerLine feedLine shown
  · intro tail other begins begins'
    obtain ⟨payload, parsed⟩ := parse_begins quiet begins
    obtain ⟨payload', parsed'⟩ := parse_begins quiet begins'
    rw [parsed, parsed']
    cases said? issuerMarker header with
    | none => rfl
    | some issuer =>
        cases said? feedMarker header with
        | none => rfl
        | some feed => rfl
  · intro tail begins missing
    obtain ⟨payload, parsed⟩ := parse_begins quiet begins
    rw [parsed]
    rcases missing with none | none
    · rw [none]
    · rw [none]
      cases said? issuerMarker header with
      | none => rfl
      | some issuer => rfl

theorem parse_disguised :
    parse "checking\niss: did:x509:abc\r\nfeed: contoso/infra\npayload: \r\niss: x\nfeed: y\n" =
        .ok ⟨"did:x509:abc", "contoso/infra", "iss: x\nfeed: y\n"⟩ ∧
      parse "checking\niss: did:x509:abc\r\nfeed: contoso/infra\npayload: feed: y\npayload:\n" =
        .ok ⟨"did:x509:abc", "contoso/infra", "feed: y\npayload:\n"⟩ ∧
      parse "checking\niss: did:x509:abc\r\nfeed: contoso/infra\n" = .error .payload := by
  have quiet : ∀ line ∈ ["checking", "iss: did:x509:abc\r", "feed: contoso/infra"],
      Quiet line.toList := by
    simp only [List.mem_cons, List.not_mem_nil, or_false, forall_eq_or_imp, forall_eq]
    exact ⟨⟨by decide, by decide⟩, ⟨by decide, by decide⟩, ⟨by decide, by decide⟩⟩
  obtain ⟨found, -, -, missing⟩ := parse_header quiet
  obtain ⟨following, inline⟩ := found "did:x509:abc\r" "contoso/infra" (by decide) (by decide)
  have shown : ¬ AllBlank ("feed: y\npayload:\n".toList.takeWhile (· != '\n')) :=
    fun blank => absurd (blank 'f' (by decide)) (by decide)
  exact ⟨following " \r" "iss: x\nfeed: y\n" (List.all_eq_true.mp rfl) (by decide),
    inline "feed: y\npayload:\n" shown, missing "" ⟨by decide, by decide⟩⟩

end Enforcement.VerifierOutput
