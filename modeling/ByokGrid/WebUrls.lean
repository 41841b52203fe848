import Mathlib.Data.List.DropRight

/-! Web addresses as the URL standard reads and writes them: percent-encoding, the path without its dot
segments, the query, the fragment. What was written is read back. -/

namespace ByokGrid

def hexUpper (n : Nat) : Char :=
  if n < 10 then Char.ofNat (48 + n) else Char.ofNat (55 + n)

def percentByte (byte : UInt8) : List Char :=
  ['%', hexUpper (byte.toNat / 16), hexUpper (byte.toNat % 16)]

/-- The codes of `%`, of the digits and of `A` to `F`. -/
def IsPercentCode (code : Nat) : Prop :=
  code = 37 ∨ 48 ≤ code ∧ code ≤ 57 ∨ 65 ≤ code ∧ code ≤ 70

instance (code : Nat) : Decidable (IsPercentCode code) :=
  inferInstanceAs (Decidable (_ ∨ _))

structure EncodeSet where
  codes : List Nat
  spares_percent : ∀ code ∈ codes, ¬ IsPercentCode code

def EncodeSet.has (set : EncodeSet) (c : Char) : Bool :=
  c.toNat < 0x20 || 0x7E < c.toNat || set.codes.contains c.toNat

def EncodeSet.encodeChar (set : EncodeSet) (c : Char) : List Char :=
  if set.has c then (String.utf8EncodeChar c).flatMap percentByte else [c]

def EncodeSet.encode (set : EncodeSet) (text : List Char) : List Char :=
  text.flatMap set.encodeChar

def EncodeSet.Spares (set : EncodeSet) (text : List Char) : Prop :=
  ∀ c ∈ text, set.has c = false

def fragmentSet : EncodeSet := ⟨[0x20, 0x22, 0x3C, 0x3E, 0x60], by decide⟩

def specialQuerySet : EncodeSet := ⟨[0x20, 0x22, 0x23, 0x27, 0x3C, 0x3E], by decide⟩

def pathSet : EncodeSet := ⟨[0x20, 0x22, 0x23, 0x3C, 0x3E, 0x3F, 0x5E, 0x60, 0x7B, 0x7D], by decide⟩

def userinfoSet : EncodeSet :=
  ⟨pathSet.codes ++ [0x2F, 0x3A, 0x3B, 0x3D, 0x40, 0x5B, 0x5C, 0x5D, 0x7C], by decide⟩

theorem isPercentCode_hexUpper {n : Nat} (h : n < 16) : IsPercentCode (hexUpper n).toNat := by
  have hcodes : ∀ m : Fin 16, IsPercentCode (hexUpper m).toNat := by decide
  exact hcodes ⟨n, h⟩

theorem isPercentCode_percentByte {byte : UInt8} {c : Char} (h : c ∈ percentByte byte) : IsPercentCode c.toNat := by
  have hbyte := byte.toNat_lt
  simp only [percentByte, List.mem_cons, List.not_mem_nil, or_false] at h
  rcases h with rfl | rfl | rfl
  · exact .inl rfl
  · exact isPercentCode_hexUpper (by omega)
  · exact isPercentCode_hexUpper (by omega)

namespace EncodeSet

theorem has_eq_false_iff {set : EncodeSet} {c : Char} :
    set.has c = false ↔ 0x20 ≤ c.toNat ∧ c.toNat ≤ 0x7E ∧ c.toNat ∉ set.codes := by
  simp only [has, Bool.or_eq_false_iff, decide_eq_false_iff_not, List.contains_eq_mem, not_lt, and_assoc]

theorem has_percent (set : EncodeSet) {c : Char} (h : IsPercentCode c.toNat) : set.has c = false := by
  rw [has_eq_false_iff]
  have hspared := fun hmem => set.spares_percent c.toNat hmem h
  rcases h with h | h | h <;> exact ⟨by omega, by omega, hspared⟩

theorem mem_encode {set : EncodeSet} {text : List Char} {c : Char} (h : c ∈ set.encode text) :
    IsPercentCode c.toNat ∨ c ∈ text ∧ set.has c = false := by
  obtain ⟨source, hsource, hc⟩ := List.mem_flatMap.mp h
  unfold encodeChar at hc
  by_cases hhas : set.has source = true
  · rw [if_pos hhas] at hc
    obtain ⟨byte, _, hbyte⟩ := List.mem_flatMap.mp hc
    exact .inl (isPercentCode_percentByte hbyte)
  · rw [if_neg hhas, List.mem_singleton] at hc
    subst hc
    exact .inr ⟨hsource, Bool.eq_false_iff.mpr hhas⟩

theorem spares_encode (set : EncodeSet) (text : List Char) : set.Spares (set.encode text) := by
  intro c hc
  rcases mem_encode hc with hpercent | ⟨_, hspared⟩
  · exact set.has_percent hpercent
  · exact hspared

theorem encode_of_spares {set : EncodeSet} {text : List Char} (h : set.Spares text) : set.encode text = text := by
  induction text with
  | nil => rfl
  | cons c text ih =>
    have hc : set.has c = false := h c List.mem_cons_self
    have htext := ih fun d hd => h d (List.mem_cons_of_mem c hd)
    rw [encode, List.flatMap_cons, encodeChar, hc]
    exact congrArg (c :: ·) htext

theorem encode_eq_nil {set : EncodeSet} {text : List Char} : set.encode text = [] ↔ text = [] := by
  constructor
  · intro h
    cases text with
    | nil => rfl
    | cons c text =>
      rw [encode, List.flatMap_cons, List.append_eq_nil_iff] at h
      have hc := h.1
      unfold encodeChar at hc
      split at hc
      · cases hbytes : String.utf8EncodeChar c with
        | nil => exact absurd hbytes String.utf8EncodeChar_ne_nil
        | cons byte bytes => rw [hbytes, List.flatMap_cons] at hc; cases hc
      · cases hc
  · rintro rfl
    rfl

end EncodeSet

def stripInput (input : List Char) : List Char :=
  ((input.dropWhile fun c => c.toNat ≤ 0x20).rdropWhile fun c => c.toNat ≤ 0x20).filter
    fun c => !(c.toNat == 9 || c.toNat == 10 || c.toNat == 13)

theorem stripInput_eq_self {input : List Char} (h : ∀ c ∈ input, 0x20 < c.toNat) : stripInput input = input := by
  have hleft : (input.dropWhile fun c => decide (c.toNat ≤ 0x20)) = input := by
    rw [List.dropWhile_eq_self_iff]
    intro hlength
    have hfirst := h _ (List.getElem_mem hlength)
    rw [decide_eq_true_eq]
    omega
  have hright : (input.rdropWhile fun c => decide (c.toNat ≤ 0x20)) = input := by
    rw [List.rdropWhile_eq_self_iff]
    intro hne
    have hlast := h _ (List.getLast_mem hne)
    rw [decide_eq_true_eq]
    omega
  rw [stripInput, hleft, hright, List.filter_eq_self]
  intro c hc
  have hcode := h c hc
  rw [Bool.not_eq_true', Bool.or_eq_false_iff, Bool.or_eq_false_iff]
  simp only [beq_eq_false_iff_ne]
  omega

theorem stripInput_rooted {rest : List Char} (h : ∀ c ∈ rest, 13 < c.toNat) :
    ∃ kept, kept <+: rest ∧ stripInput ('/' :: rest) = '/' :: kept := by
  have hleft : (('/' :: rest).dropWhile fun c => decide (c.toNat ≤ 0x20)) = '/' :: rest :=
    List.dropWhile_cons_of_neg (by decide)
  have hprefix := List.rdropWhile_prefix (fun c : Char => decide (c.toNat ≤ 0x20)) ('/' :: rest)
  cases hright : ('/' :: rest).rdropWhile fun c => decide (c.toNat ≤ 0x20) with
  | nil =>
    have hslash := List.rdropWhile_eq_nil_iff.mp hright '/' List.mem_cons_self
    exact absurd hslash (by decide)
  | cons c kept =>
    rw [hright, List.cons_prefix_cons] at hprefix
    obtain ⟨rfl, hkept⟩ := hprefix
    refine ⟨kept, hkept, ?_⟩
    rw [stripInput, hleft, hright, List.filter_eq_self]
    intro c hc
    have hcode : c = '/' ∨ 13 < c.toNat := (List.mem_cons.mp hc).imp id fun hmem => h c (hkept.subset hmem)
    rw [Bool.not_eq_true', Bool.or_eq_false_iff, Bool.or_eq_false_iff]
    simp only [beq_eq_false_iff_ne]
    rcases hcode with rfl | hcode
    · decide
    · omega

def isSlash (c : Char) : Bool :=
  c == '/' || c == '\\'

/-- `.` and `%2e`, in either case. -/
def isSingleDot (segment : List Char) : Bool :=
  [['.'], ['%', '2', 'e']].contains (segment.map Char.toLower)

def isDoubleDot (segment : List Char) : Bool :=
  [['.', '.'], ['.', '%', '2', 'e'], ['%', '2', 'e', '.'], ['%', '2', 'e', '%', '2', 'e']].contains
    (segment.map Char.toLower)

/-- The segments of a path, from those already in it: a dot segment which comes last leaves an empty one. -/
def pushSegments : List (List Char) → List (List Char) → List (List Char)
  | path, [] => path
  | path, segment :: rest =>
    let path := if isDoubleDot segment then path.dropLast else path
    if isDoubleDot segment || isSingleDot segment then
      (if rest = [] then path ++ [[]] else pushSegments path rest)
    else pushSegments (path ++ [segment]) rest

def parsePath (text : List Char) : List (List Char) :=
  pushSegments [] ((text.splitOnP isSlash).map pathSet.encode)

def serializePath (path : List (List Char)) : List Char :=
  path.flatMap fun segment => '/' :: segment

structure CleanSegment (segment : List Char) : Prop where
  spared : pathSet.Spares segment
  slashless : ∀ c ∈ segment, isSlash c = false
  single : isSingleDot segment = false
  double : isDoubleDot segment = false

theorem CleanSegment.nil : CleanSegment [] :=
  ⟨fun _ h => absurd h List.not_mem_nil, fun _ h => absurd h List.not_mem_nil, by decide, by decide⟩

theorem isSlash_percent {c : Char} (h : IsPercentCode c.toNat) : isSlash c = false := by
  rw [isSlash, Bool.or_eq_false_iff, beq_eq_false_iff_ne, beq_eq_false_iff_ne]
  constructor <;> (rintro rfl; revert h; decide)

theorem slashless_encode {set : EncodeSet} {text : List Char} (h : ∀ c ∈ text, isSlash c = false) :
    ∀ c ∈ set.encode text, isSlash c = false := by
  intro c hc
  rcases EncodeSet.mem_encode hc with hpercent | ⟨hmem, _⟩
  · exact isSlash_percent hpercent
  · exact h c hmem

theorem slashless_splitOnP {text segment : List Char} (h : segment ∈ text.splitOnP isSlash) :
    ∀ c ∈ segment, isSlash c = false := by
  induction text generalizing segment with
  | nil =>
    rw [List.splitOnP_nil, List.mem_singleton] at h
    subst h
    exact fun _ hc => absurd hc List.not_mem_nil
  | cons d text ih =>
    rw [List.splitOnP_cons_eq_if_modifyHead] at h
    by_cases hslash : isSlash d = true
    · rw [if_pos hslash] at h
      rcases List.mem_cons.mp h with rfl | hmem
      · exact fun _ hc => absurd hc List.not_mem_nil
      · exact ih hmem
    · rw [if_neg hslash] at h
      cases hsplit : text.splitOnP isSlash with
      | nil => exact absurd hsplit (List.splitOnP_ne_nil _ _)
      | cons first segments =>
        rw [hsplit, List.modifyHead_cons] at h
        rcases List.mem_cons.mp h with rfl | hmem
        · intro c hc
          rcases List.mem_cons.mp hc with rfl | hc
          · exact Bool.eq_false_iff.mpr hslash
          · exact ih (hsplit ▸ List.mem_cons_self) c hc
        · exact ih (hsplit ▸ List.mem_cons_of_mem _ hmem)

theorem pushSegments_clean {segments : List (List Char)}
    (hsegments : ∀ segment ∈ segments, pathSet.Spares segment ∧ ∀ c ∈ segment, isSlash c = false)
    {path : List (List Char)} (hpath : ∀ segment ∈ path, CleanSegment segment) :
    ∀ segment ∈ pushSegments path segments, CleanSegment segment := by
  induction segments generalizing path with
  | nil => exact hpath
  | cons segment rest ih =>
    have hrest : ∀ later ∈ rest, pathSet.Spares later ∧ ∀ c ∈ later, isSlash c = false :=
      fun later hlater => hsegments later (List.mem_cons_of_mem _ hlater)
    rw [pushSegments]
    by_cases hdots : (isDoubleDot segment || isSingleDot segment) = true
    · rw [if_pos hdots]
      -- a double dot takes the last segment away
      have hleft : ∀ kept ∈ (if isDoubleDot segment then path.dropLast else path), CleanSegment kept := by
        intro kept hkept
        split at hkept
        · exact hpath kept ((List.dropLast_sublist path).subset hkept)
        · exact hpath kept hkept
      by_cases hlast : rest = []
      · rw [if_pos hlast]
        intro kept hkept
        rcases List.mem_append.mp hkept with hkept | hkept
        · exact hleft kept hkept
        · rw [List.mem_singleton.mp hkept]
          exact CleanSegment.nil
      · rw [if_neg hlast]
        exact ih hrest hleft
    · rw [if_neg hdots]
      rw [Bool.not_eq_true, Bool.or_eq_false_iff] at hdots
      rw [hdots.1]
      apply ih hrest
      intro kept hkept
      rcases List.mem_append.mp hkept with hkept | hkept
      · exact hpath kept hkept
      · obtain ⟨hspared, hslashless⟩ := hsegments segment List.mem_cons_self
        rw [List.mem_singleton.mp hkept]
        exact ⟨hspared, hslashless, hdots.2, hdots.1⟩

theorem pushSegments_ne_nil {segments : List (List Char)} (h : segments ≠ []) (path : List (List Char)) :
    pushSegments path segments ≠ [] := by
  have hpath : ∀ rest path, path ≠ [] ∨ rest ≠ [] → pushSegments path rest ≠ [] := by
    intro rest
    induction rest with
    | nil => exact fun path h => h.resolve_right fun hne => hne rfl
    | cons segment rest ih =>
      intro path _
      rw [pushSegments]
      by_cases hdots : (isDoubleDot segment || isSingleDot segment) = true
      · rw [if_pos hdots]
        by_cases hlast : rest = []
        · rw [if_pos hlast]
          exact List.append_ne_nil_of_right_ne_nil _ (List.cons_ne_nil _ _)
        · rw [if_neg hlast]
          exact ih _ (.inr hlast)
      · rw [if_neg hdots]
        exact ih _ (.inl (List.append_ne_nil_of_right_ne_nil _ (List.cons_ne_nil _ _)))
  exact hpath segments path (.inr h)

theorem pushSegments_of_clean {segments : List (List Char)} (h : ∀ segment ∈ segments, CleanSegment segment)
    (path : List (List Char)) : pushSegments path segments = path ++ segments := by
  induction segments generalizing path with
  | nil => rw [pushSegments, List.append_nil]
  | cons segment rest ih =>
    have hclean := h segment List.mem_cons_self
    have hrest := ih (fun later hlater => h later (List.mem_cons_of_mem _ hlater)) (path ++ [segment])
    rw [pushSegments, hclean.double, hclean.single]
    exact hrest.trans (List.append_assoc path [segment] rest)

theorem splitOnP_serializePath {segment : List Char} {path : List (List Char)} (hsegment : CleanSegment segment)
    (hpath : ∀ later ∈ path, CleanSegment later) :
    (segment ++ serializePath path).splitOnP isSlash = segment :: path := by
  induction path generalizing segment with
  | nil => rw [serializePath, List.flatMap_nil, List.append_nil, List.splitOnP_eq_singleton hsegment.slashless]
  | cons next path ih =>
    have hnext := ih (hpath next List.mem_cons_self) fun later hlater => hpath later (List.mem_cons_of_mem _ hlater)
    have htext : segment ++ serializePath (next :: path) = segment ++ '/' :: (next ++ serializePath path) := by
      rw [serializePath, List.flatMap_cons, List.cons_append]
      rfl
    rw [htext, List.splitOnP_append_cons_of_forall_mem hsegment.slashless '/' (by decide), hnext]

theorem parsePath_serializePath {segment : List Char} {path : List (List Char)} (hsegment : CleanSegment segment)
    (hpath : ∀ later ∈ path, CleanSegment later) :
    parsePath (segment ++ serializePath path) = segment :: path := by
  have hall : ∀ kept ∈ segment :: path, CleanSegment kept := List.forall_mem_cons.mpr ⟨hsegment, hpath⟩
  have hencoded : (segment :: path).map pathSet.encode = segment :: path := by
    conv_rhs => rw [← List.map_id (segment :: path)]
    exact List.map_congr_left fun kept hkept => EncodeSet.encode_of_spares (hall kept hkept).spared
  rw [parsePath, splitOnP_serializePath hsegment hpath, hencoded, pushSegments_of_clean hall, List.nil_append]

theorem parsePath_clean (text : List Char) : ∀ segment ∈ parsePath text, CleanSegment segment := by
  apply pushSegments_clean _ fun _ h => absurd h List.not_mem_nil
  intro segment hsegment
  obtain ⟨source, hsource, rfl⟩ := List.mem_map.mp hsegment
  exact ⟨pathSet.spares_encode source, slashless_encode (slashless_splitOnP hsource)⟩

theorem parsePath_ne_nil (text : List Char) : parsePath text ≠ [] := by
  apply pushSegments_ne_nil
  rw [Ne, List.map_eq_nil_iff]
  exact List.splitOnP_ne_nil _ _

@[ext]
structure UrlTail where
  path : List (List Char)
  query : Option (List Char)
  fragment : Option (List Char)
  path_ne_nil : path ≠ []
  path_clean : ∀ segment ∈ path, CleanSegment segment
  query_spared : ∀ text ∈ query, specialQuerySet.Spares text
  fragment_spared : ∀ text ∈ fragment, fragmentSet.Spares text

def inPath (c : Char) : Bool :=
  !(c == '?' || c == '#')

def queryText (text : List Char) : Option (List Char) :=
  match text.dropWhile inPath with
  | '?' :: query => some (query.takeWhile (· != '#'))
  | _ => none

def fragmentText (text : List Char) : Option (List Char) :=
  match text.dropWhile (· != '#') with
  | '#' :: fragment => some fragment
  | _ => none

def parseTail (text : List Char) : UrlTail where
  path := parsePath (text.takeWhile inPath)
  query := (queryText text).map specialQuerySet.encode
  fragment := (fragmentText text).map fragmentSet.encode
  path_ne_nil := parsePath_ne_nil _
  path_clean := parsePath_clean _
  query_spared := by
    intro query hquery
    obtain ⟨source, _, rfl⟩ := Option.map_eq_some_iff.mp hquery
    exact specialQuerySet.spares_encode source
  fragment_spared := by
    intro fragment hfragment
    obtain ⟨source, _, rfl⟩ := Option.map_eq_some_iff.mp hfragment
    exact fragmentSet.spares_encode source

namespace UrlTail

def pathname (tail : UrlTail) : List Char :=
  serializePath tail.path

def marked (mark : Char) : Option (List Char) → List Char
  | some (c :: text) => mark :: c :: text
  | _ => []

def search (tail : UrlTail) : List Char :=
  marked '?' tail.query

def hash (tail : UrlTail) : List Char :=
  marked '#' tail.fragment

def text (tail : UrlTail) : List Char :=
  tail.pathname ++ tail.search ++ tail.hash

def body (tail : UrlTail) : List Char :=
  tail.text.drop 1

theorem text_eq (tail : UrlTail) :
    ∃ segment path, tail.path = segment :: path ∧
      tail.text = '/' :: (segment ++ serializePath path ++ (tail.search ++ tail.hash)) := by
  obtain ⟨segment, path, hpath⟩ := List.exists_cons_of_ne_nil tail.path_ne_nil
  refine ⟨segment, path, hpath, ?_⟩
  rw [text, pathname, hpath, serializePath, List.flatMap_cons, List.append_assoc]
  rfl

theorem text_eq_cons_body (tail : UrlTail) : tail.text = '/' :: tail.body := by
  obtain ⟨segment, path, _, htext⟩ := tail.text_eq
  rw [body, htext, List.drop_one, List.tail_cons]

end UrlTail

theorem inPath_of_spared {c : Char} (h : pathSet.has c = false) : inPath c = true := by
  have hcodes := (EncodeSet.has_eq_false_iff.mp h).2.2
  rw [inPath, Bool.not_eq_true', Bool.or_eq_false_iff, beq_eq_false_iff_ne, beq_eq_false_iff_ne]
  constructor <;> (rintro rfl; exact hcodes (by decide))

theorem not_hash_of_spared {set : EncodeSet} (hset : 0x23 ∈ set.codes) {c : Char} (h : set.has c = false) :
    (c != '#') = true := by
  rw [bne_iff_ne]
  rintro rfl
  exact (EncodeSet.has_eq_false_iff.mp h).2.2 hset

theorem mem_serializePath {path : List (List Char)} {c : Char} (h : c ∈ serializePath path) :
    c = '/' ∨ ∃ segment ∈ path, c ∈ segment := by
  obtain ⟨segment, hsegment, hc⟩ := List.mem_flatMap.mp h
  rcases List.mem_cons.mp hc with hslash | hc
  · exact .inl hslash
  · exact .inr ⟨segment, hsegment, hc⟩

theorem pathSet_serializePath {path : List (List Char)} (hpath : ∀ segment ∈ path, CleanSegment segment) {c : Char}
    (h : c ∈ serializePath path) : pathSet.has c = false := by
  rcases mem_serializePath h with rfl | ⟨segment, hsegment, hc⟩
  · decide
  · exact (hpath segment hsegment).spared c hc

theorem marked_cases (mark : Char) (text : Option (List Char)) :
    UrlTail.marked mark text = [] ∨ ∃ c rest, text = some (c :: rest) ∧ UrlTail.marked mark text = mark :: c :: rest := by
  match text with
  | none => exact .inl rfl
  | some [] => exact .inl rfl
  | some (c :: rest) => exact .inr ⟨c, rest, rfl, rfl⟩

def UrlTail.kept (mark : Char) : Option (List Char) → List Char
  | some text => mark :: text
  | none => []

theorem marked_eq_kept (mark : Char) (text : Option (List Char)) :
    UrlTail.marked mark text = UrlTail.kept mark (text.filter (· ≠ [])) := by
  match text with
  | none => rfl
  | some [] => rfl
  | some (c :: rest) => rfl

section Reparsing

variable {segments : List Char} {query fragment : Option (List Char)}

theorem dropWhile_inPath (hsegments : pathSet.Spares segments) :
    (segments ++ (UrlTail.kept '?' query ++ UrlTail.kept '#' fragment)).dropWhile inPath =
      UrlTail.kept '?' query ++ UrlTail.kept '#' fragment := by
  rw [List.dropWhile_append_of_pos fun c hc => inPath_of_spared (hsegments c hc)]
  cases query with
  | none => cases fragment <;> rfl
  | some query => rfl

theorem takeWhile_inPath (hsegments : pathSet.Spares segments) :
    (segments ++ (UrlTail.kept '?' query ++ UrlTail.kept '#' fragment)).takeWhile inPath = segments := by
  have htext := @List.takeWhile_append_dropWhile _ inPath
    (segments ++ (UrlTail.kept '?' query ++ UrlTail.kept '#' fragment))
  rw [dropWhile_inPath hsegments] at htext
  exact List.append_cancel_right htext

theorem queryText_segments (hsegments : pathSet.Spares segments) (hquery : ∀ text ∈ query, specialQuerySet.Spares text) :
    queryText (segments ++ (UrlTail.kept '?' query ++ UrlTail.kept '#' fragment)) = query := by
  rw [queryText, dropWhile_inPath hsegments]
  cases query with
  | none => cases fragment <;> rfl
  | some query =>
    have hspared := hquery query rfl
    have hend : (UrlTail.kept '#' fragment).takeWhile (· != '#') = [] := by cases fragment <;> rfl
    have hread : (query ++ UrlTail.kept '#' fragment).takeWhile (· != '#') = query := by
      rw [List.takeWhile_append_of_pos fun d hd => not_hash_of_spared (by decide) (hspared d hd), hend, List.append_nil]
    exact congrArg some hread

theorem fragmentText_segments (hsegments : pathSet.Spares segments) (hquery : ∀ text ∈ query, specialQuerySet.Spares text) :
    fragmentText (segments ++ (UrlTail.kept '?' query ++ UrlTail.kept '#' fragment)) = fragment := by
  have hkept : ∀ c ∈ UrlTail.kept '?' query, (c != '#') = true := by
    cases query with
    | none => exact fun _ hc => absurd hc List.not_mem_nil
    | some query =>
      intro c hc
      rcases List.mem_cons.mp hc with rfl | hc
      · rfl
      · exact not_hash_of_spared (by decide) (hquery query rfl c hc)
  rw [fragmentText, List.dropWhile_append_of_pos fun c hc => not_hash_of_spared (by decide) (hsegments c hc),
    List.dropWhile_append_of_pos hkept]
  cases fragment <;> rfl

end Reparsing

theorem map_encode_of_spares {set : EncodeSet} {text : Option (List Char)} (h : ∀ kept ∈ text, set.Spares kept) :
    text.map set.encode = text := by
  cases text with
  | none => rfl
  | some text => exact congrArg some (EncodeSet.encode_of_spares (h text rfl))

namespace UrlTail

theorem parseTail_kept {tail : UrlTail} {segment : List Char} {path : List (List Char)} (hpath : tail.path = segment :: path) :
    parseTail (segment ++ serializePath path ++ (kept '?' tail.query ++ kept '#' tail.fragment)) = tail := by
  have hsegment : CleanSegment segment := tail.path_clean segment (hpath ▸ List.mem_cons_self)
  have hlater : ∀ later ∈ path, CleanSegment later := fun later h => tail.path_clean later (hpath ▸ List.mem_cons_of_mem _ h)
  have hspared : pathSet.Spares (segment ++ serializePath path) := by
    intro c hc
    rcases List.mem_append.mp hc with hc | hc
    · exact hsegment.spared c hc
    · exact pathSet_serializePath hlater hc
  apply UrlTail.ext
  · show parsePath _ = tail.path
    rw [takeWhile_inPath hspared, parsePath_serializePath hsegment hlater, hpath]
  · show (queryText _).map _ = tail.query
    rw [queryText_segments hspared tail.query_spared, map_encode_of_spares tail.query_spared]
  · show (fragmentText _).map _ = tail.fragment
    rw [fragmentText_segments hspared tail.query_spared, map_encode_of_spares tail.fragment_spared]

def compact (tail : UrlTail) : UrlTail :=
  { tail with
    query := tail.query.filter (· ≠ [])
    fragment := tail.fragment.filter (· ≠ [])
    query_spared := fun text h => tail.query_spared text ((Option.mem_filter_iff.mp h).1)
    fragment_spared := fun text h => tail.fragment_spared text ((Option.mem_filter_iff.mp h).1) }

theorem text_compact (tail : UrlTail) : tail.compact.text = tail.text := by
  have hmarked : ∀ mark text, marked mark (text.filter (· ≠ [])) = marked mark text := by
    intro mark text
    match text with
    | none => rfl
    | some [] => rfl
    | some (c :: rest) => rfl
  rw [text, search, hash, text, search, hash, compact, hmarked, hmarked]
  rfl

theorem text_parseTail_body (tail : UrlTail) : (parseTail tail.body).text = tail.text := by
  obtain ⟨segment, path, hpath, htext⟩ := tail.text_eq
  have hbody : tail.body = segment ++ serializePath path ++ (kept '?' tail.compact.query ++ kept '#' tail.compact.fragment) := by
    rw [body, htext, List.drop_one, List.tail_cons, search, hash, marked_eq_kept, marked_eq_kept]
    rfl
  rw [hbody, @parseTail_kept tail.compact segment path hpath, text_compact]

theorem mem_marked {mark c : Char} {text : Option (List Char)} (h : c ∈ marked mark text) :
    c = mark ∨ ∃ kept ∈ text, c ∈ kept := by
  rcases marked_cases mark text with hnone | ⟨d, rest, hsome, hmarked⟩
  · rw [hnone] at h
    exact absurd h List.not_mem_nil
  · rw [hmarked] at h
    rcases List.mem_cons.mp h with hmark | hc
    · exact .inl hmark
    · exact .inr ⟨d :: rest, hsome, hc⟩

theorem spared_printable {set : EncodeSet} (hset : 0x20 ∈ set.codes) {c : Char} (h : set.has c = false) :
    0x20 < c.toNat ∧ c.toNat < 0x7F := by
  obtain ⟨hlow, hhigh, hcodes⟩ := EncodeSet.has_eq_false_iff.mp h
  have hspace : c.toNat ≠ 0x20 := fun hcode => hcodes (hcode ▸ hset)
  omega

theorem mem_kept {mark c : Char} {text : Option (List Char)} (h : c ∈ kept mark text) : c = mark ∨ ∃ kept ∈ text, c ∈ kept := by
  cases text with
  | none => exact absurd h List.not_mem_nil
  | some text => exact (List.mem_cons.mp h).imp id fun hc => ⟨text, rfl, hc⟩

theorem kept_visible (tail : UrlTail) :
    ∀ c ∈ tail.pathname ++ (kept '?' tail.query ++ kept '#' tail.fragment), 0x20 < c.toNat := by
  intro c hc
  rcases List.mem_append.mp hc with hc | hc
  · exact (spared_printable (by decide) (pathSet_serializePath tail.path_clean hc)).1
  · rcases List.mem_append.mp hc with hc | hc
    · rcases mem_kept hc with rfl | ⟨query, hquery, hc⟩
      · decide
      · exact (spared_printable (by decide) (tail.query_spared query hquery c hc)).1
    · rcases mem_kept hc with rfl | ⟨fragment, hfragment, hc⟩
      · decide
      · exact (spared_printable (by decide) (tail.fragment_spared fragment hfragment c hc)).1

theorem text_printable (tail : UrlTail) : ∀ c ∈ tail.text, 0x20 < c.toNat ∧ c.toNat < 0x7F := by
  intro c hc
  rcases List.mem_append.mp hc with hc | hc
  · rcases List.mem_append.mp hc with hc | hc
    · exact spared_printable (by decide) (pathSet_serializePath tail.path_clean hc)
    · rcases mem_marked hc with rfl | ⟨query, hquery, hc⟩
      · decide
      · exact spared_printable (by decide) (tail.query_spared query hquery c hc)
  · rcases mem_marked hc with rfl | ⟨fragment, hfragment, hc⟩
    · decide
    · exact spared_printable (by decide) (tail.fragment_spared fragment hfragment c hc)

end UrlTail

theorem mem_queryText {text query : List Char} (h : queryText text = some query) {c : Char} (hc : c ∈ query) : c ∈ text := by
  unfold queryText at h
  split at h
  · rename_i rest hrest
    cases h
    have hmem : c ∈ text.dropWhile inPath := by
      rw [hrest]
      exact List.mem_cons_of_mem _ (List.takeWhile_subset _ hc)
    exact List.dropWhile_subset _ hmem
  · cases h

theorem mem_fragmentText {text fragment : List Char} (h : fragmentText text = some fragment) {c : Char}
    (hc : c ∈ fragment) : c ∈ text := by
  unfold fragmentText at h
  split at h
  · rename_i rest hrest
    cases h
    have hmem : c ∈ text.dropWhile (· != '#') := hrest ▸ List.mem_cons_of_mem _ hc
    exact List.dropWhile_subset _ hmem
  · cases h

theorem backslash_not_mem_encode {set : EncodeSet} {text : List Char} (h : '\\' ∉ text) : '\\' ∉ set.encode text := by
  intro hmem
  rcases EncodeSet.mem_encode hmem with hpercent | ⟨hmem, _⟩
  · revert hpercent
    decide
  · exact h hmem

theorem backslash_not_mem_text {text : List Char} (h : '\\' ∉ text) : '\\' ∉ (parseTail text).text := by
  intro hc
  rcases List.mem_append.mp hc with hc | hc
  · rcases List.mem_append.mp hc with hc | hc
    · rcases mem_serializePath hc with hslash | ⟨segment, hsegment, hc⟩
      · cases hslash
      · exact absurd ((parsePath_clean _ segment hsegment).slashless _ hc) (by decide)
    · rcases UrlTail.mem_marked hc with hmark | ⟨query, hquery, hc⟩
      · cases hmark
      · obtain ⟨source, hsource, rfl⟩ := Option.map_eq_some_iff.mp hquery
        exact backslash_not_mem_encode (fun hmem => h (mem_queryText hsource hmem)) hc
  · rcases UrlTail.mem_marked hc with hmark | ⟨fragment, hfragment, hc⟩
    · cases hmark
    · obtain ⟨source, hsource, rfl⟩ := Option.map_eq_some_iff.mp hfragment
      exact backslash_not_mem_encode (fun hmem => h (mem_fragmentText hsource hmem)) hc

end ByokGrid
