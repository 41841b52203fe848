import Mathlib.Data.List.Infix
import Mathlib.Data.List.TakeWhile

/-! Patterns with an escape character. A text between two wildcards, escaped, is found just where it stands. -/

namespace ByokGrid

def foldLetter (c : Char) : Char :=
  if 'A' ≤ c ∧ c ≤ 'Z' then Char.ofNat (c.toNat + 32) else c

def foldLetters (text : List Char) : List Char :=
  text.map foldLetter

/-- `%` stands for any text and `_` for any character. Behind the escape character each stands for itself, and a
pattern that ends with one matches nothing. -/
def likeMatch (escape : Char) : List Char → List Char → Bool
  | [], text => text.isEmpty
  | c :: pattern, text =>
    if c = escape then
      match pattern, text with
      | d :: pattern, t :: text => foldLetter d == foldLetter t && likeMatch escape pattern text
      | _, _ => false
    else if c = '%' then text.tails.any fun rest => likeMatch escape pattern rest
    else
      match text with
      | t :: text => (c == '_' || foldLetter c == foldLetter t) && likeMatch escape pattern text
      | [] => false

def isWildcard (escape c : Char) : Bool :=
  c == escape || c == '%' || c == '_'

def literalPattern (escape : Char) (text : List Char) : List Char :=
  text.flatMap fun c => if isWildcard escape c then [escape, c] else [c]

def FoundIn (searched text : List Char) : Prop :=
  foldLetters searched <:+: foldLetters text

instance (searched text : List Char) : Decidable (FoundIn searched text) :=
  inferInstanceAs (Decidable (_ <:+: _))

section Matching

variable {escape : Char}

theorem likeMatch_escaped {c : Char} {pattern text : List Char} :
    likeMatch escape (escape :: c :: pattern) text = true ↔
      ∃ t rest, text = t :: rest ∧ foldLetter c = foldLetter t ∧ likeMatch escape pattern rest = true := by
  rw [likeMatch.eq_def]
  cases text with
  | nil =>
    simp only [if_true, Bool.false_eq_true, false_iff]
    rintro ⟨t, rest, h, -⟩
    cases h
  | cons t rest =>
    simp only [if_true, Bool.and_eq_true, beq_iff_eq]
    constructor
    · exact fun h => ⟨t, rest, rfl, h⟩
    · rintro ⟨_, _, htext, h⟩
      cases htext
      exact h

theorem likeMatch_plain {c : Char} (hc : isWildcard escape c = false) {pattern text : List Char} :
    likeMatch escape (c :: pattern) text = true ↔
      ∃ t rest, text = t :: rest ∧ foldLetter c = foldLetter t ∧ likeMatch escape pattern rest = true := by
  simp only [isWildcard, Bool.or_eq_false_iff, beq_eq_false_iff_ne] at hc
  obtain ⟨⟨hescape, hpercent⟩, hunderscore⟩ := hc
  rw [likeMatch.eq_def]
  cases text with
  | nil =>
    simp only [if_neg hescape, if_neg hpercent, Bool.false_eq_true, false_iff]
    rintro ⟨t, rest, h, -⟩
    cases h
  | cons t rest =>
    simp only [if_neg hescape, if_neg hpercent, beq_eq_false_iff_ne.mpr hunderscore, Bool.false_or, Bool.and_eq_true, beq_iff_eq]
    constructor
    · exact fun h => ⟨t, rest, rfl, h⟩
    · rintro ⟨_, _, htext, h⟩
      cases htext
      exact h

theorem likeMatch_any (hescape : escape ≠ '%') {pattern text : List Char} :
    likeMatch escape ('%' :: pattern) text = true ↔ ∃ rest, rest <:+ text ∧ likeMatch escape pattern rest = true := by
  rw [likeMatch.eq_def]
  simp only [if_neg hescape.symm, if_true, List.any_eq_true, List.mem_tails]

theorem likeMatch_literal {searched pattern text : List Char} :
    likeMatch escape (literalPattern escape searched ++ pattern) text = true ↔
      ∃ front rest, text = front ++ rest ∧ foldLetters front = foldLetters searched ∧ likeMatch escape pattern rest = true := by
  induction searched generalizing text with
  | nil =>
    constructor
    · exact fun h => ⟨[], text, rfl, rfl, h⟩
    · rintro ⟨front, rest, rfl, hfront, h⟩
      rw [List.map_eq_nil_iff.mp hfront]
      exact h
  | cons c searched ih =>
    have hstep : likeMatch escape (literalPattern escape (c :: searched) ++ pattern) text = true ↔
        ∃ t rest, text = t :: rest ∧ foldLetter c = foldLetter t ∧
          likeMatch escape (literalPattern escape searched ++ pattern) rest = true := by
      rw [literalPattern, List.flatMap_cons]
      by_cases hc : isWildcard escape c = true
      · rw [if_pos hc]
        exact likeMatch_escaped
      · rw [if_neg hc]
        exact likeMatch_plain (Bool.eq_false_iff.mpr hc)
    rw [hstep]
    constructor
    · rintro ⟨t, rest, rfl, hletter, hrest⟩
      obtain ⟨front, later, rfl, hfront, h⟩ := ih.mp hrest
      refine ⟨t :: front, later, rfl, ?_, h⟩
      show foldLetter t :: foldLetters front = foldLetter c :: foldLetters searched
      rw [hletter, hfront]
    · rintro ⟨front, rest, rfl, hfront, h⟩
      obtain ⟨t, later, rfl, hletter, hlater⟩ := List.map_eq_cons_iff.mp hfront
      exact ⟨t, later ++ rest, rfl, hletter.symm, ih.mpr ⟨later, rest, rfl, hlater, h⟩⟩

theorem likeMatch_wildcard (hescape : escape ≠ '%') (text : List Char) : likeMatch escape ['%'] text = true :=
  (likeMatch_any hescape).mpr ⟨[], List.nil_suffix, rfl⟩

theorem likeMatch_nil {text : List Char} : likeMatch escape [] text = true ↔ text = [] := by
  rw [likeMatch.eq_def]
  exact List.isEmpty_iff

theorem likeMatch_contains (hescape : escape ≠ '%') {searched text : List Char} :
    likeMatch escape ('%' :: (literalPattern escape searched ++ ['%'])) text = true ↔ FoundIn searched text := by
  rw [likeMatch_any hescape]
  constructor
  · rintro ⟨rest, ⟨front, rfl⟩, h⟩
    obtain ⟨found, later, rfl, hfound, -⟩ := likeMatch_literal.mp h
    refine ⟨foldLetters front, foldLetters later, ?_⟩
    rw [← hfound, foldLetters, foldLetters, foldLetters, foldLetters, List.map_append, List.map_append, List.append_assoc]
  · rintro ⟨front, later, h⟩
    obtain ⟨start, last, rfl, hstart, -⟩ := List.map_eq_append_iff.mp h.symm
    obtain ⟨first, found, rfl, -, hfound⟩ := List.map_eq_append_iff.mp hstart
    rw [List.append_assoc]
    exact ⟨found ++ last, List.suffix_append _ _, likeMatch_literal.mpr ⟨found, last, rfl, hfound, likeMatch_wildcard hescape last⟩⟩

theorem likeMatch_endsWith (hescape : escape ≠ '%') {searched text : List Char} :
    likeMatch escape ('%' :: literalPattern escape searched) text = true ↔ foldLetters searched <:+ foldLetters text := by
  have hwhole : ∀ rest : List Char, likeMatch escape (literalPattern escape searched) rest = true ↔
      foldLetters rest = foldLetters searched := by
    intro rest
    have hliteral := @likeMatch_literal escape searched [] rest
    rw [List.append_nil] at hliteral
    rw [hliteral]
    constructor
    · rintro ⟨front, later, rfl, hfront, hlater⟩
      rw [likeMatch_nil.mp hlater, List.append_nil]
      exact hfront
    · exact fun h => ⟨rest, [], (List.append_nil rest).symm, h, likeMatch_nil.mpr rfl⟩
  rw [likeMatch_any hescape]
  constructor
  · rintro ⟨rest, ⟨front, rfl⟩, h⟩
    rw [← (hwhole rest).mp h]
    exact ⟨foldLetters front, (List.map_append (f := foldLetter)).symm⟩
  · rintro ⟨front, h⟩
    obtain ⟨start, found, rfl, -, hfound⟩ := List.map_eq_append_iff.mp h.symm
    exact ⟨found, List.suffix_append _ _, (hwhole found).mpr hfound⟩

end Matching

def cString (text : List Char) : List Char :=
  text.takeWhile (· != '\x00')

theorem cString_eq_self {text : List Char} (h : '\x00' ∉ text) : cString text = text := by
  rw [cString, List.takeWhile_eq_self_iff]
  intro c hc
  rw [bne_iff_ne]
  rintro rfl
  exact h hc

theorem nul_not_mem_cString (text : List Char) : '\x00' ∉ cString text := by
  intro hmem
  have hne := List.mem_takeWhile_imp hmem
  exact absurd hne (by decide)

/-- `like` on texts as they are passed on: the pattern and the text are read up to their first null character. -/
def sqlLike (escape : Char) (pattern text : List Char) : Bool :=
  likeMatch escape (cString pattern) (cString text)

theorem cString_append_of_not_mem {front : List Char} (h : '\x00' ∉ front) (rest : List Char) :
    cString (front ++ rest) = front ++ cString rest := by
  apply List.takeWhile_append_of_pos
  intro c hc
  rw [bne_iff_ne]
  rintro rfl
  exact h hc

theorem nul_mem_literalPattern {escape : Char} (hescape : escape ≠ '\x00') {text : List Char} :
    '\x00' ∈ literalPattern escape text ↔ '\x00' ∈ text := by
  rw [literalPattern, List.mem_flatMap]
  constructor
  · rintro ⟨c, hc, hmem⟩
    split at hmem
    · simp only [List.mem_cons, List.not_mem_nil, or_false] at hmem
      rcases hmem with heq | heq
      · exact absurd heq.symm hescape
      · exact heq ▸ hc
    · rw [List.mem_singleton.mp hmem]
      exact hc
  · intro hmem
    refine ⟨'\x00', hmem, ?_⟩
    split
    · exact List.mem_cons_of_mem _ List.mem_cons_self
    · exact List.mem_cons_self

theorem cString_literalPattern {escape : Char} (hescape : escape ≠ '\x00') {searched : List Char} (h : '\x00' ∈ searched)
    (rest : List Char) : cString (literalPattern escape searched ++ rest) = literalPattern escape (cString searched) := by
  induction searched with
  | nil => exact absurd h List.not_mem_nil
  | cons c searched ih =>
    by_cases hnul : c = '\x00'
    · subst hnul
      have hplain : isWildcard escape '\x00' = false := by
        simp only [isWildcard, Bool.or_eq_false_iff, beq_eq_false_iff_ne]
        exact ⟨⟨hescape.symm, by decide⟩, by decide⟩
      rw [literalPattern, List.flatMap_cons, hplain]
      rfl
    · have hlater := ih ((List.mem_cons.mp h).resolve_left fun heq => hnul heq.symm)
      have hfront : '\x00' ∉ (if isWildcard escape c then [escape, c] else [c]) := by
        split
        · simp only [List.mem_cons, List.not_mem_nil, or_false, not_or]
          exact ⟨hescape.symm, fun heq => hnul heq.symm⟩
        · rw [List.mem_singleton]
          exact fun heq => hnul heq.symm
      have hcut : cString (c :: searched) = c :: cString searched :=
        List.takeWhile_cons_of_pos (p := fun d => d != '\x00') (bne_iff_ne.mpr hnul)
      rw [hcut, literalPattern, List.flatMap_cons, List.append_assoc, cString_append_of_not_mem hfront]
      show _ ++ cString (literalPattern escape searched ++ rest) = _
      rw [hlater]
      rfl

end ByokGrid
