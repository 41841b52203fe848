import Mathlib.Data.List.TakeDrop
import ByokGrid.FormulaSource

/-! The tokens of the source language: numbers, quoted texts and column names are read back,
whatever follows them. -/

namespace ByokGrid

def NumberEnd (rest : List Char) : Prop :=
  ∀ c ∈ rest.head?, ¬ ('0' ≤ c ∧ c ≤ '9') ∧ c ≠ '.' ∧ c ≠ 'e' ∧ c ≠ 'E'

theorem numberEnd_of_delimited {rest : List Char} (h : Delimited rest) : NumberEnd rest := by
  intro c hc
  rcases h c hc with rfl | rfl | rfl <;> decide

theorem takeDigits_eq (cs : List Char) : takeDigits cs =
    (cs.takeWhile FormulaParser.isDigitUnit, cs.dropWhile FormulaParser.isDigitUnit) :=
  List.span_eq_takeWhile_dropWhile FormulaParser.isDigitUnit cs

theorem takeDigits_append {cs digits rest end' : List Char} (h : takeDigits cs = (digits, rest)) (hend : NumberEnd end') :
    takeDigits (cs ++ end') = (digits, rest ++ end') := by
  induction cs generalizing digits with
  | nil =>
    cases h
    cases end' with
    | nil => rfl
    | cons c end' => exact takeDigits_head (hend c rfl).1
  | cons c cs ih =>
    rw [takeDigits_eq] at h
    by_cases hdigit : FormulaParser.isDigitUnit c = true
    · rw [List.takeWhile_cons_of_pos hdigit, List.dropWhile_cons_of_pos hdigit] at h
      cases h
      have hlater := ih (takeDigits_eq cs)
      rw [takeDigits_eq] at hlater
      obtain ⟨htake, hdrop⟩ := Prod.mk.inj hlater
      rw [List.cons_append, takeDigits_eq, List.takeWhile_cons_of_pos hdigit, List.dropWhile_cons_of_pos hdigit, htake, hdrop]
    · rw [List.takeWhile_cons_of_neg hdigit, List.dropWhile_cons_of_neg hdigit] at h
      cases h
      exact takeDigits_head (by simpa [FormulaParser.isDigitUnit] using hdigit)

theorem takeDigits_digits {cs digits rest : List Char} (h : takeDigits cs = (digits, rest)) :
    ∀ c ∈ digits, '0' ≤ c ∧ c ≤ '9' := by
  rw [takeDigits_eq] at h
  cases h
  intro c hc
  simpa [FormulaParser.isDigitUnit] using List.mem_takeWhile_imp hc

theorem readInteger_append {cs digits rest end' : List Char} (h : readInteger cs = some (digits, rest)) (hend : NumberEnd end') :
    readInteger (cs ++ end') = some (digits, rest ++ end') := by
  rw [readInteger] at h ⊢
  obtain ⟨taken, later, htaken⟩ : ∃ taken later, takeDigits cs = (taken, later) := ⟨_, _, rfl⟩
  rw [takeDigits_append htaken hend]
  rw [htaken] at h
  split at h
  · cases h
  · cases h
  · rename_i hempty hzero heq
    cases heq
    cases h
    split
    · rename_i heq
      cases heq
      exact (hempty rfl).elim
    · rename_i heq
      cases heq
      exact (hzero _ _ rfl).elim
    · rename_i heq
      cases heq
      rfl

theorem readFraction_append {cs digits rest end' : List Char} (h : readFraction cs = some (digits, rest)) (hend : NumberEnd end') :
    readFraction (cs ++ end') = some (digits, rest ++ end') := by
  cases cs with
  | nil =>
    cases h
    cases end' with
    | nil => rfl
    | cons c end' =>
      rw [List.nil_append, readFraction]
      rintro rest heq
      exact (hend c rfl).2.1 (List.cons.inj heq).1
  | cons c cs =>
    by_cases hdot : c = '.'
    · subst hdot
      rw [readFraction] at h
      obtain ⟨taken, later, htaken⟩ : ∃ taken later, takeDigits cs = (taken, later) := ⟨_, _, rfl⟩
      rw [List.cons_append, readFraction, takeDigits_append htaken hend]
      rw [htaken] at h
      cases taken with
      | nil => cases h
      | cons digit taken => cases h; rfl
    · have hread : ∀ later, readFraction (c :: later) = some ([], c :: later) := by
        intro later
        rw [readFraction]
        rintro rest heq
        exact hdot (List.cons.inj heq).1
      rw [hread] at h
      cases h
      exact hread _

def exponentSign (cs : List Char) : List Char × List Char :=
  match cs with
  | '+' :: rest => (['+'], rest)
  | '-' :: rest => (['-'], rest)
  | rest => ([], rest)

theorem readExponent_cons (c : Char) (cs : List Char) : readExponent (c :: cs) =
    if c = 'e' ∨ c = 'E' then
      match takeDigits (exponentSign cs).2 with
      | ([], _) => none
      | (digits, rest) => some (c :: (exponentSign cs).1 ++ digits, rest)
    else some ([], c :: cs) := rfl

theorem readExponent_other {c : Char} (hlower : c ≠ 'e') (hupper : c ≠ 'E') (cs : List Char) :
    readExponent (c :: cs) = some ([], c :: cs) := by
  rw [readExponent_cons, if_neg (by rintro (rfl | rfl); exacts [hlower rfl, hupper rfl])]

theorem exponentSign_append {cs : List Char} (h : cs ≠ []) (end' : List Char) :
    exponentSign (cs ++ end') = ((exponentSign cs).1, (exponentSign cs).2 ++ end') := by
  cases cs with
  | nil => exact absurd rfl h
  | cons c cs =>
    by_cases hplus : c = '+'
    · subst hplus
      rfl
    · by_cases hminus : c = '-'
      · subst hminus
        rfl
      · have hsign : ∀ later, exponentSign (c :: later) = ([], c :: later) := by
          intro later
          unfold exponentSign
          split
          · rename_i heq
            exact absurd (List.cons.inj heq).1 hplus
          · rename_i heq
            exact absurd (List.cons.inj heq).1 hminus
          · rfl
        rw [List.cons_append, hsign, hsign]
        rfl

theorem readExponent_append {cs exponent rest end' : List Char} (h : readExponent cs = some (exponent, rest))
    (hend : NumberEnd end') : readExponent (cs ++ end') = some (exponent, rest ++ end') := by
  cases cs with
  | nil =>
    cases h
    cases end' with
    | nil => rfl
    | cons c end' => exact readExponent_other (hend c rfl).2.2.1 (hend c rfl).2.2.2 end'
  | cons c cs =>
    by_cases he : c = 'e' ∨ c = 'E'
    · rw [readExponent_cons, if_pos he] at h
      rw [List.cons_append, readExponent_cons, if_pos he]
      have hdigits : cs ≠ [] := by
        rintro rfl
        cases h
      obtain ⟨taken, later, htaken⟩ : ∃ taken later, takeDigits (exponentSign cs).2 = (taken, later) := ⟨_, _, rfl⟩
      rw [exponentSign_append hdigits, takeDigits_append htaken hend]
      rw [htaken] at h
      cases taken with
      | nil => cases h
      | cons digit taken => cases h; rfl
    · obtain ⟨hlower, hupper⟩ := not_or.mp he
      rw [readExponent_other hlower hupper] at h
      cases h
      exact readExponent_other hlower hupper _

def Signed (cs sign unsigned : List Char) : Prop :=
  cs = '-' :: unsigned ∧ sign = ['-'] ∨ cs = unsigned ∧ sign = [] ∧ ∀ rest, cs ≠ '-' :: rest

theorem exists_signed (cs : List Char) : ∃ sign unsigned, Signed cs sign unsigned := by
  by_cases hsign : ∃ unsigned, cs = '-' :: unsigned
  · obtain ⟨unsigned, rfl⟩ := hsign
    exact ⟨['-'], unsigned, .inl ⟨rfl, rfl⟩⟩
  · exact ⟨[], cs, .inr ⟨rfl, rfl, fun rest heq => hsign ⟨rest, heq⟩⟩⟩

theorem Signed.append {cs sign unsigned : List Char} (h : Signed cs sign unsigned) (hcs : cs ≠ []) (end' : List Char) :
    Signed (cs ++ end') sign (unsigned ++ end') := by
  rcases h with ⟨rfl, rfl⟩ | ⟨rfl, rfl, hhead⟩
  · exact .inl ⟨rfl, rfl⟩
  · refine .inr ⟨rfl, rfl, fun rest heq => ?_⟩
    cases cs with
    | nil => exact hcs rfl
    | cons c cs => exact hhead cs (by rw [(List.cons.inj heq).1])

theorem readNumber_signed {cs sign unsigned : List Char} (h : Signed cs sign unsigned) : readNumber cs = (do
    let (digits, rest) ← readInteger unsigned
    let (fraction, rest) ← readFraction rest
    let (exponent, rest) ← readExponent rest
    return (String.ofList (sign ++ digits ++ fraction ++ exponent), rest)) := by
  rcases h with ⟨rfl, rfl⟩ | ⟨rfl, rfl, hhead⟩
  · rfl
  · rw [readNumber]
    exact hhead

theorem readNumber_parts {cs sign unsigned rest : List Char} {text : String} (hsign : Signed cs sign unsigned)
    (h : readNumber cs = some (text, rest)) : ∃ digits afterInteger fraction afterFraction exponent,
      readInteger unsigned = some (digits, afterInteger) ∧ readFraction afterInteger = some (fraction, afterFraction) ∧
      readExponent afterFraction = some (exponent, rest) ∧ text = String.ofList (sign ++ digits ++ fraction ++ exponent) := by
  rw [readNumber_signed hsign] at h
  obtain ⟨⟨digits, afterInteger⟩, hdigits, h⟩ := Option.bind_eq_some_iff.mp h
  obtain ⟨⟨fraction, afterFraction⟩, hfraction, h⟩ := Option.bind_eq_some_iff.mp h
  obtain ⟨⟨exponent, later⟩, hexponent, h⟩ := Option.bind_eq_some_iff.mp h
  obtain ⟨rfl, rfl⟩ := Prod.mk.inj (Option.some.inj h)
  exact ⟨digits, afterInteger, fraction, afterFraction, exponent, hdigits, hfraction, hexponent, rfl⟩

theorem readNumber_append {cs rest end' : List Char} {text : String} (h : readNumber cs = some (text, rest))
    (hend : NumberEnd end') : readNumber (cs ++ end') = some (text, rest ++ end') := by
  obtain ⟨sign, unsigned, hsign⟩ := exists_signed cs
  obtain ⟨digits, afterInteger, fraction, afterFraction, exponent, hdigits, hfraction, hexponent, rfl⟩ := readNumber_parts hsign h
  have hcs : cs ≠ [] := by
    rintro rfl
    cases h
  rw [readNumber_signed (hsign.append hcs end')]
  simp only [readInteger_append hdigits hend, readFraction_append hfraction hend, readExponent_append hexponent hend,
    Option.bind_eq_bind, Option.bind_some, pure]

theorem readInteger_digits {cs digits rest : List Char} (h : readInteger cs = some (digits, rest)) :
    takeDigits cs = (digits, rest) ∧ digits ≠ [] ∧ ∀ c later, digits ≠ '0' :: c :: later := by
  rw [readInteger] at h
  split at h
  · cases h
  · cases h
  · rename_i hempty hzero heq
    cases h
    refine ⟨heq, ?_, ?_⟩
    · rintro rfl
      exact hempty rfl
    · rintro c later rfl
      exact hzero c later rfl

theorem readFraction_digits {cs fraction rest : List Char} (h : readFraction cs = some (fraction, rest)) :
    fraction = [] ∨ ∃ digits, fraction = '.' :: digits ∧ ∀ c ∈ digits, '0' ≤ c ∧ c ≤ '9' := by
  rw [readFraction.eq_def] at h
  split at h
  · split at h
    · cases h
    · rename_i htaken
      cases h
      exact .inr ⟨_, rfl, takeDigits_digits htaken⟩
  · cases h
    exact .inl rfl

theorem readExponent_digits {cs exponent rest : List Char} (h : readExponent cs = some (exponent, rest)) :
    exponent = [] ∨ ∃ c sign digits, exponent = c :: sign ++ digits ∧ (c = 'e' ∨ c = 'E') ∧
      (sign = [] ∨ sign = ['+'] ∨ sign = ['-']) ∧ ∀ c ∈ digits, '0' ≤ c ∧ c ≤ '9' := by
  cases cs with
  | nil =>
    cases h
    exact .inl rfl
  | cons c cs =>
    rw [readExponent_cons] at h
    split at h
    · rename_i he
      split at h
      · cases h
      · rename_i htaken
        cases h
        refine .inr ⟨c, _, _, rfl, he, ?_, takeDigits_digits htaken⟩
        unfold exponentSign
        split
        · exact .inr (.inl rfl)
        · exact .inr (.inr rfl)
        · exact .inl rfl
    · cases h
      exact .inl rfl

theorem readNumber_basic {cs rest : List Char} {text : String} (h : readNumber cs = some (text, rest)) :
    ∀ c ∈ text.toList, c.toNat ≤ 0xFFFF := by
  obtain ⟨sign, unsigned, hsign⟩ := exists_signed cs
  obtain ⟨digits, afterInteger, fraction, afterFraction, exponent, hdigits, hfraction, hexponent, rfl⟩ := readNumber_parts hsign h
  have hdigit : ∀ c, '0' ≤ c ∧ c ≤ '9' → c.toNat ≤ 0xFFFF := by
    intro c hc
    have hle : c.toNat ≤ '9'.toNat := hc.2
    have hnine : '9'.toNat = 57 := rfl
    omega
  rw [String.toList_ofList]
  intro c hc
  rcases List.mem_append.mp hc with hc | hc
  · rcases List.mem_append.mp hc with hc | hc
    · rcases List.mem_append.mp hc with hc | hc
      · rcases hsign with ⟨rfl, rfl⟩ | ⟨rfl, rfl, _⟩
        · rw [List.mem_singleton.mp hc]
          decide
        · cases hc
      · exact hdigit c (takeDigits_digits (readInteger_digits hdigits).1 c hc)
    · rcases readFraction_digits hfraction with rfl | ⟨later, rfl, hlater⟩
      · cases hc
      · rcases List.mem_cons.mp hc with rfl | hc
        · decide
        · exact hdigit c (hlater c hc)
  · rcases readExponent_digits hexponent with rfl | ⟨e, mark, later, rfl, he, hmark, hlater⟩
    · cases hc
    · rcases List.mem_append.mp hc with hc | hc
      · rcases List.mem_cons.mp hc with rfl | hc
        · rcases he with rfl | rfl <;> decide
        · rcases hmark with rfl | rfl | rfl
          · cases hc
          · rw [List.mem_singleton.mp hc]
            decide
          · rw [List.mem_singleton.mp hc]
            decide
      · exact hdigit c (hlater c hc)

theorem matchInteger_signed {cs sign unsigned : List Char} (h : Signed cs sign unsigned) :
    FormulaParser.matchInteger cs = FormulaParser.matchDigits sign unsigned := by
  rcases h with ⟨rfl, rfl⟩ | ⟨rfl, rfl, hhead⟩
  · rfl
  · rw [FormulaParser.matchInteger]
    exact hhead

theorem matchInteger_of_readInteger {cs sign unsigned digits rest : List Char} (hsign : Signed cs sign unsigned)
    (h : readInteger unsigned = some (digits, rest)) : FormulaParser.matchInteger cs = some (sign ++ digits, rest) := by
  obtain ⟨htaken, hdigits, hzero⟩ := readInteger_digits h
  rw [matchInteger_signed hsign, FormulaParser.matchDigits.eq_def]
  split
  · rename_i later
    rw [takeDigits_eq, List.takeWhile_cons_of_pos (by decide), List.dropWhile_cons_of_pos (by decide)] at htaken
    obtain ⟨rfl, rfl⟩ := Prod.mk.inj htaken
    cases later with
    | nil => rfl
    | cons c later =>
      by_cases hdigit : FormulaParser.isDigitUnit c = true
      · rw [List.takeWhile_cons_of_pos hdigit] at hzero
        exact absurd rfl (hzero c _)
      · rw [List.takeWhile_cons_of_neg hdigit, List.dropWhile_cons_of_neg hdigit]
  · rw [htaken]
    cases digits with
    | nil => exact absurd rfl hdigits
    | cons digit digits => rfl

theorem readFraction_of_ne {cs : List Char} (h : ∀ tail, cs ≠ '.' :: tail) : readFraction cs = some ([], cs) := by
  rw [readFraction.eq_def]
  split
  · exact absurd rfl (h _)
  · rfl

theorem matchFraction_of_ne {cs : List Char} (h : ∀ tail, cs ≠ '.' :: tail) : FormulaParser.matchFraction cs = ([], cs) := by
  rw [FormulaParser.matchFraction.eq_def]
  split
  · exact absurd rfl (h _)
  · rfl

theorem matchFraction_of_readFraction {cs fraction rest : List Char} (h : readFraction cs = some (fraction, rest)) :
    FormulaParser.matchFraction cs = (fraction, rest) := by
  by_cases hdot : ∃ tail, cs = '.' :: tail
  · obtain ⟨tail, rfl⟩ := hdot
    rw [readFraction] at h
    rw [FormulaParser.matchFraction]
    rcases htaken : takeDigits tail with ⟨digits, after⟩
    rw [htaken] at h
    cases digits with
    | nil => cases h
    | cons digit digits =>
      cases h
      rfl
  · rw [readFraction_of_ne fun tail heq => hdot ⟨tail, heq⟩] at h
    cases h
    exact matchFraction_of_ne fun tail heq => hdot ⟨tail, heq⟩

theorem matchExponent_cons (c : Char) (cs : List Char) : FormulaParser.matchExponent (c :: cs) =
    if c = 'e' ∨ c = 'E' then
      match takeDigits (exponentSign cs).2 with
      | ([], _) => ([], c :: cs)
      | (digits, rest) => (c :: (exponentSign cs).1 ++ digits, rest)
    else ([], c :: cs) := rfl

theorem matchExponent_of_readExponent {cs exponent rest : List Char} (h : readExponent cs = some (exponent, rest)) :
    FormulaParser.matchExponent cs = (exponent, rest) := by
  cases cs with
  | nil =>
    cases h
    rfl
  | cons c cs =>
    rw [readExponent_cons] at h
    rw [matchExponent_cons]
    split at h
    · split at h
      · cases h
      · rename_i he _ digits later hempty htaken
        cases h
        rw [if_pos he]
    · rename_i he
      cases h
      rw [if_neg he]

theorem matchNumber_of_readNumber {cs rest : List Char} {text : String} (h : readNumber cs = some (text, rest)) :
    FormulaParser.matchNumber cs = some (text.toList, rest) := by
  obtain ⟨sign, unsigned, hsign⟩ := exists_signed cs
  obtain ⟨digits, afterInteger, fraction, afterFraction, exponent, hdigits, hfraction, hexponent, rfl⟩ := readNumber_parts hsign h
  rw [FormulaParser.matchNumber, matchInteger_of_readInteger hsign hdigits, Option.map_some, String.toList_ofList]
  simp only [matchFraction_of_readFraction hfraction, matchExponent_of_readExponent hexponent]

section JsonTexts

variable {ν : Type} [SourceRuntime ν]

def unsignedZero (n : ν) : ν :=
  if SourceRuntime.isZero n then SourceRuntime.zero else n

theorem isFinite_unsignedZero {n : ν} (h : SourceRuntime.isFinite n = true) : SourceRuntime.isFinite (unsignedZero n) = true := by
  unfold unsignedZero
  split
  · exact SourceRuntime.isFinite_zero
  · exact h

theorem numberToString_readable : ReadableTexts (SourceRuntime.numberToString (ν := ν)) SourceRuntime.isFinite where
  reads n h rest hrest := by
    have hread := readNumber_append (SourceRuntime.numberToString_reads n h) (numberEnd_of_delimited hrest)
    rwa [List.nil_append] at hread

theorem quotedUnits_isUnit (s : JsString) : ∀ c ∈ JsString.quotedUnits s, IsUnit c := by
  intro c hc
  obtain ⟨source, _, hc⟩ := List.mem_flatMap.mp hc
  obtain ⟨unit, _, rfl⟩ := List.mem_map.mp hc
  exact isUnit_unitChar _

def UnitText (cs : List Char) : Prop :=
  ∀ c ∈ cs, IsUnit c

theorem unitText_nil : UnitText [] := fun _ h => nomatch h

theorem UnitText.append {xs ys : List Char} (hxs : UnitText xs) (hys : UnitText ys) : UnitText (xs ++ ys) :=
  List.forall_mem_append.mpr ⟨hxs, hys⟩

theorem UnitText.cons {c : Char} {cs : List Char} (hc : c.toNat ≤ 0xFFFF) (hcs : UnitText cs) : UnitText (c :: cs) :=
  List.forall_mem_cons.mpr ⟨isUnit_of_basic hc, hcs⟩

theorem text_isUnit (value : JsonTree JsString ν) (h : value.allNumbers SourceRuntime.isFinite = true) :
    UnitText (value.text JsString.unitCodec SourceRuntime.numberToString) := by
  induction value using JsonTree.inductOn with
  | null => exact .cons (by decide) (.cons (by decide) (.cons (by decide) (.cons (by decide) unitText_nil)))
  | boolean value =>
    cases value with
    | true => exact .cons (by decide) (.cons (by decide) (.cons (by decide) (.cons (by decide) unitText_nil)))
    | false => exact .cons (by decide) (.cons (by decide) (.cons (by decide) (.cons (by decide) (.cons (by decide) unitText_nil))))
  | number value =>
    exact fun c hc => isUnit_of_basic (readNumber_basic (SourceRuntime.numberToString_reads value h) c hc)
  | string value =>
    exact .cons (by decide) (.append (quotedUnits_isUnit value) (.cons (by decide) unitText_nil))
  | array items ih =>
    rw [JsonTree.allNumbers, treeItems_iff] at h
    have hitems : UnitText (JsonTree.itemsText JsString.unitCodec SourceRuntime.numberToString items) := by
      induction items with
      | nil => exact unitText_nil
      | cons item items ihitems =>
        have hitem := ih item List.mem_cons_self (h item List.mem_cons_self)
        have hlater := ihitems (fun later hlater => ih later (List.mem_cons_of_mem _ hlater))
          fun later hlater => h later (List.mem_cons_of_mem _ hlater)
        cases items with
        | nil => exact hitem
        | cons next items => exact .append hitem (.cons (by decide) hlater)
    exact .cons (by decide) (.append hitems (.cons (by decide) unitText_nil))
  | object fields ih =>
    rw [JsonTree.allNumbers, treeFields_iff] at h
    have hfields : UnitText (JsonTree.fieldsText JsString.unitCodec SourceRuntime.numberToString fields) := by
      induction fields with
      | nil => exact unitText_nil
      | cons field fields ihfields =>
        obtain ⟨key, value⟩ := field
        have hvalue := ih (key, value) List.mem_cons_self (h (key, value) List.mem_cons_self)
        have hlater := ihfields (fun later hlater => ih later (List.mem_cons_of_mem _ hlater))
          fun later hlater => h later (List.mem_cons_of_mem _ hlater)
        have hkey := quotedUnits_isUnit key
        cases fields with
        | nil => exact .cons (by decide) (.append hkey (.cons (by decide) (.cons (by decide) hvalue)))
        | cons next fields =>
          exact .cons (by decide) (.append hkey (.cons (by decide) (.cons (by decide) (.append hvalue (.cons (by decide) hlater)))))
    exact .cons (by decide) (.append hfields (.cons (by decide) unitText_nil))

theorem chars_stringifyTree {value : JsonTree JsString ν} (h : value.allNumbers SourceRuntime.isFinite = true) :
    (stringifyTree value).chars = value.text JsString.unitCodec SourceRuntime.numberToString :=
  JsString.chars_ofChars (text_isUnit value h)

/-- A value which `JSON.parse` and `z.json()` make of a text. -/
structure OwnJson (value : JsonTree JsString ν) : Prop where
  keys : value.AllKeys (OwnKeys arrayIndex (.ofString "__proto__"))
  finite : value.allNumbers SourceRuntime.isFinite = true

theorem ownJson_string (s : JsString) : OwnJson (.string s : JsonTree JsString ν) :=
  ⟨trivial, rfl⟩

theorem readJsonSchema_own {source : JsString} {value kept : JsonTree JsString ν} (hparsed : parseJsonTree source = some value)
    (h : readJsonSchema value = some kept) : OwnJson kept := by
  obtain ⟨raw, _, rfl⟩ := Option.map_eq_some_iff.mp hparsed
  obtain ⟨hfinite, hkept⟩ := Option.ite_none_right_eq_some.mp h
  rw [← Option.some.inj hkept]
  exact ⟨withoutKey_allKeys _ _ _ (withOwnMembers_allKeys _ arrayIndex_inj raw), hfinite⟩

theorem OwnJson.mapNumbers {value : JsonTree JsString ν} (h : OwnJson value) : OwnJson (value.mapNumbers unsignedZero) :=
  ⟨mapNumbers_allKeys _ _ h.keys, mapNumbers_allNumbers (fun _ => isFinite_unsignedZero) value h.finite⟩

theorem readJsonSchema_eq {value : JsonTree JsString ν} (h : OwnJson value) : readJsonSchema value = some value := by
  simp only [readJsonSchema, withoutKey_eq_self arrayIndex _ value h.keys]
  exact if_pos h.finite

theorem parseJsonTree_stringify {value : JsonTree JsString ν} (h : OwnJson value) :
    parseJsonTree (stringifyTree value) = some (value.mapNumbers unsignedZero) := by
  have hread : parseTree JsString.unitCodec SourceRuntime.parseNumber (value.text JsString.unitCodec SourceRuntime.numberToString) = _ :=
    parseTree_text numberToString_readable SourceRuntime.parseNumber h.finite
  have hnumbers : value.mapNumbers (fun n => SourceRuntime.parseNumber (SourceRuntime.numberToString n)) =
      value.mapNumbers unsignedZero :=
    mapNumbers_congr SourceRuntime.isFinite SourceRuntime.parseNumber_numberToString value h.finite
  rw [parseJsonTree, chars_stringifyTree h.finite, hread, hnumbers, Option.map_some,
    withOwnMembers_eq_self arrayIndex _ _ h.mapNumbers.keys]

end JsonTexts

namespace FormulaParser

theorem scanString_plain {c : Char} (hescape : c ≠ '\\') (hquote : c ≠ '"') {cs encoded rest : List Char}
    (h : scanString cs = .ok (encoded, rest)) : scanString (c :: cs) = .ok (c :: encoded, rest) := by
  rw [scanString]
  · rw [h]
  · rintro rfl
    exact (hescape rfl).elim
  · rintro d later rfl
    exact (hescape rfl).elim
  · exact hquote

theorem scanString_escape (c : Char) {cs encoded rest : List Char} (h : scanString cs = .ok (encoded, rest)) :
    scanString ('\\' :: c :: cs) = .ok ('\\' :: c :: encoded, rest) := by
  rw [scanString, h]

theorem hexValue_plain {c : Char} {n : Nat} (h : hexValue c = some n) : c ≠ '\\' ∧ c ≠ '"' := by
  have hescape : hexValue '\\' = none := by decide
  have hquote : hexValue '"' = none := by decide
  constructor
  · rintro rfl
    exact nomatch hescape.symm.trans h
  · rintro rfl
    exact nomatch hquote.symm.trans h

theorem scanString_of_read {cs rest : List Char} {units : List UInt16} (h : JsString.readUnitString cs = some (units, rest)) :
    ∃ encoded, scanString cs = .ok (encoded, rest) ∧ cs = encoded ++ rest := by
  fun_induction JsString.readUnitString cs generalizing units rest with
  | case1 => cases h
  | case2 later =>
    cases h
    exact ⟨['"'], by rw [scanString], rfl⟩
  | case3 a b c d later ih =>
    obtain ⟨unit, hunit, h⟩ := Option.bind_eq_some_iff.mp h
    obtain ⟨⟨units', rest'⟩, hlater, h⟩ := Option.bind_eq_some_iff.mp h
    obtain ⟨rfl, rfl⟩ := Prod.mk.inj (Option.some.inj h)
    obtain ⟨encoded, hscan, heq⟩ := ih hlater
    obtain ⟨_, ha, hunit⟩ := Option.bind_eq_some_iff.mp hunit
    obtain ⟨_, hb, hunit⟩ := Option.bind_eq_some_iff.mp hunit
    obtain ⟨_, hc, hunit⟩ := Option.bind_eq_some_iff.mp hunit
    obtain ⟨_, hd, _⟩ := Option.bind_eq_some_iff.mp hunit
    refine ⟨'\\' :: 'u' :: a :: b :: c :: d :: encoded, ?_, by rw [heq]; rfl⟩
    exact scanString_escape 'u' (scanString_plain (hexValue_plain ha).1 (hexValue_plain ha).2
      (scanString_plain (hexValue_plain hb).1 (hexValue_plain hb).2
        (scanString_plain (hexValue_plain hc).1 (hexValue_plain hc).2
          (scanString_plain (hexValue_plain hd).1 (hexValue_plain hd).2 hscan))))
  | case4 c later hu ih =>
    obtain ⟨unit, _, h⟩ := Option.bind_eq_some_iff.mp h
    obtain ⟨⟨units', rest'⟩, hlater, h⟩ := Option.bind_eq_some_iff.mp h
    obtain ⟨rfl, rfl⟩ := Prod.mk.inj (Option.some.inj h)
    obtain ⟨encoded, hscan, heq⟩ := ih hlater
    exact ⟨'\\' :: c :: encoded, scanString_escape c hscan, by rw [heq]; rfl⟩
  | case5 => cases h
  | case6 c later hquote _ _ hvisible ih =>
    obtain ⟨⟨units', rest'⟩, hlater, h⟩ := Option.bind_eq_some_iff.mp h
    obtain ⟨rfl, rfl⟩ := Prod.mk.inj (Option.some.inj h)
    obtain ⟨encoded, hscan, heq⟩ := ih hlater
    exact ⟨c :: encoded, scanString_plain (not_or.mp hvisible).2 hquote hscan, by rw [heq]; rfl⟩

theorem scanString_quoted (s : JsString) (rest : List Char) :
    scanString (JsString.quotedUnits s ++ '"' :: rest) = .ok (JsString.quotedUnits s ++ ['"'], rest) := by
  have hread : JsString.readUnitString (JsString.quotedUnits s ++ '"' :: rest) = some (s.toUnits.map UInt16.ofNat, rest) :=
    JsString.readUnitString_quoted s.toUnits_lt rest
  obtain ⟨encoded, hscan, heq⟩ := scanString_of_read hread
  have hencoded : JsString.quotedUnits s ++ ['"'] = encoded := by
    have hwhole : (JsString.quotedUnits s ++ ['"']) ++ rest = encoded ++ rest := by
      rw [List.append_assoc, List.singleton_append, heq]
    exact List.append_cancel_right hwhole
  rw [hscan, hencoded]

theorem scanColumn_plain {c : Char} (h : c ≠ ']') (cs : List Char) :
    scanColumn (c :: cs) = (scanColumn cs).map fun result => (c :: result.1, result.2) := by
  rw [scanColumn]
  · exact fun _ heq => absurd heq h
  · exact h

theorem scanColumn_escaped (name : List Char) {rest : List Char} (h : rest.head? ≠ some ']') :
    scanColumn ((name.flatMap fun c => if c = ']' then [']', ']'] else [c]) ++ ']' :: rest) = some (name, rest) := by
  induction name with
  | nil =>
    rw [List.flatMap_nil, List.nil_append, scanColumn]
    rintro later rfl
    exact h rfl
  | cons c name ih =>
    rw [List.flatMap_cons, List.append_assoc]
    by_cases hc : c = ']'
    · subst hc
      rw [if_pos rfl, List.cons_append, List.cons_append, List.nil_append, scanColumn, ih]
      rfl
    · rw [if_neg hc, List.singleton_append, scanColumn_plain hc, ih]
      rfl

end FormulaParser

end ByokGrid
