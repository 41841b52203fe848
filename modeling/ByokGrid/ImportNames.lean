import ByokGrid.ImportPolicy
import ByokGrid.PaddedNumbers

/-! The names which an import gives to new columns: where they are free, and when
one of them is given twice. -/

namespace ByokGrid

section Search

variable {α : Type}

theorem exists_unreserved {name : Nat → α} (hname : Function.Injective name) (reserved : List α) (start : Nat) :
    ∃ k, start ≤ k ∧ k ≤ start + reserved.length ∧ name k ∉ reserved := by
  by_contra hnone
  push Not at hnone
  have hnodup : ((List.range' start (reserved.length + 1)).map name).Nodup := List.Nodup.map hname List.nodup_range'
  have hsubset : (List.range' start (reserved.length + 1)).map name ⊆ reserved := by
    intro x hx
    obtain ⟨k, hk, rfl⟩ := List.mem_map.mp hx
    have hrange := List.mem_range'_1.mp hk
    exact hnone k hrange.1 (by omega)
  have hlength := (List.subperm_of_subset hnodup hsubset).length_le
  rw [List.length_map, List.length_range'] at hlength
  omega

end Search

/-- A space and a text of ASCII after it are normal by themselves: neither operation looks across the space. -/
class SuffixNames (ν : Type) [JsRuntime ν] : Prop where
  normalizeNFKC_suffix : ∀ s t : String, (t.toList.all fun c => c.toNat < 128) = true →
    JsRuntime.normalizeNFKC ν (s ++ " " ++ t) = JsRuntime.normalizeNFKC ν s ++ " " ++ t
  toLocaleLowerCase_suffix : ∀ s t : String, (t.toList.all fun c => c.toNat < 128) = true →
    JsRuntime.toLocaleLowerCase ν (s ++ " " ++ t) =
      JsRuntime.toLocaleLowerCase ν s ++ " " ++ String.ofList (t.toList.map Char.toLower)

instance : SuffixNames SafeInteger where
  normalizeNFKC_suffix _ _ _ := rfl
  toLocaleLowerCase_suffix s t _ := by
    simp only [JsRuntime.toLocaleLowerCase, String.toList_append, List.map_append, String.ofList_append]
    rfl

def suffixText (suffix : Nat) : String :=
  "(import " ++ toString suffix ++ ")"

theorem importName_eq (header : String) (suffix : Nat) : importName header suffix = header ++ " " ++ suffixText suffix := by
  simp only [importName, suffixText, String.append_assoc]
  rfl

theorem mem_suffixText {suffix : Nat} {c : Char} (h : c ∈ (suffixText suffix).toList) :
    c.isDigit = true ∨ c ∈ "(import )".toList := by
  simp only [suffixText, String.toList_append, List.mem_append] at h
  rcases h with (hword | hdigit) | hlast
  · exact .inr (List.mem_append_left (")".toList) hword)
  · rw [Nat.toString_eq_ofList_toDigits, String.toList_ofList] at hdigit
    exact .inl (Nat.isDigit_of_mem_toDigits (by decide) (by decide) hdigit)
  · exact .inr (List.mem_append_right ("(import ".toList) hlast)

theorem suffixText_ascii (suffix : Nat) : ((suffixText suffix).toList.all fun c => c.toNat < 128) = true := by
  rw [List.all_eq_true]
  intro c hc
  rcases mem_suffixText hc with hdigit | hletter
  · exact decide_eq_true (lt_of_le_of_lt (isDigit_bounds hdigit).2 (by decide))
  · have hletters : ("(import )".toList.all fun c => c.toNat < 128) = true := by decide
    exact List.all_eq_true.mp hletters c hletter

theorem suffixText_lower (suffix : Nat) : String.ofList ((suffixText suffix).toList.map Char.toLower) = suffixText suffix := by
  have hmap : (suffixText suffix).toList.map Char.toLower = (suffixText suffix).toList := by
    refine (List.map_congr_left fun c hc => ?_).trans (List.map_id _)
    rcases mem_suffixText hc with hdigit | hletter
    · exact toLower_digit hdigit
    · have hletters : ("(import )".toList.all fun c => c.toLower = c) = true := by decide
      exact of_decide_eq_true (List.all_eq_true.mp hletters c hletter)
  rw [hmap, String.ofList_toList]

theorem suffixText_injective : Function.Injective suffixText := by
  intro m n h
  have hlists := congrArg String.toList h
  simp only [suffixText, String.toList_append, List.append_assoc] at hlists
  exact toString_nat_injective (List.append_cancel_right (List.append_cancel_left hlists))

section Names

variable {ν : Type} [JsRuntime ν] [SuffixNames ν]

def PlainHeader (header : String) : Prop :=
  jsTrim header = header ∧ header ≠ ""

omit [JsRuntime ν] [SuffixNames ν] in
theorem jsTrim_importName {header : String} (h : PlainHeader header) (suffix : Nat) :
    jsTrim (importName header suffix) = importName header suffix := by
  have hchars : (importName header suffix).toList = header.toList ++ " (import ".toList ++ (toString suffix).toList ++ [')'] := by
    simp only [importName, String.toList_append]
    rfl
  rw [jsTrim, hchars, trimChars_of_trimmed, ← hchars, String.ofList_toList]
  refine ⟨fun c hc => ?_, fun c hc => ?_⟩
  · have htrimmed := trimmed_trimChars header.toList
    have hsame : trimChars header.toList = header.toList := by
      rw [← String.toList_ofList (l := trimChars header.toList)]
      exact congrArg String.toList h.1
    rw [hsame] at htrimmed
    have hne : header.toList ≠ [] := fun hnil => h.2 (String.toList_eq_nil_iff.mp hnil)
    obtain ⟨first, rest, hfirst⟩ := List.exists_cons_of_ne_nil hne
    refine htrimmed.1 c ?_
    rw [hfirst] at hc ⊢
    exact hc
  · rw [List.getLast?_concat, Option.mem_some_iff] at hc
    rw [← hc]
    decide

theorem normalizeHeader_importName {header : String} (h : PlainHeader header) (suffix : Nat) :
    normalizeHeader ν (importName header suffix) = normalizeHeader ν header ++ " " ++ suffixText suffix := by
  rw [normalizeHeader, jsTrim_importName h, importName_eq, SuffixNames.normalizeNFKC_suffix _ _ (suffixText_ascii suffix),
    SuffixNames.toLocaleLowerCase_suffix _ _ (suffixText_ascii suffix), suffixText_lower, normalizeHeader, h.1]

theorem importName_injective {header : String} (h : PlainHeader header) :
    Function.Injective fun suffix => normalizeHeader ν (importName header suffix) := by
  intro m n heq
  simp only [normalizeHeader_importName h] at heq
  exact suffixText_injective (String.append_right_inj _ |>.mp heq)

omit [SuffixNames ν] in
theorem freeSuffix_spec (reserved : List String) (header : String) (attempts suffix : Nat) :
    suffix ≤ freeSuffix ν reserved header attempts suffix ∧
      (∀ k, suffix ≤ k → k < freeSuffix ν reserved header attempts suffix →
        normalizeHeader ν (importName header k) ∈ reserved) ∧
      (normalizeHeader ν (importName header (freeSuffix ν reserved header attempts suffix)) ∉ reserved ∨
        freeSuffix ν reserved header attempts suffix = suffix + attempts) := by
  induction attempts generalizing suffix with
  | zero =>
    refine ⟨le_refl _, fun k hle hlt => ?_, .inr rfl⟩
    rw [freeSuffix] at hlt
    omega
  | succ attempts ih =>
    rw [freeSuffix]
    by_cases htaken : normalizeHeader ν (importName header suffix) ∈ reserved
    · rw [if_pos htaken]
      obtain ⟨hle, hbefore, hend⟩ := ih (suffix + 1)
      refine ⟨by omega, fun k hk hlt => ?_, ?_⟩
      · by_cases hfirst : k = suffix
        · rwa [hfirst]
        · exact hbefore k (by omega) hlt
      · rcases hend with hfree | hused
        · exact .inl hfree
        · exact .inr (by omega)
    · rw [if_neg htaken]
      exact ⟨le_refl _, fun k hle hlt => absurd hlt (by omega), .inl htaken⟩

variable (ν) in
structure LeastSuffix (reserved : List String) (header : String) (suffix : Nat) : Prop where
  start : 2 ≤ suffix
  free : normalizeHeader ν (importName header suffix) ∉ reserved
  taken : ∀ k, 2 ≤ k → k < suffix → normalizeHeader ν (importName header k) ∈ reserved

omit [SuffixNames ν] in
theorem LeastSuffix.unique {reserved : List String} {header : String} {m n : Nat} (hm : LeastSuffix ν reserved header m)
    (hn : LeastSuffix ν reserved header n) : m = n := by
  rcases Nat.lt_trichotomy m n with hlt | heq | hgt
  · exact absurd (hn.taken m hm.start hlt) hm.free
  · exact heq
  · exact absurd (hm.taken n hn.start hgt) hn.free

theorem freeSuffix_least (reserved : List String) {header : String} (h : PlainHeader header) :
    LeastSuffix ν reserved header (freeSuffix ν reserved header reserved.length 2) := by
  obtain ⟨hstart, hbefore, hend⟩ := freeSuffix_spec (ν := ν) reserved header reserved.length 2
  refine ⟨hstart, ?_, hbefore⟩
  rcases hend with hfree | hused
  · exact hfree
  · obtain ⟨k, hle, hbound, hfree⟩ := exists_unreserved (importName_injective (ν := ν) h) reserved 2
    by_cases hlast : k = freeSuffix ν reserved header reserved.length 2
    · rwa [← hlast]
    · exact absurd (hbefore k hle (by omega)) hfree

def newNames (plans : List CsvColumnPlan) : List String :=
  (plans.filter fun plan => plan.existingColumnId.isNone).map CsvColumnPlan.columnName

/-- The new names differ from each other and from the columns there are, and are names of columns. -/
structure UniqueNames (existingColumns : List (Column ν)) (plans : List CsvColumnPlan) : Prop where
  distinct : ((newNames plans).map (normalizeHeader ν)).Nodup
  fresh : ∀ name ∈ newNames plans, ∀ column ∈ existingColumns, normalizeHeader ν name ≠ normalizeHeader ν column.name
  named : ∀ name ∈ newNames plans, name ≠ ""
  short : ∀ name ∈ newNames plans, utf16Length name ≤ 120

/-- What a header may meet: no column of its name, a column it is mapped to, or one which blocks the name. -/
inductive HeaderColumn where
  | unused
  | mapped (name : String)
  | blocked

def headerColumn (existingColumns : List (Column ν)) (header : String) : HeaderColumn :=
  match existingColumns.find? fun column => normalizeHeader ν column.name = normalizeHeader ν header with
  | none => .unused
  | some existing => if existing.kind = .input ∧ existing.valueType = .text then .mapped existing.name else .blocked

def shortenedName (header : String) (suffix : Nat) : String :=
  importName (trimEnd (sliceUnits 100 header)) suffix

/-- The headers, one after the other: a header with no column is not spelled like a name given to
one before it, and a suffixed name which is too long is free and short enough once it is shortened. -/
def FreeHeaders (existingColumns : List (Column ν)) : List String → List String → Prop
  | _, [] => True
  | reserved, header :: headers =>
    match headerColumn existingColumns (jsTrim header) with
    | .unused =>
      normalizeHeader ν (jsTrim header) ∉ reserved ∧
        FreeHeaders existingColumns (normalizeHeader ν (jsTrim header) :: reserved) headers
    | .mapped name => FreeHeaders existingColumns (normalizeHeader ν name :: reserved) headers
    | .blocked => ∀ suffix, LeastSuffix ν reserved (jsTrim header) suffix →
      if utf16Length (importName (jsTrim header) suffix) > 120 then
        normalizeHeader ν (shortenedName (jsTrim header) suffix) ∉ reserved ∧
          utf16Length (shortenedName (jsTrim header) suffix) ≤ 120 ∧
          FreeHeaders existingColumns (normalizeHeader ν (shortenedName (jsTrim header) suffix) :: reserved) headers
      else FreeHeaders existingColumns (normalizeHeader ν (importName (jsTrim header) suffix) :: reserved) headers

omit [SuffixNames ν]

theorem planHeader_unused {existingColumns : List (Column ν)} {header : String}
    (h : headerColumn existingColumns header = .unused) (reserved : List String) :
    planHeader existingColumns reserved header = ⟨header, none, header⟩ := by
  cases hfind : existingColumns.find? fun column => normalizeHeader ν column.name = normalizeHeader ν header with
  | none => simp only [planHeader, hfind]
  | some column =>
    simp only [headerColumn, hfind] at h
    split_ifs at h

theorem planHeader_mapped {existingColumns : List (Column ν)} {header name : String}
    (h : headerColumn existingColumns header = .mapped name) (reserved : List String) :
    ∃ column ∈ existingColumns, column.name = name ∧
      planHeader existingColumns reserved header = ⟨name, some column.id, header⟩ := by
  cases hfind : existingColumns.find? fun column => normalizeHeader ν column.name = normalizeHeader ν header with
  | none =>
    simp only [headerColumn, hfind] at h
    cases h
  | some column =>
    simp only [headerColumn, hfind] at h
    split_ifs at h with htext
    cases h
    refine ⟨column, List.mem_of_find?_eq_some hfind, rfl, ?_⟩
    simp only [planHeader, hfind]
    exact if_pos htext

theorem planHeader_blocked {existingColumns : List (Column ν)} {header : String}
    (h : headerColumn existingColumns header = .blocked) (reserved : List String) :
    planHeader existingColumns reserved header = ⟨suffixedName ν reserved header, none, header⟩ := by
  cases hfind : existingColumns.find? fun column => normalizeHeader ν column.name = normalizeHeader ν header with
  | none =>
    simp only [headerColumn, hfind] at h
    cases h
  | some column =>
    simp only [headerColumn, hfind] at h
    split_ifs at h with htext
    simp only [planHeader, hfind]
    exact if_neg htext

variable (ν) in
structure FreeNames (reserved : List String) (plans : List CsvColumnPlan) : Prop where
  distinct : ((newNames plans).map (normalizeHeader ν)).Nodup
  each : ∀ name ∈ newNames plans, normalizeHeader ν name ∉ reserved ∧ name ≠ "" ∧ utf16Length name ≤ 120

theorem freeNames_new {reserved : List String} {name header : String} {plans : List CsvColumnPlan} :
    FreeNames ν reserved (⟨name, none, header⟩ :: plans) ↔
      (normalizeHeader ν name ∉ reserved ∧ name ≠ "" ∧ utf16Length name ≤ 120) ∧
        FreeNames ν (normalizeHeader ν name :: reserved) plans := by
  have hnames : newNames (⟨name, none, header⟩ :: plans) = name :: newNames plans := rfl
  constructor
  · rintro ⟨hdistinct, heach⟩
    rw [hnames, List.map_cons, List.nodup_cons] at hdistinct
    rw [hnames, List.forall_mem_cons] at heach
    refine ⟨heach.1, hdistinct.2, fun other hother => ⟨?_, (heach.2 other hother).2⟩⟩
    rw [List.mem_cons, not_or]
    exact ⟨fun heq => hdistinct.1 (heq ▸ List.mem_map_of_mem hother), (heach.2 other hother).1⟩
  · rintro ⟨hfirst, hdistinct, heach⟩
    refine ⟨?_, ?_⟩
    · rw [hnames, List.map_cons, List.nodup_cons]
      refine ⟨fun hmem => ?_, hdistinct⟩
      obtain ⟨other, hother, heq⟩ := List.mem_map.mp hmem
      exact (heach other hother).1 (heq ▸ List.mem_cons_self)
    · rw [hnames, List.forall_mem_cons]
      exact ⟨hfirst, fun other hother =>
        ⟨fun hmem => (heach other hother).1 (List.mem_cons_of_mem _ hmem), (heach other hother).2⟩⟩

theorem freeNames_mapped {reserved : List String} {name id header : String} {plans : List CsvColumnPlan}
    (h : normalizeHeader ν name ∈ reserved) :
    FreeNames ν reserved (⟨name, some id, header⟩ :: plans) ↔ FreeNames ν (normalizeHeader ν name :: reserved) plans := by
  have hnames : newNames (⟨name, some id, header⟩ :: plans) = newNames plans := rfl
  have hsame : ∀ other, other ∈ normalizeHeader ν name :: reserved ↔ other ∈ reserved := by
    intro other
    rw [List.mem_cons]
    exact ⟨fun hmem => hmem.elim (fun heq => heq ▸ h) fun hold => hold, .inr⟩
  constructor
  · rintro ⟨hdistinct, heach⟩
    exact ⟨hdistinct, fun other hother => by rw [hsame]; exact heach other hother⟩
  · rintro ⟨hdistinct, heach⟩
    refine ⟨hdistinct, fun other hother => ?_⟩
    have hother := heach other hother
    rwa [hsame] at hother

theorem importName_ne_empty (header : String) (suffix : Nat) : importName header suffix ≠ "" := by
  intro h
  have hchars := congrArg String.toList h
  simp [importName] at hchars

theorem validateHeader_eq_ok {header : String} {u : Unit} (h : validateHeader header = .ok u) :
    header ≠ "" ∧ utf16Length header ≤ 120 := by
  simp only [validateHeader, except_bind_eq_ok, requireThat_eq_ok, exists_and_left, decide_eq_true_eq] at h
  exact ⟨h.1, h.2.1⟩

variable [SuffixNames ν]

theorem planHeaders_free {existingColumns : List (Column ν)} {headers normalizedHeaders reserved : List String}
    {plans : List CsvColumnPlan} (hexisting : ∀ column ∈ existingColumns, normalizeHeader ν column.name ∈ reserved)
    (h : planHeaders existingColumns headers normalizedHeaders reserved = .ok plans) :
    FreeNames ν reserved plans ↔ FreeHeaders existingColumns reserved headers := by
  induction headers generalizing normalizedHeaders reserved plans with
  | nil =>
    cases h
    exact ⟨fun _ => trivial, fun _ => ⟨List.nodup_nil, List.forall_mem_nil _⟩⟩
  | cons header headers ih =>
    simp only [planHeaders, except_bind_eq_ok, requireThat_eq_ok, exists_and_left, pure, Except.pure, Except.ok.injEq] at h
    obtain ⟨_, hvalid, _, -, rest, hrest, rfl⟩ := h
    obtain ⟨hnamed, hshort⟩ := validateHeader_eq_ok hvalid
    have hplain : PlainHeader (jsTrim header) := ⟨jsTrim_jsTrim header, hnamed⟩
    have hmore : ∀ name, ∀ column ∈ existingColumns, normalizeHeader ν column.name ∈ name :: reserved :=
      fun name column hcolumn => List.mem_cons_of_mem name (hexisting column hcolumn)
    have hlater := ih (hmore _) hrest
    rw [FreeHeaders]
    cases hcolumn : headerColumn existingColumns (jsTrim header) with
    | unused =>
      rw [planHeader_unused hcolumn] at hlater ⊢
      rw [freeNames_new, hlater]
      exact ⟨fun hfree => ⟨hfree.1.1, hfree.2⟩, fun hfree => ⟨⟨hfree.1, hnamed, hshort⟩, hfree.2⟩⟩
    | mapped name =>
      obtain ⟨column, hmem, rfl, hplan⟩ := planHeader_mapped hcolumn reserved
      rw [hplan] at hlater ⊢
      rw [freeNames_mapped (hexisting column hmem), hlater]
    | blocked =>
      rw [planHeader_blocked hcolumn] at hlater ⊢
      have hleast := freeSuffix_least (ν := ν) reserved hplain
      have honly : ∀ p : Nat → Prop, (∀ suffix, LeastSuffix ν reserved (jsTrim header) suffix → p suffix) ↔
          p (freeSuffix ν reserved (jsTrim header) reserved.length 2) :=
        fun p => ⟨fun hall => hall _ hleast, fun hp suffix hsuffix => hleast.unique hsuffix ▸ hp⟩
      simp only [honly]
      rw [freeNames_new, hlater, suffixedName]
      split_ifs with hlong
      · exact ⟨fun hfree => ⟨hfree.1.1, hfree.1.2.2, hfree.2⟩,
          fun hfree => ⟨⟨hfree.1, importName_ne_empty _ _, hfree.2.1⟩, hfree.2.2⟩⟩
      · exact ⟨fun hfree => hfree.2, fun hfree => ⟨⟨hleast.free, importName_ne_empty _ _, by omega⟩, hfree⟩⟩

/-- The search for a suffix ends, and the names which an accepted list of headers gives to
its new columns are unique just when no header is spelled like a name given before it. -/
theorem importNames_exact (headers : List String) (existingColumns : List (Column ν)) :
    (∀ reserved header, PlainHeader header →
      LeastSuffix ν reserved header (freeSuffix ν reserved header reserved.length 2)) ∧
    ∀ plans, planCsvColumns headers existingColumns = .ok plans →
      (UniqueNames existingColumns plans ↔
        FreeHeaders existingColumns (existingColumns.map fun column => normalizeHeader ν column.name) headers) := by
  refine ⟨fun reserved header hplain => freeSuffix_least reserved hplain, fun plans h => ?_⟩
  have hreserved : ∀ column ∈ existingColumns,
      normalizeHeader ν column.name ∈ existingColumns.map fun column => normalizeHeader ν column.name :=
    fun column hcolumn => List.mem_map.mpr ⟨column, hcolumn, rfl⟩
  rw [← planHeaders_free hreserved h]
  constructor
  · rintro ⟨hdistinct, hfresh, hnamed, hshort⟩
    refine ⟨hdistinct, fun name hname => ⟨fun hmem => ?_, hnamed name hname, hshort name hname⟩⟩
    obtain ⟨column, hcolumn, heq⟩ := List.mem_map.mp hmem
    exact hfresh name hname column hcolumn heq.symm
  · rintro ⟨hdistinct, heach⟩
    refine ⟨hdistinct, fun name hname column hcolumn heq => ?_, fun name hname => (heach name hname).2.1,
      fun name hname => (heach name hname).2.2⟩
    exact (heach name hname).1 (List.mem_map.mpr ⟨column, hcolumn, heq.symm⟩)

end Names

def scoreColumns : List (Column SafeInteger) :=
  [{ textInputColumn "score" "table" "Score" with kind := .formula, valueType := .number }]

theorem importNames_exact_score :
    UniqueNames scoreColumns [⟨"Name", none, "Name"⟩, ⟨"Score (import 2)", none, "Score"⟩] ↔
      FreeHeaders scoreColumns ["score"] ["Name", "Score"] :=
  (importNames_exact ["Name", "Score"] scoreColumns).2 _ (by decide)

/-- The second header is spelled like the name which the first one gets. -/
theorem importNames_twice :
    planCsvColumns ["Score", "Score (import 2)"] scoreColumns =
      .ok [⟨"Score (import 2)", none, "Score"⟩, ⟨"Score (import 2)", none, "Score (import 2)"⟩] ∧
    ¬ UniqueNames scoreColumns
      [⟨"Score (import 2)", none, "Score"⟩, ⟨"Score (import 2)", none, "Score (import 2)"⟩] := by
  refine ⟨by decide, fun h => ?_⟩
  exact absurd h.distinct (by decide)

end ByokGrid
