import ByokGrid.Formula

/-! An accepted definition evaluates to a value of its inferred type. -/

namespace ByokGrid

variable {ν : Type}

def CellValue.Fits (value : CellValue ν) (type : CellValueType) : Prop :=
  value.type = .empty ∨ value.type = type

theorem emptyValue_fits (type : CellValueType) : (emptyValue : CellValue ν).Fits type := Or.inl rfl

theorem CellValue.Fits.eq_empty {value : CellValue ν} (h : value.Fits .empty) : value.type = .empty := by
  rcases h with h | h <;> exact h

theorem commonType_ok {message : String} {types : List CellValueType} {result : CellValueType}
    (h : commonType message types = .ok result) {type : CellValueType} (hmem : type ∈ types) :
    type = .empty ∨ type = result := by
  by_cases he : type = .empty
  · exact Or.inl he
  have hconcrete : type ∈ types.filter (· ≠ .empty) := by simp [hmem, he]
  unfold commonType at h
  cases hc : types.filter (· ≠ .empty) with
  | nil =>
    rw [hc] at hconcrete
    cases hconcrete
  | cons first rest =>
    rw [hc] at h hconcrete
    simp only at h
    split at h
    · cases h
    · rename_i hsame
      cases h
      simp only [List.any_eq_true, not_exists, not_and, decide_eq_true_eq, not_not] at hsame
      rcases List.mem_cons.mp hconcrete with heq | hin
      · exact Or.inr heq
      · exact Or.inr (hsame type hin)

theorem fits_of_common {message : String} {types : List CellValueType} {result : CellValueType}
    (h : commonType message types = .ok result) {value : CellValue ν} {type : CellValueType}
    (hmem : type ∈ types) (hfits : value.Fits type) : value.Fits result := by
  rcases commonType_ok h hmem with rfl | rfl
  · exact Or.inl hfits.eq_empty
  · exact hfits

theorem fits_of_mem {args : List (CellValue ν)} {types : List CellValueType}
    (hargs : List.Forall₂ CellValue.Fits args types) {value : CellValue ν} (hmem : value ∈ args) :
    ∃ type ∈ types, value.Fits type := by
  induction hargs with
  | nil => cases hmem
  | @cons head type tail types hhead _ ih =>
    rcases List.mem_cons.mp hmem with rfl | hmem
    · exact ⟨type, List.mem_cons_self, hhead⟩
    · obtain ⟨t, ht, hfits⟩ := ih hmem
      exact ⟨t, List.mem_cons_of_mem _ ht, hfits⟩

theorem getD_fits {args : List (CellValue ν)} {types : List CellValueType} {result : CellValueType}
    (hargs : List.Forall₂ CellValue.Fits args types) {message : String}
    (h : commonType message types = .ok result) (i : Nat) : ((args[i]?).getD emptyValue).Fits result := by
  cases hi : args[i]? with
  | none => exact emptyValue_fits result
  | some value =>
    obtain ⟨type, htype, hfits⟩ := fits_of_mem hargs (List.mem_of_getElem? hi)
    exact fits_of_common h htype hfits

theorem mem_collectFormulaColumnIds {expression : FormulaExpression ν} {columnId : String} {depth : Nat}
    (h : (.column columnId, depth) ∈ walkFormula expression 1) :
    columnId ∈ collectFormulaColumnIds expression := by
  simp only [collectFormulaColumnIds, mem_distinct, List.mem_filterMap]
  exact ⟨(.column columnId, depth), h, rfl⟩

theorem validateFormulaDefinition_ok {expression : FormulaExpression ν}
    {columnTypes : String → Option CellValueType} {type : CellValueType}
    (h : validateFormulaDefinition expression columnTypes = .ok type) :
    checkFormulaLimits 0 (walkFormula expression 1) = .ok () ∧
      inferType columnTypes expression = .ok type ∧ type ≠ .empty := by
  unfold validateFormulaDefinition at h
  cases hc : checkFormulaLimits 0 (walkFormula expression 1) with
  | error e => simp [hc, bind, Except.bind] at h
  | ok _ =>
    cases hi : inferType columnTypes expression with
    | error e => simp [hc, hi, bind, Except.bind] at h
    | ok result =>
      simp only [hc, hi, bind, Except.bind] at h
      split at h
      · cases h
      · rename_i hne
        cases h
        exact ⟨rfl, rfl, hne⟩

section Evaluate

variable [JsRuntime ν]

theorem evaluateArithmetic_fits (fn : FormulaFunction) (args : List (CellValue ν)) :
    (evaluateArithmetic fn args).Fits .number := by
  unfold evaluateArithmetic
  split
  · exact emptyValue_fits _
  · dsimp only
    split
    · exact emptyValue_fits _
    · split
      · exact Or.inr rfl
      · exact emptyValue_fits _

theorem evaluateTextCase_fits (fn : FormulaFunction) (args : List (CellValue ν)) :
    (evaluateTextCase fn args).Fits .text := by
  unfold evaluateTextCase
  split
  · exact emptyValue_fits _
  · split
    · exact emptyValue_fits _
    · exact Or.inr rfl

theorem evaluateCoalesce_fits {args : List (CellValue ν)} {types : List CellValueType}
    {result : CellValueType} {message : String} (hargs : List.Forall₂ CellValue.Fits args types)
    (h : commonType message types = .ok result) : (evaluateCall .coalesce args).Fits result := by
  simp only [evaluateCall]
  cases hf : args.find? (fun value => value.type ≠ .empty) with
  | none => exact emptyValue_fits result
  | some value =>
    obtain ⟨type, htype, hfits⟩ := fits_of_mem hargs (List.mem_of_find?_eq_some hf)
    exact fits_of_common h htype hfits

theorem evaluateIf_fits {args : List (CellValue ν)} {types : List CellValueType}
    {result : CellValueType} {message : String} (hargs : List.Forall₂ CellValue.Fits args types)
    (h : commonType message (types.drop 1) = .ok result) : (evaluateCall .if args).Fits result := by
  simp only [evaluateCall]
  cases hargs with
  | nil => exact emptyValue_fits result
  | @cons head type tail types _ htail =>
    have hbranch : ∀ i, ((tail[i]?).getD emptyValue).Fits result := getD_fits htail h
    cases head with
    | boolean condition =>
      cases condition with
      | true => simpa using hbranch 0
      | false => simpa using hbranch 1
    | _ => exact emptyValue_fits result

theorem evaluateCall_fits {fn : FormulaFunction} {args : List (CellValue ν)}
    {types : List CellValueType} {result : CellValueType}
    (hargs : List.Forall₂ CellValue.Fits args types) (h : inferCallType fn types = .ok result) :
    (evaluateCall fn args).Fits result := by
  unfold inferCallType at h
  cases ha : assertArity fn types.length with
  | error e => simp [ha, bind, Except.bind] at h
  | ok _ =>
    simp only [ha, bind, Except.bind] at h
    cases fn with
    | concat =>
      cases h
      exact Or.inr rfl
    | equals =>
      cases h
      exact Or.inr rfl
    | coalesce => exact evaluateCoalesce_fits hargs h
    | «if» =>
      simp only at h
      split at h
      · cases h
      · exact evaluateIf_fits hargs h
    | lower | upper | trim =>
      simp only at h
      split at h
      · cases h
      · cases h
        simpa only [evaluateCall] using evaluateTextCase_fits _ args
    | add | subtract | multiply | divide =>
      simp only at h
      split at h
      · cases h
      · cases h
        simpa only [evaluateCall] using evaluateArithmetic_fits _ args

def NodesFit (columnTypes : String → Option CellValueType) (values : String → Option (CellValue ν))
    (nodes : List (FormulaExpression ν × Nat)) : Prop :=
  ∀ columnId depth, (.column columnId, depth) ∈ nodes → ∀ value type, values columnId = some value →
    columnTypes columnId = some type → value.Fits type

mutual

theorem evaluateFormula_fits {columnTypes : String → Option CellValueType}
    {values : String → Option (CellValue ν)} (expression : FormulaExpression ν) (depth : Nat)
    {type : CellValueType} (h : inferType columnTypes expression = .ok type)
    (hnodes : NodesFit columnTypes values (walkFormula expression depth)) :
    (evaluateFormula expression values).Fits type := by
  cases expression with
  | column columnId =>
    simp only [inferType] at h
    simp only [evaluateFormula]
    cases ht : columnTypes columnId with
    | none => simp [ht] at h
    | some declared =>
      cases hv : values columnId with
      | none => exact emptyValue_fits type
      | some value =>
        simp only [ht, Except.ok.injEq] at h
        subst h
        exact hnodes columnId depth (by simp [walkFormula]) value declared hv ht
  | literal value =>
    simp only [inferType, Except.ok.injEq] at h
    exact Or.inr h
  | call fn args =>
    simp only [inferType] at h
    cases ht : inferTypes columnTypes args with
    | error e => simp [ht] at h
    | ok types =>
      rw [ht] at h
      have hargs := evaluateArguments_fits args (depth + 1) ht
        (fun columnId d hmem => hnodes columnId d (by simp [walkFormula, hmem]))
      exact evaluateCall_fits hargs h

theorem evaluateArguments_fits {columnTypes : String → Option CellValueType}
    {values : String → Option (CellValue ν)} (args : List (FormulaExpression ν)) (depth : Nat)
    {types : List CellValueType} (h : inferTypes columnTypes args = .ok types)
    (hnodes : NodesFit columnTypes values (walkArguments args depth)) :
    List.Forall₂ CellValue.Fits (evaluateArguments args values) types := by
  cases args with
  | nil =>
    simp only [inferTypes, Except.ok.injEq] at h
    subst h
    exact List.Forall₂.nil
  | cons argument args =>
    simp only [inferTypes] at h
    cases ht : inferType columnTypes argument with
    | error e => simp [ht] at h
    | ok type =>
      cases hr : inferTypes columnTypes args with
      | error e => simp [ht, hr] at h
      | ok rest =>
        simp only [ht, hr, Except.ok.injEq] at h
        subst h
        refine List.Forall₂.cons ?_ ?_
        · exact evaluateFormula_fits argument depth ht
            (fun columnId d hmem => hnodes columnId d (by simp [walkArguments, hmem]))
        · exact evaluateArguments_fits args depth hr
            (fun columnId d hmem => hnodes columnId d (by simp [walkArguments, hmem]))

end

/-- An accepted formula never produces a value of another type than the one
the definition check returned. -/
theorem validateFormulaDefinition_sound {expression : FormulaExpression ν}
    {columnTypes : String → Option CellValueType} {type : CellValueType}
    {values : String → Option (CellValue ν)}
    (haccepted : validateFormulaDefinition expression columnTypes = .ok type)
    (hrow : ∀ columnId ∈ collectFormulaColumnIds expression, ∀ value declared,
      values columnId = some value → columnTypes columnId = some declared →
        value.type = .empty ∨ value.type = declared) :
    (evaluateFormula expression values).type = .empty ∨
      (evaluateFormula expression values).type = type := by
  obtain ⟨_, hinfer, _⟩ := validateFormulaDefinition_ok haccepted
  refine evaluateFormula_fits expression 1 hinfer ?_
  intro columnId depth hmem value declared hvalue hdeclared
  exact hrow columnId (mem_collectFormulaColumnIds hmem) value declared hvalue hdeclared

end Evaluate

/-- `IF(EQUALS(a, "x"), CONCAT(a, "!"), "")` over a text column. -/
def sampleFormula : FormulaExpression SafeInteger :=
  .call .if [.call .equals [.column "a", .literal (.text "x")],
    .call .concat [.column "a", .literal (.text "!")], .literal .empty]

theorem validateFormulaDefinition_sound_sample :
    (evaluateFormula sampleFormula fun id => if id = "a" then some (.text "x") else none).type = .empty ∨
      (evaluateFormula sampleFormula fun id => if id = "a" then some (.text "x") else none).type = .text := by
  have haccepted : validateFormulaDefinition sampleFormula
      (fun id => if id = "a" then some .text else none) = .ok .text := rfl
  refine validateFormulaDefinition_sound haccepted ?_
  intro columnId _ value declared hvalue hdeclared
  by_cases h : columnId = "a"
  · simp only [h, if_true, Option.some.injEq] at hvalue hdeclared
    subst hvalue hdeclared
    exact Or.inr rfl
  · simp [h] at hvalue

end ByokGrid
