import ByokGrid.EditableValues
import ByokGrid.FormulaRoundTrip

/-! The schema of stored formulas: which of the expressions that the parser makes and the
definition check accepts it accepts too. -/

namespace ByokGrid

section Schema

variable {ν : Type}

mutual

def treeJson : JsonTree JsString ν → Json ν
  | .null => .null
  | .boolean value => .boolean value
  | .number value => .number value
  | .string value => .string value.text
  | .array items => .array (itemsJson items)
  | .object fields => .object (fieldsJson fields)

def itemsJson : List (JsonTree JsString ν) → List (Json ν)
  | [] => []
  | item :: items => treeJson item :: itemsJson items

def fieldsJson : List (JsString × JsonTree JsString ν) → List (String × Json ν)
  | [] => []
  | (key, value) :: fields => (key.text, treeJson value) :: fieldsJson fields

end

def SourceValue.cellValue : SourceValue ν → CellValue ν
  | .empty => .empty
  | .text value => .text value.text
  | .number value => .number value
  | .boolean value => .boolean value
  | .timestamp value => .timestamp value.text
  | .json value => .json (treeJson value)

mutual

def SourceExpression.formula : SourceExpression ν → FormulaExpression ν
  | .column columnId => .column columnId
  | .literal value => .literal value.cellValue
  | .call fn args => .call fn (SourceExpression.argumentFormulas args)

def SourceExpression.argumentFormulas : List (SourceExpression ν) → List (FormulaExpression ν)
  | [] => []
  | argument :: args => argument.formula :: SourceExpression.argumentFormulas args

end

section Read

variable [SourceRuntime ν]

def MAXIMUM_CALL_ARGUMENTS : Nat := 16

mutual

/-- `formulaExpressionSchema`. -/
def readFormulaSchema : SourceExpression ν → Option (SourceExpression ν)
  | .column columnId => if isEntityId columnId then some (.column columnId) else none
  | .literal value => (readCellValueSchema value).map .literal
  | .call fn args =>
    if 1 ≤ args.length ∧ args.length ≤ MAXIMUM_CALL_ARGUMENTS then (readArgumentSchemas args).map (.call fn) else none

def readArgumentSchemas : List (SourceExpression ν) → Option (List (SourceExpression ν))
  | [] => some []
  | argument :: args =>
    match readFormulaSchema argument, readArgumentSchemas args with
    | some first, some rest => some (first :: rest)
    | _, _ => none

end

end Read

def SourceValue.Dated : SourceValue ν → Prop
  | .timestamp value => (readIsoDate value.chars).isSome = true
  | _ => True

inductive SourceExpression.Storable : SourceExpression ν → Prop where
  | column (columnId : String) : Storable (.column columnId)
  | literal {value : SourceValue ν} (h : value.Dated) : Storable (.literal value)
  | call {fn : FormulaFunction} {args : List (SourceExpression ν)} (hcount : args.length ≤ MAXIMUM_CALL_ARGUMENTS)
    (h : ∀ argument ∈ args, Storable argument) : Storable (.call fn args)

theorem assertArity_pos {fn : FormulaFunction} {count : Nat} {u : Unit} (h : assertArity fn count = .ok u) : 1 ≤ count := by
  rw [assertArity] at h
  split at h
  · next expected hexpected =>
      split_ifs at h with hcount
      have hpos : 1 ≤ expected := by cases fn <;> cases hexpected <;> decide
      omega
  · split_ifs at h with hcount
    omega

theorem inferTypes_length {columnTypes : String → Option CellValueType} {args : List (FormulaExpression ν)}
    {types : List CellValueType} (h : inferTypes columnTypes args = .ok types) : types.length = args.length := by
  induction args generalizing types with
  | nil =>
    rw [inferTypes] at h
    cases h
    rfl
  | cons argument args ih =>
    rw [inferTypes] at h
    split at h
    · cases h
    · split at h
      · cases h
      · next hrest =>
          cases h
          rw [List.length_cons, ih hrest, List.length_cons]

theorem inferTypes_each {columnTypes : String → Option CellValueType} {args : List (FormulaExpression ν)}
    {types : List CellValueType} (h : inferTypes columnTypes args = .ok types) :
    ∀ argument ∈ args, ∃ type, inferType columnTypes argument = .ok type := by
  induction args generalizing types with
  | nil => exact List.forall_mem_nil _
  | cons argument args ih =>
    rw [inferTypes] at h
    split at h
    · cases h
    · next type htype =>
        split at h
        · cases h
        · next hrest => exact List.forall_mem_cons.mpr ⟨⟨type, htype⟩, ih hrest⟩

theorem inferType_call {columnTypes : String → Option CellValueType} {fn : FormulaFunction}
    {args : List (FormulaExpression ν)} {type : CellValueType} (h : inferType columnTypes (.call fn args) = .ok type) :
    1 ≤ args.length ∧ ∀ argument ∈ args, ∃ type, inferType columnTypes argument = .ok type := by
  rw [inferType] at h
  split at h
  · cases h
  · next types htypes =>
      rw [inferCallType.eq_def, except_bind_eq_ok] at h
      obtain ⟨u, harity, -⟩ := h
      exact ⟨inferTypes_length htypes ▸ assertArity_pos harity, inferTypes_each htypes⟩

theorem argumentFormulas_eq (args : List (SourceExpression ν)) :
    SourceExpression.argumentFormulas args = args.map SourceExpression.formula := by
  induction args with
  | nil => rfl
  | cons argument args ih => rw [SourceExpression.argumentFormulas, ih, List.map_cons]

variable [SourceRuntime ν]

theorem readArgumentSchemas_eq {args : List (SourceExpression ν)} :
    readArgumentSchemas args = some args ↔ ∀ argument ∈ args, readFormulaSchema argument = some argument := by
  induction args with
  | nil => exact ⟨fun _ => List.forall_mem_nil _, fun _ => rfl⟩
  | cons argument args ih =>
    rw [readArgumentSchemas, List.forall_mem_cons, ← ih]
    split
    · next first rest hfirst hrest => rw [hfirst, hrest]; simp
    · next hnone =>
        constructor
        · exact fun h => nomatch h
        · exact fun h => absurd h.2 (hnone argument args h.1)

theorem readCellValueSchema_made {value : SourceValue ν} (h : value.Made) :
    readCellValueSchema value = some value ↔ value.Dated := by
  cases value with
  | empty | text | boolean => exact ⟨fun _ => trivial, fun _ => rfl⟩
  | number value => exact ⟨fun _ => trivial, fun _ => if_pos h⟩
  | json value => exact ⟨fun _ => trivial, fun _ => by rw [readCellValueSchema, readJsonSchema_eq h]; rfl⟩
  | timestamp value =>
    rw [readCellValueSchema, SourceValue.Dated]
    by_cases hdate : (readIsoDate value.chars).isSome = true
    · exact ⟨fun _ => hdate, fun _ => if_pos hdate⟩
    · exact ⟨fun haccepted => absurd (if_neg hdate ▸ haccepted) (Option.some_ne_none _).symm, fun hdated => absurd hdated hdate⟩

theorem readFormulaSchema_made {columns : List FormulaSourceColumn} {levels : Nat} {expression : SourceExpression ν}
    (hcolumns : ∀ column ∈ columns, isEntityId column.id = true) (hmade : expression.Made columns levels)
    {columnTypes : String → Option CellValueType} {type : CellValueType}
    (htype : inferType columnTypes expression.formula = .ok type) :
    readFormulaSchema expression = some expression ↔ expression.Storable := by
  induction hmade generalizing type with
  | column h => exact ⟨fun _ => .column _, fun _ => if_pos (hcolumns _ h)⟩
  | @literal levels value h =>
    rw [readFormulaSchema, Option.map_eq_some_iff]
    constructor
    · rintro ⟨read, hread, heq⟩
      cases heq
      exact .literal ((readCellValueSchema_made h).mp hread)
    · intro hstorable
      cases hstorable with
      | literal hdated => exact ⟨value, (readCellValueSchema_made h).mpr hdated, rfl⟩
  | @call levels fn args h ih =>
    rw [SourceExpression.formula, argumentFormulas_eq] at htype
    obtain ⟨hsome, hargs⟩ := inferType_call htype
    rw [List.length_map] at hsome
    have heach : ∀ argument ∈ args, (readFormulaSchema argument = some argument ↔ argument.Storable) := by
      intro argument hargument
      obtain ⟨other, hother⟩ := hargs _ (List.mem_map_of_mem hargument)
      exact ih argument hargument hother
    have hread : readFormulaSchema (.call fn args) = some (.call fn args) ↔
        args.length ≤ MAXIMUM_CALL_ARGUMENTS ∧ readArgumentSchemas args = some args := by
      rw [readFormulaSchema]
      by_cases hcount : args.length ≤ MAXIMUM_CALL_ARGUMENTS
      · rw [if_pos ⟨hsome, hcount⟩, Option.map_eq_some_iff]
        exact ⟨fun ⟨read, hread, heq⟩ => ⟨hcount, by cases heq; exact hread⟩, fun hboth => ⟨args, hboth.2, rfl⟩⟩
      · rw [if_neg fun hboth => hcount hboth.2]
        exact ⟨fun hnone => (nomatch hnone), fun hboth => absurd hboth.1 hcount⟩
    rw [hread, readArgumentSchemas_eq]
    constructor
    · exact fun hboth => .call hboth.1 fun argument hargument => (heach argument hargument).mp (hboth.2 argument hargument)
    · intro hstorable
      cases hstorable with
      | call hcount hall => exact ⟨hcount, fun argument hargument => (heach argument hargument).mpr (hall argument hargument)⟩

/-- A formula which is parsed and checked is accepted by the schema of stored formulas, unchanged,
just when none of its calls has more than 16 arguments and its timestamps are of the calendar. -/
theorem formulaSchema_exact {source : JsString} {columns : List FormulaSourceColumn} {expression : SourceExpression ν}
    {columnTypes : String → Option CellValueType} {type : CellValueType}
    (hcolumns : ∀ column ∈ columns, isEntityId column.id = true)
    (hparse : parseFormulaSource source columns = .ok expression)
    (hvalid : validateFormulaDefinition expression.formula columnTypes = .ok type) :
    readFormulaSchema expression = some expression ↔ expression.Storable := by
  obtain ⟨hmade, -⟩ := parseFormulaSource_made hparse
  rw [validateFormulaDefinition, except_bind_eq_ok] at hvalid
  obtain ⟨-, -, hinferred⟩ := hvalid
  obtain ⟨inferred, hinferred, -⟩ := except_bind_eq_ok.mp hinferred
  exact readFormulaSchema_made hcolumns hmade hinferred

end Schema

section Sample

local instance schemaSources : SourceRuntime SafeInteger := integerSources

def definedFormula (source : JsString) : Option (SourceExpression SafeInteger) :=
  match parseFormulaSource source [] with
  | .ok expression =>
    match validateFormulaDefinition expression.formula fun _ => none with
    | .ok _ => some expression
    | .error _ => none
  | .error _ => none

theorem definedFormula_spec {source : JsString} {expression : SourceExpression SafeInteger}
    (h : definedFormula source = some expression) :
    parseFormulaSource source [] = .ok expression ∧
      ∃ type, validateFormulaDefinition expression.formula (fun _ => none) = .ok type := by
  rw [definedFormula] at h
  split at h
  · next hparse =>
      split at h
      · next type hvalid =>
          cases h
          exact ⟨hparse, type, hvalid⟩
      · cases h
  · cases h

def sumSource : JsString :=
  .ofString "ADD(1, 2, 3)"

def longSumSource : JsString :=
  .ofString "ADD(1, 2, 3, 4, 5, 6, 7, 8, 9, 10, 11, 12, 13, 14, 15, 16, 17)"

theorem formulaSchema_exact_sum : ∃ expression : SourceExpression SafeInteger,
    parseFormulaSource sumSource [] = .ok expression ∧
      (readFormulaSchema expression = some expression ↔ expression.Storable) := by
  have hdefined : (definedFormula sumSource).isSome = true := by decide +kernel
  obtain ⟨expression, hexpression⟩ := Option.isSome_iff_exists.mp hdefined
  obtain ⟨hparse, type, hvalid⟩ := definedFormula_spec hexpression
  exact ⟨expression, hparse, formulaSchema_exact (List.forall_mem_nil _) hparse hvalid⟩

theorem formulaSchema_refuses : ∃ (expression : SourceExpression SafeInteger) (type : CellValueType),
    parseFormulaSource longSumSource [] = .ok expression ∧
      validateFormulaDefinition expression.formula (fun _ => none) = .ok type ∧ readFormulaSchema expression = none := by
  have hrefused : ((definedFormula longSumSource).any fun expression => (readFormulaSchema expression).isNone) = true := by
    decide +kernel
  obtain ⟨expression, hexpression, hnone⟩ := (Option.any_eq_true _ _).mp hrefused
  obtain ⟨hparse, type, hvalid⟩ := definedFormula_spec hexpression
  exact ⟨expression, type, hparse, hvalid, Option.isNone_iff_eq_none.mp hnone⟩

end Sample

end ByokGrid
