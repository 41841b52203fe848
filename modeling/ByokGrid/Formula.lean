import ByokGrid.CellValue
import ByokGrid.Records

/-! The formula language: expressions, the definition check, and the evaluator. -/

namespace ByokGrid

inductive FormulaFunction where
  | add
  | coalesce
  | concat
  | divide
  | equals
  | if
  | lower
  | multiply
  | subtract
  | trim
  | upper
  deriving Repr, DecidableEq

def FormulaFunction.upperName : FormulaFunction → String
  | .add => "ADD"
  | .coalesce => "COALESCE"
  | .concat => "CONCAT"
  | .divide => "DIVIDE"
  | .equals => "EQUALS"
  | .if => "IF"
  | .lower => "LOWER"
  | .multiply => "MULTIPLY"
  | .subtract => "SUBTRACT"
  | .trim => "TRIM"
  | .upper => "UPPER"

inductive FormulaExpression (ν : Type) where
  | column (columnId : String)
  | literal (value : CellValue ν)
  | call (fn : FormulaFunction) (args : List (FormulaExpression ν))

structure FormulaDefinitionError where
  message : String
  deriving Repr, DecidableEq

def MAXIMUM_FORMULA_DEPTH : Nat := 12
def MAXIMUM_FORMULA_NODES : Nat := 128

section Walk

variable {ν : Type}

mutual

/-- The nodes in the order `visit` receives them, each with its depth. -/
def walkFormula : FormulaExpression ν → Nat → List (FormulaExpression ν × Nat)
  | .column columnId, depth => [(.column columnId, depth)]
  | .literal value, depth => [(.literal value, depth)]
  | .call fn args, depth => (.call fn args, depth) :: walkArguments args (depth + 1)

def walkArguments : List (FormulaExpression ν) → Nat → List (FormulaExpression ν × Nat)
  | [], _ => []
  | argument :: args, depth => walkFormula argument depth ++ walkArguments args depth

end

def collectFormulaColumnIds (expression : FormulaExpression ν) : List String :=
  distinct ((walkFormula expression 1).filterMap fun node =>
    match node.1 with
    | .column columnId => some columnId
    | _ => none)

/-- The visitor of `validateFormulaDefinition`, run over the walked nodes. -/
def checkFormulaLimits : Nat → List (FormulaExpression ν × Nat) → Except FormulaDefinitionError Unit
  | _, [] => .ok ()
  | nodeCount, (_, depth) :: nodes =>
    if depth > MAXIMUM_FORMULA_DEPTH then
      .error ⟨"Formula expressions may be at most 12 levels deep."⟩
    else if nodeCount + 1 > MAXIMUM_FORMULA_NODES then
      .error ⟨"Formula expressions may contain at most 128 nodes."⟩
    else checkFormulaLimits (nodeCount + 1) nodes

end Walk

def exactArity : FormulaFunction → Option Nat
  | .divide => some 2
  | .equals => some 2
  | .if => some 3
  | .lower => some 1
  | .multiply => some 2
  | .subtract => some 2
  | .trim => some 1
  | .upper => some 1
  | .add | .coalesce | .concat => none

def assertArity (fn : FormulaFunction) (count : Nat) : Except FormulaDefinitionError Unit :=
  match exactArity fn with
  | some expected =>
    if count ≠ expected then
      .error ⟨fn.upperName ++ " requires exactly " ++ toString expected ++ " argument" ++
        (if expected = 1 then "" else "s") ++ "."⟩
    else .ok ()
  | none =>
    if count < 1 then .error ⟨fn.upperName ++ " requires at least one argument."⟩ else .ok ()

def assertTypes (fn : FormulaFunction) (actual allowed : List CellValueType) :
    Except FormulaDefinitionError Unit :=
  match actual.find? (fun type => !allowed.contains type) with
  | some invalid => .error ⟨fn.upperName ++ " cannot use a " ++ invalid.name ++ " value."⟩
  | none => .ok ()

/-- The `Set` of the concrete types, of size one at most, and its first value. -/
def commonType (message : String) (types : List CellValueType) : Except FormulaDefinitionError CellValueType :=
  match types.filter (· ≠ .empty) with
  | [] => .ok .empty
  | type :: rest => if rest.any (· ≠ type) then .error ⟨message⟩ else .ok type

def inferCallType (fn : FormulaFunction) (types : List CellValueType) :
    Except FormulaDefinitionError CellValueType := do
  assertArity fn types.length
  match fn with
  | .concat => return .text
  | .lower | .upper | .trim =>
    assertTypes fn types [.text, .empty]
    return .text
  | .add | .subtract | .multiply | .divide =>
    assertTypes fn types [.number, .empty]
    return .number
  | .equals => return .boolean
  | .coalesce => commonType "COALESCE arguments must have the same value type." types
  | .if =>
    if types.head? ≠ some .boolean then
      throw ⟨"IF requires a boolean condition as its first argument."⟩
    commonType "IF result branches must have the same value type." (types.drop 1)

section Infer

variable {ν : Type} (columnTypes : String → Option CellValueType)

mutual

def inferType : FormulaExpression ν → Except FormulaDefinitionError CellValueType
  | .column columnId =>
    match columnTypes columnId with
    | none => .error ⟨"Formula column " ++ columnId ++ " is not available."⟩
    | some type => .ok type
  | .literal value => .ok value.type
  | .call fn args =>
    match inferTypes args with
    | .error e => .error e
    | .ok types => inferCallType fn types

def inferTypes : List (FormulaExpression ν) → Except FormulaDefinitionError (List CellValueType)
  | [] => .ok []
  | argument :: args =>
    match inferType argument with
    | .error e => .error e
    | .ok type =>
      match inferTypes args with
      | .error e => .error e
      | .ok types => .ok (type :: types)

end

end Infer

def validateFormulaDefinition {ν : Type} (expression : FormulaExpression ν)
    (columnTypes : String → Option CellValueType) : Except FormulaDefinitionError CellValueType := do
  checkFormulaLimits 0 (walkFormula expression 1)
  let result ← inferType columnTypes expression
  if result = .empty then
    throw ⟨"A formula must be able to produce a non-empty value."⟩
  return result

section Evaluate

variable {ν : Type} [JsRuntime ν]

def arithmetic (fn : FormulaFunction) (current value : ν) : ν :=
  match fn with
  | .add => JsRuntime.add current value
  | .subtract => JsRuntime.subtract current value
  | .multiply => JsRuntime.multiply current value
  | .divide => if JsRuntime.isZero value then JsRuntime.nan else JsRuntime.divide current value
  | _ => current

def numberOrNaN : CellValue ν → ν
  | .number value => value
  | _ => JsRuntime.nan

def evaluateArithmetic (fn : FormulaFunction) (args : List (CellValue ν)) : CellValue ν :=
  if args.any (fun value => value.type = .empty) then emptyValue
  else
    let numbers := args.map numberOrNaN
    if numbers.any (fun value => !JsRuntime.isFinite value) then emptyValue
    else
      let result := (numbers.drop 1).foldl (arithmetic fn) (numbers.headD JsRuntime.zero)
      if JsRuntime.isFinite result then .number result else emptyValue

def evaluateTextCase (fn : FormulaFunction) (args : List (CellValue ν)) : CellValue ν :=
  match args.head? with
  | none => emptyValue
  | some value =>
    if value.type = .empty then emptyValue
    else
      let text := cellValueToText value
      .text (match fn with
        | .lower => JsRuntime.toLocaleLowerCase ν text
        | .upper => JsRuntime.toLocaleUpperCase ν text
        | _ => jsTrim text)

def evaluateCall (fn : FormulaFunction) (args : List (CellValue ν)) : CellValue ν :=
  match fn with
  | .concat => .text (String.join (args.map cellValueToText))
  | .lower | .upper | .trim => evaluateTextCase fn args
  | .coalesce => (args.find? (fun value => value.type ≠ .empty)).getD emptyValue
  | .add | .subtract | .multiply | .divide => evaluateArithmetic fn args
  | .equals =>
    .boolean (match args[0]?, args[1]? with
      | some left, some right => left.type = right.type && left.stringifyValue == right.stringifyValue
      | _, _ => false)
  | .if =>
    match args.head? with
    | some (.boolean condition) =>
      if condition then (args[1]?).getD emptyValue else (args[2]?).getD emptyValue
    | _ => emptyValue

mutual

def evaluateFormula : FormulaExpression ν → (String → Option (CellValue ν)) → CellValue ν
  | .column columnId, values => (values columnId).getD emptyValue
  | .literal value, _ => value
  | .call fn args, values => evaluateCall fn (evaluateArguments args values)

def evaluateArguments : List (FormulaExpression ν) → (String → Option (CellValue ν)) → List (CellValue ν)
  | [], _ => []
  | argument :: args, values => evaluateFormula argument values :: evaluateArguments args values

end

end Evaluate

end ByokGrid
