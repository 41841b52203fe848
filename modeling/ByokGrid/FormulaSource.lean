import ByokGrid.Formula
import ByokGrid.JsonMembers
import ByokGrid.UnitTexts

/-! The text of formula expressions: the printer and the parser of the source language. -/

namespace ByokGrid

/-- What the source language takes from the runtime. The text of a finite number is a number
of a JSON text, and is read back as the number, a zero without its sign; a date is read back
from its ISO text. -/
class SourceRuntime (ν : Type) where
  zero : ν
  isFinite : ν → Bool
  isZero : ν → Bool
  numberToString : ν → String
  parseNumber : String → ν
  parseDate : JsString → Option TimeValue
  toISOString : TimeValue → String
  normalizeNFKC : JsString → JsString
  toLocaleLowerCase : JsString → JsString
  isFinite_zero : isFinite zero = true
  numberToString_reads : ∀ n, isFinite n = true → readNumber (numberToString n).toList = some (numberToString n, [])
  parseNumber_numberToString : ∀ n, isFinite n = true → parseNumber (numberToString n) = if isZero n then zero else n
  parseDate_toISOString : ∀ t, parseDate (.ofString (toISOString t)) = some t
  toISOString_utc : ∀ t, ∃ cs, (toISOString t).toList = cs ++ ['Z']

inductive SourceValue (ν : Type) where
  | empty
  | text (value : JsString)
  | number (value : ν)
  | boolean (value : Bool)
  | timestamp (value : JsString)
  | json (value : JsonTree JsString ν)

inductive SourceExpression (ν : Type) where
  | column (columnId : String)
  | literal (value : SourceValue ν)
  | call (fn : FormulaFunction) (args : List (SourceExpression ν))

structure FormulaSourceColumn where
  id : String
  name : JsString
  deriving Repr, DecidableEq

/-- A `FormulaDefinitionError`. -/
structure FormulaSourceError where
  message : JsString
  deriving Repr, DecidableEq

def sourceError {α : Type} (message : JsString) : Except FormulaSourceError α :=
  .error ⟨message⟩

section JsonTexts

variable {ν : Type} [SourceRuntime ν]

def arrayIndex (key : JsString) : Option Nat :=
  let index := Nat.ofDigitChars 10 key.chars 0
  if key = .ofString (toString index) ∧ index < 4294967295 then some index else none

theorem arrayIndex_inj (left right : JsString) (i : Nat) (hleft : arrayIndex left = some i) (hright : arrayIndex right = some i) :
    left = right := by
  obtain ⟨⟨hkey, _⟩, hindex⟩ := Option.ite_none_right_eq_some.mp hleft
  obtain ⟨⟨hother, _⟩, hsame⟩ := Option.ite_none_right_eq_some.mp hright
  rw [hkey, hother, Option.some.inj hindex, Option.some.inj hsame]

/-- `JSON.stringify`. -/
def stringifyTree (value : JsonTree JsString ν) : JsString :=
  .ofChars (value.text JsString.unitCodec SourceRuntime.numberToString)

/-- `JSON.parse`. -/
def parseJsonTree (source : JsString) : Option (JsonTree JsString ν) :=
  (parseTree JsString.unitCodec SourceRuntime.parseNumber source.chars).map fun value => value.withOwnMembers arrayIndex

/-- `z.json()`: numbers are finite, and records leave the member `__proto__` out. -/
def readJsonSchema (value : JsonTree JsString ν) : Option (JsonTree JsString ν) :=
  let kept := value.withoutKey (.ofString "__proto__")
  if kept.allNumbers SourceRuntime.isFinite then some kept else none

end JsonTexts

section Printer

def MAXIMUM_FORMULA_SOURCE_CHARACTERS : Nat := 16384

def escapeFormulaColumnName (name : JsString) : JsString :=
  .ofChars (name.chars.flatMap fun c => if c = ']' then [']', ']'] else [c])

def formulaColumnReference (name : JsString) : JsString :=
  .ofString "[" ++ escapeFormulaColumnName name ++ .ofString "]"

variable {ν : Type} [SourceRuntime ν]

/-- `join(', ')`. -/
def joinArguments : List JsString → JsString
  | [] => .ofString ""
  | [argument] => argument
  | argument :: next :: args => argument ++ .ofString ", " ++ joinArguments (next :: args)

def formatLiteral : SourceValue ν → JsString
  | .empty => .ofString "EMPTY"
  | .text value => stringifyTree (.string value : JsonTree JsString ν)
  | .number value => .ofString (SourceRuntime.numberToString value)
  | .boolean value => .ofString (if value then "TRUE" else "FALSE")
  | .timestamp value => .ofString "TIMESTAMP(" ++ stringifyTree (.string value : JsonTree JsString ν) ++ .ofString ")"
  | .json value => .ofString "JSON(" ++ stringifyTree (.string (stringifyTree value) : JsonTree JsString ν) ++ .ofString ")"

mutual

def formatFormulaExpression (columnNames : String → Option JsString) : SourceExpression ν → Except FormulaSourceError JsString
  | .column columnId =>
    match columnNames columnId with
    | none => sourceError (.ofString "Formula column " ++ .ofString columnId ++ .ofString " is not available.")
    | some name =>
      if name.units = [] then
        sourceError (.ofString "Formula column " ++ .ofString columnId ++ .ofString " is not available.")
      else .ok (formulaColumnReference name)
  | .literal value => .ok (formatLiteral value)
  | .call fn args => do
    let texts ← formatArguments columnNames args
    return .ofString fn.upperName ++ .ofString "(" ++ joinArguments texts ++ .ofString ")"

def formatArguments (columnNames : String → Option JsString) : List (SourceExpression ν) → Except FormulaSourceError (List JsString)
  | [] => .ok []
  | argument :: args => do
    let text ← formatFormulaExpression columnNames argument
    let texts ← formatArguments columnNames args
    return text :: texts

end

/-- `new Map(columns.map(column => [column.id, column.name]))`. -/
def columnNames (columns : List FormulaSourceColumn) (columnId : String) : Option JsString :=
  (columns.reverse.find? fun column => column.id = columnId).map FormulaSourceColumn.name

end Printer

structure FormulaParser where
  index : Nat
  rest : List Char
  nodeCount : Nat
  deriving Repr, DecidableEq

namespace FormulaParser

def ofSource (source : JsString) : FormulaParser :=
  { index := 0, rest := source.chars, nodeCount := 0 }

def peek (parser : FormulaParser) : Option Char :=
  parser.rest.head?

def moveTo (parser : FormulaParser) (rest : List Char) : FormulaParser :=
  { parser with index := parser.index + (parser.rest.length - rest.length), rest := rest }

def fail {α : Type} (parser : FormulaParser) (message : JsString) : Except FormulaSourceError α :=
  sourceError (message ++ .ofString " at character " ++ .ofString (toString (parser.index + 1)) ++ .ofString ".")

/-- `JSON.stringify` of one unit. -/
def quoteUnit (c : Char) : JsString :=
  .ofChars ('"' :: (JsString.quotedUnits (.ofChars [c]) ++ ['"']))

def expect (parser : FormulaParser) (expected : Char) : Except FormulaSourceError FormulaParser :=
  match parser.rest with
  | c :: rest => if c = expected then .ok (parser.moveTo rest) else parser.fail (.ofString "Expected " ++ quoteUnit expected)
  | [] => parser.fail (.ofString "Expected " ++ quoteUnit expected)

def skipWhitespace (parser : FormulaParser) : FormulaParser :=
  parser.moveTo (parser.rest.dropWhile isJsWhitespace)

def node {α : Type} (parser : FormulaParser) (node : α) : Except FormulaSourceError (α × FormulaParser) :=
  if parser.nodeCount + 1 > MAXIMUM_FORMULA_NODES then
    sourceError (.ofString "Formula expressions may contain at most 128 nodes.")
  else .ok (node, { parser with nodeCount := parser.nodeCount + 1 })

def scanColumn : List Char → Option (List Char × List Char)
  | [] => none
  | ']' :: ']' :: rest => (scanColumn rest).map fun result => (']' :: result.1, result.2)
  | ']' :: rest => some ([], rest)
  | c :: rest => (scanColumn rest).map fun result => (c :: result.1, result.2)

def scanString : List Char → Except Nat (List Char × List Char)
  | [] => .error 0
  | ['\\'] => .error 2
  | '\\' :: c :: rest =>
    match scanString rest with
    | .ok (cs, rest) => .ok ('\\' :: c :: cs, rest)
    | .error passed => .error (passed + 2)
  | '"' :: rest => .ok (['"'], rest)
  | c :: rest =>
    match scanString rest with
    | .ok (cs, rest) => .ok (c :: cs, rest)
    | .error passed => .error (passed + 1)

/-- `(?:0|[1-9]\d*)` after a sign. -/
def matchDigits (sign cs : List Char) : Option (List Char × List Char) :=
  match cs with
  | '0' :: rest => some (sign ++ ['0'], rest)
  | _ =>
    match takeDigits cs with
    | ([], _) => none
    | (digits, rest) => some (sign ++ digits, rest)

/-- `-?(?:0|[1-9]\d*)`. -/
def matchInteger : List Char → Option (List Char × List Char)
  | '-' :: rest => matchDigits ['-'] rest
  | rest => matchDigits [] rest

/-- `(?:\.\d+)?`. -/
def matchFraction (cs : List Char) : List Char × List Char :=
  match cs with
  | '.' :: rest =>
    match takeDigits rest with
    | ([], _) => ([], cs)
    | (digits, rest) => ('.' :: digits, rest)
  | _ => ([], cs)

/-- `(?:[eE][+-]?\d+)?`. -/
def matchExponent (cs : List Char) : List Char × List Char :=
  match cs with
  | e :: rest =>
    if e = 'e' ∨ e = 'E' then
      let (sign, digits) := match rest with
        | '+' :: rest => (['+'], rest)
        | '-' :: rest => (['-'], rest)
        | rest => ([], rest)
      match takeDigits digits with
      | ([], _) => ([], cs)
      | (digits, rest) => (e :: sign ++ digits, rest)
    else ([], cs)
  | [] => ([], [])

def matchNumber (cs : List Char) : Option (List Char × List Char) :=
  (matchInteger cs).map fun (integer, rest) =>
    let (fraction, rest) := matchFraction rest
    let (exponent, rest) := matchExponent rest
    (integer ++ fraction ++ exponent, rest)

def isDigitUnit (c : Char) : Bool :=
  '0' ≤ c && c ≤ '9'

/-- `[A-Za-z_]`. -/
def isIdentifierStart (c : Char) : Bool :=
  ('A' ≤ c && c ≤ 'Z') || ('a' ≤ c && c ≤ 'z') || c = '_'

/-- `[A-Za-z0-9_]`. -/
def isIdentifierPart (c : Char) : Bool :=
  isIdentifierStart c || isDigitUnit c

/-- `/(?:[zZ]|[+-]\d{2}:\d{2})$/u`. -/
def hasOffset (cs : List Char) : Bool :=
  match cs.reverse with
  | 'Z' :: _ | 'z' :: _ => true
  | a :: b :: ':' :: c :: d :: sign :: _ =>
    isDigitUnit a && isDigitUnit b && isDigitUnit c && isDigitUnit d && (sign = '+' || sign = '-')
  | _ => false

end FormulaParser

/-- `formulaFunctionSchema`. -/
def formulaFunctions : List FormulaFunction :=
  [.add, .coalesce, .concat, .divide, .equals, .if, .lower, .multiply, .subtract, .trim, .upper]

def FormulaFunction.name : FormulaFunction → String
  | .add => "add"
  | .coalesce => "coalesce"
  | .concat => "concat"
  | .divide => "divide"
  | .equals => "equals"
  | .if => "if"
  | .lower => "lower"
  | .multiply => "multiply"
  | .subtract => "subtract"
  | .trim => "trim"
  | .upper => "upper"

def parseFunction (identifier : List Char) : Option FormulaFunction :=
  formulaFunctions.find? fun fn => fn.name.toList = identifier.map Char.toLower

namespace FormulaParser

section Expressions

variable {ν : Type} [SourceRuntime ν] (columns : List FormulaSourceColumn)

def normalizeFormulaColumnReference (ν : Type) [SourceRuntime ν] (name : JsString) : JsString :=
  SourceRuntime.toLocaleLowerCase ν (SourceRuntime.normalizeNFKC ν name)

def resolveColumn (ν : Type) [SourceRuntime ν] (name : JsString) : Except FormulaSourceError FormulaSourceColumn :=
  match columns.filter fun column => column.name = name with
  | [column] => .ok column
  | _ :: _ :: _ => sourceError (.ofString "Column reference [" ++ name ++ .ofString "] is ambiguous.")
  | [] =>
    match columns.filter fun column =>
      normalizeFormulaColumnReference ν name = normalizeFormulaColumnReference ν column.name with
    | [column] => .ok column
    | _ :: _ :: _ =>
      sourceError (.ofString "Column reference [" ++ name ++ .ofString "] is ambiguous; match its capitalization exactly.")
    | [] => sourceError (.ofString "Column [" ++ name ++ .ofString "] does not exist.")

def parseColumn (parser : FormulaParser) : Except FormulaSourceError (SourceExpression ν × FormulaParser) := do
  let opened ← parser.expect '['
  match scanColumn opened.rest with
  | none => (opened.moveTo []).fail (.ofString "Unterminated column reference")
  | some (name, rest) =>
    let closed := opened.moveTo rest
    if name = [] then closed.fail (.ofString "Column references cannot be empty")
    else
      let column ← resolveColumn columns ν (.ofChars name)
      closed.node (.column column.id)

def parseString (ν : Type) [SourceRuntime ν] (parser : FormulaParser) : Except FormulaSourceError (JsString × FormulaParser) := do
  let opened ← parser.expect '"'
  match scanString opened.rest with
  | .error passed => fail { opened with index := opened.index + passed } (.ofString "Unterminated string literal")
  | .ok (encoded, rest) =>
    match (parseJsonTree (.ofChars ('"' :: encoded)) : Option (JsonTree JsString ν)) with
    | some (.string value) => .ok (value, opened.moveTo rest)
    | _ => sourceError (.ofString "String literals use JSON escaping.")

def parseNumber (parser : FormulaParser) : Except FormulaSourceError (SourceExpression ν × FormulaParser) :=
  match matchNumber parser.rest with
  | none => parser.fail (.ofString "Enter a valid number")
  | some (text, rest) =>
    let passed := parser.moveTo rest
    let value : ν := SourceRuntime.parseNumber (String.ofList text)
    if SourceRuntime.isFinite value then passed.node (.literal (.number value))
    else passed.fail (.ofString "Numbers must be finite")

inductive LiteralConstructor where
  | json
  | timestamp
  deriving Repr, DecidableEq

def constructLiteral : LiteralConstructor → JsString → Option (SourceValue ν)
  | .json, source => do
    let value ← parseJsonTree source
    let kept ← readJsonSchema value
    return .json kept
  | .timestamp, source =>
    if hasOffset source.chars then
      (SourceRuntime.parseDate ν source).map fun date => .timestamp (.ofString (SourceRuntime.toISOString ν date))
    else none

def LiteralConstructor.message : LiteralConstructor → String
  | .json => "JSON() requires a string containing valid JSON."
  | .timestamp => "TIMESTAMP() requires an ISO date-time with Z or an explicit offset."

def parseLiteralConstructor (constructor : LiteralConstructor) (parser : FormulaParser) : Except FormulaSourceError (SourceExpression ν × FormulaParser) := do
  let opened ← parser.skipWhitespace.expect '('
  let (source, passed) ← parseString ν opened.skipWhitespace
  let closed ← passed.skipWhitespace.expect ')'
  match constructLiteral constructor source with
  | none => sourceError (.ofString constructor.message)
  | some value =>
    match closed.node (.literal value) with
    | .ok result => .ok result
    | .error _ => sourceError (.ofString constructor.message)

def parseRemainingArguments (parseArgument : FormulaParser → Except FormulaSourceError (SourceExpression ν × FormulaParser)) :
    Nat → FormulaParser → Except FormulaSourceError (List (SourceExpression ν) × FormulaParser)
  | 0, parser => parser.fail (.ofString "")
  | fuel + 1, parser => do
    let (argument, parsed) ← parseArgument parser
    let next := parsed.skipWhitespace
    match next.rest with
    | ')' :: rest => return ([argument], next.moveTo rest)
    | _ =>
      let separated ← next.expect ','
      let (args, closed) ← parseRemainingArguments parseArgument fuel separated.skipWhitespace
      return (argument :: args, closed)

def parseArguments (parseArgument : FormulaParser → Except FormulaSourceError (SourceExpression ν × FormulaParser)) (parser : FormulaParser) :
    Except FormulaSourceError (List (SourceExpression ν) × FormulaParser) := do
  let opened ← parser.skipWhitespace.expect '('
  let first := opened.skipWhitespace
  match first.rest with
  | ')' :: rest => return ([], first.moveTo rest)
  | rest => parseRemainingArguments parseArgument (rest.length + 1) first

def parseIdentifierExpression (parseArgument : FormulaParser → Except FormulaSourceError (SourceExpression ν × FormulaParser)) (parser : FormulaParser) :
    Except FormulaSourceError (SourceExpression ν × FormulaParser) :=
  let identifier := (parser.rest.takeWhile isIdentifierPart).map Char.toUpper
  let passed := parser.moveTo (parser.rest.dropWhile isIdentifierPart)
  if identifier = "TRUE".toList then passed.node (.literal (.boolean true))
  else if identifier = "FALSE".toList then passed.node (.literal (.boolean false))
  else if identifier = "EMPTY".toList then passed.node (.literal .empty)
  else if identifier = "NULL".toList then passed.node (.literal .empty)
  else if identifier = "TIMESTAMP".toList then parseLiteralConstructor .timestamp passed
  else if identifier = "JSON".toList then parseLiteralConstructor .json passed
  else
    match parseFunction identifier with
    | none => sourceError (.ofString "Unknown formula function " ++ .ofChars identifier ++ .ofString ".")
    | some fn => do
      let (args, closed) ← parseArguments parseArgument passed
      closed.node (.call fn args)

def parseExpression : Nat → FormulaParser → Except FormulaSourceError (SourceExpression ν × FormulaParser)
  | 0, _ => sourceError (.ofString "Formula expressions may be at most 12 levels deep.")
  | levels + 1, parser =>
    let start := parser.skipWhitespace
    match start.rest with
    | [] => start.fail (.ofString "Expected a function, column reference, or literal")
    | c :: _ =>
      if c = '[' then parseColumn columns start
      else if c = '"' then do
        let (value, passed) ← parseString ν start
        passed.node (.literal (.text value))
      else if c = '-' || isDigitUnit c then parseNumber start
      else if isIdentifierStart c then parseIdentifierExpression (parseExpression levels) start
      else start.fail (.ofString "Expected a function, column reference, or literal")

def skipEquals (parser : FormulaParser) : FormulaParser :=
  match parser.rest with
  | '=' :: rest => (parser.moveTo rest).skipWhitespace
  | _ => parser

def parse (parser : FormulaParser) : Except FormulaSourceError (SourceExpression ν) :=
  let start := parser.skipWhitespace.skipEquals
  if start.rest = [] then start.fail (.ofString "Enter a formula expression")
  else do
    let (expression, passed) ← parseExpression columns MAXIMUM_FORMULA_DEPTH start
    let last := passed.skipWhitespace
    match last.rest with
    | [] => return expression
    | c :: _ => last.fail (.ofString "Unexpected " ++ quoteUnit c)

end Expressions

end FormulaParser

def parseFormulaSource {ν : Type} [SourceRuntime ν] (source : JsString) (columns : List FormulaSourceColumn) :
    Except FormulaSourceError (SourceExpression ν) :=
  if source.units.length > MAXIMUM_FORMULA_SOURCE_CHARACTERS then
    sourceError (.ofString "Formula source may contain at most 16384 characters.")
  else (FormulaParser.ofSource source).parse columns

end ByokGrid
