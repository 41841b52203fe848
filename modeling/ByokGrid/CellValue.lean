import ByokGrid.JsText

/-! Cell values, their type tags, and the JavaScript primitives which read them. -/

namespace ByokGrid

inductive CellValueType where
  | empty
  | text
  | number
  | boolean
  | timestamp
  | json
  deriving Repr, DecidableEq

def CellValueType.name : CellValueType → String
  | .empty => "empty"
  | .text => "text"
  | .number => "number"
  | .boolean => "boolean"
  | .timestamp => "timestamp"
  | .json => "json"

inductive Json (ν : Type) where
  | null
  | boolean (value : Bool)
  | number (value : ν)
  | string (value : String)
  | array (items : List (Json ν))
  | object (fields : List (String × Json ν))

/-- `cellValueSchema`. A timestamp is the ISO string the schema accepts; the
number type `ν` stands for the IEEE doubles. -/
inductive CellValue (ν : Type) where
  | empty
  | text (value : String)
  | number (value : ν)
  | boolean (value : Bool)
  | timestamp (value : String)
  | json (value : Json ν)

def CellValue.type {ν : Type} : CellValue ν → CellValueType
  | .empty => .empty
  | .text _ => .text
  | .number _ => .number
  | .boolean _ => .boolean
  | .timestamp _ => .timestamp
  | .json _ => .json

def emptyValue {ν : Type} : CellValue ν := .empty

@[simp] theorem emptyValue_type {ν : Type} : (emptyValue : CellValue ν).type = .empty := rfl

theorem CellValue.eq_empty_of_type {ν : Type} {v : CellValue ν} (h : v.type = .empty) : v = .empty := by
  cases v with
  | empty => rfl
  | _ => simp [CellValue.type] at h

/-- The integral part of a `Date`, within the range ECMAScript allows. -/
structure TimeValue where
  milliseconds : Int
  inRange : milliseconds.natAbs ≤ 8640000000000000
  deriving Repr, DecidableEq

def TimeValue.epoch : TimeValue := ⟨0, by decide⟩

/-- The arithmetic on doubles and the locale, date and Unicode functions which
the code takes from the runtime. Writing a valid date and reading it back gives
the same instant; NFKC keeps a normalized string normalized under trimming and
the collapse of white space, and never turns a visible character into space. -/
class JsRuntime (ν : Type) where
  zero : ν
  nan : ν
  isFinite : ν → Bool
  isZero : ν → Bool
  add : ν → ν → ν
  subtract : ν → ν → ν
  multiply : ν → ν → ν
  divide : ν → ν → ν
  numberToString : ν → String
  toLocaleLowerCase : String → String
  toLocaleUpperCase : String → String
  parseDate : String → TimeValue
  toISOString : TimeValue → String
  parseDate_toISOString : ∀ t, parseDate (toISOString t) = t
  isIsoDatetime : String → Bool
  localeCompare : String → String → Ordering
  normalizeNFKC : String → String
  normalizeNFKC_empty : normalizeNFKC "" = ""
  normalizeNFKC_trim : ∀ s, normalizeNFKC (jsTrim (normalizeNFKC s)) = jsTrim (normalizeNFKC s)
  normalizeNFKC_collapse : ∀ s, normalizeNFKC (collapseWhitespace (jsTrim (normalizeNFKC s))) =
    collapseWhitespace (jsTrim (normalizeNFKC s))
  normalizeNFKC_visible : ∀ s, jsTrim s ≠ "" → jsTrim (normalizeNFKC s) ≠ ""

def hexDigit (n : Nat) : Char :=
  if n < 10 then Char.ofNat (48 + n) else Char.ofNat (87 + n)

/-- `QuoteJSONString`, one character at a time. -/
def jsonEscape (c : Char) : List Char :=
  match c.toNat with
  | 8 => ['\\', 'b']
  | 9 => ['\\', 't']
  | 10 => ['\\', 'n']
  | 12 => ['\\', 'f']
  | 13 => ['\\', 'r']
  | 34 => ['\\', '"']
  | 92 => ['\\', '\\']
  | n => if n < 32 then ['\\', 'u', '0', '0', hexDigit (n / 16), hexDigit (n % 16)] else [c]

def jsonQuote (s : String) : String :=
  String.ofList ('"' :: s.toList.flatMap jsonEscape ++ ['"'])

mutual

def Json.stringify {ν : Type} [JsRuntime ν] : Json ν → String
  | .null => "null"
  | .boolean value => toString value
  | .number value => JsRuntime.numberToString value
  | .string value => jsonQuote value
  | .array items => "[" ++ ",".intercalate (Json.stringifyItems items) ++ "]"
  | .object fields => "\x7b" ++ ",".intercalate (Json.stringifyFields fields) ++ "\x7d"

def Json.stringifyItems {ν : Type} [JsRuntime ν] : List (Json ν) → List String
  | [] => []
  | item :: items => item.stringify :: Json.stringifyItems items

def Json.stringifyFields {ν : Type} [JsRuntime ν] : List (String × Json ν) → List String
  | [] => []
  | (key, value) :: fields => (jsonQuote key ++ ":" ++ value.stringify) :: Json.stringifyFields fields

end

/-- `JSON.stringify(value.value)`. -/
def CellValue.stringifyValue {ν : Type} [JsRuntime ν] : CellValue ν → String
  | .empty => "null"
  | .text value => jsonQuote value
  | .number value => JsRuntime.numberToString value
  | .boolean value => toString value
  | .timestamp value => jsonQuote value
  | .json value => value.stringify

def cellValueToText {ν : Type} [JsRuntime ν] : CellValue ν → String
  | .empty => ""
  | .text value => value
  | .number value => JsRuntime.numberToString value
  | .boolean value => toString value
  | .timestamp value => value
  | .json value => value.stringify

/-- The safe integers with `NaN` for every other double: the arithmetic of the
runtime on the inputs whose results are exact. -/
abbrev SafeInteger := Option Int

def SafeInteger.ofInt (n : Int) : SafeInteger :=
  if n.natAbs ≤ 9007199254740991 then some n else none

def SafeInteger.divide : SafeInteger → SafeInteger → SafeInteger
  | some a, some b => if b ≠ 0 ∧ a % b = 0 then some (a / b) else none
  | _, _ => none

def TimeValue.write (t : TimeValue) : String :=
  String.ofList ((if t.milliseconds < 0 then '-' else '+') :: Nat.toDigits 10 t.milliseconds.natAbs)

def TimeValue.read (s : String) : TimeValue :=
  match s.toList with
  | [] => .epoch
  | sign :: digits =>
    let magnitude : Int := Nat.ofDigitChars 10 digits 0
    let milliseconds := if sign = '-' then -magnitude else magnitude
    if h : milliseconds.natAbs ≤ 8640000000000000 then ⟨milliseconds, h⟩ else .epoch

theorem TimeValue.read_write (t : TimeValue) : TimeValue.read t.write = t := by
  obtain ⟨n, hn⟩ := t
  have hdigits : Nat.ofDigitChars 10 (Nat.toDigits 10 n.natAbs) 0 = n.natAbs :=
    Nat.ofDigitChars_toDigits (by decide) (by decide)
  simp only [TimeValue.write, TimeValue.read, String.toList_ofList, hdigits]
  by_cases hneg : n < 0
  · have hback : -(n.natAbs : Int) = n := by omega
    simp only [if_pos hneg, if_true, hback]
    exact dif_pos hn
  · have hback : (n.natAbs : Int) = n := by omega
    have hsign : ('+' : Char) ≠ '-' := by decide
    simp only [if_neg hneg, if_neg hsign, hback]
    exact dif_pos hn

instance : JsRuntime SafeInteger where
  zero := some 0
  nan := none
  isFinite n := n.isSome
  isZero n := n = some 0
  add a b := a.bind fun x => b.bind fun y => SafeInteger.ofInt (x + y)
  subtract a b := a.bind fun x => b.bind fun y => SafeInteger.ofInt (x - y)
  multiply a b := a.bind fun x => b.bind fun y => SafeInteger.ofInt (x * y)
  divide := SafeInteger.divide
  numberToString n := (n.map toString).getD "NaN"
  toLocaleLowerCase s := String.ofList (s.toList.map Char.toLower)
  toLocaleUpperCase s := String.ofList (s.toList.map Char.toUpper)
  parseDate := TimeValue.read
  toISOString := TimeValue.write
  parseDate_toISOString := TimeValue.read_write
  isIsoDatetime s := s = (TimeValue.read s).write
  localeCompare := compare
  normalizeNFKC s := s
  normalizeNFKC_empty := rfl
  normalizeNFKC_trim s := by simp
  normalizeNFKC_collapse s := rfl
  normalizeNFKC_visible s h := h

end ByokGrid
