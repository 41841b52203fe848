import ByokGrid.Deliveries
import Mathlib.Algebra.GroupWithZero.Nat

/-! The values an input column may hold, the errors of their conversion, and what the
runtime reads of texts. -/

namespace ByokGrid

def MAXIMUM_EDITABLE_CELL_BYTES : Nat := 256 * 1024

def utf8Bytes (c : Char) : Nat :=
  if c.toNat ≤ 0x7F then 1 else if c.toNat ≤ 0x7FF then 2 else if c.toNat ≤ 0xFFFF then 3 else 4

def utf8ByteLength (value : String) : Nat :=
  (value.toList.map utf8Bytes).sum

section Editable

variable {ν : Type} [JsRuntime ν]

def editableCellByteLength (value : CellValue ν) : Nat :=
  match value with
  | .empty => 0
  | .json value => utf8ByteLength value.stringify
  | value => utf8ByteLength (cellValueToText value)

/-- `editableCellValueSchema`. -/
def CellValue.editable (value : CellValue ν) : Bool :=
  value.accepted && editableCellByteLength value ≤ MAXIMUM_EDITABLE_CELL_BYTES

end Editable

inductive ColumnCellConversionErrorCode where
  | ambiguousConversion
  | invalidBoolean
  | invalidJson
  | invalidNumber
  | invalidTimestamp
  | valueTooLarge
  deriving Repr, DecidableEq

structure ColumnCellConversionError where
  code : ColumnCellConversionErrorCode
  message : String
  deriving Repr, DecidableEq

/-- `JSON.parse`, `Number` and `Date.parse` on text, which may give no result. -/
class ConversionRuntime (ν : Type) where
  parseJson : String → Option (Json ν)
  parseNumber : String → ν
  parseInstant : String → Option TimeValue

end ByokGrid
