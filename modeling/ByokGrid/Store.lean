import ByokGrid.Records
import ByokGrid.JsText

/-! What the store functions share: their errors, the identifiers of claims and
the texts of recorded errors. Times are milliseconds since the epoch. -/

namespace ByokGrid

inductive StoreError where
  | access (message : String)
  | conflict (message : String)
  | validation (message : String)
  | request
  | constraint (name : String)
  | revoked (message : String)
  | failure (message : String)
  deriving Repr, DecidableEq

def requireThat (condition : Bool) (error : StoreError) : Except StoreError Unit :=
  if condition then .ok () else .error error

@[simp] theorem requireThat_eq_ok {condition : Bool} {error : StoreError} {u : Unit} :
    requireThat condition error = .ok u ↔ condition = true := by
  cases condition <;> simp [requireThat]

def requireSome {α : Type} (value : Option α) (error : StoreError) : Except StoreError α :=
  match value with
  | some a => .ok a
  | none => .error error

@[simp] theorem requireSome_eq_ok {α : Type} {value : Option α} {error : StoreError} {a : α} :
    requireSome value error = .ok a ↔ value = some a := by
  cases value <;> simp [requireSome]

theorem except_bind_eq_ok {ε α β : Type} {x : Except ε α} {f : α → Except ε β} {b : β} :
    (x >>= f) = .ok b ↔ ∃ a, x = .ok a ∧ f a = .ok b := by
  cases x with
  | error e => simp [bind, Except.bind]
  | ok a => simp [bind, Except.bind]

theorem except_map_eq_ok {ε α β : Type} {x : Except ε α} {f : α → β} {b : β} :
    x.map f = .ok b ↔ ∃ a, x = .ok a ∧ f a = b := by
  cases x with
  | error e => simp [Except.map]
  | ok a => simp [Except.map]

/-- `\p{Cc}`. -/
def isControlCharacter (c : Char) : Bool :=
  c.toNat < 0x20 || (0x7F ≤ c.toNat && c.toNat ≤ 0x9F)

/-- What `assertClaimId` lets pass. -/
def isClaimId (claimId : String) : Bool :=
  claimId ≠ "" && utf16Length claimId ≤ 200 && claimId.toList.all fun c => !isControlCharacter c

/-- `slice(0, units)`: half of a surrogate pair is stored as the replacement character. -/
def sliceChars : Nat → List Char → List Char
  | _, [] => []
  | 0, _ => []
  | 1, c :: _ => if c.toNat > 0xFFFF then ['\uFFFD'] else [c]
  | units + 2, c :: cs =>
    if c.toNat > 0xFFFF then c :: sliceChars units cs else c :: sliceChars (units + 1) cs

def sliceUnits (units : Nat) (s : String) : String :=
  String.ofList (sliceChars units s.toList)

/-- `z.string().trim().min(1).max(120)`. -/
def parseShortText (text : String) : Option String :=
  let value := jsTrim text
  if 1 ≤ utf16Length value ∧ utf16Length value ≤ 120 then some value else none

/-- `replace(/[\r\n\t]/g, ' ')`. -/
def spaceBreaks (s : String) : String :=
  String.ofList (s.toList.map fun c => if c = '\r' ∨ c = '\n' ∨ c = '\t' then ' ' else c)

end ByokGrid
