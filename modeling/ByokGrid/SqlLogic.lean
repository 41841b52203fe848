import Mathlib.Data.List.Basic

/-! The logic of queries: a condition is true, false or unknown, and a query keeps what its condition is true of. -/

namespace ByokGrid

/-- The truth of a condition, `none` where it is unknown. -/
abbrev SqlTruth := Option Bool

namespace SqlTruth

def keeps (truth : SqlTruth) : Bool :=
  truth == some true

def ofBool (value : Bool) : SqlTruth :=
  some value

def not (truth : SqlTruth) : SqlTruth :=
  truth.map (!·)

def and : SqlTruth → SqlTruth → SqlTruth
  | some false, _ => some false
  | _, some false => some false
  | some true, some true => some true
  | _, _ => none

def or : SqlTruth → SqlTruth → SqlTruth
  | some true, _ => some true
  | _, some true => some true
  | some false, some false => some false
  | _, _ => none

def all : List SqlTruth → SqlTruth
  | [] => some true
  | truth :: truths => truth.and (all truths)

def any : List SqlTruth → SqlTruth
  | [] => some false
  | truth :: truths => truth.or (any truths)

@[simp] theorem keeps_ofBool (value : Bool) : (ofBool value).keeps = value := by
  cases value <;> rfl

@[simp] theorem keeps_some (value : Bool) : keeps (some value) = value := by
  cases value <;> rfl

@[simp] theorem keeps_and (left right : SqlTruth) : (left.and right).keeps = (left.keeps && right.keeps) := by
  rcases left with _ | _ | _ <;> rcases right with _ | _ | _ <;> rfl

@[simp] theorem keeps_or (left right : SqlTruth) : (left.or right).keeps = (left.keeps || right.keeps) := by
  rcases left with _ | _ | _ <;> rcases right with _ | _ | _ <;> rfl

theorem keeps_not {truth : SqlTruth} (h : truth.isSome = true) : truth.not.keeps = !truth.keeps := by
  rcases truth with _ | _ | _
  · cases h
  · rfl
  · rfl

@[simp] theorem keeps_all (truths : List SqlTruth) : (all truths).keeps = truths.all keeps := by
  induction truths with
  | nil => rfl
  | cons truth truths ih => rw [all, keeps_and, ih, List.all_cons]

@[simp] theorem keeps_any (truths : List SqlTruth) : (any truths).keeps = truths.any keeps := by
  induction truths with
  | nil => rfl
  | cons truth truths ih => rw [any, keeps_or, ih, List.any_cons]

end SqlTruth

section Comparisons

variable {α β ρ : Type}

def sqlCompare (relation : α → β → Bool) (left : Option α) (right : Option β) : SqlTruth :=
  left.bind fun x => right.map fun y => relation x y

@[simp] theorem sqlCompare_some (relation : α → β → Bool) (x : α) (y : β) :
    sqlCompare relation (some x) (some y) = some (relation x y) := rfl

@[simp] theorem sqlCompare_null_left (relation : α → β → Bool) (right : Option β) :
    sqlCompare relation none right = none := rfl

@[simp] theorem sqlCompare_null_right (relation : α → β → Bool) (left : Option α) :
    sqlCompare relation left none = none := by
  cases left <;> rfl

/-- `coalesce`. -/
def sqlCoalesce (value : Option α) (otherwise : α) : Option α :=
  some (value.getD otherwise)

/-- `exists (select 1 from … where …)` is never unknown. -/
def sqlExists (records : List ρ) (condition : ρ → SqlTruth) : SqlTruth :=
  .ofBool (records.any fun record => (condition record).keeps)

@[simp] theorem keeps_sqlExists (records : List ρ) (condition : ρ → SqlTruth) :
    (sqlExists records condition).keeps = records.any fun record => (condition record).keeps :=
  SqlTruth.keeps_ofBool _

@[simp] theorem keeps_not_sqlExists (records : List ρ) (condition : ρ → SqlTruth) :
    (sqlExists records condition).not.keeps = !records.any fun record => (condition record).keeps := by
  rw [SqlTruth.keeps_not rfl, keeps_sqlExists]

end Comparisons

end ByokGrid
