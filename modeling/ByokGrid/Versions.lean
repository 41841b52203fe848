import Mathlib.Data.Set.Basic

/-! Values under version numbers: when every change moves the version up, a
version names one value, and a write which expects a version finds the value
that was read at it. -/

namespace ByokGrid

structure Reading (α : Type) where
  version : Nat
  value : α

namespace Reading

variable {α : Type}

def Advances (before after : Reading α) : Prop :=
  before.version < after.version ∨ before = after

theorem Advances.refl (reading : Reading α) : reading.Advances reading := Or.inr rfl

theorem Advances.trans {first second third : Reading α} (h : first.Advances second) (h' : second.Advances third) :
    first.Advances third := by
  rcases h with hlt | rfl
  · rcases h' with hlt' | rfl
    · exact Or.inl (Nat.lt_trans hlt hlt')
    · exact Or.inl hlt
  · exact h'

def VersionsNameValues (history : Set (Reading α)) : Prop :=
  ∀ first ∈ history, ∀ second ∈ history, first.version = second.version → first.value = second.value

end Reading

end ByokGrid
