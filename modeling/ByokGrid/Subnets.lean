import Mathlib.Data.List.Basic

/-! Subnets of an address space of any width. Two subnets are apart or one lies in the other, so
that a deny list is compared with another list subnet by subnet. -/

namespace ByokGrid

section Subnets

variable {w : Nat}

structure Subnet (w : Nat) where
  network : BitVec w
  prefixLength : Nat
  deriving DecidableEq

namespace Subnet

def Contains (s : Subnet w) (a : BitVec w) : Prop :=
  ∀ i < s.prefixLength, a.getMsbD i = s.network.getMsbD i

theorem contains_iff_shift {s : Subnet w} {a : BitVec w} :
    s.Contains a ↔ a >>> (w - s.prefixLength) = s.network >>> (w - s.prefixLength) := by
  constructor
  · intro h
    apply BitVec.eq_of_getLsbD_eq
    intro i hi
    rw [BitVec.getLsbD_ushiftRight, BitVec.getLsbD_ushiftRight]
    by_cases hin : w - s.prefixLength + i < w
    · have hbit := h (w - 1 - (w - s.prefixLength + i)) (by omega)
      rw [BitVec.getMsbD_eq_getLsbD, BitVec.getMsbD_eq_getLsbD] at hbit
      have hindex : w - 1 - (w - 1 - (w - s.prefixLength + i)) = w - s.prefixLength + i := by omega
      have hbound : w - 1 - (w - s.prefixLength + i) < w := by omega
      simpa only [hindex, hbound, decide_true, Bool.true_and] using hbit
    · rw [BitVec.getLsbD_of_ge _ _ (by omega), BitVec.getLsbD_of_ge _ _ (by omega)]
  · intro h i hi
    rw [BitVec.getMsbD_eq_getLsbD, BitVec.getMsbD_eq_getLsbD]
    by_cases hin : i < w
    · have hbit := congrArg (fun v : BitVec w => v.getLsbD (w - 1 - i - (w - s.prefixLength))) h
      simp only [BitVec.getLsbD_ushiftRight] at hbit
      have hindex : w - s.prefixLength + (w - 1 - i - (w - s.prefixLength)) = w - 1 - i := by omega
      rw [hindex] at hbit
      rw [hbit]
    · simp only [hin, decide_false, Bool.false_and]

instance (s : Subnet w) (a : BitVec w) : Decidable (s.Contains a) :=
  decidable_of_iff _ contains_iff_shift.symm

def Includes (s t : Subnet w) : Prop :=
  s.prefixLength ≤ t.prefixLength ∧ s.Contains t.network

instance (s t : Subnet w) : Decidable (s.Includes t) :=
  inferInstanceAs (Decidable (_ ∧ _))

theorem Includes.contains {s t : Subnet w} (h : s.Includes t) {a : BitVec w} (ha : t.Contains a) : s.Contains a :=
  fun i hi => (ha i (Nat.lt_of_lt_of_le hi h.1)).trans (h.2 i hi)

theorem includes_of_common {s t : Subnet w} {a : BitVec w} (hle : s.prefixLength ≤ t.prefixLength)
    (hs : s.Contains a) (ht : t.Contains a) : s.Includes t :=
  ⟨hle, fun i hi => (ht i (Nat.lt_of_lt_of_le hi hle)).symm.trans (hs i hi)⟩

def Apart (s t : Subnet w) : Prop :=
  ¬ s.Includes t ∧ ¬ t.Includes s

instance (s t : Subnet w) : Decidable (s.Apart t) :=
  inferInstanceAs (Decidable (_ ∧ _))

theorem Apart.not_contains {s t : Subnet w} (h : s.Apart t) {a : BitVec w} (hs : s.Contains a) : ¬ t.Contains a := by
  intro ht
  rcases Nat.le_total s.prefixLength t.prefixLength with hle | hle
  · exact h.1 (includes_of_common hle hs ht)
  · exact h.2 (includes_of_common hle ht hs)

theorem contains_full_iff {n a : BitVec w} : (Subnet.mk n w).Contains a ↔ a = n := by
  rw [contains_iff_shift]
  simp

end Subnet

structure Block (w : Nat) where
  subnet : Subnet w
  apartFrom : List (Subnet w)

namespace Block

def Covers (b : Block w) (a : BitVec w) : Prop :=
  b.subnet.Contains a ∧ ∀ s ∈ b.apartFrom, ¬ s.Contains a

instance (b : Block w) (a : BitVec w) : Decidable (b.Covers a) :=
  inferInstanceAs (Decidable (_ ∧ _))

def Misses (b : Block w) (s : Subnet w) : Prop :=
  b.subnet.Apart s ∨ ∃ t ∈ b.apartFrom, t.Includes s

instance (b : Block w) (s : Subnet w) : Decidable (b.Misses s) :=
  inferInstanceAs (Decidable (_ ∨ _))

theorem Misses.not_contains {b : Block w} {s : Subnet w} (h : b.Misses s) {a : BitVec w} (ha : b.Covers a) : ¬ s.Contains a := by
  intro hs
  rcases h with h | ⟨t, ht, hincludes⟩
  · exact h.not_contains ha.1 hs
  · exact ha.2 t ht (hincludes.contains hs)

def WithinUpTo (subnets : List (Subnet w)) (b c : Block w) : Prop :=
  c.subnet.Includes b.subnet ∧ ∀ s ∈ c.apartFrom, s ∈ b.apartFrom ∨ s ∈ subnets

instance (subnets : List (Subnet w)) (b c : Block w) : Decidable (WithinUpTo subnets b c) :=
  inferInstanceAs (Decidable (_ ∧ _))

theorem WithinUpTo.covers {subnets : List (Subnet w)} {b c : Block w} (h : WithinUpTo subnets b c) {a : BitVec w}
    (ha : b.Covers a) : c.Covers a ∨ ∃ s ∈ subnets, s.Contains a := by
  by_cases hlisted : ∃ s ∈ subnets, s.Contains a
  · exact .inr hlisted
  · refine .inl ⟨h.1.contains ha.1, fun s hs hcontains => ?_⟩
    rcases h.2 s hs with hs | hs
    · exact ha.2 s hs hcontains
    · exact hlisted ⟨s, hs, hcontains⟩

end Block

end Subnets

end ByokGrid
