import Mathlib.Algebra.Group.Nat.Defs
import Mathlib.Data.List.Lex

/-! Numbers written in a field of fixed width: their texts are in the order of the numbers. -/

namespace ByokGrid

/-- `padStart(width, '0')`. -/
def padZeros (width : Nat) (s : String) : String :=
  String.ofList (List.replicate (width - s.toList.length) '0' ++ s.toList)

def fieldDigits : Nat → Nat → List Char
  | 0, _ => []
  | width + 1, n => fieldDigits width (n / 10) ++ [Nat.digitChar (n % 10)]

theorem length_fieldDigits (width n : Nat) : (fieldDigits width n).length = width := by
  induction width generalizing n with
  | zero => rfl
  | succ width ih => simp [fieldDigits, ih]

theorem fieldDigits_zero (width : Nat) : fieldDigits width 0 = List.replicate width '0' := by
  induction width with
  | zero => rfl
  | succ width ih =>
    rw [fieldDigits, Nat.zero_div, ih, List.replicate_succ']
    rfl

theorem padded_digits {width n : Nat} (hn : n < 10 ^ width) (hpos : 0 < n) :
    List.replicate (width - (Nat.toDigits 10 n).length) '0' ++ Nat.toDigits 10 n = fieldDigits width n := by
  induction width generalizing n with
  | zero =>
    rw [Nat.pow_zero] at hn
    omega
  | succ width ih =>
    by_cases hsmall : n < 10
    · rw [Nat.toDigits_of_lt_base hsmall, fieldDigits, Nat.div_eq_of_lt hsmall, Nat.mod_eq_of_lt hsmall,
        fieldDigits_zero]
      simp
    · have hquotient : n / 10 < 10 ^ width := by
        rw [Nat.pow_succ] at hn
        omega
      rw [Nat.toDigits_of_base_le (by omega) (by omega), fieldDigits, ← ih hquotient (by omega)]
      simp

theorem digitChar_lt {m n : Nat} (hmn : m < n) (hn : n < 10) : Nat.digitChar m < Nat.digitChar n := by
  have hall : ∀ b < 10, ∀ a < b, Nat.digitChar a < Nat.digitChar b := by decide
  exact hall n hn m hmn

theorem lex_append {α : Type} {r : α → α → Prop} {xs ys : List α} (h : List.Lex r xs ys)
    (hlength : xs.length = ys.length) (us vs : List α) : List.Lex r (xs ++ us) (ys ++ vs) := by
  induction h with
  | nil => cases hlength
  | cons _ ih => exact List.Lex.cons (ih (by simpa using hlength))
  | rel hlt => exact List.Lex.rel hlt

theorem fieldDigits_lt {width m n : Nat} (hmn : m < n) (hn : n < 10 ^ width) :
    List.Lex (· < ·) (fieldDigits width m) (fieldDigits width n) := by
  induction width generalizing m n with
  | zero =>
    rw [Nat.pow_zero] at hn
    omega
  | succ width ih =>
    have hquotient : n / 10 < 10 ^ width := by
      rw [Nat.pow_succ] at hn
      omega
    rw [fieldDigits, fieldDigits]
    by_cases hdiv : m / 10 = n / 10
    · have hmod : m % 10 < n % 10 := by omega
      rw [hdiv]
      exact List.Lex.append_left _ (List.Lex.rel (digitChar_lt hmod (Nat.mod_lt n (by omega)))) _
    · have hlt : m / 10 < n / 10 := by omega
      refine lex_append (ih hlt hquotient) ?_ _ _
      rw [length_fieldDigits, length_fieldDigits]

theorem padZeros_toList {width n : Nat} (hpos : 0 < n) (hn : n < 10 ^ width) :
    (padZeros width (toString n)).toList = fieldDigits width n := by
  rw [padZeros, String.toList_ofList, Nat.toString_eq_ofList_toDigits, String.toList_ofList, padded_digits hn hpos]

theorem toString_nat_injective {m n : Nat} (h : (toString m).toList = (toString n).toList) : m = n := by
  rw [Nat.toString_eq_ofList_toDigits, Nat.toString_eq_ofList_toDigits, String.toList_ofList, String.toList_ofList] at h
  have hback := congrArg (fun digits => Nat.ofDigitChars 10 digits 0) h
  simpa [Nat.ofDigitChars_toDigits] using hback

theorem isDigit_bounds {c : Char} (h : c.isDigit = true) : 48 ≤ c.toNat ∧ c.toNat ≤ 57 := by
  simp only [Char.isDigit, Bool.and_eq_true, decide_eq_true_eq] at h
  exact ⟨UInt32.le_iff_toNat_le.mp h.1, UInt32.le_iff_toNat_le.mp h.2⟩

theorem toLower_digit {c : Char} (h : c.isDigit = true) : c.toLower = c := by
  obtain ⟨-, hle⟩ := isDigit_bounds h
  refine dif_neg fun hupper => ?_
  have hletter : 65 ≤ c.toNat := UInt32.le_iff_toNat_le.mp hupper.1
  omega

end ByokGrid
