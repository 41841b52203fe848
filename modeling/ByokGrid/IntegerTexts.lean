import ByokGrid.AirbyteRecords

/-! The texts of integers, as the language writes and reads them. -/

namespace ByokGrid

def SafeInteger.parse (text : String) : SafeInteger :=
  match text.toList with
  | '-' :: digits => if digits.all Char.isDigit then some (-(Nat.ofDigitChars 10 digits 0)) else none
  | digits => if digits.all Char.isDigit then some (Nat.ofDigitChars 10 digits 0) else none

instance : IntegerNumbers SafeInteger where
  parseNumber := SafeInteger.parse
  isInteger n := n.isSome
  isSafeInteger n := n.any fun n => n.natAbs ≤ 9007199254740991

theorem toDigits_head {n : Nat} (h : 0 < n) : ∃ c cs, Nat.toDigits 10 n = c :: cs ∧ c ≠ '0' := by
  induction n using Nat.strongRecOn with
  | ind n ih =>
    by_cases hsmall : n < 10
    · have hdigit : ∀ n < 10, 0 < n → n.digitChar ≠ '0' := by decide
      exact ⟨n.digitChar, [], Nat.toDigits_of_lt_base hsmall, hdigit n hsmall h⟩
    · obtain ⟨c, cs, hdigits, hc⟩ := ih (n / 10) (by omega) (by omega)
      exact ⟨c, cs ++ [(n % 10).digitChar], by rw [Nat.toDigits_of_base_le (by decide) (by omega), hdigits]; rfl, hc⟩

theorem takeDigits_delimited {digits rest : List Char} (hdigits : ∀ c ∈ digits, c.isDigit = true) (hrest : Delimited rest) :
    takeDigits (digits ++ rest) = (digits, rest) := by
  have hspan : rest.takeWhile Char.isDigit = [] ∧ rest.dropWhile Char.isDigit = rest := by
    cases rest with
    | nil => exact ⟨rfl, rfl⟩
    | cons c rest =>
      have hdigit : ¬ c.isDigit = true := by
        rcases hrest c rfl with rfl | rfl | rfl <;> decide
      exact ⟨List.takeWhile_cons_of_neg hdigit, List.dropWhile_cons_of_neg hdigit⟩
  have htake : takeDigits (digits ++ rest) = (digits ++ rest).span Char.isDigit := rfl
  rw [htake, List.span_eq_takeWhile_dropWhile, List.takeWhile_append_of_pos hdigits, List.dropWhile_append_of_pos hdigits,
    hspan.1, hspan.2, List.append_nil]

theorem toDigits_isDigit (n : Nat) : ∀ c ∈ Nat.toDigits 10 n, c.isDigit = true :=
  fun _ hc => Nat.isDigit_of_mem_toDigits (by decide) (by decide) hc

theorem readInteger_nat (n : Nat) {rest : List Char} (hrest : Delimited rest) :
    readInteger (Nat.toDigits 10 n ++ rest) = some (Nat.toDigits 10 n, rest) := by
  rw [readInteger, takeDigits_delimited (toDigits_isDigit n) hrest]
  cases n with
  | zero => rfl
  | succ n =>
    obtain ⟨c, cs, hdigits, hc⟩ := toDigits_head (Nat.succ_pos n)
    rw [hdigits]
    split
    · rename_i heq
      cases heq
    · rename_i heq
      cases heq
      exact absurd rfl hc
    · rename_i heq
      cases heq
      rfl

theorem readFraction_delimited {rest : List Char} (h : Delimited rest) : readFraction rest = some ([], rest) := by
  cases rest with
  | nil => rfl
  | cons c rest => rcases h c rfl with rfl | rfl | rfl <;> rfl

theorem readExponent_delimited {rest : List Char} (h : Delimited rest) : readExponent rest = some ([], rest) := by
  cases rest with
  | nil => rfl
  | cons c rest => rcases h c rfl with rfl | rfl | rfl <;> rfl

theorem toString_int (n : Int) : (toString n).toList = (if n < 0 then ['-'] else []) ++ Nat.toDigits 10 n.natAbs := by
  cases n with
  | ofNat n => simp [toString, Int.repr, Nat.repr]
  | negSucc n => simp [toString, Int.repr, Nat.repr]

theorem toDigits_cons (n : Nat) : ∃ c cs, Nat.toDigits 10 n = c :: cs ∧ c ≠ '-' := by
  cases hdigits : Nat.toDigits 10 n with
  | nil => exact absurd hdigits Nat.toDigits_ne_nil
  | cons c cs =>
    refine ⟨c, cs, rfl, ?_⟩
    rintro rfl
    exact absurd (toDigits_isDigit n '-' (hdigits ▸ List.mem_cons_self)) (by decide)

theorem readNumber_int (n : Int) {rest : List Char} (h : Delimited rest) :
    readNumber ((toString n).toList ++ rest) = some (toString n, rest) := by
  have hinteger := readInteger_nat n.natAbs h
  have hback : String.ofList (toString n).toList = toString n := String.ofList_toList
  rw [toString_int] at hback ⊢
  by_cases hneg : n < 0
  · rw [if_pos hneg] at hback ⊢
    simp only [readNumber, List.cons_append, List.nil_append, hinteger, readFraction_delimited h, readExponent_delimited h,
      Option.bind_eq_bind, Option.bind_some, List.append_nil, pure] at hback ⊢
    rw [hback]
  · rw [if_neg hneg, List.nil_append] at hback ⊢
    obtain ⟨c, cs, hdigits, hc⟩ := toDigits_cons n.natAbs
    rw [hdigits] at hinteger hback ⊢
    simp only [List.cons_append] at hinteger ⊢
    simp [readNumber, hc, hinteger, readFraction_delimited h, readExponent_delimited h, hback]

theorem parse_toString (n : Int) : SafeInteger.parse (toString n) = some n := by
  have hall : (Nat.toDigits 10 n.natAbs).all Char.isDigit = true := List.all_eq_true.mpr (toDigits_isDigit n.natAbs)
  have hvalue : Nat.ofDigitChars 10 (Nat.toDigits 10 n.natAbs) 0 = n.natAbs :=
    Nat.ofDigitChars_toDigits (by decide) (by decide)
  rw [SafeInteger.parse, toString_int]
  by_cases hneg : n < 0
  · simp only [if_pos hneg, List.cons_append, List.nil_append, hall, hvalue, if_true]
    congr 1
    omega
  · rw [if_neg hneg, List.nil_append]
    split
    · rename_i digits heq
      obtain ⟨c, cs, hdigits, hc⟩ := toDigits_cons n.natAbs
      exact absurd (List.cons.inj (hdigits.symm.trans heq)).1 hc
    · rw [if_pos hall, hvalue]
      congr 1
      omega

end ByokGrid
