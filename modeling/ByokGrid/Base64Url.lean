import Mathlib.Data.List.Basic

/-! The base64 encoding for URLs: three bytes make four letters, a shorter rest is
not padded, and the decoder skips what is no letter. -/

namespace ByokGrid

def base64Letter (n : Nat) : Char :=
  if n < 26 then Char.ofNat (65 + n)
  else if n < 52 then Char.ofNat (71 + n)
  else if n < 62 then Char.ofNat (n - 4)
  else if n = 62 then '-' else '_'

def base64Digit? (c : Char) : Option Nat :=
  if 'A' ≤ c ∧ c ≤ 'Z' then some (c.toNat - 65)
  else if 'a' ≤ c ∧ c ≤ 'z' then some (c.toNat - 71)
  else if '0' ≤ c ∧ c ≤ '9' then some (c.toNat + 4)
  else if c = '-' ∨ c = '+' then some 62
  else if c = '_' ∨ c = '/' then some 63
  else none

theorem base64Digit_letter {n : Nat} (h : n < 64) : base64Digit? (base64Letter n) = some n := by
  revert n
  decide

def encodeDigits : List UInt8 → List Nat
  | [] => []
  | [a] => [a.toNat / 4, a.toNat % 4 * 16]
  | [a, b] => [a.toNat / 4, a.toNat % 4 * 16 + b.toNat / 16, b.toNat % 16 * 4]
  | a :: b :: c :: bytes =>
    a.toNat / 4 :: (a.toNat % 4 * 16 + b.toNat / 16) :: (b.toNat % 16 * 4 + c.toNat / 64) :: c.toNat % 64 ::
      encodeDigits bytes

def decodeDigits : List Nat → List UInt8
  | [] | [_] => []
  | [p, q] => [UInt8.ofNat (p * 4 + q / 16)]
  | [p, q, r] => [UInt8.ofNat (p * 4 + q / 16), UInt8.ofNat (q % 16 * 16 + r / 4)]
  | p :: q :: r :: s :: digits =>
    UInt8.ofNat (p * 4 + q / 16) :: UInt8.ofNat (q % 16 * 16 + r / 4) :: UInt8.ofNat (r % 4 * 64 + s) ::
      decodeDigits digits

def encodeBase64Url (bytes : List UInt8) : String :=
  String.ofList ((encodeDigits bytes).map base64Letter)

def decodeBase64Url (text : String) : List UInt8 :=
  decodeDigits (text.toList.filterMap base64Digit?)

theorem ofNat_eq {x : UInt8} {n : Nat} (h : n = x.toNat) : UInt8.ofNat n = x := by
  rw [h, UInt8.ofNat_toNat]

theorem decodeDigits_encode (bytes : List UInt8) : decodeDigits (encodeDigits bytes) = bytes := by
  fun_induction encodeDigits bytes with
  | case1 => rfl
  | case2 a =>
    have ha := a.toNat_lt
    rw [decodeDigits, ofNat_eq (x := a) (by omega)]
  | case3 a b =>
    have hb := b.toNat_lt
    rw [decodeDigits, ofNat_eq (x := a) (by omega), ofNat_eq (x := b) (by omega)]
  | case4 a b c bytes ih =>
    have hb := b.toNat_lt
    have hc := c.toNat_lt
    rw [decodeDigits, ih, ofNat_eq (x := a) (by omega), ofNat_eq (x := b) (by omega),
      ofNat_eq (x := c) (by omega)]

theorem encodeDigits_lt (bytes : List UInt8) : ∀ digit ∈ encodeDigits bytes, digit < 64 := by
  fun_induction encodeDigits bytes with
  | case1 => exact nofun
  | case2 a =>
    have ha := a.toNat_lt
    simp only [List.mem_cons, List.not_mem_nil, or_false, forall_eq_or_imp, forall_eq]
    omega
  | case3 a b =>
    have ha := a.toNat_lt
    have hb := b.toNat_lt
    simp only [List.mem_cons, List.not_mem_nil, or_false, forall_eq_or_imp, forall_eq]
    omega
  | case4 a b c bytes ih =>
    have ha := a.toNat_lt
    have hb := b.toNat_lt
    have hc := c.toNat_lt
    simp only [List.mem_cons, forall_eq_or_imp]
    exact ⟨by omega, by omega, by omega, by omega, ih⟩

theorem decodeBase64Url_encode (bytes : List UInt8) : decodeBase64Url (encodeBase64Url bytes) = bytes := by
  have hletters : ∀ digits : List Nat, (∀ digit ∈ digits, digit < 64) →
      (digits.map base64Letter).filterMap base64Digit? = digits := by
    intro digits hdigits
    induction digits with
    | nil => rfl
    | cons digit digits ih =>
      rw [List.map_cons, List.filterMap_cons_some (base64Digit_letter (hdigits digit List.mem_cons_self)),
        ih fun later hlater => hdigits later (List.mem_cons_of_mem _ hlater)]
  rw [decodeBase64Url, encodeBase64Url, String.toList_ofList, hletters _ (encodeDigits_lt bytes), decodeDigits_encode]

theorem encodeDigits_length (bytes : List UInt8) : (encodeDigits bytes).length = (4 * bytes.length + 2) / 3 := by
  fun_induction encodeDigits bytes with
  | case1 => rfl
  | case2 a => simp only [List.length_cons, List.length_nil]
  | case3 a b => simp only [List.length_cons, List.length_nil]
  | case4 a b c bytes ih =>
    simp only [List.length_cons, ih]
    omega

theorem base64Letter_basic (n : Nat) : (base64Letter n).toNat ≤ 0xFFFF := by
  by_cases h : n < 64
  · revert n
    decide
  · have hletter : base64Letter n = '_' := by
      simp only [base64Letter]
      rw [if_neg (by omega), if_neg (by omega), if_neg (by omega), if_neg (by omega)]
    rw [hletter]
    decide

end ByokGrid
