import Mathlib.Data.List.Forall2
import ByokGrid.WebUrls

/-! Names and values in the query of an address, as forms encode them, and `decodeURIComponent`. -/

namespace ByokGrid

def percentDigit (c : Char) : Option Nat :=
  if 48 ≤ c.toNat ∧ c.toNat ≤ 57 then some (c.toNat - 48)
  else if 65 ≤ c.toNat ∧ c.toNat ≤ 70 then some (c.toNat - 55)
  else if 97 ≤ c.toNat ∧ c.toNat ≤ 102 then some (c.toNat - 87)
  else none

def escapedByte (a b : Char) : Option UInt8 := do
  let high ← percentDigit a
  let low ← percentDigit b
  some (UInt8.ofNat (16 * high + low))

def percentBytes : List Char → List UInt8
  | [] => []
  | '%' :: a :: b :: cs =>
    match escapedByte a b with
    | some byte => byte :: percentBytes cs
    | none => 0x25 :: percentBytes (a :: b :: cs)
  | c :: cs => String.utf8EncodeChar c ++ percentBytes cs

def decodeText (decodeInvalid : List UInt8 → List Char) (bytes : List UInt8) : List Char :=
  ((String.fromUTF8? bytes.toByteArray).map String.toList).getD (decodeInvalid bytes)

theorem percentDigit_hexUpper {n : Nat} (h : n < 16) : percentDigit (hexUpper n) = some n := by
  have hdigits : ∀ m : Fin 16, percentDigit (hexUpper m) = some m.val := by decide
  exact hdigits ⟨n, h⟩

theorem percentBytes_percentByte (byte : UInt8) (rest : List Char) :
    percentBytes (percentByte byte ++ rest) = byte :: percentBytes rest := by
  have hbyte := byte.toNat_lt
  have hvalue : escapedByte (hexUpper (byte.toNat / 16)) (hexUpper (byte.toNat % 16)) = some byte := by
    have hsum : 16 * (byte.toNat / 16) + byte.toNat % 16 = byte.toNat := by omega
    rw [escapedByte, percentDigit_hexUpper (by omega), percentDigit_hexUpper (by omega)]
    simp only [Option.bind_eq_bind, Option.bind_some, hsum, UInt8.ofNat_toNat]
  show percentBytes ('%' :: hexUpper (byte.toNat / 16) :: hexUpper (byte.toNat % 16) :: rest) = _
  rw [percentBytes, hvalue]

theorem percentBytes_percent (bytes : List UInt8) (rest : List Char) :
    percentBytes (bytes.flatMap percentByte ++ rest) = bytes ++ percentBytes rest := by
  induction bytes with
  | nil => rfl
  | cons byte bytes ih =>
    rw [List.flatMap_cons, List.append_assoc, percentBytes_percentByte, ih]
    rfl

theorem percentBytes_literal {c : Char} (h : c ≠ '%') (cs : List Char) :
    percentBytes (c :: cs) = String.utf8EncodeChar c ++ percentBytes cs := by
  rw [percentBytes]
  exact fun _ _ _ hc => absurd hc h

theorem fromUTF8?_encode (text : List Char) :
    String.fromUTF8? (text.flatMap String.utf8EncodeChar).toByteArray = some (String.ofList text) := by
  have hbytes : (text.flatMap String.utf8EncodeChar).toByteArray = (String.ofList text).toByteArray := by
    rw [String.toByteArray_ofList, List.utf8Encode]
  have hvalid : (String.ofList text).toByteArray.IsValidUTF8 := (String.ofList text).isValidUTF8
  rw [hbytes, String.fromUTF8?, dif_pos hvalid]
  rfl

theorem decodeText_encode (decodeInvalid : List UInt8 → List Char) (text : List Char) :
    decodeText decodeInvalid (text.flatMap String.utf8EncodeChar) = text := by
  rw [decodeText, fromUTF8?_encode, Option.map_some, Option.getD_some, String.toList_ofList]

def readEscapes : Nat → List Char → Option (List UInt8 × List Char)
  | 0, cs => some ([], cs)
  | count + 1, '%' :: a :: b :: cs => do
    let byte ← escapedByte a b
    let (bytes, rest) ← readEscapes count cs
    some (byte :: bytes, rest)
  | _ + 1, _ => none

def octetCount (byte : UInt8) : Option Nat :=
  if byte.toNat < 0x80 then some 1
  else if byte.toNat < 0xC0 then none
  else if byte.toNat < 0xE0 then some 2
  else if byte.toNat < 0xF0 then some 3
  else if byte.toNat < 0xF8 then some 4
  else none

def singleChar (bytes : List UInt8) : Option Char :=
  match (String.fromUTF8? bytes.toByteArray).map String.toList with
  | some [c] => some c
  | _ => none

def readEscaped (text : List Char) : Option (Char × List Char) := do
  let (first, _) ← readEscapes 1 text
  let count ← first.head?.bind octetCount
  let (bytes, rest) ← readEscapes count text
  let c ← singleChar bytes
  some (c, rest)

def decodeComponent : Nat → List Char → Option (List Char)
  | _, [] => some []
  | 0, _ :: _ => none
  | fuel + 1, c :: cs =>
    if c = '%' then do
      let (decoded, rest) ← readEscaped (c :: cs)
      let text ← decodeComponent fuel rest
      some (decoded :: text)
    else (decodeComponent fuel cs).map (c :: ·)

def decodeURIComponent (text : List Char) : Option (List Char) :=
  decodeComponent text.length text

theorem singleChar_encode (c : Char) : singleChar (String.utf8EncodeChar c) = some c := by
  have htext := fromUTF8?_encode [c]
  rw [List.flatMap_singleton] at htext
  rw [singleChar, htext, Option.map_some, String.toList_ofList]

theorem encode_of_singleChar {bytes : List UInt8} {c : Char} (h : singleChar bytes = some c) :
    bytes = String.utf8EncodeChar c := by
  unfold singleChar at h
  split at h
  · rename_i d hread
    cases h
    obtain ⟨text, htext, hlist⟩ := Option.map_eq_some_iff.mp hread
    unfold String.fromUTF8? at htext
    split at htext
    · rename_i hvalid
      cases htext
      have hbytes : [c].utf8Encode = bytes.toByteArray := by
        rw [← hlist, String.utf8Encode_toList]
        rfl
      have hdata := congrArg (fun array : ByteArray => array.data.toList) hbytes
      simp only [List.utf8Encode, List.flatMap_singleton, List.data_toByteArray] at hdata
      exact hdata.symm
    · cases htext
  · cases h

theorem octetCount_encode (c : Char) :
    (String.utf8EncodeChar c).head?.bind octetCount = some (String.utf8EncodeChar c).length := by
  have hvalue : c.val.toNat < 0x110000 := by
    have hvalid := c.valid
    rcases hvalid with hvalid | hvalid <;> omega
  have hbyte : ∀ n, n < 256 → (UInt8.ofNat n).toNat = n := fun n hn => UInt8.toNat_ofNat_of_lt' hn
  unfold String.utf8EncodeChar octetCount
  simp only
  split
  · rw [List.head?_cons, Option.bind_some, hbyte _ (by omega), if_pos (by omega)]
    rfl
  · split
    · rw [List.head?_cons, Option.bind_some, hbyte _ (by omega), if_neg (by omega), if_neg (by omega), if_pos (by omega)]
      rfl
    · split
      · rw [List.head?_cons, Option.bind_some, hbyte _ (by omega), if_neg (by omega), if_neg (by omega), if_neg (by omega),
          if_pos (by omega)]
        rfl
      · rw [List.head?_cons, Option.bind_some, hbyte _ (by omega), if_neg (by omega), if_neg (by omega), if_neg (by omega),
          if_neg (by omega), if_pos (by omega)]
        rfl

inductive Piece where
  | literal (c : Char)
  | escape (c : Char) (text : List Char)
  deriving Repr, DecidableEq

namespace Piece

def text : Piece → List Char
  | .literal c => [c]
  | .escape _ text => text

def char : Piece → Char
  | .literal c => c
  | .escape c _ => c

def Fits : Piece → Prop
  | .literal c => c ≠ '%'
  | .escape c text => readEscapes (String.utf8EncodeChar c).length text = some (String.utf8EncodeChar c, [])

end Piece

def IsEscapeChar (c : Char) : Prop :=
  c = '%' ∨ (percentDigit c).isSome

theorem readEscapes_spec {count : Nat} {text rest : List Char} {bytes : List UInt8}
    (h : readEscapes count text = some (bytes, rest)) :
    bytes.length = count ∧ ∃ used, text = used ++ rest ∧ (∀ c ∈ used, IsEscapeChar c) ∧
      (∀ more, readEscapes count (used ++ more) = some (bytes, more)) ∧
      ∀ more, percentBytes (used ++ more) = bytes ++ percentBytes more := by
  fun_induction readEscapes count text generalizing bytes with
  | case1 cs =>
    cases h
    exact ⟨rfl, [], rfl, fun _ hc => absurd hc List.not_mem_nil, fun _ => rfl, fun _ => rfl⟩
  | case2 count a b cs ih =>
    cases hbyte : escapedByte a b with
    | none => rw [hbyte] at h; cases h
    | some byte =>
      cases hlater : readEscapes count cs with
      | none => rw [hbyte, hlater] at h; cases h
      | some result =>
        obtain ⟨later, behind⟩ := result
        rw [hbyte, hlater] at h
        cases h
        obtain ⟨hlength, used, rfl, hchars, hread, hbytes⟩ := ih hlater
        have hdigits : (percentDigit a).isSome ∧ (percentDigit b).isSome := by
          unfold escapedByte at hbyte
          cases hhigh : percentDigit a with
          | none => rw [hhigh] at hbyte; cases hbyte
          | some high =>
            cases hlow : percentDigit b with
            | none => rw [hhigh, hlow] at hbyte; cases hbyte
            | some low => exact ⟨rfl, rfl⟩
        refine ⟨congrArg (· + 1) hlength, '%' :: a :: b :: used, rfl, ?_, ?_, ?_⟩
        · intro c hc
          rcases List.mem_cons.mp hc with rfl | hc
          · exact .inl rfl
          · rcases List.mem_cons.mp hc with rfl | hc
            · exact .inr hdigits.1
            · rcases List.mem_cons.mp hc with rfl | hc
              · exact .inr hdigits.2
              · exact hchars c hc
        · intro more
          rw [List.cons_append, List.cons_append, List.cons_append, readEscapes, hbyte, hread more]
          rfl
        · intro more
          rw [List.cons_append, List.cons_append, List.cons_append, percentBytes, hbyte, hbytes more]
          rfl
  | case3 => cases h

theorem readEscapes_first {count : Nat} {text rest : List Char} {bytes : List UInt8}
    (h : readEscapes (count + 1) text = some (bytes, rest)) :
    ∃ byte cs behind, bytes.head? = some byte ∧ text = '%' :: cs ∧ readEscapes 1 text = some ([byte], behind) := by
  unfold readEscapes at h
  split at h
  · cases ‹_ + 1 = 0›
  · rename_i n a b cs hcount
    cases hbyte : escapedByte a b with
    | none => rw [hbyte] at h; cases h
    | some byte =>
      cases hlater : readEscapes n cs with
      | none => rw [hbyte, hlater] at h; cases h
      | some result =>
        rw [hbyte, hlater] at h
        cases h
        refine ⟨byte, a :: b :: cs, cs, rfl, rfl, ?_⟩
        rw [readEscapes, hbyte]
        rfl
  · cases h

theorem readEscaped_spec {text rest : List Char} {c : Char} (h : readEscaped text = some (c, rest)) :
    ∃ used, text = used ++ rest ∧ (Piece.escape c used).Fits := by
  unfold readEscaped at h
  simp only [Option.bind_eq_bind, Option.bind_eq_some_iff, Prod.exists, Option.some.injEq, Prod.mk.injEq] at h
  obtain ⟨first, _, -, count, -, bytes, behind, hread, d, hchar, rfl, rfl⟩ := h
  obtain ⟨hlength, used, rfl, -, hused, -⟩ := readEscapes_spec hread
  have hbytes := encode_of_singleChar hchar
  subst hbytes
  refine ⟨used, rfl, ?_⟩
  show readEscapes (String.utf8EncodeChar d).length used = _
  have hwhole := hused []
  rwa [List.append_nil, ← hlength] at hwhole

theorem readEscaped_escape {c : Char} {used : List Char} (h : (Piece.escape c used).Fits) (more : List Char) :
    readEscaped (used ++ more) = some (c, more) := by
  obtain ⟨-, whole, hwhole, -, hread, -⟩ := readEscapes_spec h
  rw [List.append_nil] at hwhole
  subst hwhole
  have hall := hread more
  obtain ⟨count, hcount⟩ : ∃ count, (String.utf8EncodeChar c).length = count + 1 :=
    Nat.exists_eq_succ_of_ne_zero fun hzero => String.utf8EncodeChar_ne_nil (List.length_eq_zero_iff.mp hzero)
  have hsome := hall
  rw [hcount] at hsome
  obtain ⟨byte, _, behind, hhead, -, hfirst⟩ := readEscapes_first hsome
  have hoctets := octetCount_encode c
  rw [hhead, Option.bind_some] at hoctets
  rw [readEscaped, hfirst]
  simp only [Option.bind_eq_bind, Option.bind_some, List.head?_cons, hoctets, hall, singleChar_encode]

theorem Piece.escape_head {c : Char} {used : List Char} (h : (Piece.escape c used).Fits) : ∃ cs, used = '%' :: cs := by
  obtain ⟨count, hcount⟩ : ∃ count, (String.utf8EncodeChar c).length = count + 1 :=
    Nat.exists_eq_succ_of_ne_zero fun hzero => String.utf8EncodeChar_ne_nil (List.length_eq_zero_iff.mp hzero)
  have hread : readEscapes (String.utf8EncodeChar c).length used = some (String.utf8EncodeChar c, []) := h
  rw [hcount] at hread
  obtain ⟨_, cs, _, -, hused, -⟩ := readEscapes_first hread
  exact ⟨cs, hused⟩

theorem decodeComponent_pieces {fuel : Nat} {text decoded : List Char} (h : decodeComponent fuel text = some decoded) :
    ∃ pieces : List Piece, (∀ piece ∈ pieces, piece.Fits) ∧ pieces.flatMap Piece.text = text ∧
      pieces.map Piece.char = decoded := by
  fun_induction decodeComponent fuel text generalizing decoded with
  | case1 => cases h; exact ⟨[], fun _ hp => absurd hp List.not_mem_nil, rfl, rfl⟩
  | case2 => cases h
  | case3 fuel cs ih =>
    simp only [Option.bind_eq_bind, Option.bind_eq_some_iff, Prod.exists, Option.some.injEq] at h
    obtain ⟨c, rest, hread, later, hlater, rfl⟩ := h
    obtain ⟨used, htext, hfits⟩ := readEscaped_spec hread
    obtain ⟨pieces, hpieces, rfl, rfl⟩ := ih rest hlater
    exact ⟨.escape c used :: pieces, List.forall_mem_cons.mpr ⟨hfits, hpieces⟩, htext.symm, rfl⟩
  | case4 fuel c cs hc ih =>
    obtain ⟨later, hlater, rfl⟩ := Option.map_eq_some_iff.mp h
    obtain ⟨pieces, hpieces, rfl, rfl⟩ := ih hlater
    exact ⟨.literal c :: pieces, List.forall_mem_cons.mpr ⟨hc, hpieces⟩, rfl, rfl⟩

theorem decodeComponent_of_pieces {pieces : List Piece} (h : ∀ piece ∈ pieces, piece.Fits) {fuel : Nat}
    (hfuel : (pieces.flatMap Piece.text).length ≤ fuel) :
    decodeComponent fuel (pieces.flatMap Piece.text) = some (pieces.map Piece.char) := by
  induction pieces generalizing fuel with
  | nil => cases fuel <;> rfl
  | cons piece pieces ih =>
    have hpiece := h piece List.mem_cons_self
    have hpieces : ∀ later ∈ pieces, later.Fits := fun later hlater => h later (List.mem_cons_of_mem _ hlater)
    rw [List.flatMap_cons, List.length_append] at hfuel
    cases piece with
    | literal c =>
      change 1 + _ ≤ _ at hfuel
      cases fuel with
      | zero => omega
      | succ fuel =>
        show decodeComponent (fuel + 1) (c :: pieces.flatMap Piece.text) = _
        rw [decodeComponent, if_neg hpiece, ih hpieces (by omega)]
        rfl
    | escape c used =>
      obtain ⟨cs, rfl⟩ := Piece.escape_head hpiece
      change (cs.length + 1) + _ ≤ _ at hfuel
      cases fuel with
      | zero => omega
      | succ fuel =>
        have hread := readEscaped_escape hpiece (pieces.flatMap Piece.text)
        rw [List.cons_append] at hread
        show decodeComponent (fuel + 1) ('%' :: (cs ++ pieces.flatMap Piece.text)) = _
        rw [decodeComponent, if_pos rfl, hread]
        simp only [Option.bind_eq_bind, Option.bind_some, ih hpieces (show _ ≤ fuel by omega)]
        rfl

theorem decodeURIComponent_eq_some {text decoded : List Char} :
    decodeURIComponent text = some decoded ↔
      ∃ pieces : List Piece, (∀ piece ∈ pieces, piece.Fits) ∧ pieces.flatMap Piece.text = text ∧
        pieces.map Piece.char = decoded := by
  constructor
  · exact decodeComponent_pieces
  · rintro ⟨pieces, hpieces, rfl, rfl⟩
    exact decodeComponent_of_pieces hpieces le_rfl

theorem IsEscapeChar.codes {c : Char} (h : IsEscapeChar c) :
    0x20 < c.toNat ∧ c ≠ '+' ∧ specialQuerySet.has c = false := by
  rcases h with rfl | h
  · decide
  · unfold percentDigit at h
    have hcode : 48 ≤ c.toNat ∧ c.toNat ≤ 57 ∨ 65 ≤ c.toNat ∧ c.toNat ≤ 70 ∨ 97 ≤ c.toNat ∧ c.toNat ≤ 102 := by
      split at h
      · exact .inl ‹_›
      · split at h
        · exact .inr (.inl ‹_›)
        · split at h
          · exact .inr (.inr ‹_›)
          · cases h
    refine ⟨by omega, ?_, ?_⟩
    · rintro rfl
      revert hcode
      decide
    · rw [EncodeSet.has_eq_false_iff]
      refine ⟨by omega, by omega, ?_⟩
      simp only [specialQuerySet, List.mem_cons, List.not_mem_nil, or_false]
      omega

theorem Piece.escape_chars {c : Char} {used : List Char} (h : (Piece.escape c used).Fits) : ∀ d ∈ used, IsEscapeChar d := by
  obtain ⟨-, whole, hwhole, hchars, -⟩ := readEscapes_spec h
  rw [List.append_nil] at hwhole
  subst hwhole
  exact hchars

theorem Piece.escape_bytes {c : Char} {used : List Char} (h : (Piece.escape c used).Fits) (more : List Char) :
    percentBytes (used ++ more) = String.utf8EncodeChar c ++ percentBytes more := by
  obtain ⟨-, whole, hwhole, -, -, hbytes⟩ := readEscapes_spec h
  rw [List.append_nil] at hwhole
  subst hwhole
  exact hbytes more

inductive Thinned : List Char → List Char → Prop
  | nil : Thinned [] []
  | keep (c : Char) {text kept : List Char} : Thinned text kept → Thinned (c :: text) (c :: kept)
  | drop (c : Char) {text kept : List Char} (h : c.toNat ≤ 0x20 ∨ c = '+') : Thinned text kept → Thinned (c :: text) kept

namespace Thinned

theorem refl (text : List Char) : Thinned text text := by
  induction text with
  | nil => exact .nil
  | cons c text ih => exact .keep c ih

theorem trans {first second third : List Char} (h : Thinned first second) (hlater : Thinned second third) :
    Thinned first third := by
  induction h generalizing third with
  | nil => exact hlater
  | keep c _ ih =>
    cases hlater with
    | keep _ hkept => exact .keep c (ih hkept)
    | drop _ hdrop hkept => exact .drop c hdrop (ih hkept)
  | drop c hdrop _ ih => exact .drop c hdrop (ih hlater)

theorem filter {keeps : Char → Bool} (h : ∀ c, keeps c = false → c.toNat ≤ 0x20 ∨ c = '+') (text : List Char) :
    Thinned text (text.filter keeps) := by
  induction text with
  | nil => exact .nil
  | cons c text ih =>
    by_cases hc : keeps c = true
    · rw [List.filter_cons_of_pos hc]
      exact .keep c ih
    · rw [List.filter_cons_of_neg hc]
      exact .drop c (h c (Bool.eq_false_iff.mpr hc)) ih

theorem append_left {dropped text kept : List Char} (h : ∀ c ∈ dropped, c.toNat ≤ 0x20) (htext : Thinned text kept) :
    Thinned (dropped ++ text) kept := by
  induction dropped with
  | nil => exact htext
  | cons c dropped ih => exact .drop c (.inl (h c List.mem_cons_self)) (ih fun d hd => h d (List.mem_cons_of_mem c hd))

theorem append_right {dropped : List Char} (h : ∀ c ∈ dropped, c.toNat ≤ 0x20) (text : List Char) :
    Thinned (text ++ dropped) text := by
  induction text with
  | nil =>
    have hall := append_left h .nil
    rw [List.append_nil] at hall
    exact hall
  | cons c text ih => exact .keep c ih

theorem stripInput (input : List Char) : Thinned input (stripInput input) := by
  have hleft : Thinned input (input.dropWhile fun c => c.toNat ≤ 0x20) := by
    have htext := List.takeWhile_append_dropWhile (l := input) (p := fun c => decide (c.toNat ≤ 0x20))
    conv_lhs => rw [← htext]
    exact append_left (fun c hc => by simpa using List.mem_takeWhile_imp hc) (refl _)
  have hright : ∀ text : List Char, Thinned text (text.rdropWhile fun c => c.toNat ≤ 0x20) := by
    intro text
    have hsuffix : ∀ c ∈ text.rtakeWhile (fun c => decide (c.toNat ≤ 0x20)), c.toNat ≤ 0x20 := fun c hc => by
      simpa using List.mem_rtakeWhile_imp hc
    have hwhole : text.rdropWhile (fun c => decide (c.toNat ≤ 0x20)) ++ text.rtakeWhile (fun c => decide (c.toNat ≤ 0x20)) = text := by
      rw [List.rdropWhile, List.rtakeWhile, ← List.reverse_append, List.takeWhile_append_dropWhile, List.reverse_reverse]
    conv_lhs => rw [← hwhole]
    exact append_right hsuffix _
  refine hleft.trans ((hright _).trans (filter ?_ _))
  intro c hc
  rw [Bool.not_eq_false', Bool.or_eq_true, Bool.or_eq_true, beq_iff_eq, beq_iff_eq, beq_iff_eq] at hc
  omega

theorem takeWhile {text kept : List Char} (h : Thinned text kept) {stays : Char → Bool}
    (hstays : ∀ c, stays c = false → ¬ (c.toNat ≤ 0x20 ∨ c = '+')) :
    Thinned (text.takeWhile stays) (kept.takeWhile stays) := by
  induction h with
  | nil => exact .nil
  | keep c _ ih =>
    by_cases hc : stays c = true
    · rw [List.takeWhile_cons_of_pos hc, List.takeWhile_cons_of_pos hc]
      exact .keep c ih
    · rw [List.takeWhile_cons_of_neg hc, List.takeWhile_cons_of_neg hc]
      exact .nil
  | drop c hdrop _ ih =>
    have hc : stays c = true := by
      by_contra hfalse
      exact hstays c (Bool.eq_false_iff.mpr hfalse) hdrop
    rw [List.takeWhile_cons_of_pos hc]
    exact .drop c hdrop ih

theorem dropWhile {text kept : List Char} (h : Thinned text kept) {stays : Char → Bool}
    (hstays : ∀ c, stays c = false → ¬ (c.toNat ≤ 0x20 ∨ c = '+')) :
    Thinned (text.dropWhile stays) (kept.dropWhile stays) := by
  induction h with
  | nil => exact .nil
  | keep c hkept ih =>
    by_cases hc : stays c = true
    · rw [List.dropWhile_cons_of_pos hc, List.dropWhile_cons_of_pos hc]
      exact ih
    · rw [List.dropWhile_cons_of_neg hc, List.dropWhile_cons_of_neg hc]
      exact .keep c hkept
  | drop c hdrop _ ih =>
    have hc : stays c = true := by
      by_contra hfalse
      exact hstays c (Bool.eq_false_iff.mpr hfalse) hdrop
    rw [List.dropWhile_cons_of_pos hc]
    exact ih

theorem splitOnP {text kept : List Char} (h : Thinned text kept) {parts : Char → Bool}
    (hparts : ∀ c, parts c = true → ¬ (c.toNat ≤ 0x20 ∨ c = '+')) :
    List.Forall₂ Thinned (text.splitOnP parts) (kept.splitOnP parts) := by
  induction h with
  | nil => exact .cons .nil .nil
  | @keep c text kept _ ih =>
    rw [List.splitOnP_cons_eq_if_modifyHead, List.splitOnP_cons_eq_if_modifyHead]
    by_cases hc : parts c = true
    · rw [if_pos hc, if_pos hc]
      exact .cons .nil ih
    · rw [if_neg hc, if_neg hc]
      obtain ⟨first, rest, hsplit⟩ := List.exists_cons_of_ne_nil (List.splitOnP_ne_nil parts text)
      rw [hsplit] at ih ⊢
      obtain ⟨left, more, hfirst, hrest, hkept⟩ := List.forall₂_cons_left_iff.mp ih
      rw [hkept]
      exact .cons (.keep c hfirst) hrest
  | @drop c text kept hdrop _ ih =>
    rw [List.splitOnP_cons_eq_if_modifyHead, if_neg fun htrue => hparts c htrue hdrop]
    obtain ⟨first, rest, hsplit⟩ := List.exists_cons_of_ne_nil (List.splitOnP_ne_nil parts text)
    rw [hsplit] at ih ⊢
    obtain ⟨left, more, hfirst, hrest, hkept⟩ := List.forall₂_cons_left_iff.mp ih
    rw [hkept]
    exact .cons (.drop c hdrop hfirst) hrest

theorem front {front text kept : List Char} (hfront : ∀ c ∈ front, ¬ (c.toNat ≤ 0x20 ∨ c = '+')) (h : Thinned (front ++ text) kept) :
    ∃ rest, kept = front ++ rest ∧ Thinned text rest := by
  induction front generalizing kept with
  | nil => exact ⟨kept, rfl, h⟩
  | cons c front ih =>
    cases h with
    | keep _ hkept =>
      obtain ⟨rest, rfl, hrest⟩ := ih (fun d hd => hfront d (List.mem_cons_of_mem c hd)) hkept
      exact ⟨rest, rfl, hrest⟩
    | drop _ hdrop _ => exact absurd hdrop (hfront c List.mem_cons_self)

theorem subset {text kept : List Char} (h : Thinned text kept) : ∀ c ∈ kept, c ∈ text := by
  induction h with
  | nil => exact fun _ hc => hc
  | keep c _ ih =>
    intro d hd
    rcases List.mem_cons.mp hd with rfl | hd
    · exact List.mem_cons_self
    · exact List.mem_cons_of_mem c (ih d hd)
  | drop c _ _ ih => exact fun d hd => List.mem_cons_of_mem c (ih d hd)

theorem pieces {pieces : List Piece} (hpieces : ∀ piece ∈ pieces, piece.Fits) {kept : List Char}
    (h : Thinned (pieces.flatMap Piece.text) kept) :
    ∃ left : List Piece, (∀ piece ∈ left, piece.Fits) ∧ left.flatMap Piece.text = kept := by
  induction pieces generalizing kept with
  | nil =>
    cases h
    exact ⟨[], fun _ hpiece => absurd hpiece List.not_mem_nil, rfl⟩
  | cons piece pieces ih =>
    have hpiece := hpieces piece List.mem_cons_self
    have hlater : ∀ later ∈ pieces, later.Fits := fun later hmem => hpieces later (List.mem_cons_of_mem _ hmem)
    rw [List.flatMap_cons] at h
    cases piece with
    | literal c =>
      cases h with
      | keep _ hkept =>
        obtain ⟨left, hleft, rfl⟩ := ih hlater hkept
        exact ⟨.literal c :: left, List.forall_mem_cons.mpr ⟨hpiece, hleft⟩, rfl⟩
      | drop _ _ hkept => exact ih hlater hkept
    | escape c used =>
      have hused : ∀ d ∈ used, ¬ (d.toNat ≤ 0x20 ∨ d = '+') := by
        intro d hd
        have hcodes := (Piece.escape_chars hpiece d hd).codes
        rintro (hlow | hplus)
        · omega
        · exact hcodes.2.1 hplus
      obtain ⟨rest, rfl, hrest⟩ := front hused h
      obtain ⟨left, hleft, rfl⟩ := ih hlater hrest
      exact ⟨.escape c used :: left, List.forall_mem_cons.mpr ⟨hpiece, hleft⟩, rfl⟩

end Thinned

def plusToSpace (c : Char) : Char :=
  if c = '+' then ' ' else c

def formDecode (decodeInvalid : List UInt8 → List Char) (text : List Char) : List Char :=
  decodeText decodeInvalid (percentBytes (text.map plusToSpace))

/-- Digits, letters, `*`, `-`, `.` and `_`. -/
def isFormByte (byte : UInt8) : Bool :=
  48 ≤ byte.toNat && byte.toNat ≤ 57 || 65 ≤ byte.toNat && byte.toNat ≤ 90 || 97 ≤ byte.toNat && byte.toNat ≤ 122 ||
    [42, 45, 46, 95].contains byte.toNat

def formByte (byte : UInt8) : List Char :=
  if isFormByte byte then [Char.ofNat byte.toNat]
  else if byte = 0x20 then ['+']
  else percentByte byte

def formEncode (text : List Char) : List Char :=
  (text.flatMap String.utf8EncodeChar).flatMap formByte

def partName (part : List Char) : List Char :=
  part.takeWhile (· != '=')

def partValue (part : List Char) : List Char :=
  (part.dropWhile (· != '=')).drop 1

def queryParts (query : List Char) : List (List Char) :=
  query.splitOnP (· == '&')

def readForm (decodeInvalid : List UInt8 → List Char) (query : List Char) : List (List Char × List Char) :=
  ((queryParts query).filter (· ≠ [])).map fun part =>
    (formDecode decodeInvalid (partName part), formDecode decodeInvalid (partValue part))

def writePair (pair : List Char × List Char) : List Char :=
  formEncode pair.1 ++ '=' :: formEncode pair.2

def writeForm : List (List Char × List Char) → List Char
  | [] => []
  | [pair] => writePair pair
  | pair :: pairs => writePair pair ++ '&' :: writeForm pairs

def setFirst (name value : List Char) : List (List Char × List Char) → List (List Char × List Char)
  | [] => []
  | pair :: pairs =>
    if pair.1 = name then (name, value) :: pairs.filter (fun other => other.1 ≠ name) else pair :: setFirst name value pairs

def setPair (name value : List Char) (pairs : List (List Char × List Char)) : List (List Char × List Char) :=
  if pairs.any (fun pair => pair.1 = name) then setFirst name value pairs else pairs ++ [(name, value)]

theorem setPair_of_absent {name : List Char} {pairs : List (List Char × List Char)} (h : ∀ pair ∈ pairs, pair.1 ≠ name)
    (value : List Char) : setPair name value pairs = pairs ++ [(name, value)] := by
  rw [setPair, if_neg]
  rw [List.any_eq_true]
  rintro ⟨pair, hpair, hname⟩
  exact h pair hpair (of_decide_eq_true hname)

theorem isFormByte_cases {byte : UInt8} (h : isFormByte byte = true) :
    byte.toNat < 0x80 ∧ byte.toNat ≠ 0x25 ∧ byte.toNat ≠ 0x26 ∧ byte.toNat ≠ 0x2B ∧ byte.toNat ≠ 0x3D ∧
      specialQuerySet.has (Char.ofNat byte.toNat) = false := by
  have hbytes : ∀ n : Fin 256, isFormByte (UInt8.ofNat n.val) = true →
      n.val < 0x80 ∧ n.val ≠ 0x25 ∧ n.val ≠ 0x26 ∧ n.val ≠ 0x2B ∧ n.val ≠ 0x3D ∧ specialQuerySet.has (Char.ofNat n.val) = false := by
    decide +kernel
  have hbyte := hbytes ⟨byte.toNat, byte.toNat_lt⟩
  rw [UInt8.ofNat_toNat] at hbyte
  exact hbyte h

theorem ofNat_toNat_ascii {n : Nat} (h : n < 0x80) : (Char.ofNat n).toNat = n := by
  have hvalid : n.isValidChar := .inl (by omega)
  rw [Char.ofNat, dif_pos hvalid]
  rfl

theorem utf8EncodeChar_ascii {byte : UInt8} (h : byte.toNat < 0x80) :
    String.utf8EncodeChar (Char.ofNat byte.toNat) = [byte] := by
  have hvalue : (Char.ofNat byte.toNat).val.toNat = byte.toNat := ofNat_toNat_ascii h
  unfold String.utf8EncodeChar
  simp only [hvalue]
  rw [if_pos (by omega), UInt8.ofNat_toNat]

theorem map_plusToSpace {text : List Char} (h : ∀ c ∈ text, c ≠ '+') : text.map plusToSpace = text := by
  have hkept : ∀ c ∈ text, plusToSpace c = id c := fun c hc => if_neg (h c hc)
  rw [List.map_congr_left hkept, List.map_id]

theorem plus_not_mem_percentByte {byte : UInt8} : ∀ c ∈ percentByte byte, c ≠ '+' := by
  rintro c hc rfl
  have hpercent := isPercentCode_percentByte hc
  revert hpercent
  decide

theorem percentBytes_formByte (byte : UInt8) (rest : List Char) :
    percentBytes ((formByte byte).map plusToSpace ++ rest) = byte :: percentBytes rest := by
  unfold formByte
  by_cases hform : isFormByte byte = true
  · obtain ⟨hascii, hpercent, -, hplus, -⟩ := isFormByte_cases hform
    have hcode : ∀ c : Char, c.toNat ≠ byte.toNat → Char.ofNat byte.toNat ≠ c := by
      rintro c hne rfl
      exact hne (ofNat_toNat_ascii hascii)
    rw [if_pos hform, List.map_singleton, plusToSpace, if_neg (hcode '+' (Ne.symm hplus)), List.singleton_append,
      percentBytes_literal (hcode '%' (Ne.symm hpercent)), utf8EncodeChar_ascii hascii]
    rfl
  · rw [if_neg hform]
    by_cases hspace : byte = 0x20
    · subst hspace
      rfl
    · rw [if_neg hspace, map_plusToSpace plus_not_mem_percentByte, percentBytes_percentByte]

theorem percentBytes_formBytes (bytes : List UInt8) : percentBytes ((bytes.flatMap formByte).map plusToSpace) = bytes := by
  induction bytes with
  | nil => rfl
  | cons byte bytes ih => rw [List.flatMap_cons, List.map_append, percentBytes_formByte, ih]

theorem formDecode_formEncode (decodeInvalid : List UInt8 → List Char) (text : List Char) :
    formDecode decodeInvalid (formEncode text) = text := by
  rw [formDecode, formEncode, percentBytes_formBytes, decodeText_encode]

theorem mem_formEncode {text : List Char} {c : Char} (h : c ∈ formEncode text) :
    c ≠ '&' ∧ c ≠ '=' ∧ specialQuerySet.has c = false := by
  obtain ⟨byte, -, hc⟩ := List.mem_flatMap.mp h
  unfold formByte at hc
  split at hc
  · rename_i hform
    obtain ⟨hascii, -, hand, -, hequals, hspared⟩ := isFormByte_cases hform
    rw [List.mem_singleton] at hc
    subst hc
    have hcode := ofNat_toNat_ascii hascii
    refine ⟨?_, ?_, hspared⟩
    · intro hchar
      rw [hchar] at hcode
      exact hand hcode.symm
    · intro hchar
      rw [hchar] at hcode
      exact hequals hcode.symm
  · split at hc
    · rw [List.mem_singleton] at hc
      subst hc
      decide
    · have hpercent := isPercentCode_percentByte hc
      refine ⟨?_, ?_, specialQuerySet.has_percent hpercent⟩ <;> (rintro rfl; revert hpercent; decide)

theorem partName_writePair (pair : List Char × List Char) : partName (writePair pair) = formEncode pair.1 := by
  have hname : ∀ c ∈ formEncode pair.1, (c != '=') = true := fun c hc => bne_iff_ne.mpr (mem_formEncode hc).2.1
  rw [partName, writePair, List.takeWhile_append_of_pos hname]
  exact List.append_nil _

theorem partValue_writePair (pair : List Char × List Char) : partValue (writePair pair) = formEncode pair.2 := by
  have hname : ∀ c ∈ formEncode pair.1, (c != '=') = true := fun c hc => bne_iff_ne.mpr (mem_formEncode hc).2.1
  rw [partValue, writePair, List.dropWhile_append_of_pos hname]
  rfl

theorem mem_writePair {pair : List Char × List Char} {c : Char} (h : c ∈ writePair pair) :
    c ≠ '&' ∧ specialQuerySet.has c = false := by
  rcases List.mem_append.mp h with h | h
  · exact ⟨(mem_formEncode h).1, (mem_formEncode h).2.2⟩
  · rcases List.mem_cons.mp h with rfl | h
    · decide
    · exact ⟨(mem_formEncode h).1, (mem_formEncode h).2.2⟩

theorem queryParts_writePair (pair : List Char × List Char) : queryParts (writePair pair) = [writePair pair] :=
  List.splitOnP_eq_singleton fun _ hc => beq_eq_false_iff_ne.mpr (mem_writePair hc).1

theorem readForm_writeForm (decodeInvalid : List UInt8 → List Char) (pairs : List (List Char × List Char)) :
    readForm decodeInvalid (writeForm pairs) = pairs := by
  have hpair : ∀ pair,
      (formDecode decodeInvalid (partName (writePair pair)), formDecode decodeInvalid (partValue (writePair pair))) = pair := by
    intro pair
    rw [partName_writePair, partValue_writePair, formDecode_formEncode, formDecode_formEncode]
  have hfilter : ∀ pair rest, (writePair pair :: rest).filter (· ≠ []) = writePair pair :: rest.filter (· ≠ []) :=
    fun pair _ => List.filter_cons_of_pos (decide_eq_true (List.append_ne_nil_of_right_ne_nil _ (List.cons_ne_nil _ _)))
  fun_induction writeForm pairs with
  | case1 => rfl
  | case2 pair => rw [readForm, queryParts_writePair, hfilter, List.filter_nil, List.map_singleton, hpair]
  | case3 pair pairs _ ih =>
    have hparts : queryParts (writePair pair ++ '&' :: writeForm pairs) = writePair pair :: queryParts (writeForm pairs) :=
      List.splitOnP_append_cons_of_forall_mem (fun c hc => beq_eq_false_iff_ne.mpr (mem_writePair hc).1) '&' (by decide) _
    rw [readForm] at ih ⊢
    rw [hparts, hfilter, List.map_cons, hpair, ih]

theorem writeForm_spared (pairs : List (List Char × List Char)) : specialQuerySet.Spares (writeForm pairs) := by
  fun_induction writeForm pairs with
  | case1 => exact fun _ hc => absurd hc List.not_mem_nil
  | case2 pair => exact fun c hc => (mem_writePair hc).2
  | case3 pair pairs _ ih =>
    intro c hc
    rcases List.mem_append.mp hc with hc | hc
    · exact (mem_writePair hc).2
    · rcases List.mem_cons.mp hc with rfl | hc
      · decide
      · exact ih c hc

def Piece.formChar : Piece → Char
  | .literal c => plusToSpace c
  | .escape c _ => c

theorem percentBytes_encodeChar {c : Char} (h : c ≠ '%') (rest : List Char) :
    percentBytes ((specialQuerySet.encodeChar c).map plusToSpace ++ rest) =
      String.utf8EncodeChar (plusToSpace c) ++ percentBytes rest := by
  unfold EncodeSet.encodeChar
  by_cases hhas : specialQuerySet.has c = true
  · have hplus : c ≠ '+' := by
      rintro rfl
      revert hhas
      decide
    have hbytes : ∀ d ∈ (String.utf8EncodeChar c).flatMap percentByte, d ≠ '+' := by
      intro d hd
      obtain ⟨byte, -, hd⟩ := List.mem_flatMap.mp hd
      exact plus_not_mem_percentByte d hd
    rw [if_pos hhas, map_plusToSpace hbytes, percentBytes_percent, plusToSpace, if_neg hplus]
  · have hspace : plusToSpace c ≠ '%' := by
      unfold plusToSpace
      split
      · decide
      · exact h
    rw [if_neg hhas, List.map_singleton, List.singleton_append, percentBytes_literal hspace]

theorem percentBytes_pieces {pieces : List Piece} (h : ∀ piece ∈ pieces, piece.Fits) :
    percentBytes ((specialQuerySet.encode (pieces.flatMap Piece.text)).map plusToSpace) =
      (pieces.map Piece.formChar).flatMap String.utf8EncodeChar := by
  induction pieces with
  | nil => rfl
  | cons piece pieces ih =>
    have hpiece := h piece List.mem_cons_self
    have hlater := ih fun later hlater => h later (List.mem_cons_of_mem _ hlater)
    rw [List.map_cons, List.flatMap_cons, List.flatMap_cons, EncodeSet.encode, List.flatMap_append, List.map_append]
    cases piece with
    | literal c =>
      show percentBytes (([c].flatMap specialQuerySet.encodeChar).map plusToSpace ++ _) = _
      rw [List.flatMap_singleton, percentBytes_encodeChar hpiece]
      exact congrArg (String.utf8EncodeChar (plusToSpace c) ++ ·) hlater
    | escape c used =>
      have hchars := Piece.escape_chars hpiece
      have hspared : used.flatMap specialQuerySet.encodeChar = used :=
        EncodeSet.encode_of_spares fun d hd => (hchars d hd).codes.2.2
      show percentBytes ((used.flatMap specialQuerySet.encodeChar).map plusToSpace ++ _) = _
      rw [hspared, map_plusToSpace fun d hd => (hchars d hd).codes.2.1, Piece.escape_bytes hpiece]
      exact congrArg (String.utf8EncodeChar c ++ ·) hlater

theorem formDecode_pieces {pieces : List Piece} (h : ∀ piece ∈ pieces, piece.Fits) (decodeInvalid : List UInt8 → List Char) :
    formDecode decodeInvalid (specialQuerySet.encode (pieces.flatMap Piece.text)) = pieces.map Piece.formChar := by
  rw [formDecode, percentBytes_pieces h, decodeText_encode]

theorem encodeChar_mark {mark : Char} (hmark : specialQuerySet.has mark = false) (hcode : ¬ IsPercentCode mark.toNat) {c : Char}
    (h : c ≠ mark) : ∀ d ∈ specialQuerySet.encodeChar c, d ≠ mark := by
  unfold EncodeSet.encodeChar
  split
  · rintro d hd rfl
    obtain ⟨byte, -, hd⟩ := List.mem_flatMap.mp hd
    exact hcode (isPercentCode_percentByte hd)
  · intro d hd
    rw [List.mem_singleton.mp hd]
    exact h

theorem partName_encode (part : List Char) : partName (specialQuerySet.encode part) = specialQuerySet.encode (partName part) := by
  induction part with
  | nil => rfl
  | cons c part ih =>
    rw [EncodeSet.encode, List.flatMap_cons]
    by_cases hc : c = '='
    · subst hc
      rfl
    · have hchars := encodeChar_mark (by decide) (by decide) hc
      rw [partName, List.takeWhile_append_of_pos fun d hd => bne_iff_ne.mpr (hchars d hd), partName,
        List.takeWhile_cons_of_pos (p := fun d => d != '=') (bne_iff_ne.mpr hc), EncodeSet.encode, List.flatMap_cons]
      exact congrArg (specialQuerySet.encodeChar c ++ ·) ih

theorem splitOnP_append {stays : Char → Bool} {front : List Char} (h : ∀ c ∈ front, stays c = false) (rest : List Char) :
    (front ++ rest).splitOnP stays = (rest.splitOnP stays).modifyHead (front ++ ·) := by
  induction front with
  | nil =>
    rw [List.nil_append]
    cases rest.splitOnP stays <;> rfl
  | cons c front ih =>
    rw [List.cons_append, List.splitOnP_cons_eq_if_modifyHead, if_neg (Bool.eq_false_iff.mp (h c List.mem_cons_self)),
      ih fun d hd => h d (List.mem_cons_of_mem c hd)]
    cases rest.splitOnP stays <;> rfl

theorem queryParts_encode (query : List Char) :
    queryParts (specialQuerySet.encode query) = (queryParts query).map specialQuerySet.encode := by
  induction query with
  | nil => rfl
  | cons c query ih =>
    rw [EncodeSet.encode, List.flatMap_cons]
    unfold queryParts at ih ⊢
    by_cases hc : c = '&'
    · subst hc
      show ('&' :: specialQuerySet.encode query).splitOnP (· == '&') = _
      rw [List.splitOnP_cons_eq_if_modifyHead, List.splitOnP_cons_eq_if_modifyHead, if_pos (by decide), if_pos (by decide), ih]
      rfl
    · have hchars := encodeChar_mark (by decide) (by decide) hc
      have hneg : ¬ (c == '&') = true := fun heq => hc (eq_of_beq heq)
      rw [splitOnP_append fun d hd => beq_eq_false_iff_ne.mpr (hchars d hd), List.splitOnP_cons_eq_if_modifyHead, if_neg hneg]
      show List.modifyHead _ ((specialQuerySet.encode query).splitOnP _) = _
      rw [ih]
      cases query.splitOnP (· == '&') <;> rfl

end ByokGrid
