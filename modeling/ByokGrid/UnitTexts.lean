import ByokGrid.Utf16Strings

/-! Texts read one code unit at a time, half of a surrogate pair included: their JSON text,
and the members an object keeps of it. -/

namespace ByokGrid

def unitChar (unit : UInt16) : Char :=
  if isHighSurrogate unit.toNat || isLowSurrogate unit.toNat then Char.ofNat (0x100000 + unit.toNat)
  else Char.ofNat unit.toNat

def charUnit (c : Char) : UInt16 :=
  UInt16.ofNat c.toNat

@[simp] theorem charUnit_unitChar (unit : UInt16) : charUnit (unitChar unit) = unit := by
  have hunit : unit.toNat < 65536 := unit.toNat_lt
  by_cases hsurrogate : (isHighSurrogate unit.toNat || isLowSurrogate unit.toNat) = true
  · rw [charUnit, unitChar, if_pos hsurrogate]
    simp only [isHighSurrogate, isLowSurrogate, Bool.or_eq_true, Bool.and_eq_true, decide_eq_true_eq] at hsurrogate
    rw [JsString.toNat_ofNat (by unfold Nat.isValidChar; omega)]
    apply UInt16.toNat_inj.mp
    rw [UInt16.toNat_ofNat']
    omega
  · rw [charUnit, unitChar, if_neg hsurrogate]
    simp only [isHighSurrogate, isLowSurrogate, Bool.or_eq_true, Bool.and_eq_true, decide_eq_true_eq] at hsurrogate
    rw [JsString.toNat_ofNat (by unfold Nat.isValidChar; omega), UInt16.ofNat_toNat]

def IsUnit (c : Char) : Prop :=
  unitChar (charUnit c) = c

theorem isUnit_unitChar (unit : UInt16) : IsUnit (unitChar unit) := by
  rw [IsUnit, charUnit_unitChar]

theorem isUnit_of_basic {c : Char} (h : c.toNat ≤ 0xFFFF) : IsUnit c := by
  have hc := scalar_range c
  have hvalue : (charUnit c).toNat = c.toNat := UInt16.toNat_ofNat_of_lt' (Nat.lt_succ_of_le h)
  have hsurrogate : ¬ (isHighSurrogate c.toNat || isLowSurrogate c.toNat) = true := by
    simp only [isHighSurrogate, isLowSurrogate, Bool.or_eq_true, Bool.and_eq_true, decide_eq_true_eq]
    omega
  rw [IsUnit, unitChar, hvalue, if_neg hsurrogate, Char.ofNat_toNat]

namespace JsString

def chars (s : JsString) : List Char :=
  s.units.map unitChar

def ofChars (cs : List Char) : JsString :=
  ⟨cs.map charUnit⟩

def append (s t : JsString) : JsString :=
  ⟨s.units ++ t.units⟩

instance : Append JsString := ⟨append⟩

@[simp] theorem chars_append (s t : JsString) : (s ++ t).chars = s.chars ++ t.chars :=
  List.map_append

@[simp] theorem ofChars_chars (s : JsString) : ofChars s.chars = s := by
  rw [ofChars, chars, List.map_map]
  exact congrArg JsString.mk ((List.map_congr_left fun unit _ => charUnit_unitChar unit).trans (List.map_id _))

theorem chars_ofChars {cs : List Char} (h : ∀ c ∈ cs, IsUnit c) : (ofChars cs).chars = cs := by
  rw [chars, ofChars, List.map_map]
  conv_rhs => rw [← List.map_id cs]
  exact List.map_congr_left h

theorem isUnit_of_mem_chars {s : JsString} {c : Char} (h : c ∈ s.chars) : IsUnit c := by
  obtain ⟨unit, _, rfl⟩ := List.mem_map.mp h
  exact isUnit_unitChar unit

def charUnits (c : Char) : List Char :=
  (utf16Units c).map fun unit => unitChar (UInt16.ofNat unit)

theorem charUnits_basic {c : Char} (h : c.toNat ≤ 0xFFFF) : charUnits c = [c] := by
  rw [charUnits, utf16Units, if_pos h]
  exact congrArg (fun c => [c]) (isUnit_of_basic h)

theorem chars_ofString (s : String) : (ofString s).chars = s.toList.flatMap charUnits := by
  rw [chars, ofString, ofUnits, List.map_map, List.map_flatMap]
  rfl

theorem flatMap_charUnits {cs : List Char} (h : ∀ c ∈ cs, c.toNat ≤ 0xFFFF) : cs.flatMap charUnits = cs := by
  induction cs with
  | nil => rfl
  | cons c cs ih =>
    rw [List.flatMap_cons, charUnits_basic (h c List.mem_cons_self), ih fun later hlater => h later (List.mem_cons_of_mem _ hlater)]
    rfl

theorem forall_basic {cs : List Char} (h : (cs.all fun c => c.toNat ≤ 0xFFFF) = true) : ∀ c ∈ cs, c.toNat ≤ 0xFFFF :=
  fun c hc => of_decide_eq_true (List.all_eq_true.mp h c hc)

theorem chars_ofString_basic {s : String} (h : ∀ c ∈ s.toList, c.toNat ≤ 0xFFFF) : (ofString s).chars = s.toList := by
  rw [chars_ofString, flatMap_charUnits h]

def readUnitString : List Char → Option (List UInt16 × List Char)
  | [] => none
  | '"' :: rest => some ([], rest)
  | '\\' :: 'u' :: a :: b :: c :: d :: rest => do
    let unit ← hexUnit a b c d
    let (units, rest) ← readUnitString rest
    return (UInt16.ofNat unit :: units, rest)
  | '\\' :: c :: rest => do
    let unit ← escapedUnit c
    let (units, rest) ← readUnitString rest
    return (UInt16.ofNat unit :: units, rest)
  | c :: rest =>
    if c.toNat < 32 ∨ c = '\\' then none
    else do
      let (units, rest) ← readUnitString rest
      return (charUnit c :: units, rest)

theorem readUnitString_visible {c : Char} (hvisible : 32 ≤ c.toNat) (hquote : c ≠ '"') (hescape : c ≠ '\\')
    (rest : List Char) : readUnitString (c :: rest) =
      (readUnitString rest).map fun result => (charUnit c :: result.1, result.2) := by
  rw [readUnitString]
  · rw [if_neg (by simp [hescape]; omega)]
    cases readUnitString rest <;> rfl
  · exact hquote
  · exact fun _ _ _ _ _ h => absurd h hescape
  · exact fun _ _ h => absurd h hescape

theorem readUnitString_letter {letter : Char} {unit : Nat} (hletter : letter ≠ 'u') (hunit : escapedUnit letter = some unit)
    (rest : List Char) : readUnitString ('\\' :: letter :: rest) =
      (readUnitString rest).map fun result => (UInt16.ofNat unit :: result.1, result.2) := by
  rw [readUnitString]
  · rw [hunit]
    cases readUnitString rest <;> rfl
  · exact fun _ _ _ _ _ h => absurd h hletter

theorem readUnitString_hex {unit : Nat} (h : unit < 65536) (rest : List Char) :
    readUnitString ('\\' :: 'u' :: hexDigit (unit / 4096) :: hexDigit (unit / 256 % 16) :: hexDigit (unit / 16 % 16) ::
      hexDigit (unit % 16) :: rest) = (readUnitString rest).map fun result => (UInt16.ofNat unit :: result.1, result.2) := by
  have hfirst := hexValue_hexDigit (n := unit / 4096) (by omega)
  have hsecond := hexValue_hexDigit (n := unit / 256 % 16) (by omega)
  have hthird := hexValue_hexDigit (n := unit / 16 % 16) (by omega)
  have hfourth := hexValue_hexDigit (n := unit % 16) (by omega)
  have hunit : hexUnit (hexDigit (unit / 4096)) (hexDigit (unit / 256 % 16)) (hexDigit (unit / 16 % 16)) (hexDigit (unit % 16)) =
      some unit := by
    simp only [hexUnit, hfirst, hsecond, hthird, hfourth, Option.bind_eq_bind, Option.bind_some, pure, Option.some.injEq]
    omega
  rw [readUnitString, hunit]
  cases readUnitString rest <;> rfl

theorem readUnitString_escape (c : Char) (rest : List Char) :
    readUnitString (jsonEscape c ++ rest) = (readUnitString rest).map fun result => (charUnit c :: result.1, result.2) := by
  unfold jsonEscape
  split
  case h_8 h8 h9 h10 h12 h13 h34 h92 =>
    split
    · have hsmall : c.toNat < 65536 := by omega
      have hunit := readUnitString_hex hsmall rest
      rw [Nat.div_eq_of_lt (by omega : c.toNat < 4096), Nat.div_eq_of_lt (by omega : c.toNat < 256),
        Nat.mod_eq_of_lt (by omega : c.toNat / 16 < 16)] at hunit
      exact hunit
    · refine readUnitString_visible (by omega) ?_ ?_ rest
      · rintro rfl
        exact h34 rfl
      · rintro rfl
        exact h92 rfl
  all_goals
    rename_i hn
    rw [charUnit, hn]
    exact readUnitString_letter (by decide) (by decide) rest

/-- `JSON.stringify` of a string, without the quotes. -/
def quotedUnits (s : JsString) : List Char :=
  (quoteUnits s.toUnits).flatMap charUnits

theorem jsonEscape_basic {c : Char} (h : c.toNat ≤ 0xFFFF) : ∀ d ∈ jsonEscape c, d.toNat ≤ 0xFFFF := by
  have hdigit : ∀ n < 16, (hexDigit n).toNat ≤ 0xFFFF := by decide
  unfold jsonEscape
  split
  case h_8 =>
    split
    · intro d hd
      simp only [List.mem_cons, List.not_mem_nil, or_false] at hd
      rcases hd with rfl | rfl | rfl | rfl | rfl | rfl
      · decide
      · decide
      · decide
      · decide
      · exact hdigit _ (by omega)
      · exact hdigit _ (by omega)
    · intro d hd
      rw [List.mem_singleton.mp hd]
      exact h
  all_goals exact JsString.forall_basic (by decide)

theorem jsonEscape_astral {c : Char} (h : 0xFFFF < c.toNat) : jsonEscape c = [c] := by
  unfold jsonEscape
  split
  case h_8 => rw [if_neg (by omega)]
  all_goals omega

theorem escapeUnit_basic {unit : Nat} (h : unit < 65536) : ∀ d ∈ escapeUnit unit, d.toNat ≤ 0xFFFF := by
  have hdigit : ∀ n < 16, (hexDigit n).toNat ≤ 0xFFFF := by decide
  unfold escapeUnit
  split
  · intro d hd
    simp only [List.mem_cons, List.not_mem_nil, or_false] at hd
    rcases hd with rfl | rfl | rfl | rfl | rfl | rfl
    · decide
    · decide
    · exact hdigit _ (by omega)
    · exact hdigit _ (by omega)
    · exact hdigit _ (by omega)
    · exact hdigit _ (by omega)
  · rename_i hsurrogate
    simp only [isHighSurrogate, isLowSurrogate, Bool.or_eq_true, Bool.and_eq_true, decide_eq_true_eq] at hsurrogate
    apply jsonEscape_basic
    rw [toNat_ofNat (by unfold Nat.isValidChar; omega)]
    omega

theorem readUnitString_escapeUnit {unit : Nat} (h : unit < 65536) (rest : List Char) :
    readUnitString ((escapeUnit unit).flatMap charUnits ++ rest) =
      (readUnitString rest).map fun result => (UInt16.ofNat unit :: result.1, result.2) := by
  rw [flatMap_charUnits (escapeUnit_basic h)]
  unfold escapeUnit
  split
  · exact readUnitString_hex h rest
  · rename_i hsurrogate
    simp only [isHighSurrogate, isLowSurrogate, Bool.or_eq_true, Bool.and_eq_true, decide_eq_true_eq] at hsurrogate
    rw [readUnitString_escape, charUnit, toNat_ofNat (by unfold Nat.isValidChar; omega)]

theorem readUnitString_surrogate {unit : Nat} (hlow : 0xD800 ≤ unit) (hhigh : unit ≤ 0xDFFF) (rest : List Char) :
    readUnitString (unitChar (UInt16.ofNat unit) :: rest) =
      (readUnitString rest).map fun result => (UInt16.ofNat unit :: result.1, result.2) := by
  have hvalue : (UInt16.ofNat unit).toNat = unit := UInt16.toNat_ofNat_of_lt' (by simp only [UInt16.size]; omega)
  have hsurrogate : (isHighSurrogate unit || isLowSurrogate unit) = true := by
    simp only [isHighSurrogate, isLowSurrogate, Bool.or_eq_true, Bool.and_eq_true, decide_eq_true_eq]
    omega
  have hchar : (unitChar (UInt16.ofNat unit)).toNat = 0x100000 + unit := by
    rw [unitChar, hvalue, if_pos hsurrogate, toNat_ofNat (by unfold Nat.isValidChar; omega)]
  rw [readUnitString_visible (by omega), charUnit_unitChar]
  · intro hquote
    rw [hquote] at hchar
    exact absurd hchar (by simp; omega)
  · intro hescape
    rw [hescape] at hchar
    exact absurd hchar (by simp; omega)

theorem readUnitString_quoted {units : List Nat} (h : ∀ unit ∈ units, unit < 65536) (rest : List Char) :
    readUnitString ((quoteUnits units).flatMap charUnits ++ '"' :: rest) = some (units.map UInt16.ofNat, rest) := by
  fun_induction quoteUnits units with
  | case1 => rfl
  | case2 unit => rw [readUnitString_escapeUnit (h unit List.mem_cons_self), readUnitString]; rfl
  | case3 unit next units hpair ih =>
    simp only [isHighSurrogate, isLowSurrogate, Bool.and_eq_true, decide_eq_true_eq] at hpair
    have hvalue : (Char.ofNat (0x10000 + (unit - 0xD800) * 1024 + (next - 0xDC00))).toNat =
        0x10000 + (unit - 0xD800) * 1024 + (next - 0xDC00) := by
      apply toNat_ofNat
      unfold Nat.isValidChar
      omega
    have hescape : jsonEscape (Char.ofNat (0x10000 + (unit - 0xD800) * 1024 + (next - 0xDC00))) =
        [Char.ofNat (0x10000 + (unit - 0xD800) * 1024 + (next - 0xDC00))] :=
      jsonEscape_astral (by omega)
    have hunits : charUnits (Char.ofNat (0x10000 + (unit - 0xD800) * 1024 + (next - 0xDC00))) =
        [unitChar (UInt16.ofNat unit), unitChar (UInt16.ofNat next)] := by
      have hfirst : 0xD800 + (0x10000 + (unit - 0xD800) * 1024 + (next - 0xDC00) - 0x10000) / 1024 = unit := by omega
      have hsecond : 0xDC00 + (0x10000 + (unit - 0xD800) * 1024 + (next - 0xDC00) - 0x10000) % 1024 = next := by omega
      rw [charUnits, utf16Units, hvalue, if_neg (by omega), hfirst, hsecond]
      rfl
    rw [hescape, List.flatMap_append, List.flatMap_singleton, hunits, List.append_assoc]
    have hlater := ih fun later hlater => h later (List.mem_cons_of_mem _ (List.mem_cons_of_mem _ hlater))
    rw [List.cons_append, List.cons_append, List.nil_append, readUnitString_surrogate (by omega) (by omega),
      readUnitString_surrogate (by omega) (by omega), hlater]
    rfl
  | case4 unit next units hpair ih =>
    rw [List.flatMap_append, List.append_assoc, readUnitString_escapeUnit (h unit List.mem_cons_self),
      ih fun later hlater => h later (List.mem_cons_of_mem _ hlater)]
    rfl

def unitCodec : StringCodec JsString where
  quoted := quotedUnits
  read cs := (readUnitString cs).map fun result => (⟨result.1⟩, result.2)
  read_quoted s rest := by
    rw [quotedUnits, readUnitString_quoted s.toUnits_lt, Option.map_some]
    exact congrArg (fun s => some (s, rest)) (ofUnits_toUnits s)

end JsString

end ByokGrid
