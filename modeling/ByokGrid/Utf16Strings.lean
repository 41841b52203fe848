import ByokGrid.JsonTree

/-! Strings of UTF-16 code units, in which half of a surrogate pair may stand alone: their
characters, their UTF-8 bytes and their JSON text. -/

namespace ByokGrid

structure JsString where
  units : List UInt16
  deriving Repr, DecidableEq

namespace JsString

def toUnits (s : JsString) : List Nat :=
  s.units.map UInt16.toNat

def ofUnits (units : List Nat) : JsString :=
  ⟨units.map UInt16.ofNat⟩

def ofString (s : String) : JsString :=
  ofUnits (s.toList.flatMap utf16Units)

@[simp] theorem ofUnits_toUnits (s : JsString) : ofUnits s.toUnits = s := by
  rw [ofUnits, toUnits, List.map_map]
  exact congrArg JsString.mk ((List.map_congr_left fun unit _ => UInt16.ofNat_toNat).trans (List.map_id _))

theorem toUnits_lt (s : JsString) : ∀ unit ∈ s.toUnits, unit < 65536 := by
  intro unit hunit
  obtain ⟨value, _, rfl⟩ := List.mem_map.mp hunit
  exact value.toNat_lt

theorem toUnits_ofUnits {units : List Nat} (h : ∀ unit ∈ units, unit < 65536) : (ofUnits units).toUnits = units := by
  rw [toUnits, ofUnits, List.map_map]
  conv_rhs => rw [← List.map_id units]
  exact List.map_congr_left fun unit hunit => UInt16.toNat_ofNat_of_lt' (h unit hunit)

def text (s : JsString) : String :=
  String.ofList (decodeUnits s.toUnits)

def WellFormed (s : JsString) : Prop :=
  ∃ text : String, s = ofString text

theorem utf16Units_lt (c : Char) : ∀ unit ∈ utf16Units c, unit < 65536 := by
  have hc := scalar_range c
  intro unit hunit
  unfold utf16Units at hunit
  split at hunit
  · simp only [List.mem_singleton] at hunit
    omega
  · simp only [List.mem_cons, List.not_mem_nil, or_false] at hunit
    omega

@[simp] theorem toUnits_ofString (s : String) : (ofString s).toUnits = s.toList.flatMap utf16Units := by
  apply toUnits_ofUnits
  intro unit hunit
  obtain ⟨c, _, hc⟩ := List.mem_flatMap.mp hunit
  exact utf16Units_lt c unit hc

@[simp] theorem text_ofString (s : String) : (ofString s).text = s := by
  rw [text, toUnits_ofString, decodeUnits_units, String.ofList_toList]

theorem ofString_text_eq_self {s : JsString} : ofString s.text = s ↔ s.WellFormed := by
  constructor
  · exact fun h => ⟨s.text, h.symm⟩
  · rintro ⟨text, rfl⟩
    rw [text_ofString]

def escapeUnit (unit : Nat) : List Char :=
  if isHighSurrogate unit || isLowSurrogate unit then
    ['\\', 'u', hexDigit (unit / 4096), hexDigit (unit / 256 % 16), hexDigit (unit / 16 % 16), hexDigit (unit % 16)]
  else jsonEscape (Char.ofNat unit)

/-- `QuoteJSONString`, without the quotes. -/
def quoteUnits : List Nat → List Char
  | [] => []
  | [unit] => escapeUnit unit
  | unit :: next :: units =>
    if isHighSurrogate unit && isLowSurrogate next then
      jsonEscape (Char.ofNat (0x10000 + (unit - 0xD800) * 1024 + (next - 0xDC00))) ++ quoteUnits units
    else escapeUnit unit ++ quoteUnits (next :: units)

theorem toNat_ofNat {n : Nat} (h : n.isValidChar) : (Char.ofNat n).toNat = n := by
  unfold Char.ofNat
  rw [dif_pos h]
  rfl

theorem readUnits_escapeUnit {unit : Nat} (h : unit < 65536) (rest : List Char) :
    readUnits (escapeUnit unit ++ rest) = (readUnits rest).map fun result => (unit :: result.1, result.2) := by
  unfold escapeUnit
  split
  · have hfirst := hexValue_hexDigit (n := unit / 4096) (by omega)
    have hsecond := hexValue_hexDigit (n := unit / 256 % 16) (by omega)
    have hthird := hexValue_hexDigit (n := unit / 16 % 16) (by omega)
    have hfourth := hexValue_hexDigit (n := unit % 16) (by omega)
    have hunit : hexUnit (hexDigit (unit / 4096)) (hexDigit (unit / 256 % 16)) (hexDigit (unit / 16 % 16)) (hexDigit (unit % 16)) =
        some unit := by
      simp only [hexUnit, hfirst, hsecond, hthird, hfourth, Option.bind_eq_bind, Option.bind_some, pure, Option.some.injEq]
      omega
    show readUnits ('\\' :: 'u' :: _ :: _ :: _ :: _ :: rest) = _
    rw [readUnits, hunit]
    cases readUnits rest <;> rfl
  · rename_i hsurrogate
    have hunit : (Char.ofNat unit).toNat = unit := by
      apply toNat_ofNat
      simp only [isHighSurrogate, isLowSurrogate, Bool.or_eq_true, Bool.and_eq_true, decide_eq_true_eq] at hsurrogate
      unfold Nat.isValidChar
      omega
    rw [readUnits_escape, utf16Units, if_pos (by omega), hunit]
    rfl

theorem readUnits_quoteUnits {units : List Nat} (h : ∀ unit ∈ units, unit < 65536) (rest : List Char) :
    readUnits (quoteUnits units ++ '"' :: rest) = some (units, rest) := by
  fun_induction quoteUnits units with
  | case1 => rfl
  | case2 unit => rw [readUnits_escapeUnit (h unit List.mem_cons_self), readUnits]; rfl
  | case3 unit next units hpair ih =>
    simp only [isHighSurrogate, isLowSurrogate, Bool.and_eq_true, decide_eq_true_eq] at hpair
    have hvalue : (Char.ofNat (0x10000 + (unit - 0xD800) * 1024 + (next - 0xDC00))).toNat =
        0x10000 + (unit - 0xD800) * 1024 + (next - 0xDC00) := by
      apply toNat_ofNat
      unfold Nat.isValidChar
      omega
    have hunits : utf16Units (Char.ofNat (0x10000 + (unit - 0xD800) * 1024 + (next - 0xDC00))) = [unit, next] := by
      rw [utf16Units, hvalue, if_neg (by omega)]
      simp only [List.cons.injEq, and_true]
      omega
    rw [List.append_assoc, readUnits_escape, hunits,
      ih fun later hlater => h later (List.mem_cons_of_mem _ (List.mem_cons_of_mem _ hlater))]
    rfl
  | case4 unit next units hpair ih =>
    rw [List.append_assoc, readUnits_escapeUnit (h unit List.mem_cons_self),
      ih fun later hlater => h later (List.mem_cons_of_mem _ hlater)]
    rfl

def codec : StringCodec JsString where
  quoted s := quoteUnits s.toUnits
  read cs := (readUnits cs).map fun result => (ofUnits result.1, result.2)
  read_quoted s rest := by rw [readUnits_quoteUnits s.toUnits_lt, Option.map_some, ofUnits_toUnits]

/-- `Buffer.from(text, 'utf8')`. -/
def utf8Encode (s : JsString) : List UInt8 :=
  s.text.toByteArray.data.toList

/-- `toString('utf8')`, with a parameter for the bytes which encode no text. -/
def utf8Decode (decodeInvalid : List UInt8 → String) (bytes : List UInt8) : String :=
  (String.fromUTF8? ⟨bytes.toArray⟩).getD (decodeInvalid bytes)

theorem utf8Decode_encode (decodeInvalid : List UInt8 → String) (s : JsString) :
    utf8Decode decodeInvalid s.utf8Encode = s.text := by
  have hbytes : (⟨s.utf8Encode.toArray⟩ : ByteArray) = s.text.toByteArray := by
    simp [utf8Encode]
  have hvalid : s.text.toByteArray.IsValidUTF8 := s.text.isValidUTF8
  rw [utf8Decode, hbytes, String.fromUTF8?, dif_pos hvalid]
  rfl

theorem utf8Encode_ofString_inj {s t : String} (h : (ofString s).utf8Encode = (ofString t).utf8Encode) : s = t := by
  have htext := congrArg (utf8Decode fun _ => "") h
  rwa [utf8Decode_encode, utf8Decode_encode, text_ofString, text_ofString] at htext

theorem utf8Encode_ne_nil {s : JsString} (h : s.units ≠ []) : s.utf8Encode ≠ [] := by
  intro hempty
  have htext : s.text = "" := by
    rw [← utf8Decode_encode (fun _ => "") s, hempty]
    decide
  obtain ⟨units⟩ := s
  cases units with
  | nil => exact h rfl
  | cons unit units =>
    have hchars : decodeUnits (unit.toNat :: units.map UInt16.toNat) = [] := String.ofList_eq_empty_iff.mp htext
    cases units with
    | nil => simp [decodeUnits] at hchars
    | cons next units =>
      rw [List.map_cons, decodeUnits] at hchars
      split at hchars <;> cases hchars

end JsString

end ByokGrid
