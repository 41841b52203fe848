import ByokGrid.EditableValues
import ByokGrid.IntegerTexts

/-! The safe integers and the dates of the calendar as the numbers and the instants of input columns. -/

namespace ByokGrid

theorem decimalDigit_basic (n : Nat) : (decimalDigit n).toNat ≤ 0xFFFF := by
  have hdigit : ∀ d < 10, (Char.ofNat (48 + d)).toNat ≤ 0xFFFF := by decide
  exact hdigit (n % 10) (Nat.mod_lt n (by decide))

theorem isoDate_basic (milliseconds : Int) : ∀ c ∈ isoDate milliseconds, c.toNat ≤ 0xFFFF := by
  simp [isoDate, decimalDigit_basic]

theorem isoDate_utc (milliseconds : Int) : ∃ cs, isoDate milliseconds = cs ++ ['Z'] :=
  ⟨(isoDate milliseconds).dropLast, rfl⟩

def calendarZoned (t : TimeValue) : String :=
  if -62167219200000 ≤ t.milliseconds ∧ t.milliseconds < 253402300800000 then String.ofList (isoDate t.milliseconds)
  else String.ofList (t.write.toList ++ ['Z'])

def parseCalendarUnits (source : JsString) : Option TimeValue :=
  match readIsoDate source.chars with
  | some milliseconds => if h : milliseconds.natAbs ≤ 8640000000000000 then some ⟨milliseconds, h⟩ else none
  | none =>
    if source.text.toList.getLast? = some 'Z' then some (TimeValue.read (String.ofList source.text.toList.dropLast)) else none

theorem chars_isoDate (milliseconds : Int) : (JsString.ofString (String.ofList (isoDate milliseconds))).chars = isoDate milliseconds := by
  rw [JsString.chars_ofString_basic, String.toList_ofList]
  rw [String.toList_ofList]
  exact isoDate_basic milliseconds

theorem readIsoDate_counted (t : TimeValue) : readIsoDate (JsString.ofString (String.ofList (t.write.toList ++ ['Z']))).chars = none := by
  have hsign : ∀ sign : Char, sign = '-' ∨ sign = '+' → ∀ rest, readIsoDate ((sign :: rest).flatMap JsString.charUnits) = none := by
    intro sign hsign rest
    have hbasic : sign.toNat ≤ 0xFFFF := by rcases hsign with rfl | rfl <;> decide
    rw [List.flatMap_cons, JsString.charUnits_basic hbasic]
    exact readIsoDate_sign (by rcases hsign with rfl | rfl <;> decide) _
  rw [JsString.chars_ofString, String.toList_ofList, TimeValue.write, String.toList_ofList, List.cons_append]
  refine hsign _ ?_ _
  split
  · exact .inl rfl
  · exact .inr rfl

theorem parseCalendarUnits_iso {text : JsString} {milliseconds : Int} (h : readIsoDate text.chars = some milliseconds) :
    ∃ t, parseCalendarUnits text = some t ∧ t.milliseconds = milliseconds := by
  obtain ⟨hlow, hhigh⟩ := readIsoDate_range h
  have hrange : milliseconds.natAbs ≤ 8640000000000000 := by omega
  rw [parseCalendarUnits, h]
  exact ⟨⟨milliseconds, hrange⟩, dif_pos hrange, rfl⟩

theorem parseCalendarUnits_zoned (t : TimeValue) : parseCalendarUnits (.ofString (calendarZoned t)) = some t := by
  rw [calendarZoned]
  split_ifs with hrange
  · have hread := readIsoDate_isoDate hrange.1 hrange.2
    rw [parseCalendarUnits, chars_isoDate, hread]
    exact dif_pos t.inRange
  · rw [parseCalendarUnits, readIsoDate_counted, JsString.text_ofString, String.toList_ofList, List.getLast?_append,
      List.dropLast_append_of_ne_nil (by simp)]
    simp [TimeValue.read_write]

theorem toDigits_length (n digits : Nat) (hdigits : 0 < digits) (h : n < 10 ^ digits) : (Nat.toDigits 10 n).length ≤ digits :=
  (Nat.length_toDigits_le_iff (by decide) hdigits).mpr h

theorem calendarZoned_length (t : TimeValue) : (calendarZoned t).toList.length ≤ 64 := by
  rw [calendarZoned]
  split_ifs with hrange
  · rw [String.toList_ofList]
    exact Nat.le_of_lt (by decide : 24 < 64)
  · have hdigits := toDigits_length t.milliseconds.natAbs 16 (by decide) (by have := t.inRange; omega)
    rw [String.toList_ofList, TimeValue.write, String.toList_ofList, List.length_append, List.length_cons, List.length_singleton]
    omega

theorem integerText_length {n : Int} (h : n.natAbs ≤ 9007199254740991) : (toString n).toList.length ≤ 64 := by
  have hdigits := toDigits_length n.natAbs 16 (by decide) (by omega)
  rw [toString_int, List.length_append]
  split_ifs
  · rw [List.length_singleton]
    omega
  · rw [List.length_nil]
    omega

def integerBounded (n : SafeInteger) : Bool :=
  n.any fun n => n.natAbs ≤ 9007199254740991

def integerZero (n : SafeInteger) : Bool :=
  n.any fun n => n = 0

theorem parse_bounded {n : SafeInteger} (h : integerBounded n = true) :
    SafeInteger.parse (JsRuntime.numberToString n) = if integerZero n = true then some 0 else n := by
  obtain ⟨n, rfl, -⟩ := (Option.any_eq_true _ _).mp h
  by_cases hn : n = 0
  · subst hn
    rfl
  · have hzero : ¬ integerZero (some n) = true := by simpa [integerZero] using hn
    rw [if_neg hzero]
    exact parse_toString n

instance : ValueRuntime CalendarInteger where
  zero := some (0 : Int)
  isFinite := integerBounded
  isZero := integerZero
  numberToString n := JsRuntime.numberToString (n : SafeInteger)
  parseNumber := SafeInteger.parse
  toNumber text := SafeInteger.parse text.text
  parseDate := parseCalendarUnits
  toISOString := calendarZoned
  normalizeNFKC name := name
  toLocaleLowerCase name := .ofChars (name.chars.map Char.toLower)
  isFinite_zero := rfl
  numberToString_reads n h := by
    obtain ⟨n, rfl, -⟩ := (Option.any_eq_true _ _).mp h
    have hend : Delimited [] := fun _ h => nomatch h
    have hread := readNumber_int n hend
    rwa [List.append_nil] at hread
  parseNumber_numberToString n h := parse_bounded h
  parseDate_toISOString := parseCalendarUnits_zoned
  toISOString_utc t := by
    rw [calendarZoned]
    split_ifs with hrange
    · rw [String.toList_ofList]
      exact isoDate_utc t.milliseconds
    · exact ⟨t.write.toList, String.toList_ofList⟩
  toNumber_numberToString n h := by
    rw [JsString.text_ofString]
    exact parse_bounded h
  numberToString_zero n h := by
    obtain ⟨n, rfl, hn⟩ := (Option.any_eq_true _ _).mp h
    rw [of_decide_eq_true hn]
  numberToString_short n h := by
    obtain ⟨n, rfl, hn⟩ := (Option.any_eq_true _ _).mp h
    exact integerText_length (of_decide_eq_true hn)
  toISOString_short := calendarZoned_length
  parseDate_iso text milliseconds h := parseCalendarUnits_iso h
  toISOString_iso text t h := by
    obtain ⟨hlow, hhigh⟩ := readIsoDate_range h
    rw [calendarZoned, if_pos ⟨hlow, hhigh⟩, chars_isoDate]
    exact readIsoDate_isoDate hlow hhigh

end ByokGrid
