import ByokGrid.GridView

/-! The date texts of the calendar: `z.iso.datetime()`, and a runtime which reads them. -/

namespace ByokGrid

def readDigits (digits : List Char) : Option Nat :=
  if digits.all isDecimalDigit then some (digits.foldl (fun value digit => 10 * value + (digit.toNat - 48)) 0) else none

def isLeapYear (year : Nat) : Bool :=
  year % 4 = 0 && (year % 100 ≠ 0 || year % 400 = 0)

def daysInMonth (year month : Nat) : Nat :=
  if month = 2 then (if isLeapYear year then 29 else 28)
  else if month = 4 ∨ month = 6 ∨ month = 9 ∨ month = 11 then 30
  else 31

def daysFromCivil (year month day : Nat) : Int :=
  let marchYear : Int := if month ≤ 2 then year - 1 else year
  let marchMonth := if month ≤ 2 then month + 9 else month - 3
  let yearOfEra := marchYear % 400
  (marchYear / 400) * 146097 + yearOfEra * 365 + yearOfEra / 4 - yearOfEra / 100 +
    (((153 * marchMonth + 2) / 5 + day - 1 : Nat) : Int) - 719468

/-- The seconds at the end of a date text, in milliseconds; the zone is `Z`. -/
def readIsoSeconds : List Char → Option Nat
  | ['Z'] => some 0
  | [':', a, b, 'Z'] => (readDigits [a, b]).bind fun seconds => if seconds < 60 then some (1000 * seconds) else none
  | ':' :: a :: b :: '.' :: fraction =>
    match readDigits [a, b], readDigits (fraction.dropLast.take 3), readDigits fraction.dropLast with
    | some seconds, some milliseconds, some _ =>
      if seconds < 60 ∧ 2 ≤ fraction.length ∧ fraction.getLast? = some 'Z' then
        some (1000 * seconds + milliseconds * 10 ^ (3 - min 3 fraction.dropLast.length))
      else none
    | _, _, _ => none
  | _ => none

/-- The instant of a text which `z.iso.datetime()` accepts. -/
def readIsoDate : List Char → Option Int
  | y1 :: y2 :: y3 :: y4 :: '-' :: m1 :: m2 :: '-' :: d1 :: d2 :: 'T' :: h1 :: h2 :: ':' :: n1 :: n2 :: rest => do
    let year ← readDigits [y1, y2, y3, y4]
    let month ← readDigits [m1, m2]
    let day ← readDigits [d1, d2]
    let hour ← readDigits [h1, h2]
    let minute ← readDigits [n1, n2]
    let seconds ← readIsoSeconds rest
    if 1 ≤ month ∧ month ≤ 12 ∧ 1 ≤ day ∧ day ≤ daysInMonth year month ∧ hour < 24 ∧ minute < 60 then
      some (daysFromCivil year month day * 86400000 + ((hour * 60 + minute) * 60000 + seconds : Nat))
    else none
  | _ => none

def civilFromDays (days : Int) : Nat × Nat × Nat :=
  let shifted := (days + 865565).toNat
  let dayOfEra := shifted % 146097
  let century := min (dayOfEra / 36524) 3
  let dayOfCentury := dayOfEra - 36524 * century
  let fourYears := dayOfCentury / 1461
  let dayOfFour := dayOfCentury - 1461 * fourYears
  let yearOfFour := min (dayOfFour / 365) 3
  let dayOfYear := dayOfFour - 365 * yearOfFour
  let marchYear := 400 * (shifted / 146097) + (100 * century + 4 * fourYears + yearOfFour)
  let marchMonth := (5 * dayOfYear + 2) / 153
  let day := dayOfYear - (153 * marchMonth + 2) / 5 + 1
  if marchMonth < 10 then (marchYear - 400, marchMonth + 3, day) else (marchYear - 399, marchMonth - 9, day)

/-- Where a day stands in its era of four hundred years, counted in years which begin in March. -/
structure MarchDay (dayOfEra yearOfEra dayOfYear : Nat) : Prop where
  year : yearOfEra < 400
  day : dayOfEra = 365 * yearOfEra + yearOfEra / 4 - yearOfEra / 100 + dayOfYear
  short : dayOfYear ≤ 365
  leap : dayOfYear = 365 → yearOfEra % 4 = 3 ∧ (yearOfEra % 100 ≠ 99 ∨ yearOfEra = 399)

theorem marchDay_spec {dayOfEra century fourYears yearOfFour : Nat} (h : dayOfEra < 146097)
    (hcentury : century = min (dayOfEra / 36524) 3) (hfour : fourYears = (dayOfEra - 36524 * century) / 1461)
    (hyear : yearOfFour = min ((dayOfEra - 36524 * century - 1461 * fourYears) / 365) 3) :
    MarchDay dayOfEra (100 * century + 4 * fourYears + yearOfFour)
      (dayOfEra - 36524 * century - 1461 * fourYears - 365 * yearOfFour) := by
  have hc : century ≤ 3 := by omega
  have hcenturies : 36524 * century ≤ dayOfEra ∧ dayOfEra - 36524 * century ≤ 36524 ∧
      (dayOfEra - 36524 * century = 36524 → century = 3) := by omega
  have hf : fourYears ≤ 24 := by omega
  have hfours : 1461 * fourYears ≤ dayOfEra - 36524 * century ∧ dayOfEra - 36524 * century - 1461 * fourYears ≤ 1460 := by omega
  have hy : yearOfFour ≤ 3 := by omega
  have hquarter : (100 * century + 4 * fourYears + yearOfFour) / 4 = 25 * century + fourYears := by omega
  have hhundred : (100 * century + 4 * fourYears + yearOfFour) / 100 = century := by omega
  refine ⟨by omega, ?_, by omega, fun hlast => ⟨by omega, by omega⟩⟩
  rw [hquarter, hhundred]
  omega

theorem marchMonth_spec {dayOfYear marchMonth day : Nat} (h : dayOfYear ≤ 365) (hmonth : marchMonth = (5 * dayOfYear + 2) / 153)
    (hday : day = dayOfYear - (153 * marchMonth + 2) / 5 + 1) :
    marchMonth ≤ 11 ∧ 1 ≤ day ∧ (153 * marchMonth + 2) / 5 + day - 1 = dayOfYear ∧ day ≤ 31 ∧
      (marchMonth = 1 ∨ marchMonth = 3 ∨ marchMonth = 6 ∨ marchMonth = 8 → day ≤ 30) ∧
      (marchMonth = 11 → day ≤ 29 ∧ (day = 29 → dayOfYear = 365)) := by
  omega

structure CivilDate (year month day : Nat) : Prop where
  years : year ≤ 9999
  months : 1 ≤ month ∧ month ≤ 12
  days : 1 ≤ day ∧ day ≤ daysInMonth year month

theorem isLeapYear_march (era : Nat) {yearOfEra year : Nat} (hyear : year + 399 = 400 * era + yearOfEra) 
    (h : yearOfEra % 4 = 3 ∧ (yearOfEra % 100 ≠ 99 ∨ yearOfEra = 399)) : isLeapYear year = true := by
  have hfour : year % 4 = 0 := by omega
  have hhundred : year % 100 ≠ 0 ∨ year % 400 = 0 := by omega
  rw [isLeapYear, Bool.and_eq_true, Bool.or_eq_true]
  simpa [hfour] using hhundred

theorem daysFromCivil_march (era : Nat) {yearOfEra dayOfYear marchMonth day : Nat} (hera : yearOfEra < 400) {year month : Nat}
    (hyear : (if month ≤ 2 then (year : Int) - 1 else year) = 400 * era + yearOfEra - 400)
    (hmonth : (if month ≤ 2 then month + 9 else month - 3) = marchMonth)
    (hday : (153 * marchMonth + 2) / 5 + day - 1 = dayOfYear) :
    daysFromCivil year month day =
      146097 * era + 365 * yearOfEra + yearOfEra / 4 - yearOfEra / 100 + dayOfYear - 865565 := by
  simp only [daysFromCivil, hyear, hmonth, hday]
  omega

theorem civilDate_of_march {days : Int} (era : Nat) {yearOfEra dayOfYear marchMonth day : Nat} (hlow : -719528 ≤ days)
    (hhigh : days ≤ 2932896) (hera : yearOfEra < 400) (hshort : dayOfYear ≤ 365)
    (hleap : dayOfYear = 365 → yearOfEra % 4 = 3 ∧ (yearOfEra % 100 ≠ 99 ∨ yearOfEra = 399))
    (hdays : days = 146097 * era + 365 * yearOfEra + yearOfEra / 4 - yearOfEra / 100 + dayOfYear - 865565)
    (hmarch : marchMonth = (5 * dayOfYear + 2) / 153) (hday : day = dayOfYear - (153 * marchMonth + 2) / 5 + 1) :
    (marchMonth < 10 → CivilDate (400 * era + yearOfEra - 400) (marchMonth + 3) day ∧
        daysFromCivil (400 * era + yearOfEra - 400) (marchMonth + 3) day = days) ∧
      (10 ≤ marchMonth → CivilDate (400 * era + yearOfEra - 399) (marchMonth - 9) day ∧
        daysFromCivil (400 * era + yearOfEra - 399) (marchMonth - 9) day = days) := by
  obtain ⟨hmonth, hfirst, hback, hlong, hthirty, hfebruary⟩ := marchMonth_spec hshort hmarch hday
  have hlast : era ≤ 25 := by omega
  constructor
  · intro hten
    have hyear : 400 ≤ 400 * era + yearOfEra := by omega
    refine ⟨⟨by omega, by omega, hfirst, ?_⟩, ?_⟩
    · rw [daysInMonth, if_neg (by omega)]
      split_ifs with hshortMonth
      · exact hthirty (by omega)
      · exact hlong
    · rw [daysFromCivil_march era hera (by rw [if_neg (by omega)]; omega) (by rw [if_neg (by omega)]; omega) hback, hdays]
  · intro hten
    have hyear : 399 ≤ 400 * era + yearOfEra := by omega
    have hyears : 400 * era + yearOfEra - 399 ≤ 9999 := by omega
    refine ⟨⟨hyears, by omega, hfirst, ?_⟩, ?_⟩
    · rw [daysInMonth]
      split_ifs with htwo hleapYear hshortMonth
      · exact (hfebruary (by omega)).1
      · have hnotLast : dayOfYear ≠ 365 := fun hlast => hleapYear (isLeapYear_march era (by omega) (hleap hlast))
        have hbound := hfebruary (by omega)
        omega
      · omega
      · exact hlong
    · rw [daysFromCivil_march era hera (by rw [if_pos (by omega)]; omega) (by rw [if_pos (by omega)]; omega) hback, hdays]

theorem civilFromDays_spec {days : Int} (hlow : -719528 ≤ days) (hhigh : days ≤ 2932896) :
    CivilDate (civilFromDays days).1 (civilFromDays days).2.1 (civilFromDays days).2.2 ∧
      daysFromCivil (civilFromDays days).1 (civilFromDays days).2.1 (civilFromDays days).2.2 = days := by
  obtain ⟨shifted, hshifted⟩ : ∃ shifted, shifted = (days + 865565).toNat := ⟨_, rfl⟩
  have hshift : (shifted : Int) = days + 865565 := by omega
  have hdivmod := Nat.div_add_mod shifted 146097
  obtain ⟨hera, hday, hshort, hleap⟩ := marchDay_spec (Nat.mod_lt shifted (by decide)) rfl rfl rfl
  obtain ⟨hearly, hlate⟩ := civilDate_of_march (shifted / 146097) hlow hhigh hera hshort hleap (by omega) rfl rfl
  simp only [civilFromDays, ← hshifted]
  split_ifs with hten
  · exact hearly hten
  · exact hlate (not_lt.mp hten)

def decimalDigit (n : Nat) : Char :=
  Char.ofNat (48 + n % 10)

def isoDate (milliseconds : Int) : List Char :=
  let date := civilFromDays (milliseconds / 86400000)
  let time := (milliseconds % 86400000).toNat
  [decimalDigit (date.1 / 1000), decimalDigit (date.1 / 100), decimalDigit (date.1 / 10), decimalDigit date.1, '-',
    decimalDigit (date.2.1 / 10), decimalDigit date.2.1, '-', decimalDigit (date.2.2 / 10), decimalDigit date.2.2, 'T',
    decimalDigit (time / 36000000), decimalDigit (time / 3600000), ':', decimalDigit (time / 600000 % 6),
    decimalDigit (time / 60000), ':', decimalDigit (time / 10000 % 6), decimalDigit (time / 1000), '.',
    decimalDigit (time / 100), decimalDigit (time / 10), decimalDigit time, 'Z']

theorem decimalDigit_spec (n : Nat) : isDecimalDigit (decimalDigit n) = true ∧ (decimalDigit n).toNat - 48 = n % 10 := by
  have hdigit : ∀ d < 10, isDecimalDigit (Char.ofNat (48 + d)) = true ∧ (Char.ofNat (48 + d)).toNat - 48 = d := by decide
  exact hdigit (n % 10) (Nat.mod_lt n (by decide))

theorem readDigits_two (a b : Nat) : readDigits [decimalDigit a, decimalDigit b] = some (10 * (a % 10) + b % 10) := by
  simp [readDigits, decimalDigit_spec]

theorem readDigits_three (a b c : Nat) :
    readDigits [decimalDigit a, decimalDigit b, decimalDigit c] = some (10 * (10 * (a % 10) + b % 10) + c % 10) := by
  simp [readDigits, decimalDigit_spec]

theorem readDigits_four (a b c d : Nat) : readDigits [decimalDigit a, decimalDigit b, decimalDigit c, decimalDigit d] =
    some (10 * (10 * (10 * (a % 10) + b % 10) + c % 10) + d % 10) := by
  simp [readDigits, decimalDigit_spec]

theorem readIsoSeconds_digits (a b c d e : Nat) (h : 10 * (a % 10) + b % 10 < 60) :
    readIsoSeconds [':', decimalDigit a, decimalDigit b, '.', decimalDigit c, decimalDigit d, decimalDigit e, 'Z'] =
      some (1000 * (10 * (a % 10) + b % 10) + (10 * (10 * (c % 10) + d % 10) + e % 10)) := by
  have hdrop : [decimalDigit c, decimalDigit d, decimalDigit e, 'Z'].dropLast = [decimalDigit c, decimalDigit d, decimalDigit e] :=
    rfl
  simp only [readIsoSeconds, hdrop]
  rw [List.take_of_length_le (by simp), readDigits_two, readDigits_three]
  simp [h]

theorem readIsoDate_isoDate {milliseconds : Int} (hlow : -62167219200000 ≤ milliseconds) (hhigh : milliseconds < 253402300800000) :
    readIsoDate (isoDate milliseconds) = some milliseconds := by
  have hlowDay : -719528 ≤ milliseconds / 86400000 := by omega
  have hhighDay : milliseconds / 86400000 ≤ 2932896 := by omega
  obtain ⟨⟨hyears, hmonths, hdays⟩, hback⟩ := civilFromDays_spec hlowDay hhighDay
  obtain ⟨time, htime⟩ : ∃ time, time = (milliseconds % 86400000).toNat := ⟨_, rfl⟩
  have hsplit : milliseconds = milliseconds / 86400000 * 86400000 + time := by omega
  have hday : time < 86400000 := by omega
  rw [isoDate, ← htime]
  generalize civilFromDays (milliseconds / 86400000) = date at hyears hmonths hdays hback ⊢
  obtain ⟨year, month, day⟩ := date
  simp only at hyears hmonths hdays hback ⊢
  have hlong : day ≤ 31 := by
    refine hdays.2.trans ?_
    rw [daysInMonth]
    split_ifs <;> decide
  have hyear : 10 * (10 * (10 * (year / 1000 % 10) + year / 100 % 10) + year / 10 % 10) + year % 10 = year := by omega
  have hmonth : 10 * (month / 10 % 10) + month % 10 = month := by omega
  have hdate : 10 * (day / 10 % 10) + day % 10 = day := by omega
  have hhour : 10 * (time / 36000000 % 10) + time / 3600000 % 10 = time / 3600000 := by omega
  have hminute : 10 * (time / 600000 % 6 % 10) + time / 60000 % 10 = time / 60000 % 60 := by omega
  have hsecond : 10 * (time / 10000 % 6 % 10) + time / 1000 % 10 = time / 1000 % 60 := by omega
  have hfraction : 10 * (10 * (time / 100 % 10) + time / 10 % 10) + time % 10 = time % 1000 := by omega
  have hseconds := readIsoSeconds_digits (time / 10000 % 6) (time / 1000) (time / 100) (time / 10) time (by omega)
  rw [hsecond, hfraction] at hseconds
  simp only [readIsoDate, readDigits_four, readDigits_two, hyear, hmonth, hdate, hhour, hminute, hseconds, Option.bind_eq_bind,
    Option.bind_some]
  rw [if_pos ⟨hmonths.1, hmonths.2, hdays.1, hdays.2, by omega, by omega⟩, hback]
  have htotal : (time / 3600000 * 60 + time / 60000 % 60) * 60000 + (1000 * (time / 1000 % 60) + time % 1000) = time := by omega
  rw [htotal, ← hsplit]

theorem readDigits_lt {digits : List Char} {n : Nat} (h : readDigits digits = some n) : n < 10 ^ digits.length := by
  obtain ⟨hdigits, hvalue⟩ := Option.ite_none_right_eq_some.mp h
  cases hvalue
  have hfold : ∀ (cs : List Char) (start bound : Nat), (∀ c ∈ cs, isDecimalDigit c = true) → start < bound →
      cs.foldl (fun value digit => 10 * value + (digit.toNat - 48)) start < bound * 10 ^ cs.length := by
    intro cs
    induction cs with
    | nil => intro start bound _ hstart; simpa using hstart
    | cons c cs ih =>
      intro start bound hcs hstart
      obtain ⟨hc, hrest⟩ := List.forall_mem_cons.mp hcs
      have hdigit : c.toNat ≤ 57 := by
        rw [isDecimalDigit, Bool.and_eq_true] at hc
        exact UInt32.le_iff_toNat_le.mp (of_decide_eq_true hc.2)
      have hnext := ih (10 * start + (c.toNat - 48)) (10 * bound) hrest (by omega)
      rw [List.foldl_cons, List.length_cons, Nat.pow_succ']
      calc _ < 10 * bound * 10 ^ cs.length := hnext
        _ = bound * (10 * 10 ^ cs.length) := by rw [Nat.mul_comm 10 bound, Nat.mul_assoc]
  simpa using hfold digits 0 1 (List.all_eq_true.mp hdigits) Nat.one_pos

theorem daysFromCivil_range {year month day : Nat} (hyear : year ≤ 9999) (hmonth : 1 ≤ month ∧ month ≤ 12)
    (hday : 1 ≤ day ∧ day ≤ 31) : -719528 ≤ daysFromCivil year month day ∧ daysFromCivil year month day ≤ 2932896 := by
  simp only [daysFromCivil]
  split_ifs with hearly
  · constructor <;> omega
  · constructor <;> omega

theorem readIsoSeconds_lt {cs : List Char} {milliseconds : Nat} (h : readIsoSeconds cs = some milliseconds) :
    milliseconds < 60000 := by
  rw [readIsoSeconds.eq_def] at h
  split at h
  · cases h
    decide
  · obtain ⟨seconds, -, hseconds⟩ := Option.bind_eq_some_iff.mp h
    obtain ⟨hsixty, hvalue⟩ := Option.ite_none_right_eq_some.mp hseconds
    cases hvalue
    omega
  · next a b fraction =>
      split at h
      · next seconds fractional _ _ hfraction _ =>
          obtain ⟨⟨hsixty, -, -⟩, hvalue⟩ := Option.ite_none_right_eq_some.mp h
          cases hvalue
          have hdigits := readDigits_lt hfraction
          rw [List.length_take] at hdigits
          have hscaled : fractional * 10 ^ (3 - min 3 fraction.dropLast.length) < 1000 := by
            calc fractional * 10 ^ (3 - min 3 fraction.dropLast.length)
                < 10 ^ min 3 fraction.dropLast.length * 10 ^ (3 - min 3 fraction.dropLast.length) :=
                  Nat.mul_lt_mul_of_pos_right hdigits (Nat.pow_pos (by decide))
              _ = 1000 := by rw [← Nat.pow_add, Nat.add_sub_cancel' (Nat.min_le_left 3 _)]
          omega
      · cases h
  · cases h

theorem readIsoDate_range {cs : List Char} {milliseconds : Int} (h : readIsoDate cs = some milliseconds) :
    -62167219200000 ≤ milliseconds ∧ milliseconds < 253402300800000 := by
  rw [readIsoDate.eq_def] at h
  split at h
  · simp only [Option.bind_eq_bind, Option.bind_eq_some_iff, Option.ite_none_right_eq_some, Option.some.injEq] at h
    obtain ⟨year, hyear, month, -, day, -, hour, -, minute, -, seconds, hseconds, ⟨hfirst, hlast, hday, hlong, hhour, hminute⟩, rfl⟩ := h
    have hyears : year < 10000 := by simpa using readDigits_lt hyear
    have hmonth : day ≤ 31 := by
      refine hlong.trans ?_
      rw [daysInMonth]
      split_ifs <;> decide
    have hdays := daysFromCivil_range (Nat.le_of_lt_succ hyears) ⟨hfirst, hlast⟩ ⟨hday, hmonth⟩
    have htime := readIsoSeconds_lt hseconds
    omega
  · cases h

def CalendarInteger : Type := Option Int

instance : DecidableEq CalendarInteger :=
  inferInstanceAs (DecidableEq (Option Int))

def parseCalendarDate (text : String) : TimeValue :=
  match readIsoDate text.toList with
  | some milliseconds => if h : milliseconds.natAbs ≤ 8640000000000000 then ⟨milliseconds, h⟩ else .epoch
  | none => TimeValue.read text

theorem readIsoDate_sign {sign : Char} (h : isDecimalDigit sign = false) (chars : List Char) :
    readIsoDate (sign :: chars) = none := by
  have hyear : ∀ rest, readDigits (sign :: rest) = none := fun rest => by simp [readDigits, h]
  rw [readIsoDate.eq_def]
  split
  · next heq =>
      obtain ⟨rfl, -⟩ := List.cons.inj heq
      rw [hyear]
      rfl
  · rfl

theorem readIsoDate_write (t : TimeValue) : readIsoDate t.write.toList = none := by
  rw [TimeValue.write, String.toList_ofList]
  refine readIsoDate_sign ?_ _
  split <;> decide

def calendarText (t : TimeValue) : String :=
  if -62167219200000 ≤ t.milliseconds ∧ t.milliseconds < 253402300800000 then String.ofList (isoDate t.milliseconds) else t.write

theorem parseCalendarDate_text (t : TimeValue) : parseCalendarDate (calendarText t) = t := by
  rw [parseCalendarDate, calendarText]
  split_ifs with hrange
  · rw [String.toList_ofList, readIsoDate_isoDate hrange.1 hrange.2]
    exact dif_pos t.inRange
  · rw [readIsoDate_write]
    exact TimeValue.read_write t

instance : JsRuntime CalendarInteger :=
  { (inferInstanceAs (JsRuntime SafeInteger) : JsRuntime (Option Int)) with
    parseDate := parseCalendarDate
    toISOString := calendarText
    parseDate_toISOString := parseCalendarDate_text
    isIsoDatetime := fun text => (readIsoDate text.toList).isSome }

example : readIsoDate "2024-02-29T23:59:30.5Z".toList = some 1709251170500 := by decide

example : isoDate 1709251170500 = "2024-02-29T23:59:30.500Z".toList := by decide

end ByokGrid
