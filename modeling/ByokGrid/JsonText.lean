import ByokGrid.CellValue
import Mathlib.Data.List.TakeDrop

/-! `JSON.parse`, and that it reads back what `JSON.stringify` writes of values
without numbers. -/

namespace ByokGrid

def utf16Units (c : Char) : List Nat :=
  if c.toNat ≤ 0xFFFF then [c.toNat] else [0xD800 + (c.toNat - 0x10000) / 1024, 0xDC00 + (c.toNat - 0x10000) % 1024]

def isHighSurrogate (unit : Nat) : Bool :=
  0xD800 ≤ unit && unit ≤ 0xDBFF

def isLowSurrogate (unit : Nat) : Bool :=
  0xDC00 ≤ unit && unit ≤ 0xDFFF

def decodeUnits : List Nat → List Char
  | [] => []
  | [unit] => [if isHighSurrogate unit || isLowSurrogate unit then '\uFFFD' else Char.ofNat unit]
  | unit :: next :: units =>
    if isHighSurrogate unit && isLowSurrogate next then
      Char.ofNat (0x10000 + (unit - 0xD800) * 1024 + (next - 0xDC00)) :: decodeUnits units
    else
      (if isHighSurrogate unit || isLowSurrogate unit then '\uFFFD' else Char.ofNat unit) ::
        decodeUnits (next :: units)

theorem scalar_range (c : Char) : c.toNat < 0xD800 ∨ 0xDFFF < c.toNat ∧ c.toNat < 0x110000 :=
  c.valid

theorem decodeUnits_cons (c : Char) (units : List Nat) :
    decodeUnits (utf16Units c ++ units) = c :: decodeUnits units := by
  have hc := scalar_range c
  unfold utf16Units
  by_cases hbasic : c.toNat ≤ 0xFFFF
  · have hhigh : isHighSurrogate c.toNat = false := by
      simp only [isHighSurrogate, Bool.and_eq_false_iff, decide_eq_false_iff_not]
      omega
    have hlow : isLowSurrogate c.toNat = false := by
      simp only [isLowSurrogate, Bool.and_eq_false_iff, decide_eq_false_iff_not]
      omega
    rw [if_pos hbasic]
    cases units with
    | nil => simp [decodeUnits, hhigh, hlow]
    | cons next units => simp [decodeUnits, hhigh, hlow]
  · have hhigh : isHighSurrogate (0xD800 + (c.toNat - 0x10000) / 1024) = true := by
      simp only [isHighSurrogate, Bool.and_eq_true, decide_eq_true_eq]
      omega
    have hlow : isLowSurrogate (0xDC00 + (c.toNat - 0x10000) % 1024) = true := by
      simp only [isLowSurrogate, Bool.and_eq_true, decide_eq_true_eq]
      omega
    rw [if_neg hbasic, List.cons_append, List.cons_append, List.nil_append, decodeUnits, hhigh, hlow]
    have hvalue : 0x10000 + (0xD800 + (c.toNat - 0x10000) / 1024 - 0xD800) * 1024 +
        (0xDC00 + (c.toNat - 0x10000) % 1024 - 0xDC00) = c.toNat := by omega
    rw [hvalue, Bool.and_self, if_pos rfl, Char.ofNat_toNat]

theorem decodeUnits_units (cs : List Char) : decodeUnits (cs.flatMap utf16Units) = cs := by
  induction cs with
  | nil => rfl
  | cons c cs ih => rw [List.flatMap_cons, decodeUnits_cons, ih]

def hexValue (c : Char) : Option Nat :=
  if '0' ≤ c ∧ c ≤ '9' then some (c.toNat - 48)
  else if 'a' ≤ c ∧ c ≤ 'f' then some (c.toNat - 87)
  else if 'A' ≤ c ∧ c ≤ 'F' then some (c.toNat - 55)
  else none

def hexUnit (a b c d : Char) : Option Nat := do
  let a ← hexValue a
  let b ← hexValue b
  let c ← hexValue c
  let d ← hexValue d
  return a * 4096 + b * 256 + c * 16 + d

def escapedUnit (c : Char) : Option Nat :=
  if c = '"' ∨ c = '\\' ∨ c = '/' then some c.toNat
  else if c = 'b' then some 8
  else if c = 'f' then some 12
  else if c = 'n' then some 10
  else if c = 'r' then some 13
  else if c = 't' then some 9
  else none

def readUnits : List Char → Option (List Nat × List Char)
  | [] => none
  | '"' :: rest => some ([], rest)
  | '\\' :: 'u' :: a :: b :: c :: d :: rest => do
    let unit ← hexUnit a b c d
    let (units, rest) ← readUnits rest
    return (unit :: units, rest)
  | '\\' :: c :: rest => do
    let unit ← escapedUnit c
    let (units, rest) ← readUnits rest
    return (unit :: units, rest)
  | c :: rest =>
    if c.toNat < 32 ∨ c = '\\' then none
    else do
      let (units, rest) ← readUnits rest
      return (utf16Units c ++ units, rest)

def readString (cs : List Char) : Option (String × List Char) :=
  (readUnits cs).map fun result => (String.ofList (decodeUnits result.1), result.2)

theorem hexValue_hexDigit {n : Nat} (h : n < 16) : hexValue (hexDigit n) = some n := by
  revert n
  decide

theorem readUnits_visible {c : Char} (hvisible : 32 ≤ c.toNat) (hquote : c ≠ '"') (hescape : c ≠ '\\') (rest : List Char) :
    readUnits (c :: rest) = (readUnits rest).map fun result => (utf16Units c ++ result.1, result.2) := by
  rw [readUnits]
  · rw [if_neg (by simp [hescape]; omega)]
    cases readUnits rest <;> rfl
  · exact hquote
  · exact fun _ _ _ _ _ h => absurd h hescape
  · exact fun _ _ h => absurd h hescape

theorem readUnits_letter {letter c : Char} (hletter : letter ≠ 'u') (hunit : escapedUnit letter = some c.toNat)
    (hbasic : c.toNat ≤ 0xFFFF) (rest : List Char) : readUnits ('\\' :: letter :: rest) =
      (readUnits rest).map fun result => (utf16Units c ++ result.1, result.2) := by
  rw [readUnits]
  · rw [hunit, utf16Units, if_pos hbasic]
    cases readUnits rest <;> rfl
  · exact fun _ _ _ _ _ h => absurd h hletter

theorem readUnits_escape (c : Char) (rest : List Char) :
    readUnits (jsonEscape c ++ rest) = (readUnits rest).map fun result => (utf16Units c ++ result.1, result.2) := by
  unfold jsonEscape
  split
  case h_8 h8 h9 h10 h12 h13 h34 h92 =>
    split
    · have hhigh := hexValue_hexDigit (n := c.toNat / 16) (by omega)
      have hlow := hexValue_hexDigit (n := c.toNat % 16) (by omega)
      have hzero : hexValue '0' = some 0 := by decide
      have hunit : hexUnit '0' '0' (hexDigit (c.toNat / 16)) (hexDigit (c.toNat % 16)) = some c.toNat := by
        simp only [hexUnit, hzero, hhigh, hlow, Option.bind_eq_bind, Option.bind_some, pure, Option.some.injEq]
        omega
      show readUnits ('\\' :: 'u' :: '0' :: '0' :: _ :: _ :: rest) = _
      rw [readUnits, hunit, utf16Units, if_pos (by omega)]
      cases readUnits rest <;> rfl
    · refine readUnits_visible (by omega) ?_ ?_ rest
      · rintro rfl
        exact h34 rfl
      · rintro rfl
        exact h92 rfl
  all_goals
    rename_i hn
    refine readUnits_letter (by decide) ?_ (by omega) rest
    rw [hn]
    decide

theorem readString_quote (s : String) (rest : List Char) :
    readString (s.toList.flatMap jsonEscape ++ '"' :: rest) = some (s, rest) := by
  have hunits : ∀ cs : List Char, readUnits (cs.flatMap jsonEscape ++ '"' :: rest) = some (cs.flatMap utf16Units, rest) := by
    intro cs
    induction cs with
    | nil => rfl
    | cons c cs ih =>
      rw [List.flatMap_cons, List.append_assoc, readUnits_escape, ih, List.flatMap_cons]
      rfl
  rw [readString, hunits, Option.map_some, decodeUnits_units, String.ofList_toList]

def isJsonSpace (c : Char) : Bool :=
  c = ' ' || c = '\t' || c = '\n' || c = '\r'

def skipSpace (cs : List Char) : List Char :=
  cs.dropWhile isJsonSpace

def takeDigits (cs : List Char) : List Char × List Char :=
  cs.span fun c => '0' ≤ c && c ≤ '9'

def readInteger (cs : List Char) : Option (List Char × List Char) :=
  match takeDigits cs with
  | ([], _) => none
  | ('0' :: _ :: _, _) => none
  | (digits, rest) => some (digits, rest)

def readFraction : List Char → Option (List Char × List Char)
  | '.' :: rest =>
    match takeDigits rest with
    | ([], _) => none
    | (digits, rest) => some ('.' :: digits, rest)
  | rest => some ([], rest)

def readExponent : List Char → Option (List Char × List Char)
  | e :: rest =>
    if e = 'e' ∨ e = 'E' then
      let (sign, rest) := match rest with
        | '+' :: rest => (['+'], rest)
        | '-' :: rest => (['-'], rest)
        | rest => ([], rest)
      match takeDigits rest with
      | ([], _) => none
      | (digits, rest) => some (e :: sign ++ digits, rest)
    else some ([], e :: rest)
  | [] => some ([], [])

def readNumber (cs : List Char) : Option (String × List Char) := do
  let (sign, rest) := match cs with
    | '-' :: rest => (['-'], rest)
    | rest => ([], rest)
  let (digits, rest) ← readInteger rest
  let (fraction, rest) ← readFraction rest
  let (exponent, rest) ← readExponent rest
  return (String.ofList (sign ++ digits ++ fraction ++ exponent), rest)

section Read

variable {ν : Type} (parseNumber : String → ν)

mutual

def readValue : Nat → List Char → Option (Json ν × List Char)
  | 0, _ => none
  | fuel + 1, cs =>
    match skipSpace cs with
    | 'n' :: 'u' :: 'l' :: 'l' :: rest => some (.null, rest)
    | 't' :: 'r' :: 'u' :: 'e' :: rest => some (.boolean true, rest)
    | 'f' :: 'a' :: 'l' :: 's' :: 'e' :: rest => some (.boolean false, rest)
    | '"' :: rest => (readString rest).map fun result => (.string result.1, result.2)
    | '[' :: rest =>
      match skipSpace rest with
      | ']' :: rest => some (.array [], rest)
      | _ => (readItems fuel rest).map fun result => (.array result.1, result.2)
    | '\x7b' :: rest =>
      match skipSpace rest with
      | '\x7d' :: rest => some (.object [], rest)
      | _ => (readFields fuel rest).map fun result => (.object result.1, result.2)
    | cs => (readNumber cs).map fun result => (.number (parseNumber result.1), result.2)

def readItems : Nat → List Char → Option (List (Json ν) × List Char)
  | 0, _ => none
  | fuel + 1, cs => do
    let (item, rest) ← readValue fuel cs
    match skipSpace rest with
    | ']' :: rest => return ([item], rest)
    | ',' :: rest =>
      let (items, rest) ← readItems fuel rest
      return (item :: items, rest)
    | _ => none

def readFields : Nat → List Char → Option (List (String × Json ν) × List Char)
  | 0, _ => none
  | fuel + 1, cs =>
    match skipSpace cs with
    | '"' :: rest => do
      let (key, rest) ← readString rest
      match skipSpace rest with
      | ':' :: rest =>
        let (value, rest) ← readValue fuel rest
        match skipSpace rest with
        | '\x7d' :: rest => return ([(key, value)], rest)
        | ',' :: rest =>
          let (fields, rest) ← readFields fuel rest
          return ((key, value) :: fields, rest)
        | _ => none
      | _ => none
    | _ => none

end

/-- `JSON.parse`. Every value takes a character at least, so the length of the text is fuel enough. -/
def parseJson (text : String) : Option (Json ν) :=
  match readValue parseNumber text.toList.length text.toList with
  | some (value, rest) => if skipSpace rest = [] then some value else none
  | none => none

end Read

section RoundTrip

variable {ν : Type}

mutual

def Json.allNumbers (p : ν → Bool) : Json ν → Bool
  | .null | .boolean _ | .string _ => true
  | .number value => p value
  | .array items => Json.allItems p items
  | .object fields => Json.allFields p fields

def Json.allItems (p : ν → Bool) : List (Json ν) → Bool
  | [] => true
  | item :: items => item.allNumbers p && Json.allItems p items

def Json.allFields (p : ν → Bool) : List (String × Json ν) → Bool
  | [] => true
  | (_, value) :: fields => value.allNumbers p && Json.allFields p fields

end

mutual

def Json.mapNumbers (f : ν → ν) : Json ν → Json ν
  | .null => .null
  | .boolean value => .boolean value
  | .number value => .number (f value)
  | .string value => .string value
  | .array items => .array (Json.mapItems f items)
  | .object fields => .object (Json.mapFields f fields)

def Json.mapItems (f : ν → ν) : List (Json ν) → List (Json ν)
  | [] => []
  | item :: items => item.mapNumbers f :: Json.mapItems f items

def Json.mapFields (f : ν → ν) : List (String × Json ν) → List (String × Json ν)
  | [] => []
  | (name, value) :: fields => (name, value.mapNumbers f) :: Json.mapFields f fields

end

theorem allFields_iff {p : ν → Bool} {fields : List (String × Json ν)} :
    Json.allFields p fields = true ↔ ∀ field ∈ fields, field.2.allNumbers p = true := by
  induction fields with
  | nil => simp [Json.allFields]
  | cons field fields ih => simp [Json.allFields, ih]

theorem mapFields_eq (f : ν → ν) (fields : List (String × Json ν)) :
    Json.mapFields f fields = fields.map fun field => (field.1, field.2.mapNumbers f) := by
  induction fields with
  | nil => rfl
  | cons field fields ih => rw [Json.mapFields, ih, List.map_cons]

theorem mapItems_eq (f : ν → ν) (items : List (Json ν)) : Json.mapItems f items = items.map (Json.mapNumbers f) := by
  induction items with
  | nil => rfl
  | cons item items ih => rw [Json.mapItems, ih, List.map_cons]

def Json.plain (value : Json ν) : Bool :=
  value.allNumbers fun _ => false

mutual

theorem mapNumbers_plain (f : ν → ν) : ∀ {value : Json ν}, value.allNumbers (fun _ => false) = true → value.mapNumbers f = value
  | .null, _ | .boolean _, _ | .string _, _ => rfl
  | .number _, h => nomatch h
  | .array items, h => by rw [Json.mapNumbers, mapItems_plain f items h]
  | .object fields, h => by rw [Json.mapNumbers, mapFields_plain f fields h]

theorem mapItems_plain (f : ν → ν) : ∀ items : List (Json ν), Json.allItems (fun _ => false) items = true →
    Json.mapItems f items = items
  | [], _ => rfl
  | item :: items, h => by
    obtain ⟨hitem, hitems⟩ := Bool.and_eq_true_iff.mp h
    rw [Json.mapItems, mapNumbers_plain f hitem, mapItems_plain f items hitems]

theorem mapFields_plain (f : ν → ν) : ∀ fields : List (String × Json ν), Json.allFields (fun _ => false) fields = true →
    Json.mapFields f fields = fields
  | [], _ => rfl
  | (name, value) :: fields, h => by
    obtain ⟨hvalue, hfields⟩ := Bool.and_eq_true_iff.mp h
    rw [Json.mapFields, mapNumbers_plain f hvalue, mapFields_plain f fields hfields]

end

def Delimited (rest : List Char) : Prop :=
  ∀ c ∈ rest.head?, c = ',' ∨ c = ']' ∨ c = '\x7d'

theorem delimited_cons {c : Char} (h : c = ',' ∨ c = ']' ∨ c = '\x7d') (rest : List Char) : Delimited (c :: rest) := by
  rintro _ ⟨⟩
  exact h

theorem takeDigits_head {c : Char} {cs : List Char} (h : ¬ ('0' ≤ c ∧ c ≤ '9')) : takeDigits (c :: cs) = ([], c :: cs) := by
  have hdigit : (decide ('0' ≤ c) && decide (c ≤ '9')) = false := by simpa using h
  simp [takeDigits, List.span, List.span.loop, hdigit]

theorem readNumber_head {cs : List Char} {result : String × List Char} (h : readNumber cs = some result) :
    ∃ c rest, cs = c :: rest ∧ (c = '-' ∨ '0' ≤ c ∧ c ≤ '9') := by
  cases cs with
  | nil => cases h
  | cons c rest =>
    refine ⟨c, rest, rfl, ?_⟩
    by_contra hother
    obtain ⟨hsign, hdigit⟩ := not_or.mp hother
    simp [readNumber, hsign, readInteger, takeDigits_head hdigit] at h

theorem skipSpace_cons {c : Char} (h : isJsonSpace c = false) (cs : List Char) : skipSpace (c :: cs) = c :: cs := by
  rw [skipSpace, List.dropWhile_cons_of_neg]
  simp [h]

variable [JsRuntime ν]

theorem jsonQuote_toList (s : String) : (jsonQuote s).toList = '"' :: (s.toList.flatMap jsonEscape ++ ['"']) := by
  simp [jsonQuote]

def joinedItems (items : List (Json ν)) : List Char :=
  [','].intercalate ((Json.stringifyItems items).map String.toList)

def joinedFields (fields : List (String × Json ν)) : List Char :=
  [','].intercalate ((Json.stringifyFields fields).map String.toList)

theorem stringify_array (items : List (Json ν)) :
    (Json.array items).stringify.toList = '[' :: (joinedItems items ++ [']']) := by
  simp [Json.stringify, joinedItems]

theorem stringify_object (fields : List (String × Json ν)) :
    (Json.object fields).stringify.toList = '\x7b' :: (joinedFields fields ++ ['\x7d']) := by
  simp [Json.stringify, joinedFields]

theorem joinedItems_cons (item next : Json ν) (items : List (Json ν)) :
    joinedItems (item :: next :: items) = item.stringify.toList ++ ',' :: joinedItems (next :: items) := by
  simp [joinedItems, Json.stringifyItems, List.intercalate_cons_cons]

theorem joinedFields_single (key : String) (value : Json ν) : joinedFields [(key, value)] =
    '"' :: (key.toList.flatMap jsonEscape ++ '"' :: ':' :: value.stringify.toList) := by
  simp [joinedFields, Json.stringifyFields, jsonQuote_toList]

theorem joinedFields_cons (key : String) (value : Json ν) (next : String × Json ν) (fields : List (String × Json ν)) :
    joinedFields ((key, value) :: next :: fields) = '"' :: (key.toList.flatMap jsonEscape ++ '"' :: ':' ::
      (value.stringify.toList ++ ',' :: joinedFields (next :: fields))) := by
  simp [joinedFields, Json.stringifyFields, List.intercalate_cons_cons, jsonQuote_toList]

structure ReadableNumbers (p : ν → Bool) : Prop where
  reads : ∀ n, p n = true → ∀ rest, Delimited rest →
    readNumber ((JsRuntime.numberToString n).toList ++ rest) = some (JsRuntime.numberToString n, rest)

theorem ReadableNumbers.none : ReadableNumbers (fun _ : ν => false) :=
  ⟨fun _ h => nomatch h⟩

section Values

variable {p : ν → Bool} {parseNumber : String → ν} {fuel : Nat}

theorem ReadableNumbers.head (hnumbers : ReadableNumbers p) {n : ν} (h : p n = true) :
    ∃ c cs, (JsRuntime.numberToString n).toList = c :: cs ∧ (c = '-' ∨ '0' ≤ c ∧ c ≤ '9') := by
  have hread := hnumbers.reads n h [] (fun _ h => nomatch h)
  rw [List.append_nil] at hread
  exact readNumber_head hread

theorem number_start {c : Char} (h : c = '-' ∨ '0' ≤ c ∧ c ≤ '9') :
    c ∉ ['n', 't', 'f', '"', '[', '\x7b', ']', ' ', '\t', '\n', '\r'] := by
  rcases h with rfl | ⟨hlow, hhigh⟩
  · decide
  · simp only [List.mem_cons, List.not_mem_nil, or_false]
    rintro (rfl | rfl | rfl | rfl | rfl | rfl | rfl | rfl | rfl | rfl | rfl) <;> revert hlow hhigh <;> decide

theorem number_visible {c : Char} (h : c = '-' ∨ '0' ≤ c ∧ c ≤ '9') : isJsonSpace c = false ∧ c ≠ ']' := by
  have hstart := number_start h
  simp only [List.mem_cons, List.not_mem_nil, or_false, not_or] at hstart
  simp [isJsonSpace, hstart]

theorem stringify_head (hnumbers : ReadableNumbers p) {value : Json ν} (h : value.allNumbers p = true) :
    ∃ c cs, value.stringify.toList = c :: cs ∧ isJsonSpace c = false ∧ c ≠ ']' := by
  cases value with
  | null => exact ⟨_, _, (rfl : "null".toList = _), by decide⟩
  | boolean value =>
    cases value with
    | true => exact ⟨_, _, (rfl : "true".toList = _), by decide⟩
    | false => exact ⟨_, _, (rfl : "false".toList = _), by decide⟩
  | number value =>
    obtain ⟨c, cs, htext, hc⟩ := hnumbers.head h
    exact ⟨c, cs, htext, number_visible hc⟩
  | string value => exact ⟨_, _, jsonQuote_toList value, by decide⟩
  | array items => exact ⟨_, _, stringify_array items, by decide⟩
  | object fields => exact ⟨_, _, stringify_object fields, by decide⟩

theorem joinedFields_head (field : String × Json ν) (fields : List (String × Json ν)) :
    ∃ cs, joinedFields (field :: fields) = '"' :: cs := by
  cases fields with
  | nil => exact ⟨_, joinedFields_single field.1 field.2⟩
  | cons next fields => exact ⟨_, joinedFields_cons field.1 field.2 next fields⟩

theorem joinedItems_head (hnumbers : ReadableNumbers p) {item : Json ν} (h : item.allNumbers p = true)
    (items : List (Json ν)) : ∃ c cs, joinedItems (item :: items) = c :: cs ∧ isJsonSpace c = false ∧ c ≠ ']' := by
  obtain ⟨c, cs, hitem, hhead⟩ := stringify_head hnumbers h
  cases items with
  | nil => exact ⟨c, cs, by simp [joinedItems, Json.stringifyItems, hitem], hhead⟩
  | cons next items => exact ⟨c, _, by rw [joinedItems_cons, hitem]; rfl, hhead⟩

variable (parseNumber) in
def reread (n : ν) : ν :=
  parseNumber (JsRuntime.numberToString n)

variable (p parseNumber fuel) in
def ReadsValues : Prop :=
  ∀ (value : Json ν) (rest : List Char), value.allNumbers p = true → Delimited rest →
    value.stringify.toList.length ≤ fuel →
    readValue parseNumber fuel (value.stringify.toList ++ rest) = some (value.mapNumbers (reread parseNumber), rest)

variable (p parseNumber fuel) in
def ReadsItems : Prop :=
  ∀ (item : Json ν) (items : List (Json ν)) (rest : List Char), Json.allItems p (item :: items) = true →
    (joinedItems (item :: items)).length < fuel →
    readItems parseNumber fuel (joinedItems (item :: items) ++ ']' :: rest) =
      some (Json.mapItems (reread parseNumber) (item :: items), rest)

variable (p parseNumber fuel) in
def ReadsFields : Prop :=
  ∀ (field : String × Json ν) (fields : List (String × Json ν)) (rest : List Char),
    Json.allFields p (field :: fields) = true → (joinedFields (field :: fields)).length < fuel →
    readFields parseNumber fuel (joinedFields (field :: fields) ++ '\x7d' :: rest) =
      some (Json.mapFields (reread parseNumber) (field :: fields), rest)

omit [JsRuntime ν] in
theorem readValue_number {c : Char} (h : c = '-' ∨ '0' ≤ c ∧ c ≤ '9') (cs : List Char) :
    readValue parseNumber (fuel + 1) (c :: cs) =
      (readNumber (c :: cs)).map fun result => (.number (parseNumber result.1), result.2) := by
  have hstart := number_start h
  rw [readValue, skipSpace_cons (number_visible h).1]
  split
  all_goals first | rfl | (rename_i heq; cases heq; exact absurd (by decide) hstart)

theorem ReadsValues.succ (hnumbers : ReadableNumbers p) (hitems : ReadsItems p parseNumber fuel)
    (hfields : ReadsFields p parseNumber fuel) : ReadsValues p parseNumber (fuel + 1) := by
  intro value rest hreadable hrest hlength
  cases value with
  | null =>
    have htext : (Json.null : Json ν).stringify.toList = ['n', 'u', 'l', 'l'] := by simp [Json.stringify]
    rw [htext]
    simp only [List.cons_append, List.nil_append]
    rw [readValue, skipSpace_cons (by decide)]
    rfl
  | boolean value =>
    cases value with
    | true =>
      have htext : (Json.boolean true : Json ν).stringify.toList = ['t', 'r', 'u', 'e'] := by
        rw [Json.stringify]
        decide
      rw [htext]
      simp only [List.cons_append, List.nil_append]
      rw [readValue, skipSpace_cons (by decide)]
      rfl
    | false =>
      have htext : (Json.boolean false : Json ν).stringify.toList = ['f', 'a', 'l', 's', 'e'] := by
        rw [Json.stringify]
        decide
      rw [htext]
      simp only [List.cons_append, List.nil_append]
      rw [readValue, skipSpace_cons (by decide)]
      rfl
  | number value =>
    obtain ⟨c, cs, htext, hc⟩ := hnumbers.head hreadable
    have hread := hnumbers.reads value hreadable rest hrest
    rw [htext] at hread
    rw [Json.stringify, htext, List.cons_append, readValue_number hc, ← List.cons_append, hread]
    rfl
  | string value =>
    rw [Json.stringify, jsonQuote_toList, List.cons_append, List.append_assoc, List.singleton_append, readValue,
      skipSpace_cons (by decide)]
    simp only [readString_quote, Option.map_some]
    rfl
  | array items =>
    cases items with
    | nil =>
      have htext : (Json.array [] : Json ν).stringify.toList = ['[', ']'] := by simp [Json.stringify, Json.stringifyItems]
      rw [htext]
      simp only [List.cons_append, List.nil_append]
      rw [readValue, skipSpace_cons (by decide)]
      simp only [skipSpace_cons (by decide : isJsonSpace ']' = false)]
      rfl
    | cons item items =>
      rw [stringify_array] at hlength ⊢
      obtain ⟨c, cs, hjoined, hspace, hclose⟩ := joinedItems_head hnumbers (Bool.and_eq_true_iff.mp hreadable).1 items
      have hread := hitems item items rest hreadable (Nat.lt_of_succ_le (by simpa using hlength))
      rw [List.cons_append, List.append_assoc, List.singleton_append, readValue, skipSpace_cons (by decide)]
      rw [hjoined] at hread ⊢
      simp only [List.cons_append, skipSpace_cons hspace]
      split
      · rename_i heq
        exact absurd (List.cons.inj heq).1 hclose
      · rw [← List.cons_append, hread]
        rfl
  | object fields =>
    cases fields with
    | nil =>
      have htext : (Json.object [] : Json ν).stringify.toList = ['\x7b', '\x7d'] := by simp [Json.stringify, Json.stringifyFields]
      rw [htext]
      simp only [List.cons_append, List.nil_append]
      rw [readValue, skipSpace_cons (by decide)]
      simp only [skipSpace_cons (by decide : isJsonSpace '\x7d' = false)]
      rfl
    | cons field fields =>
      rw [stringify_object] at hlength ⊢
      have hread := hfields field fields rest hreadable (Nat.lt_of_succ_le (by simpa using hlength))
      obtain ⟨cs, hjoined⟩ := joinedFields_head field fields
      rw [List.cons_append, List.append_assoc, List.singleton_append, readValue, skipSpace_cons (by decide)]
      rw [hjoined] at hread ⊢
      simp only [List.cons_append, skipSpace_cons (by decide : isJsonSpace '"' = false)]
      rw [← List.cons_append, hread]
      rfl

theorem ReadsItems.succ (hvalues : ReadsValues p parseNumber fuel) (hitems : ReadsItems p parseNumber fuel) :
    ReadsItems p parseNumber (fuel + 1) := by
  intro item items rest hreadable hlength
  obtain ⟨hitem, hrest⟩ := Bool.and_eq_true_iff.mp hreadable
  cases items with
  | nil =>
    have hjoined : joinedItems [item] = item.stringify.toList := by simp [joinedItems, Json.stringifyItems]
    rw [hjoined] at hlength ⊢
    have hread := hvalues item (']' :: rest) hitem (delimited_cons (by simp) rest) (by omega)
    simp only [readItems, hread, skipSpace_cons (by decide : isJsonSpace ']' = false), Option.bind_eq_bind,
      Option.bind_some, pure]
    rfl
  | cons next items =>
    rw [joinedItems_cons] at hlength ⊢
    rw [List.length_append, List.length_cons] at hlength
    have hread := hvalues item (',' :: (joinedItems (next :: items) ++ ']' :: rest)) hitem (delimited_cons (by simp) _)
      (by omega)
    have hlater := hitems next items rest hrest (by omega)
    rw [List.append_assoc, List.cons_append]
    simp only [readItems, hread, hlater, skipSpace_cons (by decide : isJsonSpace ',' = false), Option.bind_eq_bind,
      Option.bind_some, pure]
    rfl

theorem ReadsFields.succ (hvalues : ReadsValues p parseNumber fuel) (hfields : ReadsFields p parseNumber fuel) :
    ReadsFields p parseNumber (fuel + 1) := by
  intro field fields rest hreadable hlength
  obtain ⟨key, value⟩ := field
  obtain ⟨hvalue, hrest⟩ := Bool.and_eq_true_iff.mp hreadable
  cases fields with
  | nil =>
    rw [joinedFields_single] at hlength ⊢
    simp only [List.length_append, List.length_cons] at hlength
    have hread := hvalues value ('\x7d' :: rest) hvalue (delimited_cons (by simp) rest) (by omega)
    simp only [List.cons_append, List.append_assoc, readFields, readString_quote, hread,
      skipSpace_cons (by decide : isJsonSpace '"' = false), skipSpace_cons (by decide : isJsonSpace ':' = false),
      skipSpace_cons (by decide : isJsonSpace '\x7d' = false), Option.bind_eq_bind, Option.bind_some, pure]
    rfl
  | cons next fields =>
    rw [joinedFields_cons] at hlength ⊢
    simp only [List.length_append, List.length_cons] at hlength
    have hread := hvalues value (',' :: (joinedFields (next :: fields) ++ '\x7d' :: rest)) hvalue
      (delimited_cons (by simp) _) (by omega)
    have hlater := hfields next fields rest hrest (by omega)
    simp only [List.cons_append, List.append_assoc, readFields, readString_quote, hread, hlater,
      skipSpace_cons (by decide : isJsonSpace '"' = false), skipSpace_cons (by decide : isJsonSpace ':' = false),
      skipSpace_cons (by decide : isJsonSpace ',' = false), Option.bind_eq_bind, Option.bind_some, pure]
    rfl

theorem reads (hnumbers : ReadableNumbers p) (parseNumber : String → ν) (fuel : Nat) :
    ReadsValues p parseNumber fuel ∧ ReadsItems p parseNumber fuel ∧ ReadsFields p parseNumber fuel := by
  induction fuel with
  | zero =>
    refine ⟨fun value rest hreadable _ hlength => ?_, fun _ _ _ _ hlength => ?_, fun _ _ _ _ hlength => ?_⟩
    · obtain ⟨c, cs, hhead, _⟩ := stringify_head hnumbers hreadable
      rw [hhead] at hlength
      cases hlength
    · cases hlength
    · cases hlength
  | succ fuel ih =>
    obtain ⟨hvalues, hitems, hfields⟩ := ih
    exact ⟨.succ hnumbers hitems hfields, .succ hvalues hitems, .succ hvalues hfields⟩

theorem parseJson_readable (hnumbers : ReadableNumbers p) (parseNumber : String → ν) {value : Json ν}
    (h : value.allNumbers p = true) :
    parseJson parseNumber value.stringify = some (value.mapNumbers (reread parseNumber)) := by
  have hread := (reads hnumbers parseNumber value.stringify.toList.length).1 value [] h (fun _ h => nomatch h) le_rfl
  rw [List.append_nil] at hread
  rw [parseJson, hread]
  rfl

theorem parseJson_stringify (parseNumber : String → ν) {value : Json ν} (h : value.plain = true) :
    parseJson parseNumber value.stringify = some value := by
  rw [parseJson_readable ReadableNumbers.none parseNumber h, mapNumbers_plain _ h]

end Values

end RoundTrip

end ByokGrid
