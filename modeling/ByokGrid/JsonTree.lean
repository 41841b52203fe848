import ByokGrid.JsonText

/-! JSON values over any type of strings, the text `JSON.stringify` writes of them, and that
`JSON.parse` reads the value back, provided the strings and the numbers are read back. -/

namespace ByokGrid

inductive JsonTree (σ ν : Type) where
  | null
  | boolean (value : Bool)
  | number (value : ν)
  | string (value : σ)
  | array (items : List (JsonTree σ ν))
  | object (fields : List (σ × JsonTree σ ν))

structure StringCodec (σ : Type) where
  quoted : σ → List Char
  read : List Char → Option (σ × List Char)
  read_quoted : ∀ s rest, read (quoted s ++ '"' :: rest) = some (s, rest)

section Text

variable {σ ν : Type} (codec : StringCodec σ) (numberText : ν → String)

mutual

def JsonTree.text : JsonTree σ ν → List Char
  | .null => ['n', 'u', 'l', 'l']
  | .boolean true => ['t', 'r', 'u', 'e']
  | .boolean false => ['f', 'a', 'l', 's', 'e']
  | .number value => (numberText value).toList
  | .string value => '"' :: (codec.quoted value ++ ['"'])
  | .array items => '[' :: (JsonTree.itemsText items ++ [']'])
  | .object fields => '\x7b' :: (JsonTree.fieldsText fields ++ ['\x7d'])

def JsonTree.itemsText : List (JsonTree σ ν) → List Char
  | [] => []
  | [item] => item.text
  | item :: next :: items => item.text ++ ',' :: JsonTree.itemsText (next :: items)

def JsonTree.fieldsText : List (σ × JsonTree σ ν) → List Char
  | [] => []
  | [(key, value)] => '"' :: (codec.quoted key ++ '"' :: ':' :: value.text)
  | (key, value) :: next :: fields =>
    '"' :: (codec.quoted key ++ '"' :: ':' :: (value.text ++ ',' :: JsonTree.fieldsText (next :: fields)))

end

mutual

def JsonTree.allNumbers (p : ν → Bool) : JsonTree σ ν → Bool
  | .null | .boolean _ | .string _ => true
  | .number value => p value
  | .array items => JsonTree.allItems p items
  | .object fields => JsonTree.allFields p fields

def JsonTree.allItems (p : ν → Bool) : List (JsonTree σ ν) → Bool
  | [] => true
  | item :: items => item.allNumbers p && JsonTree.allItems p items

def JsonTree.allFields (p : ν → Bool) : List (σ × JsonTree σ ν) → Bool
  | [] => true
  | (_, value) :: fields => value.allNumbers p && JsonTree.allFields p fields

end

mutual

def JsonTree.mapNumbers (f : ν → ν) : JsonTree σ ν → JsonTree σ ν
  | .null => .null
  | .boolean value => .boolean value
  | .number value => .number (f value)
  | .string value => .string value
  | .array items => .array (JsonTree.mapItems f items)
  | .object fields => .object (JsonTree.mapFields f fields)

def JsonTree.mapItems (f : ν → ν) : List (JsonTree σ ν) → List (JsonTree σ ν)
  | [] => []
  | item :: items => item.mapNumbers f :: JsonTree.mapItems f items

def JsonTree.mapFields (f : ν → ν) : List (σ × JsonTree σ ν) → List (σ × JsonTree σ ν)
  | [] => []
  | (key, value) :: fields => (key, value.mapNumbers f) :: JsonTree.mapFields f fields

end

end Text

section Fixed

variable {σ ν : Type} [DecidableEq ν] (f : ν → ν)

theorem cons_eq_iff {α : Type} {x y : α} {xs ys : List α} {p q : Bool} (hx : x = y ↔ p = true) (hxs : xs = ys ↔ q = true) :
    x :: xs = y :: ys ↔ (p && q) = true := by
  rw [List.cons.injEq, hx, hxs, Bool.and_eq_true]

mutual

theorem JsonTree.mapNumbers_eq_self : ∀ value : JsonTree σ ν,
    value.mapNumbers f = value ↔ value.allNumbers (fun n => f n = n) = true
  | .null | .boolean _ | .string _ => by simp [JsonTree.mapNumbers, JsonTree.allNumbers]
  | .number n => by simp [JsonTree.mapNumbers, JsonTree.allNumbers]
  | .array items => by simp [JsonTree.mapNumbers, JsonTree.allNumbers, JsonTree.mapItems_eq_self items]
  | .object fields => by simp [JsonTree.mapNumbers, JsonTree.allNumbers, JsonTree.mapFields_eq_self fields]

theorem JsonTree.mapItems_eq_self : ∀ items : List (JsonTree σ ν),
    JsonTree.mapItems f items = items ↔ JsonTree.allItems (fun n => f n = n) items = true
  | [] => by simp [JsonTree.mapItems, JsonTree.allItems]
  | item :: items => cons_eq_iff (JsonTree.mapNumbers_eq_self item) (JsonTree.mapItems_eq_self items)

theorem JsonTree.mapFields_eq_self : ∀ fields : List (σ × JsonTree σ ν),
    JsonTree.mapFields f fields = fields ↔ JsonTree.allFields (fun n => f n = n) fields = true
  | [] => by simp [JsonTree.mapFields, JsonTree.allFields]
  | (key, value) :: fields =>
    cons_eq_iff (by rw [Prod.mk.injEq, JsonTree.mapNumbers_eq_self value]; simp) (JsonTree.mapFields_eq_self fields)

end

end Fixed

section Read

variable {σ ν : Type} (codec : StringCodec σ) (parseNumber : String → ν)

mutual

def readTree : Nat → List Char → Option (JsonTree σ ν × List Char)
  | 0, _ => none
  | fuel + 1, cs =>
    match skipSpace cs with
    | 'n' :: 'u' :: 'l' :: 'l' :: rest => some (.null, rest)
    | 't' :: 'r' :: 'u' :: 'e' :: rest => some (.boolean true, rest)
    | 'f' :: 'a' :: 'l' :: 's' :: 'e' :: rest => some (.boolean false, rest)
    | '"' :: rest => (codec.read rest).map fun result => (.string result.1, result.2)
    | '[' :: rest =>
      match skipSpace rest with
      | ']' :: rest => some (.array [], rest)
      | _ => (readTrees fuel rest).map fun result => (.array result.1, result.2)
    | '\x7b' :: rest =>
      match skipSpace rest with
      | '\x7d' :: rest => some (.object [], rest)
      | _ => (readMembers fuel rest).map fun result => (.object result.1, result.2)
    | cs => (readNumber cs).map fun result => (.number (parseNumber result.1), result.2)

def readTrees : Nat → List Char → Option (List (JsonTree σ ν) × List Char)
  | 0, _ => none
  | fuel + 1, cs => do
    let (item, rest) ← readTree fuel cs
    match skipSpace rest with
    | ']' :: rest => return ([item], rest)
    | ',' :: rest =>
      let (items, rest) ← readTrees fuel rest
      return (item :: items, rest)
    | _ => none

def readMembers : Nat → List Char → Option (List (σ × JsonTree σ ν) × List Char)
  | 0, _ => none
  | fuel + 1, cs =>
    match skipSpace cs with
    | '"' :: rest => do
      let (key, rest) ← codec.read rest
      match skipSpace rest with
      | ':' :: rest =>
        let (value, rest) ← readTree fuel rest
        match skipSpace rest with
        | '\x7d' :: rest => return ([(key, value)], rest)
        | ',' :: rest =>
          let (fields, rest) ← readMembers fuel rest
          return ((key, value) :: fields, rest)
        | _ => none
      | _ => none
    | _ => none

end

/-- `JSON.parse`. -/
def parseTree (text : List Char) : Option (JsonTree σ ν) :=
  match readTree codec parseNumber text.length text with
  | some (value, rest) => if skipSpace rest = [] then some value else none
  | none => none

end Read

structure ReadableTexts {ν : Type} (numberText : ν → String) (p : ν → Bool) : Prop where
  reads : ∀ n, p n = true → ∀ rest, Delimited rest →
    readNumber ((numberText n).toList ++ rest) = some (numberText n, rest)

section RoundTrip

variable {σ ν : Type} {codec : StringCodec σ} {numberText : ν → String} {parseNumber : String → ν} {p : ν → Bool}
  {fuel : Nat}

theorem ReadableTexts.head (hnumbers : ReadableTexts numberText p) {n : ν} (h : p n = true) :
    ∃ c cs, (numberText n).toList = c :: cs ∧ (c = '-' ∨ '0' ≤ c ∧ c ≤ '9') := by
  have hread := hnumbers.reads n h [] (fun _ h => nomatch h)
  rw [List.append_nil] at hread
  exact readNumber_head hread

variable (codec) in
theorem JsonTree.text_head (hnumbers : ReadableTexts numberText p) {value : JsonTree σ ν} (h : value.allNumbers p = true) :
    ∃ c cs, value.text codec numberText = c :: cs ∧ isJsonSpace c = false ∧ c ≠ ']' := by
  cases value with
  | null => exact ⟨_, _, rfl, by decide⟩
  | boolean value => cases value <;> exact ⟨_, _, rfl, by decide⟩
  | number value =>
    obtain ⟨c, cs, htext, hc⟩ := hnumbers.head h
    exact ⟨c, cs, htext, number_visible hc⟩
  | string value => exact ⟨_, _, rfl, by decide⟩
  | array items => exact ⟨_, _, rfl, by decide⟩
  | object fields => exact ⟨_, _, rfl, by decide⟩

variable (codec) in
theorem JsonTree.itemsText_head (hnumbers : ReadableTexts numberText p) {item : JsonTree σ ν}
    (h : item.allNumbers p = true) (items : List (JsonTree σ ν)) :
    ∃ c cs, JsonTree.itemsText codec numberText (item :: items) = c :: cs ∧ isJsonSpace c = false ∧ c ≠ ']' := by
  obtain ⟨c, cs, hitem, hhead⟩ := JsonTree.text_head codec hnumbers h
  cases items with
  | nil => exact ⟨c, cs, hitem, hhead⟩
  | cons next items => exact ⟨c, _, by rw [JsonTree.itemsText, hitem]; rfl, hhead⟩

variable (codec numberText) in
theorem JsonTree.fieldsText_head (field : σ × JsonTree σ ν) (fields : List (σ × JsonTree σ ν)) :
    ∃ cs, JsonTree.fieldsText codec numberText (field :: fields) = '"' :: cs := by
  cases fields with
  | nil => exact ⟨_, rfl⟩
  | cons next fields => exact ⟨_, rfl⟩

variable (codec numberText parseNumber p fuel) in
def ReadsTrees : Prop :=
  ∀ (value : JsonTree σ ν) (rest : List Char), value.allNumbers p = true → Delimited rest →
    (value.text codec numberText).length ≤ fuel →
    readTree codec parseNumber fuel (value.text codec numberText ++ rest) =
      some (value.mapNumbers fun n => parseNumber (numberText n), rest)

variable (codec numberText parseNumber p fuel) in
def ReadsTreeItems : Prop :=
  ∀ (item : JsonTree σ ν) (items : List (JsonTree σ ν)) (rest : List Char), JsonTree.allItems p (item :: items) = true →
    (JsonTree.itemsText codec numberText (item :: items)).length < fuel →
    readTrees codec parseNumber fuel (JsonTree.itemsText codec numberText (item :: items) ++ ']' :: rest) =
      some (JsonTree.mapItems (fun n => parseNumber (numberText n)) (item :: items), rest)

variable (codec numberText parseNumber p fuel) in
def ReadsMembers : Prop :=
  ∀ (field : σ × JsonTree σ ν) (fields : List (σ × JsonTree σ ν)) (rest : List Char),
    JsonTree.allFields p (field :: fields) = true →
    (JsonTree.fieldsText codec numberText (field :: fields)).length < fuel →
    readMembers codec parseNumber fuel (JsonTree.fieldsText codec numberText (field :: fields) ++ '\x7d' :: rest) =
      some (JsonTree.mapFields (fun n => parseNumber (numberText n)) (field :: fields), rest)

theorem readTree_number {c : Char} (h : c = '-' ∨ '0' ≤ c ∧ c ≤ '9') (cs : List Char) :
    readTree codec parseNumber (fuel + 1) (c :: cs) =
      (readNumber (c :: cs)).map fun result => (.number (parseNumber result.1), result.2) := by
  have hstart := number_start h
  rw [readTree, skipSpace_cons (number_visible h).1]
  split
  all_goals first | rfl | (rename_i heq; cases heq; exact absurd (by decide) hstart)

theorem ReadsTrees.succ (hnumbers : ReadableTexts numberText p)
    (hitems : ReadsTreeItems codec numberText parseNumber p fuel)
    (hfields : ReadsMembers codec numberText parseNumber p fuel) : ReadsTrees codec numberText parseNumber p (fuel + 1) := by
  intro value rest hreadable hrest hlength
  cases value with
  | null =>
    rw [JsonTree.text, readTree, List.cons_append, skipSpace_cons (by decide)]
    rfl
  | boolean value =>
    cases value with
    | true =>
      rw [JsonTree.text, readTree, List.cons_append, skipSpace_cons (by decide)]
      rfl
    | false =>
      rw [JsonTree.text, readTree, List.cons_append, skipSpace_cons (by decide)]
      rfl
  | number value =>
    obtain ⟨c, cs, htext, hc⟩ := hnumbers.head hreadable
    have hread := hnumbers.reads value hreadable rest hrest
    rw [htext] at hread
    rw [JsonTree.text, htext, List.cons_append, readTree_number hc, ← List.cons_append, hread]
    rfl
  | string value =>
    rw [JsonTree.text, List.cons_append, List.append_assoc, List.singleton_append, readTree, skipSpace_cons (by decide)]
    simp only [codec.read_quoted, Option.map_some]
    rfl
  | array items =>
    cases items with
    | nil =>
      rw [JsonTree.text, JsonTree.itemsText, List.nil_append, List.cons_append, readTree, skipSpace_cons (by decide)]
      simp only [List.cons_append, List.nil_append, skipSpace_cons (by decide : isJsonSpace ']' = false)]
      rfl
    | cons item items =>
      rw [JsonTree.text] at hlength ⊢
      obtain ⟨c, cs, hjoined, hspace, hclose⟩ :=
        JsonTree.itemsText_head codec hnumbers (Bool.and_eq_true_iff.mp hreadable).1 items
      have hread := hitems item items rest hreadable (Nat.lt_of_succ_le (by simpa using hlength))
      rw [List.cons_append, List.append_assoc, List.singleton_append, readTree, skipSpace_cons (by decide)]
      rw [hjoined] at hread ⊢
      simp only [List.cons_append, skipSpace_cons hspace]
      split
      · rename_i heq
        exact absurd (List.cons.inj heq).1 hclose
      · rw [← List.cons_append, hread]
        rfl
  | object fields =>
    cases fields with
    | nil =>
      rw [JsonTree.text, JsonTree.fieldsText, List.nil_append, List.cons_append, readTree, skipSpace_cons (by decide)]
      simp only [List.cons_append, List.nil_append, skipSpace_cons (by decide : isJsonSpace '\x7d' = false)]
      rfl
    | cons field fields =>
      rw [JsonTree.text] at hlength ⊢
      have hread := hfields field fields rest hreadable (Nat.lt_of_succ_le (by simpa using hlength))
      obtain ⟨cs, hjoined⟩ := JsonTree.fieldsText_head codec numberText field fields
      rw [List.cons_append, List.append_assoc, List.singleton_append, readTree, skipSpace_cons (by decide)]
      rw [hjoined] at hread ⊢
      simp only [List.cons_append, skipSpace_cons (by decide : isJsonSpace '"' = false)]
      rw [← List.cons_append, hread]
      rfl

theorem ReadsTreeItems.succ (hvalues : ReadsTrees codec numberText parseNumber p fuel)
    (hitems : ReadsTreeItems codec numberText parseNumber p fuel) :
    ReadsTreeItems codec numberText parseNumber p (fuel + 1) := by
  intro item items rest hreadable hlength
  obtain ⟨hitem, hrest⟩ := Bool.and_eq_true_iff.mp hreadable
  cases items with
  | nil =>
    rw [JsonTree.itemsText] at hlength ⊢
    have hread := hvalues item (']' :: rest) hitem (delimited_cons (by simp) rest) (by omega)
    simp only [readTrees, hread, skipSpace_cons (by decide : isJsonSpace ']' = false), Option.bind_eq_bind,
      Option.bind_some, pure]
    rfl
  | cons next items =>
    rw [JsonTree.itemsText] at hlength ⊢
    rw [List.length_append, List.length_cons] at hlength
    have hread := hvalues item (',' :: (JsonTree.itemsText codec numberText (next :: items) ++ ']' :: rest)) hitem
      (delimited_cons (by simp) _) (by omega)
    have hlater := hitems next items rest hrest (by omega)
    rw [List.append_assoc, List.cons_append]
    simp only [readTrees, hread, hlater, skipSpace_cons (by decide : isJsonSpace ',' = false), Option.bind_eq_bind,
      Option.bind_some, pure]
    rfl

theorem ReadsMembers.succ (hvalues : ReadsTrees codec numberText parseNumber p fuel)
    (hfields : ReadsMembers codec numberText parseNumber p fuel) :
    ReadsMembers codec numberText parseNumber p (fuel + 1) := by
  intro field fields rest hreadable hlength
  obtain ⟨key, value⟩ := field
  obtain ⟨hvalue, hrest⟩ := Bool.and_eq_true_iff.mp hreadable
  cases fields with
  | nil =>
    rw [JsonTree.fieldsText] at hlength ⊢
    simp only [List.length_append, List.length_cons] at hlength
    have hread := hvalues value ('\x7d' :: rest) hvalue (delimited_cons (by simp) rest) (by omega)
    simp only [List.cons_append, List.append_assoc, readMembers, codec.read_quoted, hread,
      skipSpace_cons (by decide : isJsonSpace '"' = false), skipSpace_cons (by decide : isJsonSpace ':' = false),
      skipSpace_cons (by decide : isJsonSpace '\x7d' = false), Option.bind_eq_bind, Option.bind_some, pure]
    rfl
  | cons next fields =>
    rw [JsonTree.fieldsText] at hlength ⊢
    simp only [List.length_append, List.length_cons] at hlength
    have hread := hvalues value (',' :: (JsonTree.fieldsText codec numberText (next :: fields) ++ '\x7d' :: rest)) hvalue
      (delimited_cons (by simp) _) (by omega)
    have hlater := hfields next fields rest hrest (by omega)
    simp only [List.cons_append, List.append_assoc, readMembers, codec.read_quoted, hread, hlater,
      skipSpace_cons (by decide : isJsonSpace '"' = false), skipSpace_cons (by decide : isJsonSpace ':' = false),
      skipSpace_cons (by decide : isJsonSpace ',' = false), Option.bind_eq_bind, Option.bind_some, pure]
    rfl

variable (codec) in
theorem readsTrees (hnumbers : ReadableTexts numberText p) (parseNumber : String → ν) (fuel : Nat) :
    ReadsTrees codec numberText parseNumber p fuel ∧ ReadsTreeItems codec numberText parseNumber p fuel ∧
      ReadsMembers codec numberText parseNumber p fuel := by
  induction fuel with
  | zero =>
    refine ⟨fun value rest hreadable _ hlength => ?_, fun _ _ _ _ hlength => ?_, fun _ _ _ _ hlength => ?_⟩
    · obtain ⟨c, cs, hhead, _⟩ := JsonTree.text_head codec hnumbers hreadable
      rw [hhead] at hlength
      cases hlength
    · cases hlength
    · cases hlength
  | succ fuel ih =>
    obtain ⟨hvalues, hitems, hfields⟩ := ih
    exact ⟨.succ hnumbers hitems hfields, .succ hvalues hitems, .succ hvalues hfields⟩

theorem parseTree_text (hnumbers : ReadableTexts numberText p) (parseNumber : String → ν) {value : JsonTree σ ν}
    (h : value.allNumbers p = true) : parseTree codec parseNumber (value.text codec numberText) =
      some (value.mapNumbers fun n => parseNumber (numberText n)) := by
  have hread := (readsTrees codec hnumbers parseNumber (value.text codec numberText).length).1 value [] h
    (fun _ h => nomatch h) le_rfl
  rw [List.append_nil] at hread
  rw [parseTree, hread]
  rfl

end RoundTrip

end ByokGrid
