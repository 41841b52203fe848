import ByokGrid.Utf16Strings
import ByokGrid.WebOrigins

/-! Paths to return to after a sign-in: they have to lead to the same origin. -/

namespace ByokGrid

namespace JsString

def startsWith (s : JsString) (units : List Nat) : Bool :=
  units.isPrefixOf s.toUnits

def scalars (s : JsString) : List Char :=
  decodeUnits s.toUnits

def ofScalars (text : List Char) : JsString :=
  ofUnits (text.flatMap utf16Units)

@[simp] theorem scalars_ofScalars (text : List Char) : (ofScalars text).scalars = text := by
  have hunits : ∀ unit ∈ text.flatMap utf16Units, unit < 65536 := by
    intro unit hunit
    obtain ⟨c, _, hc⟩ := List.mem_flatMap.mp hunit
    exact utf16Units_lt c unit hc
  rw [scalars, ofScalars, toUnits_ofUnits hunits, decodeUnits_units]

theorem toUnits_ofScalars {text : List Char} (h : ∀ c ∈ text, c.toNat < 0x80) :
    (ofScalars text).toUnits = text.map Char.toNat := by
  have hunits : text.flatMap utf16Units = text.map Char.toNat := by
    induction text with
    | nil => rfl
    | cons c text ih =>
      have hc := h c List.mem_cons_self
      rw [List.flatMap_cons, List.map_cons, ih fun d hd => h d (List.mem_cons_of_mem c hd), utf16Units, if_pos (by omega)]
      rfl
  rw [ofScalars, hunits, toUnits_ofUnits]
  intro unit hunit
  obtain ⟨c, hc, rfl⟩ := List.mem_map.mp hunit
  have hcode := h c hc
  omega

end JsString

theorem ofNat_surrogates (high low : Nat) (h : 0xD800 ≤ high ∧ high ≤ 0xDBFF) (hlow : 0xDC00 ≤ low ∧ low ≤ 0xDFFF) :
    ¬ (Char.ofNat (0x10000 + (high - 0xD800) * 1024 + (low - 0xDC00))).toNat < 0x80 := by
  rw [JsString.toNat_ofNat (by unfold Nat.isValidChar; omega)]
  omega

theorem toNat_decodeUnit {unit : Nat}
    (h : (if isHighSurrogate unit || isLowSurrogate unit then '\uFFFD' else Char.ofNat unit).toNat < 0x80)
    (hunit : unit < 65536) :
    (if isHighSurrogate unit || isLowSurrogate unit then '\uFFFD' else Char.ofNat unit).toNat = unit := by
  have hreplacement : ¬ '\uFFFD'.toNat < 0x80 := by decide
  split at h
  · exact absurd h hreplacement
  · rename_i hsurrogate
    rw [if_neg hsurrogate]
    simp only [isHighSurrogate, isLowSurrogate, Bool.or_eq_true, Bool.and_eq_true, decide_eq_true_eq] at hsurrogate
    apply JsString.toNat_ofNat
    unfold Nat.isValidChar
    omega

theorem decodeUnits_ascii {units : List Nat} (hunits : ∀ unit ∈ units, unit < 65536) :
    (∀ c ∈ decodeUnits units, c.toNat < 0x80 → c.toNat ∈ units) ∧
      ∀ c, (decodeUnits units).head? = some c → c.toNat < 0x80 → units.head? = some c.toNat := by
  fun_induction decodeUnits units with
  | case1 => exact ⟨fun _ h => absurd h List.not_mem_nil, fun _ h => by cases h⟩
  | case2 unit =>
    have hunit := hunits unit List.mem_cons_self
    constructor
    · intro c hc hcode
      rw [List.mem_singleton] at hc
      subst hc
      rw [toNat_decodeUnit hcode hunit]
      exact List.mem_cons_self
    · intro c hc hcode
      rw [List.head?_cons, Option.some.injEq] at hc
      subst hc
      rw [toNat_decodeUnit hcode hunit]
      rfl
  | case3 unit next units hpair ih =>
    simp only [isHighSurrogate, isLowSurrogate, Bool.and_eq_true, decide_eq_true_eq] at hpair
    have hwide := ofNat_surrogates unit next hpair.1 hpair.2
    have htail := ih fun later hlater => hunits later (List.mem_cons_of_mem _ (List.mem_cons_of_mem _ hlater))
    constructor
    · intro c hc hcode
      rcases List.mem_cons.mp hc with hc | hc
      · exact absurd (hc ▸ hcode) hwide
      · exact List.mem_cons_of_mem _ (List.mem_cons_of_mem _ (htail.1 c hc hcode))
    · intro c hc hcode
      rw [List.head?_cons, Option.some.injEq] at hc
      subst hc
      exact absurd hcode hwide
  | case4 unit next units hpair ih =>
    have hunit := hunits unit List.mem_cons_self
    have htail := ih fun later hlater => hunits later (List.mem_cons_of_mem _ hlater)
    constructor
    · intro c hc hcode
      rcases List.mem_cons.mp hc with rfl | hc
      · rw [toNat_decodeUnit hcode hunit]
        exact List.mem_cons_self
      · exact List.mem_cons_of_mem _ (htail.1 c hc hcode)
    · intro c hc hcode
      rw [List.head?_cons, Option.some.injEq] at hc
      subst hc
      rw [toNat_decodeUnit hcode hunit]
      rfl

def internalBase : WebOrigin :=
  ⟨.http, "byok-grid.local", none, fun _ h => by cases h⟩

/-- `[\u0000-\u001F\u007F]` -/
def hasControl (value : JsString) : Bool :=
  value.toUnits.any fun unit => unit ≤ 0x1F || unit == 0x7F

/-- Without a result where `new URL` throws. -/
def safeInternalPath (parseHost : List Char → Option String) (value : Option JsString) (fallback : JsString) : Option JsString :=
  match value with
  | none => some fallback
  | some value =>
    if value.units = [] ∨ value.startsWith [0x2F] = false ∨ value.startsWith [0x2F, 0x2F] = true then some fallback
    else if value.toUnits.contains 0x5C = true ∨ hasControl value = true then some fallback
    else do
      let target ← resolveRooted parseHost internalBase value.scalars
      if target.origin ≠ internalBase then some fallback
      else some (JsString.ofScalars (target.tail.pathname ++ target.tail.search ++ target.tail.hash))

structure PassesChecks (value : JsString) : Prop where
  rooted : value.startsWith [0x2F] = true
  single : value.startsWith [0x2F, 0x2F] = false
  backslashless : value.toUnits.contains 0x5C = false
  controlless : hasControl value = false

theorem PassesChecks.units {value : JsString} (h : PassesChecks value) :
    ∃ units, value.toUnits = 0x2F :: units ∧ units.head? ≠ some 0x2F := by
  have hrooted := h.rooted
  have hsingle := h.single
  unfold JsString.startsWith at hrooted hsingle
  cases hunits : value.toUnits with
  | nil => rw [hunits] at hrooted; cases hrooted
  | cons unit units =>
    rw [hunits, List.isPrefixOf_cons_cons, Bool.and_eq_true, beq_iff_eq] at hrooted
    obtain ⟨rfl, -⟩ := hrooted
    refine ⟨units, rfl, fun hhead => ?_⟩
    cases units with
    | nil => cases hhead
    | cons next units =>
      cases hhead
      rw [hunits] at hsingle
      cases hsingle

theorem PassesChecks.scalars {value : JsString} (h : PassesChecks value) :
    ∃ rest, value.scalars = '/' :: rest ∧ (∀ c, rest.head? = some c → isSlash c = false) ∧
      (∀ c ∈ rest, 13 < c.toNat) ∧ '\\' ∉ rest := by
  obtain ⟨units, hunits, hhead⟩ := h.units
  have hbounds : ∀ unit ∈ units, unit < 65536 := fun unit hunit => value.toUnits_lt unit (hunits ▸ List.mem_cons_of_mem _ hunit)
  have hscalars : value.scalars = '/' :: decodeUnits units := by
    rw [JsString.scalars, hunits]
    exact decodeUnits_cons '/' units
  obtain ⟨hascii, hfirst⟩ := decodeUnits_ascii hbounds
  have hbackslash : '\\' ∉ decodeUnits units := by
    intro hmem
    have hunit : 0x5C ∈ value.toUnits := hunits ▸ List.mem_cons_of_mem _ (hascii '\\' hmem (by decide))
    have hcontains := h.backslashless
    rw [List.contains_eq_mem, decide_eq_false_iff_not] at hcontains
    exact hcontains hunit
  refine ⟨decodeUnits units, hscalars, ?_, ?_, hbackslash⟩
  · intro c hc
    rw [isSlash, Bool.or_eq_false_iff, beq_eq_false_iff_ne, beq_eq_false_iff_ne]
    constructor
    · rintro rfl
      exact hhead (hfirst '/' hc (by decide))
    · rintro rfl
      exact hbackslash (List.mem_of_mem_head? hc)
  · intro c hc
    by_contra hcode
    have hunit : c.toNat ∈ value.toUnits := hunits ▸ List.mem_cons_of_mem _ (hascii c hc (by omega))
    have hcontrol := h.controlless
    rw [hasControl, List.any_eq_false] at hcontrol
    have hnot := hcontrol _ hunit
    rw [Bool.or_eq_true, decide_eq_true_eq] at hnot
    omega

def readTail (value : JsString) : UrlTail :=
  parseTail ((stripInput value.scalars).drop 1)

def normalPath (value : JsString) : JsString :=
  JsString.ofScalars (readTail value).text

theorem PassesChecks.stripped {value : JsString} (h : PassesChecks value) :
    ∃ kept, stripInput value.scalars = '/' :: kept ∧ (∀ c, kept.head? = some c → isSlash c = false) ∧ '\\' ∉ kept := by
  obtain ⟨rest, hscalars, hhead, hcodes, hbackslash⟩ := h.scalars
  obtain ⟨kept, hkept, hstripped⟩ := stripInput_rooted hcodes
  refine ⟨kept, by rw [hscalars, hstripped], ?_, fun hmem => hbackslash (hkept.subset hmem)⟩
  intro c hc
  apply hhead
  cases kept with
  | nil => cases hc
  | cons first kept =>
    obtain ⟨more, rfl⟩ := hkept
    exact hc

section Results

variable {parseHost : List Char → Option String} {value fallback : JsString}

theorem safeInternalPath_passes (h : PassesChecks value) :
    safeInternalPath parseHost (some value) fallback = some (normalPath value) := by
  obtain ⟨kept, hstripped, hhead, -⟩ := h.stripped
  have hnonempty : value.units ≠ [] := by
    intro hunits
    obtain ⟨units, hcons, -⟩ := h.units
    rw [JsString.toUnits, hunits] at hcons
    cases hcons
  have hfront : ¬ (value.units = [] ∨ value.startsWith [0x2F] = false ∨ value.startsWith [0x2F, 0x2F] = true) := by
    rw [h.rooted, h.single]
    simp only [hnonempty, Bool.true_eq_false, Bool.false_eq_true, or_self, not_false_eq_true]
  have hcharacters : ¬ (value.toUnits.contains 0x5C = true ∨ hasControl value = true) := by
    rw [h.backslashless, h.controlless]
    decide
  have horigin : ¬ (WebUrl.at internalBase (parseTail kept)).origin ≠ internalBase := fun h => h rfl
  rw [safeInternalPath, if_neg hfront, if_neg hcharacters, resolveRooted_path hstripped hhead, normalPath, readTail, hstripped,
    Option.bind_eq_bind, Option.bind_some, if_neg horigin]
  rfl

theorem safeInternalPath_fails (h : ¬ PassesChecks value) : safeInternalPath parseHost (some value) fallback = some fallback := by
  rw [safeInternalPath]
  by_cases hfront : value.units = [] ∨ value.startsWith [0x2F] = false ∨ value.startsWith [0x2F, 0x2F] = true
  · rw [if_pos hfront]
  · rw [if_neg hfront, if_pos]
    by_contra hcharacters
    simp only [not_or, Bool.not_eq_true, Bool.not_eq_false] at hfront hcharacters
    exact h ⟨hfront.2.1, hfront.2.2, hcharacters.1, hcharacters.2⟩

def InternalPath (parseHost : List Char → Option String) (path : JsString) : Prop :=
  ∀ origin, StaysOn parseHost origin path.scalars

def OpensAuthority (tail : UrlTail) : Prop :=
  ∃ segment rest, tail.path = [] :: segment :: rest

theorem head_body {tail : UrlTail} (h : ¬ OpensAuthority tail) : tail.body.head? ≠ some '/' := by
  obtain ⟨segment, path, hpath, htext⟩ := tail.text_eq
  rw [UrlTail.body, htext, List.drop_one, List.tail_cons]
  cases segment with
  | cons c segment =>
    have hclean := tail.path_clean (c :: segment) (hpath ▸ List.mem_cons_self)
    have hslash := hclean.slashless c List.mem_cons_self
    intro hhead
    cases hhead
    cases hslash
  | nil =>
    cases path with
    | cons next path => exact absurd ⟨next, path, hpath⟩ h
    | nil =>
      rw [serializePath, List.flatMap_nil, List.nil_append, List.nil_append, UrlTail.search, UrlTail.hash]
      rcases marked_cases '?' tail.query with hquery | ⟨c, rest, _, hquery⟩
      · rcases marked_cases '#' tail.fragment with hfragment | ⟨d, more, _, hfragment⟩
        · rw [hquery, hfragment]
          exact fun hhead => by cases hhead
        · rw [hquery, hfragment]
          exact fun hhead => absurd (Option.some.inj hhead) (by decide)
      · rw [hquery]
        exact fun hhead => absurd (Option.some.inj hhead) (by decide)

theorem opensAuthority_text {tail : UrlTail} (h : OpensAuthority tail) : ∃ rest, tail.text = '/' :: '/' :: rest := by
  obtain ⟨next, path, hpath⟩ := h
  obtain ⟨segment, more, hsegments, htext⟩ := tail.text_eq
  rw [hpath] at hsegments
  cases hsegments
  rw [htext, serializePath, List.flatMap_cons]
  exact ⟨_, rfl⟩

theorem stripInput_text (tail : UrlTail) : stripInput tail.text = tail.text :=
  stripInput_eq_self fun c hc => (tail.text_printable c hc).1

theorem passes_ofScalars {tail : UrlTail} (h : ¬ OpensAuthority tail) (hbackslash : '\\' ∉ tail.text) :
    PassesChecks (JsString.ofScalars tail.text) := by
  have hprintable := tail.text_printable
  have hunits : (JsString.ofScalars tail.text).toUnits = tail.text.map Char.toNat :=
    JsString.toUnits_ofScalars fun c hc => by have hcode := hprintable c hc; omega
  have htext := tail.text_eq_cons_body
  refine ⟨?_, ?_, ?_, ?_⟩
  · rw [JsString.startsWith, hunits, htext]
    rfl
  · rw [JsString.startsWith, hunits, htext, List.map_cons]
    cases hbody : tail.body with
    | nil => rfl
    | cons c body =>
      have hhead := head_body h
      rw [hbody, List.head?_cons, Ne, Option.some.injEq] at hhead
      have hcode : (0x2F == c.toNat) = false := by
        rw [beq_eq_false_iff_ne]
        intro hslash
        exact hhead (Char.ext (UInt32.toNat_inj.mp hslash.symm))
      rw [List.map_cons, List.isPrefixOf_cons_cons, List.isPrefixOf_cons_cons, hcode, Bool.false_and, Bool.and_false]
  · rw [hunits, List.contains_eq_mem, decide_eq_false_iff_not, List.mem_map]
    rintro ⟨c, hc, hcode⟩
    have hchar : c = '\\' := Char.ext (UInt32.toNat_inj.mp hcode)
    exact hbackslash (hchar ▸ hc)
  · rw [hasControl, hunits, List.any_eq_false]
    intro unit hunit
    obtain ⟨c, hc, rfl⟩ := List.mem_map.mp hunit
    have hcode := hprintable c hc
    rw [Bool.or_eq_true, decide_eq_true_eq, beq_iff_eq]
    omega

theorem internalPath_ofScalars {tail : UrlTail} (hbackslash : '\\' ∉ tail.text) :
    InternalPath parseHost (JsString.ofScalars tail.text) ↔ ¬ OpensAuthority tail := by
  have hstripped : stripInput (JsString.ofScalars tail.text).scalars = tail.text := by
    rw [JsString.scalars_ofScalars, stripInput_text]
  constructor
  · intro hinternal hopens
    obtain ⟨rest, htext⟩ := opensAuthority_text hopens
    exact leaves_of_authority (hstripped.trans htext) hinternal
  · intro hpath origin
    refine staysOn_path (hstripped.trans tail.text_eq_cons_body) ?_ origin
    intro c hc
    have hmem : c ∈ tail.text := tail.text_eq_cons_body ▸ List.mem_cons_of_mem _ (List.mem_of_mem_head? hc)
    rw [isSlash, Bool.or_eq_false_iff, beq_eq_false_iff_ne, beq_eq_false_iff_ne]
    constructor
    · rintro rfl
      exact head_body hpath hc
    · rintro rfl
      exact hbackslash hmem

theorem normalPath_normalPath (value : JsString) : normalPath (normalPath value) = normalPath value := by
  have hscalars : (stripInput (normalPath value).scalars).drop 1 = (readTail value).body := by
    rw [normalPath, JsString.scalars_ofScalars, stripInput_text, UrlTail.body]
  rw [normalPath, readTail, hscalars, UrlTail.text_parseTail_body]
  rfl

theorem PassesChecks.backslash_not_mem (h : PassesChecks value) : '\\' ∉ (readTail value).text := by
  obtain ⟨kept, hstripped, -, hbackslash⟩ := h.stripped
  rw [readTail, hstripped]
  exact backslash_not_mem_text hbackslash

def KeepsToOrigin (parseHost : List Char → Option String) (value : Option JsString) (fallback : JsString) : Prop :=
  ∃ path, safeInternalPath parseHost value fallback = some path ∧ InternalPath parseHost path ∧
    safeInternalPath parseHost (some path) fallback = some path

theorem keepsToOrigin_passes (h : PassesChecks value) :
    KeepsToOrigin parseHost (some value) fallback ↔ ¬ OpensAuthority (readTail value) := by
  constructor
  · rintro ⟨path, hpath, hinternal, -⟩
    rw [safeInternalPath_passes h, Option.some.injEq] at hpath
    subst hpath
    exact (internalPath_ofScalars h.backslash_not_mem).mp hinternal
  · intro hopens
    have hagain : PassesChecks (normalPath value) := passes_ofScalars hopens h.backslash_not_mem
    refine ⟨normalPath value, safeInternalPath_passes h, (internalPath_ofScalars h.backslash_not_mem).mpr hopens, ?_⟩
    rw [safeInternalPath_passes hagain, normalPath_normalPath]

theorem keepsToOrigin_fallback {given : Option JsString} (hgiven : safeInternalPath parseHost given fallback = some fallback)
    (hfallback : InternalPath parseHost fallback) :
    KeepsToOrigin parseHost given fallback ↔ (PassesChecks fallback → normalPath fallback = fallback) := by
  constructor
  · rintro ⟨path, hpath, -, hagain⟩ hpasses
    rw [hgiven, Option.some.injEq] at hpath
    subst hpath
    rw [safeInternalPath_passes hpasses, Option.some.injEq] at hagain
    exact hagain
  · intro hnormal
    refine ⟨fallback, hgiven, hfallback, ?_⟩
    by_cases hpasses : PassesChecks fallback
    · rw [safeInternalPath_passes hpasses, hnormal hpasses]
    · exact safeInternalPath_fails hpasses

/-- What passes the checks keeps to its origin unless its path, without the dot segments, starts with two slashes. For
all else the fallback is returned, which has to be written as the parser would write it if it passes the checks. -/
theorem safeInternalPath_exact (parseHost : List Char → Option String) (given : Option JsString) (fallback : JsString)
    (hfallback : InternalPath parseHost fallback) :
    KeepsToOrigin parseHost given fallback ↔
      (∀ value, given = some value → PassesChecks value → ¬ OpensAuthority (readTail value)) ∧
        ((∀ value, given = some value → ¬ PassesChecks value) → PassesChecks fallback → normalPath fallback = fallback) := by
  match given with
  | none =>
    rw [keepsToOrigin_fallback rfl hfallback]
    constructor
    · exact fun hnormal => ⟨fun _ h => (by cases h), fun _ => hnormal⟩
    · exact fun h => h.2 fun _ h => by cases h
  | some value =>
    by_cases hpasses : PassesChecks value
    · rw [keepsToOrigin_passes hpasses]
      constructor
      · intro hopens
        constructor
        · intro text htext _
          obtain rfl : value = text := Option.some.inj htext
          exact hopens
        · exact fun hfails => absurd hpasses (hfails value rfl)
      · exact fun h => h.1 value rfl hpasses
    · rw [keepsToOrigin_fallback (safeInternalPath_fails hpasses) hfallback]
      constructor
      · intro hnormal
        refine ⟨fun text htext hpassed => ?_, fun _ => hnormal⟩
        obtain rfl : value = text := Option.some.inj htext
        exact absurd hpassed hpasses
      · exact fun h => h.2 fun _ h => by cases h; exact hpasses

end Results

def plainHost (text : List Char) : Option String :=
  some (String.ofList text)

def appPath : JsString :=
  JsString.ofScalars ['/', 'a', 'p', 'p']

theorem internalPath_appPath (parseHost : List Char → Option String) : InternalPath parseHost appPath := by
  intro origin
  have hstripped : stripInput appPath.scalars = '/' :: ['a', 'p', 'p'] := by decide
  exact staysOn_path hstripped (fun c hc => by cases hc; decide) origin

/-- `/./team?from=email` -/
def teamPath : JsString :=
  JsString.ofScalars ['/', '.', '/', 't', 'e', 'a', 'm', '?', 'f', 'r', 'o', 'm', '=', 'e', 'm', 'a', 'i', 'l']

theorem safeInternalPath_exact_team : KeepsToOrigin plainHost (some teamPath) appPath := by
  apply (safeInternalPath_exact plainHost (some teamPath) appPath (internalPath_appPath plainHost)).mpr
  have hpath : (readTail teamPath).path = [['t', 'e', 'a', 'm']] := by decide +kernel
  constructor
  · intro value hvalue _ hopens
    obtain rfl : teamPath = value := Option.some.inj hvalue
    obtain ⟨segment, rest, hsegments⟩ := hopens
    rw [hpath] at hsegments
    cases hsegments
  · intro hfails
    exact absurd ⟨by decide +kernel, by decide +kernel, by decide +kernel, by decide +kernel⟩ (hfails teamPath rfl)

/-- `/.//evil.com` -/
def dottedPath : JsString :=
  JsString.ofScalars ['/', '.', '/', '/', 'e', 'v', 'i', 'l', '.', 'c', 'o', 'm']

/-- The path `/.//evil.com` passes the checks and is returned as `//evil.com`, which leads to another host. -/
theorem safeInternalPath_leaves :
    InternalPath plainHost appPath ∧ ¬ KeepsToOrigin plainHost (some dottedPath) appPath ∧
      safeInternalPath plainHost (some dottedPath) appPath =
        some (JsString.ofScalars ['/', '/', 'e', 'v', 'i', 'l', '.', 'c', 'o', 'm']) ∧
      (resolveRooted plainHost internalBase ['/', '/', 'e', 'v', 'i', 'l', '.', 'c', 'o', 'm']).map (fun url => url.origin.host) =
        some "evil.com" := by
  have hpasses : PassesChecks dottedPath := ⟨by decide +kernel, by decide +kernel, by decide +kernel, by decide +kernel⟩
  have hpath : (readTail dottedPath).path = [[], ['e', 'v', 'i', 'l', '.', 'c', 'o', 'm']] := by decide +kernel
  have htext : normalPath dottedPath = JsString.ofScalars ['/', '/', 'e', 'v', 'i', 'l', '.', 'c', 'o', 'm'] := by decide +kernel
  refine ⟨internalPath_appPath plainHost, ?_, ?_, by decide +kernel⟩
  · rw [keepsToOrigin_passes hpasses]
    exact fun hopens => hopens ⟨_, _, hpath⟩
  · rw [safeInternalPath_passes hpasses, htext]

end ByokGrid
