import ByokGrid.EndpointPolicy
import ByokGrid.Store

/-! When an accepted endpoint carries a secret: the scanner and the parser read different texts. -/

namespace ByokGrid

theorem eq_of_toLower {c d : Char} (h : c.toLower = d) (hd : ¬ (97 ≤ d.toNat ∧ d.toNat ≤ 122)) : c = d := by
  unfold Char.toLower at h
  split at h
  · rename_i hupper
    exfalso
    apply hd
    have hlow : 65 ≤ c.val.toNat := hupper.1
    have hhigh : c.val.toNat ≤ 90 := hupper.2
    have hcode : d.toNat = c.val.toNat + 32 := by
      rw [← h]
      show (c.val + 32).toNat = _
      rw [UInt32.toNat_add]
      have hsmall : (32 : UInt32).toNat = 32 := rfl
      omega
    omega
  · exact h

structure OpensHttps (value rest : List Char) : Prop where
  front : ∃ scheme : List Char, scheme.map Char.toLower = ['h', 't', 't', 'p', 's', ':'] ∧ value = scheme ++ '/' :: '/' :: rest

theorem opensHttps_of_lower {value : List Char}
    (h : (value.take 8).map Char.toLower = ['h', 't', 't', 'p', 's', ':', '/', '/']) : OpensHttps value (value.drop 8) := by
  obtain ⟨scheme, slashes, hfront, hscheme, hslashes⟩ :=
    List.map_eq_append_iff.mp (h.trans (show _ = ['h', 't', 't', 'p', 's', ':'] ++ ['/', '/'] from rfl))
  obtain ⟨first, later, rfl, hfirst, hlater⟩ := List.map_eq_cons_iff.mp hslashes
  obtain ⟨second, rest, rfl, hsecond, hrest⟩ := List.map_eq_cons_iff.mp hlater
  obtain rfl := eq_of_toLower hfirst (by decide)
  obtain rfl := eq_of_toLower hsecond (by decide)
  obtain rfl := List.map_eq_nil_iff.mp hrest
  refine ⟨scheme, hscheme, ?_⟩
  conv_lhs => rw [← List.take_append_drop 8 value, hfront, List.append_assoc]
  rfl

theorem scheme_chars {scheme : List Char} (h : scheme.map Char.toLower = ['h', 't', 't', 'p', 's', ':']) :
    ∀ c ∈ scheme, 0x20 < c.toNat ∧ c ≠ '+' ∧ c ≠ '/' ∧ inPath c = true := by
  intro c hc
  have hlower : c.toLower ∈ ['h', 't', 't', 'p', 's', ':'] := h ▸ List.mem_map_of_mem hc
  refine ⟨?_, ?_, ?_, ?_⟩
  · by_contra hcode
    have hself : c.toLower = c := by
      unfold Char.toLower
      rw [dif_neg]
      intro hupper
      have hlow : 65 ≤ c.toNat := hupper.1
      omega
    rw [hself] at hlower
    simp only [List.mem_cons, List.not_mem_nil, or_false] at hlower
    rcases hlower with rfl | rfl | rfl | rfl | rfl | rfl <;> exact hcode (by decide)
  · rintro rfl
    revert hlower
    decide
  · rintro rfl
    revert hlower
    decide
  · rw [inPath, Bool.not_eq_true', Bool.or_eq_false_iff, beq_eq_false_iff_ne, beq_eq_false_iff_ne]
    constructor <;> (rintro rfl; revert hlower; decide)

theorem afterDoubleSlash_append {front : List Char} (h : ∀ c ∈ front, c ≠ '/') (rest : List Char) :
    afterDoubleSlash (front ++ '/' :: '/' :: rest) = some rest := by
  induction front with
  | nil => rfl
  | cons c front ih =>
    rw [List.cons_append, afterDoubleSlash, ih fun d hd => h d (List.mem_cons_of_mem c hd)]
    exact fun _ hc => absurd hc (h c List.mem_cons_self)

theorem OpensHttps.stripped {value rest : List Char} (h : OpensHttps value rest) :
    ∃ kept, OpensHttps (stripInput value) kept ∧ Thinned rest kept ∧ (stripInput value).drop 8 = kept ∧
      readScheme (stripInput value) = some (.https, '/' :: '/' :: kept) := by
  obtain ⟨scheme, hscheme, rfl⟩ := h.front
  have hchars := scheme_chars hscheme
  have hfront : ∀ c ∈ scheme ++ ['/', '/'], ¬ (c.toNat ≤ 0x20 ∨ c = '+') := by
    intro c hc
    rcases List.mem_append.mp hc with hc | hc
    · have hcodes := hchars c hc
      rintro (hlow | hplus)
      · omega
      · exact hcodes.2.1 hplus
    · simp only [List.mem_cons, List.not_mem_nil, or_false, or_self] at hc
      subst hc
      decide
  have hthinned := Thinned.stripInput (scheme ++ '/' :: '/' :: rest)
  rw [show scheme ++ '/' :: '/' :: rest = (scheme ++ ['/', '/']) ++ rest from by rw [List.append_assoc]; rfl] at hthinned ⊢
  obtain ⟨kept, hkept, hrest⟩ := Thinned.front hfront hthinned
  rw [hkept]
  have hlength : scheme.length = 6 := by
    have hmapped := congrArg List.length hscheme
    rwa [List.length_map] at hmapped
  have htext : (scheme ++ ['/', '/']) ++ kept = scheme ++ '/' :: '/' :: kept := by
    rw [List.append_assoc]
    rfl
  refine ⟨kept, ⟨scheme, hscheme, htext⟩, hrest, ?_, ?_⟩
  · exact List.drop_left' (by rw [List.length_append, hlength]; rfl)
  · have hhttp : ((scheme ++ '/' :: '/' :: kept).take 5).map Char.toLower ≠ WebScheme.http.text := by
      rw [List.take_append_of_le_length (by omega), List.map_take, hscheme]
      decide
    have hhttps : ((scheme ++ '/' :: '/' :: kept).take 6).map Char.toLower = WebScheme.https.text := by
      rw [List.take_append_of_le_length (by omega), List.map_take, hscheme]
      rfl
    have hdrop : (scheme ++ '/' :: '/' :: kept).drop 6 = '/' :: '/' :: kept := List.drop_left' hlength
    rw [htext, readScheme, if_neg hhttp, if_pos hhttps, hdrop]

theorem dropSlash_subset (text : List Char) : ∀ c ∈ dropSlash text, c ∈ text := by
  cases text with
  | nil => exact fun _ h => h
  | cons d text =>
    intro c hc
    rw [dropSlash] at hc
    split at hc
    · exact List.mem_cons_of_mem d hc
    · exact hc

theorem getD_queryText {text : List Char} (h : '#' ∉ text) : (queryText text).getD [] = (text.dropWhile (· != '?')).drop 1 := by
  induction text with
  | nil => rfl
  | cons c text ih =>
    have htext : '#' ∉ text := fun hmem => h (List.mem_cons_of_mem c hmem)
    by_cases hc : c = '?'
    · subst hc
      have hall : ∀ d ∈ text, (d != '#') = true := by
        intro d hd
        rw [bne_iff_ne]
        rintro rfl
        exact htext hd
      show text.takeWhile (· != '#') = text
      exact List.takeWhile_eq_self_iff.mpr hall
    · have hhash : c ≠ '#' := fun heq => h (heq ▸ List.mem_cons_self)
      have hpath : inPath c = true := by
        rw [inPath, Bool.not_eq_true', Bool.or_eq_false_iff, beq_eq_false_iff_ne, beq_eq_false_iff_ne]
        exact ⟨hc, hhash⟩
      have hsame : queryText (c :: text) = queryText text := by
        rw [queryText, List.dropWhile_cons_of_pos hpath]
        rfl
      rw [hsame, ih htext, List.dropWhile_cons_of_pos (p := fun d => d != '?') (bne_iff_ne.mpr hc)]

theorem isSlash_inPath {c : Char} (h : isSlash c = true) : inPath c = true := by
  rw [isSlash, Bool.or_eq_true, beq_iff_eq, beq_iff_eq] at h
  rcases h with rfl | rfl <;> decide

theorem inAuthority_inPath {c : Char} (h : inAuthority c = true) : inPath c = true := by
  simp only [inAuthority, inPath, Bool.not_eq_true', Bool.or_eq_false_iff] at h ⊢
  exact ⟨h.1.2, h.2⟩

theorem dropWhile_inPath_dropSlash (text : List Char) : (dropSlash text).dropWhile inPath = text.dropWhile inPath := by
  cases text with
  | nil => rfl
  | cons c text =>
    rw [dropSlash]
    by_cases hslash : isSlash c = true
    · rw [if_pos hslash, List.dropWhile_cons_of_pos (isSlash_inPath hslash)]
    · rw [if_neg hslash]

theorem dropWhile_dropWhile {first second : Char → Bool} (h : ∀ c, first c = true → second c = true) (text : List Char) :
    (text.dropWhile first).dropWhile second = text.dropWhile second := by
  induction text with
  | nil => rfl
  | cons c text ih =>
    by_cases hc : first c = true
    · rw [List.dropWhile_cons_of_pos hc, List.dropWhile_cons_of_pos (h c hc), ih]
    · rw [List.dropWhile_cons_of_neg hc]

theorem mem_of_forall₂ {first second : List (List Char)} (h : List.Forall₂ Thinned first second) {part : List Char}
    (hpart : part ∈ second) : ∃ source ∈ first, Thinned source part := by
  induction h with
  | nil => exact absurd hpart List.not_mem_nil
  | cons hhead _ ih =>
    rcases List.mem_cons.mp hpart with rfl | hpart
    · exact ⟨_, List.mem_cons_self, hhead⟩
    · obtain ⟨source, hsource, hthinned⟩ := ih hpart
      exact ⟨source, List.mem_cons_of_mem _ hsource, hthinned⟩

def withoutPlus (text : List Char) : List Char :=
  text.filter (· != '+')

def Piece.notPlus : Piece → Bool
  | .literal c => c != '+'
  | .escape _ _ => true

theorem withoutPlus_pieces {pieces : List Piece} (h : ∀ piece ∈ pieces, piece.Fits) :
    withoutPlus (pieces.flatMap Piece.text) = (pieces.filter Piece.notPlus).flatMap Piece.text := by
  induction pieces with
  | nil => rfl
  | cons piece pieces ih =>
    have hlater := ih fun later hlater => h later (List.mem_cons_of_mem _ hlater)
    have hpiece := h piece List.mem_cons_self
    rw [List.flatMap_cons, withoutPlus, List.filter_append]
    rw [withoutPlus] at hlater
    rw [hlater]
    cases piece with
    | literal c =>
      by_cases hc : c = '+'
      · subst hc
        rfl
      · have hkept : Piece.notPlus (.literal c) = true := bne_iff_ne.mpr hc
        rw [List.filter_cons_of_pos hkept]
        show [c].filter (· != '+') ++ _ = _
        rw [List.filter_singleton, bne_iff_ne.mpr hc]
        rfl
    | escape c used =>
      have hused : used.filter (· != '+') = used :=
        List.filter_eq_self.mpr fun d hd => bne_iff_ne.mpr (Piece.escape_chars hpiece d hd).codes.2.1
      show used.filter (· != '+') ++ _ = _
      rw [hused]
      rfl

theorem isParameterName_chars {name : List Char} (h : isParameterName name = true) :
    name ≠ [] ∧ ' ' ∉ name ∧ '+' ∉ name := by
  cases name with
  | nil => cases h
  | cons c cs =>
    rw [isParameterName, Bool.and_eq_true, Bool.and_eq_true] at h
    obtain ⟨⟨hfirst, -⟩, hrest⟩ := h
    have hchars : ∀ d ∈ c :: cs, isNameChar d = true := by
      intro d hd
      rcases List.mem_cons.mp hd with rfl | hd
      · rw [isNameChar, Char.isAlphanum, hfirst]
        rfl
      · exact List.all_eq_true.mp hrest d hd
    refine ⟨List.cons_ne_nil _ _, fun hmem => ?_, fun hmem => ?_⟩
    · exact absurd (hchars _ hmem) (by decide)
    · exact absurd (hchars _ hmem) (by decide)

theorem hasQueryParameter_eq_false {value parameter part : List Char} (h : hasQueryParameter value parameter = false)
    (hpart : part ∈ queryParts (scannedQuery value)) (hnonempty : part ≠ []) :
    decodeURIComponent (partName part) ≠ some parameter := by
  intro hdecoded
  unfold hasQueryParameter at h
  rw [Bool.and_eq_false_iff] at h
  rcases h with h | h
  · rw [decide_eq_false_iff_not, not_not] at h
    rw [h] at hpart
    exact hnonempty (List.mem_singleton.mp hpart)
  · have hnot := List.any_eq_false.mp h part hpart
    rw [hdecoded] at hnot
    exact hnot (decide_eq_true rfl)

section Accepted

variable [AddressRuntime] {subject : String} {text value rest : List Char} {url : WebUrl}

structure AcceptedEndpoint (value : List Char) : Prop where
  https : OpensHttps value (value.drop 8)
  no_credentials : '@' ∉ scannedAuthority value
  no_fragment : '#' ∉ value
  no_secret : hasSensitiveQueryParameter value = false

theorem endpointIssues_eq_nil (h : endpointIssues subject value = []) : AcceptedEndpoint value := by
  simp only [endpointIssues, List.append_eq_nil_iff, ite_eq_left_iff, ite_eq_right_iff, List.cons_ne_nil, imp_false,
    Bool.not_eq_true, Bool.not_eq_false, List.contains_eq_mem, decide_eq_false_iff_not] at h
  obtain ⟨⟨⟨hhttps, hcredentials⟩, hfragment⟩, hsecret⟩ := h
  exact ⟨opensHttps_of_lower (AddressRuntime.lower_https value hhttps), hcredentials, hfragment, hsecret⟩

theorem vaultSafe_eq_ok (h : vaultSafeHttpsUrlSchema subject text = .ok value) :
    AcceptedEndpoint value ∧ ∃ url, parseWebUrl AddressRuntime.parseHost value = some url := by
  unfold vaultSafeHttpsUrlSchema at h
  split at h
  · cases h
  · rename_i passed hpassed
    split at h
    · rename_i hissues
      cases h
      have haccepted := endpointIssues_eq_nil hissues
      obtain ⟨kept, -, -, -, hscheme⟩ := haccepted.https.stripped
      have hparses := AddressRuntime.parseUrlText_parses text value hpassed (by rw [hscheme]; rfl)
      exact ⟨haccepted, Option.isSome_iff_exists.mp hparses⟩
    · cases h

def SkipsSlash (value : List Char) : Prop :=
  '/' ∈ ((stripInput value).drop 8).takeWhile isSlash

def credentialsText (value : List Char) : List Char :=
  (splitCredentials ((((stripInput value).drop 8).dropWhile isSlash).takeWhile inAuthority)).1

def questionParts (text : List Char) : List (List Char) :=
  (queryParts ((text.dropWhile (· != '?')).drop 1)).filter (· ≠ [])

structure ParsedEndpoint (value : List Char) (url : WebUrl) : Prop where
  https : url.origin.scheme = .https
  host : ∃ hostText, AddressRuntime.parseHost hostText = some url.origin.host
  username : url.username = userinfoSet.encode ((credentialsText value).takeWhile (· != ':'))
  password : url.password = userinfoSet.encode (((credentialsText value).dropWhile (· != ':')).drop 1)
  tail : url.tail = parseTail (dropSlash ((((stripInput value).drop 8).dropWhile isSlash).dropWhile inAuthority))

theorem AcceptedEndpoint.parsed (h : AcceptedEndpoint value) (hurl : parseWebUrl AddressRuntime.parseHost value = some url) :
    ParsedEndpoint value url := by
  obtain ⟨kept, -, -, hkept, hscheme⟩ := h.https.stripped
  rw [parseWebUrl, hscheme, Option.bind_eq_bind, Option.bind_some] at hurl
  obtain ⟨hhttps, hhost, husername, hpassword, htail⟩ := parseAuthority_eq_some hurl
  have hslashes : ('/' :: '/' :: kept).dropWhile isSlash = kept.dropWhile isSlash := rfl
  rw [hslashes] at husername hpassword htail
  subst hkept
  exact ⟨hhttps, hhost, husername, hpassword, htail⟩

theorem AcceptedEndpoint.fragment (h : AcceptedEndpoint value) (hurl : ParsedEndpoint value url) : url.tail.fragment = none := by
  have hnone : ∀ c ∈ dropSlash ((((stripInput value).drop 8).dropWhile isSlash).dropWhile inAuthority), (c != '#') = true := by
    intro c hc
    have hmem : c ∈ stripInput value :=
      List.drop_subset 8 _ (List.dropWhile_subset _ (List.dropWhile_subset _ (dropSlash_subset _ c hc)))
    rw [bne_iff_ne]
    rintro rfl
    exact h.no_fragment ((Thinned.stripInput value).subset _ hmem)
  rw [hurl.tail]
  show (fragmentText _).map _ = none
  rw [fragmentText, List.dropWhile_eq_nil_iff.mpr hnone]
  rfl

theorem AcceptedEndpoint.credentials (h : AcceptedEndpoint value) (hskips : ¬ SkipsSlash value) : credentialsText value = [] := by
  obtain ⟨kept, -, hthinned, hkept, -⟩ := h.https.stripped
  obtain ⟨scheme, hscheme, hvalue⟩ := h.https.front
  have hscanned : scannedAuthority value = (value.drop 8).takeWhile inScanned := by
    conv_lhs => rw [hvalue]
    rw [scannedAuthority, afterDoubleSlash_append fun c hc => (scheme_chars hscheme c hc).2.2.1]
    rfl
  have hat : '@' ∉ kept.takeWhile inScanned := by
    intro hmem
    have hthin := hthinned.takeWhile fun c (hc : inScanned c = false) => by
      simp only [inScanned, Bool.not_eq_false', Bool.or_eq_true, beq_iff_eq] at hc
      rcases hc with (rfl | rfl) | rfl <;> decide
    exact h.no_credentials (hscanned ▸ hthin.subset _ hmem)
  have hnone : ∀ c ∈ (kept.dropWhile isSlash).takeWhile inAuthority, c ≠ '@' := by
    rintro c hc rfl
    apply hat
    -- only backslashes are skipped
    have hbackslashes : ∀ c ∈ kept.takeWhile isSlash, inScanned c = true := by
      intro c hc
      have hslash := List.mem_takeWhile_imp hc
      have hne : c ≠ '/' := by
        rintro rfl
        exact hskips (by rw [SkipsSlash, hkept]; exact hc)
      simp only [isSlash, Bool.or_eq_true, beq_iff_eq] at hslash
      rw [hslash.resolve_left hne]
      decide
    rw [← List.takeWhile_append_dropWhile (l := kept) (p := isSlash), List.takeWhile_append_of_pos hbackslashes]
    apply List.mem_append_right
    have hinside : ∀ text : List Char, '@' ∈ text.takeWhile inAuthority →
        '@' ∈ text.takeWhile inScanned := by
      intro text
      induction text with
      | nil => exact id
      | cons d text ih =>
        intro hmem
        by_cases hd : inAuthority d = true
        · have hkeeps : inScanned d = true := by
            simp only [inScanned, inAuthority, isSlash, Bool.not_eq_true', Bool.or_eq_false_iff] at hd ⊢
            exact ⟨⟨hd.1.1.1, hd.1.2⟩, hd.2⟩
          rw [List.takeWhile_cons_of_pos hd] at hmem
          rw [List.takeWhile_cons_of_pos hkeeps]
          rcases List.mem_cons.mp hmem with rfl | hmem
          · exact List.mem_cons_self
          · exact List.mem_cons_of_mem d (ih hmem)
        · rw [List.takeWhile_cons_of_neg hd] at hmem
          exact absurd hmem List.not_mem_nil
    exact hinside _ hc
  rw [credentialsText, hkept, splitCredentials_none hnone]

theorem AcceptedEndpoint.stripped_no_hash (h : AcceptedEndpoint value) : '#' ∉ stripInput value :=
  fun hmem => h.no_fragment ((Thinned.stripInput value).subset _ hmem)

theorem AcceptedEndpoint.query (h : AcceptedEndpoint value) (hurl : ParsedEndpoint value url) :
    url.tail.query = (queryText (stripInput value)).map specialQuerySet.encode := by
  obtain ⟨kept, hopens, -, hkept, -⟩ := h.https.stripped
  obtain ⟨scheme, hscheme, hstripped⟩ := hopens.front
  have hfront : ∀ c ∈ scheme ++ ['/', '/'], inPath c = true := by
    intro c hc
    rcases List.mem_append.mp hc with hc | hc
    · exact (scheme_chars hscheme c hc).2.2.2
    · simp only [List.mem_cons, List.not_mem_nil, or_false, or_self] at hc
      subst hc
      decide
  have hwhole : (stripInput value).dropWhile inPath = kept.dropWhile inPath := by
    rw [hstripped, show scheme ++ '/' :: '/' :: kept = (scheme ++ ['/', '/']) ++ kept from by rw [List.append_assoc]; rfl,
      List.dropWhile_append_of_pos hfront]
  have hbehind : (dropSlash ((kept.dropWhile isSlash).dropWhile inAuthority)).dropWhile inPath = kept.dropWhile inPath := by
    rw [dropWhile_inPath_dropSlash, dropWhile_dropWhile fun _ => inAuthority_inPath, dropWhile_dropWhile fun _ => isSlash_inPath]
  rw [hurl.tail, hkept]
  show (queryText _).map _ = _
  rw [queryText, hbehind, ← hwhole]
  rfl

theorem AcceptedEndpoint.searchParams (h : AcceptedEndpoint value) (hurl : ParsedEndpoint value url) :
    url.searchParams = (questionParts (stripInput value)).map fun part =>
      (formDecode AddressRuntime.decodeInvalid (specialQuerySet.encode (partName part)),
        formDecode AddressRuntime.decodeInvalid (partValue (specialQuerySet.encode part))) := by
  have hquery : url.tail.query.getD [] = specialQuerySet.encode (((stripInput value).dropWhile (· != '?')).drop 1) := by
    rw [h.query hurl, ← getD_queryText h.stripped_no_hash]
    cases queryText (stripInput value) <;> rfl
  have hfilter : ∀ parts : List (List Char),
      (parts.map specialQuerySet.encode).filter (· ≠ []) = (parts.filter (· ≠ [])).map specialQuerySet.encode := by
    intro parts
    rw [List.filter_map]
    congr 1
    apply List.filter_congr
    intro part _
    simp only [Function.comp_apply, ne_eq, EncodeSet.encode_eq_nil]
  rw [WebUrl.searchParams, readForm, hquery, queryParts_encode, hfilter, List.map_map, questionParts]
  apply List.map_congr_left
  intro part _
  rw [Function.comp_apply, partName_encode]

theorem AcceptedEndpoint.scanned (h : AcceptedEndpoint value) {part : List Char} (hpart : part ∈ questionParts value) :
    ∃ name, decodeURIComponent (partName part) = some name ∧ isSensitiveName name = false := by
  have hsecret := h.no_secret
  rw [questionParts, List.mem_filter] at hpart
  unfold hasSensitiveQueryParameter at hsecret
  cases hquery : value.dropWhile (· != '?') with
  | nil =>
    rw [hquery] at hpart
    obtain ⟨hmem, hnonempty⟩ := hpart
    rw [List.mem_singleton.mp (show part ∈ [[]] from hmem)] at hnonempty
    cases hnonempty
  | cons mark rest =>
    have hrest : rest.takeWhile (· != '#') = rest := by
      rw [List.takeWhile_eq_self_iff]
      intro c hc
      rw [bne_iff_ne]
      rintro rfl
      exact h.no_fragment (List.dropWhile_subset _ (hquery ▸ List.mem_cons_of_mem mark hc))
    rw [hquery] at hsecret hpart
    simp only [hrest, List.any_eq_false] at hsecret
    have hnot := hsecret part hpart.1
    cases hdecoded : decodeURIComponent (partName part) with
    | none => rw [hdecoded] at hnot; exact absurd rfl hnot
    | some name =>
      rw [hdecoded] at hnot
      exact ⟨name, rfl, Bool.eq_false_iff.mpr hnot⟩

theorem AcceptedEndpoint.pieces (h : AcceptedEndpoint value) {part : List Char} (hpart : part ∈ questionParts (stripInput value)) :
    ∃ pieces : List Piece, (∀ piece ∈ pieces, piece.Fits) ∧ pieces.flatMap Piece.text = partName part := by
  obtain ⟨hmem, hnonempty⟩ := List.mem_filter.mp hpart
  have hquestion := (Thinned.stripInput value).dropWhile fun c (hc : (c != '?') = false) => by
    rw [bne_eq_false_iff_eq] at hc
    subst hc
    decide
  have hquery : Thinned ((value.dropWhile (· != '?')).drop 1) (((stripInput value).dropWhile (· != '?')).drop 1) := by
    generalize (stripInput value).dropWhile (· != '?') = left at hquestion ⊢
    cases hraw : value.dropWhile (· != '?') with
    | nil =>
      rw [hraw] at hquestion
      cases hquestion
      exact .nil
    | cons mark rest =>
      have hmark : mark = '?' := by
        have hhead := List.head?_dropWhile_not (· != '?') value
        rw [hraw] at hhead
        exact bne_eq_false_iff_eq.mp hhead
      subst hmark
      rw [hraw] at hquestion
      cases hquestion with
      | keep _ hkept => exact hkept
      | drop _ hdrop _ => exact absurd hdrop (by decide)
  have hparts := hquery.splitOnP fun c (hc : (c == '&') = true) => by
    rw [beq_iff_eq] at hc
    subst hc
    decide
  obtain ⟨source, hsource, hthinned⟩ := mem_of_forall₂ hparts hmem
  have hscanned : source ∈ questionParts value := by
    refine List.mem_filter.mpr ⟨hsource, decide_eq_true ?_⟩
    rintro rfl
    cases hthinned
    exact absurd hnonempty (by decide)
  obtain ⟨name, hname, -⟩ := h.scanned hscanned
  obtain ⟨pieces, hpieces, htext, -⟩ := decodeURIComponent_eq_some.mp hname
  have hnames := hthinned.takeWhile fun c (hc : (c != '=') = false) => by
    rw [bne_eq_false_iff_eq] at hc
    subst hc
    decide
  exact Thinned.pieces hpieces (htext ▸ hnames)

structure CarriesNoSecrets (url : WebUrl) : Prop where
  https : url.origin.scheme = .https
  username : url.username = []
  password : url.password = []
  fragment : url.tail.fragment = none
  names : ∀ pair ∈ url.searchParams, isSensitiveName pair.1 = false

/-- A name which the scanner has not read as the parser does: one with a plus sign, or in a part which is not in the
text that was scanned. -/
def Misread (value part : List Char) : Prop :=
  '+' ∈ partName part ∨ part ∉ questionParts value

/-- Behind more slashes no credentials stand, and of the names that were misread none is sensitive without its plus
signs. -/
structure ReadAlike (value : List Char) : Prop where
  credentials : SkipsSlash value → credentialsText value = [] ∨ credentialsText value = [':']
  names : ∀ part ∈ questionParts (stripInput value), Misread value part →
    ∀ name, decodeURIComponent (withoutPlus (partName part)) = some name → isSensitiveName name = false

theorem normalizedName_formChar (pieces : List Piece) :
    normalizedName (pieces.map Piece.formChar) = normalizedName ((pieces.filter Piece.notPlus).map Piece.char) := by
  unfold normalizedName
  congr 1
  induction pieces with
  | nil => rfl
  | cons piece pieces ih =>
    by_cases hplus : piece = .literal '+'
    · subst hplus
      exact ih
    · have hkept : piece.notPlus = true ∧ piece.formChar = piece.char := by
        cases piece with
        | literal c =>
          have hc : c ≠ '+' := fun heq => hplus (congrArg Piece.literal heq)
          exact ⟨bne_iff_ne.mpr hc, if_neg hc⟩
        | escape c used => exact ⟨rfl, rfl⟩
      rw [List.filter_cons_of_pos hkept.1, List.map_cons, List.map_cons, List.filter_cons, List.filter_cons, hkept.2, ih]

theorem isSensitiveName_formDecode {part : List Char} {pieces : List Piece} (hpieces : ∀ piece ∈ pieces, piece.Fits)
    (htext : pieces.flatMap Piece.text = partName part) :
    ∃ name, decodeURIComponent (withoutPlus (partName part)) = some name ∧
      isSensitiveName (formDecode AddressRuntime.decodeInvalid (specialQuerySet.encode (partName part))) = isSensitiveName name := by
  have hkept : ∀ piece ∈ pieces.filter Piece.notPlus, piece.Fits := fun piece hpiece => hpieces piece (List.mem_filter.mp hpiece).1
  refine ⟨(pieces.filter Piece.notPlus).map Piece.char, ?_, ?_⟩
  · exact decodeURIComponent_eq_some.mpr ⟨_, hkept, by rw [← htext, withoutPlus_pieces hpieces], rfl⟩
  · rw [← htext, formDecode_pieces hpieces, isSensitiveName, isSensitiveName, normalizedName_formChar]

theorem AcceptedEndpoint.username_password (hurl : ParsedEndpoint value url) :
    url.username = [] ∧ url.password = [] ↔ credentialsText value = [] ∨ credentialsText value = [':'] := by
  rw [hurl.username, hurl.password, EncodeSet.encode_eq_nil, EncodeSet.encode_eq_nil]
  cases credentialsText value with
  | nil => exact ⟨fun _ => .inl rfl, fun _ => ⟨rfl, rfl⟩⟩
  | cons c rest =>
    by_cases hc : c = ':'
    · subst hc
      show _ ∧ rest = [] ↔ _
      constructor
      · rintro ⟨-, rfl⟩
        exact .inr rfl
      · rintro (hnil | hcolon)
        · cases hnil
        · cases hcolon
          exact ⟨rfl, rfl⟩
    · rw [List.takeWhile_cons_of_pos (p := fun d => d != ':') (bne_iff_ne.mpr hc)]
      constructor
      · rintro ⟨hnil, -⟩
        cases hnil
      · rintro (hnil | hcolon)
        · cases hnil
        · exact absurd (List.cons.inj hcolon).1 hc

theorem AcceptedEndpoint.carriesNoSecrets (h : AcceptedEndpoint value) (hurl : ParsedEndpoint value url) :
    CarriesNoSecrets url ↔ ReadAlike value := by
  have hparams := h.searchParams hurl
  constructor
  · intro hclean
    refine ⟨fun _ => (AcceptedEndpoint.username_password hurl).mp ⟨hclean.username, hclean.password⟩, ?_⟩
    intro part hpart _ name hname
    obtain ⟨pieces, hpieces, htext⟩ := h.pieces hpart
    obtain ⟨other, hother, hsame⟩ := isSensitiveName_formDecode hpieces htext
    obtain rfl : other = name := Option.some.inj (hother.symm.trans hname)
    rw [← hsame]
    exact hclean.names _ (hparams ▸ List.mem_map_of_mem hpart)
  · intro halike
    have hcredentials : credentialsText value = [] ∨ credentialsText value = [':'] := by
      by_cases hskips : SkipsSlash value
      · exact halike.credentials hskips
      · exact .inl (h.credentials hskips)
    obtain ⟨husername, hpassword⟩ := (AcceptedEndpoint.username_password hurl).mpr hcredentials
    refine ⟨hurl.https, husername, hpassword, h.fragment hurl, ?_⟩
    intro pair hpair
    rw [hparams] at hpair
    obtain ⟨part, hpart, rfl⟩ := List.mem_map.mp hpair
    obtain ⟨pieces, hpieces, htext⟩ := h.pieces hpart
    obtain ⟨name, hname, hsame⟩ := isSensitiveName_formDecode hpieces htext
    rw [hsame]
    by_cases hmisread : Misread value part
    · exact halike.names part hpart hmisread name hname
    · -- the scanner has read the name as it is
      simp only [Misread, not_or, not_not] at hmisread
      obtain ⟨hplus, hscanned⟩ := hmisread
      have hsamename : withoutPlus (partName part) = partName part :=
        List.filter_eq_self.mpr fun c hc => bne_iff_ne.mpr fun heq => hplus (heq ▸ hc)
      obtain ⟨scanned, hdecoded, hharmless⟩ := h.scanned hscanned
      rw [hsamename, hdecoded, Option.some.injEq] at hname
      rw [← hname]
      exact hharmless

structure PagesByCursor (value : List Char) (url : WebUrl) (parameter : List Char) : Prop where
  absent : ∀ pair ∈ url.searchParams, pair.1 ≠ parameter
  pages : ∀ cursor, ∃ text page, sourcePageUrl ⟨value, true, some parameter⟩ (some cursor) = .ok text ∧
    parseWebUrl AddressRuntime.parseHost text = some page ∧ page.searchParams = url.searchParams ++ [(parameter, cursor)]

def CursorScanned (value parameter : List Char) : Prop :=
  ∀ part ∈ questionParts (stripInput value), part ∉ queryParts (scannedQuery value) →
    decodeURIComponent (partName part) ≠ some parameter

theorem cursorParameterSchema_eq_ok {given parameter : List Char} (h : cursorParameterSchema given = .ok parameter) :
    isParameterName parameter = true := by
  unfold cursorParameterSchema at h
  split at h
  · cases h
  · rename_i hname
    split at h
    · cases h
    · cases h
      exact Bool.not_eq_false _ ▸ hname

theorem formDecode_eq_iff {part parameter : List Char} {pieces : List Piece} (hpieces : ∀ piece ∈ pieces, piece.Fits)
    (htext : pieces.flatMap Piece.text = partName part) (hspace : ' ' ∉ parameter) (hplus : '+' ∉ parameter) :
    formDecode AddressRuntime.decodeInvalid (specialQuerySet.encode (partName part)) = parameter ↔
      decodeURIComponent (partName part) = some parameter := by
  have hdecoded : decodeURIComponent (partName part) = some (pieces.map Piece.char) :=
    decodeURIComponent_eq_some.mpr ⟨pieces, hpieces, htext, rfl⟩
  have hsame : Piece.literal '+' ∉ pieces → pieces.map Piece.formChar = pieces.map Piece.char := by
    intro hnone
    apply List.map_congr_left
    intro piece hpiece
    cases piece with
    | literal c =>
      have hc : c ≠ '+' := by
        rintro rfl
        exact hnone hpiece
      exact if_neg hc
    | escape c used => rfl
  rw [hdecoded, Option.some.injEq, ← htext, formDecode_pieces hpieces]
  constructor
  · rintro rfl
    exact (hsame fun hmem => hspace (List.mem_map_of_mem (f := Piece.formChar) hmem)).symm
  · rintro rfl
    exact hsame fun hmem => hplus (List.mem_map_of_mem (f := Piece.char) hmem)

theorem searchParams_setSearchParam {parameter : List Char} (habsent : ∀ pair ∈ url.searchParams, pair.1 ≠ parameter)
    (cursor : List Char) :
    (url.setSearchParam parameter cursor).searchParams = url.searchParams ++ [(parameter, cursor)] := by
  show readForm AddressRuntime.decodeInvalid (writeForm (setPair parameter cursor url.searchParams)) = _
  rw [readForm_writeForm, setPair_of_absent habsent]

theorem sourcePageUrl_cursor (hurl : parseWebUrl AddressRuntime.parseHost value = some url) {parameter : List Char}
    (hparameter : parameter ≠ []) (cursor : List Char) :
    sourcePageUrl ⟨value, true, some parameter⟩ (some cursor) = .ok (url.setSearchParam parameter cursor).href := by
  obtain ⟨c, rest, rfl⟩ := List.exists_cons_of_ne_nil hparameter
  unfold sourcePageUrl
  simp only [hurl]

theorem AcceptedEndpoint.pagesByCursor (h : AcceptedEndpoint value) (hurl : parseWebUrl AddressRuntime.parseHost value = some url)
    {parameter : List Char} (hname : isParameterName parameter = true) (hscanned : hasQueryParameter value parameter = false) :
    PagesByCursor value url parameter ↔ CursorScanned value parameter := by
  have hparsed := h.parsed hurl
  have hparams := h.searchParams hparsed
  obtain ⟨hnonempty, hspace, hplus⟩ := isParameterName_chars hname
  have hread : ∀ part ∈ questionParts (stripInput value),
      (formDecode AddressRuntime.decodeInvalid (specialQuerySet.encode (partName part)) = parameter ↔
        decodeURIComponent (partName part) = some parameter) := by
    intro part hpart
    obtain ⟨pieces, hpieces, htext⟩ := h.pieces hpart
    exact formDecode_eq_iff hpieces htext hspace hplus
  constructor
  · intro hpages part hpart _ hdecoded
    exact hpages.absent _ (hparams ▸ List.mem_map_of_mem hpart) ((hread part hpart).mpr hdecoded)
  · intro hcursor
    have habsent : ∀ pair ∈ url.searchParams, pair.1 ≠ parameter := by
      intro pair hpair
      rw [hparams] at hpair
      obtain ⟨part, hpart, rfl⟩ := List.mem_map.mp hpair
      intro hsame
      have hdecoded := (hread part hpart).mp hsame
      by_cases hseen : part ∈ queryParts (scannedQuery value)
      · exact hasQueryParameter_eq_false hscanned hseen (of_decide_eq_true (List.mem_filter.mp hpart).2) hdecoded
      · exact hcursor part hpart hseen hdecoded
    refine ⟨habsent, fun cursor => ?_⟩
    obtain ⟨hostText, hhost⟩ := hparsed.host
    obtain ⟨hwritten, hagain⟩ := AddressRuntime.parseHost_written hostText _ hhost
    refine ⟨_, url.setSearchParam parameter cursor, sourcePageUrl_cursor hurl hnonempty cursor, ?_, ?_⟩
    · exact @parseWebUrl_href _ (url.setSearchParam parameter cursor) hwritten hagain
    · exact searchParams_setSearchParam habsent cursor

theorem httpJsonSourceRequest_eq_ok {pagination : Option (Option (List Char))} {request : HttpJsonSourceRequest}
    {parameter : List Char} (h : httpJsonSourceRequestSchema text pagination = .ok request)
    (hpagination : request.pagination = .cursor parameter) :
    vaultSafeHttpsUrlSchema "Source" text = .ok request.url ∧ isParameterName parameter = true ∧
      hasQueryParameter request.url parameter = false := by
  unfold httpJsonSourceRequestSchema at h
  obtain ⟨endpoint, hendpoint, h⟩ := except_bind_eq_ok.mp h
  cases pagination with
  | none => cases h; cases hpagination
  | some given =>
    obtain ⟨name, hname, h⟩ := except_bind_eq_ok.mp h
    split at h
    · cases h
    · rename_i hscanned
      cases h
      cases hpagination
      exact ⟨hendpoint, cursorParameterSchema_eq_ok hname, Bool.eq_false_iff.mpr hscanned⟩

/-- What the parser reads of an accepted endpoint carries no secret just when the scanner has read it alike, and the
pages of an accepted source hold its parameters and the cursor just when the scanner has seen the name of the cursor. -/
theorem endpointUrls_exact (subject : String) :
    (∀ text value, vaultSafeHttpsUrlSchema subject text = .ok value →
      ((∃ url, parseWebUrl AddressRuntime.parseHost value = some url ∧ CarriesNoSecrets url) ↔ ReadAlike value)) ∧
    ∀ text pagination request parameter, httpJsonSourceRequestSchema text pagination = .ok request →
      request.pagination = .cursor parameter →
      ((∃ url, parseWebUrl AddressRuntime.parseHost request.url = some url ∧ PagesByCursor request.url url parameter) ↔
        CursorScanned request.url parameter) := by
  constructor
  · intro text value hschema
    obtain ⟨haccepted, url, hurl⟩ := vaultSafe_eq_ok hschema
    rw [← haccepted.carriesNoSecrets (haccepted.parsed hurl)]
    constructor
    · rintro ⟨other, hother, hclean⟩
      obtain rfl : url = other := Option.some.inj (hurl.symm.trans hother)
      exact hclean
    · exact fun hclean => ⟨url, hurl, hclean⟩
  · intro text pagination request parameter hschema hpagination
    obtain ⟨hendpoint, hname, hscanned⟩ := httpJsonSourceRequest_eq_ok hschema hpagination
    obtain ⟨haccepted, url, hurl⟩ := vaultSafe_eq_ok hendpoint
    rw [← haccepted.pagesByCursor hurl hname hscanned]
    constructor
    · rintro ⟨other, hother, hpages⟩
      obtain rfl : url = other := Option.some.inj (hurl.symm.trans hother)
      exact hpages
    · exact fun hpages => ⟨url, hurl, hpages⟩

end Accepted

def isPlainHostChar (c : Char) : Bool :=
  c.isAlphanum || c == '.' || c == '-'

def parsePlainHost (text : List Char) : Option String :=
  if text ≠ [] ∧ text.all isPlainHostChar = true then some (String.ofList (text.map Char.toLower)) else none

theorem isPlainHostChar_spec {c : Char} (h : isPlainHostChar c = true) :
    0x20 < c.toNat ∧ inAuthority c = true ∧ c ≠ '@' ∧ c ≠ ':' ∧ c ≠ '[' ∧ c ≠ ']' := by
  have hcode : 0x20 < c.toNat := by
    by_contra hlow
    have hcodes : ∀ n : Fin 33, isPlainHostChar (Char.ofNat n.val) = false := by decide
    have hc := hcodes ⟨c.toNat, by omega⟩
    rw [Char.ofNat_toNat, h] at hc
    cases hc
  refine ⟨hcode, ?_, ?_, ?_, ?_, ?_⟩
  · simp only [inAuthority, isSlash, Bool.not_eq_true', Bool.or_eq_false_iff, beq_eq_false_iff_ne]
    refine ⟨⟨⟨?_, ?_⟩, ?_⟩, ?_⟩ <;> (rintro rfl; revert h; decide)
  all_goals
    rintro rfl
    revert h
    decide

theorem hostText_plain {text : List Char} (hne : text ≠ []) (h : ∀ c ∈ text, isPlainHostChar c = true) : HostText text := by
  refine ⟨hne, fun c hc => ?_, fun port => ?_⟩
  · obtain ⟨hcode, hinside, hat, -⟩ := isPlainHostChar_spec (h c hc)
    exact ⟨hcode, hinside, hat⟩
  · clear hne
    induction text with
    | nil => cases port <;> rfl
    | cons c text ih =>
      obtain ⟨-, -, -, hcolon, hopen, -⟩ := isPlainHostChar_spec (h c List.mem_cons_self)
      have hbracket : (c == '[' || false && c != ']') = false := by
        rw [Bool.false_and, Bool.or_false]
        exact beq_eq_false_iff_ne.mpr hopen
      rw [List.cons_append, splitHost, if_neg fun hc => hcolon hc.1, hbracket, ih fun d hd => h d (List.mem_cons_of_mem c hd)]

theorem isPlainHostChar_toLower {c : Char} (h : isPlainHostChar c = true) :
    isPlainHostChar c.toLower = true ∧ c.toLower.toLower = c.toLower := by
  have hascii : c.toNat < 128 := by
    by_contra hhigh
    rw [isPlainHostChar, Char.isAlphanum] at h
    delta Char.isAlpha Char.isUpper Char.isLower Char.isDigit at h
    simp only [Bool.or_eq_true, Bool.and_eq_true, decide_eq_true_eq, beq_iff_eq] at h
    have hcode : c.toNat = c.val.toNat := rfl
    rcases h with (((⟨-, hz⟩ | ⟨-, hz⟩) | ⟨-, hz⟩) | rfl) | rfl
    · have hle : c.val.toNat ≤ 90 := hz
      omega
    · have hle : c.val.toNat ≤ 122 := hz
      omega
    · have hle : c.val.toNat ≤ 57 := hz
      omega
    · exact hhigh (by decide)
    · exact hhigh (by decide)
  have hcodes : ∀ n : Fin 128, isPlainHostChar (Char.ofNat n.val) = true →
      isPlainHostChar (Char.ofNat n.val).toLower = true ∧ (Char.ofNat n.val).toLower.toLower = (Char.ofNat n.val).toLower := by
    decide +kernel
  have hc := hcodes ⟨c.toNat, hascii⟩
  rw [Char.ofNat_toNat] at hc
  exact hc h

instance plainAddresses : AddressRuntime where
  parseHost := parsePlainHost
  parseHost_written text host h := by
    unfold parsePlainHost at h
    split at h
    · rename_i hplain
      cases h
      have hchars : ∀ c ∈ text.map Char.toLower, isPlainHostChar c = true := by
        intro c hc
        obtain ⟨d, hd, rfl⟩ := List.mem_map.mp hc
        exact (isPlainHostChar_toLower (List.all_eq_true.mp hplain.2 d hd)).1
      have hne : text.map Char.toLower ≠ [] := fun hnil => hplain.1 (List.map_eq_nil_iff.mp hnil)
      have hagain : (text.map Char.toLower).map Char.toLower = text.map Char.toLower := by
        rw [List.map_map]
        exact List.map_congr_left fun c hc => (isPlainHostChar_toLower (List.all_eq_true.mp hplain.2 c hc)).2
      rw [String.toList_ofList]
      refine ⟨hostText_plain hne hchars, ?_⟩
      rw [parsePlainHost, if_pos ⟨hne, List.all_eq_true.mpr hchars⟩, hagain]
    · cases h
  decodeInvalid _ := ['\uFFFD']
  toLocaleLowerCase text := text.map Char.toLower
  lower_https text h := by
    have hprefix := List.prefix_iff_eq_take.mp (List.isPrefixOf_iff_prefix.mp h)
    rw [List.map_take]
    exact hprefix.symm
  parseUrlText text := if (parseWebUrl parsePlainHost (trimChars text)).isSome then some (trimChars text) else none
  parseUrlText_parses text value h _ := by
    split at h
    · cases h
      assumption
    · cases h

/-- `https://api.example/` -/
def exampleOrigin : List Char :=
  ['h', 't', 't', 'p', 's', ':', '/', '/', 'a', 'p', 'i', '.', 'e', 'x', 'a', 'm', 'p', 'l', 'e', '/']

/-- `https://api.example/?page=1` -/
def pagedEndpoint : List Char :=
  exampleOrigin ++ ['?', 'p', 'a', 'g', 'e', '=', '1']

theorem endpointUrls_exact_paged :
    (∃ url, parseWebUrl AddressRuntime.parseHost pagedEndpoint = some url ∧ CarriesNoSecrets url) ∧
      ∃ url, parseWebUrl AddressRuntime.parseHost pagedEndpoint = some url ∧
        PagesByCursor pagedEndpoint url ['c', 'u', 'r', 's', 'o', 'r'] := by
  have hparts : questionParts (stripInput pagedEndpoint) = [['p', 'a', 'g', 'e', '=', '1']] := by decide +kernel
  have hscanned : queryParts (scannedQuery pagedEndpoint) = [['p', 'a', 'g', 'e', '=', '1']] := by decide +kernel
  constructor
  · apply ((endpointUrls_exact "Source").1 pagedEndpoint pagedEndpoint (by decide +kernel)).mpr
    refine ⟨fun hskips => absurd hskips (by unfold SkipsSlash; decide +kernel), ?_⟩
    intro part hpart hmisread
    rw [hparts, List.mem_singleton] at hpart
    subst hpart
    rcases hmisread with hplus | hmissing
    · revert hplus
      decide +kernel
    · exact absurd (by decide +kernel) hmissing
  · apply ((endpointUrls_exact "Source").2 pagedEndpoint (some none) ⟨pagedEndpoint, .cursor ['c', 'u', 'r', 's', 'o', 'r']⟩ _
      (by decide +kernel) rfl).mpr
    intro part hpart hmissing
    rw [hscanned] at hmissing
    rw [hparts] at hpart
    exact absurd hpart hmissing

/-- `https://api.example/?api+key=1` -/
def plusEndpoint : List Char :=
  exampleOrigin ++ ['?', 'a', 'p', 'i', '+', 'k', 'e', 'y', '=', '1']

/-- `https:///user:pw@api.example/` -/
def slashedEndpoint : List Char :=
  ['h', 't', 't', 'p', 's', ':', '/', '/', '/', 'u', 's', 'e', 'r', ':', 'p', 'w', '@', 'a', 'p', 'i', '.', 'e', 'x', 'a', 'm', 'p',
    'l', 'e', '/']

/-- `https://api.example/?a=1?b&cursor=2` -/
def twiceMarkedEndpoint : List Char :=
  exampleOrigin ++ ['?', 'a', '=', '1', '?', 'b', '&', 'c', 'u', 'r', 's', 'o', 'r', '=', '2']

/-- A plus sign hides a name, a third slash hides credentials, and a second question mark hides the cursor. -/
theorem endpointUrls_misread :
    (vaultSafeHttpsUrlSchema "Source" plusEndpoint = .ok plusEndpoint ∧
      ∀ url, parseWebUrl AddressRuntime.parseHost plusEndpoint = some url → ¬ CarriesNoSecrets url) ∧
    (vaultSafeHttpsUrlSchema "Source" slashedEndpoint = .ok slashedEndpoint ∧
      ∀ url, parseWebUrl AddressRuntime.parseHost slashedEndpoint = some url → ¬ CarriesNoSecrets url) ∧
    (httpJsonSourceRequestSchema twiceMarkedEndpoint (some none) =
        .ok ⟨twiceMarkedEndpoint, .cursor ['c', 'u', 'r', 's', 'o', 'r']⟩ ∧
      ∀ url, parseWebUrl AddressRuntime.parseHost twiceMarkedEndpoint = some url →
        ¬ PagesByCursor twiceMarkedEndpoint url ['c', 'u', 'r', 's', 'o', 'r']) := by
  have hplus : vaultSafeHttpsUrlSchema "Source" plusEndpoint = .ok plusEndpoint := by decide +kernel
  have hslashed : vaultSafeHttpsUrlSchema "Source" slashedEndpoint = .ok slashedEndpoint := by decide +kernel
  have htwice : httpJsonSourceRequestSchema twiceMarkedEndpoint (some none) =
      .ok ⟨twiceMarkedEndpoint, .cursor ['c', 'u', 'r', 's', 'o', 'r']⟩ := by decide +kernel
  refine ⟨⟨hplus, fun url hurl hclean => ?_⟩, ⟨hslashed, fun url hurl hclean => ?_⟩, htwice, fun url hurl hpages => ?_⟩
  · have haccepted := (vaultSafe_eq_ok hplus).1
    have halike := (haccepted.carriesNoSecrets (haccepted.parsed hurl)).mp hclean
    have hname := halike.names ['a', 'p', 'i', '+', 'k', 'e', 'y', '=', '1'] (by decide +kernel) (.inl (by decide +kernel))
      ['a', 'p', 'i', 'k', 'e', 'y'] (by decide +kernel)
    revert hname
    decide +kernel
  · have haccepted := (vaultSafe_eq_ok hslashed).1
    have halike := (haccepted.carriesNoSecrets (haccepted.parsed hurl)).mp hclean
    have hcredentials := halike.credentials (by unfold SkipsSlash; decide +kernel)
    revert hcredentials
    decide +kernel
  · obtain ⟨hendpoint, hname, hscanned⟩ := httpJsonSourceRequest_eq_ok htwice rfl
    have hcursor := ((vaultSafe_eq_ok hendpoint).1.pagesByCursor hurl hname hscanned).mp hpages
    have hmissed := hcursor ['c', 'u', 'r', 's', 'o', 'r', '=', '2'] (by decide +kernel) (by decide +kernel)
    exact hmissed (by decide +kernel)

end ByokGrid
