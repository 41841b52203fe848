import ByokGrid.WebOrigins

/-! Absolute web addresses: what is written of one is read back. -/

namespace ByokGrid

def WebScheme.text : WebScheme → List Char
  | .http => ['h', 't', 't', 'p', ':']
  | .https => ['h', 't', 't', 'p', 's', ':']

theorem WebScheme.text_visible (scheme : WebScheme) : ∀ c ∈ scheme.text, 0x20 < c.toNat := by
  have hall : scheme.text.all (fun c => decide (0x20 < c.toNat)) = true := by cases scheme <;> rfl
  intro c hc
  exact of_decide_eq_true (List.all_eq_true.mp hall c hc)

def readScheme (text : List Char) : Option (WebScheme × List Char) :=
  if (text.take 5).map Char.toLower = WebScheme.http.text then some (.http, text.drop 5)
  else if (text.take 6).map Char.toLower = WebScheme.https.text then some (.https, text.drop 6)
  else none

def parseWebUrl (parseHost : List Char → Option String) (input : List Char) : Option WebUrl := do
  let (scheme, rest) ← readScheme (stripInput input)
  parseAuthority parseHost scheme rest

namespace WebUrl

def credentials (url : WebUrl) : List Char :=
  if url.username = [] ∧ url.password = [] then []
  else url.username ++ (if url.password = [] then [] else ':' :: url.password) ++ ['@']

def address (url : WebUrl) : List Char :=
  url.origin.host.toList ++ UrlTail.kept ':' (url.origin.port.map (Nat.toDigits 10))

def href (url : WebUrl) : List Char :=
  url.origin.scheme.text ++ '/' :: '/' :: (url.credentials ++ url.address ++
    (url.tail.pathname ++ (UrlTail.kept '?' url.tail.query ++ UrlTail.kept '#' url.tail.fragment)))

end WebUrl

structure HostText (text : List Char) : Prop where
  nonempty : text ≠ []
  visible : ∀ c ∈ text, 0x20 < c.toNat ∧ inAuthority c = true ∧ c ≠ '@'
  split : ∀ port, splitHost false (text ++ UrlTail.kept ':' port) = (text, port)

theorem inAuthority_of_spared {c : Char} (h : userinfoSet.has c = false) : inAuthority c = true := by
  have hcodes := (EncodeSet.has_eq_false_iff.mp h).2.2
  simp only [inAuthority, isSlash, Bool.not_eq_true', Bool.or_eq_false_iff, beq_eq_false_iff_ne]
  refine ⟨⟨⟨?_, ?_⟩, ?_⟩, ?_⟩ <;> (rintro rfl; exact hcodes (by decide))

theorem ne_of_spared {set : EncodeSet} {mark : Char} (hmark : mark.toNat ∈ set.codes) {c : Char} (h : set.has c = false) :
    c ≠ mark := by
  rintro rfl
  exact (EncodeSet.has_eq_false_iff.mp h).2.2 hmark

theorem splitCredentials_none {address : List Char} (h : ∀ c ∈ address, c ≠ '@') : splitCredentials address = ([], address) := by
  have hall : ∀ c ∈ address, (c != '@') = true := fun c hc => bne_iff_ne.mpr (h c hc)
  rw [splitCredentials, List.rtakeWhile_eq_self_iff.mpr hall, List.rdropWhile_eq_nil_iff.mpr hall]
  rfl

theorem splitCredentials_at {address : List Char} (h : ∀ c ∈ address, c ≠ '@') (credentials : List Char) :
    splitCredentials (credentials ++ '@' :: address) = (credentials, address) := by
  have hall : ∀ c ∈ address.reverse, (c != '@') = true := fun c hc => bne_iff_ne.mpr (h c (List.mem_reverse.mp hc))
  have htext : (credentials ++ '@' :: address).reverse = address.reverse ++ '@' :: credentials.reverse := by
    rw [List.reverse_append, List.reverse_cons, List.append_assoc]
    rfl
  rw [splitCredentials, List.rdropWhile, List.rtakeWhile, htext, List.takeWhile_append_of_pos hall,
    List.dropWhile_append_of_pos hall]
  show ((('@' :: credentials.reverse).reverse).dropLast, (address.reverse ++ []).reverse) = _
  rw [List.append_nil, List.reverse_reverse, List.reverse_cons, List.reverse_reverse, List.dropLast_concat]

theorem readScheme_text (scheme : WebScheme) (rest : List Char) : readScheme (scheme.text ++ rest) = some (scheme, rest) := by
  cases scheme with
  | http => rfl
  | https => rfl

theorem originAt_port {origin : WebOrigin} :
    originAt origin.scheme origin.host (origin.port.map (Nat.toDigits 10)) = some origin := by
  obtain ⟨scheme, host, port, hport⟩ := origin
  cases port with
  | none => rfl
  | some number =>
    obtain ⟨hfits, hkept⟩ := hport number rfl
    have hdigits : (Nat.toDigits 10 number).all Char.isDigit = true :=
      List.all_eq_true.mpr fun c hc => Nat.isDigit_of_mem_toDigits (by decide) (by decide) hc
    have hvalue : Nat.ofDigitChars 10 (Nat.toDigits 10 number) 0 = number := Nat.ofDigitChars_ten_toDigits
    show originAt scheme host (some (Nat.toDigits 10 number)) = _
    cases hnumber : Nat.toDigits 10 number with
    | nil => exact absurd hnumber Nat.toDigits_ne_nil
    | cons digit digits =>
      rw [hnumber] at hdigits hvalue
      simp only [originAt, hdigits, hvalue, hfits, hkept, and_self, dite_true, dite_false]

section Reading

variable {parseHost : List Char → Option String} {url : WebUrl}

theorem credentials_inside (url : WebUrl) : ∀ c ∈ url.credentials, 0x20 < c.toNat ∧ inAuthority c = true := by
  have hspared : ∀ c, userinfoSet.has c = false → 0x20 < c.toNat ∧ inAuthority c = true := fun c hc =>
    ⟨(UrlTail.spared_printable (by decide) hc).1, inAuthority_of_spared hc⟩
  intro c hc
  unfold WebUrl.credentials at hc
  split at hc
  · exact absurd hc List.not_mem_nil
  · rcases List.mem_append.mp hc with hc | hc
    · rcases List.mem_append.mp hc with hc | hc
      · exact hspared c (url.username_spared c hc)
      · split at hc
        · exact absurd hc List.not_mem_nil
        · rcases List.mem_cons.mp hc with rfl | hc
          · decide
          · exact hspared c (url.password_spared c hc)
    · rw [List.mem_singleton.mp hc]
      decide

theorem address_inside (hhost : HostText url.origin.host.toList) :
    ∀ c ∈ url.address, 0x20 < c.toNat ∧ inAuthority c = true ∧ c ≠ '@' := by
  intro c hc
  rcases List.mem_append.mp hc with hc | hc
  · exact hhost.visible c hc
  · cases hport : url.origin.port with
    | none => rw [hport] at hc; exact absurd hc List.not_mem_nil
    | some number =>
      rw [hport] at hc
      rcases List.mem_cons.mp hc with rfl | hc
      · decide
      · have hdigit : c.isDigit = true := Nat.isDigit_of_mem_toDigits (by decide) (by decide) hc
        rw [Char.isDigit, Bool.and_eq_true, decide_eq_true_eq, decide_eq_true_eq] at hdigit
        have hlow : 48 ≤ c.toNat := hdigit.1
        have hhigh : c.toNat ≤ 57 := hdigit.2
        refine ⟨by omega, ?_, ?_⟩
        · simp only [inAuthority, isSlash, Bool.not_eq_true', Bool.or_eq_false_iff, beq_eq_false_iff_ne]
          refine ⟨⟨⟨?_, ?_⟩, ?_⟩, ?_⟩ <;> (rintro rfl; revert hlow hhigh; decide)
        · rintro rfl
          revert hlow hhigh
          decide

theorem splitCredentials_href (hhost : HostText url.origin.host.toList) :
    ∃ credentials, splitCredentials (url.credentials ++ url.address) = (credentials, url.address) ∧
      credentials.takeWhile (· != ':') = url.username ∧ (credentials.dropWhile (· != ':')).drop 1 = url.password := by
  have haddress : ∀ c ∈ url.address, c ≠ '@' := fun c hc => (address_inside hhost c hc).2.2
  have hname : ∀ c ∈ url.username, (c != ':') = true := fun c hc =>
    bne_iff_ne.mpr (ne_of_spared (by decide) (url.username_spared c hc))
  by_cases hnone : url.username = [] ∧ url.password = []
  · refine ⟨[], ?_, hnone.1.symm, hnone.2.symm⟩
    rw [WebUrl.credentials, if_pos hnone, List.nil_append, splitCredentials_none haddress]
  · refine ⟨url.username ++ (if url.password = [] then [] else ':' :: url.password), ?_, ?_, ?_⟩
    · rw [WebUrl.credentials, if_neg hnone, List.append_assoc _ ['@']]
      exact splitCredentials_at haddress _
    · rw [List.takeWhile_append_of_pos hname]
      split <;> exact List.append_nil _
    · rw [List.dropWhile_append_of_pos hname]
      split
      · rename_i hpassword
        rw [hpassword]
        rfl
      · rfl

theorem parseWebUrl_href (hhost : HostText url.origin.host.toList)
    (hparse : parseHost url.origin.host.toList = some url.origin.host) : parseWebUrl parseHost url.href = some url := by
  obtain ⟨segment, path, hpath⟩ := List.exists_cons_of_ne_nil url.tail.path_ne_nil
  obtain ⟨credentials, hsplit, husername, hpassword⟩ := splitCredentials_href hhost
  have hauthority : ∀ c ∈ url.credentials ++ url.address, 0x20 < c.toNat ∧ inAuthority c = true := by
    intro c hc
    rcases List.mem_append.mp hc with hc | hc
    · exact credentials_inside url c hc
    · exact ⟨(address_inside hhost c hc).1, (address_inside hhost c hc).2.1⟩
  -- the address itself is not empty, since the host is not
  have hnonempty : url.credentials ++ url.address ≠ [] := by
    rw [WebUrl.address]
    exact List.append_ne_nil_of_right_ne_nil _ (List.append_ne_nil_of_left_ne_nil hhost.nonempty _)
  let body := segment ++ serializePath path ++ (UrlTail.kept '?' url.tail.query ++ UrlTail.kept '#' url.tail.fragment)
  have htail : url.tail.pathname ++ (UrlTail.kept '?' url.tail.query ++ UrlTail.kept '#' url.tail.fragment) = '/' :: body := by
    rw [UrlTail.pathname, hpath, serializePath, List.flatMap_cons]
    rfl
  have hvisible : ∀ c ∈ url.href, 0x20 < c.toNat := by
    have htext : ∀ c ∈ url.tail.pathname ++ (UrlTail.kept '?' url.tail.query ++ UrlTail.kept '#' url.tail.fragment),
        0x20 < c.toNat := url.tail.kept_visible
    intro c hc
    rcases List.mem_append.mp hc with hc | hc
    · exact url.origin.scheme.text_visible c hc
    · rcases List.mem_cons.mp hc with rfl | hc
      · decide
      · rcases List.mem_cons.mp hc with rfl | hc
        · decide
        · rcases List.mem_append.mp hc with hc | hc
          · exact (hauthority c hc).1
          · exact htext c hc
  have hscheme : readScheme (stripInput url.href) =
      some (url.origin.scheme, '/' :: '/' :: (url.credentials ++ url.address ++ '/' :: body)) := by
    rw [stripInput_eq_self hvisible, WebUrl.href, htail]
    exact readScheme_text _ _
  have hslashes : ('/' :: '/' :: (url.credentials ++ url.address ++ '/' :: body)).dropWhile isSlash =
      url.credentials ++ url.address ++ '/' :: body := by
    obtain ⟨first, rest, hfirst⟩ := List.exists_cons_of_ne_nil hnonempty
    have hinside := (hauthority first (hfirst ▸ List.mem_cons_self)).2
    simp only [inAuthority, Bool.not_eq_true', Bool.or_eq_false_iff] at hinside
    rw [hfirst]
    show ((first :: rest) ++ '/' :: body).dropWhile isSlash = _
    rw [List.cons_append, List.dropWhile_cons_of_neg (by rw [hinside.1.1]; decide)]
  have htake : (url.credentials ++ url.address ++ '/' :: body).takeWhile inAuthority = url.credentials ++ url.address := by
    rw [List.takeWhile_append_of_pos fun c hc => (hauthority c hc).2]
    exact List.append_nil _
  have hdrop : (url.credentials ++ url.address ++ '/' :: body).dropWhile inAuthority = '/' :: body := by
    rw [List.dropWhile_append_of_pos fun c hc => (hauthority c hc).2]
    rfl
  have hread : parseTail (dropSlash ('/' :: body)) = url.tail := UrlTail.parseTail_kept hpath
  have hhostPort : splitHost false url.address = (url.origin.host.toList, url.origin.port.map (Nat.toDigits 10)) :=
    hhost.split _
  rw [parseWebUrl, hscheme, Option.bind_eq_bind, Option.bind_some]
  show parseAuthority _ _ _ = _
  unfold parseAuthority
  simp only [hslashes, htake, hdrop, hsplit, hhostPort, hread, hparse, husername, hpassword, originAt_port, Option.bind_eq_bind,
    Option.bind_some, if_neg hhost.nonempty, EncodeSet.encode_of_spares url.username_spared,
    EncodeSet.encode_of_spares url.password_spared]

end Reading

end ByokGrid
