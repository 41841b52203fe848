import ByokGrid.WebUrls

/-! Origins of web addresses, the text of an authority, and what a text that starts with a slash is resolved to. -/

namespace ByokGrid

inductive WebScheme where
  | http
  | https
  deriving Repr, DecidableEq

def WebScheme.defaultPort : WebScheme → Nat
  | .http => 80
  | .https => 443

@[ext]
structure WebOrigin where
  scheme : WebScheme
  host : String
  port : Option Nat
  port_kept : ∀ number ∈ port, number < 65536 ∧ number ≠ scheme.defaultPort

instance : DecidableEq WebOrigin := fun first second =>
  decidable_of_iff (first.scheme = second.scheme ∧ first.host = second.host ∧ first.port = second.port) WebOrigin.ext_iff.symm

@[ext]
structure WebUrl where
  origin : WebOrigin
  username : List Char
  password : List Char
  tail : UrlTail
  username_spared : userinfoSet.Spares username
  password_spared : userinfoSet.Spares password

def WebUrl.at (origin : WebOrigin) (tail : UrlTail) : WebUrl :=
  ⟨origin, [], [], tail, fun _ h => absurd h List.not_mem_nil, fun _ h => absurd h List.not_mem_nil⟩

def inAuthority (c : Char) : Bool :=
  !(isSlash c || c == '?' || c == '#')

def splitHost : Bool → List Char → List Char × Option (List Char)
  | _, [] => ([], none)
  | bracket, c :: cs =>
    if c = ':' ∧ bracket = false then ([], some cs)
    else
      let rest := splitHost (c == '[' || bracket && c != ']') cs
      (c :: rest.1, rest.2)

def originAt (scheme : WebScheme) (host : String) (port : Option (List Char)) : Option WebOrigin :=
  match port with
  | none | some [] => some ⟨scheme, host, none, fun _ h => by cases h⟩
  | some text =>
    if hfits : text.all Char.isDigit = true ∧ Nat.ofDigitChars 10 text 0 < 65536 then
      if hkept : Nat.ofDigitChars 10 text 0 = scheme.defaultPort then some ⟨scheme, host, none, fun _ h => by cases h⟩
      else some ⟨scheme, host, some (Nat.ofDigitChars 10 text 0), fun _ h => by cases h; exact ⟨hfits.2, hkept⟩⟩
    else none

/-- The credentials of an authority and its host with the port: the last `@` parts them. -/
def splitCredentials (authority : List Char) : List Char × List Char :=
  ((authority.rdropWhile (· != '@')).dropLast, authority.rtakeWhile (· != '@'))

def dropSlash : List Char → List Char
  | [] => []
  | c :: cs => if isSlash c then cs else c :: cs

/-- What follows the colon of a scheme or the first slash of a reference: the slashes before an authority are
skipped, however many they are. -/
def parseAuthority (parseHost : List Char → Option String) (scheme : WebScheme) (text : List Char) : Option WebUrl := do
  let text := text.dropWhile isSlash
  let (credentials, address) := splitCredentials (text.takeWhile inAuthority)
  let (hostText, port) := splitHost false address
  if hostText = [] then none
  let host ← parseHost hostText
  let origin ← originAt scheme host port
  some {
    origin
    username := userinfoSet.encode (credentials.takeWhile (· != ':'))
    password := userinfoSet.encode ((credentials.dropWhile (· != ':')).drop 1)
    tail := parseTail (dropSlash (text.dropWhile inAuthority))
    username_spared := userinfoSet.spares_encode _
    password_spared := userinfoSet.spares_encode _
  }

theorem originAt_eq_some {scheme : WebScheme} {host : String} {port : Option (List Char)} {origin : WebOrigin}
    (h : originAt scheme host port = some origin) : origin.scheme = scheme ∧ origin.host = host := by
  unfold originAt at h
  split at h
  · cases h; exact ⟨rfl, rfl⟩
  · cases h; exact ⟨rfl, rfl⟩
  · split at h
    · split at h
      · cases h; exact ⟨rfl, rfl⟩
      · cases h; exact ⟨rfl, rfl⟩
    · cases h

theorem parseAuthority_eq_some {parseHost : List Char → Option String} {scheme : WebScheme} {text : List Char} {url : WebUrl}
    (h : parseAuthority parseHost scheme text = some url) :
    url.origin.scheme = scheme ∧ (∃ hostText, parseHost hostText = some url.origin.host) ∧
      url.username = userinfoSet.encode
        ((splitCredentials ((text.dropWhile isSlash).takeWhile inAuthority)).1.takeWhile (· != ':')) ∧
      url.password = userinfoSet.encode
        (((splitCredentials ((text.dropWhile isSlash).takeWhile inAuthority)).1.dropWhile (· != ':')).drop 1) ∧
      url.tail = parseTail (dropSlash ((text.dropWhile isSlash).dropWhile inAuthority)) := by
  unfold parseAuthority at h
  simp only [Option.bind_eq_bind] at h
  split at h
  · cases h
  · simp only [Option.bind_eq_some_iff, Option.some.injEq] at h
    obtain ⟨host, hhost, origin, horigin, rfl⟩ := h
    obtain ⟨hscheme, hsame⟩ := originAt_eq_some horigin
    exact ⟨hscheme, ⟨_, hsame ▸ hhost⟩, rfl, rfl, rfl⟩

def resolveRooted (parseHost : List Char → Option String) (base : WebOrigin) (input : List Char) : Option WebUrl :=
  match stripInput input with
  | [] => none
  | c :: cs =>
    if isSlash c then
      if cs.head?.any isSlash then parseAuthority parseHost base.scheme cs
      else some (.at base (parseTail cs))
    else none

section Resolution

variable {parseHost : List Char → Option String}

theorem resolveRooted_path {input rest : List Char} (hinput : stripInput input = '/' :: rest)
    (hrest : ∀ c, rest.head? = some c → isSlash c = false) (base : WebOrigin) :
    resolveRooted parseHost base input = some (.at base (parseTail rest)) := by
  have hhead : rest.head?.any isSlash = false := by
    cases hfirst : rest.head? with
    | none => rfl
    | some c => exact hrest c hfirst
  unfold resolveRooted
  rw [hinput]
  simp only [hhead]
  rfl

theorem resolveRooted_authority {input rest : List Char} (hinput : stripInput input = '/' :: '/' :: rest) (base : WebOrigin) :
    resolveRooted parseHost base input = parseAuthority parseHost base.scheme ('/' :: rest) := by
  unfold resolveRooted
  rw [hinput]
  rfl

theorem exists_other_port (scheme : WebScheme) (port : Option Nat) :
    ∃ other : WebOrigin, other.scheme = scheme ∧ other.port ≠ port := by
  by_cases hport : port = some 8080
  · have hother : (some 8081 : Option Nat) ≠ port := by
      rw [hport]
      decide
    exact ⟨⟨scheme, "host", some 8081, fun _ h => by cases h; cases scheme <;> decide⟩, rfl, hother⟩
  · exact ⟨⟨scheme, "host", some 8080, fun _ h => by cases h; cases scheme <;> decide⟩, rfl, Ne.symm hport⟩

def StaysOn (parseHost : List Char → Option String) (origin : WebOrigin) (input : List Char) : Prop :=
  ∃ url, resolveRooted parseHost origin input = some url ∧ url.origin = origin

theorem staysOn_path {input rest : List Char} (hinput : stripInput input = '/' :: rest)
    (hrest : ∀ c, rest.head? = some c → isSlash c = false) (origin : WebOrigin) : StaysOn parseHost origin input :=
  ⟨_, resolveRooted_path hinput hrest origin, rfl⟩

theorem leaves_of_authority {input rest : List Char} (hinput : stripInput input = '/' :: '/' :: rest) :
    ¬ ∀ origin, StaysOn parseHost origin input := by
  intro hstays
  obtain ⟨first, hfirst, _⟩ := exists_other_port .http none
  obtain ⟨url, hurl, horigin⟩ := hstays first
  obtain ⟨second, hsecond, hport⟩ := exists_other_port .http first.port
  obtain ⟨other, hother, hsame⟩ := hstays second
  rw [resolveRooted_authority hinput, hfirst] at hurl
  rw [resolveRooted_authority hinput, hsecond, hurl] at hother
  cases hother
  exact hport (by rw [← hsame, horigin])

end Resolution

end ByokGrid
