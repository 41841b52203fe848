import ByokGrid.FormTexts
import ByokGrid.JsText
import ByokGrid.WebAddresses

/-! Endpoint addresses without secrets. The policy scans the text by itself; the worker parses it and adds the
cursor of a page. -/

namespace ByokGrid

/-- The parts of the language and of the platform which addresses are read with. -/
class AddressRuntime where
  parseHost : List Char → Option String
  parseHost_written : ∀ text host, parseHost text = some host → HostText host.toList ∧ parseHost host.toList = some host
  decodeInvalid : List UInt8 → List Char
  toLocaleLowerCase : List Char → List Char
  lower_https : ∀ text, ['h', 't', 't', 'p', 's', ':', '/', '/'].isPrefixOf (toLocaleLowerCase text) = true →
    (text.take 8).map Char.toLower = ['h', 't', 't', 'p', 's', ':', '/', '/']
  /-- `z.url()` with the text it passes on. -/
  parseUrlText : List Char → Option (List Char)
  parseUrlText_parses : ∀ text value, parseUrlText text = some value → (readScheme (stripInput value)).isSome →
    (parseWebUrl parseHost value).isSome

section Policy

variable [AddressRuntime]

def sensitiveNames : List (List Char) :=
  [['a', 'p', 'i', 'k', 'e', 'y'], ['a', 'c', 'c', 'e', 's', 's', 't', 'o', 'k', 'e', 'n'], ['k', 'e', 'y'],
    ['s', 'e', 'c', 'r', 'e', 't'], ['s', 'i', 'g'], ['s', 'i', 'g', 'n', 'a', 't', 'u', 'r', 'e'], ['t', 'o', 'k', 'e', 'n']]

/-- `replace(/[\s_-]/g, '').toLocaleLowerCase('en-US')` -/
def normalizedName (name : List Char) : List Char :=
  AddressRuntime.toLocaleLowerCase (name.filter fun c => !(isJsWhitespace c || c == '_' || c == '-'))

def isSensitiveName (name : List Char) : Bool :=
  sensitiveNames.contains (normalizedName name)

def hasSensitiveQueryParameter (value : List Char) : Bool :=
  match value.dropWhile (· != '?') with
  | [] => false
  | _ :: rest => (queryParts (rest.takeWhile (· != '#'))).any fun parameter =>
    match decodeURIComponent (partName parameter) with
    | some name => isSensitiveName name
    | none => true

def afterDoubleSlash : List Char → Option (List Char)
  | '/' :: '/' :: rest => some rest
  | _ :: rest => afterDoubleSlash rest
  | [] => none

def inScanned (c : Char) : Bool :=
  !(c == '/' || c == '?' || c == '#')

/-- `value.slice(value.indexOf('//') + 2).split(/[/?#]/, 1)[0]` -/
def scannedAuthority (value : List Char) : List Char :=
  ((afterDoubleSlash value).getD (value.drop 1)).takeWhile inScanned

def endpointIssues (subject : String) (value : List Char) : List String :=
  (if ['h', 't', 't', 'p', 's', ':', '/', '/'].isPrefixOf (AddressRuntime.toLocaleLowerCase value) then []
    else [subject ++ " URLs must use HTTPS."]) ++
  (if (scannedAuthority value).contains '@' then [subject ++ " credentials must use the BYOK vault, not the URL."] else []) ++
  (if value.contains '#' then [subject ++ " URLs cannot contain fragments."] else []) ++
  (if hasSensitiveQueryParameter value then [subject ++ " secrets must use the BYOK vault, not query parameters."] else [])

def vaultSafeHttpsUrlSchema (subject : String) (text : List Char) : Except (List String) (List Char) :=
  match AddressRuntime.parseUrlText text with
  | none => .error ["Invalid URL"]
  | some value => if endpointIssues subject value = [] then .ok value else .error (endpointIssues subject value)

def isNameChar (c : Char) : Bool :=
  c.isAlphanum || c == '_' || c == '.' || c == '-'

/-- `/^[A-Za-z][A-Za-z0-9_.-]{0,63}$/` -/
def isParameterName : List Char → Bool
  | [] => false
  | c :: cs => c.isAlpha && cs.length ≤ 63 && cs.all isNameChar

def credentialNames : List (List Char) :=
  [['a', 'c', 'c', 'e', 's', 's', 't', 'o', 'k', 'e', 'n'], ['a', 'p', 'i', 'k', 'e', 'y'], ['k', 'e', 'y'],
    ['s', 'e', 'c', 'r', 'e', 't'], ['s', 'i', 'g'], ['t', 'o', 'k', 'e', 'n']]

def cursorParameterSchema (text : List Char) : Except (List String) (List Char) :=
  if isParameterName (trimChars text) = false then .error ["Invalid string"]
  else if credentialNames.contains
      ((AddressRuntime.toLocaleLowerCase (trimChars text)).filter fun c => !(c == '_' || c == '.' || c == '-')) then
    .error ["Cursor parameter names cannot look like credential fields."]
  else .ok (trimChars text)

inductive SourcePagination where
  | none
  | cursor (cursorParameter : List Char)
  deriving Repr, DecidableEq

structure HttpJsonSourceRequest where
  url : List Char
  pagination : SourcePagination
  deriving Repr, DecidableEq

/-- `url.split('?', 2)[1]`: the text up to a second question mark. -/
def scannedQuery (url : List Char) : List Char :=
  ((url.dropWhile (· != '?')).drop 1).takeWhile (· != '?')

def hasQueryParameter (url expectedName : List Char) : Bool :=
  scannedQuery url ≠ [] && (queryParts (scannedQuery url)).any fun parameter =>
    match decodeURIComponent (partName parameter) with
    | some name => name = expectedName
    | none => true

def httpJsonSourceRequestSchema (url : List Char) (pagination : Option (Option (List Char))) :
    Except (List String) HttpJsonSourceRequest := do
  let url ← vaultSafeHttpsUrlSchema "Source" url
  match pagination with
  | none => .ok { url, pagination := .none }
  | some given =>
    let cursorParameter ← cursorParameterSchema (given.getD ['c', 'u', 'r', 's', 'o', 'r'])
    if hasQueryParameter url cursorParameter then .error ["The source URL already contains the cursor parameter."]
    else .ok { url, pagination := .cursor cursorParameter }

def WebUrl.searchParams (url : WebUrl) : List (List Char × List Char) :=
  readForm AddressRuntime.decodeInvalid (url.tail.query.getD [])

/-- `url.searchParams.set(name, value)` -/
def WebUrl.setSearchParam (url : WebUrl) (name value : List Char) : WebUrl :=
  { url with
    tail := { url.tail with
      query := some (writeForm (setPair name value url.searchParams))
      query_spared := fun _ h => by cases h; exact writeForm_spared _ } }

structure PagedSource where
  endpointUrl : List Char
  cursorPagination : Bool
  cursorParameter : Option (List Char)
  deriving Repr, DecidableEq

def sourcePageUrl (source : PagedSource) (cursor : Option (List Char)) : Except String (List Char) :=
  match parseWebUrl AddressRuntime.parseHost source.endpointUrl with
  | none => .error "Invalid URL"
  | some url =>
    match source.cursorPagination, cursor with
    | true, some cursor =>
      match source.cursorParameter with
      | none | some [] => .error "The source cursor parameter is not configured."
      | some name => .ok (url.setSearchParam name cursor).href
    | _, _ => .ok url.href

end Policy

end ByokGrid
