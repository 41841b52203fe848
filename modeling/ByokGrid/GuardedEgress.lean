import ByokGrid.JsonText
import ByokGrid.SandboxProtocol
import ByokGrid.Subnets
import ByokGrid.Transition

/-! The guard of outgoing requests. A deny list is asked about every literal host and about every
answer of the resolver; which private addresses it misses is said exactly. -/

namespace ByokGrid

inductive AddressFamily where
  | ipv4
  | ipv6
  deriving Repr, DecidableEq

inductive IpAddress where
  | ipv4 (address : BitVec 32)
  | ipv6 (address : BitVec 128)
  deriving Repr, DecidableEq

def readByte (digits : List Char) : Option Nat :=
  let value := digits.foldl (fun n c => 10 * n + (c.toNat - 48)) 0
  if 1 ≤ digits.length ∧ digits.length ≤ 3 ∧ digits.all isDecimalDigit ∧ value ≤ 255 ∧
      (digits.head? = some '0' → digits.length = 1) then some value else none

def readIpv4 (text : List Char) : Option (BitVec 32) := do
  let bytes ← (text.splitOn '.').mapM readByte
  if bytes.length = 4 then some (BitVec.ofNat 32 (bytes.foldl (fun n byte => 256 * n + byte) 0)) else none

def readHexGroup (digits : List Char) : Option Nat := do
  let values ← digits.mapM hexValue
  if 1 ≤ values.length ∧ values.length ≤ 4 then some (values.foldl (fun n value => 16 * n + value) 0) else none

def readHexGroups : List (List Char) → Option (List Nat)
  | [] => some []
  | [last] =>
    match readIpv4 last with
    | some address => some [address.toNat / 65536, address.toNat % 65536]
    | none => (readHexGroup last).map fun group => [group]
  | digits :: rest => do
    let group ← readHexGroup digits
    let groups ← readHexGroups rest
    return group :: groups

def splitColons : List Char → Option (List Char × List Char)
  | ':' :: ':' :: rest => some ([], rest)
  | c :: rest => (splitColons rest).map fun parts => (c :: parts.1, parts.2)
  | [] => none

def groupTexts (text : List Char) : List (List Char) :=
  if text = [] then [] else text.splitOn ':'

def readIpv6 (text : List Char) : Option (BitVec 128) := do
  let groups ← match splitColons text with
    | none => readHexGroups (text.splitOn ':')
    | some (front, back) => do
      let front ← (groupTexts front).mapM readHexGroup
      let back ← readHexGroups (groupTexts back)
      if front.length + back.length ≤ 7 then
        some (front ++ List.replicate (8 - front.length - back.length) 0 ++ back)
      else none
  if groups.length = 8 then some (BitVec.ofNat 128 (groups.foldl (fun n group => 65536 * n + group) 0)) else none

def readAddress (text : String) : AddressFamily → Option IpAddress
  | .ipv4 => (readIpv4 text.toList).map .ipv4
  | .ipv6 => (readIpv6 (text.toList.takeWhile fun c => c ≠ '%')).map .ipv6

/-- `isIP` of Node; `none` stands for 0. -/
def isIP (text : String) : Option AddressFamily :=
  let zone := text.toList.dropWhile fun c => c ≠ '%'
  if (readAddress text .ipv4).isSome then some .ipv4
  else if (readAddress text .ipv6).isSome ∧
      (zone = [] ∨ 2 ≤ zone.length ∧ zone.tail.all fun c => c.isAlphanum || c == '-' || c == '.' || c == ':') then some .ipv6
  else none

def ipv4Subnet (network : String) (prefixLength : Nat) : Subnet 32 :=
  { network := (readIpv4 network.toList).getD 0, prefixLength }

def ipv6Subnet (network : String) (prefixLength : Nat) : Subnet 128 :=
  { network := (readIpv6 network.toList).getD 0, prefixLength }

def blockedIpv4 : List (Subnet 32) :=
  [ipv4Subnet "0.0.0.0" 8,
    ipv4Subnet "10.0.0.0" 8,
    ipv4Subnet "100.64.0.0" 10,
    ipv4Subnet "127.0.0.0" 8,
    ipv4Subnet "169.254.0.0" 16,
    ipv4Subnet "172.16.0.0" 12,
    ipv4Subnet "192.0.0.0" 24,
    ipv4Subnet "192.0.2.0" 24,
    ipv4Subnet "192.88.99.0" 24,
    ipv4Subnet "192.168.0.0" 16,
    ipv4Subnet "198.18.0.0" 15,
    ipv4Subnet "198.51.100.0" 24,
    ipv4Subnet "203.0.113.0" 24,
    ipv4Subnet "224.0.0.0" 4,
    ipv4Subnet "240.0.0.0" 4]

def blockedIpv6 : List (Subnet 128) :=
  [ipv6Subnet "::" 128,
    ipv6Subnet "::1" 128,
    ipv6Subnet "64:ff9b:1::" 48,
    ipv6Subnet "100::" 64,
    ipv6Subnet "2001:2::" 48,
    ipv6Subnet "2001:db8::" 32,
    ipv6Subnet "fc00::" 7,
    ipv6Subnet "fe80::" 10,
    ipv6Subnet "fec0::" 10,
    ipv6Subnet "ff00::" 8]

def mappedPrefix : Subnet 128 :=
  ipv6Subnet "::ffff:0:0" 96

def blockedAddresses : IpAddress → Bool
  | .ipv4 address => blockedIpv4.any fun subnet => subnet.Contains address
  | .ipv6 address =>
    (blockedIpv6.any fun subnet => subnet.Contains address) ||
      (mappedPrefix.Contains address && blockedIpv4.any fun subnet => subnet.Contains (address.setWidth 32))

def isBlockedEgressAddress (address : String) (family : AddressFamily) : Bool :=
  (readAddress address family).any blockedAddresses

structure LookupAddress where
  address : String
  family : AddressFamily
  deriving Repr, DecidableEq

def guardedLookup : Except String (List LookupAddress) → Except String (List LookupAddress)
  | .error code => .error code
  | .ok addresses =>
    if addresses = [] ∨ addresses.any (fun record => isBlockedEgressAddress record.address record.family) then .error "EACCES"
    else .ok addresses

/-- `hostname.replace(/^\[|\]$/g, '')`. -/
def stripBrackets (hostname : String) : String :=
  let opened := if hostname.toList.head? = some '[' then hostname.toList.tail else hostname.toList
  String.ofList (if opened.getLast? = some ']' then opened.dropLast else opened)

def literalHost (hostname : String) : Option LookupAddress :=
  (isIP (stripBrackets hostname)).map fun family => { address := stripBrackets hostname, family }

def refusesHost (hostname : String) : Bool :=
  (literalHost hostname).any fun literal => isBlockedEgressAddress literal.address literal.family

def egressPolicyError : ConnectorError :=
  { code := .policy, message := "Connector requests cannot target private or reserved networks.", retryable := false }

def errorChainHasCode (chain : List (Option String)) (code : String) : Bool :=
  (chain.take 4).any fun error => error = some code

inductive EgressFailure where
  | connector (error : ConnectorError)
  | thrown (chain : List (Option String))
  deriving Repr, DecidableEq

def guardedEgressFetch {α : Type} (hostname : String) (response : Except (List (Option String)) α) : Except EgressFailure α :=
  if refusesHost hostname then .error (.connector egressPolicyError)
  else match response with
    | .ok response => .ok response
    | .error chain =>
      if errorChainHasCode chain "EACCES" then .error (.connector egressPolicyError) else .error (.thrown chain)

inductive RedirectMode where
  | follow
  | manual
  | error
  deriving Repr, DecidableEq

/-- The requests handed to the dispatcher, the records its lookup callback has returned for each host
name, whether they are still cached or not, and the addresses connected to. -/
structure EgressState where
  dispatched : List (String × RedirectMode) := []
  returned : List (String × LookupAddress) := []
  connections : List LookupAddress := []
  deriving Repr, DecidableEq

inductive EgressEvent where
  | fetch (hostname : String) (redirect : RedirectMode)
  | redirected (hostname location : String)
  | lookedUp (hostname : String) (answer : Except String (List LookupAddress))
  | connected (hostname : String) (record : LookupAddress)

def EgressState.dispatch (s : EgressState) (hostname : String) (redirect : RedirectMode) : EgressState :=
  { s with
    dispatched := (hostname, redirect) :: s.dispatched
    connections := (literalHost hostname).toList ++ s.connections }

/-- The dispatcher follows a redirect without the check of the literal host, and takes any record its
callback has returned for the name. -/
def egressStep (s : EgressState) : EgressEvent → EgressState
  | .fetch hostname redirect => if refusesHost hostname then s else s.dispatch hostname redirect
  | .redirected hostname location =>
    if (hostname, RedirectMode.follow) ∈ s.dispatched then s.dispatch location .follow else s
  | .lookedUp hostname answer =>
    if literalHost hostname = none ∧ hostname ∈ s.dispatched.map Prod.fst then
      match guardedLookup answer with
      | .ok records => { s with returned := records.map (fun record => (hostname, record)) ++ s.returned }
      | .error _ => s
    else s
  | .connected hostname record =>
    if (hostname, record) ∈ s.returned then { s with connections := record :: s.connections } else s

end ByokGrid
