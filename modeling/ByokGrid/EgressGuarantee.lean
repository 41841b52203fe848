import ByokGrid.GuardedEgress

/-! What the guard of outgoing requests guarantees. Every special address outside a few blocks and
three transition forms is refused, and no run connects to a refused address. -/

namespace ByokGrid

inductive AddressUse where
  | privateNetwork
  | loopback
  | linkLocal
  | reserved
  | documentation
  | multicast
  deriving Repr, DecidableEq

def addressUses : List AddressUse :=
  [.privateNetwork, .loopback, .linkLocal, .reserved, .documentation, .multicast]

theorem mem_addressUses (use : AddressUse) : use ∈ addressUses := by
  cases use <;> decide

def AddressUse.ipv4Blocks : AddressUse → List (Subnet 32)
  | .privateNetwork =>
    [ipv4Subnet "10.0.0.0" 8, ipv4Subnet "172.16.0.0" 12, ipv4Subnet "192.168.0.0" 16, ipv4Subnet "100.64.0.0" 10]
  | .loopback => [ipv4Subnet "127.0.0.0" 8]
  | .linkLocal => [ipv4Subnet "169.254.0.0" 16]
  | .reserved =>
    [ipv4Subnet "0.0.0.0" 8, ipv4Subnet "192.0.0.0" 24, ipv4Subnet "192.88.99.0" 24, ipv4Subnet "198.18.0.0" 15,
      ipv4Subnet "240.0.0.0" 4]
  | .documentation => [ipv4Subnet "192.0.2.0" 24, ipv4Subnet "198.51.100.0" 24, ipv4Subnet "203.0.113.0" 24]
  | .multicast => [ipv4Subnet "224.0.0.0" 4]

def wholeBlock (network : String) (prefixLength : Nat) : Block 128 :=
  { subnet := ipv6Subnet network prefixLength, apartFrom := [] }

def compatiblePrefix : Subnet 128 :=
  ipv6Subnet "::" 96

def nat64Prefix : Subnet 128 :=
  ipv6Subnet "64:ff9b::" 96

def protocolAssignments (apartFrom : List (Subnet 128)) : Block 128 :=
  { subnet := ipv6Subnet "2001::" 23
    apartFrom := apartFrom ++
      [ipv6Subnet "2001:1::1" 128, ipv6Subnet "2001:1::2" 128, ipv6Subnet "2001:1::3" 128, ipv6Subnet "2001:3::" 32,
        ipv6Subnet "2001:4:112::" 48, ipv6Subnet "2001:20::" 28, ipv6Subnet "2001:30::" 28] }

/-- The lowest reserved block: what its transition forms stand for is said by the IPv4 address in them. -/
def lowestBlock (apartFrom : List (Subnet 128)) : Block 128 :=
  { subnet := ipv6Subnet "::" 8, apartFrom := apartFrom ++ [compatiblePrefix, mappedPrefix, nat64Prefix] }

def unassignedBlocks : List (Block 128) :=
  [wholeBlock "200::" 7, wholeBlock "400::" 6, wholeBlock "800::" 5, wholeBlock "1000::" 4, wholeBlock "4000::" 3,
    wholeBlock "6000::" 3, wholeBlock "8000::" 3, wholeBlock "a000::" 3, wholeBlock "c000::" 3, wholeBlock "e000::" 4,
    wholeBlock "f000::" 5, wholeBlock "f800::" 6, wholeBlock "fe00::" 9]

def AddressUse.ipv6Blocks : AddressUse → List (Block 128)
  | .privateNetwork => [wholeBlock "fc00::" 7, wholeBlock "fec0::" 10, wholeBlock "64:ff9b:1::" 48]
  | .loopback => [wholeBlock "::1" 128]
  | .linkLocal => [wholeBlock "fe80::" 10]
  | .reserved =>
    [wholeBlock "::" 128, wholeBlock "100::" 8, wholeBlock "2001:2::" 48, wholeBlock "5f00::" 16, protocolAssignments [],
      lowestBlock []] ++ unassignedBlocks
  | .documentation => [wholeBlock "2001:db8::" 32, wholeBlock "3fff::" 20]
  | .multicast => [wholeBlock "ff00::" 8]

def IsSpecialIpv4 (address : BitVec 32) : Prop :=
  ∃ use : AddressUse, ∃ subnet ∈ use.ipv4Blocks, subnet.Contains address

inductive Nat64Length where
  | length48
  | length56
  | length64
  | length96
  deriving Repr, DecidableEq

inductive TransitionForm where
  | mapped
  | compatible
  | sixToFour
  | wellKnownNat64
  | localNat64 (length : Nat64Length)
  deriving Repr, DecidableEq

def TransitionForm.subnet : TransitionForm → Subnet 128
  | .mapped => mappedPrefix
  | .compatible => compatiblePrefix
  | .sixToFour => ipv6Subnet "2002::" 16
  | .wellKnownNat64 => nat64Prefix
  | .localNat64 _ => ipv6Subnet "64:ff9b:1::" 48

/-- The IPv4 address in an address of the form: a local prefix shorter than 96 bits leaves out the bits
64 to 71. -/
def TransitionForm.embedded : TransitionForm → BitVec 128 → BitVec 32
  | .mapped, address | .compatible, address | .wellKnownNat64, address | .localNat64 .length96, address =>
    address.setWidth 32
  | .sixToFour, address => address.extractLsb' 80 32
  | .localNat64 .length48, address => address.extractLsb' 64 16 ++ address.extractLsb' 40 16
  | .localNat64 .length56, address => address.extractLsb' 64 8 ++ address.extractLsb' 32 24
  | .localNat64 .length64, address => address.extractLsb' 24 32

def IsSpecial : IpAddress → Prop
  | .ipv4 address => IsSpecialIpv4 address
  | .ipv6 address =>
    (∃ use : AddressUse, ∃ block ∈ use.ipv6Blocks, block.Covers address) ∨
      ∃ form : TransitionForm, form.subnet.Contains address ∧ IsSpecialIpv4 (form.embedded address)

def unlistedBlocks : List (Block 128) :=
  [{ wholeBlock "100::" 8 with apartFrom := [ipv6Subnet "100::" 64] }, wholeBlock "3fff::" 20, wholeBlock "5f00::" 16,
    protocolAssignments [ipv6Subnet "2001:2::" 48], lowestBlock [ipv6Subnet "64:ff9b:1::" 48]] ++ unassignedBlocks

def unlistedForms : List TransitionForm :=
  [.compatible, .sixToFour, .wellKnownNat64]

/-- A special address of a block which is not listed, or other than `::` and `::1` one which embeds an IPv4
address in a form which is not unwrapped. -/
def IsMissed : IpAddress → Prop
  | .ipv4 _ => False
  | .ipv6 address =>
    (∃ block ∈ unlistedBlocks, block.Covers address) ∨
      (address ≠ 0 ∧ address ≠ 1 ∧
        ∃ form ∈ unlistedForms, form.subnet.Contains address ∧ IsSpecialIpv4 (form.embedded address))

theorem isSpecialIpv4_iff {address : BitVec 32} : IsSpecialIpv4 address ↔ ∃ subnet ∈ blockedIpv4, subnet.Contains address := by
  have hlisted : (addressUses.all fun use => use.ipv4Blocks.all fun subnet => subnet ∈ blockedIpv4) = true := by
    decide +kernel
  have hspecial : (blockedIpv4.all fun subnet => addressUses.any fun use => subnet ∈ use.ipv4Blocks) = true := by
    decide +kernel
  constructor
  · rintro ⟨use, subnet, hsubnet, hcontains⟩
    have huse := List.all_eq_true.mp hlisted use (mem_addressUses use)
    exact ⟨subnet, of_decide_eq_true (List.all_eq_true.mp huse subnet hsubnet), hcontains⟩
  · rintro ⟨subnet, hsubnet, hcontains⟩
    obtain ⟨use, -, huse⟩ := List.any_eq_true.mp (List.all_eq_true.mp hspecial subnet hsubnet)
    exact ⟨use, subnet, of_decide_eq_true huse, hcontains⟩

theorem blockedAddresses_ipv4 {address : BitVec 32} : blockedAddresses (.ipv4 address) = true ↔ IsSpecialIpv4 address := by
  simp only [blockedAddresses, List.any_eq_true, decide_eq_true_eq, isSpecialIpv4_iff]

theorem blockedAddresses_ipv6 {address : BitVec 128} : blockedAddresses (.ipv6 address) = true ↔
    (∃ subnet ∈ blockedIpv6, subnet.Contains address) ∨
      (mappedPrefix.Contains address ∧ IsSpecialIpv4 (address.setWidth 32)) := by
  simp only [blockedAddresses, List.any_eq_true, Bool.or_eq_true, Bool.and_eq_true, decide_eq_true_eq, isSpecialIpv4_iff]

def refusedSubnets : List (Subnet 128) :=
  mappedPrefix :: blockedIpv6

theorem exists_refusedSubnet {address : BitVec 128} (h : blockedAddresses (.ipv6 address) = true) :
    ∃ subnet ∈ refusedSubnets, subnet.Contains address := by
  rcases blockedAddresses_ipv6.mp h with ⟨subnet, hsubnet, hcontains⟩ | ⟨hcontains, -⟩
  · exact ⟨subnet, List.mem_cons_of_mem _ hsubnet, hcontains⟩
  · exact ⟨mappedPrefix, List.mem_cons_self, hcontains⟩

theorem not_blocked_of_unlistedBlock {address : BitVec 128} {block : Block 128} (hblock : block ∈ unlistedBlocks)
    (hcovers : block.Covers address) : ¬ blockedAddresses (.ipv6 address) = true := by
  have hmisses : (unlistedBlocks.all fun block => refusedSubnets.all fun subnet => block.Misses subnet) = true := by
    decide +kernel
  intro h
  obtain ⟨subnet, hsubnet, hcontains⟩ := exists_refusedSubnet h
  have hrefused := List.all_eq_true.mp (List.all_eq_true.mp hmisses block hblock) subnet hsubnet
  exact (of_decide_eq_true hrefused : block.Misses subnet).not_contains hcovers hcontains

theorem not_blocked_of_unlistedForm {address : BitVec 128} {form : TransitionForm} (hform : form ∈ unlistedForms)
    (hcontains : form.subnet.Contains address) (hzero : address ≠ 0) (hone : address ≠ 1) :
    ¬ blockedAddresses (.ipv6 address) = true := by
  have hapart : (unlistedForms.all fun form => refusedSubnets.all fun subnet =>
      form.subnet.Apart subnet ∨ subnet = ⟨0, 128⟩ ∨ subnet = ⟨1, 128⟩) = true := by
    decide +kernel
  intro h
  obtain ⟨subnet, hsubnet, hin⟩ := exists_refusedSubnet h
  have hrefused := List.all_eq_true.mp (List.all_eq_true.mp hapart form hform) subnet hsubnet
  rcases of_decide_eq_true hrefused with hrefused | rfl | rfl
  · exact hrefused.not_contains hcontains hin
  · exact hzero (Subnet.contains_full_iff.mp hin)
  · exact hone (Subnet.contains_full_iff.mp hin)

theorem not_blocked_of_isMissed {address : IpAddress} (h : IsMissed address) : ¬ blockedAddresses address = true := by
  cases address with
  | ipv4 address => exact h.elim
  | ipv6 address =>
    rcases h with ⟨block, hblock, hcovers⟩ | ⟨hzero, hone, form, hform, hcontains, -⟩
    · exact not_blocked_of_unlistedBlock hblock hcovers
    · exact not_blocked_of_unlistedForm hform hcontains hzero hone

theorem blocked_or_missed_of_block {address : BitVec 128} {use : AddressUse} {block : Block 128} (hblock : block ∈ use.ipv6Blocks)
    (hcovers : block.Covers address) : blockedAddresses (.ipv6 address) = true ∨ IsMissed (.ipv6 address) := by
  have hall : (addressUses.all fun use => use.ipv6Blocks.all fun block =>
      block.subnet ∈ blockedIpv6 ∨ ∃ other ∈ unlistedBlocks, Block.WithinUpTo blockedIpv6 block other) = true := by
    decide +kernel
  have huse := List.all_eq_true.mp hall use (mem_addressUses use)
  rcases of_decide_eq_true (List.all_eq_true.mp huse block hblock) with hlisted | ⟨other, hother, hwithin⟩
  · exact .inl (blockedAddresses_ipv6.mpr (.inl ⟨block.subnet, hlisted, hcovers.1⟩))
  · rcases hwithin.covers hcovers with hmissed | hlisted
    · exact .inr (.inl ⟨other, hother, hmissed⟩)
    · exact .inl (blockedAddresses_ipv6.mpr (.inl hlisted))

theorem blocked_of_listed {address : BitVec 128} (subnet : Subnet 128) (hlisted : subnet ∈ blockedIpv6)
    (hcontains : subnet.Contains address) : blockedAddresses (.ipv6 address) = true :=
  blockedAddresses_ipv6.mpr (.inl ⟨subnet, hlisted, hcontains⟩)

theorem blocked_or_missed_of_form {address : BitVec 128} {form : TransitionForm} (hcontains : form.subnet.Contains address)
    (hspecial : IsSpecialIpv4 (form.embedded address)) :
    blockedAddresses (.ipv6 address) = true ∨ IsMissed (.ipv6 address) := by
  have hunlisted : form ∈ unlistedForms → blockedAddresses (.ipv6 address) = true ∨ IsMissed (.ipv6 address) := by
    intro hform
    by_cases hzero : address = 0
    · exact .inl (blocked_of_listed ⟨0, 128⟩ (by decide +kernel) (Subnet.contains_full_iff.mpr hzero))
    by_cases hone : address = 1
    · exact .inl (blocked_of_listed ⟨1, 128⟩ (by decide +kernel) (Subnet.contains_full_iff.mpr hone))
    exact .inr (.inr ⟨hzero, hone, form, hform, hcontains, hspecial⟩)
  cases form with
  | mapped => exact .inl (blockedAddresses_ipv6.mpr (.inr ⟨hcontains, hspecial⟩))
  | compatible => exact hunlisted (by decide)
  | sixToFour => exact hunlisted (by decide)
  | wellKnownNat64 => exact hunlisted (by decide)
  | localNat64 length => exact .inl (blocked_of_listed (ipv6Subnet "64:ff9b:1::" 48) (by decide +kernel) hcontains)

theorem blocked_or_missed {address : IpAddress} (h : IsSpecial address) :
    blockedAddresses address = true ∨ IsMissed address := by
  cases address with
  | ipv4 address => exact .inl (blockedAddresses_ipv4.mpr h)
  | ipv6 address =>
    rcases h with ⟨use, block, hblock, hcovers⟩ | ⟨form, hcontains, hspecial⟩
    · exact blocked_or_missed_of_block hblock hcovers
    · exact blocked_or_missed_of_form hcontains hspecial

theorem IsMissed.isSpecial {address : IpAddress} (h : IsMissed address) : IsSpecial address := by
  cases address with
  | ipv4 address => exact h.elim
  | ipv6 address =>
    rcases h with ⟨block, hblock, hcovers⟩ | ⟨-, -, form, -, hcontains, hspecial⟩
    · have hall : (unlistedBlocks.all fun block =>
          addressUses.any fun use => use.ipv6Blocks.any fun other => Block.WithinUpTo [] block other) = true := by
        decide +kernel
      obtain ⟨use, -, huse⟩ := List.any_eq_true.mp (List.all_eq_true.mp hall block hblock)
      obtain ⟨other, hother, hwithin⟩ := List.any_eq_true.mp huse
      rcases (of_decide_eq_true hwithin : Block.WithinUpTo [] block other).covers hcovers with hspecial | ⟨_, hnone, -⟩
      · exact .inl ⟨use, other, hother, hspecial⟩
      · cases hnone
    · exact .inr ⟨form, hcontains, hspecial⟩

theorem blocksSpecial_iff {text : String} {family : AddressFamily} :
    (∀ address, readAddress text family = some address → IsSpecial address → isBlockedEgressAddress text family = true) ↔
      ¬ ∃ address, readAddress text family = some address ∧ IsMissed address := by
  have hblocked : ∀ address, readAddress text family = some address →
      (isBlockedEgressAddress text family = blockedAddresses address) := by
    intro address hread
    rw [isBlockedEgressAddress, hread, Option.any_some]
  constructor
  · rintro h ⟨address, hread, hmissed⟩
    have hblocks := h address hread hmissed.isSpecial
    rw [hblocked address hread] at hblocks
    exact not_blocked_of_isMissed hmissed hblocks
  · intro h address hread hspecial
    rw [hblocked address hread]
    rcases blocked_or_missed hspecial with hblocks | hmissed
    · exact hblocks
    · exact absurd ⟨address, hread, hmissed⟩ h

def Permitted (record : LookupAddress) : Prop :=
  isBlockedEgressAddress record.address record.family = false

structure EgressGuarded (s : EgressState) : Prop where
  dispatched : ∀ request ∈ s.dispatched, request.2 ≠ .follow
  returned : ∀ entry ∈ s.returned, Permitted entry.2
  connections : ∀ record ∈ s.connections, Permitted record

def EgressEvent.StaysOnUrl : EgressEvent → Prop
  | .fetch _ redirect => redirect ≠ .follow
  | _ => True

theorem permitted_of_guardedLookup {answer : Except String (List LookupAddress)} {records : List LookupAddress}
    (h : guardedLookup answer = .ok records) : ∀ record ∈ records, Permitted record := by
  cases answer with
  | error code => cases h
  | ok addresses =>
    rw [guardedLookup] at h
    split at h
    case isTrue => cases h
    case isFalse hnone =>
      cases h
      intro record hrecord
      have hany := Bool.eq_false_iff.mpr fun hany => hnone (.inr hany)
      exact Bool.eq_false_iff.mpr (List.any_eq_false.mp hany record hrecord)

theorem permitted_literalHost {hostname : String} (h : refusesHost hostname = false) :
    ∀ record ∈ (literalHost hostname).toList, Permitted record := by
  intro record hrecord
  rw [Option.mem_toList] at hrecord
  rw [refusesHost, hrecord, Option.any_some] at h
  exact h

theorem egressStep_guarded {s : EgressState} (h : EgressGuarded s) {event : EgressEvent} (hevent : event.StaysOnUrl) :
    EgressGuarded (egressStep s event) := by
  cases event with
  | fetch hostname redirect =>
    rw [egressStep]
    split
    case isTrue => exact h
    case isFalse hrefused =>
      refine ⟨fun request hrequest => ?_, h.returned, fun record hrecord => ?_⟩
      · rcases List.mem_cons.mp hrequest with rfl | hrequest
        · exact hevent
        · exact h.dispatched request hrequest
      · rcases List.mem_append.mp hrecord with hrecord | hrecord
        · exact permitted_literalHost (Bool.eq_false_iff.mpr hrefused) record hrecord
        · exact h.connections record hrecord
  | redirected hostname location =>
    rw [egressStep, if_neg fun hin => h.dispatched _ hin rfl]
    exact h
  | lookedUp hostname answer =>
    rw [egressStep]
    split
    case isTrue =>
      cases hanswer : guardedLookup answer with
      | error code => exact h
      | ok records =>
        refine ⟨h.dispatched, fun entry hentry => ?_, h.connections⟩
        rcases List.mem_append.mp hentry with hentry | hentry
        · obtain ⟨record, hrecord, rfl⟩ := List.mem_map.mp hentry
          exact permitted_of_guardedLookup hanswer record hrecord
        · exact h.returned entry hentry
    case isFalse => exact h
  | connected hostname record =>
    rw [egressStep]
    split
    case isTrue hreturned =>
      refine ⟨h.dispatched, h.returned, fun other hother => ?_⟩
      rcases List.mem_cons.mp hother with rfl | hother
      · exact h.returned _ hreturned
      · exact h.connections other hother
    case isFalse => exact h

theorem egressRun_guarded {events : List EgressEvent} (h : ∀ event ∈ events, event.StaysOnUrl) :
    EgressGuarded (runActions egressStep {} events) := by
  have hinit : EgressGuarded {} := by
    refine ⟨?_, ?_, ?_⟩ <;> intro entry hentry <;> cases hentry
  have hrun : EachStep egressStep (fun _ event => event.StaysOnUrl) {} events := by
    rw [eachStep_iff]
    rintro xs event ys rfl
    exact h event (List.mem_append_right xs List.mem_cons_self)
  have hstep : ∀ s event, EgressGuarded s → EgressEvent.StaysOnUrl event → EgressGuarded (egressStep s event) :=
    fun _ _ hs hevent => egressStep_guarded hs hevent
  exact EachStep.invariant hstep hrun hinit

/-- The deny list has every special address but the missed ones, and whatever the resolver answers, now or
earlier, no request is sent to an address of the list. -/
theorem egressGuard_exact (text : String) (family : AddressFamily) (events : List EgressEvent)
    (hevents : ∀ event ∈ events, event.StaysOnUrl) :
    ((∀ address, readAddress text family = some address → IsSpecial address → isBlockedEgressAddress text family = true) ↔
      ¬ ∃ address, readAddress text family = some address ∧ IsMissed address) ∧
      ∀ record ∈ (runActions egressStep {} events).connections,
        isBlockedEgressAddress record.address record.family = false :=
  ⟨blocksSpecial_iff, (egressRun_guarded hevents).connections⟩

def rebindingEvents : List EgressEvent :=
  [.fetch "[::ffff:7f00:1]" .manual, .fetch "a.example" .manual, .lookedUp "a.example" (.ok [⟨"8.8.8.8", .ipv4⟩]),
    .connected "a.example" ⟨"8.8.8.8", .ipv4⟩, .lookedUp "a.example" (.ok [⟨"8.8.8.8", .ipv4⟩, ⟨"127.0.0.1", .ipv4⟩]),
    .connected "a.example" ⟨"127.0.0.1", .ipv4⟩, .fetch "[2606:4700::1]" .error]

theorem egressGuard_exact_rebinding :
    (runActions egressStep {} rebindingEvents).connections = [⟨"2606:4700::1", .ipv6⟩, ⟨"8.8.8.8", .ipv4⟩] ∧
      isBlockedEgressAddress "8.8.8.8" .ipv4 = false := by
  have hconnections : (runActions egressStep {} rebindingEvents).connections = [⟨"2606:4700::1", .ipv6⟩, ⟨"8.8.8.8", .ipv4⟩] := by
    decide +kernel
  have hevents : ∀ event ∈ rebindingEvents, event.StaysOnUrl := by
    intro event hevent
    simp only [rebindingEvents, List.mem_cons, List.not_mem_nil, or_false] at hevent
    rcases hevent with rfl | rfl | rfl | rfl | rfl | rfl | rfl <;> simp [EgressEvent.StaysOnUrl]
  refine ⟨hconnections, (egressGuard_exact "8.8.8.8" .ipv4 rebindingEvents hevents).2 ⟨"8.8.8.8", .ipv4⟩ ?_⟩
  rw [hconnections]
  exact List.mem_cons_of_mem _ List.mem_cons_self

/-- The loopback address 127.0.0.1 as a 6to4 address. -/
theorem loopback_unwrapped : ¬ ∀ text family address, readAddress text family = some address → IsSpecial address →
    isBlockedEgressAddress text family = true := by
  intro h
  have hread : readAddress "2002:7f00:1::" .ipv6 = some (.ipv6 0x20027f00000100000000000000000000) := by decide +kernel
  have hspecial : IsSpecial (.ipv6 0x20027f00000100000000000000000000) :=
    .inr ⟨.sixToFour, by decide +kernel, .loopback, ipv4Subnet "127.0.0.0" 8, List.mem_cons_self, by decide +kernel⟩
  have hblocked : isBlockedEgressAddress "2002:7f00:1::" .ipv6 = false := by decide +kernel
  rw [h "2002:7f00:1::" .ipv6 _ hread hspecial] at hblocked
  cases hblocked

end ByokGrid
