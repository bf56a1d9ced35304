import Mathlib.Data.Bool.AllAny
import Mathlib.Tactic.IntervalCases
import LorawanFeeds.IpConfig.AtTokens
import LorawanFeeds.IpConfig.BackEnds

/-!
# One network, three back ends

What the profile holds after a modem has reported a network over QMI, over MBIM or over the AT channel.
QMI leaves the record the interface is configured from. MBIM turns the mask and the MTU around, which
are little-endian words already, and the dotted form of the AT channel is put together with its first
number in the lowest byte.
-/
namespace LorawanFeeds.IpConfig

open Lib Memory
open QmiClient (getTLV Carries messageOf)

/-! ### The bytes of a word the other way round -/

theorem mbim2qmiIpv4addr_word (a b c d : UInt8) :
    mbim2qmiIpv4addr (word a b c d) = word d c b a := by
  apply UInt32.toBitVec_inj.mp
  apply BitVec.eq_of_getLsbD_eq
  intro i inside
  have bits {k : Nat} (low : k < 32) : (word a b c d).toBitVec[k] = _ :=
    (BitVec.getLsbD_eq_getElem low).symm.trans (getLsbD_word a b c d low)
  rw [getLsbD_word d c b a inside]
  simp only [mbim2qmiIpv4addr, UInt32.toBitVec_or, UInt32.toBitVec_and, UInt32.toBitVec_shiftLeft,
    UInt32.toBitVec_shiftRight, BitVec.getLsbD_or, BitVec.getLsbD_and]
  simp
  interval_cases i <;> simp (disch := decide) [bits]

/-- The bytes of a word read the same from both ends. -/
def Symmetric (w : UInt32) : Prop := (bytesOf w).reverse = bytesOf w

instance (w : UInt32) : Decidable (Symmetric w) := inferInstanceAs (Decidable (_ = _))

theorem symmetric_word (a b c d : UInt8) : Symmetric (word a b c d) ↔ a = d ∧ b = c := by
  rw [Symmetric, bytesOf_word]
  simp only [List.reverse_cons, List.reverse_nil, List.nil_append, List.cons_append, List.cons.injEq,
    and_true]
  grind

theorem mbim2qmiIpv4addr_eq_self (w : UInt32) : mbim2qmiIpv4addr w = w ↔ Symmetric w := by
  rw [← word_bytes w, mbim2qmiIpv4addr_word, word_inj, symmetric_word]
  grind

/-- The mask that MBIM computes is the mask of the prefix, but no other one reads the same from both
ends than that of a single address. -/
theorem onLinkMask_turned : ∀ prefixLength ≤ 32,
    (onLinkMask (Nat.toUInt8 prefixLength)).map mbim2qmiIpv4addr = some (netmask prefixLength) ↔
      prefixLength = 32 := by
  decide

/-! ### The record over QMI -/

/-- The first record of this type has the value. -/
def Has (ts : List Tlv) (type : UInt8) (value : List UInt8) : Prop :=
  ∃ t, ts.find? (·.type = type) = some t ∧ t.value = value

/-- The first record of this type has the value, if there is one. -/
def Admits (ts : List Tlv) (type : UInt8) (value : List UInt8) : Prop :=
  ∀ t, ts.find? (·.type = type) = some t → t.value = value

section

variable {m : Memory} {ts : List Tlv} {type : UInt8} {value : List UInt8}

theorem Has.found {α : Type} (has : Has ts type value) (carries : Carries m ts) (read : Nat → α)
    (old : α) : ∃ p, m.Holds (p + 3) value ∧ ofTlv m type read old = read p := by
  obtain ⟨t, first, rfl⟩ := has
  obtain ⟨p, found, holds⟩ := carries.getTLV_some first
  refine ⟨p, Tlv.holds_value holds, ?_⟩
  rw [ofTlv, found]
  rfl

theorem Has.word {w : UInt32} (has : Has ts type (bytesOf w)) (carries : Carries m ts) (old : UInt32) :
    ofTlv m type (tlvWord m) old = w := by
  obtain ⟨p, holds, eq⟩ := has.found carries (tlvWord m) old
  rw [eq, tlvWord, holds.le32_eq]

theorem read_address {ip : Ip6} {p : Nat} {more : List UInt8} (holds : m.Holds p (ip.bytes ++ more)) :
    m.read p 16 = ip.bytes := by
  rw [← ip.size]
  exact (holds_append.mp holds).1.read_eq

theorem Has.address {ip : Ip6} {more : List UInt8} (has : Has ts type (ip.bytes ++ more))
    (carries : Carries m ts) (old : List UInt8) : ofTlv m type (tlvAddress m) old = ip.bytes := by
  obtain ⟨p, holds, eq⟩ := has.found carries (tlvAddress m) old
  rw [eq, tlvAddress, read_address holds]

theorem Has.length {ip : Ip6} {length : UInt8} (has : Has ts type (ip.bytes ++ [length]))
    (carries : Carries m ts) (old : UInt8) : ofTlv m type (fun p => m (p + 19)) old = length := by
  obtain ⟨p, holds, eq⟩ := has.found carries (fun p => m (p + 19)) old
  have last := (holds_append.mp holds).2 0 (by simp)
  rw [ip.size] at last
  rw [eq]
  exact last

/-- A record with the value that is there already changes nothing. -/
theorem Admits.word {w : UInt32} (admits : Admits ts type (bytesOf w)) (carries : Carries m ts) :
    ofTlv m type (tlvWord m) w = w := by
  cases first : ts.find? (·.type = type) with
  | none =>
    have none := List.find?_eq_none.mp first
    rw [ofTlv, carries.getTLV_none (by simpa using none)]
    rfl
  | some t => exact Has.word ⟨t, first, admits t first⟩ carries w

end

/-- The records of an IPv4 configuration, but for the MTU. -/
def Ipv4.records (ipv4 : Ipv4) : List (UInt8 × UInt32) :=
  [(tlvIpv4, ipv4.address), (tlvIpv4Gateway, ipv4.gateway), (tlvIpv4Subnet, ipv4.subnetMask),
    (tlvIpv4PrimaryDns, ipv4.dnsPrimary), (tlvIpv4SecondaryDns, ipv4.dnsSecondary)]

/-- A response without an error. -/
structure Answers (m : Memory) (ts : List Tlv) : Prop where
  carries : Carries m ts
  result : qmuxResult m = 0
  error : qmuxError m = 0

/-- The response to the IPv4 request. -/
structure QmiCarries4 (net : Network4) (ts : List Tlv) : Prop where
  records : ∀ record ∈ net.record.records, Has ts record.1 (bytesOf record.2)
  mtu : Has ts tlvMtu (bytesOf net.mtu)

/-- The response to the IPv6 request. The records of the other family say nothing else in it. -/
structure QmiCarries6 (v4 : Ipv4) (net : Network6) (ts : List Tlv) : Prop where
  address : Has ts tlvIpv6 (net.address.bytes ++ [net.prefixLength.toUInt8])
  gateway : Has ts tlvIpv6Gateway (net.gateway.bytes ++ [net.prefixLength.toUInt8])
  dns1 : Has ts tlvIpv6PrimaryDns net.dns1.bytes
  dns2 : Has ts tlvIpv6SecondaryDns net.dns2.bytes
  mtu : Has ts tlvMtu (bytesOf net.mtu)
  others : ∀ record ∈ v4.records, Admits ts record.1 (bytesOf record.2)

/-- The two calls of `requestGetIPAddress`, each with the handle of its data call and its response. -/
def qmiConfig (profile : Profile) (call4 call6 : UInt32 × Memory) : Profile :=
  let profile := (qmiRequestGetIPAddress profile .v4 call4.1 0 (some call4.2)).2
  (qmiRequestGetIPAddress profile .v6 call6.1 0 (some call6.2)).2

def Network.record4 (network : Network) : Ipv4 := (network.v4.map Network4.record).getD {}
def Network.record6 (network : Network) : Ipv6 := (network.v6.map Network6.record).getD {}

/-- A family that the network does not have has no data call. -/
structure QmiCarries (network : Network) (call4 call6 : UInt32 × Memory) : Prop where
  absent4 : call4.1 = 0 ↔ network.v4 = none
  absent6 : call6.1 = 0 ↔ network.v6 = none
  present4 : ∀ net ∈ network.v4, ∃ ts, Answers call4.2 ts ∧ QmiCarries4 net ts
  present6 : ∀ net ∈ network.v6, ∃ ts, Answers call6.2 ts ∧ QmiCarries6 network.record4 net ts

section

variable {network : Network} {profile : Profile} {handle : UInt32} {m : Memory} {ts : List Tlv}

theorem qmiRequest_answered (family : IpFamily) (call : handle ≠ 0) (answers : Answers m ts) :
    (qmiRequestGetIPAddress profile family handle 0 (some m)).2 = runtimeSettings m family
      (match family with
        | .v4 => { profile with ipv4 := {} }
        | .v6 => { profile with ipv6 := {} }) := by
  cases family <;> simp [qmiRequestGetIPAddress, call, answers.result, answers.error]

theorem runtimeSettings_v4 {net : Network4} (answers : Answers m ts) (carries : QmiCarries4 net ts) :
    (runtimeSettings m .v4 profile).ipv4 = net.record := by
  have word {type : UInt8} {w : UInt32} (listed : (type, w) ∈ net.record.records) (old : UInt32) :
      ofTlv m type (tlvWord m) old = w :=
    (carries.records _ listed).word answers.carries old
  have mtu (old : UInt32) := carries.mtu.word answers.carries old
  simp only [runtimeSettings, if_true, mtu]
  rw [@word tlvIpv4PrimaryDns net.record.dnsPrimary (by simp [Ipv4.records]),
    @word tlvIpv4SecondaryDns net.record.dnsSecondary (by simp [Ipv4.records]),
    @word tlvIpv4Gateway net.record.gateway (by simp [Ipv4.records]),
    @word tlvIpv4Subnet net.record.subnetMask (by simp [Ipv4.records]),
    @word tlvIpv4 net.record.address (by simp [Ipv4.records])]
  rfl

theorem runtimeSettings_v6 {net : Network6} (answers : Answers m ts)
    (carries : QmiCarries6 profile.ipv4 net ts) (zeroed : profile.ipv6 = {}) :
    (runtimeSettings m .v6 profile).ipv4 = profile.ipv4 ∧
    (runtimeSettings m .v6 profile).ipv6 = net.record := by
  have same {type : UInt8} {w : UInt32} (listed : (type, w) ∈ profile.ipv4.records) :
      ofTlv m type (tlvWord m) w = w :=
    (carries.others _ listed).word answers.carries
  have server {type : UInt8} {ip : Ip6} (has : Has ts type ip.bytes) (old : List UInt8) :
      ofTlv m type (tlvAddress m) old = ip.bytes :=
    (show Has ts type (ip.bytes ++ []) by rwa [List.append_nil]).address answers.carries old
  constructor
  · simp only [runtimeSettings, reduceCtorEq, if_false]
    rw [same (by simp [Ipv4.records]), same (by simp [Ipv4.records]), same (by simp [Ipv4.records]),
      same (by simp [Ipv4.records]), same (by simp [Ipv4.records])]
  · simp only [runtimeSettings, reduceCtorEq, if_false, carries.mtu.word answers.carries,
      carries.address.address answers.carries, carries.gateway.address answers.carries,
      carries.address.length answers.carries, carries.gateway.length answers.carries,
      server carries.dns1, server carries.dns2, zeroed]
    rfl

/-- Over QMI the profile has the record of the network. -/
theorem QmiCarries.records {call4 call6 : UInt32 × Memory} (carries : QmiCarries network call4 call6) :
    (qmiConfig profile call4 call6).ipv4 = network.record4 ∧
    (qmiConfig profile call4 call6).ipv6 = network.record6 := by
  have first : (qmiRequestGetIPAddress profile .v4 call4.1 0 (some call4.2)).2.ipv4 =
      network.record4 := by
    cases family : network.v4 with
    | none =>
      rw [qmiRequestGetIPAddress, if_pos (carries.absent4.mpr family), Network.record4, family]
      rfl
    | some net =>
      obtain ⟨ts, answers, values⟩ := carries.present4 net family
      have call : call4.1 ≠ 0 := fun zero => by simp [carries.absent4.mp zero] at family
      rw [qmiRequest_answered .v4 call answers, runtimeSettings_v4 answers values, Network.record4,
        family]
      rfl
  rw [qmiConfig]
  generalize (qmiRequestGetIPAddress profile .v4 call4.1 0 (some call4.2)).2 = between at first ⊢
  cases family : network.v6 with
  | none =>
    rw [qmiRequestGetIPAddress, if_pos (carries.absent6.mpr family), Network.record6, family]
    exact ⟨first, rfl⟩
  | some net =>
    obtain ⟨ts, answers, values⟩ := carries.present6 net family
    have call : call6.1 ≠ 0 := fun zero => by simp [carries.absent6.mp zero] at family
    rw [← first] at values
    rw [qmiRequest_answered .v6 call answers]
    obtain ⟨v4, v6⟩ := @runtimeSettings_v6 { between with ipv6 := {} } call6.2 ts net answers values rfl
    rw [v4, v6, Network.record6, family]
    exact ⟨first, rfl⟩

end

/-! ### The record over MBIM -/

/-- The four bytes of an address, in the order in which they are printed. -/
def Ip4.bytes (ip : Ip4) : List UInt8 := [ip.a, ip.b, ip.c, ip.d]

/-- What `MBIM_IP_CONFIGURATION_INFO_T` has for a family: everything is available, the element has the
length of the prefix and the address, and there are two servers. -/
structure InfoCarries (m : Memory) (words : InfoWords) (prefixLength : Nat)
    (address gateway dns1 dns2 : List UInt8) (mtu : UInt32) : Prop where
  available : ∀ bit ∈ [(1 : UInt32), 2, 4, 8], availableBit m words bit = true
  element : m.Holds (infoPlace m words.addressOffset) (bytesOf prefixLength.toUInt32 ++ address)
  gateway : m.Holds (infoPlace m words.gatewayOffset) gateway
  count : infoWord m words.dnsServerCount = 2
  servers : m.Holds (infoPlace m words.dnsServerOffset) (dns1 ++ dns2)
  mtu : infoWord m words.mtu = mtu

/-- An IP configuration response. A family that the network does not have is not available. -/
structure MbimCarries (network : Network) (m : Memory) : Prop where
  information : m.le32 44 ≠ 0
  absent4 : network.v4 = none → availableBit m infoIpv4 1 = false
  absent6 : network.v6 = none → availableBit m infoIpv6 1 = false
  present4 : ∀ net ∈ network.v4, InfoCarries m infoIpv4 net.prefixLength net.address.bytes
    net.gateway.bytes net.dns1.bytes net.dns2.bytes net.mtu
  present6 : ∀ net ∈ network.v6, InfoCarries m infoIpv6 net.prefixLength net.address.bytes
    net.gateway.bytes net.dns1.bytes net.dns2.bytes net.mtu

section

variable {m : Memory} {words : InfoWords} {prefixLength : Nat}
  {address gateway dns1 dns2 : List UInt8} {mtu : UInt32}

theorem turned_address {ip : Ip4} {p : Nat} (holds : m.Holds p ip.bytes) :
    mbim2qmiIpv4addr (m.le32 p) = ip.value := by
  rw [holds_four holds, mbim2qmiIpv4addr_word, Ip4.value]

namespace InfoCarries

variable (carries : InfoCarries m words prefixLength address gateway dns1 dns2 mtu)

include carries

theorem bits : availableBit m words 1 = true ∧ availableBit m words 2 = true ∧
    availableBit m words 4 = true ∧ availableBit m words 8 = true :=
  ⟨carries.available 1 (by simp), carries.available 2 (by simp), carries.available 4 (by simp),
    carries.available 8 (by simp)⟩

theorem length : (m.le32 (infoPlace m words.addressOffset)).toUInt8 = prefixLength.toUInt8 := by
  rw [(holds_append.mp carries.element).1.le32_eq]
  simp [Nat.toUInt32, Nat.toUInt8]

theorem holds_address : m.Holds (infoPlace m words.addressOffset + 4) address :=
  (holds_append.mp carries.element).2

theorem gatewayPlace_eq : gatewayPlace m words = some (infoPlace m words.gatewayOffset) :=
  if_pos carries.bits.2.1

theorem dns1Place_eq : dns1Place m words = some (infoPlace m words.dnsServerOffset) :=
  if_pos carries.bits.2.2.1

theorem dns2Place_eq (size : Nat) :
    dns2Place m words size = some (infoPlace m words.dnsServerOffset + size) :=
  if_pos ⟨carries.bits.2.2.1, carries.count⟩

end InfoCarries

/-- The IPv4 half: all of the record but the mask and the MTU is that of the network. -/
theorem mbimIpv4_carried {net : Network4} {ipv4 : Ipv4} {mtu : UInt32}
    (carries : InfoCarries m infoIpv4 net.prefixLength net.address.bytes net.gateway.bytes
      net.dns1.bytes net.dns2.bytes net.mtu) :
    mbimIpv4 m ipv4 mtu = (onLinkMask net.prefixLength.toUInt8).map fun mask =>
      ({ net.record with subnetMask := mbim2qmiIpv4addr mask, mtu := mbim2qmiIpv4addr net.mtu },
        net.mtu) := by
  have servers := holds_append.mp carries.servers
  rw [mbimIpv4, if_pos carries.bits.1]
  simp only [carries.length, carries.gatewayPlace_eq, carries.dns1Place_eq, carries.dns2Place_eq,
    carries.bits.2.2.2, carries.mtu, if_true, Option.elim_some, turned_address carries.holds_address,
    turned_address carries.gateway, turned_address servers.1,
    show mbim2qmiIpv4addr (m.le32 (infoPlace m infoIpv4.dnsServerOffset + 4)) = net.dns2.value
      from turned_address servers.2]
  rfl

/-- The IPv6 half. -/
theorem mbimIpv6_carried {net : Network6} {mtu : UInt32}
    (carries : InfoCarries m infoIpv6 net.prefixLength net.address.bytes net.gateway.bytes
      net.dns1.bytes net.dns2.bytes net.mtu) :
    mbimIpv6 m {} mtu = { net.record with mtu := mbim2qmiIpv4addr net.mtu } := by
  have whole {ip : Ip6} {p : Nat} (holds : m.Holds p ip.bytes) : m.read p 16 = ip.bytes := by
    rw [← ip.size]
    exact holds.read_eq
  have servers := holds_append.mp carries.servers
  rw [net.dns1.size] at servers
  rw [mbimIpv6, if_pos carries.bits.1]
  simp only [carries.length, carries.gatewayPlace_eq, carries.dns1Place_eq, carries.dns2Place_eq,
    carries.bits.2.2.2, carries.mtu, if_true, Option.elim_some, whole carries.holds_address,
    whole carries.gateway, whole servers.1, whole servers.2]
  rfl

end

/-! ### Agreement -/

/-- What the modem answers on each of the three ways. -/
structure Reports where
  call4 : UInt32 × Memory
  call6 : UInt32 × Memory
  mbim : Memory
  modem : AtModem

/-- All of it is about this network, which the context of the profile belongs to. -/
structure Carried (network : Network) (profile : Profile) (reports : Reports) : Prop where
  qmi : QmiCarries network reports.call4 reports.call6
  mbim : MbimCarries network reports.mbim
  modem : ∃ pdp : Nat, profile.pdp = pdp ∧ pdp < 2 ^ 31 ∧
    ∀ net ∈ network.v4, AtCarries reports.modem pdp net.address

/-- The three back ends describe the network in the same way, and the interface is configured with the
values of the network. -/
structure Agree (network : Network) (profile : Profile) (reports : Reports) : Prop where
  mbim : ∃ after, mbimIpConfig profile reports.mbim = some after ∧
    after.ipv4 = (qmiConfig profile reports.call4 reports.call6).ipv4 ∧
    after.ipv6 = (qmiConfig profile reports.call4 reports.call6).ipv6 ∧
    after.configures = network.reported profile.rawIP
  qmi : (qmiConfig profile reports.call4 reports.call6).configures = network.reported profile.rawIP
  modem : ∀ net ∈ network.v4, (atRequestGetIPAddress reports.modem profile).2.ipv4.address =
    (qmiConfig profile reports.call4 reports.call6).ipv4.address

/-- The values that MBIM and the AT channel turn around stay as they are. -/
structure Palindromic (network : Network) : Prop where
  v4 : ∀ net ∈ network.v4, net.prefixLength = 32 ∧ Symmetric net.mtu ∧ Symmetric net.address.value
  v6 : ∀ net ∈ network.v6, Symmetric net.mtu

section

variable {network : Network} {m : Memory}

theorem qmiRequest_rawIP (profile : Profile) (family : IpFamily) (handle : UInt32) (m : Memory) :
    (qmiRequestGetIPAddress profile family handle 0 (some m)).2.rawIP = profile.rawIP := by
  cases family <;> simp only [qmiRequestGetIPAddress] <;> repeat' split
  all_goals rfl

theorem mbimIpv4_eq_record (carries : MbimCarries network m) (mtu : UInt32) :
    (∃ mtu', mbimIpv4 m {} mtu = some (network.record4, mtu')) ↔
      ∀ net ∈ network.v4, net.prefixLength = 32 ∧ Symmetric net.mtu := by
  cases family : network.v4 with
  | none =>
    have absent := carries.absent4 family
    simp [mbimIpv4, absent, Network.record4, family]
  | some net =>
    have turned := onLinkMask_turned net.prefixLength net.inRange
    rw [mbimIpv4_carried (carries.present4 net family), Network.record4, family]
    cases mask : onLinkMask net.prefixLength.toUInt8 with
    | none =>
      rw [mask] at turned
      simpa using fun whole => absurd (turned.mpr whole) (by simp)
    | some bits =>
      rw [mask, Option.map_some, Option.some_inj] at turned
      simp only [Option.map_some, Option.getD_some, Option.some_inj, Prod.mk.injEq, exists_eq_right',
        Option.mem_some_iff, forall_eq', ← turned, ← mbim2qmiIpv4addr_eq_self]
      simp [Network4.record]

theorem mbimIpv6_eq_record (carries : MbimCarries network m) (mtu : UInt32) :
    mbimIpv6 m {} mtu = network.record6 ↔ ∀ net ∈ network.v6, Symmetric net.mtu := by
  cases family : network.v6 with
  | none =>
    have absent := carries.absent6 family
    simp [mbimIpv6, absent, Network.record6, family]
  | some net =>
    rw [mbimIpv6_carried (carries.present6 net family), Network.record6, family]
    simp only [Option.map_some, Option.getD_some, Option.mem_some_iff, forall_eq',
      ← mbim2qmiIpv4addr_eq_self]
    simp [Network6.record]

/-- MBIM leaves the record of the network if nothing is changed by turning it around. -/
theorem mbimIpConfig_eq_record {profile : Profile} (carries : MbimCarries network m)
    (zeroed4 : profile.ipv4 = {}) (zeroed6 : profile.ipv6 = {}) :
    (∃ after, mbimIpConfig profile m = some after ∧ after.rawIP = profile.rawIP ∧
        after.ipv4 = network.record4 ∧ after.ipv6 = network.record6) ↔
      (∀ net ∈ network.v4, net.prefixLength = 32 ∧ Symmetric net.mtu) ∧
      ∀ net ∈ network.v6, Symmetric net.mtu := by
  rw [← mbimIpv4_eq_record carries 1500, mbimIpConfig, if_pos carries.information, zeroed4, zeroed6]
  constructor
  · rintro ⟨after, done, -, v4, v6⟩
    obtain ⟨⟨ipv4, mtu⟩, half, rfl⟩ := Option.map_eq_some_iff.mp done
    cases v4
    exact ⟨⟨mtu, half⟩, (mbimIpv6_eq_record carries mtu).mp v6⟩
  · rintro ⟨⟨mtu, half⟩, v6⟩
    rw [half]
    exact ⟨_, rfl, rfl, rfl, (mbimIpv6_eq_record carries mtu).mpr v6⟩

/-- The AT channel leaves the address of the network if that can be turned around. -/
theorem symmetric_address (ip : Ip4) : word ip.a ip.b ip.c ip.d = ip.value ↔ Symmetric ip.value := by
  rw [Ip4.value, symmetric_word, word_inj]
  grind

end

section

variable {network : Network} {profile : Profile} {reports : Reports}

/-- What the AT channel leaves, beside what QMI leaves. -/
theorem Carried.address_iff (carried : Carried network profile reports) (zeroed : profile.ipv4 = {})
    {net : Network4} (present : net ∈ network.v4) :
    (atRequestGetIPAddress reports.modem profile).2.ipv4.address =
      (qmiConfig profile reports.call4 reports.call6).ipv4.address ↔ Symmetric net.address.value := by
  obtain ⟨pdp, context, fits, modem⟩ := carried.modem
  rw [(modem net present).address fits context (by rw [zeroed]), carried.qmi.records.1,
    Network.record4, present]
  exact symmetric_address net.address

theorem Agree.palindromic (carried : Carried network profile reports) (zeroed4 : profile.ipv4 = {})
    (zeroed6 : profile.ipv6 = {}) (agree : Agree network profile reports) : Palindromic network := by
  obtain ⟨⟨after, done, v4, v6, -⟩, -, same⟩ := agree
  obtain ⟨qmi4, qmi6⟩ := @QmiCarries.records network profile _ _ carried.qmi
  have rawIP : after.rawIP = profile.rawIP := by
    rw [mbimIpConfig, if_pos carried.mbim.information] at done
    obtain ⟨_, _, rfl⟩ := Option.map_eq_some_iff.mp done
    rfl
  obtain ⟨half4, half6⟩ := (mbimIpConfig_eq_record carried.mbim zeroed4 zeroed6).mp
    ⟨after, done, rawIP, v4.trans qmi4, v6.trans qmi6⟩
  refine ⟨fun net present => ?_, half6⟩
  obtain ⟨whole, mtu⟩ := half4 net present
  exact ⟨whole, mtu, (carried.address_iff zeroed4 present).mp (same net present)⟩

theorem Palindromic.agree (carried : Carried network profile reports) (zeroed4 : profile.ipv4 = {})
    (zeroed6 : profile.ipv6 = {}) (values : Palindromic network) : Agree network profile reports := by
  obtain ⟨qmi4, qmi6⟩ := @QmiCarries.records network profile _ _ carried.qmi
  obtain ⟨after, done, raw, v4, v6⟩ := (mbimIpConfig_eq_record carried.mbim zeroed4 zeroed6).mpr
    ⟨fun net present => ⟨(values.v4 net present).1, (values.v4 net present).2.1⟩, values.v6⟩
  have rawIP : (qmiConfig profile reports.call4 reports.call6).rawIP = profile.rawIP := by
    rw [qmiConfig, qmiRequest_rawIP, qmiRequest_rawIP]
  refine ⟨⟨after, done, v4.trans qmi4.symm, v6.trans qmi6.symm, ?_⟩, ?_, fun net present => ?_⟩
  · rw [← raw]
    exact configures_record v4 v6
  · rw [← rawIP]
    exact configures_record qmi4 qmi6
  · exact (carried.address_iff zeroed4 present).mpr (values.v4 net present).2.2

/-- The back ends agree on those networks only whose mask, MTU and address are the same both ways
round. -/
theorem back_ends_agree_iff (carried : Carried network profile reports)
    (zeroed4 : profile.ipv4 = {}) (zeroed6 : profile.ipv6 = {}) :
    Agree network profile reports ↔ Palindromic network :=
  ⟨Agree.palindromic carried zeroed4 zeroed6, Palindromic.agree carried zeroed4 zeroed6⟩

end

/-! ### Two networks -/

/-- The records of an IPv4 response. -/
def qmiRecords (net : Network4) : List Tlv :=
  ⟨0x02, [0, 0, 0, 0], QmiClient.success_fits⟩ ::
    ((tlvMtu, net.mtu) :: net.record.records).map fun (type, w) => ⟨type, bytesOf w, by simp [bytesOf]⟩

/-- The records of an IPv6 response. -/
def qmiRecords6 (net : Network6) : List Tlv :=
  [⟨0x02, [0, 0, 0, 0], QmiClient.success_fits⟩,
    ⟨tlvMtu, bytesOf net.mtu, by simp [bytesOf]⟩,
    ⟨tlvIpv6, net.address.bytes ++ [net.prefixLength.toUInt8], by simp [net.address.size]⟩,
    ⟨tlvIpv6Gateway, net.gateway.bytes ++ [net.prefixLength.toUInt8], by simp [net.gateway.size]⟩,
    ⟨tlvIpv6PrimaryDns, net.dns1.bytes, by simp [net.dns1.size]⟩,
    ⟨tlvIpv6SecondaryDns, net.dns2.bytes, by simp [net.dns2.size]⟩]

/-- A response over MBIM: the header, the words of the information, and what they point to. -/
def mbimMessage (net : Network4) (v6 : Option Network6) : Memory :=
  let available := if v6.isSome then 15 else 0
  let mtu6 := v6.elim 0 fun net6 => net6.mtu
  ofList (List.replicate 44 0 ++ bytesOf 148 ++
    ([0, 15, available, 1, 60, 1, 80, 68, 100, 2, 72, 2, 116, net.mtu, mtu6].flatMap bytesOf) ++
    bytesOf net.prefixLength.toUInt32 ++ net.address.bytes ++ net.gateway.bytes ++ net.dns1.bytes ++
      net.dns2.bytes ++
    v6.elim (List.replicate 68 0) fun net6 => bytesOf net6.prefixLength.toUInt32 ++
      net6.address.bytes ++ net6.gateway.bytes ++ net6.dns1.bytes ++ net6.dns2.bytes)

/-- The line that a modem answers to `AT+QNETDEVSTATUS`. -/
def netdevLine (net : Network4) : List Char :=
  "+QNETDEVSTATUS".toList ++ ':' :: ' ' :: (net.address.text ++ ',' :: "255.255.255.0".toList)

def reportsOf (net : Network4) (v6 : Option Network6) : Reports where
  call4 := (1, messageOf (qmiRecords net))
  call6 := v6.elim (0, messageOf []) fun net6 => (2, messageOf (qmiRecords6 net6))
  mbim := mbimMessage net v6
  modem := ⟨false, false, true, none, some [netdevLine net]⟩

/-- 10.1.1.10 with the mask of a single address, and an MTU of 0x00010100. -/
def hostNetwork : Network4 :=
  ⟨⟨10, 1, 1, 10⟩, 32, by decide, ⟨10, 1, 1, 1⟩, ⟨8, 8, 8, 8⟩, ⟨8, 8, 4, 4⟩, 65792⟩

/-- An address of 2001:db8::/32. -/
def documentation (last : UInt8) : Ip6 :=
  ⟨[0x20, 0x01, 0x0d, 0xb8, 0, 0, 0, 0, 0, 0, 0, 0, 0, 0, 0, last], rfl⟩

/-- 2001:db8::10 in a network of /64, with the same MTU. -/
def hostNetwork6 : Network6 :=
  ⟨documentation 0x10, 64, by decide, documentation 0x01, documentation 0x53, documentation 0x54,
    65792⟩

/-- 10.0.0.2 in a network of 256 addresses, with the MTU of Ethernet. -/
def commonNetwork : Network4 :=
  ⟨⟨10, 0, 0, 2⟩, 24, by decide, ⟨10, 0, 0, 1⟩, ⟨8, 8, 8, 8⟩, ⟨8, 8, 4, 4⟩, 1500⟩

theorem netdevLine_carries (net : Network4) (short : (netdevLine net).length ≤ 1023) :
    NetdevLine net.address (netdevLine net) :=
  ⟨short, "+QNETDEVSTATUS".toList, "255.255.255.0".toList, by decide, rfl⟩

theorem has_qmiRecords (net : Network4) : QmiCarries4 net (qmiRecords net) := by
  constructor
  · simp only [Ipv4.records, List.mem_cons, List.not_mem_nil, or_false]
    rintro record (rfl | rfl | rfl | rfl | rfl) <;>
      exact ⟨⟨_, bytesOf _, by simp [bytesOf]⟩, rfl, rfl⟩
  · exact ⟨⟨_, bytesOf _, by simp [bytesOf]⟩, rfl, rfl⟩

theorem has_qmiRecords6 (v4 : Ipv4) (net : Network6) : QmiCarries6 v4 net (qmiRecords6 net) where
  address := ⟨_, rfl, rfl⟩
  gateway := ⟨_, rfl, rfl⟩
  dns1 := ⟨_, rfl, rfl⟩
  dns2 := ⟨_, rfl, rfl⟩
  mtu := ⟨_, rfl, rfl⟩
  others := by
    simp only [Ipv4.records, List.mem_cons, List.not_mem_nil, or_false]
    rintro record (rfl | rfl | rfl | rfl | rfl) <;> exact fun t first => nomatch first

theorem answers_qmiRecords (net : Network4) :
    Answers (messageOf (qmiRecords net)) (qmiRecords net) := by
  exact ⟨QmiClient.carries_messageOf (show 49 < 2 ^ 16 by decide), rfl, rfl⟩

theorem answers_qmiRecords6 (net : Network6) :
    Answers (messageOf (qmiRecords6 net)) (qmiRecords6 net) := by
  refine ⟨QmiClient.carries_messageOf ?_, rfl, rfl⟩
  simp [qmiRecords6, Tlv.encodeAll, Tlv.encode, bytesOf, net.address.size, net.gateway.size,
    net.dns1.size, net.dns2.size]

theorem carried_reportsOf {net : Network4} {v6 : Option Network6}
    (line : (netdevLine net).length ≤ 1023)
    (mbim : MbimCarries ⟨some net, v6⟩ (mbimMessage net v6)) :
    Carried ⟨some net, v6⟩ { pdp := 1 } (reportsOf net v6) := by
  refine ⟨⟨by simp [reportsOf], ?_, ?_, ?_⟩, mbim, 1, rfl, by decide, ?_⟩
  · cases v6 <;> simp [reportsOf]
  · rintro net ⟨⟩
    exact ⟨qmiRecords net, answers_qmiRecords net, has_qmiRecords net⟩
  · rintro net6 ⟨⟩
    exact ⟨qmiRecords6 net6, answers_qmiRecords6 net6, has_qmiRecords6 _ net6⟩
  · rintro net ⟨⟩
    exact .netdev (netdevLine net) [] rfl rfl rfl (netdevLine_carries net line)

theorem carried_hostNetwork : Carried ⟨some hostNetwork, some hostNetwork6⟩ { pdp := 1 }
    (reportsOf hostNetwork (some hostNetwork6)) := by
  apply carried_reportsOf (by decide +kernel)
  refine ⟨by decide +kernel, by simp, by simp, ?_, ?_⟩
  · rintro net ⟨⟩
    exact ⟨List.all_iff_forall_prop.mp (by decide +kernel), by decide +kernel, by decide +kernel,
      by decide +kernel, by decide +kernel, by decide +kernel⟩
  · rintro net ⟨⟩
    exact ⟨List.all_iff_forall_prop.mp (by decide +kernel), by decide +kernel, by decide +kernel,
      by decide +kernel, by decide +kernel, by decide +kernel⟩

theorem carried_commonNetwork :
    Carried ⟨some commonNetwork, none⟩ { pdp := 1 } (reportsOf commonNetwork none) := by
  apply carried_reportsOf (by decide +kernel)
  refine ⟨by decide +kernel, by simp, by decide +kernel, ?_, by simp⟩
  rintro net ⟨⟩
  exact ⟨List.all_iff_forall_prop.mp (by decide +kernel), by decide +kernel, by decide +kernel,
    by decide +kernel, by decide +kernel, by decide +kernel⟩

/-- A network of both families whose values read the same from both ends. -/
theorem host_network_agrees : Agree ⟨some hostNetwork, some hostNetwork6⟩ { pdp := 1 }
    (reportsOf hostNetwork (some hostNetwork6)) := by
  apply (back_ends_agree_iff carried_hostNetwork rfl rfl).mpr
  constructor
  · rintro net ⟨⟩
    exact ⟨rfl, by decide, by decide⟩
  · rintro net ⟨⟩
    decide

/-- Everything the modem says of this network is in order, and the back ends do not agree on it. -/
theorem common_network_disagrees :
    Carried ⟨some commonNetwork, none⟩ { pdp := 1 } (reportsOf commonNetwork none) ∧
    ¬ Agree ⟨some commonNetwork, none⟩ { pdp := 1 } (reportsOf commonNetwork none) := by
  refine ⟨carried_commonNetwork, fun agree => ?_⟩
  obtain ⟨v4, -⟩ := agree.palindromic carried_commonNetwork rfl rfl
  exact absurd (v4 commonNetwork rfl).1 (by decide)

end LorawanFeeds.IpConfig
