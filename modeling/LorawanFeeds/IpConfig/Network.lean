import LorawanFeeds.Lib.Decimal
import LorawanFeeds.Lib.Memory

/-!
# The configuration of the network

Three back ends of the connection manager ask the modem for the configuration of the network, and
leave what they have read in one profile. From the profile `udhcpc.c` configures the interface. The
host is little-endian.
-/
namespace LorawanFeeds.IpConfig

open Lib Memory Decimal

/-! ### The profile -/

/-- `IPV4_T`. -/
structure Ipv4 where
  address : UInt32 := 0
  gateway : UInt32 := 0
  subnetMask : UInt32 := 0
  dnsPrimary : UInt32 := 0
  dnsSecondary : UInt32 := 0
  mtu : UInt32 := 0
  deriving DecidableEq, Repr

/-- A `UCHAR` array of 16 bytes that is zero. -/
def zeros : List UInt8 := List.replicate 16 0

/-- `IPV6_T`. -/
structure Ipv6 where
  address : List UInt8 := zeros
  gateway : List UInt8 := zeros
  subnetMask : List UInt8 := zeros
  dnsPrimary : List UInt8 := zeros
  dnsSecondary : List UInt8 := zeros
  prefixLengthIPAddr : UInt8 := 0
  prefixLengthGateway : UInt8 := 0
  mtu : UInt32 := 0
  deriving DecidableEq, Repr

/-- The members of `PROFILE_T` that the back ends and the configuration of the interface use. -/
structure Profile where
  pdp : Int := 0
  rawIP : Bool := false
  ipv4 : Ipv4 := {}
  ipv6 : Ipv6 := {}
  pcscfIpv4Addr1 : UInt32 := 0
  pcscfIpv4Addr2 : UInt32 := 0
  pcscfIpv6Addr1 : List UInt8 := zeros
  pcscfIpv6Addr2 : List UInt8 := zeros
  deriving DecidableEq, Repr

/-! ### The interface -/

def dotted (a b c d : UInt8) : List Char :=
  writeNat a.toNat ++ '.' :: (writeNat b.toNat ++ '.' :: (writeNat c.toNat ++ '.' :: writeNat d.toNat))

/-- `ipv4Str`. The byte that stands last in memory is printed first. -/
def ipv4Str (address : UInt32) : List Char :=
  dotted (address >>> 24).toUInt8 (address >>> 16).toUInt8 (address >>> 8).toUInt8 address.toUInt8

/-- `ipv6Str`. -/
def ipv6Str (address : List UInt8) : List Char :=
  [':'].intercalate ((List.range 8).map fun i =>
    Nat.toDigits 16 ((address.getD (2 * i) 0).toNat * 2 ^ 8 + (address.getD (2 * i + 1) 0).toNat))

/-- What is done to the interface. -/
inductive Action where
  | updateIpv4Address (ip gw : List Char) (prefixLength : Nat)
  | updateIpv6Address (ip gw : List Char) (prefixLength : Nat)
  | updateResolvConf (ipVersion : Nat) (dns1 dns2 : List Char)
  | setMtu (mtu : Int)
  deriving DecidableEq, Repr

/-- The loop over the bits of the mask. -/
def countBits (subnetMask : UInt32) : Nat :=
  (List.range 32).countP fun n => subnetMask &&& ((1 : UInt32) <<< n.toUInt32) ≠ 0

/-- The first half of `update_ip_address_by_qmi`. -/
def configureIpv4 (ipv4 : Ipv4) : List Action :=
  if ipv4.address ≠ 0 then
    .updateIpv4Address (ipv4Str ipv4.address) (ipv4Str ipv4.gateway) (countBits ipv4.subnetMask) ::
      (if ipv4.dnsPrimary ≠ 0 then
        [.updateResolvConf 4 (ipv4Str ipv4.dnsPrimary)
          (ipv4Str (if ipv4.dnsSecondary ≠ 0 then ipv4.dnsSecondary else ipv4.dnsPrimary))]
      else [])
  else []

/-- The second half. Only the first byte of an address is looked at. -/
def configureIpv6 (ipv6 : Ipv6) : List Action :=
  if ipv6.address.getD 0 0 ≠ 0 ∧ ipv6.prefixLengthIPAddr ≠ 0 then
    .updateIpv6Address (ipv6Str ipv6.address) (ipv6Str ipv6.gateway)
        ipv6.prefixLengthIPAddr.toNat ::
      (if ipv6.dnsPrimary.getD 0 0 ≠ 0 then
        [.updateResolvConf 6 (ipv6Str ipv6.dnsPrimary)
          (ipv6Str (if ipv6.dnsSecondary.getD 0 0 ≠ 0 then ipv6.dnsSecondary else ipv6.dnsPrimary))]
      else [])
  else []

/-- `update_ip_address_by_qmi`. -/
def updateIpAddressByQmi (ipv4 : Ipv4) (ipv6 : Ipv6) : List Action :=
  configureIpv4 ipv4 ++ configureIpv6 ipv6

/-- The call of `ql_set_mtu` in `udhcpc_start`. -/
def setMtuOfProfile (profile : Profile) : List Action :=
  if profile.rawIP ∧ profile.ipv4.address ≠ 0 ∧ profile.ipv4.mtu ≠ 0 then
    [.setMtu profile.ipv4.mtu.toInt32.toInt]
  else []

def Profile.configures (profile : Profile) : List Action :=
  setMtuOfProfile profile ++ updateIpAddressByQmi profile.ipv4 profile.ipv6

/-! ### The network -/

/-- The address `a.b.c.d`. -/
structure Ip4 where
  a : UInt8
  b : UInt8
  c : UInt8
  d : UInt8
  deriving DecidableEq, Repr

/-- An address of 16 bytes. -/
structure Ip6 where
  bytes : List UInt8
  size : bytes.length = 16
  deriving DecidableEq, Repr

structure Network4 where
  address : Ip4
  prefixLength : Nat
  inRange : prefixLength ≤ 32
  gateway : Ip4
  dns1 : Ip4
  dns2 : Ip4
  mtu : UInt32
  deriving DecidableEq, Repr

structure Network6 where
  address : Ip6
  prefixLength : Nat
  inRange : prefixLength ≤ 128
  gateway : Ip6
  dns1 : Ip6
  dns2 : Ip6
  mtu : UInt32
  deriving DecidableEq, Repr

/-- A network has a configuration for one of the families, or for both. -/
structure Network where
  v4 : Option Network4
  v6 : Option Network6
  deriving DecidableEq, Repr

namespace Ip4

/-- The address as a number, `a` in its highest byte. -/
def value (ip : Ip4) : UInt32 := word ip.d ip.c ip.b ip.a

def text (ip : Ip4) : List Char := dotted ip.a ip.b ip.c ip.d

/-- 0.0.0.0 -/
def Unspecified (ip : Ip4) : Prop := ip = ⟨0, 0, 0, 0⟩

instance (ip : Ip4) : Decidable ip.Unspecified := inferInstanceAs (Decidable (_ = _))

theorem value_inj {ip ip' : Ip4} : ip.value = ip'.value ↔ ip = ip' := by
  cases ip
  cases ip'
  simp only [value, word_inj, mk.injEq]
  grind

theorem value_eq_zero (ip : Ip4) : ip.value = 0 ↔ ip.Unspecified :=
  @value_inj ip ⟨0, 0, 0, 0⟩

theorem ipv4Str_value (ip : Ip4) : ipv4Str ip.value = ip.text := by
  have bytes := bytesOf_word ip.d ip.c ip.b ip.a
  simp only [bytesOf, List.cons.injEq, and_true] at bytes
  obtain ⟨first, second, third, fourth⟩ := bytes
  rw [ipv4Str, value, first, second, third, fourth, text]

end Ip4

/-- The mask of a prefix. -/
def netmask (prefixLength : Nat) : UInt32 := UInt32.ofNat (2 ^ 32 - 2 ^ (32 - prefixLength))

theorem countBits_netmask : ∀ prefixLength ≤ 32, countBits (netmask prefixLength) = prefixLength := by
  decide

/-- The record of a network, as the interface is configured from it. -/
def Network4.record (network : Network4) : Ipv4 where
  address := network.address.value
  gateway := network.gateway.value
  subnetMask := netmask network.prefixLength
  dnsPrimary := network.dns1.value
  dnsSecondary := network.dns2.value
  mtu := network.mtu

def Network6.record (network : Network6) : Ipv6 where
  address := network.address.bytes
  gateway := network.gateway.bytes
  dnsPrimary := network.dns1.bytes
  dnsSecondary := network.dns2.bytes
  prefixLengthIPAddr := network.prefixLength.toUInt8
  prefixLengthGateway := network.prefixLength.toUInt8
  mtu := network.mtu

/-- What is to be done to the interface of this network. The second server is left out if there is
none. -/
def Network4.actions (network : Network4) (rawIP : Bool) : List Action × List Action :=
  if network.address.Unspecified then ([], [])
  else (if rawIP ∧ network.mtu ≠ 0 then [.setMtu network.mtu.toInt32.toInt] else [],
    .updateIpv4Address network.address.text network.gateway.text network.prefixLength ::
      if network.dns1.Unspecified then []
      else [.updateResolvConf 4 network.dns1.text
        (if network.dns2.Unspecified then network.dns1 else network.dns2).text])

def Network6.actions (network : Network6) : List Action :=
  if network.address.bytes.getD 0 0 = 0 ∨ network.prefixLength = 0 then []
  else .updateIpv6Address (ipv6Str network.address.bytes) (ipv6Str network.gateway.bytes)
      network.prefixLength ::
    if network.dns1.bytes.getD 0 0 = 0 then []
    else [.updateResolvConf 6 (ipv6Str network.dns1.bytes)
      (ipv6Str (if network.dns2.bytes.getD 0 0 = 0 then network.dns1 else network.dns2).bytes)]

/-- The values of the network, for the interface. -/
def Network.reported (network : Network) (rawIP : Bool) : List Action :=
  let v4 := (network.v4.map fun net => net.actions rawIP).getD ([], [])
  v4.1 ++ (v4.2 ++ (network.v6.map Network6.actions).getD [])

theorem Network4.configures (network : Network4) (rawIP : Bool) :
    network.actions rawIP =
      (if rawIP ∧ network.record.address ≠ 0 ∧ network.record.mtu ≠ 0 then
        [.setMtu network.record.mtu.toInt32.toInt]
      else [], configureIpv4 network.record) := by
  have mask := countBits_netmask network.prefixLength network.inRange
  have specified (ip : Ip4) : ip.value ≠ 0 ↔ ¬ ip.Unspecified := not_congr ip.value_eq_zero
  by_cases address : network.address.Unspecified
  · simp [actions, configureIpv4, record, specified, address]
  · by_cases first : network.dns1.Unspecified
    · simp [actions, configureIpv4, record, specified, address, first, mask, Ip4.ipv4Str_value]
    · by_cases second : network.dns2.Unspecified <;>
        simp [actions, configureIpv4, record, specified, address, first, second, mask,
          Ip4.ipv4Str_value]

theorem Network6.configures (network : Network6) : network.actions = configureIpv6 network.record := by
  have small := network.inRange
  have value : network.prefixLength.toUInt8.toNat = network.prefixLength :=
    UInt8.toNat_ofNat_of_lt' (show network.prefixLength < 256 by omega)
  have length : network.prefixLength.toUInt8 = 0 ↔ network.prefixLength = 0 := by
    rw [← UInt8.toNat_inj, value, UInt8.toNat_zero]
  by_cases address : network.address.bytes.getD 0 0 = 0
  · simp only [actions, configureIpv6, record, address, true_or, if_true, ne_eq, not_true_eq_false,
      false_and, if_false]
  by_cases none : network.prefixLength = 0
  · rw [actions, if_pos (.inr none), configureIpv6, if_neg]
    exact fun given => given.2 (length.mpr none)
  by_cases first : network.dns1.bytes.getD 0 0 = 0
  · simp only [actions, configureIpv6, record, address, none, first, length, value, ne_eq, or_self,
      not_false_eq_true, and_self, not_true_eq_false, if_true, if_false]
  by_cases second : network.dns2.bytes.getD 0 0 = 0 <;>
    simp only [actions, configureIpv6, record, address, none, first, second, length, value, ne_eq,
      or_self, not_false_eq_true, and_self, not_true_eq_false, if_true, if_false]

/-- The interface is configured with the values of the network, if they are in the profile. -/
theorem configures_record {network : Network} {profile : Profile}
    (v4 : profile.ipv4 = (network.v4.map Network4.record).getD {})
    (v6 : profile.ipv6 = (network.v6.map Network6.record).getD {}) :
    profile.configures = network.reported profile.rawIP := by
  have second : configureIpv6 profile.ipv6 = (network.v6.map Network6.actions).getD [] := by
    rw [v6]
    cases network.v6 with
    | none => rfl
    | some net => exact net.configures.symm
  have first : (setMtuOfProfile profile, configureIpv4 profile.ipv4) =
      (network.v4.map fun net => net.actions profile.rawIP).getD ([], []) := by
    rw [setMtuOfProfile, v4]
    cases network.v4 with
    | none => simp [configureIpv4]
    | some net => exact (net.configures profile.rawIP).symm
  rw [Profile.configures, updateIpAddressByQmi, second, Network.reported, ← first]

end LorawanFeeds.IpConfig
