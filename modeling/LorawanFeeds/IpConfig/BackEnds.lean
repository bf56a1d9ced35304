import LorawanFeeds.IpConfig.Network
import LorawanFeeds.QmiClient.Tlv

/-!
# What QMI and MBIM say of the network

`requestGetIPAddress` of `QMIThread.c` and `mbim_ip_config` of `mbim-cm.c`. QMI writes an IPv4 address
as a little-endian number, MBIM its bytes in the order in which they are printed.
-/
namespace LorawanFeeds.IpConfig

open Lib Memory
open QmiClient (getTLV Carries)

/-! ### QMI -/

inductive IpFamily where
  | v4
  | v6
  deriving DecidableEq, Repr

/-- The types of the records in a response with the runtime settings. -/
def tlvIpv4PrimaryDns : UInt8 := 0x15
def tlvIpv4SecondaryDns : UInt8 := 0x16
def tlvIpv4 : UInt8 := 0x1E
def tlvIpv4Gateway : UInt8 := 0x20
def tlvIpv4Subnet : UInt8 := 0x21
def tlvPcscfIpv4 : UInt8 := 0x23
def tlvIpv6 : UInt8 := 0x25
def tlvIpv6Gateway : UInt8 := 0x26
def tlvIpv6PrimaryDns : UInt8 := 0x27
def tlvIpv6SecondaryDns : UInt8 := 0x28
def tlvMtu : UInt8 := 0x29
def tlvPcscfIpv6 : UInt8 := 0x2E

/-- A member that is assigned if there is a record of the type. -/
def ofTlv {α : Type} (m : Memory) (type : UInt8) (value : Nat → α) (old : α) : α :=
  (getTLV m type.toNat).elim old value

/-- The word and the address of a record. -/
def tlvWord (m : Memory) (p : Nat) : UInt32 := m.le32 (p + 3)
def tlvAddress (m : Memory) (p : Nat) : List UInt8 := m.read (p + 3) 16

/-- The two addresses of a `PCSCFNumber` record, with the size of each. -/
def pcscf {α : Type} (m : Memory) (type : UInt8) (address : Nat → α) (size : Nat) (old : α × α) :
    α × α :=
  ofTlv m type (fun p =>
    if m (p + 3) = 1 then (address (p + 4), old.2)
    else if m (p + 3) = 2 then (address (p + 4), address (p + 4 + size))
    else old) old

/-- The members that `requestGetIPAddress` takes from the response. -/
def runtimeSettings (m : Memory) (family : IpFamily) (profile : Profile) : Profile :=
  let pcscf6 := pcscf m tlvPcscfIpv6 (fun p => m.read p 16) 16
    (profile.pcscfIpv6Addr1, profile.pcscfIpv6Addr2)
  let pcscf4 := pcscf m tlvPcscfIpv4 m.le32 4 (profile.pcscfIpv4Addr1, profile.pcscfIpv4Addr2)
  { profile with
    pcscfIpv6Addr1 := pcscf6.1
    pcscfIpv6Addr2 := pcscf6.2
    pcscfIpv4Addr1 := pcscf4.1
    pcscfIpv4Addr2 := pcscf4.2
    ipv4 := {
      dnsPrimary := ofTlv m tlvIpv4PrimaryDns (tlvWord m) profile.ipv4.dnsPrimary
      dnsSecondary := ofTlv m tlvIpv4SecondaryDns (tlvWord m) profile.ipv4.dnsSecondary
      gateway := ofTlv m tlvIpv4Gateway (tlvWord m) profile.ipv4.gateway
      subnetMask := ofTlv m tlvIpv4Subnet (tlvWord m) profile.ipv4.subnetMask
      address := ofTlv m tlvIpv4 (tlvWord m) profile.ipv4.address
      mtu := if family = .v4 then ofTlv m tlvMtu (tlvWord m) profile.ipv4.mtu else profile.ipv4.mtu }
    ipv6 := { profile.ipv6 with
      dnsPrimary := ofTlv m tlvIpv6PrimaryDns (tlvAddress m) profile.ipv6.dnsPrimary
      dnsSecondary := ofTlv m tlvIpv6SecondaryDns (tlvAddress m) profile.ipv6.dnsSecondary
      gateway := ofTlv m tlvIpv6Gateway (tlvAddress m) profile.ipv6.gateway
      prefixLengthGateway :=
        ofTlv m tlvIpv6Gateway (fun p => m (p + 19)) profile.ipv6.prefixLengthGateway
      address := ofTlv m tlvIpv6 (tlvAddress m) profile.ipv6.address
      prefixLengthIPAddr := ofTlv m tlvIpv6 (fun p => m (p + 19)) profile.ipv6.prefixLengthIPAddr
      mtu := if family = .v4 then profile.ipv6.mtu else ofTlv m tlvMtu (tlvWord m) profile.ipv6.mtu } }

/-- The `QMUXResult` and the `QMUXError` of a response. -/
def qmuxResult (m : Memory) : UInt16 := m.le16 7
def qmuxError (m : Memory) : UInt16 := m.le16 9

/-- `requestGetIPAddress` of `QMIThread.c`, with the handle of the data call and what
`QmiThreadSendQMI` returns. -/
def qmiRequestGetIPAddress (profile : Profile) (family : IpFamily) (handle : UInt32) (err : Int)
    (response : Option Memory) : Int × Profile :=
  let profile := match family with
    | .v4 => { profile with ipv4 := {} }
    | .v6 => { profile with ipv6 := {} }
  if handle = 0 then (0, profile)
  else match response with
    | none => (err, profile)
    | some m =>
      if err < 0 then (err, profile)
      else if qmuxResult m ≠ 0 ∨ qmuxError m ≠ 0 then ((qmuxError m).toNat, profile)
      else (0, runtimeSettings m family profile)

/-! ### MBIM -/

/-- `mbim2qmi_ipv4addr`. -/
def mbim2qmiIpv4addr (addr : UInt32) : UInt32 :=
  (addr >>> 24) ||| ((addr >>> 8) &&& (0xff00 : UInt32)) ||| ((addr <<< 8) &&& (0xff0000 : UInt32)) |||
    (addr <<< 24)

/-- The offset of `InformationBuffer` in `MBIM_COMMAND_DONE_T`, where the
`MBIM_IP_CONFIGURATION_INFO_T` begins. Its own offsets count from there. -/
def infoOffset : Nat := 48

/-- A word of `MBIM_IP_CONFIGURATION_INFO_T`, by its number. -/
def infoWord (m : Memory) (number : Nat) : UInt32 := m.le32 (infoOffset + 4 * number)

/-- The members of `MBIM_IP_CONFIGURATION_INFO_T` for one family. -/
structure InfoWords where
  available : Nat
  addressOffset : Nat
  gatewayOffset : Nat
  dnsServerCount : Nat
  dnsServerOffset : Nat
  mtu : Nat

def infoIpv4 : InfoWords := ⟨1, 4, 7, 9, 10, 13⟩
def infoIpv6 : InfoWords := ⟨2, 6, 8, 11, 12, 14⟩

/-- The place an offset of the message leads to. -/
def infoPlace (m : Memory) (number : Nat) : Nat := infoOffset + (infoWord m number).toNat

def availableBit (m : Memory) (words : InfoWords) (bit : UInt32) : Bool :=
  infoWord m words.available &&& bit ≠ 0

/-- The places of the gateway and of the servers, where there are any. -/
def gatewayPlace (m : Memory) (words : InfoWords) : Option Nat :=
  if availableBit m words 2 then some (infoPlace m words.gatewayOffset) else none

def dns1Place (m : Memory) (words : InfoWords) : Option Nat :=
  if availableBit m words 4 then some (infoPlace m words.dnsServerOffset) else none

def dns2Place (m : Memory) (words : InfoWords) (size : Nat) : Option Nat :=
  if availableBit m words 4 ∧ infoWord m words.dnsServerCount = 2 then
    some (infoPlace m words.dnsServerOffset + size)
  else none

/-- `0xFFFFFFFF >> (32 - prefix) << (32 - prefix)`. A shift by all of its bits is undefined. -/
def onLinkMask (prefixLength : UInt8) : Option UInt32 :=
  if 1 ≤ prefixLength ∧ prefixLength ≤ 32 then
    let shift := 32 - prefixLength.toUInt32
    some ((0xFFFFFFFF >>> shift) <<< shift)
  else none

/-- The IPv4 half of `mbim_ip_config`; the MTU goes on to the other half. -/
def mbimIpv4 (m : Memory) (ipv4 : Ipv4) (mtu : UInt32) : Option (Ipv4 × UInt32) :=
  if availableBit m infoIpv4 1 then
    let element := infoPlace m infoIpv4.addressOffset
    let mtu := if availableBit m infoIpv4 8 then infoWord m infoIpv4.mtu else mtu
    let address (place : Option Nat) (old : UInt32) : UInt32 :=
      place.elim old fun p => mbim2qmiIpv4addr (m.le32 p)
    (onLinkMask (m.le32 element).toUInt8).map fun mask =>
      ({ address := mbim2qmiIpv4addr (m.le32 (element + 4))
         gateway := address (gatewayPlace m infoIpv4) ipv4.gateway
         subnetMask := mbim2qmiIpv4addr mask
         dnsPrimary := address (dns1Place m infoIpv4) ipv4.dnsPrimary
         dnsSecondary := address (dns2Place m infoIpv4 4) ipv4.dnsSecondary
         mtu := mbim2qmiIpv4addr mtu }, mtu)
  else some (ipv4, mtu)

/-- The IPv6 half. -/
def mbimIpv6 (m : Memory) (ipv6 : Ipv6) (mtu : UInt32) : Ipv6 :=
  if availableBit m infoIpv6 1 then
    let element := infoPlace m infoIpv6.addressOffset
    let mtu := if availableBit m infoIpv6 8 then infoWord m infoIpv6.mtu else mtu
    let address (place : Option Nat) (old : List UInt8) : List UInt8 :=
      place.elim old fun p => m.read p 16
    { ipv6 with
      address := m.read (element + 4) 16
      gateway := address (gatewayPlace m infoIpv6) ipv6.gateway
      dnsPrimary := address (dns1Place m infoIpv6) ipv6.dnsPrimary
      dnsSecondary := address (dns2Place m infoIpv6 16) ipv6.dnsSecondary
      prefixLengthIPAddr := (m.le32 element).toUInt8
      prefixLengthGateway := (m.le32 element).toUInt8
      mtu := mbim2qmiIpv4addr mtu }
  else ipv6

/-- `mbim_ip_config` with a response, which has got past `mbim_check_err`. There is no result where
the mask is undefined. -/
def mbimIpConfig (profile : Profile) (m : Memory) : Option Profile :=
  if m.le32 44 ≠ 0 then
    (mbimIpv4 m profile.ipv4 1500).map fun (ipv4, mtu) =>
      { profile with ipv4 := ipv4, ipv6 := mbimIpv6 m profile.ipv6 mtu }
  else some profile

end LorawanFeeds.IpConfig
