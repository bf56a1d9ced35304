import Mathlib.Data.List.FinRange
import Mathlib.Logic.Function.Basic
import LorawanFeeds.Lib.BitField

/-!
# The MBIM proxy

`quectel-mbim-proxy.c` lets up to 32 clients share the MBIM channel of one modem. The number of
a client's slot is put into the upper eight bits of the transaction of each request, and tells
from a response which slot it goes to.
-/
namespace LorawanFeeds.MbimProxy

open Lib

def cmMaxClient : Nat := 32
def tidMask : UInt32 := 0xFFFFFF
def tidShift : UInt32 := 24
def mbimOpenMsg : UInt32 := 1
def mbimCloseMsg : UInt32 := 2

/-- An MBIM message: the members of `MBIM_MESSAGE_HEADER`, and what follows. -/
structure Message where
  messageType : UInt32
  messageLength : UInt32
  transactionId : UInt32
  payload : List UInt8
  deriving DecidableEq, Repr

/-- `CM_CLIENT_T`. Slots are used again, so the connection in a slot also has a number of its own,
which the proxy does not read. -/
structure Client where
  clientFd : Int := 0
  clientIdx : UInt32 := 0
  ident : Nat := 0
  deriving DecidableEq, Repr

/-- `cm_clients`. -/
abbrev Clients := Fin cmMaxClient → Client

inductive Output where
  | device (msg : Message)
  /-- A message written to the file descriptor of a connection. -/
  | client (connection : Nat) (msg : Message)
  deriving DecidableEq, Repr

/-- The loops over the slots, which stop at the first that fits. -/
def firstSlot (clients : Clients) (p : Client → Bool) : Option (Fin cmMaxClient) :=
  (List.finRange cmMaxClient).find? fun i => p (clients i)

/-- The index of a client in a slot. -/
def slotIdx (i : Fin cmMaxClient) : UInt32 := (i.val + 1).toUInt32

/-- `handle_client_connect`, with what `accept` has returned. With all slots taken the new
connection is closed again. -/
def handleClientConnect (clients : Clients) (clientFd : Int) (ident : Nat) : Clients :=
  if clientFd < 0 then clients
  else match firstSlot clients (·.clientFd ≤ 0) with
    | some i => Function.update clients i ⟨clientFd, slotIdx i, ident⟩
    | none => clients

/-- `safe_close`. -/
def safeClose (client : Client) : Client :=
  if 0 < client.clientFd then { client with clientFd := -1 } else client

/-- `handle_client_disconnect`. The index of the slot stays. -/
def handleClientDisconnect (clients : Clients) (clientFd : Int) : Clients :=
  match firstSlot clients (·.clientFd = clientFd) with
  | some i => Function.update clients i (safeClose (clients i))
  | none => clients

/-- The answer to MBIM_OPEN_MSG and MBIM_CLOSE_MSG, which the device does not get to see. -/
def openDone (request : Message) : Message :=
  ⟨request.messageType ||| 0x80000000, 16, request.transactionId, [0, 0, 0, 0]⟩

/-- The transaction under which the device gets a request. -/
def packTid (transactionId clientIdx : UInt32) : UInt32 :=
  transactionId ||| (clientIdx <<< tidShift)

/-- `handle_client_request`. -/
def handleClientRequest (clients : Clients) (clientFd : Int) (request : Message) : List Output :=
  match firstSlot clients (·.clientFd = clientFd) with
  | none => []
  | some i =>
    -- The device has been opened by the proxy already.
    if request.messageType = mbimOpenMsg ∨ request.messageType = mbimCloseMsg then
      [.client (clients i).ident (openDone request)]
    else
      [.device { request with
        transactionId := packTid request.transactionId (clients i).clientIdx }]

/-- `handle_device_response`. A message without a transaction goes to all clients. -/
def handleDeviceResponse (clients : Clients) (response : Message) : List Output :=
  if response.transactionId = 0 then
    ((List.finRange cmMaxClient).filter fun i => 0 < (clients i).clientFd).map fun i =>
      .client (clients i).ident response
  else
    -- A closed slot keeps its index, so that its file descriptor is checked too.
    match firstSlot clients fun client =>
      client.clientIdx = response.transactionId >>> tidShift ∧ 0 < client.clientFd with
    | some i => [.client (clients i).ident
        { response with transactionId := response.transactionId &&& tidMask }]
    | none => []

/-! ### Slots -/

theorem of_firstSlot {clients : Clients} {p : Client → Bool} {i : Fin cmMaxClient}
    (found : firstSlot clients p = some i) : p (clients i) = true :=
  List.find?_some (p := fun i => p (clients i)) found

theorem firstSlot_eq_none {clients : Clients} {p : Client → Bool} :
    firstSlot clients p = none ↔ ∀ i, ¬ p (clients i) := by
  simp [firstSlot, List.find?_eq_none]

theorem exists_firstSlot {clients : Clients} {p : Client → Bool} {i : Fin cmMaxClient}
    (fits : p (clients i)) : ∃ j, firstSlot clients p = some j ∧ p (clients j) := by
  cases found : firstSlot clients p with
  | none => exact absurd fits (firstSlot_eq_none.mp found i)
  | some j => exact ⟨j, rfl, of_firstSlot found⟩

/-- The only slot that fits is the one that is found. -/
theorem firstSlot_eq_some {clients : Clients} {p : Client → Bool} {i : Fin cmMaxClient}
    (fits : p (clients i)) (only : ∀ j, p (clients j) → j = i) : firstSlot clients p = some i := by
  obtain ⟨j, found, also⟩ := exists_firstSlot fits
  rw [found, only j also]

theorem toNat_slotIdx (i : Fin cmMaxClient) : (slotIdx i).toNat = i.val + 1 := by
  have bound : i.val < 32 := i.isLt
  rw [slotIdx, Nat.toUInt32, UInt32.toNat_ofNat', Nat.mod_eq_of_lt (by omega)]

theorem slotIdx_inj {i j : Fin cmMaxClient} (same : slotIdx i = slotIdx j) : i = j := by
  have values := congrArg UInt32.toNat same
  rw [toNat_slotIdx, toNat_slotIdx] at values
  exact Fin.ext (by omega)

/-! ### Transactions -/

section

variable {tid : UInt32} (fits : tid.toNat < 2 ^ 24) (i : Fin cmMaxClient)

theorem toNat_packTid : (packTid tid (slotIdx i)).toNat = tid.toNat ||| (i.val + 1) <<< 24 := by
  have bound : i.val < 32 := i.isLt
  -- The index of the last slot is 32 and takes six bits.
  have small : (i.val + 1) <<< 24 < 2 ^ 32 := by
    rw [Nat.shiftLeft_eq]
    omega
  rw [packTid, UInt32.toNat_or, UInt32.toNat_shiftLeft, toNat_slotIdx]
  exact congrArg (tid.toNat ||| ·) (Nat.mod_eq_of_lt small)

include fits

/-- The upper bits name the slot. -/
theorem packTid_shiftRight : packTid tid (slotIdx i) >>> tidShift = slotIdx i := by
  apply UInt32.toNat_inj.mp
  rw [UInt32.toNat_shiftRight, toNat_packTid, toNat_slotIdx]
  exact shiftRight_or_shiftLeft fits _

/-- The lower bits are the client's transaction. -/
theorem packTid_and : packTid tid (slotIdx i) &&& tidMask = tid := by
  apply UInt32.toNat_inj.mp
  rw [UInt32.toNat_and, toNat_packTid]
  exact mask_or_shiftLeft fits _

theorem packTid_ne_zero : packTid tid (slotIdx i) ≠ 0 := by
  intro zero
  have value := congrArg UInt32.toNat (packTid_shiftRight fits i)
  rw [zero, toNat_slotIdx] at value
  change 0 = i.val + 1 at value
  omega

end

end LorawanFeeds.MbimProxy
