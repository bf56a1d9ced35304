import LorawanFeeds.MbimClient.Client

/-!
# What the reader of the MBIM messages touches

`mbim_read_thread` reads into `cm_recv_buf`, through a proxy with `mbim_proxy_read`, and passes what
stands there to `mbim_recv_command`, which goes by the members of the message alone. A run keeps what
has been written and what has been looked at.
-/
namespace LorawanFeeds.MbimClient

open Lib Memory

/-! ### The code -/

/-- `sizeof(cm_recv_buf)`. -/
def recvBufSize : Nat := 4096

/-- `sizeof(MBIM_MESSAGE_HEADER)`. -/
def headerSize : Nat := 12

/-- How much is to be read behind the header, as a `size_t`. -/
def restCount (buf : Memory) : Nat := ((messageLength buf).toNat + 2 ^ 64 - headerSize) % 2 ^ 64

/-- A `read`, with what the other side has for it: it returns no more than it has been asked for, and
refuses a count that is below zero as a signed number. -/
def readResult (count : Nat) (other : Option (List UInt8)) : Option (List UInt8) :=
  if 2 ^ 63 ≤ count then none else other.map (List.take count)

/-- `mbim_proxy_read`: its result, and what is written into the buffer. -/
def mbimProxyRead (buf : Memory) (size : Nat) (first second : Option (List UInt8)) :
    Int × List Write :=
  match readResult headerSize first with
  | none => (-1, [])
  | some bytes =>
    let header : Write := ⟨0, bytes⟩
    let buf := header.apply buf
    if bytes.length = headerSize ∧ (messageLength buf).toNat ≤ size then
      match readResult (restCount buf) second with
      -- The error is added to the bytes of the header.
      | none => (bytes.length + -1, [header])
      | some rest => (bytes.length + rest.length, [header, ⟨headerSize, rest⟩])
    else (bytes.length, [header])

/-- The bytes of a message that are looked at: their place and how many they are. -/
abbrev Access := Nat × Nat

namespace State

/-- What `mbim_recv_command` looks at in an indication of `UUID_BASIC_CONNECT`. -/
def indicationAccesses (s : State) (m : Memory) : List Access :=
  if indicationCid m = mbimCidSubscriberReadyStatus then [(44, 4)]
  else if indicationCid m = mbimCidRegisterState then [(48, 4)]
  else if indicationCid m = mbimCidPacketService then [(48, 4)]
  else if indicationCid m = mbimCidConnect then
    if information m 0 = s.mbimSessionID then [(44, 4), (48, 4)] else [(44, 4)]
  else []

/-- What `mbim_recv_command` looks at and copies. -/
def accesses (s : State) (m : Memory) (block : Option Memory) : List Access :=
  (if s.mbimPRequest.isSome then [(8, 4)] else []) ++
    if s.matched m then (4, 4) :: if block.isSome then [(0, (messageLength m).toNat)] else []
    else
      (0, 4) ::
        if messageType m = mbimIndicateStatusMsg then
          (20, 16) :: if deviceServiceId m = uuidBasicConnect then (36, 4) :: s.indicationAccesses m
            else []
        else []

end State

/-- How many bytes the reads of a message have returned, and what was looked at. -/
structure Handled where
  arrived : Nat
  accesses : List Access
  deriving DecidableEq, Repr

/-- The reader thread: the shared variables, the buffer with what lies behind it, and what it has
touched. -/
structure Reader where
  client : State := {}
  buf : Memory := fun _ => 0
  writes : List Write := []
  handled : List Handled := []

inductive ReadEvent where
  /-- A message through the proxy. -/
  | proxy (first second : Option (List UInt8)) (block : Option Memory)
  /-- A message from the device. -/
  | device (message : Option (List UInt8)) (block : Option Memory)
  /-- A message of QMI over MBIM, which is read into the same buffer. -/
  | qmi (message : Option (List UInt8))
  /-- Something else happens to the client. -/
  | client (e : Event)

namespace Reader

/-- What follows a read: of its result only the sign counts. -/
def receive (r : Reader) (writes : List Write) (nreads : Int) (arrived : Nat)
    (block : Option Memory) : Reader :=
  let buf := Write.applyAll r.buf writes
  let r := { r with buf := buf, writes := r.writes ++ writes }
  if nreads ≤ 0 then r
  else { r with
    client := r.client.mbimRecvCommand buf block
    handled := r.handled ++ [⟨arrived, r.client.accesses buf block⟩] }

def step (r : Reader) : ReadEvent → Reader
  | .proxy first second block =>
    let (nreads, writes) := mbimProxyRead r.buf recvBufSize first second
    r.receive writes nreads (writes.map fun w => w.bytes.length).sum block
  | .device message block =>
    match readResult recvBufSize message with
    | none => r.receive [] (-1) 0 block
    | some bytes => r.receive [⟨0, bytes⟩] bytes.length bytes.length block
  | .qmi message =>
    match readResult recvBufSize message with
    | none => r
    | some bytes =>
      let write : Write := ⟨0, bytes⟩
      { r with buf := write.apply r.buf, writes := r.writes ++ [write] }
  -- Messages come from the reads alone.
  | .client (.recv _ _) => r
  | .client e => { r with client := r.client.step e }

/-- Nothing is written behind the buffer, and of each message only what has been read is looked at. -/
structure InBounds (r : Reader) : Prop where
  writes : ∀ w ∈ r.writes, w.Inside recvBufSize
  accesses : ∀ h ∈ r.handled, ∀ a ∈ h.accesses, a.1 + a.2 ≤ h.arrived

end Reader

/-! ### What a message has to bring -/

namespace State

/-- How many bytes of an indication are looked at. -/
def indicationNeeds (s : State) (m : Memory) : Nat :=
  if deviceServiceId m ≠ uuidBasicConnect then 36
  else if indicationCid m = mbimCidSubscriberReadyStatus then 48
  else if indicationCid m = mbimCidRegisterState ∨ indicationCid m = mbimCidPacketService then 52
  else if indicationCid m = mbimCidConnect then
    if information m 0 = s.mbimSessionID then 52 else 48
  else 40

/-- How many bytes of a message are looked at: its type or its transaction, for a response that is
copied its own length, and for an indication what the main thread is to hear of. -/
def needs (s : State) (m : Memory) (block : Option Memory) : Nat :=
  if s.matched m then if block.isSome then max headerSize (messageLength m).toNat else headerSize
  else max (if s.mbimPRequest.isSome then headerSize else 4)
    (if messageType m = mbimIndicateStatusMsg then s.indicationNeeds m else 0)

/-- The members of an indication stay inside of it exactly if it is as long as that. -/
theorem indicationAccesses_inside_iff (s : State) (m : Memory) (arrived : Nat)
    (service : deviceServiceId m = uuidBasicConnect) :
    (∀ a ∈ (36, 4) :: s.indicationAccesses m, a.1 + a.2 ≤ arrived) ↔ s.indicationNeeds m ≤ arrived := by
  rw [indicationNeeds, if_neg (not_not_intro service), indicationAccesses]
  by_cases ready : indicationCid m = mbimCidSubscriberReadyStatus
  · simp [ready]
    omega
  by_cases register : indicationCid m = mbimCidRegisterState
  · have other : mbimCidRegisterState ≠ mbimCidSubscriberReadyStatus := by decide
    simp [register, other]
    omega
  by_cases packet : indicationCid m = mbimCidPacketService
  · have other : mbimCidPacketService ≠ mbimCidSubscriberReadyStatus := by decide
    have last : mbimCidPacketService ≠ mbimCidRegisterState := by decide
    simp [packet, other, last]
    omega
  rw [if_neg ready, if_neg register, if_neg packet, if_neg ready, if_neg (not_or_intro register packet)]
  by_cases connect : indicationCid m = mbimCidConnect
  · rw [if_pos connect, if_pos connect]
    -- The state is looked at for the own session only.
    by_cases session : information m 0 = s.mbimSessionID
    · simp [session]
      omega
    · simp [session]
      omega
  · simp [connect]

/-- Looking at a message stays inside of it exactly if it is as long as that. -/
theorem accesses_inside_iff (s : State) (m : Memory) (block : Option Memory) (arrived : Nat) :
    (∀ a ∈ s.accesses m block, a.1 + a.2 ≤ arrived) ↔ s.needs m block ≤ arrived := by
  rw [accesses, needs, List.forall_mem_append]
  cases fits : s.matched m with
  | true =>
    have waits : s.mbimPRequest.isSome = true := by
      rw [matched] at fits
      cases request : s.mbimPRequest with
      | none => simp [request] at fits
      | some request => rfl
    rw [if_pos waits, if_pos rfl, if_pos rfl]
    cases block with
    | none =>
      simp [headerSize]
      omega
    | some block =>
      simp [headerSize]
      omega
  | false =>
    have waiting : (∀ a ∈ (if s.mbimPRequest.isSome then [((8 : Nat), (4 : Nat))] else []),
        a.1 + a.2 ≤ arrived) ∧ 4 ≤ arrived ↔
          (if s.mbimPRequest.isSome then headerSize else 4) ≤ arrived := by
      cases s.mbimPRequest with
      | none => simp
      | some request =>
        simp [headerSize]
        omega
    rw [if_neg Bool.false_ne_true, if_neg Bool.false_ne_true, List.forall_mem_cons, ← and_assoc,
      Nat.max_le, show 0 + 4 = 4 from rfl, waiting]
    apply and_congr_right
    intro _
    by_cases indication : messageType m = mbimIndicateStatusMsg
    · rw [if_pos indication, if_pos indication, List.forall_mem_cons]
      by_cases service : deviceServiceId m = uuidBasicConnect
      · rw [if_pos service, indicationAccesses_inside_iff s m arrived service]
        apply and_iff_right_of_imp
        intro enough
        rw [indicationNeeds] at enough
        split_ifs at enough <;> omega
      · rw [if_neg service, indicationNeeds, if_pos service]
        simp
    · simp [indication]

end State

/-! ### One message -/

/-- The bytes that the reads of a message through the proxy return. -/
def received (first second : Option (List UInt8)) : List UInt8 :=
  let header := (first.getD []).take headerSize
  let length := (messageLength (ofList header)).toNat
  if header.length = headerSize ∧ headerSize ≤ length ∧ length ≤ recvBufSize then
    header ++ (second.getD []).take (length - headerSize)
  else header

/-- A complete header tells the length, whatever is behind it. -/
theorem messageLength_apply (buf : Memory) {header : List UInt8} (complete : header.length = headerSize) :
    messageLength (Write.apply buf ⟨0, header⟩) = messageLength (ofList header) := by
  have same (k : Nat) (inside : k < headerSize) :
      Write.apply buf ⟨0, header⟩ k = ofList header k := by
    rw [Write.apply, if_pos ⟨Nat.zero_le _, by dsimp only; omega⟩]
    rfl
  exact le32_congr same (by decide)

/-- A write and one behind it are one. -/
theorem apply_apply (buf : Memory) (front back : List UInt8) :
    Write.apply (Write.apply buf ⟨0, front⟩) ⟨front.length, back⟩ =
      Write.apply buf ⟨0, front ++ back⟩ := by
  funext k
  simp only [Write.apply, List.length_append, Nat.zero_le, true_and, Nat.sub_zero, Nat.zero_add]
  by_cases first : k < front.length
  · rw [if_neg (fun both => absurd both.1 (Nat.not_le.mpr first)), if_pos first,
      if_pos (by omega), List.getD_append _ _ _ _ first]
  · rw [if_neg first]
    by_cases second : k < front.length + back.length
    · rw [if_pos ⟨Nat.not_lt.mp first, second⟩, if_pos second,
        List.getD_append_right _ _ _ _ (Nat.not_lt.mp first)]
    · rw [if_neg (fun both => second both.2), if_neg second]

/-- A length below that of a header makes a count that is below zero. -/
theorem readResult_restCount_of_short {buf : Memory} (short : (messageLength buf).toNat < headerSize)
    (second : Option (List UInt8)) : readResult (restCount buf) second = none := by
  have negative : 2 ^ 63 ≤ restCount buf := by
    rw [restCount]
    rw [headerSize] at *
    omega
  exact if_pos negative

theorem readResult_restCount_of_le {buf : Memory} (enough : headerSize ≤ (messageLength buf).toNat)
    (second : Option (List UInt8)) : readResult (restCount buf) second =
      second.map (List.take ((messageLength buf).toNat - headerSize)) := by
  have small := (messageLength buf).toNat_lt
  have count : restCount buf = (messageLength buf).toNat - headerSize := by
    rw [restCount]
    rw [headerSize] at *
    omega
  rw [readResult, count, if_neg (by omega)]

theorem readResult_headerSize (first : Option (List UInt8)) :
    readResult headerSize first = first.map (List.take headerSize) := if_neg (by decide)

theorem readResult_recvBufSize (message : Option (List UInt8)) :
    readResult recvBufSize message = message.map (List.take recvBufSize) := if_neg (by decide)

/-- These writes put the bytes of a message into the buffer, and the result tells whether there are
any. -/
structure Fills (buf : Memory) (bytes : List UInt8) (nreads : Int) (writes : List Write) : Prop where
  buffer : Write.applyAll buf writes = Write.apply buf ⟨0, bytes⟩
  arrived : (writes.map fun w => w.bytes.length).sum = bytes.length
  sign : 0 < nreads ↔ bytes ≠ []
  inside : ∀ w ∈ writes, w.Inside recvBufSize

theorem fills_header (buf : Memory) {header : List UInt8} (short : header.length ≤ headerSize)
    {nreads : Int} (sign : 0 < nreads ↔ header ≠ []) : Fills buf header nreads [⟨0, header⟩] where
  buffer := rfl
  arrived := by simp
  sign := sign
  inside := by
    intro w member
    cases List.mem_singleton.mp member
    rw [Write.Inside, Nat.zero_add]
    exact Nat.le_trans short (by decide)

/-- The bytes of a list are as many as its length tells. -/
theorem length_pos_iff_ne_nil (bytes : List UInt8) : (0 : Int) < bytes.length ↔ bytes ≠ [] := by
  rw [← List.length_pos_iff]
  omega

/-- `mbim_proxy_read` puts into the buffer what the reads return. -/
theorem mbimProxyRead_fills (buf : Memory) (first second : Option (List UInt8)) :
    Fills buf (received first second) (mbimProxyRead buf recvBufSize first second).1
      (mbimProxyRead buf recvBufSize first second).2 := by
  rw [mbimProxyRead, readResult_headerSize]
  cases first with
  | none =>
    have nothing : received none second = [] := by
      rw [received]
      exact if_neg fun all => absurd all.1 (by decide)
    rw [nothing]
    refine ⟨?_, rfl, ?_, List.forall_mem_nil _⟩
    · funext k
      exact (if_neg fun both => absurd both.2 (by simp)).symm
    · exact ⟨fun positive => absurd positive (show ¬(0 : Int) < -1 by decide), fun filled => absurd rfl filled⟩
  | some bytes =>
    rw [received, Option.getD_some, Option.map_some]
    dsimp only
    have short : (bytes.take headerSize).length ≤ headerSize := List.length_take_le _ _
    generalize bytes.take headerSize = header at short
    by_cases complete : header.length = headerSize
    · have filled : header ≠ [] := List.ne_nil_of_length_pos (by rw [complete]; decide)
      have positive : (0 : Int) < header.length + -1 := by
        rw [complete]
        decide
      have length := messageLength_apply buf complete
      rw [length]
      by_cases small : (messageLength (ofList header)).toNat ≤ recvBufSize
      · rw [if_pos (⟨complete, small⟩ : header.length = headerSize ∧ _ ≤ recvBufSize)]
        by_cases enough : headerSize ≤ (messageLength (ofList header)).toNat
        · rw [if_pos ⟨complete, enough, small⟩, readResult_restCount_of_le (by rw [length]; exact enough),
            length]
          cases second with
          | none =>
            rw [Option.getD_none, List.take_nil, List.append_nil]
            exact fills_header buf short ⟨fun _ => filled, fun _ => positive⟩
          | some rest =>
            rw [Option.map_some, Option.getD_some]
            dsimp only
            refine ⟨?_, by simp, ?_, ?_⟩
            · rw [← complete]
              exact apply_apply buf header _
            · refine ⟨fun _ empty => filled (List.append_eq_nil_iff.mp empty).1, fun _ => ?_⟩
              omega
            · intro w member
              rcases List.mem_cons.mp member with rfl | other
              · rw [Write.Inside, Nat.zero_add]
                exact Nat.le_trans short (by decide)
              · cases List.mem_singleton.mp other
                rw [Write.Inside]
                have most : (rest.take ((messageLength (ofList header)).toNat - headerSize)).length ≤
                    (messageLength (ofList header)).toNat - headerSize := List.length_take_le _ _
                dsimp only
                omega
        · rw [if_neg fun all => enough all.2.1,
            readResult_restCount_of_short (by rw [length]; exact Nat.not_le.mp enough)]
          exact fills_header buf short ⟨fun _ => filled, fun _ => positive⟩
      · rw [if_neg fun all => small all.2.2, if_neg fun both => small both.2]
        exact fills_header buf short (length_pos_iff_ne_nil header)
    · rw [if_neg fun all => complete all.1, if_neg fun both => complete both.1]
      exact fills_header buf short (length_pos_iff_ne_nil header)

/-! ### A run -/

namespace Reader

/-- A message that brings anything brings what is looked at. -/
def Brings (r : Reader) (bytes : List UInt8) (block : Option Memory) : Prop :=
  bytes ≠ [] → r.client.needs (Write.apply r.buf ⟨0, bytes⟩) block ≤ bytes.length

/-- The messages that are handled are long enough. -/
def Spares (r : Reader) : ReadEvent → Prop
  | .proxy first second block => r.Brings (received first second) block
  | .device message block => r.Brings ((message.getD []).take recvBufSize) block
  | .qmi _ => True
  | .client _ => True

/-- One message keeps the bounds exactly if it brings what is looked at. -/
theorem inBounds_receive {r : Reader} (sound : r.InBounds) {bytes : List UInt8} {nreads : Int}
    {writes : List Write} (fills : Fills r.buf bytes nreads writes) (block : Option Memory) :
    (r.receive writes nreads (writes.map fun w => w.bytes.length).sum block).InBounds ↔
      r.Brings bytes block := by
  have inside (w : Write) (member : w ∈ r.writes ++ writes) : w.Inside recvBufSize :=
    (List.mem_append.mp member).elim (sound.writes w) (fills.inside w)
  rw [receive, Brings, fills.buffer, fills.arrived]
  dsimp only
  by_cases some : 0 < nreads
  · rw [if_neg (Int.not_le.mpr some), ← State.accesses_inside_iff]
    constructor
    · intro kept _
      exact kept.accesses _ (List.mem_append_right _ (.head _))
    · intro enough
      refine ⟨inside, fun h member => ?_⟩
      rcases List.mem_append.mp member with old | new
      · exact sound.accesses h old
      · cases List.mem_singleton.mp new
        exact enough (fills.sign.mp some)
  · rw [if_pos (Int.not_lt.mp some)]
    constructor
    · intro _ filled
      exact absurd (fills.sign.mpr filled) some
    · intro _
      exact ⟨inside, sound.accesses⟩

/-- What has been touched stays touched. -/
theorem inBounds_of_receive {r : Reader} {writes : List Write} {nreads : Int} {arrived : Nat}
    {block : Option Memory} (kept : (r.receive writes nreads arrived block).InBounds) : r.InBounds := by
  rw [receive] at kept
  dsimp only at kept
  split at kept
  · exact ⟨fun w member => kept.writes w (List.mem_append_left _ member), kept.accesses⟩
  · exact ⟨fun w member => kept.writes w (List.mem_append_left _ member),
      fun h member => kept.accesses h (List.mem_append_left _ member)⟩

theorem inBounds_of_step {r : Reader} {e : ReadEvent} (kept : (r.step e).InBounds) : r.InBounds := by
  cases e with
  | proxy first second block => exact inBounds_of_receive kept
  | device message block =>
    rw [step] at kept
    split at kept
    · exact inBounds_of_receive kept
    · exact inBounds_of_receive kept
  | qmi message =>
    rw [step] at kept
    split at kept
    · exact kept
    · exact ⟨fun w member => kept.writes w (List.mem_append_left _ member), kept.accesses⟩
  | client e =>
    cases e with
    | recv pResponse block => exact kept
    | _ => exact ⟨kept.writes, kept.accesses⟩

/-- A single `read` into the buffer. -/
theorem readResult_fills (buf : Memory) (bytes : List UInt8) :
    Fills buf (bytes.take recvBufSize) (bytes.take recvBufSize).length
      [⟨0, bytes.take recvBufSize⟩] where
  buffer := rfl
  arrived := by simp
  sign := length_pos_iff_ne_nil _
  inside := by
    intro w member
    cases List.mem_singleton.mp member
    rw [Write.Inside, Nat.zero_add]
    exact List.length_take_le _ _

theorem inBounds_step_iff {r : Reader} (sound : r.InBounds) (e : ReadEvent) :
    (r.step e).InBounds ↔ r.Spares e := by
  cases e with
  | proxy first second block =>
    exact inBounds_receive sound (mbimProxyRead_fills r.buf first second) block
  | device message block =>
    rw [step, readResult_recvBufSize, Spares]
    cases message with
    | none =>
      constructor
      · intro _ filled
        exact absurd rfl filled
      · intro _
        exact ⟨by simpa [receive] using sound.writes, sound.accesses⟩
    | some bytes =>
      have received := inBounds_receive sound (readResult_fills r.buf bytes) block
      simpa using received
  | qmi message =>
    rw [step, readResult_recvBufSize, Spares, iff_true]
    cases message with
    | none => exact sound
    | some bytes =>
      refine ⟨fun w member => ?_, sound.accesses⟩
      exact (List.mem_append.mp member).elim (sound.writes w) ((readResult_fills r.buf bytes).inside w)
  | client e =>
    rw [Spares, iff_true]
    cases e with
    | recv pResponse block => exact sound
    | _ => exact ⟨sound.writes, sound.accesses⟩

end Reader

/-- Messages are handled within the bytes that have been read exactly if each of them is as long as what
is looked at in it: for a response its own length, for an indication up to the state in it. -/
theorem messages_within_iff (events : List ReadEvent) :
    (run Reader.step {} events).InBounds ↔ Guarded Reader.step Reader.Spares {} events := by
  apply @run_iff_guarded _ _ _ _ fun _ => True
  case stays => exact fun _ _ => Reader.inBounds_of_step
  case breaks => exact fun _ e _ sound => Reader.inBounds_step_iff sound e
  case preserved => exact fun _ _ _ _ => trivial
  case initial => trivial
  case sound => exact ⟨List.forall_mem_nil _, List.forall_mem_nil _⟩

/-- A response that announces more than the buffer holds, to a request that waits. -/
def longResponse : List UInt8 := bytesOf mbimOpenDone ++ bytesOf 8192 ++ bytesOf 1

def longRun : List ReadEvent :=
  [.client (.start 3), .client (.send 1 16 true true 1000 16),
    .device (some longResponse) (some fun _ => 0)]

/-- The response is copied from behind the buffer, too. -/
theorem messages_not_within : ¬∀ events : List ReadEvent, (run Reader.step {} events).InBounds := by
  intro within
  have handled : (⟨12, [(8, 4), (4, 4), (0, 8192)]⟩ : Handled) ∈ (run Reader.step {} longRun).handled := by
    decide +kernel
  have copied : 0 + 8192 ≤ 12 := (within longRun).accesses _ handled (0, 8192) (by simp)
  exact absurd copied (by decide)

end LorawanFeeds.MbimClient
