import Mathlib.Data.List.GetD
import LorawanFeeds.Lib.Turns
import LorawanFeeds.QmiProxy.Loop

/-!
# Messages on a stream socket

A proxy connection is a stream of bytes, in which one message simply follows the other. The proxy
takes each `read` for one message; the client reads a header and then the rest that it
announces, and takes what it gets for all of it.
-/
namespace LorawanFeeds.QmiProxy

open Lib

/-- `sizeof(QCQMI_HDR)`. -/
def hdrSize : Nat := 6

/-- `sizeof(cm_recv_buf)`. -/
def cmRecvBufSize : Nat := 4096

/-! ### The proxy -/

/-- `poll` has reported a client: how many bytes its socket holds, and what other reads have left
in the buffer. -/
structure ProxyWake where
  available : Nat
  stale : Qmi
  deriving DecidableEq, Repr

/-- The turn of a client in `qmi_proxy_loop`. -/
def proxyTurn (w : ProxyWake) (stream : Qmi) : Turn UInt8 :=
  let chunk := stream.take (min qmiBufSize w.available)
  ⟨chunk, if Whole w.stale chunk then some chunk else none⟩

/-- A socket that is reported holds something, and nothing that has not been written. -/
def proxyReader : Reader UInt8 Unit ProxyWake where
  turn _ := proxyTurn
  next _ _ := ()
  possible w stream := 0 < w.available ∧ w.available ≤ stream.length

instance (w : ProxyWake) (stream : Qmi) : Decidable (proxyReader.possible w stream) :=
  inferInstanceAs (Decidable (_ ∧ _))

/-- The loop takes for the client's message what a turn hands on. -/
theorem readClient_eq_proxyTurn (s : LoopState) (fd : Int) (available : Nat) (stream : Qmi) :
    (s.readClient fd (proxyTurn ⟨available, s.qmiBuf⟩ stream).consumed).state.proxy =
      match (proxyTurn ⟨available, s.qmiBuf⟩ stream).handed with
      | some qmi => s.proxy.recvQmiFromClient qmi fd (s.origin fd)
      | none => s.proxy := by
  simp only [proxyTurn, LoopState.readClient]
  split_ifs <;> rfl

/-! ### The client -/

/-- How many bytes the socket holds at the first read of `qmi_proxy_read`, and at its second. -/
structure ClientWake where
  first : Nat
  second : Nat
  deriving DecidableEq, Repr

/-- The second read of `qmi_proxy_read`, which asks for the rest of a message of the given
length: what it gets, and what it returns. The socket does not block. -/
def readRest (hdrLength second : Nat) (stream : Qmi) : Qmi × Int :=
  -- The size asked for is below zero as a signed number.
  if hdrLength + 1 < hdrSize then ([], -1)
  else if hdrLength + 1 = hdrSize then ([], 0)
  else
    let chunk := stream.take (min (hdrLength + 1 - hdrSize) second)
    if chunk = [] then ([], -1) else (chunk, chunk.length)

/-- `qmi_proxy_read`: what is taken from the stream, and what is returned. -/
def qmiProxyRead (buffer : Qmi) (w : ClientWake) (stream : Qmi) : Qmi × Int :=
  let header := stream.take (min hdrSize w.first)
  let hdrLength := (readInto buffer header).hdrLength
  if header.length = hdrSize ∧ hdrLength < cmRecvBufSize then
    let rest := readRest hdrLength w.second (stream.drop hdrSize)
    (header ++ rest.1, header.length + rest.2)
  else (header, header.length)

/-- The turn of the proxy's socket in `QmiWwanThread`. -/
def clientTurn (buffer : Qmi) (w : ClientWake) (stream : Qmi) : Turn UInt8 :=
  let read := qmiProxyRead buffer w stream
  let buffer := readInto buffer read.1
  ⟨read.1, if read.2 = buffer.hdrLength + 1 then some (buffer.take read.2.toNat) else none⟩

/-- The second read may find nothing yet. -/
def clientReader : Reader UInt8 Qmi ClientWake where
  turn := clientTurn
  next buffer t := readInto buffer t.consumed
  possible w stream := 0 < w.first ∧ w.first ≤ stream.length

instance (w : ClientWake) (stream : Qmi) : Decidable (clientReader.possible w stream) :=
  inferInstanceAs (Decidable (_ ∧ _))

/-! ### Headers -/

theorem hdrLength_append {qmi rest : Qmi} (header : hdrSize ≤ qmi.length) :
    Qmi.hdrLength (qmi ++ rest) = qmi.hdrLength := by
  have inside (i : Nat) (small : i < 3) : Qmi.byte (qmi ++ rest) i = qmi.byte i := by
    rw [Qmi.byte, Qmi.byte, List.getD_append _ _ _ _ (by rw [hdrSize] at header; omega)]
  rw [Qmi.hdrLength, Qmi.hdrLength, Qmi.word, Qmi.word, inside 1 (by decide), inside 2 (by decide)]

theorem hdrLength_readInto {qmi : Qmi} (buffer : Qmi) (header : hdrSize ≤ qmi.length) :
    (readInto buffer qmi).hdrLength = qmi.hdrLength := hdrLength_append header

theorem whole_of_formed {qmi : Qmi} (buffer : Qmi) (formed : qmi.Formed) : Whole buffer qmi := by
  rw [Whole, hdrLength_readInto buffer formed.1]
  exact formed.2.1

/-! ### What the proxy hands on -/

theorem proxyReader_lawful : proxyReader.Lawful where
  sound _ w stream := by
    rintro ⟨some, written⟩
    constructor
    · apply List.ne_nil_of_length_pos
      simp only [proxyReader, proxyTurn, List.length_take]
      exact Nat.lt_min.mpr ⟨Nat.lt_min.mpr ⟨by decide, some⟩, Nat.lt_of_lt_of_le some written⟩
    · intro h handed
      simp only [proxyReader, proxyTurn] at handed ⊢
      split_ifs at handed
      · exact Option.some.inj handed ▸ List.prefix_refl _
      · cases handed
  taken _ w stream := List.take_prefix _ _

/-- The read gets exactly the message. -/
theorem proxyTurn_iff {m : Qmi} (formed : m.Formed) (w : ProxyWake) (rest : Qmi)
    (written : w.available ≤ (m ++ rest).length) :
    proxyTurn w (m ++ rest) = ⟨m, some m⟩ ↔ min qmiBufSize w.available = m.length := by
  constructor
  · intro turn
    have length := congrArg (fun t : Turn UInt8 => t.consumed.length) turn
    simp only [proxyTurn, List.length_take] at length
    rwa [Nat.min_eq_left (Nat.le_trans (Nat.min_le_right _ _) written)] at length
  · intro exactly
    have chunk : (m ++ rest).take (min qmiBufSize w.available) = m := by
      rw [exactly, List.take_left]
    simp only [proxyTurn, chunk, if_pos (whole_of_formed w.stale formed)]

/-! ### What the client hands on -/

theorem readRest_bounds (hdrLength second : Nat) (stream : Qmi) :
    (readRest hdrLength second stream).1 <+: stream ∧
      (readRest hdrLength second stream).2 ≤ (readRest hdrLength second stream).1.length := by
  rw [readRest]
  split_ifs
  · exact ⟨List.nil_prefix, by decide⟩
  · exact ⟨List.nil_prefix, by decide⟩
  · dsimp only
    split_ifs
    · exact ⟨List.nil_prefix, by decide⟩
    · exact ⟨List.take_prefix _ _, Int.le_refl _⟩

theorem qmiProxyRead_bounds (buffer : Qmi) (w : ClientWake) (stream : Qmi) :
    (qmiProxyRead buffer w stream).1 <+: stream ∧
      (qmiProxyRead buffer w stream).2 ≤ (qmiProxyRead buffer w stream).1.length ∧
        stream.take (min hdrSize w.first) <+: (qmiProxyRead buffer w stream).1 := by
  rw [qmiProxyRead]
  dsimp only
  split_ifs with header
  · generalize (readInto buffer (stream.take (min hdrSize w.first))).hdrLength = hdrLength
    obtain ⟨part, within⟩ := readRest_bounds hdrLength w.second (stream.drop hdrSize)
    -- The header is the first six bytes of the stream.
    have six : stream.take (min hdrSize w.first) = stream.take hdrSize := by
      have size := header.1
      rw [List.length_take] at size
      rw [show min hdrSize w.first = hdrSize by omega]
    refine ⟨?_, by rw [List.length_append]; push_cast; omega, List.prefix_append _ _⟩
    conv_rhs => rw [← List.take_append_drop hdrSize stream]
    rw [six]
    exact (List.prefix_append_right_inj _).mpr part
  · exact ⟨List.take_prefix _ _, Int.le_refl _, List.prefix_refl _⟩

theorem clientReader_lawful : clientReader.Lawful where
  sound buffer w stream := by
    rintro ⟨some, written⟩
    obtain ⟨_, within, header⟩ := qmiProxyRead_bounds buffer w stream
    constructor
    · apply List.ne_nil_of_length_pos
      have length := header.length_le
      rw [List.length_take] at length
      have hdr : hdrSize = 6 := rfl
      simp only [clientReader, clientTurn]
      omega
    · intro h handed
      simp only [clientReader, clientTurn] at handed ⊢
      split_ifs at handed
      · cases handed
        rw [readInto, List.take_append_of_le_length (by omega)]
        exact List.take_prefix _ _
      · cases handed
  taken buffer w stream := (qmiProxyRead_bounds buffer w stream).1

section

variable {m : Qmi} (formed : m.Formed) (buffer : Qmi) (rest : Qmi)

include formed

/-- What the second read gets when the first has got the header of a message. -/
theorem qmiProxyRead_of_header {w : ClientWake} (header : hdrSize ≤ w.first) :
    qmiProxyRead buffer w (m ++ rest) =
      let second := readRest m.hdrLength w.second (m.drop hdrSize ++ rest)
      (m.take hdrSize ++ second.1, hdrSize + second.2) := by
  have long : hdrSize ≤ m.length := formed.1
  have length : (m.take hdrSize).length = hdrSize := List.length_take_of_le long
  have fields : (readInto buffer (m.take hdrSize)).hdrLength = m.hdrLength := by
    rw [hdrLength_readInto _ (Nat.le_of_eq length.symm)]
    rw [← hdrLength_append (Nat.le_of_eq length.symm), List.take_append_drop]
  have small : m.hdrLength < cmRecvBufSize := by
    have bounds := formed.2
    rw [qmiBufSize] at bounds
    rw [cmRecvBufSize]
    omega
  rw [qmiProxyRead, Nat.min_eq_left header, List.take_append_of_le_length long,
    List.drop_append_of_le_length long, fields, length, if_pos ⟨rfl, small⟩]

/-- All that is missing has arrived. -/
theorem readRest_of_arrived {second : Nat} (arrived : m.length ≤ hdrSize + second) :
    readRest m.hdrLength second (m.drop hdrSize ++ rest) =
      (m.drop hdrSize, ((m.length - hdrSize : Nat) : Int)) := by
  have long := formed.1
  have length := formed.2.1
  rw [readRest, if_neg (by rw [hdrSize]; omega)]
  split_ifs with empty
  · have nothing : m.drop hdrSize = [] := List.drop_eq_nil_of_le (by omega)
    rw [nothing, length, empty, Nat.sub_self]
    rfl
  · have size : (m.drop hdrSize).length = m.hdrLength + 1 - hdrSize := by
      rw [List.length_drop, length]
    have chunk : (m.drop hdrSize ++ rest).take (min (m.hdrLength + 1 - hdrSize) second) =
        m.drop hdrSize := by
      rw [Nat.min_eq_left (by omega), ← size, List.take_left]
    have some : m.drop hdrSize ≠ [] := List.ne_nil_of_length_pos (by rw [hdrSize] at *; omega)
    rw [chunk]
    simp only [if_neg some, List.length_drop]

omit formed in
theorem length_readRest_le (hdrLength second : Nat) :
    (readRest hdrLength second rest).1.length ≤ second := by
  rw [readRest]
  split_ifs
  · exact Nat.zero_le _
  · exact Nat.zero_le _
  · dsimp only
    split_ifs
    · exact Nat.zero_le _
    · rw [List.length_take]
      omega

/-- The first read gets the header, and the second all the rest of the message. -/
theorem clientTurn_iff (w : ClientWake) :
    clientTurn buffer w (m ++ rest) = ⟨m, some m⟩ ↔
      hdrSize ≤ w.first ∧ m.length ≤ hdrSize + w.second := by
  constructor
  · intro turn
    have consumed : (qmiProxyRead buffer w (m ++ rest)).1 = m := congrArg Turn.consumed turn
    have header : hdrSize ≤ w.first := by
      by_contra short
      -- A part of the header is taken for the whole message.
      have length : ((m ++ rest).take (min hdrSize w.first)).length ≠ hdrSize := by
        rw [List.length_take]
        omega
      rw [qmiProxyRead, if_neg fun both => length both.1] at consumed
      have whole := congrArg List.length consumed
      rw [List.length_take] at whole
      have long := formed.1
      rw [hdrSize] at *
      omega
    refine ⟨header, ?_⟩
    by_contra missing
    have long : hdrSize ≤ m.length := formed.1
    have part := length_readRest_le (m.drop hdrSize ++ rest) m.hdrLength w.second
    rw [qmiProxyRead_of_header formed buffer rest header] at consumed
    have whole := congrArg List.length consumed
    rw [List.length_append, List.length_take_of_le long] at whole
    omega
  · rintro ⟨header, arrived⟩
    have long : hdrSize ≤ m.length := formed.1
    have read : qmiProxyRead buffer w (m ++ rest) = (m, (m.length : Int)) := by
      rw [qmiProxyRead_of_header formed buffer rest header, readRest_of_arrived formed rest arrived]
      dsimp only
      rw [List.take_append_drop]
      congr 1
      omega
    have length : (m.length : Int) = (readInto buffer m).hdrLength + 1 := by
      rw [hdrLength_readInto buffer long, formed.2.1]
      rfl
    have taken : (readInto buffer m).take m.length = m := List.take_left
    simp only [clientTurn, read, if_pos length, Int.toNat_natCast, taken]

end

/-! ### Both sides -/

/-- Of the messages that one side has written the proxy hands on all and nothing else exactly if
each of its reads finds one message, whole and alone; the client, if each of its first reads
finds a whole header, and each of its second reads all that is missing of the message. -/
theorem stream_framing (messages : List Qmi) (formed : ∀ m ∈ messages, m.Formed)
    (proxyWakes : List ProxyWake) (clientWakes : List ClientWake) (buffer : Qmi)
    (proxyDrains : proxyReader.Drains () proxyWakes messages.flatten)
    (clientDrains : clientReader.Drains buffer clientWakes messages.flatten) :
    (handedOn (proxyReader.turns () proxyWakes messages.flatten) = messages ↔
      List.Forall₂ (fun w m => min qmiBufSize w.available = m.length) proxyWakes messages) ∧
    (handedOn (clientReader.turns buffer clientWakes messages.flatten) = messages ↔
      List.Forall₂ (fun w m => hdrSize ≤ w.first ∧ m.length ≤ hdrSize + w.second) clientWakes
        messages) := by
  constructor
  · refine Reader.handedOn_turns_iff proxyReader_lawful _ messages ?_ proxyDrains
    intro m member _ w rest possible
    exact proxyTurn_iff (formed m member) w rest possible.2
  · refine Reader.handedOn_turns_iff clientReader_lawful _ messages ?_ clientDrains
    intro m member buffer w rest _
    exact clientTurn_iff (formed m member) buffer rest w

/-- Two requests sent back to back. -/
def backToBack : List Qmi := [getClientIdReq 1 1, wdsRequest]

theorem backToBack_formed : ∀ m ∈ backToBack, m.Formed := by decide

/-- The proxy that finds both requests in its socket hands on neither of them. The client that finds
but the header of the first loses this one. -/
theorem back_to_back_requests_lost :
    (¬ ∀ (messages : List Qmi) (proxyWakes : List ProxyWake), (∀ m ∈ messages, m.Formed) →
      proxyReader.Drains () proxyWakes messages.flatten →
        handedOn (proxyReader.turns () proxyWakes messages.flatten) = messages) ∧
    ¬ ∀ (messages : List Qmi) (clientWakes : List ClientWake) (buffer : Qmi),
      (∀ m ∈ messages, m.Formed) → clientReader.Drains buffer clientWakes messages.flatten →
        handedOn (clientReader.turns buffer clientWakes messages.flatten) = messages := by
  constructor
  · intro lossless
    have all := lossless backToBack [⟨29, []⟩] backToBack_formed (by decide +kernel)
    exact absurd all (by decide +kernel)
  · intro lossless
    have all := lossless backToBack [⟨6, 0⟩, ⟨6, 0⟩, ⟨4, 0⟩, ⟨13, 7⟩] [] backToBack_formed
      (by decide +kernel)
    exact absurd all (by decide +kernel)

/-- Both sides get both requests: the proxy one by one, the client out of one socket's load. -/
theorem stream_framing_back_to_back :
    handedOn (proxyReader.turns () [⟨16, []⟩, ⟨13, []⟩] backToBack.flatten) = backToBack ∧
      handedOn (clientReader.turns [] [⟨29, 23⟩, ⟨13, 7⟩] backToBack.flatten) = backToBack := by
  have framing := stream_framing backToBack backToBack_formed [⟨16, []⟩, ⟨13, []⟩]
    [⟨29, 23⟩, ⟨13, 7⟩] [] (by decide +kernel) (by decide +kernel)
  constructor
  · exact framing.1.mpr (by simp [backToBack, getClientIdReq, wdsRequest, qmiBufSize])
  · exact framing.2.mpr (by simp [backToBack, getClientIdReq, wdsRequest, hdrSize])

end LorawanFeeds.QmiProxy
