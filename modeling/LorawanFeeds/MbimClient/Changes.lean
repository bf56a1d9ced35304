import Mathlib.Logic.Function.Basic
import LorawanFeeds.MbimClient.Client

/-!
# Changes that the main thread hears of

The client keeps a copy of four states of the modem. A request function of the main thread sets a
copy to what the response says; the reader compares what an indication tells with the copy, and
sends the main thread an event where they differ. What the modem has told last of a state is
therefore what has been noted, or the main thread has been sent an event since it noted it, unless
the modem changes a state between its answer and the moment in which the main thread notes it.
-/
namespace LorawanFeeds.MbimClient

open Lib Memory

/-! ### The four states -/

inductive Kind where
  | ready
  | register
  | packetService
  | activation
  deriving DecidableEq, Repr

namespace Kind

/-- Where the state stands in the information. -/
def offset : Kind → Nat
  | ready => 0
  | register | packetService | activation => 4

/-- The event that the main thread is sent. -/
def event : Kind → MainEvent
  | ready | register | packetService => .voiceNetworkStateChanged
  | activation => .dataCallListChanged

end Kind

def Noted.get (noted : Noted) : Kind → UInt32
  | .ready => noted.oldReadyState
  | .register => noted.oldRegisterState
  | .packetService => noted.oldPacketServiceState
  | .activation => noted.oldActivationState

def Noted.set (noted : Noted) (value : UInt32) : Kind → Noted
  | .ready => { noted with oldReadyState := value }
  | .register => { noted with oldRegisterState := value }
  | .packetService => { noted with oldPacketServiceState := value }
  | .activation => { noted with oldActivationState := value }

@[simp] theorem Noted.get_set_self (noted : Noted) (value : UInt32) (kind : Kind) :
    (noted.set value kind).get kind = value := by
  cases kind <;> rfl

theorem Noted.get_set_of_ne (noted : Noted) (value : UInt32) {kind other : Kind}
    (different : other ≠ kind) : (noted.set value kind).get other = noted.get other := by
  cases kind <;> cases other <;> first
    | rfl
    | exact absurd rfl different

/-- What an indication tells. A connection tells of its own session only. -/
def tells (mbimSessionID : UInt32) (m : Memory) : Option (Kind × UInt32) :=
  if messageType m = mbimIndicateStatusMsg ∧ deviceServiceId m = uuidBasicConnect then
    if indicationCid m = mbimCidSubscriberReadyStatus then some (.ready, information m 0)
    else if indicationCid m = mbimCidRegisterState then some (.register, information m 4)
    else if indicationCid m = mbimCidPacketService then some (.packetService, information m 4)
    else if indicationCid m = mbimCidConnect then
      if information m 0 = mbimSessionID then some (.activation, information m 4) else none
    else none
  else none

/-- The `InformationBufferLength` of `MBIM_COMMAND_DONE_T`, and a word behind it. -/
def informationBufferLength (m : Memory) : UInt32 := le32 m 44
def doneInformation (m : Memory) (offset : Nat) : UInt32 := le32 m (48 + offset)

/-- What a request function for the state takes from the response. -/
def Return.takes (r : Return) (kind : Kind) : Option UInt32 :=
  match mbimCheckErr r.ret (r.pCmdDone.map Prod.snd), r.pCmdDone with
  | none, some (_, m) =>
    if informationBufferLength m = 0 then none else some (doneInformation m kind.offset)
  | _, _ => none

/-! ### The main thread -/

/-- The client with the main thread. A request function is under way from its request on until it
has taken the response; most of them take no state from it. -/
structure Session where
  client : State := {}
  /-- `ReadyState`, `RegisterState`, `PacketServiceState` and `ActivationState`. -/
  current : Noted := {}
  asked : Option (Option Kind) := none
  /-- What the modem has told last, and the number of the events when the main thread last noted a
  state. -/
  told : Kind → Option UInt32 := fun _ => none
  marks : Kind → Nat := fun _ => 0

inductive SessionEvent where
  /-- A request function sends its request. -/
  | ask (kind : Option Kind) (messageType messageLength : UInt32) (allocated : Bool)
      (msecs : UInt32) (write : Int)
  | recv (pResponse : Memory) (block : Option Memory)
  | wake (ret : Int)
  /-- The request function goes on behind `mbim_send_command`. -/
  | take
  | start (fd : Int)
  | quit

namespace Session

/-- The information of the response is taken, and `mbim_update_state` is called. -/
def note (s : Session) (kind : Kind) (value : UInt32) : Session :=
  { s with
    client := s.client.step (.update (s.current.set value kind))
    current := s.current.set value kind
    marks := Function.update s.marks kind s.client.toMain.length }

/-- `mbim_query_connect`, `mbim_register_state_query` and the like, behind `mbim_send_command`. -/
def goOn (s : Session) (asked : Option Kind) : Session :=
  match asked, s.client.returned.getLast? with
  | some kind, some r =>
    match r.takes kind with
    | some value => { s with asked := none }.note kind value
    | none => { s with asked := none }
  | _, _ => { s with asked := none }

def hear (s : Session) : Option (Kind × UInt32) → Kind → Option UInt32
  | some (kind, value) => Function.update s.told kind (some value)
  | none => s.told

def step (s : Session) : SessionEvent → Session
  | .ask kind messageType messageLength allocated msecs write =>
    match s.asked with
    | none =>
      { s with
        client := s.client.step (.send messageType messageLength allocated true msecs write)
        asked := some kind }
    | some _ => s
  | .recv pResponse block =>
    { s with
      client := s.client.step (.recv pResponse block)
      told := s.hear (tells s.client.mbimSessionID pResponse) }
  | .wake ret => { s with client := s.client.step (.wake ret) }
  | .take =>
    match s.asked, s.client.call with
    | some asked, none => s.goOn asked
    | _, _ => s
  | .start fd => { s with client := s.client.step (.start fd) }
  | .quit => { s with client := s.client.step .quit }

end Session

/-- The response that is there for the request function that is under way. -/
def State.answer (s : State) : Option Memory :=
  match s.call with
  | some _ => s.mbimPResponse.map Prod.snd
  | none => s.returned.getLast?.bind fun r => r.pCmdDone.map Prod.snd

/-- The response is long enough, and says what the modem has told last. -/
def Session.Agrees (s : Session) (m : Memory) (kind : Kind) : Prop :=
  52 + kind.offset ≤ (messageLength m).toNat ∧
    (informationBufferLength m ≠ 0 → ∀ value ∈ s.told kind, doneInformation m kind.offset = value)

instance (s : Session) (m : Memory) : DecidablePred (s.Agrees m) := fun kind =>
  haveI : Decidable (∀ value ∈ s.told kind, doneInformation m kind.offset = value) :=
    Option.decidableForallMem _
  inferInstanceAs (Decidable (_ ∧ (_ → _)))

/-- What the modem does: an indication has no number of a request, a response to a request for a
state agrees with what has been told of it, and of this state nothing new is told as long as the
response has not been taken. -/
def Session.Orderly (s : Session) : SessionEvent → Prop
  | .recv m _ =>
    (messageType m = mbimIndicateStatusMsg → s.client.matched m = false) ∧
      ∀ kind ∈ s.asked.join, (s.client.matched m = true → s.Agrees m kind) ∧
        (s.client.answer.isSome = true → ∀ told ∈ tells s.client.mbimSessionID m,
          told.1 = kind → s.told kind = some told.2)
  | _ => True

instance (s : Session) : DecidablePred s.Orderly
  | .recv m _ =>
    haveI (kind : Kind) : Decidable (∀ told ∈ tells s.client.mbimSessionID m,
        told.1 = kind → s.told kind = some told.2) :=
      Option.decidableForallMem _
    inferInstanceAs (Decidable ((_ → _) ∧ ∀ kind ∈ s.asked.join, (_ → _) ∧ (_ → _)))
  | .ask .. | .wake _ | .take | .start _ | .quit => instDecidableTrue

/-! ### The client -/

namespace State

variable {s : State}

/-- The reader compares what it is told with the copy. -/
theorem indication_eq (s : State) (m : Memory) :
    s.indication m = match tells s.mbimSessionID m with
      | some (kind, value) => if s.noted.get kind ≠ value then [kind.event] else []
      | none => [] := by
  rw [indication, tells]
  by_cases basic : messageType m = mbimIndicateStatusMsg ∧ deviceServiceId m = uuidBasicConnect
  · rw [if_pos basic, if_pos basic]
    by_cases ready : indicationCid m = mbimCidSubscriberReadyStatus
    · rw [if_pos ready, if_pos ready]
      rfl
    rw [if_neg ready, if_neg ready]
    by_cases register : indicationCid m = mbimCidRegisterState
    · rw [if_pos register, if_pos register]
      rfl
    rw [if_neg register, if_neg register]
    by_cases service : indicationCid m = mbimCidPacketService
    · rw [if_pos service, if_pos service]
      rfl
    rw [if_neg service, if_neg service]
    by_cases connect : indicationCid m = mbimCidConnect
    · rw [if_pos connect, if_pos connect]
      by_cases own : information m 0 = s.mbimSessionID
      · rw [if_pos own]
        simp only [own, true_and]
        rfl
      · rw [if_neg own, if_neg fun both => own both.1]
    · rw [if_neg connect, if_neg connect]
  · rw [if_neg basic, if_neg basic]

/-- The client goes on without a new copy of a state and without a new response. -/
structure Quiet (s s' : State) : Prop where
  noted : s'.noted = s.noted
  toMain : s.toMain <+: s'.toMain
  answer : ∀ m ∈ s'.answer, m ∈ s.answer
  idle : s.call = none → s'.call = none

theorem answer_of_call {call : Call} (running : s.call = some call) :
    s.answer = s.mbimPResponse.map Prod.snd := by
  rw [answer, running]

theorem answer_of_idle (idle : s.call = none) :
    s.answer = s.returned.getLast?.bind fun r => r.pCmdDone.map Prod.snd := by
  rw [answer, idle]

theorem answer_refuse (idle : s.call = none) (ret : Int) : (s.refuse ret).answer = none := by
  rw [answer_of_idle (show (s.refuse ret).call = none from idle), refuse]
  simp

theorem answer_finish (s : State) (call : Call) (ret : Int) :
    (s.finish call ret).answer =
      if ret = 0 ∧ call.ppCmdDone then s.mbimPResponse.map Prod.snd else none := by
  rw [answer_of_idle rfl, finish]
  simp only [List.getLast?_concat, Option.bind_some]
  split <;> rfl

/-- A new request: no response is there, and nothing else changes. -/
theorem step_send (idle : s.call = none) (messageType messageLength : UInt32) (allocated : Bool)
    (msecs : UInt32) (write : Int) :
    let s' := s.step (.send messageType messageLength allocated true msecs write)
    s'.noted = s.noted ∧ s'.toMain = s.toMain ∧ s'.answer = none := by
  have transmitted (s : State) (request : Request) :
      let s' := s.transmit request true msecs write
      s'.noted = s.noted ∧ s'.toMain = s.toMain ∧ s'.answer = none := by
    rw [transmit]
    dsimp only
    split
    · exact ⟨rfl, rfl, rfl⟩
    · refine ⟨rfl, rfl, ?_⟩
      rw [answer_finish]
      split <;> rfl
  have sent (s : State) (idle : s.call = none) (request : Option Request) :
      let s' := s.mbimSendCommand request true msecs write
      s'.noted = s.noted ∧ s'.toMain = s.toMain ∧ s'.answer = none := by
    unfold mbimSendCommand
    split
    · exact ⟨rfl, rfl, answer_refuse idle _⟩
    split
    · exact ⟨rfl, rfl, answer_refuse idle _⟩
    cases request with
    | none => exact ⟨rfl, rfl, answer_refuse idle _⟩
    | some request =>
      obtain ⟨noted, toMain, answer⟩ := transmitted (s.renumber request).2 (s.renumber request).1
      refine ⟨noted.trans ?_, toMain.trans ?_, answer⟩
      · rw [renumber]
        split <;> rfl
      · rw [renumber]
        split <;> rfl
  rw [step, idle]
  cases allocated with
  | true =>
    let composed := s.compose messageType messageLength true
    exact sent composed.2 idle composed.1
  | false => exact sent s idle none

/-- The wait for a response goes on, or ends with the one that is there. -/
theorem step_wake (s : State) (ret : Int) : Quiet s (s.step (.wake ret)) := by
  have same : Quiet s s := ⟨rfl, List.prefix_rfl, fun _ member => member, id⟩
  cases running : s.call with
  | none =>
    rw [step, running]
    exact same
  | some call =>
    rw [step, running]
    dsimp only
    cases again : call.next ret with
    | some call' =>
      refine ⟨rfl, List.prefix_rfl, fun m there => ?_, fun idle => ?_⟩
      · rw [answer_of_call running]
        exact there
      · exact absurd (running.symm.trans idle) (by simp)
    | none =>
      refine ⟨rfl, List.prefix_rfl, fun m there => ?_, fun _ => rfl⟩
      rw [answer_finish] at there
      rw [answer_of_call running]
      split at there
      · exact there
      · cases there

theorem leave_quiet (s : State) : Quiet s s.leave :=
  ⟨rfl, List.prefix_append _ _, fun _ there => there, id⟩

theorem step_start (s : State) (fd : Int) : Quiet s (s.step (.start fd)) := by
  rw [step]
  split
  · exact ⟨rfl, List.prefix_append _ _, fun _ there => there, id⟩
  · exact leave_quiet s

/-- A message that is taken for the response. -/
theorem step_matched {m : Memory} (matched : s.matched m = true) (block : Option Memory) :
    let s' := s.step (.recv m block)
    s'.noted = s.noted ∧ s'.toMain = s.toMain ∧ s'.call = s.call ∧
      ∀ there ∈ s'.answer, there ∈ s.answer ∨
        ∃ block, there = memcpy block m (messageLength m).toNat := by
  rw [step, mbimRecvCommand]
  dsimp only
  rw [if_pos matched]
  refine ⟨rfl, rfl, rfl, fun there has => ?_⟩
  cases running : s.call with
  | none =>
    left
    rw [answer_of_idle (by exact running)] at has
    rw [answer_of_idle running]
    exact has
  | some call =>
    right
    rw [answer_of_call (by exact running)] at has
    cases block with
    | none => cases has
    | some block => exact ⟨block, (Option.some.inj has).symm⟩

/-- Any other message. -/
theorem step_unmatched {m : Memory} (matched : s.matched m = false) (block : Option Memory) :
    let s' := s.step (.recv m block)
    s'.noted = s.noted ∧ s'.toMain = s.toMain ++ s.indication m ∧ s'.call = s.call ∧
      s'.answer = s.answer := by
  rw [step, mbimRecvCommand]
  dsimp only
  rw [if_neg (by rw [matched]; simp)]
  exact ⟨rfl, rfl, rfl, rfl⟩

end State

/-! ### What a session keeps -/

namespace Session

/-- The main thread has noted what has been told, or has been sent an event since it noted it. -/
def Heard (s : Session) (kind : Kind) : Prop :=
  ∀ value ∈ s.told kind, s.client.noted.get kind = value ∨
    kind.event ∈ s.client.toMain.drop (s.marks kind)

structure Noticed (s : Session) : Prop where
  current : s.current = s.client.noted
  marks : ∀ kind, s.marks kind ≤ s.client.toMain.length
  idle : s.asked = none → s.client.call = none
  /-- The response that is there says what the modem has told last. -/
  answer : ∀ kind ∈ s.asked.join, ∀ m ∈ s.client.answer, informationBufferLength m ≠ 0 →
    ∀ value ∈ s.told kind, doneInformation m kind.offset = value
  heard : ∀ kind, s.Heard kind

variable {s : Session}

/-- An event that has been sent stays sent. -/
theorem sent_longer {toMain toMain' : List MainEvent} (longer : toMain <+: toMain')
    {mark : Nat} {event : MainEvent} (sent : event ∈ toMain.drop mark) :
    event ∈ toMain'.drop mark := by
  obtain ⟨more, rfl⟩ := longer
  rw [List.drop_append]
  exact List.mem_append_left _ sent

theorem Noticed.quiet (noticed : s.Noticed) {client : State} (quiet : s.client.Quiet client) :
    Noticed { s with client } where
  current := noticed.current.trans quiet.noted.symm
  marks kind := Nat.le_trans (noticed.marks kind) quiet.toMain.length_le
  idle asked := quiet.idle (noticed.idle asked)
  answer kind asked m there := noticed.answer kind asked m (quiet.answer m there)
  heard kind value told := by
    dsimp only
    rw [quiet.noted]
    exact (noticed.heard kind value told).imp_right (sent_longer quiet.toMain)

/-- A copy has the members of the response that the main thread reads. -/
theorem memcpy_members (block m : Memory) {kind : Kind}
    (long : 52 + kind.offset ≤ (messageLength m).toNat) :
    let copy := memcpy block m (messageLength m).toNat
    informationBufferLength copy = informationBufferLength m ∧
      doneInformation copy kind.offset = doneInformation m kind.offset := by
  have same : ∀ k < (messageLength m).toNat, memcpy block m (messageLength m).toNat k = m k :=
    fun k inside => memcpy_of_lt block m inside
  exact ⟨le32_congr same (by omega), le32_congr same (by omega)⟩

theorem tells_of_response {mbimSessionID : UInt32} {m : Memory}
    (response : messageType m ≠ mbimIndicateStatusMsg) : tells mbimSessionID m = none := by
  rw [tells, if_neg fun both => response both.1]

/-- A response: the modem tells nothing, and a copy of it is there if there was room for one. -/
theorem Noticed.response (noticed : s.Noticed) {m : Memory} {block : Option Memory}
    (orderly : s.Orderly (.recv m block)) (matched : s.client.matched m = true) :
    (s.step (.recv m block)).Noticed := by
  obtain ⟨unnumbered, asked⟩ := orderly
  have untold : tells s.client.mbimSessionID m = none := by
    apply tells_of_response
    intro indication
    exact absurd (matched.symm.trans (unnumbered indication)) (by simp)
  obtain ⟨noted, toMain, call, copied⟩ := State.step_matched matched block
  rw [step, untold, hear]
  constructor
  · exact noticed.current.trans noted.symm
  · intro kind
    exact toMain ▸ noticed.marks kind
  · intro none
    exact call.trans (noticed.idle none)
  · intro kind under there has full value told
    rcases copied there has with old | ⟨block, rfl⟩
    · exact noticed.answer kind under there old full value told
    · obtain ⟨long, agrees⟩ := (asked kind under).1 matched
      obtain ⟨length, word⟩ := memcpy_members block m long
      rw [word]
      exact agrees (length ▸ full) value told
  · intro kind value told
    dsimp only
    rw [noted, toMain]
    exact noticed.heard kind value told

/-- What has been told of a state is new, or is what was told before. -/
theorem mem_hear {told : Option (Kind × UInt32)} {kind : Kind} {value : UInt32}
    (has : value ∈ s.hear told kind) : told = some (kind, value) ∨ value ∈ s.told kind := by
  cases told with
  | none => exact .inr has
  | some pair =>
    rw [hear] at has
    by_cases same : kind = pair.1
    · subst same
      rw [Function.update_self] at has
      cases has
      exact .inl rfl
    · rw [Function.update_of_ne same] at has
      exact .inr has

/-- An indication: the main thread is sent an event if it tells something new. -/
theorem Noticed.indication (noticed : s.Noticed) {m : Memory} {block : Option Memory}
    (orderly : s.Orderly (.recv m block)) (unmatched : s.client.matched m = false) :
    (s.step (.recv m block)).Noticed := by
  obtain ⟨_, asked⟩ := orderly
  obtain ⟨noted, toMain, call, answer⟩ := State.step_unmatched unmatched block
  rw [step]
  constructor
  · exact noticed.current.trans noted.symm
  · intro kind
    dsimp only
    rw [toMain, List.length_append]
    exact Nat.le_add_right_of_le (noticed.marks kind)
  · intro none
    exact call.trans (noticed.idle none)
  · intro kind under there has full value told
    dsimp only at has under
    rw [answer] at has
    apply noticed.answer kind under there has full value
    -- Nothing new is told of the state that has been asked for.
    rcases mem_hear told with new | old
    · exact (asked kind under).2 (Option.isSome_of_mem has) _ new rfl
    · exact old
  · intro kind value told
    dsimp only
    rw [noted, toMain]
    rcases mem_hear told with new | old
    · by_cases equal : s.client.noted.get kind = value
      · exact .inl equal
      · right
        rw [State.indication_eq, new, List.drop_append_of_le_length (noticed.marks kind)]
        simp [equal]
    · exact (noticed.heard kind value old).imp_right (sent_longer (List.prefix_append _ _))

theorem Noticed.ask (noticed : s.Noticed) (kind : Option Kind) (messageType messageLength : UInt32)
    (allocated : Bool) (msecs : UInt32) (write : Int) :
    (s.step (.ask kind messageType messageLength allocated msecs write)).Noticed := by
  rw [step]
  cases asked : s.asked with
  | some earlier => exact noticed
  | none =>
    obtain ⟨noted, toMain, answer⟩ := State.step_send (noticed.idle asked) messageType
      messageLength allocated msecs write
    constructor
    · exact noticed.current.trans noted.symm
    · intro kind
      exact toMain ▸ noticed.marks kind
    · rintro ⟨⟩
    · intro kind _ m there
      dsimp only at there
      rw [answer] at there
      cases there
    · intro kind value told
      dsimp only
      rw [noted, toMain]
      exact noticed.heard kind value told

/-- The request function has come to its end. -/
theorem Noticed.done (noticed : s.Noticed) (idle : s.client.call = none) :
    Noticed { s with asked := none } where
  current := noticed.current
  marks := noticed.marks
  idle _ := idle
  answer := by rintro kind ⟨⟩
  heard := noticed.heard

/-- What the main thread notes is what the modem has told, if it has told of the state. -/
theorem Noticed.note (noticed : s.Noticed) {kind : Kind} {value : UInt32}
    (agrees : ∀ told ∈ s.told kind, value = told) (idle : s.client.call = none) :
    Noticed ({ s with asked := none }.note kind value) where
  current := rfl
  marks other := by
    change Function.update s.marks kind s.client.toMain.length other ≤ s.client.toMain.length
    by_cases same : other = kind
    · rw [same, Function.update_self]
    · rw [Function.update_of_ne same]
      exact noticed.marks other
  idle _ := idle
  answer := by rintro other ⟨⟩
  heard other told has := by
    change (s.current.set value kind).get other = told ∨
      other.event ∈ s.client.toMain.drop
        (Function.update s.marks kind s.client.toMain.length other)
    by_cases same : other = kind
    · subst same
      left
      rw [Noted.get_set_self]
      exact agrees told has
    · rw [Function.update_of_ne same, Noted.get_set_of_ne _ _ same, noticed.current]
      exact noticed.heard other told has

/-- The state that is taken stands in the response that is there. -/
theorem answer_of_takes {r : Return} {kind : Kind} {value : UInt32}
    (last : s.client.returned.getLast? = some r) (idle : s.client.call = none)
    (takes : r.takes kind = some value) :
    ∃ m ∈ s.client.answer,
      informationBufferLength m ≠ 0 ∧ doneInformation m kind.offset = value := by
  rw [Return.takes] at takes
  split at takes
  next number m _ done =>
    split at takes
    · cases takes
    next full =>
      refine ⟨m, ?_, full, Option.some.inj takes⟩
      rw [State.answer_of_idle idle, last, Option.bind_some, done]
      rfl
  · cases takes

theorem Noticed.take (noticed : s.Noticed) : (s.step .take).Noticed := by
  rw [step]
  split
  next under asked idle =>
    unfold goOn
    split
    next kind r last =>
      split
      next value takes =>
        obtain ⟨m, there, full, word⟩ := answer_of_takes last idle takes
        apply noticed.note _ idle
        intro told has
        rw [← word]
        apply noticed.answer kind _ m there full told has
        rw [asked]
        rfl
      · exact noticed.done idle
    · exact noticed.done idle
  · exact noticed

theorem step_noticed (s : Session) (e : SessionEvent) (noticed : s.Noticed)
    (orderly : s.Orderly e) : (s.step e).Noticed := by
  cases e with
  | ask kind messageType messageLength allocated msecs write =>
    exact noticed.ask kind messageType messageLength allocated msecs write
  | recv m block =>
    cases matched : s.client.matched m with
    | true => exact noticed.response orderly matched
    | false => exact noticed.indication orderly matched
  | wake ret => exact noticed.quiet (s.client.step_wake ret)
  | take => exact noticed.take
  | start fd => exact noticed.quiet (s.client.step_start fd)
  | quit => exact noticed.quiet s.client.leave_quiet

/-- The connection manager before the modem is there. -/
def initial (mbimSessionID : UInt32) : Session where
  client := { mbimSessionID }

theorem initial_noticed (mbimSessionID : UInt32) : (initial mbimSessionID).Noticed where
  current := rfl
  marks _ := Nat.le_refl 0
  idle _ := rfl
  answer := by rintro kind ⟨⟩
  heard := by rintro kind value ⟨⟩

/-- No change of a state goes unnoticed: of each of the four, the main thread has noted what the
modem has told last, or has been sent an event since it noted the state. -/
theorem changes_noticed (mbimSessionID : UInt32) (events : List SessionEvent)
    (orderly : Guarded step Orderly (initial mbimSessionID) events) (kind : Kind) :
    (run step (initial mbimSessionID) events).Heard kind :=
  (guarded_invariant step Orderly Noticed step_noticed _ (initial_noticed mbimSessionID) events
    orderly).heard kind

/-- The head of a message about the registration, and the information with the state. -/
def registerState (messageType length transactionId : UInt8) (head : List UInt8)
    (state : UInt8) : Memory :=
  ofList ([messageType, 0, 0, 0x80, length, 0, 0, 0, transactionId, 0, 0, 0] ++
    List.replicate 8 0 ++ uuidBasicConnect ++ [9, 0, 0, 0] ++ head ++ [8, 0, 0, 0] ++
      [0, 0, 0, 0, state, 0, 0, 0])

def registerIndication : UInt8 → Memory := registerState 7 52 0 []
def registerResponse : UInt8 → Memory := registerState 3 56 1 [0, 0, 0, 0]

/-- The modem finds a network, the main thread asks and notes it, and the modem loses it. -/
theorem changes_noticed_register :
    (run step (initial 0) [.start 3, .recv (registerIndication 3) none,
      .ask (some .register) 3 48 true 30000 48, .recv (registerResponse 3) (some fun _ => 0),
      .wake 0, .take, .recv (registerIndication 0) none]).Heard .register :=
  changes_noticed 0 _ (by decide +kernel) .register

instance (s : Session) (kind : Kind) : Decidable (s.Heard kind) := Option.decidableForallMem _

/-- Here it loses it before the main thread has noted that it is there. -/
example : ¬(run step (initial 0) [.start 3, .recv (registerIndication 3) none,
    .ask (some .register) 3 48 true 30000 48, .recv (registerResponse 3) (some fun _ => 0),
    .recv (registerIndication 0) none, .wake 0, .take]).Heard .register := by
  decide +kernel

end Session

end LorawanFeeds.MbimClient
