import LorawanFeeds.QmiClient.DataCall

/-!
# Connected means confirmed

The functions that set up a data call take a call that has returned zero without a response for
success, and a refusal without an error code too. The reader wakes a waiting call without
a response when the device is lost. Where this does not happen, a status becomes connected only
after the modem has accepted both requests.
-/
namespace LorawanFeeds.QmiClient

open Lib

/-- The modem has accepted the request. -/
def Qmi.Accepts (m : Qmi) : Prop := m.qmuxResult = 0 ∧ m.qmuxError = 0

/-- A refusal names its error, and an accepted data call has a handle. -/
def Qmi.Plain (m request : Qmi) : Prop :=
  (m.qmuxError = 0 → m.qmuxResult = 0) ∧
    (request.type = qmiwdsStartNetworkInterfaceReq → m.qmuxError = 0 → m.handle ≠ 0)

instance (m : Qmi) : Decidable m.Accepts :=
  inferInstanceAs (Decidable (m.qmuxResult = 0 ∧ m.qmuxError = 0))

/-- What may happen while a request waits: the device is not lost before the response, the
response can be copied and is plain, and the wait is not woken without a reason. -/
def Calm (s : State) : Event → Prop
  | .disconnect => s.sPRequest = none
  | .wake ret => ret = 0 → s.sPRequest = none
  | .recv msg allocated => ∀ request, s.sPRequest = some request → isResponse request msg →
      allocated = true ∧ msg.Plain request
  | .send _ _ _ _ => True

def CalmWhile (s : State) : List Event → Prop
  | [] => True
  | e :: rest => s.call = none ∨ (Calm s e ∧ CalmWhile (s.step e) rest)

instance (m request : Qmi) : Decidable (m.Plain request) :=
  inferInstanceAs (Decidable ((_ → _) ∧ (_ → _ → _)))

instance (s : State) : ∀ e, Decidable (Calm s e)
  | .disconnect => inferInstanceAs (Decidable (s.sPRequest = none))
  | .wake ret => inferInstanceAs (Decidable (ret = 0 → s.sPRequest = none))
  | .recv msg allocated => inferInstanceAs (Decidable (∀ request ∈ s.sPRequest,
      isResponse request msg → allocated = true ∧ msg.Plain request))
  | .send _ _ _ _ => inferInstanceAs (Decidable True)

instance CalmWhile.decidable : ∀ s events, Decidable (CalmWhile s events)
  | _, [] => inferInstanceAs (Decidable True)
  | s, e :: rest =>
    have := CalmWhile.decidable (s.step e) rest
    inferInstanceAs (Decidable (s.call = none ∨ (Calm s e ∧ CalmWhile (s.step e) rest)))

/-- The requests that have been answered had calm waits. -/
def Client.Calm (c : Client) : Prop := ∀ a ∈ c.answers, CalmWhile a.begun a.events

instance (c : Client) : Decidable c.Calm :=
  inferInstanceAs (Decidable (∀ a ∈ c.answers, CalmWhile a.begun a.events))

/-! ### One call -/

/-- A call that returns zero returns a plain response. -/
def Return.Regular (r : Return) : Prop :=
  r.ret = 0 → ∃ number msg, r.response = some (number, msg) ∧ msg.Plain r.request

/-- The waiting call still has its request out, or has its response. -/
def State.Attended (s : State) (call : Call) : Prop :=
  call.ppResponse = true ∧
    ((s.sPRequest = some call.request ∧ s.sPResponse = none) ∨
      (s.sPRequest = none ∧
        ∃ number msg, s.sPResponse = some (number, msg) ∧ msg.Plain call.request))

/-- The call has returned, and in order. -/
def State.Settled (s : State) (request : Qmi) (returned : List Return) : Prop :=
  s.call = none ∧ ∃ r, s.returned = returned ++ [r] ∧ r.request = request ∧ r.Regular

namespace State

theorem finish_settled {s : State} {call : Call} {ret : Int}
    (regular : ret = 0 → call.ppResponse = true ∧
      ∃ number msg, s.sPResponse = some (number, msg) ∧ msg.Plain call.request) :
    (s.finish call ret).Settled call.request s.returned := by
  refine ⟨finish_call s call ret, ?_⟩
  rw [finish]
  split
  next zero =>
    obtain ⟨asked, answered⟩ := regular zero
    rw [if_pos asked]
    exact ⟨_, rfl, rfl, fun _ => answered⟩
  next nonzero => exact ⟨_, rfl, rfl, fun zero => absurd zero nonzero⟩

/-- A calm event leaves the call attended, or it returns in order. -/
theorem step_attended {s : State} {call : Call} (running : s.call = some call)
    (attended : s.Attended call) {e : Event} (calm : Calm s e) :
    (s.step e).Settled call.request s.returned ∨
      ∃ same : Call, (s.step e).call = some same ∧ same.request = call.request ∧
        (s.step e).Attended same ∧ (s.step e).returned = s.returned := by
  obtain ⟨asked, pending⟩ := attended
  cases e with
  | send request ppResponse msecs device =>
    right
    have unchanged : s.step (.send request ppResponse msecs device) = s := by
      simp only [step, running]
    rw [unchanged]
    exact ⟨call, running, rfl, ⟨asked, pending⟩, rfl⟩
  | recv msg allocated =>
    right
    refine ⟨call, by rw [step, recvQMI_call, running], rfl, ⟨asked, ?_⟩, ?_⟩
    · rw [step, recvQMI]
      rcases pending with ⟨out, empty⟩ | ⟨gone, answered⟩
      · by_cases answers : isResponse call.request msg
        · obtain ⟨copied, plain⟩ := calm call.request out answers
          right
          simp only [out, Option.any_some, answers, if_true, copied]
          exact ⟨trivial, _, msg, rfl, plain⟩
        · left
          simp only [out, Option.any_some, answers, Bool.false_eq_true, if_false]
          exact ⟨trivial, empty⟩
      · right
        simp only [gone, Option.any_none, Bool.false_eq_true, if_false]
        exact ⟨trivial, answered⟩
    · rw [step, recvQMI]
      split <;> rfl
  | disconnect =>
    right
    have unchanged : s.step .disconnect = s := by
      have gone : s.sPRequest = none := calm
      simp [step, recvNull, gone]
    rw [unchanged]
    exact ⟨call, running, rfl, ⟨asked, pending⟩, rfl⟩
  | wake ret =>
    simp only [step, running]
    split
    next more again =>
      right
      have same : more.request = call.request ∧ more.ppResponse = call.ppResponse := by
        rw [Call.next] at again
        split at again
        · cases again
          exact ⟨rfl, rfl⟩
        · cases again
      refine ⟨more, rfl, same.1, ⟨same.2.trans asked, ?_⟩, rfl⟩
      rw [same.1]
      exact pending
    · left
      apply finish_settled
      intro zero
      -- Woken for a reason: the request is gone, and so the response is there.
      rcases pending with ⟨out, _⟩ | ⟨_, answered⟩
      · rw [calm zero] at out
        cases out
      · exact ⟨asked, answered⟩

end State

open State

theorem await_settled {s : State} {call : Call} (running : s.call = some call)
    (attended : s.Attended call) (events : List Event) (calm : CalmWhile s events)
    (returned : (await s events).call = none) :
    (await s events).Settled call.request s.returned := by
  induction events generalizing s call with
  | nil => simp [await, running] at returned
  | cons e rest ih =>
    have busy : s.call ≠ none := by simp [running]
    simp only [await, if_neg busy] at returned ⊢
    obtain ⟨now, later⟩ := calm.resolve_left busy
    rcases step_attended running attended now with done | ⟨same, goes, request, still, log⟩
    · -- It has returned: no further event is taken.
      have stopped : await (s.step e) rest = s.step e := by
        cases rest with
        | nil => rfl
        | cons => simp [await, done.1]
      rw [stopped]
      exact done
    · have settled := ih goes still later returned
      rwa [request, log] at settled

theorem qmiWwanSendQMI_type (device : Device) (request : Qmi) :
    (qmiWwanSendQMI device request).2.type = request.type := by
  rw [qmiWwanSendQMI]
  split
  · rfl
  · split
    · rfl
    · dsimp only
      split
      · rfl
      · split <;> rfl

/-- What a calm exchange comes to, if the call returns. -/
theorem exchange_settled {s : State} (idle : s.call = none) (request : Qmi) (msecs : UInt32)
    (device : Device) (events : List Event) :
    let begun := s.step (.send (some request) true msecs device)
    CalmWhile begun events → (await begun events).call = none →
      (await begun events).Settled (qmiWwanSendQMI device request).2 s.returned := by
  intro begun calm returned
  have started : begun = s.sendQMI request true msecs device := by
    simp only [begun, step, idle]
  rw [sendQMI] at started
  dsimp only at started
  split at started
  next =>
    have running : begun.call = some ⟨(qmiWwanSendQMI device request).2, true, msecs, 0,
      s.received.length⟩ := by rw [started]
    have out : begun.sPRequest = some (qmiWwanSendQMI device request).2 := by rw [started]
    have empty : begun.sPResponse = none := by rw [started]
    have log : begun.returned = s.returned := by rw [started]
    have settled := await_settled running ⟨rfl, .inl ⟨out, empty⟩⟩ _ calm returned
    rwa [log] at settled
  next failed =>
    -- The write has failed: the call returns without a wait.
    have settled : begun.Settled (qmiWwanSendQMI device request).2 s.returned := by
      rw [started]
      exact @finish_settled
        { s with sPRequest := some (qmiWwanSendQMI device request).2, sPResponse := none }
        ⟨(qmiWwanSendQMI device request).2, true, msecs, 0, s.received.length⟩ _
        fun zero => absurd zero failed
    have stopped : await begun events = begun := by
      cases events with
      | nil => rfl
      | cons => simp [await, settled.1]
    rw [stopped]
    exact settled

theorem step_returned (s : State) (e : Event) : s.returned <+: (s.step e).returned := by
  have finish (s : State) (call : Call) (ret : Int) :
      s.returned <+: (s.finish call ret).returned := by
    obtain ⟨_, added, _⟩ := finish_returned s call ret
    rw [added]
    exact List.prefix_append _ _
  cases e with
  | send request ppResponse msecs device =>
    simp only [step]
    split
    next request _ =>
      rw [sendQMI]
      dsimp only
      split
      next => exact List.prefix_rfl
      next =>
        exact finish { s with sPRequest := some (qmiWwanSendQMI device request).2, sPResponse := none }
          _ _
    next => exact List.prefix_rfl
  | recv msg allocated =>
    rw [step, recvQMI]
    split <;> exact List.prefix_rfl
  | disconnect =>
    rw [step, recvNull]
    split <;> exact List.prefix_rfl
  | wake ret =>
    simp only [step]
    split
    · exact List.prefix_rfl
    · split
      · exact List.prefix_rfl
      · exact finish s _ _

theorem await_returned (s : State) (events : List Event) :
    s.returned <+: (await s events).returned := by
  induction events generalizing s with
  | nil => exact List.prefix_rfl
  | cons e rest ih =>
    rw [await]
    split
    · exact List.prefix_rfl
    · exact (step_returned s e).trans (ih (s.step e))

theorem await_paired {s : State} (paired : s.Paired) (events : List Event) :
    (await s events).Paired := by
  induction events generalizing s with
  | nil => exact paired
  | cons e rest ih =>
    rw [await]
    split
    · exact paired
    · exact ih (step_paired s e paired)

/-! ### Requests -/

namespace Client

/-- The answers are calls that have returned, and these are paired with their responses. -/
structure Sound (c : Client) : Prop where
  paired : c.qmi.Paired
  logged : ∀ a ∈ c.answers, a.returned ∈ c.qmi.returned

/-- Between two requests. -/
structure Ready (c : Client) : Prop extends c.Sound where
  idle : c.qmi.call = none

/-- One of the requests of this kind has been accepted. -/
def Accepted (c : Client) (family : IpFamily) (type : UInt16) : Prop :=
  ∃ a ∈ c.answers, a.family = family ∧ a.type = type ∧
    ∃ number msg, a.returned.response = some (number, msg) ∧ msg.Accepts

/-- What a request does besides its answer. -/
structure Follows (c c' : Client) : Prop where
  ready : c'.Ready
  answers : c.answers ⊆ c'.answers

theorem Accepted.follows {c c' : Client} {family : IpFamily} {type : UInt16}
    (accepted : c.Accepted family type) (follows : c.Follows c') : c'.Accepted family type := by
  obtain ⟨a, member, rest⟩ := accepted
  exact ⟨a, follows.answers member, rest⟩

theorem Calm.earlier {c c' : Client} (calm : c'.Calm) (answers : c.answers ⊆ c'.answers) : c.Calm :=
  fun a member => calm a (answers member)

theorem Follows.trans {a b c : Client} (first : a.Follows b) (second : b.Follows c) :
    a.Follows c :=
  ⟨second.ready, fun _ member => second.answers (first.answers member)⟩

end Client

/-- A new transaction number changes nothing else. -/
theorem composeQMUXMsg_eq {qmiType : UInt8} {type : UInt16} {composed : Option UInt16}
    {c c' : Client} {request : Option Qmi}
    (returned : composeQMUXMsg qmiType type composed c = (.ok request, c')) :
    c'.qmi = c.qmi ∧ c'.answers = c.answers ∧ (∀ family, c'.handle family = c.handle family) ∧
      ∀ q, request = some q → q.type = type := by
  cases returned
  refine ⟨rfl, rfl, fun family => by cases family <;> rfl, ?_⟩
  intro q composedTo
  obtain ⟨length, _, rfl⟩ := Option.map_eq_some_iff.mp composedTo
  rfl

/-- A call with a calm wait: if it returns zero, it returns a plain response to its request. -/
theorem send_follows {c c' : Client} (ready : c.Ready) {family : IpFamily} {request : Option Qmi}
    {msecs : UInt32} {x : Exchange} {type : UInt16}
    (typed : ∀ q, request = some q → q.type = type) {err : Int} {response : Option Qmi}
    (returned : qmiThreadSendQMITimeout family request msecs x c = (.ok (err, response), c')) :
    c.Follows c' ∧ (∀ family, c'.handle family = c.handle family) ∧
      (response ≠ none → err = 0) ∧
      (c'.Calm → err = 0 → ∃ a ∈ c'.answers, a.family = family ∧ a.type = type ∧
        ∃ number msg, a.returned.response = some (number, msg) ∧ response = some msg ∧
          (msg.qmuxError = 0 → msg.qmuxResult = 0) ∧
            (type = qmiwdsStartNetworkInterfaceReq → msg.qmuxError = 0 → msg.handle ≠ 0)) := by
  cases request with
  | none =>
    cases returned
    exact ⟨⟨ready, fun _ member => member⟩, fun _ => rfl, fun present => absurd rfl present,
      fun _ zero => by simp [einval] at zero⟩
  | some q =>
    simp only [qmiThreadSendQMITimeout] at returned
    have paired := await_paired (step_paired c.qmi (.send (some q) true msecs x.device) ready.paired)
      (x.during (c.qmi.step (.send (some q) true msecs x.device)))
    have log := (step_returned c.qmi (.send (some q) true msecs x.device)).trans
      (await_returned _ (x.during (c.qmi.step (.send (some q) true msecs x.device))))
    have settled := exchange_settled ready.idle q msecs x.device
      (x.during (c.qmi.step (.send (some q) true msecs x.device)))
    dsimp only at settled
    generalize c.qmi.step (.send (some q) true msecs x.device) = begun at returned paired log settled
    generalize x.during begun = events at returned paired log settled
    split at returned
    next r finished last =>
      have final := List.mem_of_getLast? last
      cases returned
      refine ⟨⟨⟨⟨paired, ?_⟩, finished⟩, by simp⟩, fun family => by cases family <;> rfl, ?_, ?_⟩
      · intro a member
        rcases List.mem_append.mp member with old | new
        · exact log.subset (ready.logged a old)
        · rw [List.mem_singleton.mp new]
          exact final
      · intro present
        obtain ⟨⟨number, msg⟩, answered⟩ := Option.ne_none_iff_exists'.mp (mt (congrArg _) present)
        exact (paired.pairs r final number msg answered).1
      · -- A calm wait adds one request that has returned, and this is the one of the call.
        intro calm zero
        obtain ⟨_, same, added, request, regular⟩ :=
          settled (calm ⟨family, q.type, r, begun, events⟩ (by simp)) finished
        rw [added, List.getLast?_concat] at last
        cases last
        obtain ⟨number, msg, answered, plain⟩ := regular zero
        have kind : r.request.type = type := by
          rw [request, qmiWwanSendQMI_type]
          exact typed q rfl
        refine ⟨⟨family, q.type, r, begun, events⟩, by simp, rfl, typed q rfl, number, msg, answered,
          ?_, plain.1, ?_⟩
        · rw [answered]
          rfl
        · intro start
          exact plain.2 (kind.trans start)
    next => cases returned

/-- A calm exchange ends with an error that is not zero, or with an accepted request. -/
theorem exchange_follows {c c' : Client} (ready : c.Ready) {family : IpFamily} {type : UInt16}
    {msecs : UInt32} {x : Exchange} {result : Except Int Qmi}
    (returned : exchange family type msecs x c = (.ok result, c')) :
    c.Follows c' ∧ (∀ family, c'.handle family = c.handle family) ∧
      (c'.Calm → (∀ err, result = .error err → err ≠ 0) ∧
        ∀ msg, result = .ok msg → c'.Accepted family type ∧
          (type = qmiwdsStartNetworkInterfaceReq → msg.handle ≠ 0)) := by
  obtain ⟨request, d, composed, rest⟩ := Proc.bind_eq_ok.mp returned
  obtain ⟨sameQmi, sameAnswers, sameHandles, typed⟩ := composeQMUXMsg_eq composed
  have readyD : d.Ready := by
    refine ⟨⟨sameQmi ▸ ready.paired, ?_⟩, sameQmi ▸ ready.idle⟩
    rw [sameQmi, sameAnswers]
    exact ready.logged
  have before : c.Follows d := ⟨readyD, by simp [sameAnswers]⟩
  obtain ⟨⟨err, response⟩, e, sent, done⟩ := Proc.bind_eq_ok.mp rest
  obtain ⟨sends, handles, zeroOf, answered⟩ := send_follows readyD typed sent
  cases done
  refine ⟨before.trans sends, fun family => (handles family).trans (sameHandles family), ?_⟩
  intro calm
  cases response with
  | none =>
    refine ⟨?_, by rintro _ ⟨⟩⟩
    rintro _ ⟨⟩ zero
    obtain ⟨_, _, _, _, _, _, _, present, _⟩ := answered calm zero
    cases present
  | some msg =>
    have zero : err = 0 := zeroOf (by simp)
    obtain ⟨a, member, ofFamily, ofType, number, _, stored, ⟨⟩, plain, handle⟩ := answered calm zero
    simp only [qmiRspCheckAndReturn, zero, Int.lt_irrefl, if_false]
    by_cases refused : msg.qmuxResult ≠ 0 ∨ msg.qmuxError ≠ 0
    · simp only [if_pos refused]
      refine ⟨?_, by rintro _ ⟨⟩⟩
      -- A refusal without an error code would be taken for success.
      rintro _ ⟨⟩ noError
      have none : msg.qmuxError = 0 := by
        apply UInt16.toNat.inj
        exact Int.ofNat.inj noError
      rcases refused with result | error
      · exact result (plain none)
      · exact error none
    · simp only [if_neg refused]
      push Not at refused
      refine ⟨by rintro _ ⟨⟩, ?_⟩
      rintro _ ⟨⟩
      exact ⟨⟨a, member, ofFamily, ofType, number, msg, stored, refused⟩,
        fun start => handle start refused.2⟩

theorem requestSetupDataCall_follows {c c' : Client} (ready : c.Ready) {family : IpFamily}
    {x : Exchange} {ret : Int}
    (returned : requestSetupDataCall family x c = (.ok ret, c')) :
    c.Follows c' ∧
      (c'.Calm → ret = 0 → c'.Accepted family qmiwdsStartNetworkInterfaceReq ∧ c'.handle family ≠ 0) := by
  obtain ⟨result, d, exchanged, rest⟩ := Proc.bind_eq_ok.mp returned
  obtain ⟨follows, -, outcome⟩ := exchange_follows ready exchanged
  cases result with
  | error err =>
    cases rest
    exact ⟨follows, fun calm zero => absurd zero ((outcome calm).1 _ rfl)⟩
  | ok msg =>
    have accepted (calm : d.Calm) : d.Accepted family qmiwdsStartNetworkInterfaceReq ∧ msg.handle ≠ 0 :=
      ((outcome calm).2 msg rfl).imp_right fun handle => handle rfl
    cases rest
    -- The handle is the only change after the response.
    cases family with
    | v4 => exact ⟨⟨⟨⟨follows.ready.paired, follows.ready.logged⟩, follows.ready.idle⟩,
        follows.answers⟩, fun calm _ => accepted calm⟩
    | v6 => exact ⟨⟨⟨⟨follows.ready.paired, follows.ready.logged⟩, follows.ready.idle⟩,
        follows.answers⟩, fun calm _ => accepted calm⟩

theorem requestGetIPAddress_follows {c c' : Client} (ready : c.Ready) {family : IpFamily}
    {x : Exchange} {ret : Int}
    (returned : requestGetIPAddress family x c = (.ok ret, c')) :
    c.Follows c' ∧ (∀ family, c'.handle family = c.handle family) ∧
      (c'.Calm → c.handle family ≠ 0 → ret = 0 → c'.Accepted family qmiwdsGetRuntimeSettingsReq) := by
  obtain ⟨_, _, ⟨⟩, rest⟩ := Proc.bind_eq_ok.mp returned
  by_cases unset : c.handle family = 0
  · rw [if_pos unset] at rest
    cases rest
    exact ⟨⟨ready, fun _ member => member⟩, fun _ => rfl, fun _ set => absurd unset set⟩
  · rw [if_neg unset] at rest
    obtain ⟨result, d, exchanged, rest⟩ := Proc.bind_eq_ok.mp rest
    obtain ⟨follows, handles, outcome⟩ := exchange_follows ready exchanged
    cases result with
    | error err =>
      cases rest
      exact ⟨follows, handles, fun calm _ zero => absurd zero ((outcome calm).1 _ rfl)⟩
    | ok msg =>
      cases rest
      exact ⟨follows, handles, fun calm _ _ => ((outcome calm).2 msg rfl).1⟩

/-! ### The start event -/

/-- What the requests of a family leave alone, also where they block. -/
structure Client.Frame (family : IpFamily) (c c' : Client) : Prop where
  sound : c.Sound → c'.Sound
  answers : c.answers ⊆ c'.answers
  handle : ∀ other, other ≠ family → c'.handle other = c.handle other

theorem Client.Frame.refl (family : IpFamily) (c : Client) : c.Frame family c :=
  ⟨fun sound => sound, fun _ member => member, fun _ _ => rfl⟩

theorem Client.Frame.trans {family : IpFamily} {a b c : Client} (first : a.Frame family b)
    (second : b.Frame family c) : a.Frame family c :=
  ⟨fun sound => second.sound (first.sound sound),
    fun _ member => second.answers (first.answers member),
    fun other different => (second.handle other different).trans (first.handle other different)⟩

section

open Proc

variable (family : IpFamily) (x : Exchange) (c : Client)

theorem qmiThreadSendQMITimeout_frame (request : Option Qmi) (msecs : UInt32) :
    Ends (qmiThreadSendQMITimeout family request msecs x) c
      (fun _ c' => c.Frame family c') fun _ c' => c.Frame family c' := by
  cases request with
  | none => exact ends_pure (.refl family c)
  | some request =>
    simp only [Ends, qmiThreadSendQMITimeout]
    have paired (sound : c.Sound) := await_paired
      (step_paired c.qmi (.send (some request) true msecs x.device) sound.paired)
      (x.during (c.qmi.step (.send (some request) true msecs x.device)))
    have log := (step_returned c.qmi (.send (some request) true msecs x.device)).trans
      (await_returned _ (x.during (c.qmi.step (.send (some request) true msecs x.device))))
    generalize await (c.qmi.step (.send (some request) true msecs x.device))
      (x.during (c.qmi.step (.send (some request) true msecs x.device))) = s at paired log ⊢
    split
    next out returned =>
      split at returned
      next r _ last =>
        cases returned
        refine ⟨fun sound => ⟨paired sound, ?_⟩, fun _ member => List.mem_append_left _ member,
          fun other _ => by cases other <;> rfl⟩
        intro a member
        rcases List.mem_append.mp member with old | new
        · exact log.subset (sound.logged a old)
        · rw [List.mem_singleton.mp new]
          exact List.mem_of_getLast? last
      next => cases returned
    next out blocked =>
      split at blocked
      · cases blocked
      · cases blocked
        exact ⟨fun sound => ⟨paired sound, fun a member => log.subset (sound.logged a member)⟩,
          fun _ member => member, fun other _ => by cases other <;> rfl⟩

theorem composeQMUXMsg_frame (type : UInt16) :
    Ends (composeQMUXMsg family.qmiType type x.composed) c
      (fun _ c' => c.Frame family c') fun _ c' => c.Frame family c' := by
  rw [Ends]
  exact ⟨fun sound => ⟨sound.paired, sound.logged⟩, fun _ member => member,
    fun other _ => by cases other <;> rfl⟩

theorem exchange_frame (type : UInt16) (msecs : UInt32) :
    Ends (exchange family type msecs x) c
      (fun _ c' => c.Frame family c') fun _ c' => c.Frame family c' := by
  refine ends_bind ((composeQMUXMsg_frame family x c type).imp ?_ fun _ _ frame => frame)
  intro request d composed
  refine ends_bind ((qmiThreadSendQMITimeout_frame family x d request msecs).imp ?_ ?_)
  · intro _ c' sent
    exact ends_pure (composed.trans sent)
  · intro _ c' sent
    exact composed.trans sent

theorem requestSetupDataCall_frame :
    Ends (requestSetupDataCall family x) c
      (fun _ c' => c.Frame family c') fun _ c' => c.Frame family c' := by
  refine ends_bind ((exchange_frame family x c _ _).imp ?_ fun _ _ frame => frame)
  intro result d frame
  cases result with
  | error err => exact ends_pure frame
  | ok msg =>
    apply ends_bind
    apply ends_modify
    apply ends_pure
    refine frame.trans ⟨?_, ?_, ?_⟩
    · cases family <;> exact fun sound => ⟨sound.paired, sound.logged⟩
    · cases family <;> exact fun _ member => member
    · intro other different
      cases family <;> cases other <;> first | rfl | exact absurd rfl different

theorem requestGetIPAddress_frame :
    Ends (requestGetIPAddress family x) c
      (fun _ c' => c.Frame family c') fun _ c' => c.Frame family c' := by
  apply ends_bind
  apply ends_get
  split
  · exact ends_pure (.refl family c)
  · refine ends_bind ((exchange_frame family x c _ _).imp ?_ fun _ _ frame => frame)
    intro result d frame
    cases result <;> exact ends_pure frame

end

/-- Both requests of the family have been accepted, and it has a handle. -/
structure Client.Connected (c : Client) (family : IpFamily) : Prop where
  handle : c.handle family ≠ 0
  setup : c.Accepted family qmiwdsStartNetworkInterfaceReq
  address : c.Accepted family qmiwdsGetRuntimeSettingsReq

def Main.status (m : Main) : IpFamily → PktData
  | .v4 => m.ipv4ConnectionStatus
  | .v6 => m.ipv6ConnectionStatus

/-- Where the statuses have not changed. -/
structure Main.Steady (family : IpFamily) (m m' : Main) : Prop where
  frame : m.client.Frame family m'.client
  status : m'.status = m.status

/-- What the data call of a family may change. -/
structure Main.Dialled (family : IpFamily) (m m' : Main) : Prop where
  frame : m.client.Frame family m'.client
  other : ∀ other, other ≠ family → m'.status other = m.status other
  own : m'.status family = m.status family ∨ (m'.client.Calm → m'.client.Connected family)

theorem Main.Steady.dialled {family : IpFamily} {m m' : Main} (steady : m.Steady family m') :
    m.Dialled family m' :=
  ⟨steady.frame, fun other _ => congrFun steady.status other, .inl (congrFun steady.status family)⟩

theorem Main.Steady.trans {family : IpFamily} {a b c : Main} (first : a.Steady family b)
    (second : b.Steady family c) : a.Steady family c :=
  ⟨first.frame.trans second.frame, second.status.trans first.status⟩

section

open Proc

theorem ends_request {α : Type} {x : Request α} {m : Main} {ok : α → Main → Prop}
    {stop : Blocked → Main → Prop}
    (h : Ends x m.client (fun a c => ok a { m with client := c })
      fun e c => stop e { m with client := c }) : Ends (Step.request x) m ok stop := by
  simp only [Ends, Step.request] at h ⊢
  split at h <;> rename_i eq <;> simp only [eq] <;> exact h

/-- Setting up a data call leaves the statuses, and zero means that it has been accepted. -/
theorem setup_steady {m : Main} (ready : m.client.Ready) (family : IpFamily) (x : Exchange) :
    Ends (Step.request (requestSetupDataCall family x)) m
      (fun ret m' => m'.client.Ready ∧ m.Steady family m' ∧
        (m'.client.Calm → ret = 0 → m'.client.Accepted family qmiwdsStartNetworkInterfaceReq ∧
          m'.client.handle family ≠ 0))
      fun _ m' => m.Steady family m' := by
  have frame := requestSetupDataCall_frame family x m.client
  have follows {ret : Int} {c : Client} := @requestSetupDataCall_follows m.client c ready family x
    ret
  apply ends_request
  rw [Ends] at frame ⊢
  split at frame
  next ret c returned =>
    obtain ⟨follow, accepted⟩ := follows returned
    exact ⟨follow.ready, ⟨frame, by funext family; cases family <;> rfl⟩, accepted⟩
  next => exact ⟨frame, by funext family; cases family <;> rfl⟩

theorem setupIpv4Again_steady {m : Main} (ready : m.client.Ready) {ret : Int}
    (accepted : m.client.Calm → ret = 0 →
      m.client.Accepted .v4 qmiwdsStartNetworkInterfaceReq ∧ m.client.handle .v4 ≠ 0)
    (start : Start) :
    Ends (setupIpv4Again start ret) m
      (fun ret m' => m'.client.Ready ∧ m.Steady .v4 m' ∧
        (m'.client.Calm → ret = 0 → m'.client.Accepted .v4 qmiwdsStartNetworkInterfaceReq ∧
          m'.client.handle .v4 ≠ 0))
      fun _ m' => m.Steady .v4 m' := by
  -- The kind of authentication is neither a status nor part of the client.
  have setsAuth (m : Main) (auth : Int) : m.Steady .v4 { m with auth } :=
    ⟨.refl .v4 m.client, by funext family; cases family <;> rfl⟩
  apply ends_bind
  apply ends_get
  split
  · apply ends_bind
    apply ends_modify
    apply ends_bind
    have again := @setup_steady { m with auth := if m.auth = 1 then 2 else 1 } ready .v4
      start.setupIpv4Again
    refine again.imp ?_ ?_
    · rintro ret m₁ ⟨ready₁, steady₁, accepted₁⟩
      have reached := (setsAuth m _).trans steady₁
      apply ends_bind
      apply ends_when
      · intro failed
        apply ends_modify
        exact ends_pure ⟨ready₁, reached.trans (setsAuth m₁ m.auth), accepted₁⟩
      · intro _
        exact ends_pure ⟨ready₁, reached, accepted₁⟩
    · intro _ m₁ steady₁
      exact (setsAuth m _).trans steady₁
  · exact ends_pure ⟨ready, ⟨.refl .v4 m.client, rfl⟩, accepted⟩

/-- The second half of a data call: only an accepted address makes the family connected. -/
theorem address_dialled {before m : Main} {family : IpFamily} (steady : before.Steady family m)
    (ready : m.client.Ready) {ret : Int}
    (accepted : m.client.Calm → ret = 0 →
      m.client.Accepted family qmiwdsStartNetworkInterfaceReq ∧ m.client.handle family ≠ 0)
    (x : Exchange) {set : Main → Main}
    (sets : ∀ m, (set m).client = m.client ∧
      ∀ other, other ≠ family → (set m).status other = m.status other) :
    Ends (Proc.when (ret = 0) do
        let ret ← Step.request (requestGetIPAddress family x)
        Proc.when (ret = 0) (Proc.modify set)) m
      (fun _ m' => m'.client.Ready ∧ before.Dialled family m')
      fun _ m' => before.Dialled family m' := by
  apply ends_when
  · intro setup
    have frame := requestGetIPAddress_frame family x m.client
    have follows {ret : Int} {c : Client} := @requestGetIPAddress_follows m.client c ready family x
      ret
    have reached {c : Client} (frame : m.client.Frame family c) :
        before.Steady family { m with client := c } :=
      ⟨steady.frame.trans frame, by rw [← steady.status]; funext family; cases family <;> rfl⟩
    apply ends_bind
    apply ends_request
    rw [Ends] at frame ⊢
    split at frame
    next ret c returned =>
      obtain ⟨follow, handles, confirmed⟩ := follows returned
      apply ends_when
      · intro zero
        apply ends_modify
        obtain ⟨client, others⟩ := sets { m with client := c }
        rw [client]
        refine ⟨follow.ready, ⟨?_, ?_, .inr fun calm => ?_⟩⟩
        · rw [client]
          exact (reached frame).frame
        · intro other different
          rw [others other different]
          exact congrFun (reached frame).status other
        · rw [client] at calm ⊢
          obtain ⟨setup, handle⟩ := accepted (calm.earlier follow.answers) setup
          exact ⟨(handles family).symm ▸ handle, setup.follows follow, confirmed calm handle zero⟩
      · intro _
        exact ⟨follow.ready, (reached frame).dialled⟩
    next => exact (reached frame).dialled
  · intro _
    exact ⟨ready, steady.dialled⟩

theorem startIpv4_dialled {m : Main} (ready : m.client.Ready) (start : Start) :
    Ends (startIpv4 start) m (fun _ m' => m'.client.Ready ∧ m.Dialled .v4 m')
      fun _ m' => m.Dialled .v4 m' := by
  have sets (m : Main) : ({ m with ipv4ConnectionStatus := .connected } : Main).client = m.client ∧
      ∀ other, other ≠ .v4 →
        ({ m with ipv4ConnectionStatus := .connected } : Main).status other = m.status other := by
    refine ⟨rfl, fun other different => ?_⟩
    cases other with
    | v4 => exact absurd rfl different
    | v6 => rfl
  refine ends_bind ((setup_steady ready .v4 start.setupIpv4).imp ?_ fun _ _ steady => steady.dialled)
  rintro ret m₁ ⟨ready₁, steady₁, accepted₁⟩
  refine ends_bind ((setupIpv4Again_steady ready₁ accepted₁ start).imp ?_ ?_)
  · rintro ret m₂ ⟨ready₂, steady₂, accepted₂⟩
    exact address_dialled (steady₁.trans steady₂) ready₂ accepted₂ start.addressIpv4 sets
  · intro _ m₂ steady₂
    exact (steady₁.trans steady₂).dialled

theorem startIpv6_dialled {m : Main} (ready : m.client.Ready) (start : Start) :
    Ends (startIpv6 start) m (fun _ m' => m'.client.Ready ∧ m.Dialled .v6 m')
      fun _ m' => m.Dialled .v6 m' := by
  refine ends_bind ((setup_steady ready .v6 start.setupIpv6).imp ?_ fun _ _ steady => steady.dialled)
  rintro ret m₁ ⟨ready₁, steady₁, accepted₁⟩
  refine address_dialled steady₁ ready₁ accepted₁ start.addressIpv6 fun m => ⟨rfl, ?_⟩
  intro other different
  cases other with
  | v4 => rfl
  | v6 => exact absurd rfl different

/-- After a start event, a family that has become connected has been confirmed. -/
structure Main.Confirmed (m m' : Main) : Prop where
  sound : m.client.Sound → m'.client.Sound
  connected : ∀ family, m'.status family = m.status family ∨
    (m'.client.Calm → m'.client.Connected family)

theorem Main.Dialled.confirmed {family : IpFamily} {m m' : Main} (dialled : m.Dialled family m') :
    m.Confirmed m' := by
  refine ⟨dialled.frame.sound, fun other => ?_⟩
  by_cases same : other = family
  · rw [same]
    exact dialled.own
  · exact .inl (dialled.other other same)

/-- The call of the second family changes neither the status nor the data call of the first. -/
theorem Main.Dialled.both {m m₁ m₂ : Main} (first : m.Dialled .v4 m₁)
    (second : m₁.Dialled .v6 m₂) : m.Confirmed m₂ := by
  have apart : IpFamily.v4 ≠ .v6 := by decide
  refine ⟨fun sound => second.frame.sound (first.frame.sound sound), fun family => ?_⟩
  cases family with
  | v4 =>
    rw [second.other .v4 apart]
    refine first.own.imp_right fun made calm => ?_
    have connected := made (calm.earlier second.frame.answers)
    refine ⟨?_, ?_, ?_⟩
    · rw [second.frame.handle .v4 apart]
      exact connected.handle
    · obtain ⟨a, member, rest⟩ := connected.setup
      exact ⟨a, second.frame.answers member, rest⟩
    · obtain ⟨a, member, rest⟩ := connected.address
      exact ⟨a, second.frame.answers member, rest⟩
  | v6 =>
    rw [← first.other .v6 apart.symm]
    exact second.own

theorem Main.schedule_same (m : Main) (start : Start) :
    (m.schedule start).client = m.client ∧ (m.schedule start).status = m.status := by
  rw [Main.schedule]
  split
  · exact ⟨rfl, by funext family; cases family <;> rfl⟩
  · split
    · exact ⟨rfl, by funext family; cases family <;> rfl⟩
    · exact ⟨rfl, rfl⟩

theorem Main.Confirmed.schedule {m m' : Main} (confirmed : m.Confirmed m') (start : Start) :
    m.Confirmed (m'.schedule start) := by
  obtain ⟨client, status⟩ := m'.schedule_same start
  constructor
  · rw [client]
    exact confirmed.sound
  · rw [client, status]
    exact confirmed.connected

theorem sigEventStart_confirmed {m : Main} (ready : m.client.Ready) (start : Start) :
    Ends (sigEventStart start) m (fun _ m' => m.Confirmed m') fun _ m' => m.Confirmed m' := by
  have steady (family : IpFamily) (m : Main) : m.Dialled family m :=
    Main.Steady.dialled ⟨.refl family m.client, rfl⟩
  apply ends_bind
  apply ends_get
  split
  · exact ends_pure ⟨fun sound => sound, fun _ => .inl rfl⟩
  · split
    · exact ends_modify ⟨fun sound => sound, fun family => .inl (by cases family <;> rfl)⟩
    · -- Each family is dialled or left alone.
      have dialledV4 : Ends (Proc.when (m.enableIpv4 ∧ m.ipv4ConnectionStatus ≠ .connected)
          (startIpv4 start)) m (fun _ m' => m'.client.Ready ∧ m.Dialled .v4 m')
          fun _ m' => m.Dialled .v4 m' :=
        ends_when (fun _ => startIpv4_dialled ready start) fun _ => ⟨ready, steady .v4 m⟩
      refine ends_bind (dialledV4.imp ?_ fun _ _ dialled => dialled.confirmed)
      rintro _ m₁ ⟨ready₁, first⟩
      have dialledV6 : Ends (Proc.when (m.enableIpv6 ∧ m.ipv6ConnectionStatus ≠ .connected)
          (startIpv6 start)) m₁ (fun _ m' => m'.client.Ready ∧ m₁.Dialled .v6 m')
          fun _ m' => m₁.Dialled .v6 m' :=
        ends_when (fun _ => startIpv6_dialled ready₁ start) fun _ => ⟨ready₁, steady .v6 m₁⟩
      refine ends_bind (dialledV6.imp ?_ fun _ _ second => first.both second)
      rintro _ m₂ ⟨_, second⟩
      apply ends_modify
      exact (first.both second).schedule start

end

/-! ### The main result -/

/-- A response to a request of this kind has been received while it waited, and accepts it. -/
def Client.Confirmed (c : Client) (family : IpFamily) (type : UInt16) : Prop :=
  ∃ a ∈ c.answers, a.family = family ∧ a.type = type ∧
    ∃ number msg, a.returned.response = some (number, msg) ∧ a.returned.since ≤ number ∧
      number < a.returned.before ∧ c.qmi.received[number]? = some msg ∧
        isResponse a.returned.request msg ∧ msg.qmuxResult = 0 ∧ msg.qmuxError = 0

theorem Client.Accepted.confirmed {c : Client} {family : IpFamily} {type : UInt16}
    (accepted : c.Accepted family type) (sound : c.Sound) : c.Confirmed family type := by
  obtain ⟨a, member, ofFamily, ofType, number, msg, answered, accepts⟩ := accepted
  obtain ⟨_, after, before, found, key⟩ :=
    sound.paired.pairs a.returned (sound.logged a member) number msg answered
  exact ⟨a, member, ofFamily, ofType, number, msg, answered, after, before, found,
    (isResponse_iff _ _).mpr key.symm, accepts⟩

/-- From the state after any run between two calls, if the requests that are answered had calm waits:
a data call is set up only if its request has been accepted, it has an address only if that request
has been accepted, and a start event makes a family connected only if both have been in this
event. -/
theorem connected_only_if_confirmed (history : List Event) (m : Main)
    (reached : m.client.qmi = run State.step {} history) (idle : m.client.qmi.call = none)
    (unanswered : m.client.answers = []) :
    (∀ family x c', requestSetupDataCall family x m.client = (.ok 0, c') → c'.Calm →
      c'.Confirmed family qmiwdsStartNetworkInterfaceReq) ∧
    (∀ family x c', m.client.handle family ≠ 0 →
      requestGetIPAddress family x m.client = (.ok 0, c') → c'.Calm →
        c'.handle family ≠ 0 ∧ c'.Confirmed family qmiwdsGetRuntimeSettingsReq) ∧
    ∀ start family, m.status family ≠ .connected →
      let m' := (sigEventStart start m).2
      m'.client.Calm → m'.status family = .connected →
        m'.client.handle family ≠ 0 ∧
          m'.client.Confirmed family qmiwdsStartNetworkInterfaceReq ∧
            m'.client.Confirmed family qmiwdsGetRuntimeSettingsReq := by
  have ready : m.client.Ready :=
    ⟨⟨reached ▸ State.run_paired history, by simp [unanswered]⟩, idle⟩
  refine ⟨?_, ?_, ?_⟩
  · intro family x c' returned calm
    obtain ⟨follows, accepted⟩ := requestSetupDataCall_follows ready returned
    exact (accepted calm rfl).1.confirmed follows.ready.toSound
  · intro family x c' handle returned calm
    obtain ⟨follows, handles, accepted⟩ := requestGetIPAddress_follows ready returned
    rw [handles family]
    exact ⟨handle, (accepted calm handle rfl).confirmed follows.ready.toSound⟩
  · intro start family before m' calm connected
    have confirmed : m.Confirmed m' := (sigEventStart_confirmed ready start).snd
    have sound := confirmed.sound ready.toSound
    rcases confirmed.connected family with same | made
    · exact absurd (same.symm.trans connected) before
    · obtain ⟨handle, setup, address⟩ := made calm
      exact ⟨handle, setup.confirmed sound, address.confirmed sound⟩

/-- A device that takes what is written. -/
def openDevice : Device :=
  { cdcWdmFd := 4, qmiclientId := fun _ => 5, poll := 1, pollout := true, write := 13 }

/-- The modem accepts the request that waits. -/
def acceptedExchange : Exchange where
  composed := some 12
  device := openDevice
  during s := match s.call with
    | some call => [.recv { call.request with qmuxResult := 0, qmuxError := 0, handle := 7 } true,
        .wake 0]
    | none => []

def acceptedStart : Start :=
  ⟨fun _ => 0, acceptedExchange, acceptedExchange, acceptedExchange, acceptedExchange,
    acceptedExchange⟩

/-- A start event that ends with both families connected. -/
theorem connected_only_if_confirmed_start :
    let m' := (sigEventStart acceptedStart { enableIpv6 := true }).2
    m'.status .v4 = .connected ∧ m'.status .v6 = .connected ∧
      m'.client.Confirmed .v4 qmiwdsStartNetworkInterfaceReq ∧
      m'.client.Confirmed .v6 qmiwdsGetRuntimeSettingsReq := by
  have calm : (sigEventStart acceptedStart { enableIpv6 := true }).2.client.Calm := by decide
  have confirmed := connected_only_if_confirmed [] { enableIpv6 := true } rfl rfl rfl
  have v4 : (sigEventStart acceptedStart { enableIpv6 := true }).2.status .v4 = .connected := by
    decide
  have v6 : (sigEventStart acceptedStart { enableIpv6 := true }).2.status .v6 = .connected := by
    decide
  exact ⟨v4, v6, (confirmed.2.2 acceptedStart .v4 (by decide) calm v4).2.1,
    (confirmed.2.2 acceptedStart .v6 (by decide) calm v6).2.2⟩

/-- The device is lost while the request waits. -/
def lostExchange : Exchange where
  composed := some 12
  device := openDevice
  during _ := [.disconnect, .wake 0]

/-- A start event with a lost device: nothing has been received, and the family is connected. -/
theorem connected_not_only_if_confirmed :
    let m' := (sigEventStart ⟨fun _ => 0, lostExchange, lostExchange, lostExchange, lostExchange,
      lostExchange⟩ {}).2
    (requestSetupDataCall .v4 lostExchange {}).1 = .ok 0 ∧
      ¬ (requestSetupDataCall .v4 lostExchange {}).2.Confirmed .v4 qmiwdsStartNetworkInterfaceReq ∧
      m'.status .v4 = .connected ∧ m'.client.handle .v4 = 0 ∧ m'.client.qmi.received = [] ∧
        ¬ m'.client.Confirmed .v4 qmiwdsStartNetworkInterfaceReq := by
  have nothing {c : Client} (received : c.qmi.received = []) :
      ¬ c.Confirmed .v4 qmiwdsStartNetworkInterfaceReq := by
    rintro ⟨_, _, _, _, number, msg, _, _, _, found, _⟩
    simp [received] at found
  refine ⟨by rfl, nothing (by decide), by decide, by decide, by decide, nothing (by decide)⟩

end LorawanFeeds.QmiClient
