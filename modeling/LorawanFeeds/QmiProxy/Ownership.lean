import LorawanFeeds.QmiProxy.System

/-!
# Who owns which client id

A client id belongs to the connection whose GET_CLIENT_ID it answered. It goes back to the modem
by a RELEASE_CLIENT_ID of this connection, or by one that the proxy makes up when the connection
is closed. Between the two, every client id that the modem has given away has one owner or one
such request of the proxy.
-/
namespace LorawanFeeds.QmiProxy

open Lib

namespace Qmi

def isGet (m : Qmi) : Bool := m.qmictlType = qmictlGetClientId

def isRelease (m : Qmi) : Bool := m.qmictlType = qmictlReleaseClientId

end Qmi

namespace System

/-- The client ids in the lists of the connections. -/
def held (s : System) : List Pair := s.proxy.connections.flatMap Connection.clients

/-- The connections that have a client id in their list. -/
def owners (s : System) (pair : Pair) : List Connection :=
  s.proxy.connections.filter (pair ∈ ·.clients)

def isReleaseOf (pair : Pair) (msg : ProxyMsg) : Bool :=
  msg.qmi.isRelease && decide (requestPair msg.qmi = pair)

/-- The number of release requests for a client id on the list. -/
def pendingReleases (s : System) (pair : Pair) : Nat := s.proxy.ctlMsg.countP (isReleaseOf pair)

/-- Those among them that the proxy has made up. -/
def ownReleases (s : System) (pair : Pair) : Nat :=
  s.proxy.ctlMsg.countP fun msg => decide (msg.clientFd = s.proxy.serverFd) && isReleaseOf pair msg

/-- Those among them that clients have sent. -/
def clientReleases (s : System) (pair : Pair) : Nat :=
  s.proxy.ctlMsg.countP fun msg => decide (msg.clientFd ≠ s.proxy.serverFd) && isReleaseOf pair msg

/-- What the modem promises: it gives away only client ids that are free, its answer to a release
that succeeds repeats the client id, and it does not refuse to take back a client id from the
proxy. -/
def ModemKeeps (s : System) (body : Qmi) : Prop :=
  ∀ msg ∈ s.outstanding.head?,
    (msg.qmi.isGet → (answer msg.qmi body).succeeded →
      responsePair (answer msg.qmi body) ∉ s.allocated) ∧
    (msg.qmi.isRelease → (answer msg.qmi body).succeeded →
      responsePair (answer msg.qmi body) = requestPair msg.qmi) ∧
    (msg.clientFd = s.proxy.serverFd → (answer msg.qmi body).succeeded)

/-- A schedule on which the client lists can rely. A connection is closed only when none of its
requests is outstanding and, behind the first, none of those queued is about client ids; and
a client releases only what is in its list, and releases it once. -/
def OwnershipAllowed (s : System) : Event → Prop
  | .connect _ => True
  | .disconnect fd => s.InUse fd → (∀ msg ∈ s.proxy.ctlMsg.head?, msg.clientFd ≠ fd) ∧
      ∀ msg ∈ s.proxy.ctlMsg.eraseP (·.clientFd = fd), msg.clientFd = fd →
        ¬ msg.qmi.isGet ∧ ¬ msg.qmi.isRelease
  | .client fd qmi => qmi.qmiType = qmuxTypeCtl → qmi.isRelease →
      ∀ con ∈ s.proxy.connections, con.clientFd = fd →
        requestPair qmi ∈ con.clients ∧ s.pendingReleases (requestPair qmi) = 0
  | .response body => s.ModemKeeps body
  | .device _ => True

instance (s : System) (body : Qmi) : Decidable (s.ModemKeeps body) := by
  unfold ModemKeeps
  infer_instance

instance (s : System) : ∀ e, Decidable (s.OwnershipAllowed e)
  | .disconnect fd => inferInstanceAs (Decidable (s.InUse fd →
      (∀ msg ∈ s.proxy.ctlMsg.head?, msg.clientFd ≠ fd) ∧
        ∀ msg ∈ s.proxy.ctlMsg.eraseP (·.clientFd = fd), msg.clientFd = fd →
          ¬ msg.qmi.isGet ∧ ¬ msg.qmi.isRelease))
  | .client fd qmi => inferInstanceAs (Decidable (qmi.qmiType = qmuxTypeCtl → qmi.isRelease →
      ∀ con ∈ s.proxy.connections, con.clientFd = fd →
        requestPair qmi ∈ con.clients ∧ s.pendingReleases (requestPair qmi) = 0))
  | .response body => inferInstanceAs (Decidable (s.ModemKeeps body))
  | .connect _ | .device _ => inferInstanceAs (Decidable True)

/-- The connection that a client's request about client ids belongs to is there, and what it
releases is in its list. -/
def Backed (s : System) (msg : ProxyMsg) : Prop :=
  ∃ con ∈ s.proxy.connections, con.clientFd = msg.clientFd ∧
    (msg.qmi.isRelease → requestPair msg.qmi ∈ con.clients)

/-- The invariant of the client ids. -/
structure Settled (s : System) : Prop where
  single : s.outstanding = s.proxy.ctlMsg.head?.toList
  balance : ∀ pair, s.held.count pair + s.ownReleases pair = if pair ∈ s.allocated then 1 else 0
  own : ∀ msg ∈ s.proxy.ctlMsg, msg.clientFd = s.proxy.serverFd → msg.qmi.isRelease
  backed : ∀ msg ∈ s.proxy.ctlMsg, msg.clientFd ≠ s.proxy.serverFd →
    msg.qmi.isGet ∨ msg.qmi.isRelease → s.Backed msg
  once : ∀ pair, s.clientReleases pair ≤ 1

section

variable {s : System} (wf : s.WellFormed) (settled : s.Settled)

include wf

/-- The client ids of one connection and those of the others. -/
theorem held_count {con : Connection} (live : con ∈ s.proxy.connections) (pair : Pair) :
    s.held.count pair = con.clients.count pair +
      ((s.proxy.connections.filter (·.clientFd ≠ con.clientFd)).flatMap
        Connection.clients).count pair := by
  have parts := (perm_cons_filter wf.fds live).flatMap_right Connection.clients
  rw [held, parts.count_eq, List.flatMap_cons, List.count_append]

theorem held_pos {con : Connection} (live : con ∈ s.proxy.connections) {pair : Pair}
    (member : pair ∈ con.clients) : 0 < s.held.count pair := by
  have positive := List.count_pos_iff.mpr member
  rw [held_count wf live]
  omega

include settled

/-! ### Connections and requests -/

omit wf in
theorem connect_settled (fd : Int) : (s.step (.connect fd)).Settled := by
  rw [step]
  split
  · exact settled
  · refine ⟨settled.single, fun pair => ?_, settled.own, fun msg member foreign handles => ?_,
      settled.once⟩
    · have same : (s.proxy.acceptQmiConnection fd s.nextConnection).connections.flatMap
          Connection.clients = s.held := by simp [held, Proxy.acceptQmiConnection]
      change ((s.proxy.acceptQmiConnection fd s.nextConnection).connections.flatMap
        Connection.clients).count pair + s.ownReleases pair = _
      rw [same]
      exact settled.balance pair
    · obtain ⟨con, live, backs⟩ := settled.backed msg member foreign handles
      exact ⟨con, List.mem_append_left _ live, backs⟩

theorem client_settled {fd : Int} {qmi : Qmi} (allowed : s.OwnershipAllowed (.client fd qmi)) :
    (s.step (.client fd qmi)).Settled := by
  cases found : s.proxy.connections.find? (·.clientFd = fd) with
  | none =>
    simp only [step, found]
    exact settled
  | some con =>
    have live : con ∈ s.proxy.connections := List.mem_of_find?_eq_some found
    have isFd : con.clientFd = fd := by simpa using List.find?_some found
    have foreign := serverFd_ne_of_live wf live
    rcases step_client wf qmi found with same | ⟨ctl, taken⟩
    · rw [same]
      exact settled
    · have single := step_single wf settled.single (e := .client fd qmi) trivial
      rw [taken] at single ⊢
      refine ⟨single, fun pair => ?_, ?_, ?_, fun pair => ?_⟩
      · have balance := settled.balance pair
        simpa [held, ownReleases, List.countP_append, Ne.symm foreign] using balance
      · intro msg member own
        rcases List.mem_append.mp member with old | new
        · exact settled.own msg old own
        · rw [List.mem_singleton.mp new] at own
          exact absurd own.symm foreign
      · intro msg member other handles
        rcases List.mem_append.mp member with old | new
        · exact settled.backed msg old other handles
        · rw [List.mem_singleton.mp new]
          exact ⟨con, live, rfl, fun release => (allowed ctl release con live isFd).1⟩
      · by_cases release : isReleaseOf pair ⟨con.clientFd, qmi, .client con.ident s.nextRequest⟩
        · obtain ⟨isRelease, rfl⟩ : qmi.isRelease ∧ requestPair qmi = pair := by
            simpa [isReleaseOf] using release
          -- The client has not released it before, nor has anybody else.
          have none := (allowed ctl isRelease con live isFd).2
          have fewer : s.clientReleases (requestPair qmi) ≤ s.pendingReleases (requestPair qmi) :=
            List.countP_mono_left fun msg _ both => by simp_all
          have before : s.clientReleases (requestPair qmi) = 0 := by omega
          simp only [clientReleases] at before ⊢
          rw [List.countP_append, before, Nat.zero_add]
          exact List.countP_le_length
        · have before := settled.once pair
          simp only [clientReleases] at before ⊢
          simpa [List.countP_append, release] using before

/-! ### Closing a connection -/

omit wf settled in
theorem isReleaseOf_releaseClientIdReq (pair other : Pair) (fd : Int) (origin : Origin) :
    isReleaseOf pair ⟨fd, releaseClientIdReq other, origin⟩ = decide (other = pair) := rfl

omit wf settled in
/-- There is one release request for each client id of the closed connection. -/
theorem countP_releases (serverFd : Int) (clients : List Pair) (pair : Pair) :
    (Proxy.releases serverFd clients).countP
      (fun msg => decide (msg.clientFd = serverFd) && isReleaseOf pair msg) =
        clients.count pair := by
  rw [Proxy.releases, List.countP_map, List.count_eq_countP]
  apply List.countP_congr
  intro other _
  simp [isReleaseOf_releaseClientIdReq]

theorem disconnect_settled {fd : Int} (allowed : s.OwnershipAllowed (.disconnect fd)) :
    (s.step (.disconnect fd)).Settled := by
  cases found : s.proxy.connections.find? (·.clientFd = fd) with
  | none =>
    rw [step_disconnect_of_none wf found]
    exact settled
  | some con =>
    have live : con ∈ s.proxy.connections := List.mem_of_find?_eq_some found
    have isFd : con.clientFd = fd := by simpa using List.find?_some found
    have foreign := serverFd_ne_of_live wf live
    obtain ⟨waits, silent⟩ := allowed (.inr (isFd ▸ List.mem_map_of_mem live))
    have single := step_single wf settled.single (e := .disconnect fd) fun _ => waits
    rw [step_disconnect wf found] at single ⊢
    refine ⟨single, fun pair => ?_, ?_, ?_, fun pair => ?_⟩
    · -- What leaves the list of the connection comes back as release requests.
      have balance := settled.balance pair
      rw [held_count wf live, isFd] at balance
      have kept : (s.proxy.ctlMsg.eraseP (·.clientFd = fd)).countP (fun msg =>
          decide (msg.clientFd = s.proxy.serverFd) && isReleaseOf pair msg) = s.ownReleases pair :=
        countP_eraseP fun msg _ hit => by
          have sameFd : msg.clientFd = con.clientFd := by simpa [isFd] using hit
          simp [sameFd, Ne.symm foreign]
      simp only [held, ownReleases, List.countP_append]
      rw [kept, countP_releases]
      omega
    · intro msg member own
      rcases List.mem_append.mp member with old | new
      · exact settled.own msg (List.mem_of_mem_eraseP old) own
      · obtain ⟨pair, _, rfl⟩ := List.mem_map.mp new
        rfl
    · intro msg member other handles
      rcases List.mem_append.mp member with old | new
      · obtain ⟨owner, alive, sameFd, backs⟩ :=
          settled.backed msg (List.mem_of_mem_eraseP old) other handles
        refine ⟨owner, List.mem_filter.mpr ⟨alive, ?_⟩, sameFd, backs⟩
        have stays : msg.clientFd ≠ fd := fun same => by
          have nothing := silent msg old same
          exact handles.elim nothing.1 nothing.2
        simpa [sameFd] using stays
      · exact absurd (Proxy.clientFd_of_releases new) other
    · have before := settled.once pair
      have none : (Proxy.releases s.proxy.serverFd con.clients).countP (fun msg =>
          decide (msg.clientFd ≠ s.proxy.serverFd) && isReleaseOf pair msg) = 0 :=
        List.countP_eq_zero.mpr fun msg new => by simp [Proxy.clientFd_of_releases new]
      have sub : (s.proxy.ctlMsg.eraseP (·.clientFd = fd)).Sublist s.proxy.ctlMsg :=
        List.eraseP_sublist
      have fewer := sub.countP_le
        (p := fun msg => decide (msg.clientFd ≠ s.proxy.serverFd) && isReleaseOf pair msg)
      simp only [clientReleases, List.countP_append, none] at before ⊢
      omega

/-! ### Responses -/

section

omit wf settled

variable (con : Connection) {request : Qmi} (body : Qmi) (allocated : List Pair)

theorem record_get (get : request.isGet) :
    (Proxy.recordResponse con (answer request body)).clients =
      if (answer request body).succeeded then con.clients ++ [responsePair (answer request body)]
      else con.clients := by
  have type : (answer request body).qmictlType = qmictlGetClientId := of_decide_eq_true get
  rw [Proxy.recordResponse, if_pos type, Proxy.getClientId]
  split <;> rfl

theorem settle_get (get : request.isGet) :
    settle allocated request (answer request body) =
      if (answer request body).succeeded then responsePair (answer request body) :: allocated
      else allocated := by
  rw [settle, if_pos (of_decide_eq_true get)]

theorem record_release (release : request.isRelease) :
    (Proxy.recordResponse con (answer request body)).clients =
      if (answer request body).succeeded then
        con.clients.erase (responsePair (answer request body))
      else con.clients := by
  have type : (answer request body).qmictlType = qmictlReleaseClientId := of_decide_eq_true release
  have noGet : (answer request body).qmictlType ≠ qmictlGetClientId := by rw [type]; decide
  rw [Proxy.recordResponse, if_neg noGet, if_pos type, Proxy.releaseClientId]
  split <;> rfl

theorem settle_release (release : request.isRelease) :
    settle allocated request (answer request body) =
      if (answer request body).succeeded then allocated.filter (· ≠ requestPair request)
      else allocated := by
  have type : request.qmictlType = qmictlReleaseClientId := of_decide_eq_true release
  have noGet : request.qmictlType ≠ qmictlGetClientId := by rw [type]; decide
  rw [settle, if_neg noGet, if_pos type]

theorem record_other (get : ¬ request.isGet) (release : ¬ request.isRelease) :
    Proxy.recordResponse con (answer request body) = con := by
  have noGet : (answer request body).qmictlType ≠ qmictlGetClientId :=
    fun type => get (decide_eq_true type)
  have noRelease : (answer request body).qmictlType ≠ qmictlReleaseClientId :=
    fun type => release (decide_eq_true type)
  rw [Proxy.recordResponse, if_neg noGet, if_neg noRelease]

theorem settle_other (get : ¬ request.isGet) (release : ¬ request.isRelease) :
    settle allocated request (answer request body) = allocated := by
  have noGet : request.qmictlType ≠ qmictlGetClientId := fun type => get (decide_eq_true type)
  have noRelease : request.qmictlType ≠ qmictlReleaseClientId :=
    fun type => release (decide_eq_true type)
  rw [settle, if_neg noGet, if_neg noRelease, ite_self]

end

omit settled in
theorem recorded_count {con : Connection} (live : con ∈ s.proxy.connections) (rsp : Qmi)
    (pair : Pair) :
    ((recorded s.proxy.connections con.clientFd rsp).flatMap Connection.clients).count pair =
      (Proxy.recordResponse con rsp).clients.count pair +
        ((s.proxy.connections.filter (·.clientFd ≠ con.clientFd)).flatMap
          Connection.clients).count pair := by
  have others : recorded (s.proxy.connections.filter (·.clientFd ≠ con.clientFd)) con.clientFd rsp =
      s.proxy.connections.filter (·.clientFd ≠ con.clientFd) :=
    recorded_of_none rsp fun other member => by simpa using (List.mem_filter.mp member).2
  have parts := ((perm_cons_filter wf.fds live).map fun other =>
    if other.clientFd = con.clientFd then Proxy.recordResponse other rsp else other).flatMap_right
      Connection.clients
  rw [recorded, parts.count_eq, List.map_cons, List.flatMap_cons, List.count_append, if_pos rfl]
  exact congrArg (fun l => _ + (l.flatMap Connection.clients).count pair) others

variable {msg : ProxyMsg} {queue : List ProxyMsg} {body : Qmi}
  (list : s.proxy.ctlMsg = msg :: queue) (keeps : s.ModemKeeps body)

omit wf in
include list in
theorem ownReleases_cons (pair : Pair) :
    s.ownReleases pair = queue.countP (fun msg => decide (msg.clientFd = s.proxy.serverFd) &&
      isReleaseOf pair msg) +
        if msg.clientFd = s.proxy.serverFd ∧ requestPair msg.qmi = pair then 1 else 0 := by
  rw [ownReleases, list, List.countP_cons]
  congr 1
  by_cases own : msg.clientFd = s.proxy.serverFd
  · have release := settled.own msg (by simp [list]) own
    simp [own, isReleaseOf, release]
  · simp [own]

include list keeps

theorem response_balance (pair : Pair) :
    ((recorded s.proxy.connections msg.clientFd (answer msg.qmi body)).flatMap
        Connection.clients).count pair +
      queue.countP (fun msg => decide (msg.clientFd = s.proxy.serverFd) && isReleaseOf pair msg) =
        if pair ∈ settle s.allocated msg.qmi (answer msg.qmi body) then 1 else 0 := by
  have head : msg ∈ s.proxy.ctlMsg := by simp [list]
  obtain ⟨free, echoes, accepts⟩ := keeps msg (by simp [settled.single, list])
  have balance := settled.balance pair
  rw [ownReleases_cons settled list] at balance
  by_cases own : msg.clientFd = s.proxy.serverFd
  · -- The modem takes back a client id that no connection has in its list.
    have nobody : ∀ con ∈ s.proxy.connections, con.clientFd ≠ msg.clientFd := fun con live same =>
      serverFd_ne_of_live wf live (own.symm.trans same.symm)
    have release := settled.own msg head own
    rw [recorded_of_none _ nobody, settle_release body s.allocated release, if_pos (accepts own)]
    change s.held.count pair + _ = _
    by_cases same : requestPair msg.qmi = pair
    · rw [if_pos ⟨own, same⟩] at balance
      rw [if_neg (by simp [same])]
      split at balance <;> omega
    · rw [if_neg fun both => same both.2] at balance
      simpa [Ne.symm same] using balance
  · rw [if_neg fun both => own both.1] at balance
    by_cases get : msg.qmi.isGet
    · obtain ⟨con, live, isFd, _⟩ := settled.backed msg head own (.inl get)
      rw [← isFd, recorded_count wf live, record_get con body get, settle_get body s.allocated get]
      rw [held_count wf live] at balance
      split
      next succeeded =>
        by_cases same : responsePair (answer msg.qmi body) = pair
        · -- A free client id was in no list.
          have unknown : pair ∉ s.allocated := same ▸ free get succeeded
          rw [if_neg unknown] at balance
          rw [if_pos (by simp [same]), List.count_append, same, List.count_singleton_self]
          omega
        · simpa [same, Ne.symm same, List.count_append] using balance
      · exact balance
    · by_cases release : msg.qmi.isRelease
      · obtain ⟨con, live, isFd, mine⟩ := settled.backed msg head own (.inr release)
        rw [← isFd, recorded_count wf live, record_release con body release,
          settle_release body s.allocated release]
        rw [held_count wf live] at balance
        split
        next succeeded =>
          rw [echoes release succeeded]
          by_cases same : requestPair msg.qmi = pair
          · have positive := List.count_pos_iff.mpr (mine release)
            rw [same] at positive
            rw [if_neg (by simp [same]), same, List.count_erase_self]
            split at balance <;> omega
          · rw [List.count_erase_of_ne (Ne.symm same)]
            simpa [Ne.symm same] using balance
        · exact balance
      · have unchanged : recorded s.proxy.connections msg.clientFd (answer msg.qmi body) =
            s.proxy.connections := by
          refine (List.map_congr_left fun con _ => ?_).trans (List.map_id _)
          rw [record_other con body get release, ite_self, id]
        rw [unchanged, settle_other body s.allocated get release]
        exact balance

/-- What a client still wants to release stays in its list. -/
theorem response_keeps {con : Connection} (live : con ∈ s.proxy.connections)
    (isFd : con.clientFd = msg.clientFd) {other : ProxyMsg} (later : other ∈ queue)
    (foreign : other.clientFd ≠ s.proxy.serverFd) (release : other.qmi.isRelease)
    (member : requestPair other.qmi ∈ con.clients) :
    requestPair other.qmi ∈ (Proxy.recordResponse con (answer msg.qmi body)).clients := by
  by_cases get : msg.qmi.isGet
  · rw [record_get con body get]
    split
    · exact List.mem_append_left _ member
    · exact member
  · by_cases first : msg.qmi.isRelease
    · rw [record_release con body first]
      split
      next succeeded =>
        obtain ⟨_, echoes, _⟩ := keeps msg (by simp [settled.single, list])
        rw [echoes first succeeded]
        refine (List.mem_erase_of_ne fun same => ?_).mpr member
        -- Both requests would release the same client id.
        have once := settled.once (requestPair other.qmi)
        have second : 0 < queue.countP (fun msg => decide (msg.clientFd ≠ s.proxy.serverFd) &&
            isReleaseOf (requestPair other.qmi) msg) :=
          List.countP_pos_iff.mpr ⟨other, later, by simp [isReleaseOf, foreign, release]⟩
        have mine : msg.clientFd ≠ s.proxy.serverFd := fun own =>
          serverFd_ne_of_live wf live (own.symm.trans isFd.symm)
        rw [clientReleases, list, List.countP_cons, if_pos (by simp [isReleaseOf, mine, first, same])]
          at once
        omega
      · exact member
    · rw [record_other con body get first]
      exact member

theorem response_settled : (s.step (.response body)).Settled := by
  have single := step_single wf settled.single (e := .response body) trivial
  have oldest : s.outstanding = [msg] := by simp [settled.single, list]
  have later {other : ProxyMsg} (member : other ∈ queue) : other ∈ s.proxy.ctlMsg := by
    rw [list]
    exact .tail _ member
  rw [step_response wf body oldest list] at single ⊢
  refine ⟨single, response_balance wf settled list keeps, fun other member => ?_,
    fun other member foreign handles => ?_, fun pair => ?_⟩
  · exact settled.own other (later member)
  · obtain ⟨con, live, sameFd, backs⟩ := settled.backed other (later member) foreign handles
    refine ⟨_, List.mem_map_of_mem live, ?_, fun release => ?_⟩
    · split_ifs <;> simp [sameFd]
    · split_ifs with isFd
      · exact response_keeps wf settled list keeps live isFd member foreign release (backs release)
      · exact backs release
  · have before := settled.once pair
    rw [clientReleases, list] at before
    exact Nat.le_trans (List.sublist_cons_self msg queue).countP_le before

end

theorem step_settled {s : System} (wf : s.WellFormed) (settled : s.Settled) {e : Event}
    (allowed : s.OwnershipAllowed e) : (s.step e).Settled := by
  cases e with
  | connect fd => exact connect_settled settled fd
  | disconnect fd => exact disconnect_settled wf settled allowed
  | client fd qmi => exact client_settled wf settled allowed
  | response body =>
    cases list : s.proxy.ctlMsg with
    | nil =>
      have none : s.outstanding = [] := by simp [settled.single, list]
      simp only [step, none]
      exact settled
    | cons msg queue => exact response_settled wf settled list allowed
  | device qmi => rw [step_device wf]; exact settled

theorem init_settled (serverFd : Nat) : (System.init serverFd).Settled where
  single := rfl
  balance := by simp [System.init, held, ownReleases]
  own := by simp [System.init]
  backed := by simp [System.init]
  once := by simp [System.init, clientReleases]

theorem run_settled {serverFd : Nat} {events : List Event}
    (guarded : Guarded step OwnershipAllowed (System.init serverFd) events) :
    (run step (System.init serverFd) events).Settled := by
  have both := guarded_invariant step OwnershipAllowed (fun s => s.WellFormed ∧ s.Settled)
    (fun s e holds allowed => ⟨step_wellFormed holds.1 e, step_settled holds.1 holds.2 allowed⟩)
    _ ⟨init_wellFormed serverFd, init_settled serverFd⟩ events guarded
  exact both.2

/-! ### No client id is lost or owned twice -/

/-- A client id that the modem has given away is in the list of one connection, or there is one
request on the list to give it back. -/
def Placed (s : System) (pair : Pair) : Prop :=
  (s.owners pair).length = 1 ∨ s.pendingReleases pair = 1

instance (s : System) (pair : Pair) : Decidable (s.Placed pair) := by
  unfold Placed
  infer_instance

theorem pendingReleases_eq (s : System) (pair : Pair) :
    s.pendingReleases pair = s.ownReleases pair + s.clientReleases pair := by
  rw [pendingReleases, ownReleases, clientReleases]
  induction s.proxy.ctlMsg with
  | nil => rfl
  | cons msg rest ih =>
    simp only [List.countP_cons, ih]
    by_cases own : msg.clientFd = s.proxy.serverFd <;> simp [own] <;> omega

theorem Settled.placed {s : System} (wf : s.WellFormed) (settled : s.Settled) {pair : Pair}
    (given : pair ∈ s.allocated) : s.Placed pair := by
  have balance := settled.balance pair
  rw [if_pos given] at balance
  by_cases inList : s.held.count pair = 1
  · exact .inl (filter_of_count_flatMap inList)
  · right
    -- The release is the proxy's: a client's would be backed by a list.
    have nobody : s.clientReleases pair = 0 := by
      apply List.countP_eq_zero.mpr
      intro msg member release
      simp only [isReleaseOf, Bool.and_eq_true, decide_eq_true_eq] at release
      obtain ⟨foreign, isRelease, rfl⟩ := release
      obtain ⟨con, live, _, backs⟩ := settled.backed msg member foreign (.inr isRelease)
      have positive := held_pos wf live (backs isRelease)
      omega
    rw [pendingReleases_eq, nobody]
    omega

/-- On every schedule that closes no connection while its request is outstanding or while requests
about client ids wait behind its first, on which clients release only what they own, and once,
and the modem keeps its promises: every client id that the modem has given away has one owner,
or one request to give it back. -/
theorem client_ids_placed (serverFd : Nat) (events : List Event)
    (guarded : Guarded step OwnershipAllowed (System.init serverFd) events) :
    let s := run step (System.init serverFd) events
    s.outstanding = s.proxy.ctlMsg.head?.toList ∧ ∀ pair ∈ s.allocated, s.Placed pair :=
  have settled := run_settled guarded
  ⟨settled.single, fun _ given => settled.placed (run_wellFormed serverFd events) given⟩

/-- Two clients get a client id each; one gives its own back, the other leaves. -/
theorem two_clients_placed :
    let events : List Event := [.connect 5, .connect 6, .client 5 (getClientIdReq 1 2),
      .client 6 (getClientIdReq 1 2), .response (clientIdRsp (2, 1)), .response (clientIdRsp (2, 2)),
      .client 5 (releaseClientIdReq (2, 1)), .disconnect 6, .response (clientIdRsp (2, 1))]
    let s := run step (System.init 3) events
    Guarded step OwnershipAllowed (System.init 3) events ∧ s.allocated = [(2, 2)] ∧
      s.Placed (2, 2) := by
  intro events s
  have guarded : Guarded step OwnershipAllowed (System.init 3) events := by decide
  have given : s.allocated = [(2, 2)] := by decide
  exact ⟨guarded, given, (client_ids_placed 3 events guarded).2 _ (by rw [given]; exact .head _)⟩

/-- A client that leaves before its GET_CLIENT_ID is answered: nobody will ever give back the
client id that the modem has chosen for it. -/
theorem client_id_lost :
    let s := run step (System.init 3) [.connect 5, .client 5 (getClientIdReq 1 2), .disconnect 5,
      .response (clientIdRsp (2, 1))]
    s.allocated = [(2, 1)] ∧ s.proxy.connections = [] ∧ s.proxy.ctlMsg = [] ∧
      s.outstanding = [] ∧ ¬ ∀ pair ∈ s.allocated, s.Placed pair := by
  intro s
  have given : s.allocated = [(2, 1)] := by decide
  have lost : ¬ s.Placed (2, 1) := by decide
  refine ⟨given, by decide, by decide, by decide, fun placed => lost (placed (2, 1) ?_)⟩
  rw [given]
  exact .head _

end System
end LorawanFeeds.QmiProxy
