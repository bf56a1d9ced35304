import LorawanFeeds.QmiProxy.System

/-!
# Who gets which control response

The proxy takes the head of its list for the request that the next control response belongs to.
That is right as long as the head is the one request the modem has not answered, and as long as
the file descriptor in it still belongs to the connection that sent it. Closing a connection
can break both: it removes the head without waiting for its response, and it leaves all queued
messages of the connection but the first behind.
-/
namespace LorawanFeeds.QmiProxy

open Lib

/-- The numbers of the requests of a connection in the log of requests. -/
def requestsOf (connection : Nat) (log : List (Nat × Nat)) : List Nat :=
  log.filterMap fun entry => if entry.1 = connection then some entry.2 else none

/-- The numbers of the requests of a connection among messages. -/
def numbersOf (connection : Nat) (origins : List Origin) : List Nat :=
  origins.filterMap fun
    | .client other request => if other = connection then some request else none
    | .proxy => none

/-- The requests whose responses a connection has received. -/
def answeredTo (connection : Nat) (log : List (Nat × Origin)) : List Origin :=
  log.filterMap fun entry => if entry.1 = connection then some entry.2 else none

@[simp] theorem requestsOf_append (connection : Nat) (first second : List (Nat × Nat)) :
    requestsOf connection (first ++ second) =
      requestsOf connection first ++ requestsOf connection second := List.filterMap_append

@[simp] theorem numbersOf_append (connection : Nat) (first second : List Origin) :
    numbersOf connection (first ++ second) =
      numbersOf connection first ++ numbersOf connection second := List.filterMap_append

@[simp] theorem answeredTo_append (connection : Nat) (first second : List (Nat × Origin)) :
    answeredTo connection (first ++ second) =
      answeredTo connection first ++ answeredTo connection second := List.filterMap_append

@[simp] theorem numbersOf_nil (connection : Nat) : numbersOf connection [] = [] := rfl

theorem numbersOf_other {connection other : Nat} (different : other ≠ connection) (request : Nat)
    (origins : List Origin) :
    numbersOf connection (.client other request :: origins) = numbersOf connection origins := by
  simp [numbersOf, different]

namespace System

/-- The requests of the messages on the list. -/
def queued (s : System) : List Origin := s.proxy.ctlMsg.map ProxyMsg.origin

/-- The responses that a connection has received to its own requests. -/
def answered (s : System) (connection : Nat) : List Nat :=
  numbersOf connection (answeredTo connection s.delivered)

/-- The requests of a connection have been answered or are on the list, in order; and those
written to the modem have been answered or are outstanding. -/
structure Accounted (s : System) (connection : Nat) : Prop where
  requested : requestsOf connection s.requested =
    s.answered connection ++ numbersOf connection s.queued
  written : numbersOf connection s.written =
    s.answered connection ++ numbersOf connection (s.outstanding.map ProxyMsg.origin)

/-- The message is one of the proxy itself, or its file descriptor is that of the connection
that sent it and of no other. -/
def Owned (s : System) (msg : ProxyMsg) : Prop :=
  msg.origin = .proxy ∧ msg.clientFd = s.proxy.serverFd ∨
    ∃ connection request, msg.origin = .client connection request ∧
      (connection, request) ∈ s.requested ∧ msg.clientFd ≠ s.proxy.serverFd ∧
        ∀ con ∈ s.proxy.connections, con.clientFd = msg.clientFd ↔ con.ident = connection

/-- The invariant of the routing. -/
structure Routed (s : System) : Prop where
  single : s.outstanding = s.proxy.ctlMsg.head?.toList
  owned : ∀ msg ∈ s.proxy.ctlMsg, s.Owned msg
  accounted : ∀ con ∈ s.proxy.connections, s.Accounted con.ident
  answers : ∀ entry ∈ s.delivered, ∃ request, entry.2 = .client entry.1 request ∧
    (entry.1, request) ∈ s.requested
  writes : ∀ connection request, .client connection request ∈ s.written →
    (connection, request) ∈ s.requested
  numbered : ∀ entry ∈ s.requested, entry.1 < s.nextConnection ∧ entry.2 < s.nextRequest
  distinct : s.requested.Nodup

/-- A schedule on which the routing can rely: a connection is not closed while its request is
outstanding, and a file descriptor is not used again while messages with it are queued. -/
def RoutingAllowed (s : System) : Event → Prop
  | .connect fd => ¬ s.InUse fd → ∀ msg ∈ s.proxy.ctlMsg, msg.clientFd ≠ fd
  | e => s.HeadWaits e

instance (s : System) : ∀ e, Decidable (s.RoutingAllowed e)
  | .connect fd =>
    inferInstanceAs (Decidable (¬ s.InUse fd → ∀ msg ∈ s.proxy.ctlMsg, msg.clientFd ≠ fd))
  | .disconnect fd =>
    inferInstanceAs (Decidable (s.InUse fd → ∀ msg ∈ s.proxy.ctlMsg.head?, msg.clientFd ≠ fd))
  | .client _ _ | .response _ | .device _ => inferInstanceAs (Decidable True)

/-! ### The logs -/

theorem requestsOf_fresh {connection : Nat} {log : List (Nat × Nat)}
    (fresh : ∀ request, (connection, request) ∉ log) : requestsOf connection log = [] := by
  refine List.filterMap_eq_nil_iff.mpr fun entry member => if_neg fun same => fresh entry.2 ?_
  rw [← same]
  exact member

theorem numbersOf_fresh {connection : Nat} {origins : List Origin}
    (fresh : ∀ request, .client connection request ∉ origins) : numbersOf connection origins = [] := by
  apply List.filterMap_eq_nil_iff.mpr
  intro origin member
  cases origin with
  | proxy => rfl
  | client other request =>
    refine if_neg fun same => fresh request ?_
    rw [← same]
    exact member

theorem numbersOf_releases (connection : Nat) (serverFd : Int) (clients : List Pair) :
    numbersOf connection ((Proxy.releases serverFd clients).map ProxyMsg.origin) = [] :=
  numbersOf_fresh fun request member => by
    obtain ⟨msg, released, origin⟩ := List.mem_map.mp member
    rw [Proxy.origin_of_releases released] at origin
    cases origin

theorem requestsOf_nodup {connection : Nat} {log : List (Nat × Nat)} (distinct : log.Nodup) :
    (requestsOf connection log).Nodup := by
  apply distinct.filterMap
  intro first second request one two
  simp only [Option.mem_def, Option.ite_none_right_eq_some, Option.some.injEq] at one two
  exact Prod.ext (one.1.trans two.1.symm) (one.2.trans two.2.symm)

section

variable {s : System} (wf : s.WellFormed) (routed : s.Routed)

include routed

/-- Every message on the list that is a client's has been logged. -/
theorem mem_requested_of_owned {msg : ProxyMsg} {connection request : Nat}
    (member : msg ∈ s.proxy.ctlMsg) (origin : msg.origin = .client connection request) :
    (connection, request) ∈ s.requested := by
  rcases routed.owned msg member with ⟨own, _⟩ | ⟨c, r, same, logged, _⟩
  · rw [own] at origin
    cases origin
  · rw [same] at origin
    cases origin
    exact logged

/-! ### New connections -/

theorem mem_requested_of_queued {connection request : Nat}
    (member : .client connection request ∈ s.queued) : (connection, request) ∈ s.requested := by
  obtain ⟨msg, inList, same⟩ := List.mem_map.mp member
  exact mem_requested_of_owned routed inList same

theorem outstanding_subset : s.outstanding.map ProxyMsg.origin ⊆ s.queued := by
  rw [routed.single, queued]
  cases s.proxy.ctlMsg <;> simp

/-- Nothing is known of a connection that does not exist yet. -/
theorem accounted_fresh : s.Accounted s.nextConnection := by
  have unknown (request : Nat) : (s.nextConnection, request) ∉ s.requested := fun member =>
    Nat.lt_irrefl _ (routed.numbered _ member).1
  have unqueued (request : Nat) : .client s.nextConnection request ∉ s.queued := fun member =>
    unknown request (mem_requested_of_queued routed member)
  have nothing : s.answered s.nextConnection = [] := by
    apply numbersOf_fresh
    intro request member
    -- A response to it would answer a request of it.
    obtain ⟨entry, logged, found⟩ := List.mem_filterMap.mp member
    obtain ⟨number, _, known⟩ := routed.answers entry logged
    by_cases same : entry.1 = s.nextConnection
    · rw [same] at known
      exact unknown number known
    · simp [same] at found
  constructor
  · rw [nothing, requestsOf_fresh unknown, numbersOf_fresh unqueued]
    rfl
  · rw [nothing, numbersOf_fresh fun request member => unknown request (routed.writes _ _ member),
      numbersOf_fresh fun request member => unqueued request (outstanding_subset routed member)]
    rfl

theorem connect_routed {fd : Int} (allowed : s.RoutingAllowed (.connect fd)) :
    (s.step (.connect fd)).Routed := by
  rw [step]
  split
  · exact routed
  next free =>
    refine ⟨routed.single, ?_, ?_, routed.answers, routed.writes, ?_, routed.distinct⟩
    · intro msg member
      rcases routed.owned msg member with own | ⟨connection, request, origin, logged, foreign, owner⟩
      · exact .inl own
      · refine .inr ⟨connection, request, origin, logged, foreign, fun con live => ?_⟩
        rcases List.mem_append.mp live with old | new
        · exact owner con old
        · -- The new connection has neither the file descriptor nor the number.
          rw [List.mem_singleton.mp new]
          have older := (routed.numbered _ logged).1
          exact iff_of_false (allowed free msg member).symm (Nat.ne_of_gt older)
    · intro con live
      rcases List.mem_append.mp live with old | new
      · exact ⟨(routed.accounted con old).requested, (routed.accounted con old).written⟩
      · rw [List.mem_singleton.mp new]
        exact ⟨(accounted_fresh routed).requested, (accounted_fresh routed).written⟩
    · intro entry member
      exact ⟨Nat.lt_succ_of_lt (routed.numbered entry member).1, (routed.numbered entry member).2⟩

/-! ### Requests -/

include wf

theorem client_routed (fd : Int) (qmi : Qmi) : (s.step (.client fd qmi)).Routed := by
  cases found : s.proxy.connections.find? (·.clientFd = fd) with
  | none =>
    simp only [step, found]
    exact routed
  | some con =>
    have live : con ∈ s.proxy.connections := List.mem_of_find?_eq_some found
    rcases step_client wf qmi found with same | ⟨_, taken⟩
    · rw [same]
      exact routed
    · have single := step_single wf routed.single (e := .client fd qmi) trivial
      have fresh : (con.ident, s.nextRequest) ∉ s.requested := fun member =>
        Nat.lt_irrefl _ (routed.numbered _ member).2
      rw [taken] at single ⊢
      refine ⟨single, ?_, ?_, ?_, ?_, ?_, ?_⟩
      · intro msg member
        rcases List.mem_append.mp member with old | new
        · rcases routed.owned msg old with own | ⟨connection, request, origin, logged, others⟩
          · exact .inl own
          · exact .inr ⟨connection, request, origin, List.mem_append_left _ logged, others⟩
        · rw [List.mem_singleton.mp new]
          -- The file descriptor and the number name the same connection.
          refine .inr ⟨con.ident, s.nextRequest, rfl, by simp, fun own => ?_, fun other alive => ?_⟩
          · exact wf.foreign (own ▸ List.mem_map_of_mem live)
          · exact ⟨fun same => by rw [List.inj_on_of_nodup_map wf.fds alive live same],
              fun same => by rw [List.inj_on_of_nodup_map wf.idents alive live same]⟩
      · intro other alive
        constructor
        · simp only [queued, List.map_append, requestsOf_append, numbersOf_append,
            (routed.accounted other alive).requested, List.append_assoc]
          rfl
        · simp only [List.map_append, numbersOf_append, (routed.accounted other alive).written,
            List.append_assoc]
          rfl
      · intro entry member
        obtain ⟨request, same, logged⟩ := routed.answers entry member
        exact ⟨request, same, List.mem_append_left _ logged⟩
      · intro connection request member
        rcases List.mem_append.mp member with old | new
        · exact List.mem_append_left _ (routed.writes connection request old)
        · split at new
          · simp only [List.map_cons, List.map_nil, List.mem_singleton, Origin.client.injEq] at new
            rw [new.1, new.2]
            exact List.mem_append_right _ (.head _)
          · cases new
      · intro entry member
        rcases List.mem_append.mp member with old | new
        · have bounds := routed.numbered entry old
          exact ⟨bounds.1, Nat.lt_succ_of_lt bounds.2⟩
        · rw [List.mem_singleton.mp new]
          exact ⟨wf.numbered con live, Nat.lt_succ_self _⟩
      · refine List.nodup_append.mpr ⟨routed.distinct, List.nodup_singleton _, ?_⟩
        intro entry old other new same
        rw [List.mem_singleton.mp new] at same
        exact fresh (same ▸ old)

/-! ### Closing a connection -/

theorem disconnect_routed {fd : Int} (allowed : s.RoutingAllowed (.disconnect fd)) :
    (s.step (.disconnect fd)).Routed := by
  cases found : s.proxy.connections.find? (·.clientFd = fd) with
  | none =>
    rw [step_disconnect_of_none wf found]
    exact routed
  | some con =>
    have live : con ∈ s.proxy.connections := List.mem_of_find?_eq_some found
    have single := step_single wf routed.single (e := .disconnect fd) allowed
    rw [step_disconnect wf found] at single ⊢
    refine ⟨single, ?_, ?_, routed.answers, ?_, routed.numbered, routed.distinct⟩
    · intro msg member
      rcases List.mem_append.mp member with old | new
      · rcases routed.owned msg (List.mem_of_mem_eraseP old) with
          own | ⟨connection, request, origin, logged, foreign, owner⟩
        · exact .inl own
        · exact .inr ⟨connection, request, origin, logged, foreign,
            fun other alive => owner other (List.mem_of_mem_filter alive)⟩
      · exact .inl ⟨Proxy.origin_of_releases new, Proxy.clientFd_of_releases new⟩
    · intro other alive
      obtain ⟨old, different⟩ := List.mem_filter.mp alive
      have account := routed.accounted other old
      -- A message with the file descriptor of the closed connection is not another's.
      have removed : numbersOf other.ident ((s.proxy.ctlMsg.eraseP (·.clientFd = fd)).map
          ProxyMsg.origin) = numbersOf other.ident s.queued := by
        simp only [numbersOf, queued, List.filterMap_map]
        apply filterMap_eraseP
        intro msg member hit
        rcases routed.owned msg member with ⟨own, _⟩ | ⟨connection, request, origin, _, _, owner⟩
        · simp [own]
        · have stranger : other.ident ≠ connection := fun same => by
            have sameFd := (owner other old).mpr same
            simp_all
          simp [origin, stranger.symm]
      constructor
      · simp only [queued, List.map_append, numbersOf_append, numbersOf_releases, removed,
          List.append_nil]
        exact account.requested
      · have silent : numbersOf other.ident ((if s.proxy.ctlMsg = [] then
            (Proxy.releases s.proxy.serverFd con.clients).head?.toList else []).map
              ProxyMsg.origin) = [] := by
          split <;> cases con.clients <;> rfl
        simp only [List.map_append, numbersOf_append, silent, List.append_nil]
        exact account.written
    · intro connection request member
      rcases List.mem_append.mp member with old | new
      · exact routed.writes connection request old
      · split at new <;> cases list : con.clients <;> simp [list, Proxy.releases] at new

/-! ### Responses -/

/-- The answer to a connection's request goes to this connection, and to no other. -/
theorem answered_next {msg : ProxyMsg} (member : msg ∈ s.proxy.ctlMsg) {con : Connection}
    (live : con ∈ s.proxy.connections) :
    numbersOf con.ident (answeredTo con.ident
      ((s.proxy.connections.filter (·.clientFd = msg.clientFd)).map
        fun con => (con.ident, msg.origin))) = numbersOf con.ident [msg.origin] := by
  rcases routed.owned msg member with ⟨own, _⟩ | ⟨connection, request, origin, _, _, owner⟩
  · rw [own]
    apply numbersOf_fresh
    intro request member
    simp [answeredTo] at member
  · rw [origin]
    -- The connection that asked is the only one with the file descriptor.
    by_cases same : con.ident = connection
    · have isFd := (owner con live).mpr same
      rw [← isFd, filter_eq_singleton wf.fds live]
      simp [answeredTo]
    · rw [numbersOf_other (Ne.symm same)]
      apply numbersOf_fresh
      intro number member
      simp [answeredTo, Ne.symm same] at member

theorem response_routed (body : Qmi) : (s.step (.response body)).Routed := by
  cases list : s.proxy.ctlMsg with
  | nil =>
    have none : s.outstanding = [] := by simp [routed.single, list]
    simp only [step, none]
    exact routed
  | cons msg queue =>
    have oldest : s.outstanding = [msg] := by simp [routed.single, list]
    have head : msg ∈ s.proxy.ctlMsg := by simp [list]
    rw [step_response wf body oldest list]
    have later {other : ProxyMsg} (member : other ∈ queue) : other ∈ s.proxy.ctlMsg := by
      rw [list]
      exact .tail _ member
    refine ⟨rfl, ?_, ?_, ?_, ?_, routed.numbered, routed.distinct⟩
    · intro other member
      rcases routed.owned other (later member) with
        own | ⟨connection, request, origin, logged, foreign, owner⟩
      · exact .inl own
      · refine .inr ⟨connection, request, origin, logged, foreign, fun con alive => ?_⟩
        obtain ⟨old, live, fd, ident⟩ := of_mem_recorded alive
        rw [← fd, ← ident]
        exact owner old live
    · intro con alive
      obtain ⟨old, live, _, ident⟩ := of_mem_recorded alive
      have account := routed.accounted old live
      have next := answered_next wf routed head live
      rw [← ident]
      constructor
      · -- The head moves from the list to the answered requests.
        have parts : numbersOf old.ident (msg.origin :: queue.map ProxyMsg.origin) =
            numbersOf old.ident [msg.origin] ++ numbersOf old.ident (queue.map ProxyMsg.origin) :=
          numbersOf_append _ [_] _
        rw [account.requested]
        simp only [answered, answeredTo_append, numbersOf_append, next, queued, list, List.map_cons,
          List.append_assoc, parts]
      · simp only [numbersOf_append, account.written, oldest, answered, answeredTo_append, next,
          List.map_cons, List.map_nil, List.append_assoc, List.nil_append]
    · intro entry member
      rcases List.mem_append.mp member with old | new
      · exact routed.answers entry old
      · obtain ⟨con, alive, rfl⟩ := List.mem_map.mp new
        obtain ⟨live, isFd⟩ := List.mem_filter.mp alive
        have isFd : con.clientFd = msg.clientFd := by simpa using isFd
        -- No connection has the file descriptor of the proxy's own requests.
        rcases routed.owned msg head with ⟨_, server⟩ | ⟨connection, request, origin, logged, _, owner⟩
        · exact absurd (server ▸ isFd ▸ List.mem_map_of_mem live) wf.foreign
        · rw [← (owner con live).mp isFd] at origin logged
          exact ⟨request, origin, logged⟩
    · intro connection request member
      rcases List.mem_append.mp member with old | new
      · exact routed.writes connection request old
      · obtain ⟨other, first, origin⟩ := List.mem_map.mp new
        exact mem_requested_of_owned routed
          (later (List.mem_of_mem_head? (by simpa using first))) origin

theorem step_routed {e : Event} (allowed : s.RoutingAllowed e) : (s.step e).Routed := by
  cases e with
  | connect fd => exact connect_routed routed allowed
  | disconnect fd => exact disconnect_routed wf routed allowed
  | client fd qmi => exact client_routed wf routed fd qmi
  | response body => exact response_routed wf routed body
  | device qmi => rw [step_device wf]; exact routed

end

theorem init_routed (serverFd : Nat) : (System.init serverFd).Routed where
  single := rfl
  owned := by simp [System.init]
  accounted := by simp [System.init]
  answers := by simp [System.init]
  writes := by simp [System.init]
  numbered := by simp [System.init]
  distinct := List.nodup_nil

theorem run_routed {serverFd : Nat} {events : List Event}
    (guarded : Guarded step RoutingAllowed (System.init serverFd) events) :
    (run step (System.init serverFd) events).Routed := by
  have both := guarded_invariant step RoutingAllowed (fun s => s.WellFormed ∧ s.Routed)
    (fun s e holds allowed => ⟨step_wellFormed holds.1 e, step_routed holds.1 holds.2 allowed⟩)
    _ ⟨init_wellFormed serverFd, init_routed serverFd⟩ events guarded
  exact both.2

/-! ### Draining the list -/

/-- As many responses as there are messages on the list empty it. -/
theorem drained {s : System} (wf : s.WellFormed) (routed : s.Routed) {bodies : List Qmi}
    (enough : bodies.length = s.proxy.ctlMsg.length) :
    let t := run step s (bodies.map .response)
    t.Routed ∧ t.proxy.ctlMsg = [] ∧ t.requested = s.requested ∧
      ∀ con ∈ s.proxy.connections, ∃ con' ∈ t.proxy.connections, con'.ident = con.ident := by
  induction bodies generalizing s with
  | nil => exact ⟨routed, List.length_eq_zero_iff.mp enough.symm, rfl, fun con live => ⟨con, live, rfl⟩⟩
  | cons body bodies ih =>
    cases list : s.proxy.ctlMsg with
    | nil => simp [list] at enough
    | cons msg queue =>
      have oldest : s.outstanding = [msg] := by simp [routed.single, list]
      have stepped := step_response wf body oldest list
      -- Each response takes one message off the list, and adds none.
      have shorter : bodies.length = (s.step (.response body)).proxy.ctlMsg.length := by
        rw [stepped]
        simpa [list] using enough
      obtain ⟨done, empty, same, alive⟩ :=
        ih (step_wellFormed wf _) (response_routed wf routed body) shorter
      refine ⟨done, empty, same.trans (by rw [stepped]), fun con live => ?_⟩
      have kept : ∃ next ∈ (s.step (.response body)).proxy.connections, next.ident = con.ident := by
        rw [stepped]
        refine ⟨_, List.mem_map_of_mem live, ?_⟩
        split_ifs <;> simp
      obtain ⟨next, there, ident⟩ := kept
      obtain ⟨last, present, same⟩ := alive next there
      exact ⟨last, present, same.trans ident⟩

/-! ### The responses reach the clients that asked -/

/-- What a client can rely on in a state of the system. -/
structure ReachesRequester (s : System) : Prop where
  /-- At most one control request is at the modem, the head of the list. -/
  single : s.outstanding = s.proxy.ctlMsg.head?.toList
  /-- A response that a connection has received answers a request of this connection. -/
  answers : ∀ entry ∈ s.delivered, ∃ request, entry.2 = .client entry.1 request ∧
    (entry.1, request) ∈ s.requested
  /-- A live connection's requests have been written, once each and in order, or wait. -/
  written : ∀ con ∈ s.proxy.connections, (numbersOf con.ident s.written).Nodup ∧
    requestsOf con.ident s.requested =
      numbersOf con.ident s.written ++ numbersOf con.ident s.queued.tail
  /-- Those written have been answered to it, but for the one at the modem. -/
  answered : ∀ con ∈ s.proxy.connections, numbersOf con.ident s.written =
    s.answered con.ident ++ numbersOf con.ident (s.outstanding.map ProxyMsg.origin)
  /-- Once the modem has answered what is on the list, every request of a connection that is
  still there has been written once and answered to it once. -/
  complete : ∀ bodies : List Qmi, bodies.length = s.proxy.ctlMsg.length →
    let t := run step s (bodies.map .response)
    t.proxy.ctlMsg = [] ∧ ∀ con ∈ s.proxy.connections,
      numbersOf con.ident t.written = requestsOf con.ident s.requested ∧
        t.answered con.ident = requestsOf con.ident s.requested

theorem Routed.reachesRequester {s : System} (wf : s.WellFormed) (routed : s.Routed) :
    s.ReachesRequester where
  single := routed.single
  answers := routed.answers
  written con live := by
    have account := routed.accounted con live
    have split : requestsOf con.ident s.requested =
        numbersOf con.ident s.written ++ numbersOf con.ident s.queued.tail := by
      rw [account.requested, account.written, List.append_assoc, ← numbersOf_append, routed.single,
        queued]
      cases s.proxy.ctlMsg <;> simp
    have distinct : (requestsOf con.ident s.requested).Nodup := requestsOf_nodup routed.distinct
    rw [split] at distinct
    exact ⟨distinct.of_append_left, split⟩
  answered con live := (routed.accounted con live).written
  complete bodies enough := by
    obtain ⟨done, empty, same, alive⟩ := drained wf routed enough
    refine ⟨empty, fun con live => ?_⟩
    obtain ⟨con', there, ident⟩ := alive con live
    have account := done.accounted con' there
    have waiting : numbersOf con.ident (run step s (bodies.map .response)).queued = [] := by
      rw [queued, empty]
      rfl
    have outstanding : (run step s (bodies.map .response)).outstanding = [] := by
      rw [done.single, empty]
      rfl
    rw [ident] at account
    have all := account.requested
    rw [waiting, List.append_nil, same] at all
    rw [account.written, outstanding, all]
    simp

/-- On every schedule that does not close a connection while its request is outstanding, nor uses
a file descriptor again while messages with it are queued, the responses reach the clients that
asked. -/
theorem control_responses_routed (serverFd : Nat) (events : List Event)
    (guarded : Guarded step RoutingAllowed (System.init serverFd) events) :
    (run step (System.init serverFd) events).ReachesRequester :=
  (run_routed guarded).reachesRequester (run_wellFormed serverFd events)

/-- Two clients ask with the same transaction, and the first goes away once it has its answer. -/
theorem answered_client_leaves :
    let events : List Event := [.connect 5, .connect 6, .client 5 (getClientIdReq 1 2),
      .client 6 (getClientIdReq 1 2), .response (clientIdRsp (2, 1)), .disconnect 5,
      .response (clientIdRsp (2, 2))]
    Guarded step RoutingAllowed (System.init 3) events ∧
      (run step (System.init 3) events).ReachesRequester :=
  have guarded : Guarded step RoutingAllowed (System.init 3) _ := by decide
  ⟨guarded, control_responses_routed 3 _ guarded⟩

/-- The first client goes away without waiting: its answer goes to the second client, whose own
request is never written to the modem. -/
theorem answer_to_other_client :
    let s := run step (System.init 3) [.connect 5, .connect 6, .client 5 (getClientIdReq 1 2),
      .client 6 (getClientIdReq 1 2), .disconnect 5, .response (clientIdRsp (2, 1))]
    s.delivered = [(1, .client 0 0)] ∧ s.requested = [(0, 0), (1, 1)] ∧
      s.written = [.client 0 0] ∧ s.proxy.ctlMsg = [] ∧ ¬ s.ReachesRequester := by
  intro s
  have delivered : s.delivered = [(1, .client 0 0)] := by decide
  refine ⟨delivered, by decide, by decide, by decide, fun reaches => ?_⟩
  obtain ⟨request, same, _⟩ := reaches.answers (1, .client 0 0) (by rw [delivered]; exact .head _)
  cases same

end System
end LorawanFeeds.QmiProxy
