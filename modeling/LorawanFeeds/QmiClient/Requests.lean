import LorawanFeeds.QmiClient.MainLoop

/-!
# The requests of the event loop

What it means that no data call is orphaned, what the requests have to meet for it, and what
each of them does to the handles and the calls.
-/
namespace LorawanFeeds.QmiClient

open Lib

/-! ### What is to hold -/

/-- At most one data call of the family is up, and its handle is the one stored. -/
def Point.Held (p : Point) : Prop :=
  ∀ family, (p.calls family).length ≤ 1 ∧
    ∀ call ∈ p.calls family, call.handle = p.handle family

/-- No data call is orphaned, so far. -/
structure Session.NotOrphaned (s : Session) : Prop where
  setups : ∀ setup ∈ s.setups, setup.2 = 0
  points : ∀ p ∈ s.points, p.Held
  now : (⟨s.handle, s.calls⟩ : Point).Held
  stopped : s.left = true → ∀ family, ∀ call ∈ s.calls family, call.stopIssued = true

/-! ### What the requests have to meet -/

/-- A call that the modem starts is confirmed, and with a handle that is not zero. -/
def Dialled.Confirmed (d : Dialled) : Prop :=
  ∀ handle, d.started = some handle → d.reply.accepted = true ∧ handle ≠ 0

/-- An answer is taken for connected only, or else the modem says that the call is down. -/
def Queried.Tells (q : Queried) : Prop :=
  q.reply.accepted = true → q.status = .connected ∨ q.reportsDown = true

namespace Session

/-- The start event sets up a call of the family. -/
def Dials (s : Session) (d : Dialling) (family : IpFamily) : Prop :=
  ¬ (s.main.psAttachedState ≠ 1 ∧ s.main.loopbackState = 0) ∧
    s.main.setupCallAllowTime ≤ d.clock 0 ∧ s.main.enabled family = true ∧
    s.status family ≠ .connected

/-- The IPv4 call is tried once more. -/
def DialsAgain (s : Session) (d : Dialling) : Prop :=
  0 < d.setupIpv4.reply.code ∧ given s.main.user = true ∧ given s.main.password = true

/-- Every call that the start event sets up is confirmed, and its address can be read. -/
structure StartMeets (s : Session) (d : Dialling) : Prop where
  ipv4 : s.Dials d .v4 → d.setupIpv4.Confirmed ∧
    (s.DialsAgain d → d.setupIpv4Again.Confirmed) ∧
    (d.setupIpv4.started ≠ none ∨ (s.DialsAgain d ∧ d.setupIpv4Again.started ≠ none) →
      d.addressIpv4.reply.code = 0)
  ipv6 : s.Dials d .v6 → d.setupIpv6.Confirmed ∧
    (d.setupIpv6.started ≠ none → d.addressIpv6.reply.code = 0)

/-- The address that the check compares with. -/
def localAddress (s : Session) (c : Checking) : UInt32 :=
  if s.address = 0 then c.addressIpv4.address else s.address

/-- The status of the family after the query. -/
def statusAfter (s : Session) (family : IpFamily) (q : Queried) : PktData :=
  if q.reply.accepted then q.status else s.status family

/-- With a handle stored, the query of the check is answered, a missing address can be read, and
a call with another address can be stopped. -/
structure CheckMeets (s : Session) (c : Checking) : Prop where
  queryIpv4 : s.handle .v4 ≠ 0 → c.queryIpv4.reply.code = 0 ∧ c.queryIpv4.Tells
  addressIpv4 : s.handle .v4 ≠ 0 → s.statusAfter .v4 c.queryIpv4 = .connected → s.address = 0 →
    c.addressIpv4.reply.code = 0
  stopIpv4 : s.handle .v4 ≠ 0 → s.statusAfter .v4 c.queryIpv4 = .connected →
    c.checkIpv4.reply.code ≠ 0 ∨ c.checkIpv4.address ≠ s.localAddress c →
    c.stopIpv4.accepted = true
  queryIpv6 : s.handle .v6 ≠ 0 → c.queryIpv6.Tells

/-- The condition on an event. -/
def Meets (s : Session) : LoopEvent → Prop
  | .start d => s.StartMeets d
  | .check c => s.CheckMeets c
  -- The request for a handle is written; behind `deinit` it cannot be.
  | .stop q _ | .quit q =>
    (s.handle .v4 ≠ 0 → q.stopIpv4.issued = true) ∧
      (s.handle .v6 ≠ 0 → q.stopIpv6.issued = true)
  -- The last run of the loop has not left a handle behind.
  | .enter _ _ _ => ∀ family, s.handle family = 0
  | _ => True

end Session

instance (d : Dialled) : Decidable d.Confirmed :=
  @Option.decidableForallMem _ (fun handle => d.reply.accepted = true ∧ handle ≠ 0) _ d.started

instance (q : Queried) : Decidable q.Tells :=
  inferInstanceAs (Decidable (q.reply.accepted = true →
    q.status = .connected ∨ q.reportsDown = true))

namespace Session

instance (s : Session) (d : Dialling) (family : IpFamily) : Decidable (s.Dials d family) :=
  inferInstanceAs (Decidable (¬ (s.main.psAttachedState ≠ 1 ∧ s.main.loopbackState = 0) ∧
    s.main.setupCallAllowTime ≤ d.clock 0 ∧ s.main.enabled family = true ∧
    s.status family ≠ .connected))

instance (s : Session) (d : Dialling) : Decidable (s.DialsAgain d) :=
  inferInstanceAs (Decidable (0 < d.setupIpv4.reply.code ∧ given s.main.user = true ∧
    given s.main.password = true))

instance (s : Session) (d : Dialling) : Decidable (s.StartMeets d) :=
  decidable_of_iff (_ ∧ _) ⟨fun both => ⟨both.1, both.2⟩, fun meets => ⟨meets.ipv4, meets.ipv6⟩⟩

instance (s : Session) (c : Checking) : Decidable (s.CheckMeets c) :=
  decidable_of_iff (_ ∧ _ ∧ _ ∧ _)
    ⟨fun all => ⟨all.1, all.2.1, all.2.2.1, all.2.2.2⟩,
      fun meets => ⟨meets.queryIpv4, meets.addressIpv4, meets.stopIpv4, meets.queryIpv6⟩⟩

instance (s : Session) : ∀ e, Decidable (s.Meets e)
  | .start d => inferInstanceAs (Decidable (s.StartMeets d))
  | .check c => inferInstanceAs (Decidable (s.CheckMeets c))
  | .stop _ _ => inferInstanceAs (Decidable (_ ∧ _))
  | .quit _ => inferInstanceAs (Decidable (_ ∧ _))
  | .enter _ _ _ =>
    decidable_of_iff (s.handle .v4 = 0 ∧ s.handle .v6 = 0)
      ⟨fun both family => by cases family <;> simp [both], fun all => ⟨all .v4, all .v6⟩⟩
  | .voiceNetworkStateChanged _ _ | .dataCallListChanged _ | .loopbackConfigInd _ |
    .callEnds _ _ => inferInstanceAs (Decidable True)

end Session

/-! ### The fields after each change -/

namespace Session

variable (s : Session) (f g : IpFamily)

@[simp] theorem handle_setHandle (h : UInt32) :
    (s.setHandle f h).handle g = if g = f then h else s.handle g := by
  cases f <;> cases g <;> rfl

@[simp] theorem handle_setStatus (status : PktData) :
    (s.setStatus f status).handle g = s.handle g := by
  cases f <;> rfl

@[simp] theorem handle_setCalls (calls : List ModemCall) :
    (s.setCalls f calls).handle g = s.handle g := rfl

@[simp] theorem status_setHandle (h : UInt32) : (s.setHandle f h).status g = s.status g := by
  cases f <;> cases g <;> rfl

@[simp] theorem status_setStatus (status : PktData) :
    (s.setStatus f status).status g = if g = f then status else s.status g := by
  cases f <;> cases g <;> rfl

@[simp] theorem status_setCalls (calls : List ModemCall) :
    (s.setCalls f calls).status g = s.status g := rfl

@[simp] theorem calls_setHandle (h : UInt32) : (s.setHandle f h).calls = s.calls := rfl

@[simp] theorem calls_setStatus (status : PktData) : (s.setStatus f status).calls = s.calls := rfl

@[simp] theorem calls_setCalls (calls : List ModemCall) :
    (s.setCalls f calls).calls g = if g = f then calls else s.calls g := by
  simp only [setCalls, Function.update_apply]

@[simp] theorem enabled_setHandle (h : UInt32) :
    (s.setHandle f h).main.enabled = s.main.enabled := by
  funext family
  cases family <;> rfl

@[simp] theorem enabled_setStatus (status : PktData) :
    (s.setStatus f status).main.enabled = s.main.enabled := by
  funext family
  cases f <;> cases family <;> rfl

end Session

/-! ### What a step may change -/

/-- A step on one family leaves the other one as it is. -/
structure Session.Frame (f : IpFamily) (s t : Session) : Prop where
  handle : ∀ g, g ≠ f → t.handle g = s.handle g
  status : ∀ g, g ≠ f → t.status g = s.status g
  calls : ∀ g, g ≠ f → t.calls g = s.calls g
  enabled : t.main.enabled = s.main.enabled
  left : t.left = s.left
  user : t.main.user = s.main.user
  password : t.main.password = s.main.password

namespace Session

variable {s t u : Session} {f : IpFamily}

theorem Frame.refl : s.Frame f s :=
  ⟨fun _ _ => rfl, fun _ _ => rfl, fun _ _ => rfl, rfl, rfl, rfl, rfl⟩

theorem Frame.trans (first : s.Frame f t) (second : t.Frame f u) : s.Frame f u where
  handle g other := (second.handle g other).trans (first.handle g other)
  status g other := (second.status g other).trans (first.status g other)
  calls g other := (second.calls g other).trans (first.calls g other)
  enabled := second.enabled.trans first.enabled
  left := second.left.trans first.left
  user := second.user.trans first.user
  password := second.password.trans first.password

theorem frame_setHandle (h : UInt32) : s.Frame f (s.setHandle f h) where
  handle g other := by rw [handle_setHandle, if_neg other]
  status g _ := status_setHandle s f g h
  calls _ _ := rfl
  enabled := enabled_setHandle s f h
  left := rfl
  user := rfl
  password := rfl

theorem frame_setStatus (status : PktData) : s.Frame f (s.setStatus f status) where
  handle g _ := handle_setStatus s f g status
  status g other := by rw [status_setStatus, if_neg other]
  calls _ _ := rfl
  enabled := enabled_setStatus s f status
  left := rfl
  user := by cases f <;> rfl
  password := by cases f <;> rfl

theorem frame_setCalls (calls : List ModemCall) : s.Frame f (s.setCalls f calls) where
  handle _ _ := rfl
  status _ _ := rfl
  calls g other := by rw [calls_setCalls, if_neg other]
  enabled := rfl
  left := rfl
  user := rfl
  password := rfl

/-- The family has no call, or the one whose handle is stored. -/
def Up (s : Session) (f : IpFamily) : Prop :=
  s.calls f = [] ∨ (s.handle f ≠ 0 ∧ ∃ issued, s.calls f = [⟨s.handle f, issued⟩])

/-- What every request keeps. -/
structure Tidy (s : Session) : Prop where
  setups : ∀ setup ∈ s.setups, setup.2 = 0
  points : ∀ p ∈ s.points, p.Held
  up : ∀ f, s.Up f
  off : ∀ f, s.main.enabled f = false → s.handle f = 0

theorem Up.held (up : ∀ f, s.Up f) : (⟨s.handle, s.calls⟩ : Point).Held := by
  intro family
  rcases up family with none | ⟨_, issued, one⟩
  · simp [none]
  · simp [one]

theorem Tidy.no_calls (tidy : s.Tidy) (idle : s.handle f = 0) : s.calls f = [] := by
  rcases tidy.up f with none | ⟨busy, _⟩
  · exact none
  · exact absurd idle busy

/-- A change within one family has to be looked at there only. -/
theorem Tidy.change (tidy : s.Tidy) (frame : s.Frame f t)
    (setups : ∀ setup ∈ t.setups, setup.2 = 0) (points : ∀ p ∈ t.points, p.Held) (up : t.Up f)
    (off : s.main.enabled f = false → t.handle f = 0) : t.Tidy where
  setups := setups
  points := points
  up g := by
    by_cases same : g = f
    · exact same ▸ up
    · simpa only [Up, frame.handle g same, frame.calls g same] using tidy.up g
  off g disabled := by
    rw [frame.enabled] at disabled
    by_cases same : g = f
    · subst same
      exact off disabled
    · rw [frame.handle g same]
      exact tidy.off g disabled

theorem Tidy.mark (tidy : s.Tidy) : s.mark.Tidy where
  setups := tidy.setups
  points p member := by
    rcases List.mem_append.mp member with old | new
    · exact tidy.points p old
    · rw [List.mem_singleton.mp new]
      exact Up.held tidy.up
  up := tidy.up
  off := tidy.off

/-- The end of every call of the family has been asked for. -/
def StopIssued (s : Session) (f : IpFamily) : Prop := ∀ call ∈ s.calls f, call.stopIssued = true

theorem Tidy.stopIssued_calls (tidy : s.Tidy) (f : IpFamily) :
    (s.stopIssued f).calls f = [] ∨ (s.stopIssued f).calls f = [⟨s.handle f, true⟩] := by
  rcases tidy.up f with none | ⟨_, issued, one⟩
  · left
    simp [stopIssued, none]
  · right
    simp [stopIssued, one]

theorem frame_mark : s.Frame f s.mark :=
  ⟨fun _ _ => rfl, fun _ _ => rfl, fun _ _ => rfl, rfl, rfl, rfl, rfl⟩

/-- Only the address and the link have changed. -/
def Moved (s t : Session) : Prop := t = { s with address := t.address, sLink := t.sLink }

theorem Moved.trans (first : s.Moved t) (second : t.Moved u) : s.Moved u := by
  rw [Moved, second, first]

theorem Moved.calls (moved : s.Moved t) : t.calls = s.calls := by
  rw [moved]

theorem Moved.left (moved : s.Moved t) : t.left = s.left := by
  rw [moved]

theorem Moved.handle (moved : s.Moved t) : t.handle f = s.handle f := by
  rw [moved]
  rfl

theorem Moved.status (moved : s.Moved t) : t.status f = s.status f := by
  rw [moved]
  rfl

theorem Moved.frame (moved : s.Moved t) : s.Frame f t := by
  rw [moved]
  exact ⟨fun _ _ => rfl, fun _ _ => rfl, fun _ _ => rfl, rfl, rfl, rfl, rfl⟩

theorem Tidy.moved (tidy : s.Tidy) (moved : s.Moved t) : t.Tidy := by
  rw [moved]
  exact ⟨tidy.setups, tidy.points, tidy.up, tidy.off⟩

theorem frame_auth (auth : Int) : s.Frame f { s with main := { s.main with auth } } where
  handle g _ := by cases g <;> rfl
  status g _ := by cases g <;> rfl
  calls _ _ := rfl
  enabled := funext fun g => by cases g <;> rfl
  left := rfl
  user := rfl
  password := rfl

theorem Tidy.auth (tidy : s.Tidy) (auth : Int) :
    { s with main := { s.main with auth } }.Tidy :=
  tidy.change (frame_auth auth) tidy.setups tidy.points (tidy.up .v4) (tidy.off .v4)

theorem Tidy.setStatus (tidy : s.Tidy) (f : IpFamily) (status : PktData) :
    (s.setStatus f status).Tidy := by
  apply tidy.change (frame_setStatus status) tidy.setups tidy.points
  · simpa only [Up, handle_setStatus, calls_setStatus] using tidy.up f
  · intro disabled
    rw [handle_setStatus]
    exact tidy.off f disabled

end Session

/-! ### One request -/

namespace Reply

theorem checked_ok {r : Reply} {m : Qmi} (ok : r.checked = .ok m) :
    r.response = some m ∧ m.Accepts := by
  unfold checked qmiRspCheckAndReturn at ok
  split at ok
  next => cases ok
  next response given =>
    split_ifs at ok with _ refused
    cases ok
    push Not at refused
    exact ⟨given, refused⟩

theorem accepted_of_ok {r : Reply} {m : Qmi} (ok : r.checked = .ok m) : r.accepted = true := by
  rw [accepted, ok]

theorem code_of_ok {r : Reply} {m : Qmi} (ok : r.checked = .ok m) : r.code = 0 := by
  rw [code, ok]

theorem code_of_error {r : Reply} {err : Int} (error : r.checked = .error err) : r.code = err := by
  rw [code, error]

theorem not_accepted_of_error {r : Reply} {err : Int} (error : r.checked = .error err) :
    r.accepted = false := by
  rw [accepted, error]

end Reply

theorem Dialled.started_of_ok {d : Dialled} {m : Qmi} (ok : d.reply.checked = .ok m) :
    d.started = some m.handle := by
  obtain ⟨given, accepts⟩ := Reply.checked_ok ok
  simp only [started, given, accepts, if_true]

theorem Dialled.Confirmed.not_started {d : Dialled} (confirmed : d.Confirmed) {err : Int}
    (error : d.reply.checked = .error err) : d.started = none := by
  cases started : d.started with
  | none => rfl
  | some handle =>
    have accepted := (confirmed handle started).1
    rw [Reply.not_accepted_of_error error] at accepted
    cases accepted

theorem Queried.status_of_down {q : Queried} (down : q.reportsDown = true) :
    q.status = .disconnected := by
  unfold reportsDown at down
  cases tlv : q.pktSrvc with
  | none => simp [tlv] at down
  | some tlv' =>
    simp only [tlv, Option.any_some, decide_eq_true_eq] at down
    simp only [status, tlv, down, ite_self]

namespace Loop

open Proc

/-- The loop has no faults, so a procedure has one way to end. -/
abbrev Does {α : Type} (x : Loop α) (s : Session) (post : α → Session → Prop) : Prop :=
  Ends x s post fun _ _ => False

theorem Does.imp {α : Type} {x : Loop α} {s : Session} {post post' : α → Session → Prop}
    (does : Does x s post) (stronger : ∀ a t, post a t → post' a t) : Does x s post' :=
  Ends.imp does stronger fun _ _ never => never

variable {s : Session} {f : IpFamily}

/-- The setup of a call: the handle is that of the call, if one is started. -/
theorem requestSetupDataCall_does (tidy : s.Tidy) (idle : s.handle f = 0)
    (enabled : s.main.enabled f = true) {d : Dialled} (confirmed : d.Confirmed) :
    Does (requestSetupDataCall f d) s fun ret t =>
      t.Tidy ∧ s.Frame f t ∧ t.status f = s.status f ∧ ret = d.reply.code ∧
        (t.handle f ≠ 0 → d.started ≠ none ∧ ret = 0) := by
  have recorded : ∀ setup ∈ s.setups ++ [(f, s.handle f)], setup.2 = 0 := by
    intro setup member
    rcases List.mem_append.mp member with old | new
    · exact tidy.setups setup old
    · rw [List.mem_singleton.mp new]
      exact idle
  unfold requestSetupDataCall
  apply ends_bind
  apply ends_modify
  apply ends_bind
  apply ends_modify
  set issued : Session := { s with setups := s.setups ++ [(f, s.handle f)] }
  have issuedFrame : s.Frame f issued :=
    ⟨fun _ _ => rfl, fun _ _ => rfl, fun _ _ => rfl, rfl, rfl, rfl, rfl⟩
  have issuedTidy : issued.Tidy := tidy.change issuedFrame recorded tidy.points (tidy.up f)
    fun disabled => tidy.off f disabled
  cases outcome : d.reply.checked with
  | error err =>
    have same : issued.dialled f d = issued := by
      rw [Session.dialled, confirmed.not_started outcome]
    apply ends_bind
    apply ends_modify
    apply ends_pure
    rw [same]
    refine ⟨issuedTidy.mark, issuedFrame.trans Session.frame_mark, rfl,
      (Reply.code_of_error outcome).symm, ?_⟩
    intro busy
    exact absurd idle busy
  | ok response =>
    have started := Dialled.started_of_ok outcome
    have nonzero := (confirmed _ started).2
    have frame : s.Frame f ((issued.dialled f d).setHandle f response.handle) := by
      rw [Session.dialled, started]
      exact issuedFrame.trans
        ((Session.frame_setCalls _).trans (Session.frame_setHandle response.handle))
    apply ends_bind
    apply ends_modify
    apply ends_pure
    refine ⟨(tidy.change frame ?_ ?_ ?_ ?_).mark, frame.trans Session.frame_mark, ?_,
      (Reply.code_of_ok outcome).symm, ?_⟩
    · rw [Session.dialled, started]
      exact recorded
    · rw [Session.dialled, started]
      exact tidy.points
    · right
      rw [Session.dialled, started]
      -- The family had no call before, so the new one is alone.
      have none := issuedTidy.no_calls (f := f) idle
      refine ⟨by simpa using nonzero, false, ?_⟩
      simp [none]
    · intro disabled
      rw [enabled] at disabled
      cases disabled
    · rw [Session.dialled, started]
      show (Session.setHandle _ f response.handle).status f = s.status f
      rw [Session.status_setHandle]
      rfl
    · intro _
      rw [started]
      exact ⟨Option.some_ne_none _, rfl⟩

/-- The address request changes the address only. -/
theorem requestGetIPAddress_does (s : Session) (f : IpFamily) (a : Addressed) :
    Does (requestGetIPAddress f a) s fun ret t =>
      s.Moved t ∧
        (s.handle f ≠ 0 → ret = a.reply.code ∧ (f = .v4 → t.address = a.address)) ∧
        (s.handle f = 0 → ret = 0 ∧ (f = .v4 → t.address = 0)) := by
  unfold requestGetIPAddress
  apply ends_bind
  -- The address is cleared first, if it is that of the family.
  have cleared : Does (Proc.when (f = .v4) (Proc.modify fun s => { s with address := 0 })) s
      fun _ t => s.Moved t ∧ (f = .v4 → t.address = 0) := by
    apply ends_when
    · intro _
      exact ends_modify ⟨rfl, fun _ => rfl⟩
    · intro other
      exact ⟨rfl, fun v4 => absurd v4 other⟩
  refine cleared.imp ?_
  rintro _ t ⟨moved, zero⟩
  apply ends_bind
  apply ends_get
  split
  next idle =>
    rw [moved.handle] at idle
    exact ends_pure ⟨moved, fun busy => absurd idle busy, fun _ => ⟨rfl, zero⟩⟩
  next busy =>
    rw [moved.handle] at busy
    cases outcome : a.reply.checked with
    | error err =>
      refine ends_pure ⟨moved, fun _ => ⟨(Reply.code_of_error outcome).symm, ?_⟩,
        fun idle => absurd idle busy⟩
      intro v4
      rw [zero v4, Addressed.address, Reply.not_accepted_of_error outcome]
      rfl
    | ok response =>
      apply ends_bind
      apply ends_modify
      refine ends_pure ⟨?_, fun _ => ⟨(Reply.code_of_ok outcome).symm, ?_⟩,
        fun idle => absurd idle busy⟩
      · rw [Session.Moved, moved]
      · intro v4
        rw [Addressed.address, Reply.accepted_of_ok outcome]
        show a.ipv4Address.getD t.address = _
        rw [zero v4]
        rfl

/-- The query: while a handle is stored, an answer that is taken for disconnected is the truth. -/
theorem requestQueryDataCall_does (tidy : s.Tidy) {q : Queried}
    (tells : s.handle f ≠ 0 → q.Tells) :
    Does (requestQueryDataCall f q) s fun ret t =>
      t.Tidy ∧ s.Frame f t ∧ t.address = s.address ∧ ret = q.reply.code ∧
        t.status f = s.statusAfter f q ∧
        (t.handle f ≠ 0 → s.handle f ≠ 0 ∧ (s.status f = .connected → t.status f = .connected)) := by
  unfold requestQueryDataCall
  cases outcome : q.reply.checked with
  | error err =>
    have refused := Reply.not_accepted_of_error outcome
    refine ends_pure ⟨tidy, Session.Frame.refl, rfl, (Reply.code_of_error outcome).symm, ?_, ?_⟩
    · simp [Session.statusAfter, refused]
    · intro busy
      exact ⟨busy, id⟩
  | ok response =>
    have accepted := Reply.accepted_of_ok outcome
    have code := (Reply.code_of_ok outcome).symm
    by_cases down : q.reportsDown = true
    · have disconnected := Queried.status_of_down down
      simp only [Proc.when, down, disconnected, if_true]
      apply ends_bind
      apply ends_modify
      apply ends_bind
      apply ends_modify
      apply ends_bind
      apply ends_modify
      apply ends_bind
      apply ends_modify
      have frame : s.Frame f (((s.setCalls f []).setStatus f .disconnected).setHandle f 0) :=
        (Session.frame_setCalls []).trans
          ((Session.frame_setStatus .disconnected).trans (Session.frame_setHandle 0))
      refine ends_pure ⟨(tidy.change frame tidy.setups tidy.points (.inl ?_) ?_).mark,
        frame.trans Session.frame_mark, rfl, code, ?_, ?_⟩
      · simp
      · simp
      · rw [Session.statusAfter, accepted, disconnected]
        show (Session.setHandle _ f 0).status f = _
        simp
      · intro busy
        exact absurd (Session.handle_setHandle _ f f 0 |>.trans (if_pos rfl)) busy
    · -- Without a word of the modem the handle goes only if there is none.
      have truth : s.handle f ≠ 0 → q.status = .connected := fun busy =>
        (tells busy accepted).resolve_right down
      have idle : q.status = .disconnected → s.handle f = 0 := by
        intro disconnected
        by_contra busy
        rw [truth busy] at disconnected
        cases disconnected
      have settled : ∀ t : Session, s.Frame f t → t.setups = s.setups → t.points = s.points →
          t.calls f = s.calls f → t.handle f = s.handle f → t.address = s.address →
          t.status f = q.status →
          t.mark.Tidy ∧ s.Frame f t.mark ∧ t.mark.address = s.address ∧ 0 = q.reply.code ∧
            t.mark.status f = s.statusAfter f q ∧
            (t.mark.handle f ≠ 0 →
              s.handle f ≠ 0 ∧ (s.status f = .connected → t.mark.status f = .connected)) := by
        intro t frame setups points calls handle address status
        refine ⟨(tidy.change frame (setups ▸ tidy.setups) (points ▸ tidy.points) ?_ ?_).mark,
          frame.trans Session.frame_mark, address, code, ?_, ?_⟩
        · simpa only [Session.Up, calls, handle] using tidy.up f
        · intro disabled
          rw [handle]
          exact tidy.off f disabled
        · rw [Session.statusAfter, accepted]
          exact status
        · intro busy
          have stored : s.handle f ≠ 0 := fun zero => busy (handle.trans zero)
          exact ⟨stored, fun _ => status.trans (truth stored)⟩
      apply ends_bind
      simp only [Proc.when, down]
      apply ends_pure
      apply ends_bind
      apply ends_modify
      apply ends_bind
      apply ends_when
      · intro disconnected
        apply ends_modify
        apply ends_bind
        apply ends_modify
        refine ends_pure (settled _
          ((Session.frame_setStatus q.status).trans (Session.frame_setHandle 0))
          rfl rfl rfl ?_ rfl ?_)
        · simp [idle disconnected]
        · simp
      · intro _
        apply ends_bind
        apply ends_modify
        refine ends_pure (settled _ (Session.frame_setStatus q.status) rfl rfl rfl ?_ rfl ?_)
        · simp
        · simp

/-- What a request for the end of the call does: a STOP that is accepted frees the handle, and any
STOP that is written is on record at the call. -/
structure Stops (s : Session) (f : IpFamily) (x : Stopped) (t : Session) : Prop where
  tidy : t.Tidy
  frame : s.Frame f t
  status : t.status f = s.status f
  idle : s.handle f = 0 → t.handle f = 0
  freed : x.accepted = true → t.handle f = 0
  issued : s.handle f = 0 ∨ x.issued = true ∨ s.StopIssued f → t.StopIssued f

/-- Without a request at the modem nothing has changed. -/
theorem stops_unwritten (tidy : s.Tidy) (busy : s.handle f ≠ 0) {x : Stopped}
    (refused : x.accepted = false) (unwritten : x.issued = false) : Stops s f x s := by
  refine ⟨tidy, Session.Frame.refl, rfl, id, ?_, ?_⟩
  · intro accepted
    rw [refused] at accepted
    cases accepted
  · rintro (idle | written | issued)
    · exact absurd idle busy
    · rw [unwritten] at written
      cases written
    · exact issued

/-- A STOP that the modem has refused is on record at the call, which stays. -/
theorem stops_refused (tidy : s.Tidy) (busy : s.handle f ≠ 0) {reply : Reply} {err : Int}
    (outcome : reply.checked = .error err) : Stops s f (.sent reply) (s.stopIssued f).mark := by
  have frame : s.Frame f (s.stopIssued f) := Session.frame_setCalls _
  have calls := tidy.stopIssued_calls f
  refine ⟨(tidy.change frame tidy.setups tidy.points ?_ (tidy.off f)).mark,
    frame.trans Session.frame_mark, rfl, id, ?_, ?_⟩
  · -- The family has the call of the stored handle, or none.
    rcases calls with none | one
    · exact .inl none
    · exact .inr ⟨busy, true, one⟩
  · intro accepted
    rw [Stopped.accepted, Reply.not_accepted_of_error outcome] at accepted
    cases accepted
  · intro _ call up
    rcases calls with none | one
    · rw [Session.mark, none] at up
      cases up
    · rw [Session.mark, one] at up
      rw [List.mem_singleton.mp up]

/-- A STOP that the modem has accepted ends the call, and the handle goes. -/
theorem stops_accepted (tidy : s.Tidy) (busy : s.handle f ≠ 0) (reply : Reply) :
    Stops s f (.sent reply)
      (((s.stopIssued f).ended f ((s.stopIssued f).handle f)).setHandle f 0).mark := by
  have same : (s.stopIssued f).handle f = s.handle f := rfl
  have down : ((s.stopIssued f).ended f ((s.stopIssued f).handle f)).calls f = [] := by
    rcases tidy.stopIssued_calls f with none | one
    · simp [Session.ended, none]
    · simp [Session.ended, one, same]
  have freed : (((s.stopIssued f).ended f ((s.stopIssued f).handle f)).setHandle f 0).handle f =
      0 := by
    rw [Session.handle_setHandle, if_pos rfl]
  have frame : s.Frame f (((s.stopIssued f).ended f ((s.stopIssued f).handle f)).setHandle f 0) :=
    (Session.frame_setCalls _).trans
      ((Session.frame_setCalls _).trans (Session.frame_setHandle 0))
  refine ⟨(tidy.change frame tidy.setups tidy.points (.inl down) fun _ => freed).mark,
    frame.trans Session.frame_mark, ?_, fun idle => absurd idle busy, fun _ => freed, ?_⟩
  · show (Session.setHandle _ f 0).status f = s.status f
    rw [Session.status_setHandle]
    rfl
  · intro _ call up
    rw [Session.mark, Session.calls_setHandle, down] at up
    cases up

theorem requestDeactivateDefaultPDP_does (tidy : s.Tidy) (x : Stopped) :
    Does (requestDeactivateDefaultPDP f x) s fun _ t => Stops s f x t := by
  unfold requestDeactivateDefaultPDP
  apply ends_bind
  apply ends_get
  split
  next idle =>
    refine ends_pure ⟨tidy, Session.Frame.refl, rfl, fun _ => idle, fun _ => idle, ?_⟩
    intro _ call up
    rw [tidy.no_calls idle] at up
    cases up
  next busy =>
    cases x with
    | uncomposed => exact ends_pure (stops_unwritten tidy busy rfl rfl)
    | unsent err => exact ends_pure (stops_unwritten tidy busy rfl rfl)
    | sent reply =>
      apply ends_bind
      apply ends_modify
      cases outcome : reply.checked with
      | error err =>
        apply ends_bind
        apply ends_modify
        exact ends_pure (stops_refused tidy busy outcome)
      | ok response =>
        apply ends_bind
        apply ends_modify
        exact ends_pure (stops_accepted tidy busy reply)

end Loop

end LorawanFeeds.QmiClient
