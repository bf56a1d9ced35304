import LorawanFeeds.Lib.Run
import LorawanFeeds.QmiProxy.System
import LorawanFeeds.QrtrProxy.Proxy

/-!
# Client ids and ports

There are 239 client ids, and many more ports than that, of which a byte marks only the first 255.
The proxy is right as long as nobody asks for a client id when all are in use; then it adds
a client without one, and takes a port for it.
-/
namespace LorawanFeeds.QrtrProxy

open Lib QmiProxy
open scoped List

/-! ### One connection among others -/

theorem updateFirst_eq {connections : List Connection} {fd : Int} {con : Connection}
    (found : connections.find? (·.clientFd = fd) = some con) :
    ∃ before after, connections = before ++ con :: after ∧
      ∀ f, updateFirst fd f connections = before ++ f con :: after := by
  induction connections with
  | nil => cases found
  | cons first rest ih =>
    by_cases own : first.clientFd = fd
    · rw [List.find?_cons_of_pos (by simpa using own)] at found
      obtain rfl := Option.some.inj found
      exact ⟨[], rest, rfl, fun f => by simp [updateFirst, own]⟩
    · rw [List.find?_cons_of_neg (by simpa using own)] at found
      obtain ⟨before, after, split, update⟩ := ih found
      exact ⟨first :: before, after, by rw [split]; rfl, fun f => by simp [updateFirst, own, update]⟩

theorem find?_updateFirst {connections : List Connection} {fd : Int} {con : Connection}
    (found : connections.find? (·.clientFd = fd) = some con) {f : Connection → Connection}
    (same : (f con).clientFd = fd) :
    (updateFirst fd f connections).find? (·.clientFd = fd) = some (f con) := by
  induction connections with
  | nil => cases found
  | cons first rest ih =>
    by_cases own : first.clientFd = fd
    · rw [List.find?_cons_of_pos (by simpa using own)] at found
      obtain rfl := Option.some.inj found
      simp [updateFirst, own, same]
    · rw [List.find?_cons_of_neg (by simpa using own)] at found
      simp [updateFirst, own, ih found]

namespace Proxy

section

variable {p : Proxy} {fd : Int} {con : Connection} (found : p.connection? fd = some con)

include found

/-- The clients of the other connections stay. -/
theorem clients_update (f : Connection → Connection) :
    ∃ others, p.clients.Perm (con.clients ++ others) ∧
      ((updateFirst fd f p.connections).flatMap Connection.clients).Perm
        ((f con).clients ++ others) := by
  obtain ⟨before, after, split, update⟩ := updateFirst_eq found
  refine ⟨before.flatMap Connection.clients ++ after.flatMap Connection.clients, ?_, ?_⟩
  · rw [clients, split, List.flatMap_append, List.flatMap_cons]
    exact List.perm_append_comm_assoc ..
  · rw [update, List.flatMap_append, List.flatMap_cons]
    exact List.perm_append_comm_assoc ..

theorem clients_add (client : Client) :
    ((updateFirst fd (fun con => { con with clients := con.clients ++ [client] })
      p.connections).flatMap Connection.clients).Perm (client :: p.clients) := by
  obtain ⟨others, before, after⟩ := clients_update found
    (fun con => { con with clients := con.clients ++ [client] })
  calc _ ~ con.clients ++ [client] ++ others := after
    _ = con.clients ++ client :: others := by simp
    _ ~ client :: (con.clients ++ others) := List.perm_middle
    _ ~ client :: p.clients := before.symm.cons client

theorem clients_erase {client : Client} (member : client ∈ con.clients) :
    p.clients.Perm (client :: (updateFirst fd (fun con =>
      { con with clients := con.clients.erase client }) p.connections).flatMap
        Connection.clients) := by
  obtain ⟨others, before, after⟩ := clients_update found
    (fun con => { con with clients := con.clients.erase client })
  calc p.clients ~ con.clients ++ others := before
    _ ~ client :: con.clients.erase client ++ others :=
      (List.perm_cons_erase member).append_right others
    _ ~ _ := after.symm.cons client

end

/-! ### The invariant -/

/-- Both tables mark exactly what the clients of all connections have, nothing is had twice, and all
numbers are positive. -/
structure Unique (p : Proxy) : Prop where
  ids : Marks p.clientBitmap (p.clients.map (·.clientId.toNat))
  ports : Marks p.portBitmap (p.clients.map Client.portId)
  idTable : p.clientBitmap.length = 0xf0
  portTable : p.portBitmap.length = 0xff0

namespace Unique

variable {p : Proxy} (unique : p.Unique)

include unique

/-- The same clients and tables, whatever else has changed. -/
theorem of_eq {p' : Proxy} (clients : p'.clients = p.clients)
    (ids : p'.clientBitmap = p.clientBitmap) (ports : p'.portBitmap = p.portBitmap) :
    p'.Unique := by
  obtain ⟨marksIds, marksPorts, idTable, portTable⟩ := unique
  rw [← clients, ← ids] at marksIds
  rw [← clients, ← ports] at marksPorts
  exact ⟨marksIds, marksPorts, ids ▸ idTable, ports ▸ portTable⟩

section

variable {fd : Int} {con : Connection} (found : p.connection? fd = some con)

include found

/-- With a client id free, a client gets one, and a port. -/
theorem alloc (qmiType : UInt8) (room : p.clients.length < 239) :
    (p.allocQrtrClientId fd qmiType).1.Unique ∧ (p.allocQrtrClientId fd qmiType).2 ≠ 0 ∧
      (p.allocQrtrClientId fd qmiType).1.clients.length = p.clients.length + 1 := by
  have ids := unique.ids
  have ports := unique.ports
  obtain ⟨id, takeId, newId, smallId, marksId⟩ := ids.alloc (by simp [unique.idTable]; omega)
    (by simp; omega)
  obtain ⟨port, takePort, newPort, smallPort, marksPort⟩ :=
    ports.alloc (by simp [unique.portTable]; omega) (by simp; omega)
  have idRange := marksId.range id (.head _)
  have idByte : id.toUInt8.toNat = id := toNat_toUInt8 idRange.2.2
  have added := clients_add found ⟨qmiType, id.toUInt8, 1, port⟩
  simp only [allocQrtrClientId, takeId, takePort]
  refine ⟨⟨?_, ?_, ?_, ?_⟩, toUInt8_ne_zero idRange.1 idRange.2.2, ?_⟩
  · refine marksId.perm ?_
    have mapped := added.map (·.clientId.toNat)
    rw [List.map_cons, idByte] at mapped
    exact mapped.symm
  · exact marksPort.perm (added.map Client.portId).symm
  · rw [List.length_set, unique.idTable]
  · rw [List.length_set, unique.portTable]
  · simpa [clients] using added.length_eq

/-- A client takes exactly its numbers with it. -/
theorem drop {client : Client} (member : client ∈ con.clients) :
    (p.dropClient fd client).Unique ∧
      (p.dropClient fd client).clientBitmap = p.clientBitmap.set client.clientId.toNat 0 ∧
      (p.dropClient fd client).portBitmap = p.portBitmap.set client.portId 0 ∧
      p.clients ~ client :: (p.dropClient fd client).clients := by
  have gone := clients_erase found member
  have id := (unique.ids.perm (gone.map (·.clientId.toNat))).free (.head _)
  have port := (unique.ports.perm (gone.map Client.portId)).free (.head _)
  refine ⟨⟨?_, ?_, ?_, ?_⟩, id.1, port.1, gone⟩
  · rw [dropClient, id.1]
    simpa [clients] using id.2
  · rw [dropClient, port.1]
    simpa [clients] using port.2
  · rw [dropClient, id.1, List.length_set, unique.idTable]
  · rw [dropClient, port.1, List.length_set, unique.portTable]

end

theorem release (fd : Int) (qmiType clientId : UInt8) :
    (p.releaseQrtrClientId fd qmiType clientId).Unique := by
  rw [releaseQrtrClientId]
  split
  · exact unique
  next client found =>
    obtain ⟨con, known, own⟩ := Option.bind_eq_some_iff.mp found
    exact (unique.drop known (List.mem_of_find?_eq_some own)).1

/-- The loop over the clients of a connection leaves none of them. -/
theorem release_all {fd : Int} (all : List Client) (found : p.connection? fd = some ⟨fd, all⟩) :
    let p' := all.foldl (fun p client => p.releaseQrtrClientId fd client.qmiType client.clientId) p
    p'.Unique ∧ p'.connection? fd = some ⟨fd, []⟩ := by
  induction all generalizing p with
  | nil => exact ⟨unique, found⟩
  | cons client rest ih =>
    -- The head is the first client with its service and client id.
    have head : p.releaseQrtrClientId fd client.qmiType client.clientId = p.dropClient fd client := by
      simp [releaseQrtrClientId, found, Connection.client?]
    rw [List.foldl_cons, head]
    refine ih (unique.drop found (.head _)).1 ?_
    have updated : (p.dropClient fd client).connection? fd =
        some ⟨fd, (client :: rest).erase client⟩ := find?_updateFirst found rfl
    rwa [List.erase_cons_head] at updated

/-- A connection without clients takes nothing with it. -/
theorem forget {fd : Int} (found : p.connection? fd = some ⟨fd, []⟩) :
    Unique { p with connections := p.connections.eraseP (·.clientFd = fd) } := by
  refine unique.of_eq ?_ rfl rfl
  obtain ⟨own, before, after, split, others⟩ := List.find?_eq_some_iff_append.mp found
  have rest : p.connections.eraseP (·.clientFd = fd) = before ++ after := by
    have none : ∀ con ∈ before, ¬ decide (con.clientFd = fd) = true := by simpa using others
    rw [split, List.eraseP_append_right _ none]
    simp
  rw [clients, clients, rest, split]
  simp

theorem cleanup (fd : Int) : (p.cleanupQrtrConnection fd).Unique := by
  rw [cleanupQrtrConnection]
  split
  · exact unique
  next con found =>
    have own : con.clientFd = fd := by simpa using List.find?_some found
    obtain ⟨rest, empty⟩ := unique.release_all con.clients (by rw [found, ← own])
    exact rest.forget empty

end Unique

/-! ### Runs -/

/-- Nobody asks for a client id of an announced service when all are in use. -/
def HasRoom (p : Proxy) : Event → Prop
  | .client fd qmi => (p.connection? fd).isSome → qmi.qmiType = qmuxTypeCtl →
      qmi.qmictlType = qmictlGetClientId → (findQrtrService p.services (qmi.byte 15)).isSome →
        p.clients.length < 239
  | _ => True

instance (p : Proxy) : ∀ e, Decidable (p.HasRoom e)
  | .client _ _ => inferInstanceAs (Decidable (_ → _ → _ → _ → _))
  | .connect _ | .disconnect _ | .server _ => inferInstanceAs (Decidable True)

/-- The lists and the tables are as they were. -/
def SameIds (p p' : Proxy) : Prop :=
  p'.connections = p.connections ∧ p'.clientBitmap = p.clientBitmap ∧ p'.portBitmap = p.portBitmap

/-- Exactly the numbers of a client have become free. -/
def Freed (p p' : Proxy) (client : Client) : Prop :=
  p'.clientBitmap = p.clientBitmap.set client.clientId.toNat 0 ∧
    p'.portBitmap = p.portBitmap.set client.portId 0 ∧ p.clients ~ client :: p'.clients

/-- What a client's message is to do: an answer of a failure leaves everything as it was, and a
release frees the numbers of the client it names. -/
structure Proper (p : Proxy) (fd : Int) (qmi : Qmi) (p' : Proxy) : Prop where
  refused : ∀ transactionId qmiType,
    .getClientIdRsp fd transactionId qmiType 0 ∈ p'.out.drop p.out.length → SameIds p p'
  released : qmi.qmiType = qmuxTypeCtl → qmi.qmictlType = qmictlReleaseClientId →
    match (p.connection? fd).bind (·.client? (requestPair qmi).1 (requestPair qmi).2) with
    | none => SameIds p p'
    | some client => Freed p p' client

section

variable {p : Proxy} (unique : p.Unique)

include unique

/-- GET_CLIENT_ID with a client id free: it is given out, or the service is not known. -/
theorem getClientId_spec {fd : Int} {con : Connection} (found : p.connection? fd = some con)
    {qmi : Qmi} (room : (findQrtrService p.services (qmi.byte 15)).isSome → p.clients.length < 239) :
    (p.getClientId fd qmi).Unique ∧ ∀ transactionId qmiType,
      .getClientIdRsp fd transactionId qmiType 0 ∈ (p.getClientId fd qmi).out.drop p.out.length →
        SameIds p (p.getClientId fd qmi) := by
  by_cases announced : (findQrtrService p.services (qmi.byte 15)).isSome
  · obtain ⟨rest, given, _⟩ := unique.alloc found (qmi.byte 15) (room announced)
    have sameOut : (p.allocQrtrClientId fd (qmi.byte 15)).1.out = p.out := rfl
    simp only [getClientId, announced, if_true]
    refine ⟨rest.of_eq rfl rfl rfl, fun transactionId qmiType answered => ?_⟩
    simp only [sameOut, List.drop_left, List.mem_singleton, Output.getClientIdRsp.injEq] at answered
    exact absurd answered.2.2.2.symm given
  · simp only [getClientId, announced]
    exact ⟨unique.of_eq rfl rfl rfl, fun _ _ _ => ⟨rfl, rfl, rfl⟩⟩

theorem releaseClientId_spec (fd : Int) (qmi : Qmi) :
    (p.releaseClientId fd qmi).Unique ∧
      (match (p.connection? fd).bind (·.client? (requestPair qmi).1 (requestPair qmi).2) with
      | none => SameIds p (p.releaseClientId fd qmi)
      | some client => Freed p (p.releaseClientId fd qmi) client) ∧
      ∀ transactionId qmiType, .getClientIdRsp fd transactionId qmiType 0 ∉
        (p.releaseClientId fd qmi).out.drop p.out.length := by
  refine ⟨(unique.release fd _ _).of_eq rfl rfl rfl, ?_⟩
  cases named : (p.connection? fd).bind (·.client? (requestPair qmi).1 (requestPair qmi).2) with
  | none =>
    have same : p.releaseQrtrClientId fd (requestPair qmi).1 (requestPair qmi).2 = p := by
      rw [releaseQrtrClientId, named]
    simp only [releaseClientId, same]
    exact ⟨⟨rfl, rfl, rfl⟩, by simp⟩
  | some client =>
    have dropped : p.releaseQrtrClientId fd (requestPair qmi).1 (requestPair qmi).2 =
        p.dropClient fd client := by
      rw [releaseQrtrClientId, named]
    obtain ⟨con, known, own⟩ := Option.bind_eq_some_iff.mp named
    simp only [releaseClientId, dropped]
    refine ⟨(unique.drop known (List.mem_of_find?_eq_some own)).2, ?_⟩
    simp [dropClient, List.append_assoc]

omit unique in
/-- A message that changes neither lists nor tables, and is not answered with a failure. -/
theorem proper_of_same {fd : Int} {qmi : Qmi} {p' : Proxy} (same : SameIds p p')
    (noRelease : qmi.qmiType = qmuxTypeCtl → qmi.qmictlType ≠ qmictlReleaseClientId) :
    p.Proper fd qmi p' :=
  ⟨fun _ _ _ => same, fun ctl release => absurd release (noRelease ctl)⟩

omit unique in
theorem sendData_same (con : Connection) (qmi : Qmi) : SameIds p (p.sendData con qmi) := by
  rw [sendData]
  split
  · split_ifs <;> exact ⟨rfl, rfl, rfl⟩
  · exact ⟨rfl, rfl, rfl⟩

theorem Unique.of_same {p' : Proxy} (same : SameIds p p') : p'.Unique := by
  obtain ⟨connections, ids, ports⟩ := same
  exact unique.of_eq (by rw [clients, clients, connections]) ids ports

theorem recvQmiFromClient_spec {fd : Int} {qmi : Qmi} (room : p.HasRoom (.client fd qmi)) :
    (p.recvQmiFromClient qmi fd).Unique ∧ p.Proper fd qmi (p.recvQmiFromClient qmi fd) := by
  have same : SameIds p p := ⟨rfl, rfl, rfl⟩
  rw [recvQmiFromClient]
  cases found : p.connection? fd with
  | none =>
    refine ⟨unique, fun _ _ _ => same, fun _ _ => ?_⟩
    rw [found]
    exact same
  | some con =>
    dsimp only
    split_ifs with ctl sync get release version
    · refine ⟨unique, proper_of_same same fun _ => ?_⟩
      rw [sync]
      decide
    · obtain ⟨rest, refused⟩ := getClientId_spec unique found
        (room (by rw [found]; rfl) ctl get)
      refine ⟨rest, refused, fun _ release => ?_⟩
      rw [get] at release
      exact absurd release (by decide)
    · obtain ⟨rest, freed, answered⟩ := releaseClientId_spec unique fd qmi
      exact ⟨rest, fun _ _ refused => absurd refused (answered _ _), fun _ _ => freed⟩
    · have versionSame : SameIds p
          { p with out := p.out ++ [.getVersionRsp fd qmi.transactionId] } := ⟨rfl, rfl, rfl⟩
      exact ⟨unique.of_same versionSame, proper_of_same versionSame fun _ => release⟩
    · exact ⟨unique, proper_of_same same fun _ => release⟩
    · have dataSame := sendData_same (p := p) con qmi
      exact ⟨unique.of_same dataSame, proper_of_same dataSame fun isCtl => absurd isCtl ctl⟩

theorem step_unique {e : Event} (room : p.HasRoom e) : (p.step e).Unique := by
  cases e with
  | connect fd => exact unique.of_eq (by simp [step, acceptQrtrConnection, clients]) rfl rfl
  | disconnect fd => exact unique.cleanup fd
  | client fd qmi => exact (recvQmiFromClient_spec unique room).1
  | server pkt => exact unique.of_eq rfl rfl rfl

end

theorem marks_empty (size : Nat) : Marks (List.replicate size 0) [] where
  nodup := List.nodup_nil
  range := by simp
  marked id _ inside := by
    rw [List.length_replicate] at inside
    simp [List.getD_eq_getElem?_getD, inside]

theorem init_unique (nodeModem : UInt32) : Unique { nodeModem } :=
  ⟨marks_empty _, marks_empty _, List.length_replicate, List.length_replicate⟩

theorem run_unique (nodeModem : UInt32) (events : List Event)
    (guarded : Guarded step HasRoom { nodeModem } events) :
    (run step { nodeModem } events).Unique :=
  guarded_invariant step HasRoom Unique (fun _ _ unique room => step_unique unique room) _
    (init_unique nodeModem) events guarded

/-- In every run in which no client id is asked for when all are in use, client ids and ports are
had once and marked, a refused request changes nothing and a release frees its numbers. -/
theorem client_ids_unique (nodeModem : UInt32) (events : List Event)
    (guarded : Guarded step HasRoom { nodeModem } events) :
    let p := run step { nodeModem } events
    p.Unique ∧ ∀ fd qmi, p.HasRoom (.client fd qmi) → p.Proper fd qmi (p.step (.client fd qmi)) := by
  intro p
  have unique : p.Unique := run_unique nodeModem events guarded
  exact ⟨unique, fun fd qmi room => (recvQmiFromClient_spec unique room).2⟩

/-! ### All client ids in use -/

/-- The modem announces its WDS service, and a client connects. -/
def connected : List Event := [.server ⟨.newServer, 3, 1, 1, 0x101, 3, 10⟩, .connect 5]

/-- The client asks for a WDS client id. -/
def getWds : Event := .client 5 (getClientIdReq 1 1)

/-- The client has been given a number of client ids. -/
structure Holding (p : Proxy) (n : Nat) : Prop where
  unique : p.Unique
  count : p.clients.length = n
  known : (p.connection? 5).isSome
  announced : (findQrtrService p.services 1).isSome

theorem step_getWds {p : Proxy} (known : (p.connection? 5).isSome)
    (announced : (findQrtrService p.services 1).isSome) :
    p.step getWds = { (p.allocQrtrClientId 5 1).1 with
      out := p.out ++ [.getClientIdRsp 5 1 1 (p.allocQrtrClientId 5 1).2] } := by
  obtain ⟨con, found⟩ := Option.isSome_iff_exists.mp known
  have ctl : (getClientIdReq 1 1).qmiType = qmuxTypeCtl := rfl
  have noSync : (getClientIdReq 1 1).qmictlType ≠ qmictlSyncReq := by decide
  have get : (getClientIdReq 1 1).qmictlType = qmictlGetClientId := by decide
  have service : (getClientIdReq 1 1).byte 15 = 1 := rfl
  simp only [step, getWds, recvQmiFromClient, found, if_pos ctl, if_neg noSync, if_pos get]
  simp only [getClientId, service, announced, if_true]
  rfl

theorem Holding.next {p : Proxy} {n : Nat} (holding : p.Holding n) (room : n < 239) :
    (p.step getWds).Holding (n + 1) := by
  obtain ⟨con, found⟩ := Option.isSome_iff_exists.mp holding.known
  have own : con.clientFd = 5 := by simpa using List.find?_some found
  obtain ⟨unique, _, count⟩ := holding.unique.alloc found 1 (by rw [holding.count]; exact room)
  rw [step_getWds holding.known holding.announced]
  refine ⟨unique.of_eq rfl rfl rfl, count.trans (by rw [holding.count]), ?_, holding.announced⟩
  have updated : (p.allocQrtrClientId 5 1).1.connection? 5 = some _ := find?_updateFirst found own
  rw [Option.isSome_iff_exists]
  exact ⟨_, updated⟩

theorem run_getWds_succ (p : Proxy) (n : Nat) :
    run step p (connected ++ List.replicate (n + 1) getWds) =
      (run step p (connected ++ List.replicate n getWds)).step getWds := by
  have snoc : List.replicate (n + 1) getWds = List.replicate n getWds ++ [getWds] :=
    List.replicate_succ'
  rw [snoc, ← List.append_assoc]
  exact List.foldl_append

theorem holding_replicate (n : Nat) (room : n ≤ 239) :
    (run step { nodeModem := 3 } (connected ++ List.replicate n getWds)).Holding n := by
  induction n with
  | zero =>
    have guarded : Guarded step HasRoom { nodeModem := 3 } connected := ⟨trivial, trivial, trivial⟩
    have unique := run_unique 3 connected guarded
    rw [List.replicate_zero, List.append_nil]
    exact ⟨unique, rfl, rfl, rfl⟩
  | succ n ih =>
    rw [run_getWds_succ]
    exact (ih (by omega)).next (by omega)

/-- One more request is refused, and adds a client with the client id zero. -/
theorem Holding.full {p : Proxy} (holding : p.Holding 239) : ¬ (p.step getWds).Unique := by
  obtain ⟨con, found⟩ := Option.isSome_iff_exists.mp holding.known
  have full : allocId p.clientBitmap = (p.clientBitmap, 0) := by
    refine holding.unique.ids.alloc_of_full ?_
    rw [holding.unique.idTable, List.length_map, holding.count]
  intro unique
  rw [step_getWds holding.known holding.announced] at unique
  have added := clients_add found
    ⟨1, (allocId p.clientBitmap).2.toUInt8, 1, (allocId p.portBitmap).2⟩
  have zero : 0 ∈ (p.allocQrtrClientId 5 1).1.clients.map (·.clientId.toNat) := by
    refine List.mem_map.mpr ⟨_, added.mem_iff.mpr (.head _), ?_⟩
    rw [full]
    rfl
  exact absurd (unique.ids.range 0 zero).1 (by decide)

/-- The 240th request finds all client ids in use. -/
theorem refused_client_added :
    ¬ (run step { nodeModem := 3 } (connected ++ List.replicate (239 + 1) getWds)).Unique := by
  rw [run_getWds_succ { nodeModem := 3 } 239]
  exact (holding_replicate 239 (Nat.le_refl _)).full

/-- Two client ids are given out, and the first is given back. -/
theorem client_ids_unique_released :
    (run step { nodeModem := 3 } (connected ++ [getWds, getWds,
      .client 5 (releaseClientIdReq (1, 1))])).Unique :=
  (client_ids_unique 3 _ (by decide +kernel)).1

end Proxy
end LorawanFeeds.QrtrProxy
