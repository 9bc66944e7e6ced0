import NxccBridge.Core.Openings

/-!
# The registry of connected peers

`PeerRegistry` of `node/daemon/src/http_server.rs` and the connection events of
`node/daemon/src/network.rs`.  The registry keeps a set of addresses for each
peer, so that two connections with one address are one entry, which goes with
the first of them that is closed.
-/

namespace NxccBridge.Peers

open Function
open NxccBridge.Openings
open NxccBridge.Runs

/-- The connected peers and the set of multiaddresses of each, which is never
empty. -/
structure PeerRegistry where
  connectedPeers : String → Option (Finset String)
  nonempty : ∀ peerId addrs, connectedPeers peerId = some addrs →
    addrs.Nonempty

namespace PeerRegistry

def new : PeerRegistry where
  connectedPeers := fun _ => none
  nonempty := fun _ _ hsome => absurd hsome (by simp)

/-- The registry with this set for the peer. -/
def insertAddrs (self : PeerRegistry) (peerId : String) (addrs : Finset String)
    (hnonempty : addrs.Nonempty) : PeerRegistry where
  connectedPeers := update self.connectedPeers peerId (some addrs)
  nonempty := by
    intro other found hsome
    rw [update_apply] at hsome
    split_ifs at hsome
    · exact Option.some.inj hsome ▸ hnonempty
    · exact self.nonempty other found hsome

/-- Add a connected peer with its multiaddr. -/
def addPeer (self : PeerRegistry) (peerId multiaddr : String) : PeerRegistry :=
  self.insertAddrs peerId
    (insert multiaddr ((self.connectedPeers peerId).getD ∅))
    (Finset.insert_nonempty _ _)

/-- Remove all addresses for a peer. -/
def removePeer (self : PeerRegistry) (peerId : String) : PeerRegistry where
  connectedPeers := update self.connectedPeers peerId none
  nonempty := by
    intro other found hsome
    rw [update_apply] at hsome
    split_ifs at hsome
    exact self.nonempty other found hsome

/-- Remove a specific multiaddr for a peer. -/
def removePeerAddr (self : PeerRegistry) (peerId multiaddr : String) :
    PeerRegistry :=
  match self.connectedPeers peerId with
  | some addrs =>
      if hempty : addrs.erase multiaddr = ∅ then self.removePeer peerId
      else self.insertAddrs peerId (addrs.erase multiaddr)
        (Finset.nonempty_iff_ne_empty.mpr hempty)
  | none => self

/-- Get a map of all connected peers and their multiaddrs. -/
def getConnectedPeers (self : PeerRegistry) : String → Option (Finset String) :=
  self.connectedPeers

/-- The peer is listed with the address. -/
def Lists (self : PeerRegistry) (peerId multiaddr : String) : Prop :=
  ∃ addrs, self.getConnectedPeers peerId = some addrs ∧ multiaddr ∈ addrs

theorem lists_iff {self : PeerRegistry} {peerId multiaddr : String} :
    self.Lists peerId multiaddr ↔
      multiaddr ∈ (self.connectedPeers peerId).getD ∅ := by
  rw [Lists, getConnectedPeers]
  cases self.connectedPeers peerId <;> simp

/-- A listed peer has an address. -/
theorem isSome_iff_lists {self : PeerRegistry} {peerId : String} :
    (self.getConnectedPeers peerId).isSome = true ↔
      ∃ multiaddr, self.Lists peerId multiaddr := by
  constructor
  · intro hsome
    obtain ⟨addrs, haddrs⟩ := Option.isSome_iff_exists.mp hsome
    obtain ⟨multiaddr, hmem⟩ := self.nonempty peerId addrs haddrs
    exact ⟨multiaddr, addrs, haddrs, hmem⟩
  · rintro ⟨multiaddr, addrs, haddrs, -⟩
    rw [haddrs]
    rfl

theorem lists_addPeer {self : PeerRegistry}
    {peerId multiaddr other address : String} :
    (self.addPeer peerId multiaddr).Lists other address ↔
      other = peerId ∧ address = multiaddr ∨ self.Lists other address := by
  rw [lists_iff, lists_iff, addPeer, insertAddrs]
  by_cases hother : other = peerId
  · subst hother
    simp
  · simp [hother]

/-- The set of the peer loses the address, whether or not it is left empty. -/
theorem getD_removePeerAddr (self : PeerRegistry) (peerId multiaddr : String) :
    ((self.removePeerAddr peerId multiaddr).connectedPeers peerId).getD ∅ =
      ((self.connectedPeers peerId).getD ∅).erase multiaddr := by
  rw [removePeerAddr]
  cases haddrs : self.connectedPeers peerId with
  | none => simp [haddrs]
  | some addrs =>
      dsimp only
      split_ifs with hempty
      · simp [removePeer, hempty]
      · simp [insertAddrs]

theorem removePeerAddr_of_ne (self : PeerRegistry)
    {peerId other : String} (multiaddr : String) (hne : other ≠ peerId) :
    (self.removePeerAddr peerId multiaddr).connectedPeers other =
      self.connectedPeers other := by
  rw [removePeerAddr]
  split
  · split_ifs <;> exact update_of_ne hne _ _
  · rfl

theorem lists_removePeerAddr {self : PeerRegistry}
    {peerId multiaddr other address : String} :
    (self.removePeerAddr peerId multiaddr).Lists other address ↔
      ¬ (other = peerId ∧ address = multiaddr) ∧
        self.Lists other address := by
  rw [lists_iff, lists_iff]
  by_cases hother : other = peerId
  · subst hother
    rw [getD_removePeerAddr]
    simp
  · rw [removePeerAddr_of_ne self multiaddr hother]
    simp [hother]

end PeerRegistry

/-! ## Connection events -/

/-- A connection, with the remote address of its endpoint and the peer as they
are displayed. -/
structure Connection where
  id : ℕ
  peerId : String
  remoteAddress : String
  deriving DecidableEq

def Connection.multiaddr (connection : Connection) : String :=
  connection.remoteAddress ++ "/p2p/" ++ connection.peerId

/-- The events of the swarm that `handle_swarm_event` tells apart here.  An
establishment comes with what `kad.bootstrap` would answer. -/
inductive SwarmEvent
  | connectionEstablished (connection : Connection)
      (bootstrap : Except String Unit)
  | connectionClosed (connection : Connection)
  | other

structure NetworkState where
  peerRegistry : PeerRegistry
  didBootstrapOnce : Bool

def NetworkState.new : NetworkState where
  peerRegistry := .new
  didBootstrapOnce := false

def handleSwarmEvent (state : NetworkState) : SwarmEvent → NetworkState
  | .connectionEstablished connection bootstrap =>
      { peerRegistry :=
          state.peerRegistry.addPeer connection.peerId connection.multiaddr
        didBootstrapOnce := state.didBootstrapOnce || bootstrap.toBool }
  | .connectionClosed connection =>
      { state with
        peerRegistry := state.peerRegistry.removePeerAddr connection.peerId
          connection.multiaddr }
  | .other => state

/-- What the event says about connections. -/
def SwarmEvent.opening : SwarmEvent → Option (Event Connection)
  | .connectionEstablished connection _ => some (.opened connection)
  | .connectionClosed connection => some (.closed connection)
  | .other => none

abbrev after (events : List SwarmEvent) : NetworkState :=
  run handleSwarmEvent .new events

def openings (events : List SwarmEvent) : List (Event Connection) :=
  events.filterMap SwarmEvent.opening

def openConnections (events : List SwarmEvent) : List Connection :=
  stillOpen (openings events)

/-- What one entry of the registry stands for. -/
def entry (connection : Connection) : String × String :=
  (connection.peerId, connection.multiaddr)

/-- The registry lists what was established last. -/
theorem lists_after_iff (events : List SwarmEvent) (peerId address : String) :
    (after events).peerRegistry.Lists peerId address ↔
      (peerId, address) ∈ openedLast entry (openings events) := by
  induction events using List.reverseRecOn with
  | nil =>
      simp [PeerRegistry.lists_iff, NetworkState.new, PeerRegistry.new,
        openings, openedLast]
  | append_singleton events last ih =>
      rw [openings] at ih
      rw [after, run_concat, openings, List.filterMap_append]
      cases last with
      | connectionEstablished connection bootstrap =>
          rw [handleSwarmEvent, PeerRegistry.lists_addPeer, ih]
          simp [SwarmEvent.opening, keyStep, entry]
      | connectionClosed connection =>
          rw [handleSwarmEvent, PeerRegistry.lists_removePeerAddr, ih]
          simp [SwarmEvent.opening, keyStep, entry]
      | other =>
          rw [handleSwarmEvent, ih, List.filterMap_cons_none rfl,
            List.filterMap_nil, List.append_nil]

/-- A peer is listed exactly while it has an open connection, and an address of
it exactly while an open connection uses it. -/
structure TracksConnections (events : List SwarmEvent) : Prop where
  peers : ∀ peerId,
    ((after events).peerRegistry.getConnectedPeers peerId).isSome = true ↔
      ∃ connection ∈ openConnections events, connection.peerId = peerId
  addresses : ∀ peerId address,
    (after events).peerRegistry.Lists peerId address ↔
      ∃ connection ∈ openConnections events,
        connection.peerId = peerId ∧ connection.multiaddr = address

/-- Of the events about connections to the same peer with the same remote
address the last is an establishment. -/
def LastEstablished (events : List SwarmEvent) (connection : Connection) :
    Prop :=
  ∃ before newest bootstrap later,
    events = before ++ .connectionEstablished newest bootstrap :: later ∧
    (newest.peerId = connection.peerId ∧
      newest.remoteAddress = connection.remoteAddress) ∧
    ∀ other, .connectionClosed other ∈ later →
      ¬ (other.peerId = connection.peerId ∧
        other.remoteAddress = connection.remoteAddress)

theorem entry_eq_iff {left right : Connection} :
    entry left = entry right ↔
      left.peerId = right.peerId ∧ left.remoteAddress = right.remoteAddress := by
  rw [entry, entry, Prod.mk.injEq]
  refine and_congr_right fun hpeer => ?_
  rw [Connection.multiaddr, Connection.multiaddr, hpeer, ← String.toList_inj,
    ← String.toList_inj]
  simp

theorem opening_eq_opened_iff {event : SwarmEvent} {connection : Connection} :
    event.opening = some (.opened connection) ↔
      ∃ bootstrap, event = .connectionEstablished connection bootstrap := by
  cases event <;> simp [SwarmEvent.opening]

theorem closed_mem_openings_iff {events : List SwarmEvent}
    {connection : Connection} :
    .closed connection ∈ openings events ↔
      .connectionClosed connection ∈ events := by
  rw [openings, List.mem_filterMap]
  constructor
  · rintro ⟨event, hmem, hevent⟩
    cases event with
    | connectionEstablished other bootstrap => cases hevent
    | connectionClosed other =>
        cases hevent
        exact hmem
    | other => cases hevent
  · intro hmem
    exact ⟨_, hmem, rfl⟩

theorem lastEstablished_iff {events : List SwarmEvent}
    {connection : Connection} :
    entry connection ∈ openedLast entry (openings events) ↔
      LastEstablished events connection := by
  rw [mem_openedLast_iff]
  constructor
  · rintro ⟨before, newest, later, heq, hnewest, hlater⟩
    obtain ⟨first, rest, rfl, rfl, hrest⟩ := List.filterMap_eq_append_iff.mp heq
    obtain ⟨skipped, event, after, rfl, hskipped, hevent, rfl⟩ :=
      List.filterMap_eq_cons_iff.mp hrest
    obtain ⟨bootstrap, rfl⟩ := opening_eq_opened_iff.mp hevent
    refine ⟨first ++ skipped, newest, bootstrap, after, by simp,
      entry_eq_iff.mp hnewest, ?_⟩
    intro other hother hsame
    exact hlater other (closed_mem_openings_iff.mpr hother)
      (entry_eq_iff.mpr hsame)
  · rintro ⟨before, newest, bootstrap, later, rfl, hnewest, hlater⟩
    refine ⟨openings before, newest, openings later, ?_,
      entry_eq_iff.mpr hnewest, ?_⟩
    · rw [openings, List.filterMap_append]
      rfl
    · intro other hother hsame
      exact hlater other (closed_mem_openings_iff.mp hother)
        (entry_eq_iff.mp hsame)

/-- After every sequence of events the registry tracks the connections exactly if
for each open connection the last event with its peer and address is an
establishment. -/
theorem peers_tracked_iff (events : List SwarmEvent) :
    TracksConnections events ↔
      ∀ connection ∈ openConnections events,
        LastEstablished events connection := by
  have hlisted : (∀ connection ∈ openConnections events,
      LastEstablished events connection) ↔
        ∀ sought, sought ∈ openedLast entry (openings events) ↔
          ∃ connection ∈ openConnections events, entry connection = sought := by
    rw [openConnections, openedLast_iff_open]
    exact forall₂_congr fun connection _ => lastEstablished_iff.symm
  rw [hlisted]
  constructor
  · intro htracks sought
    obtain ⟨peerId, address⟩ := sought
    rw [← lists_after_iff, htracks.addresses]
    simp only [entry, Prod.mk.injEq]
  · intro hall
    have haddresses : ∀ peerId address,
        (after events).peerRegistry.Lists peerId address ↔
          ∃ connection ∈ openConnections events,
            connection.peerId = peerId ∧ connection.multiaddr = address := by
      intro peerId address
      rw [lists_after_iff, hall]
      simp only [entry, Prod.mk.injEq]
    refine ⟨fun peerId => ?_, haddresses⟩
    rw [PeerRegistry.isSome_iff_lists]
    simp only [haddresses]
    constructor
    · rintro ⟨address, connection, hopen, hpeer, -⟩
      exact ⟨connection, hopen, hpeer⟩
    · rintro ⟨connection, hopen, hpeer⟩
      exact ⟨_, connection, hopen, hpeer, rfl⟩

/-! ### Two connections with one address -/

def firstConnection : Connection where
  id := 1
  peerId := "12D3KooW"
  remoteAddress := "/ip4/192.0.2.1/tcp/9000"

def secondConnection : Connection :=
  { firstConnection with id := 2 }

/-- Both are established and the first is closed. -/
def overlapping : List SwarmEvent :=
  [.connectionEstablished firstConnection (.ok ()),
    .connectionEstablished secondConnection (.ok ()),
    .connectionClosed firstConnection]

/-- The second is still open, and the peer is not listed. -/
theorem overlapping_not_tracked :
    openConnections overlapping = [secondConnection] ∧
    (after overlapping).peerRegistry.getConnectedPeers "12D3KooW" = none ∧
    ¬ TracksConnections overlapping := by
  have hopen : openConnections overlapping = [secondConnection] := by
    decide +kernel
  have hnone : (after overlapping).peerRegistry.getConnectedPeers
      "12D3KooW" = none := by
    decide +kernel
  refine ⟨hopen, hnone, fun htracks => ?_⟩
  have hlisted := (htracks.peers "12D3KooW").mpr
    ⟨secondConnection, by rw [hopen]; exact List.mem_singleton_self _, rfl⟩
  rw [hnone] at hlisted
  cases hlisted

end NxccBridge.Peers
