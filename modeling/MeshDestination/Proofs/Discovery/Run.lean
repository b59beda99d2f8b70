import MeshDestination.Proofs.Discovery.Streams
import MeshDestination.Proofs.Index.Consistency

/-!
# Runs of the server

A run performs operations one after the other: all that the server does at once, and the single
steps of listeners and clients that can happen between any two of them. Every operation keeps the
listeners and streams attached to subscriptions of their own (`Server.Attached`), and what happens
to subscriptions to endpoints never takes back what they have accepted (`Server.Progress`).
-/

namespace MeshDestination.Discovery

open Cluster Listener

namespace Server

/-! ## Operations -/

/-- What can happen to the server. -/
inductive Operation where
  | apply (r : Resource)
  | delete (kind : Kind) (ns name : String)
  | listenEndpoints (service : ServiceRef) (port : Port) (room : Option Nat)
  | listenProfile (service : ServiceRef) (room : Option Nat)
  | get (path : String)
  | getProfile (path : String)
  | unsubscribe (ref : ListenerRef)
  | close (ref : ListenerRef)
  | grant (ref : ListenerRef) (n : Nat)
  | takeEndpointEvents (ticket : Nat)
  | takeProfileEvents (ticket : Nat)
  /-- A listener gets a turn, in which it may notice that it should end. -/
  | turn (ref : ListenerRef) (notices : Bool)
  /-- The listener of a stream gets a turn. -/
  | turnStream (rpc : Rpc) (ticket : Nat) (notices : Bool)
  /-- A client takes one message. -/
  | next (rpc : Rpc) (ticket : Nat)
  /-- A client reads all that is there, or a limited number of messages. -/
  | read (rpc : Rpc) (ticket : Nat) (limit : Option Nat)
  /-- All listeners run until they are idle. -/
  | settle
  /-- A stream ends: its client goes away, or the client or the server ends it. -/
  | disconnect (rpc : Rpc) (ticket : Nat)
  | shutDown
  | startWatches (kinds : List Kind)
  | endWatch (kind : Kind)
  | watchEvent (kind : Kind) (w : Watch) (e : WatchEvent)
  | takePrimed

/-- Gives a listener a turn. -/
def turn (s : Server) (ref : ListenerRef) (notices : Bool) : Server :=
  match ref.feed with
  | .endpoints =>
    let (endpointSubs, endpointListeners) :=
      turnIn events notices ref.ticket s.index.endpointSubs s.endpointListeners
    { s with index := { s.index with endpointSubs }, endpointListeners }
  | .profile =>
    let (profileSubs, profileListeners) :=
      turnIn events notices ref.ticket s.index.profileSubs s.profileListeners
    { s with index := { s.index with profileSubs }, profileListeners }

/-- Gives the listener of a stream a turn. -/
def turnStream (s : Server) (rpc : Rpc) (ticket : Nat) (notices : Bool) : Server :=
  match rpc with
  | .get =>
    let (endpointSubs, endpointStreams) :=
      turnStreamIn updates notices ticket s.index.endpointSubs s.endpointStreams
    { s with index := { s.index with endpointSubs }, endpointStreams }
  | .getProfile =>
    let (profileSubs, profileStreams) :=
      turnStreamIn (profileMessages s.index.cluster) notices ticket s.index.profileSubs
        s.profileStreams
    { s with index := { s.index with profileSubs }, profileStreams }

/-- Lets a client take one message. -/
def next (s : Server) (rpc : Rpc) (ticket : Nat) : Server :=
  match rpc with
  | .get =>
    let (endpointStreams, getCounters) := nextIn s.endpointStreams s.getCounters ticket
    { s with endpointStreams, getCounters }
  | .getProfile =>
    let (profileStreams, profileCounters) := nextIn s.profileStreams s.profileCounters ticket
    { s with profileStreams, profileCounters }

/-- Performs an operation. -/
def perform (s : Server) : Operation → Server
  | .apply r => (s.apply r).1
  | .delete kind ns name => s.delete kind ns name
  | .listenEndpoints service port room => (s.listenEndpoints service port room).1
  | .listenProfile service room => (s.listenProfile service room).1
  | .get path => (s.get path).1
  | .getProfile path => (s.getProfile path).1
  | .unsubscribe ref => s.unsubscribe ref
  | .close ref => s.close ref
  | .grant ref n => s.grant ref n
  | .takeEndpointEvents ticket => (s.takeEndpointEvents ticket).2.2
  | .takeProfileEvents ticket => (s.takeProfileEvents ticket).2.2
  | .turn ref notices => s.turn ref notices
  | .turnStream rpc ticket notices => s.turnStream rpc ticket notices
  | .next rpc ticket => s.next rpc ticket
  | .read .get ticket limit => (s.readUpdates ticket limit).2
  | .read .getProfile ticket limit => (s.readProfiles ticket limit).2
  | .settle => s.settle
  | .disconnect rpc ticket => s.disconnect rpc ticket
  | .shutDown => s.shutDown
  | .startWatches kinds => s.startWatches kinds
  | .endWatch kind => s.endWatch kind
  | .watchEvent kind w e => s.watchEvent kind w e
  | .takePrimed => s.takePrimed.1

/-- Performs operations in order. -/
def run (s : Server) (ops : List Operation) : Server := ops.foldl perform s

/-- The server of a cluster of which nothing is known yet. -/
def start (c : ClusterInfo) : Server := { index := Index.start c }

theorem run_append (s : Server) (ops ops' : List Operation) :
    s.run (ops ++ ops') = (s.run ops).run ops' := List.foldl_append

/-! ## Attached listeners -/

/-- The listeners that feed the streams of endpoints. -/
def feeders (s : Server) : List (Listener Update) := s.endpointStreams.map (·.listener)

/-- Listeners and streams of endpoints follow subscriptions of their own. -/
structure Attached (s : Server) : Prop where
  numbered : s.index.endpointSubs.Numbered
  consistent : s.index.Consistent
  listeners : Feeds events s.index.endpointSubs s.endpointListeners
  streams : Feeds updates s.index.endpointSubs s.feeders
  listeners_nodup : (s.endpointListeners.map (·.ticket)).Nodup
  streams_nodup : (s.feeders.map (·.ticket)).Nodup
  apart : ∀ t ∈ s.endpointListeners.map (·.ticket), t ∉ s.feeders.map (·.ticket)

/-- From `s` to `s'` no stream of endpoints is lost, and no subscription takes back what it has
accepted. -/
structure Progress (s s' : Server) : Prop where
  attached : s'.Attached
  streams : ∀ t ∈ s.feeders.map (·.ticket), t ∈ s'.feeders.map (·.ticket)
  subs : ∀ t sub, s.index.endpointSubs.find? t = some sub →
    ∃ sub', s'.index.endpointSubs.find? t = some sub' ∧ sub'.topic = sub.topic ∧
      sub.log <+: sub'.log

theorem attached_start (c : ClusterInfo) : (start c).Attached where
  numbered := rfl
  consistent := Index.consistent_start c
  listeners _ hl := absurd hl List.not_mem_nil
  streams _ hl := absurd hl List.not_mem_nil
  listeners_nodup := List.nodup_nil
  streams_nodup := List.nodup_nil
  apart _ ht := absurd ht List.not_mem_nil

variable {s s' s'' : Server}

theorem Progress.refl (h : s.Attached) : Progress s s :=
  ⟨h, fun _ ht => ht, fun _ sub hsub => ⟨sub, hsub, rfl, List.prefix_rfl⟩⟩

theorem Progress.trans (h : Progress s s') (h' : Progress s' s'') : Progress s s'' := by
  refine ⟨h'.attached, fun t ht => h'.streams t (h.streams t ht), fun t sub hsub => ?_⟩
  obtain ⟨sub', hsub', htopic, hlog⟩ := h.subs t sub hsub
  obtain ⟨sub'', hsub'', htopic', hlog'⟩ := h'.subs t sub' hsub'
  exact ⟨sub'', hsub'', htopic'.trans htopic, hlog.trans hlog'⟩

/-! ## Sorts of progress -/

/-- Where the index evolves, subscriptions take nothing back. -/
theorem Progress.of_evolves (h : s'.Attached) (he : Index.Evolves s.index s'.index)
    (hstreams : ∀ t ∈ s.feeders.map (·.ticket), t ∈ s'.feeders.map (·.ticket)) :
    Progress s s' := by
  refine ⟨h, hstreams, fun t sub hsub => ?_⟩
  obtain ⟨sub', hsub', hextends⟩ := he.find? sub hsub
  exact ⟨sub', hsub', hextends.topic, hextends.log⟩

/-- Where subscriptions keep their logs, they take nothing back. -/
theorem Progress.of_retains (h : s'.Attached)
    (hr : s.index.endpointSubs.Retains s'.index.endpointSubs)
    (hstreams : ∀ t ∈ s.feeders.map (·.ticket), t ∈ s'.feeders.map (·.ticket)) :
    Progress s s' := by
  refine ⟨h, hstreams, fun t sub hsub => ?_⟩
  obtain ⟨sub', hsub', hkeep⟩ := hr.find? hsub
  exact ⟨sub', hsub', hkeep.topic, hkeep.log ▸ List.prefix_rfl⟩

/-- The index evolves, and nobody works. -/
theorem Attached.evolves (h : s.Attached) (he : Index.Evolves s.index s'.index)
    (hl : s'.endpointListeners = s.endpointListeners)
    (hs : s'.endpointStreams = s.endpointStreams) : Progress s s' := by
  have hfeeders : s'.feeders = s.feeders := by rw [feeders, feeders, hs]
  refine .of_evolves ⟨he.numbered h.numbered, h.consistent.evolves he, ?_, ?_, ?_, ?_, ?_⟩ he ?_
  · rw [hl]
    exact h.listeners.extends fun _ => he.find?
  · rw [hfeeders]
    exact h.streams.extends fun _ => he.find?
  · rw [hl]
    exact h.listeners_nodup
  · rw [hfeeders]
    exact h.streams_nodup
  · rw [hl, hfeeders]
    exact h.apart
  · rw [hfeeders]
    exact fun _ ht => ht

/-- Nothing happens to service ports, their subscriptions, and their listeners. -/
theorem Attached.same (h : s.Attached) (hsubs : s'.index.endpointSubs = s.index.endpointSubs)
    (hservices : s'.index.services = s.index.services)
    (hl : s'.endpointListeners = s.endpointListeners)
    (hs : s'.endpointStreams = s.endpointStreams) : Progress s s' := by
  refine h.evolves (.of_same hsubs fun topic => ?_) hl hs
  rw [Index.port?, Index.port?, hservices]

/-- Listeners within the process work. -/
theorem Attached.listenersAdvance (h : s.Attached)
    (hadv : Advances events s.index.endpointSubs s'.index.endpointSubs s.endpointListeners
      s'.endpointListeners)
    (hservices : s'.index.services = s.index.services)
    (hs : s'.endpointStreams = s.endpointStreams) : Progress s s' := by
  have hfeeders : s'.feeders = s.feeders := by rw [feeders, feeders, hs]
  have hretains : Index.Retains s.index s'.index :=
    ⟨hadv.retains, fun topic => by rw [Index.port?, Index.port?, hservices]⟩
  refine .of_retains ⟨hadv.retains.numbered h.numbered, h.consistent.retains hretains,
    hadv.feeds h.listeners, ?_, ?_, ?_, ?_⟩ hadv.retains ?_
  · rw [hfeeders]
    exact h.streams.congr fun t ht => hadv.others t fun hmem => h.apart t hmem ht
  · rw [hadv.tickets]
    exact h.listeners_nodup
  · rw [hfeeders]
    exact h.streams_nodup
  · rw [hadv.tickets, hfeeders]
    exact h.apart
  · rw [hfeeders]
    exact fun _ ht => ht

/-- Listeners of streams work. -/
theorem Attached.streamsAdvance (h : s.Attached)
    (hadv : Advances updates s.index.endpointSubs s'.index.endpointSubs s.feeders s'.feeders)
    (hservices : s'.index.services = s.index.services)
    (hl : s'.endpointListeners = s.endpointListeners) : Progress s s' := by
  have hretains : Index.Retains s.index s'.index :=
    ⟨hadv.retains, fun topic => by rw [Index.port?, Index.port?, hservices]⟩
  refine .of_retains ⟨hadv.retains.numbered h.numbered, h.consistent.retains hretains, ?_,
    hadv.feeds h.streams, ?_, ?_, ?_⟩ hadv.retains ?_
  · rw [hl]
    exact h.listeners.congr fun t ht => hadv.others t (h.apart t ht)
  · rw [hl]
    exact h.listeners_nodup
  · rw [hadv.tickets]
    exact h.streams_nodup
  · rw [hl, hadv.tickets]
    exact h.apart
  · rw [hadv.tickets]
    exact fun _ ht => ht

/-- The next ticket belongs to no listener. -/
theorem nextTicket_notMem {τ ε ο : Type} {items : τ → ε → List ο} {subs : Subscriptions τ ε}
    {ls : List (Listener ο)} (h : Feeds items subs ls) (hn : subs.Numbered) :
    subs.nextTicket ∉ ls.map (·.ticket) := by
  intro hmem
  obtain ⟨l, hl, ht⟩ := List.mem_map.mp hmem
  obtain ⟨sub, hsub, -⟩ := h l hl
  exact absurd (Subscriptions.lt_of_find? hn hsub) (by simp [ht])

/-- A listener within the process joins. -/
theorem Attached.listenEndpoints (h : s.Attached) (service : ServiceRef) (port : Port)
    (room : Option Nat) : Progress s (s.listenEndpoints service port room).1 := by
  have he := Index.evolves_subscribeEndpoints s.index service port
  have hfresh := nextTicket_notMem h.listeners h.numbered
  have hfresh' := nextTicket_notMem h.streams h.numbered
  have htickets : (s.listenEndpoints service port room).1.endpointListeners.map (·.ticket) =
      s.endpointListeners.map (·.ticket) ++ [s.index.endpointSubs.nextTicket] := List.map_append
  refine .of_evolves ⟨he.numbered h.numbered, h.consistent.evolves he, ?_, ?_, ?_,
    h.streams_nodup, ?_⟩ he fun _ ht => ht
  · exact feeds_subscribe h.listeners h.numbered _ _ _ _ rfl rfl rfl
  · exact h.streams.extends fun _ => he.find?
  · rw [htickets, ← List.concat_eq_append]
    exact List.Nodup.concat hfresh h.listeners_nodup
  · rw [htickets]
    intro t ht
    rcases List.mem_append.mp ht with ht | ht
    · exact h.apart t ht
    · rw [List.mem_singleton] at ht
      exact ht ▸ hfresh'

/-- A target that a client asks for is subscribed to. -/
theorem get_of_target {path : String} {target : Target}
    (h : Target.ofText? s.index.cluster.dnsDomain path = some target) :
    (s.get path).1 = { s with
      index := (s.index.subscribeEndpoints target.service target.port).1
      endpointStreams := s.endpointStreams ++ [Stream.ofTicket s.index.endpointSubs.nextTicket]
      getCounters := s.getCounters.open_ } := by
  rw [Server.get, lookup, h]
  rfl

/-- A client's lookup opens a stream, or it is refused. -/
theorem Attached.get (h : s.Attached) (path : String) : Progress s (s.get path).1 := by
  cases ht : Target.ofText? s.index.cluster.dnsDomain path with
  | none =>
    unfold Server.get
    rw [lookup, ht]
    exact h.same rfl rfl rfl rfl
  | some target =>
    rw [get_of_target ht]
    have he := Index.evolves_subscribeEndpoints s.index target.service target.port
    have hfresh := nextTicket_notMem h.listeners h.numbered
    have hfresh' := nextTicket_notMem h.streams h.numbered
    generalize hs' : ({ s with
      index := (s.index.subscribeEndpoints target.service target.port).1
      endpointStreams := s.endpointStreams ++ [Stream.ofTicket s.index.endpointSubs.nextTicket]
      getCounters := s.getCounters.open_ } : Server) = s'
    have hfeeders : s'.feeders =
        s.feeders ++ [{ ticket := s.index.endpointSubs.nextTicket, room := some streamBuffer }] := by
      rw [← hs']
      exact List.map_append
    have htickets : s'.feeders.map (·.ticket) =
        s.feeders.map (·.ticket) ++ [s.index.endpointSubs.nextTicket] := by
      rw [hfeeders]
      exact List.map_append
    subst hs'
    refine .of_evolves ⟨he.numbered h.numbered, h.consistent.evolves he, ?_, ?_,
      h.listeners_nodup, ?_, ?_⟩ he fun t ht => ?_
    · exact h.listeners.extends fun _ => he.find?
    · rw [hfeeders]
      exact feeds_subscribe h.streams h.numbered _ _ _ _ rfl rfl rfl
    · rw [htickets, ← List.concat_eq_append]
      exact List.Nodup.concat hfresh' h.streams_nodup
    · rw [htickets]
      intro t ht hmem
      rcases List.mem_append.mp hmem with hmem | hmem
      · exact h.apart t ht hmem
      · rw [List.mem_singleton] at hmem
        exact hfresh (hmem ▸ ht)
    · rw [htickets]
      exact List.mem_append_left _ ht

/-- A subscriber ends a subscription. -/
theorem Attached.unsubscribe (h : s.Attached) (ref : ListenerRef) :
    Progress s (s.unsubscribe ref) := by
  obtain ⟨feed, ticket⟩ := ref
  cases feed with
  | profile => exact h.same rfl rfl rfl rfl
  | endpoints =>
    have hretains : s.index.endpointSubs.Retains
        (s.index.endpointSubs.modify ticket (·.unsubscribe)) :=
      Subscriptions.retains_modify fun sub _ _ => Subscription.retains_unsubscribe sub
    have hfind (t : Nat) (sub : Subscription PortRef EndpointsEvent)
        (hsub : s.index.endpointSubs.find? t = some sub) :
        ∃ sub', (s.index.endpointSubs.modify ticket (·.unsubscribe)).find? t = some sub' ∧
          sub.Extends sub' := by
      rw [Subscriptions.find?_modify
        fun sub ht => (Subscription.extends_unsubscribe sub).ticket.trans ht, hsub]
      refine ⟨_, rfl, ?_⟩
      split
      · exact Subscription.extends_unsubscribe sub
      · exact .refl sub
    exact .of_retains ⟨hretains.numbered h.numbered, h.consistent.retains ⟨hretains, fun _ => rfl⟩,
      h.listeners.extends hfind, h.streams.extends hfind, h.listeners_nodup, h.streams_nodup,
      h.apart⟩ hretains fun _ ht => ht

/-! ## Operations as progress -/

theorem Attached.getProfile (h : s.Attached) (path : String) :
    Progress s (s.getProfile path).1 := by
  unfold Server.getProfile
  split
  · exact h.same rfl rfl rfl rfl
  · exact h.same rfl rfl rfl rfl

theorem Attached.close (h : s.Attached) (ref : ListenerRef) : Progress s (s.close ref) := by
  obtain ⟨feed, ticket⟩ := ref
  cases feed with
  | profile => exact h.same rfl rfl rfl rfl
  | endpoints => exact h.listenersAdvance (advances_modifyIn ticket tended_close) rfl rfl

theorem Attached.grant (h : s.Attached) (ref : ListenerRef) (n : Nat) :
    Progress s (s.grant ref n) := by
  obtain ⟨feed, ticket⟩ := ref
  cases feed with
  | profile => exact h.same rfl rfl rfl rfl
  | endpoints =>
    exact h.listenersAdvance (advances_modifyIn ticket fun l => tended_grant l n) rfl rfl

theorem Attached.takeEndpointEvents (h : s.Attached) (ticket : Nat) :
    Progress s (s.takeEndpointEvents ticket).2.2 := by
  unfold Server.takeEndpointEvents
  split
  · exact .refl h
  · exact h.listenersAdvance (advances_modifyIn ticket tended_emptied) rfl rfl

theorem Attached.takeProfileEvents (h : s.Attached) (ticket : Nat) :
    Progress s (s.takeProfileEvents ticket).2.2 := by
  unfold Server.takeProfileEvents
  split
  · exact .refl h
  · exact h.same rfl rfl rfl rfl

theorem Attached.turn (h : s.Attached) (ref : ListenerRef) (notices : Bool) :
    Progress s (s.turn ref notices) := by
  obtain ⟨feed, ticket⟩ := ref
  cases feed with
  | profile => exact h.same rfl rfl rfl rfl
  | endpoints => exact h.listenersAdvance (advances_turnIn h.numbered notices ticket _) rfl rfl

theorem Attached.turnStream (h : s.Attached) (rpc : Rpc) (ticket : Nat) (notices : Bool) :
    Progress s (s.turnStream rpc ticket notices) := by
  cases rpc with
  | getProfile => exact h.same rfl rfl rfl rfl
  | get => exact h.streamsAdvance (advances_turnStreamIn h.numbered notices ticket _) rfl rfl

theorem Attached.next (h : s.Attached) (rpc : Rpc) (ticket : Nat) :
    Progress s (s.next rpc ticket) := by
  cases rpc with
  | getProfile => exact h.same rfl rfl rfl rfl
  | get => exact h.streamsAdvance (advances_nextIn _ s.getCounters ticket) rfl rfl

theorem Attached.readUpdates (h : s.Attached) (ticket : Nat) (limit : Option Nat) :
    Progress s (s.readUpdates ticket limit).2 :=
  h.streamsAdvance (advances_readIn h.numbered s.isShuttingDown limit _ s.getCounters ticket) rfl
    rfl

theorem Attached.disconnect (h : s.Attached) (rpc : Rpc) (ticket : Nat) :
    Progress s (s.disconnect rpc ticket) := by
  cases rpc with
  | getProfile => exact h.same rfl rfl rfl rfl
  | get => exact h.streamsAdvance (advances_dropIn _ s.getCounters ticket) rfl rfl

/-- Listeners within the process run first, then those of streams. -/
theorem Attached.settle (h : s.Attached) : Progress s s.settle := by
  have hlisteners := advances_settleAll events s.endpointListeners h.numbered h.listeners_nodup
  have hfirst : Progress s { s with
      index := { s.index with
        endpointSubs := (settleAll events s.index.endpointSubs s.endpointListeners).1 }
      endpointListeners := (settleAll events s.index.endpointSubs s.endpointListeners).2 } :=
    h.listenersAdvance hlisteners rfl rfl
  refine hfirst.trans (hfirst.attached.streamsAdvance ?_ rfl rfl)
  exact advances_settleStreams hfirst.attached.numbered hfirst.attached.streams_nodup

/-! ## Watches -/

section Invariant

variable {P : Index → Prop} (happly : ∀ ix r, P ix → P (ix.apply r).1)
  (hdelete : ∀ ix kind ns name, P ix → P (ix.delete kind ns name))

include happly in
theorem applyAll_invariant (rs : List Resource) : ∀ {ix : Index}, P ix → P (applyAll ix rs).1 := by
  induction rs with
  | nil => exact id
  | cons r rs ih =>
    intro ix h
    have hfirst := happly ix r h
    rw [applyAll]
    split
    · next ix' hix =>
      rw [hix] at hfirst
      exact ih hfirst
    · next ix' fault hix =>
      rw [hix] at hfirst
      exact hfirst

include hdelete in
theorem foldl_delete_invariant (kind : Kind) (keys : List ObjectKey) :
    ∀ {ix : Index}, P ix → P (keys.foldl (fun ix key => ix.delete kind key.ns key.name) ix) := by
  induction keys with
  | nil => exact id
  | cons key keys ih => exact fun h => ih (hdelete _ kind key.ns key.name h)

include happly hdelete in
/-- A watch records and forgets resources: what both keep, it keeps. -/
theorem watchStep_invariant (kind : Kind) (w : Watch) (e : WatchEvent) {ix : Index} (h : P ix) :
    P (w.step kind ix e).1 := by
  cases e with
  | apply r =>
    have happly := happly ix r h
    unfold Watch.step
    dsimp only
    split
    · exact h
    · split
      · next ix' hix =>
        rw [hix] at happly
        exact happly
      · next ix' fault hix =>
        rw [hix] at happly
        exact happly
  | delete r =>
    unfold Watch.step
    dsimp only
    split
    · exact h
    · exact hdelete ix kind _ _ h
  | init => exact h
  | initApply r =>
    unfold Watch.step
    dsimp only
    split
    · exact h
    · exact h
  | initDone =>
    have hall := applyAll_invariant happly w.gathered.reverse h
    unfold Watch.step
    dsimp only
    split
    · next ix' hix =>
      rw [hix] at hall
      exact hall
    · next ix' hix =>
      rw [hix] at hall
      exact foldl_delete_invariant hdelete kind _ hall

end Invariant

theorem evolves_watchStep (kind : Kind) (ix : Index) (w : Watch) (e : WatchEvent) :
    Index.Evolves ix (w.step kind ix e).1 :=
  watchStep_invariant (fun ix' r h => h.trans (Index.evolves_apply ix' r))
    (fun ix' kind ns name h => h.trans (Index.evolves_delete ix' kind ns name)) kind w e
    (.of_same rfl fun _ => rfl)

/-- An event reaches its watch as it is. -/
theorem passEvent_eq (s : Server) (kind : Kind) (e : WatchEvent) :
    ∃ priming, s.passEvent kind e = ({ s with priming }, e) := by
  unfold passEvent
  split
  · exact ⟨s.priming, rfl⟩
  · next barrier _ => cases e <;> exact ⟨_, rfl⟩

/-- A watch changes nothing but the index and what is known of watches. -/
theorem watchEvent_eq (s : Server) (kind : Kind) (w : Watch) (e : WatchEvent) :
    ∃ watches priming, s.watchEvent kind w e =
      { s with index := (w.step kind s.index e).1, watches, priming } := by
  obtain ⟨priming, hpass⟩ := s.passEvent_eq kind e
  rw [Server.watchEvent, hpass]
  dsimp only
  split
  · next ix' w' hix => exact ⟨_, _, by rw [hix]⟩
  · next ix' hix => exact ⟨_, _, by rw [hix]; rfl⟩

theorem Attached.watchEvent (h : s.Attached) (kind : Kind) (w : Watch) (e : WatchEvent) :
    Progress s (s.watchEvent kind w e) := by
  obtain ⟨watches, priming, heq⟩ := watchEvent_eq s kind w e
  rw [heq]
  exact h.evolves (evolves_watchStep kind s.index w e) rfl rfl

theorem Attached.takePrimed (h : s.Attached) : Progress s s.takePrimed.1 := by
  unfold Server.takePrimed
  split
  · exact .refl h
  · split <;> exact h.same rfl rfl rfl rfl

/-! ## Runs -/

/-- Every operation of the server is progress. -/
theorem Attached.perform (h : s.Attached) (op : Operation) : Progress s (s.perform op) := by
  cases op with
  | apply r => exact h.evolves (Index.evolves_apply s.index r) rfl rfl
  | delete kind ns name => exact h.evolves (Index.evolves_delete s.index kind ns name) rfl rfl
  | listenEndpoints service port room => exact h.listenEndpoints service port room
  | listenProfile service room => exact h.same rfl rfl rfl rfl
  | get path => exact h.get path
  | getProfile path => exact h.getProfile path
  | unsubscribe ref => exact h.unsubscribe ref
  | close ref => exact h.close ref
  | grant ref n => exact h.grant ref n
  | takeEndpointEvents ticket => exact h.takeEndpointEvents ticket
  | takeProfileEvents ticket => exact h.takeProfileEvents ticket
  | turn ref notices => exact h.turn ref notices
  | turnStream rpc ticket notices => exact h.turnStream rpc ticket notices
  | next rpc ticket => exact h.next rpc ticket
  | read rpc ticket limit =>
    cases rpc with
    | get => exact h.readUpdates ticket limit
    | getProfile => exact h.same rfl rfl rfl rfl
  | settle => exact h.settle
  | disconnect rpc ticket => exact h.disconnect rpc ticket
  | shutDown => exact h.same rfl rfl rfl rfl
  | startWatches kinds => exact h.same rfl rfl rfl rfl
  | endWatch kind => exact h.same rfl rfl rfl rfl
  | watchEvent kind w e => exact h.watchEvent kind w e
  | takePrimed => exact h.takePrimed

theorem Attached.run (ops : List Operation) :
    ∀ {s : Server}, s.Attached → Progress s (s.run ops) := by
  induction ops with
  | nil => exact fun h => .refl h
  | cons op ops ih =>
    intro s h
    have hfirst := h.perform op
    exact hfirst.trans (ih hfirst.attached)

end Server

end MeshDestination.Discovery
