import MeshDestination.Discovery.Lookup
import MeshDestination.Discovery.Message
import MeshDestination.Discovery.Stream
import MeshDestination.Discovery.Watch

/-!
# The server

The index with everything that is attached to it: listeners within the process, clients' streams,
the watches that feed it, and the counters of lookups. Operations change the state of one part;
listeners then run until they are idle.
-/

namespace MeshDestination.Discovery

open Cluster

/-- The state of the server. -/
structure Server where
  index : Index := {}
  endpointListeners : List (Listener EndpointsEvent) := []
  profileListeners : List (Listener (Option Profile)) := []
  endpointStreams : List (Stream Update) := []
  profileStreams : List (Stream ProfileMessage) := []
  getCounters : LookupCounters := {}
  profileCounters : LookupCounters := {}
  isShuttingDown : Bool := false
  /-- The watches that go on. -/
  watches : List (Kind × Watch) := []
  /-- The watches that must be complete before the server answers, while somebody waits. -/
  priming : Option (Barrier Kind) := none

namespace Server

/-! ## What listeners hand over -/

/-- A listener within the process hands over events as they are. -/
def events {τ ε : Type} (_ : τ) (e : ε) : List ε := [e]

/-- A client of endpoints is sent messages. -/
def updates (topic : PortRef) (e : EndpointsEvent) : List Update := Update.ofEvent topic.1 e

/-- A client of a profile is sent the whole profile. -/
def profileMessages (c : ClusterInfo) (service : ServiceRef) (p : Option Profile) :
    List ProfileMessage :=
  [ProfileMessage.ofProfile (c.profileName service) p]

/-- Lets each of some listeners run until it is idle. -/
def settleAll {τ ε ο : Type} (items : τ → ε → List ο) (subs : Subscriptions τ ε) :
    List (Listener ο) → Subscriptions τ ε × List (Listener ο)
  | [] => (subs, [])
  | l :: r =>
    let (subs, l) := l.settleIn items subs
    let (subs, r) := settleAll items subs r
    (subs, l :: r)

/-- Gives some streams their listeners back. -/
def refit {ο : Type} (streams : List (Stream ο)) (ls : List (Listener ο)) : List (Stream ο) :=
  (streams.zip ls).map fun (s, l) => { s with listener := l }

/-- Lets the listener of each of some streams run until it is idle. -/
def settleStreams {τ ε ο : Type} (items : τ → ε → List ο) (subs : Subscriptions τ ε)
    (streams : List (Stream ο)) : Subscriptions τ ε × List (Stream ο) :=
  let (subs, ls) := settleAll items subs (streams.map (·.listener))
  (subs, refit streams ls)

/-- Lets every listener run until it is idle. -/
def settle (s : Server) : Server :=
  let (eps, endpointListeners) := settleAll events s.index.endpointSubs s.endpointListeners
  let (eps, endpointStreams) := settleStreams updates eps s.endpointStreams
  let (profs, profileListeners) := settleAll events s.index.profileSubs s.profileListeners
  let (profs, profileStreams) :=
    settleStreams (profileMessages s.index.cluster) profs s.profileStreams
  { s with
    index := { s.index with endpointSubs := eps, profileSubs := profs }
    endpointListeners, endpointStreams, profileListeners, profileStreams }

/-! ## Resources -/

/-- Records a resource. -/
def apply (s : Server) (r : Resource) : Server × Option Fault :=
  let (index, fault) := s.index.apply r
  ({ s with index }, fault)

/-- Forgets a resource. -/
def delete (s : Server) (kind : Kind) (ns name : String) : Server :=
  { s with index := s.index.delete kind ns name }

/-! ## Listeners within the process -/

/-- What a listener listens to. -/
inductive Feed where
  | endpoints
  | profile
  deriving DecidableEq

/-- A listener by what it listens to and its subscription's ticket. -/
structure ListenerRef where
  feed : Feed
  ticket : Nat
  deriving DecidableEq

/-- Subscribes a listener to a service port. A listener with room for nothing waits to be granted
some. -/
def listenEndpoints (s : Server) (service : ServiceRef) (port : Port) (room : Option Nat) :
    Server × Index.Receipt :=
  let (index, receipt) := s.index.subscribeEndpoints service port
  ({ s with
    index
    endpointListeners := s.endpointListeners ++ [{ ticket := receipt.ticket, room }] }, receipt)

/-- Subscribes a listener to a profile. -/
def listenProfile (s : Server) (service : ServiceRef) (room : Option Nat) :
    Server × Index.Receipt :=
  let (index, receipt) := s.index.subscribeProfile service
  ({ s with
    index
    profileListeners := s.profileListeners ++ [{ ticket := receipt.ticket, room }] }, receipt)

/-- Changes the listener of a ticket. -/
def modifyIn {ο : Type} (ticket : Nat) (f : Listener ο → Listener ο) (ls : List (Listener ο)) :
    List (Listener ο) :=
  ls.map fun l => if l.ticket = ticket then f l else l

/-- Gives a listener room for more events. -/
def grant (s : Server) (ref : ListenerRef) (n : Nat) : Server :=
  match ref.feed with
  | .endpoints =>
    { s with endpointListeners := modifyIn ref.ticket (·.grant n) s.endpointListeners }
  | .profile => { s with profileListeners := modifyIn ref.ticket (·.grant n) s.profileListeners }

/-- Fires a listener's liveness signal. -/
def close (s : Server) (ref : ListenerRef) : Server :=
  match ref.feed with
  | .endpoints => { s with endpointListeners := modifyIn ref.ticket (·.close) s.endpointListeners }
  | .profile => { s with profileListeners := modifyIn ref.ticket (·.close) s.profileListeners }

/-- Ends a listener's subscription. -/
def unsubscribe (s : Server) (ref : ListenerRef) : Server :=
  match ref.feed with
  | .endpoints =>
    { s with index := { s.index with
        endpointSubs := s.index.endpointSubs.modify ref.ticket (·.unsubscribe) } }
  | .profile =>
    { s with index := { s.index with
        profileSubs := s.index.profileSubs.modify ref.ticket (·.unsubscribe) } }

/-- What a listener to endpoints was given since this was last asked, and whether it has ended. -/
def takeEndpointEvents (s : Server) (ticket : Nat) : List EndpointsEvent × Bool × Server :=
  match s.endpointListeners.find? (·.ticket == ticket) with
  | none => ([], true, s)
  | some l =>
    (l.outbox, l.hasEnded,
      { s with endpointListeners := modifyIn ticket (·.emptied) s.endpointListeners })

/-- What a listener to a profile was given since this was last asked, and whether it has ended. -/
def takeProfileEvents (s : Server) (ticket : Nat) : List (Option Profile) × Bool × Server :=
  match s.profileListeners.find? (·.ticket == ticket) with
  | none => ([], true, s)
  | some l =>
    (l.outbox, l.hasEnded,
      { s with profileListeners := modifyIn ticket (·.emptied) s.profileListeners })

/-! ## Streams -/

/-- Opens a stream of a service port's endpoints. The answer is the stream's ticket. -/
def get (s : Server) (path : String) : Server × Except Rejection Nat :=
  match lookup s.index.cluster.dnsDomain path .ok with
  | .error e => ({ s with getCounters := s.getCounters.reject e }, .error e)
  | .ok target =>
    let (index, receipt) := s.index.subscribeEndpoints target.service target.port
    ({ s with
      index
      endpointStreams := s.endpointStreams ++ [Stream.ofTicket receipt.ticket]
      getCounters := s.getCounters.open_ }, .ok receipt.ticket)

/-- Opens a stream of a service's profile. The answer is the stream's ticket. -/
def getProfile (s : Server) (path : String) : Server × Except Rejection Nat :=
  match lookup s.index.cluster.dnsDomain path .ok with
  | .error e => ({ s with profileCounters := s.profileCounters.reject e }, .error e)
  | .ok target =>
    let (index, receipt) := s.index.subscribeProfile target.service
    ({ s with
      index
      profileStreams := s.profileStreams ++ [Stream.ofTicket receipt.ticket]
      profileCounters := s.profileCounters.open_ }, .ok receipt.ticket)

/-- Replaces the stream of a ticket. -/
def setStream {ο : Type} (stream : Stream ο) (streams : List (Stream ο)) : List (Stream ο) :=
  streams.map fun t => if t.listener.ticket = stream.listener.ticket then stream else t

/-- Reads one of some streams. -/
def readIn {τ ε ο : Type} (items : τ → ε → List ο) (shuttingDown : Bool) (limit : Option Nat)
    (subs : Subscriptions τ ε) (streams : List (Stream ο)) (counters : LookupCounters)
    (ticket : Nat) :
    Stream.Reading ο × Subscriptions τ ε × List (Stream ο) × LookupCounters :=
  match streams.find? (·.listener.ticket == ticket), subs.find? ticket with
  | some stream, some sub =>
    let (reading, sub, after) := stream.read (items sub.topic) shuttingDown limit sub
    let counters := counters.send reading.messages.length
    let counters := if stream.isOpen && !after.isOpen then counters.finish else counters
    (reading, subs.modify ticket fun _ => sub, setStream after streams, counters)
  | _, _ => (⟨[], true⟩, subs, streams, counters)

/-- Reads a stream of endpoints, all that is there or a limited number of messages. -/
def readUpdates (s : Server) (ticket : Nat) (limit : Option Nat) : Stream.Reading Update × Server :=
  let (reading, endpointSubs, endpointStreams, getCounters) :=
    readIn updates s.isShuttingDown limit s.index.endpointSubs s.endpointStreams s.getCounters
      ticket
  (reading, { s with index := { s.index with endpointSubs }, endpointStreams, getCounters })

/-- Reads a stream of profiles, all that is there or a limited number of messages. -/
def readProfiles (s : Server) (ticket : Nat) (limit : Option Nat) :
    Stream.Reading ProfileMessage × Server :=
  let (reading, profileSubs, profileStreams, profileCounters) :=
    readIn (profileMessages s.index.cluster) s.isShuttingDown limit s.index.profileSubs
      s.profileStreams s.profileCounters ticket
  (reading, { s with index := { s.index with profileSubs }, profileStreams, profileCounters })

/-- Ends one of some streams because its client is gone. -/
def dropIn {ο : Type} (streams : List (Stream ο)) (counters : LookupCounters) (ticket : Nat) :
    List (Stream ο) × LookupCounters :=
  match streams.find? (·.listener.ticket == ticket) with
  | some stream =>
    (setStream stream.finish streams, if stream.isOpen then counters.finish else counters)
  | none => (streams, counters)

/-- The client of a stream goes away. -/
def disconnect (s : Server) (rpc : Rpc) (ticket : Nat) : Server :=
  match rpc with
  | .get =>
    let (endpointStreams, getCounters) := dropIn s.endpointStreams s.getCounters ticket
    { s with endpointStreams, getCounters }
  | .getProfile =>
    let (profileStreams, profileCounters) := dropIn s.profileStreams s.profileCounters ticket
    { s with profileStreams, profileCounters }

/-- The server begins to shut down; streams end when they are next read. -/
def shutDown (s : Server) : Server := { s with isShuttingDown := true }

/-! ## Watches -/

/-- Starts watches of some kinds and waits for them to be complete. -/
def startWatches (s : Server) (kinds : List Kind) : Server :=
  { s with
    watches := (s.watches.filter fun (k, _) => !kinds.contains k) ++ kinds.map (·, {})
    priming := some (.ofWatches kinds) }

/-- Ends a watch. -/
def endWatch (s : Server) (kind : Kind) : Server :=
  { s with
    watches := s.watches.filter (·.1 ≠ kind)
    priming := s.priming.map (·.endWatch kind) }

/-- The watch of a kind, if it goes on. -/
def watch? (s : Server) (kind : Kind) : Option Watch := s.watches.lookup kind

/-- An event of a watch on its way through what waits for the watch. -/
def passEvent (s : Server) (kind : Kind) (e : WatchEvent) : Server × WatchEvent :=
  match s.priming with
  | none => (s, e)
  | some barrier =>
    let (barrier, e) := barrier.pass kind e
    ({ s with priming := some barrier }, e)

/-- A watch brings an event. -/
def watchEvent (s : Server) (kind : Kind) (w : Watch) (e : WatchEvent) : Server :=
  let (s, e) := s.passEvent kind e
  match w.step kind s.index e with
  | (index, some w) =>
    { s with index, watches := s.watches.map fun (k, v) => (k, if k = kind then w else v) }
  | (index, none) => { s with index }.endWatch kind

/-- Whether all watches are complete, if that is decided. The answer is given once. -/
def takePrimed (s : Server) : Server × Option (Option Bool) :=
  match s.priming with
  | none => (s, none)
  | some barrier =>
    match barrier.poll with
    | (barrier, none) => ({ s with priming := some barrier }, some none)
    | (_, some primed) => ({ s with priming := none }, some (some primed))

/-! ## Metrics -/

/-- The lines that report the size of the index. -/
def indexLines (ix : Index) (scope : String) : List String :=
  let line (name : String) (n : Nat) := scope ++ name ++ " " ++ toString n
  [line "endpoints_listeners" ix.endpointSubs.size] ++
  (ix.pods.sizes.map fun (ns, n) => line ("pod_index_size\x7bnamespace=\"" ++ ns ++ "\"\x7d") n) ++
  [line "profile_index_size" ix.profiles.resources.size,
    line "profile_listeners" ix.profileSubs.size,
    line "service_port_index_size" ix.portCount]

/-- The lines that report the state of the server, sorted. -/
def metricLines (s : Server) : List String :=
  let scope := "destination_"
  let lines := indexLines s.index (scope ++ "index_") ++
    s.getCounters.lookupLines scope .get ++ s.profileCounters.lookupLines scope .getProfile ++
    s.getCounters.streamLines scope .get ++ s.profileCounters.streamLines scope .getProfile
  lines.mergeSort fun a b => a ≤ b

end Server

end MeshDestination.Discovery
