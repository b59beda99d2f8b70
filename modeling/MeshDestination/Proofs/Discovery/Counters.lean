import MeshDestination.Proofs.Discovery.Run
import MeshDestination.Proofs.Discovery.Sights
import MeshDestination.Proofs.Index.Profiles

/-!
# Counters agree with what clients see

The counters of a kind of lookup are raised and lowered in many places: when a lookup is answered,
when a stream is read, when its end is met, when its client goes away. In every run they agree with
what clients see (`Server.counters_agree`), also when lookups fail because their target cannot be
subscribed to (`Server.Occurrence.failure`). Whatever no client sees leaves counters alone and opens
and ends no stream (`Server.idle_perform`).
-/

namespace MeshDestination

/-! ## Tickets -/

theorem Topics.Step.ages {τ ε σ : Type} [DecidableEq τ] [TopicState σ ε]
    {before after : Topics τ ε σ} {own : Nat → Subscription.Action → Prop}
    (h : Topics.Step before after own) : before.subs.Ages after.subs := by
  cases h with
  | moves h =>
    rw [h.subs]
    exact Subscriptions.ages_publish _ _
  | subscribes h =>
    rw [h.subs]
    exact Subscriptions.ages_subscribe _ _ _ _ _
  | acts _ h =>
    rw [h.subs]
    exact Subscriptions.ages_modify _ fun sub ht =>
      (Subscription.retains_perform sub _).ticket.trans ht

namespace Index

/-- Tickets of both kinds of subscriptions age. -/
structure Ages (before after : Index) : Prop where
  endpoints : before.endpointSubs.Ages after.endpointSubs
  profiles : before.profileSubs.Ages after.profileSubs

theorem Ages.refl (ix : Index) : ix.Ages ix := ⟨.refl _, .refl _⟩

theorem Ages.trans {ix ix' ix'' : Index} (h : ix.Ages ix') (h' : ix'.Ages ix'') : ix.Ages ix'' :=
  ⟨h.endpoints.trans h'.endpoints, h.profiles.trans h'.profiles⟩

theorem ages_perform (ix : Index) (op : Operation) : ix.Ages (ix.perform op) :=
  ⟨(step_portTopics ix op).ages, (step_profileTopics ix op).ages⟩

theorem ages_watchStep (kind : Cluster.Kind) (ix : Index) (w : Discovery.Watch)
    (e : Discovery.WatchEvent) : ix.Ages (w.step kind ix e).1 :=
  Discovery.Server.watchStep_invariant (fun ix' r h => h.trans (ages_perform ix' (.apply r)))
    (fun ix' kind ns name h => h.trans (ages_perform ix' (.delete kind ns name))) kind w e
    (.refl ix)

end Index

namespace Discovery

open Cluster Listener

/-! ## The server -/

namespace Server

/-- What can happen to the server if subscribing can fail. -/
inductive Occurrence where
  | operation (op : Operation)
  /-- A lookup whose target cannot be subscribed to. -/
  | failure (rpc : Rpc) (path reason : String)

/-- Whether a lookup of a kind is made. -/
def Occurrence.isCall (rpc : Rpc) : Occurrence → Bool
  | .operation (.get _) => rpc = .get
  | .operation (.getProfile _) => rpc = .getProfile
  | .failure rpc' _ _ => rpc = rpc'
  | _ => false

/-- The counters of a kind of lookup. -/
def counters (s : Server) : Rpc → LookupCounters
  | .get => s.getCounters
  | .getProfile => s.profileCounters

/-- Changes the counters of a kind of lookup. -/
def count (s : Server) (rpc : Rpc) (f : LookupCounters → LookupCounters) : Server :=
  match rpc with
  | .get => { s with getCounters := f s.getCounters }
  | .getProfile => { s with profileCounters := f s.profileCounters }

/-- A lookup whose target, if it has one, cannot be subscribed to. -/
def fail (s : Server) (rpc : Rpc) (path reason : String) : Server × Except Rejection Nat :=
  match lookup s.index.cluster.dnsDomain path fun _ => (.error reason : Except String Empty) with
  | .error e => (s.count rpc (·.reject e), .error e)

/-- What becomes of the server. -/
def meet (s : Server) : Occurrence → Server
  | .operation op => s.perform op
  | .failure rpc path reason => (s.fail rpc path reason).1

/-- What the clients of a kind of lookup see. -/
def sights (s : Server) : Rpc → Occurrence → List Sight
  | .get, .operation (.get path) => [.answer (s.get path).2]
  | .get, .operation (.read .get t limit) => Sight.ofReading t (s.readUpdates t limit).1
  | .get, .operation (.next .get t) => if hasNext s.endpointStreams t then [.message] else []
  | .get, .operation (.disconnect .get t) => [.ended t]
  | .get, .failure .get path reason => [.answer (s.fail .get path reason).2]
  | .getProfile, .operation (.getProfile path) => [.answer (s.getProfile path).2]
  | .getProfile, .operation (.read .getProfile t limit) =>
    Sight.ofReading t (s.readProfiles t limit).1
  | .getProfile, .operation (.next .getProfile t) =>
    if hasNext s.profileStreams t then [.message] else []
  | .getProfile, .operation (.disconnect .getProfile t) => [.ended t]
  | .getProfile, .failure .getProfile path reason => [.answer (s.fail .getProfile path reason).2]
  | _, _ => []

/-- What becomes of the server when things happen in order. -/
def meetAll (s : Server) (os : List Occurrence) : Server := os.foldl meet s

/-- What the clients of a kind of lookup see when things happen in order. -/
def seen (s : Server) (rpc : Rpc) : List Occurrence → List Sight
  | [] => []
  | o :: os => s.sights rpc o ++ (s.meet o).seen rpc os

/-- The books of both kinds of lookup agree with what their clients saw. -/
structure Booked (s : Server) (before : Rpc → List Sight) : Prop where
  get : Books s.index.endpointSubs s.endpointStreams s.getCounters (before .get)
  getProfile : Books s.index.profileSubs s.profileStreams s.profileCounters (before .getProfile)

theorem booked_start (c : ClusterInfo) : (start c).Booked fun _ => [] :=
  ⟨books_start, books_start⟩

variable {s : Server} {before : Rpc → List Sight}

/-! ## Lookups -/

theorem Booked.operation_get (h : s.Booked before) (path : String) :
    (s.get path).1.Booked fun rpc => before rpc ++ s.sights rpc (.operation (.get path)) := by
  have hget : Books (s.get path).1.index.endpointSubs (s.get path).1.endpointStreams
      (s.get path).1.getCounters (before .get ++ [.answer (s.get path).2]) := by
    unfold Server.get
    split
    · next e _ => exact h.get.append (.refl _) rfl (h.get.tallied.reject e)
    · next target _ => exact h.get.open_ ..
  have hprofile : Books (s.get path).1.index.profileSubs (s.get path).1.profileStreams
      (s.get path).1.profileCounters (before .getProfile ++ []) := by
    unfold Server.get
    split
    · exact h.getProfile.still (.refl _) rfl
    · exact h.getProfile.still (.refl _) rfl
  exact ⟨hget, hprofile⟩

theorem Booked.operation_getProfile (h : s.Booked before) (path : String) :
    (s.getProfile path).1.Booked
      fun rpc => before rpc ++ s.sights rpc (.operation (.getProfile path)) := by
  have hget : Books (s.getProfile path).1.index.endpointSubs (s.getProfile path).1.endpointStreams
      (s.getProfile path).1.getCounters (before .get ++ []) := by
    unfold Server.getProfile
    split
    · exact h.get.still (.refl _) rfl
    · exact h.get.still (.refl _) rfl
  have hprofile : Books (s.getProfile path).1.index.profileSubs
      (s.getProfile path).1.profileStreams (s.getProfile path).1.profileCounters
      (before .getProfile ++ [.answer (s.getProfile path).2]) := by
    unfold Server.getProfile
    split
    · next e _ => exact h.getProfile.append (.refl _) rfl (h.getProfile.tallied.reject e)
    · next target _ => exact h.getProfile.open_ ..
  exact ⟨hget, hprofile⟩

/-- A lookup that fails is refused for its text or for its target. -/
theorem fail_eq (s : Server) (rpc : Rpc) (path reason : String) :
    ∃ e, s.fail rpc path reason = (s.count rpc (·.reject e), .error e) := by
  unfold fail
  split
  exact ⟨_, rfl⟩

theorem Booked.failure (h : s.Booked before) (rpc : Rpc) (path reason : String) :
    (s.fail rpc path reason).1.Booked
      fun rpc' => before rpc' ++ s.sights rpc' (.failure rpc path reason) := by
  obtain ⟨e, he⟩ := fail_eq s rpc path reason
  cases rpc with
  | get =>
    have hget := h.get.append (.refl _) rfl (h.get.tallied.reject e)
    have hprofile := h.getProfile.still (.refl _) rfl
    rw [he]
    refine ⟨?_, hprofile⟩
    rw [sights, he]
    exact hget
  | getProfile =>
    have hget := h.get.still (.refl _) rfl
    have hprofile := h.getProfile.append (.refl _) rfl (h.getProfile.tallied.reject e)
    rw [he]
    refine ⟨hget, ?_⟩
    rw [sights, he]
    exact hprofile

/-! ## Clients of streams -/

theorem Booked.read (h : s.Booked before) (rpc : Rpc) (t : Nat) (limit : Option Nat) :
    (s.perform (.read rpc t limit)).Booked
      fun rpc' => before rpc' ++ s.sights rpc' (.operation (.read rpc t limit)) := by
  cases rpc with
  | get => exact ⟨h.get.readIn .., h.getProfile.still (.refl _) rfl⟩
  | getProfile => exact ⟨h.get.still (.refl _) rfl, h.getProfile.readIn ..⟩

theorem Booked.next (h : s.Booked before) (rpc : Rpc) (t : Nat) :
    (s.next rpc t).Booked fun rpc' => before rpc' ++ s.sights rpc' (.operation (.next rpc t)) := by
  cases rpc with
  | get => exact ⟨h.get.nextIn t, h.getProfile.still (.refl _) rfl⟩
  | getProfile => exact ⟨h.get.still (.refl _) rfl, h.getProfile.nextIn t⟩

theorem Booked.disconnect (h : s.Booked before) (rpc : Rpc) (t : Nat) :
    (s.disconnect rpc t).Booked
      fun rpc' => before rpc' ++ s.sights rpc' (.operation (.disconnect rpc t)) := by
  cases rpc with
  | get => exact ⟨h.get.dropIn t, h.getProfile.still (.refl _) rfl⟩
  | getProfile => exact ⟨h.get.still (.refl _) rfl, h.getProfile.dropIn t⟩

/-! ## What clients do not see -/

/-- Whether no client sees an operation. -/
def Operation.isSilent : Operation → Bool
  | .get _ | .getProfile _ | .read .. | .next .. | .disconnect .. => false
  | _ => true

theorem sights_of_isSilent {op : Operation} (h : op.isSilent = true) (rpc : Rpc) :
    s.sights rpc (.operation op) = [] := by
  cases op with
  | get _ | getProfile _ | read _ _ _ | next _ _ | disconnect _ _ => cases h
  | _ => cases rpc <;> rfl

/-- From `s` to `s'` nothing happens to counters, and no stream is opened or ends. -/
structure Idle (s s' : Server) : Prop where
  ages : s.index.Ages s'.index
  endpoints : roll s'.endpointStreams = roll s.endpointStreams
  profiles : roll s'.profileStreams = roll s.profileStreams
  getCounters : s'.getCounters = s.getCounters
  profileCounters : s'.profileCounters = s.profileCounters

theorem Idle.of_ages {s s' : Server} (h : s.index.Ages s'.index)
    (hendpoints : s'.endpointStreams = s.endpointStreams)
    (hprofiles : s'.profileStreams = s.profileStreams) (hget : s'.getCounters = s.getCounters)
    (hprofile : s'.profileCounters = s.profileCounters) : Idle s s' :=
  ⟨h, congrArg roll hendpoints, congrArg roll hprofiles, hget, hprofile⟩

/-- Only listeners within the process, watches, or whether the server shuts down change. -/
theorem Idle.of_index {s s' : Server} (hindex : s'.index = s.index)
    (hendpoints : s'.endpointStreams = s.endpointStreams)
    (hprofiles : s'.profileStreams = s.profileStreams) (hget : s'.getCounters = s.getCounters)
    (hprofile : s'.profileCounters = s.profileCounters) : Idle s s' :=
  .of_ages (hindex ▸ .refl s.index) hendpoints hprofiles hget hprofile

theorem Booked.idle {s' : Server} (h : s.Booked before) (hidle : Idle s s') : s'.Booked before where
  get := hidle.getCounters ▸ h.get.idle hidle.ages.endpoints hidle.endpoints
  getProfile := hidle.profileCounters ▸ h.getProfile.idle hidle.ages.profiles hidle.profiles

theorem idle_unsubscribe (s : Server) (ref : ListenerRef) : Idle s (s.unsubscribe ref) := by
  obtain ⟨feed, t⟩ := ref
  cases feed with
  | endpoints =>
    exact .of_ages (Index.ages_perform s.index (.onEndpoints t .unsubscribe)) rfl rfl rfl rfl
  | profile =>
    exact .of_ages (Index.ages_perform s.index (.onProfile t .unsubscribe)) rfl rfl rfl rfl

theorem idle_turn (s : Server) (ref : ListenerRef) (notices : Bool) :
    Idle s (s.turn ref notices) := by
  obtain ⟨feed, t⟩ := ref
  cases feed with
  | endpoints =>
    exact .of_ages ⟨(turnIn_ages events notices t _ s.endpointListeners).1, .refl _⟩ rfl rfl rfl rfl
  | profile =>
    exact .of_ages ⟨.refl _, (turnIn_ages events notices t _ s.profileListeners).1⟩ rfl rfl rfl rfl

theorem idle_turnStream (s : Server) (rpc : Rpc) (t : Nat) (notices : Bool) :
    Idle s (s.turnStream rpc t notices) := by
  cases rpc with
  | get =>
    obtain ⟨hages, hroll⟩ :=
      turnStreamIn_ages updates notices t s.index.endpointSubs s.endpointStreams
    exact ⟨⟨hages, .refl _⟩, hroll, rfl, rfl, rfl⟩
  | getProfile =>
    obtain ⟨hages, hroll⟩ := turnStreamIn_ages (profileMessages s.index.cluster) notices t
      s.index.profileSubs s.profileStreams
    exact ⟨⟨.refl _, hages⟩, rfl, hroll, rfl, rfl⟩

theorem idle_settle (s : Server) : Idle s s.settle := by
  obtain ⟨hlisten, -⟩ := settleAll_ages events s.endpointListeners s.index.endpointSubs
  obtain ⟨hages, hroll⟩ := settleStreams_ages updates
    (settleAll events s.index.endpointSubs s.endpointListeners).1 s.endpointStreams
  obtain ⟨hlisten', -⟩ := settleAll_ages events s.profileListeners s.index.profileSubs
  obtain ⟨hages', hroll'⟩ := settleStreams_ages (profileMessages s.index.cluster)
    (settleAll events s.index.profileSubs s.profileListeners).1 s.profileStreams
  exact ⟨⟨hlisten.trans hages, hlisten'.trans hages'⟩, hroll, hroll', rfl, rfl⟩

theorem idle_watchEvent (s : Server) (kind : Kind) (w : Watch) (e : WatchEvent) :
    Idle s (s.watchEvent kind w e) := by
  obtain ⟨watches, priming, heq⟩ := watchEvent_eq s kind w e
  rw [heq]
  exact .of_ages (Index.ages_watchStep kind s.index w e) rfl rfl rfl rfl

theorem idle_takePrimed (s : Server) : Idle s s.takePrimed.1 := by
  unfold takePrimed
  split
  · exact .of_index rfl rfl rfl rfl rfl
  · split <;> exact .of_index rfl rfl rfl rfl rfl

/-- What no client sees opens and ends no stream and counts nothing. -/
theorem idle_perform (s : Server) {op : Operation} (h : op.isSilent = true) :
    Idle s (s.perform op) := by
  cases op with
  | get _ | getProfile _ | read _ _ _ | next _ _ | disconnect _ _ => cases h
  | apply r => exact .of_ages (Index.ages_perform s.index (.apply r)) rfl rfl rfl rfl
  | delete kind ns name =>
    exact .of_ages (Index.ages_perform s.index (.delete kind ns name)) rfl rfl rfl rfl
  | listenEndpoints service port room =>
    exact .of_ages (Index.ages_perform s.index (.subscribeEndpoints service port)) rfl rfl rfl rfl
  | listenProfile service room =>
    exact .of_ages (Index.ages_perform s.index (.subscribeProfile service)) rfl rfl rfl rfl
  | unsubscribe ref => exact idle_unsubscribe s ref
  | close ref =>
    obtain ⟨feed, t⟩ := ref
    cases feed <;> exact .of_index rfl rfl rfl rfl rfl
  | grant ref n =>
    obtain ⟨feed, t⟩ := ref
    cases feed <;> exact .of_index rfl rfl rfl rfl rfl
  | takeEndpointEvents t =>
    change Idle s (s.takeEndpointEvents t).2.2
    unfold takeEndpointEvents
    split <;> exact .of_index rfl rfl rfl rfl rfl
  | takeProfileEvents t =>
    change Idle s (s.takeProfileEvents t).2.2
    unfold takeProfileEvents
    split <;> exact .of_index rfl rfl rfl rfl rfl
  | turn ref notices => exact idle_turn s ref notices
  | turnStream rpc t notices => exact idle_turnStream s rpc t notices
  | settle => exact idle_settle s
  | shutDown => exact .of_index rfl rfl rfl rfl rfl
  | startWatches kinds => exact .of_index rfl rfl rfl rfl rfl
  | endWatch kind => exact .of_index rfl rfl rfl rfl rfl
  | watchEvent kind w e => exact idle_watchEvent s kind w e
  | takePrimed => exact idle_takePrimed s

/-! ## Runs -/

/-- Whatever happens, the books agree with what clients see. -/
theorem Booked.meet (h : s.Booked before) (o : Occurrence) :
    (s.meet o).Booked fun rpc => before rpc ++ s.sights rpc o := by
  cases o with
  | failure rpc path reason => exact h.failure rpc path reason
  | operation op =>
    by_cases hsilent : op.isSilent = true
    · have hseen : (fun rpc => before rpc ++ s.sights rpc (.operation op)) = before :=
        funext fun rpc => by rw [sights_of_isSilent hsilent, List.append_nil]
      rw [hseen]
      exact h.idle (idle_perform s hsilent)
    · cases op with
      | get path => exact h.operation_get path
      | getProfile path => exact h.operation_getProfile path
      | read rpc t limit => exact h.read rpc t limit
      | next rpc t => exact h.next rpc t
      | disconnect rpc t => exact h.disconnect rpc t
      | _ => exact absurd rfl hsilent

theorem Booked.meetAll (os : List Occurrence) :
    ∀ {s : Server} {before : Rpc → List Sight}, s.Booked before →
      (s.meetAll os).Booked fun rpc => before rpc ++ s.seen rpc os := by
  induction os with
  | nil =>
    intro s before h
    have hseen : (fun rpc => before rpc ++ s.seen rpc []) = before :=
      funext fun rpc => List.append_nil _
    rw [hseen]
    exact h
  | cons o os ih =>
    intro s before h
    have hseen : (fun rpc => before rpc ++ s.seen rpc (o :: os)) =
        fun rpc => before rpc ++ s.sights rpc o ++ (s.meet o).seen rpc os :=
      funext fun rpc => (List.append_assoc _ _ _).symm
    rw [hseen]
    exact ih (h.meet o)

/-! ## Calls -/

theorem countP_isAnswer_ofReading {ο : Type} (t : Nat) (r : Stream.Reading ο) :
    (Sight.ofReading t r).countP Sight.isAnswer = 0 := by
  rw [Sight.ofReading, List.countP_append, List.countP_replicate, if_neg (by decide), Nat.zero_add]
  split <;> rfl

/-- A call is answered once, and nothing else is an answer. -/
theorem countP_isAnswer_sights (s : Server) (rpc : Rpc) (o : Occurrence) :
    (s.sights rpc o).countP Sight.isAnswer = if o.isCall rpc then 1 else 0 := by
  cases o with
  | failure rpc' path reason => cases rpc <;> cases rpc' <;> rfl
  | operation op =>
    cases op with
    | read rpc' t limit =>
      cases rpc <;> cases rpc' <;> first | rfl | exact countP_isAnswer_ofReading t _
    | next rpc' t =>
      cases rpc <;> cases rpc' <;> first | rfl | (dsimp only [sights]; split <;> rfl)
    | disconnect rpc' t => cases rpc <;> cases rpc' <;> rfl
    | _ => cases rpc <;> rfl

theorem countP_isAnswer_seen (rpc : Rpc) (os : List Occurrence) :
    ∀ s : Server, (s.seen rpc os).countP Sight.isAnswer = os.countP (·.isCall rpc) := by
  induction os with
  | nil => exact fun _ => rfl
  | cons o os ih =>
    intro s
    rw [seen, List.countP_append, countP_isAnswer_sights, ih, List.countP_cons, Nat.add_comm]

/-- In every run, whatever the order of lookups, reads, departures and all else, and whether lookups
are valid, malformed or fail, for each kind of lookup: the counters of all results add up to the
calls, and each is the number of answers of its result; the streams ever opened are those counted as
open and those counted as finished; those counted as open are the streams that were opened and whose
end no client has met or brought about; and the messages counted are those that clients got. -/
theorem counters_agree (c : ClusterInfo) (os : List Occurrence) (rpc : Rpc) :
    let k := ((start c).meetAll os).counters rpc
    let seen := (start c).seen rpc os
    k.lookups = os.countP (·.isCall rpc) ∧
    (k.subscribed = seen.countP Sight.isOpening ∧
      k.invalidPath = seen.countP Sight.isInvalidPath ∧
      k.failed = seen.countP Sight.isFailure) ∧
    k.subscribed = k.streams + k.finished ∧
    (k.streams = (Sight.live seen).length ∧ (Sight.live seen).Nodup) ∧
    k.updates = seen.countP Sight.isMessage := by
  intro k seen
  have hbooks := Booked.meetAll os (booked_start c)
  obtain ⟨r, hnodup, htally⟩ : ∃ r, (r.map (·.1)).Nodup ∧ Tallied k r seen := by
    cases rpc with
    | get => exact ⟨_, hbooks.get.nodup, hbooks.get.tallied⟩
    | getProfile => exact ⟨_, hbooks.getProfile.nodup, hbooks.getProfile.tallied⟩
  refine ⟨?_, ⟨htally.subscribed, htally.invalidPath, htally.failed⟩, htally.balance, ⟨?_, ?_⟩,
    htally.updates⟩
  · rw [htally.lookups, countP_isAnswer_seen]
  · rw [htally.live, htally.streams]
  · rw [htally.live]
    exact hnodup.sublist (sublist_openOn r)

end Server

end Discovery

end MeshDestination
