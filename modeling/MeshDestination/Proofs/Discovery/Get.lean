import MeshDestination.Proofs.Discovery.Run
import MeshDestination.Proofs.Discovery.Wire

/-!
# Clients know the endpoints of their port

What a client of endpoints is sent are the messages for the events of its subscription, in order
from the first one, whatever the order of the operations of the server, the turns of listeners and
the reads of clients. So a client that has read all of them while its subscription is registered
knows the endpoints of its port (`Server.sent_follows_port`).
-/

namespace MeshDestination.Discovery

open Net Listener

namespace Stream

variable {τ ε ο : Type} {items : ε → List ο} {sub : Subscription τ ε} {stream : Stream ο}

/-- What a client has read is a part from the start of what its subscription is worth. -/
theorem sent_prefix (h : stream.listener.Follows items sub) :
    stream.sent <+: sub.log.flatMap items := by
  have hsent : stream.sent <+: stream.listener.handed ++ stream.listener.inHand := by
    rw [sent, handed, List.append_assoc]
    exact List.prefix_append _ _
  exact hsent.trans h.handed_log

/-- While the subscription is registered, what is not read is still to come. -/
theorem sent_append_pending (h : stream.listener.Follows items sub)
    (hreg : sub.isRegistered = true) :
    stream.sent ++ (stream.listener.outbox ++ stream.listener.inHand ++ sub.queue.flatMap items) =
      sub.log.flatMap items := by
  have hended : stream.listener.hasEnded = false := by
    by_contra hended
    exact h.unregistered (by simpa using hended) hreg
  rw [Subscription.log, List.flatMap_append, ← h.live hended, sent, handed]
  simp only [List.append_assoc]

/-- Everything is read if and only if nothing is to come. -/
theorem sent_eq_iff (h : stream.listener.Follows items sub) (hreg : sub.isRegistered = true) :
    stream.sent = sub.log.flatMap items ↔ stream.pending items sub = 0 := by
  rw [← sent_append_pending h hreg, List.self_eq_append_right, ← List.length_eq_zero_iff,
    List.length_append, List.length_append, pending]

end Stream

namespace Server

variable {s : Server}

/-- A lookup that is answered with a ticket has found its target. -/
theorem target_of_get {path : String} {ticket : Nat} (h : (s.get path).2 = .ok ticket) :
    ticket = s.index.endpointSubs.nextTicket ∧
      ∃ target, Target.ofText? s.index.cluster.dnsDomain path = some target := by
  unfold Server.get at h
  rw [lookup] at h
  cases ht : Target.ofText? s.index.cluster.dnsDomain path with
  | none =>
    rw [ht] at h
    cases h
  | some target =>
    rw [ht] at h
    refine ⟨?_, target, rfl⟩
    cases h
    rfl

/-- A new stream has a subscription whose first events are those of its port. -/
theorem opened_of_get (h : s.Attached) {path : String} {target : Target}
    (ht : Target.ofText? s.index.cluster.dnsDomain path = some target) :
    ∃ sub opened,
      s.index.endpointSubs.nextTicket ∈ (s.get path).1.feeders.map (·.ticket) ∧
      (s.get path).1.index.endpointSubs.find? s.index.endpointSubs.nextTicket = some sub ∧
      sub.topic = (target.service, target.port) ∧
      (s.get path).1.index.port? (target.service, target.port) = some opened ∧
      sub.log = opened.initialEvents := by
  have hport := (Index.port?_subscribeEndpoints s.index target.service target.port
    (target.service, target.port)).trans (if_pos rfl)
  rw [get_of_target ht]
  have hfind := Subscriptions.find?_subscribe_self h.numbered (target.service, target.port)
    (s.index.opening target.service target.port).nextNumber s.index.cluster.queueCapacity
    (s.index.opening target.service target.port).initialEvents
  refine ⟨_, _, ?_, hfind, rfl, hport, rfl⟩
  refine List.mem_map.mpr ⟨{ ticket := s.index.endpointSubs.nextTicket, room := some streamBuffer },
    ?_, rfl⟩
  exact List.mem_map.mpr ⟨_, List.mem_append_right _ (List.mem_singleton.mpr rfl), rfl⟩

/-- In every run, from any lookup on that opened a stream, the messages that its client has read are
a part from the start of those for the events of its subscription. None of them is empty, and the
first one tells the whole state of the port at the opening. While the subscription is registered,
the client has read all messages if and only if nothing is to come, and then it knows exactly the
endpoints of the port, with the labels of their owners. -/
theorem sent_follows_port {α : Type} [DecidableEq α] (c : ClusterInfo)
    (before after : List Operation) (path : String) (ticket : Nat) (wire : SocketAddr → α)
    (hwire : Function.Injective wire)
    (hget : (((start c).run before).get path).2 = .ok ticket) :
    ∃ target opened stream sub,
      Target.ofText? ((start c).run before).index.cluster.dnsDomain path = some target ∧
      ((start c).run (before ++ [.get path])).index.port? (target.service, target.port) =
        some opened ∧
      stream ∈ ((start c).run (before ++ .get path :: after)).endpointStreams ∧
      stream.listener.ticket = ticket ∧
      ((start c).run (before ++ .get path :: after)).index.endpointSubs.find? ticket = some sub ∧
      sub.topic = (target.service, target.port) ∧
      stream.sent <+: sub.log.flatMap (Update.ofEvent target.service) ∧
      (∀ u ∈ stream.sent, u.isEmpty = false) ∧
      (∀ u ∈ stream.sent.head?, u = Update.first target.service opened) ∧
      (sub.isRegistered = true →
        (stream.sent = sub.log.flatMap (Update.ofEvent target.service) ↔
          stream.pending (updates sub.topic) sub = 0) ∧
        (stream.sent = sub.log.flatMap (Update.ofEvent target.service) →
          ∃ ps, ((start c).run (before ++ .get path :: after)).index.port? sub.topic = some ps ∧
            Update.Shows wire (Update.known wire stream.sent) ps.addrs)) := by
  have hbefore := (Attached.run before (attached_start c)).attached
  obtain ⟨rfl, target, ht⟩ := target_of_get hget
  obtain ⟨sub₀, opened, hstream₀, hsub₀, htopic₀, hport₀, hlog₀⟩ := opened_of_get hbefore ht
  have hopened := hbefore.get path
  have hafter := Attached.run after hopened.attached
  have hrun : (start c).run (before ++ .get path :: after) =
      (((start c).run before).get path).1.run after := run_append _ _ _
  have hrun₀ : (start c).run (before ++ [.get path]) = (((start c).run before).get path).1 :=
    run_append _ _ _
  rw [hrun, hrun₀]
  -- The stream and its subscription are still there after the opening.
  obtain ⟨l, hl, hticket⟩ := List.mem_map.mp (hafter.streams _ hstream₀)
  obtain ⟨stream, hstream, rfl⟩ := List.mem_map.mp hl
  obtain ⟨sub, hsub, htopic, hlog⟩ := hafter.subs _ sub₀ hsub₀
  rw [htopic₀] at htopic
  obtain ⟨sub', hsub', hfollows⟩ := hafter.attached.streams _ hl
  rw [hticket, hsub] at hsub'
  cases hsub'
  have hitems : updates sub.topic = Update.ofEvent target.service := by
    rw [htopic]
    rfl
  rw [hitems] at hfollows
  have hsent := Stream.sent_prefix hfollows
  refine ⟨target, opened, stream, sub, ht, hport₀, hstream, hticket, hsub, htopic, hsent,
    fun u hu => ?_, fun u hu => ?_, fun hreg => ⟨?_, fun hall => ?_⟩⟩
  · obtain ⟨e, -, he⟩ := List.mem_flatMap.mp (hsent.subset hu)
    exact Update.isEmpty_of_mem_ofEvent he
  · have hfirst : [Update.first target.service opened] <+:
        sub.log.flatMap (Update.ofEvent target.service) := by
      obtain ⟨later, hlater⟩ := hlog
      rw [← hlater, hlog₀, List.flatMap_append, Update.flatMap_initialEvents]
      exact List.prefix_append _ _
    obtain ⟨rest, hrest⟩ := hfirst
    obtain ⟨unread, hunread⟩ := hsent
    rw [← hrest] at hunread
    cases hread : stream.sent with
    | nil =>
      rw [hread] at hu
      cases hu
    | cons v read =>
      rw [hread] at hu hunread
      cases hu
      exact (List.cons.inj hunread).1
  · rw [hitems]
    exact Stream.sent_eq_iff hfollows hreg
  · obtain ⟨ps, hps, hview⟩ :=
      hafter.attached.consistent sub (Subscriptions.mem_of_find? hsub) hreg
    refine ⟨ps, hps, ?_⟩
    rw [hall]
    exact (Update.shows_known hwire target.service sub.log).congr hview

/-- A client that asks for a port with one endpoint, and has read what it was sent. -/
theorem sent_follows_port_web :
    let before := [.apply (.service Sample.service), .apply (.endpoints Sample.endpoints)]
    let after := [.turnStream .get 0 false, .turnStream .get 0 true, .next .get 0]
    let s := (start {}).run (before ++ .get "web.ns.svc.cluster.local:80" :: after)
    ∃ stream ps, stream ∈ s.endpointStreams ∧ s.index.port? (Sample.web, .http) = some ps ∧
      Update.Shows id (Update.known id stream.sent) ps.addrs := by
  intro before after s
  obtain ⟨target, opened, stream, sub, -, -, hstream, -, hsub, -, -, -, -, hread⟩ :=
    sent_follows_port {} before after "web.ns.svc.cluster.local:80" 0 id Function.injective_id
      (by decide +kernel)
  have hsub' : s.index.endpointSubs.find? 0 = some {
      topic := (Sample.web, .http), number := 0, ticket := 0, capacity := 100
      received := [.update [⟨Sample.backend, none⟩] []], queue := [] } := by decide +kernel
  have hstream' : s.endpointStreams = [{ listener := {
      ticket := 0, room := some 10
      taken := [.add [⟨Sample.backend, 10000, []⟩] [("namespace", "ns"), ("service", "web")]] } }] := by
    decide +kernel
  change s.index.endpointSubs.find? 0 = some sub at hsub
  change stream ∈ s.endpointStreams at hstream
  rw [hsub'] at hsub
  rw [hstream', List.mem_singleton] at hstream
  cases hsub
  subst hstream
  obtain ⟨hiff, hknown⟩ := hread rfl
  obtain ⟨ps, hps, hshows⟩ := hknown (hiff.mpr rfl)
  exact ⟨_, ps, by rw [hstream']; exact List.mem_singleton.mpr rfl, hps, hshows⟩

end Server

end MeshDestination.Discovery
