import Mathlib.Data.List.Find
import Mathlib.Data.List.Nodup
import MeshDestination.Index.Subscription

/-!
# Subscriptions: logs and tickets

* What a subscription ever accepted (`Subscription.log`) only grows by events it is offered while it
  is registered, and keeps its order whatever its listener or its subscriber does.
* A subscription that is not registered never is again.
* What becomes of a subscription does not depend on its topic, its number and its ticket.
* Tickets number the subscriptions in their order (`Subscriptions.Numbered`), so that a change to
  the subscription of one ticket leaves every other one as it was.
-/

namespace MeshDestination

namespace Subscription

variable {τ ε : Type}

/-- What a subscriber or a listener does to a subscription. -/
inductive Action where
  /-- The subscriber ends it. -/
  | unsubscribe
  /-- The listener goes away, for instance because its liveness signal has fired. -/
  | stop
  /-- The listener receives the oldest event of the queue. -/
  | receive
  deriving DecidableEq

/-- Performs an action. -/
def perform (s : Subscription τ ε) : Action → Subscription τ ε
  | .unsubscribe => s.unsubscribe
  | .stop => s.stop
  | .receive => s.receive

/-- The subscription `after` is `before` with the same log, and registered only if `before` is. -/
structure Retains (before after : Subscription τ ε) : Prop where
  topic : after.topic = before.topic
  ticket : after.ticket = before.ticket
  log : after.log = before.log
  isRegistered : after.isRegistered = true → before.isRegistered = true

theorem Retains.refl (s : Subscription τ ε) : s.Retains s := ⟨rfl, rfl, rfl, id⟩

theorem Retains.trans {s s' s'' : Subscription τ ε} (h : s.Retains s') (h' : s'.Retains s'') :
    s.Retains s'' :=
  ⟨h'.topic.trans h.topic, h'.ticket.trans h.ticket, h'.log.trans h.log,
    fun hreg => h.isRegistered (h'.isRegistered hreg)⟩

theorem retains_receive (s : Subscription τ ε) : s.Retains s.receive := by
  unfold receive
  cases hq : s.queue with
  | nil => exact .refl s
  | cons e r =>
    refine ⟨rfl, rfl, ?_, id⟩
    simp only [log, hq, List.append_assoc, List.singleton_append]

theorem retains_stop (s : Subscription τ ε) : s.Retains s.stop :=
  ⟨rfl, rfl, rfl, fun h => by simp [stop, isRegistered] at h⟩

theorem retains_unsubscribe (s : Subscription τ ε) : s.Retains s.unsubscribe := by
  unfold unsubscribe
  split
  · exact retains_stop s
  · exact .refl s

theorem retains_perform (s : Subscription τ ε) (a : Action) : s.Retains (s.perform a) := by
  cases a with
  | unsubscribe => exact retains_unsubscribe s
  | stop => exact retains_stop s
  | receive => exact retains_receive s

/-! ## Offered events -/

@[simp] theorem topic_offer (s : Subscription τ ε) (e : ε) : (s.offer e).topic = s.topic := by
  unfold offer
  split
  · split <;> rfl
  · rfl

@[simp] theorem ticket_offer (s : Subscription τ ε) (e : ε) : (s.offer e).ticket = s.ticket := by
  unfold offer
  split
  · split <;> rfl
  · rfl

@[simp] theorem received_offer (s : Subscription τ ε) (e : ε) :
    (s.offer e).received = s.received := by
  unfold offer
  split
  · split <;> rfl
  · rfl

/-- A subscription that is not registered ignores what it is offered. -/
theorem offer_of_not_registered {s : Subscription τ ε} (h : ¬s.isRegistered = true) (e : ε) :
    s.offer e = s := by
  rw [offer, if_neg h]

theorem not_registered_of_lagged {s : Subscription τ ε} (lag : s.standing = .lagged) :
    ¬s.isRegistered = true := by
  simp [isRegistered, lag]

theorem isRegistered_of_offer {s : Subscription τ ε} {e : ε} (h : (s.offer e).isRegistered = true) :
    s.isRegistered = true := by
  by_cases hs : s.isRegistered = true
  · exact hs
  · rwa [offer_of_not_registered hs] at h

/-- An event is accepted if and only if the subscription is registered afterwards. -/
theorem log_offer (s : Subscription τ ε) (e : ε) :
    (s.offer e).log = s.log ++ if (s.offer e).isRegistered then [e] else [] := by
  unfold offer
  by_cases hs : s.isRegistered = true
  · rw [if_pos hs]
    split
    · have kept : ({ s with queue := s.queue ++ [e] } : Subscription τ ε).isRegistered = true := hs
      rw [if_pos kept]
      simp only [log, List.append_assoc]
    · rw [if_neg (by simp [isRegistered]), List.append_nil]
      rfl
  · rw [if_neg hs, if_neg hs, List.append_nil]

theorem topic_foldl_offer (es : List ε) :
    ∀ s : Subscription τ ε, (es.foldl offer s).topic = s.topic := by
  induction es with
  | nil => exact fun _ => rfl
  | cons e es ih =>
    intro s
    rw [List.foldl_cons, ih, topic_offer]

theorem ticket_foldl_offer (es : List ε) :
    ∀ s : Subscription τ ε, (es.foldl offer s).ticket = s.ticket := by
  induction es with
  | nil => exact fun _ => rfl
  | cons e es ih =>
    intro s
    rw [List.foldl_cons, ih, ticket_offer]

/-- A subscription that is registered after some offers was so before and has accepted them all. -/
theorem log_foldl_offer (es : List ε) :
    ∀ s : Subscription τ ε, (es.foldl offer s).isRegistered = true →
      s.isRegistered = true ∧ (es.foldl offer s).log = s.log ++ es := by
  induction es with
  | nil => exact fun s h => ⟨h, (List.append_nil _).symm⟩
  | cons e es ih =>
    intro s h
    rw [List.foldl_cons] at h ⊢
    obtain ⟨hreg, hlog⟩ := ih _ h
    refine ⟨isRegistered_of_offer hreg, ?_⟩
    rw [hlog, log_offer, if_pos hreg, List.append_assoc, List.singleton_append]

/-- The subscription `after` is `before` with more events in its queue, or no longer registered.
Once it is not registered, nothing changes any more. -/
structure Extends (before after : Subscription τ ε) : Prop where
  topic : after.topic = before.topic
  ticket : after.ticket = before.ticket
  received : after.received = before.received
  queue : before.queue <+: after.queue
  inert : ¬before.isRegistered = true → after = before

theorem Extends.refl (s : Subscription τ ε) : s.Extends s :=
  ⟨rfl, rfl, rfl, List.prefix_rfl, fun _ => rfl⟩

theorem Extends.trans {s s' s'' : Subscription τ ε} (h : s.Extends s') (h' : s'.Extends s'') :
    s.Extends s'' where
  topic := h'.topic.trans h.topic
  ticket := h'.ticket.trans h.ticket
  received := h'.received.trans h.received
  queue := h.queue.trans h'.queue
  inert hended := by
    have hs := h.inert hended
    subst hs
    exact h'.inert hended

theorem Extends.log {s s' : Subscription τ ε} (h : s.Extends s') : s.log <+: s'.log := by
  rw [Subscription.log, Subscription.log, h.received]
  exact (List.prefix_append_right_inj _).mpr h.queue

theorem extends_offer (s : Subscription τ ε) (e : ε) : s.Extends (s.offer e) where
  topic := topic_offer s e
  ticket := ticket_offer s e
  received := received_offer s e
  queue := by
    unfold offer
    split
    · split
      · exact List.prefix_append _ _
      · exact List.prefix_rfl
    · exact List.prefix_rfl
  inert h := offer_of_not_registered h e

theorem extends_foldl_offer (es : List ε) :
    ∀ s : Subscription τ ε, s.Extends (es.foldl offer s) := by
  induction es with
  | nil => exact fun s => .refl s
  | cons e es ih => exact fun s => (extends_offer s e).trans (ih _)

theorem extends_unsubscribe (s : Subscription τ ε) : s.Extends s.unsubscribe := by
  unfold unsubscribe
  split
  · exact ⟨rfl, rfl, rfl, List.prefix_rfl, fun h => absurd ‹_› h⟩
  · exact .refl s

/-! ## Names do not matter -/

section Names

variable {τ' : Type} (s : Subscription τ ε) (topic : τ') (number ticket : Nat)

/-- A subscription under another name. -/
def relabel : Subscription τ' ε := { s with topic, number, ticket }

theorem offer_relabel (e : ε) :
    (s.relabel topic number ticket).offer e = (s.offer e).relabel topic number ticket := by
  unfold offer
  change (if s.isRegistered = true then (if s.queue.length < s.capacity then _ else _) else _) = _
  split
  · split <;> rfl
  · rfl

theorem unsubscribe_relabel :
    (s.relabel topic number ticket).unsubscribe = s.unsubscribe.relabel topic number ticket := by
  unfold unsubscribe
  change (if s.isRegistered = true then _ else _) = _
  split <;> rfl

theorem receive_relabel :
    (s.relabel topic number ticket).receive = s.receive.relabel topic number ticket := by
  obtain ⟨_, _, _, capacity, received, queue, standing⟩ := s
  cases queue <;> rfl

end Names

end Subscription

namespace Subscriptions

variable {τ ε : Type}

/-! ## Members after a change -/

theorem mem_publish {s : Subscriptions τ ε} {events : τ → List ε} {sub' : Subscription τ ε}
    (h : sub' ∈ (s.publish events).entries) :
    ∃ sub ∈ s.entries, sub' = (events sub.topic).foldl Subscription.offer sub := by
  obtain ⟨sub, hsub, rfl⟩ := List.mem_map.mp h
  exact ⟨sub, hsub, rfl⟩

theorem watches_of_mem [DecidableEq τ] {s : Subscriptions τ ε} {sub : Subscription τ ε}
    (hsub : sub ∈ s.entries) (hreg : sub.isRegistered = true) : s.watches sub.topic = true := by
  rw [watches, List.any_eq_true]
  exact ⟨sub, hsub, by simp [hreg]⟩

theorem mem_of_watches [DecidableEq τ] {s : Subscriptions τ ε} {topic : τ}
    (h : s.watches topic = true) :
    ∃ sub ∈ s.entries, sub.isRegistered = true ∧ sub.topic = topic := by
  obtain ⟨sub, hsub, hreg⟩ := List.any_eq_true.mp h
  obtain ⟨hreg, htopic⟩ := Bool.and_eq_true_iff.mp hreg
  exact ⟨sub, hsub, hreg, of_decide_eq_true htopic⟩

/-- Nothing changes where there is nothing to tell. -/
theorem publish_nil (s : Subscriptions τ ε) : s.publish (fun _ => []) = s := by
  simp [publish]

/-! ## Tickets -/

/-- The tickets count the subscriptions from zero. -/
def Numbered (s : Subscriptions τ ε) : Prop := s.entries.map (·.ticket) = List.range s.nextTicket

theorem numbered_empty : Numbered ({} : Subscriptions τ ε) := rfl

theorem Numbered.subscribe {s : Subscriptions τ ε} (h : s.Numbered) (topic : τ)
    (number capacity : Nat) (initial : List ε) :
    (s.subscribe topic number capacity initial).Numbered := by
  unfold Numbered at h ⊢
  simp only [Subscriptions.subscribe, List.map_append, List.map_cons, List.map_nil, h,
    List.range_succ]

theorem Numbered.map {s : Subscriptions τ ε} (h : s.Numbered)
    {f : Subscription τ ε → Subscription τ ε} (hf : ∀ sub, (f sub).ticket = sub.ticket) :
    Numbered { s with entries := s.entries.map f } := by
  unfold Numbered at h ⊢
  rw [← h, List.map_map]
  exact List.map_congr_left fun sub _ => hf sub

theorem ticket_modify {t : Nat} {f : Subscription τ ε → Subscription τ ε}
    (hf : ∀ sub, sub.ticket = t → (f sub).ticket = t) (sub : Subscription τ ε) :
    (if sub.ticket = t then f sub else sub).ticket = sub.ticket := by
  split
  · rw [hf sub ‹_›, ‹sub.ticket = t›]
  · rfl

theorem Numbered.modify {s : Subscriptions τ ε} (h : s.Numbered) {t : Nat}
    {f : Subscription τ ε → Subscription τ ε} (hf : ∀ sub, sub.ticket = t → (f sub).ticket = t) :
    (s.modify t f).Numbered := h.map (ticket_modify hf)

theorem Numbered.publish {s : Subscriptions τ ε} (h : s.Numbered) (events : τ → List ε) :
    (s.publish events).Numbered := h.map fun sub => Subscription.ticket_foldl_offer _ sub

/-! ## The subscription of a ticket -/

theorem find?_subscribe {s : Subscriptions τ ε} {t : Nat} {sub : Subscription τ ε}
    (h : s.find? t = some sub) (topic : τ) (number capacity : Nat) (initial : List ε) :
    (s.subscribe topic number capacity initial).find? t = some sub := by
  unfold find? at h ⊢
  rw [Subscriptions.subscribe, List.find?_append, h]
  rfl

/-- A new subscription has the next ticket. -/
theorem find?_subscribe_self {s : Subscriptions τ ε} (hs : s.Numbered) (topic : τ)
    (number capacity : Nat) (initial : List ε) :
    (s.subscribe topic number capacity initial).find? s.nextTicket = some {
      topic, number, ticket := s.nextTicket, queue := initial,
      capacity := max (max capacity minCapacity) initial.length } := by
  have older : s.entries.find? (·.ticket == s.nextTicket) = none := by
    rw [List.find?_eq_none]
    intro sub hsub heq
    have hmem : sub.ticket ∈ s.entries.map (·.ticket) := List.mem_map_of_mem hsub
    rw [hs, List.mem_range] at hmem
    exact absurd (beq_iff_eq.mp heq) (Nat.ne_of_lt hmem)
  unfold find?
  rw [Subscriptions.subscribe, List.find?_append, older]
  simp

theorem find?_map {s : Subscriptions τ ε} {f : Subscription τ ε → Subscription τ ε}
    (hf : ∀ sub ∈ s.entries, (f sub).ticket = sub.ticket) (t : Nat) :
    ({ s with entries := s.entries.map f } : Subscriptions τ ε).find? t = (s.find? t).map f := by
  unfold find?
  rw [List.find?_map]
  congr 1
  apply List.find?_congr
  intro sub hsub
  simp [hf sub hsub]

theorem find?_publish (s : Subscriptions τ ε) (events : τ → List ε) (t : Nat) :
    (s.publish events).find? t =
      (s.find? t).map fun sub => (events sub.topic).foldl Subscription.offer sub :=
  find?_map (fun sub _ => Subscription.ticket_foldl_offer _ sub) t

theorem ticket_of_find? {s : Subscriptions τ ε} {t : Nat} {sub : Subscription τ ε}
    (h : s.find? t = some sub) : sub.ticket = t := by
  simpa using List.find?_some h

theorem mem_of_find? {s : Subscriptions τ ε} {t : Nat} {sub : Subscription τ ε}
    (h : s.find? t = some sub) : sub ∈ s.entries := List.mem_of_find?_eq_some h

/-- No two subscriptions have one ticket. -/
theorem find?_of_mem {s : Subscriptions τ ε} (hs : s.Numbered) {sub : Subscription τ ε}
    (hsub : sub ∈ s.entries) : s.find? sub.ticket = some sub := by
  have hsome : (s.find? sub.ticket).isSome = true :=
    List.find?_isSome.mpr ⟨sub, hsub, beq_self_eq_true _⟩
  obtain ⟨other, hother⟩ := Option.isSome_iff_exists.mp hsome
  have hnodup : (s.entries.map (·.ticket)).Nodup := by
    rw [hs]
    exact List.nodup_range
  have heq := List.inj_on_of_nodup_map hnodup (mem_of_find? hother) hsub (ticket_of_find? hother)
  rw [hother, heq]

theorem lt_of_find? {s : Subscriptions τ ε} (hs : s.Numbered) {t : Nat} {sub : Subscription τ ε}
    (h : s.find? t = some sub) : t < s.nextTicket := by
  have hmem : sub.ticket ∈ s.entries.map (·.ticket) := List.mem_map_of_mem (mem_of_find? h)
  rwa [hs, List.mem_range, ticket_of_find? h] at hmem

theorem exists_find? {s : Subscriptions τ ε} (hs : s.Numbered) {t : Nat} (h : t < s.nextTicket) :
    ∃ sub, s.find? t = some sub := by
  have hmem : t ∈ s.entries.map (·.ticket) := by rwa [hs, List.mem_range]
  obtain ⟨sub, hsub, rfl⟩ := List.mem_map.mp hmem
  exact ⟨sub, find?_of_mem hs hsub⟩

theorem find?_modify {s : Subscriptions τ ε} {t : Nat} {f : Subscription τ ε → Subscription τ ε}
    (hf : ∀ sub, sub.ticket = t → (f sub).ticket = t) (u : Nat) :
    (s.modify t f).find? u = (s.find? u).map fun sub => if u = t then f sub else sub := by
  unfold modify
  rw [find?_map (fun sub _ => ticket_modify hf sub) u]
  cases h : s.find? u with
  | none => rfl
  | some sub => simp only [Option.map_some, ticket_of_find? h]

/-! ## Subscriptions that keep their logs -/

/-- The subscriptions `after` are those of `before`, each with the same log, and registered only if
it was before. -/
def Retains (before after : Subscriptions τ ε) : Prop :=
  ∃ f, (∀ sub ∈ before.entries, sub.Retains (f sub)) ∧
    after = { before with entries := before.entries.map f }

theorem Retains.refl (s : Subscriptions τ ε) : s.Retains s :=
  ⟨id, fun sub _ => .refl sub, by rw [List.map_id]⟩

theorem Retains.trans {s s' s'' : Subscriptions τ ε} (h : s.Retains s') (h' : s'.Retains s'') :
    s.Retains s'' := by
  obtain ⟨f, hf, rfl⟩ := h
  obtain ⟨g, hg, rfl⟩ := h'
  refine ⟨g ∘ f, fun sub hsub => (hf sub hsub).trans (hg _ (List.mem_map_of_mem hsub)), ?_⟩
  rw [List.map_map]

theorem Retains.numbered {s s' : Subscriptions τ ε} (h : s.Retains s') (hs : s.Numbered) :
    s'.Numbered := by
  obtain ⟨f, hf, rfl⟩ := h
  unfold Numbered at hs ⊢
  rw [← hs, List.map_map]
  exact List.map_congr_left fun sub hsub => (hf sub hsub).ticket

theorem Retains.mem {s s' : Subscriptions τ ε} (h : s.Retains s') {sub' : Subscription τ ε}
    (hsub' : sub' ∈ s'.entries) : ∃ sub ∈ s.entries, sub.Retains sub' := by
  obtain ⟨f, hf, rfl⟩ := h
  obtain ⟨sub, hsub, rfl⟩ := List.mem_map.mp hsub'
  exact ⟨sub, hsub, hf sub hsub⟩

theorem Retains.find? {s s' : Subscriptions τ ε} (h : s.Retains s') {t : Nat}
    {sub : Subscription τ ε} (hsub : s.find? t = some sub) :
    ∃ sub', s'.find? t = some sub' ∧ sub.Retains sub' := by
  obtain ⟨f, hf, rfl⟩ := h
  refine ⟨f sub, ?_, hf sub (mem_of_find? hsub)⟩
  rw [find?_map (fun sub hsub => (hf sub hsub).ticket) t, hsub]
  rfl

theorem retains_modify {s : Subscriptions τ ε} {t : Nat} {f : Subscription τ ε → Subscription τ ε}
    (hf : ∀ sub ∈ s.entries, sub.ticket = t → sub.Retains (f sub)) : s.Retains (s.modify t f) := by
  refine ⟨fun sub => if sub.ticket = t then f sub else sub, fun sub hsub => ?_, rfl⟩
  dsimp only
  split
  · exact hf sub hsub ‹_›
  · exact .refl sub

end Subscriptions

end MeshDestination
