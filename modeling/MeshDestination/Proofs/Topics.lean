import MeshDestination.Proofs.Subscription

/-!
# Topics and their listeners

Service ports and the profiles of services reach their listeners in one way. A topic that is
listened to has a state. A new subscription starts with events that tell this state, and when the
state gives way to another, every subscription to the topic is offered events that tell the change
(`TopicState`). What operations do to topics is one of three things: states change and listeners are
told (`Topics.Moves`), a listener joins (`Topics.Subscribes`), or the subscriber or the listener of
one subscription acts (`Topics.Acts`).

* A relation between logs and states that holds at the start of a subscription, and that the events
  of a change keep, holds as long as the subscription is registered (`Topics.Upholds`); every log is
  the start of one that the relation holds of, also after its subscription ended (`Topics.Begins`).
* A subscription stays registered, with the kept state that gave it its number (`Topics.Held`),
  until an event finds its queue full or its own subscriber or listener ends it (`Topics.Keeps`).
-/

namespace MeshDestination

namespace Subscription

variable {τ ε : Type}

/-! ## What becomes of a subscription -/

/-- One of some events, offered in order, finds the queue full. -/
def Overflows (s : Subscription τ ε) (events : List ε) : Prop :=
  ∃ accepted e rest, events = accepted ++ e :: rest ∧
    s.capacity ≤ s.queue.length + accepted.length

/-- What becomes of a registered subscription that is offered `events`, or whose own subscriber or
listener does what `own` holds of. -/
inductive Outcome (before : Subscription τ ε) (events : List ε) (own : Action → Prop)
    (after : Subscription τ ε) : Prop
  /-- It stays registered and has accepted every event. -/
  | kept (registered : after.isRegistered = true) (log : after.log = before.log ++ events)
  /-- Its queue was full when an event arrived. -/
  | lagged (standing : after.standing = .lagged) (full : before.Overflows events)
  /-- It was unsubscribed, or its liveness signal fired. -/
  | ended {a : Action} (own : own a) (ends : a = .unsubscribe ∨ a = .stop)
    (standing : after.standing = .stopped)

theorem number_foldl_offer (es : List ε) :
    ∀ s : Subscription τ ε, (es.foldl offer s).number = s.number := by
  induction es with
  | nil => exact fun _ => rfl
  | cons e es ih =>
    intro s
    rw [List.foldl_cons, ih, offer]
    split
    · split <;> rfl
    · rfl

/-- What is offered is accepted from the first event on, as far as there is room. -/
theorem log_foldl_offer_prefix (s : Subscription τ ε) (es : List ε) :
    (es.foldl offer s).log <+: s.log ++ es := by
  induction es generalizing s with
  | nil => exact List.prefix_append _ _
  | cons e es ih =>
    rw [List.foldl_cons]
    by_cases hroom : (s.offer e).isRegistered = true
    · have hlog := ih (s.offer e)
      rwa [log_offer, if_pos hroom, List.append_assoc, List.singleton_append] at hlog
    · rw [((extends_foldl_offer es (s.offer e)).inert hroom), log_offer, if_neg hroom,
        List.append_nil]
      exact List.prefix_append _ _

theorem outcome_foldl_offer (es : List ε) (own : Action → Prop) :
    ∀ s : Subscription τ ε, s.isRegistered = true → s.Outcome es own (es.foldl offer s) := by
  induction es with
  | nil => exact fun s hreg => .kept hreg (List.append_nil _).symm
  | cons e es ih =>
    intro s hreg
    rw [List.foldl_cons]
    by_cases hroom : s.queue.length < s.capacity
    · have hoffer : s.offer e = { s with queue := s.queue ++ [e] } := by
        rw [offer, if_pos hreg, if_pos hroom]
      rw [hoffer]
      cases ih { s with queue := s.queue ++ [e] } hreg with
      | kept registered log =>
        refine .kept registered (log.trans ?_)
        simp only [Subscription.log, List.append_assoc, List.singleton_append]
      | lagged standing full =>
        obtain ⟨accepted, e', rest, rfl, hfull⟩ := full
        refine .lagged standing ⟨e :: accepted, e', rest, rfl, ?_⟩
        simp only [List.length_append, List.length_cons, List.length_nil] at hfull ⊢
        omega
      | ended hown ends standing => exact .ended hown ends standing
    · have hoffer : s.offer e = { s with standing := .lagged } := by
        rw [offer, if_pos hreg, if_neg hroom]
      have hinert : es.foldl offer (s.offer e) = s.offer e :=
        (extends_foldl_offer es _).inert (not_registered_of_lagged (by rw [hoffer]))
      rw [hinert, hoffer]
      exact .lagged rfl ⟨[], e, es, rfl, Nat.le_of_not_lt hroom⟩

theorem outcome_perform {s : Subscription τ ε} (hreg : s.isRegistered = true)
    {own : Action → Prop} {a : Action} (hown : own a) : s.Outcome [] own (s.perform a) := by
  cases a with
  | unsubscribe =>
    refine .ended hown (.inl rfl) ?_
    rw [perform, unsubscribe, if_pos hreg]
  | stop => exact .ended hown (.inr rfl) rfl
  | receive =>
    have hlog := (retains_receive s).log
    refine .kept ?_ (hlog.trans (List.append_nil _).symm)
    rw [perform, receive]
    split
    · exact hreg
    · exact hreg

theorem number_perform (s : Subscription τ ε) (a : Action) : (s.perform a).number = s.number := by
  cases a with
  | unsubscribe =>
    rw [perform, unsubscribe]
    split <;> rfl
  | stop => rfl
  | receive =>
    rw [perform, receive]
    split <;> rfl

end Subscription

/-- A topic that is not told anything is listened to as before. -/
theorem Subscriptions.watches_publish {τ ε : Type} [DecidableEq τ] {s : Subscriptions τ ε}
    {events : τ → List ε} {topic : τ} (hnil : events topic = []) (h : s.watches topic = true) :
    (s.publish events).watches topic = true := by
  obtain ⟨sub, hsub, hreg, rfl⟩ := mem_of_watches h
  have hsame : (events sub.topic).foldl Subscription.offer sub = sub := by
    rw [hnil]
    rfl
  have hmem : sub ∈ (s.publish events).entries := hsame ▸ List.mem_map_of_mem hsub
  exact watches_of_mem hmem hreg

/-! ## States of topics -/

/-- A state of a topic that listeners are told about. -/
class TopicState (σ : Type) (ε : outParam Type) where
  /-- The first events of a subscription. -/
  initial : σ → List ε
  /-- Some events tell that a state gives way to another. -/
  Tells : σ → σ → List ε → Prop
  /-- The number of the next subscription. -/
  next : σ → Nat
  tells_self : ∀ s, Tells s s []

/-- A relation between the log of a listener and the state of its topic that changes keep. -/
structure TopicState.Invariant {σ ε : Type} [TopicState σ ε] (P : List ε → σ → Prop) : Prop where
  initial : ∀ s, P (initial s) s
  tells : ∀ {old new events log}, Tells old new events → P log old → P (log ++ events) new

/-- The topics of one kind with the subscriptions to them. -/
structure Topics (τ ε σ : Type) where
  subs : Subscriptions τ ε
  /-- The state that is kept for a topic. -/
  kept? : τ → Option σ
  /-- The state of a topic, computed if none is kept. -/
  current : τ → σ
  current_of_kept : ∀ {topic s}, kept? topic = some s → current topic = s

namespace Topics

open TopicState

variable {τ ε σ : Type} [DecidableEq τ] [TopicState σ ε] {before mid after : Topics τ ε σ}
  {events : τ → List ε}

/-! ## Steps -/

/-- Listeners are told how the states of topics change. The state of a topic that is still listened
to afterwards is kept, and would give the next subscription the same number as before. -/
structure Moves (before after : Topics τ ε σ) (events : τ → List ε) : Prop where
  subs : after.subs = before.subs.publish events
  tells : ∀ {topic old}, before.subs.watches topic = true → before.kept? topic = some old →
    Tells old (after.current topic) (events topic)
  kept : ∀ {topic old}, before.subs.watches topic = true → after.subs.watches topic = true →
    before.kept? topic = some old → ∃ new, after.kept? topic = some new ∧ next new = next old

/-- A subscription is added whose first events are those of a state: of the kept state of its topic,
if that is listened to. -/
structure Subscribes (before after : Topics τ ε σ) (topic : τ) (capacity : Nat) (opened : σ) :
    Prop where
  subs : after.subs = before.subs.subscribe topic (next opened) capacity (initial opened)
  joins : ∀ {old}, before.subs.watches topic = true → before.kept? topic = some old → opened = old
  new : ∃ s, after.kept? topic = some s ∧ Tells opened s [] ∧ next s = next opened + 1
  kept : ∀ {other old}, topic ≠ other → before.subs.watches other = true →
    before.kept? other = some old → after.kept? other = some old

/-- States stay, and every subscription keeps its log. -/
structure Retains (before after : Topics τ ε σ) : Prop where
  subs : before.subs.Retains after.subs
  kept : ∀ topic, after.kept? topic = before.kept? topic

/-- States stay, and the subscriber or the listener of one ticket acts. -/
structure Acts (before after : Topics τ ε σ) (ticket : Nat) (a : Subscription.Action) : Prop where
  subs : after.subs = before.subs.modify ticket (·.perform a)
  kept : ∀ topic, after.kept? topic = before.kept? topic

/-- What an operation does to topics; `own` holds of the actions that it consists of. -/
inductive Step (before after : Topics τ ε σ) (own : Nat → Subscription.Action → Prop) : Prop
  | moves {events : τ → List ε} (h : Moves before after events)
  | subscribes {topic : τ} {capacity : Nat} {opened : σ}
    (h : Subscribes before after topic capacity opened)
  | acts {ticket : Nat} {a : Subscription.Action} (hown : own ticket a)
    (h : Acts before after ticket a)

/-- States of topics that are not listened to may be dropped without a word. -/
theorem Moves.of_drop (subs : after.subs = before.subs)
    (kept : ∀ {topic s}, before.subs.watches topic = true → before.kept? topic = some s →
      after.kept? topic = some s) : Moves before after fun _ => [] where
  subs := by rw [subs, Subscriptions.publish_nil]
  tells hw hold := by
    rw [after.current_of_kept (kept hw hold)]
    exact tells_self _
  kept hw _ hold := ⟨_, kept hw hold, rfl⟩

/-- After a change, states of topics that are no longer listened to may be dropped, if the events
tell of the state that is computed then as well. -/
theorem Moves.drop (h : Moves before mid events) (subs : after.subs = mid.subs)
    (kept : ∀ {topic s}, mid.subs.watches topic = true → mid.kept? topic = some s →
      after.kept? topic = some s)
    (dropped : ∀ {topic old}, events topic ≠ [] → before.kept? topic = some old →
      Tells old (mid.current topic) (events topic) →
      Tells old (after.current topic) (events topic)) : Moves before after events where
  subs := by rw [subs, h.subs]
  tells {topic old} hw hold := by
    by_cases hw' : mid.subs.watches topic = true
    · obtain ⟨new, hnew, -⟩ := h.kept hw hw' hold
      rw [after.current_of_kept (kept hw' hnew), ← mid.current_of_kept hnew]
      exact h.tells hw hold
    · -- Only an event can have ended the last subscription.
      have htold : events topic ≠ [] := by
        intro hnil
        apply hw'
        rw [h.subs]
        exact Subscriptions.watches_publish hnil hw
      exact dropped htold hold (h.tells hw hold)
  kept hw hw' hold := by
    rw [subs] at hw'
    obtain ⟨new, hnew, hnext⟩ := h.kept hw hw' hold
    exact ⟨new, kept hw' hnew, hnext⟩

omit [DecidableEq τ] [TopicState σ ε] in
theorem Acts.retains {ticket : Nat} {a : Subscription.Action} (h : Acts before after ticket a) :
    Retains before after where
  subs := by
    rw [h.subs]
    exact Subscriptions.retains_modify fun sub _ _ => Subscription.retains_perform sub a
  kept := h.kept

/-- A new subscription changes at most the next number of a topic that is listened to. -/
theorem Subscribes.kept_of_watches {topic other : τ} {capacity : Nat} {opened old : σ}
    (h : Subscribes before after topic capacity opened) (hw : before.subs.watches other = true)
    (hold : before.kept? other = some old) :
    ∃ s, after.kept? other = some s ∧ Tells old s [] ∧ next old ≤ next s := by
  by_cases htopic : topic = other
  · subst htopic
    obtain ⟨s, hs, htells, hnext⟩ := h.new
    rw [h.joins hw hold] at htells hnext
    exact ⟨s, hs, htells, by omega⟩
  · exact ⟨old, h.kept htopic hw hold, tells_self old, Nat.le_refl _⟩

/-! ## Relations of logs and states -/

/-- Every registered subscription has a topic with a kept state, and `P` holds of its log and that
state. -/
def Upholds (P : List ε → σ → Prop) (t : Topics τ ε σ) : Prop :=
  ∀ sub ∈ t.subs.entries, sub.isRegistered = true →
    ∃ s, t.kept? sub.topic = some s ∧ P sub.log s

/-- Every log is the start of one that `P` holds of. -/
def Begins (P : List ε → σ → Prop) (t : Topics τ ε σ) : Prop :=
  ∀ sub ∈ t.subs.entries, ∃ later s, P (sub.log ++ later) s

variable {P : List ε → σ → Prop}

omit [DecidableEq τ] [TopicState σ ε] in
theorem Upholds.retains (h : before.Upholds P) (hr : Retains before after) : after.Upholds P := by
  intro sub' hsub' hreg'
  obtain ⟨sub, hsub, hkeep⟩ := hr.subs.mem hsub'
  rw [hr.kept, hkeep.topic, hkeep.log]
  exact h sub hsub (hkeep.isRegistered hreg')

theorem Upholds.moves (hP : Invariant P) (h : before.Upholds P)
    (hm : Moves before after events) : after.Upholds P := by
  intro sub' hsub' hreg'
  have hw' := Subscriptions.watches_of_mem hsub' hreg'
  rw [hm.subs] at hsub'
  obtain ⟨sub, hsub, rfl⟩ := Subscriptions.mem_publish hsub'
  rw [Subscription.topic_foldl_offer] at hw' ⊢
  obtain ⟨hreg, hlog⟩ := Subscription.log_foldl_offer _ sub hreg'
  obtain ⟨old, hold, hlogs⟩ := h sub hsub hreg
  have hw := Subscriptions.watches_of_mem hsub hreg
  obtain ⟨new, hnew, -⟩ := hm.kept hw hw' hold
  refine ⟨new, hnew, ?_⟩
  rw [hlog, ← after.current_of_kept hnew]
  exact hP.tells (hm.tells hw hold) hlogs

theorem Upholds.subscribes (hP : Invariant P) {topic : τ} {capacity : Nat} {opened : σ}
    (h : before.Upholds P) (hs : Subscribes before after topic capacity opened) :
    after.Upholds P := by
  intro sub hsub hreg
  rw [hs.subs] at hsub
  rcases List.mem_append.mp hsub with hsub | hsub
  · obtain ⟨old, hold, hlogs⟩ := h sub hsub hreg
    obtain ⟨s, hs, htells, -⟩ := hs.kept_of_watches (Subscriptions.watches_of_mem hsub hreg) hold
    have hlogs' := hP.tells htells hlogs
    rw [List.append_nil] at hlogs'
    exact ⟨s, hs, hlogs'⟩
  · rw [List.mem_singleton] at hsub
    subst hsub
    obtain ⟨s, hs, htells, -⟩ := hs.new
    have hlogs := hP.tells htells (hP.initial opened)
    rw [List.append_nil] at hlogs
    exact ⟨s, hs, hlogs⟩

theorem Upholds.step (hP : Invariant P) (h : before.Upholds P)
    {own : Nat → Subscription.Action → Prop} (hs : Step before after own) : after.Upholds P := by
  cases hs with
  | moves hm => exact h.moves hP hm
  | subscribes hs => exact h.subscribes hP hs
  | acts _ ha => exact h.retains ha.retains

omit [DecidableEq τ] [TopicState σ ε] in
theorem Begins.retains (h : before.Begins P) (hr : Retains before after) : after.Begins P := by
  intro sub' hsub'
  obtain ⟨sub, hsub, hkeep⟩ := hr.subs.mem hsub'
  rw [hkeep.log]
  exact h sub hsub

theorem Begins.moves (hP : Invariant P) (h : before.Begins P) (hreg : before.Upholds P)
    (hm : Moves before after events) : after.Begins P := by
  intro sub' hsub'
  rw [hm.subs] at hsub'
  obtain ⟨sub, hsub, rfl⟩ := Subscriptions.mem_publish hsub'
  by_cases hsubreg : sub.isRegistered = true
  · obtain ⟨old, hold, hlogs⟩ := hreg sub hsub hsubreg
    have htells := hm.tells (Subscriptions.watches_of_mem hsub hsubreg) hold
    obtain ⟨later, hlater⟩ := Subscription.log_foldl_offer_prefix sub (events sub.topic)
    refine ⟨later, after.current sub.topic, ?_⟩
    rw [hlater]
    exact hP.tells htells hlogs
  · rw [(Subscription.extends_foldl_offer _ sub).inert hsubreg]
    exact h sub hsub

theorem Begins.subscribes (hP : Invariant P) {topic : τ} {capacity : Nat} {opened : σ}
    (h : before.Begins P) (hs : Subscribes before after topic capacity opened) :
    after.Begins P := by
  intro sub hsub
  rw [hs.subs] at hsub
  rcases List.mem_append.mp hsub with hsub | hsub
  · exact h sub hsub
  · rw [List.mem_singleton] at hsub
    subst hsub
    refine ⟨[], opened, ?_⟩
    rw [List.append_nil]
    exact hP.initial opened

theorem Begins.step (hP : Invariant P) (h : before.Begins P) (hreg : before.Upholds P)
    {own : Nat → Subscription.Action → Prop} (hs : Step before after own) : after.Begins P := by
  cases hs with
  | moves hm => exact h.moves hP hreg hm
  | subscribes hs => exact h.subscribes hP hs
  | acts _ ha => exact h.retains ha.retains

/-! ## Registered subscriptions -/

/-- Every registered subscription has a topic with a kept state that gave it its number, and gave
this to no other registered one. A state that is dropped and made anew numbers from zero again. -/
structure Held (t : Topics τ ε σ) : Prop where
  numbered : t.subs.Numbered
  kept : ∀ sub ∈ t.subs.entries, sub.isRegistered = true →
    ∃ s, t.kept? sub.topic = some s ∧ sub.number < next s
  distinct : ∀ sub ∈ t.subs.entries, sub.isRegistered = true → ∀ other ∈ t.subs.entries,
    other.isRegistered = true → other.topic = sub.topic → other.number = sub.number →
      other.ticket = sub.ticket

/-- What a step does for every registered subscription. Events of the subscription's topic tell how
its state changes. The subscription stays registered and accepts them, or one of them finds its
queue full, or its own subscriber or listener ends it. As long as it is registered, the state that
numbered it is the one that is kept. -/
def Keeps (before after : Topics τ ε σ) (own : Nat → Subscription.Action → Prop) : Prop :=
  ∀ sub ∈ before.subs.entries, sub.isRegistered = true →
    ∃ sub' old events, after.subs.find? sub.ticket = some sub' ∧ sub'.topic = sub.topic ∧
      before.kept? sub.topic = some old ∧ sub.number < next old ∧
      Tells old (after.current sub.topic) events ∧
      sub.Outcome events (own sub.ticket) sub' ∧
      (sub'.isRegistered = true → after.kept? sub.topic = some (after.current sub.topic) ∧
        next old ≤ next (after.current sub.topic))

variable {own : Nat → Subscription.Action → Prop}

theorem Moves.keeps (hm : Moves before after events) (h : before.Held) :
    Keeps before after own := by
  intro sub hsub hreg
  obtain ⟨old, hold, hnumber⟩ := h.kept sub hsub hreg
  have hw := Subscriptions.watches_of_mem hsub hreg
  have hfind : after.subs.find? sub.ticket =
      some ((events sub.topic).foldl Subscription.offer sub) := by
    rw [hm.subs, Subscriptions.find?_publish, Subscriptions.find?_of_mem h.numbered hsub]
    rfl
  refine ⟨_, old, events sub.topic, hfind, Subscription.topic_foldl_offer _ sub, hold, hnumber,
    hm.tells hw hold, Subscription.outcome_foldl_offer _ _ sub hreg, fun hreg' => ?_⟩
  have hw' := Subscriptions.watches_of_mem (Subscriptions.mem_of_find? hfind) hreg'
  rw [Subscription.topic_foldl_offer] at hw'
  obtain ⟨new, hnew, hnext⟩ := hm.kept hw hw' hold
  rw [after.current_of_kept hnew]
  exact ⟨hnew, Nat.le_of_eq hnext.symm⟩

theorem Subscribes.keeps {topic : τ} {capacity : Nat} {opened : σ}
    (hs : Subscribes before after topic capacity opened) (h : before.Held) :
    Keeps before after own := by
  intro sub hsub hreg
  obtain ⟨old, hold, hnumber⟩ := h.kept sub hsub hreg
  obtain ⟨new, hnew, htells, hnext⟩ :=
    hs.kept_of_watches (Subscriptions.watches_of_mem hsub hreg) hold
  have hfind : after.subs.find? sub.ticket = some sub := by
    rw [hs.subs]
    exact Subscriptions.find?_subscribe (Subscriptions.find?_of_mem h.numbered hsub) _ _ _ _
  rw [← after.current_of_kept hnew] at htells hnext hnew
  exact ⟨sub, old, [], hfind, rfl, hold, hnumber, htells,
    .kept hreg (List.append_nil _).symm, fun _ => ⟨hnew, hnext⟩⟩

omit [DecidableEq τ] in
theorem Acts.keeps {ticket : Nat} {a : Subscription.Action} (ha : Acts before after ticket a)
    (hown : own ticket a) (h : before.Held) : Keeps before after own := by
  intro sub hsub hreg
  obtain ⟨old, hold, hnumber⟩ := h.kept sub hsub hreg
  have hkept : after.kept? sub.topic = some old := by rw [ha.kept, hold]
  have hfind : after.subs.find? sub.ticket =
      some (if sub.ticket = ticket then sub.perform a else sub) := by
    rw [ha.subs, Subscriptions.find?_modify, Subscriptions.find?_of_mem h.numbered hsub]
    · rfl
    · exact fun sub hticket => (Subscription.retains_perform sub a).ticket.trans hticket
  rw [after.current_of_kept hkept]
  refine ⟨_, old, [], hfind, ?_, hold, hnumber, tells_self old, ?_, fun _ => ⟨hkept, Nat.le_refl _⟩⟩
  · split
    · exact (Subscription.retains_perform sub a).topic
    · rfl
  · split
    · next hticket =>
      exact Subscription.outcome_perform hreg (hticket ▸ hown)
    · exact .kept hreg (List.append_nil _).symm

theorem Step.keeps (hs : Step before after own) (h : before.Held) : Keeps before after own := by
  cases hs with
  | moves hm => exact hm.keeps h
  | subscribes hs => exact hs.keeps h
  | acts hown ha => exact ha.keeps hown h

/-- Registered subscriptions come from registered ones, with their topics, numbers and tickets. -/
def Descends (before after : Topics τ ε σ) : Prop :=
  ∀ sub' ∈ after.subs.entries, sub'.isRegistered = true →
    ∃ sub ∈ before.subs.entries, sub.isRegistered = true ∧ sub'.topic = sub.topic ∧
      sub'.number = sub.number ∧ sub'.ticket = sub.ticket

theorem Moves.descends (hm : Moves before after events) : Descends before after := by
  intro sub' hsub' hreg'
  rw [hm.subs] at hsub'
  obtain ⟨sub, hsub, rfl⟩ := Subscriptions.mem_publish hsub'
  exact ⟨sub, hsub, (Subscription.log_foldl_offer _ sub hreg').1,
    Subscription.topic_foldl_offer _ sub, Subscription.number_foldl_offer _ sub,
    Subscription.ticket_foldl_offer _ sub⟩

omit [DecidableEq τ] [TopicState σ ε] in
theorem Acts.descends {ticket : Nat} {a : Subscription.Action} (ha : Acts before after ticket a) :
    Descends before after := by
  intro sub' hsub' hreg'
  rw [ha.subs] at hsub'
  obtain ⟨sub, hsub, rfl⟩ := List.mem_map.mp hsub'
  have hretains : sub.Retains (if sub.ticket = ticket then sub.perform a else sub) := by
    split
    · exact Subscription.retains_perform sub a
    · exact .refl sub
  refine ⟨sub, hsub, hretains.isRegistered hreg', hretains.topic, ?_, hretains.ticket⟩
  split
  · exact Subscription.number_perform sub a
  · rfl

theorem Held.descends (h : before.Held) (hd : Descends before after)
    (numbered : after.subs.Numbered)
    (kept : ∀ {topic old}, before.subs.watches topic = true → after.subs.watches topic = true →
      before.kept? topic = some old → ∃ new, after.kept? topic = some new ∧ next new = next old) :
    after.Held where
  numbered := numbered
  kept sub' hsub' hreg' := by
    obtain ⟨sub, hsub, hreg, htopic, hnumber, -⟩ := hd sub' hsub' hreg'
    obtain ⟨old, hold, hlt⟩ := h.kept sub hsub hreg
    have hw' := Subscriptions.watches_of_mem hsub' hreg'
    rw [htopic] at hw' ⊢
    obtain ⟨new, hnew, hnext⟩ := kept (Subscriptions.watches_of_mem hsub hreg) hw' hold
    exact ⟨new, hnew, by omega⟩
  distinct sub' hsub' hreg' other' hother' hotherreg' htopics hnumbers := by
    obtain ⟨sub, hsub, hreg, htopic, hnumber, hticket⟩ := hd sub' hsub' hreg'
    obtain ⟨other, hother, hotherreg, htopic', hnumber', hticket'⟩ := hd other' hother' hotherreg'
    rw [hticket, hticket']
    exact h.distinct sub hsub hreg other hother hotherreg
      (htopic'.symm.trans (htopics.trans htopic)) (hnumber'.symm.trans (hnumbers.trans hnumber))

theorem Held.moves (h : before.Held) (hm : Moves before after events) : after.Held :=
  h.descends hm.descends (by rw [hm.subs]; exact h.numbered.publish _) hm.kept

theorem Held.acts {ticket : Nat} {a : Subscription.Action} (h : before.Held)
    (ha : Acts before after ticket a) : after.Held :=
  h.descends ha.descends (ha.retains.subs.numbered h.numbered)
    fun _ _ hold => ⟨_, (ha.kept _).trans hold, rfl⟩

theorem Held.subscribes {topic : τ} {capacity : Nat} {opened : σ} (h : before.Held)
    (hs : Subscribes before after topic capacity opened) : after.Held := by
  have hentries : ∀ sub ∈ after.subs.entries, sub ∈ before.subs.entries ∨
      sub.topic = topic ∧ sub.number = next opened ∧ sub.ticket = before.subs.nextTicket := by
    intro sub hsub
    rw [hs.subs] at hsub
    rcases List.mem_append.mp hsub with hsub | hsub
    · exact .inl hsub
    · rw [List.mem_singleton] at hsub
      exact .inr (by simp [hsub])
  -- The new number is above those of all that listen to the topic.
  have hlt : ∀ sub ∈ before.subs.entries, sub.isRegistered = true → sub.topic = topic →
      sub.number < next opened := by
    rintro sub hsub hreg rfl
    obtain ⟨old, hold, hlt⟩ := h.kept sub hsub hreg
    rwa [hs.joins (Subscriptions.watches_of_mem hsub hreg) hold]
  refine ⟨by rw [hs.subs]; exact h.numbered.subscribe _ _ _ _, ?_, ?_⟩
  · intro sub hsub hreg
    rcases hentries sub hsub with hsub | ⟨htopic, hnumber, -⟩
    · obtain ⟨old, hold, hlt⟩ := h.kept sub hsub hreg
      obtain ⟨new, hnew, -, hnext⟩ :=
        hs.kept_of_watches (Subscriptions.watches_of_mem hsub hreg) hold
      exact ⟨new, hnew, Nat.lt_of_lt_of_le hlt hnext⟩
    · obtain ⟨new, hnew, -, hnext⟩ := hs.new
      rw [htopic]
      exact ⟨new, hnew, by omega⟩
  · intro sub hsub hreg other hother hotherreg htopics hnumbers
    rcases hentries sub hsub with hsub | ⟨htopic, hnumber, hticket⟩ <;>
      rcases hentries other hother with hother | ⟨htopic', hnumber', hticket'⟩
    · exact h.distinct sub hsub hreg other hother hotherreg htopics hnumbers
    · have := hlt sub hsub hreg (htopics.symm.trans htopic')
      omega
    · have := hlt other hother hotherreg (htopics.trans htopic)
      omega
    · rw [hticket, hticket']

theorem Held.step (h : before.Held) (hs : Step before after own) : after.Held := by
  cases hs with
  | moves hm => exact h.moves hm
  | subscribes hs => exact h.subscribes hs
  | acts _ ha => exact h.acts ha

end Topics

end MeshDestination
