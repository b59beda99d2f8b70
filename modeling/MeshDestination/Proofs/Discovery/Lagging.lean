import MeshDestination.Index.Port
import MeshDestination.Profile
import MeshDestination.Proofs.Discovery.Order

/-!
# Listeners that fall behind

In every run of subscriptions with their listeners, the queue of a subscription holds no more events
than its registry is configured to, though always two. An event that is notified when the queue is
full removes the subscription, every other one is queued, and nothing else has a subscription lag.
What a subscription receives, and whether it is removed, follows from what happens to itself
(`Delivery.Happening`), whatever other subscriptions and listeners do
(`Delivery.dropsWhenFull_initial`).
-/

namespace MeshDestination

namespace Discovery

namespace Listener

variable {τ ε ο : Type} {items : ε → List ο}

theorem turn?_relabel (notices : Bool) (s : Subscription τ ε) (l : Listener ο) (topic : τ)
    (number ticket : Nat) :
    turn? items notices (s.relabel topic number ticket) { l with ticket } =
      (turn? items notices s l).map fun q =>
        (q.1.relabel topic number ticket, { q.2 with ticket }) := by
  have hproceed : proceed? items (s.relabel topic number ticket) { l with ticket } =
      (proceed? items s l).map fun q =>
        (q.1.relabel topic number ticket, { q.2 with ticket }) := by
    have hqueue : (s.relabel topic number ticket).queue = s.queue := rfl
    unfold proceed?
    rw [hqueue]
    dsimp only
    cases l.inHand with
    | cons x r =>
      change (if l.room = some 0 then _ else _) = _
      split <;> rfl
    | nil =>
      cases s.queue with
      | cons e r =>
        rw [Subscription.receive_relabel]
        rfl
      | nil =>
        change (if s.standing = .lagged then _ else _) = _
        split <;> rfl
  unfold turn? step?
  rw [hproceed]
  change (if notices = true then (if l.hasEnded = true then _ else
    if (l.isClosed || decide (s.standing = .stopped)) = true then _ else _) else
      if l.hasEnded = true then _ else _) = _
  split
  · split
    · rfl
    · split <;> rfl
  · split <;> rfl

end Listener

namespace Delivery

variable {τ ε : Type}

/-- A subscription and its listener with another topic, number and ticket. -/
def Pair.relabel (p : Pair τ ε) (topic : τ) (number ticket : Nat) : Pair τ ε :=
  (p.1.relabel topic number ticket, { p.2 with ticket })

theorem takeTurn_relabel (notices : Bool) (p : Pair τ ε) (topic : τ) (number ticket : Nat) :
    takeTurn notices (p.relabel topic number ticket) =
      (takeTurn notices p).relabel topic number ticket := by
  unfold takeTurn Pair.relabel
  rw [Listener.turn?_relabel]
  change ((p.2.turn? (Server.events p.1.topic) notices p.1).map _).getD _ = _
  cases p.2.turn? (Server.events p.1.topic) notices p.1 <;> rfl

/-! ## What happens to one subscription -/

/-- What can happen to a subscription and its listener. -/
inductive Happening (ε : Type) where
  /-- An event is notified on its topic. -/
  | notified (e : ε)
  | unsubscribed
  | closed
  | granted (n : Nat)
  | advanced (notices : Bool)
  deriving DecidableEq

/-- What happens to a subscription and its listener. -/
def undergo (p : Pair τ ε) : Happening ε → Pair τ ε
  | .notified e => (p.1.offer e, p.2)
  | .unsubscribed => (p.1.unsubscribe, p.2)
  | .closed => (p.1, p.2.close)
  | .granted n => (p.1, p.2.grant n)
  | .advanced notices => takeTurn notices p

theorem foldl_undergo_relabel (hs : List (Happening ε)) (topic : τ) (number ticket : Nat) :
    ∀ p : Pair τ ε, hs.foldl undergo (p.relabel topic number ticket) =
      (hs.foldl undergo p).relabel topic number ticket := by
  induction hs with
  | nil => exact fun _ => rfl
  | cons h hs ih =>
    intro p
    have hone : undergo (p.relabel topic number ticket) h =
        (undergo p h).relabel topic number ticket := by
      cases h with
      | notified e => exact congrArg (·, _) (p.1.offer_relabel topic number ticket e)
      | unsubscribed => exact congrArg (·, _) (p.1.unsubscribe_relabel topic number ticket)
      | closed => rfl
      | granted n => rfl
      | advanced notices => exact takeTurn_relabel notices p topic number ticket
    rw [List.foldl_cons, hone, ih]
    rfl

/-- The capacity of a queue stays, and the queue stays within it. -/
def Pair.Within (n : Nat) (p : Pair τ ε) : Prop := p.1.capacity = n ∧ p.1.queue.length ≤ n

theorem Pair.Within.undergo {n : Nat} {p : Pair τ ε} (hp : p.Within n) (h : Happening ε) :
    (undergo p h).Within n := by
  obtain ⟨hcapacity, hqueue⟩ := hp
  cases h with
  | notified e =>
    change (p.1.offer e).capacity = n ∧ (p.1.offer e).queue.length ≤ n
    unfold Subscription.offer
    split
    · split
      · next hroom =>
        refine ⟨hcapacity, ?_⟩
        rw [List.length_append, List.length_singleton]
        omega
      · exact ⟨hcapacity, hqueue⟩
    · exact ⟨hcapacity, hqueue⟩
  | unsubscribed =>
    change p.1.unsubscribe.capacity = n ∧ p.1.unsubscribe.queue.length ≤ n
    unfold Subscription.unsubscribe
    split <;> exact ⟨hcapacity, hqueue⟩
  | closed => exact ⟨hcapacity, hqueue⟩
  | granted k => exact ⟨hcapacity, hqueue⟩
  | advanced notices =>
    change (takeTurn notices p).Within n
    unfold takeTurn
    cases hturn : p.2.turn? (Server.events p.1.topic) notices p.1 with
    | none => exact ⟨hcapacity, hqueue⟩
    | some q =>
      obtain ⟨s, l⟩ := q
      obtain ⟨-, ⟨-, rfl, -⟩ | hproceed⟩ := Listener.turn?_cases hturn
      · exact ⟨hcapacity, hqueue⟩
      · obtain ⟨x, r, -, -, rfl, -⟩ | ⟨e, r, -, hcons, rfl, -⟩ | ⟨-, -, -, rfl, -⟩ :=
          Listener.proceed?_cases hproceed
        · exact ⟨hcapacity, hqueue⟩
        · rw [hcons, List.length_cons] at hqueue
          refine ⟨?_, ?_⟩
          · rw [Option.getD_some, Subscription.receive, hcons]
            exact hcapacity
          · rw [Option.getD_some, Subscription.receive, hcons]
            exact Nat.le_of_succ_le hqueue
        · exact ⟨hcapacity, hqueue⟩

theorem Pair.Within.foldl_undergo {n : Nat} (hs : List (Happening ε)) :
    ∀ {p : Pair τ ε}, p.Within n → (hs.foldl Delivery.undergo p).Within n := by
  induction hs with
  | nil => exact fun hp => hp
  | cons h hs ih => exact fun hp => ih (hp.undergo h)

/-- Only an event that is notified has a subscription lag. -/
theorem notified_of_lagged {p : Pair τ ε} {h : Happening ε}
    (hlag : (undergo p h).1.standing = .lagged) :
    p.1.standing = .lagged ∨ ∃ e, h = .notified e := by
  cases h with
  | notified e => exact .inr ⟨e, rfl⟩
  | closed => exact .inl hlag
  | granted n => exact .inl hlag
  | unsubscribed =>
    change p.1.unsubscribe.standing = .lagged at hlag
    unfold Subscription.unsubscribe at hlag
    split at hlag
    · cases hlag
    · exact .inl hlag
  | advanced notices =>
    change (takeTurn notices p).1.standing = .lagged at hlag
    unfold takeTurn at hlag
    cases hturn : p.2.turn? (Server.events p.1.topic) notices p.1 with
    | none =>
      rw [hturn] at hlag
      exact .inl hlag
    | some q =>
      rw [hturn] at hlag
      obtain ⟨s, l⟩ := q
      obtain ⟨-, ⟨-, rfl, -⟩ | hproceed⟩ := Listener.turn?_cases hturn
      · cases hlag
      · obtain ⟨x, r, -, -, rfl, -⟩ | ⟨e, r, -, hcons, rfl, -⟩ | ⟨-, -, hlagged, -, -⟩ :=
          Listener.proceed?_cases hproceed
        · exact .inl hlag
        · rw [Option.getD_some, Subscription.receive, hcons] at hlag
          exact .inl hlag
        · exact .inl hlagged

variable [DecidableEq τ]

/-- What an operation is to the subscription of a ticket to a topic, if it concerns it at all. -/
def Operation.happening? (topic : τ) (t : Nat) : Operation τ ε → Option (Happening ε)
  | .subscribe .. => none
  | .notify topic' e => if topic = topic' then some (.notified e) else none
  | .unsubscribe u => if u = t then some .unsubscribed else none
  | .close u => if u = t then some .closed else none
  | .grant u n => if u = t then some (.granted n) else none
  | .advance u notices => if u = t then some (.advanced notices) else none

theorem react_eq (t : Nat) (p : Pair τ ε) (op : Operation τ ε) :
    react t p op = ((op.happening? p.1.topic t).map (undergo p)).getD p := by
  cases op with
  | subscribe => rfl
  | notify | unsubscribe | close | grant | advance =>
    rw [react, Operation.happening?]
    split <;> rfl

/-- A run is to a subscription what happens to it in the run. -/
theorem foldl_react (t : Nat) (ops : List (Operation τ ε)) :
    ∀ p : Pair τ ε, ops.foldl (react t) p =
      (ops.filterMap (Operation.happening? p.1.topic t)).foldl undergo p := by
  induction ops with
  | nil => exact fun _ => rfl
  | cons op ops ih =>
    intro p
    rw [List.foldl_cons, ih, topic_react, List.filterMap_cons, react_eq]
    cases op.happening? p.1.topic t <;> rfl

/-! ## One subscription in a run -/

/-- How a subscription is made: after which operations, to which topic, under which number of a
registry with queues of which capacity, and with which first events and room of its listener. -/
structure Opening (τ ε : Type) where
  before : List (Operation τ ε)
  topic : τ
  number : Nat
  capacity : Nat
  initial : List ε
  room : Option Nat

namespace Opening

variable (o : Opening τ ε)

/-- The ticket that the subscription is given. -/
def ticket : Nat := (Delivery.run {} o.before).subs.nextTicket

/-- The subscriptions and listeners when the subscription is made and operations follow. -/
def run (after : List (Operation τ ε)) : Delivery τ ε :=
  ((Delivery.run {} o.before).perform
    (.subscribe o.topic o.number o.capacity o.initial o.room)).run after

/-- What operations are to the subscription. -/
def happenings (after : List (Operation τ ε)) : List (Happening ε) :=
  after.filterMap (Operation.happening? o.topic o.ticket)

/-- How many events the queue holds at most. -/
def bound : Nat := max o.capacity Subscriptions.minCapacity

/-- The subscription and its listener when they are made. -/
def pair : Pair τ ε := (
  { topic := o.topic, number := o.number, ticket := o.ticket, queue := o.initial,
    capacity := max o.bound o.initial.length },
  { ticket := o.ticket, room := o.room })

theorem pair?_run (after : List (Operation τ ε)) :
    (o.run after).pair? o.ticket = some ((o.happenings after).foldl undergo o.pair) := by
  have hnew := pair?_subscribe (valid_empty.run o.before) o.topic o.number o.capacity o.initial
    o.room
  exact (Delivery.pair?_run after hnew).trans (congrArg some (foldl_react o.ticket after o.pair))

/-- What holds of a subscription in every run. -/
structure DropsWhenFull : Prop where
  /-- The first events fit into its queue. -/
  opens : ∃ s l, (o.run []).pair? o.ticket = some (s, l) ∧ s.isRegistered = true ∧
    s.queue = o.initial ∧ o.initial.length ≤ o.bound
  /-- The queue holds no more events than it is bound to. -/
  bounded : ∀ after, ∃ s l, (o.run after).pair? o.ticket = some (s, l) ∧ s.queue.length ≤ o.bound
  /-- An event that is notified removes the subscription if the queue is full, and is queued
  otherwise. -/
  notify : ∀ after e s l, (o.run after).pair? o.ticket = some (s, l) → s.isRegistered = true →
    (o.run (after ++ [.notify o.topic e])).pair? o.ticket =
      some (if s.queue.length = o.bound then { s with standing := .lagged }
        else { s with queue := s.queue ++ [e] }, l)
  /-- Nothing else has a subscription lag. -/
  lags : ∀ after op s l s' l', (o.run after).pair? o.ticket = some (s, l) →
    (o.run (after ++ [op])).pair? o.ticket = some (s', l') → s'.standing = .lagged →
    s.standing = .lagged ∨ ∃ e, op = .notify o.topic e
  /-- Another subscription with the same capacity, first events and room, to which the same happens
  in a run of its own, receives the same and is removed alike, whatever else the two runs do. -/
  own : ∀ (o' : Opening τ ε) after after', o'.capacity = o.capacity → o'.initial = o.initial →
    o'.room = o.room → o'.happenings after' = o.happenings after →
    ∃ s l s' l', (o.run after).pair? o.ticket = some (s, l) ∧
      (o'.run after').pair? o'.ticket = some (s', l') ∧ s'.received = s.received ∧
      s'.queue = s.queue ∧ s'.standing = s.standing ∧ l'.handed = l.handed ∧
      l'.inHand = l.inHand ∧ l'.hasEnded = l.hasEnded

variable {o : Opening τ ε}

theorem pair?_run_concat {after : List (Operation τ ε)} {p : Pair τ ε}
    (h : (o.run after).pair? o.ticket = some p) (op : Operation τ ε) :
    (o.run (after ++ [op])).pair? o.ticket =
      some (((op.happening? o.topic o.ticket).map (undergo p)).getD p) := by
  rw [pair?_run, Option.some.injEq] at h
  have hlast : o.happenings (after ++ [op]) =
      o.happenings after ++ (op.happening? o.topic o.ticket).toList := by
    unfold happenings
    rw [List.filterMap_append, List.filterMap_cons]
    cases op.happening? o.topic o.ticket <;> rfl
  rw [pair?_run, hlast, List.foldl_append, h]
  cases op.happening? o.topic o.ticket <;> rfl

theorem within_run (hinitial : o.initial.length ≤ Subscriptions.minCapacity)
    (after : List (Operation τ ε)) :
    ((o.happenings after).foldl undergo o.pair).Within o.bound := by
  have hfits : o.initial.length ≤ o.bound := hinitial.trans (Nat.le_max_right _ _)
  exact Pair.Within.foldl_undergo _ ⟨Nat.max_eq_left hfits, hfits⟩

theorem notify_of_happening? {op : Operation τ ε} {topic : τ} {t : Nat} {e : ε}
    (h : op.happening? topic t = some (.notified e)) : op = .notify topic e := by
  cases op with
  | subscribe => cases h
  | notify topic' e' =>
    rw [Operation.happening?] at h
    split at h
    · next htopic =>
      cases h
      rw [htopic]
    · cases h
  | unsubscribe | close | grant | advance =>
    rw [Operation.happening?] at h
    split at h <;> cases h

theorem dropsWhenFull (hinitial : o.initial.length ≤ Subscriptions.minCapacity) :
    o.DropsWhenFull where
  opens := ⟨_, _, o.pair?_run [], rfl, rfl, hinitial.trans (Nat.le_max_right _ _)⟩
  bounded after := ⟨_, _, o.pair?_run after, (within_run hinitial after).2⟩
  notify after e s l h hreg := by
    have hwithin := within_run hinitial after
    rw [pair?_run, Option.some.injEq] at h
    rw [h] at hwithin
    have hhappening : (Operation.notify o.topic e).happening? o.topic o.ticket =
        some (.notified e) := if_pos rfl
    rw [pair?_run_concat ((o.pair?_run after).trans (congrArg some h)), hhappening]
    change some (s.offer e, l) = _
    obtain ⟨hcapacity, hqueue⟩ : s.capacity = o.bound ∧ s.queue.length ≤ o.bound := hwithin
    rw [Subscription.offer, if_pos hreg, hcapacity]
    by_cases hfull : s.queue.length = o.bound
    · rw [if_pos hfull, if_neg (by omega)]
    · rw [if_neg hfull, if_pos (by omega)]
  lags after op s l s' l' h h' hlag := by
    rw [pair?_run_concat h, Option.some.injEq] at h'
    cases hhappening : op.happening? o.topic o.ticket with
    | none =>
      rw [hhappening] at h'
      cases h'
      exact .inl hlag
    | some happening =>
      rw [hhappening, Option.map_some, Option.getD_some] at h'
      rw [show s' = (undergo (s, l) happening).1 from congrArg Prod.fst h'.symm] at hlag
      rcases notified_of_lagged hlag with hlag | ⟨e, rfl⟩
      · exact .inl hlag
      · exact .inr ⟨e, notify_of_happening? hhappening⟩
  own o' after after' hcapacity hinitial' hroom hsame := by
    have hpair : o'.pair = o.pair.relabel o'.topic o'.number o'.ticket := by
      unfold pair bound Pair.relabel Subscription.relabel
      rw [hcapacity, hinitial', hroom]
    have hrun := o'.pair?_run after'
    rw [hsame, hpair, foldl_undergo_relabel] at hrun
    exact ⟨_, _, _, _, o.pair?_run after, hrun, rfl, rfl, rfl, rfl, rfl, rfl⟩

end Opening

/-- Listeners to a port and listeners to a profile, whatever state these start from, are dropped
when they are a full queue behind, and not otherwise. -/
theorem dropsWhenFull_initial :
    (∀ (o : Opening PortRef EndpointsEvent) (ps : PortState),
      ({ o with initial := ps.initialEvents } : Opening _ _).DropsWhenFull) ∧
    ∀ (o : Opening ServiceRef (Option Profile)) (profile : Option Profile),
      ({ o with initial := [profile] } : Opening _ _).DropsWhenFull := by
  refine ⟨fun o ps => Opening.dropsWhenFull ?_, fun o profile => Opening.dropsWhenFull ?_⟩
  · change ps.initialEvents.length ≤ 2
    unfold PortState.initialEvents
    split <;> simp
  · exact Nat.le_succ 1

end Delivery

end Discovery

end MeshDestination
