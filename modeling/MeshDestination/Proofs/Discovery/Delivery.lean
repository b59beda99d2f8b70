import MeshDestination.Discovery.Server
import MeshDestination.Proofs.Discovery.Listener

/-!
# Delivery in order

Subscriptions with a listener each, and any interleaving of what can happen to them: new
subscriptions, events for a topic, ends by a subscriber, liveness signals, and turns of listeners.
To one subscription and its listener a run is a sequence of their own reactions
(`Delivery.react`, `Delivery.pair?_run`). So events reach a listener without a gap and in order,
up to the one at which its subscription was removed (`Delivery.handed_prefix_notified`).
-/

namespace MeshDestination.Discovery

/-- Subscriptions, and the listeners that run beside them. -/
structure Delivery (τ ε : Type) where
  subs : Subscriptions τ ε := {}
  listeners : List (Listener ε) := []

namespace Delivery

variable {τ ε : Type}

/-- What can happen to subscriptions and listeners. -/
inductive Operation (τ ε : Type) where
  | subscribe (topic : τ) (number capacity : Nat) (initial : List ε) (room : Option Nat)
  | notify (topic : τ) (e : ε)
  | unsubscribe (ticket : Nat)
  /-- The liveness signal of a listener fires. -/
  | close (ticket : Nat)
  /-- A listener can hand over more. -/
  | grant (ticket n : Nat)
  /-- A listener gets a turn, in which it may notice that it should end. -/
  | advance (ticket : Nat) (notices : Bool)
  deriving DecidableEq

/-- A subscription and its listener. -/
abbrev Pair (τ ε : Type) := Subscription τ ε × Listener ε

/-- The subscription and the listener of a ticket. -/
def pair? (d : Delivery τ ε) (t : Nat) : Option (Pair τ ε) := do
  let s ← d.subs.find? t
  let l ← d.listeners.find? (·.ticket == t)
  some (s, l)

/-- A subscription and its listener after the listener's turn. -/
def takeTurn (notices : Bool) (p : Pair τ ε) : Pair τ ε :=
  (p.2.turn? (Server.events p.1.topic) notices p.1).getD p

theorem pair?_eq_some {d : Delivery τ ε} {t : Nat} {p : Pair τ ε} :
    d.pair? t = some p ↔
      d.subs.find? t = some p.1 ∧ d.listeners.find? (·.ticket == t) = some p.2 := by
  obtain ⟨s, l⟩ := p
  simp [pair?, Option.bind_eq_some_iff]

theorem ticket_modifyIn {ο : Type} {t : Nat} {f : Listener ο → Listener ο}
    (hf : ∀ l, l.ticket = t → (f l).ticket = t) (l : Listener ο) :
    (if l.ticket = t then f l else l).ticket = l.ticket := by
  split
  · rw [hf l ‹_›, ‹l.ticket = t›]
  · rfl

theorem find?_modifyIn {ο : Type} {t : Nat} {f : Listener ο → Listener ο}
    (hf : ∀ l, l.ticket = t → (f l).ticket = t) (ls : List (Listener ο)) (u : Nat) :
    (Server.modifyIn t f ls).find? (·.ticket == u) =
      (ls.find? (·.ticket == u)).map fun l => if u = t then f l else l := by
  have hsame : (ls.find? ((·.ticket == u) ∘ fun l => if l.ticket = t then f l else l)) =
      ls.find? (·.ticket == u) :=
    List.find?_congr fun l _ => by simp [ticket_modifyIn hf]
  rw [Server.modifyIn, List.find?_map, hsame]
  cases h : ls.find? (·.ticket == u) with
  | none => rfl
  | some l =>
    have ht : l.ticket = u := by simpa using List.find?_some h
    simp only [Option.map_some, ht]

theorem lt_of_mem_modifyIn {ο : Type} {t n : Nat} {f : Listener ο → Listener ο}
    (hf : ∀ l, l.ticket = t → (f l).ticket = t) {ls : List (Listener ο)}
    (h : ∀ l ∈ ls, l.ticket < n) : ∀ l ∈ Server.modifyIn t f ls, l.ticket < n := by
  intro l' hl'
  obtain ⟨l, hl, rfl⟩ := List.mem_map.mp hl'
  rw [ticket_modifyIn hf]
  exact h l hl

theorem ticket_takeTurn (notices : Bool) (p : Pair τ ε) :
    (takeTurn notices p).1.ticket = p.1.ticket ∧ (takeTurn notices p).2.ticket = p.2.ticket := by
  unfold takeTurn
  cases h : p.2.turn? (Server.events p.1.topic) notices p.1 with
  | none => exact ⟨rfl, rfl⟩
  | some q => exact ⟨(Listener.retains_turn? h).ticket, Listener.ticket_turn? h⟩

/-! ## Tickets of listeners -/

/-- Tickets number the subscriptions, and every listener has the ticket of one. -/
structure Valid (d : Delivery τ ε) : Prop where
  numbered : d.subs.Numbered
  lt : ∀ l ∈ d.listeners, l.ticket < d.subs.nextTicket

theorem valid_empty : ({} : Delivery τ ε).Valid :=
  ⟨Subscriptions.numbered_empty, fun _ hl => absurd hl List.not_mem_nil⟩

/-! ## Operations -/

variable [DecidableEq τ]

/-- Performs an operation. -/
def perform (d : Delivery τ ε) : Operation τ ε → Delivery τ ε
  | .subscribe topic number capacity initial room => {
      subs := d.subs.subscribe topic number capacity initial
      listeners := d.listeners ++ [{ ticket := d.subs.nextTicket, room }] }
  | .notify topic e => { d with subs := d.subs.publish fun t => if t = topic then [e] else [] }
  | .unsubscribe t => { d with subs := d.subs.modify t (·.unsubscribe) }
  | .close t => { d with listeners := Server.modifyIn t (·.close) d.listeners }
  | .grant t n => { d with listeners := Server.modifyIn t (·.grant n) d.listeners }
  | .advance t notices =>
    match d.pair? t with
    | some p => {
        subs := d.subs.modify t fun _ => (takeTurn notices p).1
        listeners := Server.modifyIn t (fun _ => (takeTurn notices p).2) d.listeners }
    | none => d

/-- Performs operations in order. -/
def run (d : Delivery τ ε) (ops : List (Operation τ ε)) : Delivery τ ε := ops.foldl perform d

/-- What an operation does to the subscription and the listener of a ticket. -/
def react (t : Nat) (p : Pair τ ε) : Operation τ ε → Pair τ ε
  | .subscribe .. => p
  | .notify topic e => if p.1.topic = topic then (p.1.offer e, p.2) else p
  | .unsubscribe u => if u = t then (p.1.unsubscribe, p.2) else p
  | .close u => if u = t then (p.1, p.2.close) else p
  | .grant u n => if u = t then (p.1, p.2.grant n) else p
  | .advance u notices => if u = t then takeTurn notices p else p

/-! ## Runs as one listener sees them -/

theorem pair?_perform {d : Delivery τ ε} {t : Nat} {p : Pair τ ε} (h : d.pair? t = some p)
    (op : Operation τ ε) : (d.perform op).pair? t = some (react t p op) := by
  obtain ⟨hs, hl⟩ := pair?_eq_some.mp h
  rw [pair?_eq_some]
  cases op with
  | subscribe topic number capacity initial room =>
    refine ⟨Subscriptions.find?_subscribe hs topic number capacity initial, ?_⟩
    change (d.listeners ++ [_]).find? _ = _
    rw [List.find?_append, hl]
    rfl
  | notify topic e =>
    change (d.subs.publish _).find? t = _ ∧ _
    rw [Subscriptions.find?_publish, hs, Option.map_some, react]
    by_cases ht : p.1.topic = topic
    · rw [if_pos ht, if_pos ht]
      exact ⟨rfl, hl⟩
    · rw [if_neg ht, if_neg ht]
      exact ⟨rfl, hl⟩
  | unsubscribe u =>
    change (d.subs.modify u _).find? t = _ ∧ _
    rw [Subscriptions.find?_modify fun s hu => (Subscription.extends_unsubscribe s).ticket.trans hu,
      hs, react]
    by_cases hu : u = t
    · simp [hu, hl, perform]
    · simp [hu, Ne.symm hu, hl, perform]
  | close u =>
    refine ⟨?_, ?_⟩
    · rw [react]
      split <;> exact hs
    · change (Server.modifyIn u Listener.close d.listeners).find? _ = _
      rw [find?_modifyIn (f := Listener.close) (fun _ hu => hu), hl, react]
      by_cases hu : u = t
      · simp [hu]
      · simp [hu, Ne.symm hu]
  | grant u n =>
    refine ⟨?_, ?_⟩
    · rw [react]
      split <;> exact hs
    · change (Server.modifyIn u (Listener.grant · n) d.listeners).find? _ = _
      rw [find?_modifyIn (f := (Listener.grant · n)) (fun _ hu => hu), hl, react]
      by_cases hu : u = t
      · simp [hu]
      · simp [hu, Ne.symm hu]
  | advance u notices =>
    rw [react, perform]
    cases hq : d.pair? u with
    | none =>
      have hu : u ≠ t := by
        rintro rfl
        rw [h] at hq
        cases hq
      rw [if_neg hu]
      exact ⟨hs, hl⟩
    | some q =>
      obtain ⟨hqs, hql⟩ := pair?_eq_some.mp hq
      obtain ⟨hst, hlt⟩ := ticket_takeTurn notices q
      have hsu : (takeTurn notices q).1.ticket = u :=
        hst.trans (Subscriptions.ticket_of_find? hqs)
      have hlu : (takeTurn notices q).2.ticket = u :=
        hlt.trans (by simpa using List.find?_some hql)
      dsimp only
      rw [Subscriptions.find?_modify fun _ _ => hsu, find?_modifyIn fun _ _ => hlu, hs, hl]
      by_cases hu : u = t
      · subst hu
        rw [h] at hq
        cases hq
        simp
      · simp [hu, Ne.symm hu]

/-- To the subscription and the listener of a ticket, a run is a sequence of their reactions. -/
theorem pair?_run (ops : List (Operation τ ε)) :
    ∀ {d : Delivery τ ε} {t : Nat} {p : Pair τ ε}, d.pair? t = some p →
      (d.run ops).pair? t = some (ops.foldl (react t) p) := by
  induction ops with
  | nil => exact fun h => h
  | cons op ops ih => exact fun h => ih (pair?_perform h op)

theorem Valid.perform {d : Delivery τ ε} (h : d.Valid) (op : Operation τ ε) :
    (d.perform op).Valid := by
  cases op with
  | subscribe topic number capacity initial room =>
    refine ⟨h.numbered.subscribe topic number capacity initial, fun l hl => ?_⟩
    change l ∈ d.listeners ++ [_] at hl
    change l.ticket < d.subs.nextTicket + 1
    rcases List.mem_append.mp hl with hl | hl
    · exact Nat.lt_succ_of_lt (h.lt l hl)
    · rw [List.mem_singleton] at hl
      subst hl
      exact Nat.lt_succ_self _
  | notify topic e => exact ⟨h.numbered.publish _, h.lt⟩
  | unsubscribe t =>
    refine ⟨h.numbered.modify fun s ht => ?_, h.lt⟩
    exact (Subscription.extends_unsubscribe s).ticket.trans ht
  | close t => exact ⟨h.numbered, lt_of_mem_modifyIn (f := Listener.close) (fun _ ht => ht) h.lt⟩
  | grant t n =>
    exact ⟨h.numbered, lt_of_mem_modifyIn (f := (Listener.grant · n)) (fun _ ht => ht) h.lt⟩
  | advance t notices =>
    rw [Delivery.perform]
    cases hp : d.pair? t with
    | none => exact h
    | some p =>
      obtain ⟨hs, hl⟩ := pair?_eq_some.mp hp
      obtain ⟨hst, hlt⟩ := ticket_takeTurn notices p
      refine ⟨h.numbered.modify fun _ _ => ?_, lt_of_mem_modifyIn (fun _ _ => ?_) h.lt⟩
      · exact hst.trans (Subscriptions.ticket_of_find? hs)
      · exact hlt.trans (by simpa using List.find?_some hl)

theorem Valid.run {d : Delivery τ ε} (h : d.Valid) (ops : List (Operation τ ε)) :
    (d.run ops).Valid := by
  induction ops generalizing d with
  | nil => exact h
  | cons op ops ih => exact ih (h.perform op)

/-- A new subscription has accepted its first events, and its listener has done nothing. -/
theorem pair?_subscribe {d : Delivery τ ε} (h : d.Valid) (topic : τ) (number capacity : Nat)
    (initial : List ε) (room : Option Nat) :
    (d.perform (.subscribe topic number capacity initial room)).pair? d.subs.nextTicket = some (
      { topic, number, ticket := d.subs.nextTicket, queue := initial,
        capacity := max (max capacity Subscriptions.minCapacity) initial.length },
      { ticket := d.subs.nextTicket, room }) := by
  rw [pair?_eq_some]
  refine ⟨Subscriptions.find?_subscribe_self h.numbered topic number capacity initial, ?_⟩
  have older : d.listeners.find? (·.ticket == d.subs.nextTicket) = none := by
    rw [List.find?_eq_none]
    intro l hl heq
    exact absurd (beq_iff_eq.mp heq) (Nat.ne_of_lt (h.lt l hl))
  change (d.listeners ++ [_]).find? _ = _
  rw [List.find?_append, older]
  simp

end Delivery

end MeshDestination.Discovery
