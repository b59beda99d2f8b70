import MeshDestination.Discovery.Listener
import MeshDestination.Proofs.Subscription

/-!
# What listeners hand over

A listener hands over what the events of its subscription are worth, in the order in which it
receives them (`Listener.Follows`). Nothing that happens to the subscription or to the listener
breaks this: events that are offered, an end by the subscriber, steps of the listener, and its
liveness signal in between. A listener that has ended on a lagging subscription has received all of
its queue and has handed over all of it.
-/

namespace MeshDestination.Discovery

namespace Listener

variable {τ ε ο : Type} {items : ε → List ο} {s s' : Subscription τ ε} {l l' : Listener ο}

/-- A step of a listener that gets its turn, if it can take one. When its liveness signal has fired
or its subscription was stopped, it may notice that and end, or go on with what it can do as well.
-/
def turn? (items : ε → List ο) (notices : Bool) (s : Subscription τ ε) (l : Listener ο) :
    Option (Subscription τ ε × Listener ο) :=
  if notices then step? items s l else if l.hasEnded then none else proceed? items s l

/-- A listener has handed over, or has in hand, what the events received so far are worth. It has
ended only if its subscription is over, and on a lagging one only when nothing was left. -/
structure Follows (items : ε → List ο) (s : Subscription τ ε) (l : Listener ο) : Prop where
  handed : l.handed ++ l.inHand <+: s.received.flatMap items
  live : l.hasEnded = false → l.handed ++ l.inHand = s.received.flatMap items
  unregistered : l.hasEnded = true → ¬s.isRegistered = true
  drained : l.hasEnded = true → s.standing = .lagged →
    s.queue = [] ∧ l.handed = s.received.flatMap items

/-- What is handed over comes from the events accepted. -/
theorem Follows.handed_log (h : l.Follows items s) :
    l.handed ++ l.inHand <+: s.log.flatMap items := by
  refine h.handed.trans ?_
  rw [Subscription.log, List.flatMap_append]
  exact List.prefix_append _ _

/-- A listener of a new subscription has nothing to hand over. -/
theorem follows_new (hs : s.received = []) (hl : l.handed ++ l.inHand = [])
    (live : l.hasEnded = false) : l.Follows items s where
  handed := by
    rw [hl]
    exact List.nil_prefix
  live _ := by
    rw [hl, hs]
    rfl
  unregistered h := by
    rw [live] at h
    cases h
  drained h := by
    rw [live] at h
    cases h

/-- The listener `l'` is `l` with as much handed over, though perhaps more of it taken, more room,
or its liveness signal fired. -/
structure Tended (l l' : Listener ο) : Prop where
  ticket : l'.ticket = l.ticket
  handed : l'.handed = l.handed
  inHand : l'.inHand = l.inHand
  hasEnded : l'.hasEnded = l.hasEnded

theorem Tended.refl (l : Listener ο) : l.Tended l := ⟨rfl, rfl, rfl, rfl⟩

theorem tended_emptied (l : Listener ο) : l.Tended l.emptied :=
  ⟨rfl, List.append_nil _, rfl, rfl⟩

theorem tended_grant (l : Listener ο) (n : Nat) : l.Tended (l.grant n) := ⟨rfl, rfl, rfl, rfl⟩

theorem tended_close (l : Listener ο) : l.Tended l.close := ⟨rfl, rfl, rfl, rfl⟩

/-- An item that is taken was the oldest one handed over. -/
theorem tended_next? {x : ο} (h : l.next? = some (x, l')) : l.Tended l' := by
  unfold next? at h
  split at h
  · cases h
  · next y r houtbox =>
    cases h
    refine ⟨rfl, ?_, rfl, rfl⟩
    change l.taken ++ [x] ++ r = l.taken ++ l.outbox
    rw [houtbox, List.append_assoc, List.singleton_append]

theorem Follows.tended (h : l.Follows items s) (ht : l.Tended l') : l'.Follows items s where
  handed := by
    rw [ht.handed, ht.inHand]
    exact h.handed
  live hlive := by
    rw [ht.handed, ht.inHand]
    exact h.live (ht.hasEnded ▸ hlive)
  unregistered hended := h.unregistered (ht.hasEnded ▸ hended)
  drained hended hlag := by
    rw [ht.handed]
    exact h.drained (ht.hasEnded ▸ hended) hlag

theorem Follows.extends (h : l.Follows items s) (hs : s.Extends s') : l.Follows items s' := by
  cases hl : l.hasEnded with
  | true =>
    rw [hs.inert (h.unregistered hl)]
    exact h
  | false =>
    refine ⟨?_, fun _ => ?_, fun hended => ?_, fun hended => ?_⟩
    · rw [hs.received]
      exact h.handed
    · rw [hs.received]
      exact h.live hl
    · rw [hl] at hended
      cases hended
    · rw [hl] at hended
      cases hended

/-! ## Steps -/

/-- What a step by which a listener goes on does: it hands over an item, receives an event, or ends
on a lagging subscription that has nothing left. -/
theorem proceed?_cases (h : proceed? items s l = some (s', l')) :
    (∃ x r, l.inHand = x :: r ∧ l.room ≠ some 0 ∧ s' = s ∧
      l' = { l with inHand := r, outbox := l.outbox ++ [x], room := l.room.map (· - 1) }) ∨
    (∃ e r, l.inHand = [] ∧ s.queue = e :: r ∧ s' = s.receive ∧
      l' = { l with inHand := items e }) ∨
    (l.inHand = [] ∧ s.queue = [] ∧ s.standing = .lagged ∧ s' = s ∧ l' = l.ended) := by
  unfold proceed? at h
  split at h
  · next x r hand =>
    split at h
    · cases h
    · next room =>
      cases h
      exact .inl ⟨x, r, hand, room, rfl, rfl⟩
  · next e r hand queue =>
    cases h
    exact .inr (.inl ⟨e, r, hand, queue, rfl, rfl⟩)
  · next hand queue =>
    split at h
    · next lag =>
      cases h
      exact .inr (.inr ⟨hand, queue, lag, rfl, rfl⟩)
    · cases h

/-- What a listener does in its turn: it ends because it is no longer wanted, or it goes on. -/
theorem turn?_cases {notices : Bool} (h : turn? items notices s l = some (s', l')) :
    l.hasEnded = false ∧
      ((l.isClosed = true ∨ s.standing = .stopped) ∧ s' = s.stop ∧ l' = l.ended ∨
        proceed? items s l = some (s', l')) := by
  unfold turn? at h
  split at h
  · unfold step? at h
    split at h
    · cases h
    · next live =>
      refine ⟨by simpa using live, ?_⟩
      split at h
      · next unwanted =>
        cases h
        exact .inl ⟨by simpa using unwanted, rfl, rfl⟩
      · exact .inr h
  · split at h
    · cases h
    · next live =>
      exact ⟨by simpa using live, .inr h⟩

theorem retains_proceed? (h : proceed? items s l = some (s', l')) : s.Retains s' := by
  obtain ⟨x, r, -, -, rfl, -⟩ | ⟨e, r, -, -, rfl, -⟩ | ⟨-, -, -, rfl, -⟩ := proceed?_cases h
  · exact .refl _
  · exact Subscription.retains_receive s
  · exact .refl _

theorem ticket_proceed? (h : proceed? items s l = some (s', l')) : l'.ticket = l.ticket := by
  obtain ⟨x, r, -, -, -, rfl⟩ | ⟨e, r, -, -, -, rfl⟩ | ⟨-, -, -, -, rfl⟩ := proceed?_cases h
  · rfl
  · rfl
  · rfl

theorem Follows.ended_stop (h : l.Follows items s) : l.ended.Follows items s.stop where
  handed := by
    change l.handed ++ [] <+: _
    rw [List.append_nil]
    exact (List.prefix_append _ _).trans h.handed
  live hlive := by cases hlive
  unregistered _ := by simp [Subscription.stop, Subscription.isRegistered]
  drained _ hlag := by cases hlag

theorem Follows.proceed? (h : l.Follows items s) (live : l.hasEnded = false)
    (hstep : proceed? items s l = some (s', l')) : l'.Follows items s' := by
  have hlive := h.live live
  obtain ⟨x, r, hand, -, rfl, rfl⟩ | ⟨e, r, hand, queue, rfl, rfl⟩ | ⟨hand, queue, lag, rfl, rfl⟩ :=
    proceed?_cases hstep
  · have hsame : l.taken ++ (l.outbox ++ [x]) ++ r = s'.received.flatMap items := by
      rw [← hlive, Listener.handed, hand]
      simp only [List.append_assoc, List.singleton_append]
    refine ⟨hsame ▸ List.prefix_rfl, fun _ => hsame, fun hended => ?_, fun hended => ?_⟩
    · exact absurd (live.symm.trans hended) Bool.false_ne_true
    · exact absurd (live.symm.trans hended) Bool.false_ne_true
  · have hreceived : s.receive.received = s.received ++ [e] := by
      rw [Subscription.receive, queue]
    have hsame : l.handed ++ items e = s.receive.received.flatMap items := by
      rw [hreceived, List.flatMap_append, ← hlive, hand]
      simp only [List.append_nil, List.flatMap_singleton]
    refine ⟨hsame ▸ List.prefix_rfl, fun _ => hsame, fun hended => ?_, fun hended => ?_⟩
    · exact absurd (live.symm.trans hended) Bool.false_ne_true
    · exact absurd (live.symm.trans hended) Bool.false_ne_true
  · rw [hand, List.append_nil] at hlive
    refine ⟨?_, fun hlive' => ?_, fun _ => ?_, fun _ _ => ⟨queue, hlive⟩⟩
    · have hsame : l.handed ++ [] = s'.received.flatMap items := by
        rw [List.append_nil, hlive]
      exact hsame ▸ List.prefix_rfl
    · cases hlive'
    · exact Subscription.not_registered_of_lagged lag

theorem Follows.turn? {notices : Bool} (h : l.Follows items s)
    (hstep : turn? items notices s l = some (s', l')) : l'.Follows items s' := by
  obtain ⟨live, ⟨-, rfl, rfl⟩ | hproceed⟩ := turn?_cases hstep
  · exact h.ended_stop
  · exact h.proceed? live hproceed

theorem retains_turn? {notices : Bool} (h : turn? items notices s l = some (s', l')) :
    s.Retains s' := by
  obtain ⟨-, ⟨-, rfl, -⟩ | hproceed⟩ := turn?_cases h
  · exact Subscription.retains_stop s
  · exact retains_proceed? hproceed

theorem ticket_turn? {notices : Bool} (h : turn? items notices s l = some (s', l')) :
    l'.ticket = l.ticket := by
  obtain ⟨-, ⟨-, -, rfl⟩ | hproceed⟩ := turn?_cases h
  · rfl
  · exact ticket_proceed? hproceed

theorem isClosed_turn? {notices : Bool} (h : turn? items notices s l = some (s', l')) :
    l'.isClosed = l.isClosed := by
  obtain ⟨-, ⟨-, -, rfl⟩ | hproceed⟩ := turn?_cases h
  · rfl
  · obtain ⟨x, r, -, -, -, rfl⟩ | ⟨e, r, -, -, -, rfl⟩ | ⟨-, -, -, -, rfl⟩ :=
      proceed?_cases hproceed
    · rfl
    · rfl
    · rfl

/-! ## Progress on a lagging subscription -/

/-- On a lagging subscription a listener that can hand over what it has in hand has a step to take,
and less work after it. -/
theorem proceed?_of_lagged (live : l.hasEnded = false) (lag : s.standing = .lagged)
    (room : l.inHand ≠ [] → l.room ≠ some 0) :
    ∃ s' l', proceed? items s l = some (s', l') ∧ work items s' l' < work items s l := by
  have hsome : ∃ s' l', proceed? items s l = some (s', l') := by
    unfold proceed?
    split
    · next hand =>
      rw [if_neg (room (by simp [hand]))]
      exact ⟨_, _, rfl⟩
    · exact ⟨_, _, rfl⟩
    · rw [if_pos lag]
      exact ⟨_, _, rfl⟩
  obtain ⟨s', l', hstep⟩ := hsome
  exact ⟨s', l', hstep, work_proceed?_lt (by simp [live]) hstep⟩

/-- A lagging subscription stays so while its listener goes on. -/
theorem lagged_of_proceed? (lag : s.standing = .lagged)
    (h : proceed? items s l = some (s', l')) : s'.standing = .lagged := by
  obtain ⟨x, r, -, -, rfl, -⟩ | ⟨e, r, -, queue, rfl, -⟩ | ⟨-, -, -, rfl, -⟩ := proceed?_cases h
  · exact lag
  · rw [Subscription.receive, queue]
    exact lag
  · exact lag

/-- A listener whose liveness signal has not fired does not end before a lagging subscription has
nothing left. -/
theorem turn?_of_lagged {notices : Bool} (live : l.hasEnded = false) (lag : s.standing = .lagged)
    (wanted : l.isClosed = false) : turn? items notices s l = proceed? items s l := by
  unfold turn? step?
  simp [live, lag, wanted]

/-! ## Any number of steps -/

/-- What happens to a listener and its subscription from the listener's side, in any number of
steps. -/
inductive Works (items : ε → List ο) :
    Subscription τ ε → Listener ο → Subscription τ ε → Listener ο → Prop
  | done {s₁ l₁} : Works items s₁ l₁ s₁ l₁
  | turn {notices s₁ l₁ s₂ l₂ s₃ l₃} (h : turn? items notices s₁ l₁ = some (s₂, l₂))
    (rest : Works items s₂ l₂ s₃ l₃) : Works items s₁ l₁ s₃ l₃
  | tended {s₁ l₁ l₂ s₃ l₃} (h : Tended l₁ l₂) (rest : Works items s₁ l₂ s₃ l₃) :
    Works items s₁ l₁ s₃ l₃

theorem Works.trans {s'' : Subscription τ ε} {l'' : Listener ο} (h : Works items s l s' l')
    (h' : Works items s' l' s'' l'') : Works items s l s'' l'' := by
  induction h with
  | done => exact h'
  | turn h _ ih => exact .turn h (ih h')
  | tended h _ ih => exact .tended h (ih h')

theorem Works.retains (h : Works items s l s' l') : s.Retains s' := by
  induction h with
  | done => exact .refl _
  | turn h _ ih => exact (retains_turn? h).trans ih
  | tended _ _ ih => exact ih

theorem Works.ticket (h : Works items s l s' l') : l'.ticket = l.ticket := by
  induction h with
  | done => rfl
  | turn h _ ih => exact ih.trans (ticket_turn? h)
  | tended h _ ih => exact ih.trans h.ticket

theorem Works.follows (hw : Works items s l s' l') (h : l.Follows items s) :
    l'.Follows items s' := by
  induction hw with
  | done => exact h
  | turn hturn _ ih => exact ih (h.turn? hturn)
  | tended ht _ ih => exact ih (h.tended ht)

/-- A listener that runs until it is idle takes turns in which it notices everything. -/
theorem works_settle (items : ε → List ο) (s : Subscription τ ε) (l : Listener ο) :
    Works items s l (settle items s l).1 (settle items s l).2 := by
  fun_induction settle items s l with
  | case1 s l hnone => exact .done
  | case2 s l s' l' hstep ih =>
    have hturn : turn? items true s l = some (s', l') := hstep
    exact .turn hturn ih

end Listener

end MeshDestination.Discovery
