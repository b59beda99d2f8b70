import MeshDestination.Index.Subscription

/-!
# Listeners

A listener receives the events of its subscription one at a time and hands over what each is worth,
as far as there is room. It holds one event in hand besides those of the queue, and it ends when its
liveness signal fires, when its subscription is stopped, or when a lagging subscription has nothing
left.
-/

namespace MeshDestination.Discovery

/-- A listener that hands over items of type `ο`. -/
structure Listener (ο : Type) where
  /-- The ticket of its subscription. -/
  ticket : Nat
  /-- How many more items can be handed over; without a number, any. -/
  room : Option Nat
  /-- Items of the event in hand. -/
  inHand : List ο := []
  /-- Items handed over and taken, oldest first. -/
  taken : List ο := []
  /-- Items handed over and not taken, oldest first. -/
  outbox : List ο := []
  /-- Whether the liveness signal has fired. -/
  isClosed : Bool := false
  hasEnded : Bool := false
  deriving DecidableEq

namespace Listener

variable {τ ε ο : Type}

/-- All items ever handed over, oldest first. -/
def handed (l : Listener ο) : List ο := l.taken ++ l.outbox

/-- The listener after what it handed over has been taken. -/
def emptied (l : Listener ο) : Listener ο := { l with taken := l.handed, outbox := [] }

/-- Makes room for more items. -/
def grant (l : Listener ο) (n : Nat) : Listener ο := { l with room := l.room.map (· + n) }

/-- Fires the liveness signal. -/
def close (l : Listener ο) : Listener ο := { l with isClosed := true }

/-- The listener after its end: what was in hand is lost. -/
def ended (l : Listener ο) : Listener ο := { l with inHand := [], hasEnded := true }

/-- The step by which a listener goes on with its work, if it can: it hands over an item or receives
the next event. With nothing left of a lagging subscription it ends. -/
def proceed? (items : ε → List ο) (s : Subscription τ ε) (l : Listener ο) :
    Option (Subscription τ ε × Listener ο) :=
  match l.inHand, s.queue with
  | x :: r, _ =>
    if l.room = some 0 then none
    else some (s, { l with inHand := r, outbox := l.outbox ++ [x], room := l.room.map (· - 1) })
  | [], e :: _ => some (s.receive, { l with inHand := items e })
  | [], [] => if s.standing = .lagged then some (s, l.ended) else none

/-- The next step of a listener, if it can take one. One whose liveness signal has fired or whose
subscription was stopped ends. -/
def step? (items : ε → List ο) (s : Subscription τ ε) (l : Listener ο) :
    Option (Subscription τ ε × Listener ο) :=
  if l.hasEnded then none
  else if l.isClosed || s.standing = .stopped then some (s.stop, l.ended)
  else proceed? items s l

/-- How many steps a listener can take at most. -/
def work (items : ε → List ο) (s : Subscription τ ε) (l : Listener ο) : Nat :=
  if l.hasEnded then 0
  else 1 + l.inHand.length + (s.queue.length + (s.queue.flatMap items).length)

theorem work_ended (items : ε → List ο) (s : Subscription τ ε) (l : Listener ο) :
    work items s l.ended = 0 := rfl

theorem work_pos {items : ε → List ο} {s : Subscription τ ε} {l : Listener ο}
    (live : ¬l.hasEnded = true) : 0 < work items s l := by
  rw [work, if_neg live]
  omega

theorem work_proceed?_lt {items : ε → List ο} {s s' : Subscription τ ε} {l l' : Listener ο}
    (live : ¬l.hasEnded = true) (h : proceed? items s l = some (s', l')) :
    work items s' l' < work items s l := by
  unfold proceed? at h
  split at h
  · rename_i x r hand
    split at h
    · exact absurd h (by simp)
    · injection h with h
      injection h with hs hl
      subst hs hl
      simp [work, live, hand]
  · rename_i e r hand queue
    injection h with h
    injection h with hs hl
    subst hs hl
    simp only [work, live, hand, queue, Subscription.receive, List.length_nil, List.length_cons,
      List.flatMap_cons, List.length_append, Bool.false_eq_true, if_false]
    omega
  · split at h
    · injection h with h
      injection h with hs hl
      subst hl
      rw [work_ended]
      exact work_pos live
    · exact absurd h (by simp)

theorem work_step?_lt {items : ε → List ο} {s s' : Subscription τ ε} {l l' : Listener ο}
    (h : step? items s l = some (s', l')) : work items s' l' < work items s l := by
  unfold step? at h
  split at h
  · exact absurd h (by simp)
  · rename_i live
    split at h
    · injection h with h
      injection h with hs hl
      subst hl
      rw [work_ended]
      exact work_pos live
    · exact work_proceed?_lt live h

/-- Lets a listener run until it is idle. -/
def settle (items : ε → List ο) (s : Subscription τ ε) (l : Listener ο) :
    Subscription τ ε × Listener ο :=
  match _h : step? items s l with
  | none => (s, l)
  | some (s', l') => settle items s' l'
termination_by work items s l
decreasing_by exact work_step?_lt _h

/-- Lets a listener run until it is idle, among all subscriptions of its kind. -/
def settleIn (items : τ → ε → List ο) (subs : Subscriptions τ ε) (l : Listener ο) :
    Subscriptions τ ε × Listener ο :=
  match subs.find? l.ticket with
  | none => (subs, l)
  | some s =>
    let (s', l') := settle (items s.topic) s l
    (subs.modify l.ticket fun _ => s', l')

/-- Takes the oldest item that was handed over, which makes room for another one. -/
def next? (l : Listener ο) : Option (ο × Listener ο) :=
  match l.outbox with
  | [] => none
  | x :: r => some (x, { l.grant 1 with taken := l.taken ++ [x], outbox := r })

end Listener

end MeshDestination.Discovery
