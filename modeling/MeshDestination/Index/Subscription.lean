/-!
# Subscriptions

A subscription accepts events into a bounded queue, from which its listener receives them in order.
One whose queue is full when an event arrives lags: it accepts nothing more, and what was queued can
still be received. A subscription that is stopped is over at once.
-/

namespace MeshDestination

/-- Where a subscription stands. -/
inductive Standing where
  /-- It accepts events. -/
  | registered
  /-- It fell behind. -/
  | lagged
  /-- It was ended from outside, or its listener went away. -/
  | stopped
  deriving DecidableEq

/-- A subscription to events of type `ε` on a topic of type `τ`. -/
structure Subscription (τ ε : Type) where
  topic : τ
  /-- The number among the subscriptions of the topic. -/
  number : Nat
  /-- The number among all subscriptions. -/
  ticket : Nat
  /-- How many events the queue holds at most. -/
  capacity : Nat
  /-- The events received so far, oldest first. -/
  received : List ε := []
  /-- The events accepted and not received, oldest first. -/
  queue : List ε
  standing : Standing := .registered
  deriving DecidableEq

namespace Subscription

variable {τ ε : Type}

/-- All events ever accepted, oldest first. -/
def log (s : Subscription τ ε) : List ε := s.received ++ s.queue

/-- Whether a subscription accepts events. -/
def isRegistered (s : Subscription τ ε) : Bool := s.standing = .registered

/-- Hands an event to a subscription. -/
def offer (s : Subscription τ ε) (e : ε) : Subscription τ ε :=
  if s.isRegistered then
    if s.queue.length < s.capacity then { s with queue := s.queue ++ [e] }
    else { s with standing := .lagged }
  else s

/-- Ends a subscription that is registered. -/
def unsubscribe (s : Subscription τ ε) : Subscription τ ε :=
  if s.isRegistered then { s with standing := .stopped } else s

/-- Ends a subscription because its listener is gone. -/
def stop (s : Subscription τ ε) : Subscription τ ε := { s with standing := .stopped }

/-- The listener receives the oldest event of the queue. -/
def receive (s : Subscription τ ε) : Subscription τ ε :=
  match s.queue with
  | e :: r => { s with received := s.received ++ [e], queue := r }
  | [] => s

end Subscription

/-- The subscriptions to one kind of events, oldest first. -/
structure Subscriptions (τ ε : Type) where
  entries : List (Subscription τ ε) := []
  nextTicket : Nat := 0

namespace Subscriptions

variable {τ ε : Type}

/-- The smallest queue: a listener's first events may be two. -/
def minCapacity : Nat := 2

/-- Adds a subscription whose first events are `initial`. -/
def subscribe (s : Subscriptions τ ε) (topic : τ) (number capacity : Nat) (initial : List ε) :
    Subscriptions τ ε where
  entries := s.entries ++ [{
    topic, number, ticket := s.nextTicket, queue := initial,
    capacity := max (max capacity minCapacity) initial.length }]
  nextTicket := s.nextTicket + 1

/-- The subscription of a ticket. -/
def find? (s : Subscriptions τ ε) (ticket : Nat) : Option (Subscription τ ε) :=
  s.entries.find? (·.ticket == ticket)

/-- Changes the subscription of a ticket. -/
def modify (s : Subscriptions τ ε) (ticket : Nat)
    (f : Subscription τ ε → Subscription τ ε) :
    Subscriptions τ ε :=
  { s with entries := s.entries.map fun e => if e.ticket = ticket then f e else e }

/-- Hands every subscription the events of its topic. -/
def publish (s : Subscriptions τ ε) (events : τ → List ε) : Subscriptions τ ε :=
  { s with entries := s.entries.map fun e => (events e.topic).foldl Subscription.offer e }

/-- Whether a topic has a registered subscription. -/
def watches [DecidableEq τ] (s : Subscriptions τ ε) (topic : τ) : Bool :=
  s.entries.any fun e => e.isRegistered && e.topic = topic

/-- How many subscriptions are registered. -/
def size (s : Subscriptions τ ε) : Nat := s.entries.countP (·.isRegistered)

end Subscriptions

end MeshDestination
