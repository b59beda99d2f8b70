import MeshDestination.Discovery.Listener

/-!
# Streams to clients

A stream buffers a few messages for its client; its listener waits while the buffer is full. It is
over when its subscription is, when the client goes away, or when the server shuts down.
-/

namespace MeshDestination.Discovery

/-- How many messages a stream buffers. -/
def streamBuffer : Nat := 10

/-- A stream of messages of type `ο`. -/
structure Stream (ο : Type) where
  /-- The listener that feeds the stream. -/
  listener : Listener ο
  isOpen : Bool := true
  deriving DecidableEq

/-- A stream fed by the subscription of a ticket. -/
def Stream.ofTicket (ticket : Nat) : Stream ο :=
  { listener := { ticket, room := some streamBuffer } }

namespace Stream

variable {τ ε ο : Type}

/-- Ends a stream; its subscription's liveness signal fires. -/
def finish (s : Stream ο) : Stream ο := { s with listener := s.listener.close, isOpen := false }

/-- The messages that the client has read, oldest first. -/
def sent (s : Stream ο) : List ο := s.listener.taken

/-- How many messages are still to come if nothing happens. -/
def pending (items : ε → List ο) (sub : Subscription τ ε) (s : Stream ο) : Nat :=
  s.listener.outbox.length + s.listener.inHand.length + (sub.queue.flatMap items).length

/-- Takes up to `n` messages, each as soon as it is buffered. -/
def readUpTo (items : ε → List ο) : Nat → Subscription τ ε → Listener ο →
    List ο × Subscription τ ε × Listener ο
  | 0, sub, l => let (sub, l) := l.settle items sub; ([], sub, l)
  | n + 1, sub, l =>
    let (sub, l) := l.settle items sub
    match l.next? with
    | none => ([], sub, l)
    | some (m, l) =>
      let (ms, sub, l) := readUpTo items n sub l
      (m :: ms, sub, l)

/-- What a client reads. -/
structure Reading (ο : Type) where
  messages : List ο
  /-- Whether the client met the end. -/
  ended : Bool

/-- Whether a reading of `n` messages stays below its limit. -/
def staysBelow (limit : Option Nat) (n : Nat) : Bool :=
  match limit with
  | some k => n < k
  | none => true

/-- Reads what there is, at most `limit` messages if one is given. The end is met only if fewer than
that are read. -/
def read (items : ε → List ο) (shuttingDown : Bool) (limit : Option Nat) (sub : Subscription τ ε)
    (s : Stream ο) : Reading ο × Subscription τ ε × Stream ο :=
  if s.isOpen then
    let n := limit.getD (s.pending items sub)
    let (ms, sub, l) := readUpTo items n sub s.listener
    let s := { s with listener := l }
    if staysBelow limit ms.length && l.outbox.isEmpty && (l.hasEnded || shuttingDown) then
      (⟨ms, true⟩, sub, s.finish)
    else (⟨ms, false⟩, sub, s)
  else (⟨[], true⟩, sub, s)

end Stream

end MeshDestination.Discovery
