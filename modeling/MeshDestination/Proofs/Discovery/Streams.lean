import MeshDestination.Proofs.Discovery.Feeds

/-!
# Lists of streams

What the server does to the streams of a list, seen as work of the listeners that feed them: it lets
them run, it lets one client read, it drops a client. Three steps are smaller than what the server
does at once: one turn of a listener, one turn of a stream's listener, and one message that a client
takes. Whatever the server does at once is made of such steps.
-/

namespace MeshDestination.Discovery

namespace Server

variable {τ ε ο : Type} {items : τ → ε → List ο} {subs : Subscriptions τ ε}

/-! ## Single steps -/

/-- The listener of a ticket gets a turn. -/
def turnIn (items : τ → ε → List ο) (notices : Bool) (ticket : Nat) (subs : Subscriptions τ ε)
    (ls : List (Listener ο)) : Subscriptions τ ε × List (Listener ο) :=
  match ls.find? (·.ticket == ticket), subs.find? ticket with
  | some l, some s =>
    match l.turn? (items s.topic) notices s with
    | some (s', l') => (subs.modify ticket fun _ => s', modifyIn ticket (fun _ => l') ls)
    | none => (subs, ls)
  | _, _ => (subs, ls)

/-- The listener that feeds the stream of a ticket gets a turn. -/
def turnStreamIn (items : τ → ε → List ο) (notices : Bool) (ticket : Nat)
    (subs : Subscriptions τ ε) (streams : List (Stream ο)) : Subscriptions τ ε × List (Stream ο) :=
  let (subs, ls) := turnIn items notices ticket subs (streams.map (·.listener))
  (subs, refit streams ls)

/-- The client of a ticket takes the oldest message of its stream, if there is one. -/
def nextIn (streams : List (Stream ο)) (counters : LookupCounters) (ticket : Nat) :
    List (Stream ο) × LookupCounters :=
  match streams.find? (·.listener.ticket == ticket) with
  | some stream =>
    if stream.isOpen then
      match stream.listener.next? with
      | some (_, l) => (setStream { stream with listener := l } streams, counters.send 1)
      | none => (streams, counters)
    else (streams, counters)
  | none => (streams, counters)

/-! ## Streams and their listeners -/

theorem map_listener_refit {streams : List (Stream ο)} {ls : List (Listener ο)}
    (h : ls.length = streams.length) : (refit streams ls).map (·.listener) = ls := by
  rw [refit, List.map_map]
  exact List.map_snd_zip (Nat.le_of_eq h)

theorem find?_map_listener {streams : List (Stream ο)} {t : Nat} {stream : Stream ο}
    (h : streams.find? (·.listener.ticket == t) = some stream) :
    (streams.map (·.listener)).find? (·.ticket == t) = some stream.listener := by
  rw [List.find?_map]
  exact congrArg (Option.map _) h

theorem map_listener_setStream (stream : Stream ο) (streams : List (Stream ο)) :
    (setStream stream streams).map (·.listener) =
      modifyIn stream.listener.ticket (fun _ => stream.listener) (streams.map (·.listener)) := by
  rw [setStream, modifyIn, List.map_map, List.map_map]
  refine List.map_congr_left fun t _ => ?_
  simp only [Function.comp_apply]
  split
  · rfl
  · rfl

/-! ## Work -/

open Listener

theorem advances_turnIn (hn : subs.Numbered) (notices : Bool) (t : Nat) (ls : List (Listener ο)) :
    Advances items subs (turnIn items notices t subs ls).1 ls
      (turnIn items notices t subs ls).2 := by
  unfold turnIn
  split
  · next l s hl hs =>
    split
    · next s' l' hturn =>
      exact advances_replace hn hs hl (.turn hturn .done)
    · exact .refl
  · exact .refl

theorem length_turnIn (items : τ → ε → List ο) (notices : Bool) (t : Nat)
    (subs : Subscriptions τ ε) (ls : List (Listener ο)) :
    (turnIn items notices t subs ls).2.length = ls.length := by
  unfold turnIn
  split
  · split
    · exact List.length_map _
    · rfl
  · rfl

theorem advances_turnStreamIn (hn : subs.Numbered) (notices : Bool) (t : Nat)
    (streams : List (Stream ο)) :
    Advances items subs (turnStreamIn items notices t subs streams).1 (streams.map (·.listener))
      ((turnStreamIn items notices t subs streams).2.map (·.listener)) := by
  have hlength := length_turnIn items notices t subs (streams.map (·.listener))
  rw [List.length_map] at hlength
  rw [turnStreamIn, map_listener_refit hlength]
  exact advances_turnIn hn notices t _

theorem advances_settleStreams (hn : subs.Numbered) {streams : List (Stream ο)}
    (hnodup : ((streams.map (·.listener)).map (·.ticket)).Nodup) :
    Advances items subs (settleStreams items subs streams).1 (streams.map (·.listener))
      ((settleStreams items subs streams).2.map (·.listener)) := by
  have hlength := length_settleAll items (streams.map (·.listener)) subs
  rw [List.length_map] at hlength
  rw [settleStreams, map_listener_refit hlength]
  exact advances_settleAll items _ hn hnodup

theorem advances_setStream {streams : List (Stream ο)} {stream after : Stream ο} {t : Nat}
    (hn : subs.Numbered) (hstream : streams.find? (·.listener.ticket == t) = some stream)
    {s s' : Subscription τ ε} (hs : subs.find? t = some s)
    (hw : Works (items s.topic) s stream.listener s' after.listener) :
    Advances items subs (subs.modify t fun _ => s') (streams.map (·.listener))
      ((setStream after streams).map (·.listener)) := by
  have ht : after.listener.ticket = t := by
    rw [hw.ticket]
    simpa using List.find?_some hstream
  rw [map_listener_setStream, ht]
  exact advances_replace hn hs (find?_map_listener hstream) hw

/-- A stream is replaced by one whose listener was only tended. -/
theorem advances_setStream_of_tended {streams : List (Stream ο)} {stream after : Stream ο} {t : Nat}
    (hstream : streams.find? (·.listener.ticket == t) = some stream)
    (htended : stream.listener.Tended after.listener) :
    Advances items subs subs (streams.map (·.listener))
      ((setStream after streams).map (·.listener)) := by
  have ht : after.listener.ticket = t := by
    rw [htended.ticket]
    simpa using List.find?_some hstream
  rw [map_listener_setStream, ht]
  exact advances_replace_tended (find?_map_listener hstream) htended

theorem advances_nextIn (streams : List (Stream ο)) (counters : LookupCounters) (t : Nat) :
    Advances items subs subs (streams.map (·.listener))
      ((nextIn streams counters t).1.map (·.listener)) := by
  unfold nextIn
  split
  · next stream hstream =>
    split
    · split
      · next x l hnext =>
        exact advances_setStream_of_tended hstream (tended_next? hnext)
      · exact .refl
    · exact .refl
  · exact .refl

theorem advances_dropIn (streams : List (Stream ο)) (counters : LookupCounters) (t : Nat) :
    Advances items subs subs (streams.map (·.listener))
      ((dropIn streams counters t).1.map (·.listener)) := by
  unfold dropIn
  split
  · next stream hstream =>
    exact advances_setStream_of_tended hstream (tended_close stream.listener)
  · exact .refl

/-! ## Reading -/

/-- Reading makes the listener run until it is idle, then takes an item, and so on. -/
theorem works_readUpTo (items : ε → List ο) (n : Nat) :
    ∀ (sub : Subscription τ ε) (l : Listener ο),
      Works items sub l (Stream.readUpTo items n sub l).2.1 (Stream.readUpTo items n sub l).2.2 := by
  induction n with
  | zero => exact works_settle items
  | succ n ih =>
    intro sub l
    have hsettle := works_settle items sub l
    rw [Stream.readUpTo]
    dsimp only
    cases hnext : (l.settle items sub).2.next? with
    | none => exact hsettle
    | some taken => exact hsettle.trans (.tended (tended_next? hnext) (ih _ _))

theorem works_read (items : ε → List ο) (shuttingDown : Bool) (limit : Option Nat)
    (sub : Subscription τ ε) (stream : Stream ο) :
    Works items sub stream.listener (stream.read items shuttingDown limit sub).2.1
      (stream.read items shuttingDown limit sub).2.2.listener := by
  unfold Stream.read
  split
  · have hread := works_readUpTo items (limit.getD (stream.pending items sub)) sub stream.listener
    dsimp only
    split
    · exact hread.trans (.tended (tended_close _) .done)
    · exact hread
  · exact .done

theorem advances_readIn (hn : subs.Numbered) (shuttingDown : Bool) (limit : Option Nat)
    (streams : List (Stream ο)) (counters : LookupCounters) (t : Nat) :
    Advances items subs (readIn items shuttingDown limit subs streams counters t).2.1
      (streams.map (·.listener))
      ((readIn items shuttingDown limit subs streams counters t).2.2.1.map (·.listener)) := by
  unfold readIn
  split
  · next stream sub hstream hsub =>
    exact advances_setStream hn hstream hsub (works_read _ shuttingDown limit sub stream)
  · exact .refl

end Server

end MeshDestination.Discovery
