import MeshDestination.Proofs.Discovery.Streams

/-!
# What clients see

The clients of one kind of lookup see answers, messages and the ends of streams (`Sight`). From
these can be told how many lookups had each result, which streams are open (`Sight.live`) and how
many messages were sent. The counters, together with the streams of a server, agree with what
clients saw (`Books`), and whatever the server does to the streams of a list keeps it so: a lookup
opens one (`Books.open_`), a client reads (`Books.readIn`), takes a message (`Books.nextIn`) or goes
away (`Books.dropIn`).

The streams are listed with their tickets (`roll`), so that the ends of streams are counted once. No
ticket is given twice (`Subscriptions.Ages`).
-/

namespace MeshDestination

/-! ## Tickets -/

namespace Subscriptions

variable {τ ε : Type} {before between after : Subscriptions τ ε}

/-- From `before` to `after` the subscriptions stay numbered, and no ticket becomes free again. -/
structure Ages (before after : Subscriptions τ ε) : Prop where
  numbered : before.Numbered → after.Numbered
  le : before.nextTicket ≤ after.nextTicket

theorem Ages.refl (s : Subscriptions τ ε) : s.Ages s := ⟨id, Nat.le_refl _⟩

theorem Ages.trans (h : before.Ages between) (h' : between.Ages after) : before.Ages after :=
  ⟨fun hn => h'.numbered (h.numbered hn), h.le.trans h'.le⟩

theorem ages_publish (s : Subscriptions τ ε) (events : τ → List ε) : s.Ages (s.publish events) :=
  ⟨fun hn => hn.publish events, Nat.le_refl _⟩

theorem ages_subscribe (s : Subscriptions τ ε) (topic : τ) (number capacity : Nat)
    (initial : List ε) : s.Ages (s.subscribe topic number capacity initial) :=
  ⟨fun hn => hn.subscribe topic number capacity initial, Nat.le_succ _⟩

theorem ages_modify (s : Subscriptions τ ε) {t : Nat} {f : Subscription τ ε → Subscription τ ε}
    (hf : ∀ sub, sub.ticket = t → (f sub).ticket = t) : s.Ages (s.modify t f) :=
  ⟨fun hn => hn.modify hf, Nat.le_refl _⟩

end Subscriptions

namespace Discovery

open Listener

/-! ## What clients see -/

/-- What a client sees. -/
inductive Sight where
  /-- A lookup is answered with the ticket of a new stream, or refused. -/
  | answer (a : Except Rejection Nat)
  | message
  /-- A stream is over: the client met its end, or went away. -/
  | ended (ticket : Nat)

namespace Sight

/-- A lookup is answered. -/
def isAnswer : Sight → Bool
  | answer _ => true
  | _ => false

/-- A lookup is answered with a stream. -/
def isOpening : Sight → Bool
  | answer (.ok _) => true
  | _ => false

/-- A lookup is refused because its path names no service. -/
def isInvalidPath : Sight → Bool
  | answer (.error (.invalidTarget ..)) => true
  | _ => false

/-- A lookup is refused because the subscription fails. -/
def isFailure : Sight → Bool
  | answer (.error (.failed _)) => true
  | _ => false

/-- A message is taken. -/
def isMessage : Sight → Bool
  | message => true
  | _ => false

/-- The streams that are open after a sight. -/
def follow (live : List Nat) : Sight → List Nat
  | answer (.ok ticket) => live ++ [ticket]
  | ended ticket => live.filter (· != ticket)
  | _ => live

/-- The streams that were opened and are not over, by their tickets. -/
def live (seen : List Sight) : List Nat := seen.foldl follow []

/-- What a client sees that reads the stream of a ticket. -/
def ofReading {ο : Type} (ticket : Nat) (r : Stream.Reading ο) : List Sight :=
  List.replicate r.messages.length message ++ if r.ended then [ended ticket] else []

theorem live_append (seen more : List Sight) :
    live (seen ++ more) = more.foldl follow (live seen) :=
  List.foldl_append

theorem foldl_follow_messages (n : Nat) (l : List Nat) :
    (List.replicate n message).foldl follow l = l := by
  induction n with
  | zero => rfl
  | succ n ih => exact ih

theorem follow_ended_of_notMem {t : Nat} {l : List Nat} (h : t ∉ l) : follow l (ended t) = l := by
  rw [follow, List.filter_eq_self]
  intro u hu
  rw [bne_iff_ne]
  rintro rfl
  exact h hu

end Sight

/-! ## Counters of listed streams -/

/-- The tickets of some streams, and whether they are open. -/
def roll {ο : Type} (streams : List (Stream ο)) : List (Nat × Bool) :=
  streams.map fun s => (s.listener.ticket, s.isOpen)

/-- A list of tickets after the stream of one of them is over. -/
def shut (t : Nat) (r : List (Nat × Bool)) : List (Nat × Bool) :=
  r.map fun p => if p.1 = t then (t, false) else p

theorem map_fst_shut (t : Nat) (r : List (Nat × Bool)) : (shut t r).map (·.1) = r.map (·.1) := by
  rw [shut, List.map_map]
  refine List.map_congr_left fun p _ => ?_
  simp only [Function.comp_apply]
  split
  · next h => exact h.symm
  · rfl

/-- The open streams of a list, by their tickets. -/
def openOn (r : List (Nat × Bool)) : List Nat := (r.filter (·.2)).map (·.1)

theorem sublist_openOn (r : List (Nat × Bool)) : (openOn r).Sublist (r.map (·.1)) :=
  List.filter_sublist.map _

theorem openOn_cons (p : Nat × Bool) (r : List (Nat × Bool)) :
    openOn (p :: r) = if p.2 then p.1 :: openOn r else openOn r := by
  rw [openOn, List.filter_cons]
  split <;> rfl

theorem openOn_shut (t : Nat) (r : List (Nat × Bool)) :
    openOn (shut t r) = (openOn r).filter (· != t) := by
  induction r with
  | nil => rfl
  | cons p r ih =>
    have hcons : shut t (p :: r) = (if p.1 = t then (t, false) else p) :: shut t r := rfl
    rw [hcons, openOn_cons, openOn_cons, ih]
    by_cases ht : p.1 = t
    · cases hp : p.2 <;> simp [ht]
    · cases hp : p.2 <;> simp [ht, hp]

/-- A listed stream is open as the list says. -/
theorem mem_openOn {r : List (Nat × Bool)} (hnodup : (r.map (·.1)).Nodup) {t : Nat} {b : Bool}
    (ht : (t, b) ∈ r) : t ∈ openOn r ↔ b = true := by
  constructor
  · intro hmem
    obtain ⟨p, hp, hpt⟩ := List.mem_map.mp hmem
    rw [List.mem_filter] at hp
    have heq : (t, b) = p := List.inj_on_of_nodup_map hnodup ht hp.1 hpt.symm
    rw [← heq] at hp
    exact hp.2
  · rintro rfl
    exact List.mem_map.mpr ⟨(t, true), List.mem_filter.mpr ⟨ht, rfl⟩, rfl⟩

/-- Lookups and messages are counted as clients saw them. -/
structure Counted (k : LookupCounters) (seen : List Sight) : Prop where
  subscribed : k.subscribed = seen.countP Sight.isOpening
  invalidPath : k.invalidPath = seen.countP Sight.isInvalidPath
  failed : k.failed = seen.countP Sight.isFailure
  updates : k.updates = seen.countP Sight.isMessage

/-- Counters agree with what clients saw, and with a list of streams. -/
structure Tallied (k : LookupCounters) (r : List (Nat × Bool)) (seen : List Sight) : Prop
    extends Counted k seen where
  balance : k.subscribed = k.streams + k.finished
  live : Sight.live seen = openOn r
  streams : k.streams = (openOn r).length

section Tallied

variable {k k' : LookupCounters} {r : List (Nat × Bool)} {seen more : List Sight}

theorem Counted.append (h : Counted k seen)
    (hsubscribed : k'.subscribed = k.subscribed + more.countP Sight.isOpening)
    (hinvalid : k'.invalidPath = k.invalidPath + more.countP Sight.isInvalidPath)
    (hfailed : k'.failed = k.failed + more.countP Sight.isFailure)
    (hupdates : k'.updates = k.updates + more.countP Sight.isMessage) :
    Counted k' (seen ++ more) where
  subscribed := by rw [hsubscribed, h.subscribed, List.countP_append]
  invalidPath := by rw [hinvalid, h.invalidPath, List.countP_append]
  failed := by rw [hfailed, h.failed, List.countP_append]
  updates := by rw [hupdates, h.updates, List.countP_append]

/-- Every answer has one of three results. -/
theorem Counted.lookups (h : Counted k seen) : k.lookups = seen.countP Sight.isAnswer := by
  rw [LookupCounters.lookups, h.subscribed, h.invalidPath, h.failed]
  clear h
  induction seen with
  | nil => rfl
  | cons x seen ih =>
    simp only [List.countP_cons, ← ih]
    cases x with
    | message | ended _ => rfl
    | answer a =>
      rcases a with (⟨_, _⟩ | _) | _
      all_goals
        simp only [Sight.isAnswer, Sight.isOpening, Sight.isInvalidPath, Sight.isFailure,
          Bool.false_eq_true, if_true, if_false]
        omega

theorem tallied_start : Tallied {} [] [] := by
  constructor
  case toCounted => constructor <;> rfl
  all_goals rfl

/-- Nothing happens to the streams. -/
theorem Tallied.append (h : Tallied k r seen) (hc : Counted k' (seen ++ more))
    (hsubscribed : k'.subscribed = k.subscribed) (hstreams : k'.streams = k.streams)
    (hfinished : k'.finished = k.finished)
    (hlive : more.foldl Sight.follow (openOn r) = openOn r) : Tallied k' r (seen ++ more) where
  toCounted := hc
  balance := by rw [hsubscribed, hstreams, hfinished, h.balance]
  live := by rw [Sight.live_append, h.live, hlive]
  streams := by rw [hstreams, h.streams]

theorem Tallied.reject (h : Tallied k r seen) (e : Rejection) :
    Tallied (k.reject e) r (seen ++ [.answer (.error e)]) := by
  cases e with
  | invalidTarget clusterDomain path =>
    exact h.append (h.toCounted.append rfl rfl rfl rfl) rfl rfl rfl rfl
  | failed reason => exact h.append (h.toCounted.append rfl rfl rfl rfl) rfl rfl rfl rfl

theorem Tallied.open_ (h : Tallied k r seen) (t : Nat) :
    Tallied k.open_ (r ++ [(t, true)]) (seen ++ [.answer (.ok t)]) := by
  have hopen : openOn (r ++ [(t, true)]) = openOn r ++ [t] := by simp [openOn]
  refine ⟨h.toCounted.append rfl rfl rfl rfl, ?_, ?_, ?_⟩
  · have hbalance := h.balance
    simp only [LookupCounters.open_]
    omega
  · rw [Sight.live_append, h.live, hopen]
    rfl
  · rw [hopen, List.length_append, ← h.streams]
    rfl

theorem Tallied.send (h : Tallied k r seen) (n : Nat) :
    Tallied (k.send n) r (seen ++ List.replicate n .message) := by
  refine h.append (h.toCounted.append ?_ ?_ ?_ ?_) rfl rfl rfl (Sight.foldl_follow_messages n _)
  all_goals simp [LookupCounters.send, List.countP_replicate, Sight.isOpening, Sight.isInvalidPath,
    Sight.isFailure, Sight.isMessage]

/-- A stream that is not open is not ended again. -/
theorem Tallied.ended_of_notMem (h : Tallied k r seen) {t : Nat} (ht : t ∉ openOn r) :
    Tallied k r (seen ++ [.ended t]) :=
  h.append (h.toCounted.append rfl rfl rfl rfl) rfl rfl rfl (Sight.follow_ended_of_notMem ht)

/-- An open stream ends. -/
theorem Tallied.finish (h : Tallied k r seen) (hnodup : (r.map (·.1)).Nodup) {t : Nat}
    (ht : t ∈ openOn r) : Tallied k.finish (shut t r) (seen ++ [.ended t]) := by
  have hone : (openOn (shut t r)).length = (openOn r).length - 1 := by
    rw [openOn_shut, ← (hnodup.sublist (sublist_openOn r)).erase_eq_filter,
      List.length_erase_of_mem ht]
  refine ⟨h.toCounted.append rfl rfl rfl rfl, ?_, ?_, ?_⟩
  · have hbalance := h.balance
    have hpos : 0 < k.streams := h.streams ▸ List.length_pos_of_mem ht
    simp only [LookupCounters.finish]
    omega
  · rw [Sight.live_append, h.live, openOn_shut]
    rfl
  · rw [hone, ← h.streams]
    rfl

end Tallied

/-! ## Lists of streams -/

/-- Counters, streams and what clients saw agree, and the streams have tickets of their own. -/
structure Books {τ ε ο : Type} (subs : Subscriptions τ ε) (streams : List (Stream ο))
    (k : LookupCounters) (seen : List Sight) : Prop where
  numbered : subs.Numbered
  nodup : ((roll streams).map (·.1)).Nodup
  lt : ∀ t ∈ (roll streams).map (·.1), t < subs.nextTicket
  tallied : Tallied k (roll streams) seen

section Books

variable {τ ε ο : Type} {subs subs' : Subscriptions τ ε} {streams streams' : List (Stream ο)}
  {k k' : LookupCounters} {seen more : List Sight}

theorem books_start : Books ({} : Subscriptions τ ε) ([] : List (Stream ο)) {} [] :=
  ⟨Subscriptions.numbered_empty, List.nodup_nil, fun _ ht => absurd ht List.not_mem_nil,
    tallied_start⟩

/-- Nothing is counted. -/
theorem Books.idle (h : Books subs streams k seen) (hages : subs.Ages subs')
    (hroll : roll streams' = roll streams) : Books subs' streams' k seen where
  numbered := hages.numbered h.numbered
  nodup := hroll ▸ h.nodup
  lt t ht := (h.lt t (hroll ▸ ht)).trans_le hages.le
  tallied := hroll ▸ h.tallied

/-- Streams stay as they are listed. -/
theorem Books.append (h : Books subs streams k seen) (hages : subs.Ages subs')
    (hroll : roll streams' = roll streams) (ht : Tallied k' (roll streams) (seen ++ more)) :
    Books subs' streams' k' (seen ++ more) :=
  Books.idle ⟨h.numbered, h.nodup, h.lt, ht⟩ hages hroll

/-- Nothing is counted, and nothing is seen. -/
theorem Books.still (h : Books subs streams k seen) (hages : subs.Ages subs')
    (hroll : roll streams' = roll streams) : Books subs' streams' k (seen ++ []) := by
  rw [List.append_nil]
  exact h.idle hages hroll

/-- A lookup opens a stream. -/
theorem Books.open_ (h : Books subs streams k seen) (topic : τ) (number capacity : Nat)
    (initial : List ε) :
    Books (subs.subscribe topic number capacity initial)
      (streams ++ [Stream.ofTicket subs.nextTicket]) k.open_
      (seen ++ [.answer (.ok subs.nextTicket)]) := by
  have hroll : roll (streams ++ [Stream.ofTicket subs.nextTicket]) =
      roll streams ++ [(subs.nextTicket, true)] := List.map_append
  have htickets : (roll (streams ++ [Stream.ofTicket subs.nextTicket])).map (·.1) =
      (roll streams).map (·.1) ++ [subs.nextTicket] := by rw [hroll, List.map_append]; rfl
  refine ⟨h.numbered.subscribe topic number capacity initial, ?_, fun t ht => ?_, ?_⟩
  · rw [htickets, ← List.concat_eq_append]
    exact h.nodup.concat fun hmem => Nat.lt_irrefl _ (h.lt _ hmem)
  · rw [htickets, List.mem_append, List.mem_singleton] at ht
    rcases ht with ht | rfl
    · exact (h.lt t ht).trans (Nat.lt_succ_self _)
    · exact Nat.lt_succ_self _
  · rw [hroll]
    exact h.tallied.open_ subs.nextTicket

/-! ## Listeners of streams -/

theorem roll_refit {ls : List (Listener ο)}
    (h : ls.map (·.ticket) = streams.map (·.listener.ticket)) :
    roll (Server.refit streams ls) = roll streams := by
  induction streams generalizing ls with
  | nil => rfl
  | cons s streams ih =>
    cases ls with
    | nil => cases h
    | cons l ls =>
      obtain ⟨hticket, htickets⟩ := List.cons.inj h
      exact List.cons_eq_cons.mpr ⟨Prod.ext hticket rfl, ih htickets⟩

/-- A listener that runs until it is idle keeps its ticket, and its subscription too. -/
theorem settleIn_ages (items : τ → ε → List ο) (subs : Subscriptions τ ε) (l : Listener ο) :
    subs.Ages (l.settleIn items subs).1 ∧ (l.settleIn items subs).2.ticket = l.ticket := by
  unfold settleIn
  cases hs : subs.find? l.ticket with
  | none => exact ⟨.refl subs, rfl⟩
  | some s =>
    have hworks := works_settle (items s.topic) s l
    have hticket := hworks.retains.ticket.trans (Subscriptions.ticket_of_find? hs)
    exact ⟨Subscriptions.ages_modify subs fun _ _ => hticket, hworks.ticket⟩

theorem settleAll_ages (items : τ → ε → List ο) (ls : List (Listener ο)) :
    ∀ subs : Subscriptions τ ε, subs.Ages (Server.settleAll items subs ls).1 ∧
      (Server.settleAll items subs ls).2.map (·.ticket) = ls.map (·.ticket) := by
  induction ls with
  | nil => exact fun subs => ⟨.refl subs, rfl⟩
  | cons l ls ih =>
    intro subs
    obtain ⟨hages, hticket⟩ := settleIn_ages items subs l
    obtain ⟨hages', htickets⟩ := ih (l.settleIn items subs).1
    exact ⟨hages.trans hages', List.cons_eq_cons.mpr ⟨hticket, htickets⟩⟩

theorem settleStreams_ages (items : τ → ε → List ο) (subs : Subscriptions τ ε)
    (streams : List (Stream ο)) :
    subs.Ages (Server.settleStreams items subs streams).1 ∧
      roll (Server.settleStreams items subs streams).2 = roll streams := by
  obtain ⟨hages, htickets⟩ := settleAll_ages items (streams.map (·.listener)) subs
  exact ⟨hages, roll_refit (htickets.trans List.map_map)⟩

/-- A listener that gets a turn keeps its ticket, and its subscription too. -/
theorem turnIn_ages (items : τ → ε → List ο) (notices : Bool) (t : Nat) (subs : Subscriptions τ ε)
    (ls : List (Listener ο)) :
    subs.Ages (Server.turnIn items notices t subs ls).1 ∧
      (Server.turnIn items notices t subs ls).2.map (·.ticket) = ls.map (·.ticket) := by
  unfold Server.turnIn
  split
  · next l s hl hs =>
    split
    · next s' l' hturn =>
      have hst := (retains_turn? hturn).ticket.trans (Subscriptions.ticket_of_find? hs)
      have hlt : l'.ticket = t := (ticket_turn? hturn).trans (by simpa using List.find?_some hl)
      refine ⟨Subscriptions.ages_modify subs fun _ _ => hst, ?_⟩
      rw [Server.modifyIn, List.map_map]
      exact List.map_congr_left fun l _ => Delivery.ticket_modifyIn (fun _ _ => hlt) l
    · exact ⟨.refl subs, rfl⟩
  · exact ⟨.refl subs, rfl⟩

theorem turnStreamIn_ages (items : τ → ε → List ο) (notices : Bool) (t : Nat)
    (subs : Subscriptions τ ε) (streams : List (Stream ο)) :
    subs.Ages (Server.turnStreamIn items notices t subs streams).1 ∧
      roll (Server.turnStreamIn items notices t subs streams).2 = roll streams := by
  obtain ⟨hages, htickets⟩ := turnIn_ages items notices t subs (streams.map (·.listener))
  exact ⟨hages, roll_refit (htickets.trans List.map_map)⟩

/-! ## Streams that are replaced -/

theorem mem_roll {t : Nat} {s : Stream ο}
    (h : streams.find? (·.listener.ticket == t) = some s) : (t, s.isOpen) ∈ roll streams := by
  have ht : s.listener.ticket = t := by simpa using List.find?_some h
  exact List.mem_map.mpr ⟨s, List.mem_of_find?_eq_some h, by rw [ht]⟩

theorem notMem_roll {t : Nat} (h : streams.find? (·.listener.ticket == t) = none) :
    t ∉ (roll streams).map (·.1) := by
  intro hmem
  rw [roll, List.map_map] at hmem
  obtain ⟨s, hs, hst⟩ := List.mem_map.mp hmem
  exact List.find?_eq_none.mp h s hs (beq_iff_eq.mpr hst)

/-- A stream is replaced by one that is over. -/
theorem roll_setStream_of_ended {s : Stream ο} (hover : s.isOpen = false) :
    roll (Server.setStream s streams) = shut s.listener.ticket (roll streams) := by
  rw [roll, Server.setStream, shut, roll, List.map_map, List.map_map]
  refine List.map_congr_left fun u _ => ?_
  simp only [Function.comp_apply]
  split
  · rw [hover]
  · rfl

/-- A stream is replaced by one of its ticket that is open if and only if it was. -/
theorem roll_setStream_of_same (hnodup : ((roll streams).map (·.1)).Nodup) {s s' : Stream ο}
    {t : Nat} (hs : streams.find? (·.listener.ticket == t) = some s)
    (hticket : s'.listener.ticket = t) (hopen : s'.isOpen = s.isOpen) :
    roll (Server.setStream s' streams) = roll streams := by
  have hst : s.listener.ticket = t := by simpa using List.find?_some hs
  rw [roll, List.map_map] at hnodup
  rw [roll, Server.setStream, roll, List.map_map]
  refine List.map_congr_left fun u hu => ?_
  simp only [Function.comp_apply]
  split
  · next hut =>
    have heq : u = s := List.inj_on_of_nodup_map hnodup hu (List.mem_of_find?_eq_some hs)
      (hut.trans (hticket.trans hst.symm))
    rw [heq, hticket, hst, hopen]
  · rfl

/-- A stream that was open is over. -/
theorem Books.ended (h : Books subs streams k seen) (hages : subs.Ages subs') {t : Nat}
    {s s' : Stream ο} (hs : streams.find? (·.listener.ticket == t) = some s)
    (hticket : s'.listener.ticket = t) (hover : s'.isOpen = false) :
    Books subs' (Server.setStream s' streams) (if s.isOpen then k.finish else k)
      (seen ++ [.ended t]) := by
  have hroll : roll (Server.setStream s' streams) = shut t (roll streams) :=
    hticket ▸ roll_setStream_of_ended hover
  have hmem := mem_roll hs
  have hsame : s.isOpen = false → roll (Server.setStream s' streams) = roll streams :=
    fun hclosed => roll_setStream_of_same h.nodup hs hticket (hover.trans hclosed.symm)
  have hopen := mem_openOn h.nodup hmem
  cases hs : s.isOpen with
  | false =>
    refine h.append hages (hsame hs) (h.tallied.ended_of_notMem ?_)
    rw [hopen, hs]
    decide
  | true =>
    refine ⟨hages.numbered h.numbered, ?_, ?_, ?_⟩
    · rw [hroll, map_fst_shut]
      exact h.nodup
    · rw [hroll, map_fst_shut]
      exact fun t ht => (h.lt t ht).trans_le hages.le
    · rw [hroll]
      exact h.tallied.finish h.nodup (hopen.mpr hs)

/-- An end is met of a stream that there is not. -/
theorem Books.ended_of_none (h : Books subs streams k seen) {t : Nat}
    (hnone : streams.find? (·.listener.ticket == t) = none) :
    Books subs streams k (seen ++ [.ended t]) :=
  h.append (.refl subs) rfl
    (h.tallied.ended_of_notMem fun hmem => notMem_roll hnone ((sublist_openOn _).subset hmem))

/-! ## Clients -/

theorem Books.dropIn (h : Books subs streams k seen) (t : Nat) :
    Books subs (Server.dropIn streams k t).1 (Server.dropIn streams k t).2
      (seen ++ [.ended t]) := by
  unfold Server.dropIn
  split
  · next s hs =>
    have ht : s.listener.ticket = t := by simpa using List.find?_some hs
    exact h.ended (.refl subs) hs ht rfl
  · next hnone => exact h.ended_of_none hnone

/-- A stream is open after it was read if and only if the end was not met. -/
theorem isOpen_read (items : ε → List ο) (shuttingDown : Bool) (limit : Option Nat)
    (sub : Subscription τ ε) (s : Stream ο) :
    (s.read items shuttingDown limit sub).2.2.isOpen =
      !(s.read items shuttingDown limit sub).1.ended := by
  unfold Stream.read
  split
  · next hopen =>
    dsimp only
    split
    · rfl
    · exact hopen
  · next hclosed => simpa using hclosed

theorem isOpen_of_not_ended (items : ε → List ο) (shuttingDown : Bool) (limit : Option Nat)
    (sub : Subscription τ ε) {s : Stream ο}
    (h : (s.read items shuttingDown limit sub).1.ended = false) : s.isOpen = true := by
  by_contra hclosed
  unfold Stream.read at h
  rw [if_neg hclosed] at h
  cases h

theorem Books.readIn (h : Books subs streams k seen) (items : τ → ε → List ο)
    (shuttingDown : Bool) (limit : Option Nat) (t : Nat) :
    Books (Server.readIn items shuttingDown limit subs streams k t).2.1
      (Server.readIn items shuttingDown limit subs streams k t).2.2.1
      (Server.readIn items shuttingDown limit subs streams k t).2.2.2
      (seen ++ Sight.ofReading t
        (Server.readIn items shuttingDown limit subs streams k t).1) := by
  unfold Server.readIn
  split
  · next s sub hs hsub =>
    have hst : s.listener.ticket = t := by simpa using List.find?_some hs
    have hworks := Server.works_read (items sub.topic) shuttingDown limit sub s
    have hopen := isOpen_read (items sub.topic) shuttingDown limit sub s
    have hwas : (s.read (items sub.topic) shuttingDown limit sub).1.ended = false → s.isOpen = true :=
      isOpen_of_not_ended (items sub.topic) shuttingDown limit sub
    generalize s.read (items sub.topic) shuttingDown limit sub = out at hworks hopen hwas ⊢
    obtain ⟨reading, sub', s'⟩ := out
    have hages : subs.Ages (subs.modify t fun _ => sub') := Subscriptions.ages_modify subs
      fun _ _ => hworks.retains.ticket.trans (Subscriptions.ticket_of_find? hsub)
    have hticket : s'.listener.ticket = t := hworks.ticket.trans hst
    have hsent : Books subs streams (k.send reading.messages.length)
        (seen ++ List.replicate reading.messages.length .message) :=
      h.append (.refl subs) rfl (h.tallied.send _)
    dsimp only at hopen hwas ⊢
    rw [Sight.ofReading, ← List.append_assoc, hopen]
    cases hended : reading.ended with
    | true =>
      have hover := hsent.ended hages hs hticket (by rw [hopen, hended]; rfl)
      simpa using hover
    | false =>
      have hroll := roll_setStream_of_same h.nodup hs hticket
        (hopen.trans (by rw [hended, hwas hended]; rfl))
      have hstill := hsent.still hages hroll
      simpa using hstill
  · next hmissing =>
    -- A listed stream has a subscription, so there is no such stream.
    refine h.ended_of_none ?_
    cases hs : streams.find? (·.listener.ticket == t) with
    | none => rfl
    | some s =>
      have hlt := h.lt t (List.mem_map_of_mem (mem_roll hs))
      obtain ⟨sub, hsub⟩ := Subscriptions.exists_find? h.numbered hlt
      exact absurd hsub (hmissing s sub hs)

/-- Whether the client of a stream is given a message when it takes one. -/
def hasNext (streams : List (Stream ο)) (t : Nat) : Bool :=
  match streams.find? (·.listener.ticket == t) with
  | some s => s.isOpen && !s.listener.outbox.isEmpty
  | none => false

theorem Books.nextIn (h : Books subs streams k seen) (t : Nat) :
    Books subs (Server.nextIn streams k t).1 (Server.nextIn streams k t).2
      (seen ++ if hasNext streams t then [.message] else []) := by
  unfold Server.nextIn hasNext
  cases hs : streams.find? (·.listener.ticket == t) with
  | none => exact h.still (.refl subs) rfl
  | some s =>
    have hst : s.listener.ticket = t := by simpa using List.find?_some hs
    cases hopen : s.isOpen with
    | false =>
      simp only [hopen]
      exact h.still (.refl subs) rfl
    | true =>
      cases hout : s.listener.outbox with
      | nil =>
        simp only [hopen, hout, Listener.next?]
        exact h.still (.refl subs) rfl
      | cons m rest =>
        have hsent := h.tallied.send 1
        simp only [hopen, hout, Listener.next?]
        refine h.append (.refl subs) (roll_setStream_of_same h.nodup hs hst hopen.symm) hsent

end Books

end Discovery

end MeshDestination
