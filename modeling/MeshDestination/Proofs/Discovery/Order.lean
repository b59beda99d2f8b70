import MeshDestination.Proofs.Discovery.Delivery

/-!
# Events reach listeners without a gap

What a subscription accepts is its first events followed by the events notified on its topic up to
its removal, and its listener is handed these in order (`Delivery.handed_prefix_notified`). A
listener that fell behind, goes on to accept, and is not told to end is handed all of them, and then
ends: each of its turns lowers the work that is left (`Delivery.drain`).
-/

namespace MeshDestination.Discovery

namespace Delivery

variable {τ ε : Type} {t : Nat} {p : Pair τ ε}

/-! ## Turns -/

/-- How many turns a listener needs at most. -/
def Pair.work (p : Pair τ ε) : Nat := p.2.work (Server.events p.1.topic) p.1

theorem retains_takeTurn (notices : Bool) (p : Pair τ ε) : p.1.Retains (takeTurn notices p).1 := by
  unfold takeTurn
  cases h : p.2.turn? (Server.events p.1.topic) notices p.1 with
  | none => exact .refl _
  | some q => exact Listener.retains_turn? h

theorem flatMap_events (topic : τ) (es : List ε) : es.flatMap (Server.events topic) = es :=
  List.flatMap_singleton' es

/-- A listener follows its subscription through its turn. -/
theorem follows_takeTurn (notices : Bool) (h : p.2.Follows (Server.events p.1.topic) p.1) :
    (takeTurn notices p).2.Follows (Server.events (takeTurn notices p).1.topic)
      (takeTurn notices p).1 := by
  rw [(retains_takeTurn notices p).topic]
  unfold takeTurn
  cases hstep : p.2.turn? (Server.events p.1.topic) notices p.1 with
  | none => exact h
  | some q => exact h.turn? hstep

/-- A turn of a listener that lags and can go on: it has ended, or less work is left. -/
theorem takeTurn_of_lagged (notices : Bool) (lag : p.1.standing = .lagged)
    (wanted : p.2.isClosed = false) (room : p.2.inHand ≠ [] → p.2.room ≠ some 0) :
    (takeTurn notices p).1.standing = .lagged ∧
      (takeTurn notices p).work ≤ p.work - 1 := by
  unfold takeTurn
  cases live : p.2.hasEnded with
  | true =>
    have hnone : p.2.turn? (Server.events p.1.topic) notices p.1 = none := by
      unfold Listener.turn? Listener.step?
      simp [live]
    have hwork : p.work = 0 := if_pos live
    rw [hnone]
    exact ⟨lag, by rw [Option.getD_none, hwork]⟩
  | false =>
    rw [Listener.turn?_of_lagged live lag wanted]
    obtain ⟨s', l', hstep, hless⟩ := Listener.proceed?_of_lagged live lag room
    rw [hstep]
    refine ⟨Listener.lagged_of_proceed? lag hstep, ?_⟩
    change l'.work (Server.events s'.topic) s' ≤ p.work - 1
    rw [(Listener.retains_proceed? hstep).topic]
    unfold Pair.work
    omega

/-- A listener has handed over a part from the start of what its subscription has accepted. -/
theorem handed_prefix_log (h : p.2.Follows (Server.events p.1.topic) p.1) :
    p.2.handed ++ p.2.inHand <+: p.1.log := by
  have hlog := h.handed_log
  rwa [flatMap_events] at hlog

/-- A listener that has ended on a lagging subscription has handed over all that was accepted. -/
theorem handed_of_drained (h : p.2.Follows (Server.events p.1.topic) p.1)
    (ended : p.2.hasEnded = true) (lag : p.1.standing = .lagged) : p.2.handed = p.1.log := by
  obtain ⟨hqueue, hhanded⟩ := h.drained ended lag
  rw [hhanded, flatMap_events, Subscription.log, hqueue, List.append_nil]

/-! ## Looking at a run -/

/-- Whether the subscription of a ticket is registered. -/
def registers (d : Delivery τ ε) (t : Nat) : Bool := (d.pair? t).any (·.1.isRegistered)

/-- Whether the listener of a ticket can hand over what it has in hand. -/
def accepts (d : Delivery τ ε) (t : Nat) : Bool :=
  (d.pair? t).all fun p => p.2.inHand.isEmpty || p.2.room != some 0

theorem registers_of_pair? {d : Delivery τ ε} (h : d.pair? t = some p) :
    d.registers t = p.1.isRegistered := by
  rw [registers, h]
  rfl

theorem room_of_accepts {d : Delivery τ ε} (h : d.pair? t = some p) (ha : d.accepts t = true) :
    p.2.inHand ≠ [] → p.2.room ≠ some 0 := by
  rw [accepts, h] at ha
  intro hand
  simpa [hand] using ha

/-! ## What is notified -/

variable [DecidableEq τ]

/-- The events that operations notify on a topic. -/
def notified (topic : τ) (ops : List (Operation τ ε)) : List ε :=
  ops.filterMap fun
    | .notify topic' e => if topic' = topic then some e else none
    | _ => none

/-- Whether an operation is a turn of the listener of a ticket. -/
def Operation.advances (t : Nat) : Operation τ ε → Bool
  | .advance u _ => u = t
  | _ => false

/-! ## What is accepted -/

/-- A subscription is offered an event of its topic, or it keeps its log. -/
theorem react_cases (t : Nat) (p : Pair τ ε) (op : Operation τ ε) :
    (∃ e, notified p.1.topic [op] = [e] ∧ react t p op = (p.1.offer e, p.2)) ∨
      notified p.1.topic [op] = [] ∧ p.1.Retains (react t p op).1 := by
  cases op with
  | subscribe => exact .inr ⟨rfl, .refl _⟩
  | notify topic e =>
    by_cases ht : p.1.topic = topic
    · exact .inl ⟨e, by simp [notified, ht], if_pos ht⟩
    · refine .inr ⟨by simp [notified, Ne.symm ht], ?_⟩
      rw [react, if_neg ht]
      exact .refl _
  | unsubscribe u =>
    refine .inr ⟨rfl, ?_⟩
    rw [react]
    split
    · exact Subscription.retains_unsubscribe _
    · exact .refl _
  | close u =>
    refine .inr ⟨rfl, ?_⟩
    rw [react]
    split <;> exact .refl _
  | grant u n =>
    refine .inr ⟨rfl, ?_⟩
    rw [react]
    split <;> exact .refl _
  | advance u notices =>
    refine .inr ⟨rfl, ?_⟩
    rw [react]
    split
    · exact retains_takeTurn notices p
    · exact .refl _

theorem topic_react (t : Nat) (p : Pair τ ε) (op : Operation τ ε) :
    (react t p op).1.topic = p.1.topic := by
  obtain ⟨e, -, h⟩ | ⟨-, h⟩ := react_cases t p op
  · rw [h]
    exact Subscription.topic_offer p.1 e
  · exact h.topic

theorem isRegistered_of_react {op : Operation τ ε}
    (h : (react t p op).1.isRegistered = true) : p.1.isRegistered = true := by
  obtain ⟨e, -, hp⟩ | ⟨-, hp⟩ := react_cases t p op
  · rw [hp] at h
    exact Subscription.isRegistered_of_offer h
  · exact hp.isRegistered h

/-- An event is accepted if and only if the subscription is registered afterwards. -/
theorem log_react (t : Nat) (p : Pair τ ε) (op : Operation τ ε) :
    (react t p op).1.log =
      p.1.log ++ if (react t p op).1.isRegistered then notified p.1.topic [op] else [] := by
  obtain ⟨e, he, hp⟩ | ⟨he, hp⟩ := react_cases t p op
  · rw [he, hp]
    exact Subscription.log_offer p.1 e
  · rw [he, ite_self, List.append_nil]
    exact hp.log

theorem log_foldl_react_of_not_registered (ops : List (Operation τ ε)) :
    ∀ {p : Pair τ ε}, ¬p.1.isRegistered = true →
      (ops.foldl (react t) p).1.log = p.1.log := by
  induction ops with
  | nil => exact fun _ => rfl
  | cons op ops ih =>
    intro p hp
    have hq : ¬(react t p op).1.isRegistered = true := fun h => hp (isRegistered_of_react h)
    rw [List.foldl_cons, ih hq, log_react, if_neg hq, List.append_nil]

theorem notified_cons (topic : τ) (op : Operation τ ε) (ops : List (Operation τ ε)) :
    notified topic (op :: ops) = notified topic [op] ++ notified topic ops := by
  rw [notified, ← List.singleton_append, List.filterMap_append]
  rfl

/-- A registered subscription accepts the events of its topic up to its removal, and none after. -/
theorem exists_kept (ops : List (Operation τ ε)) :
    ∀ {p : Pair τ ε}, p.1.isRegistered = true →
      ∃ kept rest, ops = kept ++ rest ∧
        (kept.foldl (react t) p).1.isRegistered = true ∧
        (∀ op ∈ rest.head?, (react t (kept.foldl (react t) p) op).1.isRegistered = false) ∧
        (ops.foldl (react t) p).1.log = p.1.log ++ notified p.1.topic kept := by
  induction ops with
  | nil =>
    intro p hp
    exact ⟨[], [], rfl, hp, fun _ hop => absurd hop (by simp), (List.append_nil _).symm⟩
  | cons op ops ih =>
    intro p hp
    by_cases hq : (react t p op).1.isRegistered = true
    · obtain ⟨kept, rest, rfl, hkept, hrest, hlog⟩ := ih hq
      refine ⟨op :: kept, rest, rfl, hkept, hrest, ?_⟩
      rw [List.foldl_cons, hlog, log_react, if_pos hq, topic_react, notified_cons _ op kept,
        List.append_assoc]
    · refine ⟨[], op :: ops, rfl, hp, fun op' hop' => ?_, ?_⟩
      · cases hop'
        simpa using hq
      · rw [List.foldl_cons, log_foldl_react_of_not_registered ops hq, log_react, if_neg hq]
        rfl

/-! ## What is handed over -/

theorem follows_react (op : Operation τ ε) (h : p.2.Follows (Server.events p.1.topic) p.1) :
    (react t p op).2.Follows (Server.events (react t p op).1.topic) (react t p op).1 := by
  cases op with
  | subscribe => exact h
  | notify topic e =>
    rw [react]
    split
    · have hs := Subscription.extends_offer p.1 e
      dsimp only
      rw [hs.topic]
      exact h.extends hs
    · exact h
  | unsubscribe u =>
    rw [react]
    split
    · have hs := Subscription.extends_unsubscribe p.1
      dsimp only
      rw [hs.topic]
      exact h.extends hs
    · exact h
  | close u =>
    rw [react]
    split
    · exact h.tended (Listener.tended_close p.2)
    · exact h
  | grant u n =>
    rw [react]
    split
    · exact h.tended (Listener.tended_grant p.2 n)
    · exact h
  | advance u notices =>
    rw [react]
    split
    · exact follows_takeTurn notices h
    · exact h

theorem follows_foldl_react (ops : List (Operation τ ε)) :
    ∀ {p : Pair τ ε}, p.2.Follows (Server.events p.1.topic) p.1 →
      (ops.foldl (react t) p).2.Follows (Server.events (ops.foldl (react t) p).1.topic)
        (ops.foldl (react t) p).1 := by
  induction ops with
  | nil => exact fun h => h
  | cons op ops ih => exact fun h => ih (follows_react op h)

/-! ## Draining a lagging subscription -/

/-- Only its own liveness signal closes a listener. -/
theorem isClosed_react {op : Operation τ ε} (hop : op ≠ .close t) :
    (react t p op).2.isClosed = p.2.isClosed := by
  cases op with
  | subscribe => rfl
  | notify topic e =>
    rw [react]
    split <;> rfl
  | unsubscribe u =>
    rw [react]
    split <;> rfl
  | close u =>
    have hu : u ≠ t := fun h => hop (by rw [h])
    rw [react, if_neg hu]
  | grant u n =>
    rw [react]
    split <;> rfl
  | advance u notices =>
    rw [react]
    split
    · unfold takeTurn
      cases hstep : p.2.turn? (Server.events p.1.topic) notices p.1 with
      | none => rfl
      | some q => exact Listener.isClosed_turn? hstep
    · rfl

theorem isClosed_foldl_react (ops : List (Operation τ ε)) :
    ∀ {p : Pair τ ε}, (∀ op ∈ ops, op ≠ .close t) →
      (ops.foldl (react t) p).2.isClosed = p.2.isClosed := by
  induction ops with
  | nil => exact fun _ => rfl
  | cons op ops ih =>
    intro p h
    rw [List.foldl_cons, ih fun op' hop' => h op' (List.mem_cons_of_mem op hop'),
      isClosed_react (h op List.mem_cons_self)]

/-- Of a lagging subscription nothing but its listener's turns and its liveness signal matters. -/
theorem react_of_lagged {op : Operation τ ε} (lag : p.1.standing = .lagged)
    (hop : op ≠ .close t) (hturn : op.advances t = false) :
    (react t p op).1 = p.1 ∧ (react t p op).work = p.work := by
  have unregistered := Subscription.not_registered_of_lagged lag
  cases op with
  | subscribe => exact ⟨rfl, rfl⟩
  | notify topic e =>
    rw [react, Subscription.offer_of_not_registered unregistered, ite_self]
    exact ⟨rfl, rfl⟩
  | unsubscribe u =>
    rw [react, (Subscription.extends_unsubscribe p.1).inert unregistered, ite_self]
    exact ⟨rfl, rfl⟩
  | close u =>
    have hu : u ≠ t := fun h => hop (by rw [h])
    rw [react, if_neg hu]
    exact ⟨rfl, rfl⟩
  | grant u n =>
    rw [react]
    split
    · exact ⟨rfl, rfl⟩
    · exact ⟨rfl, rfl⟩
  | advance u notices =>
    have hu : u ≠ t := by simpa [Operation.advances] using hturn
    rw [react, if_neg hu]
    exact ⟨rfl, rfl⟩

/-- A listener that lags, gets enough turns, and can hand over in each of them what it has in hand
has ended. -/
theorem drain (ops : List (Operation τ ε)) :
    ∀ {p : Pair τ ε}, p.1.standing = .lagged → p.2.isClosed = false →
      (∀ op ∈ ops, op ≠ .close t) →
      (∀ i, (h : i < ops.length) → ops[i].advances t = true →
        ((ops.take i).foldl (react t) p).2.inHand ≠ [] →
        ((ops.take i).foldl (react t) p).2.room ≠ some 0) →
      p.work ≤ ops.countP (Operation.advances t) →
      (ops.foldl (react t) p).1.standing = .lagged ∧ (ops.foldl (react t) p).2.hasEnded = true := by
  induction ops with
  | nil =>
    intro p lag _ _ _ hwork
    refine ⟨lag, ?_⟩
    by_contra live
    exact absurd (Listener.work_pos live) (Nat.not_lt.mpr hwork)
  | cons op ops ih =>
    intro p lag wanted hclose hroom hwork
    have hop := hclose op List.mem_cons_self
    have hnext : (react t p op).1.standing = .lagged ∧
        (react t p op).work ≤ ops.countP (Operation.advances t) := by
      -- A turn lowers the work that is left, and nothing else raises it.
      cases hturn : op.advances t with
      | false =>
        obtain ⟨hsame, hsameWork⟩ := react_of_lagged lag hop hturn
        rw [List.countP_cons_of_neg (by simp [hturn])] at hwork
        exact ⟨by rw [hsame, lag], hsameWork ▸ hwork⟩
      | true =>
        rw [List.countP_cons_of_pos hturn] at hwork
        have hfree := hroom 0 (Nat.succ_pos _) hturn
        cases op with
        | advance u notices =>
          have hu : u = t := by simpa [Operation.advances] using hturn
          obtain ⟨hlag, hless⟩ := takeTurn_of_lagged notices lag wanted hfree
          rw [react, if_pos hu]
          exact ⟨hlag, by omega⟩
        | _ => cases hturn
    refine ih hnext.1 ((isClosed_react hop).trans wanted)
      (fun op' hop' => hclose op' (List.mem_cons_of_mem op hop')) (fun i hi => ?_) hnext.2
    exact hroom (i + 1) (Nat.succ_lt_succ hi)

/-! ## Every run -/

/-- In every run, from any subscription on, what its listener has handed over and has in hand is a
part from the start of the first events followed by the events notified on the topic up to the
operation that removed the subscription. If that was because it fell behind, the liveness signal
never fires, and the listener can hand over what it has in hand whenever it gets a turn, then it is
handed all of these after some number of turns, and it has ended. -/
theorem handed_prefix_notified (before after : List (Operation τ ε)) (topic : τ)
    (number capacity : Nat) (initial : List ε) (room : Option Nat) :
    let t := (run {} before).subs.nextTicket
    let opened := (run {} before).perform (.subscribe topic number capacity initial room)
    ∃ kept rest s l, after = kept ++ rest ∧
      (opened.run kept).registers t = true ∧
      (∀ op ∈ rest.head?, ((opened.run kept).perform op).registers t = false) ∧
      (opened.run after).pair? t = some (s, l) ∧
      l.handed ++ l.inHand <+: initial ++ notified topic kept ∧
      (s.standing = .lagged → ∀ more,
        (∀ op ∈ after ++ more, op ≠ .close t) →
        (∀ i, (h : i < more.length) → more[i].advances t = true →
          (opened.run (after ++ more.take i)).accepts t = true) →
        Pair.work (s, l) ≤ more.countP (Operation.advances t) →
        ∃ s' l', (opened.run (after ++ more)).pair? t = some (s', l') ∧
          l'.hasEnded = true ∧ l'.handed = initial ++ notified topic kept) := by
  intro t opened
  have hnew := pair?_subscribe (valid_empty.run before) topic number capacity initial room
  generalize hp : (⟨{ topic, number, ticket := _, queue := initial, capacity := _ },
    { ticket := _, room }⟩ : Pair τ ε) = p at hnew
  have htopic : p.1.topic = topic := by rw [← hp]
  have hlog : p.1.log = initial := by rw [← hp]; rfl
  have hreg : p.1.isRegistered = true := by rw [← hp]; rfl
  have hopen : p.2.isClosed = false := by rw [← hp]
  have hfollows : p.2.Follows (Server.events p.1.topic) p.1 := by
    rw [← hp]
    exact Listener.follows_new rfl rfl rfl
  have hrun (ops : List (Operation τ ε)) :
      (opened.run ops).pair? t = some (ops.foldl (react t) p) := pair?_run ops hnew
  obtain ⟨kept, rest, hafter, hkept, hrest, haccepted⟩ := exists_kept (t := t) after hreg
  rw [htopic, hlog] at haccepted
  refine ⟨kept, rest, _, _, hafter, ?_, fun op hop => ?_, hrun after, ?_, ?_⟩
  · rw [registers_of_pair? (hrun kept), hkept]
  · rw [registers_of_pair? (pair?_perform (hrun kept) op), hrest op hop]
  · rw [← haccepted]
    exact handed_prefix_log (follows_foldl_react after hfollows)
  · intro lag more hclose haccepts hwork
    have hnever (op) (hop : op ∈ after) : op ≠ .close t := hclose op (List.mem_append_left more hop)
    have hwanted := (isClosed_foldl_react after hnever).trans hopen
    obtain ⟨hlag, hended⟩ := drain more lag hwanted
      (fun op hop => hclose op (List.mem_append_right after hop))
      (fun i hi hturn => by
        have hpair := hrun (after ++ more.take i)
        rw [List.foldl_append] at hpair
        exact room_of_accepts hpair (haccepts i hi hturn)) hwork
    have hend := hrun (after ++ more)
    rw [List.foldl_append] at hend
    refine ⟨_, _, hend, hended, ?_⟩
    have unregistered := Subscription.not_registered_of_lagged lag
    rw [handed_of_drained (follows_foldl_react more (follows_foldl_react after hfollows)) hended
      hlag, log_foldl_react_of_not_registered more unregistered, haccepted]

/-- A listener that has room for nothing falls behind; later it is given room. -/
theorem handed_prefix_notified_slow :
    let opened : Delivery Unit Nat := (run {} []).perform (.subscribe () 0 2 [10] (some 0))
    let after := [.notify () 11, .notify () 12, .notify () 13]
    let more := .grant 0 2 :: List.replicate 5 (.advance 0 true)
    ∃ kept s l, kept <+: after ∧ (opened.run (after ++ more)).pair? 0 = some (s, l) ∧
      l.hasEnded = true ∧ l.handed = [10] ++ notified () kept := by
  intro opened after more
  obtain ⟨kept, rest, s, l, hafter, -, -, hpair, -, hdrain⟩ :=
    handed_prefix_notified [] after () 0 2 [10] (some 0)
  have hlag : s.standing = .lagged := by
    have hsome := congrArg (Option.map (·.1.standing)) hpair
    exact (Option.some.inj hsome).symm
  have hwork : Pair.work (s, l) = 5 := by
    have hsome := congrArg (Option.map Pair.work) hpair
    exact (Option.some.inj hsome).symm
  obtain ⟨s', l', hpair', hended, hhanded⟩ := hdrain hlag more (by decide +kernel)
    (by decide +kernel) (hwork.trans_le (by decide +kernel))
  exact ⟨kept, s', l', hafter ▸ List.prefix_append kept rest, hpair', hended, hhanded⟩

end Delivery

end MeshDestination.Discovery
