import MeshDestination.Proofs.Registries

/-!
# Handles

What an operation of registries does to subscriptions can be told by tickets alone
(`Registries.effect`): whatever is done through a handle is done to the subscription that it was
made for (`Registries.subs_perform`). The entry of a subscription is in its registry as long as the
subscription is registered (`Registries.Sound.lists_eq`), so that it leaves the registry once at
most and never comes back.
-/

namespace MeshDestination

theorem Subscriptions.modify_of_none {τ ε : Type} {s : Subscriptions τ ε} {t : Nat}
    (h : s.find? t = none) (f : Subscription τ ε → Subscription τ ε) : s.modify t f = s := by
  have hother (sub : Subscription τ ε) (hsub : sub ∈ s.entries) : sub.ticket ≠ t := by
    simpa using List.find?_eq_none.mp h sub hsub
  have hsame : s.entries.map (fun sub => if sub.ticket = t then f sub else sub) = s.entries :=
    (List.map_congr_left fun sub hsub => if_neg (hother sub hsub)).trans (List.map_id _)
  rw [modify, hsame]

theorem Subscriptions.modify_congr {τ ε : Type} {s : Subscriptions τ ε} (hs : s.Numbered)
    {sub : Subscription τ ε} (hsub : sub ∈ s.entries) {f g : Subscription τ ε → Subscription τ ε}
    (h : f sub = g sub) : s.modify sub.ticket f = s.modify sub.ticket g := by
  refine congrArg (Subscriptions.mk · _) (List.map_congr_left fun other hother => ?_)
  split
  · next hticket =>
    have hfind := find?_of_mem hs hother
    rw [hticket, find?_of_mem hs hsub] at hfind
    cases hfind
    exact h
  · rfl

theorem Subscriptions.any_find?_modify {τ ε : Type} {s : Subscriptions τ ε} {t : Nat}
    {sub : Subscription τ ε} (hsub : s.find? t = some sub) (u : Nat) (a : Subscription.Action) :
    ((s.modify u (·.perform a)).find? t).any (·.isRegistered) =
      if t = u then (sub.perform a).isRegistered else sub.isRegistered := by
  rw [find?_modify fun sub hu => (Subscription.retains_perform sub a).ticket.trans hu, hsub,
    Option.map_some, Option.any_some]
  exact apply_ite Subscription.isRegistered _ _ _

namespace Registries

variable {ε : Type} {s : Registries ε}

/-- What an operation does to the subscriptions, each known by its ticket. -/
def effect (s : Registries ε) : Operation ε → Subscriptions Nat ε
  | .create _ | .drop _ | .finish _ => s.subs
  | .subscribe r initial =>
    match s.terms? r with
    | some (capacity, number) => s.subs.subscribe r number capacity initial
    | none => s.subs
  | .notify r e => s.subs.publish fun topic => if topic = r then [e] else []
  | .unsubscribe h =>
    match s.subs.entries.find? (·.handle = h) with
    | some sub => s.subs.modify sub.ticket (·.unsubscribe)
    | none => s.subs
  | .receive t => s.subs.modify t (·.receive)
  | .close t => s.subs.modify t (·.stop)

theorem subs_close (s : Registries ε) (t : Nat) :
    (s.perform (.close t)).subs = s.subs.modify t (·.stop) := by
  rw [perform]
  split
  · rfl
  · next hnone => exact (Subscriptions.modify_of_none hnone _).symm

/-- To unsubscribe through the handle of a subscription is to unsubscribe the one of its ticket. -/
theorem subs_unsubscribe (h : s.Sound) {sub : Subscription Nat ε} (hsub : sub ∈ s.subs.entries) :
    (s.perform (.unsubscribe sub.handle)).subs = s.subs.modify sub.ticket (·.unsubscribe) := by
  rw [perform_unsubscribe h hsub]
  split
  · next hreg =>
    rw [subs_close]
    refine Subscriptions.modify_congr h.numbered hsub ?_
    rw [Subscription.unsubscribe, if_pos hreg, Subscription.stop]
  · next hreg =>
    rw [Subscriptions.modify_congr h.numbered hsub
      (g := id) ((Subscription.extends_unsubscribe sub).inert hreg), Subscriptions.modify]
    simp

theorem subs_drop (s : Registries ε) (r : Nat) : (s.perform (.drop r)).subs = s.subs := by
  rw [perform]
  split
  · split <;> rfl
  · rfl

/-- An operation through handles does to subscriptions what it does by tickets. -/
theorem subs_perform (h : s.Sound) (op : Operation ε) : (s.perform op).subs = s.effect op := by
  cases op with
  | create capacity => rfl
  | drop r => exact subs_drop s r
  | subscribe r initial =>
    rw [effect]
    split
    · next capacity number hr => exact subs_subscribe hr initial
    · next hr => rw [perform, Option.map_eq_none_iff.mp hr]
  | notify r e => exact subs_notify h r e
  | unsubscribe handle =>
    rw [effect]
    split
    · next sub hfind =>
      have hhandle : sub.handle = handle := by simpa using List.find?_some hfind
      rw [← hhandle]
      exact subs_unsubscribe h (List.mem_of_find?_eq_some hfind)
    · next hnone =>
      have he : s.ticketAt? handle = none := by
        refine Option.eq_none_iff_forall_ne_some.mpr fun t ht => ?_
        obtain ⟨sub, hsub, hhandle, -⟩ := (h.entry handle t).mp ht
        have hother := List.find?_eq_none.mp hnone sub (Subscriptions.mem_of_find? hsub)
        exact hother (decide_eq_true hhandle)
      rw [perform, he]
  | receive t => rfl
  | close t => exact subs_close s t
  | finish t =>
    rw [perform]
    split
    · split
      · exact subs_remove s _
      · rfl
    · rfl

/-- Unsubscribing again does nothing. -/
theorem run_replicate_unsubscribe (s : Registries ε) (h : Handle) (n : Nat) :
    s.run (.replicate (n + 1) (.unsubscribe h)) = s.perform (.unsubscribe h) := by
  have hagain : (s.perform (.unsubscribe h)).perform (.unsubscribe h) =
      s.perform (.unsubscribe h) := by
    have hnone : (s.perform (.unsubscribe h)).ticketAt? h = none := by
      cases he : s.ticketAt? h with
      | none =>
        rw [perform, he]
        exact he
      | some t =>
        rw [perform, he]
        exact (ticketAt?_remove s h h).trans (if_pos rfl)
    rw [perform, hnone]
  induction n with
  | zero => rfl
  | succ n ih =>
    change ((s.perform (.unsubscribe h)).perform (.unsubscribe h)).run (.replicate n _) = _
    rw [hagain]
    exact ih

/-! ## Entries that are gone -/

/-- Whether an operation ends a subscription that is registered: its handle is unsubscribed, its
listener ends, or it is sent an event and its queue is full. -/
def Operation.ends (sub : Subscription Nat ε) : Operation ε → Bool
  | .unsubscribe h => h = sub.handle
  | .close t => t = sub.ticket
  | .notify r _ => r = sub.topic && sub.capacity ≤ sub.queue.length
  | .create _ | .drop _ | .subscribe .. | .receive _ | .finish _ => false

/-- Whether the entry of a subscription is in its registry. -/
def lists (s : Registries ε) (t : Nat) : Bool :=
  (s.subs.find? t).any fun sub => s.ticketAt? sub.handle = some t

/-- How often the entry of a subscription is removed from its registry. -/
def removals (t : Nat) : Registries ε → List (Operation ε) → Nat
  | _, [] => 0
  | s, op :: ops =>
    (if s.lists t && !(s.perform op).lists t then 1 else 0) + removals t (s.perform op) ops

theorem Sound.lists_eq (h : s.Sound) (t : Nat) :
    s.lists t = (s.subs.find? t).any (·.isRegistered) := by
  rw [lists]
  cases hsub : s.subs.find? t with
  | none => rfl
  | some sub =>
    obtain rfl := Subscriptions.ticket_of_find? hsub
    rw [Option.any_some, Option.any_some, h.ticketAt?_handle (Subscriptions.mem_of_find? hsub)]
    cases sub.isRegistered <;> simp

/-- The entry of a subscription stays where it is until something ends the subscription. -/
theorem lists_perform (h : s.Sound) (op : Operation ε) {t : Nat} {sub : Subscription Nat ε}
    (hsub : s.subs.find? t = some sub) :
    (s.perform op).lists t = (s.lists t && !op.ends sub) := by
  rw [(h.perform op).lists_eq, h.lists_eq, subs_perform h, hsub, Option.any_some]
  obtain rfl := Subscriptions.ticket_of_find? hsub
  cases op with
  | create | drop | finish => simp [effect, hsub, Operation.ends]
  | subscribe r initial =>
    rw [effect]
    split
    · simp [Subscriptions.find?_subscribe hsub, Operation.ends]
    · simp [hsub, Operation.ends]
  | notify r e =>
    rw [effect, Subscriptions.find?_publish, hsub, Option.map_some, Option.any_some, Operation.ends]
    by_cases htopic : sub.topic = r
    · rw [if_pos htopic, List.foldl_cons, List.foldl_nil, Subscription.isRegistered_offer]
      simp [htopic]
    · simp [htopic, Ne.symm htopic]
  | unsubscribe handle =>
    have hmem := Subscriptions.mem_of_find? hsub
    rw [effect, Operation.ends]
    split
    · next sub' hfind =>
      have hmem' := List.mem_of_find?_eq_some hfind
      obtain rfl : sub'.handle = handle := by simpa using List.find?_some hfind
      refine (Subscriptions.any_find?_modify hsub sub'.ticket .unsubscribe).trans ?_
      split
      · next hticket =>
        have hfind' := Subscriptions.find?_of_mem h.numbered hmem'
        rw [← hticket, hsub] at hfind'
        cases hfind'
        simp [Subscription.perform]
      · next hticket =>
        -- Another subscription is ended, which has another handle.
        have hhandle : sub'.handle ≠ sub.handle := fun hsame =>
          hticket (congrArg Subscription.ticket (h.distinct sub hmem sub' hmem' hsame)).symm
        simp [hhandle]
    · next hnone =>
      -- The handle is nobody's.
      have hhandle : handle ≠ sub.handle := by
        rintro rfl
        exact absurd (decide_eq_true rfl) (List.find?_eq_none.mp hnone sub hmem)
      simp [hsub, hhandle]
  | receive u =>
    refine (Subscriptions.any_find?_modify hsub u .receive).trans ?_
    simp [Subscription.perform, Operation.ends]
  | close u =>
    refine (Subscriptions.any_find?_modify hsub u .stop).trans ?_
    rw [Operation.ends]
    by_cases hu : sub.ticket = u
    · simp [hu, Subscription.perform]
    · simp [hu, Ne.symm hu]

theorem lt_of_lists (h : s.Sound) {t : Nat} (hl : s.lists t = true) : t < s.subs.nextTicket := by
  cases hsub : s.subs.find? t with
  | none =>
    rw [lists, hsub] at hl
    cases hl
  | some sub => exact Subscriptions.lt_of_find? h.numbered hsub

theorem nextTicket_le_perform (h : s.Sound) (op : Operation ε) :
    s.subs.nextTicket ≤ (s.perform op).subs.nextTicket := by
  rw [subs_perform h]
  cases op with
  | subscribe r initial =>
    rw [effect]
    split
    · exact Nat.le_succ _
    · exact le_rfl
  | unsubscribe handle =>
    rw [effect]
    split <;> exact le_rfl
  | create | drop | notify | receive | close | finish => exact le_rfl

theorem lists_of_perform (h : s.Sound) (op : Operation ε) {t : Nat} (ht : t < s.subs.nextTicket)
    (hl : (s.perform op).lists t = true) : s.lists t = true := by
  have hticket : t ∈ s.subs.entries.map (·.ticket) := by
    rw [h.numbered]
    exact List.mem_range.mpr ht
  obtain ⟨sub, hsub, rfl⟩ := List.mem_map.mp hticket
  rw [lists_perform h op (Subscriptions.find?_of_mem h.numbered hsub)] at hl
  exact (Bool.and_eq_true_iff.mp hl).1

theorem lists_of_run (more : List (Operation ε)) :
    ∀ {s : Registries ε}, s.Sound → ∀ {t : Nat}, t < s.subs.nextTicket →
      (s.run more).lists t = true → s.lists t = true := by
  induction more with
  | nil => exact fun _ _ _ hl => hl
  | cons op more ih =>
    intro s h t ht hl
    exact lists_of_perform h op ht
      (ih (h.perform op) (ht.trans_le (nextTicket_le_perform h op)) hl)

theorem removals_eq_zero (ops : List (Operation ε)) :
    ∀ {s : Registries ε}, s.Sound → ∀ {t : Nat}, t < s.subs.nextTicket → s.lists t = false →
      removals t s ops = 0 := by
  induction ops with
  | nil => exact fun _ _ _ _ => rfl
  | cons op ops ih =>
    intro s h t ht hl
    have hnext : (s.perform op).lists t = false := by
      rw [Bool.eq_false_iff] at hl ⊢
      exact mt (lists_of_perform h op ht) hl
    rw [removals, hl, ih (h.perform op) (ht.trans_le (nextTicket_le_perform h op)) hnext]
    rfl

theorem removals_le_one (t : Nat) (ops : List (Operation ε)) :
    ∀ {s : Registries ε}, s.Sound → removals t s ops ≤ 1 := by
  induction ops with
  | nil => exact fun _ => Nat.zero_le 1
  | cons op ops ih =>
    intro s h
    rw [removals]
    split
    · next hremoved =>
      rw [Bool.and_eq_true, Bool.not_eq_true'] at hremoved
      have ht := (lt_of_lists h hremoved.1).trans_le (nextTicket_le_perform h op)
      rw [removals_eq_zero ops (h.perform op) ht hremoved.2]
    · rw [Nat.zero_add]
      exact ih (h.perform op)

/-- What is done through handles concerns the subscriptions that they were made for. -/
structure Faithful (s : Registries ε) : Prop where
  /-- No two subscriptions to one registry have one number. -/
  distinct : ∀ sub ∈ s.subs.entries, ∀ sub' ∈ s.subs.entries, sub'.handle = sub.handle → sub' = sub
  /-- What is done through a handle is done to the subscription of one ticket. -/
  effect : ∀ op, (s.perform op).subs = s.effect op
  /-- The entry of a subscription is taken out of its registry by what ends the subscription, and by
  nothing else. -/
  ends : ∀ op t sub, s.subs.find? t = some sub →
    (s.perform op).lists t = (s.lists t && !op.ends sub)
  /-- Unsubscribing more often is unsubscribing once. -/
  again : ∀ h n, s.run (.replicate (n + 1) (.unsubscribe h)) = s.perform (.unsubscribe h)
  /-- An entry that is gone never comes back. -/
  gone : ∀ t < s.subs.nextTicket, ∀ more, s.lists t = false → (s.run more).lists t = false

theorem Sound.faithful (h : s.Sound) : s.Faithful where
  distinct := h.distinct
  effect := subs_perform h
  ends op _ _ hsub := lists_perform h op hsub
  again := run_replicate_unsubscribe s
  gone t ht more hl := by
    rw [Bool.eq_false_iff] at hl ⊢
    exact mt (lists_of_run more h ht) hl

/-- A registry is dropped and made anew. The handle of the first subscription does not reach the new
one, which has the same number. -/
example :
    let s := ({} : Registries Nat).run [.create 2, .subscribe 0 [], .unsubscribe ⟨0, 0⟩, .drop 0,
      .create 2, .subscribe 1 [], .unsubscribe ⟨0, 0⟩, .close 0]
    (s.subs.find? 1).map (·.number) = some 0 ∧ s.lists 1 = true := by
  decide +kernel

end Registries

end MeshDestination
