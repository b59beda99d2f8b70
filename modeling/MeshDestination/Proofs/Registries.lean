import MeshDestination.Proofs.Topics
import Std.Data.TreeMap

/-!
# Registries

The subscriptions to one state of a topic are the entries of a registry, by numbers that it counts
from zero. A registry without entries may be dropped, and a new one for the topic counts from zero
again. Subscribers and listeners refer to an entry by the registry and the number (`Handle`), and
find nothing once the registry is dropped or the entry is gone.

In every run of registries each subscription has a handle of its own, which reaches it as long as it
is registered, and nothing else (`Registries.Sound.run`).
-/

namespace MeshDestination

open Std

/-- By what a subscriber or a listener refers to an entry. -/
structure Handle where
  /-- The place of the registry among all that were ever made. -/
  registry : Nat
  number : Nat
  deriving DecidableEq

namespace Subscription

variable {τ ε : Type}

/-- The handle of a subscription to the registry of a place. -/
def handle (s : Subscription Nat ε) : Handle := ⟨s.topic, s.number⟩

/-- Sends an event into a queue that is not full and whose listener is not gone. -/
def trySend (s : Subscription τ ε) (e : ε) : Option (Subscription τ ε) :=
  if s.standing ≠ .stopped ∧ s.queue.length < s.capacity then
    some { s with queue := s.queue ++ [e] }
  else none

/-- Nothing more is sent. -/
def hangUp (s : Subscription τ ε) : Subscription τ ε :=
  if s.isRegistered then { s with standing := .lagged } else s

/-- To send to a registered subscription, and to hang up if that fails, is to offer it the event. -/
theorem trySend_of_registered {s : Subscription τ ε} (hreg : s.isRegistered = true) (e : ε) :
    (s.trySend e).getD s.hangUp = s.offer e ∧
      (s.trySend e).isSome = (s.offer e).isRegistered := by
  have hlive : s.standing ≠ .stopped := by
    rw [of_decide_eq_true hreg]
    decide
  rw [trySend, hangUp, offer, if_pos hreg, if_pos hreg]
  by_cases hroom : s.queue.length < s.capacity
  · rw [if_pos ⟨hlive, hroom⟩, if_pos hroom]
    exact ⟨rfl, hreg.symm⟩
  · rw [if_neg fun h => hroom h.2, if_neg hroom]
    exact ⟨rfl, rfl⟩

@[simp] theorem isRegistered_unsubscribe (s : Subscription τ ε) :
    s.unsubscribe.isRegistered = false := by
  rw [unsubscribe]
  split
  · rfl
  · next hreg => exact Bool.eq_false_iff.mpr hreg

@[simp] theorem isRegistered_stop (s : Subscription τ ε) : s.stop.isRegistered = false := rfl

@[simp] theorem isRegistered_receive (s : Subscription τ ε) :
    s.receive.isRegistered = s.isRegistered := by
  rw [receive]
  split <;> rfl

/-- An offer ends a registration exactly when the queue is full. -/
theorem isRegistered_offer (s : Subscription τ ε) (e : ε) :
    (s.offer e).isRegistered = (s.isRegistered && !decide (s.capacity ≤ s.queue.length)) := by
  by_cases hreg : s.isRegistered = true
  · rw [offer, if_pos hreg]
    by_cases hroom : s.queue.length < s.capacity
    · rw [if_pos hroom, decide_eq_false (Nat.not_le.mpr hroom), hreg]
      exact hreg
    · rw [if_neg hroom, decide_eq_true (Nat.not_lt.mp hroom), Bool.not_true, Bool.and_false]
      rfl
  · rw [offer, if_neg hreg, Bool.eq_false_iff.mpr hreg, Bool.false_and]

theorem handle_foldl_offer (es : List ε) (s : Subscription Nat ε) :
    (es.foldl offer s).handle = s.handle := by
  rw [handle, topic_foldl_offer, number_foldl_offer]
  rfl

/-- A subscription keeps its handle whatever its listener does. -/
theorem handle_perform (s : Subscription Nat ε) (a : Action) : (s.perform a).handle = s.handle := by
  rw [handle, (retains_perform s a).topic, number_perform]
  rfl

end Subscription

/-- The entries of a registry, each with the ticket of its subscription. -/
structure Registry where
  capacity : Nat
  nextNumber : Nat := 0
  entries : TreeMap Nat Nat := {}

/-- Whether there is an entry with a ticket. -/
def Registry.reaches (r : Registry) (ticket : Nat) : Bool :=
  r.entries.toList.any fun (_, t) => t = ticket

/-- All registries that were ever made, `none` where one is dropped, and all subscriptions, each on
the place of its registry. -/
structure Registries (ε : Type) where
  registries : List (Option Registry) := []
  subs : Subscriptions Nat ε := {}

namespace Registries

variable {ε : Type}

/-- What can happen to registries and their subscriptions. -/
inductive Operation (ε : Type) where
  | create (capacity : Nat)
  /-- A registry that has no entries is dropped. -/
  | drop (r : Nat)
  | subscribe (r : Nat) (initial : List ε)
  | notify (r : Nat) (e : ε)
  | unsubscribe (h : Handle)
  /-- The listener of a ticket receives the next event. -/
  | receive (ticket : Nat)
  /-- The listener of a ticket ends, because its liveness signal fires or it was told to. -/
  | close (ticket : Nat)
  /-- The listener of a ticket ends if nothing more is sent to it and nothing is left. -/
  | finish (ticket : Nat)
  deriving DecidableEq

/-- The registry of a place, if it is not dropped. -/
def registryAt? (s : Registries ε) (r : Nat) : Option Registry := s.registries[r]?.join

/-- Puts a registry, or none, on a place. -/
def setRegistry (s : Registries ε) (r : Nat) (registry : Option Registry) : Registries ε :=
  { s with registries := s.registries.set r registry }

/-- The ticket of the subscription whose entry a handle reaches. -/
def ticketAt? (s : Registries ε) (h : Handle) : Option Nat :=
  (s.registryAt? h.registry).bind (·.entries[h.number]?)

/-- Takes the entry that a handle reaches out of its registry. -/
def remove (s : Registries ε) (h : Handle) : Registries ε :=
  match s.registryAt? h.registry with
  | some registry =>
    s.setRegistry h.registry (some { registry with entries := registry.entries.erase h.number })
  | none => s

/-- Whether an event can be sent to the subscription of a ticket. -/
def sends (s : Registries ε) (e : ε) (t : Nat) : Bool :=
  (s.subs.find? t).any fun sub => (sub.trySend e).isSome

/-- Performs an operation. -/
def perform (s : Registries ε) : Operation ε → Registries ε
  | .create capacity => { s with registries := s.registries ++ [some { capacity }] }
  | .drop r =>
    match s.registryAt? r with
    | some registry => if registry.entries.isEmpty then s.setRegistry r none else s
    | none => s
  | .subscribe r initial =>
    match s.registryAt? r with
    | some registry =>
      { s.setRegistry r (some { registry with
          nextNumber := registry.nextNumber + 1
          entries := registry.entries.insert registry.nextNumber s.subs.nextTicket }) with
        subs := s.subs.subscribe r registry.nextNumber registry.capacity initial }
    | none => s
  | .notify r e =>
    match s.registryAt? r with
    | some registry =>
      { s.setRegistry r (some { registry with
          entries := registry.entries.filter fun _ t => s.sends e t }) with
        subs := { s.subs with
          entries := s.subs.entries.map fun sub =>
            if registry.reaches sub.ticket then (sub.trySend e).getD sub.hangUp else sub } }
    | none => s
  | .unsubscribe h =>
    match s.ticketAt? h with
    | some t => { s.remove h with subs := s.subs.modify t (·.stop) }
    | none => s
  | .receive t => { s with subs := s.subs.modify t (·.receive) }
  | .close t =>
    match s.subs.find? t with
    | some sub => { s.remove sub.handle with subs := s.subs.modify t (·.stop) }
    | none => s
  | .finish t =>
    match s.subs.find? t with
    | some sub => if sub.standing = .lagged ∧ sub.queue = [] then s.remove sub.handle else s
    | none => s

/-- Performs operations in order. -/
def run (s : Registries ε) (ops : List (Operation ε)) : Registries ε := ops.foldl perform s

theorem run_append (s : Registries ε) (ops more : List (Operation ε)) :
    s.run (ops ++ more) = (s.run ops).run more := List.foldl_append

/-! ## Registries and entries after a change -/

variable {s s' : Registries ε} {r : Nat} {registry : Registry}

/-- The capacity and the next number of the registry of a place, if it is not dropped. -/
def terms? (s : Registries ε) (r : Nat) : Option (Nat × Nat) :=
  (s.registryAt? r).map fun registry => (registry.capacity, registry.nextNumber)

theorem terms?_of_registryAt? (hr : s.registryAt? r = some registry) :
    s.terms? r = some (registry.capacity, registry.nextNumber) := by
  rw [terms?, hr]
  rfl

theorem lt_of_registryAt? (hr : s.registryAt? r = some registry) : r < s.registries.length := by
  by_contra hge
  rw [registryAt?, List.getElem?_eq_none (Nat.not_lt.mp hge)] at hr
  cases hr

/-- A registry is put on its place and on no other. -/
theorem registryAt?_setRegistry (hr : s.registryAt? r = some registry) (new : Option Registry)
    (r' : Nat) :
    (s.setRegistry r new).registryAt? r' = if r = r' then new else s.registryAt? r' := by
  unfold registryAt? setRegistry
  rw [List.getElem?_set]
  by_cases h : r = r'
  · subst h
    rw [if_pos rfl, if_pos rfl, if_pos (lt_of_registryAt? hr)]
    rfl
  · rw [if_neg h, if_neg h]

theorem terms?_setRegistry (hr : s.registryAt? r = some registry) (new : Option Registry)
    (r' : Nat) :
    (s.setRegistry r new).terms? r' =
      if r = r' then new.map fun registry => (registry.capacity, registry.nextNumber)
      else s.terms? r' := by
  rw [terms?, registryAt?_setRegistry hr]
  split <;> rfl

theorem ticketAt?_of_registryAt? {h : Handle} (hr : s.registryAt? h.registry = some registry) :
    s.ticketAt? h = registry.entries[h.number]? := by
  rw [ticketAt?, hr]
  rfl

/-- A registry that is put on a place decides for all handles to that place. -/
theorem ticketAt?_setRegistry (hr : s.registryAt? r = some registry) (new : Option Registry)
    (h : Handle) :
    (s.setRegistry r new).ticketAt? h =
      if r = h.registry then new.bind (·.entries[h.number]?) else s.ticketAt? h := by
  rw [ticketAt?, registryAt?_setRegistry hr]
  split <;> rfl

/-- New entries leave the count of a registry as it is. -/
theorem terms?_setEntries (hr : s.registryAt? r = some registry) (entries : TreeMap Nat Nat)
    (r' : Nat) : (s.setRegistry r (some { registry with entries })).terms? r' = s.terms? r' := by
  rw [terms?_setRegistry hr]
  split
  · next hsame => rw [← hsame, terms?_of_registryAt? hr, Option.map_some]
  · rfl

theorem terms?_remove (s : Registries ε) (h : Handle) (r : Nat) :
    (s.remove h).terms? r = s.terms? r := by
  unfold remove
  split
  · next hr => exact terms?_setEntries hr _ r
  · rfl

theorem length_remove (s : Registries ε) (h : Handle) :
    (s.remove h).registries.length = s.registries.length := by
  unfold remove
  split
  · exact List.length_set ..
  · rfl

theorem subs_remove (s : Registries ε) (h : Handle) : (s.remove h).subs = s.subs := by
  unfold remove
  split <;> rfl

/-- Removing an entry takes it from its handle and from no other. -/
theorem ticketAt?_remove (s : Registries ε) (h h' : Handle) :
    (s.remove h).ticketAt? h' = if h = h' then none else s.ticketAt? h' := by
  unfold remove
  obtain ⟨r, n⟩ := h
  obtain ⟨r', n'⟩ := h'
  split
  · next registry hr =>
    rw [ticketAt?_setRegistry hr]
    by_cases hsame : r = r'
    · subst hsame
      rw [if_pos rfl, Option.bind_some, TreeMap.getElem?_erase,
        ticketAt?_of_registryAt? (h := ⟨r, n'⟩) hr]
      simp
    · have hne : (⟨r, n⟩ : Handle) ≠ ⟨r', n'⟩ := fun h => hsame (Handle.mk.inj h).1
      rw [if_neg hsame, if_neg hne]
  · next hr =>
    split
    · next hsame =>
      rw [← hsame, ticketAt?, hr]
      rfl
    · rfl

/-! ## Handles reach their own -/

/-- Every subscription has a handle of its own, and a handle reaches the subscription that it was
made for as long as this is registered, and nothing else. -/
structure Sound (s : Registries ε) : Prop where
  numbered : s.subs.Numbered
  place : ∀ sub ∈ s.subs.entries, sub.topic < s.registries.length
  number : ∀ sub ∈ s.subs.entries, ∀ c n, s.terms? sub.topic = some (c, n) → sub.number < n
  distinct : ∀ sub ∈ s.subs.entries, ∀ sub' ∈ s.subs.entries, sub'.handle = sub.handle → sub' = sub
  entry : ∀ h t, s.ticketAt? h = some t ↔
    ∃ sub, s.subs.find? t = some sub ∧ sub.handle = h ∧ sub.isRegistered = true

/-- To begin with there are neither registries nor subscriptions. -/
theorem sound_empty : ({} : Registries ε).Sound where
  numbered := Subscriptions.numbered_empty
  place _ hsub := absurd hsub List.not_mem_nil
  number _ hsub := absurd hsub List.not_mem_nil
  distinct _ hsub := absurd hsub List.not_mem_nil
  entry h t := by simp [ticketAt?, registryAt?, Subscriptions.find?]

/-- Of the registries of `s'` the ones that `s` has as well have not counted backwards. -/
def Counts (s s' : Registries ε) : Prop :=
  s.registries.length ≤ s'.registries.length ∧
    ∀ r c n', r < s.registries.length → s'.terms? r = some (c, n') →
      ∃ n ≤ n', s.terms? r = some (c, n)

theorem counts_of_terms (hlength : s'.registries.length = s.registries.length)
    (hterms : ∀ r, s'.terms? r = s.terms? r) : Counts s s' :=
  ⟨hlength.ge, fun r _ n' _ h => ⟨n', le_rfl, (hterms r).symm.trans h⟩⟩

/-- Removing an entry does not count backwards. -/
theorem counts_remove (s : Registries ε) (h : Handle) : Counts s (s.remove h) :=
  counts_of_terms (length_remove s h) (terms?_remove s h)

/-- A change that leaves tickets and handles as they are, and takes those entries out of registries
whose subscriptions it ends. -/
theorem Sound.map (h : s.Sound) (hcounts : Counts s s')
    (f : Subscription Nat ε → Subscription Nat ε)
    (hsubs : s'.subs = { s.subs with entries := s.subs.entries.map f })
    (hticket : ∀ sub, (f sub).ticket = sub.ticket) (hhandle : ∀ sub, (f sub).handle = sub.handle)
    (hreg : ∀ sub ∈ s.subs.entries, (f sub).isRegistered = true → sub.isRegistered = true)
    (hentry : ∀ handle t, s'.ticketAt? handle = some t ↔ s.ticketAt? handle = some t ∧
      ∀ sub, s.subs.find? t = some sub → (f sub).isRegistered = true) : s'.Sound where
  numbered := by
    rw [hsubs]
    exact h.numbered.map hticket
  place sub' hsub' := by
    rw [hsubs] at hsub'
    obtain ⟨sub, hsub, rfl⟩ := List.mem_map.mp hsub'
    rw [show (f sub).topic = sub.topic from congrArg Handle.registry (hhandle sub)]
    exact (h.place sub hsub).trans_le hcounts.1
  number sub' hsub' c n' hterms' := by
    rw [hsubs] at hsub'
    obtain ⟨sub, hsub, rfl⟩ := List.mem_map.mp hsub'
    rw [show (f sub).topic = sub.topic from congrArg Handle.registry (hhandle sub)] at hterms'
    obtain ⟨n, hle, hterms⟩ := hcounts.2 _ c n' (h.place sub hsub) hterms'
    rw [show (f sub).number = sub.number from congrArg Handle.number (hhandle sub)]
    exact (h.number sub hsub c n hterms).trans_le hle
  distinct := by
    rw [hsubs]
    intro sub₁ hsub₁ sub₂ hsub₂ hsame
    obtain ⟨sub, hsub, rfl⟩ := List.mem_map.mp hsub₁
    obtain ⟨sub', hsub', rfl⟩ := List.mem_map.mp hsub₂
    rw [hhandle, hhandle] at hsame
    rw [h.distinct sub hsub sub' hsub' hsame]
  entry handle t := by
    rw [hentry, h.entry, hsubs, Subscriptions.find?_map fun sub _ => hticket sub]
    constructor
    · rintro ⟨⟨sub, hsub, rfl, -⟩, hkept⟩
      exact ⟨f sub, by rw [hsub]; rfl, hhandle sub, hkept sub hsub⟩
    · rintro ⟨sub', hsub', rfl, hkept⟩
      obtain ⟨sub, hsub, rfl⟩ := Option.map_eq_some_iff.mp hsub'
      refine ⟨⟨sub, hsub, (hhandle sub).symm, hreg sub (Subscriptions.mem_of_find? hsub) hkept⟩, ?_⟩
      intro other hother
      cases hsub.symm.trans hother
      exact hkept

/-- A change of registries that leaves all entries where they are. -/
theorem Sound.congr (h : s.Sound) (hcounts : Counts s s') (hsubs : s'.subs = s.subs)
    (hentry : ∀ handle, s'.ticketAt? handle = s.ticketAt? handle) : s'.Sound := by
  refine h.map hcounts id (by rw [hsubs, List.map_id]) (fun _ => rfl) (fun _ => rfl)
    (fun _ _ => id) fun handle t => ?_
  rw [hentry]
  refine ⟨fun ht => ⟨ht, fun sub hsub => ?_⟩, And.left⟩
  obtain ⟨sub', hsub', -, hreg⟩ := (h.entry handle t).mp ht
  cases hsub.symm.trans hsub'
  exact hreg

/-- A handle reaches its own subscription, or nothing when this is not registered. -/
theorem Sound.ticketAt?_handle (h : s.Sound) {sub : Subscription Nat ε}
    (hsub : sub ∈ s.subs.entries) :
    s.ticketAt? sub.handle = if sub.isRegistered then some sub.ticket else none := by
  have hfind := Subscriptions.find?_of_mem h.numbered hsub
  split
  · next hreg => exact (h.entry _ _).mpr ⟨sub, hfind, rfl, hreg⟩
  · next hreg =>
    refine Option.eq_none_iff_forall_ne_some.mpr fun t ht => ?_
    obtain ⟨sub', hsub', hhandle, hreg'⟩ := (h.entry _ t).mp ht
    rw [h.distinct sub hsub sub' (Subscriptions.mem_of_find? hsub') hhandle] at hreg'
    exact hreg hreg'

/-- A registry has entries for the registered subscriptions to its own place and for nothing else.
-/
theorem Sound.reaches_iff (h : s.Sound) (hr : s.registryAt? r = some registry)
    {sub : Subscription Nat ε} (hsub : sub ∈ s.subs.entries) :
    registry.reaches sub.ticket = true ↔ sub.topic = r ∧ sub.isRegistered = true := by
  rw [Registry.reaches, List.any_eq_true]
  constructor
  · rintro ⟨⟨n, t⟩, hmem, ht⟩
    obtain rfl : t = sub.ticket := of_decide_eq_true ht
    have he : s.ticketAt? ⟨r, n⟩ = some sub.ticket := by
      rw [ticketAt?_of_registryAt? hr]
      exact TreeMap.mem_toList_iff_getElem?_eq_some.mp hmem
    obtain ⟨sub', hsub', hhandle, hreg⟩ := (h.entry _ _).mp he
    rw [Subscriptions.find?_of_mem h.numbered hsub] at hsub'
    cases hsub'
    exact ⟨congrArg Handle.registry hhandle, hreg⟩
  · rintro ⟨rfl, hreg⟩
    refine ⟨(sub.number, sub.ticket), TreeMap.mem_toList_iff_getElem?_eq_some.mpr ?_,
      decide_eq_true rfl⟩
    have he := h.ticketAt?_handle hsub
    rw [if_pos hreg, ticketAt?_of_registryAt? (h := sub.handle) hr] at he
    exact he

/-! ### Registries that come and go -/

/-- A registry is made on a place of its own. -/
theorem registryAt?_create (s : Registries ε) (capacity r : Nat) :
    (s.perform (.create capacity)).registryAt? r =
      if r = s.registries.length then some { capacity } else s.registryAt? r := by
  rw [registryAt?, perform, registryAt?]
  rcases Nat.lt_trichotomy r s.registries.length with hlt | rfl | hgt
  · rw [if_neg hlt.ne, List.getElem?_append_left hlt]
  · rw [if_pos rfl, List.getElem?_concat_length]
    rfl
  · rw [if_neg hgt.ne', List.getElem?_eq_none hgt.le, List.getElem?_eq_none]
    rw [List.length_append]
    exact hgt

theorem terms?_create (s : Registries ε) (capacity r : Nat) :
    (s.perform (.create capacity)).terms? r =
      if r = s.registries.length then some (capacity, 0) else s.terms? r := by
  rw [terms?, registryAt?_create]
  split <;> rfl

/-- A new registry has no entries, so no handle reaches anything through it. -/
theorem sound_create (h : s.Sound) (capacity : Nat) : (s.perform (.create capacity)).Sound := by
  refine h.congr ⟨?_, fun r c n hr hterms => ⟨n, le_rfl, ?_⟩⟩ rfl fun handle => ?_
  · rw [perform, List.length_append]
    exact Nat.le_add_right _ _
  · rwa [terms?_create, if_neg hr.ne] at hterms
  · rw [ticketAt?, registryAt?_create]
    split
    · next hnew =>
      -- There is no registry of the place yet, and the one that is made has no entries.
      rw [ticketAt?, registryAt?, hnew, List.getElem?_eq_none le_rfl]
      exact TreeMap.getElem?_emptyc
    · rfl

theorem perform_drop (hr : s.registryAt? r = some registry) :
    s.perform (.drop r) = if registry.entries.isEmpty then s.setRegistry r none else s := by
  rw [perform, hr]

/-- A registry is dropped only without entries, so nothing that is registered loses its handle. -/
theorem sound_drop (h : s.Sound) (r : Nat) : (s.perform (.drop r)).Sound := by
  cases hr : s.registryAt? r with
  | none =>
    rw [perform, hr]
    exact h
  | some registry =>
    rw [perform_drop hr]
    split
    · next hempty =>
      refine h.congr ⟨(List.length_set ..).ge, fun r' c n _ hterms => ⟨n, le_rfl, ?_⟩⟩ rfl
        fun handle => ?_
      · rw [terms?_setRegistry hr] at hterms
        split at hterms
        · cases hterms
        · exact hterms
      · rw [ticketAt?_setRegistry hr]
        split
        · next hsame =>
          subst hsame
          rw [ticketAt?_of_registryAt? hr]
          exact (TreeMap.getElem?_of_isEmpty hempty).symm
        · rfl
    · exact h

/-! ### The end of a subscription -/

/-- A listener that ends removes its own entry and leaves those of others in place. -/
theorem sound_close (h : s.Sound) (t : Nat) : (s.perform (.close t)).Sound := by
  rw [perform]
  split
  · next sub hsub =>
    have hmem := Subscriptions.mem_of_find? hsub
    refine h.map (counts_remove s sub.handle)
      (fun e => if e.ticket = t then e.stop else e) rfl ?_ ?_ ?_ fun handle t' => ?_
    · exact Subscriptions.ticket_modify fun _ ht => ht
    · intro e
      split <;> rfl
    · intro e _
      split
      · exact fun hreg => by cases hreg
      · exact id
    change (s.remove sub.handle).ticketAt? handle = some t' ↔ _
    rw [ticketAt?_remove]
    constructor
    · intro he
      split at he
      · cases he
      · next hother =>
        -- What is registered keeps its entry where another subscription ends.
        refine ⟨he, fun sub' hsub' => ?_⟩
        obtain ⟨sub'', hsub'', hhandle, hreg⟩ := (h.entry handle t').mp he
        cases hsub'.symm.trans hsub''
        have hticket : sub'.ticket ≠ t := by
          rintro rfl
          rw [Subscriptions.find?_of_mem h.numbered (Subscriptions.mem_of_find? hsub')] at hsub
          cases hsub
          exact hother hhandle
        rw [if_neg hticket]
        exact hreg
    · rintro ⟨he, hkept⟩
      rw [if_neg]
      · exact he
      · -- The entry of the subscription that ends would belong to one that is still registered.
        rintro rfl
        rw [h.ticketAt?_handle hmem] at he
        split at he
        · cases he
          have hreg := hkept sub (Subscriptions.find?_of_mem h.numbered hmem)
          rw [if_pos (Subscriptions.ticket_of_find? hsub)] at hreg
          cases hreg
        · cases he
  · exact h

/-- To unsubscribe through a handle is to end the subscription that it was made for, if that is
registered. -/
theorem perform_unsubscribe (h : s.Sound) {sub : Subscription Nat ε}
    (hsub : sub ∈ s.subs.entries) :
    s.perform (.unsubscribe sub.handle) =
      if sub.isRegistered then s.perform (.close sub.ticket) else s := by
  rw [perform, h.ticketAt?_handle hsub]
  by_cases hreg : sub.isRegistered = true
  · rw [if_pos hreg, if_pos hreg, perform, Subscriptions.find?_of_mem h.numbered hsub]
  · rw [if_neg hreg, if_neg hreg]

/-- To unsubscribe ends the subscription that the handle reaches, or nothing. -/
theorem sound_unsubscribe (h : s.Sound) (handle : Handle) :
    (s.perform (.unsubscribe handle)).Sound := by
  cases he : s.ticketAt? handle with
  | none =>
    rw [perform, he]
    exact h
  | some t =>
    obtain ⟨sub, hsub, rfl, -⟩ := (h.entry handle t).mp he
    rw [perform_unsubscribe h (Subscriptions.mem_of_find? hsub)]
    split
    · exact sound_close h _
    · exact h

/-- A listener that has lagged and finishes finds its entry gone already. -/
theorem sound_finish (h : s.Sound) (t : Nat) : (s.perform (.finish t)).Sound := by
  rw [perform]
  split
  · next sub hsub =>
    split
    · next hdone =>
      -- A subscription that lags has no entry any more.
      refine h.congr (counts_remove s sub.handle) (subs_remove s sub.handle) fun handle => ?_
      rw [ticketAt?_remove]
      split
      · next hsame =>
        rw [← hsame, h.ticketAt?_handle (Subscriptions.mem_of_find? hsub),
          if_neg (Subscription.not_registered_of_lagged hdone.1)]
      · rfl
    · exact h
  · exact h

/-! ### Events -/

/-- To receive an event changes neither handles nor registrations. -/
theorem sound_receive (h : s.Sound) (t : Nat) : (s.perform (.receive t)).Sound := by
  have hsame (sub : Subscription Nat ε) :
      (if sub.ticket = t then sub.receive else sub).isRegistered = sub.isRegistered := by
    split
    · exact sub.isRegistered_receive
    · rfl
  refine h.map (counts_of_terms rfl fun _ => rfl)
    (fun e => if e.ticket = t then e.receive else e) rfl ?_ ?_ ?_ ?_
  · exact Subscriptions.ticket_modify fun sub ht =>
      (Subscription.retains_receive sub).ticket.trans ht
  · intro e
    split
    · exact e.handle_perform .receive
    · rfl
  · exact fun sub _ hreg => (hsame sub).symm.trans hreg
  · intro handle t'
    refine ⟨fun he => ⟨he, fun sub hsub => ?_⟩, And.left⟩
    obtain ⟨sub', hsub', -, hreg⟩ := (h.entry handle t').mp he
    cases hsub.symm.trans hsub'
    exact (hsame sub).trans hreg

/-- To notify a registry is to offer the event to the subscriptions to it. -/
theorem subs_notify (h : s.Sound) (r : Nat) (e : ε) :
    (s.perform (.notify r e)).subs = s.subs.publish fun topic => if topic = r then [e] else [] := by
  rw [perform, Subscriptions.publish]
  have hoffer {sub : Subscription Nat ε} (hother : ¬(sub.topic = r ∧ sub.isRegistered = true)) :
      (if sub.topic = r then [e] else []).foldl Subscription.offer sub = sub := by
    split
    · next htopic =>
      exact Subscription.offer_of_not_registered (fun hreg => hother ⟨htopic, hreg⟩) e
    · rfl
  split
  · next registry hr =>
    refine congrArg (Subscriptions.mk · _) (List.map_congr_left fun sub hsub => ?_)
    by_cases hreaches : sub.topic = r ∧ sub.isRegistered = true
    · rw [if_pos ((h.reaches_iff hr hsub).mpr hreaches), if_pos hreaches.1]
      exact (Subscription.trySend_of_registered hreaches.2 e).1
    · rw [if_neg (mt (h.reaches_iff hr hsub).mp hreaches), hoffer hreaches]
  · next hr =>
    have hsame : s.subs.entries.map (fun sub => (if sub.topic = r then [e] else []).foldl
        Subscription.offer sub) = s.subs.entries := by
      refine (List.map_congr_left fun sub hsub => hoffer ?_).trans (List.map_id _)
      rintro ⟨rfl, hreg⟩
      -- The registry of a subscription that is registered is not dropped.
      have he := h.ticketAt?_handle hsub
      rw [if_pos hreg, ticketAt?, show s.registryAt? sub.handle.registry = none from hr] at he
      cases he
    rw [hsame]

theorem terms?_notify (s : Registries ε) (r : Nat) (e : ε) (r' : Nat) :
    (s.perform (.notify r e)).terms? r' = s.terms? r' := by
  rw [perform]
  split
  · next hr => exact terms?_setEntries hr _ r'
  · rfl

theorem length_notify (s : Registries ε) (r : Nat) (e : ε) :
    (s.perform (.notify r e)).registries.length = s.registries.length := by
  rw [perform]
  split
  · exact List.length_set ..
  · rfl

/-- After an event those entries are left whose subscription could be sent it. -/
theorem ticketAt?_notify (s : Registries ε) (r : Nat) (e : ε) (handle : Handle) :
    (s.perform (.notify r e)).ticketAt? handle =
      if r = handle.registry then (s.ticketAt? handle).filter (s.sends e)
      else s.ticketAt? handle := by
  rw [perform]
  split
  · next registry hr =>
    refine (ticketAt?_setRegistry hr _ handle).trans ?_
    split
    · next hsame =>
      subst hsame
      rw [Option.bind_some, TreeMap.getElem?_filter', ticketAt?_of_registryAt? hr]
    · rfl
  · next hr =>
    split
    · next hsame =>
      rw [ticketAt?, ← hsame, hr]
      rfl
    · rfl

/-- The entries that an event removes are those of the subscriptions it ends. -/
theorem sound_notify (h : s.Sound) (r : Nat) (e : ε) : (s.perform (.notify r e)).Sound := by
  refine h.map (counts_of_terms (length_notify s r e) (terms?_notify s r e))
    (fun sub => (if sub.topic = r then [e] else []).foldl Subscription.offer sub)
    (subs_notify h r e) (fun _ => Subscription.ticket_foldl_offer _ _)
    (fun _ => Subscription.handle_foldl_offer _ _)
    (fun sub _ hreg => (Subscription.log_foldl_offer _ sub hreg).1) fun handle t => ?_
  rw [ticketAt?_notify]
  by_cases he : s.ticketAt? handle = some t
  · obtain ⟨sub, hsub, rfl, hreg⟩ := (h.entry handle t).mp he
    have hsends : s.sends e t = (sub.offer e).isRegistered := by
      rw [sends, hsub, Option.any_some, (Subscription.trySend_of_registered hreg e).2]
    simp only [he, hsub, Option.some.injEq, forall_eq', true_and]
    by_cases htopic : sub.topic = r
    · have hr : r = sub.handle.registry := htopic.symm
      rw [if_pos hr, if_pos htopic, Option.filter_some, hsends]
      change _ ↔ (sub.offer e).isRegistered = true
      split <;> simp [*]
    · have hr : r ≠ sub.handle.registry := fun hr => htopic hr.symm
      rw [if_neg hr, if_neg htopic]
      exact ⟨fun _ => hreg, fun _ => rfl⟩
  · refine ⟨fun he' => absurd ?_ he, fun he' => absurd he'.1 he⟩
    split at he'
    · exact Option.eq_some_of_filter_eq_some he'
    · exact he'

/-! ### New subscriptions -/

/-- A subscription takes the next number of its registry. -/
theorem subs_subscribe {c n : Nat} (hr : s.terms? r = some (c, n)) (initial : List ε) :
    (s.perform (.subscribe r initial)).subs = s.subs.subscribe r n c initial := by
  obtain ⟨registry, hregistry, hterms⟩ := Option.map_eq_some_iff.mp hr
  cases hterms
  rw [perform, hregistry]

theorem terms?_subscribe {c n : Nat} (hr : s.terms? r = some (c, n)) (initial : List ε) (r' : Nat) :
    (s.perform (.subscribe r initial)).terms? r' =
      if r = r' then some (c, n + 1) else s.terms? r' := by
  obtain ⟨registry, hregistry, hterms⟩ := Option.map_eq_some_iff.mp hr
  cases hterms
  rw [perform, hregistry]
  exact terms?_setRegistry hregistry _ r'

theorem length_subscribe (s : Registries ε) (r : Nat) (initial : List ε) :
    (s.perform (.subscribe r initial)).registries.length = s.registries.length := by
  rw [perform]
  split
  · exact List.length_set ..
  · rfl

/-- The next number of a registry leads to the new subscription, and old handles lead where they
did. -/
theorem ticketAt?_subscribe {c n : Nat} (hr : s.terms? r = some (c, n)) (initial : List ε)
    (handle : Handle) :
    (s.perform (.subscribe r initial)).ticketAt? handle =
      if handle = ⟨r, n⟩ then some s.subs.nextTicket else s.ticketAt? handle := by
  obtain ⟨registry, hregistry, hterms⟩ := Option.map_eq_some_iff.mp hr
  cases hterms
  obtain ⟨r', n⟩ := handle
  rw [perform, hregistry]
  refine (ticketAt?_setRegistry hregistry _ ⟨r', n⟩).trans ?_
  by_cases hsame : r = r'
  · subst hsame
    rw [if_pos rfl, Option.bind_some, TreeMap.getElem?_insert,
      ticketAt?_of_registryAt? (h := ⟨r, n⟩) hregistry]
    simp only [LawfulEqCmp.compare_eq_iff_eq, Handle.mk.injEq, true_and]
    exact if_congr eq_comm rfl rfl
  · rw [if_neg hsame, if_neg fun h => hsame (Handle.mk.inj h).1.symm]

/-- No subscription has the next number of a registry yet. -/
theorem Sound.handle_ne (h : s.Sound) {c n : Nat} (hr : s.terms? r = some (c, n))
    {sub : Subscription Nat ε} (hsub : sub ∈ s.subs.entries) : sub.handle ≠ ⟨r, n⟩ := by
  intro hhandle
  obtain ⟨rfl, hnumber⟩ := Handle.mk.inj hhandle
  exact absurd hnumber (Nat.ne_of_lt (h.number sub hsub c n hr))

/-- The number a new subscription takes is one that no other to the registry has. -/
theorem sound_subscribe (h : s.Sound) (r : Nat) (initial : List ε) :
    (s.perform (.subscribe r initial)).Sound := by
  cases hregistry : s.registryAt? r with
  | none =>
    rw [perform, hregistry]
    exact h
  | some registry =>
    have hr := terms?_of_registryAt? hregistry
    have hsubs := subs_subscribe hr initial
    have hmem {sub : Subscription Nat ε}
        (hsub : sub ∈ (s.perform (.subscribe r initial)).subs.entries) :
        sub ∈ s.subs.entries ∨ sub = {
          topic := r, number := registry.nextNumber, ticket := s.subs.nextTicket, queue := initial,
          capacity := max (max registry.capacity Subscriptions.minCapacity) initial.length } := by
      rw [hsubs] at hsub
      exact (List.mem_append.mp hsub).imp_right List.mem_singleton.mp
    constructor
    case numbered =>
      rw [hsubs]
      exact h.numbered.subscribe ..
    case place =>
      intro sub hsub
      rw [length_subscribe]
      rcases hmem hsub with hold | rfl
      · exact h.place sub hold
      · exact lt_of_registryAt? hregistry
    case number =>
      intro sub hsub c n hterms
      rw [terms?_subscribe hr] at hterms
      split at hterms
      · next hsame =>
        cases hterms
        rcases hmem hsub with hold | rfl
        · exact Nat.lt_succ_of_lt (h.number sub hold _ _ (hsame ▸ hr))
        · exact Nat.lt_succ_self _
      · next hother =>
        rcases hmem hsub with hold | rfl
        · exact h.number sub hold c n hterms
        · exact absurd rfl hother
    case distinct =>
      intro sub hsub sub' hsub' hsame
      rcases hmem hsub with hold | rfl <;> rcases hmem hsub' with hold' | rfl
      · exact h.distinct sub hold sub' hold' hsame
      · exact absurd hsame.symm (h.handle_ne hr hold)
      · exact absurd hsame (h.handle_ne hr hold')
      · rfl
    case entry =>
      intro handle t
      rw [ticketAt?_subscribe hr]
      split
      · next hnew =>
        subst hnew
        constructor
        · rintro ⟨⟩
          have hfind := Subscriptions.find?_subscribe_self h.numbered r registry.nextNumber
            registry.capacity initial
          rw [← hsubs] at hfind
          exact ⟨_, hfind, rfl, rfl⟩
        · rintro ⟨sub, hsub, hhandle, -⟩
          rcases hmem (Subscriptions.mem_of_find? hsub) with hold | rfl
          · exact absurd hhandle (h.handle_ne hr hold)
          · exact congrArg some (Subscriptions.ticket_of_find? hsub)
      · next hother =>
        rw [h.entry]
        constructor
        · rintro ⟨sub, hsub, hhandle, hreg⟩
          refine ⟨sub, ?_, hhandle, hreg⟩
          rw [hsubs]
          exact Subscriptions.find?_subscribe hsub ..
        · rintro ⟨sub, hsub, hhandle, hreg⟩
          rcases hmem (Subscriptions.mem_of_find? hsub) with hold | rfl
          · have hfind := Subscriptions.find?_of_mem h.numbered hold
            rw [Subscriptions.ticket_of_find? hsub] at hfind
            exact ⟨sub, hfind, hhandle, hreg⟩
          · exact absurd hhandle.symm hother

/-- Every operation keeps each handle with its own subscription. -/
theorem Sound.perform (h : s.Sound) (op : Operation ε) : (s.perform op).Sound := by
  cases op with
  | create capacity => exact sound_create h capacity
  | drop r => exact sound_drop h r
  | subscribe r initial => exact sound_subscribe h r initial
  | notify r e => exact sound_notify h r e
  | unsubscribe handle => exact sound_unsubscribe h handle
  | receive t => exact sound_receive h t
  | close t => exact sound_close h t
  | finish t => exact sound_finish h t

/-- In every run each handle stays with its own subscription. -/
theorem Sound.run (ops : List (Operation ε)) :
    ∀ {s : Registries ε}, s.Sound → (s.run ops).Sound := by
  induction ops with
  | nil => exact fun h => h
  | cons op ops ih => exact fun h => ih (h.perform op)

end Registries

end MeshDestination
