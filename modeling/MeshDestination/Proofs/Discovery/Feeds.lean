import MeshDestination.Proofs.Discovery.Delivery

/-!
# Lists of listeners

The listeners of a list follow the subscriptions of their tickets (`Listener.Feeds`), and the server
lets them work in many ways: one turn of one of them, all until they are idle, a client that reads.
Each way is an instance of one relation (`Listener.Advances`): every listener works on its own
subscription, and all other subscriptions stay as they are. So one fact about the work of a single
listener (`Listener.Works.follows`) serves them all.
-/

namespace MeshDestination.Discovery

namespace Listener

variable {τ ε ο : Type} {items : τ → ε → List ο} {subs subs' : Subscriptions τ ε}
  {ls ls' : List (Listener ο)}

/-- Each listener of a list follows the subscription of its ticket. -/
def Feeds (items : τ → ε → List ο) (subs : Subscriptions τ ε) (ls : List (Listener ο)) : Prop :=
  ∀ l ∈ ls, ∃ s, subs.find? l.ticket = some s ∧ l.Follows (items s.topic) s

theorem Feeds.extends (h : Feeds items subs ls)
    (hs : ∀ t s, subs.find? t = some s → ∃ s', subs'.find? t = some s' ∧ s.Extends s') :
    Feeds items subs' ls := by
  intro l hl
  obtain ⟨s, hfind, hfollows⟩ := h l hl
  obtain ⟨s', hfind', hextends⟩ := hs _ _ hfind
  refine ⟨s', hfind', ?_⟩
  rw [hextends.topic]
  exact hfollows.extends hextends

theorem Feeds.congr (h : Feeds items subs ls)
    (hs : ∀ t ∈ ls.map (·.ticket), subs'.find? t = subs.find? t) : Feeds items subs' ls := by
  intro l hl
  rw [hs l.ticket (List.mem_map_of_mem hl)]
  exact h l hl

/-- A listener of a new subscription follows it. -/
theorem feeds_subscribe (h : Feeds items subs ls) (hn : subs.Numbered) (topic : τ)
    (number capacity : Nat) (initial : List ε) {l : Listener ο} (ht : l.ticket = subs.nextTicket)
    (hl : l.handed ++ l.inHand = []) (live : l.hasEnded = false) :
    Feeds items (subs.subscribe topic number capacity initial) (ls ++ [l]) := by
  intro l' hl'
  rcases List.mem_append.mp hl' with hl' | hl'
  · obtain ⟨s, hfind, hfollows⟩ := h l' hl'
    exact ⟨s, Subscriptions.find?_subscribe hfind topic number capacity initial, hfollows⟩
  · rw [List.mem_singleton] at hl'
    subst hl'
    have hnew := Subscriptions.find?_subscribe_self hn topic number capacity initial
    rw [← ht] at hnew
    exact ⟨_, hnew, follows_new rfl hl live⟩

/-- Listeners have worked, each on the subscription of its ticket. -/
structure Advances (items : τ → ε → List ο) (subs subs' : Subscriptions τ ε)
    (ls ls' : List (Listener ο)) : Prop where
  retains : subs.Retains subs'
  tickets : ls'.map (·.ticket) = ls.map (·.ticket)
  others : ∀ t ∉ ls.map (·.ticket), subs'.find? t = subs.find? t
  feeds : Feeds items subs ls → Feeds items subs' ls'

theorem Advances.refl : Advances items subs subs ls ls :=
  ⟨.refl subs, rfl, fun _ _ => rfl, id⟩

/-- Listeners are tended without their subscriptions. -/
theorem advances_map {β : Type} {f g : β → Listener ο} {xs : List β}
    (h : ∀ x ∈ xs, (f x).Tended (g x)) : Advances items subs subs (xs.map f) (xs.map g) where
  retains := .refl subs
  tickets := by
    rw [List.map_map, List.map_map]
    exact List.map_congr_left fun x hx => (h x hx).ticket
  others _ _ := rfl
  feeds hfeeds := by
    intro l' hl'
    obtain ⟨x, hx, rfl⟩ := List.mem_map.mp hl'
    obtain ⟨s, hfind, hfollows⟩ := hfeeds _ (List.mem_map_of_mem hx)
    exact ⟨s, by rw [(h x hx).ticket, hfind], hfollows.tended (h x hx)⟩

theorem advances_modifyIn (t : Nat) {f : Listener ο → Listener ο}
    (h : ∀ l : Listener ο, l.Tended (f l)) :
    Advances items subs subs ls (Server.modifyIn t f ls) := by
  have hmap : Advances items subs subs (ls.map id)
      (ls.map fun l => if l.ticket = t then f l else l) :=
    advances_map fun l _ => by
      dsimp only [id]
      split
      · exact h l
      · exact .refl l
  rwa [List.map_id] at hmap

/-- One listener works on its subscription. -/
theorem advances_replace (hn : subs.Numbered) {t : Nat} {s s' : Subscription τ ε}
    {l l' : Listener ο} (hs : subs.find? t = some s) (hl : ls.find? (·.ticket == t) = some l)
    (hw : Works (items s.topic) s l s' l') :
    Advances items subs (subs.modify t fun _ => s') ls (Server.modifyIn t (fun _ => l') ls) := by
  have hst := Subscriptions.ticket_of_find? hs
  have hlt : l.ticket = t := by simpa using List.find?_some hl
  have hs't : s'.ticket = t := hw.retains.ticket.trans hst
  have hl't : l'.ticket = t := hw.ticket.trans hlt
  have hfind (u : Nat) : (subs.modify t fun _ => s').find? u =
      (subs.find? u).map fun sub => if u = t then s' else sub :=
    Subscriptions.find?_modify (fun _ _ => hs't) u
  refine ⟨?_, ?_, fun u hu => ?_, fun hfeeds l₀ hl₀ => ?_⟩
  · refine Subscriptions.retains_modify fun sub hsub ht => ?_
    have heq := Subscriptions.find?_of_mem hn hsub
    rw [ht, hs] at heq
    cases heq
    exact hw.retains
  · rw [Server.modifyIn, List.map_map]
    exact List.map_congr_left fun l _ => Delivery.ticket_modifyIn (fun _ _ => hl't) l
  · have hut : u ≠ t := by
      rintro rfl
      exact hu (hlt ▸ List.mem_map_of_mem (List.mem_of_find?_eq_some hl))
    rw [hfind]
    simp [hut]
  · obtain ⟨l₁, hl₁, rfl⟩ := List.mem_map.mp hl₀
    rw [hfind]
    obtain ⟨s₁, hs₁, hfollows₁⟩ := hfeeds l₁ hl₁
    by_cases ht : l₁.ticket = t
    · obtain ⟨s₂, hs₂, hfollows⟩ := hfeeds l (List.mem_of_find?_eq_some hl)
      rw [hlt, hs] at hs₂
      cases hs₂
      rw [if_pos ht, hl't, hs]
      refine ⟨s', by simp, ?_⟩
      rw [hw.retains.topic]
      exact hw.follows hfollows
    · rw [if_neg ht, hs₁]
      exact ⟨s₁, by simp [ht], hfollows₁⟩

/-- One listener is replaced by itself after it was tended. -/
theorem advances_replace_tended {t : Nat} {l l' : Listener ο}
    (hl : ls.find? (·.ticket == t) = some l) (ht : l.Tended l') :
    Advances items subs subs ls (Server.modifyIn t (fun _ => l') ls) := by
  have hlt : l.ticket = t := by simpa using List.find?_some hl
  have hl't : l'.ticket = t := ht.ticket.trans hlt
  refine ⟨.refl subs, ?_, fun _ _ => rfl, fun hfeeds l₀ hl₀ => ?_⟩
  · rw [Server.modifyIn, List.map_map]
    exact List.map_congr_left fun l _ => Delivery.ticket_modifyIn (fun _ _ => hl't) l
  · obtain ⟨l₁, hl₁, rfl⟩ := List.mem_map.mp hl₀
    split
    · obtain ⟨s, hs, hfollows⟩ := hfeeds l (List.mem_of_find?_eq_some hl)
      exact ⟨s, by rw [ht.ticket, hs], hfollows.tended ht⟩
    · exact hfeeds l₁ hl₁

/-! ## All listeners -/

theorem length_settleAll (items : τ → ε → List ο) (ls : List (Listener ο)) :
    ∀ subs : Subscriptions τ ε, (Server.settleAll items subs ls).2.length = ls.length := by
  induction ls with
  | nil => exact fun _ => rfl
  | cons l ls ih => exact fun subs => congrArg (· + 1) (ih _)

/-- A listener that runs until it is idle, alone. -/
theorem advances_settleIn (items : τ → ε → List ο) (hn : subs.Numbered) (l : Listener ο) :
    Advances items subs (l.settleIn items subs).1 [l] [(l.settleIn items subs).2] := by
  unfold settleIn
  cases hs : subs.find? l.ticket with
  | none => exact .refl
  | some s =>
    have hl : [l].find? (·.ticket == l.ticket) = some l := by simp
    have hadv := advances_replace hn hs hl (works_settle (items s.topic) s l)
    simpa [Server.modifyIn] using hadv

/-- Listeners with tickets of their own run until they are idle, one after the other. -/
theorem advances_settleAll (items : τ → ε → List ο) (ls : List (Listener ο)) :
    ∀ {subs : Subscriptions τ ε}, subs.Numbered → (ls.map (·.ticket)).Nodup →
      Advances items subs (Server.settleAll items subs ls).1 ls
        (Server.settleAll items subs ls).2 := by
  induction ls with
  | nil => exact fun _ _ => .refl
  | cons l ls ih =>
    intro subs hn hnodup
    rw [List.map_cons, List.nodup_cons] at hnodup
    have hone := advances_settleIn items hn l
    have hticket : (l.settleIn items subs).2.ticket = l.ticket := (List.cons.inj hone.tickets).1
    have hrest := ih (hone.retains.numbered hn) hnodup.2
    rw [Server.settleAll]
    dsimp only
    refine ⟨hone.retains.trans hrest.retains, ?_, fun t ht => ?_, fun hfeeds => ?_⟩
    · rw [List.map_cons, hrest.tickets, hticket, List.map_cons]
    · rw [List.map_cons, List.mem_cons, not_or] at ht
      rw [hrest.others t ht.2, hone.others t (by simpa using ht.1)]
    · -- Tickets differ, so the first listener and the others do not meet on a subscription.
      have hother : ∀ t ∈ ls.map (·.ticket), (l.settleIn items subs).1.find? t = subs.find? t := by
        intro t ht
        refine hone.others t fun hmem => hnodup.1 ?_
        rw [List.map_cons, List.map_nil, List.mem_singleton] at hmem
        exact hmem ▸ ht
      have hhead := hone.feeds fun l' hl' => hfeeds l' (List.mem_cons.mpr (.inl (by simpa using hl')))
      have htail := hrest.feeds
        (Feeds.congr (fun l' hl' => hfeeds l' (List.mem_cons_of_mem l hl')) hother)
      intro l' hl'
      rcases List.mem_cons.mp hl' with rfl | hl'
      · have hkept : Feeds items (Server.settleAll items (l.settleIn items subs).1 ls).1
            [(l.settleIn items subs).2] :=
          hhead.congr fun t ht => hrest.others t fun hmem => hnodup.1 (by
            rw [List.map_cons, List.map_nil, List.mem_singleton, hticket] at ht
            exact ht ▸ hmem)
        exact hkept _ (List.mem_singleton.mpr rfl)
      · exact htail l' hl'

end Listener

end MeshDestination.Discovery
