import MeshDestination.Proofs.Handles

/-!
# Topics in registries

Topics keep a state with the number of the next subscription, or none, and know their subscriptions
by tickets. Registries count the numbers themselves, and come and go. Registries host topics if they
have the same subscriptions, and if each registry that is not dropped counts the numbers of a kept
state (`Registries.Hosts`). Where topics move, are subscribed to or acted on, registries that host
them can go on so that they still do (`Topics.Moves.hosted`, `Topics.Subscribes.hosted`,
`Registries.Hosts.modify`).
-/

namespace MeshDestination

namespace Subscription

variable {τ τ' ε : Type}

/-- A subscription with its topic under another name. -/
def rename (f : τ → τ') (s : Subscription τ ε) : Subscription τ' ε :=
  s.relabel (f s.topic) s.number s.ticket

theorem rename_offer (f : τ → τ') (s : Subscription τ ε) (e : ε) :
    (s.rename f).offer e = (s.offer e).rename f := by
  rw [rename, rename, offer_relabel, topic_offer, ticket_offer,
    show (s.offer e).number = s.number from number_foldl_offer [e] s]

theorem rename_foldl_offer (f : τ → τ') (es : List ε) :
    ∀ s : Subscription τ ε, es.foldl offer (s.rename f) = (es.foldl offer s).rename f := by
  induction es with
  | nil => exact fun _ => rfl
  | cons e es ih =>
    intro s
    rw [List.foldl_cons, List.foldl_cons, rename_offer, ih]

theorem rename_perform (f : τ → τ') (s : Subscription τ ε) (a : Action) :
    (s.rename f).perform a = (s.perform a).rename f := by
  have hperform : (s.rename f).perform a = (s.perform a).relabel (f s.topic) s.number s.ticket := by
    cases a with
    | unsubscribe => exact unsubscribe_relabel ..
    | stop => rfl
    | receive => exact receive_relabel ..
  rw [hperform, rename, (retains_perform s a).topic, (retains_perform s a).ticket, number_perform]

end Subscription

namespace Subscriptions

variable {τ τ' ε : Type} {s : Subscriptions τ ε}

/-- Subscriptions with their topics under other names. -/
def rename (f : τ → τ') (s : Subscriptions τ ε) : Subscriptions τ' ε where
  entries := s.entries.map (·.rename f)
  nextTicket := s.nextTicket

theorem rename_congr {f g : τ → τ'} (h : ∀ sub ∈ s.entries, f sub.topic = g sub.topic) :
    s.rename f = s.rename g := by
  refine congrArg (Subscriptions.mk · _) (List.map_congr_left fun sub hsub => ?_)
  rw [Subscription.rename, Subscription.rename, h sub hsub]

theorem rename_subscribe (f : τ → τ') (s : Subscriptions τ ε) (topic : τ) (number capacity : Nat)
    (initial : List ε) :
    (s.subscribe topic number capacity initial).rename f =
      (s.rename f).subscribe (f topic) number capacity initial :=
  congrArg (Subscriptions.mk · _) List.map_append

theorem rename_modify (f : τ → τ') (s : Subscriptions τ ε) (t : Nat) (a : Subscription.Action) :
    (s.modify t (·.perform a)).rename f = (s.rename f).modify t (·.perform a) := by
  refine congrArg (Subscriptions.mk · _) ?_
  rw [modify, rename, List.map_map, List.map_map]
  refine List.map_congr_left fun sub _ => ?_
  exact (apply_ite (Subscription.rename f) _ _ _).trans
    (congrArg (ite _ · _) (Subscription.rename_perform f sub a).symm)

theorem rename_publish (f : τ → τ') (s : Subscriptions τ ε) (events : τ' → List ε) :
    (s.publish fun topic => events (f topic)).rename f = (s.rename f).publish events := by
  refine congrArg (Subscriptions.mk · _) ?_
  rw [publish, rename, List.map_map, List.map_map]
  exact List.map_congr_left fun sub _ => (Subscription.rename_foldl_offer f _ sub).symm

theorem publish_congr {events events' : τ → List ε}
    (h : ∀ sub ∈ s.entries, events sub.topic = events' sub.topic) :
    s.publish events = s.publish events' := by
  refine congrArg (Subscriptions.mk · _) (List.map_congr_left fun sub hsub => ?_)
  rw [h sub hsub]

theorem publish_publish (s : Subscriptions τ ε) (events more : τ → List ε) :
    (s.publish events).publish more = s.publish fun topic => events topic ++ more topic := by
  refine congrArg (Subscriptions.mk · _) ?_
  rw [publish, List.map_map]
  refine List.map_congr_left fun sub _ => ?_
  rw [Function.comp_apply, Subscription.topic_foldl_offer, List.foldl_append]

theorem watches_of_watches_publish [DecidableEq τ] {events : τ → List ε} {topic : τ}
    (h : (s.publish events).watches topic = true) : s.watches topic = true := by
  obtain ⟨sub', hsub', hreg, rfl⟩ := mem_of_watches h
  obtain ⟨sub, hsub, rfl⟩ := mem_publish hsub'
  rw [Subscription.topic_foldl_offer]
  exact watches_of_mem hsub (Subscription.log_foldl_offer _ sub hreg).1

end Subscriptions

namespace Registries

variable {τ ε : Type} {s : Registries ε}

/-! ## Several operations -/

theorem terms?_of_le {r : Nat} (hr : s.registries.length ≤ r) : s.terms? r = none := by
  rw [terms?, registryAt?, List.getElem?_eq_none hr]
  rfl

theorem subs_run_notify (h : s.Sound) (r : Nat) (es : List ε) :
    (s.run (es.map (.notify r))).subs =
      s.subs.publish fun topic => if topic = r then es else [] := by
  induction es generalizing s with
  | nil => simp only [ite_self, Subscriptions.publish_nil, List.map_nil]; rfl
  | cons e es ih =>
    refine (ih (h.perform (.notify r e))).trans ?_
    rw [subs_notify h, Subscriptions.publish_publish]
    refine Subscriptions.publish_congr fun sub _ => ?_
    split <;> rfl

theorem terms?_run_notify (r : Nat) (es : List ε) (r' : Nat) :
    (s.run (es.map (.notify r))).terms? r' = s.terms? r' := by
  induction es generalizing s with
  | nil => rfl
  | cons e es ih => exact ih.trans (terms?_notify s r e r')

/-- All registries may be notified of events at once. -/
theorem exists_run_publish (h : s.Sound) (events : Nat → List ε) :
    ∃ ops, (s.run ops).subs = s.subs.publish events ∧ ∀ r, (s.run ops).terms? r = s.terms? r := by
  have hupTo (n : Nat) : ∃ ops,
      (s.run ops).subs = s.subs.publish (fun r => if r < n then events r else []) ∧
      ∀ r, (s.run ops).terms? r = s.terms? r := by
    induction n with
    | zero => exact ⟨[], (Subscriptions.publish_nil _).symm, fun _ => rfl⟩
    | succ n ih =>
      obtain ⟨ops, hsubs, hterms⟩ := ih
      refine ⟨ops ++ (events n).map (.notify n), ?_, fun r => ?_⟩
      · rw [run_append, subs_run_notify (h.run ops), hsubs, Subscriptions.publish_publish]
        refine Subscriptions.publish_congr fun sub _ => ?_
        -- A subscription is told of events when its own registry is notified.
        rcases Nat.lt_trichotomy sub.topic n with hlt | heq | hgt
        · rw [if_pos hlt, if_neg hlt.ne, if_pos (Nat.lt_succ_of_lt hlt), List.append_nil]
        · rw [if_neg heq.not_lt, if_pos heq, if_pos (heq ▸ Nat.lt_succ_self n), heq,
            List.nil_append]
        · rw [if_neg (Nat.lt_asymm hgt), if_neg hgt.ne', if_neg (Nat.not_lt.mpr hgt),
            List.append_nil]
      · rw [run_append, terms?_run_notify, hterms]
  obtain ⟨ops, hsubs, hterms⟩ := hupTo s.registries.length
  refine ⟨ops, hsubs.trans (Subscriptions.publish_congr fun sub hsub => ?_), hterms⟩
  rw [if_pos (h.place sub hsub)]

theorem terms?_drop (h : s.Sound) {r : Nat}
    (hr : ∀ sub ∈ s.subs.entries, sub.topic = r → ¬sub.isRegistered = true) (r' : Nat) :
    (s.perform (.drop r)).terms? r' = if r = r' then none else s.terms? r' := by
  cases hregistry : s.registryAt? r with
  | none =>
    have hnone : s.terms? r = none := Option.map_eq_none_iff.mpr hregistry
    have hsame : s.perform (.drop r) = s := by rw [perform, hregistry]
    rw [hsame]
    split
    · next heq => rw [← heq, hnone]
    · rfl
  | some registry =>
    have hempty : registry.entries.isEmpty = true := by
      rw [Std.TreeMap.isEmpty_iff_forall_not_mem]
      intro n hn
      rw [Std.TreeMap.mem_iff_isSome_getElem?] at hn
      obtain ⟨t, ht⟩ := Option.isSome_iff_exists.mp hn
      rw [← ticketAt?_of_registryAt? (h := ⟨r, n⟩) hregistry] at ht
      obtain ⟨sub, hsub, hhandle, hreg⟩ := (h.entry _ t).mp ht
      exact hr sub (Subscriptions.mem_of_find? hsub) (congrArg Handle.registry hhandle) hreg
    rw [perform_drop hregistry, if_pos hempty, terms?_setRegistry hregistry]
    rfl

/-- Registries to which no subscription is registered may be dropped, several at once. -/
theorem exists_run_drop (h : s.Sound) (stale : Nat → Prop) [DecidablePred stale]
    (hstale : ∀ sub ∈ s.subs.entries, stale sub.topic → ¬sub.isRegistered = true) :
    ∃ ops, (s.run ops).subs = s.subs ∧
      ∀ r, (s.run ops).terms? r = if stale r then none else s.terms? r := by
  have hupTo (n : Nat) : ∃ ops, (s.run ops).subs = s.subs ∧
      ∀ r, (s.run ops).terms? r = if r < n ∧ stale r then none else s.terms? r := by
    induction n with
    | zero => exact ⟨[], rfl, fun r => (if_neg fun h => absurd h.1 r.not_lt_zero).symm⟩
    | succ n ih =>
      obtain ⟨ops, hsubs, hterms⟩ := ih
      by_cases hn : stale n
      · refine ⟨ops ++ [.drop n], ?_, fun r => ?_⟩
        · rw [run_append]
          exact (subs_drop _ n).trans hsubs
        · have hgone : ∀ sub ∈ (s.run ops).subs.entries, sub.topic = n →
              ¬sub.isRegistered = true := by
            rw [hsubs]
            rintro sub hsub rfl
            exact hstale sub hsub hn
          rw [run_append]
          refine (terms?_drop (h.run ops) hgone r).trans ?_
          rw [hterms]
          grind
      · refine ⟨ops, hsubs, fun r => ?_⟩
        rw [hterms]
        grind
  obtain ⟨ops, hsubs, hterms⟩ := hupTo s.registries.length
  refine ⟨ops, hsubs, fun r => ?_⟩
  rw [hterms]
  by_cases hr : r < s.registries.length
  · simp only [hr, true_and]
  · rw [if_neg fun h => hr h.1, terms?_of_le (Nat.not_lt.mp hr), ite_self]

/-! ## Hosts -/

variable {of : Nat → τ} {capacity : Nat} {subs subs' : Subscriptions τ ε}
  {number? number?' : τ → Option Nat}

/-- Registries of one capacity have the given subscriptions, where `of` tells the topics of the
registries. Each registry counts the numbers of its topic, as `number?` has them; a topic that
counts from zero may still be without one. -/
structure Hosts (of : Nat → τ) (capacity : Nat) (subs : Subscriptions τ ε)
    (number? : τ → Option Nat) (s : Registries ε) : Prop where
  sound : s.Sound
  subs : subs = s.subs.rename of
  counts : ∀ r c n, s.terms? r = some (c, n) → c = capacity ∧ number? (of r) = some n
  counted : ∀ topic n, number? topic = some n →
    n = 0 ∨ ∃ r, (s.terms? r).isSome = true ∧ of r = topic
  once : ∀ r r', (s.terms? r).isSome = true → (s.terms? r').isSome = true → of r = of r' → r = r'

/-- The registries can go on so that they host the subscriptions. -/
def Hosted (s : Registries ε) (capacity : Nat) (subs : Subscriptions τ ε)
    (number? : τ → Option Nat) : Prop :=
  ∃ ops of, (s.run ops).Hosts of capacity subs number?

theorem hosts_empty (of : Nat → τ) (capacity : Nat) :
    ({} : Registries ε).Hosts of capacity ({} : Subscriptions τ ε) fun _ => none := by
  have hnone (r : Nat) : ({} : Registries ε).terms? r = none := terms?_of_le (Nat.zero_le r)
  refine ⟨sound_empty, rfl, fun r c n hr => ?_, fun _ _ hn => ?_, fun r r' hr => ?_⟩
  · cases (hnone r).symm.trans hr
  · cases hn
  · cases hr.symm.trans (congrArg Option.isSome (hnone r))

theorem Hosts.hosted (h : s.Hosts of capacity subs number?) : s.Hosted capacity subs number? :=
  ⟨[], of, h⟩

theorem Hosted.andThen (h : s.Hosted capacity subs number?)
    (step : ∀ {s : Registries ε} {of : Nat → τ}, s.Hosts of capacity subs number? →
      s.Hosted capacity subs' number?') : s.Hosted capacity subs' number?' := by
  obtain ⟨ops, of, h⟩ := h
  obtain ⟨more, of', h'⟩ := step h
  exact ⟨ops ++ more, of', by rwa [run_append]⟩

/-- Operations that leave the registries as they are change subscriptions only. -/
theorem Hosts.run (h : s.Hosts of capacity subs number?) (ops : List (Operation ε))
    (hsubs : subs' = (s.run ops).subs.rename of)
    (hterms : ∀ r, (s.run ops).terms? r = s.terms? r) : s.Hosted capacity subs' number? := by
  refine ⟨ops, of, h.sound.run ops, hsubs, ?_, ?_, ?_⟩
  all_goals simp only [hterms]
  · exact h.counts
  · exact h.counted
  · exact h.once

theorem Hosts.publish (h : s.Hosts of capacity subs number?) (events : τ → List ε) :
    s.Hosted capacity (subs.publish events) number? := by
  obtain ⟨ops, hsubs, hterms⟩ := exists_run_publish h.sound fun r => events (of r)
  refine h.run ops ?_ hterms
  rw [hsubs, Subscriptions.rename_publish, ← h.subs]

theorem terms?_close (s : Registries ε) (t r : Nat) :
    (s.perform (.close t)).terms? r = s.terms? r := by
  rw [perform]
  split
  · exact terms?_remove s _ r
  · rfl

/-- A subscriber acts through the handle, a listener by the ticket. -/
theorem Hosts.modify (h : s.Hosts of capacity subs number?) (t : Nat) (a : Subscription.Action) :
    s.Hosted capacity (subs.modify t (·.perform a)) number? := by
  have hsubs : subs.modify t (·.perform a) = (s.subs.modify t (·.perform a)).rename of := by
    rw [h.subs, Subscriptions.rename_modify]
  cases a with
  | stop =>
    refine h.run [.close t] (hsubs.trans ?_) (terms?_close s t)
    exact congrArg (Subscriptions.rename of) (subs_close s t).symm
  | receive => exact h.run [.receive t] hsubs fun _ => rfl
  | unsubscribe =>
    cases hfind : s.subs.find? t with
    | none =>
      refine h.run [] (hsubs.trans ?_) fun _ => rfl
      rw [Subscriptions.modify_of_none hfind]
      rfl
    | some sub =>
      obtain rfl := Subscriptions.ticket_of_find? hfind
      have hsub := Subscriptions.mem_of_find? hfind
      refine h.run [.unsubscribe sub.handle] (hsubs.trans ?_) fun r => ?_
      · exact congrArg (Subscriptions.rename of) (subs_unsubscribe h.sound hsub).symm
      · change (s.perform (.unsubscribe sub.handle)).terms? r = s.terms? r
        rw [perform_unsubscribe h.sound hsub]
        split
        · exact terms?_close s _ r
        · rfl

/-- A topic that counts from zero and is without a registry gets one. -/
theorem Hosts.open (h : s.Hosts of capacity subs number?) {topic : τ} {n : Nat}
    (hn : number? topic = some n) :
    ∃ ops of', (s.run ops).Hosts of' capacity subs number? ∧
      ∃ r, of' r = topic ∧ (s.run ops).terms? r = some (capacity, n) := by
  by_cases hlive : ∃ r, (s.terms? r).isSome = true ∧ of r = topic
  · obtain ⟨r, hr, rfl⟩ := hlive
    obtain ⟨⟨c, n'⟩, hr⟩ := Option.isSome_iff_exists.mp hr
    obtain ⟨rfl, hn'⟩ := h.counts r c n' hr
    cases hn'.symm.trans hn
    exact ⟨[], of, h, r, rfl, hr⟩
  · obtain rfl := (h.counted topic n hn).resolve_right hlive
    have hterms (r : Nat) : (s.run [.create capacity]).terms? r =
        if r = s.registries.length then some (capacity, 0) else s.terms? r :=
      terms?_create s capacity r
    have hnew := Function.update_self s.registries.length topic of
    have hold {r : Nat} (hr : r ≠ s.registries.length) :
        Function.update of s.registries.length topic r = of r := Function.update_of_ne hr topic of
    have hne {r : Nat} (hr : (s.terms? r).isSome = true) : r ≠ s.registries.length := by
      rintro rfl
      rw [terms?_of_le le_rfl] at hr
      cases hr
    refine ⟨[.create capacity], Function.update of s.registries.length topic, ?_,
      s.registries.length, hnew, (hterms _).trans (if_pos rfl)⟩
    constructor
    case sound => exact sound_create h.sound capacity
    case subs =>
      rw [h.subs]
      exact Subscriptions.rename_congr fun sub hsub => (hold (h.sound.place sub hsub).ne).symm
    case counts =>
      intro r c n hr
      rw [hterms] at hr
      split at hr
      · next hsame =>
        cases hr
        rw [hsame, hnew]
        exact ⟨rfl, hn⟩
      · next hother =>
        rw [hold hother]
        exact h.counts r c n hr
    case counted =>
      intro topic' n hn'
      refine (h.counted topic' n hn').imp_right ?_
      rintro ⟨r, hr, rfl⟩
      refine ⟨r, ?_, hold (hne hr)⟩
      rwa [hterms, if_neg (hne hr)]
    case once =>
      intro r r' hr hr' hsame
      rw [hterms] at hr hr'
      -- The new registry is the only one of its topic.
      split at hr <;> split at hr'
      · next heq heq' => rw [heq, heq']
      · next heq hother' =>
        rw [heq, hnew, hold hother'] at hsame
        exact absurd ⟨r', hr', hsame.symm⟩ hlive
      · next hother heq' =>
        rw [heq', hnew, hold hother] at hsame
        exact absurd ⟨r, hr, hsame⟩ hlive
      · next hother hother' =>
        rw [hold hother, hold hother'] at hsame
        exact h.once r r' hr hr' hsame

variable [DecidableEq τ]

/-- States of topics without listeners may be dropped, and made anew, with their registries. -/
theorem Hosts.recount (h : s.Hosts of capacity subs number?)
    (hnew : ∀ topic n, number?' topic = some n → n = 0 ∨ number? topic = some n)
    (hkept : ∀ topic, subs.watches topic = true → number?' topic = number? topic) :
    s.Hosted capacity subs number?' := by
  have hstale (sub : Subscription Nat ε) (hsub : sub ∈ s.subs.entries)
      (hne : number?' (of sub.topic) ≠ number? (of sub.topic)) : ¬sub.isRegistered = true := by
    refine fun hreg => hne (hkept _ ?_)
    have hmem : sub.rename of ∈ subs.entries := by
      rw [h.subs]
      exact List.mem_map_of_mem hsub
    exact Subscriptions.watches_of_mem hmem hreg
  -- The registries are dropped whose topics have another number now, or none.
  obtain ⟨ops, hsubs, hterms⟩ := exists_run_drop h.sound
    (fun r => number?' (of r) ≠ number? (of r)) hstale
  have hisSome {r : Nat} (hr : ((s.run ops).terms? r).isSome = true) :
      (s.terms? r).isSome = true := by
    rw [hterms] at hr
    split at hr
    · cases hr
    · exact hr
  refine ⟨ops, of, ?_⟩
  constructor
  case sound => exact h.sound.run ops
  case subs => rw [h.subs, hsubs]
  case counts =>
    intro r c n hr
    rw [hterms] at hr
    split at hr
    · cases hr
    · next hsame =>
      rw [not_not.mp hsame]
      exact h.counts r c n hr
  case counted =>
    intro topic n hn
    refine or_iff_not_imp_left.mpr fun hzero => ?_
    have hold := (hnew topic n hn).resolve_left hzero
    obtain ⟨r, hr, rfl⟩ := (h.counted topic n hold).resolve_left hzero
    refine ⟨r, ?_, rfl⟩
    rwa [hterms, if_neg (not_not.mpr (hn.trans hold.symm))]
  case once => exact fun r r' hr hr' => h.once r r' (hisSome hr) (hisSome hr')

theorem Hosts.subscribe (h : s.Hosts of capacity subs number?) {topic : τ} {n : Nat}
    (hn : number? topic = some n) (initial : List ε) :
    s.Hosted capacity (subs.subscribe topic n capacity initial)
      (Function.update number? topic (some (n + 1))) := by
  obtain ⟨ops, of, h, r, rfl, hr⟩ := h.open hn
  refine ⟨ops ++ [.subscribe r initial], of, ?_⟩
  rw [run_append]
  generalize s.run ops = opened at h hr ⊢
  change (opened.perform (.subscribe r initial)).Hosts of capacity _ _
  have hlive : (opened.terms? r).isSome = true := Option.isSome_of_eq_some hr
  have hisSome (r' : Nat) : ((opened.perform (.subscribe r initial)).terms? r').isSome =
      (opened.terms? r').isSome := by
    rw [terms?_subscribe hr]
    split
    · next heq => rw [← heq, hlive, Option.isSome_some]
    · rfl
  constructor
  case sound => exact sound_subscribe h.sound r initial
  case subs => rw [h.subs, ← Subscriptions.rename_subscribe, subs_subscribe hr]
  case counts =>
    intro r' c n' hr'
    rw [terms?_subscribe hr] at hr'
    split at hr'
    · next heq =>
      cases hr'
      rw [← heq, Function.update_self]
      exact ⟨rfl, rfl⟩
    · next hother =>
      have htopic : of r' ≠ of r := fun hsame =>
        hother (h.once r r' hlive (Option.isSome_of_eq_some hr') hsame.symm)
      rw [Function.update_of_ne htopic]
      exact h.counts r' c n' hr'
  case counted =>
    intro topic n' hn'
    by_cases htopic : topic = of r
    · exact .inr ⟨r, (hisSome r).trans hlive, htopic.symm⟩
    · rw [Function.update_of_ne htopic] at hn'
      refine (h.counted topic n' hn').imp_right ?_
      rintro ⟨r', hr', rfl⟩
      exact ⟨r', (hisSome r').trans hr', rfl⟩
  case once =>
    intro r' r'' hr' hr''
    rw [hisSome] at hr' hr''
    exact h.once r' r'' hr' hr''

end Registries

/-! ## Steps of topics -/

namespace Topics

open TopicState

variable {τ ε σ : Type} [TopicState σ ε] {before mid after : Topics τ ε σ}

/-- The number of the next subscription to a topic whose state is kept. -/
def number? (t : Topics τ ε σ) (topic : τ) : Option Nat := (t.kept? topic).map next

theorem number?_eq_some {t : Topics τ ε σ} {topic : τ} {n : Nat} :
    t.number? topic = some n ↔ ∃ s, t.kept? topic = some s ∧ next s = n := Option.map_eq_some_iff

/-- A state has the number that its topic had before, or is new and numbers from zero. -/
def Numbers (before after : Topics τ ε σ) : Prop :=
  ∀ topic n, after.number? topic = some n → n = 0 ∨ before.number? topic = some n

theorem Numbers.trans (h : Numbers before mid) (h' : Numbers mid after) : Numbers before after :=
  fun topic n hn => (h' topic n hn).elim .inl fun hmid => h topic n hmid

variable {s : Registries ε} {of : Nat → τ} {capacity : Nat}

variable [DecidableEq τ]

theorem Moves.hosted {events : τ → List ε} (hm : Moves before after events) (hheld : before.Held)
    (hn : Numbers before after) (h : s.Hosts of capacity before.subs before.number?) :
    s.Hosted capacity after.subs after.number? := by
  have hpublished := h.publish events
  rw [← hm.subs] at hpublished
  -- What is listened to once the events are told was listened to before, and kept its state.
  refine hpublished.andThen fun h => h.recount hn fun topic hw' => ?_
  have hw : before.subs.watches topic = true := by
    rw [hm.subs] at hw'
    exact Subscriptions.watches_of_watches_publish hw'
  obtain ⟨sub, hsub, hreg, rfl⟩ := Subscriptions.mem_of_watches hw
  obtain ⟨old, hold, -⟩ := hheld.kept sub hsub hreg
  obtain ⟨new, hnew, hnext⟩ := hm.kept hw hw' hold
  rw [number?, number?, hold, hnew, Option.map_some, Option.map_some, hnext]

/-- States without listeners may be dropped before the state of the topic is opened. -/
theorem Subscribes.hosted {topic : τ} {opened : σ}
    (hs : Subscribes before after topic capacity opened) (hheld : before.Held)
    (hopened : next opened = 0 ∨ before.number? topic = some (next opened))
    (hothers : ∀ other n, other ≠ topic → after.number? other = some n →
      n = 0 ∨ before.number? other = some n)
    (h : s.Hosts of capacity before.subs before.number?) :
    s.Hosted capacity after.subs after.number? := by
  -- The numbers of `after` but for that of the new subscription.
  have hrecounted : s.Hosted capacity before.subs
      (Function.update after.number? topic (some (next opened))) := by
    refine h.recount (fun other n hnumber => ?_) fun other hw => ?_
    · by_cases hother : other = topic
      · rw [hother, Function.update_self] at hnumber
        cases hnumber
        exact hother ▸ hopened
      · rw [Function.update_of_ne hother] at hnumber
        exact hothers other n hother hnumber
    · obtain ⟨sub, hsub, hreg, rfl⟩ := Subscriptions.mem_of_watches hw
      obtain ⟨old, hold, -⟩ := hheld.kept sub hsub hreg
      by_cases hother : sub.topic = topic
      · rw [hother, Function.update_self, hs.joins (hother ▸ hw) (hother ▸ hold), ← hother, number?,
          hold, Option.map_some]
      · rw [Function.update_of_ne hother, number?, number?, hold, hs.kept (Ne.symm hother) hw hold]
  have hsubscribed := hrecounted.andThen fun h =>
    h.subscribe (Function.update_self ..) (initial opened)
  obtain ⟨new, hnew, -, hnext⟩ := hs.new
  have hafter : after.number? topic = some (next opened + 1) :=
    number?_eq_some.mpr ⟨new, hnew, hnext⟩
  rwa [Function.update_idem, ← hafter, Function.update_eq_self, ← hs.subs] at hsubscribed

end Topics

end MeshDestination
