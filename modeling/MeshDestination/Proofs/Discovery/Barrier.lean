import MeshDestination.Discovery.Watch

/-!
# Waiting for watches

A barrier is polled while its watches bring events and end. At any time each watch that it still
waits for is as far as the watch's own history says (`progress`), and each that it no longer waits
for has completed its first listing (`Run.Sound`). So the barrier opens just when every watch has
completed its listing before it ended, fails only for a watch that ended before, and is blind to
what a watch does later (`wait_exact`).
-/

namespace MeshDestination.Discovery.Barrier

variable {κ : Type}

/-! ## Histories -/

/-- What happens to a barrier and its watches. -/
inductive Step (κ : Type) where
  /-- A watch brings an event. -/
  | event (k : κ) (e : WatchEvent)
  | ends (k : κ)
  /-- The barrier is asked how far it is. -/
  | poll

/-- An event with the watch that brings it. -/
def Step.event? : Step κ → Option (κ × WatchEvent)
  | .event k e => some (k, e)
  | _ => none

/-- Whether a step is one of a watch: an event of it or its end. -/
def Step.IsOf (k : κ) : Step κ → Prop
  | .event k' _ => k' = k
  | .ends k' => k' = k
  | .poll => False

/-- The one occurs, and the other not before it. -/
def Precedes (a b : Step κ) (steps : List (Step κ)) : Prop :=
  ∃ before after, steps = before ++ a :: after ∧ b ∉ before

/-- A watch completes its first listing before it ends. -/
def Delivers (k : κ) (steps : List (Step κ)) : Prop :=
  Precedes (.event k .initDone) (.ends k) steps

/-- A watch ends before it completes its first listing. -/
def EndsEarly (k : κ) (steps : List (Step κ)) : Prop :=
  Precedes (.ends k) (.event k .initDone) steps

theorem not_precedes_nil (a b : Step κ) : ¬ Precedes a b [] := by
  rintro ⟨before, after, h, -⟩
  simp at h

theorem precedes_cons {a b s : Step κ} {steps : List (Step κ)} :
    Precedes a b (s :: steps) ↔ s = a ∨ s ≠ b ∧ Precedes a b steps := by
  constructor
  · rintro ⟨before, after, h, hb⟩
    cases before with
    | nil => exact .inl (List.cons.inj h).1
    | cons s' before =>
      obtain ⟨rfl, rfl⟩ := List.cons.inj h
      obtain ⟨hne, hb⟩ := List.ne_and_not_mem_of_not_mem_cons hb
      exact .inr ⟨hne.symm, before, after, rfl, hb⟩
  · rintro (rfl | ⟨hne, before, after, rfl, hb⟩)
    · exact ⟨[], steps, rfl, nofun⟩
    · exact ⟨s :: before, after, rfl, List.not_mem_cons_of_ne_of_not_mem hne.symm hb⟩

section Progress

variable [DecidableEq κ]

/-- How a step moves a watch. -/
def Step.advance (k : κ) (p : Priming) : Step κ → Priming
  | .event k' .initDone => if k = k' then p.complete else p
  | .ends k' => if k = k' then p.abandon else p
  | _ => p

/-- How far a watch is after some steps. -/
def progress (k : κ) (steps : List (Step κ)) : Priming :=
  steps.foldl (Step.advance k) .pending

theorem progress_concat (k : κ) (steps : List (Step κ)) (s : Step κ) :
    progress k (steps ++ [s]) = s.advance k (progress k steps) := by
  rw [progress, List.foldl_append]
  rfl

/-- A watch that is complete stays so, and so does one that is lost. -/
theorem advance_of_ne_pending {p : Priming} (hp : p ≠ .pending) (k : κ) (s : Step κ) :
    s.advance k p = p := by
  unfold Step.advance
  split
  · cases p <;> simp [Priming.complete] at hp ⊢
  · cases p <;> simp [Priming.abandon] at hp ⊢
  · rfl

theorem foldl_advance_of_ne_pending {p : Priming} (hp : p ≠ .pending) (k : κ)
    (steps : List (Step κ)) : steps.foldl (Step.advance k) p = p := by
  induction steps with
  | nil => rfl
  | cons s steps ih => rw [List.foldl_cons, advance_of_ne_pending hp, ih]

/-- What one watch does moves no other. -/
theorem advance_of_isOf {k k' : κ} {s : Step κ} (hs : s.IsOf k) (hk : k' ≠ k) (p : Priming) :
    s.advance k' p = p := by
  cases s with
  | poll => rfl
  | ends k => exact if_neg fun h => hk (h.trans hs)
  | event k e =>
    cases e with
    | initDone => exact if_neg fun h => hk (h.trans hs)
    | _ => rfl

/-- Only two steps move a watch that is pending. -/
theorem advance_pending (k : κ) (s : Step κ) :
    s = .event k .initDone ∧ s.advance k .pending = .done ∨
      s = .ends k ∧ s.advance k .pending = .lost ∨
      (s ≠ .event k .initDone ∧ s ≠ .ends k) ∧ s.advance k .pending = .pending := by
  cases s with
  | poll => simp [Step.advance]
  | ends k' =>
    by_cases hk : k = k'
    · subst hk
      simp [Step.advance, Priming.abandon]
    · simp [Step.advance, hk, Ne.symm hk]
  | event k' e =>
    by_cases hk : k = k'
    · subst hk
      cases e <;> simp [Step.advance, Priming.complete]
    · cases e <;> simp [Step.advance, hk, Ne.symm hk]

/-- The first of the two steps decides what becomes of a watch. -/
theorem foldl_advance_pending (k : κ) (steps : List (Step κ)) :
    (steps.foldl (Step.advance k) .pending = .done ↔ Delivers k steps) ∧
      (steps.foldl (Step.advance k) .pending = .lost ↔ EndsEarly k steps) := by
  induction steps with
  | nil => simp [Delivers, EndsEarly, not_precedes_nil]
  | cons s steps ih =>
    rw [List.foldl_cons, Delivers, EndsEarly, precedes_cons, precedes_cons]
    rcases advance_pending k s with ⟨rfl, hs⟩ | ⟨rfl, hs⟩ | ⟨⟨hdone, hends⟩, hs⟩
    · simp [hs, foldl_advance_of_ne_pending]
    · simp [hs, foldl_advance_of_ne_pending]
    · simp only [hs, hdone, hends, ne_eq, not_false_eq_true, true_and, false_or]
      exact ih

theorem progress_eq_done_iff {k : κ} {steps : List (Step κ)} :
    progress k steps = .done ↔ Delivers k steps :=
  (foldl_advance_pending k steps).1

theorem progress_eq_lost_iff {k : κ} {steps : List (Step κ)} :
    progress k steps = .lost ↔ EndsEarly k steps :=
  (foldl_advance_pending k steps).2

/-! ## Operations -/

/-- A barrier whose watches have made a step. -/
def moved (b : Barrier κ) (s : Step κ) : Barrier κ :=
  ⟨b.waiting.map fun w => (w.1, s.advance w.1 w.2)⟩

/-- An event is passed on as it is. -/
theorem pass_eq (b : Barrier κ) (k : κ) (e : WatchEvent) :
    b.pass k e = (b.moved (.event k e), e) := by
  cases e with
  | initDone => rfl
  | _ => simp [pass, moved, Step.advance]

theorem endWatch_eq (b : Barrier κ) (k : κ) : b.endWatch k = b.moved (.ends k) := rfl

theorem map_fst_moved (b : Barrier κ) (s : Step κ) :
    (b.moved s).waiting.map (·.1) = b.waiting.map (·.1) :=
  List.map_map

end Progress

theorem waiting_foldl_register (ks : List κ) (b : Barrier κ) :
    (ks.foldl register b).waiting = b.waiting ++ ks.map (·, .pending) := by
  induction ks generalizing b with
  | nil => exact (List.append_nil _).symm
  | cons k ks ih =>
    rw [List.foldl_cons, ih, register, List.append_assoc]
    rfl

theorem waiting_ofWatches (ks : List κ) : (ofWatches ks).waiting = ks.map (·, .pending) :=
  waiting_foldl_register ks {}

/-- Watches that are complete are no longer waited for. An answer is there once none is left or the
first of the others is lost. -/
theorem await_spec (l : List (κ × Priming)) :
    ∃ waited, (∀ w ∈ waited, w.2 = .done) ∧ l = waited ++ (await l).1.waiting ∧
      ((await l).2 = some true → (await l).1.waiting = []) ∧
      ((await l).2 = some false → ∃ w ∈ (await l).1.waiting, w.2 = .lost) := by
  induction l using await.induct with
  | case1 => exact ⟨[], nofun, rfl, fun _ => rfl, nofun⟩
  | case2 k r ih =>
    obtain ⟨waited, hdone, hl, htrue, hfalse⟩ := ih
    refine ⟨(k, .done) :: waited, ?_, congrArg ((k, Priming.done) :: ·) hl, htrue, hfalse⟩
    exact List.forall_mem_cons.mpr ⟨rfl, hdone⟩
  | case3 k r => exact ⟨[], nofun, rfl, nofun, fun _ => ⟨(k, .lost), .head _, rfl⟩⟩
  | case4 k r => exact ⟨[], nofun, rfl, nofun, nofun⟩

theorem await_of_done {l : List (κ × Priming)} (h : ∀ w ∈ l, w.2 = .done) :
    await l = ({}, some true) := by
  induction l with
  | nil => rfl
  | cons w l ih =>
    obtain ⟨k, p⟩ := w
    obtain ⟨hp, hl⟩ := List.forall_mem_cons.mp h
    cases hp
    exact ih hl

/-! ## Runs -/

variable [DecidableEq κ]

/-- A barrier with what has come of it: its answer, and what the watches brought to those who read
them. -/
structure Run (κ : Type) where
  barrier : Barrier κ
  answer : Option Bool := none
  passed : List (κ × WatchEvent) := []

namespace Run

/-- Who waits no longer polls once there is an answer. -/
def step (r : Run κ) : Step κ → Run κ
  | .event k e =>
    let (barrier, e) := r.barrier.pass k e
    { r with barrier, passed := r.passed ++ [(k, e)] }
  | .ends k => { r with barrier := r.barrier.endWatch k }
  | .poll =>
    match r.answer with
    | some _ => r
    | none =>
      let (barrier, answer) := r.barrier.poll
      { r with barrier, answer }

/-- A barrier of some watches after some steps. -/
def after (ks : List κ) (steps : List (Step κ)) : Run κ := steps.foldl step ⟨ofWatches ks, none, []⟩

/-- What a run has come to agrees with the histories of its watches. -/
structure Sound (ks : List κ) (steps : List (Step κ)) (r : Run κ) : Prop where
  waited : ∃ waited, ks = waited ++ r.barrier.waiting.map (·.1) ∧
    ∀ k ∈ waited, progress k steps = .done
  waiting : ∀ w ∈ r.barrier.waiting, w.2 = progress w.1 steps
  opened : r.answer = some true → r.barrier.waiting = []
  failed : r.answer = some false → ∃ w ∈ r.barrier.waiting, w.2 = .lost
  passed : r.passed = steps.filterMap Step.event?

variable {ks : List κ} {steps : List (Step κ)} {r : Run κ}

theorem sound_start (ks : List κ) : Sound ks [] ⟨ofWatches ks, none, []⟩ where
  waited := ⟨[], by simp [waiting_ofWatches, Function.comp_def], nofun⟩
  waiting := by simp [waiting_ofWatches, progress]
  opened := nofun
  failed := nofun
  passed := rfl

theorem progress_concat_of_done {k : κ} (h : progress k steps = .done) (s : Step κ) :
    progress k (steps ++ [s]) = .done := by
  rw [progress_concat, h]
  exact advance_of_ne_pending (by decide) k s

/-- Nothing is passed on but events. -/
theorem Sound.passed_concat (h : Sound ks steps r) {s : Step κ} (hs : s.event? = none) :
    r.passed = (steps ++ [s]).filterMap Step.event? := by
  rw [h.passed, List.filterMap_append, List.filterMap_cons_none hs, List.filterMap_nil,
    List.append_nil]

/-- A step of the watches moves those that are waited for and no others. -/
theorem Sound.moved (h : Sound ks steps r) (s : Step κ) {passed : List (κ × WatchEvent)}
    (hpassed : passed = (steps ++ [s]).filterMap Step.event?) :
    Sound ks (steps ++ [s]) ⟨r.barrier.moved s, r.answer, passed⟩ where
  waited := by
    obtain ⟨waited, hks, hdone⟩ := h.waited
    refine ⟨waited, ?_, fun k hk => progress_concat_of_done (hdone k hk) s⟩
    rw [map_fst_moved]
    exact hks
  waiting := by
    intro w hw
    obtain ⟨w', hw', rfl⟩ := List.mem_map.mp hw
    rw [progress_concat, ← h.waiting w' hw']
  opened := by
    intro hanswer
    simp [Barrier.moved, h.opened hanswer]
  failed := by
    intro hanswer
    obtain ⟨w, hw, hlost⟩ := h.failed hanswer
    refine ⟨_, List.mem_map_of_mem hw, ?_⟩
    rw [hlost]
    exact advance_of_ne_pending (by decide) w.1 s
  passed := hpassed

/-- Polling changes no watch. -/
theorem progress_poll (k : κ) : progress k (steps ++ [Step.poll]) = progress k steps :=
  progress_concat k steps .poll

theorem Sound.poll (h : Sound ks steps r) : Sound ks (steps ++ [Step.poll]) (r.step .poll) := by
  obtain ⟨waited, hks, hdone⟩ := h.waited
  have hpassed : r.passed = (steps ++ [Step.poll]).filterMap Step.event? := h.passed_concat rfl
  rw [step]
  -- an answer stays; without one, what is complete by now joins what was waited for before
  split
  · exact
      { waited := ⟨waited, hks, by simpa only [progress_poll] using hdone⟩
        waiting := by simpa only [progress_poll] using h.waiting
        opened := h.opened
        failed := h.failed
        passed := hpassed }
  · obtain ⟨past, hpast, hsplit, htrue, hfalse⟩ := await_spec r.barrier.waiting
    have hmem : ∀ w, w ∈ past ∨ w ∈ r.barrier.poll.1.waiting → w.2 = progress w.1 steps := by
      intro w hw
      refine h.waiting w ?_
      rw [hsplit]
      exact List.mem_append.mpr hw
    exact
      { waited := by
          refine ⟨waited ++ past.map (·.1), ?_, ?_⟩
          · rw [List.append_assoc, ← List.map_append]
            exact hks.trans (congrArg (fun l => waited ++ l.map (·.1)) hsplit)
          · intro k hk
            rw [progress_poll]
            rcases List.mem_append.mp hk with hk | hk
            · exact hdone k hk
            · obtain ⟨w, hw, rfl⟩ := List.mem_map.mp hk
              exact (hmem w (.inl hw)).symm.trans (hpast w hw)
        waiting := fun w hw => by
          rw [progress_poll]
          exact hmem w (.inr hw)
        opened := htrue
        failed := hfalse
        passed := hpassed }

theorem Sound.step (h : Sound ks steps r) (s : Step κ) : Sound ks (steps ++ [s]) (r.step s) := by
  cases s with
  | event k e =>
    rw [Run.step, pass_eq]
    exact h.moved (.event k e) (by rw [h.passed, List.filterMap_append]; rfl)
  | ends k =>
    rw [Run.step, endWatch_eq]
    exact h.moved (.ends k) (h.passed_concat rfl)
  | poll => exact h.poll

theorem Sound.foldl (rest : List (Step κ)) :
    ∀ {steps : List (Step κ)} {r : Run κ}, Sound ks steps r →
      Sound ks (steps ++ rest) (rest.foldl Run.step r) := by
  induction rest with
  | nil =>
    intro steps r h
    rwa [List.append_nil]
  | cons s rest ih =>
    intro steps r h
    rw [List.append_cons]
    exact ih (h.step s)

theorem sound_after (ks : List κ) (steps : List (Step κ)) : Sound ks steps (after ks steps) :=
  (sound_start ks).foldl steps

/-! ## Answers -/

theorem after_append (ks : List κ) (steps rest : List (Step κ)) :
    after ks (steps ++ rest) = rest.foldl step (after ks steps) :=
  List.foldl_append

theorem Sound.mem_of_waiting (h : Sound ks steps r) {w : κ × Priming}
    (hw : w ∈ r.barrier.waiting) : w.1 ∈ ks := by
  obtain ⟨waited, hks, -⟩ := h.waited
  rw [hks]
  exact List.mem_append_right _ (List.mem_map_of_mem hw)

theorem Sound.delivers (h : Sound ks steps r) (hanswer : r.answer = some true) :
    ∀ k ∈ ks, Delivers k steps := by
  obtain ⟨waited, hks, hdone⟩ := h.waited
  rw [h.opened hanswer, List.map_nil, List.append_nil] at hks
  subst hks
  exact fun k hk => progress_eq_done_iff.mp (hdone k hk)

theorem Sound.endsEarly (h : Sound ks steps r) (hanswer : r.answer = some false) :
    ∃ k ∈ ks, EndsEarly k steps := by
  obtain ⟨w, hw, hlost⟩ := h.failed hanswer
  exact ⟨w.1, h.mem_of_waiting hw, progress_eq_lost_iff.mp ((h.waiting w hw).symm.trans hlost)⟩

/-- An answer stays. -/
theorem answer_foldl {a : Bool} (rest : List (Step κ)) :
    ∀ {r : Run κ}, r.answer = some a → (rest.foldl step r).answer = some a := by
  induction rest with
  | nil => exact id
  | cons s rest ih =>
    intro r h
    refine ih ?_
    cases s with
    | event k e => exact h
    | ends k => exact h
    | poll => rw [step, h]; exact h

/-- Once all watches are complete, the next poll opens the barrier. -/
theorem Sound.answer_poll (h : Sound ks steps r) (hall : ∀ k ∈ ks, Delivers k steps) :
    (r.step .poll).answer = some true := by
  have hdone : ∀ w ∈ r.barrier.waiting, w.2 = .done := by
    intro w hw
    rw [h.waiting w hw, progress_eq_done_iff]
    exact hall w.1 (h.mem_of_waiting hw)
  cases hanswer : r.answer with
  | none =>
    rw [Run.step, hanswer]
    exact congrArg (·.2) (await_of_done hdone)
  | some a =>
    rw [Run.step, hanswer]
    cases a with
    | true => exact hanswer
    | false =>
      obtain ⟨w, hw, hlost⟩ := h.failed hanswer
      cases hlost.symm.trans (hdone w hw)

/-- A watch that is complete moves nothing any more. -/
theorem Sound.moved_eq {k : κ} {s : Step κ} (h : Sound ks steps r)
    (hdone : progress k steps = .done) (hs : s.IsOf k) : r.barrier.moved s = r.barrier := by
  have hkeep : ∀ w ∈ r.barrier.waiting, (w.1, s.advance w.1 w.2) = w := by
    intro w hw
    by_cases hk : w.1 = k
    · have hw2 : w.2 = .done := by rw [h.waiting w hw, hk, hdone]
      exact Prod.ext rfl (advance_of_ne_pending (by rw [hw2]; decide) w.1 s)
    · exact Prod.ext rfl (advance_of_isOf hs hk w.2)
  rw [Barrier.moved, List.map_congr_left hkeep, List.map_id']

/-- Runs whose barriers and answers are the same. -/
structure Alike (r r' : Run κ) : Prop where
  barrier : r.barrier = r'.barrier
  answer : r.answer = r'.answer

theorem Alike.step {r r' : Run κ} (h : Alike r r') (s : Step κ) : Alike (r.step s) (r'.step s) := by
  obtain ⟨barrier, answer, passed⟩ := r
  obtain ⟨barrier', answer', passed'⟩ := r'
  obtain ⟨rfl, rfl⟩ := h
  cases s with
  | event k e => exact ⟨rfl, rfl⟩
  | ends k => exact ⟨rfl, rfl⟩
  | poll => cases answer <;> exact ⟨rfl, rfl⟩

theorem Alike.foldl (rest : List (Step κ)) :
    ∀ {r r' : Run κ}, Alike r r' → Alike (rest.foldl Run.step r) (rest.foldl Run.step r') := by
  induction rest with
  | nil => exact id
  | cons s rest ih => exact fun h => ih (h.step s)

theorem Sound.alike_step {k : κ} {s : Step κ} (h : Sound ks steps r)
    (hdone : progress k steps = .done) (hs : s.IsOf k) : Alike (r.step s) r := by
  have hmoved := h.moved_eq hdone hs
  cases s with
  | event k' e =>
    rw [Run.step, pass_eq]
    exact ⟨hmoved, rfl⟩
  | ends k' => exact ⟨hmoved, rfl⟩
  | poll => cases hs

end Run

open Run

/-- The barrier opens only if every watch has completed its first listing before it ended, and once
all have, the next poll opens it. It fails only for a watch that ended before. What a watch does
after its first listing changes no answer, and what watches bring is passed on as it is, in
order. -/
theorem wait_exact (ks : List κ) (steps : List (Step κ)) :
    ((after ks steps).answer = some true → ∀ k ∈ ks, Delivers k steps) ∧
      ((∀ k ∈ ks, Delivers k steps) →
        ∀ rest, (after ks (steps ++ .poll :: rest)).answer = some true) ∧
      ((after ks steps).answer = some false → ∃ k ∈ ks, EndsEarly k steps) ∧
      (∀ k s rest, Delivers k steps → s.IsOf k →
        (after ks (steps ++ s :: rest)).answer = (after ks (steps ++ rest)).answer) ∧
      (after ks steps).passed = steps.filterMap Step.event? := by
  have hsound := sound_after ks steps
  refine ⟨hsound.delivers, fun hall rest => ?_, hsound.endsEarly, fun k s rest hk hs => ?_,
    hsound.passed⟩
  · rw [after_append, List.foldl_cons]
    exact answer_foldl rest (hsound.answer_poll hall)
  · rw [after_append, after_append, List.foldl_cons]
    exact ((hsound.alike_step (progress_eq_done_iff.mpr hk) hs).foldl rest).answer

/-- A watch of pods that ends after its first listing does not keep the barrier from opening once
the services are listed. One that ends before does. -/
theorem wait_exact_pods :
    let ks : List Cluster.Kind := [.service, .pod]
    let steps : List (Step Cluster.Kind) :=
      [.event .pod .initDone, .poll, .ends .pod, .event .service .init, .event .service .initDone]
    let failing : List (Step Cluster.Kind) :=
      [.event .pod .init, .ends .pod, .event .service .initDone, .poll]
    (∀ k ∈ ks, Delivers k (steps ++ [.poll])) ∧
      (∀ rest, (after ks (steps ++ .poll :: rest)).answer = some true) ∧
      (∃ k ∈ ks, EndsEarly k failing) ∧
      (∀ rest, (after ks (steps ++ .ends .service :: rest)).answer =
        (after ks (steps ++ rest)).answer) := by
  intro ks steps failing
  have hpods : Delivers .pod steps := progress_eq_done_iff.mp rfl
  have hservices : Delivers .service steps := progress_eq_done_iff.mp rfl
  have hall : ∀ k ∈ ks, Delivers k steps := by
    simp [ks, hpods, hservices]
  obtain ⟨-, hopens, -, hblind, -⟩ := wait_exact ks steps
  exact ⟨(wait_exact ks (steps ++ [.poll])).1 rfl, hopens hall, (wait_exact ks failing).2.2.1 rfl,
    fun rest => hblind .service (.ends .service) rest hservices rfl⟩

end MeshDestination.Discovery.Barrier
