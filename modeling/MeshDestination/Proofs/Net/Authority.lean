import Mathlib.Data.List.Induction
import Mathlib.Data.List.TakeWhile
import Mathlib.Tactic.SplitIfs
import MeshDestination.Net.Authority
import MeshDestination.Proofs.Net.SocketAddr

/-!
# The parts of an authority

An authority is user information, if any, then a host, then what stands beside the host
(`exists_parts`). Behind the user information stands at most one colon, unless there are brackets
(`count_colon_le_one`). A host name is an authority by itself and with a port behind it
(`isAuthority_of_isHostChar`, `isAuthority_port`).
-/

namespace MeshDestination.Net

/-! ## The last occurrence of a character -/

section AfterLast

variable {sep c : Char} {s p r : List Char}

theorem afterLast_append_cons (h : sep ∉ r) : afterLast sep (p ++ sep :: r) = r := by
  have hr : ∀ c ∈ r.reverse, (c != sep) = true :=
    bne_of_notMem fun hmem => h (List.mem_reverse.mp hmem)
  rw [afterLast, List.reverse_append, List.reverse_cons, List.append_assoc,
    List.takeWhile_append_of_pos hr]
  simp

theorem afterLast_of_notMem (h : sep ∉ s) : afterLast sep s = s := by
  have hs : ∀ c ∈ s.reverse, (c != sep) = true :=
    bne_of_notMem fun hmem => h (List.mem_reverse.mp hmem)
  rw [afterLast, List.takeWhile_eq_self_iff.mpr hs, List.reverse_reverse]

theorem exists_eq_append_afterLast (h : sep ∈ s) :
    ∃ p, s = p ++ sep :: afterLast sep s ∧ sep ∉ afterLast sep s := by
  obtain ⟨r, p, hs, hr⟩ := List.eq_append_cons_of_mem (List.mem_reverse.mpr h)
  have hs : s = p.reverse ++ sep :: r.reverse := by
    rw [← List.reverse_reverse s, hs]
    simp
  have hr : sep ∉ r.reverse := fun hmem => hr (List.mem_reverse.mp hmem)
  refine ⟨p.reverse, ?_, ?_⟩
  · conv_rhs => rw [hs, afterLast_append_cons hr]
    exact hs
  · rwa [hs, afterLast_append_cons hr]

theorem afterLast_concat :
    afterLast sep (s ++ [c]) = if c = sep then [] else afterLast sep s ++ [c] := by
  rw [afterLast, List.reverse_append, List.reverse_singleton, List.singleton_append,
    List.takeWhile_cons]
  by_cases hc : c = sep
  · simp [hc]
  · simp [hc, afterLast]

end AfterLast

/-! ## Scanning -/

namespace AuthorityScan

variable {st st' : AuthorityScan} {s : List Char} {c : Char}

/-- What a step makes of brackets and colons. -/
structure Advances (st : AuthorityScan) (c : Char) (st' : AuthorityScan) : Prop where
  opened : st'.opened = (st.opened || c == '[')
  closed : st'.closed = (st.closed || c == ']')
  first : c = '[' → st.opened = false
  pair : c = ']' → st.opened = true
  colons : c ≠ ']' →
    st'.colons = if c = '@' then 0 else if c = ':' then st.colons + 1 else st.colons

theorem advances_of_step (h : st.step c = some st') : st.Advances c st' := by
  unfold step at h
  split_ifs at h
  all_goals cases h
  all_goals constructor <;> simp_all

/-- What a pass remembers of the characters behind it. -/
structure Remembers (st : AuthorityScan) (s : List Char) : Prop where
  opened : st.opened = true ↔ '[' ∈ s
  closed : st.closed = true ↔ ']' ∈ s
  closed_opened : st.closed = true → st.opened = true
  colons : ']' ∉ s → st.colons = (afterLast '@' s).count ':'

theorem remembers_start : ({} : AuthorityScan).Remembers [] := by
  constructor <;> simp [afterLast]

theorem Remembers.step (h : st.Remembers s) (hstep : st.step c = some st') :
    st'.Remembers (s ++ [c]) := by
  have ha := advances_of_step hstep
  refine ⟨?_, ?_, fun hclosed => ?_, fun hs => ?_⟩
  · rw [ha.opened, Bool.or_eq_true, beq_iff_eq, h.opened, List.mem_append, List.mem_singleton,
      @eq_comm _ c]
  · rw [ha.closed, Bool.or_eq_true, beq_iff_eq, h.closed, List.mem_append, List.mem_singleton,
      @eq_comm _ c]
  · rw [ha.closed, Bool.or_eq_true, beq_iff_eq] at hclosed
    rw [ha.opened, hclosed.elim h.closed_opened ha.pair, Bool.true_or]
  · rw [List.mem_append, List.mem_singleton, not_or] at hs
    rw [ha.colons (Ne.symm hs.2), h.colons hs.1, afterLast_concat]
    split
    · rfl
    · rw [List.count_append, List.count_singleton]
      split
      · next hc => simp [hc]
      · next hc => simp [hc]

theorem remembers_foldlM (s : List Char) :
    ∀ {st : AuthorityScan}, s.foldlM AuthorityScan.step {} = some st → st.Remembers s := by
  induction s using List.reverseRecOn with
  | nil =>
    intro st h
    cases h
    exact remembers_start
  | append_singleton s c ih =>
    intro st h
    rw [List.foldlM_append] at h
    obtain ⟨st', hst', hstep⟩ := Option.bind_eq_some_iff.mp h
    exact (ih hst').step (by simpa using hstep)

end AuthorityScan

/-- A pass goes through an authority and ends with brackets closed and at most one colon. -/
theorem exists_of_isAuthority {s : List Char} (h : isAuthority s = true) :
    ∃ st : AuthorityScan, s.foldlM AuthorityScan.step {} = some st ∧ st.opened = st.closed ∧
      st.colons ≤ 1 := by
  unfold isAuthority at h
  split at h
  · next st hst =>
    simp only [Bool.and_eq_true, decide_eq_true_eq, beq_iff_eq] at h
    obtain ⟨-, ⟨⟨hbracket, hcolons⟩, -⟩, -⟩ := h
    exact ⟨st, hst, hbracket, hcolons⟩
  · simp at h

/-! ## Host, user information and port -/

section Parts

variable {s r : List Char}

/-- Behind the user information stands at most one colon, unless there are brackets. -/
theorem count_colon_le_one (h : isAuthority s = true) (hbracket : '[' ∉ s) :
    (afterLast '@' s).count ':' ≤ 1 := by
  obtain ⟨st, hst, -, hcolons⟩ := exists_of_isAuthority h
  have hr := AuthorityScan.remembers_foldlM s hst
  have hclose : ']' ∉ s := fun hmem =>
    hbracket (hr.opened.mp (hr.closed_opened (hr.closed.mpr hmem)))
  rwa [← hr.colons hclose]

/-- The only opening bracket of an authority is closed after it. -/
theorem closing_mem {p : List Char} (h : isAuthority (p ++ '[' :: r) = true) : ']' ∈ r := by
  obtain ⟨st, hst, hbracket, -⟩ := exists_of_isAuthority h
  have hr := AuthorityScan.remembers_foldlM _ hst
  rw [List.foldlM_append] at hst
  obtain ⟨st₁, hst₁, hst⟩ := Option.bind_eq_some_iff.mp hst
  rw [List.foldlM_cons] at hst
  obtain ⟨st₂, hst₂, -⟩ := Option.bind_eq_some_iff.mp hst
  have hr₁ := AuthorityScan.remembers_foldlM p hst₁
  have hfirst := (AuthorityScan.advances_of_step hst₂).first rfl
  have hp : ']' ∉ p := by
    intro hmem
    rw [hr₁.closed_opened (hr₁.closed.mpr hmem)] at hfirst
    cases hfirst
  have hclosed : st.closed = true := by
    rw [← hbracket]
    exact hr.opened.mpr (by simp)
  simpa [hp] using hr.closed.mp hclosed

theorem authorityHost_of_head (h : (afterLast '@' s).head? ≠ some '[') :
    authorityHost s = (afterLast '@' s).takeWhile (· != ':') := by
  unfold authorityHost
  dsimp only
  split
  · next r hr => simp [hr] at h
  · rfl

theorem authorityHost_of_bracket (h : afterLast '@' s = '[' :: r) :
    authorityHost s = '[' :: r.takeWhile (· != ']') ++ [']'] := by
  unfold authorityHost
  rw [h]
  rfl

/-- An authority is user information, a host and what stands beside it. A host in brackets may be
followed by anything, another host by a colon only. -/
theorem exists_parts (h : isAuthority s = true) :
    ∃ user beside, s = user ++ authorityHost s ++ beside ∧
      afterLast '@' s = authorityHost s ++ beside ∧
      (user = [] ∨ ∃ u, user = u ++ ['@']) ∧
      ((∃ r, authorityHost s = r ++ [']']) ∧ '[' ∈ s ∨
        ':' ∉ authorityHost s ∧ (beside = [] ∨ beside.head? = some ':')) := by
  have huser : ∃ user, s = user ++ afterLast '@' s ∧ (user = [] ∨ ∃ u, user = u ++ ['@']) := by
    by_cases hat : '@' ∈ s
    · obtain ⟨u, hs, -⟩ := exists_eq_append_afterLast hat
      exact ⟨u ++ ['@'], by simpa using hs, .inr ⟨u, rfl⟩⟩
    · exact ⟨[], by rw [afterLast_of_notMem hat, List.nil_append], .inl rfl⟩
  obtain ⟨user, hs, huser⟩ := huser
  by_cases hhead : (afterLast '@' s).head? = some '['
  · obtain ⟨r, hr⟩ : ∃ r, afterLast '@' s = '[' :: r := List.head?_eq_some_iff.mp hhead
    have hclose : ']' ∈ r := closing_mem (by rw [← hr, ← hs]; exact h)
    obtain ⟨inside, beside, hinside, hfirst⟩ := List.eq_append_cons_of_mem hclose
    have hhost : authorityHost s = '[' :: inside ++ [']'] := by
      rw [authorityHost_of_bracket hr, hinside,
        List.takeWhile_append_of_pos (bne_of_notMem hfirst)]
      simp
    have hrest : afterLast '@' s = authorityHost s ++ beside := by
      rw [hr, hinside, hhost]
      simp
    refine ⟨user, beside, ?_, hrest, huser, .inl ⟨⟨_, hhost⟩, ?_⟩⟩
    · rw [List.append_assoc, ← hrest]
      exact hs
    · rw [hs, hr]
      simp
  · have hhost := authorityHost_of_head hhead
    have hrest : afterLast '@' s =
        authorityHost s ++ (afterLast '@' s).dropWhile (· != ':') := by
      rw [hhost, List.takeWhile_append_dropWhile]
    refine ⟨user, _, ?_, hrest, huser, .inr ⟨?_, ?_⟩⟩
    · rw [List.append_assoc, ← hrest]
      exact hs
    · rw [hhost]
      intro hmem
      simpa using List.mem_takeWhile_imp hmem
    · cases hdrop : (afterLast '@' s).dropWhile (· != ':') with
      | nil => exact .inl rfl
      | cons c r =>
        have hc := List.head?_dropWhile_not (· != ':') (afterLast '@' s)
        rw [hdrop] at hc
        simpa using hc

theorem mem_of_append_cons_eq_concat {c d : Char} {p q rest : List Char} (hne : c ≠ d)
    (h : p ++ c :: rest = q ++ [d]) : d ∈ rest := by
  rcases List.eq_nil_or_concat rest with rfl | ⟨rest, x, rfl⟩
  · obtain ⟨-, hlast⟩ := List.append_inj' h rfl
    exact absurd (List.singleton_inj.mp hlast) hne
  · rw [List.concat_eq_append, ← List.cons_append, ← List.append_assoc] at h
    obtain ⟨-, hlast⟩ := List.append_inj' h rfl
    rw [List.concat_eq_append, List.singleton_inj.mp hlast]
    exact List.mem_append_right _ (List.mem_singleton.mpr rfl)

/-- What follows a colon of an authority stands beside the host if there is neither an `@` nor a
bracket in it. -/
theorem exists_beside {user host beside before : List Char}
    (huser : user = [] ∨ ∃ u, user = u ++ ['@'])
    (hhost : (∃ p, host = p ++ [']']) ∨ ':' ∉ host)
    (hs : user ++ host ++ beside = before ++ ':' :: r) (hat : '@' ∉ r) (hclose : ']' ∉ r) :
    ∃ middle, beside = middle ++ ':' :: r := by
  -- A colon further in front has the `@` or the bracket behind it.
  have hfront (inner : List Char) (hcolon : user ++ host = before ++ ':' :: inner) :
      '@' ∈ inner ∨ ']' ∈ inner := by
    rcases hhost with ⟨p, rfl⟩ | hhost
    · rw [← List.append_assoc] at hcolon
      exact .inr (mem_of_append_cons_eq_concat (by decide) hcolon.symm)
    · rcases List.append_eq_append_iff.mp hcolon with ⟨as, -, has⟩ | ⟨as, has, hinner⟩
      · exact absurd (has ▸ List.mem_append_right _ List.mem_cons_self) hhost
      · cases as with
        | nil => exact absurd (hinner ▸ List.mem_cons_self : ':' ∈ [] ++ host) hhost
        | cons c as =>
          obtain ⟨rfl, rfl⟩ := List.cons.inj hinner
          rcases huser with huser | ⟨u, huser⟩
          · simp [huser] at has
          · have hmem := mem_of_append_cons_eq_concat (by decide) (has.symm.trans huser)
            exact .inl (List.mem_append_left _ hmem)
  rcases List.append_eq_append_iff.mp hs with ⟨as, hbefore, hbeside⟩ | ⟨as, hbefore, hr⟩
  · exact ⟨as, hbeside⟩
  · cases as with
    | nil => exact ⟨[], hr.symm⟩
    | cons c as =>
      obtain ⟨rfl, rfl⟩ := List.cons.inj hr
      rcases hfront as hbefore with hmem | hmem
      · exact absurd (List.mem_append_left _ hmem) hat
      · exact absurd (List.mem_append_left _ hmem) hclose

end Parts

/-! ## Ports -/

/-- Digits that spell a number. -/
structure IsDecimal (digits : List Char) (n : Nat) : Prop where
  ne_nil : digits ≠ []
  isDigit : ∀ c ∈ digits, c.isDigit = true
  value : Nat.ofDigitChars 10 digits 0 = n

theorem isDecimal_of_decimal? {bound n : Nat} {digits : List Char}
    (h : decimal? bound digits = some n) : IsDecimal digits n := by
  unfold decimal? at h
  split at h
  · cases h
  · next hdigits =>
    rw [Bool.or_eq_true, not_or] at hdigits
    dsimp only at h
    split at h
    · cases h
      exact ⟨by simpa using hdigits.1, by simpa using hdigits.2, rfl⟩
    · cases h

theorem exists_isDecimal_of_signedPort? {n : Nat} {s : List Char} (h : signedPort? s = some n) :
    ∃ sign digits, s = sign ++ digits ∧ (sign = [] ∨ sign = ['+']) ∧ IsDecimal digits n := by
  unfold signedPort? at h
  split at h
  · next digits => exact ⟨['+'], digits, rfl, .inr rfl, isDecimal_of_decimal? h⟩
  · exact ⟨[], s, rfl, .inl rfl, isDecimal_of_decimal? h⟩

/-- The port of an authority stands in digits behind a colon. -/
theorem exists_isDecimal_of_authorityPort? {n : Nat} {s : List Char}
    (h : authorityPort? s = some n) :
    ∃ before sign digits, s = before ++ ':' :: (sign ++ digits) ∧ (sign = [] ∨ sign = ['+']) ∧
      IsDecimal digits n := by
  unfold authorityPort? at h
  split at h
  · next hcolon =>
    obtain ⟨before, hs, -⟩ := exists_eq_append_afterLast (List.contains_iff_mem.mp hcolon)
    obtain ⟨sign, digits, hport, hsign, hdigits⟩ := exists_isDecimal_of_signedPort? h
    exact ⟨before, sign, digits, by rw [← hport]; exact hs, hsign, hdigits⟩
  · cases h

/-! ## Host names -/

/-- The characters of host names. -/
def IsHostChar (c : Char) : Prop := c.isAlphanum = true ∨ c = '-' ∨ c = '.'

instance : DecidablePred IsHostChar := fun c =>
  inferInstanceAs (Decidable (c.isAlphanum = true ∨ c = '-' ∨ c = '.'))

theorem isHostChar_of_isDigit {c : Char} (h : c.isDigit = true) : IsHostChar c :=
  .inl (by rw [Char.isAlphanum, h, Bool.or_true])

theorem not_isHostChar {c : Char} (h : c ∈ "/?#:[]@%".toList) : ¬IsHostChar c := by
  have hnone : "/?#:[]@%".toList.all (fun d => ¬IsHostChar d) = true := by decide
  simpa using List.all_eq_true.mp hnone c h

/-- A character of a host name is passed without notice. -/
theorem AuthorityScan.step_of_isHostChar {st : AuthorityScan} {c : Char} (h : IsHostChar c) :
    st.step c = some { st with atEnd := false } := by
  have hspecial : ∀ d ∈ "/?#:[]@%".toList, c ≠ d := by
    rintro d hd rfl
    exact not_isHostChar hd h
  have htarget : isTargetChar c = true := by
    rcases h with h | rfl | rfl
    · simp [isTargetChar, h]
    · decide
    · decide
  simp only [String.reduceToList, List.forall_mem_cons] at hspecial
  simp [step, hspecial, htarget]

section HostName

variable {host : List Char} (hne : host ≠ []) (hchars : ∀ c ∈ host, IsHostChar c)

include hchars in
theorem foldlM_step_of_isHostChar {st : AuthorityScan} (hst : st.atEnd = false) :
    host.foldlM AuthorityScan.step st = some st := by
  induction host with
  | nil => rfl
  | cons c host ih =>
    rw [List.foldlM_cons, AuthorityScan.step_of_isHostChar (hchars c List.mem_cons_self), ← hst]
    exact ih fun c hc => hchars c (List.mem_cons_of_mem _ hc)

include hne hchars in
theorem isAuthority_of_isHostChar : isAuthority host = true := by
  rw [isAuthority, foldlM_step_of_isHostChar hchars rfl]
  simp [hne]

include hchars in
/-- Digits are characters of host names. -/
theorem isAuthority_port {digits : List Char} (hdigits : ∀ c ∈ digits, IsHostChar c) :
    isAuthority (host ++ ':' :: digits) = true := by
  have hcolon : AuthorityScan.step {} ':' = some { colons := 1 } := rfl
  have hscan : (host ++ ':' :: digits).foldlM AuthorityScan.step {} =
      some { colons := 1 } := by
    rw [List.foldlM_append, foldlM_step_of_isHostChar hchars rfl]
    change (':' :: digits).foldlM AuthorityScan.step {} = _
    rw [List.foldlM_cons, hcolon]
    exact foldlM_step_of_isHostChar hdigits rfl
  rw [isAuthority, hscan]
  simp

include hne hchars in
theorem authorityHost_append {r : List Char} (hat : '@' ∉ r)
    (hcolon : r = [] ∨ r.head? = some ':') : authorityHost (host ++ r) = host := by
  have hnot {c : Char} (hc : c ∈ "/?#:[]@%".toList) : c ∉ host := fun hmem =>
    not_isHostChar hc (hchars c hmem)
  have hlast : afterLast '@' (host ++ r) = host ++ r :=
    afterLast_of_notMem fun hmem => (List.mem_append.mp hmem).elim (hnot (by decide)) hat
  have hhead : (host ++ r).head? ≠ some '[' := by
    rw [List.head?_append, Option.or_of_isSome (by simpa using hne)]
    exact fun h => hnot (by decide) (List.mem_of_mem_head? h)
  have hbare : ∀ c ∈ host, (c != ':') = true := bne_of_notMem (hnot (by decide))
  rw [authorityHost_of_head (by rwa [hlast]), hlast, List.takeWhile_append_of_pos hbare]
  rcases hcolon with rfl | hcolon
  · simp
  · obtain ⟨r, rfl⟩ := List.head?_eq_some_iff.mp hcolon
    simp

end HostName

end MeshDestination.Net
