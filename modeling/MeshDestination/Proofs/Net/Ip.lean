import MeshDestination.Net.Ip

/-!
# IP addresses are read back from their text

The dotted text of an IPv4 address is read as that address (`dotted?_dotted`), and so is the
canonical text of an IPv6 address (`colons?_colons`): with its last groups in dotted form, with a
run of zero groups left out, or with all groups. What is left out is a run of zeros whichever run
was chosen (`zeros_longestZeroRun`), and no other double colon stands in the text
(`splitDoubleColon_intercalate`).
-/

namespace MeshDestination.Net

/-! ## Numbers -/

theorem notMem_toDigits_ten {c : Char} (hc : c.isDigit = false) (n : Nat) :
    c ∉ Nat.toDigits 10 n := by
  intro hmem
  have hdigit : c.isDigit = true := Nat.isDigit_of_mem_toDigits (by decide) (by decide) hmem
  rw [hc] at hdigit
  exact absurd hdigit (by decide)

theorem decimal?_toDigits {bound n : Nat} (h : n ≤ bound) :
    decimal? bound (Nat.toDigits 10 n) = some n := by
  have hne : (Nat.toDigits 10 n).isEmpty = false := by
    rw [List.isEmpty_eq_false_iff]
    exact Nat.toDigits_ne_nil
  have hdigits : (Nat.toDigits 10 n).all Char.isDigit = true := by
    rw [List.all_eq_true]
    intro c hc
    exact Nat.isDigit_of_mem_toDigits (by decide) (by decide) hc
  have hvalue : (Nat.toDigits 10 n).foldl (fun n c => 10 * n + (c.toNat - '0'.toNat)) 0 = n :=
    Nat.ofDigitChars_toDigits (by decide) (by decide)
  unfold decimal?
  simp only [hne, hdigits, hvalue, h]
  rfl

theorem octet?_toDigits {n : Nat} (h : n < 256) :
    octet? (Nat.toDigits 10 n) = some (BitVec.ofNat 8 n) := by
  have hall : ∀ n < 256, octet? (Nat.toDigits 10 n) = some (BitVec.ofNat 8 n) := by decide +kernel
  exact hall n h

/-- The last digit of a number in hexadecimal comes off its end. -/
theorem toDigits_sixteen (n : Nat) :
    Nat.toDigits 16 n =
      (if n < 16 then [] else Nat.toDigits 16 (n / 16)) ++ [(n % 16).digitChar] := by
  rw [Nat.toDigits_eq_if (by decide)]
  split
  · rw [Nat.mod_eq_of_lt ‹_›]
    rfl
  · rfl

theorem hexDigit?_digitChar {d : Nat} (h : d < 16) : hexDigit? d.digitChar = some d := by
  have hall : ∀ d < 16, hexDigit? d.digitChar = some d := by decide
  exact hall d h

theorem mapM_hexDigit?_toDigits (n : Nat) :
    ∃ ds, (Nat.toDigits 16 n).mapM hexDigit? = some ds ∧
      ds.foldl (fun n d => 16 * n + d) 0 = n := by
  induction n using Nat.strongRecOn with
  | ind n ih =>
    have hlast : hexDigit? (n % 16).digitChar = some (n % 16) :=
      hexDigit?_digitChar (Nat.mod_lt n (by decide))
    rw [toDigits_sixteen]
    by_cases hn : n < 16
    · refine ⟨[n % 16], by simp [hn, hlast], ?_⟩
      simp [Nat.mod_eq_of_lt hn]
    · obtain ⟨ds, hds, hvalue⟩ := ih (n / 16) (by omega)
      refine ⟨ds ++ [n % 16], by simp [hn, hlast, hds], ?_⟩
      rw [List.foldl_append, hvalue]
      simp only [List.foldl_cons, List.foldl_nil]
      omega

theorem notMem_toDigits_sixteen {c : Char} (hc : hexDigit? c = none) (n : Nat) :
    c ∉ Nat.toDigits 16 n := by
  induction n using Nat.strongRecOn with
  | ind n ih =>
    have hlast : c ≠ (n % 16).digitChar := by
      rintro rfl
      rw [hexDigit?_digitChar (Nat.mod_lt n (by decide))] at hc
      cases hc
    rw [toDigits_sixteen, List.mem_append, List.mem_singleton, not_or]
    refine ⟨?_, hlast⟩
    split
    · exact List.not_mem_nil
    · exact ih (n / 16) (by omega)

theorem group?_toDigits {n : Nat} (h : n < 65536) :
    group? (Nat.toDigits 16 n) = some (BitVec.ofNat 16 n) := by
  have hne : (Nat.toDigits 16 n).isEmpty = false := by
    rw [List.isEmpty_eq_false_iff]
    exact Nat.toDigits_ne_nil
  have hlength : ¬ 4 < (Nat.toDigits 16 n).length := by
    rw [Nat.not_lt, Nat.length_toDigits_le_iff (by decide) (by decide)]
    exact h
  obtain ⟨ds, hds, hvalue⟩ := mapM_hexDigit?_toDigits n
  simp [group?, hne, hlength, hds, hvalue]

/-! ## Pieces -/

theorem pieces_of_notMem {sep : Char} {p : List Char} (h : sep ∉ p) : pieces sep p = [p] := by
  induction p with
  | nil => rfl
  | cons c p ih =>
    obtain ⟨hc, hp⟩ := List.ne_and_not_mem_of_not_mem_cons h
    simp [pieces, Ne.symm hc, ih hp]

theorem pieces_append_cons {sep : Char} {p : List Char} (h : sep ∉ p) (r : List Char) :
    pieces sep (p ++ sep :: r) = p :: pieces sep r := by
  induction p with
  | nil => simp [pieces]
  | cons c p ih =>
    obtain ⟨hc, hp⟩ := List.ne_and_not_mem_of_not_mem_cons h
    simp [pieces, Ne.symm hc, ih hp]

theorem pieces_intercalate {sep : Char} {ps : List (List Char)} (hne : ps ≠ [])
    (h : ∀ p ∈ ps, sep ∉ p) : pieces sep ([sep].intercalate ps) = ps := by
  induction ps with
  | nil => exact absurd rfl hne
  | cons p ps ih =>
    have hp : sep ∉ p := h p List.mem_cons_self
    cases ps with
    | nil => simpa using pieces_of_notMem hp
    | cons q ps =>
      rw [List.intercalate_cons_cons, List.append_assoc, List.singleton_append,
        pieces_append_cons hp, ih (by simp) fun q hq => h q (List.mem_cons_of_mem p hq)]

theorem pieces_ne_nil (sep : Char) (s : List Char) : pieces sep s ≠ [] := by
  cases s with
  | nil => simp [pieces]
  | cons c s =>
    rw [pieces]
    split
    · simp
    · split <;> simp

/-- A character that does not separate goes to the first piece. -/
theorem pieces_cons_of_ne {sep c : Char} (h : c ≠ sep) (s : List Char) :
    ∃ p ps, pieces sep s = p :: ps ∧ pieces sep (c :: s) = (c :: p) :: ps := by
  obtain ⟨p, ps, hps⟩ := List.exists_cons_of_ne_nil (pieces_ne_nil sep s)
  exact ⟨p, ps, hps, by rw [pieces, if_neg h, hps]⟩

theorem intercalate_pieces (sep : Char) (s : List Char) : [sep].intercalate (pieces sep s) = s := by
  induction s with
  | nil => simp [pieces]
  | cons c s ih =>
    by_cases hc : c = sep
    · obtain ⟨p, ps, hps⟩ := List.exists_cons_of_ne_nil (pieces_ne_nil sep s)
      rw [pieces, if_pos hc, hps, List.intercalate_cons_cons, ← hps, ih, hc]
      rfl
    · obtain ⟨p, ps, hps, hcons⟩ := pieces_cons_of_ne hc s
      rw [hcons]
      rw [hps] at ih
      cases ps with
      | nil => simpa using ih
      | cons q ps =>
        rw [List.intercalate_cons_cons] at ih ⊢
        simpa using ih

theorem notMem_of_mem_pieces {sep : Char} {s p : List Char} (h : p ∈ pieces sep s) : sep ∉ p := by
  induction s generalizing p with
  | nil => simp_all [pieces]
  | cons c s ih =>
    by_cases hc : c = sep
    · rw [pieces, if_pos hc, List.mem_cons] at h
      rcases h with rfl | h
      · exact List.not_mem_nil
      · exact ih h
    · obtain ⟨q, qs, hqs, hcons⟩ := pieces_cons_of_ne hc s
      rw [hcons, List.mem_cons] at h
      rcases h with rfl | h
      · rw [List.mem_cons, not_or]
        exact ⟨Ne.symm hc, ih (hqs ▸ List.mem_cons_self)⟩
      · exact ih (hqs ▸ List.mem_cons_of_mem _ h)

theorem exists_piece_of_mem (sep : Char) {c : Char} {s : List Char} (h : c ∈ s) :
    c = sep ∨ ∃ p ∈ pieces sep s, c ∈ p := by
  induction s with
  | nil => cases h
  | cons d s ih =>
    by_cases hd : d = sep
    · rw [pieces, if_pos hd]
      rcases List.mem_cons.mp h with rfl | h
      · exact .inl hd
      · exact (ih h).imp_right fun ⟨p, hp, hc⟩ => ⟨p, List.mem_cons_of_mem _ hp, hc⟩
    · obtain ⟨q, qs, hqs, hcons⟩ := pieces_cons_of_ne hd s
      rw [hcons]
      rcases List.mem_cons.mp h with rfl | h
      · exact .inr ⟨_, List.mem_cons_self, List.mem_cons_self⟩
      · refine (ih h).imp_right fun ⟨p, hp, hc⟩ => ?_
        rw [hqs, List.mem_cons] at hp
        rcases hp with rfl | hp
        · exact ⟨_, List.mem_cons_self, List.mem_cons_of_mem _ hc⟩
        · exact ⟨p, List.mem_cons_of_mem _ hp, hc⟩

theorem pieces_concat (sep : Char) (s : List Char) :
    pieces sep (s ++ [sep]) = pieces sep s ++ [[]] := by
  induction s with
  | nil => simp [pieces]
  | cons c s ih =>
    by_cases hc : c = sep
    · rw [List.cons_append, pieces, if_pos hc, ih, pieces, if_pos hc, List.cons_append]
    · obtain ⟨p, ps, hps, hcons⟩ := pieces_cons_of_ne hc s
      rw [List.cons_append, pieces, if_neg hc, ih, hps, hcons]
      rfl

theorem exists_intercalate_cons (sep p : List Char) (ps : List (List Char)) :
    ∃ r, sep.intercalate (p :: ps) = p ++ r := by
  cases ps with
  | nil => exact ⟨[], by simp⟩
  | cons q ps =>
    rw [List.intercalate_cons_cons, List.append_assoc]
    exact ⟨_, rfl⟩

/-! ## Dotted form -/

theorem toNat_append_eq {m n : Nat} (x : BitVec m) (y : BitVec n) :
    (x ++ y).toNat = x.toNat <<< n + y.toNat := by
  rw [BitVec.toNat_append, Nat.shiftLeft_add_eq_or_of_lt y.isLt]

theorem toList_dotted (b : BitVec 32) : (dotted b).toList =
    Nat.toDigits 10 ((b >>> 24).toNat % 256) ++ '.' ::
      (Nat.toDigits 10 ((b >>> 16).toNat % 256) ++ '.' ::
        (Nat.toDigits 10 ((b >>> 8).toNat % 256) ++ '.' ::
          Nat.toDigits 10 ((b >>> 0).toNat % 256))) := by
  have hdot : ".".toList = ['.'] := rfl
  simp only [dotted, String.toList_append, Nat.toString_eq_repr, Nat.toList_repr, hdot]
  simp

theorem notMem_dotted {c : Char} (hc : c.isDigit = false) (hdot : c ≠ '.') (b : BitVec 32) :
    c ∉ (dotted b).toList := by
  have hdigits := notMem_toDigits_ten hc
  rw [toList_dotted]
  simp [hdigits, hdot]

theorem dotted?_dotted (b : BitVec 32) : dotted? (dotted b).toList = some b := by
  have hnone : ∀ n, '.' ∉ Nat.toDigits 10 n := notMem_toDigits_ten (by decide)
  have hoctet : ∀ n, octet? (Nat.toDigits 10 (n % 256)) = some (BitVec.ofNat 8 (n % 256)) :=
    fun n => octet?_toDigits (Nat.mod_lt n (by decide))
  have hbits : BitVec.ofNat 8 ((b >>> 24).toNat % 256) ++ BitVec.ofNat 8 ((b >>> 16).toNat % 256) ++
      BitVec.ofNat 8 ((b >>> 8).toNat % 256) ++ BitVec.ofNat 8 ((b >>> 0).toNat % 256) = b := by
    apply BitVec.eq_of_toNat_eq
    simp only [toNat_append_eq, BitVec.toNat_ofNat, BitVec.toNat_ushiftRight,
      Nat.shiftRight_eq_div_pow, Nat.shiftLeft_eq]
    omega
  rw [toList_dotted, dotted?]
  simp only [pieces_append_cons (hnone _), pieces_of_notMem (hnone _), hoctet]
  exact congrArg some hbits

/-! ## Groups -/

theorem toList_joinGroups (gs : List Nat) :
    (joinGroups gs).toList = [':'].intercalate (gs.map (Nat.toDigits 16)) := by
  have hcolon : ":".toList = [':'] := rfl
  rw [joinGroups, String.toList_intercalate, hcolon, List.map_map]
  simp only [Function.comp_def, String.toList_ofList]

theorem groups?_map {gs : List Nat} (h : ∀ g ∈ gs, g < 65536) :
    groups? (gs.map (Nat.toDigits 16)) = some (gs.map (BitVec.ofNat 16)) := by
  induction gs with
  | nil => rfl
  | cons g gs ih =>
    have hg := group?_toDigits (h g List.mem_cons_self)
    have hgs := ih fun g' hg' => h g' (List.mem_cons_of_mem g hg')
    cases gs with
    | nil => simp [groups?, hg]
    | cons g' gs =>
      simp only [List.map_cons, groups?] at hgs ⊢
      simp [hg, hgs]

theorem notMem_map_toDigits {c : Char} (hc : hexDigit? c = none) (gs : List Nat) :
    ∀ p ∈ gs.map (Nat.toDigits 16), c ∉ p := by
  intro p hp
  obtain ⟨g, -, rfl⟩ := List.mem_map.mp hp
  exact notMem_toDigits_sixteen hc g

theorem groups?_joinGroups {gs : List Nat} (hne : gs ≠ []) (h : ∀ g ∈ gs, g < 65536) :
    groups? (pieces ':' (joinGroups gs).toList) = some (gs.map (BitVec.ofNat 16)) := by
  have hpieces : gs.map (Nat.toDigits 16) ≠ [] := mt List.map_eq_nil_iff.mp hne
  rw [toList_joinGroups, pieces_intercalate hpieces (notMem_map_toDigits (by decide) gs),
    groups?_map h]

theorem side?_joinGroups (gs : List Nat) (h : ∀ g ∈ gs, g < 65536) :
    side? (joinGroups gs).toList = some (gs.map (BitVec.ofNat 16)) := by
  cases gs with
  | nil => rfl
  | cons g gs =>
    have hne : (joinGroups (g :: gs)).toList.isEmpty = false := by
      obtain ⟨r, hr⟩ := exists_intercalate_cons [':'] (Nat.toDigits 16 g)
        (gs.map (Nat.toDigits 16))
      rw [toList_joinGroups, List.map_cons, hr, List.isEmpty_eq_false_iff]
      exact fun hnil => Nat.toDigits_ne_nil (List.append_eq_nil_iff.mp hnil).1
    rw [side?, hne, groups?_joinGroups (by simp) h]
    rfl

theorem notMem_joinGroups {c : Char} (hc : hexDigit? c = none) (hcolon : c ≠ ':')
    (gs : List Nat) : c ∉ (joinGroups gs).toList := by
  have hpieces := notMem_map_toDigits hc gs
  rw [toList_joinGroups]
  generalize gs.map (Nat.toDigits 16) = ps at *
  induction ps with
  | nil => exact List.not_mem_nil
  | cons p ps ih =>
    have hp := hpieces p List.mem_cons_self
    cases ps with
    | nil => simpa using hp
    | cons q ps =>
      have hps := ih fun p hp => hpieces p (List.mem_cons_of_mem _ hp)
      simp only [List.intercalate_cons_cons, List.mem_append, List.mem_singleton]
      rintro ((h | h) | h)
      · exact hp h
      · exact hcolon h
      · exact hps h

/-! ## Double colons -/

theorem splitDoubleColon_cons {c : Char} {r : List Char} (h : c ≠ ':' ∨ r.head? ≠ some ':') :
    splitDoubleColon (c :: r) = (splitDoubleColon r).map fun (a, b) => (c :: a, b) := by
  rw [splitDoubleColon]
  rintro r' rfl rfl
  simp at h

theorem splitDoubleColon_append {p : List Char} (h : ':' ∉ p) (r : List Char) :
    splitDoubleColon (p ++ r) = (splitDoubleColon r).map fun (a, b) => (p ++ a, b) := by
  induction p with
  | nil => simp
  | cons c p ih =>
    obtain ⟨hc, hp⟩ := List.ne_and_not_mem_of_not_mem_cons h
    rw [List.cons_append, splitDoubleColon_cons (.inl (Ne.symm hc)), ih hp, Option.map_map]
    rfl

/-- No double colon begins before the end of pieces with single colons between them. -/
theorem splitDoubleColon_intercalate {ps : List (List Char)} (h : ∀ p ∈ ps, p ≠ [] ∧ ':' ∉ p)
    (r : List Char) : splitDoubleColon ([':'].intercalate ps ++ r) =
      (splitDoubleColon r).map fun (a, b) => ([':'].intercalate ps ++ a, b) := by
  induction ps with
  | nil => simp
  | cons p ps ih =>
    have hp := (h p List.mem_cons_self).2
    cases ps with
    | nil => simpa using splitDoubleColon_append hp r
    | cons q ps =>
      have hq := h q (List.mem_cons_of_mem p List.mem_cons_self)
      have hhead : ([':'].intercalate (q :: ps) ++ r).head? ≠ some ':' := by
        obtain ⟨x, xs, rfl⟩ := List.exists_cons_of_ne_nil hq.1
        obtain ⟨t, ht⟩ := exists_intercalate_cons [':'] (x :: xs) ps
        have hx : x ≠ ':' := fun hx => hq.2 (hx ▸ List.mem_cons_self)
        simpa [ht] using hx
      rw [List.intercalate_cons_cons, List.append_assoc, List.append_assoc, List.singleton_append,
        splitDoubleColon_append hp, splitDoubleColon_cons (.inr hhead),
        ih fun q hq => h q (List.mem_cons_of_mem p hq), Option.map_map, Option.map_map]
      simp [Function.comp_def]

theorem splitDoubleColon_joinGroups (gs : List Nat) (r : List Char) :
    splitDoubleColon ((joinGroups gs).toList ++ r) =
      (splitDoubleColon r).map fun (a, b) => ((joinGroups gs).toList ++ a, b) := by
  rw [toList_joinGroups]
  refine splitDoubleColon_intercalate (fun p hp => ⟨?_, ?_⟩) r
  · obtain ⟨g, -, rfl⟩ := List.mem_map.mp hp
    exact Nat.toDigits_ne_nil
  · exact notMem_map_toDigits (by decide) gs p hp

/-! ## Runs of zero groups -/

/-- Some groups in a row are zero. -/
def Zeros (gs : List Nat) (start length : Nat) : Prop :=
  gs = gs.take start ++ (List.replicate length 0 ++ gs.drop (start + length))

theorem zeros_takeWhile (gs : List Nat) (i : Nat) :
    Zeros gs i ((gs.drop i).takeWhile (· == 0)).length := by
  have hsplit : (gs.drop i).takeWhile (· == 0) ++ (gs.drop i).dropWhile (· == 0) = gs.drop i :=
    List.takeWhile_append_dropWhile
  have hzero : ∀ g ∈ (gs.drop i).takeWhile (· == 0), g = 0 := by
    intro g hg
    exact beq_iff_eq.mp (List.all_eq_true.mp List.all_takeWhile g hg)
  generalize (gs.drop i).takeWhile (· == 0) = run at *
  generalize (gs.drop i).dropWhile (· == 0) = rest at *
  have hrun : run = List.replicate run.length 0 := List.eq_replicate_iff.mpr ⟨rfl, hzero⟩
  have hrest : gs.drop (i + run.length) = rest := by
    rw [← List.drop_drop, ← hsplit, List.drop_left]
  calc gs = gs.take i ++ gs.drop i := (List.take_append_drop i gs).symm
    _ = gs.take i ++ (List.replicate run.length 0 ++ gs.drop (i + run.length)) := by
      rw [← hrun, hrest, hsplit]

theorem zeros_longestZeroRun (gs : List Nat) :
    Zeros gs (longestZeroRun gs).1 (longestZeroRun gs).2 := by
  unfold longestZeroRun
  refine List.foldlRecOn (motive := fun best : Nat × Nat => Zeros gs best.1 best.2) _ _ ?_ ?_
  · simp [Zeros]
  · intro best hbest i _
    split
    · exact zeros_takeWhile gs i
    · exact hbest

/-! ## Colon form -/

/-- A number of 128 bits is the value of its eight digits to the base `65536`. -/
theorem foldl_groupsOf (b : BitVec 128) :
    (groupsOf b).foldl (fun n g => n * 65536 + g) 0 = b.toNat := by
  have hb := b.isLt
  have hrange : List.range 8 = [0, 1, 2, 3, 4, 5, 6, 7] := rfl
  simp only [groupsOf, hrange, List.map_cons, List.map_nil, List.foldl_cons, List.foldl_nil,
    BitVec.toNat_ushiftRight, Nat.shiftRight_eq_div_pow]
  omega

theorem lt_of_mem_groupsOf {b : BitVec 128} {g : Nat} (h : g ∈ groupsOf b) : g < 65536 := by
  obtain ⟨i, -, rfl⟩ := List.mem_map.mp h
  exact Nat.mod_lt _ (by decide)

theorem length_groupsOf (b : BitVec 128) : (groupsOf b).length = 8 := by
  rw [groupsOf, List.length_map, List.length_range]

theorem ofGroups_groupsOf (b : BitVec 128) :
    ofGroups ((groupsOf b).map (BitVec.ofNat 16)) = b := by
  have hvalue : ((groupsOf b).map (BitVec.ofNat 16)).foldl (fun n g => n * 65536 + g.toNat) 0 =
      b.toNat := by
    simp only [groupsOf, List.foldl_map, BitVec.toNat_ofNat, Nat.mod_mod, Nat.reducePow]
    simpa only [groupsOf, List.foldl_map] using foldl_groupsOf b
  rw [ofGroups, hvalue, BitVec.ofNat_toNat, BitVec.setWidth_eq]

theorem colons?_all (b : BitVec 128) : colons? (joinGroups (groupsOf b)).toList = some b := by
  have hnone : splitDoubleColon (joinGroups (groupsOf b)).toList = none := by
    have h := splitDoubleColon_joinGroups (groupsOf b) []
    simpa [splitDoubleColon] using h
  have hne : groupsOf b ≠ [] := List.ne_nil_of_length_pos (by rw [length_groupsOf]; decide)
  have hgroups := groups?_joinGroups hne fun g => lt_of_mem_groupsOf
  simp [colons?, hnone, hgroups, length_groupsOf, ofGroups_groupsOf]

theorem colons?_run {b : BitVec 128} {start length : Nat} (hpos : 0 < length)
    (h : Zeros (groupsOf b) start length) :
    colons? (joinGroups ((groupsOf b).take start) ++ "::" ++
      joinGroups ((groupsOf b).drop (start + length))).toList = some b := by
  have hfront := side?_joinGroups ((groupsOf b).take start)
    fun g hg => lt_of_mem_groupsOf (List.mem_of_mem_take hg)
  have hback := side?_joinGroups ((groupsOf b).drop (start + length))
    fun g hg => lt_of_mem_groupsOf (List.mem_of_mem_drop hg)
  have hlength : ((groupsOf b).take start).length + length +
      ((groupsOf b).drop (start + length)).length = 8 := by
    have hsum := congrArg List.length h
    rw [length_groupsOf, List.length_append, List.length_append, List.length_replicate] at hsum
    omega
  have hbits : ofGroups (((groupsOf b).take start).map (BitVec.ofNat 16) ++
      List.replicate length 0 ++ ((groupsOf b).drop (start + length)).map (BitVec.ofNat 16)) =
        b := by
    have hmap := congrArg (List.map (BitVec.ofNat 16)) h
    rw [List.map_append, List.map_append, List.map_replicate] at hmap
    rw [List.append_assoc]
    exact (congrArg ofGroups hmap).symm.trans (ofGroups_groupsOf b)
  generalize (groupsOf b).take start = front at *
  generalize (groupsOf b).drop (start + length) = back at *
  have hsplit : splitDoubleColon (joinGroups front ++ "::" ++ joinGroups back).toList =
      some ((joinGroups front).toList, (joinGroups back).toList) := by
    have hcolons : "::".toList = [':', ':'] := rfl
    rw [String.toList_append, String.toList_append, hcolons, List.append_assoc,
      splitDoubleColon_joinGroups]
    simp [splitDoubleColon]
  have hdot : '.' ∉ (joinGroups front).toList := notMem_joinGroups (by decide) (by decide) front
  have hmissing : 8 - (front.length + back.length) = length := by omega
  have hroom : ¬ 7 < front.length + back.length := by omega
  rw [colons?, hsplit]
  simpa [hfront, hback, hdot, hmissing, hroom] using hbits

theorem group?_dotted (b : BitVec 32) : group? (dotted b).toList = none := by
  have hlong : 4 < (dotted b).toList.length := by
    have hpos : ∀ n, 0 < (Nat.toDigits 10 n).length := fun n => Nat.length_toDigits_pos
    have h₁ := hpos ((b >>> 24).toNat % 256)
    have h₂ := hpos ((b >>> 16).toNat % 256)
    rw [toList_dotted]
    simp only [List.length_append, List.length_cons]
    omega
  simp [group?, hlong]

theorem side?_mapped (d : BitVec 32) :
    side? ("ffff:" ++ dotted d).toList =
      some [0xFFFF, d.extractLsb' 16 16, d.extractLsb' 0 16] := by
  have htext : ("ffff:" ++ dotted d).toList = "ffff".toList ++ ':' :: (dotted d).toList :=
    String.toList_append
  have hpieces : pieces ':' ("ffff:" ++ dotted d).toList = ["ffff".toList, (dotted d).toList] := by
    rw [htext, pieces_append_cons (by decide),
      pieces_of_notMem (notMem_dotted (by decide) (by decide) d)]
  have hffff : group? "ffff".toList = some 0xFFFF := by decide
  have hne : ("ffff:" ++ dotted d).toList.isEmpty = false := by
    rw [htext]
    rfl
  rw [side?, hne, hpieces]
  simp only [groups?, hffff, group?_dotted, dotted?_dotted]
  rfl

theorem ofGroups_mapped {b : BitVec 128} (h : b >>> 32 = 0xFFFF) :
    ofGroups (List.replicate 5 0 ++
      [0xFFFF, (b.truncate 32).extractLsb' 16 16, (b.truncate 32).extractLsb' 0 16]) = b := by
  have hhigh : b.toNat / 2 ^ 32 = 0xFFFF := by
    have h := congrArg BitVec.toNat h
    rwa [BitVec.toNat_ushiftRight, Nat.shiftRight_eq_div_pow] at h
  have hzero : (0 : BitVec 16).toNat = 0 := rfl
  have hffff : (0xFFFF : BitVec 16).toNat = 0xFFFF := rfl
  apply BitVec.eq_of_toNat_eq
  simp only [ofGroups, hzero, hffff, List.replicate, List.cons_append, List.nil_append,
    List.foldl_cons, List.foldl_nil, BitVec.toNat_ofNat, BitVec.extractLsb'_toNat,
    BitVec.toNat_setWidth, BitVec.truncate_eq_setWidth, Nat.shiftRight_eq_div_pow]
  omega

theorem colons?_mapped {b : BitVec 128} (h : b >>> 32 = 0xFFFF) :
    colons? ("::ffff:" ++ dotted (b.truncate 32)).toList = some b := by
  have htext : ("::ffff:" ++ dotted (b.truncate 32)).toList =
      ':' :: ':' :: ("ffff:" ++ dotted (b.truncate 32)).toList := by
    rw [String.toList_append, String.toList_append]
    rfl
  have hfront : side? [] = some [] := rfl
  rw [htext, colons?, splitDoubleColon]
  simp only [hfront, side?_mapped]
  exact congrArg some (ofGroups_mapped h)

theorem colons?_colons (b : BitVec 128) : colons? (colons b).toList = some b := by
  unfold colons
  split
  · exact colons?_mapped ‹_›
  · next hmapped =>
    have hzeros := zeros_longestZeroRun (groupsOf b)
    simp only
    split
    · next hlong => exact colons?_run (Nat.lt_of_succ_lt hlong) hzeros
    · exact colons?_all b

theorem notMem_colons {c : Char} (hc : hexDigit? c = none) (hcolon : c ≠ ':') (hdot : c ≠ '.')
    (b : BitVec 128) : c ∉ (colons b).toList := by
  have hdigit : c.isDigit = false := by
    cases hd : c.isDigit with
    | true => simp [hexDigit?, hd] at hc
    | false => rfl
  have hf : c ≠ 'f' := by
    rintro rfl
    exact absurd hc (by decide)
  have hgroups := notMem_joinGroups hc hcolon
  have hdotted := notMem_dotted hdigit hdot
  unfold colons
  split
  · simp [hf, hcolon, hdotted]
  · simp only
    split
    · simp [hcolon, hgroups]
    · exact hgroups _

end MeshDestination.Net
