import MeshDestination.Discovery.Lookup
import MeshDestination.Proofs.Net.Authority

/-!
# Targets and the names of services

A lookup of a service's full name finds the service, whatever dots follow the name
(`lookup_fqdn`). Of other texts a lookup finds only those with user information, brackets or a sign
about the port (`lookup_spells`).
-/

namespace MeshDestination.Discovery

open Net

/-! ## Dots at the end -/

theorem exists_eq_trimDots_append (s : List Char) :
    ∃ n, s = trimDots s ++ List.replicate n '.' := by
  have hdots : s.reverse.takeWhile (· == '.') =
      List.replicate (s.reverse.takeWhile (· == '.')).length '.' :=
    List.eq_replicate_of_mem fun c hc => by simpa using List.mem_takeWhile_imp hc
  refine ⟨(s.reverse.takeWhile (· == '.')).length, ?_⟩
  rw [trimDots, ← List.reverse_replicate, ← hdots, ← List.reverse_append,
    List.takeWhile_append_dropWhile, List.reverse_reverse]

theorem trimDots_append_replicate {s : List Char} (h : s.getLast? ≠ some '.') (n : Nat) :
    trimDots (s ++ List.replicate n '.') = s := by
  have hdots : ∀ c ∈ List.replicate n '.', (c == '.') = true := fun c hc => by
    simpa using List.eq_of_mem_replicate hc
  have hrest : s.reverse.dropWhile (· == '.') = s.reverse := by
    rw [List.dropWhile_eq_self_iff]
    intro hpos hdot
    rw [List.getLast?_eq_head?_reverse, List.head?_eq_getElem?, List.getElem?_eq_getElem hpos] at h
    exact h (congrArg some (eq_of_beq hdot))
  rw [trimDots, List.reverse_append, List.reverse_replicate, List.dropWhile_append_of_pos hdots,
    hrest, List.reverse_reverse]

theorem stripSuffix?_eq_some {ending s p : List Char} :
    stripSuffix? ending s = some p ↔ s = p ++ ending := by
  unfold stripSuffix?
  constructor
  · intro h
    split at h
    · next hsuffix =>
      obtain ⟨q, rfl⟩ := List.isSuffixOf_iff_suffix.mp hsuffix
      simpa using h
    · cases h
  · rintro rfl
    rw [if_pos (List.isSuffixOf_iff_suffix.mpr (List.suffix_append p ending))]
    simp

/-! ## Names of services -/

/-- What a name may have between its dots. -/
structure IsNamePart (s : String) : Prop where
  ne_empty : s ≠ ""
  dotless : '.' ∉ s.toList

theorem toList_fqdn (service : ServiceRef) (clusterDomain : String) :
    (service.fqdn clusterDomain).toList =
      service.name.toList ++ '.' :: (service.ns.toList ++ '.' :: "svc".toList) ++ ['.'] ++
        clusterDomain.toList := by
  simp [ServiceRef.fqdn]

/-- A name leads to a service if it is the service's full name with any dots behind it. -/
theorem serviceOf?_eq_some {clusterDomain : String} {host : List Char} {service : ServiceRef} :
    serviceOf? clusterDomain.toList host = some service ↔
      trimDots host = (service.fqdn clusterDomain).toList ∧ IsNamePart service.name ∧
        IsNamePart service.ns := by
  constructor
  · intro h
    obtain ⟨labels, hlabels, h⟩ := Option.bind_eq_some_iff.mp h
    obtain ⟨front, hfront, hlabels⟩ := Option.bind_eq_some_iff.mp hlabels
    rw [stripSuffix?_eq_some] at hfront hlabels
    split at h
    · next name ns svc hpieces =>
      split at h
      · cases h
      · next hparts =>
        simp only [Bool.or_eq_true, List.isEmpty_iff, decide_eq_true_eq, not_or, ne_eq,
          not_not] at hparts
        obtain ⟨⟨hname, hns⟩, rfl⟩ := hparts
        have hjoin := intercalate_pieces '.' labels
        rw [hpieces] at hjoin
        have hdotless (p : List Char) (hp : p ∈ pieces '.' labels) : '.' ∉ p :=
          notMem_of_mem_pieces hp
        rw [hpieces] at hdotless
        cases h
        refine ⟨?_, ⟨by simpa using hname, ?_⟩, ⟨by simpa using hns, ?_⟩⟩
        · rw [hfront, hlabels, ← hjoin, toList_fqdn]
          simp [List.intercalate]
        · simpa using hdotless name (by simp)
        · simpa using hdotless ns (by simp)
    · cases h
  · rintro ⟨htrim, hname, hns⟩
    have hstrip : (stripSuffix? clusterDomain.toList (trimDots host)).bind (stripSuffix? ['.']) =
        some (service.name.toList ++ '.' :: (service.ns.toList ++ '.' :: "svc".toList)) := by
      refine Option.bind_eq_some_iff.mpr
        ⟨_, stripSuffix?_eq_some.mpr ?_, stripSuffix?_eq_some.mpr rfl⟩
      rw [htrim, toList_fqdn]
    have hpieces : pieces '.'
        (service.name.toList ++ '.' :: (service.ns.toList ++ '.' :: "svc".toList)) =
        [service.name.toList, service.ns.toList, "svc".toList] := by
      rw [pieces_append_cons hname.dotless, pieces_append_cons hns.dotless]
      rfl
    unfold serviceOf?
    rw [hstrip, Option.bind_eq_bind, Option.bind_some]
    simp only [hpieces]
    simp [hname.ne_empty, hns.ne_empty]

/-! ## Labels -/

/-- A label of a DNS name: letters, digits and hyphens. -/
structure IsLabel (s : List Char) : Prop where
  ne_nil : s ≠ []
  chars : ∀ c ∈ s, c.isAlphanum = true ∨ c = '-'

instance (s : List Char) : Decidable (IsLabel s) :=
  decidable_of_iff (s ≠ [] ∧ s.all (fun c => c.isAlphanum || c == '-') = true)
    ⟨fun h => ⟨h.1, by simpa using h.2⟩, fun h => ⟨h.ne_nil, by simpa using h.chars⟩⟩

/-- A DNS name: labels with dots between them. -/
def IsDomain (s : String) : Prop := ∀ label ∈ pieces '.' s.toList, IsLabel label

instance (s : String) : Decidable (IsDomain s) :=
  inferInstanceAs (Decidable (∀ label ∈ pieces '.' s.toList, IsLabel label))

theorem IsLabel.isHostChar {s : List Char} (h : IsLabel s) {c : Char} (hc : c ∈ s) : IsHostChar c :=
  (h.chars c hc).imp_right .inl

theorem IsLabel.isNamePart {s : String} (h : IsLabel s.toList) : IsNamePart s where
  ne_empty := by
    rintro rfl
    exact h.ne_nil rfl
  dotless hdot := by
    have hnone : ¬('.'.isAlphanum = true ∨ '.' = '-') := by decide
    exact hnone (h.chars '.' hdot)

section Domain

variable {clusterDomain : String} (hdomain : IsDomain clusterDomain)

include hdomain in
theorem IsDomain.isHostChar {c : Char} (hc : c ∈ clusterDomain.toList) : IsHostChar c := by
  rcases exists_piece_of_mem '.' hc with hdot | ⟨label, hlabel, hmem⟩
  · exact .inr (.inr hdot)
  · exact (hdomain label hlabel).isHostChar hmem

include hdomain in
theorem IsDomain.getLast? : ∃ c, clusterDomain.toList.getLast? = some c ∧ c ≠ '.' := by
  rcases List.eq_nil_or_concat clusterDomain.toList with hnil | ⟨front, c, hfront⟩
  · exact absurd rfl (hdomain [] (by rw [hnil]; exact List.mem_singleton.mpr rfl)).ne_nil
  · rw [List.concat_eq_append] at hfront
    refine ⟨c, by rw [hfront, List.getLast?_concat], ?_⟩
    rintro rfl
    refine absurd rfl (hdomain [] ?_).ne_nil
    rw [hfront, pieces_concat]
    exact List.mem_append_right _ (List.mem_singleton.mpr rfl)

end Domain

/-! ## Reading targets -/

theorem Target.ofText?_eq_some {clusterDomain path : String} {target : Target} :
    Target.ofText? clusterDomain path = some target ↔ isAuthority path.toList = true ∧
      portOf? path.toList = some target.port ∧
      serviceOf? clusterDomain.toList (authorityHost path.toList) = some target.service := by
  obtain ⟨service, port⟩ := target
  unfold Target.ofText?
  by_cases hauthority : isAuthority path.toList = true
  · simp [hauthority, Option.bind_eq_some_iff]
  · simp [hauthority]

/-- A lookup finds a target, or it is refused for its text. -/
theorem lookup_eq (clusterDomain path : String) :
    lookup clusterDomain path .ok =
      (Target.ofText? clusterDomain path).elim (.error (.invalidTarget clusterDomain path))
        .ok := by
  unfold lookup
  cases Target.ofText? clusterDomain path with
  | none => rfl
  | some target => rfl

theorem lookup_eq_ok {clusterDomain path : String} {target : Target} :
    lookup clusterDomain path .ok = .ok target ↔
      Target.ofText? clusterDomain path = some target := by
  rw [lookup_eq]
  cases Target.ofText? clusterDomain path with
  | none => simp
  | some found => simp

theorem portOf?_of_notMem {s : List Char} (hcolon : ':' ∉ s) (hhost : authorityHost s = s) :
    portOf? s = some .http := by
  have hnone : authorityPort? s = none := by simp [authorityPort?, hcolon]
  simp [portOf?, hnone, hhost]

theorem portOf?_append_colon (s : List Char) (port : Port) :
    portOf? (s ++ ':' :: Nat.toDigits 10 port.toNat) = some port := by
  have hcolon : ':' ∉ Nat.toDigits 10 port.toNat := notMem_toDigits_ten (by decide) _
  have hplus : '+' ∉ Nat.toDigits 10 port.toNat := notMem_toDigits_ten (by decide) _
  have hle : port.toNat ≤ 65535 := Nat.le_of_lt_succ port.number.toNat_lt
  have hsigned : signedPort? (Nat.toDigits 10 port.toNat) = some port.toNat := by
    unfold signedPort?
    split
    · next r hr => simp [hr] at hplus
    · exact decimal?_toDigits hle
  have hport : authorityPort? (s ++ ':' :: Nat.toDigits 10 port.toNat) = some port.toNat := by
    simp [authorityPort?, afterLast_append_cons hcolon, hsigned]
  simp only [portOf?, hport]
  exact Port.ofNat?_eq_some.mpr rfl

/-- The full name of a service in a cluster, with some dots behind it. -/
def dottedName (clusterDomain : String) (service : ServiceRef) (dots : Nat) : String :=
  service.fqdn clusterDomain ++ String.ofList (List.replicate dots '.')

theorem toList_dottedName (clusterDomain : String) (service : ServiceRef) (dots : Nat) :
    (dottedName clusterDomain service dots).toList =
      (service.fqdn clusterDomain).toList ++ List.replicate dots '.' := by
  simp [dottedName]

theorem dottedName_ne_nil (clusterDomain : String) (service : ServiceRef) (dots : Nat) :
    (dottedName clusterDomain service dots).toList ≠ [] := by
  simp [toList_dottedName, toList_fqdn]

section Names

variable {clusterDomain : String} {service : ServiceRef} (hdomain : IsDomain clusterDomain)
  (hname : IsLabel service.name.toList) (hns : IsLabel service.ns.toList)

include hdomain hname hns in
theorem isHostChar_dottedName (dots : Nat) :
    ∀ c ∈ (dottedName clusterDomain service dots).toList, IsHostChar c := by
  have hdot : IsHostChar '.' := .inr (.inr rfl)
  have hsvc : ∀ c ∈ "svc".toList, c.isAlphanum = true := List.all_eq_true.mp (by decide)
  intro c hc
  rw [toList_dottedName, toList_fqdn] at hc
  generalize "svc".toList = svc at hc hsvc
  simp only [List.mem_append, List.mem_cons, List.mem_replicate, List.not_mem_nil, or_false] at hc
  rcases hc with (((hc | rfl | hc | rfl | hc) | rfl) | hc) | ⟨-, rfl⟩
  · exact hname.isHostChar hc
  · exact hdot
  · exact hns.isHostChar hc
  · exact hdot
  · exact .inl (hsvc c hc)
  · exact hdot
  · exact hdomain.isHostChar hc
  · exact hdot

include hdomain hname hns in
theorem serviceOf?_dottedName (dots : Nat) :
    serviceOf? clusterDomain.toList (dottedName clusterDomain service dots).toList =
      some service := by
  obtain ⟨c, hlast, hc⟩ := hdomain.getLast?
  have hend : (service.fqdn clusterDomain).toList.getLast? ≠ some '.' := by
    rw [toList_fqdn, List.getLast?_append, hlast]
    simpa using hc
  rw [toList_dottedName, serviceOf?_eq_some, trimDots_append_replicate hend]
  exact ⟨rfl, hname.isNamePart, hns.isNamePart⟩

end Names

/-- A lookup of a service's full name, with any dots behind it, finds the service: on the port that
follows after a colon, or on that of plain web traffic. Conversely the host of every text that is
found is, without the dots at its end, the full name of the service, whose name and namespace are
parts of names. -/
theorem lookup_fqdn (clusterDomain : String) :
    (IsDomain clusterDomain → ∀ service : ServiceRef, IsLabel service.name.toList →
      IsLabel service.ns.toList → ∀ (port : Port) (dots : Nat),
        lookup clusterDomain (dottedName clusterDomain service dots ++ ":" ++ toString port.toNat)
          .ok = .ok (⟨service, port⟩ : Target) ∧
        lookup clusterDomain (dottedName clusterDomain service dots) .ok =
          .ok (⟨service, .http⟩ : Target)) ∧
    ∀ (path : String) (target : Target), lookup clusterDomain path .ok = .ok target →
      String.ofList (trimDots (authorityHost path.toList)) = target.service.fqdn clusterDomain ∧
      IsNamePart target.service.name ∧ IsNamePart target.service.ns := by
  refine ⟨fun hdomain service hname hns port dots => ?_, fun path target h => ?_⟩
  · have hchars := isHostChar_dottedName hdomain hname hns dots
    have hne := dottedName_ne_nil clusterDomain service dots
    have hservice := serviceOf?_dottedName hdomain hname hns dots
    refine ⟨lookup_eq_ok.mpr (Target.ofText?_eq_some.mpr ?_),
      lookup_eq_ok.mpr (Target.ofText?_eq_some.mpr ?_)⟩
    · have hat : '@' ∉ ':' :: Nat.toDigits 10 port.toNat := by
        simpa using notMem_toDigits_ten (by decide) port.toNat
      have hdigits : ∀ c ∈ Nat.toDigits 10 port.toNat, IsHostChar c := fun c hc =>
        isHostChar_of_isDigit (Nat.isDigit_of_mem_toDigits (by decide) (by decide) hc)
      have htext : (dottedName clusterDomain service dots ++ ":" ++ toString port.toNat).toList =
          (dottedName clusterDomain service dots).toList ++ ':' :: Nat.toDigits 10 port.toNat := by
        simp
      rw [htext, authorityHost_append hne hchars hat (.inr rfl)]
      exact ⟨isAuthority_port hchars hdigits, portOf?_append_colon _ port, hservice⟩
    · have hcolon : ':' ∉ (dottedName clusterDomain service dots).toList := fun hmem =>
        not_isHostChar (by decide) (hchars ':' hmem)
      have hhost := authorityHost_append hne hchars List.not_mem_nil (.inl rfl)
      rw [List.append_nil] at hhost
      rw [hhost]
      exact ⟨isAuthority_of_isHostChar hne hchars, portOf?_of_notMem hcolon hhost, hservice⟩
  · rw [lookup_eq_ok, Target.ofText?_eq_some] at h
    obtain ⟨htrim, hname, hns⟩ := serviceOf?_eq_some.mp h.2.2
    exact ⟨by rw [htrim, String.ofList_toList], hname, hns⟩

/-- The service is found in a cluster domain that itself has a label `svc`, with dots and a port
behind the name. -/
theorem lookup_fqdn_web :
    (IsDomain "svc.cluster.local" ∧ IsLabel "web".toList ∧ IsLabel "ns".toList ∧
      lookup "svc.cluster.local" "web.ns.svc.svc.cluster.local..:80" .ok =
        .ok (⟨⟨"ns", "web"⟩, .http⟩ : Target) ∧
      lookup "svc.cluster.local" "web.ns.svc.svc.cluster.local.." .ok =
        .ok (⟨⟨"ns", "web"⟩, .http⟩ : Target)) ∧
    String.ofList (trimDots (authorityHost "web.ns.svc.svc.cluster.local..:80".toList)) =
      "web.ns.svc.svc.cluster.local" := by
  obtain ⟨hfind, hconverse⟩ := lookup_fqdn "svc.cluster.local"
  have hdomain : IsDomain "svc.cluster.local" := by decide
  have hname : IsLabel "web".toList := by decide
  have hns : IsLabel "ns".toList := by decide
  obtain ⟨hport, hbare⟩ := hfind hdomain ⟨"ns", "web"⟩ hname hns .http 2
  exact ⟨⟨hdomain, hname, hns, hport, hbare⟩, (hconverse _ _ hport).1⟩

/-! ## How targets are spelled -/

/-- What may stand in a text besides the name and the port. -/
@[ext]
structure Extras where
  /-- In front of the name. -/
  user : List Char := []
  /-- Between the name and the colon of the port. -/
  middle : List Char := []
  /-- In front of the digits of the port. -/
  sign : List Char := []

/-- A text spells a target if it is the full name of the service with any dots behind it, and then,
unless the port is that of plain web traffic, a colon and the port in digits. -/
inductive Spells (clusterDomain : String) (target : Target) : Extras → List Char → Prop
  | bare (dots : Nat) : target.port = .http →
      Spells clusterDomain target {} (dottedName clusterDomain target.service dots).toList
  | withPort (extras : Extras) (dots : Nat) {digits : List Char} :
      IsDecimal digits target.port.toNat →
      Spells clusterDomain target extras
        (extras.user ++ (dottedName clusterDomain target.service dots).toList ++ extras.middle ++
          ':' :: (extras.sign ++ digits))

/-- What a lookup lets pass besides name and port: user information, anything between name and port
in a text with brackets, and a plus sign. -/
structure Extras.Passes (extras : Extras) (text : List Char) : Prop where
  user : extras.user = [] ∨ ∃ u, extras.user = u ++ ['@']
  middle : extras.middle = [] ∨ '[' ∈ text
  sign : extras.sign = [] ∨ extras.sign = ['+']

section Spelling

variable {clusterDomain : String} {target : Target} {extras : Extras} {text : List Char}

/-- Nothing passes in a text without the characters that give the extras away. -/
theorem Spells.extras_eq (h : Spells clusterDomain target extras text)
    (hpasses : extras.Passes text) (hchars : ∀ c ∈ "@[+".toList, c ∉ text) : extras = {} := by
  cases h with
  | bare => rfl
  | withPort extras dots hdigits =>
    ext1
    · exact hpasses.user.resolve_right fun ⟨u, hu⟩ => hchars '@' (by decide) (by simp [hu])
    · exact hpasses.middle.resolve_right (hchars '[' (by decide))
    · exact hpasses.sign.resolve_right fun hs => hchars '+' (by decide) (by simp [hs])

/-- Without extras there are letters, digits, hyphens, dots and the colon of the port. -/
theorem Spells.isHostChar (h : Spells clusterDomain target {} text)
    (hdomain : IsDomain clusterDomain) (hname : IsLabel target.service.name.toList)
    (hns : IsLabel target.service.ns.toList) {c : Char} (hc : c ∈ text) :
    IsHostChar c ∨ c = ':' := by
  generalize hextras : ({} : Extras) = extras at h
  cases h with
  | bare dots => exact .inl (isHostChar_dottedName hdomain hname hns dots c hc)
  | withPort extras dots hdigits =>
    subst hextras
    simp only [List.nil_append, List.append_nil, List.mem_append, List.mem_cons] at hc
    rcases hc with hc | rfl | hc
    · exact .inl (isHostChar_dottedName hdomain hname hns dots c hc)
    · exact .inr rfl
    · exact .inl (isHostChar_of_isDigit (hdigits.isDigit c hc))

/-- A text spells, without extras, no service whose name and namespace are labels. -/
def SpellsNone (clusterDomain : String) (text : List Char) : Prop :=
  ∀ target : Target, IsLabel target.service.name.toList → IsLabel target.service.ns.toList →
    ¬Spells clusterDomain target {} text

/-- A text with another character spells nothing. -/
theorem spellsNone_of_all (hdomain : IsDomain clusterDomain)
    (hchars : text.all (fun c => IsHostChar c ∨ c = ':') = false) :
    SpellsNone clusterDomain text := by
  intro target hname hns hspells
  refine Bool.false_ne_true (hchars.symm.trans (List.all_eq_true.mpr fun c hc => ?_))
  exact decide_eq_true (hspells.isHostChar hdomain hname hns hc)

/-- A text without a port must be the host. -/
theorem spells_of_port_none (hauthority : isAuthority text = true)
    (hnone : authorityPort? text = none) (hport : portOf? text = some target.port) {dots : Nat}
    (hhost : authorityHost text = (dottedName clusterDomain target.service dots).toList) :
    Spells clusterDomain target {} text := by
  simp only [portOf?, hnone] at hport
  split at hport
  · cases hport
  · next hlength =>
    obtain ⟨user, beside, htext, -⟩ := exists_parts hauthority
    have hsum := congrArg List.length htext
    simp only [List.length_append] at hsum
    have huser : user = [] := List.eq_nil_of_length_eq_zero (by omega)
    have hbeside : beside = [] := List.eq_nil_of_length_eq_zero (by omega)
    rw [huser, hbeside, List.nil_append, List.append_nil, hhost] at htext
    rw [htext]
    exact .bare dots (Option.some.inj hport).symm

/-- With one colon behind a host without brackets, that of the port, nothing stands before it. -/
theorem middle_eq_nil {host middle r : List Char}
    (hbeside : (middle ++ ':' :: r).head? = some ':')
    (hcount : (host ++ (middle ++ ':' :: r)).count ':' ≤ 1) : middle = [] := by
  cases middle with
  | nil => rfl
  | cons c middle =>
    obtain rfl : c = ':' := by simpa using hbeside
    simp only [List.count_append, List.cons_append, List.count_cons_self] at hcount
    omega

/-- A text with a port may have user information, a sign and, if there are brackets, text in front
of the port. -/
theorem spells_of_port_some (hauthority : isAuthority text = true)
    (hport : authorityPort? text = some target.port.toNat) {dots : Nat}
    (hhost : authorityHost text = (dottedName clusterDomain target.service dots).toList) :
    ∃ extras, extras.Passes text ∧ Spells clusterDomain target extras text := by
  obtain ⟨before, sign, digits, htext, hsign, hdigits⟩ := exists_isDecimal_of_authorityPort? hport
  obtain ⟨user, beside, hparts, hlast, huser, hshape⟩ := exists_parts hauthority
  have hnot {c : Char} (hc : c.isDigit = false) (hplus : c ≠ '+') : c ∉ sign ++ digits := by
    intro hmem
    rcases List.mem_append.mp hmem with hmem | hmem
    · rcases hsign with rfl | rfl
      · cases hmem
      · exact hplus (List.mem_singleton.mp hmem)
    · rw [hdigits.isDigit c hmem] at hc
      cases hc
  have hclosed : (∃ p, authorityHost text = p ++ [']']) ∨ ':' ∉ authorityHost text :=
    hshape.imp And.left And.left
  obtain ⟨middle, rfl⟩ := exists_beside huser hclosed (hparts.symm.trans htext)
    (hnot (by decide) (by decide)) (hnot (by decide) (by decide))
  have hmiddle : middle = [] ∨ '[' ∈ text := by
    by_cases hbracket : '[' ∈ text
    · exact .inr hbracket
    · rcases hshape with ⟨-, hmem⟩ | ⟨-, hbeside⟩
      · exact absurd hmem hbracket
      · have hcount := count_colon_le_one hauthority hbracket
        rw [hlast] at hcount
        exact .inl (middle_eq_nil (hbeside.resolve_left (by simp)) hcount)
  refine ⟨⟨user, middle, sign⟩, ⟨huser, hmiddle, hsign⟩, ?_⟩
  have hspells : Spells clusterDomain target ⟨user, middle, sign⟩
      (user ++ (dottedName clusterDomain target.service dots).toList ++ middle ++
        ':' :: (sign ++ digits)) := .withPort ⟨user, middle, sign⟩ dots hdigits
  rwa [← hhost, List.append_assoc, ← hparts] at hspells

end Spelling

/-- A lookup is refused for its text, or the text spells the target that is found. Besides name and
port only user information, a sign and text with brackets pass, and these only with a port. -/
theorem lookup_spells (clusterDomain path : String) :
    lookup clusterDomain path .ok =
        (.error (.invalidTarget clusterDomain path) : Except Rejection Target) ∨
      ∃ target : Target, lookup clusterDomain path .ok = .ok target ∧
        IsNamePart target.service.name ∧ IsNamePart target.service.ns ∧
        ∃ extras : Extras, extras.Passes path.toList ∧
          Spells clusterDomain target extras path.toList ∧
          ((∀ c ∈ "@[+".toList, c ∉ path.toList) → extras = {}) := by
  rw [lookup_eq]
  cases htarget : Target.ofText? clusterDomain path with
  | none => exact .inl rfl
  | some target =>
    obtain ⟨hauthority, hport, hservice⟩ := Target.ofText?_eq_some.mp htarget
    obtain ⟨htrim, hname, hns⟩ := serviceOf?_eq_some.mp hservice
    obtain ⟨dots, hhost⟩ := exists_eq_trimDots_append (authorityHost path.toList)
    rw [htrim, ← toList_dottedName] at hhost
    have hspells : ∃ extras : Extras, extras.Passes path.toList ∧
        Spells clusterDomain target extras path.toList := by
      cases hnumber : authorityPort? path.toList with
      | none =>
        have hpasses : ({} : Extras).Passes path.toList := ⟨.inl rfl, .inl rfl, .inl rfl⟩
        exact ⟨{}, hpasses, spells_of_port_none hauthority hnumber hport hhost⟩
      | some n =>
        simp only [portOf?, hnumber] at hport
        rw [Port.ofNat?_eq_some.mp hport] at hnumber
        exact spells_of_port_some hauthority hnumber hhost
    obtain ⟨extras, hpasses, hspells⟩ := hspells
    exact .inr ⟨target, rfl, hname, hns, extras, hpasses, hspells, hspells.extras_eq hpasses⟩

/-- Each of the extras is let pass: the target that is found is not spelled by the text alone, and
neither is any other whose name and namespace are labels. -/
theorem extras_accepted :
    (lookup "cluster.local" "user@web.ns.svc.cluster.local:80" .ok =
        .ok (⟨⟨"ns", "web"⟩, .http⟩ : Target) ∧
      SpellsNone "cluster.local" "user@web.ns.svc.cluster.local:80".toList) ∧
    (lookup "cluster.local" "web.ns.svc.cluster.local:[]:80" .ok =
        .ok (⟨⟨"ns", "web"⟩, .http⟩ : Target) ∧
      SpellsNone "cluster.local" "web.ns.svc.cluster.local:[]:80".toList) ∧
    (lookup "cluster.local" "web.ns.svc.cluster.local:+80" .ok =
        .ok (⟨⟨"ns", "web"⟩, .http⟩ : Target) ∧
      SpellsNone "cluster.local" "web.ns.svc.cluster.local:+80".toList) := by
  have hdomain : IsDomain "cluster.local" := by decide
  have haccepted (path : String)
      (hfound : Target.ofText? "cluster.local" path = some ⟨⟨"ns", "web"⟩, .http⟩)
      (hchars : path.toList.all (fun c => IsHostChar c ∨ c = ':') = false) :
      lookup "cluster.local" path .ok = .ok (⟨⟨"ns", "web"⟩, .http⟩ : Target) ∧
        SpellsNone "cluster.local" path.toList :=
    ⟨lookup_eq_ok.mpr hfound, spellsNone_of_all hdomain hchars⟩
  exact ⟨haccepted _ (by decide +kernel) (by decide +kernel),
    haccepted _ (by decide +kernel) (by decide +kernel),
    haccepted _ (by decide +kernel) (by decide +kernel)⟩

end MeshDestination.Discovery
