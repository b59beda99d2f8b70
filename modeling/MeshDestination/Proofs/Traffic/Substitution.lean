import Mathlib.Tactic.Choose
import MeshDestination.Traffic.Template

/-!
# Placeholders in templates

A template is cut into placeholders and single characters (`Cuts`): the placeholders are all
occurrences of a name in braces that has a value, and nothing else is taken for one. What is put in
for them does not matter for where they are. Rendering puts the values in for the placeholders of
the cut and copies the characters (`renderTemplate_eq_filled`), so no value is ever looked at again.
-/

namespace MeshDestination.Traffic

/-! ## Texts in braces -/

section Braces

variable {name s : List Char}

/-- The text up to the first closing brace, and what comes after it. -/
theorem braces_append (hname : '\x7d' ∉ name) (rest : List Char) :
    untilBrace (name ++ '\x7d' :: rest) = some name ∧
      afterBrace (name ++ '\x7d' :: rest) = rest := by
  have hne : ∀ c ∈ name, (c != '\x7d') = true :=
    fun c hc => bne_iff_ne.mpr (ne_of_mem_of_not_mem hc hname)
  constructor
  · rw [untilBrace, if_pos (by simp), List.takeWhile_append_of_pos hne,
      List.takeWhile_cons_of_neg (by simp), List.append_nil]
  · rw [afterBrace, List.dropWhile_append_of_pos hne, List.dropWhile_cons_of_neg (by simp),
      List.drop_one, List.tail_cons]

theorem exists_of_untilBrace (h : untilBrace s = some name) :
    '\x7d' ∉ name ∧ ∃ rest, s = name ++ '\x7d' :: rest := by
  by_cases hmem : '\x7d' ∈ s
  · obtain ⟨front, rest, rfl, hfront⟩ := List.eq_append_cons_of_mem hmem
    rw [(braces_append hfront rest).1, Option.some.injEq] at h
    subst h
    exact ⟨hfront, rest, rfl⟩
  · rw [untilBrace, if_neg (by simpa using hmem)] at h
    cases h

end Braces

/-! ## Placeholders -/

/-- What a placeholder is for. -/
inductive Placeholder where
  | labels
  | window
  | groupBy
  | quantile
  deriving DecidableEq

namespace Placeholder

/-- The name that stands in the braces. -/
def name : Placeholder → List Char
  | .labels => "labels".toList
  | .window => "window".toList
  | .groupBy => "group_by".toList
  | .quantile => "quantile".toList

/-- A placeholder as a template has it. -/
def source (h : Placeholder) : List Char := '\x7b' :: (h.name ++ ['\x7d'])

/-- Whether a placeholder has a value. All do but the one for a quantile, which must be given. -/
def HasValue (quantileGiven : Bool) : Placeholder → Prop
  | .quantile => quantileGiven = true
  | _ => True

/-- What a placeholder is replaced by. -/
def value (p : Placeholders) : Placeholder → List Char
  | .labels => p.labels.toList
  | .window => p.window.toList
  | .groupBy => p.groupBy.toList
  | .quantile => ((p.quantile.map Quantile.text).getD "").toList

theorem name_injective {h k : Placeholder} (hname : h.name = k.name) : h = k := by
  revert hname
  cases h <;> cases k <;> decide

theorem closing_notMem_name (h : Placeholder) : '\x7d' ∉ h.name := by
  cases h <;> decide

/-- A brace opens at the beginning only. -/
theorem opening_notMem_tail (h : Placeholder) : '\x7b' ∉ h.name ++ ['\x7d'] := by
  cases h <;> decide

end Placeholder

/-! ## Where placeholders occur -/

/-- A placeholder that has a value occurs at a position of a template. -/
def Occurs (quantileGiven : Bool) (template : List Char) (i : Nat) (h : Placeholder) : Prop :=
  h.HasValue quantileGiven ∧ h.source <+: template.drop i

/-- A part of a template: a placeholder, or a character that is none of a placeholder. -/
inductive Segment where
  | char (c : Char)
  | hole (h : Placeholder)

namespace Segment

/-- A part as the template has it. -/
def source : Segment → List Char
  | .char c => [c]
  | .hole h => h.source

/-- A part after rendering. -/
def filled (p : Placeholders) : Segment → List Char
  | .char c => [c]
  | .hole h => h.value p

end Segment

/-- One of the segments is a placeholder, and the ones before it are `i` characters of the template.
-/
def StandsAt (segments : List Segment) (i : Nat) (h : Placeholder) : Prop :=
  ∃ front rest, segments = front ++ .hole h :: rest ∧ (front.flatMap Segment.source).length = i

/-- Segments make up a template, and the placeholders among them are all that occur in it. -/
structure Cuts (quantileGiven : Bool) (template : List Char) (segments : List Segment) : Prop where
  source : segments.flatMap Segment.source = template
  standsAt_iff : ∀ i h, StandsAt segments i h ↔ Occurs quantileGiven template i h

section Positions

variable {given : Bool} {c : Char} {h k : Placeholder} {segments : List Segment} {i : Nat}
  {r : List Char}

theorem standsAt_cons {s : Segment} : StandsAt (s :: segments) i h ↔
    (i = 0 ∧ s = .hole h) ∨ ∃ j, i = s.source.length + j ∧ StandsAt segments j h := by
  constructor
  · rintro ⟨front, rest, hsegments, rfl⟩
    cases front with
    | nil =>
      cases hsegments
      exact .inl ⟨rfl, rfl⟩
    | cons s' front =>
      cases hsegments
      exact .inr ⟨_, by simp, front, rest, rfl, rfl⟩
  · rintro (⟨rfl, rfl⟩ | ⟨j, rfl, front, rest, rfl, rfl⟩)
    · exact ⟨[], segments, rfl, rfl⟩
    · exact ⟨s :: front, rest, rfl, by simp⟩

theorem not_occurs_nil : ¬ Occurs given [] i h := by
  rintro ⟨-, hsource⟩
  rw [List.drop_nil, List.prefix_nil] at hsource
  cases hsource

theorem occurs_succ : Occurs given (c :: r) (i + 1) h ↔ Occurs given r i h := Iff.rfl

theorem eq_of_source_start (hstart : h.source <+: k.source ++ r) : h = k := by
  obtain ⟨rest, hrest⟩ := hstart
  have hnames : h.name ++ '\x7d' :: rest = k.name ++ '\x7d' :: r := by
    simpa [Placeholder.source] using hrest
  have huntil := (braces_append h.closing_notMem_name rest).1
  rw [hnames, (braces_append k.closing_notMem_name r).1, Option.some.injEq] at huntil
  exact Placeholder.name_injective huntil.symm

theorem occurs_append (l : List Char) :
    Occurs given (l ++ r) (l.length + i) h ↔ Occurs given r i h := by
  rw [Occurs, List.drop_length_add_append, Occurs]

/-- Where a placeholder occurs, a brace opens. -/
theorem Occurs.getElem?_eq {template : List Char} (hoccurs : Occurs given template i h) :
    template[i]? = some '\x7b' := by
  obtain ⟨-, rest, hrest⟩ := hoccurs
  have hhead : (template.drop i)[0]? = some '\x7b' := by rw [← hrest]; rfl
  rwa [List.getElem?_drop] at hhead

/-- Placeholders do not overlap. -/
theorem occurs_source (hvalue : k.HasValue given) : Occurs given (k.source ++ r) i h ↔
    (i = 0 ∧ k = h) ∨ ∃ j, i = k.source.length + j ∧ Occurs given r j h := by
  constructor
  · intro hoccurs
    match i with
    | 0 => exact .inl ⟨rfl, (eq_of_source_start hoccurs.2).symm⟩
    | i + 1 =>
      have hopening : (k.name ++ ['\x7d'] ++ r)[i]? = some '\x7b' := hoccurs.getElem?_eq
      by_cases hi : i < (k.name ++ ['\x7d']).length
      · rw [List.getElem?_append_left hi] at hopening
        exact absurd (List.mem_of_getElem? hopening) k.opening_notMem_tail
      · have hlength : i + 1 = k.source.length + (i - (k.name ++ ['\x7d']).length) := by
          simp only [Placeholder.source, List.length_cons]
          omega
        rw [hlength, occurs_append] at hoccurs
        exact .inr ⟨_, hlength, hoccurs⟩
  · rintro (⟨rfl, rfl⟩ | ⟨j, rfl, hoccurs⟩)
    · exact ⟨hvalue, List.prefix_append _ _⟩
    · exact (occurs_append _).mpr hoccurs

/-! ## Cuts -/

theorem cuts_nil : Cuts given [] [] where
  source := rfl
  standsAt_iff i h := by
    refine iff_of_false ?_ not_occurs_nil
    rintro ⟨front, rest, hsegments, -⟩
    simp at hsegments

theorem Cuts.char (hcuts : Cuts given r segments) (hnone : ∀ h, ¬ Occurs given (c :: r) 0 h) :
    Cuts given (c :: r) (.char c :: segments) where
  source := congrArg (c :: ·) hcuts.source
  standsAt_iff i h := by
    rw [standsAt_cons]
    constructor
    · rintro (⟨-, hchar⟩ | ⟨j, rfl, hstands⟩)
      · cases hchar
      · rw [Segment.source, List.length_singleton, Nat.add_comm, occurs_succ]
        exact (hcuts.standsAt_iff j h).mp hstands
    · intro hoccurs
      cases i with
      | zero => exact absurd hoccurs (hnone h)
      | succ j => exact .inr ⟨j, Nat.add_comm j 1, (hcuts.standsAt_iff j h).mpr hoccurs⟩

theorem Cuts.hole (hcuts : Cuts given r segments) (hvalue : k.HasValue given) :
    Cuts given (k.source ++ r) (.hole k :: segments) where
  source := congrArg (k.source ++ ·) hcuts.source
  standsAt_iff i h := by
    rw [standsAt_cons, occurs_source hvalue, Segment.hole.injEq]
    simp only [hcuts.standsAt_iff, Segment.source]

end Positions

/-! ## Rendering -/

section Rendering

variable {p : Placeholders} {name value rest : List Char} {h : Placeholder}

theorem value?_name (hvalue : h.HasValue p.quantile.isSome) :
    p.value? h.name = some (h.value p) := by
  obtain ⟨labels, window, groupBy, quantile⟩ := p
  cases h with
  | quantile =>
    obtain ⟨q, rfl⟩ := Option.isSome_iff_exists.mp hvalue
    rfl
  | _ => rfl

theorem exists_of_value? (hvalue : p.value? name = some value) :
    ∃ h : Placeholder, h.HasValue p.quantile.isSome ∧ h.name = name := by
  obtain ⟨entry, hfind, -⟩ := Option.map_eq_some_iff.mp hvalue
  have hname : entry.1 = name := by simpa using List.find?_some hfind
  have hmem := List.mem_of_find?_eq_some hfind
  obtain ⟨labels, window, groupBy, quantile⟩ := p
  simp only [Placeholders.values, List.mem_append, List.mem_cons, List.not_mem_nil, or_false,
    Option.mem_toList, Option.map_eq_some_iff] at hmem
  subst hname
  rcases hmem with (rfl | rfl | rfl) | ⟨q, rfl, rfl⟩
  · exact ⟨.labels, trivial, rfl⟩
  · exact ⟨.window, trivial, rfl⟩
  · exact ⟨.groupBy, trivial, rfl⟩
  · exact ⟨.quantile, rfl, rfl⟩

theorem renderFrom_source (hvalue : h.HasValue p.quantile.isSome) :
    renderFrom p (h.source ++ rest) = h.value p ++ renderFrom p rest := by
  have hsource : h.source ++ rest = '\x7b' :: (h.name ++ '\x7d' :: rest) := by
    simp [Placeholder.source]
  obtain ⟨huntil, hafter⟩ := braces_append h.closing_notMem_name rest
  rw [hsource, renderFrom, if_pos rfl, huntil, Option.bind_some, value?_name hvalue, hafter]

theorem renderFrom_cons {c : Char} (hnone : ∀ h, ¬ Occurs p.quantile.isSome (c :: rest) 0 h) :
    renderFrom p (c :: rest) = c :: renderFrom p rest := by
  rw [renderFrom]
  by_cases hc : c = '\x7b'
  · subst hc
    rw [if_pos rfl]
    cases hvalue : (untilBrace rest).bind p.value? with
    | none => rfl
    | some value =>
      obtain ⟨name, huntil, hname⟩ := Option.bind_eq_some_iff.mp hvalue
      obtain ⟨h, hgiven, rfl⟩ := exists_of_value? hname
      obtain ⟨-, after, rfl⟩ := exists_of_untilBrace huntil
      exact absurd ⟨hgiven, after, by simp [Placeholder.source]⟩ (hnone h)
  · rw [if_neg hc]

/-- Text in which no brace opens is copied. -/
theorem renderFrom_append {front : List Char} (hfront : '\x7b' ∉ front) :
    renderFrom p (front ++ rest) = front ++ renderFrom p rest := by
  induction front with
  | nil => rfl
  | cons c front ih =>
    rw [List.mem_cons, not_or] at hfront
    rw [List.cons_append, renderFrom, if_neg (Ne.symm hfront.1), ih hfront.2, List.cons_append]

end Rendering

theorem exists_cuts (given : Bool) (template : List Char) :
    ∃ segments, Cuts given template segments ∧ ∀ p : Placeholders, p.quantile.isSome = given →
      renderFrom p template = segments.flatMap (Segment.filled p) := by
  match template with
  | [] => exact ⟨[], cuts_nil, fun p _ => by rw [renderFrom]; rfl⟩
  | c :: r =>
    by_cases hoccurs : ∃ h, Occurs given (c :: r) 0 h
    · obtain ⟨h, hvalue, rest, hrest⟩ := hoccurs
      rw [List.drop_zero] at hrest
      have hlength : rest.length < (c :: r).length := by
        rw [← hrest, List.length_append]
        exact Nat.lt_add_of_pos_left (Nat.succ_pos _)
      obtain ⟨segments, hcuts, hrender⟩ := exists_cuts given rest
      refine ⟨.hole h :: segments, hrest ▸ hcuts.hole hvalue, ?_⟩
      rintro p rfl
      rw [← hrest, renderFrom_source hvalue, hrender p rfl]
      rfl
    · obtain ⟨segments, hcuts, hrender⟩ := exists_cuts given r
      have hnone : ∀ h, ¬ Occurs given (c :: r) 0 h := fun h hh => hoccurs ⟨h, hh⟩
      refine ⟨.char c :: segments, hcuts.char hnone, ?_⟩
      rintro p rfl
      rw [renderFrom_cons hnone, hrender p rfl]
      rfl
termination_by template.length
decreasing_by
  · exact hlength
  · exact Nat.lt_succ_self _

/-- A template is cut up in one way for all values that are put in, and what is rendered are its
characters and, for its placeholders, the values. -/
theorem renderTemplate_eq_filled (template : String) :
    ∃ segments : Bool → List Segment,
      (∀ given, Cuts given template.toList (segments given)) ∧
      ∀ p : Placeholders, renderTemplate p template =
        String.ofList ((segments p.quantile.isSome).flatMap (Segment.filled p)) := by
  choose segments hcuts hrender using fun given => exists_cuts given template.toList
  refine ⟨segments, hcuts, fun p => ?_⟩
  rw [renderTemplate, hrender _ p rfl]

example : renderTemplate ⟨"\x7bwindow\x7d", "1m", "", none⟩
    "\x7b\x7blabels\x7d\x7bwindow\x7d\x7bquantile\x7d" =
      "\x7b\x7bwindow\x7d1m\x7bquantile\x7d" := by cbv

end MeshDestination.Traffic
