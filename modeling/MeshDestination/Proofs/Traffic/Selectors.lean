import MeshDestination.Proofs.Text.Quoted
import MeshDestination.Proofs.Traffic.Substitution
import MeshDestination.Proofs.Traffic.Validity
import MeshDestination.Traffic.Summary

/-!
# Selectors are read back

A query is cut at its unescaped quotes, and what is in quotes is taken for the value of the label in
front of it. In this way a selector gives back the labels that it was made of, in order, and so does
every query that is sent for a summary. Whatever the texts are that a request asks for, they are
values as a whole, and they add no label.
-/

namespace MeshDestination.Traffic

open Std Text
open scoped Std.TreeMap

/-! ## Reading -/

/-- Characters of the names of labels. -/
def isLabelChar (c : Char) : Bool := isAlphanumeric c || c == '_'

/-- All characters are those of names of labels. -/
def IsLabelName (name : String) : Prop := ∀ c ∈ name.toList, isLabelChar c = true

instance (name : String) : Decidable (IsLabelName name) :=
  decidable_of_iff (name.toList.all isLabelChar = true) List.all_eq_true

/-- The label at the end of a text, in front of an equals sign. -/
def labelBefore (s : List Char) : String :=
  String.ofList ((s.reverse.drop 1).takeWhile isLabelChar).reverse

/-- The labels of a text that is cut at its quotes, with their values. No quote may be open at the
end. -/
def readParts : List (List Char) → Option (List (String × String))
  | before :: value :: rest =>
    (unescape value).bind fun v =>
      (readParts rest).map ((labelBefore before, String.ofList v) :: ·)
  | [_] => some []
  | [] => none

/-- The labels of a text with their values. -/
def readLabels (text : String) : Option (List (String × String)) :=
  readParts (cutQuotes false text.toList)

/-- What stands out of quotes and in quotes, in turn, from the second label of a selector on. -/
def laterParts (after : List Char) (labels : List (String × String)) : List (List Char) :=
  (labels.flatMap fun label => [", ".toList ++ label.1.toList ++ ['='], escaped label.2]) ++
    ['\x7d' :: after]

/-- What stands out of quotes and in quotes, in turn, where a selector is written between two texts:
the quotes are those around the values. -/
def selectorParts (before after : List Char) : List (String × String) → List (List Char)
  | [] => [before ++ '\x7b' :: '\x7d' :: after]
  | label :: labels =>
    (before ++ '\x7b' :: label.1.toList ++ ['=']) :: escaped label.2 :: laterParts after labels

/-- The names of all labels are made of letters, digits and underscores. -/
def LabelSet.IsNamed (s : LabelSet) : Prop := ∀ label ∈ s.toList, IsLabelName label.1

section Reading

variable {before after rest : List Char} {labels : List (String × String)}

theorem label_char {c : Char} (h : isLabelChar c = true) : c ≠ '\\' ∧ c ≠ '"' := by
  constructor
  · rintro rfl
    exact absurd h (by decide)
  · rintro rfl
    exact absurd h (by decide)

theorem inert_name {name : String} (h : IsLabelName name) : Inert name.toList :=
  inert_of_notMem (fun hmem => (label_char (h _ hmem)).1 rfl)
    (fun hmem => (label_char (h _ hmem)).2 rfl)

theorem cutQuotes_matcher (rest : List Char) {label : String × String} (hbefore : Inert before)
    (hname : IsLabelName label.1) :
    cutQuotes false (before ++ (LabelSet.matcher label).toList ++ rest) =
      (before ++ label.1.toList ++ ['=']) :: escaped label.2 :: cutQuotes false rest := by
  have hlead : Inert (before ++ label.1.toList ++ ['=']) :=
    (hbefore.append (inert_name hname)).append (inert_char (by decide) (by decide))
  have hmatcher : before ++ (LabelSet.matcher label).toList ++ rest =
      (before ++ label.1.toList ++ ['=']) ++ '"' :: (escaped label.2 ++ '"' :: rest) := by
    simp [LabelSet.matcher, toList_quoted]
  rw [hmatcher, hlead, cutQuotes_quote, inert_escaped, cutQuotes_quote]
  simp

theorem intercalate_eq_flatMap (sep p : List Char) (ps : List (List Char)) :
    sep.intercalate (p :: ps) = p ++ ps.flatMap (sep ++ ·) := by
  induction ps generalizing p with
  | nil => simp
  | cons q ps ih => rw [List.intercalate_cons_cons, ih, List.flatMap_cons, List.append_assoc,
      List.append_assoc]

theorem cutQuotes_matchers (hafter : Inert after)
    (hnames : ∀ label ∈ labels, IsLabelName label.1) :
    cutQuotes false
        ((labels.flatMap fun label => ", ".toList ++ (LabelSet.matcher label).toList) ++
          '\x7d' :: after) = laterParts after labels := by
  induction labels with
  | nil => exact ((inert_char (by decide) (by decide)).append hafter).cutQuotes_eq
  | cons label labels ih =>
    have hcomma : Inert ", ".toList := inert_of_notMem (by decide) (by decide)
    rw [List.flatMap_cons, List.append_assoc,
      cutQuotes_matcher _ hcomma (hnames label List.mem_cons_self),
      ih fun l hl => hnames l (List.mem_cons_of_mem label hl)]
    rfl

theorem cutQuotes_text {s : LabelSet} (hbefore : Inert before) (hafter : Inert after)
    (hnames : s.IsNamed) :
    cutQuotes false (before ++ s.text.toList ++ after) = selectorParts before after s.toList := by
  have htext : s.text.toList = '\x7b' :: (", ".toList.intercalate
      (s.toList.map fun label => (LabelSet.matcher label).toList) ++ ['\x7d']) := by
    simp [LabelSet.text, List.map_map, Function.comp_def]
  have hopen : Inert (before ++ ['\x7b']) := hbefore.append (inert_char (by decide) (by decide))
  rw [htext]
  cases hlabels : s.toList with
  | nil =>
    have hinert : Inert (before ++ ['\x7b'] ++ ('\x7d' :: after)) :=
      hopen.append ((inert_char (by decide) (by decide)).append hafter)
    simpa [selectorParts] using hinert.cutQuotes_eq
  | cons label labels =>
    rw [LabelSet.IsNamed, hlabels] at hnames
    have hcut := cutQuotes_matcher ((labels.flatMap fun label => ", ".toList ++
      (LabelSet.matcher label).toList) ++ '\x7d' :: after) hopen (hnames label List.mem_cons_self)
    rw [cutQuotes_matchers hafter fun l hl => hnames l (List.mem_cons_of_mem label hl)] at hcut
    rw [List.map_cons, intercalate_eq_flatMap, List.flatMap_map, selectorParts]
    simpa using hcut

theorem labelBefore_append {name : String} {c : Char} (hc : isLabelChar c = false)
    (hname : IsLabelName name) (front : List Char) :
    labelBefore (front ++ c :: name.toList ++ ['=']) = name := by
  have hreverse : (front ++ c :: name.toList ++ ['=']).reverse.drop 1 =
      name.toList.reverse ++ c :: front.reverse := by simp
  have hchars : ∀ c ∈ name.toList.reverse, isLabelChar c = true :=
    fun c hc => hname c (List.mem_reverse.mp hc)
  rw [labelBefore, hreverse, List.takeWhile_append_of_pos hchars,
    List.takeWhile_cons_of_neg (by simp [hc]), List.append_nil, List.reverse_reverse,
    String.ofList_toList]

theorem readParts_value (front : List Char) (parts : List (List Char)) {label : String × String}
    {c : Char} (hc : isLabelChar c = false) (hname : IsLabelName label.1) :
    readParts ((front ++ c :: label.1.toList ++ ['=']) :: escaped label.2 :: parts) =
      (readParts parts).map (label :: ·) := by
  rw [readParts, unescape_escaped, Option.bind_some, labelBefore_append hc hname,
    String.ofList_toList]

theorem readParts_laterParts (hnames : ∀ label ∈ labels, IsLabelName label.1) :
    readParts (laterParts after labels) = some labels := by
  induction labels with
  | nil => rfl
  | cons label labels ih =>
    have hvalue := readParts_value [','] (laterParts after labels) (c := ' ')
      (by decide) (hnames label List.mem_cons_self)
    rw [ih fun l hl => hnames l (List.mem_cons_of_mem label hl)] at hvalue
    exact hvalue

theorem readParts_selectorParts (hnames : ∀ label ∈ labels, IsLabelName label.1) :
    readParts (selectorParts before after labels) = some labels := by
  cases labels with
  | nil => rfl
  | cons label labels =>
    rw [selectorParts, readParts_value _ _ (by decide) (hnames label List.mem_cons_self),
      readParts_laterParts fun l hl => hnames l (List.mem_cons_of_mem label hl), Option.map_some]

/-- A selector is read back wherever it is written between texts without quotes. -/
theorem readLabels_append {s : LabelSet} {text : String} (hbefore : Inert before)
    (hafter : Inert after) (hnames : s.IsNamed)
    (htext : text.toList = before ++ s.text.toList ++ after) : readLabels text = some s.toList := by
  rw [readLabels, htext, cutQuotes_text hbefore hafter hnames, readParts_selectorParts hnames]

end Reading

/-! ## Labels of summaries -/

section Labels

variable {s t : LabelSet} {label : String × String}

theorem mem_toList_of_foldl_insert (labels : List (String × String))
    (h : label ∈ (labels.foldl (fun m l => m.insert l.1 l.2) s).toList) :
    label ∈ s.toList ∨ label ∈ labels := by
  induction labels generalizing s with
  | nil => exact .inl h
  | cons l labels ih =>
    rcases ih h with hinsert | hmem
    · rw [TreeMap.mem_toList_iff_getElem?_eq_some, TreeMap.getElem?_insert] at hinsert
      split at hinsert
      · next hname =>
        have hlabel : l = label :=
          Prod.ext (LawfulEqCmp.compare_eq_iff_eq.mp hname) (Option.some.inj hinsert)
        exact .inr (hlabel ▸ List.mem_cons_self)
      · exact .inl (TreeMap.mem_toList_iff_getElem?_eq_some.mpr hinsert)
    · exact .inr (List.mem_cons_of_mem l hmem)

theorem mem_merge (h : label ∈ (s.merge t).toList) : label ∈ s.toList ∨ label ∈ t.toList := by
  rw [LabelSet.merge, TreeMap.foldl_eq_foldl_toList] at h
  exact mem_toList_of_foldl_insert _ h

theorem not_mem_toList_empty : label ∉ (∅ : LabelSet).toList := by
  rw [TreeMap.mem_toList_iff_getElem?_eq_some, TreeMap.getElem?_emptyc]
  exact nofun

theorem mem_labelIf {condition : Bool} {name value : String}
    (h : label ∈ (labelIf condition name value).toList) :
    condition = true ∧ label = (name, value) := by
  unfold labelIf at h
  split at h
  · next hcondition =>
    rcases mem_toList_of_foldl_insert [(name, value)] h with hempty | hmem
    · exact absurd hempty not_mem_toList_empty
    · exact ⟨hcondition, List.mem_singleton.mp hmem⟩
  · exact absurd h not_mem_toList_empty

end Labels

namespace SummaryRequest

/-- The kind of thing that traffic must be sent to. -/
def toKind? (r : SummaryRequest) : Option Kind := r.toType.bind Kind.ofName?

/-- The labels that a summary may ask for: each for a name or a namespace of the request, as it is,
or for the direction. -/
inductive Requires (r : SummaryRequest) : String × String → Prop
  | name {k : Kind} {kinds : List Kind} (hkinds : Kind.ofNames? r.type = some kinds)
    (hk : k ∈ kinds) : r.Requires (k.label, r.name)
  | ns : r.Requires (namespaceLabel, r.ns)
  | toName {k : Kind} (hk : r.toKind? = some k) :
    r.Requires (if k.isResource then "dst_" ++ k.label else k.label, r.toName)
  | toNs {k : Kind} (hk : r.toKind? = some k) : r.Requires ("dst_" ++ namespaceLabel, r.toNs)
  | direction :
    r.Requires ("direction", if r.toKind?.isSome then "outbound" else "inbound")

variable {r : SummaryRequest} {p : SummaryPlan} {label : String × String}

theorem Requires.isLabelName (h : r.Requires label) : IsLabelName label.1 := by
  have hkind : ∀ k : Kind, IsLabelName k.label := by
    intro k
    cases k <;> decide
  have hdst : ∀ k : Kind, IsLabelName ("dst_" ++ k.label) := by
    intro k
    cases k <;> decide
  cases h with
  | name _ _ => exact hkind _
  | ns => exact hkind .ns
  | toName _ =>
    split
    · exact hdst _
    · exact hkind _
  | toNs _ => exact hdst .ns
  | direction =>
    change IsLabelName "direction"
    decide

theorem destination_eq_ok {d : Option Selection} (h : r.destination = .ok d) :
    d = r.toKind?.map fun k => ⟨k, r.toNs, r.toName⟩ := by
  unfold destination toKind? at *
  cases htype : r.toType with
  | none =>
    rw [htype] at h
    exact (Except.ok.inj h).symm
  | some type =>
    rw [htype] at h
    simp only [Option.getD_some] at h
    rw [Option.bind_some]
    split at h
    · next hempty =>
      rw [String.isEmpty_iff] at hempty
      subst hempty
      exact (Except.ok.inj h).symm
    · split at h
      · cases h
      · split at h
        · next k hk =>
          rw [hk]
          exact (Except.ok.inj h).symm
        · cases h

theorem plan_eq_ok (h : r.plan = .ok p) : Kind.ofNames? r.type = some p.kinds ∧ p.ns = r.ns ∧
    p.name = r.name ∧ p.window = r.window ∧ r.destination = .ok p.destination := by
  unfold plan at h
  split at h
  · cases h
  · next kinds hkinds =>
    repeat' split at h
    any_goals cases h
    cases hdestination : r.destination with
    | error e =>
      rw [hdestination] at h
      cases h
    | ok d =>
      rw [hdestination] at h
      cases h
      exact ⟨hkinds, rfl, rfl, rfl, rfl⟩

end SummaryRequest

/-! ## Queries -/

/-- A template of texts with a placeholder after each, and a last text. -/
def templateOf (pieces : List (String × Placeholder)) (last : String) : List Char :=
  (pieces.flatMap fun piece => piece.1.toList ++ piece.2.source) ++ last.toList

/-- A text without quotes and braces that open. -/
abbrev IsPlain (s : String) : Prop := '\\' ∉ s.toList ∧ '"' ∉ s.toList ∧ '\x7b' ∉ s.toList

theorem toList_requestTemplate : requestTemplate.toList =
    templateOf [("sum(increase(response_total", .labels), ("[", .window), ("])) by (", .groupBy)]
      ", classification, tls)" := by rfl

theorem toList_latencyTemplate : latencyTemplate.toList =
    templateOf [("histogram_quantile(", .quantile),
      (", sum(irate(response_latency_ms_bucket", .labels), ("[", .window),
      ("])) by (le, ", .groupBy)] "))" := by rfl

section Queries

variable {p : Placeholders} {pieces : List (String × Placeholder)} {last : String}

theorem renderFrom_templateOf (hlast : IsPlain last)
    (hpieces : ∀ piece ∈ pieces, IsPlain piece.1 ∧ piece.2.HasValue p.quantile.isSome) :
    renderFrom p (templateOf pieces last) =
      (pieces.flatMap fun piece => piece.1.toList ++ piece.2.value p) ++ last.toList := by
  induction pieces with
  | nil =>
    have hcopied : renderFrom p (last.toList ++ []) = last.toList ++ renderFrom p [] :=
      renderFrom_append hlast.2.2
    rwa [renderFrom, List.append_nil] at hcopied
  | cons piece pieces ih =>
    obtain ⟨hplain, hvalue⟩ := hpieces piece List.mem_cons_self
    have hrest := ih fun q hq => hpieces q (List.mem_cons_of_mem piece hq)
    rw [templateOf] at hrest
    rw [templateOf, List.flatMap_cons, List.append_assoc, List.append_assoc,
      renderFrom_append hplain.2.2, renderFrom_source hvalue, hrest, List.flatMap_cons,
      List.append_assoc, List.append_assoc]

theorem inert_pieces (hpieces : ∀ piece ∈ pieces, IsPlain piece.1 ∧ Inert (piece.2.value p)) :
    Inert (pieces.flatMap fun piece => piece.1.toList ++ piece.2.value p) := by
  induction pieces with
  | nil => exact inert_nil
  | cons piece pieces ih =>
    obtain ⟨hplain, hvalue⟩ := hpieces piece List.mem_cons_self
    exact ((inert_of_notMem hplain.1 hplain.2.1).append hvalue).append
      (ih fun q hq => hpieces q (List.mem_cons_of_mem piece hq))

theorem inert_window {window : String} (h : IsWindow window) : Inert window.toList := by
  obtain ⟨digits, unit, hunit, hwindow, hdigits, -⟩ := h
  have hunits : ∀ unit ∈ windowUnits, '\\' ∉ unit.toList ∧ '"' ∉ unit.toList := by decide
  have hnumber : Inert digits := by
    refine inert_of_notMem (fun hmem => ?_) (fun hmem => ?_)
    · exact absurd (hdigits _ hmem) (by decide)
    · exact absurd (hdigits _ hmem) (by decide)
  rw [hwindow]
  exact hnumber.append (inert_of_notMem (hunits unit hunit).1 (hunits unit hunit).2)

/-- A query is read back if its template has one selector and all other values are inert. -/
theorem readLabels_render {s : LabelSet} {template : String} (text last : String)
    (front back : List (String × Placeholder)) (hlabels : p.labels = s.text)
    (hnames : s.IsNamed)
    (htemplate : template.toList = templateOf (front ++ (text, .labels) :: back) last)
    (htext : IsPlain text) (hlast : IsPlain last)
    (hpieces : ∀ piece ∈ front ++ back, IsPlain piece.1 ∧ Inert (piece.2.value p) ∧
      piece.2.HasValue p.quantile.isSome) :
    readLabels (renderTemplate p template) = some s.toList := by
  have hfront : ∀ piece ∈ front, IsPlain piece.1 ∧ Inert (piece.2.value p) := fun piece hmem =>
    (hpieces piece (List.mem_append_left back hmem)).imp_right And.left
  have hback : ∀ piece ∈ back, IsPlain piece.1 ∧ Inert (piece.2.value p) := fun piece hmem =>
    (hpieces piece (List.mem_append_right front hmem)).imp_right And.left
  have hvalues : ∀ piece ∈ front ++ (text, .labels) :: back,
      IsPlain piece.1 ∧ piece.2.HasValue p.quantile.isSome := by
    intro piece hmem
    rcases List.mem_append.mp hmem with hmem | hmem
    · exact (hpieces piece (List.mem_append_left back hmem)).imp_right And.right
    · rcases List.mem_cons.mp hmem with rfl | hmem
      · exact ⟨htext, trivial⟩
      · exact (hpieces piece (List.mem_append_right front hmem)).imp_right And.right
  have hrender : (renderTemplate p template).toList =
      (front.flatMap fun piece => piece.1.toList ++ piece.2.value p) ++ text.toList ++
        s.text.toList ++
        ((back.flatMap fun piece => piece.1.toList ++ piece.2.value p) ++ last.toList) := by
    rw [renderTemplate, String.toList_ofList, htemplate, renderFrom_templateOf hlast hvalues]
    simp [Placeholder.value, hlabels]
  exact readLabels_append ((inert_pieces hfront).append (inert_of_notMem htext.1 htext.2.1))
    ((inert_pieces hback).append (inert_of_notMem hlast.1 hlast.2.1)) hnames hrender

end Queries

namespace SummaryRequest

variable {r : SummaryRequest} {p : SummaryPlan} {k : Kind} {label : String × String}

theorem requires_queryLabels (hp : r.plan = .ok p) (hk : k ∈ p.kinds)
    (h : label ∈ (queryLabels (p.selection k)).toList) : r.Requires label := by
  obtain ⟨hkinds, hns, hname, -, -⟩ := plan_eq_ok hp
  unfold SummaryPlan.selection at h
  split at h
  · next hselected =>
    -- a namespace is selected by the namespace of the request
    obtain ⟨rfl, -⟩ := hselected
    rcases mem_merge h with hlabel | hnamespace
    · rw [(mem_labelIf hlabel).2, hns]
      exact .ns
    · exact absurd (mem_labelIf hnamespace).1 (by simp [Selection.asksNamespace])
  · rcases mem_merge h with hlabel | hnamespace
    · rw [(mem_labelIf hlabel).2, hname]
      exact .name hkinds hk
    · rw [(mem_labelIf hnamespace).2, hns]
      exact .ns

theorem requires_destinationLabels {d : Selection}
    (hd : some d = r.toKind?.map fun k => ⟨k, r.toNs, r.toName⟩)
    (h : label ∈ (destinationLabels d).toList) : r.Requires label := by
  obtain ⟨t, ht, rfl⟩ := Option.map_eq_some_iff.mp hd.symm
  unfold destinationLabels at h
  split at h
  · exact absurd h not_mem_toList_empty
  · split at h
    · next hresource =>
      rcases mem_merge h with hlabel | hnamespace
      · rw [(mem_labelIf hlabel).2]
        have hname := Requires.toName ht
        rwa [if_pos hresource] at hname
      · rw [(mem_labelIf hnamespace).2]
        exact .toNs ht
    · next hresource =>
      rw [(mem_labelIf h).2]
      have hname := Requires.toName ht
      rwa [if_neg hresource] at hname

theorem requires_labels (hp : r.plan = .ok p) (hk : k ∈ p.kinds)
    (h : label ∈ (p.labels (p.selection k)).toList) : r.Requires label := by
  obtain ⟨-, -, -, -, hdestination⟩ := plan_eq_ok hp
  have hto := destination_eq_ok hdestination
  have hdirected (h : label ∈ (directionLabels
      (if r.toKind?.isSome then "outbound" else "inbound")).toList) : r.Requires label := by
    rw [(mem_labelIf h).2]
    exact .direction
  have hsome : p.destination.isSome = r.toKind?.isSome := by rw [hto, Option.isSome_map]
  rw [← hsome] at hdirected
  unfold SummaryPlan.labels at h
  split at h
  · next hnone =>
    rw [hnone] at hdirected
    exact (mem_merge h).elim (requires_queryLabels hp hk) hdirected
  · next d hd =>
    rw [hd] at hdirected hto
    rcases mem_merge h with hselected | hdirection
    · exact (mem_merge hselected).elim (requires_queryLabels hp hk)
        (requires_destinationLabels hto)
    · exact hdirected hdirection

theorem inert_window_of_plan (hp : r.plan = .ok p) : Inert p.window.toList := by
  obtain ⟨-, -, -, hwindow, -⟩ := plan_eq_ok hp
  rw [hwindow]
  exact inert_window (valid_of_plan hp).window

/-- Every query of an inquiry gives back the labels that are asked for. -/
theorem readLabels_inquiry (hp : r.plan = .ok p) (hk : k ∈ p.kinds) {query : KeyedQuery}
    (h : query ∈ (p.inquiry k).queries) :
    readLabels query.2 = some (p.labels (p.selection k)).toList := by
  have hnames : ∀ label ∈ (p.labels (p.selection k)).toList, IsLabelName label.1 :=
    fun label hlabel => (requires_labels hp hk hlabel).isLabelName
  have hwindow : Inert p.window.toList := inert_window_of_plan hp
  have hgroup : Inert (groupText (groupLabels k)).toList := by
    cases k <;> exact inert_of_notMem (by decide) (by decide)
  have hquantile : ∀ q : Quantile, Inert q.text.toList := by
    intro q
    cases q <;> exact inert_of_notMem (by decide) (by decide)
  rcases List.mem_append.mp h with hrequest | hlatency
  · obtain ⟨_, hname, rfl⟩ := List.mem_map.mp hrequest
    cases List.mem_singleton.mp hname
    refine readLabels_render "sum(increase(response_total" ", classification, tls)" []
      [("[", .window), ("])) by (", .groupBy)]
      rfl hnames toList_requestTemplate (by decide) (by decide) ?_
    simp only [List.nil_append, List.forall_mem_cons, List.not_mem_nil, false_implies,
      implies_true, and_true]
    exact ⟨⟨by decide, hwindow, trivial⟩, by decide, hgroup, trivial⟩
  · obtain ⟨q, -, rfl⟩ := List.mem_map.mp hlatency
    refine readLabels_render ", sum(irate(response_latency_ms_bucket" "))"
      [("histogram_quantile(", .quantile)] [("[", .window), ("])) by (le, ", .groupBy)]
      rfl hnames toList_latencyTemplate (by decide) (by decide) ?_
    simp only [List.cons_append, List.nil_append, List.forall_mem_cons, List.not_mem_nil,
      false_implies, implies_true, and_true]
    exact ⟨⟨by decide, hquantile q, rfl⟩, ⟨by decide, hwindow, trivial⟩, by decide, hgroup, trivial⟩

theorem requires_meshed (h : label ∈ (labelIf (!r.ns.isEmpty) namespaceLabel r.ns).toList) :
    r.Requires label := by
  rw [(mem_labelIf h).2]
  exact .ns

theorem readLabels_meshedQuery (r : SummaryRequest) : readLabels (meshedQuery r.ns) =
    some (labelIf (!r.ns.isEmpty) namespaceLabel r.ns).toList :=
  readLabels_render "max(process_start_time_seconds" ") by (pod, namespace)" [] [] rfl
    (fun _ hlabel => (requires_meshed hlabel).isLabelName) (by decide) (by decide) (by decide)
    nofun

end SummaryRequest

/-! ## Queries that are sent -/

section Sent

variable {b : Backend} {pods : List PodOwner} {q : String}

theorem mem_queries_andThen {a : Asked α} {f : α → Asked β} (h : q ∈ (a.andThen f).queries) :
    q ∈ a.queries ∨ ∃ x, q ∈ (f x).queries := by
  unfold Asked.andThen at h
  split at h
  · next x _ => exact (List.mem_append.mp h).imp_right fun hx => ⟨x, hx⟩
  · exact .inl h

theorem SummaryPlan.mem_queries_batches {p : SummaryPlan} {meshed : MeshedPods} {kinds : List Kind}
    {previous : Option SummaryBatch}
    (h : q ∈ (p.batches b pods meshed kinds previous).queries) :
    ∃ k ∈ kinds, ∃ query ∈ (p.inquiry k).queries, query.2 = q := by
  induction kinds generalizing previous with
  | nil => cases h
  | cons k kinds ih =>
    rcases mem_queries_andThen h with hinquiry | ⟨results, hrest⟩
    · exact ⟨k, List.mem_cons_self, List.mem_map.mp hinquiry⟩
    · split at hrest
      · cases hrest
      · obtain ⟨k', hk', hquery⟩ := ih hrest
        exact ⟨k', List.mem_cons_of_mem k hk', hquery⟩

theorem queries_ask (query : String) : (ask b query).queries = [query] := by
  unfold ask
  split <;> rfl

/-- Nothing is sent but what a plan asks for. -/
theorem mem_queries_summarize {r : SummaryRequest} (h : q ∈ (summarize b r pods).queries) :
    ∃ p, r.plan = .ok p ∧
      (q = meshedQuery p.ns ∨ ∃ k ∈ p.kinds, ∃ query ∈ (p.inquiry k).queries, query.2 = q) := by
  unfold summarize at h
  split at h
  · cases h
  · next p hp =>
    refine ⟨p, hp, ?_⟩
    rcases mem_queries_andThen h with hmeshed | ⟨meshed, hbatches⟩
    · left
      change q ∈ (ask b (meshedQuery p.ns)).queries at hmeshed
      rw [queries_ask] at hmeshed
      exact List.mem_singleton.mp hmeshed
    · exact .inr (SummaryPlan.mem_queries_batches hbatches)

/-- A query of a summary gives back labels that the request asks for. -/
theorem readLabels_of_sent {r : SummaryRequest} (h : q ∈ (summarize b r pods).queries) :
    ∃ labels : LabelSet, readLabels q = some labels.toList ∧
      ∀ label ∈ labels.toList, r.Requires label := by
  obtain ⟨p, hp, rfl | ⟨k, hk, query, hquery, rfl⟩⟩ := mem_queries_summarize h
  · rw [(SummaryRequest.plan_eq_ok hp).2.1]
    exact ⟨_, r.readLabels_meshedQuery, fun _ => SummaryRequest.requires_meshed⟩
  · exact ⟨_, SummaryRequest.readLabels_inquiry hp hk hquery,
      fun _ => SummaryRequest.requires_labels hp hk⟩

end Sent

/-- Selectors are read back: the only unescaped quotes are those around the values, and what is read
are the labels in order. So a selector is the text of one set of labels only, and the queries that
are sent for a request have no labels but those that it asks for. -/
theorem readLabels_text :
    (∀ s : LabelSet, s.IsNamed →
      cutQuotes false s.text.toList = selectorParts [] [] s.toList ∧
        readLabels s.text = some s.toList) ∧
    (∀ s t : LabelSet, s.IsNamed → t.IsNamed → s.text = t.text → s ~m t) ∧
    ∀ (b : Backend) (r : SummaryRequest) (pods : List PodOwner) (q : String),
      q ∈ (summarize b r pods).queries → ∃ labels : LabelSet,
        readLabels q = some labels.toList ∧ ∀ label ∈ labels.toList, r.Requires label := by
  have hread (s : LabelSet) (hs : s.IsNamed) : readLabels s.text = some s.toList :=
    readLabels_append inert_nil inert_nil hs (List.append_nil _).symm
  refine ⟨fun s hs => ⟨?_, hread s hs⟩, fun s t hs ht htext => ?_,
    fun _ _ _ _ => readLabels_of_sent⟩
  · have hcut := cutQuotes_text inert_nil inert_nil hs
    rwa [List.nil_append, List.append_nil] at hcut
  · have hsame := hread s hs
    rw [htext, hread t ht] at hsame
    exact TreeMap.equiv_iff_toList_eq.mpr (Option.some.inj hsame).symm

/-- A value ends like one that is closed and followed by another label. -/
def trickyLabels : LabelSet :=
  (labelIf true "authority" "a\", pod=\"b\\").merge (labelIf true "pod" "\u0301\n")

/-- The name of a pod that looks like the end of a selector. -/
def trickyRequest : SummaryRequest := { type := "po", name := "web\"\x7d or up\x7b", ns := "a\\" }

theorem readLabels_text_tricky :
    trickyLabels.IsNamed ∧ readLabels trickyLabels.text = some trickyLabels.toList ∧
      trickyLabels ~m trickyLabels ∧
      ∃ q ∈ (summarize (fun _ => ⟨.died, 0⟩) trickyRequest []).queries, ∃ labels : LabelSet,
        readLabels q = some labels.toList ∧
          ∀ label ∈ labels.toList, trickyRequest.Requires label := by
  have hnamed : trickyLabels.IsNamed := by
    intro label hlabel
    rcases mem_merge hlabel with hmem | hmem
    · rw [(mem_labelIf hmem).2]
      change IsLabelName "authority"
      decide
    · rw [(mem_labelIf hmem).2]
      change IsLabelName "pod"
      decide
  have hplan : trickyRequest.plan =
      .ok ⟨[.pod], "a\\", "web\"\x7d or up\x7b", "1m", none⟩ := by rfl
  have hsent : meshedQuery "a\\" ∈
      (summarize (fun _ => ⟨.died, 0⟩) trickyRequest []).queries := by
    rw [summarize, hplan]
    exact List.mem_singleton_self _
  obtain ⟨hread, hequal, hqueries⟩ := readLabels_text
  exact ⟨hnamed, (hread _ hnamed).2, hequal _ _ hnamed hnamed rfl, _, hsent,
    hqueries _ _ _ _ hsent⟩

end MeshDestination.Traffic
