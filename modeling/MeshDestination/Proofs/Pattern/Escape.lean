import MeshDestination.Pattern

/-!
# Escaped texts

An escaped text reads as its characters in a row (`Pattern.parse?_escaped`), so it can be used as a
pattern unless it is too long (`Pattern.isValid_escapeText`), and different texts have different
patterns (`Pattern.escapeText_injective`).
-/

namespace MeshDestination.Pattern

/-- A character as it is written in an escaped text. -/
def escaped (c : Char) : List Char := if isMeta c then ['\\', c] else [c]

theorem escapeText_eq (s : String) : escapeText s = String.ofList (s.toList.flatMap escaped) := rfl

/-! ## Reading -/

/-- A character that stands for itself. -/
def Node.ofChar (c : Char) : Node := .literal ⟨c, false⟩

theorem escape_of_isMeta {c : Char} (h : isMeta c = true) (rest : List Char) :
    escape false (c :: rest) = some (.ofChar c, rest) := by
  have hmem : c ∈ "\\.+*?()|[]\x7b\x7d^$#&-~".toList := List.contains_iff_mem.mp h
  simp at hmem
  rcases hmem with rfl | rfl | rfl | rfl | rfl | rfl | rfl | rfl | rfl | rfl | rfl | rfl | rfl |
    rfl | rfl | rfl | rfl | rfl <;> rfl

theorem readNode_of_isMeta {c : Char} (h : isMeta c = true) (fuel : Nat) (parts : List Node)
    (rest : List Char) :
    readNode (fuel + 1) {} [] parts ('\\' :: c :: rest) =
      readNode fuel {} [] (.ofChar c :: parts) rest := by
  simp [readNode, space, escape_of_isMeta h]

/-- No other character than those that are escaped has a meaning of its own. -/
theorem readNode_of_not_isMeta {c : Char} (h : ¬isMeta c = true) (fuel : Nat) (parts : List Node)
    (rest : List Char) :
    readNode (fuel + 1) {} [] parts (c :: rest) =
      readNode fuel {} [] (.ofChar c :: parts) rest := by
  rw [readNode]
  simp only [space]
  split <;> simp_all [isMeta, Node.ofChar]

theorem readNode_escaped (cs : List Char) (parts : List Node) {fuel : Nat}
    (hfuel : (cs.flatMap escaped).length < fuel) :
    readNode fuel {} [] parts (cs.flatMap escaped) =
      some (Node.ofParts (parts.reverse ++ cs.map .ofChar), {}, false, []) := by
  induction cs generalizing parts fuel with
  | nil =>
    obtain ⟨fuel, rfl⟩ := Nat.exists_eq_add_one_of_ne_zero (Nat.ne_of_gt hfuel)
    rw [List.map_nil, List.append_nil]
    rfl
  | cons c cs ih =>
    -- Every character takes one unit of fuel, an escaped one as well.
    obtain ⟨fuel, rfl⟩ := Nat.exists_eq_add_one_of_ne_zero (Nat.ne_of_gt (Nat.zero_lt_of_lt hfuel))
    rw [List.flatMap_cons, List.length_append] at hfuel
    have hparts : (Node.ofChar c :: parts).reverse ++ cs.map .ofChar =
        parts.reverse ++ (c :: cs).map .ofChar := by simp
    rw [List.flatMap_cons, ← hparts]
    by_cases hmeta : isMeta c = true
    · rw [escaped, if_pos hmeta] at hfuel ⊢
      rw [List.cons_append, List.cons_append, List.nil_append, readNode_of_isMeta hmeta]
      exact ih _ (by simp only [List.length_cons, List.length_nil] at hfuel; omega)
    · rw [escaped, if_neg hmeta] at hfuel ⊢
      rw [List.cons_append, List.nil_append, readNode_of_not_isMeta hmeta]
      exact ih _ (by simp only [List.length_cons, List.length_nil] at hfuel; omega)

theorem parse?_escapeText (s : String) :
    parse? (escapeText s).toList = some (Node.ofParts (s.toList.map .ofChar)) := by
  rw [escapeText_eq, String.toList_ofList, parse?, readNode_escaped _ _ (Nat.lt_succ_self _)]
  rfl

/-! ## Using -/

theorem Node.depth_ofChar (c : Char) : (Node.ofChar c).depth = 0 := by
  simp [Node.ofChar, Node.depth]

theorem Node.size_ofChar (c : Char) : (Node.ofChar c).size = 32 * c.utf8Size := by
  simp [Node.ofChar, Node.size]

theorem depthAll_map_ofChar (cs : List Char) : Node.depthAll (cs.map .ofChar) = 0 := by
  induction cs with
  | nil => rfl
  | cons c cs ih => rw [List.map_cons, Node.depthAll, ih, Node.depth_ofChar, Nat.max_self]

theorem unicodeAfterAll?_map_ofChar (cs : List Char) :
    Node.unicodeAfterAll? true (cs.map .ofChar) = some true := by
  induction cs with
  | nil => rfl
  | cons c cs ih => exact ih

theorem sizeAll_map_ofChar (cs : List Char) :
    Node.sizeAll (cs.map .ofChar) = 32 * (String.ofList cs).utf8ByteSize := by
  induction cs with
  | nil => rfl
  | cons c cs ih =>
    rw [List.map_cons, String.ofList_cons, String.utf8ByteSize_append,
      String.utf8ByteSize_singleton, Node.sizeAll, ih, Node.size_ofChar, Nat.mul_add]

theorem isUsable_ofParts (cs : List Char) :
    (Node.ofParts (cs.map .ofChar)).isUsable = true ↔
      32 * (String.ofList cs).utf8ByteSize ≤ maxSize := by
  match cs with
  | [] => decide
  | [c] =>
    change (Node.ofChar c).isUsable = true ↔ _
    rw [Node.isUsable, Node.depth_ofChar, Node.size_ofChar]
    simp [Node.ofChar, Node.unicodeAfter?]
  | c :: d :: cs =>
    rw [← sizeAll_map_ofChar]
    change (Node.sequence ((c :: d :: cs).map .ofChar)).isUsable = true ↔ _
    rw [Node.isUsable, Node.depth, depthAll_map_ofChar, Node.unicodeAfter?,
      unicodeAfterAll?_map_ofChar, Node.size]
    simp [maxDepth]

/-- An escaped text can be used as a pattern unless it is too long. -/
theorem isValid_escapeText (s : String) :
    isValid (escapeText s) = true ↔ 32 * s.utf8ByteSize ≤ maxSize := by
  have husable := isUsable_ofParts s.toList
  rw [String.ofList_toList] at husable
  rw [isValid, parse?_escapeText]
  exact husable

theorem ofParts_map_ofChar_injective {cs cs' : List Char}
    (h : Node.ofParts (cs.map .ofChar) = Node.ofParts (cs'.map .ofChar)) : cs = cs' := by
  have hchar (c c' : Char) (hc : Node.ofChar c = Node.ofChar c') : c = c' := by
    cases hc
    rfl
  match cs, cs' with
  | [], [] => rfl
  | [], [_] => cases h
  | [], _ :: _ :: _ => cases h
  | [_], [] => cases h
  | [c], [c'] => rw [hchar c c' h]
  | [_], _ :: _ :: _ => cases h
  | _ :: _ :: _, [] => cases h
  | _ :: _ :: _, [_] => cases h
  | c :: d :: cs, c' :: d' :: cs' =>
    have hparts : (c :: d :: cs).map Node.ofChar = (c' :: d' :: cs').map Node.ofChar :=
      Node.sequence.inj h
    exact (List.map_inj_right hchar).mp hparts

/-- Different texts are escaped differently. -/
theorem escapeText_injective {s s' : String} (h : escapeText s = escapeText s') : s = s' := by
  have hnodes := parse?_escapeText s
  rw [h, parse?_escapeText] at hnodes
  exact String.toList_injective (ofParts_map_ofChar_injective (Option.some.inj hnodes.symm))

end MeshDestination.Pattern
