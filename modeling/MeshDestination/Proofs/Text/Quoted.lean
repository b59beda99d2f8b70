import Mathlib.Tactic.SplitIfs
import MeshDestination.Proofs.Net.Ip
import MeshDestination.Text.Quoted

/-!
# Quoted text is read back

A text is read from left to right, and a backslash escapes the character after it. Between the
quotes of a quoted text no quote stands unescaped (`inert_escaped`), so cutting at the unescaped
quotes keeps it whole, and undoing the escapes gives the text itself (`unescape_escaped`).
-/

namespace MeshDestination.Text

open Net (hexDigit? mapM_hexDigit?_toDigits notMem_toDigits_sixteen)

/-- What stands between the quotes of a text in double quotes. -/
def escaped (s : String) : List Char := s.toList.flatMap (escapeChar '"')

theorem toList_quoted (s : String) : (quoted s).toList = '"' :: escaped s ++ ['"'] := by
  rw [quoted, String.toList_ofList, quoteChars, escaped]

/-! ## Escapes -/

/-- The character that a letter behind a backslash stands for. -/
def letter? : Char → Option Char
  | '0' => some '\x00'
  | 't' => some '\t'
  | 'r' => some '\r'
  | 'n' => some '\n'
  | '\\' => some '\\'
  | '"' => some '"'
  | '\'' => some '\''
  | _ => none

/-- What the characters read last belong to. -/
inductive EscapeMode where
  | plain
  /-- The character after a backslash. -/
  | backslash
  /-- The brace of a code point. -/
  | brace
  /-- The digits of a code point, or the brace behind them. -/
  | digits (n : Nat)

/-- What escapes stand for. -/
def unescapeFrom : EscapeMode → List Char → Option (List Char)
  | .plain, [] => some []
  | _, [] => none
  | .plain, c :: r =>
    if c = '\\' then unescapeFrom .backslash r
    else if c = '"' then none
    else (unescapeFrom .plain r).map (c :: ·)
  | .backslash, c :: r =>
    if c = 'u' then unescapeFrom .brace r
    else (letter? c).bind fun d => (unescapeFrom .plain r).map (d :: ·)
  | .brace, c :: r => if c = '\x7b' then unescapeFrom (.digits 0) r else none
  | .digits n, c :: r =>
    if c = '\x7d' then
      if n.isValidChar then (unescapeFrom .plain r).map (Char.ofNat n :: ·) else none
    else (hexDigit? c).bind fun d => unescapeFrom (.digits (16 * n + d)) r

/-- What a text between double quotes stands for. -/
def unescape (s : List Char) : Option (List Char) := unescapeFrom .plain s

/-- A character is escaped by a letter or by its code point, or it needs no escape. -/
theorem escapeChar_cases (c : Char) :
    (∃ d, escapeChar '"' c = ['\\', d] ∧ d ≠ 'u' ∧ letter? d = some c) ∨
      escapeChar '"' c = escapeCodePoint c ∨ (escapeChar '"' c = [c] ∧ c ≠ '\\' ∧ c ≠ '"') := by
  unfold escapeChar
  split_ifs with h0 ht hr hn hquote hcode
  · exact .inl ⟨'0', rfl, by decide, h0 ▸ rfl⟩
  · exact .inl ⟨'t', rfl, by decide, ht ▸ rfl⟩
  · exact .inl ⟨'r', rfl, by decide, hr ▸ rfl⟩
  · exact .inl ⟨'n', rfl, by decide, hn ▸ rfl⟩
  · rcases hquote with rfl | rfl
    · exact .inl ⟨'\\', rfl, by decide, rfl⟩
    · exact .inl ⟨'"', rfl, by decide, rfl⟩
  · exact .inr (.inl rfl)
  · exact .inr (.inr ⟨rfl, fun h => hquote (.inl h), fun h => hquote (.inr h)⟩)

section Unescape

variable {c : Char} {s rest : List Char}

theorem unescapeFrom_digits {digits : List Char} {ds : List Nat}
    (hdigits : digits.mapM hexDigit? = some ds) (n : Nat) :
    unescapeFrom (.digits n) (digits ++ rest) =
      unescapeFrom (.digits (ds.foldl (fun n d => 16 * n + d) n)) rest := by
  induction digits generalizing n ds with
  | nil =>
    cases hdigits
    rfl
  | cons c digits ih =>
    rw [List.mapM_cons] at hdigits
    obtain ⟨d, hd, hrest⟩ := Option.bind_eq_some_iff.mp hdigits
    obtain ⟨ds, hds, hcons⟩ := Option.bind_eq_some_iff.mp hrest
    cases hcons
    have hne : c ≠ '\x7d' := by
      rintro rfl
      cases hd
    rw [List.cons_append, unescapeFrom, if_neg hne, hd, Option.bind_some, ih hds, List.foldl_cons]

theorem unescapeFrom_codePoint :
    unescapeFrom .plain (escapeCodePoint c ++ rest) = (unescapeFrom .plain rest).map (c :: ·) := by
  obtain ⟨ds, hds, hvalue⟩ := mapM_hexDigit?_toDigits c.toNat
  have hvalid : c.toNat.isValidChar := c.valid
  have hdigits : unescapeFrom (.digits 0) (Nat.toDigits 16 c.toNat ++ '\x7d' :: rest) =
      (unescapeFrom .plain rest).map (c :: ·) := by
    rw [unescapeFrom_digits hds, hvalue, unescapeFrom, if_pos rfl, if_pos hvalid, Char.ofNat_toNat]
  rw [escapeCodePoint, List.append_assoc, List.append_assoc]
  exact hdigits

theorem unescapeFrom_escapeChar :
    unescapeFrom .plain (escapeChar '"' c ++ rest) =
      (unescapeFrom .plain rest).map (c :: ·) := by
  rcases escapeChar_cases c with ⟨d, hescape, hu, hletter⟩ | hescape | ⟨hescape, hslash, hquote⟩
  · rw [hescape, List.cons_append, unescapeFrom, if_pos rfl, List.singleton_append, unescapeFrom,
      if_neg hu, hletter, Option.bind_some]
  · rw [hescape, unescapeFrom_codePoint]
  · rw [hescape, List.singleton_append, unescapeFrom, if_neg hslash, if_neg hquote]

theorem unescape_flatMap (s : List Char) : unescape (s.flatMap (escapeChar '"')) = some s := by
  induction s with
  | nil => rfl
  | cons c s ih =>
    rw [unescape] at ih ⊢
    rw [List.flatMap_cons, unescapeFrom_escapeChar, ih, Option.map_some]

theorem unescape_escaped (s : String) : unescape (escaped s) = some s.toList :=
  unescape_flatMap s.toList

end Unescape

/-! ## Unescaped quotes -/

/-- The parts of a text between its unescaped double quotes, given whether its first character is
escaped. -/
def cutQuotes (afterBackslash : Bool) : List Char → List (List Char)
  | [] => [[]]
  | c :: r =>
    if c = '"' ∧ afterBackslash = false then [] :: cutQuotes false r
    else (cutQuotes (c = '\\' && !afterBackslash) r).modifyHead (c :: ·)

/-- A text that has no unescaped quote and does not escape what comes after it. -/
def Inert (s : List Char) : Prop :=
  ∀ rest, cutQuotes false (s ++ rest) = (cutQuotes false rest).modifyHead (s ++ ·)

section Inert

variable {c : Char} {s t rest : List Char}

theorem cutQuotes_quote : cutQuotes false ('"' :: rest) = [] :: cutQuotes false rest :=
  if_pos ⟨rfl, rfl⟩

theorem Inert.cutQuotes_eq (h : Inert s) : cutQuotes false s = [s] := by
  have hcut := h []
  rw [List.append_nil] at hcut
  simpa [cutQuotes] using hcut

theorem inert_nil : Inert [] := fun rest => by
  cases hcut : cutQuotes false rest <;> simp [hcut]

theorem Inert.append (hs : Inert s) (ht : Inert t) : Inert (s ++ t) := fun rest => by
  rw [List.append_assoc, hs, ht, List.modifyHead_modifyHead]
  congr 1
  funext part
  simp

theorem inert_char (hslash : c ≠ '\\') (hquote : c ≠ '"') : Inert [c] := fun rest => by
  rw [List.singleton_append, cutQuotes, if_neg (fun h => hquote h.1), decide_eq_false hslash]
  rfl

/-- A backslash takes the character after it along, even a quote. -/
theorem inert_pair (c : Char) : Inert ['\\', c] := fun rest => by
  have hpair : cutQuotes true (c :: rest) = (cutQuotes false rest).modifyHead (c :: ·) := by
    rw [cutQuotes, if_neg (by simp)]
    simp
  rw [List.cons_append, List.singleton_append, cutQuotes, if_neg (by decide)]
  change (cutQuotes true (c :: rest)).modifyHead _ = _
  rw [hpair, List.modifyHead_modifyHead]
  rfl

theorem inert_of_notMem (hslash : '\\' ∉ s) (hquote : '"' ∉ s) : Inert s := by
  induction s with
  | nil => exact inert_nil
  | cons c s ih =>
    rw [List.mem_cons, not_or] at hslash hquote
    exact (inert_char (Ne.symm hslash.1) (Ne.symm hquote.1)).append (ih hslash.2 hquote.2)

theorem inert_escapeCodePoint (c : Char) : Inert (escapeCodePoint c) := by
  have hrest : Inert ('\x7b' :: (Nat.toDigits 16 c.toNat ++ ['\x7d'])) := by
    apply inert_of_notMem
    · simp [notMem_toDigits_sixteen (c := '\\') (by decide)]
    · simp [notMem_toDigits_sixteen (c := '"') (by decide)]
  have happend := (inert_pair 'u').append hrest
  rwa [escapeCodePoint, List.append_assoc]

theorem inert_escapeChar (c : Char) : Inert (escapeChar '"' c) := by
  rcases escapeChar_cases c with ⟨d, hescape, -, -⟩ | hescape | ⟨hescape, hslash, hquote⟩
  · exact hescape ▸ inert_pair d
  · exact hescape ▸ inert_escapeCodePoint c
  · exact hescape ▸ inert_char hslash hquote

theorem inert_escaped (s : String) : Inert (escaped s) := by
  unfold escaped
  induction s.toList with
  | nil => exact inert_nil
  | cons c s ih => exact List.flatMap_cons ▸ (inert_escapeChar c).append ih

end Inert

end MeshDestination.Text
