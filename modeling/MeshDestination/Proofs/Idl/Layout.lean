import Mathlib.Data.List.Chain
import MeshDestination.Idl.Token

/-!
# Layout

Between tokens stand blanks and comments (`Idl.IsLayout`). A reader between two tokens stays there
whatever the layout (`LexState.read_layout`), and takes a written token for that token
(`LexState.read_written`); a word is complete as soon as something else follows. So layout decides
nothing but the lines that tokens stand on: the tokens that are read are those that were written,
provided that something parts neighbouring words (`Idl.tokens_tokenize`).
-/

namespace MeshDestination.Idl

open Text

/-! ## What is written -/

/-- Blanks and comments in any mixture. A comment up to the end of its line includes the end; one
between its two marks ends at the first closing mark. -/
inductive IsLayout : List Char → Prop
  | nil : IsLayout []
  | blank {c : Char} {rest : List Char} (isBlank : isBlank c = true) (layout : IsLayout rest) :
    IsLayout (c :: rest)
  | lineComment {content rest : List Char} (oneLine : '\n' ∉ content) (layout : IsLayout rest) :
    IsLayout ('/' :: '/' :: content ++ '\n' :: rest)
  | blockComment {content rest : List Char} (unclosed : ¬['*', '/'] <:+: content)
    (layout : IsLayout rest) : IsLayout ('/' :: '*' :: content ++ '*' :: '/' :: rest)

/-- A character of a text in quotes. The quote and the backslash are escaped. -/
def escapedIn (quote c : Char) : List Char := if c = quote ∨ c = '\\' then ['\\', c] else [c]

/-- A character that is read of a text in quotes. Any character may stand after a backslash. -/
inductive TextChar (quote : Char) where
  | plain (c : Char) (notQuote : c ≠ quote) (notBackslash : c ≠ '\\')
  | escaped (c : Char)

namespace TextChar

variable {quote : Char}

/-- A character as it stands in the text. -/
def chars : TextChar quote → List Char
  | plain c _ _ => [c]
  | escaped c => ['\\', c]

/-- The character that is read. -/
def value : TextChar quote → Char
  | plain c _ _ => c
  | escaped c => c

/-- An end of a line is counted unless it is escaped. -/
def isCountedEnd : TextChar quote → Bool
  | plain c _ _ => c == '\n'
  | escaped _ => false

/-- A character as `escapedIn` writes it. -/
def ofChar (quote c : Char) : TextChar quote :=
  if h : c = quote ∨ c = '\\' then escaped c
  else plain c (fun hc => h (.inl hc)) (fun hc => h (.inr hc))

theorem flatMap_ofChar (quote : Char) (s : List Char) :
    (s.map (ofChar quote)).flatMap chars = s.flatMap (escapedIn quote) := by
  rw [List.flatMap_map]
  refine congrArg (List.flatMap · s) (funext fun c => ?_)
  unfold ofChar escapedIn
  split <;> rfl

theorem map_value_ofChar (quote : Char) (s : List Char) :
    (s.map (ofChar quote)).map value = s := by
  rw [List.map_map]
  refine (congrArg (List.map · s) (funext fun c => ?_)).trans (List.map_id s)
  change (ofChar quote c).value = c
  unfold ofChar
  split <;> rfl

end TextChar

/-- How tokens are written. -/
inductive Written : Token → List Char → Prop
  | word {s : String} (nonempty : s.toList ≠ [])
    (chars : ∀ c ∈ s.toList, isWordChar c = true) : Written (.word s) s.toList
  | symbol {c : Char} (accepted : c ∈ symbols) : Written (.symbol c) [c]
  | text (s : String) {quote : Char} (isQuote : quote = '"' ∨ quote = '\'') :
    Written (.text s) (quote :: s.toList.flatMap (escapedIn quote) ++ [quote])

/-- The token is a word. -/
def Token.isWord : Token → Bool
  | .word _ => true
  | _ => false

/-- A token as it is written, with the layout after it. -/
structure Piece where
  token : Token
  written : List Char
  layout : List Char
  isWritten : Written token written
  isLayout : IsLayout layout

/-- A piece with its layout, as it is written. -/
def Piece.chars (p : Piece) : List Char := p.written ++ p.layout

/-- Two words do not run into each other. -/
def Piece.Parted (p q : Piece) : Prop :=
  p.token.isWord = true → q.token.isWord = true → p.layout ≠ []

/-! ## First characters -/

theorem isWordChar_of_isBlank {c : Char} (h : isBlank c = true) : isWordChar c = false := by
  have hblanks : ∀ n ∈ [9, 10, 11, 12, 13, 0x20, 0x85, 0xA0, 0x1680, 0x2000, 0x2001, 0x2002, 0x2003,
      0x2004, 0x2005, 0x2006, 0x2007, 0x2008, 0x2009, 0x200A, 0x2028, 0x2029, 0x202F, 0x205F,
      0x3000], isWordChar (Char.ofNat n) = false := by decide +kernel
  rw [← Char.ofNat_toNat c]
  refine hblanks c.toNat ?_
  simp only [isBlank, Bool.or_eq_true, Bool.and_eq_true, decide_eq_true_eq, beq_iff_eq] at h
  simp only [List.mem_cons, List.not_mem_nil, or_false]
  omega

/-- No word goes on into a layout. -/
theorem IsLayout.isWordChar_head {s : List Char} (h : IsLayout s) :
    ∀ c ∈ s.head?, isWordChar c = false := by
  cases h with
  | nil => exact nofun
  | blank isBlank _ =>
    rintro c ⟨⟩
    exact isWordChar_of_isBlank isBlank
  | lineComment _ _ =>
    rintro c ⟨⟩
    decide
  | blockComment _ _ =>
    rintro c ⟨⟩
    decide

theorem isWordChar_of_mem_symbols {c : Char} (h : c ∈ symbols) : isWordChar c = false := by
  have hall : symbols.all (fun c => !isWordChar c) = true := by decide
  simpa only [Bool.not_eq_true'] using List.all_eq_true.mp hall c h

theorem Written.ne_nil {t : Token} {s : List Char} (h : Written t s) : s ≠ [] := by
  cases h with
  | word nonempty _ => exact nonempty
  | symbol _ => exact List.cons_ne_nil _ _
  | text _ _ => exact List.cons_ne_nil _ _

/-- No word goes on into a token that is no word. -/
theorem Written.isWordChar_head {t : Token} {s : List Char} (h : Written t s)
    (hword : t.isWord = false) : ∀ c ∈ s.head?, isWordChar c = false := by
  cases h with
  | word _ _ => cases hword
  | symbol accepted =>
    rintro c ⟨⟩
    exact isWordChar_of_mem_symbols accepted
  | text _ isQuote =>
    rintro c ⟨⟩
    rcases isQuote with rfl | rfl <;> decide

/-! ## Reading -/

namespace LexState

/-- The tokens of a text that goes on from a state. -/
def read (st : LexState) (s : List Char) : Except ParseError (List PlacedToken) := do
  let st ← s.foldlM step st
  st.finish

variable {st : LexState} {line start : Nat} {rev : List PlacedToken} {c quote : Char}
  {s content rest : List Char}

/-- Lines are counted one character after the other. -/
theorem count_lines (line : Nat) (c : Char) (s : List Char) :
    (if c = '\n' then line + 1 else line) + s.count '\n' = line + (c :: s).count '\n' := by
  rw [List.count_cons]
  by_cases hc : c = '\n'
  · simp only [hc, beq_self_eq_true, if_true]
    omega
  · simp [hc]

theorem read_cons {st' : LexState} (h : st.step c = .ok st') : st.read (c :: s) = st'.read s := by
  rw [read, List.foldlM_cons, h]
  rfl

/-! ### Layout -/

theorem read_lineContent (h : '\n' ∉ content) :
    read ⟨line, .lineComment, rev⟩ (content ++ rest) = read ⟨line, .lineComment, rev⟩ rest := by
  induction content with
  | nil => rfl
  | cons c content ih =>
    obtain ⟨hc, hcontent⟩ := List.ne_and_not_mem_of_not_mem_cons h
    have hstep : step ⟨line, .lineComment, rev⟩ c = .ok ⟨line, .lineComment, rev⟩ := by
      simp only [step, if_neg hc.symm]
    rw [List.cons_append, read_cons hstep]
    exact ih hcontent

theorem read_lineComment (h : '\n' ∉ content) :
    read ⟨line, .lineComment, rev⟩ (content ++ '\n' :: rest) =
      read ⟨line + 1, .blank, rev⟩ rest := by
  rw [read_lineContent h]
  exact read_cons rfl

/-- A comment goes on as long as its closing mark is not complete; a star may have been read of it.
-/
theorem read_blockContent (star : Bool) (hunclosed : ¬['*', '/'] <:+: content)
    (hstar : star = true → content.head? ≠ some '/') :
    ∃ star', read ⟨line, .blockComment start star, rev⟩ (content ++ rest) =
      read ⟨line + content.count '\n', .blockComment start star', rev⟩ rest := by
  induction content generalizing line star with
  | nil => exact ⟨star, rfl⟩
  | cons c content ih =>
    have hopen : ¬(c = '/' ∧ star = true) := by
      rintro ⟨rfl, hread⟩
      exact hstar hread rfl
    have hstep : step ⟨line, .blockComment start star, rev⟩ c =
        .ok ⟨if c = '\n' then line + 1 else line, .blockComment start (c = '*'), rev⟩ := by
      simp only [step, if_neg hopen]
    have hinner : ¬['*', '/'] <:+: content := fun h =>
      hunclosed (h.trans (List.suffix_cons c content).isInfix)
    have hnext : decide (c = '*') = true → content.head? ≠ some '/' := by
      rintro hc hhead
      obtain ⟨after, rfl⟩ := List.head?_eq_some_iff.mp hhead
      rw [of_decide_eq_true hc] at hunclosed
      exact hunclosed ⟨[], after, rfl⟩
    obtain ⟨star', hread⟩ := @ih (if c = '\n' then line + 1 else line) _ hinner hnext
    refine ⟨star', ?_⟩
    rw [List.cons_append, read_cons hstep, hread, count_lines]

theorem read_blockComment (hunclosed : ¬['*', '/'] <:+: content) :
    read ⟨line, .blockComment start false, rev⟩ (content ++ '*' :: '/' :: rest) =
      read ⟨line + content.count '\n', .blank, rev⟩ rest := by
  obtain ⟨star', hread⟩ : ∃ star',
      read ⟨line, .blockComment start false, rev⟩ (content ++ '*' :: '/' :: rest) =
        read ⟨line + content.count '\n', .blockComment start star', rev⟩ ('*' :: '/' :: rest) :=
    read_blockContent false hunclosed nofun
  rw [hread, read_cons rfl, read_cons rfl]
  rfl

theorem read_layout (h : IsLayout s) :
    read ⟨line, .blank, rev⟩ (s ++ rest) = read ⟨line + s.count '\n', .blank, rev⟩ rest := by
  induction h generalizing line with
  | nil => rfl
  | @blank c r isBlank _ ih =>
    have hstep : step ⟨line, .blank, rev⟩ c =
        .ok ⟨if c = '\n' then line + 1 else line, .blank, rev⟩ := by
      simp only [step, stepBlank, isBlank, if_true]
      split <;> rfl
    rw [List.cons_append, read_cons hstep, ih, count_lines]
  | @lineComment content r oneLine _ ih =>
    rw [List.append_assoc, List.cons_append, List.cons_append, read_cons rfl, read_cons rfl,
      List.cons_append, read_lineComment oneLine, ih]
    simp [List.count_eq_zero.mpr oneLine, Nat.add_comm, Nat.add_left_comm]
  | @blockComment content r unclosed _ ih =>
    rw [List.append_assoc, List.cons_append, List.cons_append, read_cons rfl, read_cons rfl,
      List.cons_append, List.cons_append, read_blockComment unclosed, ih]
    simp [Nat.add_assoc]

/-! ### Tokens -/

/-- A text in quotes goes on over its characters. -/
theorem read_textChars (inner : List (TextChar quote)) (done : List Char) :
    read ⟨line, .text start quote done, rev⟩ (inner.flatMap TextChar.chars ++ rest) =
      read ⟨line + inner.countP TextChar.isCountedEnd,
        .text start quote ((inner.map TextChar.value).reverse ++ done), rev⟩ rest := by
  induction inner generalizing line done with
  | nil => rfl
  | cons t inner ih =>
    rw [List.flatMap_cons, List.append_assoc, List.countP_cons, List.map_cons, List.reverse_cons,
      List.append_assoc, List.singleton_append]
    cases t with
    | escaped c => exact (read_cons rfl).trans ((read_cons rfl).trans (ih _))
    | plain c notQuote notBackslash =>
      have hstep : step ⟨line, .text start quote done, rev⟩ c =
          .ok ⟨if c = '\n' then line + 1 else line, .text start quote (c :: done), rev⟩ := by
        simp only [step, if_neg notQuote, if_neg notBackslash]
      rw [TextChar.chars, List.singleton_append, read_cons hstep, ih]
      simp only [TextChar.isCountedEnd, TextChar.value, beq_iff_eq]
      congr 2
      split <;> omega

theorem step_openingQuote (hquote : quote = '"' ∨ quote = '\'') :
    step ⟨line, .blank, rev⟩ quote = .ok ⟨line, .text line quote [], rev⟩ := by
  rcases hquote with rfl | rfl <;> rfl

/-- A text in quotes goes on to the quote that is not escaped. -/
theorem read_text (hquote : quote = '"' ∨ quote = '\'') (inner : List (TextChar quote)) :
    read ⟨line, .blank, rev⟩ (quote :: inner.flatMap TextChar.chars ++ quote :: rest) =
      read ⟨line + inner.countP TextChar.isCountedEnd, .blank,
        ⟨line, .text (String.ofList (inner.map TextChar.value))⟩ :: rev⟩ rest := by
  have hbackslash : quote ≠ '\\' := by rcases hquote with rfl | rfl <;> decide
  have hclose (line' : Nat) (done : List Char) : step ⟨line', .text line quote done, rev⟩ quote =
      .ok ⟨line', .blank, ⟨line, .text (String.ofList done.reverse)⟩ :: rev⟩ := by
    simp only [step, if_neg hbackslash, if_true, push]
  rw [List.cons_append, read_cons (step_openingQuote hquote), read_textChars,
    read_cons (hclose _ _), List.append_nil, List.reverse_reverse]

/-- A word goes on over characters of words. -/
theorem read_wordChars (h : ∀ c ∈ s, isWordChar c = true) (word : List Char) :
    read ⟨line, .word word, rev⟩ (s ++ rest) =
      read ⟨line, .word (s.reverse ++ word), rev⟩ rest := by
  induction s generalizing word with
  | nil => rfl
  | cons c s ih =>
    have hstep : step ⟨line, .word word, rev⟩ c = .ok ⟨line, .word (c :: word), rev⟩ := by
      simp only [step, h c List.mem_cons_self, if_true]
    rw [List.cons_append, read_cons hstep, ih fun d hd => h d (List.mem_cons_of_mem c hd),
      List.reverse_cons, List.append_assoc]
    rfl

/-- Before anything but a character of words, a word is complete. -/
theorem read_wordEnd (h : ∀ c ∈ rest.head?, isWordChar c = false) (word : List Char) :
    read ⟨line, .word word, rev⟩ rest =
      read ⟨line, .blank, ⟨line, .word (String.ofList word.reverse)⟩ :: rev⟩ rest := by
  cases rest with
  | nil => rfl
  | cons c rest =>
    have hstep : step ⟨line, .word word, rev⟩ c =
        step ⟨line, .blank, ⟨line, .word (String.ofList word.reverse)⟩ :: rev⟩ c := by
      simp only [step, h c rfl, Bool.false_eq_true, if_false, push]
    simp only [read, List.foldlM_cons, hstep]

theorem step_wordChar (h : isWordChar c = true) :
    step ⟨line, .blank, rev⟩ c = .ok ⟨line, .word [c], rev⟩ := by
  have hblank : isBlank c = false := Bool.eq_false_iff.mpr fun hc => by
    rw [isWordChar_of_isBlank hc] at h
    cases h
  have hne (d : Char) (hd : isWordChar d = false) : c ≠ d := by
    rintro rfl
    rw [hd] at h
    cases h
  have hquote : ¬(c = '"' ∨ c = '\'') := not_or.mpr ⟨hne '"' (by decide), hne '\'' (by decide)⟩
  simp only [step, stepBlank, hblank, h, if_neg (hne '\n' (by decide)),
    if_neg (hne '/' (by decide)), if_neg hquote, Bool.false_eq_true, if_false, if_true]

theorem step_symbol (h : c ∈ symbols) :
    step ⟨line, .blank, rev⟩ c = .ok ⟨line, .blank, ⟨line, .symbol c⟩ :: rev⟩ := by
  have hall : symbols.all
      (fun c => !isBlank c && c != '\n' && c != '/' && c != '"' && c != '\'') = true := by
    decide
  have hplain := List.all_eq_true.mp hall c h
  simp only [Bool.and_eq_true, Bool.not_eq_true', bne_iff_ne] at hplain
  obtain ⟨⟨⟨⟨hblank, hnewline⟩, hslash⟩, hdouble⟩, hsingle⟩ := hplain
  have hquote : ¬(c = '"' ∨ c = '\'') := not_or.mpr ⟨hdouble, hsingle⟩
  simp only [step, stepBlank, hblank, isWordChar_of_mem_symbols h, List.contains_iff_mem.mpr h,
    if_neg hnewline, if_neg hslash, if_neg hquote, Bool.false_eq_true, if_false, if_true, push]

/-- A word is read, if it does not go on. -/
theorem read_word {w : String} (nonempty : w.toList ≠ [])
    (chars : ∀ c ∈ w.toList, isWordChar c = true)
    (hend : ∀ c ∈ rest.head?, isWordChar c = false) :
    read ⟨line, .blank, rev⟩ (w.toList ++ rest) =
      read ⟨line, .blank, ⟨line, .word w⟩ :: rev⟩ rest := by
  obtain ⟨c, r, hw⟩ := List.exists_cons_of_ne_nil nonempty
  rw [hw] at chars ⊢
  have hr : ∀ d ∈ r, isWordChar d = true := fun d hd => chars d (List.mem_cons_of_mem c hd)
  rw [List.cons_append, read_cons (step_wordChar (chars c List.mem_cons_self)),
    read_wordChars hr, read_wordEnd hend, List.reverse_append, List.reverse_reverse,
    List.reverse_singleton, List.singleton_append, ← hw, String.ofList_toList]

/-- A written token is read as that token; a word, if it does not go on. -/
theorem read_written {t : Token} (h : Written t s)
    (hend : t.isWord = true → ∀ c ∈ rest.head?, isWordChar c = false) (line : Nat)
    (rev : List PlacedToken) :
    ∃ line', read ⟨line, .blank, rev⟩ (s ++ rest) =
      read ⟨line', .blank, ⟨line, t⟩ :: rev⟩ rest := by
  cases h with
  | word nonempty chars => exact ⟨line, read_word nonempty chars (hend rfl)⟩
  | symbol accepted => exact ⟨line, read_cons (step_symbol accepted)⟩
  | @text w quote isQuote =>
    let inner := w.toList.map (TextChar.ofChar quote)
    refine ⟨line + inner.countP TextChar.isCountedEnd, ?_⟩
    rw [List.append_assoc, List.singleton_append, ← TextChar.flatMap_ofChar, read_text isQuote,
      TextChar.map_value_ofChar, String.ofList_toList]

end LexState

/-! ## Pieces -/

/-- A word does not go on into what follows it, if neighbouring words are parted. -/
theorem Piece.isWordChar_head {p : Piece} {ps : List Piece} (h : (p :: ps).IsChain Parted)
    (hword : p.token.isWord = true) :
    ∀ c ∈ (p.layout ++ ps.flatMap chars).head?, isWordChar c = false := by
  intro c hc
  cases hlayout : p.layout with
  | cons d r =>
    rw [hlayout, List.cons_append] at hc
    refine p.isLayout.isWordChar_head c ?_
    rw [hlayout]
    exact hc
  | nil =>
    rw [hlayout, List.nil_append] at hc
    cases h with
    | singleton => cases hc
    | @cons_cons _ q qs hparted _ =>
      have hq : q.token.isWord = false :=
        Bool.eq_false_iff.mpr fun hq => hparted hword hq hlayout
      obtain ⟨d, r, hwritten⟩ := List.exists_cons_of_ne_nil q.isWritten.ne_nil
      refine q.isWritten.isWordChar_head hq c ?_
      rw [List.flatMap_cons, chars, hwritten] at hc
      rw [hwritten]
      exact hc

theorem read_pieces {ps : List Piece} (h : ps.IsChain Piece.Parted) (line : Nat)
    (rev : List PlacedToken) :
    ∃ placed, LexState.read ⟨line, .blank, rev⟩ (ps.flatMap Piece.chars) =
        .ok (rev.reverse ++ placed) ∧ placed.map (·.token) = ps.map (·.token) := by
  induction ps generalizing line rev with
  | nil => exact ⟨[], by rw [List.append_nil]; rfl, rfl⟩
  | cons p ps ih =>
    obtain ⟨line', hwritten⟩ := LexState.read_written p.isWritten (Piece.isWordChar_head h) line rev
    obtain ⟨placed, hread, htokens⟩ := ih h.tail (line' + p.layout.count '\n')
      (⟨line, p.token⟩ :: rev)
    refine ⟨⟨line, p.token⟩ :: placed, ?_, by rw [List.map_cons, htokens, List.map_cons]⟩
    rw [List.flatMap_cons, Piece.chars, List.append_assoc, hwritten,
      LexState.read_layout p.isLayout, hread, List.reverse_cons, List.append_assoc]
    rfl

/-- Tokens that are written with any layout before, between and after them, and with some layout
between neighbouring words, are read as these tokens. -/
theorem tokens_tokenize {before : List Char} (hbefore : IsLayout before) {ps : List Piece}
    (hparted : ps.IsChain Piece.Parted) :
    ∃ placed, tokenize (before ++ ps.flatMap Piece.chars) = .ok placed ∧
      placed.map (·.token) = ps.map (·.token) := by
  obtain ⟨placed, hread, htokens⟩ := read_pieces hparted (1 + before.count '\n') []
  refine ⟨placed, ?_, htokens⟩
  change LexState.read {} _ = _
  exact (LexState.read_layout hbefore).trans hread

/-- Comments hold quotes and stars, texts hold comment marks and quotes, and a comment parts two
words. -/
theorem tokens_tokenize_tangled :
    let text := "//it's \"/*\n rpc/***/v1.Get\"a\\\"\\\\\"/*'*/'// \"*/';".toList
    let tokens : List Token :=
      [.word "rpc", .word "v1.Get", .text "a\"\\", .text "// \"*/", .symbol ';']
    ∃ before, IsLayout before ∧ ∃ ps : List Piece, ps.IsChain Piece.Parted ∧
      before ++ ps.flatMap Piece.chars = text ∧ ps.map (·.token) = tokens ∧
      ∃ placed, tokenize text = .ok placed ∧ placed.map (·.token) = tokens := by
  intro text tokens
  let before := '/' :: '/' :: "it's \"/*".toList ++ ['\n', ' ']
  let ps : List Piece := [
    ⟨.word "rpc", "rpc".toList, '/' :: '*' :: ['*'] ++ ['*', '/'],
      .word (by decide) (List.all_eq_true.mp (by decide)), .blockComment (by decide) .nil⟩,
    ⟨.word "v1.Get", "v1.Get".toList, [],
      .word (by decide) (List.all_eq_true.mp (by decide)), .nil⟩,
    ⟨.text "a\"\\", "\"a\\\"\\\\\"".toList, '/' :: '*' :: ['\''] ++ ['*', '/'],
      .text "a\"\\" (.inl rfl), .blockComment (by decide) .nil⟩,
    ⟨.text "// \"*/", "'// \"*/'".toList, [], .text "// \"*/" (.inr rfl), .nil⟩,
    ⟨.symbol ';', [';'], [], .symbol (by decide), .nil⟩]
  have hbefore : IsLayout before := .lineComment (by decide) (.blank (by decide) .nil)
  have hparted : ps.IsChain Piece.Parted := by
    simp [ps, Piece.Parted, Token.isWord]
  have htext : before ++ ps.flatMap Piece.chars = text := by decide
  obtain ⟨placed, hplaced, htokens⟩ := tokens_tokenize hbefore hparted
  rw [htext] at hplaced
  exact ⟨before, hbefore, ps, hparted, htext, rfl, placed, hplaced, htokens⟩

end MeshDestination.Idl
