import Mathlib.Data.List.Forall2
import MeshDestination.Proofs.Idl.Division
import MeshDestination.Proofs.Idl.Document

/-!
# Lines that are reported

A token is recorded with a line, and so are most errors. An end of a line is counted wherever it
stands, between tokens, in comments of both forms and in texts in quotes, but not directly after the
backslash of a text in quotes. So a line that is reported is less than the true one, which is one
more than the ends of lines before the place, by exactly the ends of lines that are escaped before
it (`Idl.lines_reported`); it is wrong whenever there is one (`Idl.escaped_end_not_counted`).
-/

namespace MeshDestination.Idl

/-! ## Ends of lines -/

namespace TextChar

variable {quote : Char}

/-- The character after a backslash. -/
def escapedChar? : TextChar quote → Option Char
  | plain _ _ _ => none
  | escaped c => some c

theorem count_chars (inner : List (TextChar quote)) :
    (inner.flatMap chars).count '\n' =
      inner.countP isCountedEnd + (inner.filterMap escapedChar?).count '\n' := by
  induction inner with
  | nil => rfl
  | cons t inner ih =>
    rw [List.flatMap_cons, List.count_append, ih, List.countP_cons]
    cases t with
    | plain c _ _ =>
      rw [List.filterMap_cons_none rfl, chars, isCountedEnd, List.count_singleton]
      omega
    | escaped c =>
      have hescaped : (escaped c : TextChar quote).escapedChar? = some c := rfl
      have hbackslash : ['\\', c].count '\n' = [c].count '\n' := List.count_cons_of_ne (by decide)
      rw [List.filterMap_cons_some hescaped, ← List.singleton_append, List.count_append, chars,
        hbackslash, isCountedEnd, if_neg Bool.false_ne_true]
      omega

end TextChar

/-- The characters of a lexeme that stand after a backslash. -/
def Lexeme.escapedChars : Lexeme → List Char
  | .text _ _ inner => inner.filterMap TextChar.escapedChar?
  | _ => []

/-- The line that what follows lexemes begins on: one more than the ends of lines before it. -/
def lineAfter (before : List Lexeme) : Nat := 1 + (before.flatMap Lexeme.chars).count '\n'

/-- What follows lexemes is reported on this line, which is as much too low as ends of lines are
escaped before it. -/
def IsReported (before : List Lexeme) (line : Nat) : Prop :=
  line + (before.flatMap Lexeme.escapedChars).count '\n' = lineAfter before

theorem isReported_nil : IsReported [] 1 := rfl

theorem IsReported.concat {before : List Lexeme} {l : Lexeme} {line line' : Nat}
    (h : IsReported before line)
    (hnext : line' + l.escapedChars.count '\n' = line + l.chars.count '\n') :
    IsReported (before ++ [l]) line' := by
  unfold IsReported lineAfter at h ⊢
  rw [List.flatMap_append, List.count_append, List.flatMap_singleton, List.flatMap_append,
    List.count_append, List.flatMap_singleton]
  omega

/-! ## Reading -/

namespace LexState

variable {line : Nat} {rev : List PlacedToken} {c : Char} {s rest : List Char}

theorem read_lexeme (l : Lexeme) (hend : l.isWord = true → ∀ c ∈ rest.head?, isWordChar c = false)
    (line : Nat) (rev : List PlacedToken) :
    ∃ line', line' + l.escapedChars.count '\n' = line + l.chars.count '\n' ∧
      read ⟨line, .blank, rev⟩ (l.chars ++ rest) =
        read ⟨line', .blank, (l.token?.map (PlacedToken.mk line)).toList ++ rev⟩ rest := by
  cases l with
  | blank c isBlank => exact ⟨_, rfl, read_layout (Lexeme.isLayout_of_token? rfl)⟩
  | lineComment content oneLine => exact ⟨_, rfl, read_layout (Lexeme.isLayout_of_token? rfl)⟩
  | blockComment content unclosed => exact ⟨_, rfl, read_layout (Lexeme.isLayout_of_token? rfl)⟩
  | word w nonempty chars =>
    have hcount : w.toList.count '\n' = 0 :=
      List.count_eq_zero.mpr fun h => absurd (chars _ h) (by decide)
    exact ⟨line, by rw [Lexeme.chars, hcount]; rfl, read_word nonempty chars (hend rfl)⟩
  | symbol c accepted =>
    have hcount : [c].count '\n' = 0 :=
      List.count_eq_zero.mpr fun h => absurd (List.mem_singleton.mp h ▸ accepted) (by decide)
    exact ⟨line, by rw [Lexeme.chars, hcount]; rfl, read_cons (step_symbol accepted)⟩
  | text quote isQuote inner =>
    have hquote : quote ≠ '\n' := by rcases isQuote with rfl | rfl <;> decide
    refine ⟨line + inner.countP TextChar.isCountedEnd, ?_, ?_⟩
    · simp only [Lexeme.chars, Lexeme.escapedChars, List.count_append, List.count_cons,
        List.count_nil, TextChar.count_chars, beq_iff_eq, if_neg hquote]
      omega
    · rw [Lexeme.chars, List.append_assoc, List.singleton_append]
      exact read_text isQuote inner

theorem read_error {st : LexState} {e : ParseError} (h : st.step c = .error e) :
    st.read (c :: s) = .error e := by
  rw [read, List.foldlM_cons, h]
  rfl

theorem read_foreign (h : IsForeign c rest) :
    read ⟨line, .blank, rev⟩ (c :: rest) = .error (.character line c) := by
  have hnewline : c ≠ '\n' := fun hc => absurd (hc ▸ h.notBlank) (by decide)
  have hsymbol : ¬symbols.contains c = true := fun hc => h.notSymbol (List.contains_iff_mem.mp hc)
  by_cases hslash : c = '/'
  · subst hslash
    obtain ⟨hline, hblock⟩ := h.notComment rfl
    have hstep : step ⟨line, .blank, rev⟩ '/' = .ok ⟨line, .slash, rev⟩ := rfl
    rw [read_cons hstep]
    cases rest with
    | nil => rfl
    | cons d rest =>
      refine read_error ?_
      simp only [List.head?_cons, ne_eq, Option.some.injEq] at hline hblock
      simp only [step, if_neg hline, if_neg hblock]
  · refine read_error ?_
    simp only [step, stepBlank, if_neg hnewline, h.notBlank, if_neg hslash, if_neg h.notQuote,
      h.notWord, if_neg hsymbol, Bool.false_eq_true, if_false]

/-- What comes of an ending depends on its form only. -/
theorem read_ending (e : Ending) :
    read ⟨line, .blank, rev⟩ e.chars =
      match e.error? line with
      | none => .ok rev.reverse
      | some err => .error err := by
  cases e with
  | complete => rfl
  | lineComment content oneLine =>
    have hread : read ⟨line, .lineComment, rev⟩ (content ++ []) = .ok rev.reverse :=
      (read_lineContent oneLine).trans rfl
    rw [List.append_nil] at hread
    exact (read_cons rfl).trans ((read_cons rfl).trans hread)
  | blockComment content unclosed =>
    obtain ⟨star, hread⟩ : ∃ star, read ⟨line, .blockComment line false, rev⟩ (content ++ []) =
        read ⟨line + content.count '\n', .blockComment line star, rev⟩ [] :=
      read_blockContent false unclosed nofun
    rw [List.append_nil] at hread
    exact (read_cons rfl).trans ((read_cons rfl).trans (hread.trans rfl))
  | text quote isQuote inner backslash =>
    rw [Ending.chars, List.cons_append, read_cons (step_openingQuote isQuote), read_textChars]
    cases backslash <;> rfl
  | foreign c rest isForeign => exact read_foreign isForeign

end LexState

/-! ## Tokens -/

/-- A token is recorded at its place in a text. -/
structure Stands (p : PlacedToken) (site : Site) : Prop where
  token : p.token = site.token
  line : IsReported site.before p.line

theorem map_token_of_stands {placed : List PlacedToken} {sites : List Site}
    (h : List.Forall₂ Stands placed sites) : placed.map (·.token) = sites.map (·.token) := by
  induction h with
  | nil => rfl
  | cons hstands _ ih => rw [List.map_cons, List.map_cons, hstands.token, ih]

/-- The place of a token among others. -/
theorem exists_site {before after : List PlacedToken} {p : PlacedToken} {sites : List Site}
    (h : List.Forall₂ Stands (before ++ p :: after) sites) :
    ∃ sitesBefore site rest, sites = sitesBefore ++ site :: rest ∧
      List.Forall₂ Stands before sitesBefore ∧ Stands p site := by
  induction before generalizing sites with
  | nil =>
    obtain ⟨site, rest, hsite, -, rfl⟩ := List.forall₂_cons_left_iff.mp h
    exact ⟨[], site, rest, rfl, .nil, hsite⟩
  | cons q before ih =>
    obtain ⟨first, others, hfirst, hothers, rfl⟩ := List.forall₂_cons_left_iff.mp h
    obtain ⟨sitesBefore, site, rest, rfl, hbefore, hsite⟩ := ih hothers
    exact ⟨first :: sitesBefore, site, rest, rfl, .cons hfirst hbefore, hsite⟩

/-- A lexeme that is a word ends before what follows it in a division. -/
theorem isWordChar_head_of_parted {l : Lexeme} {ls : List Lexeme}
    (h : (l :: ls).IsChain Lexeme.Parted) (e : Ending) (hword : l.isWord = true) :
    ∀ c ∈ (ls.flatMap Lexeme.chars ++ e.chars).head?, isWordChar c = false := by
  cases ls with
  | nil => exact e.isWordChar_head
  | cons m ls =>
    intro c hc
    refine Lexeme.isWordChar_head ((List.isChain_cons.mp h).1 m rfl hword) c ?_
    obtain ⟨d, r, hchars⟩ := List.exists_cons_of_ne_nil m.chars_ne_nil
    rw [List.flatMap_cons, hchars] at hc
    rw [hchars]
    exact hc

theorem read_lexemes {ls : List Lexeme} (hparted : ls.IsChain Lexeme.Parted) (e : Ending)
    {before : List Lexeme} {line : Nat} (hline : IsReported before line)
    (rev : List PlacedToken) :
    ∃ line' placed, IsReported (before ++ ls) line' ∧
      List.Forall₂ Stands placed (sitesAfter before ls) ∧
      LexState.read ⟨line, .blank, rev⟩ (ls.flatMap Lexeme.chars ++ e.chars) =
        LexState.read ⟨line', .blank, placed.reverse ++ rev⟩ e.chars := by
  induction ls generalizing before line rev with
  | nil => exact ⟨line, [], by rwa [List.append_nil], .nil, rfl⟩
  | cons l ls ih =>
    obtain ⟨next, hnext, hlexeme⟩ :=
      LexState.read_lexeme l (isWordChar_head_of_parted hparted e) line rev
    obtain ⟨line', placed, hline', hstands, hread⟩ := ih hparted.tail (hline.concat hnext)
      ((l.token?.map (PlacedToken.mk line)).toList ++ rev)
    refine ⟨line', (l.token?.map (PlacedToken.mk line)).toList ++ placed, ?_, ?_, ?_⟩
    · rwa [List.append_assoc] at hline'
    · rw [sitesAfter]
      cases l.token? with
      | none => exact hstands
      | some t => exact .cons ⟨rfl, hline⟩ hstands
    · rw [List.flatMap_cons, List.append_assoc, hlexeme, hread]
      cases l.token? <;> simp

/-- The tokens of a division are recorded, unless its ending is at fault. -/
theorem tokenize_division (d : Division) :
    ∃ line placed, IsReported d.lexemes line ∧ List.Forall₂ Stands placed d.sites ∧
      tokenize d.chars =
        match d.ending.error? line with
        | none => .ok placed
        | some e => .error e := by
  obtain ⟨line, placed, hline, hstands, hread⟩ :=
    read_lexemes d.parted d.ending isReported_nil []
  refine ⟨line, placed, hline, hstands, ?_⟩
  change LexState.read ⟨1, .blank, []⟩ _ = _
  rw [Division.chars, hread, LexState.read_ending, List.append_nil, List.reverse_reverse]

/-! ## Errors -/

/-- The line that an error tells. -/
def ParseError.line? : ParseError → Option Nat
  | .unterminated line _ | .character line _ | .unexpected line _ _ => some line
  | .endOfInput _ => none

theorem Ending.line?_of_error? {e : Ending} {line : Nat} {err : ParseError}
    (h : e.error? line = some err) : err.line? = some line := by
  cases e <;> cases h <;> rfl

namespace ParseState

/-- A token that is not accepted is the one that the error is about. -/
theorem exists_unexpected {st : ParseState} {p : PlacedToken} {e : ParseError}
    (h : st.step p = .error e) : ∃ expected, e = .unexpected p.line expected p.token := by
  obtain ⟨line, t⟩ := p
  simp only [step, beginDeclaration, beginMember, goto, declare] at h
  repeat' split at h
  all_goals cases h
  all_goals exact ⟨_, rfl⟩

/-- An error is about the first token that is not accepted. -/
theorem exists_refused {st : ParseState} {placed : List PlacedToken} {e : ParseError}
    (h : placed.foldlM step st = .error e) :
    ∃ before p after final expected, placed = before ++ p :: after ∧
      st.run? (before.map (·.token)) = some final ∧ final.next? p.token = none ∧
      e = .unexpected p.line expected p.token := by
  induction placed generalizing st with
  | nil => cases h
  | cons p placed ih =>
    have hnext := toOption_step st p.line p.token
    rw [List.foldlM_cons] at h
    cases hstep : st.step p with
    | error e' =>
      rw [hstep] at h hnext
      cases h
      obtain ⟨expected, he⟩ := exists_unexpected hstep
      exact ⟨[], p, placed, st, expected, rfl, rfl, hnext.symm, he⟩
    | ok next =>
      rw [hstep] at h hnext
      obtain ⟨before, q, after, final, expected, rfl, hrun, hrefused, he⟩ := ih h
      refine ⟨p :: before, q, after, final, expected, rfl, ?_, hrefused, he⟩
      rw [List.map_cons, run?_cons, ← hnext]
      exact hrun

end ParseState

/-- An error is about what stands behind some lexemes of a division: its ending, or the first token
that the parser does not accept. -/
inductive Division.Blames (d : Division) : ParseError → List Lexeme → Prop
  | ending {line : Nat} {e : ParseError} (fault : d.ending.error? line = some e) :
    d.Blames e d.lexemes
  | token {line : Nat} {expected : String} {accepted rest : List Site} {site : Site}
    {st : ParseState} (split : d.sites = accepted ++ site :: rest)
    (run : ParseState.run? {} (accepted.map (·.token)) = some st)
    (refused : st.next? site.token = none) :
    d.Blames (.unexpected line expected site.token) site.before

theorem blames_of_declarations {d : Division} {placed : List PlacedToken}
    (hstands : List.Forall₂ Stands placed d.sites) {e : ParseError} {line : Nat}
    (h : declarations placed = .error e) (hline : e.line? = some line) :
    ∃ before, d.Blames e before ∧ IsReported before line := by
  unfold declarations at h
  cases hfold : placed.foldlM ParseState.step {} with
  | ok st =>
    -- At the end of the input something may be missing, but then no line is told.
    rw [hfold] at h
    change st.finish = .error e at h
    unfold ParseState.finish at h
    split at h <;> cases h
    cases hline
  | error e' =>
    rw [hfold] at h
    cases h
    obtain ⟨before, p, after, st, expected, rfl, hrun, hrefused, rfl⟩ :=
      ParseState.exists_refused hfold
    cases hline
    obtain ⟨accepted, site, rest, hsplit, haccepted, hsite⟩ := exists_site hstands
    rw [map_token_of_stands haccepted] at hrun
    rw [hsite.token] at hrefused ⊢
    exact ⟨site.before, .token hsplit hrun hrefused, hsite.line⟩

/-- Every text has a division. In each of its divisions, the line of every token and of every error
that tells one is one more than the ends of lines before the token or the place that the error is
about, less those that are escaped. -/
theorem lines_reported (text : String) :
    (∃ d : Division, d.chars = text.toList) ∧
    ∀ d : Division, d.chars = text.toList →
      (∀ placed, tokenize text.toList = .ok placed → List.Forall₂ Stands placed d.sites) ∧
      (∀ e, tokenize text.toList = .error e →
        ∃ line, d.ending.error? line = some e ∧ IsReported d.lexemes line) ∧
      ∀ e line, parse text = .error e → e.line? = some line →
        ∃ before, d.Blames e before ∧ IsReported before line := by
  refine ⟨exists_division text.toList, fun d hd => ?_⟩
  obtain ⟨line, placed, hline, hstands, htokenize⟩ := tokenize_division d
  rw [hd] at htokenize
  unfold parse
  cases hfault : d.ending.error? line with
  | none =>
    simp only [hfault] at htokenize
    rw [htokenize]
    refine ⟨?_, nofun, fun e line h hline => blames_of_declarations hstands h hline⟩
    rintro _ ⟨⟩
    exact hstands
  | some err =>
    simp only [hfault] at htokenize
    rw [htokenize]
    refine ⟨nofun, ?_, ?_⟩
    · rintro _ ⟨⟩
      exact ⟨line, hfault, hline⟩
    · rintro _ line' ⟨⟩ hline'
      cases hline'.symm.trans (Ending.line?_of_error? hfault)
      exact ⟨d.lexemes, .ending hfault, hline⟩

/-- Ends of lines in a comment, in a text and after a backslash in it, and after a comment. -/
def tangledText : String := "/*\n*/ x \"\n\\\n\"; // y\n)"

/-- Its lexemes. -/
def tangledLexemes : List Lexeme :=
  [.blockComment ['\n'] (by decide), .blank ' ' (by decide),
    .word "x" (by decide) (List.all_eq_true.mp (by decide)), .blank ' ' (by decide),
    .text '"' (.inl rfl) [.plain '\n' (by decide) (by decide), .escaped '\n'],
    .symbol ';' (by decide), .blank ' ' (by decide), .lineComment [' ', 'y'] (by decide),
    .symbol ')' (by decide)]

/-- The parenthesis stands on the fifth line, and behind it may begin a comment that is not closed.
Both are reported on the fourth. -/
theorem lines_reported_tangled :
    (∃ d : Division, d.chars = tangledText.toList ∧ d.lexemes = tangledLexemes ∧
      (∃ placed, tokenize tangledText.toList = .ok placed ∧ List.Forall₂ Stands placed d.sites) ∧
      ∃ e, parse tangledText = .error e ∧ e.line? = some 4 ∧
        ∃ before, d.Blames e before ∧ IsReported before 4) ∧
    ∃ d : Division, d.chars = (tangledText ++ "/*").toList ∧ d.lexemes = tangledLexemes ∧
      ∃ e, tokenize (tangledText ++ "/*").toList = .error e ∧
        ∃ line, d.ending.error? line = some e ∧ IsReported d.lexemes line := by
  have hparted : tangledLexemes.IsChain Lexeme.Parted := by
    simp [tangledLexemes, Lexeme.Parted, Lexeme.isWord]
  constructor
  · let d : Division := ⟨tangledLexemes, hparted, .complete⟩
    have hd : d.chars = tangledText.toList := by rfl
    have hplaced : tokenize tangledText.toList = .ok [⟨2, .word "x"⟩, ⟨2, .text "\n\n"⟩,
        ⟨3, .symbol ';'⟩, ⟨4, .symbol ')'⟩] := by rfl
    have hparse : parse tangledText = .error (.unexpected 4 "a declaration" (.symbol ')')) := by
      rfl
    obtain ⟨htokens, -, herrors⟩ := (lines_reported tangledText).2 d hd
    exact ⟨d, hd, rfl, ⟨_, hplaced, htokens _ hplaced⟩, _, hparse, rfl, herrors _ 4 hparse rfl⟩
  · let d : Division := ⟨tangledLexemes, hparted, .blockComment [] (by decide)⟩
    have hd : d.chars = (tangledText ++ "/*").toList := by rfl
    have herror : tokenize (tangledText ++ "/*").toList = .error (.unterminated 4 "comment") := by
      rfl
    obtain ⟨-, hfault, -⟩ := (lines_reported (tangledText ++ "/*")).2 d hd
    exact ⟨d, hd, rfl, _, herror, hfault _ herror⟩

/-- The end of the first line stands after a backslash in a text. What follows on the third line is
recorded with the second, and so is every error there. -/
theorem escaped_end_not_counted :
    let before := "option x = \"a\\\nb\";\n"
    1 + before.toList.count '\n' = 3 ∧
      tokenize (before ++ ";").toList = .ok [⟨1, .word "option"⟩, ⟨1, .word "x"⟩, ⟨1, .symbol '='⟩,
        ⟨1, .text "a\nb"⟩, ⟨1, .symbol ';'⟩, ⟨2, .symbol ';'⟩] ∧
      parse (before ++ "?") = .error (.character 2 '?') ∧
      parse (before ++ "/*") = .error (.unterminated 2 "comment") ∧
      parse (before ++ ")") = .error (.unexpected 2 "a declaration" (.symbol ')')) := by
  refine ⟨by decide, by rfl, by rfl, by rfl, by rfl⟩

end MeshDestination.Idl
