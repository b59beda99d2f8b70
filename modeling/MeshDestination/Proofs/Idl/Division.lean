import Mathlib.Data.List.TakeWhile
import MeshDestination.Proofs.Idl.Layout

/-!
# Divisions of a text

Any text at all is a list of lexemes, in which no word goes on into the next, and then an ending:
nothing, a comment or a text in quotes that is not complete, or a character that begins nothing
(`Idl.exists_division`). A division says where each token begins (`Division.sites`) without any
reader.
-/

namespace MeshDestination.Idl

open Text

/-! ## Lexemes and endings -/

/-- A blank, a comment or a token, with all of its characters. -/
inductive Lexeme where
  | blank (c : Char) (isBlank : isBlank c = true)
  | lineComment (content : List Char) (oneLine : '\n' ∉ content)
  | blockComment (content : List Char) (unclosed : ¬['*', '/'] <:+: content)
  | word (w : String) (nonempty : w.toList ≠ []) (chars : ∀ c ∈ w.toList, isWordChar c = true)
  | symbol (c : Char) (accepted : c ∈ symbols)
  | text (quote : Char) (isQuote : quote = '"' ∨ quote = '\'') (inner : List (TextChar quote))

namespace Lexeme

/-- The characters of a lexeme. -/
def chars : Lexeme → List Char
  | blank c _ => [c]
  | lineComment content _ => '/' :: '/' :: content ++ ['\n']
  | blockComment content _ => '/' :: '*' :: content ++ ['*', '/']
  | word w _ _ => w.toList
  | symbol c _ => [c]
  | text quote _ inner => quote :: inner.flatMap TextChar.chars ++ [quote]

/-- The token of a lexeme, if it is not layout. -/
def token? : Lexeme → Option Token
  | word w _ _ => some (.word w)
  | symbol c _ => some (.symbol c)
  | text _ _ inner => some (.text (String.ofList (inner.map TextChar.value)))
  | _ => none

/-- The lexeme is a word. -/
def isWord : Lexeme → Bool
  | word _ _ _ => true
  | _ => false

/-- Two words that stand together are one word. -/
def Parted (l m : Lexeme) : Prop := l.isWord = true → m.isWord = false

theorem chars_ne_nil (l : Lexeme) : l.chars ≠ [] := by
  cases l with
  | word _ nonempty _ => exact nonempty
  | _ => exact List.cons_ne_nil _ _

theorem isLayout_of_token? {l : Lexeme} (h : l.token? = none) : IsLayout l.chars := by
  cases l with
  | blank c isBlank => exact .blank isBlank .nil
  | lineComment content oneLine => exact .lineComment oneLine .nil
  | blockComment content unclosed => exact .blockComment unclosed .nil
  | word _ _ _ => cases h
  | symbol _ _ => cases h
  | text _ _ _ => cases h

theorem isWordChar_of_isWord {l : Lexeme} (h : l.isWord = true) :
    ∀ c ∈ l.chars.head?, isWordChar c = true := by
  cases l with
  | word _ _ chars => exact fun c hc => chars c (List.mem_of_mem_head? hc)
  | _ => cases h

/-- No word goes on into a lexeme that is no word. -/
theorem isWordChar_head {l : Lexeme} (h : l.isWord = false) :
    ∀ c ∈ l.chars.head?, isWordChar c = false := by
  cases l with
  | blank c isBlank => exact (IsLayout.blank isBlank .nil).isWordChar_head
  | lineComment content oneLine => exact (IsLayout.lineComment oneLine .nil).isWordChar_head
  | blockComment content unclosed => exact (IsLayout.blockComment unclosed .nil).isWordChar_head
  | word _ _ _ => cases h
  | symbol c accepted => exact (Written.symbol accepted).isWordChar_head rfl
  | text quote isQuote inner =>
    rintro c ⟨⟩
    rcases isQuote with rfl | rfl <;> decide

end Lexeme

/-- A character that begins no lexeme before some text. -/
structure IsForeign (c : Char) (rest : List Char) : Prop where
  notBlank : isBlank c = false
  notQuote : ¬(c = '"' ∨ c = '\'')
  notWord : isWordChar c = false
  notSymbol : c ∉ symbols
  notComment : c = '/' → rest.head? ≠ some '/' ∧ rest.head? ≠ some '*'

/-- What is left of a text after its lexemes. -/
inductive Ending where
  | complete
  | lineComment (content : List Char) (oneLine : '\n' ∉ content)
  | blockComment (content : List Char) (unclosed : ¬['*', '/'] <:+: content)
  /-- A text without its second quote; it may end with a backslash. -/
  | text (quote : Char) (isQuote : quote = '"' ∨ quote = '\'') (inner : List (TextChar quote))
    (backslash : Bool)
  | foreign (c : Char) (rest : List Char) (isForeign : IsForeign c rest)

namespace Ending

/-- The characters of an ending. -/
def chars : Ending → List Char
  | complete => []
  | lineComment content _ => '/' :: '/' :: content
  | blockComment content _ => '/' :: '*' :: content
  | text quote _ inner backslash =>
    quote :: inner.flatMap TextChar.chars ++ if backslash then ['\\'] else []
  | foreign c rest _ => c :: rest

/-- What is wrong with an ending, if it is reported on some line. -/
def error? (line : Nat) : Ending → Option ParseError
  | complete | lineComment _ _ => none
  | blockComment _ _ => some (.unterminated line "comment")
  | text _ _ _ _ => some (.unterminated line "string")
  | foreign c _ _ => some (.character line c)

theorem isWordChar_head (e : Ending) : ∀ c ∈ e.chars.head?, isWordChar c = false := by
  cases e with
  | complete => exact nofun
  | lineComment _ _ =>
    rintro c ⟨⟩
    decide
  | blockComment _ _ =>
    rintro c ⟨⟩
    decide
  | text _ isQuote _ _ =>
    rintro c ⟨⟩
    rcases isQuote with rfl | rfl <;> decide
  | foreign _ _ isForeign =>
    rintro c ⟨⟩
    exact isForeign.notWord

end Ending

/-! ## Divisions -/

/-- A text as lexemes, of which no two words stand together, and what is left of it. -/
structure Division where
  lexemes : List Lexeme
  parted : lexemes.IsChain Lexeme.Parted
  ending : Ending

/-- A token behind some lexemes. -/
structure Site where
  before : List Lexeme
  token : Token

/-- The tokens among lexemes that stand behind others. -/
def sitesAfter (before : List Lexeme) : List Lexeme → List Site
  | [] => []
  | l :: ls => (l.token?.map (Site.mk before)).toList ++ sitesAfter (before ++ [l]) ls

namespace Division

/-- The text that is divided. -/
def chars (d : Division) : List Char := d.lexemes.flatMap Lexeme.chars ++ d.ending.chars

/-- The tokens, each with all that stands before it. -/
def sites (d : Division) : List Site := sitesAfter [] d.lexemes

end Division

/-! ## Every text is divided -/

/-- A text is an ending, or a lexeme stands at its beginning; if it is a word, it is the whole word.
-/
inductive Begins (s : List Char) : Prop
  | ending (e : Ending) (heq : e.chars = s)
  | lexeme (l : Lexeme) (rest : List Char) (heq : l.chars ++ rest = s)
    (hend : l.isWord = true → ∀ c ∈ rest.head?, isWordChar c = false)

/-- A comment between its marks ends at the first closing mark, if there is one. -/
theorem exists_closing (s : List Char) :
    ¬['*', '/'] <:+: s ∨
      ∃ content rest, ¬['*', '/'] <:+: content ∧ s = content ++ '*' :: '/' :: rest := by
  induction s with
  | nil => exact .inl (by decide)
  | cons c s ih =>
    by_cases hmark : ['*', '/'] <+: c :: s
    · obtain ⟨rest, hrest⟩ := hmark
      exact .inr ⟨[], rest, by decide, hrest.symm⟩
    · rcases ih with hunclosed | ⟨content, rest, hunclosed, rfl⟩
      · exact .inl fun h => (List.infix_cons_iff.mp h).elim hmark hunclosed
      · refine .inr ⟨c :: content, rest, fun h => ?_, rfl⟩
        refine (List.infix_cons_iff.mp h).elim (fun hstart => ?_) hunclosed
        exact hmark (hstart.trans (List.prefix_append (c :: content) _))

theorem begins_comment (s : List Char) : Begins ('/' :: s) := by
  have hforeign (h : s.head? ≠ some '/' ∧ s.head? ≠ some '*') : Begins ('/' :: s) :=
    .ending (.foreign '/' s ⟨by decide, by decide, by decide, by decide, fun _ => h⟩) rfl
  match s with
  | [] => exact hforeign ⟨nofun, nofun⟩
  | c :: s =>
    by_cases hline : c = '/'
    · subst hline
      by_cases hend : '\n' ∈ s
      · obtain ⟨content, rest, rfl, honeLine⟩ := List.eq_append_cons_of_mem hend
        exact .lexeme (.lineComment content honeLine) rest (by simp [Lexeme.chars]) nofun
      · exact .ending (.lineComment s hend) rfl
    · by_cases hblock : c = '*'
      · subst hblock
        rcases exists_closing s with hunclosed | ⟨content, rest, hunclosed, rfl⟩
        · exact .ending (.blockComment s hunclosed) rfl
        · exact .lexeme (.blockComment content hunclosed) rest (by simp [Lexeme.chars]) nofun
      · exact hforeign ⟨by simpa using hline, by simpa using hblock⟩

/-- A text goes on to the first quote that is not escaped, if there is one. -/
theorem exists_textChars (quote : Char) : ∀ s : List Char,
    ∃ inner : List (TextChar quote),
      (∃ backslash : Bool,
        s = inner.flatMap TextChar.chars ++ if backslash then ['\\'] else []) ∨
      ∃ rest, s = inner.flatMap TextChar.chars ++ quote :: rest
  | [] => ⟨[], .inl ⟨false, rfl⟩⟩
  | c :: s => by
    by_cases hbackslash : c = '\\'
    · subst hbackslash
      match s with
      | [] => exact ⟨[], .inl ⟨true, rfl⟩⟩
      | c :: s =>
        obtain ⟨inner, ⟨backslash, rfl⟩ | ⟨rest, rfl⟩⟩ := exists_textChars quote s
        · exact ⟨.escaped c :: inner, .inl ⟨backslash, rfl⟩⟩
        · exact ⟨.escaped c :: inner, .inr ⟨rest, rfl⟩⟩
    · by_cases hquote : c = quote
      · subst hquote
        exact ⟨[], .inr ⟨s, rfl⟩⟩
      · obtain ⟨inner, ⟨backslash, rfl⟩ | ⟨rest, rfl⟩⟩ := exists_textChars quote s
        · exact ⟨.plain c hquote hbackslash :: inner, .inl ⟨backslash, rfl⟩⟩
        · exact ⟨.plain c hquote hbackslash :: inner, .inr ⟨rest, rfl⟩⟩

theorem begins_text {quote : Char} (hquote : quote = '"' ∨ quote = '\'') (s : List Char) :
    Begins (quote :: s) := by
  obtain ⟨inner, ⟨backslash, rfl⟩ | ⟨rest, rfl⟩⟩ := exists_textChars quote s
  · exact .ending (.text quote hquote inner backslash) rfl
  · exact .lexeme (.text quote hquote inner) rest (by simp [Lexeme.chars]) nofun

theorem begins_word {c : Char} (hc : isWordChar c = true) (s : List Char) : Begins (c :: s) := by
  let w := String.ofList ((c :: s).takeWhile isWordChar)
  have hw : w.toList = c :: s.takeWhile isWordChar := by
    rw [String.toList_ofList, List.takeWhile_cons_of_pos hc]
  have hchars : ∀ d ∈ w.toList, isWordChar d = true := by
    rw [String.toList_ofList]
    exact fun d hd => List.mem_takeWhile_imp hd
  refine .lexeme (.word w (by rw [hw]; exact List.cons_ne_nil _ _) hchars)
    ((c :: s).dropWhile isWordChar) ?_ fun _ d hd => ?_
  · rw [Lexeme.chars, String.toList_ofList, List.takeWhile_append_dropWhile]
  · have hstop := List.head?_dropWhile_not isWordChar (c :: s)
    rw [Option.mem_def.mp hd] at hstop
    exact hstop

theorem begins (s : List Char) : Begins s := by
  match s with
  | [] => exact .ending .complete rfl
  | c :: s =>
    by_cases hblank : isBlank c = true
    · exact .lexeme (.blank c hblank) s rfl nofun
    · by_cases hslash : c = '/'
      · exact hslash ▸ begins_comment s
      · by_cases hquote : c = '"' ∨ c = '\''
        · exact begins_text hquote s
        · by_cases hword : isWordChar c = true
          · exact begins_word hword s
          · by_cases hsymbol : c ∈ symbols
            · exact .lexeme (.symbol c hsymbol) s rfl nofun
            · exact .ending (.foreign c s ⟨Bool.eq_false_iff.mpr hblank, hquote,
                Bool.eq_false_iff.mpr hword, hsymbol, fun h => absurd h hslash⟩) rfl

theorem exists_division (s : List Char) : ∃ d : Division, d.chars = s := by
  rcases begins s with ⟨e, heq⟩ | ⟨l, rest, heq, hend⟩
  · exact ⟨⟨[], .nil, e⟩, heq⟩
  · have hlength : rest.length < s.length := by
      have hpos := List.length_pos_iff.mpr l.chars_ne_nil
      rw [← heq, List.length_append]
      omega
    obtain ⟨d, hd⟩ := exists_division rest
    have hparted : (l :: d.lexemes).IsChain Lexeme.Parted := by
      refine List.isChain_cons.mpr ⟨fun m hm hword => Bool.eq_false_iff.mpr fun hm' => ?_, d.parted⟩
      obtain ⟨ls, hls⟩ := List.head?_eq_some_iff.mp hm
      obtain ⟨c, r, hchars⟩ := List.exists_cons_of_ne_nil m.chars_ne_nil
      have hwordChar : isWordChar c = true :=
        Lexeme.isWordChar_of_isWord hm' c (by rw [hchars]; rfl)
      have hrest : c ∈ rest.head? := by
        rw [← hd, Division.chars, hls, List.flatMap_cons, hchars]
        rfl
      rw [hend hword c hrest] at hwordChar
      cases hwordChar
    refine ⟨⟨l :: d.lexemes, hparted, d.ending⟩, ?_⟩
    rw [Division.chars, List.flatMap_cons, List.append_assoc, ← heq, ← hd, Division.chars]
termination_by s.length

end MeshDestination.Idl
