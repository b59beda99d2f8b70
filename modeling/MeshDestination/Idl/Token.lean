import MeshDestination.Text.Property
import MeshDestination.Text.Quoted

/-!
# Tokens of interface definitions

Definitions are words, quoted texts and symbols, with blanks and comments of two forms between them.
They are read one character at a time; every token knows the line that it begins on.
-/

namespace MeshDestination.Idl

open Text

/-- A token. -/
inductive Token where
  /-- Names, dotted names and numbers. -/
  | word (s : String)
  | text (s : String)
  | symbol (c : Char)
  deriving DecidableEq

/-- A token with the line that it begins on. -/
structure PlacedToken where
  line : Nat
  token : Token
  deriving DecidableEq

/-- Why a definition cannot be read. -/
inductive ParseError where
  | unterminated (line : Nat) (what : String)
  | character (line : Nat) (found : Char)
  | unexpected (line : Nat) (expected : String) (found : Token)
  | endOfInput (expected : String)
  deriving DecidableEq

/-- A token as an error message shows it. -/
def Token.shown : Token → String
  | .word s => quoted s
  | .text s => "string " ++ quoted s
  | .symbol c => quotedChar c

/-- The wording of an error. -/
def ParseError.message : ParseError → String
  | .unterminated line what => "line " ++ toString line ++ ": unterminated " ++ what
  | .character line found =>
    "line " ++ toString line ++ ": unexpected character " ++ quotedChar found
  | .unexpected line expected found =>
    "line " ++ toString line ++ ": expected " ++ expected ++ ", found " ++ found.shown
  | .endOfInput expected => "unexpected end of input, expected " ++ expected

/-- Characters of words. -/
def isWordChar (c : Char) : Bool := isAlphanumeric c || c == '_' || c == '.'

/-- Characters that are symbols. -/
def symbols : List Char :=
  ['\x7b', '\x7d', '(', ')', '[', ']', '<', '>', ';', '=', ',', ':', '-', '+']

/-- What the characters read last belong to. -/
inductive LexMode where
  | blank
  /-- A word; its characters, last first. -/
  | word (rev : List Char)
  /-- A slash that must open a comment. -/
  | slash
  | lineComment
  /-- A comment that begins on a line; whether the last character was a star. -/
  | blockComment (start : Nat) (star : Bool)
  /-- A quoted text that begins on a line; its characters, last first. -/
  | text (start : Nat) (quote : Char) (rev : List Char)
  /-- The same after a backslash. -/
  | escape (start : Nat) (quote : Char) (rev : List Char)
  deriving DecidableEq

/-- What is known after some characters. -/
structure LexState where
  line : Nat := 1
  mode : LexMode := .blank
  /-- The complete tokens, last first. -/
  rev : List PlacedToken := []
  deriving DecidableEq

namespace LexState

/-- Adds a token. -/
def push (st : LexState) (line : Nat) (t : Token) : LexState :=
  { st with mode := .blank, rev := ⟨line, t⟩ :: st.rev }

/-- A character between tokens. -/
def stepBlank (st : LexState) (c : Char) : Except ParseError LexState :=
  if c = '\n' then .ok { st with line := st.line + 1, mode := .blank }
  else if isBlank c then .ok { st with mode := .blank }
  else if c = '/' then .ok { st with mode := .slash }
  else if c = '"' ∨ c = '\'' then .ok { st with mode := .text st.line c [] }
  else if isWordChar c then .ok { st with mode := .word [c] }
  else if symbols.contains c then .ok (st.push st.line (.symbol c))
  else .error (.character st.line c)

/-- One character further. Within a quoted text, the character after a backslash stands for itself
and is never taken for the end of a line. -/
def step (st : LexState) (c : Char) : Except ParseError LexState :=
  match st.mode with
  | .blank => st.stepBlank c
  | .word rev =>
    if isWordChar c then .ok { st with mode := .word (c :: rev) }
    else (st.push st.line (.word (String.ofList rev.reverse))).stepBlank c
  | .slash =>
    if c = '/' then .ok { st with mode := .lineComment }
    else if c = '*' then .ok { st with mode := .blockComment st.line false }
    else .error (.character st.line '/')
  | .lineComment =>
    if c = '\n' then .ok { st with line := st.line + 1, mode := .blank } else .ok st
  | .blockComment start star =>
    if c = '/' ∧ star = true then .ok { st with mode := .blank }
    else
      let line := if c = '\n' then st.line + 1 else st.line
      .ok { st with line, mode := .blockComment start (c = '*') }
  | .text start quote rev =>
    if c = '\\' then .ok { st with mode := .escape start quote rev }
    else if c = quote then .ok (st.push start (.text (String.ofList rev.reverse)))
    else
      let line := if c = '\n' then st.line + 1 else st.line
      .ok { st with line, mode := .text start quote (c :: rev) }
  | .escape start quote rev => .ok { st with mode := .text start quote (c :: rev) }

/-- The tokens, when there are no more characters. -/
def finish (st : LexState) : Except ParseError (List PlacedToken) :=
  match st.mode with
  | .blank | .lineComment => .ok st.rev.reverse
  | .word rev => .ok (st.push st.line (.word (String.ofList rev.reverse))).rev.reverse
  | .slash => .error (.character st.line '/')
  | .blockComment start _ => .error (.unterminated start "comment")
  | .text start _ _ | .escape start _ _ => .error (.unterminated start "string")

end LexState

/-- The tokens of a text. -/
def tokenize (s : List Char) : Except ParseError (List PlacedToken) := do
  let st ← s.foldlM LexState.step {}
  st.finish

end MeshDestination.Idl
