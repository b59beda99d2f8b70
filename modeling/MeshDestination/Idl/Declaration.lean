import MeshDestination.Idl.Token

/-!
# Declarations of interface definitions

Of a definition only its packages, services and methods matter. All other statements are skipped;
they end at a semicolon or with a block, in which braces must balance.
-/

namespace MeshDestination.Idl

/-- A declaration. -/
inductive Declaration where
  | package (name : String)
  | service (name : String)
  | method (service name : String)
  deriving DecidableEq

/-- Where a statement stands. -/
inductive Scope where
  | document
  /-- Within the service of a name. -/
  | service (name : String)
  deriving DecidableEq

/-- What the next token must be. -/
inductive ParseMode where
  /-- The beginning of a statement, or the end of the scope. -/
  | statements (scope : Scope)
  | packageName
  | packageEnd (name : String)
  | serviceName
  | serviceOpen (name : String)
  | methodName (service : String)
  /-- Anything up to the end of a statement. -/
  | skip (scope : Scope)
  /-- Anything within a block of a statement; how many braces are open besides the first. -/
  | block (scope : Scope) (depth : Nat)
  deriving DecidableEq

/-- What is known after some tokens. -/
structure ParseState where
  mode : ParseMode := .statements .document
  /-- The declarations, last first. -/
  rev : List Declaration := []
  deriving DecidableEq

namespace ParseState

/-- Goes on in another mode. -/
def goto (st : ParseState) (mode : ParseMode) : Except ParseError ParseState :=
  .ok { st with mode }

/-- Adds a declaration and goes on in another mode. -/
def declare (st : ParseState) (d : Declaration) (mode : ParseMode) : Except ParseError ParseState :=
  .ok { mode, rev := d :: st.rev }

/-- A statement's first token in the document. -/
def beginDeclaration (st : ParseState) (t : PlacedToken) : Except ParseError ParseState :=
  match t.token with
  | .symbol ';' => .ok st
  | .word w =>
    if w = "package" then st.goto .packageName
    else if w = "service" then st.goto .serviceName
    else st.goto (.skip .document)
  | other => .error (.unexpected t.line "a declaration" other)

/-- A statement's first token in a service. -/
def beginMember (st : ParseState) (service : String) (t : PlacedToken) :
    Except ParseError ParseState :=
  match t.token with
  | .symbol '\x7d' => st.goto (.statements .document)
  | .symbol ';' => .ok st
  | .word w =>
    if w = "rpc" then st.goto (.methodName service) else st.goto (.skip (.service service))
  | other => .error (.unexpected t.line "an rpc declaration" other)

/-- One token further. -/
def step (st : ParseState) (t : PlacedToken) : Except ParseError ParseState :=
  match st.mode with
  | .statements .document => st.beginDeclaration t
  | .statements (.service name) => st.beginMember name t
  | .packageName =>
    match t.token with
    | .word w => st.goto (.packageEnd w)
    | other => .error (.unexpected t.line "a package name" other)
  | .packageEnd name =>
    if t.token = .symbol ';' then st.declare (.package name) (.statements .document)
    else .error (.unexpected t.line "';'" t.token)
  | .serviceName =>
    match t.token with
    | .word w => st.goto (.serviceOpen w)
    | other => .error (.unexpected t.line "a service name" other)
  | .serviceOpen name =>
    if t.token = .symbol '\x7b' then st.declare (.service name) (.statements (.service name))
    else .error (.unexpected t.line "'\x7b'" t.token)
  | .methodName service =>
    match t.token with
    | .word w => st.declare (.method service w) (.skip (.service service))
    | other => .error (.unexpected t.line "a method name" other)
  | .skip scope =>
    if t.token = .symbol ';' then st.goto (.statements scope)
    else if t.token = .symbol '\x7b' then st.goto (.block scope 0)
    else .ok st
  | .block scope depth =>
    if t.token = .symbol '\x7b' then st.goto (.block scope (depth + 1))
    else if t.token = .symbol '\x7d' then
      match depth with
      | 0 => st.goto (.statements scope)
      | n + 1 => st.goto (.block scope n)
    else .ok st

/-- What is missing when there are no more tokens. Only the document may end. -/
def missing? (st : ParseState) : Option String :=
  match st.mode with
  | .statements .document => none
  | .statements (.service _) => some "'\x7d'"
  | .packageName => some "a package name"
  | .packageEnd _ => some "';'"
  | .serviceName => some "a service name"
  | .serviceOpen _ => some "'\x7b'"
  | .methodName _ => some "a method name"
  | .skip _ => some "';'"
  | .block _ _ => some "'\x7d'"

/-- The declarations, when there are no more tokens. -/
def finish (st : ParseState) : Except ParseError (List Declaration) :=
  match st.missing? with
  | none => .ok st.rev.reverse
  | some what => .error (.endOfInput what)

end ParseState

/-- The declarations of a list of tokens, in order. -/
def declarations (ts : List PlacedToken) : Except ParseError (List Declaration) := do
  let st ← ts.foldlM ParseState.step {}
  st.finish

/-- The declarations of a definition, in order. -/
def parse (s : String) : Except ParseError (List Declaration) := do
  let ts ← tokenize s.toList
  declarations ts

end MeshDestination.Idl
