import MeshDestination.Idl.Declaration

/-!
# Documents

What the parser accepts are the documents of a grammar: semicolons, packages, services with their
members, and other statements, each of which ends with a semicolon or with a block in which braces
balance. A document is data (`Idl.Item`, `Idl.Member`), and its tokens and its declarations are read
off it. Whatever the parser accepts is some document (`Idl.exists_document`), and of every document
it returns exactly the declarations (`Idl.declarations_document`), whichever lines the tokens stand
on.
-/

namespace MeshDestination.Idl

/-! ## The grammar -/

/-- The end of a statement. -/
abbrev Token.semicolon : Token := .symbol ';'

/-- The brace that opens a block. -/
abbrev Token.opening : Token := .symbol '\x7b'

/-- The brace that closes a block. -/
abbrev Token.closing : Token := .symbol '\x7d'

open Token (semicolon opening closing)

/-- Tokens in which braces balance. -/
inductive Balanced : List Token → Prop
  | nil : Balanced []
  | token {t : Token} {ts : List Token} (hopening : t ≠ opening) (hclosing : t ≠ closing)
    (rest : Balanced ts) : Balanced (t :: ts)
  | block {inner ts : List Token} (inside : Balanced inner) (rest : Balanced ts) :
    Balanced (opening :: inner ++ closing :: ts)

/-- What ends a statement: anything up to a semicolon, or up to the end of a block. -/
inductive EndsStatement : List Token → Prop
  | semicolon : EndsStatement [semicolon]
  | block {inner : List Token} (inside : Balanced inner) :
    EndsStatement (opening :: inner ++ [closing])
  | token {t : Token} {ts : List Token} (hsemicolon : t ≠ semicolon) (hopening : t ≠ opening)
    (rest : EndsStatement ts) : EndsStatement (t :: ts)

/-- The tokens of a statement after its first words. -/
structure Tail where
  tokens : List Token
  ends : EndsStatement tokens

/-- A statement in a service: none, an rpc, or one that begins with another word. -/
inductive Member where
  | empty
  | rpc (name : String) (tail : Tail)
  | other (word : String) (notRpc : word ≠ "rpc") (tail : Tail)

/-- A statement of a document: none, a package, a service, or one that begins with another word. -/
inductive Item where
  | empty
  | package (name : String)
  | service (name : String) (members : List Member)
  | other (word : String) (notPackage : word ≠ "package") (notService : word ≠ "service")
    (tail : Tail)

/-- The tokens of a statement in a service. -/
def Member.tokens : Member → List Token
  | .empty => [semicolon]
  | .rpc name tail => .word "rpc" :: .word name :: tail.tokens
  | .other word _ tail => .word word :: tail.tokens

/-- The tokens of a statement of a document. -/
def Item.tokens : Item → List Token
  | .empty => [semicolon]
  | .package name => [.word "package", .word name, semicolon]
  | .service name members =>
    .word "service" :: .word name :: opening :: members.flatMap Member.tokens ++ [closing]
  | .other word _ _ tail => .word word :: tail.tokens

theorem Member.length_tokens_pos (m : Member) : 0 < m.tokens.length := by
  cases m <;> exact Nat.succ_pos _

theorem Item.length_tokens_pos (item : Item) : 0 < item.tokens.length := by
  cases item <;> exact Nat.succ_pos _

/-- What a statement in a service declares. -/
def Member.declarations (service : String) : Member → List Declaration
  | .rpc name _ => [.method service name]
  | _ => []

/-- What a statement of a document declares, in order. -/
def Item.declarations : Item → List Declaration
  | .package name => [.package name]
  | .service name members => .service name :: members.flatMap (Member.declarations name)
  | _ => []

/-! ## Parsing without lines -/

namespace ParseState

/-- One token further, if it is accepted. -/
def next? (st : ParseState) (t : Token) : Option ParseState := (st.step ⟨0, t⟩).toOption

/-- Where tokens lead, if all are accepted. -/
def run? (st : ParseState) (ts : List Token) : Option ParseState := ts.foldlM next? st

variable {st : ParseState} {t : Token} {ts rest : List Token} {rev : List Declaration}
  {scope : Scope}

@[simp] theorem run?_nil (st : ParseState) : st.run? [] = some st := rfl

theorem run?_cons (st : ParseState) (t : Token) (ts : List Token) :
    st.run? (t :: ts) = (st.next? t).bind (·.run? ts) := rfl

/-- Lines matter for errors only. -/
theorem toOption_step (st : ParseState) (line : Nat) (t : Token) :
    (st.step ⟨line, t⟩).toOption = st.next? t := by
  unfold next? step
  cases st.mode with
  | statements scope =>
    cases scope with
    | document =>
      simp only [beginDeclaration]
      split <;> rfl
    | service name =>
      simp only [beginMember]
      split <;> rfl
  | packageName => cases t <;> rfl
  | packageEnd name =>
    change (if t = _ then _ else _ : Except ParseError ParseState).toOption =
      (if t = _ then _ else _ : Except ParseError ParseState).toOption
    split <;> rfl
  | serviceName => cases t <;> rfl
  | serviceOpen name =>
    change (if t = _ then _ else _ : Except ParseError ParseState).toOption =
      (if t = _ then _ else _ : Except ParseError ParseState).toOption
    split <;> rfl
  | methodName service => cases t <;> rfl
  | skip scope => rfl
  | block scope depth => rfl

theorem toOption_foldlM_step (placed : List PlacedToken) :
    ∀ st : ParseState, (placed.foldlM step st).toOption = st.run? (placed.map (·.token)) := by
  induction placed with
  | nil => exact fun st => rfl
  | cons t placed ih =>
    intro st
    rw [List.foldlM_cons, List.map_cons, run?_cons, ← toOption_step st t.line t.token]
    change (st.step t >>= _).toOption = (st.step t).toOption.bind _
    cases st.step t with
    | error e => rfl
    | ok next => exact ih next

/-! ### Single tokens -/

theorem next?_skip : next? ⟨.skip scope, rev⟩ t =
    some (if t = semicolon then ⟨.statements scope, rev⟩
      else if t = opening then ⟨.block scope 0, rev⟩ else ⟨.skip scope, rev⟩) := by
  change (if t = _ then _ else if t = _ then _ else _ : Except ParseError ParseState).toOption = _
  split
  · rfl
  · split <;> rfl

/-- After a block of some depth is closed. -/
def afterBlock (scope : Scope) : Nat → ParseMode
  | 0 => .statements scope
  | depth + 1 => .block scope depth

theorem next?_block (depth : Nat) : next? ⟨.block scope depth, rev⟩ t =
    some (if t = opening then ⟨.block scope (depth + 1), rev⟩
      else if t = closing then ⟨afterBlock scope depth, rev⟩ else ⟨.block scope depth, rev⟩) := by
  change (if t = _ then _ else if t = _ then _ else _ : Except ParseError ParseState).toOption = _
  split
  · rfl
  · split
    · cases depth <;> rfl
    · rfl

theorem next?_packageEnd (name : String) (t : Token) :
    next? ⟨.packageEnd name, rev⟩ t =
      if t = semicolon then some ⟨.statements .document, .package name :: rev⟩ else none := by
  change (if t = _ then _ else _ : Except ParseError ParseState).toOption = _
  split <;> rfl

theorem next?_serviceOpen (name : String) (t : Token) :
    next? ⟨.serviceOpen name, rev⟩ t =
      if t = opening then some ⟨.statements (.service name), .service name :: rev⟩ else none := by
  change (if t = _ then _ else _ : Except ParseError ParseState).toOption = _
  split <;> rfl

/-- Of symbols only a brace or a semicolon may begin a member. -/
theorem next?_memberSymbol (service : String) (c : Char) :
    next? ⟨.statements (.service service), rev⟩ (.symbol c) =
      if c = '\x7d' then some ⟨.statements .document, rev⟩
      else if c = ';' then some ⟨.statements (.service service), rev⟩ else none := by
  unfold next? step beginMember
  by_cases hclosing : c = '\x7d'
  · subst hclosing
    rfl
  · by_cases hsemicolon : c = ';'
    · subst hsemicolon
      rfl
    · rw [if_neg hclosing, if_neg hsemicolon]
      simp only []
      split <;> simp_all [Except.toOption]

/-- Of symbols only a semicolon may begin an item. -/
theorem next?_itemSymbol (c : Char) :
    next? ⟨.statements .document, rev⟩ (.symbol c) =
      if c = ';' then some ⟨.statements .document, rev⟩ else none := by
  unfold next? step beginDeclaration
  by_cases hsemicolon : c = ';'
  · subst hsemicolon
    rfl
  · rw [if_neg hsemicolon]
    simp only []
    split <;> simp_all [Except.toOption]

theorem run?_append (st : ParseState) (ts rest : List Token) :
    st.run? (ts ++ rest) = (st.run? ts).bind (·.run? rest) := by
  induction ts generalizing st with
  | nil => rfl
  | cons t ts ih =>
    rw [List.cons_append, run?_cons, run?_cons]
    cases st.next? t with
    | none => rfl
    | some next => exact ih next

/-! ## Every document is accepted -/

theorem run?_balanced (h : Balanced ts) (depth : Nat) :
    run? ⟨.block scope depth, rev⟩ ts = some ⟨.block scope depth, rev⟩ := by
  induction h generalizing depth with
  | nil => rfl
  | token hopening hclosing _ ih =>
    rw [run?_cons, next?_block, if_neg hopening, if_neg hclosing]
    exact ih depth
  | block _ _ inside rest =>
    rw [List.cons_append, run?_cons, next?_block, if_pos rfl, Option.bind_some, run?_append,
      inside, Option.bind_some, run?_cons, next?_block, if_neg (by decide), if_pos rfl]
    exact rest depth

theorem run?_endsStatement (h : EndsStatement ts) :
    run? ⟨.skip scope, rev⟩ ts = some ⟨.statements scope, rev⟩ := by
  induction h with
  | semicolon => rw [run?_cons, next?_skip, if_pos rfl, Option.bind_some, run?_nil]
  | block inside =>
    rw [List.cons_append, run?_cons, next?_skip, if_neg (by decide), if_pos rfl, Option.bind_some,
      run?_append, run?_balanced inside, Option.bind_some, run?_cons, next?_block,
      if_neg (by decide), if_pos rfl, Option.bind_some, run?_nil]
    rfl
  | token hsemicolon hopening _ ih =>
    rw [run?_cons, next?_skip, if_neg hsemicolon, if_neg hopening]
    exact ih

theorem run?_member (service : String) (m : Member) :
    run? ⟨.statements (.service service), rev⟩ m.tokens =
      some ⟨.statements (.service service), (m.declarations service).reverse ++ rev⟩ := by
  cases m with
  | empty => rfl
  | rpc name tail => exact run?_endsStatement tail.ends
  | other word notRpc tail =>
    rw [Member.tokens, run?_cons, next?]
    simp only [step, beginMember, if_neg notRpc]
    exact run?_endsStatement tail.ends

theorem run?_members (service : String) (members : List Member) :
    run? ⟨.statements (.service service), rev⟩ (members.flatMap Member.tokens) =
      some ⟨.statements (.service service),
        (members.flatMap (Member.declarations service)).reverse ++ rev⟩ := by
  induction members generalizing rev with
  | nil => rfl
  | cons m members ih =>
    rw [List.flatMap_cons, run?_append, run?_member, Option.bind_some, ih, List.flatMap_cons,
      List.reverse_append, List.append_assoc]

theorem run?_item (item : Item) :
    run? ⟨.statements .document, rev⟩ item.tokens =
      some ⟨.statements .document, item.declarations.reverse ++ rev⟩ := by
  cases item with
  | empty => rfl
  | package name => rfl
  | service name members =>
    change run? ⟨.statements (.service name), .service name :: rev⟩ (_ ++ [closing]) = _
    rw [run?_append, run?_members]
    simp [Item.declarations, run?, next?, step, beginMember, goto, Except.toOption]
  | other word notPackage notService tail =>
    rw [Item.tokens, run?_cons, next?]
    simp only [step, beginDeclaration, if_neg notPackage, if_neg notService]
    exact run?_endsStatement tail.ends

theorem run?_document (doc : List Item) :
    run? ⟨.statements .document, rev⟩ (doc.flatMap Item.tokens) =
      some ⟨.statements .document, (doc.flatMap Item.declarations).reverse ++ rev⟩ := by
  induction doc generalizing rev with
  | nil => rfl
  | cons item doc ih =>
    rw [List.flatMap_cons, run?_append, run?_item, Option.bind_some, ih, List.flatMap_cons,
      List.reverse_append, List.append_assoc]

/-! ## Whatever is accepted is a document -/

section Accepted

variable {final : ParseState} (hfinal : final.missing? = none)

include hfinal

/-- A block does not end before its braces balance. -/
theorem exists_balanced {ts : List Token} {depth : Nat}
    (h : run? ⟨.block scope depth, rev⟩ ts = some final) :
    ∃ inner rest, ts = inner ++ closing :: rest ∧ Balanced inner ∧
      run? ⟨afterBlock scope depth, rev⟩ rest = some final := by
  match ts with
  | [] =>
    cases h
    cases hfinal
  | t :: ts =>
    rw [run?_cons, next?_block, Option.bind_some] at h
    by_cases hopening : t = opening
    · subst hopening
      rw [if_pos rfl] at h
      -- The block that opens here is closed first; what follows is at the depth of before.
      obtain ⟨inner, middle, hts, hinner, hmiddle⟩ := exists_balanced h
      have hlength : middle.length < ts.length := by simp [hts]; omega
      obtain ⟨after, rest, rfl, hafter, hrest⟩ := exists_balanced hmiddle
      exact ⟨opening :: inner ++ closing :: after, rest, by simp [hts], .block hinner hafter, hrest⟩
    · rw [if_neg hopening] at h
      by_cases hclosing : t = closing
      · subst hclosing
        exact ⟨[], ts, rfl, .nil, by rwa [if_pos rfl] at h⟩
      · rw [if_neg hclosing] at h
        obtain ⟨inner, rest, rfl, hinner, hrest⟩ := exists_balanced h
        exact ⟨t :: inner, rest, rfl, .token hopening hclosing hinner, hrest⟩
termination_by ts.length

theorem exists_endsStatement {ts : List Token}
    (h : run? ⟨.skip scope, rev⟩ ts = some final) :
    ∃ tail rest, ts = tail ++ rest ∧ EndsStatement tail ∧
      run? ⟨.statements scope, rev⟩ rest = some final := by
  induction ts with
  | nil =>
    cases h
    cases hfinal
  | cons t ts ih =>
    rw [run?_cons, next?_skip, Option.bind_some] at h
    by_cases hsemicolon : t = semicolon
    · subst hsemicolon
      exact ⟨[semicolon], ts, rfl, .semicolon, by rwa [if_pos rfl] at h⟩
    · rw [if_neg hsemicolon] at h
      by_cases hopening : t = opening
      · subst hopening
        rw [if_pos rfl] at h
        obtain ⟨inner, rest, rfl, hinner, hrest⟩ := exists_balanced hfinal h
        exact ⟨opening :: inner ++ [closing], rest, by simp, .block hinner, hrest⟩
      · rw [if_neg hopening] at h
        obtain ⟨tail, rest, rfl, htail, hrest⟩ := ih h
        exact ⟨t :: tail, rest, rfl, .token hsemicolon hopening htail, hrest⟩

/-- A word must follow where a name is expected. -/
theorem exists_word {mode : ParseMode} {after : String → ParseState} {ts : List Token}
    (h : run? ⟨mode, rev⟩ ts = some final)
    (hword : ∀ w, next? ⟨mode, rev⟩ (.word w) = some (after w))
    (htext : ∀ s, next? ⟨mode, rev⟩ (.text s) = none)
    (hsymbol : ∀ c, next? ⟨mode, rev⟩ (.symbol c) = none)
    (hmissing : (⟨mode, rev⟩ : ParseState).missing? ≠ none) :
    ∃ w rest, ts = .word w :: rest ∧ run? (after w) rest = some final := by
  match ts with
  | [] =>
    cases h
    exact absurd hfinal hmissing
  | .word w :: ts =>
    rw [run?_cons, hword] at h
    exact ⟨w, ts, rfl, h⟩
  | .text s :: ts =>
    rw [run?_cons, htext] at h
    cases h
  | .symbol c :: ts =>
    rw [run?_cons, hsymbol] at h
    cases h

/-- One token must follow where no other is accepted. -/
theorem exists_token {mode : ParseMode} {expected : Token} {after : ParseState} {ts : List Token}
    (h : run? ⟨mode, rev⟩ ts = some final)
    (hnext : ∀ t, next? ⟨mode, rev⟩ t = if t = expected then some after else none)
    (hmissing : (⟨mode, rev⟩ : ParseState).missing? ≠ none) :
    ∃ rest, ts = expected :: rest ∧ run? after rest = some final := by
  match ts with
  | [] =>
    cases h
    exact absurd hfinal hmissing
  | t :: ts =>
    rw [run?_cons, hnext] at h
    by_cases ht : t = expected
    · subst ht
      exact ⟨ts, rfl, by rwa [if_pos rfl] at h⟩
    · rw [if_neg ht] at h
      cases h

/-- What a service goes on with: a member, or the brace that closes it. -/
theorem exists_member {service : String} {ts : List Token}
    (h : run? ⟨.statements (.service service), rev⟩ ts = some final) :
    (∃ rest, ts = closing :: rest ∧ run? ⟨.statements .document, rev⟩ rest = some final) ∨
    ∃ m : Member, ∃ rest, ts = m.tokens ++ rest ∧
      run? ⟨.statements (.service service), (m.declarations service).reverse ++ rev⟩ rest =
        some final := by
  match ts with
  | [] =>
    cases h
    cases hfinal
  | .text s :: ts => cases h
  | .symbol c :: ts =>
    rw [run?_cons, next?_memberSymbol] at h
    by_cases hclosing : c = '\x7d'
    · subst hclosing
      exact .inl ⟨ts, rfl, h⟩
    · rw [if_neg hclosing] at h
      by_cases hsemicolon : c = ';'
      · subst hsemicolon
        exact .inr ⟨.empty, ts, rfl, h⟩
      · rw [if_neg hsemicolon] at h
        cases h
  | .word w :: ts =>
    right
    rw [run?_cons, next?] at h
    by_cases hrpc : w = "rpc"
    · subst hrpc
      have hmode : run? ⟨.methodName service, rev⟩ ts = some final := h
      obtain ⟨name, rest, rfl, hname⟩ := exists_word hfinal hmode
        (fun _ => rfl) (fun _ => rfl) (fun _ => rfl) nofun
      obtain ⟨tail, rest, rfl, htail, hrest⟩ := exists_endsStatement hfinal hname
      exact ⟨.rpc name ⟨tail, htail⟩, rest, rfl, hrest⟩
    · simp only [step, beginMember, if_neg hrpc] at h
      obtain ⟨tail, rest, rfl, htail, hrest⟩ := exists_endsStatement hfinal h
      exact ⟨.other w hrpc ⟨tail, htail⟩, rest, rfl, hrest⟩

theorem exists_members {service : String} {rev : List Declaration} {ts : List Token}
    (h : run? ⟨.statements (.service service), rev⟩ ts = some final) :
    ∃ (members : List Member) (rest : List Token),
      ts = members.flatMap Member.tokens ++ closing :: rest ∧
      run? ⟨.statements .document,
        (members.flatMap (Member.declarations service)).reverse ++ rev⟩ rest = some final := by
  rcases exists_member hfinal h with ⟨rest, rfl, hrest⟩ | ⟨m, rest, hts, hrest⟩
  · exact ⟨[], rest, rfl, hrest⟩
  · have hlength : rest.length < ts.length := by
      have hpos := m.length_tokens_pos
      rw [hts, List.length_append]
      omega
    obtain ⟨members, rest', rfl, hrest'⟩ := exists_members hrest
    refine ⟨m :: members, rest', by simp [hts], ?_⟩
    rwa [List.flatMap_cons, List.reverse_append, List.append_assoc]
termination_by ts.length

/-- What a document goes on with: an item, unless it is over. -/
theorem exists_item {ts : List Token} (hts : ts ≠ [])
    (h : run? ⟨.statements .document, rev⟩ ts = some final) :
    ∃ item : Item, ∃ rest, ts = item.tokens ++ rest ∧
      run? ⟨.statements .document, item.declarations.reverse ++ rev⟩ rest = some final := by
  match ts with
  | [] => exact absurd rfl hts
  | .text s :: ts => cases h
  | .symbol c :: ts =>
    rw [run?_cons, next?_itemSymbol] at h
    by_cases hsemicolon : c = ';'
    · subst hsemicolon
      exact ⟨.empty, ts, rfl, h⟩
    · rw [if_neg hsemicolon] at h
      cases h
  | .word w :: ts =>
    rw [run?_cons, next?] at h
    by_cases hpackage : w = "package"
    · subst hpackage
      have hmode : run? ⟨.packageName, rev⟩ ts = some final := h
      obtain ⟨name, rest, rfl, hname⟩ := exists_word hfinal hmode
        (fun _ => rfl) (fun _ => rfl) (fun _ => rfl) nofun
      obtain ⟨rest, rfl, hrest⟩ := exists_token hfinal hname (next?_packageEnd name) nofun
      exact ⟨.package name, rest, rfl, hrest⟩
    · by_cases hservice : w = "service"
      · subst hservice
        have hmode : run? ⟨.serviceName, rev⟩ ts = some final := h
        obtain ⟨name, rest, rfl, hname⟩ := exists_word hfinal hmode
          (fun _ => rfl) (fun _ => rfl) (fun _ => rfl) nofun
        obtain ⟨rest, rfl, hbody⟩ := exists_token hfinal hname (next?_serviceOpen name) nofun
        obtain ⟨members, rest, rfl, hrest⟩ := exists_members hfinal hbody
        refine ⟨.service name members, rest, by simp [Item.tokens], ?_⟩
        simpa [Item.declarations] using hrest
      · simp only [step, beginDeclaration, if_neg hpackage, if_neg hservice] at h
        obtain ⟨tail, rest, rfl, htail, hrest⟩ := exists_endsStatement hfinal h
        exact ⟨.other w hpackage hservice ⟨tail, htail⟩, rest, rfl, hrest⟩

theorem exists_items {rev : List Declaration} {ts : List Token}
    (h : run? ⟨.statements .document, rev⟩ ts = some final) :
    ∃ doc : List Item, ts = doc.flatMap Item.tokens := by
  by_cases hts : ts = []
  · exact ⟨[], hts⟩
  · obtain ⟨item, rest, heq, hrest⟩ := exists_item hfinal hts h
    have hlength : rest.length < ts.length := by
      have hpos := item.length_tokens_pos
      rw [heq, List.length_append]
      omega
    obtain ⟨doc, rfl⟩ := exists_items hrest
    exact ⟨item :: doc, by simp [heq]⟩
termination_by ts.length

end Accepted

end ParseState

/-! ## Texts -/

/-- The tokens of a text are those of a document. -/
def Reads (text : String) (doc : List Item) : Prop :=
  ∃ placed, tokenize text.toList = .ok placed ∧
    placed.map (·.token) = doc.flatMap Item.tokens

/-- Every document is accepted, and its declarations are returned. -/
theorem declarations_document {placed : List PlacedToken} {doc : List Item}
    (h : placed.map (·.token) = doc.flatMap Item.tokens) :
    declarations placed = .ok (doc.flatMap Item.declarations) := by
  have hrun := ParseState.toOption_foldlM_step placed {}
  rw [h, ParseState.run?_document] at hrun
  unfold declarations
  cases hfold : placed.foldlM ParseState.step {} with
  | error e =>
    rw [hfold] at hrun
    cases hrun
  | ok st =>
    rw [hfold] at hrun
    cases hrun
    change Except.ok _ = _
    simp

/-- The tokens of what is accepted lead to where nothing is missing. -/
theorem exists_run? {placed : List PlacedToken} {ds : List Declaration}
    (h : declarations placed = .ok ds) :
    ∃ final, ParseState.run? {} (placed.map (·.token)) = some final ∧ final.missing? = none := by
  unfold declarations at h
  cases hfold : placed.foldlM ParseState.step {} with
  | error e =>
    rw [hfold] at h
    cases h
  | ok st =>
    rw [hfold] at h
    have hrun := ParseState.toOption_foldlM_step placed {}
    rw [hfold] at hrun
    refine ⟨st, hrun.symm, ?_⟩
    change st.finish = .ok ds at h
    unfold ParseState.finish at h
    split at h
    · next hmissing => exact hmissing
    · cases h

/-- What is accepted is a document. -/
theorem exists_document {placed : List PlacedToken} {ds : List Declaration}
    (h : declarations placed = .ok ds) :
    ∃ doc : List Item, placed.map (·.token) = doc.flatMap Item.tokens := by
  obtain ⟨final, hrun, hfinal⟩ := exists_run? h
  exact ParseState.exists_items hfinal hrun

/-- A text that is accepted reads as a document, and all documents that it reads as have the
declarations that are returned. -/
theorem parse_eq_ok {text : String} {ds : List Declaration} (h : parse text = .ok ds) :
    (∃ doc, Reads text doc) ∧ ∀ doc, Reads text doc → ds = doc.flatMap Item.declarations := by
  unfold parse at h
  cases hplaced : tokenize text.toList with
  | error e =>
    rw [hplaced] at h
    cases h
  | ok placed =>
    rw [hplaced] at h
    change declarations placed = .ok ds at h
    obtain ⟨doc, hdoc⟩ := exists_document h
    refine ⟨⟨doc, placed, hplaced, hdoc⟩, ?_⟩
    rintro doc' ⟨placed', hplaced', hdoc'⟩
    cases hplaced.symm.trans hplaced'
    rw [declarations_document hdoc'] at h
    exact (Except.ok.inj h).symm

end MeshDestination.Idl
