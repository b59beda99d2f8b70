import MeshDestination.Proofs.Idl.Document

/-!
# What definitions declare

In a definition as it should be written, every statement is a word, tokens other than semicolons and
braces, and a semicolon or a block. `Idl.Declares` reads the declarations off such a definition,
whatever words name them and however deep the blocks nest. These are the definitions that are
accepted and in which braces balance (`Idl.declares_iff`): a statement of any other form has a
closing brace before its end, and the one that this brace would close is never opened.
-/

namespace MeshDestination.Idl

open Token (semicolon opening closing)

/-! ## The grammar -/

/-- What follows the first words of a statement: tokens other than semicolons and braces, and then a
semicolon or a block. -/
inductive StatementTail : List Token → Prop
  | semicolon : StatementTail [semicolon]
  | block {inner : List Token} (inside : Balanced inner) :
    StatementTail (opening :: inner ++ [closing])
  | token {t : Token} {ts : List Token} (hsemicolon : t ≠ semicolon) (hopening : t ≠ opening)
    (hclosing : t ≠ closing) (rest : StatementTail ts) : StatementTail (t :: ts)

/-- What the members of a service declare. -/
inductive MembersDeclare (service : String) : List Token → List Declaration → Prop
  | nil : MembersDeclare service [] []
  | empty {ts : List Token} {ds : List Declaration} (rest : MembersDeclare service ts ds) :
    MembersDeclare service (semicolon :: ts) ds
  | rpc {name : String} {tail ts : List Token} {ds : List Declaration} (ends : StatementTail tail)
    (rest : MembersDeclare service ts ds) :
    MembersDeclare service (.word "rpc" :: .word name :: tail ++ ts) (.method service name :: ds)
  | other {word : String} {tail ts : List Token} {ds : List Declaration} (notRpc : word ≠ "rpc")
    (ends : StatementTail tail) (rest : MembersDeclare service ts ds) :
    MembersDeclare service (.word word :: tail ++ ts) ds

/-- What a document declares. -/
inductive Declares : List Token → List Declaration → Prop
  | nil : Declares [] []
  | empty {ts : List Token} {ds : List Declaration} (rest : Declares ts ds) :
    Declares (semicolon :: ts) ds
  | package {name : String} {ts : List Token} {ds : List Declaration} (rest : Declares ts ds) :
    Declares (.word "package" :: .word name :: semicolon :: ts) (.package name :: ds)
  | service {name : String} {members ts : List Token} {methods ds : List Declaration}
    (body : MembersDeclare name members methods) (rest : Declares ts ds) :
    Declares (.word "service" :: .word name :: opening :: members ++ closing :: ts)
      (.service name :: methods ++ ds)
  | other {word : String} {tail ts : List Token} {ds : List Declaration}
    (notPackage : word ≠ "package") (notService : word ≠ "service") (ends : StatementTail tail)
    (rest : Declares ts ds) : Declares (.word word :: tail ++ ts) ds

/-! ## Documents of the grammar -/

section Documents

variable {ts tail : List Token} {ds : List Declaration}

theorem StatementTail.endsStatement (h : StatementTail tail) : EndsStatement tail := by
  induction h with
  | semicolon => exact .semicolon
  | block inside => exact .block inside
  | token hsemicolon hopening _ _ ih => exact .token hsemicolon hopening ih

theorem MembersDeclare.exists_members {service : String} (h : MembersDeclare service ts ds) :
    ∃ members : List Member, members.flatMap Member.tokens = ts ∧
      members.flatMap (Member.declarations service) = ds := by
  induction h with
  | nil => exact ⟨[], rfl, rfl⟩
  | empty _ ih =>
    obtain ⟨members, rfl, rfl⟩ := ih
    exact ⟨.empty :: members, rfl, rfl⟩
  | rpc ends _ ih =>
    obtain ⟨members, rfl, rfl⟩ := ih
    exact ⟨.rpc _ ⟨_, ends.endsStatement⟩ :: members, rfl, rfl⟩
  | other notRpc ends _ ih =>
    obtain ⟨members, rfl, rfl⟩ := ih
    exact ⟨.other _ notRpc ⟨_, ends.endsStatement⟩ :: members, rfl, rfl⟩

theorem Declares.exists_document (h : Declares ts ds) :
    ∃ doc : List Item, doc.flatMap Item.tokens = ts ∧ doc.flatMap Item.declarations = ds := by
  induction h with
  | nil => exact ⟨[], rfl, rfl⟩
  | empty _ ih =>
    obtain ⟨doc, rfl, rfl⟩ := ih
    exact ⟨.empty :: doc, rfl, rfl⟩
  | package _ ih =>
    obtain ⟨doc, rfl, rfl⟩ := ih
    exact ⟨.package _ :: doc, rfl, rfl⟩
  | @service name _ _ _ _ body _ ih =>
    obtain ⟨doc, rfl, rfl⟩ := ih
    obtain ⟨members, rfl, rfl⟩ := body.exists_members
    exact ⟨.service name members :: doc, by simp [Item.tokens], rfl⟩
  | other notPackage notService ends _ ih =>
    obtain ⟨doc, rfl, rfl⟩ := ih
    exact ⟨.other _ notPackage notService ⟨_, ends.endsStatement⟩ :: doc, rfl, rfl⟩

theorem declarations_of_declares {placed : List PlacedToken}
    (h : Declares (placed.map (·.token)) ds) : declarations placed = .ok ds := by
  obtain ⟨doc, htokens, rfl⟩ := h.exists_document
  exact declarations_document htokens.symm

theorem Balanced.append {front : List Token} (hfront : Balanced front) (h : Balanced ts) :
    Balanced (front ++ ts) := by
  induction hfront with
  | nil => exact h
  | token hopening hclosing _ ih => exact .token hopening hclosing ih
  | block inside _ _ ih =>
    rw [List.cons_append, List.cons_append, List.append_assoc, List.cons_append]
    exact .block inside ih

theorem StatementTail.balanced (h : StatementTail tail) : Balanced tail := by
  induction h with
  | semicolon => exact .token (by decide) (by decide) .nil
  | block inside => exact .block inside .nil
  | token _ hopening hclosing _ ih => exact .token hopening hclosing ih

theorem MembersDeclare.balanced {service : String} (h : MembersDeclare service ts ds) :
    Balanced ts := by
  induction h with
  | nil => exact .nil
  | empty _ ih => exact .token nofun nofun ih
  | rpc ends _ ih => exact .token nofun nofun (.token nofun nofun (ends.balanced.append ih))
  | other _ ends _ ih => exact .token nofun nofun (ends.balanced.append ih)

theorem Declares.balanced (h : Declares ts ds) : Balanced ts := by
  induction h with
  | nil => exact .nil
  | empty _ ih => exact .token nofun nofun ih
  | package _ ih => exact .token nofun nofun (.token nofun nofun (.token nofun nofun ih))
  | service body _ ih => exact .token nofun nofun (.token nofun nofun (.block body.balanced ih))
  | other _ _ ends _ ih => exact .token nofun nofun (ends.balanced.append ih)

end Documents

/-! ## Counting braces -/

/-- How many braces are open after tokens that stand within `n` open ones. There must be an open one
for every closing one. -/
def openAfter? : Nat → List Token → Option Nat
  | n, [] => some n
  | n, t :: ts =>
    if t = opening then openAfter? (n + 1) ts
    else if t = closing then
      match n with
      | 0 => none
      | n + 1 => openAfter? n ts
    else openAfter? n ts

section Counting

variable {n k : Nat} {t : Token} {ts tail inner : List Token}

theorem openAfter?_opening : openAfter? n (opening :: ts) = openAfter? (n + 1) ts := by
  cases n <;> rfl

theorem openAfter?_closing : openAfter? (n + 1) (closing :: ts) = openAfter? n ts := rfl

theorem openAfter?_cons (hopening : t ≠ opening) (hclosing : t ≠ closing) :
    openAfter? n (t :: ts) = openAfter? n ts := by
  cases n <;> simp only [openAfter?, if_neg hopening, if_neg hclosing]

theorem openAfter?_word (w : String) : openAfter? n (.word w :: ts) = openAfter? n ts :=
  openAfter?_cons nofun nofun

theorem openAfter?_semicolon : openAfter? n (semicolon :: ts) = openAfter? n ts :=
  openAfter?_cons nofun nofun

theorem Balanced.openAfter?_append (h : Balanced inner) :
    openAfter? n (inner ++ ts) = openAfter? n ts := by
  induction h generalizing n ts with
  | nil => rfl
  | token hopening hclosing _ ih => rw [List.cons_append, openAfter?_cons hopening hclosing, ih]
  | block _ _ inside rest =>
    rw [List.cons_append, List.cons_append, openAfter?_opening, List.append_assoc, inside,
      List.cons_append, openAfter?_closing, rest]

/-- A statement leaves as many braces open as before, or fewer if there is a closing one before its
end. -/
theorem EndsStatement.open_cases (h : EndsStatement tail)
    (hopen : openAfter? n (tail ++ ts) = some k) :
    (StatementTail tail ∧ openAfter? n ts = some k) ∨ ∃ m < n, openAfter? m ts = some k := by
  induction h generalizing n with
  | semicolon =>
    left
    rw [List.singleton_append, openAfter?_semicolon] at hopen
    exact ⟨.semicolon, hopen⟩
  | block inside =>
    left
    rw [(Balanced.block inside .nil).openAfter?_append] at hopen
    exact ⟨.block inside, hopen⟩
  | @token t tail hsemicolon hopening _ ih =>
    by_cases hclosing : t = closing
    · right
      subst hclosing
      cases n with
      | zero => cases hopen
      | succ n =>
        rw [List.cons_append, openAfter?_closing] at hopen
        rcases ih hopen with ⟨-, hafter⟩ | ⟨m, hm, hafter⟩
        · exact ⟨n, Nat.lt_succ_self n, hafter⟩
        · exact ⟨m, Nat.lt_succ_of_lt hm, hafter⟩
    · rw [List.cons_append, openAfter?_cons hopening hclosing] at hopen
      exact (ih hopen).imp_left (And.imp_left (.token hsemicolon hopening hclosing))

/-- No member opens a brace for those after it. -/
theorem Member.open_le {m : Member} (h : openAfter? n (m.tokens ++ ts) = some k) :
    ∃ n' ≤ n, openAfter? n' ts = some k := by
  have htail (tail : Tail) (h : openAfter? n (tail.tokens ++ ts) = some k) :
      ∃ n' ≤ n, openAfter? n' ts = some k := by
    rcases tail.ends.open_cases h with ⟨-, hafter⟩ | ⟨n', hlt, hafter⟩
    · exact ⟨n, Nat.le_refl n, hafter⟩
    · exact ⟨n', Nat.le_of_lt hlt, hafter⟩
  cases m with
  | empty =>
    rw [Member.tokens, List.singleton_append, openAfter?_semicolon] at h
    exact ⟨n, Nat.le_refl n, h⟩
  | rpc name tail =>
    rw [Member.tokens, List.cons_append, List.cons_append, openAfter?_word, openAfter?_word] at h
    exact htail tail h
  | other word _ tail =>
    rw [Member.tokens, List.cons_append, openAfter?_word] at h
    exact htail tail h

/-- Members do not open the brace that ends their service. -/
theorem openAfter?_members_zero (members : List Member) :
    openAfter? 0 (members.flatMap Member.tokens ++ closing :: ts) ≠ some k := by
  induction members with
  | nil => exact nofun
  | cons m members ih =>
    intro h
    rw [List.flatMap_cons, List.append_assoc] at h
    obtain ⟨n', hle, hafter⟩ := Member.open_le h
    cases Nat.le_zero.mp hle
    exact ih hafter

theorem membersDeclare_of_open {service : String} {members : List Member}
    (h : openAfter? 1 (members.flatMap Member.tokens ++ closing :: ts) = some k) :
    MembersDeclare service (members.flatMap Member.tokens)
        (members.flatMap (Member.declarations service)) ∧
      openAfter? 0 ts = some k := by
  induction members with
  | nil => exact ⟨.nil, h⟩
  | cons m members ih =>
    -- A brace that is closed within a member leaves none for the end of the service.
    have htail (tail : Tail)
        (h : openAfter? 1 (tail.tokens ++ (members.flatMap Member.tokens ++ closing :: ts)) =
          some k) :
        StatementTail tail.tokens ∧
          openAfter? 1 (members.flatMap Member.tokens ++ closing :: ts) = some k := by
      refine (tail.ends.open_cases h).resolve_right ?_
      rintro ⟨n', hlt, hafter⟩
      cases Nat.lt_one_iff.mp hlt
      exact openAfter?_members_zero members hafter
    rw [List.flatMap_cons, List.append_assoc] at h
    rw [List.flatMap_cons, List.flatMap_cons]
    cases m with
    | empty =>
      rw [Member.tokens, List.singleton_append, openAfter?_semicolon] at h
      exact (ih h).imp_left .empty
    | rpc name tail =>
      rw [Member.tokens, List.cons_append, List.cons_append, openAfter?_word, openAfter?_word] at h
      obtain ⟨ends, hafter⟩ := htail tail h
      exact (ih hafter).imp_left (.rpc ends)
    | other word notRpc tail =>
      rw [Member.tokens, List.cons_append, openAfter?_word] at h
      obtain ⟨ends, hafter⟩ := htail tail h
      exact (ih hafter).imp_left (.other notRpc ends)

theorem declares_of_open {doc : List Item}
    (h : openAfter? 0 (doc.flatMap Item.tokens) = some k) :
    Declares (doc.flatMap Item.tokens) (doc.flatMap Item.declarations) := by
  induction doc with
  | nil => exact .nil
  | cons item doc ih =>
    rw [List.flatMap_cons] at h
    rw [List.flatMap_cons, List.flatMap_cons]
    cases item with
    | empty =>
      rw [Item.tokens, List.singleton_append, openAfter?_semicolon] at h
      exact .empty (ih h)
    | package name =>
      change openAfter? 0 (.word "package" :: .word name :: semicolon :: _) = some k at h
      rw [openAfter?_word, openAfter?_word, openAfter?_semicolon] at h
      exact .package (ih h)
    | service name members =>
      simp only [Item.tokens, List.cons_append, List.append_assoc, List.nil_append] at h ⊢
      rw [openAfter?_word, openAfter?_word, openAfter?_opening] at h
      obtain ⟨body, hafter⟩ := membersDeclare_of_open h
      exact .service body (ih hafter)
    | other word notPackage notService tail =>
      rw [Item.tokens, List.cons_append, openAfter?_word] at h
      rcases tail.ends.open_cases h with ⟨ends, hafter⟩ | ⟨m, hlt, -⟩
      · exact .other notPackage notService ends (ih hafter)
      · cases hlt

end Counting

/-! ## Extraction -/

theorem declares_of_declarations {placed : List PlacedToken} {ds : List Declaration}
    (hbalanced : Balanced (placed.map (·.token))) (h : declarations placed = .ok ds) :
    Declares (placed.map (·.token)) ds := by
  obtain ⟨doc, hdoc⟩ := exists_document h
  rw [declarations_document hdoc] at h
  cases h
  rw [hdoc] at hbalanced ⊢
  have hopen : openAfter? 0 (doc.flatMap Item.tokens ++ []) = some 0 := hbalanced.openAfter?_append
  rw [List.append_nil] at hopen
  exact declares_of_open hopen

/-- The documents of the grammar are those that are accepted and in which braces balance. -/
theorem declares_iff {placed : List PlacedToken} {ds : List Declaration} :
    Declares (placed.map (·.token)) ds ↔
      Balanced (placed.map (·.token)) ∧ declarations placed = .ok ds :=
  ⟨fun h => ⟨h.balanced, declarations_of_declares h⟩, fun h => declares_of_declarations h.1 h.2⟩

/-- Of a document of the grammar exactly the declarations are returned, and no other document with
balanced braces is accepted. -/
theorem parse_of_declares :
    (∀ (placed : List PlacedToken) (ds : List Declaration), Declares (placed.map (·.token)) ds ↔
      Balanced (placed.map (·.token)) ∧ declarations placed = .ok ds) ∧
    (∀ (text : String) (placed : List PlacedToken) (ds : List Declaration),
      tokenize text.toList = .ok placed → Declares (placed.map (·.token)) ds →
        parse text = .ok ds) := by
  refine ⟨fun _ _ => declares_iff, fun text placed ds hplaced h => ?_⟩
  rw [parse, hplaced]
  exact declarations_of_declares h

/-- A package, a service and methods have the names of keywords, and there are blocks in blocks. -/
def keywordText : String :=
  "package service; service rpc \x7b rpc package (A) \x7b x = \x7b y \x7b \x7d \x7d \x7d; " ++
    "z \x7b \x7d rpc rpc; \x7d message rpc \x7b \x7d"

/-- Its tokens. -/
def keywordTokens : List Token :=
  [.word "package", .word "service", semicolon, .word "service", .word "rpc", opening, .word "rpc",
    .word "package", .symbol '(', .word "A", .symbol ')', opening, .word "x", .symbol '=', opening,
    .word "y", opening, closing, closing, closing, semicolon, .word "z", opening, closing,
    .word "rpc", .word "rpc", semicolon, closing, .word "message", .word "rpc", opening, closing]

theorem parse_of_declares_keywords :
    ∃ placed : List PlacedToken, tokenize keywordText.toList = .ok placed ∧
      Declares (placed.map (·.token)) [.package "service", .service "rpc", .method "rpc" "package",
        .method "rpc" "rpc"] ∧
      parse keywordText = .ok [.package "service", .service "rpc", .method "rpc" "package",
        .method "rpc" "rpc"] := by
  have hoption : Balanced [.word "x", .symbol '=', opening, .word "y", opening, closing, closing] :=
    .token (by decide) (by decide) (.token (by decide) (by decide)
      (.block (.token (by decide) (by decide) (.block .nil .nil)) .nil))
  have hpackage : StatementTail (.symbol '(' :: .word "A" :: .symbol ')' :: _) :=
    .token (by decide) (by decide) (by decide) (.token (by decide) (by decide) (by decide)
      (.token (by decide) (by decide) (by decide) (.block hoption)))
  have hmessage : StatementTail [.word "rpc", opening, closing] :=
    .token (by decide) (by decide) (by decide) (.block .nil)
  have hdeclares : Declares keywordTokens [.package "service", .service "rpc",
      .method "rpc" "package", .method "rpc" "rpc"] :=
    .package (.service
      (.rpc hpackage (.empty (.other (by decide) (.block .nil) (.rpc .semicolon .nil))))
      (.other (by decide) (by decide) hmessage .nil))
  have htokens : tokenize keywordText.toList = .ok (keywordTokens.map (PlacedToken.mk 1)) := by rfl
  exact ⟨_, htokens, hdeclares, parse_of_declares.2 _ _ _ htokens hdeclares⟩

end MeshDestination.Idl
