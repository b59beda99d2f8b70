import MeshDestination.Proofs.Idl.Extraction

/-!
# Braces of accepted definitions

The parser knows how deep it stands in braces (`ParseMode.depth`), but while it looks for the end of
a statement it passes over a closing brace like over any other token. In a definition that is
accepted every brace that opens is closed, and exactly as many closing braces close nothing as are
passed over in that way (`Idl.braces_of_parse`). So the braces of an accepted definition balance if
and only if every statement ends before the brace that closes its service. A service whose last
statement lacks its semicolon is accepted together with the service after it, which is lost
(`Idl.unbalanced_accepted`).
-/

namespace MeshDestination.Idl

open Token (opening closing)

/-! ## Braces that have no counterpart -/

/-- How many braces are open after tokens that stand within `n` open ones. A closing brace closes
one of them, if there is any. -/
def leftOpen : Nat → List Token → Nat
  | n, [] => n
  | n, t :: ts =>
    if t = opening then leftOpen (n + 1) ts
    else if t = closing then leftOpen (n - 1) ts
    else leftOpen n ts

/-- How many closing braces of tokens that stand within `n` open ones close nothing. -/
def unmatched : Nat → List Token → Nat
  | _, [] => 0
  | n, t :: ts =>
    if t = opening then unmatched (n + 1) ts
    else if t = closing then (if n = 0 then 1 else 0) + unmatched (n - 1) ts
    else unmatched n ts

section Counts

variable {n m : Nat} {t : Token} {ts : List Token}

theorem leftOpen_opening : leftOpen n (opening :: ts) = leftOpen (n + 1) ts := if_pos rfl

theorem leftOpen_closing : leftOpen n (closing :: ts) = leftOpen (n - 1) ts := rfl

theorem leftOpen_cons (hopening : t ≠ opening) (hclosing : t ≠ closing) :
    leftOpen n (t :: ts) = leftOpen n ts := by
  rw [leftOpen, if_neg hopening, if_neg hclosing]

theorem unmatched_opening : unmatched n (opening :: ts) = unmatched (n + 1) ts := if_pos rfl

theorem unmatched_closing :
    unmatched n (closing :: ts) = (if n = 0 then 1 else 0) + unmatched (n - 1) ts := rfl

theorem unmatched_cons (hopening : t ≠ opening) (hclosing : t ≠ closing) :
    unmatched n (t :: ts) = unmatched n ts := by
  rw [unmatched, if_neg hopening, if_neg hclosing]

theorem openAfter?_eq_some_iff :
    openAfter? n ts = some m ↔ unmatched n ts = 0 ∧ leftOpen n ts = m := by
  induction ts generalizing n with
  | nil => simp [openAfter?, unmatched, leftOpen]
  | cons t ts ih =>
    by_cases hopening : t = opening
    · subst hopening
      rw [openAfter?_opening, unmatched_opening, leftOpen_opening, ih]
    · by_cases hclosing : t = closing
      · subst hclosing
        rw [unmatched_closing, leftOpen_closing]
        cases n with
        | zero => simp [openAfter?]
        | succ n => simp [openAfter?_closing, ih]
      · rw [openAfter?_cons hopening hclosing, unmatched_cons hopening hclosing,
          leftOpen_cons hopening hclosing, ih]

end Counts

/-! ## How deep the parser stands -/

/-- How many braces are open around a statement. -/
def Scope.depth : Scope → Nat
  | .document => 0
  | .service _ => 1

/-- How many braces are open for the parser. -/
def ParseMode.depth : ParseMode → Nat
  | .statements scope | .skip scope => scope.depth
  | .methodName _ => 1
  | .block scope depth => scope.depth + depth + 1
  | .packageName | .packageEnd _ | .serviceName | .serviceOpen _ => 0

/-- Whether the end of a statement is looked for. -/
def ParseMode.isSkip : ParseMode → Bool
  | .skip _ => true
  | _ => false

namespace ParseState

variable {st next final : ParseState} {t : Token} {ts : List Token}

/-- What a token that is read has to do with the depth. -/
inductive Nests (st next : ParseState) : Token → Prop
  | opens (hdepth : next.mode.depth = st.mode.depth + 1) : Nests st next opening
  | closes (hskip : st.mode.isSkip = false) (hdepth : st.mode.depth = next.mode.depth + 1) :
    Nests st next closing
  | stray (hskip : st.mode.isSkip = true) (hdepth : next.mode.depth = st.mode.depth) :
    Nests st next closing
  | level {t : Token} (hopening : t ≠ opening) (hclosing : t ≠ closing)
    (hdepth : next.mode.depth = st.mode.depth) : Nests st next t

theorem nests_statements {rev : List Declaration} {scope : Scope}
    (h : next? ⟨.statements scope, rev⟩ t = some next) :
    Nests ⟨.statements scope, rev⟩ next t := by
  match scope, t with
  | .document, .text s => cases h
  | .service name, .text s => cases h
  | .document, .symbol c =>
    rw [next?_itemSymbol] at h
    split at h
    · next hsemicolon =>
      cases h
      subst hsemicolon
      exact .level nofun nofun rfl
    · cases h
  | .service name, .symbol c =>
    rw [next?_memberSymbol] at h
    split at h
    · next hclosing =>
      cases h
      subst hclosing
      exact .closes rfl rfl
    · split at h
      · next hsemicolon =>
        cases h
        subst hsemicolon
        exact .level nofun nofun rfl
      · cases h
  | .document, .word w =>
    refine .level nofun nofun ?_
    unfold next? step beginDeclaration at h
    simp only [] at h
    repeat' split at h
    all_goals cases h; rfl
  | .service name, .word w =>
    refine .level nofun nofun ?_
    unfold next? step beginMember at h
    simp only [] at h
    split at h <;> cases h <;> rfl

theorem nests_skip {rev : List Declaration} {scope : Scope}
    (h : next? ⟨.skip scope, rev⟩ t = some next) : Nests ⟨.skip scope, rev⟩ next t := by
  rw [next?_skip, Option.some.injEq] at h
  by_cases hopening : t = opening
  · subst hopening
    subst h
    exact .opens rfl
  · by_cases hclosing : t = closing
    · subst hclosing
      subst h
      exact .stray rfl rfl
    · refine .level hopening hclosing ?_
      rw [← h, if_neg hopening]
      split <;> rfl

theorem nests_block {rev : List Declaration} {scope : Scope} {depth : Nat}
    (h : next? ⟨.block scope depth, rev⟩ t = some next) :
    Nests ⟨.block scope depth, rev⟩ next t := by
  rw [next?_block, Option.some.injEq] at h
  by_cases hopening : t = opening
  · subst hopening
    subst h
    exact .opens rfl
  · by_cases hclosing : t = closing
    · subst hclosing
      subst h
      refine .closes rfl ?_
      cases depth <;> rfl
    · rw [if_neg hopening, if_neg hclosing] at h
      subst h
      exact .level hopening hclosing rfl

/-- A name is a word, and words are no braces. -/
theorem nests_name {mode : ParseMode} {rev : List Declaration} {after : String → ParseState}
    (h : next? ⟨mode, rev⟩ t = some next)
    (hword : ∀ w, next? ⟨mode, rev⟩ (.word w) = some (after w))
    (htext : ∀ s, next? ⟨mode, rev⟩ (.text s) = none)
    (hsymbol : ∀ c, next? ⟨mode, rev⟩ (.symbol c) = none)
    (hdepth : ∀ w, (after w).mode.depth = mode.depth) : Nests ⟨mode, rev⟩ next t := by
  cases t with
  | word w =>
    rw [hword] at h
    cases h
    exact .level nofun nofun (hdepth w)
  | text s =>
    rw [htext] at h
    cases h
  | symbol c =>
    rw [hsymbol] at h
    cases h

/-- A brace that is read changes the depth by one, unless it closes and the end of a statement is
looked for. -/
theorem nests_next? (h : st.next? t = some next) : Nests st next t := by
  obtain ⟨mode, rev⟩ := st
  cases mode with
  | statements scope => exact nests_statements h
  | skip scope => exact nests_skip h
  | block scope depth => exact nests_block h
  | packageName =>
    exact nests_name h (fun _ => rfl) (fun _ => rfl) (fun _ => rfl) (fun _ => rfl)
  | serviceName =>
    exact nests_name h (fun _ => rfl) (fun _ => rfl) (fun _ => rfl) (fun _ => rfl)
  | methodName service =>
    exact nests_name h (fun _ => rfl) (fun _ => rfl) (fun _ => rfl) (fun _ => rfl)
  | packageEnd name =>
    rw [next?_packageEnd] at h
    split at h
    · next hsemicolon =>
      cases h
      subst hsemicolon
      exact .level nofun nofun rfl
    · cases h
  | serviceOpen name =>
    rw [next?_serviceOpen] at h
    split at h
    · next hopening =>
      cases h
      subst hopening
      exact .opens rfl
    · cases h

/-! ## Closing braces that are passed over -/

/-- How many closing braces are read while the end of a statement is looked for. -/
def strays (st : ParseState) : List Token → Nat
  | [] => 0
  | t :: ts =>
    match st.next? t with
    | none => 0
    | some next => (if t = closing ∧ st.mode.isSkip then 1 else 0) + next.strays ts

theorem strays_cons (h : st.next? t = some next) :
    st.strays (t :: ts) = (if t = closing ∧ st.mode.isSkip then 1 else 0) + next.strays ts := by
  simp only [strays, h]

/-- What `n` braces that are open lack to the depth of the parser, they lack after a run too, but
for the closing braces that close nothing and for those that are passed over. -/
theorem leftOpen_run {n : Nat} (h : st.run? ts = some final) (hle : n ≤ st.mode.depth) :
    leftOpen n ts ≤ final.mode.depth ∧
      leftOpen n ts + st.mode.depth + st.strays ts = final.mode.depth + n + unmatched n ts := by
  induction ts generalizing st n with
  | nil =>
    cases h
    exact ⟨hle, by simp only [leftOpen, strays, unmatched]; omega⟩
  | cons t ts ih =>
    obtain ⟨next, hnext, hrun⟩ := Option.bind_eq_some_iff.mp h
    rw [strays_cons hnext]
    cases nests_next? hnext with
    | opens hdepth =>
      rw [leftOpen_opening, unmatched_opening, if_neg (by simp)]
      obtain ⟨hfinal, hcount⟩ := ih hrun (by omega : n + 1 ≤ next.mode.depth)
      exact ⟨hfinal, by omega⟩
    | closes hskip hdepth =>
      rw [leftOpen_closing, unmatched_closing, if_neg (by simp [hskip])]
      obtain ⟨hfinal, hcount⟩ := ih hrun (by omega : n - 1 ≤ next.mode.depth)
      exact ⟨hfinal, by split <;> omega⟩
    | stray hskip hdepth =>
      rw [leftOpen_closing, unmatched_closing, if_pos ⟨rfl, hskip⟩]
      obtain ⟨hfinal, hcount⟩ := ih hrun (by omega : n - 1 ≤ next.mode.depth)
      exact ⟨hfinal, by split <;> omega⟩
    | level hopening hclosing hdepth =>
      rw [leftOpen_cons hopening hclosing, unmatched_cons hopening hclosing,
        if_neg (fun h => hclosing h.1)]
      obtain ⟨hfinal, hcount⟩ := ih hrun (by omega : n ≤ next.mode.depth)
      exact ⟨hfinal, by omega⟩

end ParseState

/-! ## Accepted definitions -/

section Accepted

variable {placed : List PlacedToken} {ds : List Declaration}

/-- Only the document may end, and it is in no braces. -/
theorem ParseState.depth_of_missing? {st : ParseState} (h : st.missing? = none) :
    st.mode.depth = 0 := by
  unfold missing? at h
  split at h
  · next hmode => rw [hmode, ParseMode.depth, Scope.depth]
  all_goals cases h

theorem leftOpen_of_declarations (h : declarations placed = .ok ds) :
    leftOpen 0 (placed.map (·.token)) = 0 ∧
      unmatched 0 (placed.map (·.token)) = ParseState.strays {} (placed.map (·.token)) := by
  obtain ⟨final, hrun, hfinal⟩ := exists_run? h
  obtain ⟨hle, hcount⟩ := ParseState.leftOpen_run (n := 0) hrun (Nat.zero_le _)
  have hdepth := ParseState.depth_of_missing? hfinal
  have hstart : (ParseState.mode {}).depth = 0 := rfl
  omega

theorem balanced_iff_openAfter? (h : declarations placed = .ok ds) :
    Balanced (placed.map (·.token)) ↔ openAfter? 0 (placed.map (·.token)) = some 0 := by
  constructor
  · intro hbalanced
    have hopen : openAfter? 0 (placed.map (·.token) ++ []) = some 0 := hbalanced.openAfter?_append
    rwa [List.append_nil] at hopen
  · intro hopen
    obtain ⟨doc, hdoc⟩ := exists_document h
    rw [hdoc] at hopen ⊢
    exact (declares_of_open hopen).balanced

/-- In what is accepted no brace stays open, and the closing braces that close nothing are as many
as those that are passed over before the end of a statement. -/
theorem braces_of_parse {text : String} {ds : List Declaration} (h : parse text = .ok ds) :
    ∃ placed : List PlacedToken, tokenize text.toList = .ok placed ∧
      leftOpen 0 (placed.map (·.token)) = 0 ∧
      unmatched 0 (placed.map (·.token)) = ParseState.strays {} (placed.map (·.token)) ∧
      (Balanced (placed.map (·.token)) ↔ ParseState.strays {} (placed.map (·.token)) = 0) := by
  unfold parse at h
  cases hplaced : tokenize text.toList with
  | error e =>
    rw [hplaced] at h
    cases h
  | ok placed =>
    rw [hplaced] at h
    change declarations placed = .ok ds at h
    obtain ⟨hopen, hunmatched⟩ := leftOpen_of_declarations h
    refine ⟨placed, rfl, hopen, hunmatched, ?_⟩
    rw [balanced_iff_openAfter? h, openAfter?_eq_some_iff, hunmatched]
    exact ⟨fun hcounts => hcounts.1, fun hstrays => ⟨hstrays, hopen⟩⟩

end Accepted

/-- The rpc of the first service lacks its semicolon. -/
def unclosedText : String :=
  "service A \x7b rpc Get (X) returns (Y) \x7d\n" ++
    "service B \x7b rpc Put (X) returns (Y); \x7d\n\x7d"

/-- Its tokens with their lines. -/
def unclosedTokens : List PlacedToken :=
  [⟨1, .word "service"⟩, ⟨1, .word "A"⟩, ⟨1, opening⟩, ⟨1, .word "rpc"⟩, ⟨1, .word "Get"⟩,
    ⟨1, .symbol '('⟩, ⟨1, .word "X"⟩, ⟨1, .symbol ')'⟩, ⟨1, .word "returns"⟩, ⟨1, .symbol '('⟩,
    ⟨1, .word "Y"⟩, ⟨1, .symbol ')'⟩, ⟨1, closing⟩, ⟨2, .word "service"⟩, ⟨2, .word "B"⟩,
    ⟨2, opening⟩, ⟨2, .word "rpc"⟩, ⟨2, .word "Put"⟩, ⟨2, .symbol '('⟩, ⟨2, .word "X"⟩,
    ⟨2, .symbol ')'⟩, ⟨2, .word "returns"⟩, ⟨2, .symbol '('⟩, ⟨2, .word "Y"⟩, ⟨2, .symbol ')'⟩,
    ⟨2, .symbol ';'⟩, ⟨2, closing⟩, ⟨3, closing⟩]

theorem braces_of_parse_unclosed :
    parse unclosedText = .ok [.service "A", .method "A" "Get"] ∧
      ∃ placed : List PlacedToken, tokenize unclosedText.toList = .ok placed ∧
        leftOpen 0 (placed.map (·.token)) = 0 ∧
        unmatched 0 (placed.map (·.token)) = ParseState.strays {} (placed.map (·.token)) ∧
        (Balanced (placed.map (·.token)) ↔ ParseState.strays {} (placed.map (·.token)) = 0) := by
  have hparse : parse unclosedText = .ok [.service "A", .method "A" "Get"] := by rfl
  exact ⟨hparse, braces_of_parse hparse⟩

/-- The end of the first service is passed over, and the second service with it. The last brace
closes nothing. -/
theorem unbalanced_accepted :
    tokenize unclosedText.toList = .ok unclosedTokens ∧
      parse unclosedText = .ok [.service "A", .method "A" "Get"] ∧
      unmatched 0 (unclosedTokens.map (·.token)) = 1 ∧
      ¬ Balanced (unclosedTokens.map (·.token)) := by
  refine ⟨by rfl, by rfl, by decide, fun hbalanced => ?_⟩
  have hopen : openAfter? 0 (unclosedTokens.map (·.token) ++ []) = some 0 :=
    hbalanced.openAfter?_append
  exact absurd hopen (by decide)

end MeshDestination.Idl
