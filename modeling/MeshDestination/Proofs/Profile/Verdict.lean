import MeshDestination.Discovery.Message
import MeshDestination.Profile.Resource

/-!
# Conditions keep their meaning

A condition on requests or responses has three forms: the resource states it, profiles keep it, and
clients are sent it. Each form has a verdict on every request or status (`holds`): a resource's
condition asks for all of its fields that are set. The verdicts of the three forms agree
(`holds_agree`), however deep conditions are nested. Patterns are read by any relation of patterns
and paths.
-/

namespace MeshDestination

open Http Cluster Text Discovery

/-- What conditions on requests look at. -/
structure RequestHead where
  method : Method
  path : String

section Requests

variable (onPath : String → String → Bool) (req : RequestHead)

/-! ## Verdicts on requests -/

namespace Cluster.RequestMatchSpec

mutual

/-- Whether every field that is set holds. -/
def holds : RequestMatchSpec → Bool
  | ⟨allOf, anyOf, negated, pathRegex, token⟩ =>
    (verdicts? allOf).all (·.all id) && (verdicts? anyOf).all (·.any id) &&
      (verdict? negated).all (!·) && pathRegex.all (onPath · req.path) &&
      token.all (req.method.token == uppercaseAscii ·)

/-- The verdicts on a list that may be missing. -/
def verdicts? : Option (List RequestMatchSpec) → Option (List Bool)
  | none => none
  | some ms => some (verdicts ms)

/-- The verdict on a condition that may be missing. -/
def verdict? : Option RequestMatchSpec → Option Bool
  | none => none
  | some m => some (holds m)

/-- The verdicts on a list. -/
def verdicts : List RequestMatchSpec → List Bool
  | [] => []
  | m :: r => holds m :: verdicts r

end

end Cluster.RequestMatchSpec

namespace RequestMatch

mutual

/-- Whether a condition that a profile keeps holds. -/
def holds : RequestMatch → Bool
  | .all ms => (verdicts ms).all id
  | .any ms => (verdicts ms).any id
  | .not m => !holds m
  | .path p => onPath p.text req.path
  | .method m => req.method.token == m.token

/-- The verdicts on a list. -/
def verdicts : List RequestMatch → List Bool
  | [] => []
  | m :: r => holds m :: verdicts r

end

end RequestMatch

namespace Discovery

/-- Whether a method is the one that is sent. -/
def MethodMessage.isMetBy (method : Method) : MethodMessage → Bool
  | .registered n => registeredMethods[n]? == some method.token
  | .unregistered name => name == method.token

namespace RequestMatchMessage

mutual

/-- Whether a condition that is sent holds. -/
def holds : RequestMatchMessage → Bool
  | .all ms => (verdicts ms).all id
  | .any ms => (verdicts ms).any id
  | .not m => !holds m
  | .path regex => onPath regex req.path
  | .method m => m.isMetBy req.method

/-- The verdicts on a list. -/
def verdicts : List RequestMatchMessage → List Bool
  | [] => []
  | m :: r => holds m :: verdicts r

end

end RequestMatchMessage

end Discovery

end Requests

/-! ## Verdicts on responses -/

section Responses

variable (status : Nat)

/-- Whether a status code is in a range. An unset bound is open. -/
def Cluster.StatusRange.includes (s : StatusRange) : Bool :=
  s.min.all (· ≤ status) && s.max.all (status ≤ ·)

namespace Cluster.ResponseMatchSpec

mutual

/-- Whether every field that is set holds. -/
def holds : ResponseMatchSpec → Bool
  | ⟨allOf, anyOf, negated, range⟩ =>
    (verdicts? allOf).all (·.all id) && (verdicts? anyOf).all (·.any id) &&
      (verdict? negated).all (!·) && range.all (·.includes status)

/-- The verdicts on a list that may be missing. -/
def verdicts? : Option (List ResponseMatchSpec) → Option (List Bool)
  | none => none
  | some ms => some (verdicts ms)

/-- The verdict on a condition that may be missing. -/
def verdict? : Option ResponseMatchSpec → Option Bool
  | none => none
  | some m => some (holds m)

/-- The verdicts on a list. -/
def verdicts : List ResponseMatchSpec → List Bool
  | [] => []
  | m :: r => holds m :: verdicts r

end

end Cluster.ResponseMatchSpec

namespace ResponseMatch

mutual

/-- Whether a condition that a profile keeps holds. -/
def holds : ResponseMatch → Bool
  | .all ms => (verdicts ms).all id
  | .any ms => (verdicts ms).any id
  | .not m => !holds m
  | .status min max => min ≤ status && status ≤ max

/-- The verdicts on a list. -/
def verdicts : List ResponseMatch → List Bool
  | [] => []
  | m :: r => holds m :: verdicts r

end

end ResponseMatch

namespace Discovery.ResponseMatchMessage

mutual

/-- Whether a condition that is sent holds. -/
def holds : ResponseMatchMessage → Bool
  | .all ms => (verdicts ms).all id
  | .any ms => (verdicts ms).any id
  | .not m => !holds m
  | .status min max => min ≤ status && status ≤ max

/-- The verdicts on a list. -/
def verdicts : List ResponseMatchMessage → List Bool
  | [] => []
  | m :: r => holds m :: verdicts r

end

end Discovery.ResponseMatchMessage

end Responses

/-! ## Conjunctions of fields -/

/-- The conjunction of some conditions holds if each of them does. -/
theorem holds_conjunction? {α : Type} {all : List α → α} {holds : α → Bool}
    (hall : ∀ ms, holds (all ms) = ms.all holds) {ms : List α} {m : α}
    (h : conjunction? all ms = some m) : holds m = ms.all holds := by
  match ms, h with
  | [_], rfl => exact (Bool.and_true _).symm
  | a :: b :: r, rfl => exact hall (a :: b :: r)

/-- What a field contributes to a conjunction. -/
theorem all_toList_map {α β : Type} (field : Option α) (f : α → β) (p : β → Bool) :
    (field.map f).toList.all p = field.all fun a => p (f a) := by
  cases field with
  | none => rfl
  | some a => exact Bool.and_true _

/-- A field of which each value is converted without a change of meaning. -/
theorem all_of_mapM {α β : Type} {convert : α → Option β} {p : α → Bool} {q : β → Bool}
    (hconvert : ∀ {a b}, convert a = some b → q b = p a) {field : Option α} {field' : Option β}
    (h : field.mapM convert = some field') : field'.all q = field.all p := by
  cases field with
  | none =>
    cases h
    rfl
  | some a =>
    rw [Option.mapM_some] at h
    obtain ⟨b, hb, rfl⟩ := Option.map_eq_some_iff.mp h
    exact hconvert hb

/-! ## Requests -/

namespace RequestMatch

variable {onPath : String → String → Bool} {req : RequestHead}

theorem holds_all (ms : List RequestMatch) :
    (all ms).holds onPath req = ms.all (holds onPath req) := by
  have hverdicts : verdicts onPath req ms = ms.map (holds onPath req) := by
    induction ms with
    | nil => rfl
    | cons m r ih => rw [verdicts, ih, List.map_cons]
  rw [holds, hverdicts, List.all_map]
  rfl

theorem token_of_ofText? {text : String} {m : Method} (h : Method.ofText? text = some m) :
    m.token = text := by
  unfold Method.ofText? at h
  split at h
  · cases h
    rfl
  · cases h

theorem text_of_ofText? {text : String} {p : Pattern} (h : Pattern.ofText? text = some p) :
    p.text = text := by
  unfold Pattern.ofText? at h
  split at h
  · cases h
    rfl
  · cases h

mutual

/-- What a profile keeps of a condition means what the resource states. -/
theorem holds_ofSpec? : ∀ {spec : RequestMatchSpec} {m : RequestMatch},
    RequestMatch.ofSpec? spec = some m → m.holds onPath req = spec.holds onPath req
  | ⟨allOf, anyOf, negated, pathRegex, token⟩, m, h => by
    rw [RequestMatch.ofSpec?] at h
    simp only [Option.bind_eq_bind, Option.bind_eq_some_iff] at h
    obtain ⟨all', hall, any', hany, not', hnot, method, hmethod, path, hpath, hm⟩ := h
    have htoken : (method.all fun m => req.method.token == m.token) =
        token.all (req.method.token == uppercaseAscii ·) :=
      all_of_mapM (fun h => by rw [token_of_ofText? h]) hmethod
    have hregex : (path.all fun p => onPath p.text req.path) =
        pathRegex.all (onPath · req.path) :=
      all_of_mapM (fun h => by rw [text_of_ofText? h]) hpath
    rw [holds_conjunction? holds_all hm, RequestMatchSpec.holds, ← verdicts_ofSpecs? hall,
      ← verdicts_ofSpecs? hany, ← holds_ofNot? hnot, ← htoken, ← hregex]
    simp only [List.all_append, all_toList_map, Option.all_map, holds]
    ac_rfl

theorem verdicts_ofSpecs? : ∀ {specs : Option (List RequestMatchSpec)}
    {ms : Option (List RequestMatch)}, RequestMatch.ofSpecs? specs = some ms →
      ms.map (verdicts onPath req) = RequestMatchSpec.verdicts? onPath req specs
  | none, ms, h => by
    cases h
    rfl
  | some specs, ms, h => by
    rw [RequestMatch.ofSpecs?] at h
    obtain ⟨ms', hms', rfl⟩ := Option.map_eq_some_iff.mp h
    rw [Option.map_some, RequestMatchSpec.verdicts?, verdicts_ofList? hms']

theorem holds_ofNot? : ∀ {spec : Option RequestMatchSpec} {m : Option RequestMatch},
    RequestMatch.ofNot? spec = some m →
      m.map (holds onPath req) = RequestMatchSpec.verdict? onPath req spec
  | none, m, h => by
    cases h
    rfl
  | some spec, m, h => by
    rw [RequestMatch.ofNot?] at h
    obtain ⟨m', hm', rfl⟩ := Option.map_eq_some_iff.mp h
    rw [Option.map_some, RequestMatchSpec.verdict?, holds_ofSpec? hm']

theorem verdicts_ofList? : ∀ {specs : List RequestMatchSpec} {ms : List RequestMatch},
    RequestMatch.ofList? specs = some ms →
      verdicts onPath req ms = RequestMatchSpec.verdicts onPath req specs
  | [], ms, h => by
    cases h
    rfl
  | spec :: specs, ms, h => by
    rw [RequestMatch.ofList?] at h
    simp only [Option.bind_eq_bind, Option.bind_eq_some_iff] at h
    obtain ⟨m, hm, r, hr, hms⟩ := h
    cases hms
    rw [verdicts, RequestMatchSpec.verdicts, holds_ofSpec? hm, verdicts_ofList? hr]

end

end RequestMatch

namespace Discovery

/-- What is sent of a method is met by this method and no other. -/
theorem MethodMessage.isMetBy_ofMethod (m method : Method) :
    (MethodMessage.ofMethod m).isMetBy method = (method.token == m.token) := by
  rw [MethodMessage.ofMethod]
  cases hnumber : m.number? with
  | none => exact Bool.beq_comm
  | some n =>
    obtain ⟨hn, htoken, -⟩ := List.findIdx?_eq_some_iff_getElem.mp hnumber
    rw [MethodMessage.isMetBy, List.getElem?_eq_getElem hn, beq_iff_eq.mp htoken,
      Option.some_beq_some]
    exact Bool.beq_comm

namespace RequestMatchMessage

variable {onPath : String → String → Bool} {req : RequestHead}

mutual

/-- What is sent of a condition means what the profile keeps. -/
theorem holds_ofMatch : ∀ m : RequestMatch,
    (ofMatch m).holds onPath req = m.holds onPath req
  | .all ms => by rw [ofMatch, holds, RequestMatch.holds, verdicts_ofMatches ms]
  | .any ms => by rw [ofMatch, holds, RequestMatch.holds, verdicts_ofMatches ms]
  | .not m => by rw [ofMatch, holds, RequestMatch.holds, holds_ofMatch m]
  | .path p => by rw [ofMatch, holds, RequestMatch.holds]
  | .method m => by rw [ofMatch, holds, RequestMatch.holds, MethodMessage.isMetBy_ofMethod]

theorem verdicts_ofMatches : ∀ ms : List RequestMatch,
    verdicts onPath req (ofMatches ms) = RequestMatch.verdicts onPath req ms
  | [] => by rw [ofMatches, verdicts, RequestMatch.verdicts]
  | m :: r => by
    rw [ofMatches, verdicts, RequestMatch.verdicts, holds_ofMatch m, verdicts_ofMatches r]

end

end RequestMatchMessage

end Discovery

/-! ## Responses -/

/-- Bounds that are filled in include the same status codes of responses. -/
theorem includes_of_statusBounds? {range : StatusRange} {bounds : Nat × Nat}
    (h : statusBounds? range = some bounds) {status : Nat} (hlow : lowestStatus ≤ status)
    (hhigh : status ≤ highestStatus) :
    (decide (bounds.1 ≤ status) && decide (status ≤ bounds.2)) = range.includes status := by
  unfold statusBounds? at h
  simp only at h
  split at h
  · cases h
    obtain ⟨min, max⟩ := range
    cases min <;> cases max <;> simp [StatusRange.includes, hlow, hhigh]
  · cases h

namespace ResponseMatch

variable {status : Nat}

theorem holds_all (ms : List ResponseMatch) : (all ms).holds status = ms.all (holds status) := by
  have hverdicts : verdicts status ms = ms.map (holds status) := by
    induction ms with
    | nil => rfl
    | cons m r ih => rw [verdicts, ih, List.map_cons]
  rw [holds, hverdicts, List.all_map]
  rfl

mutual

/-- What a profile keeps of a condition means what the resource states. -/
theorem holds_ofSpec? (hlow : lowestStatus ≤ status) (hhigh : status ≤ highestStatus) :
    ∀ {spec : ResponseMatchSpec} {m : ResponseMatch},
      ResponseMatch.ofSpec? spec = some m → m.holds status = spec.holds status
  | ⟨allOf, anyOf, negated, range⟩, m, h => by
    rw [ResponseMatch.ofSpec?] at h
    simp only [Option.bind_eq_bind, Option.bind_eq_some_iff] at h
    obtain ⟨all', hall, any', hany, not', hnot, bounds, hbounds, hm⟩ := h
    have hrange : (bounds.all fun b => decide (b.1 ≤ status) && decide (status ≤ b.2)) =
        range.all (·.includes status) :=
      all_of_mapM (fun h => includes_of_statusBounds? h hlow hhigh) hbounds
    rw [holds_conjunction? holds_all hm, ResponseMatchSpec.holds,
      ← verdicts_ofSpecs? hlow hhigh hall, ← verdicts_ofSpecs? hlow hhigh hany,
      ← holds_ofNot? hlow hhigh hnot, ← hrange]
    simp only [List.all_append, all_toList_map, Option.all_map, holds]

theorem verdicts_ofSpecs? (hlow : lowestStatus ≤ status) (hhigh : status ≤ highestStatus) :
    ∀ {specs : Option (List ResponseMatchSpec)} {ms : Option (List ResponseMatch)},
      ResponseMatch.ofSpecs? specs = some ms →
        ms.map (verdicts status) = ResponseMatchSpec.verdicts? status specs
  | none, ms, h => by
    cases h
    rfl
  | some specs, ms, h => by
    rw [ResponseMatch.ofSpecs?] at h
    obtain ⟨ms', hms', rfl⟩ := Option.map_eq_some_iff.mp h
    rw [Option.map_some, ResponseMatchSpec.verdicts?, verdicts_ofList? hlow hhigh hms']

theorem holds_ofNot? (hlow : lowestStatus ≤ status) (hhigh : status ≤ highestStatus) :
    ∀ {spec : Option ResponseMatchSpec} {m : Option ResponseMatch},
      ResponseMatch.ofNot? spec = some m →
        m.map (holds status) = ResponseMatchSpec.verdict? status spec
  | none, m, h => by
    cases h
    rfl
  | some spec, m, h => by
    rw [ResponseMatch.ofNot?] at h
    obtain ⟨m', hm', rfl⟩ := Option.map_eq_some_iff.mp h
    rw [Option.map_some, ResponseMatchSpec.verdict?, holds_ofSpec? hlow hhigh hm']

theorem verdicts_ofList? (hlow : lowestStatus ≤ status) (hhigh : status ≤ highestStatus) :
    ∀ {specs : List ResponseMatchSpec} {ms : List ResponseMatch},
      ResponseMatch.ofList? specs = some ms →
        verdicts status ms = ResponseMatchSpec.verdicts status specs
  | [], ms, h => by
    cases h
    rfl
  | spec :: specs, ms, h => by
    rw [ResponseMatch.ofList?] at h
    simp only [Option.bind_eq_bind, Option.bind_eq_some_iff] at h
    obtain ⟨m, hm, r, hr, hms⟩ := h
    cases hms
    rw [verdicts, ResponseMatchSpec.verdicts, holds_ofSpec? hlow hhigh hm,
      verdicts_ofList? hlow hhigh hr]

end

end ResponseMatch

namespace Discovery.ResponseMatchMessage

variable {status : Nat}

mutual

/-- What is sent of a condition means what the profile keeps. -/
theorem holds_ofMatch : ∀ m : ResponseMatch, (ofMatch m).holds status = m.holds status
  | .all ms => by rw [ofMatch, holds, ResponseMatch.holds, verdicts_ofMatches ms]
  | .any ms => by rw [ofMatch, holds, ResponseMatch.holds, verdicts_ofMatches ms]
  | .not m => by rw [ofMatch, holds, ResponseMatch.holds, holds_ofMatch m]
  | .status min max => by rw [ofMatch, holds, ResponseMatch.holds]

theorem verdicts_ofMatches : ∀ ms : List ResponseMatch,
    verdicts status (ofMatches ms) = ResponseMatch.verdicts status ms
  | [] => by rw [ofMatches, verdicts, ResponseMatch.verdicts]
  | m :: r => by
    rw [ofMatches, verdicts, ResponseMatch.verdicts, holds_ofMatch m, verdicts_ofMatches r]

end

end Discovery.ResponseMatchMessage

/-! ## The three forms -/

/-- A condition that can be used has one meaning, whether the resource states it, a profile keeps it
or a client is sent it: on every request, for every relation of patterns and paths, and on every
status code of a response. -/
theorem holds_agree :
    (∀ spec m, RequestMatch.ofSpec? spec = some m → ∀ onPath req,
      m.holds onPath req = spec.holds onPath req ∧
      (RequestMatchMessage.ofMatch m).holds onPath req = spec.holds onPath req) ∧
    ∀ spec m, ResponseMatch.ofSpec? spec = some m → ∀ status, 100 ≤ status → status ≤ 599 →
      m.holds status = spec.holds status ∧
      (ResponseMatchMessage.ofMatch m).holds status = spec.holds status := by
  refine ⟨fun spec m h onPath req => ?_, fun spec m h status hlow hhigh => ?_⟩
  · have hm : m.holds onPath req = spec.holds onPath req := RequestMatch.holds_ofSpec? h
    exact ⟨hm, (RequestMatchMessage.holds_ofMatch m).trans hm⟩
  · have hm := ResponseMatch.holds_ofSpec? hlow hhigh h
    exact ⟨hm, (ResponseMatchMessage.holds_ofMatch m).trans hm⟩

/-- A request that is no read and not for books, and a server error that is not the excepted one. -/
theorem holds_agree_nested :
    let spec : RequestMatchSpec := {
      any := some [{ method := some "put" },
        { all := some [], not := some { pathRegex := some "/books/[0-9]+" } }]
      not := some { method := some "Get" } }
    let req : RequestHead := ⟨⟨"POST", by decide +kernel⟩, "/authors"⟩
    let onPath : String → String → Bool := fun regex path => regex == path
    let responses : ResponseMatchSpec := {
      status := some { min := some 500 }
      not := some { any := some [{ status := some { min := some 501, max := some 501 } }] } }
    (∃ m, RequestMatch.ofSpec? spec = some m ∧ spec.holds onPath req = true ∧
      m.holds onPath req = spec.holds onPath req ∧
      (RequestMatchMessage.ofMatch m).holds onPath req = spec.holds onPath req) ∧
    ∃ m, ResponseMatch.ofSpec? responses = some m ∧ responses.holds 503 = true ∧
      m.holds 503 = responses.holds 503 ∧
      (ResponseMatchMessage.ofMatch m).holds 503 = responses.holds 503 := by
  intro spec req onPath responses
  have hspec : (RequestMatch.ofSpec? spec).isSome = true := by decide +kernel
  have hresponses : (ResponseMatch.ofSpec? responses).isSome = true := by decide +kernel
  obtain ⟨m, hm⟩ := Option.isSome_iff_exists.mp hspec
  obtain ⟨m', hm'⟩ := Option.isSome_iff_exists.mp hresponses
  exact ⟨⟨m, hm, by decide +kernel, holds_agree.1 spec m hm onPath req⟩,
    m', hm', by decide +kernel, holds_agree.2 responses m' hm' 503 (by decide) (by decide)⟩

end MeshDestination
