import MeshDestination.Idl.Derived
import MeshDestination.Proofs.Idl.Document
import MeshDestination.Proofs.Index.Faults
import MeshDestination.Proofs.Pattern.Escape
import MeshDestination.Proofs.Profile.Verdict

/-!
# Derived profiles take effect

An index that takes the profile derived from a document has it govern the service it is derived for,
with one route for each rpc of the document, in order, that is met by the calls of the rpc and by no
other requests (`Index.effective_derivedProfile`). Patterns are read by any relation in which an
escaped text matches nothing but the text.
-/

namespace MeshDestination

open Http Cluster Text

namespace Idl

/-! ## The rpcs of a document -/

/-- An rpc with its service and the package that qualifies the service, if there is one. -/
structure Rpc where
  package : Option String
  service : String
  name : String

/-- The path at which an rpc is called. -/
def Rpc.path (c : Rpc) : String :=
  match c.package with
  | some package => "/" ++ package ++ "." ++ c.service ++ "/" ++ c.name
  | none => "/" ++ c.service ++ "/" ++ c.name

/-- The name of a member that is an rpc. -/
def Member.rpcName? : Member → Option String
  | .rpc name _ => some name
  | _ => none

/-- The rpcs of a document in order. A service is qualified by the last package statement before it;
`package` is the one before the document. -/
def rpcs (package : Option String) : List Item → List Rpc
  | [] => []
  | .package name :: doc => rpcs (some name) doc
  | .service name members :: doc =>
    (members.filterMap Member.rpcName?).map (Rpc.mk package name) ++ rpcs package doc
  | .empty :: doc => rpcs package doc
  | .other _ _ _ _ :: doc => rpcs package doc

/-! ## Routes -/

/-- The route that is derived from an rpc. -/
def Rpc.route (c : Rpc) : Cluster.RouteSpec := methodRoute c.package c.service c.name

theorem methodPath_eq (c : Rpc) : methodPath c.package c.service c.name = c.path := by
  unfold methodPath Rpc.path
  cases c.package with
  | none => simp
  | some package => simp [String.append_assoc]

/-- Whatever else a service has, its methods give one route each. -/
theorem routesFrom_members (package : Option String) (service : String) (members : List Member)
    (ds : List Declaration) :
    routesFrom package (members.flatMap (Member.declarations service) ++ ds) =
      (members.filterMap Member.rpcName?).map (fun name => Rpc.route ⟨package, service, name⟩) ++
        routesFrom package ds := by
  induction members with
  | nil => rfl
  | cons m members ih =>
    rw [List.flatMap_cons, List.append_assoc]
    cases m with
    | empty => exact ih
    | other word notRpc tail => exact ih
    | rpc name tail => exact congrArg (_ :: ·) ih

theorem routesFrom_document (package : Option String) (doc : List Item) :
    routesFrom package (doc.flatMap Item.declarations) = (rpcs package doc).map Rpc.route := by
  induction doc generalizing package with
  | nil => rfl
  | cons item doc ih =>
    rw [List.flatMap_cons]
    cases item with
    | empty => exact ih package
    | other word notPackage notService tail => exact ih package
    | package name => exact ih (some name)
    | service name members =>
      change routesFrom package (members.flatMap (Member.declarations name) ++ _) = _
      rw [routesFrom_members, ih, rpcs, List.map_append, List.map_map]
      rfl

/-- A route is the one of an rpc: it has the name of the rpc, and is met by the requests that call
it and by no others. -/
structure Serves (onPath : String → String → Bool) (c : Rpc) (route : RouteSpec) : Prop where
  name : route.name = c.name
  calls : ∀ req, route.condition.holds onPath req = true ↔
    req.method.token = "POST" ∧ req.path = c.path

/-- What the condition of an rpc's route looks at. -/
theorem condition_route (c : Rpc) : c.route.condition =
    ⟨none, none, none, some (Pattern.escapeText c.path), some "POST"⟩ := by
  rw [← methodPath_eq]
  rfl

theorem holds_condition_route (onPath : String → String → Bool) (c : Rpc) (req : RequestHead) :
    c.route.condition.holds onPath req =
      (onPath (Pattern.escapeText c.path) req.path && req.method.token == "POST") := by
  have hupper : uppercaseAscii "POST" = "POST" := by decide
  rw [condition_route, RequestMatchSpec.holds]
  simp [RequestMatchSpec.verdicts?, RequestMatchSpec.verdict?, hupper]

/-- The route of an rpc can be used if its path can be used as a pattern. -/
theorem serves_route {onPath : String → String → Bool} {c : Rpc}
    (hliteral : ∀ text path, onPath (Pattern.escapeText text) path = true ↔ path = text)
    (hcompiles : Pattern.isValid (Pattern.escapeText c.path) = true) :
    ∃ route, RouteSpec.ofSpec c.route = .ok route ∧ Serves onPath c route := by
  have hpattern : Pattern.ofText? (Pattern.escapeText c.path) =
      some ⟨Pattern.escapeText c.path, hcompiles⟩ := dif_pos hcompiles
  have hmethod : Method.ofText? (uppercaseAscii "POST") = some ⟨"POST", by decide⟩ := by decide
  have hcondition : RequestMatch.ofSpec? c.route.condition =
      some (.all [.method ⟨"POST", by decide⟩, .path ⟨Pattern.escapeText c.path, hcompiles⟩]) := by
    rw [condition_route, RequestMatch.ofSpec?]
    simp [RequestMatch.ofSpecs?, RequestMatch.ofNot?, hpattern, hmethod, conjunction?]
  refine ⟨⟨c.name, .all [.method ⟨"POST", by decide⟩, .path ⟨Pattern.escapeText c.path, hcompiles⟩],
    [], false, none⟩, ?_, rfl, fun req => ?_⟩
  · rw [RouteSpec.ofSpec, hcondition]
    rfl
  · rw [RequestMatch.holds_ofSpec? hcondition, holds_condition_route, Bool.and_eq_true, hliteral,
      beq_iff_eq, and_comm]

theorem serves_routes {onPath : String → String → Bool} {cs : List Rpc}
    (hliteral : ∀ text path, onPath (Pattern.escapeText text) path = true ↔ path = text)
    (hcompiles : ∀ c ∈ cs, Pattern.isValid (Pattern.escapeText c.path) = true) :
    List.Forall₂ (Serves onPath) cs
      ((cs.map Rpc.route).filterMap fun r => (RouteSpec.ofSpec r).toOption) := by
  induction cs with
  | nil => exact .nil
  | cons c cs ih =>
    obtain ⟨route, hroute, hserves⟩ := serves_route hliteral (hcompiles c List.mem_cons_self)
    rw [List.map_cons, List.filterMap_cons, hroute]
    exact .cons hserves (ih fun c' hc' => hcompiles c' (List.mem_cons_of_mem c hc'))

/-- A derived profile has no durations. -/
theorem derivedProfile_not_tooLong (ds : List Declaration) (service : ServiceRef)
    (domain : String) : ¬(derivedProfile ds service domain).spec.TooLong := by
  have htimeout (ds : List Declaration) : ∀ package, ∀ r ∈ routesFrom package ds,
      r.timeout = none := by
    induction ds with
    | nil => exact fun _ => nofun
    | cons d ds ih =>
      intro package r hr
      cases d with
      | package name => exact ih _ r hr
      | service name => exact ih _ r hr
      | method service name =>
        rcases List.mem_cons.mp hr with rfl | hr
        · rfl
        · exact ih _ r hr
  rintro (⟨r, hr, -, -, timeout, hsome, -⟩ | ⟨b, hb, -⟩)
  · rw [htimeout ds none r hr] at hsome
    cases hsome
  · cases hb

end Idl

namespace Index

/-- A text that is accepted reads as a document. The profile derived from it, applied to an index of
its cluster domain, is taken and governs its service, with one route for each rpc of the document,
in order, which serves the rpc. Escaped texts are taken to match exactly the texts, and the paths
of the rpcs to be usable as patterns. -/
theorem effective_derivedProfile {text : String} {ds : List Idl.Declaration}
    (hparse : Idl.parse text = .ok ds) :
    (∃ doc, Idl.Reads text doc) ∧
    ∀ doc, Idl.Reads text doc → ∀ (ix : Index) (s : ServiceRef) (onPath : String → String → Bool),
      (∀ text path, onPath (Pattern.escapeText text) path = true ↔ path = text) →
      (∀ c ∈ Idl.rpcs none doc, Pattern.isValid (Pattern.escapeText c.path) = true) →
      let taken := ix.apply (.serviceProfile (Idl.derivedProfile ds s ix.cluster.dnsDomain))
      taken.2 = none ∧ ∃ profile,
        taken.1.profiles.effective taken.1.cluster s = some profile ∧
        List.Forall₂ (Idl.Serves onPath) (Idl.rpcs none doc) profile.routes := by
  obtain ⟨hdoc, hdeclarations⟩ := Idl.parse_eq_ok hparse
  refine ⟨hdoc, fun doc hreads ix s onPath hliteral hcompiles => ?_⟩
  cases hdeclarations doc hreads
  have hfits := Idl.derivedProfile_not_tooLong (doc.flatMap Idl.Item.declarations) s
    ix.cluster.dnsDomain
  have hkey : (Resource.serviceProfile (Idl.derivedProfile (doc.flatMap Idl.Item.declarations) s
      ix.cluster.dnsDomain)).key? = some ⟨s.ns, ix.cluster.profileName s⟩ := rfl
  have htakes := takesProfile_applyProfile ix ⟨s.ns, ix.cluster.profileName s⟩
    (.ofUsable (Idl.derivedProfile (doc.flatMap Idl.Item.declarations) s
      ix.cluster.dnsDomain).spec)
  rw [apply_of_not_tooLong ix hkey hfits]
  refine ⟨rfl, .ofUsable (Idl.derivedProfile (doc.flatMap Idl.Item.declarations) s
    ix.cluster.dnsDomain).spec, ?_, ?_⟩
  · rw [Profiles.effective, htakes.cluster, htakes.resources, if_pos rfl, Option.some_or]
  · change List.Forall₂ _ _ ((Idl.routesFrom none _).filterMap _)
    rw [Idl.routesFrom_document]
    exact Idl.serves_routes hliteral hcompiles

end Index

namespace Sample

/-- The definition of a service in a package. Of its two rpcs one ends with a semicolon, the other
with a block. -/
def definition : String :=
  "package shop; service Cart \x7b rpc Add(Item); rpc List \x7b \x7d \x7d"

/-- What the definition reads as. -/
def document : List Idl.Item :=
  let addTail : Idl.Tail := {
    tokens := [.symbol '(', .word "Item", .symbol ')', .semicolon]
    ends := .token (by decide) (by decide) (.token nofun nofun (.token (by decide) (by decide)
      .semicolon)) }
  [.package "shop",
    .service "Cart" [.rpc "Add" addTail, .rpc "List" ⟨[.opening, .closing], .block .nil⟩]]

end Sample

namespace Index

theorem effective_derivedProfile_definition :
    let taken := (start {}).apply (.serviceProfile (Idl.derivedProfile
      (Sample.document.flatMap Idl.Item.declarations) Sample.web "cluster.local"))
    Idl.Reads Sample.definition Sample.document ∧
      taken.2 = none ∧ ∃ profile,
        taken.1.profiles.effective taken.1.cluster Sample.web = some profile ∧
        List.Forall₂ (Idl.Serves fun pattern path => pattern == Pattern.escapeText path)
          [⟨some "shop", "Cart", "Add"⟩, ⟨some "shop", "Cart", "List"⟩] profile.routes := by
  have hparse : Idl.parse Sample.definition =
      .ok (Sample.document.flatMap Idl.Item.declarations) := by
    decide +kernel
  have hreads : Idl.Reads Sample.definition Sample.document := by
    refine ⟨(Idl.tokenize Sample.definition.toList).toOption.getD [], ?_, ?_⟩ <;> decide +kernel
  refine ⟨hreads, (effective_derivedProfile hparse).2 Sample.document hreads (start {}) Sample.web
    _ (fun text path => ?_) (fun c hc => (Pattern.isValid_escapeText _).mpr ?_)⟩
  · rw [beq_iff_eq]
    exact ⟨fun h => (Pattern.escapeText_injective h).symm, fun h => h ▸ rfl⟩
  · have hpaths : ∀ c ∈ Idl.rpcs none Sample.document,
        32 * c.path.utf8ByteSize ≤ Pattern.maxSize := by
      decide +kernel
    exact hpaths c hc

end Index

end MeshDestination
