import MeshDestination.Cluster.ProfileSpec
import MeshDestination.Idl.Declaration
import MeshDestination.Pattern
import MeshDestination.Service

/-!
# Derived profiles

The service profile that an interface definition gives rise to: one route for each method, for the
requests that call it.
-/

namespace MeshDestination.Idl

open Cluster

/-- The path that a method is called at. A package qualifies the service. -/
def methodPath (package : Option String) (service name : String) : String :=
  "/" ++ (package.map (· ++ ".")).getD "" ++ service ++ "/" ++ name

/-- The route of a method: posts to its path. -/
def methodRoute (package : Option String) (service name : String) : RouteSpec where
  name := name
  condition := {
    method := some "POST"
    pathRegex := some (Pattern.escapeText (methodPath package service name)) }

/-- The routes of declarations in order, given the package declared last before them. -/
def routesFrom (package : Option String) : List Declaration → List RouteSpec
  | [] => []
  | .package name :: r => routesFrom (some name) r
  | .service _ :: r => routesFrom package r
  | .method service name :: r => methodRoute package service name :: routesFrom package r

/-- The profile of a service that its declarations give rise to. -/
def derivedProfile (ds : List Declaration) (service : ServiceRef) (clusterDomain : String) :
    ServiceProfileObject where
  meta_ := { name := some (service.fqdn clusterDomain), ns := some service.ns }
  spec := { routes := routesFrom none ds }

/-- The document of a profile resource. -/
def profileDocument (o : ServiceProfileObject) : Json :=
  .obj [("apiVersion", .str "linkerd.io/v1alpha2"), ("kind", .str "ServiceProfile"),
    ("metadata", .obj (field? "name" .str o.meta_.name ++ field? "namespace" .str o.meta_.ns)),
    ("spec", o.spec.toJson)]

end MeshDestination.Idl
