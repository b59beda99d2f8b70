import Std.Data.TreeMap

/-!
# Resource keys

The namespace and the name under which a resource of a kind is known.
-/

namespace MeshDestination.Cluster

/-- A resource of a kind by namespace and name. -/
structure ObjectKey where
  ns : String
  name : String
  deriving DecidableEq

namespace ObjectKey

instance : Ord ObjectKey := ⟨compareLex (compareOn ns) (compareOn name)⟩

instance : Std.TransOrd ObjectKey :=
  inferInstanceAs (Std.TransCmp (compareLex (compareOn ns) (compareOn name)))

instance : Std.LawfulEqOrd ObjectKey where
  toReflCmp := inferInstance
  eq_of_compare {a b} h := by
    have h : compareLex (compareOn ns) (compareOn name) a b = .eq := h
    rw [compareLex_eq_eq] at h
    obtain ⟨h₁, h₂⟩ := h
    have e₁ : a.ns = b.ns := Std.LawfulEqOrd.eq_of_compare h₁
    have e₂ : a.name = b.name := Std.LawfulEqOrd.eq_of_compare h₂
    cases a; cases b
    simp_all

end ObjectKey

end MeshDestination.Cluster
