import MeshDestination.Net.SocketAddr

/-!
# Services and their ports

The names by which services and their ports are known, the port that traffic for a service goes to,
and the order in which services are listed.
-/

namespace MeshDestination

/-! ## Ports -/

/-- A port number, which is never zero. -/
structure Port where
  number : UInt16
  ne_zero : number ≠ 0
  deriving DecidableEq

namespace Port

/-- The port of a number, if it is one. -/
def ofInt? (n : Int) : Option Port :=
  if 0 < n ∧ n < 65536 then
    let k := UInt16.ofNat n.toNat
    if h : k ≠ 0 then some ⟨k, h⟩ else none
  else none

/-- The port of a natural number, if it is one. -/
def ofNat? (n : Nat) : Option Port := ofInt? n

/-- The number of a port. -/
def toNat (p : Port) : Nat := p.number.toNat

theorem ofNat?_eq_some {n : Nat} {p : Port} : ofNat? n = some p ↔ n = p.toNat := by
  have hofNat : UInt16.ofNat (n : Int).toNat = UInt16.ofNat n := by rw [Int.toNat_natCast]
  unfold ofNat? ofInt?
  constructor
  · intro h
    split at h
    · next hbounds =>
      dsimp only at h
      split at h
      · cases h
        change n = (UInt16.ofNat (n : Int).toNat).toNat
        rw [hofNat, UInt16.toNat_ofNat', Nat.mod_eq_of_lt (by omega)]
      · cases h
    · cases h
  · rintro rfl
    have hlt : p.toNat < 65536 := p.number.toNat_lt
    have hpos : 0 < p.toNat := Nat.pos_of_ne_zero fun h => p.ne_zero (UInt16.toNat_inj.mp h)
    have hnumber : UInt16.ofNat p.toNat = p.number := UInt16.ofNat_toNat
    rw [if_pos (by omega)]
    dsimp only
    simp only [hofNat, hnumber]
    exact dif_pos p.ne_zero

/-- A port in decimal, which may be written with a plus sign. -/
def ofText? (s : String) : Option Port :=
  let digits :=
    match s.toList with
    | '+' :: r => r
    | r => r
  (Net.decimal? 65535 digits).bind ofNat?

/-- The port of plain web traffic. -/
def http : Port := ⟨80, by decide⟩

instance : Ord Port := ⟨compareOn number⟩

instance : Std.TransOrd Port := inferInstanceAs (Std.TransCmp (compareOn number))

instance : Std.LawfulEqOrd Port where
  toReflCmp := inferInstance
  eq_of_compare {a b} h := by
    have e : a.number = b.number := Std.LawfulEqOrd.eq_of_compare h
    cases a; cases b
    simp_all

end Port

/-! ## Services -/

/-- A service by namespace and name. -/
structure ServiceRef where
  ns : String
  name : String
  deriving DecidableEq

namespace ServiceRef

/-- The fully qualified name of a service within a cluster. -/
def fqdn (s : ServiceRef) (clusterDomain : String) : String :=
  s.name ++ "." ++ s.ns ++ ".svc." ++ clusterDomain

/-- The short text of a service. -/
def text (s : ServiceRef) : String := s.ns ++ "/" ++ s.name

instance : Ord ServiceRef := ⟨compareLex (compareOn ns) (compareOn name)⟩

instance : Std.TransOrd ServiceRef :=
  inferInstanceAs (Std.TransCmp (compareLex (compareOn ns) (compareOn name)))

instance : Std.LawfulEqOrd ServiceRef where
  toReflCmp := inferInstance
  eq_of_compare {a b} h := by
    have h : compareLex (compareOn ns) (compareOn name) a b = .eq := h
    rw [compareLex_eq_eq] at h
    obtain ⟨h₁, h₂⟩ := h
    have e₁ : a.ns = b.ns := Std.LawfulEqOrd.eq_of_compare h₁
    have e₂ : a.name = b.name := Std.LawfulEqOrd.eq_of_compare h₂
    cases a; cases b
    simp_all

end ServiceRef

/-! ## Target ports -/

/-- The port of a backend that a service port leads to, by number or by name. -/
inductive TargetPort where
  | number (p : Port)
  | name (n : String)
  deriving DecidableEq

namespace TargetPort

/-- Whether a backend's port, with its name if it has one, is the target. -/
def isMetBy (t : TargetPort) (name : Option String) (port : Port) : Bool :=
  match t with
  | .number p => p == port
  | .name n => some n == name

/-- The text of a target port. -/
def text : TargetPort → String
  | .number p => toString p.toNat
  | .name n => n

end TargetPort

end MeshDestination
