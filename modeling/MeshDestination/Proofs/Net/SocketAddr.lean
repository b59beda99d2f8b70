import Mathlib.Data.List.TakeDrop
import Mathlib.Data.List.TakeWhile
import MeshDestination.Net.SocketAddr
import MeshDestination.Proofs.Net.Ip

/-!
# Socket addresses are read back from their text

The text of a socket address is read as that address, of either family and with or without a zone
(`SocketAddr.ofText?_text`). An IPv4 address has no zone.
-/

namespace MeshDestination.Net

theorem bne_of_notMem {c : Char} {p : List Char} (h : c ∉ p) : ∀ x ∈ p, (x != c) = true := by
  intro x hx
  rw [bne_iff_ne]
  rintro rfl
  exact h hx

theorem span_append_cons {c : Char} {p : List Char} (h : c ∉ p) (r : List Char) :
    (p ++ c :: r).span (· != c) = (p, c :: r) := by
  have hp := bne_of_notMem h
  rw [List.span_eq_takeWhile_dropWhile, List.takeWhile_append_of_pos hp,
    List.dropWhile_append_of_pos hp]
  simp

theorem span_of_notMem {c : Char} {p : List Char} (h : c ∉ p) : p.span (· != c) = (p, []) := by
  have hp := bne_of_notMem h
  rw [List.span_eq_takeWhile_dropWhile, List.takeWhile_eq_self_iff.mpr hp,
    List.dropWhile_eq_nil_iff.mpr hp]

namespace SocketAddr

theorem port?_toDigits (port : UInt16) : port? (Nat.toDigits 10 port.toNat) = some port := by
  have hport : port.toNat ≤ 65535 := Nat.le_of_lt_succ port.toNat_lt
  rw [port?, decimal?_toDigits hport, Option.map_some, UInt16.ofNat_toNat]

theorem bracketed?_noZone (b : BitVec 128) (port : UInt16) :
    bracketed? (colons b).toList (':' :: Nat.toDigits 10 port.toNat) = some ⟨.v6 b, port, 0⟩ := by
  have hpercent : '%' ∉ (colons b).toList :=
    notMem_colons (by decide) (by decide) (by decide) b
  simp only [bracketed?, port?_toDigits, span_of_notMem hpercent, colons?_colons]
  rfl

theorem bracketed?_zone (b : BitVec 128) (port : UInt16) (zone : UInt32) :
    bracketed? ((colons b).toList ++ '%' :: Nat.toDigits 10 zone.toNat)
      (':' :: Nat.toDigits 10 port.toNat) = some ⟨.v6 b, port, zone⟩ := by
  have hpercent : '%' ∉ (colons b).toList :=
    notMem_colons (by decide) (by decide) (by decide) b
  have hzone : zone.toNat ≤ 4294967295 := Nat.le_of_lt_succ zone.toNat_lt
  simp only [bracketed?, port?_toDigits, span_append_cons hpercent, colons?_colons,
    decimal?_toDigits hzone, Option.bind_eq_bind, Option.bind_some, UInt32.ofNat_toNat]

theorem ofText?_bracket {s : String} {inside after : List Char}
    (hs : s.toList = '[' :: (inside ++ ']' :: after)) (h : ']' ∉ inside) :
    ofText? s = bracketed? inside after := by
  simp only [ofText?, hs, span_append_cons h]

theorem ofText?_colon {s : String} {front digits : List Char}
    (hs : s.toList = front ++ ':' :: digits) (hbracket : '[' ∉ front) (hcolon : ':' ∉ front) :
    ofText? s =
      (dotted? front).bind fun b => (port? digits).bind fun port => some ⟨.v4 b, port, 0⟩ := by
  have hspan := span_append_cons hcolon digits
  unfold ofText?
  rw [hs]
  split
  · next r hr =>
    cases front with
    | nil => simp at hr
    | cons x front => simp_all
  · simp only [hspan]
    rfl

theorem ofText?_text {a : SocketAddr} (h : ∀ b, a.ip = .v4 b → a.zone = 0) :
    ofText? a.text = some a := by
  obtain ⟨ip, port, zone⟩ := a
  cases ip with
  | v4 b =>
    obtain rfl : zone = 0 := h b rfl
    have htext : (text ⟨.v4 b, port, 0⟩).toList =
        (dotted b).toList ++ ':' :: Nat.toDigits 10 port.toNat := by
      simp [text]
    have hcolon : ':' ∉ (dotted b).toList := notMem_dotted (by decide) (by decide) b
    have hbracket : '[' ∉ (dotted b).toList := notMem_dotted (by decide) (by decide) b
    rw [ofText?_colon htext hbracket hcolon, dotted?_dotted, port?_toDigits]
    rfl
  | v6 b =>
    have hclose : ']' ∉ (colons b).toList := notMem_colons (by decide) (by decide) (by decide) b
    by_cases hzone : zone = 0
    · subst hzone
      have htext : (text ⟨.v6 b, port, 0⟩).toList =
          '[' :: ((colons b).toList ++ ']' :: ':' :: Nat.toDigits 10 port.toNat) := by
        simp [text]
      rw [ofText?_bracket htext hclose, bracketed?_noZone]
    · have htext : (text ⟨.v6 b, port, zone⟩).toList =
          '[' :: (((colons b).toList ++ '%' :: Nat.toDigits 10 zone.toNat) ++
            ']' :: ':' :: Nat.toDigits 10 port.toNat) := by
        simp [text, hzone]
      have hinside : ']' ∉ (colons b).toList ++ '%' :: Nat.toDigits 10 zone.toNat := by
        have hdigits := notMem_toDigits_ten (c := ']') (by decide) zone.toNat
        simp [hclose, hdigits]
      rw [ofText?_bracket htext hinside, bracketed?_zone]

end SocketAddr

end MeshDestination.Net
