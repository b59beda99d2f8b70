import MeshDestination.Index
import Std.Data.TreeSet

/-!
# Watches

A watch feeds the index with the events of one kind of resource. A new listing gathers resources and
applies them when it is complete; what was known before and is not listed is then forgotten. A
resource that has no namespace or that the index refuses ends the watch.
-/

namespace MeshDestination.Discovery

open Cluster Std

/-- An event of a watch. -/
inductive WatchEvent where
  | apply (r : Resource)
  | delete (r : Resource)
  /-- A listing begins. -/
  | init
  /-- A resource of the listing. -/
  | initApply (r : Resource)
  /-- The listing is complete. -/
  | initDone

/-- What a watch remembers. -/
structure Watch where
  /-- The resources that are known. -/
  known : TreeSet ObjectKey := {}
  /-- Resources known before the listing and not listed so far. -/
  stale : TreeSet ObjectKey := {}
  /-- The resources of the listing, last first. -/
  gathered : List Resource := []

/-- The key of a resource, if it has both parts. -/
def keyOf? (r : Resource) : Option ObjectKey := do
  let ns ← r.meta_.ns
  let name ← r.meta_.name
  some ⟨ns, name⟩

/-- Records resources in order, up to the first that the index refuses. -/
def applyAll (ix : Index) : List Resource → Index × Bool
  | [] => (ix, true)
  | r :: rest =>
    match ix.apply r with
    | (ix, none) => applyAll ix rest
    | (ix, some _) => (ix, false)

namespace Watch

/-- Handles an event. Without a watch in the answer, the watch has ended. -/
def step (kind : Kind) (ix : Index) (w : Watch) : WatchEvent → Index × Option Watch
  | .apply r =>
    match keyOf? r with
    | none => (ix, none)
    | some key =>
      match ix.apply r with
      | (ix, none) => (ix, some { w with known := w.known.insert key })
      | (ix, some _) => (ix, none)
  | .delete r =>
    match keyOf? r with
    | none => (ix, none)
    | some key => (ix.delete kind key.ns key.name, some { w with known := w.known.erase key })
  | .init => (ix, some { w with known := {}, stale := w.known })
  | .initApply r =>
    match keyOf? r with
    | none => (ix, none)
    | some key =>
      (ix, some {
        known := w.known.insert key
        stale := w.stale.erase key
        gathered := r :: w.gathered })
  | .initDone =>
    match applyAll ix w.gathered.reverse with
    | (ix, false) => (ix, none)
    | (ix, true) =>
      (w.stale.toList.foldl (fun ix key => ix.delete kind key.ns key.name) ix,
        some { known := w.known })

end Watch

/-! ## Priming -/

/-- How far a watch is with its first listing. -/
inductive Priming where
  | pending
  | done
  /-- The watch ended before. -/
  | lost
  deriving DecidableEq

namespace Priming

/-- A listing is complete. -/
def complete : Priming → Priming
  | .pending => .done
  | p => p

/-- The watch has ended. -/
def abandon : Priming → Priming
  | .pending => .lost
  | p => p

end Priming

/-- Waits for the first listings of watches, for one after the other. -/
structure Barrier (κ : Type) where
  /-- The watches that are still waited for, in the order of their registration. -/
  waiting : List (κ × Priming) := []

namespace Barrier

variable {κ : Type}

/-- Registers a watch. -/
def register (b : Barrier κ) (k : κ) : Barrier κ := ⟨b.waiting ++ [(k, .pending)]⟩

/-- Registers some watches in order. -/
def ofWatches (ks : List κ) : Barrier κ := ks.foldl register {}

/-- Goes on from watches that are complete to the first that is not. The answer is there once no
watch is left or once one has ended before. -/
def await : List (κ × Priming) → Barrier κ × Option Bool
  | [] => ({}, some true)
  | (_, .done) :: r => await r
  | (k, .lost) :: r => (⟨(k, .lost) :: r⟩, some false)
  | (k, .pending) :: r => (⟨(k, .pending) :: r⟩, none)

/-- Waits as far as that is possible now. -/
def poll (b : Barrier κ) : Barrier κ × Option Bool := await b.waiting

variable [DecidableEq κ]

/-- Changes how far a watch is. -/
def modify (b : Barrier κ) (k : κ) (f : Priming → Priming) : Barrier κ :=
  ⟨b.waiting.map fun (k', p) => (k', if k' = k then f p else p)⟩

/-- A watch brings an event. The event is passed on. -/
def pass (b : Barrier κ) (k : κ) (e : WatchEvent) : Barrier κ × WatchEvent :=
  match e with
  | .initDone => (b.modify k Priming.complete, e)
  | _ => (b, e)

/-- A watch ends. -/
def endWatch (b : Barrier κ) (k : κ) : Barrier κ := b.modify k Priming.abandon

end Barrier

end MeshDestination.Discovery
