import MeshDestination.Pattern.Basic

/-!
# What a pattern may demand

A pattern that reads may still be refused: when it nests too deeply, when it could match part of a
character because Unicode is switched off, or when the machine that matches it would be too large.
-/

namespace MeshDestination.Pattern

/-! ## Nesting -/

/-- The deepest nesting of a pattern. -/
def maxDepth : Nat := 250

mutual
/-- How deeply the items of a class nest: a union of several items is a level, and so is each
operator. -/
def ClassItem.depth : ClassItem → Nat
  | .nested _ items => 1 + ClassItem.depthAll items
  | _ => 0

def ClassItem.depthAll : List ClassItem → Nat
  | [] => 0
  | .operator :: r => 1 + ClassItem.depthAll r
  | i :: r => max (ClassItem.depth i) (ClassItem.depthAll r)
end

/-- The levels of a class: its brackets, the union of its items, and what is inside. -/
def classDepth (items : List ClassItem) : Nat :=
  1 + (if 1 < items.length then 1 else 0) + ClassItem.depthAll items

mutual
/-- How deeply a pattern nests. -/
def Node.depth : Node → Nat
  | .class _ items => classDepth items
  | .repeated _ _ body => 1 + Node.depth body
  | .group _ body => 1 + Node.depth body
  | .either ns => 1 + Node.depthAll ns
  | .sequence ns => 1 + Node.depthAll ns
  | _ => 0

def Node.depthAll : List Node → Nat
  | [] => 0
  | n :: r => max (Node.depth n) (Node.depthAll r)
end

/-! ## Whole characters -/

/-- Whether a literal stands for a byte beyond ASCII rather than for a character. -/
def Literal.isHighByte (l : Literal) : Bool := l.isByte && 0x7F < l.char.toNat

mutual
/-- Whether an item of a class is allowed where Unicode is on or off. -/
def ClassItem.allowed (unicode : Bool) : ClassItem → Bool
  | .literal l => unicode || l.char.toNat ≤ 0x7F
  | .range a b => unicode || (a.char.toNat ≤ 0x7F && b.char.toNat ≤ 0x7F)
  | .shorthand _ negated => unicode || !negated
  | .ascii negated => unicode || !negated
  | .named => unicode
  | .nested negated items => (unicode || !negated) && ClassItem.allAllowed unicode items
  | .operator => true

def ClassItem.allAllowed (unicode : Bool) : List ClassItem → Bool
  | [] => true
  | i :: r => ClassItem.allowed unicode i && ClassItem.allAllowed unicode r
end

mutual
/-- Follows the Unicode flag through a pattern: its state afterwards, or nothing when a part is not
allowed in the state in which it stands. A group leaves the state as it was. -/
def Node.unicodeAfter? (unicode : Bool) : Node → Option Bool
  | .flags fs => some ((fs.state? .unicode).getD unicode)
  | .literal l => if unicode || !l.isHighByte then some unicode else none
  | .dot => if unicode then some unicode else none
  | .shorthand _ negated => if unicode || !negated then some unicode else none
  | .named => if unicode then some unicode else none
  | .class negated items =>
    if (unicode || !negated) && ClassItem.allAllowed unicode items then some unicode else none
  | .repeated _ _ body => Node.unicodeAfter? unicode body
  | .group fs body =>
    (Node.unicodeAfter? ((fs.state? .unicode).getD unicode) body).map fun _ => unicode
  | .either ns => Node.unicodeAfterAll? unicode ns
  | .sequence ns => Node.unicodeAfterAll? unicode ns
  | .empty | .assertion => some unicode

def Node.unicodeAfterAll? (unicode : Bool) : List Node → Option Bool
  | [] => some unicode
  | n :: r =>
    match Node.unicodeAfter? unicode n with
    | some u => Node.unicodeAfterAll? u r
    | none => none
end

/-! ## Size -/

/-- The largest machine, in bytes. -/
def maxSize : Nat := 10 * 1024 * 1024

/-- About how many bytes the machine for a shorthand class takes. -/
def Shorthand.size : Shorthand → Nat
  | .digit => 6000
  | .space => 1000
  | .word => 50000

/-- About how many bytes the machine for a list of class items takes. -/
def classSize (items : List ClassItem) : Nat :=
  items.foldl (fun n i =>
    n + match i with
      | .shorthand s _ => s.size
      | .named => 20000
      | _ => 50) 100

mutual
/-- About how many bytes the machine for a pattern takes. A counted repetition copies its body. -/
def Node.size : Node → Nat
  | .literal l => 32 * l.char.utf8Size
  | .dot => 600
  | .shorthand s _ => s.size
  | .named => 20000
  | .class _ items => classSize items
  | .repeated min max body => (Max.max 1 (max.getD (min + 1))) * Node.size body + 64
  | .group _ body => Node.size body + 64
  | .either ns => Node.sizeAll ns + 64
  | .sequence ns => Node.sizeAll ns
  | .empty | .assertion | .flags _ => 32

def Node.sizeAll : List Node → Nat
  | [] => 0
  | n :: r => Node.size n + Node.sizeAll r
end

/-- Whether a pattern can be used. -/
def Node.isUsable (n : Node) : Bool :=
  n.depth ≤ maxDepth && (n.unicodeAfter? true).isSome && n.size ≤ maxSize

end MeshDestination.Pattern
