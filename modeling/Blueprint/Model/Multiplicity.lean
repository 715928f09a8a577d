/-!
# Multiplicities

How many instances a property may have: at least `min`, and at most `max` if there is a bound.
Everything that is derived from a model depends on a multiplicity only through two questions,
whether an instance is mandatory and whether there may be many.
-/
namespace Blueprint

/-- The upper bound of a multiplicity. -/
inductive Bound where
  | bounded (n : UInt32)
  | unbounded
  deriving DecidableEq, Repr

namespace Bound

/-- More than one instance is admitted. -/
def isMany : Bound → Bool
  | bounded n => decide (1 < n)
  | unbounded => true

def text : Bound → String
  | bounded n => Nat.repr n.toNat
  | unbounded => "*"

/-- Bounds are ordered by number, and no bound is above all of them. -/
def order : Bound → Bound → Ordering
  | bounded m, bounded n => compare m.toNat n.toNat
  | bounded _, unbounded => .lt
  | unbounded, bounded _ => .gt
  | unbounded, unbounded => .eq

end Bound

structure Multiplicity where
  min : UInt32
  max : Bound
  deriving DecidableEq, Repr

namespace Multiplicity

/-- Exactly one, which is also what an attribute has when it declares nothing. -/
def one : Multiplicity := ⟨1, .bounded 1⟩

def optional : Multiplicity := ⟨0, .bounded 1⟩

def many : Multiplicity := ⟨0, .unbounded⟩

def isOptional (m : Multiplicity) : Bool := m.min == 0

def isMandatory (m : Multiplicity) : Bool := decide (0 < m.min)

def isMany (m : Multiplicity) : Bool := m.max.isMany

def isSingle (m : Multiplicity) : Bool := !m.isMany

/-- Some number of instances other than zero is within the bounds. -/
def isValid (m : Multiplicity) : Bool :=
  match m.max with
  | .bounded n => decide (1 ≤ n) && decide (m.min ≤ n)
  | .unbounded => true

def text (m : Multiplicity) : String := Nat.repr m.min.toNat ++ ".." ++ m.max.text

end Multiplicity

end Blueprint
