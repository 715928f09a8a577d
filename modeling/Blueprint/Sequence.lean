/-!
# Lists in order

Sorting that keeps the order of equal items, and the search for a name that comes twice.
-/
namespace Blueprint

variable {α : Type}

/-- Puts an item in front of the first one that it may precede. -/
def insertSorted (le : α → α → Bool) (x : α) : List α → List α
  | [] => [x]
  | y :: ys => if le x y then x :: y :: ys else y :: insertSorted le x ys

/-- The items in ascending order; equal ones stay as they were. -/
def sorted (le : α → α → Bool) : List α → List α
  | [] => []
  | x :: xs => insertSorted le x (sorted le xs)

theorem insertSorted_perm (le : α → α → Bool) (x : α) (ys : List α) :
    (insertSorted le x ys).Perm (x :: ys) := by
  induction ys with
  | nil => exact .refl _
  | cons y ys ih =>
    simp only [insertSorted]
    split
    · exact .refl _
    · exact (ih.cons y).trans (.swap x y ys)

theorem sorted_perm (le : α → α → Bool) (xs : List α) : (sorted le xs).Perm xs := by
  induction xs with
  | nil => exact .refl _
  | cons x xs ih => exact (insertSorted_perm le x _).trans (ih.cons x)

@[simp] theorem mem_sorted (le : α → α → Bool) {x : α} {xs : List α} :
    x ∈ sorted le xs ↔ x ∈ xs := (sorted_perm le xs).mem_iff

@[simp] theorem length_sorted (le : α → α → Bool) (xs : List α) :
    (sorted le xs).length = xs.length := (sorted_perm le xs).length_eq

/-- Items in the order of their names. -/
def sortedByName (name : α → String) : List α → List α :=
  sorted fun a b => decide (name a ≤ name b)

/-- The first name that comes again, with what it stood for before and what it stands for now.
`seen` holds the names already passed. -/
def firstClash (seen : List (String × α)) : List (String × α) → Option (String × α × α)
  | [] => none
  | (name, a) :: rest =>
    match seen.lookup name with
    | some before => some (name, before, a)
    | none => firstClash ((name, a) :: seen) rest

/-- The first of several names that comes again. -/
def firstRepeat (names : List String) : Option String :=
  (firstClash [] (names.map fun name => (name, ()))).map (·.1)

/-- Each item with those before it, the nearest first. -/
def withPrior (prior : List α) : List α → List (List α × α)
  | [] => []
  | x :: xs => (prior, x) :: withPrior (x :: prior) xs

end Blueprint
