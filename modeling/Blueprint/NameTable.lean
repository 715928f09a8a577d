/-!
# Tables by name

A table has at most one entry for a name and lists its entries in the order of their names.
-/
namespace Blueprint

/-- Replaces the entry of a name, or inserts it at its place. -/
def putByName {α : Type} (name : String) (a : α) : List (String × α) → List (String × α)
  | [] => [(name, a)]
  | (other, b) :: rest =>
    if name < other then (name, a) :: (other, b) :: rest
    else if name = other then (name, a) :: rest
    else (other, b) :: putByName name a rest

theorem mem_putByName {α : Type} {name : String} {a : α} {es : List (String × α)}
    {e : String × α} (h : e ∈ putByName name a es) : e = (name, a) ∨ e ∈ es := by
  induction es with
  | nil => exact .inl (List.mem_singleton.1 h)
  | cons f es ih =>
    simp only [putByName] at h
    split at h
    · exact List.mem_cons.1 h
    · split at h
      · rcases List.mem_cons.1 h with h | h
        · exact .inl h
        · exact .inr (.tail _ h)
      · rcases List.mem_cons.1 h with h | h
        · exact .inr (h ▸ .head _)
        · exact (ih h).imp id (.tail _)

theorem putByName_ordered {α : Type} (name : String) (a : α) {es : List (String × α)}
    (h : es.Pairwise (·.1 < ·.1)) : (putByName name a es).Pairwise (·.1 < ·.1) := by
  induction es with
  | nil => simp [putByName]
  | cons f es ih =>
    obtain ⟨hf, hes⟩ := List.pairwise_cons.1 h
    simp only [putByName]
    split
    · next lt =>
      refine List.pairwise_cons.2 ⟨fun e he => ?_, h⟩
      rcases List.mem_cons.1 he with he | he
      · exact he ▸ lt
      · exact String.lt_trans lt (hf e he)
    · next notLt =>
      split
      · next eq => exact List.pairwise_cons.2 ⟨fun e he => eq ▸ hf e he, hes⟩
      · next ne =>
        refine List.pairwise_cons.2 ⟨fun e he => ?_, ih hes⟩
        rcases mem_putByName he with he | he
        · subst he
          exact Std.lt_of_le_of_ne (Std.not_lt.1 notLt) (Ne.symm ne)
        · exact hf e he

structure NameTable (α : Type) where
  entries : List (String × α)
  ordered : entries.Pairwise (·.1 < ·.1)

namespace NameTable

variable {α : Type}

def empty : NameTable α := ⟨[], .nil⟩

/-- A later entry takes the place of an earlier one of the same name. -/
def insert (t : NameTable α) (name : String) (a : α) : NameTable α :=
  ⟨putByName name a t.entries, putByName_ordered name a t.ordered⟩

def ofList (entries : List (String × α)) : NameTable α :=
  entries.foldl (fun t e => t.insert e.1 e.2) empty

def get? (t : NameTable α) (name : String) : Option α := t.entries.lookup name

/-- The table without the entries of some names. -/
def without (t : NameTable α) (names : List String) : NameTable α :=
  ⟨t.entries.filter fun e => !names.contains e.1, t.ordered.filter _⟩

def names (t : NameTable α) : List String := t.entries.map (·.1)

/-- The entries in the order of their names. -/
def values (t : NameTable α) : List α := t.entries.map (·.2)

def size (t : NameTable α) : Nat := t.entries.length

def isEmpty (t : NameTable α) : Bool := t.entries.isEmpty

@[ext] theorem ext {s t : NameTable α} (h : s.entries = t.entries) : s = t := by
  cases s; cases t; simp_all

end NameTable

end Blueprint
