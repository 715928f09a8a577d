import Blueprint.Proofs.Closure
import Blueprint.Proofs.JsonInjective

/-!
# What is compiled, told by its text

The JSON text of what is compiled tells all of it. The form of each part is an object with fixed
names, and where a part may be one of several things a kind among its members tells which. Nothing
is left out but the positions of the classes between which a reference is placed. Their names are
written, and the tables have the names of all classes in order.
-/
namespace Blueprint

open Json (Value)
open Function (Injective)

/-! ## Forms of parts -/

namespace Json.Value

lemma ofList_injective {α : Type} {f : α → Value} (hf : Injective f) : Injective (ofList f) :=
  fun _ _ h => List.map_injective_iff.2 hf (Value.array.inj h)

/-- A value that may be missing is told if it is not null itself. -/
lemma ofOption_injective {α : Type} {f : α → Value} (hf : Injective f) (hnull : ∀ a, f a ≠ .null) :
    Injective (ofOption f) := by
  intro x y h
  cases x with
  | none =>
    cases y with
    | none => rfl
    | some b => exact absurd h.symm (hnull b)
  | some a =>
    cases y with
    | none => exact absurd h (hnull a)
    | some b => exact congrArg some (hf h)

lemma string_injective : Injective Value.string := fun _ _ => Value.string.inj

lemma ofOption_string_injective : Injective (ofOption Value.string) :=
  ofOption_injective string_injective fun _ => by simp

/-- An object is told by its names and their values. -/
lemma members_injective {α : Type} {f : α → Value} (hf : Injective f) :
    Injective fun entries : List (String × α) => entries.map fun (name, a) => (name, f a) := by
  refine List.map_injective_iff.2 fun x y h => ?_
  obtain ⟨hname, hvalue⟩ := Prod.mk.inj h
  exact Prod.ext hname (hf hvalue)

end Json.Value

open Json.Value (ofList_injective ofOption_injective ofOption_string_injective string_injective
  members_injective)

lemma Primitive.toValue_injective : Injective Primitive.toValue := by
  intro p q h
  cases p <;> cases q <;> simp [toValue, key] at h ⊢

lemma Side.toValue_injective : Injective Side.toValue := by
  intro s t h
  cases s <;> cases t <;> simp [toValue] at h ⊢

lemma Cardinality.toValue_injective : Injective Cardinality.toValue := by
  intro x y h
  cases x <;> cases y <;> simp [toValue] at h ⊢

/-! ### Tables -/

lemma ParentTable.toValue_injective : Injective ParentTable.toValue := by
  rintro ⟨_, _⟩ ⟨_, _⟩ h
  simpa [toValue] using h

lemma Identity.toValue_injective : Injective Identity.toValue := by
  rintro ⟨_, _, _⟩ ⟨_, _, _⟩ h
  simpa [toValue, ofOption_string_injective.eq_iff] using h

lemma ColumnType.toValue_injective : Injective ColumnType.toValue := by
  intro x y h
  cases x <;> cases y <;> simp [toValue, Primitive.toValue_injective.eq_iff] at h ⊢ <;> exact h

lemma Column.toValue_injective : Injective Column.toValue := by
  rintro ⟨_, _, _⟩ ⟨_, _, _⟩ h
  simpa [toValue, ColumnType.toValue_injective.eq_iff] using h

lemma Reference.toValue_injective : Injective Reference.toValue := by
  rintro ⟨_, _, _, _, _, _⟩ ⟨_, _, _, _, _, _⟩ h
  simpa [toValue] using h

lemma Table.toValue_injective : Injective Table.toValue := by
  rintro ⟨_, _, _, _, _, _, _, _⟩ ⟨_, _, _, _, _, _, _, _⟩ h
  have hparent := ofOption_injective ParentTable.toValue_injective fun _ => by
    simp [ParentTable.toValue]
  simpa [toValue, hparent.eq_iff, Identity.toValue_injective.eq_iff,
    ofOption_string_injective.eq_iff, (ofList_injective Column.toValue_injective).eq_iff,
    (ofList_injective Reference.toValue_injective).eq_iff] using h

lemma JoinColumn.toValue_injective : Injective JoinColumn.toValue := by
  rintro ⟨_, _, _⟩ ⟨_, _, _⟩ h
  simpa [toValue] using h

lemma JoinTable.toValue_injective : Injective JoinTable.toValue := by
  rintro ⟨_, _, _, _⟩ ⟨_, _, _, _⟩ h
  simpa [toValue, JoinColumn.toValue_injective.eq_iff] using h

lemma Layout.toValue_injective : Injective Layout.toValue := by
  rintro ⟨_, _⟩ ⟨_, _⟩ h
  simpa [toValue, (ofList_injective Table.toValue_injective).eq_iff,
    (ofList_injective JoinTable.toValue_injective).eq_iff] using h

/-! ### Contracts -/

lemma ElementType.toValue_injective : Injective ElementType.toValue := by
  intro x y h
  cases x <;> cases y <;> simp [toValue] at h ⊢
  exact h

lemma FieldType.toValue_injective : Injective FieldType.toValue := by
  intro x y h
  cases x <;> cases y <;>
    simp [toValue, Primitive.toValue_injective.eq_iff, ElementType.toValue_injective.eq_iff]
      at h ⊢ <;> exact h

lemma Origin.toValue_injective : Injective Origin.toValue := by
  intro x y h
  cases x <;> cases y <;> simp [toValue, Cardinality.toValue_injective.eq_iff] at h ⊢
  exact h

lemma Field.toValue_injective : Injective Field.toValue := by
  rintro ⟨_, _, _, _⟩ ⟨_, _, _, _⟩ h
  simpa [toValue, FieldType.toValue_injective.eq_iff, Origin.toValue_injective.eq_iff] using h

lemma Contract.toValue_injective : Injective Contract.toValue := by
  rintro ⟨_, _, _, _, _, _⟩ ⟨_, _, _, _, _, _⟩ h
  simpa [toValue, ofOption_string_injective.eq_iff,
    (ofList_injective Field.toValue_injective).eq_iff] using h

lemma Literal.toValue_injective : Injective Literal.toValue := by
  rintro ⟨_, _⟩ ⟨_, _⟩ h
  simpa [toValue] using h

lemma Enumeration.toValue_injective : Injective Enumeration.toValue := by
  rintro ⟨_, _⟩ ⟨_, _⟩ h
  simpa [toValue, (ofList_injective Literal.toValue_injective).eq_iff] using h

lemma ContractSet.toValue_injective : Injective ContractSet.toValue := by
  rintro ⟨⟨_, _⟩, _⟩ ⟨⟨_, _⟩, _⟩ h
  simpa [toValue, (members_injective Contract.toValue_injective).eq_iff,
    (ofList_injective Enumeration.toValue_injective).eq_iff] using h

/-! ### Plans -/

lemma Binding.toValue_injective : Injective Binding.toValue := by
  intro x y h
  cases x <;> cases y <;> simp [toValue] at h ⊢

lemma Argument.toValue_injective : Injective Argument.toValue := by
  rintro ⟨_, _, _, _⟩ ⟨_, _, _, _⟩ h
  simpa [toValue, Binding.toValue_injective.eq_iff] using h

lemma Plan.toValue_injective : Injective Plan.toValue := by
  rintro ⟨_, _, _⟩ ⟨_, _, _⟩ h
  simpa [toValue, (ofList_injective Argument.toValue_injective).eq_iff] using h

/-! ## Positions of classes -/

/-- The reference between the positions that a function finds for its classes. -/
def ForeignKey.located (position : String → ClassId) (key : ForeignKey) : ForeignKey :=
  { key with owner := position key.ownerClass, target := position key.targetClass }

def Placement.located (position : String → ClassId) : Placement → Placement
  | reference key => reference (key.located position)
  | joinTable association => joinTable association

/-- The form of a placement tells it up to positions. -/
lemma Placement.located_eq_of_toValue_eq {p q : Placement} (h : p.toValue = q.toValue)
    (position : String → ClassId) : p.located position = q.located position := by
  rcases p with ⟨_, _, _, _, _, _, _, _, _, _⟩ | _ <;>
    rcases q with ⟨_, _, _, _, _, _, _, _, _, _⟩ | _ <;>
      simp [toValue, Side.toValue_injective.eq_iff, Cardinality.toValue_injective.eq_iff] at h
  · obtain ⟨rfl, rfl, rfl, rfl, rfl, rfl, rfl, rfl⟩ := h
    rfl
  · rw [h]

namespace Compiled

variable {k k' : Compiled}

/-- The position of a class among the tables. -/
def position (k : Compiled) (className : String) : ClassId :=
  (k.storage.tables.map (·.ofClass)).idxOf className

/-- The placements with the positions that a function finds. -/
def locatedEntries (k : Compiled) (position : String → ClassId) : List (String × Placement) :=
  k.placements.entries.map fun e => (e.1, e.2.located position)

/-- All references are placed between the positions of their classes among the tables. -/
def Located (k : Compiled) : Prop := k.locatedEntries k.position = k.placements.entries

lemma locatedEntries_eq_of_toValue_eq (h : k.placements.toValue = k'.placements.toValue)
    (position : String → ClassId) : k.locatedEntries position = k'.locatedEntries position := by
  have hmap : (k.placements.entries.map fun e => (e.1, e.2.toValue)) =
      k'.placements.entries.map fun e => (e.1, e.2.toValue) := Value.object.inj h
  rw [← List.forall₂_eq_eq_eq] at hmap
  have hforms := List.forall₂_map_right_iff.1 (List.forall₂_map_left_iff.1 hmap)
  refine map_eq_map_of_forall₂ (fun e e' he => ?_) hforms
  obtain ⟨hname, hvalue⟩ := Prod.mk.inj he
  rw [hname, Placement.located_eq_of_toValue_eq hvalue]

/-- If all references are placed between the positions of their classes, nothing that is not written
is left to choose. -/
theorem toJson_inj (hk : k.Located) (hk' : k'.Located) : k.toJson = k'.toJson ↔ k = k' := by
  refine ⟨fun h => ?_, congrArg toJson⟩
  have hvalue : k.toValue = k'.toValue := Value.pretty_injective h
  simp only [toValue, Value.object.injEq, List.cons.injEq, Prod.mk.injEq, Value.string.injEq,
    Layout.toValue_injective.eq_iff, ContractSet.toValue_injective.eq_iff,
    (ofList_injective Plan.toValue_injective).eq_iff,
    (ofList_injective string_injective).eq_iff, true_and, and_true] at hvalue
  obtain ⟨hname, hplacements, hstorage, hcontracts, hplans, hskipped⟩ := hvalue
  have hposition : k.position = k'.position := by
    funext className
    rw [position, position, hstorage]
  have hentries : k.placements = k'.placements := by
    refine NameTable.ext ?_
    rw [← hk, ← hk', hposition, locatedEntries_eq_of_toValue_eq hplacements]
  cases k
  cases k'
  simp_all

end Compiled

namespace Catalog.Coherent

variable {c : Catalog} {o : Options} {id : ClassId}

lemma position_compiled (hc : c.Coherent) (hid : id < c.classes.length) :
    (c.compiled o).position (c.className id) = id := by
  have htables : (c.compiled o).storage.tables.map (·.ofClass) = c.classes.map (·.name) := by
    simp [compiled, layout, table]
  have hlt : id < (c.classes.map (·.name)).length := by simpa using hid
  have hname : c.className id = (c.classes.map (·.name))[id] := by
    rw [className_eq (entry?_of_lt hid), List.getElem_map]
  rw [Compiled.position, htables, hname, hc.nodup_classNames.idxOf_getElem]

theorem located_compiled (hc : c.Coherent) : (c.compiled o).Located := by
  have hself : ∀ r ∈ c.relationships,
      (c.place r).located (c.compiled o).position = c.place r := by
    intro r hr
    cases howner : r.ownerSide? with
    | none =>
      rw [place_of_no_owner howner]
      rfl
    | some side =>
      rw [place_of_owner howner, Placement.located, ForeignKey.located]
      simp only [foreignKey, hc.position_compiled (hc.ends r hr side),
        hc.position_compiled (hc.ends r hr side.opposite)]
  have hentries : (c.compiled o).placements.entries =
      c.relationships.map fun r => (r.name, c.place r) := hc.entries_placements
  rw [Compiled.Located, Compiled.locatedEntries, hentries, List.map_map]
  exact List.map_congr_left fun r hr => by rw [Function.comp_apply, hself r hr]

end Catalog.Coherent

namespace Model

variable {m m' : Model} {o o' : Options} {k k' : Compiled} {order order' : StartOrder}

/-- What is compiled from a model is told by its JSON text, by which it differs from whatever else
is compiled from any model with any options. -/
theorem toJson_injective_on_compiled (hk : m.compile o order = .ok k)
    (hk' : m'.compile o' order' = .ok k')
    (h : k.toJson = k'.toJson) : k = k' := by
  obtain ⟨hm, -, -, rfl⟩ := compile_eq_ok_iff.1 hk
  obtain ⟨hm', -, -, rfl⟩ := compile_eq_ok_iff.1 hk'
  exact (Compiled.toJson_inj hm.coherent_resolved.located_compiled
    hm'.coherent_resolved.located_compiled).1 h

/-- An office in which clerks share desks. -/
def office : Model where
  name := "Office"
  classes := [⟨"Desk", [], false⟩, ⟨"Clerk", [], false⟩]
  enumerations := []
  associations := [
    ⟨"sits", [⟨"desk", some (.ofClass "Desk"), some .one⟩,
      ⟨"clerks", some (.ofClass "Clerk"), some .many⟩]⟩]
  generalizations := []

/-- Nothing in the office is many-to-many, so the options make no difference to its text, nor to what
is compiled from it. -/
theorem office_told_by_text : ∃ k k', office.compile ⟨true⟩ = .ok k ∧
    office.compile ⟨false⟩ = .ok k' ∧ k.toJson = k'.toJson ∧ k = k' := by
  obtain ⟨k, hk⟩ := exists_compiled_of_isOk (m := office) (o := ⟨true⟩) (by decide +kernel)
  obtain ⟨k', hk'⟩ := exists_compiled_of_isOk (m := office) (o := ⟨false⟩) (by decide +kernel)
  have hvalue : (office.resolved.compiled ⟨true⟩).toValue =
      (office.resolved.compiled ⟨false⟩).toValue := by rfl
  have hjson : k.toJson = k'.toJson := by
    obtain ⟨-, -, -, rfl⟩ := compile_eq_ok_iff.1 hk
    obtain ⟨-, -, -, rfl⟩ := compile_eq_ok_iff.1 hk'
    exact congrArg Value.pretty hvalue
  exact ⟨k, k', hk, hk', hjson, toJson_injective_on_compiled hk hk' hjson⟩

end Model

end Blueprint
