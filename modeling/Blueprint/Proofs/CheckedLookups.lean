import Blueprint.Proofs.Lookups
import Blueprint.Proofs.Resolution

/-!
# Checked lookups

Classes are meant by their positions, and what is stored for a class is looked up wherever it is
needed. Here everything that follows from a catalog is derived with lookups that fail at a position
without a class. If the positions that a catalog stores are those of classes, no lookup fails, and
what is derived is the same as without the checks.
-/
namespace Blueprint.Catalog

/-- Every position that the catalog stores is that of a class. -/
structure InRange (c : Catalog) : Prop where
  ids : ∀ entry ∈ c.classes, entry.id < c.classes.length
  generals : ∀ entry ∈ c.classes, ∀ general, entry.general = some general →
    general < c.classes.length
  specifics : ∀ entry ∈ c.classes, ∀ specific ∈ entry.specifics, specific < c.classes.length
  attributes : ∀ entry ∈ c.classes, ∀ a ∈ entry.attributes, ∀ id, a.type = .ofClass id →
    id < c.classes.length
  ends : ∀ r ∈ c.relationships, ∀ side, (r.endAt side).classId < c.classes.length

/-! ## What follows from a catalog, with checks

A result is an exception if there is no class at some position that is looked up. -/

namespace Checked

variable (c : Catalog) (ps : Placements) (o : Options) (s : ContractSet)

def entry (id : ClassId) : Except ClassId ClassEntry :=
  match c.entry? id with
  | some entry => .ok entry
  | none => .error id

def className (id : ClassId) : Except ClassId String := return (← entry c id).name

/-! ### Chains -/

def upwards : Nat → ClassId → Except ClassId (List ClassId)
  | 0, id => return [id]
  | steps + 1, id => do
    -- the class at the top is looked up as well
    match (← entry c id).general with
    | none => return [id]
    | some general => return id :: (← upwards steps general)

def lineage (id : ClassId) : Except ClassId (List ClassId) :=
  return (← upwards c c.classes.length id).reverse

def ancestors (id : ClassId) : Except ClassId (List ClassId) := return (← lineage c id).dropLast

def topFrom : Nat → ClassId → Except ClassId ClassId
  | 0, id => return id
  | steps + 1, id => do
    match (← entry c id).general with
    | none => return id
    | some general => topFrom steps general

def root (id : ClassId) : Except ClassId ClassId := topFrom c c.classes.length id

def inHierarchy (id : ClassId) : Except ClassId Bool := do
  let entry ← entry c id
  return entry.general.isSome || !entry.specifics.isEmpty

def chainFields (id : ClassId) : Except ClassId (List (String × String)) := do
  let fields ← (← lineage c id).mapM fun declaring => do
    let entry ← entry c declaring
    let names := entry.attributes.map (·.name) ++
      (c.endsOf declaring).map fun (r, side) => (r.endAt side.opposite).role
    return names.map fun field => (field, entry.name)
  return fields.flatten

def fieldDefect? : Except ClassId (Option Defect) := do
  -- all chains are looked up, also those behind the first with a defect
  let chains ← c.classes.mapM fun entry => chainFields c entry.id
  return chains.findSome? fun fields =>
    (firstClash [] fields).map fun (field, declaredBy, again) =>
      .duplicateField again field declaredBy

/-! ### Placements -/

def place (r : Relationship) : Except ClassId Placement :=
  match r.ownerSide? with
  | none => return .joinTable r.name
  | some side => do
    let owner := r.endAt side
    let target := r.endAt side.opposite
    return .reference {
      association := r.name
      owner := owner.classId
      ownerClass := ← className c owner.classId
      ownerSide := side
      ownerRole := owner.role
      target := target.classId
      targetClass := ← className c target.classId
      role := target.role
      required := target.multiplicity.isMandatory
      cardinality := .between owner.multiplicity target.multiplicity }

def placements : Except ClassId Placements :=
  return .ofPlacements (← c.relationships.mapM (place c))

/-! ### Tables -/

def parentTable? (entry : ClassEntry) : Except ClassId (Option ParentTable) :=
  entry.general.mapM fun general => do
    let name ← className c general
    return ⟨name, tableName name⟩

def attributeReference? (owner : String) (a : Attribute) : Except ClassId (Option Reference) :=
  match a.type with
  | .ofClass id => do
    let target ← className c id
    return some {
      name := referenceColumn a.name
      source := owner ++ "." ++ a.name
      targetClass := target
      references := identityOf (tableName target)
      nullable := !a.isRequired
      unique := false }
  | _ => return none

def table (entry : ClassEntry) : Except ClassId Table := do
  let parent ← parentTable? c entry
  let hierarchy ← inHierarchy c entry.id
  let references ← entry.attributes.mapM (attributeReference? c entry.name)
  return {
    ofClass := entry.name
    name := tableName entry.name
    parent
    identity := {
      column := identityColumn
      autoIncrement := entry.general.isNone
      references := parent.map fun parent => identityOf parent.table }
    discriminator := if entry.isHierarchyRoot then some discriminatorColumn else none
    polymorphicIdentity := if hierarchy then some (tableName entry.name) else none
    columns := entry.attributes.filterMap attributeColumn?
    references := references.filterMap id ++ (ps.ownedBy entry.id).map keyReference }

def joinColumn (r : Relationship) (side : Side) : Except ClassId JoinColumn := do
  let e := r.endAt side
  let name ← className c e.classId
  return {
    name := referenceColumn
      (if r.first.classId = r.second.classId then e.role else tableName name)
    ofClass := name
    references := identityOf (tableName name) }

def joinTable (used : List String) (r : Relationship) : Except ClassId JoinTable := do
  let first ← className c r.first.classId
  let second ← className c r.second.classId
  return {
    name :=
      firstUnused used
        (joinTableName (tableName first ++ tableName second) (Text.lowercase r.name))
        used.length 0
    association := r.name
    first := ← joinColumn c r .first
    second := ← joinColumn c r .second }

def joinTablesFrom (used : List String) : List Relationship → Except ClassId (List JoinTable)
  | [] => return []
  | r :: rs => do
    let t ← joinTable c used r
    return t :: (← joinTablesFrom (t.name :: used) rs)

def layout : Except ClassId Layout := do
  let tables ← c.classes.mapM (table c ps)
  let joinTables ← joinTablesFrom c (c.classes.map fun entry => tableName entry.name)
    (c.relationships.filter fun r => (ps.get? r.name).any Placement.isJoinTable)
  return ⟨tables, joinTables⟩

/-! ### Contracts -/

def attributeField (a : Attribute) : Except ClassId Field := do
  let type ←
    match a.type with
    | .primitive p => pure (.primitive p)
    | .ofEnumeration name => pure (.ofEnumeration name)
    | .ofClass id => FieldType.reference <$> className c id
  return { name := a.name, type, required := a.isRequired, origin := .ofAttribute }

def relationshipField? (r : Relationship) (side : Side) : Except ClassId (Option Field) :=
  (ps.get? r.name).mapM fun placement => do
    let own := r.endAt side
    let opposite := r.endAt side.opposite
    let className ← className c opposite.classId
    let (type, required, owns) : FieldType × Bool × Bool :=
      match placement with
      | .reference key =>
        if key.ownerSide = side then (.reference className, key.required, true)
        else if opposite.multiplicity.isMany then (.list className .byReference, false, false)
        else (.reference className, false, false)
      | .joinTable _ => (.list className (elementType o className), false, false)
    return {
      name := opposite.role
      type
      required
      origin := .relationship r.name (.between own.multiplicity opposite.multiplicity) owns }

def contract (entry : ClassEntry) : Except ClassId Contract := do
  let parentClass ← entry.general.mapM (className c)
  let attributes ← entry.attributes.mapM (attributeField c)
  let relationships ← (c.endsOf entry.id).mapM fun (r, side) => relationshipField? c ps o r side
  return {
    ofClass := entry.name
    name := contractName entry.name
    parentClass
    parent := parentClass.map contractName
    isAbstract := entry.isAbstract
    fields := attributes ++ relationships.filterMap id }

def contracts : Except ClassId ContractSet := do
  let entries ← c.classes.mapM fun entry => do return (entry.name, ← contract c ps o entry)
  return { contracts := .ofList entries, enumerations := c.enumerations.map enumeration }

/-! ### Plans -/

def inheritedArguments (ancestor : ClassId) : Except ClassId (List Argument) := do
  let name ← className c ancestor
  return match s.get? name with
    | none => []
    | some k => (k.fields.filter fun f => f.isAttribute || f.ownsReference).map
        (Field.argument name)

def plan (id : ClassId) : Except ClassId Plan := do
  let name ← className c id
  let inherited ← (← ancestors c id).mapM (inheritedArguments c s)
  let own := match s.get? name with
    | none => []
    | some k => (k.attributeFields ++ k.relationshipFields).map (Field.argument name)
  return {
    ofClass := name
    contract := ((s.get? name).map (·.name)).getD ""
    arguments := firstBindings [] (inherited.flatten ++ own) }

def plans : Except ClassId (List Plan) :=
  (c.classes.filter (!·.isAbstract)).mapM fun entry => plan c s entry.id

def compiled : Except ClassId Compiled := do
  let placements ← placements c
  let contracts ← contracts c placements o
  return {
    name := c.name
    placements
    storage := ← layout c placements
    contracts
    plans := ← plans c contracts
    skipped := c.skipped }

end Checked

/-! ## No lookup fails -/

open Model (mapM_eq_ok)

variable {c : Catalog} {ps : Placements} {o : Options} {s : ContractSet} {id : ClassId}
  {entry : ClassEntry} {steps : ℕ}

lemma optionMapM_eq_ok {α β ε : Type} {f : α → Except ε β} {g : α → β} {x : Option α}
    (h : ∀ a, x = some a → f a = .ok (g a)) : x.mapM f = .ok (x.map g) := by
  cases x with
  | none => rfl
  | some a =>
    rw [Option.mapM_some, h a rfl]
    rfl

lemma checked_entry_eq_ok (hid : id < c.classes.length) :
    Checked.entry c id = .ok c.classes[id] := by
  rw [Checked.entry, entry?_of_lt hid]

lemma checked_className_eq_ok (hid : id < c.classes.length) :
    Checked.className c id = .ok (c.className id) := by
  rw [Checked.className, checked_entry_eq_ok hid, className_eq (entry?_of_lt hid)]
  rfl

lemma checked_inHierarchy_eq_ok (hid : id < c.classes.length) :
    Checked.inHierarchy c id = .ok (c.inHierarchy id) := by
  rw [Checked.inHierarchy, checked_entry_eq_ok hid, inHierarchy, entry?_of_lt hid]
  rfl

lemma checked_inheritedArguments_eq_ok (hid : id < c.classes.length) :
    Checked.inheritedArguments c s id = .ok (c.inheritedArguments s id) := by
  rw [Checked.inheritedArguments, checked_className_eq_ok hid]
  rfl

namespace InRange

variable (h : c.InRange)
include h

/-! ### Chains -/

lemma general?_lt {general : ClassId} (hg : c.general? id = some general) :
    general < c.classes.length := by
  obtain ⟨entry, hentry, hgeneral⟩ := Option.bind_eq_some_iff.1 hg
  exact h.generals entry (List.mem_of_getElem? hentry) general hgeneral

lemma lt_of_mem_upwards {i : ClassId} (hid : id < c.classes.length)
    (hi : i ∈ c.upwards steps id) : i < c.classes.length := by
  induction steps generalizing id with
  | zero =>
    obtain rfl := List.mem_singleton.1 hi
    exact hid
  | succ steps ih =>
    simp only [upwards] at hi
    cases hg : c.general? id with
    | none =>
      rw [hg, List.mem_singleton] at hi
      exact hi ▸ hid
    | some general =>
      rw [hg, List.mem_cons] at hi
      rcases hi with rfl | hi
      · exact hid
      · exact ih (h.general?_lt hg) hi

lemma lt_of_mem_lineage {i : ClassId} (hid : id < c.classes.length) (hi : i ∈ c.lineage id) :
    i < c.classes.length := h.lt_of_mem_upwards hid (List.mem_reverse.1 hi)

lemma checked_upwards_eq_ok (hid : id < c.classes.length) :
    Checked.upwards c steps id = .ok (c.upwards steps id) := by
  induction steps generalizing id with
  | zero => rfl
  | succ steps ih =>
    rw [Checked.upwards, checked_entry_eq_ok hid, upwards, ← general_getElem hid]
    cases hg : c.classes[id].general with
    | none => simp [hg, bind, Except.bind, pure, Except.pure]
    | some general =>
      have hlt := h.general?_lt ((general_getElem hid).symm.trans hg)
      simp [hg, ih hlt, bind, Except.bind, pure, Except.pure]

lemma checked_topFrom_eq_ok (hid : id < c.classes.length) :
    Checked.topFrom c steps id = .ok (c.topFrom steps id) := by
  induction steps generalizing id with
  | zero => rfl
  | succ steps ih =>
    rw [Checked.topFrom, checked_entry_eq_ok hid, topFrom, ← general_getElem hid]
    cases hg : c.classes[id].general with
    | none => simp [hg, bind, Except.bind, pure, Except.pure]
    | some general =>
      have hlt := h.general?_lt ((general_getElem hid).symm.trans hg)
      simp [hg, ih hlt, bind, Except.bind]

lemma checked_lineage_eq_ok (hid : id < c.classes.length) :
    Checked.lineage c id = .ok (c.lineage id) := by
  rw [Checked.lineage, h.checked_upwards_eq_ok hid]
  rfl

lemma checked_ancestors_eq_ok (hid : id < c.classes.length) :
    Checked.ancestors c id = .ok (c.ancestors id) := by
  rw [Checked.ancestors, h.checked_lineage_eq_ok hid]
  rfl

lemma checked_root_eq_ok (hid : id < c.classes.length) :
    Checked.root c id = .ok (c.root id) := h.checked_topFrom_eq_ok hid

lemma checked_chainFields_eq_ok (hid : id < c.classes.length) :
    Checked.chainFields c id = .ok (c.chainFields id) := by
  rw [Checked.chainFields, h.checked_lineage_eq_ok hid]
  simp only [bind, Except.bind]
  rw [mapM_eq_ok (g := fun declaring => (c.ownFieldNames declaring).map fun field =>
    (field, c.className declaring))]
  · rw [chainFields, List.flatMap_def]
    rfl
  · intro declaring hd
    have hentry := entry?_of_lt (h.lt_of_mem_lineage hid hd)
    rw [checked_entry_eq_ok (h.lt_of_mem_lineage hid hd), ownFieldNames, className_eq hentry,
      hentry]
    rfl

theorem checked_fieldDefect?_eq_ok : Checked.fieldDefect? c = .ok c.fieldDefect? := by
  rw [Checked.fieldDefect?, mapM_eq_ok fun entry he => h.checked_chainFields_eq_ok (h.ids entry he),
    fieldDefect?]
  simp only [bind, Except.bind, pure, Except.pure, List.findSome?_map]
  rfl

/-! ### Placements -/

lemma checked_place_eq_ok {r : Relationship} (hr : r ∈ c.relationships) :
    Checked.place c r = .ok (c.place r) := by
  rw [Checked.place, place]
  cases r.ownerSide? with
  | none => rfl
  | some side =>
    simp only [checked_className_eq_ok (h.ends r hr side),
      checked_className_eq_ok (h.ends r hr side.opposite)]
    rfl

lemma checked_placements_eq_ok : Checked.placements c = .ok c.placements := by
  rw [Checked.placements, mapM_eq_ok fun r hr => h.checked_place_eq_ok hr]
  rfl

/-! ### Tables -/

lemma checked_parentTable?_eq_ok (he : entry ∈ c.classes) :
    Checked.parentTable? c entry = .ok (c.parentTable? entry) := by
  rw [Checked.parentTable?, parentTable?]
  refine optionMapM_eq_ok fun general hg => ?_
  rw [checked_className_eq_ok (h.generals entry he general hg)]
  rfl

lemma checked_attributeReference?_eq_ok (he : entry ∈ c.classes) {a : Attribute}
    (ha : a ∈ entry.attributes) :
    Checked.attributeReference? c entry.name a = .ok (c.attributeReference? entry.name a) := by
  rw [Checked.attributeReference?, attributeReference?]
  cases ht : a.type with
  | primitive p => rfl
  | ofEnumeration name => rfl
  | ofClass id =>
    simp only [checked_className_eq_ok (h.attributes entry he a ha id ht)]
    rfl

lemma checked_table_eq_ok (he : entry ∈ c.classes) :
    Checked.table c ps entry = .ok (c.table ps entry) := by
  rw [Checked.table, h.checked_parentTable?_eq_ok he,
    checked_inHierarchy_eq_ok (h.ids entry he),
    mapM_eq_ok fun a ha => h.checked_attributeReference?_eq_ok he ha]
  simp only [bind, Except.bind, List.filterMap_map, Function.id_comp]
  rfl

lemma checked_joinColumn_eq_ok {r : Relationship} (hr : r ∈ c.relationships) (side : Side) :
    Checked.joinColumn c r side = .ok (c.joinColumn r side) := by
  simp only [Checked.joinColumn, checked_className_eq_ok (h.ends r hr side)]
  rfl

lemma checked_joinTable_eq_ok {r : Relationship} (hr : r ∈ c.relationships)
    (used : List String) : Checked.joinTable c used r = .ok (c.joinTable used r) := by
  have hfirst : r.first.classId < c.classes.length := h.ends r hr .first
  have hsecond : r.second.classId < c.classes.length := h.ends r hr .second
  rw [Checked.joinTable, checked_className_eq_ok hfirst, checked_className_eq_ok hsecond,
    h.checked_joinColumn_eq_ok hr, h.checked_joinColumn_eq_ok hr]
  rfl

lemma checked_joinTablesFrom_eq_ok {rs : List Relationship} (hrs : ∀ r ∈ rs, r ∈ c.relationships)
    (used : List String) : Checked.joinTablesFrom c used rs = .ok (c.joinTablesFrom used rs) := by
  induction rs generalizing used with
  | nil => rfl
  | cons r rs ih =>
    rw [Checked.joinTablesFrom, h.checked_joinTable_eq_ok (hrs r (.head _))]
    simp only [bind, Except.bind, ih fun r hr => hrs r (.tail _ hr)]
    rfl

lemma checked_layout_eq_ok : Checked.layout c ps = .ok (c.layout ps) := by
  rw [Checked.layout, mapM_eq_ok fun entry he => h.checked_table_eq_ok he,
    h.checked_joinTablesFrom_eq_ok fun r hr => (List.mem_filter.1 hr).1]
  rfl

/-! ### Contracts -/

lemma checked_attributeField_eq_ok (he : entry ∈ c.classes) {a : Attribute}
    (ha : a ∈ entry.attributes) : Checked.attributeField c a = .ok (c.attributeField a) := by
  rw [Checked.attributeField, attributeField]
  cases ht : a.type with
  | primitive p => rfl
  | ofEnumeration name => rfl
  | ofClass id =>
    simp only [checked_className_eq_ok (h.attributes entry he a ha id ht)]
    rfl

lemma checked_relationshipField?_eq_ok {r : Relationship} (hr : r ∈ c.relationships)
    (side : Side) :
    Checked.relationshipField? c ps o r side = .ok (c.relationshipField? ps o r side) := by
  rw [Checked.relationshipField?, relationshipField?]
  refine optionMapM_eq_ok fun placement _ => ?_
  simp only [checked_className_eq_ok (h.ends r hr side.opposite)]
  rfl

lemma checked_contract_eq_ok (he : entry ∈ c.classes) :
    Checked.contract c ps o entry = .ok (c.contract ps o entry) := by
  have hparent : entry.general.mapM (Checked.className c) =
      .ok (entry.general.map c.className) :=
    optionMapM_eq_ok fun general hg => checked_className_eq_ok (h.generals entry he general hg)
  have hfields : ((c.endsOf entry.id).mapM fun (r, side) =>
      Checked.relationshipField? c ps o r side) =
      .ok ((c.endsOf entry.id).map fun e => c.relationshipField? ps o e.1 e.2) :=
    mapM_eq_ok fun e he => h.checked_relationshipField?_eq_ok (mem_endsOf.1 he).1 e.2
  rw [Checked.contract, hparent, mapM_eq_ok fun a ha => h.checked_attributeField_eq_ok he ha,
    hfields]
  simp only [bind, Except.bind, List.filterMap_map, Function.id_comp]
  rfl

lemma checked_contracts_eq_ok : Checked.contracts c ps o = .ok (c.contracts ps o) := by
  rw [Checked.contracts, mapM_eq_ok (g := fun entry => (entry.name, c.contract ps o entry))]
  · rfl
  · intro entry he
    rw [h.checked_contract_eq_ok he]
    rfl

/-! ### Plans -/

lemma checked_plan_eq_ok (hid : id < c.classes.length) :
    Checked.plan c s id = .ok (c.plan s id) := by
  have hancestors : ∀ i ∈ c.ancestors id, i < c.classes.length := fun i hi =>
    h.lt_of_mem_lineage hid (List.dropLast_subset _ hi)
  rw [Checked.plan, checked_className_eq_ok hid, h.checked_ancestors_eq_ok hid]
  simp only [bind, Except.bind,
    mapM_eq_ok fun i hi => checked_inheritedArguments_eq_ok (s := s) (hancestors i hi)]
  rw [plan, List.flatMap_def]
  rfl

lemma checked_plans_eq_ok : Checked.plans c s = .ok (c.plans s) :=
  mapM_eq_ok fun entry he => h.checked_plan_eq_ok (h.ids entry (List.mem_filter.1 he).1)

/-- Everything that follows from a catalog in range is derived without a lookup that fails. -/
theorem checked_compiled_eq_ok : Checked.compiled c o = .ok (c.compiled o) := by
  rw [Checked.compiled, h.checked_placements_eq_ok]
  simp only [bind, Except.bind, h.checked_contracts_eq_ok, h.checked_layout_eq_ok,
    h.checked_plans_eq_ok]
  rfl

end InRange

end Blueprint.Catalog
