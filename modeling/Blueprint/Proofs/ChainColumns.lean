import Blueprint.Proofs.Agreement
import Blueprint.Proofs.Construction
import Blueprint.Proofs.Exclusivity

/-!
# Columns along a chain

The tables of a chain of classes hold an instance together. Where no two considered fields feed one
parameter, a plan has an argument for each column and each reference of these tables, in their
order, and the rest of its arguments are the links of the class itself.
-/
namespace Blueprint

/-! ## Arguments of fields -/

namespace Field

lemma binding_eq_foreignKey {f : Field} : f.binding = .foreignKey ↔ f.isReference = true := by
  unfold binding
  split_ifs <;> simp_all

lemma binding_eq_ofAttribute {f : Field} :
    f.binding = .ofAttribute ↔ f.isAttribute = true ∧ f.isReference = false := by
  unfold binding
  split_ifs <;> simp_all

/-- What is not passed down to specifics becomes a link. -/
lemma binding_eq_link {f : Field} :
    f.binding = .link ↔ (f.isAttribute || f.ownsReference) = false := by
  have hpassed : f.isReference = true → (f.isAttribute || f.ownsReference) = true := by
    unfold isReference
    cases f.isAttribute <;> simp
  unfold binding
  split_ifs with hreference hattribute
  · simp [hpassed hreference]
  · simp [hattribute]
  · simp_all [isReference]

lemma parameter_of_isReference {f : Field} (h : f.isReference = true) :
    f.parameter = referenceColumn f.name := if_pos h

lemma parameter_of_not_isReference {f : Field} (h : f.isReference = false) :
    f.parameter = f.name := if_neg (by simp [h])

end Field

namespace Plan

/-- The arguments that a class declares and that are bound in one way. -/
def boundBy (p : Plan) (declaredBy : String) (b : Binding) : List Argument :=
  p.arguments.filter fun a => a.declaredBy == declaredBy && a.binding == b

/-- A single argument has the parameter. It is declared by the class and bound in this way. -/
def SetsOnce (p : Plan) (declaredBy : String) (b : Binding) (parameter : String) : Prop :=
  ∃ a, p.arguments.filter (·.parameter == parameter) = [a] ∧
    a.declaredBy = declaredBy ∧ a.binding = b

/-- The arguments that a class declares give the columns of its table and the references of its
table, each in their order, and nothing else sets them. -/
structure Writes (p : Plan) (declaredBy : String) (t : Table) : Prop where
  columns : (p.boundBy declaredBy .ofAttribute).map (·.parameter) = t.columns.map (·.name)
  references : (p.boundBy declaredBy .foreignKey).map (·.parameter) = t.references.map (·.name)
  column_once : ∀ column ∈ t.columns, p.SetsOnce declaredBy .ofAttribute column.name
  reference_once : ∀ reference ∈ t.references,
    p.SetsOnce declaredBy .foreignKey reference.name

lemma setsOnce_of_mem {p : Plan} {declaredBy parameter : String} {b : Binding}
    (hnd : p.parameters.Nodup) (h : parameter ∈ (p.boundBy declaredBy b).map (·.parameter)) :
    p.SetsOnce declaredBy b parameter := by
  obtain ⟨a, ha, rfl⟩ := List.mem_map.1 h
  obtain ⟨hmem, hbound⟩ := List.mem_filter.1 ha
  rw [Bool.and_eq_true, beq_iff_eq, beq_iff_eq] at hbound
  exact ⟨a, filter_eq_singleton_of_nodup hnd hmem, hbound.1, hbound.2⟩

lemma writes_of_names {p : Plan} {declaredBy : String} {t : Table} (hnd : p.parameters.Nodup)
    (hcolumns : (p.boundBy declaredBy .ofAttribute).map (·.parameter) = t.columns.map (·.name))
    (hreferences : (p.boundBy declaredBy .foreignKey).map (·.parameter) =
      t.references.map (·.name)) : p.Writes declaredBy t where
  columns := hcolumns
  references := hreferences
  column_once := fun _ h => setsOnce_of_mem hnd (hcolumns ▸ List.mem_map_of_mem h)
  reference_once := fun _ h => setsOnce_of_mem hnd (hreferences ▸ List.mem_map_of_mem h)

end Plan

/-! ## Arguments by class -/

namespace Catalog

variable {c : Catalog} {o : Options} {id d : ClassId}

/-- The fields of one class that are considered for the plan of another. -/
def consideredOf (c : Catalog) (s : ContractSet) (id d : ClassId) : List Field :=
  (s.fieldsOf (c.className d)).filter fun f => (f.isAttribute || f.ownsReference) || d == id

/-- What goes to a column or a reference is considered along the whole lineage. -/
lemma filter_consideredOf {s : ContractSet} {b : Binding} (hb : b ≠ .link) :
    (c.consideredOf s id d).filter (·.binding == b) =
      (s.fieldsOf (c.className d)).filter (·.binding == b) := by
  rw [consideredOf, List.filter_filter]
  refine List.filter_congr fun f _ => ?_
  cases hf : f.isAttribute || f.ownsReference with
  | true => simp
  | false => simp [Field.binding_eq_link.2 hf, hb.symm]

lemma consideredOf_self {s : ContractSet} :
    c.consideredOf s id id = s.fieldsOf (c.className id) := by
  simp [consideredOf]

/-- Only the class itself has fields considered that become links. -/
lemma binding_ne_link_of_mem {s : ContractSet} {f : Field} (hne : d ≠ id)
    (hf : f ∈ c.consideredOf s id d) : f.binding ≠ .link := by
  obtain ⟨-, hpassed⟩ := List.mem_filter.1 hf
  rw [beq_eq_false_iff_ne.2 hne, Bool.or_false] at hpassed
  exact fun hlink => by simp [Field.binding_eq_link.1 hlink] at hpassed

/-- Every attribute of a class goes to a column or to a reference. -/
lemma isColumn_eq_of_mem_fieldsAt {f : Field} (hf : f ∈ c.fieldsAt o id) :
    f.isColumn = (f.binding == .ofAttribute) := by
  rcases List.mem_append.1 hf with hf | hf
  · cases hentry : c.entry? id with
    | none => simp [hentry] at hf
    | some entry =>
      obtain ⟨⟨name, type, multiplicity⟩, -, rfl⟩ := List.mem_map.1 (by simpa [hentry] using hf)
      cases type <;> rfl
  · obtain ⟨⟨r, side⟩, -, rfl⟩ := List.mem_map.1 hf
    rw [isColumn_relationshipField, eq_comm, beq_eq_false_iff_ne, Ne, Field.binding_eq_ofAttribute,
      isAttribute_relationshipField]
    simp

namespace Coherent

variable (hc : c.Coherent)
include hc

lemma consideredFields_eq (s : ContractSet) (id : ClassId) :
    c.consideredFields s id = (c.lineage id).flatMap fun d =>
      (c.consideredOf s id d).map fun f => (c.className d, f) := by
  have hancestors : ∀ d ∈ c.ancestors id,
      (s.fieldsOf (c.className d)).filter (fun f => f.isAttribute || f.ownsReference) =
        c.consideredOf s id d := by
    intro d hd
    have hne : (d == id) = false :=
      beq_eq_false_iff_ne.2 fun heq => hc.not_mem_ancestors id (heq ▸ hd)
    simp only [consideredOf, hne, Bool.or_false]
  rw [hc.lineage_eq_ancestors_append, List.flatMap_append, List.flatMap_singleton,
    consideredOf_self, consideredFields,
    List.flatMap_congr fun d hd => by rw [hancestors d hd]]

variable (hdistinct : ((c.consideredFields (c.contracts c.placements o) id).map
  fun x => x.2.parameter).Nodup)
include hdistinct

/-- No argument is lost, and the classes of the lineage contribute one after the other. -/
theorem arguments_eq_flatMap (hid : id < c.classes.length) :
    (c.plan (c.contracts c.placements o) id).arguments = (c.lineage id).flatMap fun d =>
      (c.consideredOf (c.contracts c.placements o) id d).map (Field.argument (c.className d)) := by
  have hnd : (((c.consideredFields (c.contracts c.placements o) id).map
      fun x => x.2.argument x.1).map (·.parameter)).Nodup := by
    rw [List.map_map]
    simpa only [Function.comp_def, Field.parameter_argument] using hdistinct
  rw [hc.arguments_plan hid, firstBindings_eq_self hnd (by simp), hc.consideredFields_eq,
    List.map_flatMap]
  simp only [List.map_map, Function.comp_def]

/-- What a class of the lineage declares comes from its considered fields. -/
lemma boundBy_plan (hid : id < c.classes.length) (hd : d ∈ c.lineage id) (b : Binding) :
    (c.plan (c.contracts c.placements o) id).boundBy (c.className d) b =
      ((c.consideredOf (c.contracts c.placements o) id d).filter (·.binding == b)).map
        (Field.argument (c.className d)) := by
  rw [Plan.boundBy, hc.arguments_eq_flatMap hdistinct hid,
    filter_flatMap_of_nodup (hc.nodup_lineage id) hd, List.filter_map]
  · simp only [Function.comp_def, Field.argument_eq, beq_self_eq_true, Bool.true_and]
  · intro i hi hne a ha
    obtain ⟨f, -, rfl⟩ := List.mem_map.1 ha
    have hname : c.className i ≠ c.className d := fun heq =>
      hne (hc.className_inj (hc.lt_of_mem_lineage hid hi) (hc.lt_of_mem_lineage hid hd) heq)
    simp [hname]

theorem writes_table (hid : id < c.classes.length) (hd : d ∈ c.lineage id) {entry : ClassEntry}
    (hentry : c.entry? d = some entry) :
    (c.plan (c.contracts c.placements o) id).Writes (c.className d)
      (c.table c.placements entry) := by
  have hlt := hc.lt_of_mem_lineage hid hd
  have hstores := hc.table_stores (o := o) hentry
  have hbound : ∀ b ≠ Binding.link,
      ((c.plan (c.contracts c.placements o) id).boundBy (c.className d) b).map (·.parameter) =
        ((c.fieldsAt o d).filter (·.binding == b)).map (·.parameter) := by
    intro b hb
    rw [hc.boundBy_plan hdistinct hid hd, filter_consideredOf hb, hc.fieldsOf_contracts hlt,
      List.map_map]
    simp only [Function.comp_def, Field.parameter_argument]
  have hfields := hc.fields_contract_eq_fieldsAt (o := o) hentry
  refine Plan.writes_of_names (nodup_parameters_plan _ _) ?_ ?_
  · rw [hbound _ (by decide), map_eq_map_of_forall₂ (fun _ _ h => h.name) hstores.columns, hfields,
      List.filter_congr fun f hf => isColumn_eq_of_mem_fieldsAt hf]
    refine List.map_congr_left fun f hf => Field.parameter_of_not_isReference ?_
    exact (Field.binding_eq_ofAttribute.1 (by simpa using (List.mem_filter.1 hf).2)).2
  · rw [hbound _ (by decide), map_eq_map_of_forall₂ (fun _ _ h => h.name) hstores.references,
      hfields]
    have hreference : ∀ f ∈ c.fieldsAt o d, (f.binding == .foreignKey) = f.isReference := by
      intro f _
      rw [Bool.eq_iff_iff, beq_iff_eq, Field.binding_eq_foreignKey]
    rw [List.filter_congr hreference]
    refine List.map_congr_left fun f hf => Field.parameter_of_isReference ?_
    exact (List.mem_filter.1 hf).2

/-- The links are those of the class itself, one for each relationship field that holds no
reference. -/
theorem links_plan (hid : id < c.classes.length) {entry : ClassEntry}
    (hentry : c.entry? id = some entry) :
    (c.plan (c.contracts c.placements o) id).links =
      ((c.contract c.placements o entry).relationshipFields.filter (!·.ownsReference)).map
        fun f => ⟨f.name, f.name, c.className id, .link⟩ := by
  have hself : id ∈ c.lineage id := by simp [hc.lineage_eq_ancestors_append]
  have hlink : ∀ f : Field, (f.binding == .link) = (!f.ownsReference && !f.isAttribute) := by
    intro f
    rw [Bool.eq_iff_iff, beq_iff_eq, Field.binding_eq_link]
    cases f.isAttribute <;> cases f.ownsReference <;> decide
  rw [Plan.links, hc.arguments_eq_flatMap hdistinct hid,
    filter_flatMap_of_nodup (hc.nodup_lineage id) hself, List.filter_map, consideredOf_self,
    hc.fieldsOf_contracts hid, ← hc.fields_contract_eq_fieldsAt hentry,
    Contract.relationshipFields, List.filter_filter]
  · simp only [Function.comp_def, Field.argument_eq, hlink]
    refine List.map_congr_left fun f hf => ?_
    have hbinding : f.binding = .link := beq_iff_eq.1 ((hlink f).trans (List.mem_filter.1 hf).2)
    have hreference : f.isReference = false := by
      rw [← Bool.not_eq_true, ← Field.binding_eq_foreignKey, hbinding]
      decide
    rw [Field.argument_eq, Field.parameter_of_not_isReference hreference, hbinding]
  · intro d _ hne a ha
    obtain ⟨f, hf, rfl⟩ := List.mem_map.1 ha
    rw [Field.argument_eq]
    exact beq_eq_false_iff_ne.2 (binding_ne_link_of_mem hne hf)

/-- No argument comes before one that an ancestor of its class declares. -/
theorem pairwise_arguments (hid : id < c.classes.length) {ancestor : ClassId}
    (hd : d ∈ c.lineage id) (hancestor : ancestor ∈ c.ancestors d) :
    (c.plan (c.contracts c.placements o) id).arguments.Pairwise fun a b =>
      ¬ (a.declaredBy = c.className d ∧ b.declaredBy = c.className ancestor) := by
  have hlineage : ancestor ∈ c.lineage d := by
    rw [hc.lineage_eq_ancestors_append]
    exact List.mem_append_left _ hancestor
  have hlt : ∀ i ∈ c.lineage id, i < c.classes.length := fun i => hc.lt_of_mem_lineage hid
  have hdeclaredBy : ∀ i, ∀ a ∈ (c.consideredOf (c.contracts c.placements o) id i).map
      (Field.argument (c.className i)), a.declaredBy = c.className i := by
    intro i a ha
    obtain ⟨f, -, rfl⟩ := List.mem_map.1 ha
    exact Field.declaredBy_argument _ _
  rw [hc.arguments_eq_flatMap hdistinct hid, List.pairwise_flatMap]
  constructor
  -- one class declares both arguments, but none is its own ancestor
  · refine fun i hi => List.pairwise_of_forall_mem_list fun a ha b hb h => ?_
    rw [hdeclaredBy i a ha, hdeclaredBy i b hb] at h
    have hsame : d = ancestor := hc.className_inj (hlt d hd)
      (hlt ancestor (hc.lineage_subset hd hlineage)) (h.1.symm.trans h.2)
    exact hc.not_mem_ancestors d (hsame ▸ hancestor)
  -- the classes of the arguments come in the order of the lineage
  · refine (hc.pairwise_lineage id).imp_of_mem fun hi hj hbelow a ha b hb h => ?_
    rw [hdeclaredBy _ a ha, hdeclaredBy _ b hb] at h
    obtain rfl := hc.className_inj (hlt _ hi) (hlt d hd) h.1
    obtain rfl := hc.className_inj (hlt _ hj) (hlt ancestor (hc.lineage_subset hd hlineage)) h.2
    exact hbelow.2 hlineage

end Coherent

end Catalog

namespace Model

variable {m : Model} {c : Catalog} {o : Options} {k : Compiled} {id : ClassId}
  {order order' : StartOrder}

/-- In what is compiled from a model, let the considered fields of a class feed distinct parameters.
Then its plan writes the table of each class of its chain, ancestors first, and its links are those
of the relationship fields of the class itself that hold no reference. -/
theorem plan_writes_chain_columns (hc : Catalog.ofModel m order = .ok c)
    (hk : m.compile o order' = .ok k) (hid : id < c.classes.length)
    (hdistinct : ((c.consideredFields k.contracts id).map fun x => x.2.parameter).Nodup) :
    (∀ d ∈ c.lineage id,
      (∃ t, k.storage.table? (c.className d) = some t ∧
        (c.plan k.contracts id).Writes (c.className d) t) ∧
      ∀ ancestor ∈ c.ancestors d, (c.plan k.contracts id).arguments.Pairwise fun a b =>
        ¬ (a.declaredBy = c.className d ∧ b.declaredBy = c.className ancestor)) ∧
    ∃ contract, k.contracts.get? (c.className id) = some contract ∧
      (c.plan k.contracts id).links =
        (contract.relationshipFields.filter (!·.ownsReference)).map
          fun f => ⟨f.name, f.name, c.className id, .link⟩ := by
  obtain ⟨hm, hfields, -, rfl⟩ := compile_eq_ok_iff.1 hk
  obtain ⟨-, -, rfl⟩ := Catalog.ofModel_eq_ok_iff.1 hc
  have hcoh := hm.coherent_resolved
  constructor
  · intro d hd
    have hentry := Catalog.entry?_of_lt (hcoh.lt_of_mem_lineage hid hd)
    refine ⟨⟨_, ?_, hcoh.writes_table hdistinct hid hd hentry⟩, fun ancestor hancestor =>
      hcoh.pairwise_arguments hdistinct hid hd hancestor⟩
    rw [Catalog.className_eq hentry]
    exact hcoh.table?_layout hentry
  · have hentry := Catalog.entry?_of_lt hid
    refine ⟨_, ?_, hcoh.links_plan hdistinct hid hentry⟩
    rw [Catalog.className_eq hentry]
    exact hcoh.get?_contracts hentry

/-- The plan of an employee writes the tables of persons and of employees. -/
theorem firm_employee_plan_writes_chain : ∃ c k person employee, Catalog.ofModel firm = .ok c ∧
    firm.compile {} = .ok k ∧ c.lineage 1 = [2, 1] ∧
    k.storage.table? "Person" = some person ∧ k.storage.table? "Employee" = some employee ∧
    (c.plan k.contracts 1).Writes "Person" person ∧
    (c.plan k.contracts 1).Writes "Employee" employee ∧
    (c.plan k.contracts 1).links.map (·.parameter) = ["projects", "headed", "reporters"] := by
  obtain ⟨k, hk⟩ := exists_compiled_of_isOk (m := firm) (o := {}) (by decide +kernel)
  have hc : Catalog.ofModel firm = .ok firm.resolved := ofModel_of_compile hk
  obtain ⟨-, -, -, rfl⟩ := compile_eq_ok_iff.1 hk
  have hid : 1 < firm.resolved.classes.length := by decide +kernel
  have hlineage : firm.resolved.lineage 1 = [2, 1] := by decide +kernel
  obtain ⟨hwrites, -⟩ := plan_writes_chain_columns hc hk hid (by decide +kernel)
  obtain ⟨⟨person, hperson, hpersonWrites⟩, -⟩ := hwrites 2 (by simp [hlineage])
  obtain ⟨⟨employee, hemployee, hemployeeWrites⟩, -⟩ := hwrites 1 (by simp [hlineage])
  exact ⟨_, _, person, employee, hc, hk, hlineage, hperson, hemployee, hpersonWrites,
    hemployeeWrites, by decide +kernel⟩

end Model

end Blueprint
