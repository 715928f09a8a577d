import Blueprint.Proofs.Acceptance
import Blueprint.Proofs.Contracts
import Mathlib.Data.List.Flatten

/-!
# Fields on the way to construction

A plan considers the fields that the class inherits and those of its own contract, and keeps the
first argument for each parameter. Their names are distinct along a lineage, but a reference goes to
the column named after it, and another field of the lineage may have the name of that column: the
columns are compared table by table only. Of two such fields the later one is lost, and no field is
lost otherwise.
-/
namespace Blueprint

namespace Field

/-- The parameter that the field feeds. -/
def parameter (f : Field) : String := if f.isReference then referenceColumn f.name else f.name

/-- What becomes of the argument that the field feeds. -/
def binding (f : Field) : Binding :=
  if f.isReference then .foreignKey else if f.isAttribute then .ofAttribute else .link

/-- One of the fields goes to a reference, and the other has the name of the reference's column. -/
def Clashes (f g : Field) : Prop :=
  (f.isReference = true ∧ g.isReference = false ∧ g.name = referenceColumn f.name) ∨
    (g.isReference = true ∧ f.isReference = false ∧ f.name = referenceColumn g.name)

instance (f g : Field) : Decidable (f.Clashes g) := inferInstanceAs (Decidable (_ ∨ _))

lemma argument_eq (declaredBy : String) (f : Field) :
    f.argument declaredBy = ⟨f.name, f.parameter, declaredBy, f.binding⟩ := by
  obtain ⟨name, type, required, origin⟩ := f
  cases origin with
  | ofAttribute => cases type <;> rfl
  | relationship association cardinality owns => cases type <;> cases owns <;> rfl

@[simp] lemma sourceField_argument (declaredBy : String) (f : Field) :
    (f.argument declaredBy).sourceField = f.name := by rw [argument_eq]

@[simp] lemma declaredBy_argument (declaredBy : String) (f : Field) :
    (f.argument declaredBy).declaredBy = declaredBy := by rw [argument_eq]

lemma parameter_argument (declaredBy : String) (f : Field) :
    (f.argument declaredBy).parameter = f.parameter := by rw [argument_eq]

/-- Fields with different names feed one parameter exactly if they clash. -/
theorem parameter_eq_iff {f g : Field} (h : f.name ≠ g.name) :
    f.parameter = g.parameter ↔ f.Clashes g := by
  unfold parameter Clashes
  cases hf : f.isReference <;> cases hg : g.isReference
  · simpa using h
  · simp
  · simp [eq_comm]
  · simpa [referenceColumn] using h

end Field

/-! ## First bindings -/

lemma firstBindings_sublist (bound : List String) (args : List Argument) :
    (firstBindings bound args).Sublist args := by
  induction args generalizing bound with
  | nil => exact .slnil
  | cons a args ih =>
    simp only [firstBindings]
    split
    · exact (ih bound).cons a
    · exact (ih (a.parameter :: bound)).cons_cons a

lemma firstBindings_eq_self {bound : List String} {args : List Argument}
    (hnd : (args.map (·.parameter)).Nodup) (hfree : ∀ a ∈ args, a.parameter ∉ bound) :
    firstBindings bound args = args := by
  induction args generalizing bound with
  | nil => rfl
  | cons a args ih =>
    obtain ⟨hnot, hrest⟩ := List.nodup_cons.1 hnd
    have ha : a.parameter ∉ bound := hfree a (.head _)
    have hargs : ∀ b ∈ args, b.parameter ∉ a.parameter :: bound := by
      intro b hb hmem
      rcases List.mem_cons.1 hmem with heq | hbound
      · exact hnot (List.mem_map.2 ⟨b, hb, heq⟩)
      · exact hfree b (.tail _ hb) hbound
    simp [firstBindings, ha, ih hrest hargs]

/-- What is kept feeds distinct parameters, and none that is bound before. -/
lemma nodup_firstBindings (bound : List String) (args : List Argument) :
    ((firstBindings bound args).map (·.parameter)).Nodup ∧
      ∀ a ∈ firstBindings bound args, a.parameter ∉ bound := by
  induction args generalizing bound with
  | nil => simp [firstBindings]
  | cons a args ih =>
    simp only [firstBindings, List.contains_iff_mem]
    split_ifs with h
    · exact ih bound
    · obtain ⟨hnd, hfree⟩ := ih (a.parameter :: bound)
      simp only [List.mem_cons, not_or] at hfree
      rw [List.map_cons, List.nodup_cons, List.forall_mem_cons]
      refine ⟨⟨fun hmem => ?_, hnd⟩, h, fun b hb => (hfree b hb).2⟩
      obtain ⟨b, hb, heq⟩ := List.mem_map.1 hmem
      exact (hfree b hb).1 heq

/-- Of the arguments only one has a property. It is kept unless its parameter is bound before. -/
theorem countP_firstBindings {p : Argument → Bool} {before after : List Argument} {a : Argument}
    (ha : p a = true) (hbefore : ∀ b ∈ before, p b = false) (hafter : ∀ b ∈ after, p b = false)
    (bound : List String) :
    (firstBindings bound (before ++ a :: after)).countP p =
      if a.parameter ∈ bound ∨ ∃ b ∈ before, b.parameter = a.parameter then 0 else 1 := by
  have hnone : ∀ bound, (firstBindings bound after).countP p = 0 := by
    intro bound
    refine List.countP_eq_zero.2 fun b hb => ?_
    simp [hafter b ((firstBindings_sublist bound after).subset hb)]
  induction before generalizing bound with
  | nil =>
    by_cases h : a.parameter ∈ bound
    · simp [firstBindings, h, hnone]
    · simp [firstBindings, h, hnone, ha]
  | cons b before ih =>
    have hb : p b = false := hbefore b (.head _)
    have hrest := ih (fun b' hb' => hbefore b' (.tail _ hb'))
    by_cases h : b.parameter ∈ bound
    · have hiff : (a.parameter ∈ bound ∨ ∃ b' ∈ b :: before, b'.parameter = a.parameter) ↔
          (a.parameter ∈ bound ∨ ∃ b' ∈ before, b'.parameter = a.parameter) := by
        simp only [List.mem_cons, exists_eq_or_imp]
        constructor
        · rintro (hbound | heq | hex)
          · exact .inl hbound
          · exact .inl (heq ▸ h)
          · exact .inr hex
        · exact fun h => h.imp_right .inr
      rw [if_congr hiff rfl rfl, ← hrest bound]
      simp [firstBindings, h]
    · have hiff : (a.parameter ∈ bound ∨ ∃ b' ∈ b :: before, b'.parameter = a.parameter) ↔
          (a.parameter ∈ b.parameter :: bound ∨ ∃ b' ∈ before, b'.parameter = a.parameter) := by
        simp only [List.mem_cons, exists_eq_or_imp, eq_comm (a := a.parameter)]
        tauto
      rw [if_congr hiff rfl rfl, ← hrest (b.parameter :: bound)]
      simp [firstBindings, h, hb]

lemma pairwise_iff_forall_before {α : Type} {R : α → α → Prop} {xs : List α} :
    xs.Pairwise R ↔ ∀ before x after, xs = before ++ x :: after → ∀ y ∈ before, R y x := by
  constructor
  · rintro h before x after rfl y hy
    exact (List.pairwise_append.1 h).2.2 y hy x (.head _)
  · intro h
    refine List.pairwise_iff_getElem.2 fun i j hi hj hij => ?_
    refine h (xs.take j) xs[j] (xs.drop (j + 1)) ?_ xs[i] ?_
    · rw [List.getElem_cons_drop, List.take_append_drop]
    · exact List.mem_take_iff_getElem.2 ⟨i, by omega, rfl⟩

/-- How many arguments a field of a class feeds. -/
def Plan.timesFed (p : Plan) (declaredBy : String) (f : Field) : ℕ :=
  p.arguments.countP fun a => a.sourceField == f.name && a.declaredBy == declaredBy

/-! ## Considered fields -/

namespace Catalog

/-- The fields that a plan considers, each with the class that declares it: of every ancestor the
attributes and the references that it holds, and of the class itself all fields. -/
def consideredFields (c : Catalog) (s : ContractSet) (id : ClassId) : List (String × Field) :=
  ((c.ancestors id).flatMap fun ancestor =>
    ((s.fieldsOf (c.className ancestor)).filter fun f => f.isAttribute || f.ownsReference).map
      fun f => (c.className ancestor, f)) ++
    (s.fieldsOf (c.className id)).map fun f => (c.className id, f)

variable {c : Catalog} {o : Options} {id : ClassId}

lemma inheritedArguments_eq (s : ContractSet) :
    c.inheritedArguments s = fun ancestor =>
      ((s.fieldsOf (c.className ancestor)).filter fun f => f.isAttribute || f.ownsReference).map
        (Field.argument (c.className ancestor)) := by
  funext ancestor
  unfold inheritedArguments ContractSet.fieldsOf
  cases s.get? (c.className ancestor) <;> rfl

lemma nodup_parameters_plan (s : ContractSet) (id : ClassId) : (c.plan s id).parameters.Nodup :=
  (nodup_firstBindings _ _).1

namespace Coherent

variable (hc : c.Coherent)
include hc

lemma ownArguments_eq (hid : id < c.classes.length) :
    c.ownArguments (c.contracts c.placements o) id =
      ((c.contracts c.placements o).fieldsOf (c.className id)).map
        (Field.argument (c.className id)) := by
  have hentry := entry?_of_lt hid
  rw [ownArguments, ContractSet.fieldsOf, className_eq hentry, hc.get?_contracts hentry]
  simp only [hc.attributeFields_append_relationshipFields, Option.map_some, Option.getD_some]

theorem arguments_plan (hid : id < c.classes.length) :
    (c.plan (c.contracts c.placements o) id).arguments = firstBindings []
      ((c.consideredFields (c.contracts c.placements o) id).map fun x => x.2.argument x.1) := by
  rw [plan, hc.ownArguments_eq hid, inheritedArguments_eq, consideredFields]
  simp only [List.map_append, List.map_flatMap, List.map_map, Function.comp_def]

/-- The names of the considered fields are among those along the lineage. -/
theorem considered_names_sublist (hid : id < c.classes.length) :
    ((c.consideredFields (c.contracts c.placements o) id).map fun x => x.2.name).Sublist
      ((c.lineage id).flatMap c.ownFieldNames) := by
  have hnames : ∀ i ∈ c.lineage id,
      ((c.contracts c.placements o).fieldsOf (c.className i)).map (·.name) =
        c.ownFieldNames i := by
    intro i hi
    rw [hc.fieldsOf_contracts (hc.lt_of_mem_lineage hid hi), map_name_fieldsAt]
  rw [hc.lineage_eq_ancestors_append] at hnames ⊢
  simp only [consideredFields, List.map_append, List.map_flatMap, List.map_map, Function.comp_def,
    List.flatMap_append, List.flatMap_singleton]
  refine List.Sublist.append (List.Sublist.flatMap_right _ fun i hi => ?_) ?_
  · rw [← hnames i (List.mem_append_left _ hi)]
    exact List.filter_sublist.map _
  · rw [← hnames id (by simp)]

/-- A required field is considered, by whichever class of the lineage it is declared. -/
theorem mem_consideredFields_of_required (hid : id < c.classes.length) {f : Field}
    (hf : f ∈ (c.contracts c.placements o).effectiveFields (c.className id))
    (hrequired : f.required = true) :
    ∃ declaredBy, (declaredBy, f) ∈ c.consideredFields (c.contracts c.placements o) id := by
  rw [hc.effectiveFields_eq hid] at hf
  obtain ⟨i, hi, hf⟩ := List.mem_flatMap.1 hf
  have hmem : f ∈ (c.contracts c.placements o).fieldsOf (c.className i) :=
    hc.fieldsOf_contracts (hc.lt_of_mem_lineage hid hi) ▸ hf
  refine ⟨c.className i, ?_⟩
  rw [hc.lineage_eq_ancestors_append, List.mem_append, List.mem_singleton] at hi
  rcases hi with hi | rfl
  · refine List.mem_append_left _ (List.mem_flatMap.2 ⟨i, hi, List.mem_map_of_mem ?_⟩)
    exact List.mem_filter.2 ⟨hmem, isAttribute_or_ownsReference_of_required hf hrequired⟩
  · exact List.mem_append_right _ (List.mem_map_of_mem hmem)

/-! ## Fed fields -/

variable {before after : List (String × Field)} {declaredBy : String} {f : Field}

/-- A considered field feeds one argument, unless one considered before it clashes with it. -/
theorem timesFed_eq (hid : id < c.classes.length)
    (hnd : ((c.lineage id).flatMap c.ownFieldNames).Nodup)
    (h : c.consideredFields (c.contracts c.placements o) id = before ++ (declaredBy, f) :: after) :
    (c.plan (c.contracts c.placements o) id).timesFed declaredBy f =
      if ∃ x ∈ before, x.2.Clashes f then 0 else 1 := by
  have hnames := hnd.sublist (hc.considered_names_sublist (o := o) hid)
  rw [h, List.map_append, List.map_cons, List.nodup_middle, List.nodup_cons, List.mem_append,
    not_or] at hnames
  obtain ⟨⟨hbefore, hafter⟩, -⟩ := hnames
  have hne : ∀ x ∈ before, x.2.name ≠ f.name := fun x hx heq =>
    hbefore (List.mem_map.2 ⟨x, hx, heq⟩)
  have hother : ∀ xs : List (String × Field), f.name ∉ xs.map (fun x => x.2.name) →
      ∀ b ∈ xs.map fun x => x.2.argument x.1,
        (b.sourceField == f.name && b.declaredBy == declaredBy) = false := by
    intro xs hnot b hb
    obtain ⟨x, hx, rfl⟩ := List.mem_map.1 hb
    have hsource : x.2.name ≠ f.name := fun heq => hnot (List.mem_map.2 ⟨x, hx, heq⟩)
    simp [hsource]
  rw [Plan.timesFed, hc.arguments_plan hid, h, List.map_append, List.map_cons,
    countP_firstBindings (by simp) (hother before hbefore) (hother after hafter)]
  refine if_congr ?_ rfl rfl
  simp only [List.not_mem_nil, false_or, List.mem_map, exists_exists_and_eq_and,
    Field.parameter_argument]
  exact exists_congr fun x => and_congr_right fun hx => Field.parameter_eq_iff (hne x hx)

/-- A field is the source of an argument exactly if it feeds one as a field of its class. -/
lemma exists_sourceField_iff (hid : id < c.classes.length)
    (hnd : ((c.lineage id).flatMap c.ownFieldNames).Nodup)
    (h : (declaredBy, f) ∈ c.consideredFields (c.contracts c.placements o) id) :
    (∃ a ∈ (c.plan (c.contracts c.placements o) id).arguments, a.sourceField = f.name) ↔
      0 < (c.plan (c.contracts c.placements o) id).timesFed declaredBy f := by
  have hnames := hnd.sublist (hc.considered_names_sublist (o := o) hid)
  simp only [Plan.timesFed, List.countP_pos_iff, Bool.and_eq_true, beq_iff_eq]
  constructor
  · rintro ⟨a, ha, hsource⟩
    refine ⟨a, ha, hsource, ?_⟩
    rw [hc.arguments_plan hid] at ha
    obtain ⟨x, hx, rfl⟩ := List.mem_map.1 ((firstBindings_sublist _ _).subset ha)
    obtain rfl := List.inj_on_of_nodup_map hnames hx h (by simpa using hsource)
    simp
  · rintro ⟨a, ha, hsource, -⟩
    exact ⟨a, ha, hsource⟩

end Coherent

end Catalog

namespace Model

variable {m : Model} {c : Catalog} {o : Options} {k : Compiled} {id : ClassId}
  {order order' : StartOrder}

/-- In what is compiled from a model, each field considered for a class feeds exactly one argument
of its plan if and only if no two of them clash. Every required field is considered, and it reaches
the plan if and only if it clashes with none that is considered before it. -/
theorem plan_feeds_considered_fields (hc : Catalog.ofModel m order = .ok c)
    (hk : m.compile o order' = .ok k) (hid : id < c.classes.length) :
    ((∀ x ∈ c.consideredFields k.contracts id,
        (c.plan k.contracts id).timesFed x.1 x.2 = 1) ↔
      (c.consideredFields k.contracts id).Pairwise fun x y => ¬ x.2.Clashes y.2) ∧
    ∀ f ∈ k.contracts.effectiveFields (c.className id), f.required = true →
      ∃ before declaredBy after,
        c.consideredFields k.contracts id = before ++ (declaredBy, f) :: after ∧
        ((∃ a ∈ (c.plan k.contracts id).arguments, a.sourceField = f.name) ↔
          ∀ x ∈ before, ¬ x.2.Clashes f) := by
  obtain ⟨hm, hfields, -, rfl⟩ := compile_eq_ok_iff.1 hk
  obtain ⟨-, -, rfl⟩ := Catalog.ofModel_eq_ok_iff.1 hc
  have hcoh := hm.coherent_resolved
  have hnd := hcoh.fieldDefect?_eq_none_iff.1 hfields id hid
  constructor
  · rw [pairwise_iff_forall_before]
    constructor
    · rintro hall before ⟨declaredBy, f⟩ after hsplit x hx hclash
      have hfed := hcoh.timesFed_eq hid hnd hsplit
      rw [if_pos ⟨x, hx, hclash⟩] at hfed
      have hone := hall (declaredBy, f) (hsplit ▸ List.mem_append_right _ (.head _))
      exact absurd (hfed.symm.trans hone) (by decide)
    · rintro hpair ⟨declaredBy, f⟩ hf
      obtain ⟨before, after, hsplit⟩ := List.append_of_mem hf
      refine (hcoh.timesFed_eq hid hnd hsplit).trans (if_neg ?_)
      rintro ⟨x, hx, hclash⟩
      exact hpair before _ after hsplit x hx hclash
  · intro f hf hrequired
    obtain ⟨declaredBy, hconsidered⟩ := hcoh.mem_consideredFields_of_required hid hf hrequired
    obtain ⟨before, after, hsplit⟩ := List.append_of_mem hconsidered
    refine ⟨before, declaredBy, after, hsplit, ?_⟩
    refine (hcoh.exists_sourceField_iff hid hnd hconsidered).trans ?_
    rw [hcoh.timesFed_eq hid hnd hsplit]
    split_ifs with h <;> simpa using h

/-- Clerks work in departments, and have an attribute from what they are based on. -/
def officesWith (inherited : String) : Model where
  name := "Offices"
  classes := [
    ⟨"base", [⟨inherited, some (.primitive .string), none⟩], false⟩,
    ⟨"clerk", [], false⟩,
    ⟨"department", [⟨"title", some (.primitive .string), none⟩], false⟩]
  enumerations := []
  associations := [
    ⟨"works", [⟨"department", some (.ofClass "department"), some .one⟩,
      ⟨"clerks", some (.ofClass "clerk"), some .many⟩]⟩]
  generalizations := [⟨"base", "clerk"⟩]

/-- With badges nothing clashes, so the plan of a clerk is fed by the badge from above and by the
department. -/
theorem badged_clerk_fields_fed : ∃ c k, Catalog.ofModel (officesWith "badge") = .ok c ∧
    (officesWith "badge").compile {} = .ok k ∧ c.lineage 1 = [0, 1] ∧
    (c.consideredFields k.contracts 1).map (fun x => (x.1, x.2.name)) =
      [("base", "badge"), ("clerk", "department")] ∧
    ∀ x ∈ c.consideredFields k.contracts 1, (c.plan k.contracts 1).timesFed x.1 x.2 = 1 := by
  obtain ⟨k, hk⟩ := exists_compiled_of_isOk (m := officesWith "badge") (o := {})
    (by decide +kernel)
  have hc : Catalog.ofModel (officesWith "badge") = .ok (officesWith "badge").resolved :=
    ofModel_of_compile hk
  obtain ⟨-, -, -, rfl⟩ := compile_eq_ok_iff.1 hk
  refine ⟨_, _, hc, hk, by decide +kernel, by decide +kernel, ?_⟩
  exact (plan_feeds_considered_fields hc hk (by decide +kernel)).1.2 (by decide +kernel)

/-- The same offices, where the attribute is named like the column for the department. -/
def offices : Model := officesWith "department_id"

/-- A clerk has to be given a department, but the plan has no argument for it. -/
theorem clerk_department_not_fed : ∃ k, offices.compile {} = .ok k ∧
    (∃ f ∈ k.contracts.effectiveFields "clerk", f.name = "department" ∧ f.required = true) ∧
    k.plan? "clerk" = some ⟨"clerk", "clerkCreate",
      [⟨"department_id", "department_id", "base", .ofAttribute⟩]⟩ := by
  obtain ⟨k, hk⟩ := exists_compiled_of_isOk (m := offices) (o := {}) (by decide +kernel)
  obtain ⟨-, -, -, rfl⟩ := compile_eq_ok_iff.1 hk
  exact ⟨_, hk, by decide +kernel, by decide +kernel⟩

end Model

end Blueprint
