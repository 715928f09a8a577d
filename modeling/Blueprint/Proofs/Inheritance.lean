import Blueprint.Proofs.Contracts
import Blueprint.Proofs.Exclusivity

/-!
# Views of inheritance

The chain of a class is kept in four places: in the generals of the catalog, in their specifics, in
the parents of the contracts and in the parents of the tables. All of them lead through the same
classes. The table of a root counts the identities of its hierarchy and tells its classes apart; the
other tables of the hierarchy refer to the one above.
-/
namespace Blueprint

/-- One step up the tables: the table of a class names the parent class and the table of that. -/
def Layout.HasParent (l : Layout) (className parent : String) : Prop :=
  ∃ t p above, l.table? className = some t ∧ t.parent = some p ∧ p.ofClass = parent ∧
    l.table? parent = some above ∧ p.table = above.name

lemma Layout.HasParent.unique {l : Layout} {className parent other : String}
    (h : l.HasParent className parent) (h' : l.HasParent className other) : parent = other := by
  obtain ⟨t, p, -, ht, hp, rfl, -⟩ := h
  obtain ⟨t', p', -, ht', hp', rfl, -⟩ := h'
  obtain rfl := Option.some.inj (ht.symm.trans ht')
  obtain rfl := Option.some.inj (hp.symm.trans hp')
  rfl

namespace Catalog

/-- The chain goes from a class without a general down to a class, by one specific at a time. -/
structure IsLineage (c : Catalog) (id : ClassId) (chain : List ClassId) : Prop where
  nodup : chain.Nodup
  length_le : chain.length ≤ c.classes.length
  starts : ∃ top, chain.head? = some top ∧ c.general? top = none
  ends : chain.getLast? = some id
  linked : chain.IsChain fun general i => c.general? i = some general

/-- The table has the place of a class in its hierarchy. Only the root counts its own identities;
the other tables take them from the one above. A class is told apart by name exactly if the table of
its root has a column for that, and no other table has one. -/
structure IsPlaced (c : Catalog) (l : Layout) (id : ClassId) (t : Table) : Prop where
  root : c.root id = id →
    t.parent = none ∧ t.identity.autoIncrement = true ∧ t.identity.references = none
  below : ∀ general, (c.ancestors id).getLast? = some general →
    ∃ above, l.table? (c.className general) = some above ∧
      t.identity.autoIncrement = false ∧ t.identity.references = some (above.name ++ ".id")
  polymorphic : ∃ top, l.table? (c.className (c.root id)) = some top ∧
    (t.polymorphicIdentity.isSome ↔ top.discriminator.isSome)
  discriminator : c.root id ≠ id → t.discriminator = none

variable {c : Catalog} {ps : Placements} {o : Options} {id i general : ClassId}
  {entry : ClassEntry}

lemma lt_of_general? (h : c.general? i = some general) : i < c.classes.length := by
  obtain ⟨entry, hentry, -⟩ := Option.bind_eq_some_iff.1 h
  exact (List.getElem?_eq_some_iff.1 hentry).1

lemma tableName_eq_of_polymorphicIdentity {name : String}
    (h : (c.table ps entry).polymorphicIdentity = some name) : tableName entry.name = name := by
  simp only [table] at h
  split_ifs at h
  exact Option.some.inj h

/-! ## Roots -/

/-- The walk to the root and the one that collects the lineage go the same way. -/
lemma getLast?_upwards (c : Catalog) (steps : ℕ) (id : ClassId) :
    (c.upwards steps id).getLast? = some (c.topFrom steps id) := by
  induction steps generalizing id with
  | zero => rfl
  | succ steps ih =>
    cases h : c.general? id with
    | none => simp [upwards, topFrom, h]
    | some general => simp [upwards, topFrom, h, List.getLast?_cons, ih]

lemma head?_lineage (c : Catalog) (id : ClassId) :
    (c.lineage id).head? = some (c.root id) := by
  rw [lineage, List.head?_reverse, getLast?_upwards, root]

namespace Coherent

variable (hc : c.Coherent)
include hc

lemma root_of_top (h : c.general? id = none) : c.root id = id := by
  have hhead := c.head?_lineage id
  rw [hc.lineage_of_top h, List.head?_cons] at hhead
  exact (Option.some.inj hhead).symm

lemma root_of_general (h : c.general? id = some general) : c.root id = c.root general := by
  have hhead := c.head?_lineage id
  rw [hc.lineage_of_general h, List.head?_append, c.head?_lineage general] at hhead
  exact (Option.some.inj hhead).symm

lemma root_lt (hid : id < c.classes.length) : c.root id < c.classes.length :=
  hc.lt_of_mem_lineage hid (List.mem_of_head? (c.head?_lineage id))

lemma getLast?_ancestors (id : ClassId) : (c.ancestors id).getLast? = c.general? id := by
  cases h : c.general? id with
  | none => simp [ancestors, hc.lineage_of_top h]
  | some general =>
    rw [ancestors, hc.lineage_of_general h, List.dropLast_concat,
      hc.lineage_eq_ancestors_append, List.getLast?_concat]

lemma general?_root (id : ClassId) : c.general? (c.root id) = none := by
  induction id using hc.grounded.induction with
  | h id ih =>
    cases h : c.general? id with
    | none => rwa [hc.root_of_top h]
    | some general =>
      rw [hc.root_of_general h]
      exact ih general h

lemma root_eq_self_iff : c.root id = id ↔ c.general? id = none := by
  constructor
  · intro h
    rw [← h]
    exact hc.general?_root id
  · exact hc.root_of_top

/-- The root of a class with a general is itself a general. -/
lemma exists_general?_eq_root (h : c.general? id = some general) :
    ∃ i, c.general? i = some (c.root id) := by
  induction id using hc.grounded.induction generalizing general with
  | h id ih =>
    rw [hc.root_of_general h]
    cases habove : c.general? general with
    | none =>
      rw [hc.root_of_top habove]
      exact ⟨id, h⟩
    | some above => exact ih general h habove

lemma isChain_lineage (id : ClassId) :
    (c.lineage id).IsChain fun general i => c.general? i = some general := by
  induction id using hc.grounded.induction with
  | h id ih =>
    cases h : c.general? id with
    | none => simp [hc.lineage_of_top h]
    | some general =>
      rw [hc.lineage_of_general h]
      refine List.isChain_append.2 ⟨ih general h, List.isChain_singleton _, ?_⟩
      rw [hc.lineage_eq_ancestors_append, List.getLast?_concat]
      simpa using h

theorem isLineage_lineage (hid : id < c.classes.length) : c.IsLineage id (c.lineage id) where
  nodup := hc.nodup_lineage id
  length_le := by
    obtain ⟨chain, hchain⟩ := hc.exists_ascent id
    rw [hc.lineage_eq hchain, List.length_reverse]
    exact hc.length_le_of_lt hchain hid
  starts := ⟨c.root id, c.head?_lineage id, hc.general?_root id⟩
  ends := by rw [hc.lineage_eq_ancestors_append, List.getLast?_concat]
  linked := hc.isChain_lineage id

/-! ## Tables -/

lemma table?_layout_className (hid : id < c.classes.length) :
    (c.layout ps).table? (c.className id) = some (c.table ps c.classes[id]) := by
  rw [className_eq (entry?_of_lt hid)]
  exact hc.table?_layout (entry?_of_lt hid)

/-- The parent of a table is that of the general, and it is found by the name of its class. -/
lemma exists_general_of_parent (hid : id < c.classes.length) {p : ParentTable}
    (hp : (c.table ps c.classes[id]).parent = some p) :
    ∃ general, c.general? id = some general ∧ c.className general = p.ofClass ∧
      ∃ above, (c.layout ps).table? p.ofClass = some above ∧ p.table = above.name := by
  simp only [table, parentTable?, general_getElem hid, Option.map_eq_some_iff] at hp
  obtain ⟨general, hgeneral, rfl⟩ := hp
  have hlt := hc.generals _ _ hgeneral
  refine ⟨general, hgeneral, rfl, _, hc.table?_layout_className hlt, ?_⟩
  simp only [table, className_eq (entry?_of_lt hlt)]

/-- The parents of the tables are the generals. -/
theorem hasParent_iff (hid : id < c.classes.length) {name : String} :
    (c.layout ps).HasParent (c.className id) name ↔
      ∃ general, c.general? id = some general ∧ c.className general = name := by
  constructor
  · rintro ⟨t, p, above, ht, hp, rfl, -⟩
    obtain rfl := Option.some.inj ((hc.table?_layout_className hid).symm.trans ht)
    obtain ⟨general, hgeneral, hname, -⟩ := hc.exists_general_of_parent hid hp
    exact ⟨general, hgeneral, hname⟩
  · rintro ⟨general, hgeneral, rfl⟩
    have hparent : (c.table ps c.classes[id]).parent =
        some ⟨c.className general, tableName (c.className general)⟩ := by
      simp only [table, parentTable?, general_getElem hid, hgeneral, Option.map_some]
    obtain ⟨-, -, -, above, habove, hname⟩ := hc.exists_general_of_parent hid hparent
    exact ⟨_, _, above, hc.table?_layout_className hid, hparent, rfl, habove, hname⟩

/-- Up from the table of a class lie the tables of its lineage, and no others. -/
theorem ascent_hasParent_iff (hid : id < c.classes.length) {names : List String} :
    Ascent (c.layout ps).HasParent (c.className id) names ↔
      names = ((c.lineage id).map c.className).reverse := by
  suffices hup : Ascent (c.layout ps).HasParent (c.className id)
      ((c.lineage id).map c.className).reverse from
    ⟨fun h => h.unique (fun _ _ _ hb hd => hb.unique hd) hup, fun h => h ▸ hup⟩
  obtain ⟨chain, hchain⟩ := hc.exists_ascent id
  rw [hc.lineage_eq hchain, List.map_reverse, List.reverse_reverse]
  refine hchain.map ?_ ?_
  · exact fun i general h => (hc.hasParent_iff (lt_of_general? h)).2 ⟨general, h, rfl⟩
  · intro i hi htop name hparent
    obtain ⟨general, hgeneral, -⟩ :=
      (hc.hasParent_iff (hc.lt_of_mem_ascent hchain hid hi)).1 hparent
    exact htop general hgeneral

variable (hspecifics : ∀ id entry, c.entry? id = some entry →
  ∀ i, i ∈ entry.specifics ↔ c.general? i = some id)
include hspecifics

/-- Whether a class is in a hierarchy shows at its root. -/
theorem inHierarchy_eq_isHierarchyRoot (hid : id < c.classes.length)
    (hentry : c.entry? (c.root id) = some entry) : c.inHierarchy id = entry.isHierarchyRoot := by
  have htop : entry.general = none := by
    simpa [general?, hentry] using hc.general?_root id
  cases h : c.general? id with
  | none =>
    rw [hc.root_of_top h] at hentry
    simp [inHierarchy, ClassEntry.isHierarchyRoot, hentry, htop]
  | some general =>
    obtain ⟨i, hi⟩ := hc.exists_general?_eq_root h
    have hmem := (hspecifics _ _ hentry i).2 hi
    have hsome : c.classes[id].general = some general := (general_getElem hid).trans h
    simp [inHierarchy, ClassEntry.isHierarchyRoot, entry?_of_lt hid, hsome, htop,
      List.ne_nil_of_mem hmem]

theorem isPlaced_table (hid : id < c.classes.length) :
    c.IsPlaced (c.layout ps) id (c.table ps c.classes[id]) where
  root h := by
    have hnone := (general_getElem hid).trans (hc.root_eq_self_iff.1 h)
    simp [table, parentTable?, hnone]
  below general h := by
    have hgeneral : c.general? id = some general := hc.getLast?_ancestors id ▸ h
    have hlt := hc.generals _ _ hgeneral
    refine ⟨_, hc.table?_layout_className hlt, ?_⟩
    simp [table, parentTable?, general_getElem hid, hgeneral, className_eq (entry?_of_lt hlt),
      identityOf_eq]
  polymorphic := by
    have hroot := hc.root_lt hid
    refine ⟨_, hc.table?_layout_className hroot, ?_⟩
    have heq := hc.inHierarchy_eq_isHierarchyRoot hspecifics hid (entry?_of_lt hroot)
    simp only [table, hc.ids _ _ (entry?_of_lt hid), heq]
    split_ifs <;> simp
  discriminator h := by
    have hsome : c.classes[id].general ≠ none := by
      rw [general_getElem hid]
      exact fun hnone => h (hc.root_of_top hnone)
    simp [table, ClassEntry.isHierarchyRoot, hsome]

end Coherent

end Catalog

namespace Model

variable {m : Model} {c : Catalog} {id : ClassId} {order : StartOrder}

/-- However the relationships of a model are placed, the lineage of a class is the chain of its
generals, and the contracts and the tables lead up along the same chain. The table of the class has
its place in the hierarchy, and no other class is told apart by the same name. -/
theorem inheritance_views_agree (hc : Catalog.ofModel m order = .ok c) (ps : Placements)
    (o : Options) (hid : id < c.classes.length) :
    c.IsLineage id (c.lineage id) ∧
    c.lineage id = c.ancestors id ++ [id] ∧ (c.lineage id).head? = some (c.root id) ∧
    (∀ names, Ascent m.HasGeneral (c.className id) names ↔
      names = ((c.lineage id).map c.className).reverse) ∧
    ((c.contracts ps o).lineage (c.className id)).map some =
      (c.lineage id).map (fun i => (c.contracts ps o).get? (c.className i)) ∧
    (∀ names, Ascent (c.layout ps).HasParent (c.className id) names ↔
      names = ((c.lineage id).map c.className).reverse) ∧
    ∃ t, (c.layout ps).table? (c.className id) = some t ∧ c.IsPlaced (c.layout ps) id t ∧
      ∀ j < c.classes.length, j ≠ id → ∀ other,
        (c.layout ps).table? (c.className j) = some other → ∀ name,
          t.polymorphicIdentity = some name → other.polymorphicIdentity ≠ some name := by
  obtain ⟨hm, -, rfl⟩ := Catalog.ofModel_eq_ok_iff.1 hc
  have hcoh := hm.coherent_resolved
  refine ⟨hcoh.isLineage_lineage hid, hcoh.lineage_eq_ancestors_append id,
    Catalog.head?_lineage _ id,
    fun _ => hm.ascent_iff hid, hcoh.map_some_lineage hid, fun _ => hcoh.ascent_hasParent_iff hid,
    _, hcoh.table?_layout_className hid,
    hcoh.isPlaced_table (fun _ _ h _ => hm.mem_specifics_iff h) hid, ?_⟩
  intro j hj hne other hother name hname hother'
  obtain rfl := Option.some.inj ((hcoh.table?_layout_className hj).symm.trans hother)
  have htable := Catalog.tableName_eq_of_polymorphicIdentity hname
  have htable' := Catalog.tableName_eq_of_polymorphicIdentity hother'
  rw [← Catalog.className_eq (Catalog.entry?_of_lt hid)] at htable
  rw [← Catalog.className_eq (Catalog.entry?_of_lt hj)] at htable'
  exact hne (hm.tableName_className_inj hj hid (htable'.trans htable.symm))

/-- Vehicles of several kinds, and the roads that they use. -/
def fleet : Model where
  name := "Fleet"
  classes := [
    ⟨"Vehicle", [⟨"plate", some (.primitive .string), none⟩], true⟩,
    ⟨"Car", [⟨"doors", some (.primitive .integer), none⟩], false⟩,
    ⟨"Taxi", [], false⟩,
    ⟨"Bike", [], false⟩,
    ⟨"Road", [], false⟩]
  enumerations := []
  associations := [
    ⟨"uses", [⟨"roads", some (.ofClass "Road"), some .many⟩,
      ⟨"users", some (.ofClass "Vehicle"), some .many⟩]⟩]
  generalizations := [⟨"Car", "Taxi"⟩, ⟨"Vehicle", "Car"⟩, ⟨"Vehicle", "Bike"⟩]

lemma ofModel_fleet : Catalog.ofModel fleet = .ok fleet.resolved := by
  obtain ⟨k, hk⟩ := exists_compiled_of_isOk (m := fleet) (o := {}) (by decide +kernel)
  exact ofModel_of_compile hk

/-- A taxi is a car, and a car is a vehicle. -/
theorem fleet_taxi_views_agree : ∃ c, Catalog.ofModel fleet = .ok c ∧
    c.className 3 = "Taxi" ∧ c.lineage 3 = [4, 1, 3] ∧
    ((c.contracts c.placements {}).lineage "Taxi").map some = ["Vehicle", "Car", "Taxi"].map
      (c.contracts c.placements {}).get? ∧
    Ascent (c.layout c.placements).HasParent "Taxi" ["Taxi", "Car", "Vehicle"] ∧
    ∃ t, (c.layout c.placements).table? "Taxi" = some t ∧
      c.IsPlaced (c.layout c.placements) 3 t := by
  have hid : 3 < fleet.resolved.classes.length := by decide +kernel
  obtain ⟨-, -, -, -, hcontracts, htables, t, ht, hplaced, -⟩ :=
    inheritance_views_agree ofModel_fleet fleet.resolved.placements {} hid
  have hlineage : fleet.resolved.lineage 3 = [4, 1, 3] := by decide +kernel
  have hnames : (fleet.resolved.lineage 3).map fleet.resolved.className =
      ["Vehicle", "Car", "Taxi"] := by decide +kernel
  have hname : fleet.resolved.className 3 = "Taxi" := by decide +kernel
  rw [hname] at hcontracts htables ht
  refine ⟨_, ofModel_fleet, hname, hlineage, ?_, (htables _).2 ?_, t, ht, hplaced⟩
  · rw [hcontracts, ← hnames, List.map_map]
    rfl
  · rw [hnames]
    rfl

end Model

end Blueprint
