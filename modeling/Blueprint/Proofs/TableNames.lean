import Blueprint.Proofs.Columns
import Blueprint.Proofs.Exclusivity
import Mathlib

/-!
# Names of tables and of their columns

A join table takes the first of its candidate names that no table before it has. The candidates are
all different, so among one more of them than there are tables one is free, and the search is never
cut off. All tables of a layout therefore have different names. The two columns of a join table have
different names because the tables of two classes do, and because the two ends at one class have
different roles.
-/
namespace Blueprint

/-! ## Candidates -/

/-- The candidates are a stem, the stem with a name behind it, and that with a number behind it,
which counts from two. -/
structure Qualifies (stem name : String) (candidate : ℕ → String) : Prop where
  bare : candidate 0 = stem
  named : candidate 1 = stem ++ "_" ++ name
  numbered : ∀ n, 2 ≤ n → candidate n = stem ++ "_" ++ name ++ "_" ++ Nat.repr n

/-- The candidate at a position is not used, and all those before it are. -/
structure FirstFree (used : List String) (candidate : ℕ → String) (n : ℕ) : Prop where
  free : candidate n ∉ used
  earlier : ∀ i < n, candidate i ∈ used

variable {used seen : List String} {candidate : ℕ → String} {stem name : String} {n tries : ℕ}

lemma Qualifies.ne_of_lt (h : Qualifies stem name candidate) {i j : ℕ} (hij : i < j) :
    candidate i ≠ candidate j := by
  intro heq
  have hbare : (candidate 0).length = stem.length := by rw [h.bare]
  have hnamed : (candidate 1).length = stem.length + 1 + name.length := by
    rw [h.named, String.length_append, String.length_append]
    rfl
  have hnumbered : ∀ n, 2 ≤ n → (candidate n).length =
      stem.length + 1 + name.length + 1 + (Nat.repr n).length := by
    intro n hn
    rw [h.numbered n hn]
    simp only [String.length_append]
    rfl
  have hlength := congrArg String.length heq
  by_cases hi : 2 ≤ i
  -- only the numbers of the two differ
  · rw [h.numbered i hi, h.numbered j (by omega), String.append_right_inj, Nat.repr_inj] at heq
    omega
  -- the later one is longer
  · by_cases hj : 2 ≤ j
    · have hlater := hnumbered j hj
      obtain rfl | rfl : i = 0 ∨ i = 1 := by omega
      · omega
      · omega
    · obtain ⟨rfl, rfl⟩ : i = 0 ∧ j = 1 := by omega
      omega

lemma Qualifies.injective (h : Qualifies stem name candidate) : Function.Injective candidate := by
  intro i j heq
  rcases Nat.lt_trichotomy i j with hlt | rfl | hgt
  · exact absurd heq (h.ne_of_lt hlt)
  · rfl
  · exact absurd heq.symm (h.ne_of_lt hgt)

lemma FirstFree.congr (hused : ∀ s, s ∈ used ↔ s ∈ seen) (h : FirstFree used candidate n) :
    FirstFree seen candidate n where
  free hmem := h.free ((hused _).2 hmem)
  earlier i hi := (hused _).1 (h.earlier i hi)

lemma FirstFree.unique {i j : ℕ} (h : FirstFree used candidate i)
    (h' : FirstFree used candidate j) : i = j := by
  rcases Nat.lt_trichotomy i j with hlt | rfl | hgt
  · exact absurd (h'.earlier i hlt) h.free
  · rfl
  · exact absurd (h.earlier j hgt) h'.free

/-- There are no more candidates in use than names. -/
lemma le_length_of_used (hinj : Function.Injective candidate)
    (h : ∀ i < n, candidate i ∈ used) : n ≤ used.length := by
  have hnd : ((List.range n).map candidate).Nodup := List.nodup_range.map hinj
  have hsub : (List.range n).map candidate ⊆ used := by
    intro s hs
    obtain ⟨i, hi, rfl⟩ := List.mem_map.1 hs
    exact h i (List.mem_range.1 hi)
  simpa using (hnd.subperm hsub).length_le

/-! ## Tables of a catalog -/

namespace Catalog

variable {c : Catalog} {rs : List Relationship} {before after : List JoinTable} {t : JoinTable}

/-- The search from a position on stops at a candidate that is free, since it may try as many as
there are names in use. -/
theorem exists_firstUnused_eq (hinj : Function.Injective candidate)
    (h : ∀ i < n, candidate i ∈ used) (htries : used.length ≤ n + tries) :
    ∃ k, firstUnused used candidate tries n = candidate k ∧ FirstFree used candidate k := by
  induction tries generalizing n with
  | zero =>
    refine ⟨n, rfl, fun hmem => ?_, h⟩
    have hle := le_length_of_used hinj (Nat.forall_lt_succ_right.2 ⟨h, hmem⟩)
    omega
  | succ tries ih =>
    by_cases hmem : candidate n ∈ used
    · obtain ⟨k, hk, hfirst⟩ := ih (Nat.forall_lt_succ_right.2 ⟨h, hmem⟩) (by omega)
      exact ⟨k, by simp [firstUnused, hmem, hk], hfirst⟩
    · exact ⟨n, by simp [firstUnused, hmem], hmem, h⟩

/-- The names from which the join table of a relationship takes its own. -/
def joinTableNames (c : Catalog) (r : Relationship) : ℕ → String :=
  joinTableName (tableName (c.className r.first.classId) ++ tableName (c.className r.second.classId))
    (Text.lowercase r.name)

lemma qualifies_joinTableNames (r : Relationship) :
    Qualifies (tableName (c.className r.first.classId) ++ tableName (c.className r.second.classId))
      (Text.lowercase r.name) (c.joinTableNames r) where
  bare := rfl
  named := rfl
  numbered n hn := by
    obtain ⟨k, rfl⟩ := Nat.exists_eq_add_of_le' hn
    rfl

theorem exists_joinTable_name_eq (used : List String) (r : Relationship) :
    ∃ n, (c.joinTable used r).name = c.joinTableNames r n ∧
      FirstFree used (c.joinTableNames r) n :=
  exists_firstUnused_eq (qualifies_joinTableNames r).injective (by simp) (by simp)

/-- Each join table takes a name that is free after those before it have taken theirs. -/
theorem exists_firstFree_of_joinTablesFrom (h : c.joinTablesFrom used rs = before ++ t :: after) :
    ∃ r ∈ rs, r.name = t.association ∧ ∃ n, t.name = c.joinTableNames r n ∧
      FirstFree (used ++ before.map (·.name)) (c.joinTableNames r) n := by
  induction before generalizing used rs with
  | nil =>
    cases rs with
    | nil => simp [joinTablesFrom] at h
    | cons r rs =>
      obtain ⟨rfl, -⟩ := List.cons.inj h
      obtain ⟨n, hname, hfirst⟩ := exists_joinTable_name_eq (c := c) used r
      exact ⟨r, .head _, rfl, n, hname, by simpa using hfirst⟩
  | cons b before ih =>
    cases rs with
    | nil => simp [joinTablesFrom] at h
    | cons r rs =>
      obtain ⟨rfl, hrest⟩ := List.cons.inj h
      obtain ⟨r', hr', hassociation, n, hname, hfirst⟩ := ih hrest
      refine ⟨r', .tail _ hr', hassociation, n, hname, hfirst.congr fun s => ?_⟩
      simp [or_left_comm]

/-- What is used before and the names of the join tables stay distinct. -/
theorem nodup_joinTablesFrom (hused : used.Nodup) (rs : List Relationship) :
    (used ++ (c.joinTablesFrom used rs).map (·.name)).Nodup := by
  induction rs generalizing used with
  | nil => simpa [joinTablesFrom] using hused
  | cons r rs ih =>
    obtain ⟨n, hname, hfirst⟩ := exists_joinTable_name_eq (c := c) used r
    have hfree : (c.joinTable used r).name ∉ used := hname ▸ hfirst.free
    rw [joinTablesFrom, List.map_cons]
    exact List.nodup_middle.2 (ih (List.nodup_cons.2 ⟨hfree, hused⟩))

/-- The join tables stay as they are if a name is used as well that none of them has. -/
theorem joinTablesFrom_of_used {other : String} (hused : ∀ s, s ∈ used ↔ s = other ∨ s ∈ seen)
    (hother : other ∉ (c.joinTablesFrom seen rs).map (·.name)) :
    c.joinTablesFrom used rs = c.joinTablesFrom seen rs := by
  induction rs generalizing used seen with
  | nil => rfl
  | cons r rs ih =>
    rw [joinTablesFrom, List.map_cons, List.mem_cons, not_or] at hother
    obtain ⟨i, hi, hfirst⟩ := exists_joinTable_name_eq (c := c) seen r
    obtain ⟨j, hj, hfirst'⟩ := exists_joinTable_name_eq (c := c) used r
    -- the candidate that is taken is not the other name, so that name decides nothing
    have hsame : FirstFree used (c.joinTableNames r) i := by
      refine ⟨fun hmem => ?_, fun k hk => (hused _).2 (.inr (hfirst.earlier k hk))⟩
      rcases (hused _).1 hmem with heq | hmem
      · exact hother.1 (hi.trans heq).symm
      · exact hfirst.free hmem
    have hname : (c.joinTable used r).name = (c.joinTable seen r).name := by
      rw [hi, hj, hfirst'.unique hsame]
    have htable : c.joinTable used r = c.joinTable seen r := by
      simp only [joinTable] at hname ⊢
      rw [hname]
    simp only [joinTablesFrom]
    rw [htable, ih (fun s => ?_) hother.2]
    simp only [List.mem_cons, hused, or_left_comm]

end Catalog

namespace Model

variable {m : Model} {c : Catalog} {ps : Placements} {order : StartOrder}

namespace Sound

variable (hm : m.Sound)
include hm

lemma nodup_tableNames : (m.resolved.classes.map fun entry => tableName entry.name).Nodup := by
  have hnames : (m.resolved.classes.map fun entry => tableName entry.name) =
      m.orderedNames.map tableName := by
    rw [← names_resolved, List.map_map]
    rfl
  rw [hnames, List.nodup_map_iff_inj_on hm.orderedNames_nodup]
  intro x hx y hy heq
  obtain ⟨d, hd, rfl⟩ := List.mem_map.1 (mem_orderedNames.1 hx)
  obtain ⟨e, he, rfl⟩ := List.mem_map.1 (mem_orderedNames.1 hy)
  exact hm.tableNames d hd e he heq

/-- The ends at one class are told apart by their roles, and other ends by their tables. -/
theorem name_joinColumn_ne (hfields : m.resolved.fieldDefect? = none) {r : Relationship}
    (hr : r ∈ m.resolved.relationships) :
    (m.resolved.joinColumn r .first).name ≠ (m.resolved.joinColumn r .second).name := by
  have hc := hm.coherent_resolved
  simp only [Catalog.joinColumn, referenceColumn, ne_eq, String.append_left_inj]
  split_ifs with hself
  · obtain ⟨a, ha, p, q, -, hjoins, hp, hq⟩ := exists_joins_of_mem hr .first
    have hid : (resolvedEnd m.orderedNames p).classId = (resolvedEnd m.orderedNames q).classId := by
      rw [← hp, ← hq]
      exact hself
    rw [hp]
    exact hq ▸ hm.roles_ne_of_classId_eq hfields ha hjoins hid
  · exact fun heq =>
      hself (hm.tableName_className_inj (hc.ends r hr .first) (hc.ends r hr .second) heq)

end Sound

/-- However the relationships of a model are placed, the check of the columns passes exactly if in
every table all columns have different names. The two columns of a join table always have. -/
theorem columns_pass_iff_distinct (hc : Catalog.ofModel m order = .ok c) (ps : Placements) :
    (c.columnDefect? ps = none ↔ ∀ t ∈ (c.layout ps).tables, t.columnNames.Nodup) ∧
    ∀ t ∈ (c.layout ps).joinTables, t.first.name ≠ t.second.name := by
  obtain ⟨hm, hfields, rfl⟩ := Catalog.ofModel_eq_ok_iff.1 hc
  refine ⟨Catalog.columnDefect?_eq_none_iff_layout, fun t ht => ?_⟩
  obtain ⟨r, hr, -, hfirst, hsecond⟩ := Catalog.exists_of_mem_joinTablesFrom ht
  rw [hfirst, hsecond]
  exact hm.name_joinColumn_ne hfields (List.mem_filter.1 hr).1

/-- However the relationships of a model are placed, all tables have different names. The join
tables come in the order of the associations, and each takes the first name that no table before it
has: that of its two classes, that with its association, or that with a number. With fewer than
`2 ^ 31 - 2` tables the next number to try still fits into 31 bits. -/
theorem table_names_distinct (hc : Catalog.ofModel m order = .ok c) (ps : Placements) :
    ((c.layout ps).tables.map (·.name) ++ (c.layout ps).joinTables.map (·.name)).Nodup ∧
    ((c.layout ps).joinTables.map (·.association)).Pairwise (· < ·) ∧
    ∀ before t after, (c.layout ps).joinTables = before ++ t :: after →
      ∃ r ∈ c.relationships, r.name = t.association ∧ ∃ candidate,
        Qualifies (tableName (c.className r.first.classId) ++
          tableName (c.className r.second.classId)) (Text.lowercase t.association) candidate ∧
        ∃ n, t.name = candidate n ∧
          FirstFree ((c.layout ps).tables.map (·.name) ++ before.map (·.name)) candidate n ∧
          ((c.layout ps).tables.length + (c.layout ps).joinTables.length < 2 ^ 31 - 2 →
            n + 1 < 2 ^ 31) := by
  obtain ⟨hm, -, rfl⟩ := Catalog.ofModel_eq_ok_iff.1 hc
  have htables : (m.resolved.layout ps).tables.map (·.name) =
      m.resolved.classes.map fun entry => tableName entry.name := by
    rw [Catalog.layout, List.map_map]
    rfl
  rw [htables]
  refine ⟨Catalog.nodup_joinTablesFrom hm.nodup_tableNames _, ?_, fun before t after h => ?_⟩
  · rw [Catalog.layout, Catalog.joinTables, Catalog.map_association_joinTablesFrom]
    exact hm.coherent_resolved.relationshipNames.sublist (List.filter_sublist.map _)
  · obtain ⟨r, hr, hassociation, n, hname, hfirst⟩ :=
      Catalog.exists_firstFree_of_joinTablesFrom h
    have hqualifies := Catalog.qualifies_joinTableNames (c := m.resolved) r
    refine ⟨r, (List.mem_filter.1 hr).1, hassociation, _, hassociation ▸ hqualifies, n, hname,
      hfirst, fun hfew => ?_⟩
    have hle := le_length_of_used hqualifies.injective hfirst.earlier
    rw [h, Catalog.layout] at hfew
    simp only [List.length_append, List.length_map, List.length_cons] at hle hfew
    omega

/-- A forum whose users follow each other and like posts in two ways. The table of one class has the
name that the likes would take. -/
def forum : Model where
  name := "Forum"
  classes := [
    ⟨"User", [⟨"name", some (.primitive .string), none⟩], false⟩,
    ⟨"Post", [⟨"author", some (.ofClass "User"), some .one⟩], false⟩,
    ⟨"PostUser", [], false⟩]
  enumerations := []
  associations := [
    ⟨"follows", [⟨"followers", some (.ofClass "User"), some .many⟩,
      ⟨"following", some (.ofClass "User"), some .many⟩]⟩,
    ⟨"likes", [⟨"liked", some (.ofClass "Post"), some .many⟩,
      ⟨"likers", some (.ofClass "User"), some .many⟩]⟩,
    ⟨"Likes", [⟨"favourites", some (.ofClass "Post"), some .many⟩,
      ⟨"admirers", some (.ofClass "User"), some .many⟩]⟩]
  generalizations := []

lemma ofModel_forum : Catalog.ofModel forum = .ok forum.resolved := by
  obtain ⟨k, hk⟩ := exists_compiled_of_isOk (m := forum) (o := {}) (by decide +kernel)
  exact ofModel_of_compile hk

theorem forum_columns_distinct : ∃ c, Catalog.ofModel forum = .ok c ∧
    c.columnDefect? c.placements = none ∧
    (∀ t ∈ (c.layout c.placements).tables, t.columnNames.Nodup) ∧
    ∃ t, (c.layout c.placements).joinTableFor? "follows" = some t ∧
      t.first.ofClass = t.second.ofClass ∧ t.first.name ≠ t.second.name := by
  obtain ⟨hpass, hjoin⟩ := columns_pass_iff_distinct ofModel_forum forum.resolved.placements
  have hnone : forum.resolved.columnDefect? forum.resolved.placements = none := by decide +kernel
  obtain ⟨t, ht, hsame⟩ : ∃ t, (forum.resolved.layout forum.resolved.placements).joinTableFor?
      "follows" = some t ∧ t.first.ofClass = t.second.ofClass := by decide +kernel
  exact ⟨_, ofModel_forum, hnone, hpass.1 hnone, t, ht, hsame,
    hjoin t (List.mem_of_find?_eq_some ht)⟩

/-- The second kind of likes gets a number. -/
theorem forum_table_names_distinct : ∃ c, Catalog.ofModel forum = .ok c ∧
    (c.layout c.placements).joinTables.map (·.name) =
      ["postuser_likes", "useruser", "postuser_likes_2"] ∧
    ((c.layout c.placements).tables.map (·.name) ++
      (c.layout c.placements).joinTables.map (·.name)).Nodup := by
  obtain ⟨hnd, -⟩ := table_names_distinct ofModel_forum forum.resolved.placements
  exact ⟨_, ofModel_forum, by decide +kernel, hnd⟩

end Model

end Blueprint
