import Blueprint.NameTable
import Blueprint.Sequence
import Mathlib.Data.List.Duplicate
import Mathlib.Data.List.Forall2
import Mathlib.Data.List.Nodup
import Mathlib.Tactic.SplitIfs

/-!
# Distinct and ordered names

The searches for a name that comes twice find one exactly if the names are not distinct, and what
they find does come twice. Sorting by distinct names forgets in which order the items were declared,
and a name table made from entries in order lists them as they were given.
-/
namespace Blueprint

variable {α β : Type}

/-! ## Names that come twice -/

lemma mem_map_fst_of_lookup {es : List (String × α)} {name : String} {a : α}
    (h : es.lookup name = some a) : name ∈ es.map (·.1) := by
  obtain ⟨before, after, rfl, -⟩ := List.lookup_eq_some_iff.1 h
  simp

lemma lookup_eq_none_iff_not_mem {es : List (String × α)} {name : String} :
    es.lookup name = none ↔ name ∉ es.map (·.1) := by
  simp only [List.lookup_eq_none_iff, bne_iff_ne, List.mem_map, not_exists, not_and, ne_eq]
  exact forall₂_congr fun e _ => not_congr eq_comm

/-- With distinct names an item is found by its name. -/
lemma find?_eq_some_of_nodup {ν : α → String} {xs : List α} (hnd : (xs.map ν).Nodup) {x : α}
    (hx : x ∈ xs) : xs.find? (ν · == ν x) = some x := by
  induction xs with
  | nil => simp at hx
  | cons y ys ih =>
    rw [List.map_cons, List.nodup_cons] at hnd
    rcases List.mem_cons.1 hx with rfl | hx
    · simp
    · have hne : ν y ≠ ν x := fun heq => hnd.1 (heq ▸ List.mem_map_of_mem hx)
      simp [hne, ih hnd.2 hx]

/-- With distinct names a search by name finds exactly the item that has the name. -/
lemma find?_eq_some_iff_of_nodup {ν : α → String} {xs : List α} (hnd : (xs.map ν).Nodup)
    {name : String} {x : α} : xs.find? (ν · == name) = some x ↔ x ∈ xs ∧ ν x = name := by
  constructor
  · intro h
    exact ⟨List.mem_of_find?_eq_some h, by simpa using List.find?_some h⟩
  · rintro ⟨hx, rfl⟩
    exact find?_eq_some_of_nodup hnd hx

/-- With distinct names it is the only item of its name. -/
lemma filter_eq_singleton_of_nodup {ν : α → String} {xs : List α} (hnd : (xs.map ν).Nodup) {x : α}
    (hx : x ∈ xs) : xs.filter (ν · == ν x) = [x] := by
  have hmem : ∀ y, y ∈ xs.filter (ν · == ν x) ↔ y ∈ [x] := by
    intro y
    simp only [List.mem_filter, beq_iff_eq, List.mem_singleton]
    constructor
    · rintro ⟨hy, he⟩
      exact List.inj_on_of_nodup_map hnd hy hx he
    · rintro rfl
      exact ⟨hx, rfl⟩
  have hfilter := (List.Nodup.of_map _ hnd).filter (ν · == ν x)
  exact List.perm_singleton.1
    ((List.perm_ext_iff_of_nodup hfilter (List.nodup_singleton x)).2 hmem)

/-- `seen` holds the names before those that are searched. -/
theorem firstClash_eq_none_iff (seen es : List (String × α)) :
    firstClash seen es = none ↔
      (es.map (·.1)).Nodup ∧ ∀ name ∈ es.map (·.1), name ∉ seen.map (·.1) := by
  induction es generalizing seen with
  | nil => simp [firstClash]
  | cons e es ih =>
    obtain ⟨name, a⟩ := e
    simp only [firstClash]
    cases h : seen.lookup name with
    | some before =>
      have hmem := mem_map_fst_of_lookup h
      simp only [reduceCtorEq, List.map_cons, List.mem_cons, false_iff, not_and]
      exact fun _ hall => hall name (.inl rfl) hmem
    | none =>
      have hmem := lookup_eq_none_iff_not_mem.1 h
      simp only [ih, List.map_cons, List.nodup_cons, List.mem_cons, not_or, forall_eq_or_imp]
      constructor
      · rintro ⟨hnd, hall⟩
        exact ⟨⟨fun hn => (hall name hn).1 rfl, hnd⟩, hmem, fun n hn => (hall n hn).2⟩
      · rintro ⟨⟨hnot, hnd⟩, -, hall⟩
        exact ⟨hnd, fun n hn => ⟨fun he => hnot (he ▸ hn), hall n hn⟩⟩

theorem firstClash_nil_eq_none_iff (es : List (String × α)) :
    firstClash [] es = none ↔ (es.map (·.1)).Nodup := by
  simp [firstClash_eq_none_iff]

theorem firstRepeat_eq_none_iff (names : List String) :
    firstRepeat names = none ↔ names.Nodup := by
  simp [firstRepeat, firstClash_nil_eq_none_iff, Function.comp_def]

/-- A scan that compares the name of each item with those before it, and checks the item by itself,
finds nothing exactly if the names are distinct and every item passes. -/
theorem findSome?_withPrior_eq_none_iff (ν : α → String) {check clash : α → Option β}
    {scan : List α × α → Option β} (hclash : ∀ x, clash x ≠ none)
    (hscan : ∀ prior x, scan (prior, x) = if prior.any (ν · == ν x) then clash x else check x)
    (prior xs : List α) :
    (withPrior prior xs).findSome? scan = none ↔
      (xs.map ν).Nodup ∧ (∀ x ∈ xs, ν x ∉ prior.map ν) ∧ ∀ x ∈ xs, check x = none := by
  induction xs generalizing prior with
  | nil => simp [withPrior]
  | cons x xs ih =>
    have hhead : scan (prior, x) = none ↔ ν x ∉ prior.map ν ∧ check x = none := by
      rw [hscan]
      split_ifs with h
      · simp only [List.any_eq_true, beq_iff_eq] at h
        simpa [hclash] using fun hnot => absurd h (by simpa using hnot)
      · simp only [List.any_eq_true, beq_iff_eq, not_exists, not_and] at h
        simpa using fun _ => h
    have htail := ih (x :: prior)
    rw [List.findSome?_eq_none_iff] at htail ⊢
    simp only [withPrior, List.mem_cons, forall_eq_or_imp, hhead, htail, List.map_cons,
      List.nodup_cons, not_or]
    constructor
    · rintro ⟨⟨hx, hcx⟩, hnd, hall, hc⟩
      refine ⟨⟨?_, hnd⟩, ⟨hx, fun y hy => (hall y hy).2⟩, hcx, hc⟩
      intro hmem
      obtain ⟨y, hy, he⟩ := List.mem_map.1 hmem
      exact (hall y hy).1 he
    · rintro ⟨⟨hnot, hnd⟩, ⟨hx, hall⟩, hcx, hc⟩
      exact ⟨⟨hx, hcx⟩, hnd,
        fun y hy => ⟨fun he => hnot (he ▸ List.mem_map_of_mem hy), hall y hy⟩, hc⟩

/-- Of the parts of a list only one has items that pass. -/
lemma filter_flatMap_of_nodup {xs : List α} (hnd : xs.Nodup) {f : α → List β}
    {p : β → Bool} {x : α} (hx : x ∈ xs) (h : ∀ y ∈ xs, y ≠ x → ∀ b ∈ f y, p b = false) :
    (xs.flatMap f).filter p = (f x).filter p := by
  have hnone : ∀ ys ⊆ xs, x ∉ ys → (ys.flatMap f).filter p = [] := by
    intro ys hys hnot
    refine List.filter_eq_nil_iff.2 fun b hb => ?_
    obtain ⟨y, hy, hb⟩ := List.mem_flatMap.1 hb
    simp [h y (hys hy) (fun heq => hnot (heq ▸ hy)) b hb]
  obtain ⟨before, after, rfl⟩ := List.append_of_mem hx
  obtain ⟨hnot, -⟩ := List.nodup_cons.1 (List.nodup_middle.1 hnd)
  rw [List.mem_append, not_or] at hnot
  rw [List.flatMap_append, List.flatMap_cons, List.filter_append, List.filter_append,
    hnone before (by simp) hnot.1, hnone after (fun y hy => by simp [hy]) hnot.2,
    List.nil_append, List.append_nil]

/-! ## What the searches find -/

/-- Of two entries with the name that is found, the first is the first one that has the name. It may
be one of those seen before. -/
theorem of_firstClash_eq_some {seen es : List (String × α)} {name : String} {a b : α}
    (h : firstClash seen es = some (name, a, b)) :
    (seen.lookup name = some a ∧ (name, b) ∈ es) ∨ [(name, a), (name, b)].Sublist es := by
  induction es generalizing seen with
  | nil => simp [firstClash] at h
  | cons e es ih =>
    obtain ⟨other, x⟩ := e
    simp only [firstClash] at h
    cases hl : seen.lookup other with
    | some before =>
      obtain ⟨rfl, rfl, rfl⟩ : other = name ∧ before = a ∧ x = b := by simpa [hl] using h
      exact .inl ⟨hl, .head _⟩
    | none =>
      rw [hl] at h
      rcases ih h with ⟨hseen, hmem⟩ | hsub
      · by_cases hname : name = other
        · subst hname
          obtain rfl : x = a := by simpa using hseen
          exact .inr ((List.singleton_sublist.2 hmem).cons_cons _)
        · rw [List.lookup_cons, beq_eq_false_iff_ne.2 hname] at hseen
          exact .inl ⟨hseen, .tail _ hmem⟩
      · exact .inr (hsub.cons _)

theorem sublist_of_firstClash_nil {es : List (String × α)} {name : String} {a b : α}
    (h : firstClash [] es = some (name, a, b)) : [(name, a), (name, b)].Sublist es := by
  simpa using of_firstClash_eq_some h

lemma two_le_count_iff_sublist {xs : List String} {x : String} :
    2 ≤ xs.count x ↔ [x, x].Sublist xs :=
  List.duplicate_iff_two_le_count.symm.trans List.duplicate_iff_sublist

theorem two_le_count_of_firstRepeat {names : List String} {name : String}
    (h : firstRepeat names = some name) : 2 ≤ names.count name := by
  obtain ⟨⟨_, _, _⟩, hclash, rfl⟩ := Option.map_eq_some_iff.1 h
  have hsub := (sublist_of_firstClash_nil hclash).map Prod.fst
  rw [two_le_count_iff_sublist]
  simpa [Function.comp_def] using hsub

/-- What a scan of items with those before them finds is wrong with one of the items by itself, or
the name of the item comes twice. -/
theorem exists_of_findSome?_withPrior (ν : α → String) {check clash : α → Option β}
    {scan : List α × α → Option β}
    (hscan : ∀ prior x, scan (prior, x) = if prior.any (ν · == ν x) then clash x else check x)
    {prior xs : List α} {b : β} (h : (withPrior prior xs).findSome? scan = some b) :
    ∃ x ∈ xs, check x = some b ∨
      clash x = some b ∧ 2 ≤ ((prior ++ xs).map ν).count (ν x) := by
  induction xs generalizing prior with
  | nil => simp [withPrior] at h
  | cons x xs ih =>
    have hperm : (x :: prior ++ xs).Perm (prior ++ x :: xs) := List.perm_middle.symm
    rw [withPrior, List.findSome?_cons] at h
    cases hx : scan (prior, x) with
    | none =>
      rw [hx] at h
      obtain ⟨y, hy, hcheck | ⟨hclash, hcount⟩⟩ := ih h
      · exact ⟨y, .tail _ hy, .inl hcheck⟩
      · rw [(hperm.map ν).count_eq] at hcount
        exact ⟨y, .tail _ hy, .inr ⟨hclash, hcount⟩⟩
    | some found =>
      rw [hx] at h
      obtain rfl : found = b := Option.some.inj h
      rw [hscan] at hx
      refine ⟨x, .head _, ?_⟩
      split_ifs at hx with hprior
      · refine .inr ⟨hx, ?_⟩
        have hmem : ν x ∈ (prior ++ xs).map ν := by
          obtain ⟨y, hy, heq⟩ := List.any_eq_true.1 hprior
          exact List.mem_map.2 ⟨y, List.mem_append_left _ hy, beq_iff_eq.1 heq⟩
        rw [← (hperm.map ν).count_eq, List.cons_append, List.map_cons, List.count_cons_self]
        exact Nat.succ_le_succ (List.count_pos_iff.2 hmem)
      · exact .inl hx

/-- Two items in the order of the parts are of one part, or of two parts in their order. -/
lemma sublist_flatMap_pair {f : α → List β} {xs : List α} {x y : β}
    (h : [x, y].Sublist (xs.flatMap f)) :
    (∃ a ∈ xs, [x, y].Sublist (f a)) ∨
      ∃ a b, [a, b].Sublist xs ∧ x ∈ f a ∧ y ∈ f b := by
  induction xs with
  | nil => simp at h
  | cons a xs ih =>
    rw [List.flatMap_cons, List.sublist_append_iff] at h
    obtain ⟨before, after, heq, hbefore, hafter⟩ := h
    match before, heq with
    | [], heq =>
      rw [List.nil_append] at heq
      subst heq
      rcases ih hafter with ⟨b, hb, hsub⟩ | ⟨b, b', hsub, hx, hy⟩
      · exact .inl ⟨b, .tail _ hb, hsub⟩
      · exact .inr ⟨b, b', hsub.cons _, hx, hy⟩
    | [z], heq =>
      obtain ⟨rfl, rfl⟩ : x = z ∧ [y] = after := by simpa using heq
      obtain ⟨b, hb, hy⟩ := List.mem_flatMap.1 (List.singleton_sublist.1 hafter)
      exact .inr ⟨a, b, (List.singleton_sublist.2 hb).cons_cons a,
        List.singleton_sublist.1 hbefore, hy⟩
    | [z, w], heq =>
      obtain ⟨rfl, rfl, -⟩ : x = z ∧ y = w ∧ after = [] := by simpa [eq_comm] using heq
      exact .inl ⟨a, .head _, hbefore⟩
    | z :: w :: v :: rest, heq => simp at heq

/-! ## Lists in step -/

lemma map_eq_map_of_forall₂ {γ : Type} {R : α → β → Prop} {f : α → γ} {g : β → γ}
    (hfg : ∀ a b, R a b → f a = g b) {xs : List α} {ys : List β} (h : List.Forall₂ R xs ys) :
    xs.map f = ys.map g := by
  induction h with
  | nil => rfl
  | cons hab _ ih => rw [List.map_cons, List.map_cons, hfg _ _ hab, ih]

lemma filterMap_eq_filterMap_of_forall₂ {γ : Type} {R : α → β → Prop} {f : α → Option γ}
    {g : β → Option γ} (hfg : ∀ a b, R a b → f a = g b) {xs : List α} {ys : List β}
    (h : List.Forall₂ R xs ys) : xs.filterMap f = ys.filterMap g := by
  induction h with
  | nil => rfl
  | cons hab _ ih => rw [List.filterMap_cons, List.filterMap_cons, hfg _ _ hab, ih]

lemma flatMap_eq_flatMap_of_forall₂ {γ : Type} {R : α → β → Prop} {f : α → List γ}
    {g : β → List γ} (hfg : ∀ a b, R a b → f a = g b) {xs : List α} {ys : List β}
    (h : List.Forall₂ R xs ys) : xs.flatMap f = ys.flatMap g := by
  rw [List.flatMap_def, List.flatMap_def, map_eq_map_of_forall₂ hfg h]

lemma rel_getElem?_of_forall₂ {R : α → β → Prop} {xs : List α} {ys : List β}
    (h : List.Forall₂ R xs ys) (i : ℕ) : Option.Rel R xs[i]? ys[i]? := by
  induction h generalizing i with
  | nil => exact .none
  | cons hab _ ih =>
    cases i with
    | zero => exact .some hab
    | succ i => simpa using ih i

lemma exists_mem_of_forall₂ {R : α → β → Prop} {xs : List α} {ys : List β}
    (h : List.Forall₂ R xs ys) {b : β} (hb : b ∈ ys) : ∃ a ∈ xs, R a b := by
  induction h with
  | nil => simp at hb
  | @cons a b' xs ys hab _ ih =>
    rcases List.mem_cons.1 hb with rfl | hb
    · exact ⟨a, .head _, hab⟩
    · obtain ⟨a', ha', hab'⟩ := ih hb
      exact ⟨a', .tail _ ha', hab'⟩

lemma forall₂_flatMap {γ δ : Type} {R : γ → δ → Prop} {f : α → List γ} {g : α → List δ}
    {xs : List α} (h : ∀ x ∈ xs, List.Forall₂ R (f x) (g x)) :
    List.Forall₂ R (xs.flatMap f) (xs.flatMap g) := by
  induction xs with
  | nil => exact .nil
  | cons x xs ih =>
    rw [List.flatMap_cons, List.flatMap_cons]
    exact List.rel_append (h x (.head _)) (ih fun y hy => h y (.tail _ hy))

/-! ## Sorting by names -/

lemma mem_insertSorted (le : α → α → Bool) (x y : α) (ys : List α) :
    y ∈ insertSorted le x ys ↔ y = x ∨ y ∈ ys := by
  rw [(insertSorted_perm le x ys).mem_iff, List.mem_cons]

lemma insertSorted_pairwise {le : α → α → Bool} (htotal : ∀ a b, le a b ∨ le b a)
    (htrans : ∀ a b c, le a b → le b c → le a c) (x : α) {ys : List α}
    (h : ys.Pairwise (le · ·)) : (insertSorted le x ys).Pairwise (le · ·) := by
  induction ys with
  | nil => simp [insertSorted]
  | cons y ys ih =>
    obtain ⟨hy, hys⟩ := List.pairwise_cons.1 h
    simp only [insertSorted]
    split_ifs with hxy
    · refine List.pairwise_cons.2 ⟨fun z hz => ?_, h⟩
      rcases List.mem_cons.1 hz with rfl | hz
      · exact hxy
      · exact htrans x y z hxy (hy z hz)
    · refine List.pairwise_cons.2 ⟨fun z hz => ?_, ih hys⟩
      rcases (mem_insertSorted le x z ys).1 hz with rfl | hz
      · exact (htotal z y).resolve_left hxy
      · exact hy z hz

lemma sorted_pairwise {le : α → α → Bool} (htotal : ∀ a b, le a b ∨ le b a)
    (htrans : ∀ a b c, le a b → le b c → le a c) (xs : List α) :
    (sorted le xs).Pairwise (le · ·) := by
  induction xs with
  | nil => exact .nil
  | cons x xs ih => exact insertSorted_pairwise htotal htrans x ih

theorem sortedByName_perm (ν : α → String) (xs : List α) : (sortedByName ν xs).Perm xs :=
  sorted_perm _ xs

@[simp] theorem mem_sortedByName {ν : α → String} {x : α} {xs : List α} :
    x ∈ sortedByName ν xs ↔ x ∈ xs := mem_sorted _

theorem sortedByName_pairwise (ν : α → String) (xs : List α) :
    (sortedByName ν xs).Pairwise (ν · ≤ ν ·) := by
  have htotal : ∀ a b : α, decide (ν a ≤ ν b) ∨ decide (ν b ≤ ν a) :=
    fun a b => by simpa using Std.le_total
  have htrans : ∀ a b d : α, decide (ν a ≤ ν b) → decide (ν b ≤ ν d) → decide (ν a ≤ ν d) :=
    fun a b d => by simpa using Std.le_trans
  simpa [sortedByName] using sorted_pairwise htotal htrans xs

/-- With distinct names the order is strict. -/
theorem sortedByName_strict {ν : α → String} {xs : List α} (h : (xs.map ν).Nodup) :
    ((sortedByName ν xs).map ν).Pairwise (· < ·) := by
  have hnd : ((sortedByName ν xs).map ν).Nodup := ((sortedByName_perm ν xs).map ν).nodup_iff.2 h
  have hle : ((sortedByName ν xs).map ν).Pairwise (· ≤ ·) :=
    List.pairwise_map.2 (sortedByName_pairwise ν xs)
  exact (hle.and hnd).imp fun h => Std.lt_of_le_of_ne h.1 h.2

/-- Items with distinct names can be put in order in one way only. -/
theorem sortedByName_eq_of_pairwise {ν : α → String} {xs ys : List α} (hp : xs.Perm ys)
    (h : (xs.map ν).Nodup) (hys : ys.Pairwise (ν · ≤ ν ·)) : sortedByName ν xs = ys := by
  have hxy : (sortedByName ν xs).Perm ys := (sortedByName_perm ν xs).trans hp
  refine hxy.eq_of_pairwise ?_ (sortedByName_pairwise ν xs) hys
  intro a b ha hb hab hba
  exact List.inj_on_of_nodup_map h (mem_sortedByName.1 ha) (hp.mem_iff.2 hb)
    (Std.le_antisymm hab hba)

/-- The order of the declarations is forgotten if their names are distinct. -/
theorem sortedByName_eq_of_perm {ν : α → String} {xs ys : List α} (hp : xs.Perm ys)
    (h : (xs.map ν).Nodup) : sortedByName ν xs = sortedByName ν ys :=
  sortedByName_eq_of_pairwise (hp.trans (sortedByName_perm ν ys).symm) h
    (sortedByName_pairwise ν ys)

/-- It makes no difference whether items are left out before sorting or after. -/
theorem sortedByName_filter {ν : α → String} {xs : List α} (h : (xs.map ν).Nodup)
    (p : α → Bool) : sortedByName ν (xs.filter p) = (sortedByName ν xs).filter p :=
  sortedByName_eq_of_pairwise ((sortedByName_perm ν xs).symm.filter p)
    (h.sublist (List.filter_sublist.map ν)) ((sortedByName_pairwise ν xs).filter p)

lemma exists_insertSorted_eq (le : α → α → Bool) (x : α) (xs : List α) :
    ∃ before after, xs = before ++ after ∧ insertSorted le x xs = before ++ x :: after := by
  induction xs with
  | nil => exact ⟨[], [], rfl, rfl⟩
  | cons y ys ih =>
    simp only [insertSorted]
    split
    · exact ⟨[], y :: ys, rfl, rfl⟩
    · obtain ⟨before, after, hys, hinserted⟩ := ih
      exact ⟨y :: before, after, by rw [hys, List.cons_append], by rw [hinserted, List.cons_append]⟩

/-- One item more stands somewhere between the others, wherever it was declared. -/
theorem exists_sortedByName_eq {ν : α → String} {xs before after : List α} {x : α}
    (hxs : xs = before ++ after) (hnd : ((before ++ x :: after).map ν).Nodup) :
    ∃ before' after', sortedByName ν xs = before' ++ after' ∧
      sortedByName ν (before ++ x :: after) = before' ++ x :: after' := by
  rw [sortedByName_eq_of_perm List.perm_middle hnd, ← hxs]
  exact exists_insertSorted_eq _ x (sortedByName ν xs)

lemma forall₂_insertSorted {R : α → β → Prop} {le : α → α → Bool} {le' : β → β → Bool}
    (hle : ∀ a b c d, R a b → R c d → le a c = le' b d) {x : α} {y : β} (hxy : R x y)
    {xs : List α} {ys : List β} (h : List.Forall₂ R xs ys) :
    List.Forall₂ R (insertSorted le x xs) (insertSorted le' y ys) := by
  induction h with
  | nil => exact .cons hxy .nil
  | @cons a b xs ys hab hrest ih =>
    simp only [insertSorted, hle x y a b hxy hab]
    split
    · exact .cons hxy (.cons hab hrest)
    · exact .cons hab ih

/-- Sorting keeps two lists in step whose items have the same names. -/
theorem forall₂_sortedByName {R : α → β → Prop} {ν : α → String} {ν' : β → String}
    (hν : ∀ a b, R a b → ν a = ν' b) {xs : List α} {ys : List β} (h : List.Forall₂ R xs ys) :
    List.Forall₂ R (sortedByName ν xs) (sortedByName ν' ys) := by
  have hle : ∀ a b c d, R a b → R c d →
      decide (ν a ≤ ν c) = decide (ν' b ≤ ν' d) := by
    intro a b c d hab hcd
    rw [hν a b hab, hν c d hcd]
  unfold sortedByName
  induction h with
  | nil => exact .nil
  | cons hab _ ih => exact forall₂_insertSorted hle hab ih

/-! ## Tables from entries in order -/

lemma putByName_of_last {name : String} {a : α} {es : List (String × α)}
    (h : ∀ e ∈ es, e.1 < name) : putByName name a es = es ++ [(name, a)] := by
  induction es with
  | nil => rfl
  | cons e es ih =>
    have he : e.1 < name := h e (.head _)
    have hne : name ≠ e.1 := fun heq => Std.lt_irrefl (heq ▸ he)
    simp only [putByName, if_neg (Std.not_lt.2 (Std.le_of_lt he)), if_neg hne, List.cons_append,
      ih fun f hf => h f (.tail _ hf)]

namespace NameTable

lemma foldl_insert_entries (t : NameTable α) (es : List (String × α))
    (h : (t.entries ++ es).Pairwise (·.1 < ·.1)) :
    (es.foldl (fun t e => t.insert e.1 e.2) t).entries = t.entries ++ es := by
  induction es generalizing t with
  | nil => simp
  | cons e es ih =>
    have hlast : ∀ f ∈ t.entries, f.1 < e.1 := fun f hf =>
      (List.pairwise_append.1 h).2.2 f hf e (.head _)
    have hput : (t.insert e.1 e.2).entries = t.entries ++ [e] := putByName_of_last hlast
    rw [List.foldl_cons, ih (t.insert e.1 e.2) (by simpa [hput] using h), hput,
      List.append_assoc, List.singleton_append]

/-- Entries that are in order already are kept as they are. -/
theorem ofList_entries {es : List (String × α)} (h : es.Pairwise (·.1 < ·.1)) :
    (ofList es).entries = es := by
  exact foldl_insert_entries empty es h

/-- A table has exactly the entries that it lists. -/
theorem get?_eq_some_iff (t : NameTable α) (name : String) (a : α) :
    t.get? name = some a ↔ (name, a) ∈ t.entries := by
  obtain ⟨es, h⟩ := t
  simp only [get?]
  induction es with
  | nil => simp
  | cons e es ih =>
    obtain ⟨he, hes⟩ := List.pairwise_cons.1 h
    obtain ⟨other, b⟩ := e
    by_cases hn : name = other
    · subst hn
      have hlater : (name, a) ∉ es := fun hmem => Std.lt_irrefl (he (name, a) hmem)
      simp [hlater, eq_comm]
    · have hne : (name, a) ≠ (other, b) := fun heq => hn (Prod.mk.inj heq).1
      simp only [List.lookup_cons, beq_eq_false_iff_ne.2 hn, List.mem_cons, hne, false_or]
      exact ih hes

lemma mem_names_iff {t : NameTable α} {name : String} :
    name ∈ t.names ↔ ∃ a, t.get? name = some a := by
  simp [names, get?_eq_some_iff]

lemma lookup_putByName_self (name : String) (a : α) (es : List (String × α)) :
    (putByName name a es).lookup name = some a := by
  induction es with
  | nil => simp [putByName]
  | cons e es ih =>
    obtain ⟨first, b⟩ := e
    simp only [putByName]
    split_ifs with hlt heq
    · simp
    · simp
    · simp only [List.lookup_cons, beq_eq_false_iff_ne.2 heq, ih]

lemma lookup_putByName_of_ne {name other : String} (h : other ≠ name) (a : α)
    (es : List (String × α)) : (putByName name a es).lookup other = es.lookup other := by
  have hne : (other == name) = false := beq_eq_false_iff_ne.2 h
  induction es with
  | nil => simp [putByName, List.lookup_cons, hne]
  | cons e es ih =>
    obtain ⟨first, b⟩ := e
    simp only [putByName]
    split_ifs with hlt heq
    · rw [List.lookup_cons, hne]
    · simp only [List.lookup_cons, ← heq, hne]
    · simp only [List.lookup_cons, ih]

/-- An entry is put in for its name only. -/
theorem get?_insert (t : NameTable α) (name : String) (a : α) (other : String) :
    (t.insert name a).get? other = if other = name then some a else t.get? other := by
  split_ifs with h
  · exact h ▸ lookup_putByName_self name a t.entries
  · exact lookup_putByName_of_ne h a t.entries

theorem get?_without (t : NameTable α) (names : List String) (name : String) :
    (t.without names).get? name = if name ∈ names then none else t.get? name := by
  refine Option.ext fun a => ?_
  rw [get?_eq_some_iff]
  split_ifs with h
  · simp [without, h]
  · simp [without, h, get?_eq_some_iff]

end NameTable

end Blueprint
