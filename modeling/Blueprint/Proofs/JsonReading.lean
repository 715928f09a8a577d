import Blueprint.Json.Record
import Blueprint.Json.Untyped
import Blueprint.Proofs.JsonText
import Mathlib.Data.List.Forall2

/-!
# Reading values that were written

A reader reads a value as something if it takes the text of the value, however deep it stands and
whatever blanks are before it, and leaves what follows. This is shown for one kind of value after
another. The text of a list or an object is read if those of its parts are: the readers for its
items, or the fields of a record that take its members, go from each part to the next over the
comma and the blanks that were written between them.
-/
namespace Blueprint.Json

open Reader

namespace Reader

lemma map_apply {α β : Type} (f : α → β) (r : Reader α) (size : ℕ) (s : List Char) :
    (f <$> r) size s =
      match r size s with
      | .ok (a, rest) => .ok (f a, rest)
      | .error fault => .error fault := rfl

lemma ofExcept_ok {α : Type} (a : α) : Reader.ofExcept (.ok a) = pure a := rfl

end Reader

/-- Only blanks are written besides what has a meaning. -/
structure Spacing.Blank (l : Spacing) : Prop where
  lineBreak : ∀ level, AllBlank (l.lineBreak level)
  colon : ∃ blanks, l.colon = ':' :: blanks ∧ AllBlank blanks

lemma blank_indented : Spacing.indented.Blank where
  lineBreak level c hc := by
    simp only [Spacing.indented, List.mem_cons, List.mem_replicate] at hc
    rcases hc with rfl | ⟨-, rfl⟩ <;> rfl
  colon := ⟨[' '], rfl, by simp [AllBlank, isBlank]⟩

/-- The reader reads the value as `a`. -/
def Reads {α : Type} (l : Spacing) (r : Reader α) (v : Value) (a : α) : Prop :=
  ∀ level size blanks rest, AllBlank blanks → Delimited rest → (v.chars l level).length ≤ size →
    r size (blanks ++ (v.chars l level ++ rest)) = .ok (a, rest)

variable {α β : Type} {l : Spacing} {r : Reader α} {v : Value} {a : α}
  {blanks rest s t u : List Char} {item : Reader α} {first : Bool} {level size limit : ℕ}

lemma allBlank_nil : AllBlank [] := fun _ hc => by simp at hc

lemma Reads.bind_pure (h : Reads l r v a) (f : α → β) :
    Reads l (r >>= fun x => pure (f x)) v (f a) := by
  intro level size blanks rest hblanks hrest hsize
  rw [bind_apply, h level size blanks rest hblanks hrest hsize]
  rfl

lemma Reads.map (h : Reads l r v a) (f : α → β) : Reads l (f <$> r) v (f a) := by
  intro level size blanks rest hblanks hrest hsize
  rw [map_apply, h level size blanks rest hblanks hrest hsize]

/-! ## Single values -/

lemma Spells.look_eq {literal : List Char} {name : String} (h : Spells literal name)
    (hblanks : AllBlank blanks) :
    look size (blanks ++ (literal ++ rest)) = .ok (some '"', literal ++ rest) := by
  obtain ⟨cs, rfl, -⟩ := h
  rw [List.cons_append, look_apply hblanks rfl]

lemma look_quoted (hblanks : AllBlank blanks) (s : String) (rest : List Char) :
    look size (blanks ++ (stringChars s ++ rest)) = .ok (some '"', stringChars s ++ rest) :=
  (spells_stringChars s).look_eq hblanks

theorem reads_string (s : String) : Reads l string (.string s) s := by
  intro level size blanks rest hblanks hrest hsize
  rw [Value.chars] at hsize ⊢
  rw [string, bind_apply, look_quoted hblanks]
  exact quotedString_stringChars s hsize

theorem reads_bool (b : Bool) : Reads l boolean (.bool b) b := by
  intro level size blanks rest hblanks hrest hsize
  cases b with
  | true => rw [Value.chars, boolean, List.cons_append, bind_apply, look_apply hblanks rfl]; rfl
  | false => rw [Value.chars, boolean, List.cons_append, bind_apply, look_apply hblanks rfl]; rfl

/-- A digit is none of the characters that tell the other values apart. -/
lemma ne_of_isDigit {c d : Char} (hc : isDigit c = true) (hd : isDigit d = false) : c ≠ d := by
  rintro rfl
  exact Bool.false_ne_true (hd.symm.trans hc)

lemma exists_toDigits_append_eq (n : ℕ) (rest : List Char) :
    ∃ c cs, Nat.toDigits 10 n ++ rest = c :: cs ∧ isDigit c = true := by
  obtain ⟨c, cs, hcs⟩ := List.exists_cons_of_ne_nil (Nat.toDigits_ne_nil (n := n) (b := 10))
  exact ⟨c, cs ++ rest, by rw [hcs, List.cons_append],
    isDigit_of_mem_toDigits (n := n) (hcs ▸ .head _)⟩

lemma isBlank_of_isDigit {c : Char} (hc : isDigit c = true) : isBlank c = false := by
  refine Bool.eq_false_iff.2 fun hblank => ?_
  rcases isBlank_iff.1 hblank with rfl | rfl | rfl | rfl <;> exact ne_of_isDigit hc rfl rfl

lemma le_maxSignificand (n : UInt32) : n.toNat ≤ maxSignificand :=
  Nat.le_trans (Nat.le_of_lt n.toNat_lt) (by decide)

theorem reads_word32 (n : UInt32) : Reads l word32 (.number n.toNat) n := by
  intro level size blanks rest hblanks hrest hsize
  have hnumber : number true size (Nat.toDigits 10 n.toNat ++ rest) =
      .ok (.natural n.toNat, rest) := number_toDigits (le_maxSignificand n) hrest
  obtain ⟨c, cs, hcs, hc⟩ := exists_toDigits_append_eq n.toNat rest
  have hminus : c ≠ '-' := ne_of_isDigit hc rfl
  have hword : (Number.natural n.toNat).toWord = .ok n := by
    simp [Number.toWord, n.toNat_lt]
  rw [Value.chars, hcs, word32, bind_apply, look_apply hblanks (isBlank_of_isDigit hc)]
  rw [hcs] at hnumber
  simp only [hc, if_true, bind_apply, hnumber, hword, ofExcept_ok, pure_apply]

/-- The nesting that is left matters for lists and maps only. -/
lemma exists_untyped_eq (levels : ℕ) : ∃ nested, untyped levels = untyped.container nested := by
  cases levels with
  | zero => exact ⟨_, by rw [untyped]⟩
  | succ levels => exact ⟨_, by rw [untyped]⟩

/-- A number is kept as it was written. -/
theorem reads_untyped_number {n : ℕ} (hn : n ≤ maxSignificand) (levels : ℕ) :
    Reads l (untyped levels) (.number n) (.number (.natural n)) := by
  intro level size blanks rest hblanks hrest hsize
  obtain ⟨nested, hnested⟩ := exists_untyped_eq levels
  have hnumber : number true size (Nat.toDigits 10 n ++ rest) = .ok (.natural n, rest) :=
    number_toDigits hn hrest
  obtain ⟨c, cs, hcs, hc⟩ := exists_toDigits_append_eq n rest
  have hne : ∀ {d}, isDigit d = false → c ≠ d := fun hd => ne_of_isDigit hc hd
  obtain ⟨hnull, htrue, hfalse⟩ : c ≠ 'n' ∧ c ≠ 't' ∧ c ≠ 'f' := ⟨hne rfl, hne rfl, hne rfl⟩
  obtain ⟨hminus, hquote, hbracket, hbrace⟩ : c ≠ '-' ∧ c ≠ '"' ∧ c ≠ '[' ∧ c ≠ '{' :=
    ⟨hne rfl, hne rfl, hne rfl, hne rfl⟩
  rw [hcs] at hnumber
  rw [Value.chars, hcs, hnested, untyped.container, bind_apply,
    look_apply hblanks (isBlank_of_isDigit hc)]
  simp only [hc, if_true, bind_apply, hnumber, pure_apply]

/-- So is a string. -/
theorem reads_untyped_string (s : String) (levels : ℕ) :
    Reads l (untyped levels) (.string s) (.string s) := by
  intro level size blanks rest hblanks hrest hsize
  obtain ⟨nested, hnested⟩ := exists_untyped_eq levels
  rw [Value.chars] at hsize ⊢
  rw [hnested, untyped.container, bind_apply, look_quoted hblanks]
  simp only [bind_apply, quotedString_stringChars s hsize, pure_apply]

/-- One of the allowed names is read as what it stands for. -/
theorem reads_choice {choices : List (String × α)} {name : String}
    (hname : choices.lookup name = some a) (levels : ℕ) :
    Reads l (choice choices levels) (.string name) a := by
  intro level size blanks rest hblanks hrest hsize
  have hpick : pick choices name = .ok a := by rw [pick, hname]
  rw [Value.chars] at hsize ⊢
  rw [choice, bind_apply, look_quoted hblanks]
  change nameOneOf choices size ([] ++ (stringChars name ++ rest)) = _
  rw [nameOneOf, bind_apply, look_quoted allBlank_nil]
  simp only [bind_apply, quotedString_stringChars name hsize, hpick, ofExcept_ok, pure_apply]

/-! ## Starts of values -/

/-- A value starts with this character. -/
def StartsValue (c : Char) : Prop := c ∈ ['n', 't', 'f', '"', '[', '{'] ∨ isDigit c = true

lemma StartsValue.ne_bracket {c : Char} (h : StartsValue c) : c ≠ ']' := by
  rcases h with h | h
  · rintro rfl
    exact absurd h (by decide)
  · exact ne_of_isDigit h rfl

lemma StartsValue.isBlank_eq_false {c : Char} (h : StartsValue c) : isBlank c = false := by
  rcases h with h | h
  · simp only [List.mem_cons, List.not_mem_nil, or_false] at h
    rcases h with rfl | rfl | rfl | rfl | rfl | rfl <;> rfl
  · exact isBlank_of_isDigit h

lemma exists_chars_eq (v : Value) (level : ℕ) :
    ∃ c cs, v.chars l level = c :: cs ∧ StartsValue c ∧ (c = 'n' → v = .null) := by
  cases v with
  | null => exact ⟨_, _, rfl, .inl (by decide), fun _ => rfl⟩
  | bool b => cases b <;> exact ⟨_, _, rfl, .inl (by decide), fun hn => absurd hn (by decide)⟩
  | number n =>
    obtain ⟨c, cs, hcs, hc⟩ := exists_toDigits_append_eq n []
    exact ⟨c, cs, by rw [Value.chars, ← hcs, List.append_nil], .inr hc,
      fun hn => absurd hn (ne_of_isDigit hc rfl)⟩
  | string s => exact ⟨_, _, rfl, .inl (by decide), fun hn => absurd hn (by decide)⟩
  | array vs =>
    cases vs with
    | nil => exact ⟨_, _, rfl, .inl (by decide), fun hn => absurd hn (by decide)⟩
    | cons v vs =>
      exact ⟨_, _, by rw [Value.chars], .inl (by decide), fun hn => absurd hn (by decide)⟩
  | object ms =>
    rcases ms with _ | ⟨⟨name, v⟩, ms⟩
    · exact ⟨_, _, rfl, .inl (by decide), fun hn => absurd hn (by decide)⟩
    · exact ⟨_, _, by rw [Value.chars], .inl (by decide), fun hn => absurd hn (by decide)⟩

/-! ## Lists -/

lemma anotherItem_first (hblanks : AllBlank blanks) (v : Value) :
    anotherItem true size (blanks ++ (v.chars l level ++ rest)) =
      .ok (true, v.chars l level ++ rest) := by
  obtain ⟨c, cs, hchars, hc, -⟩ := exists_chars_eq (l := l) v level
  have hne : c ≠ ']' := hc.ne_bracket
  rw [hchars, List.cons_append, anotherItem, bind_apply, look_apply hblanks hc.isBlank_eq_false]
  simp only [if_true, pure_apply]

lemma look_comma : look size (',' :: s) = .ok (some ',', ',' :: s) := rfl

lemma anotherItem_next (hblanks : AllBlank blanks) (v : Value) :
    anotherItem false size (',' :: (blanks ++ (v.chars l level ++ rest))) =
      .ok (true, v.chars l level ++ rest) := by
  obtain ⟨c, cs, hchars, hc, -⟩ := exists_chars_eq (l := l) v level
  have hne : c ≠ ']' := hc.ne_bracket
  rw [hchars, List.cons_append, anotherItem, bind_apply, look_comma]
  change (advance >>= fun _ => look >>= _) size _ = _
  rw [bind_apply, advance]
  dsimp only
  rw [List.drop_one, List.tail_cons, bind_apply, look_apply hblanks hc.isBlank_eq_false]
  simp only [pure_apply]

lemma anotherItem_end (hblanks : AllBlank blanks) (first : Bool) :
    anotherItem first size (blanks ++ ']' :: rest) = .ok (false, ']' :: rest) := by
  rw [anotherItem, bind_apply, look_apply hblanks rfl]
  rfl

lemma items_cons {as : List α} (hnext : anotherItem first size s = .ok (true, t))
    (hitem : item size t = .ok (a, u)) (hmore : items item limit false size u = .ok (as, rest)) :
    items item (limit + 1) first size s = .ok (a :: as, rest) := by
  rw [items, bind_apply, hnext]
  simp only [if_true, bind_apply, hitem, hmore, pure_apply]

lemma items_end (hend : anotherItem first size s = .ok (false, t)) :
    items item (limit + 1) first size s = .ok ([], t) := by
  rw [items, bind_apply, hend]
  rfl

lemma delimited_moreItems (hblanks : AllBlank blanks) (vs : List Value) :
    Delimited (Value.moreItems l level vs ++ (blanks ++ ']' :: rest)) := by
  cases vs with
  | nil => exact delimited_blanks_append hblanks (.inr (.inl rfl))
  | cons v vs =>
    rw [Value.moreItems]
    exact delimited_blanks_append allBlank_nil (.inl rfl)

lemma length_le_length_moreItems (vs : List Value) :
    vs.length ≤ (Value.moreItems l level vs).length := by
  induction vs with
  | nil => exact Nat.zero_le _
  | cons v vs ih =>
    simp only [Value.moreItems, List.length_cons, List.length_append]
    omega

/-- Behind the first item of a list the others are read, each behind its comma. -/
lemma items_moreItems (hl : l.Blank) (hblanks : AllBlank blanks) {vs : List Value} {as : List α}
    (h : List.Forall₂ (Reads l item) vs as) (hlimit : vs.length < limit)
    (hsize : (Value.moreItems l level vs).length ≤ size) :
    items item limit false size (Value.moreItems l level vs ++ (blanks ++ ']' :: rest)) =
      .ok (as, ']' :: rest) := by
  induction h generalizing limit with
  | nil =>
    obtain ⟨limit, rfl⟩ := Nat.exists_eq_succ_of_ne_zero (Nat.ne_of_gt hlimit)
    exact items_end (anotherItem_end hblanks false)
  | @cons v a vs as hv _ ih =>
    obtain ⟨limit, rfl⟩ := Nat.exists_eq_succ_of_ne_zero (Nat.ne_of_gt (Nat.zero_lt_of_lt hlimit))
    simp only [Value.moreItems, List.length_cons, List.length_append] at hsize hlimit
    have hmore := ih (Nat.succ_lt_succ_iff.1 hlimit) (by omega)
    rw [Value.moreItems, List.cons_append, List.append_assoc, List.append_assoc]
    refine items_cons (anotherItem_next (hl.lineBreak level) v) ?_ hmore
    exact hv level size [] _ allBlank_nil (delimited_moreItems hblanks vs) (by omega)

lemma listOf_apply {item : ℕ → Reader α} {levels : ℕ} {as : List α} (hblanks : AllBlank blanks)
    (hitems : items (item levels) (size + 1) true size s = .ok (as, ']' :: rest)) :
    listOf item (levels + 1) size (blanks ++ '[' :: s) = .ok (as, rest) := by
  have hclose : closeList size (']' :: rest) = .ok ((), rest) := rfl
  rw [listOf, bind_apply, look_apply hblanks rfl]
  simp only [descend, advance, bind_apply, List.drop_one, List.tail_cons, turns, hitems, hclose,
    pure_apply]

/-- A list is read if its items are. -/
theorem reads_list (hl : l.Blank) {item : ℕ → Reader α} {levels : ℕ} {vs : List Value}
    {as : List α} (h : List.Forall₂ (Reads l (item levels)) vs as) :
    Reads l (listOf item (levels + 1)) (.array vs) as := by
  intro level size blanks rest hblanks hrest hsize
  cases h with
  | nil => exact listOf_apply hblanks (items_end (anotherItem_end allBlank_nil true))
  | @cons v a vs as hv hvs =>
    rw [Value.chars] at hsize ⊢
    simp only [List.length_cons, List.length_append] at hsize
    have hcount : vs.length ≤ (Value.moreItems l (level + 1) vs).length :=
      length_le_length_moreItems vs
    simp only [List.cons_append, List.append_assoc, List.nil_append]
    refine listOf_apply hblanks (items_cons (anotherItem_first (hl.lineBreak _) v)
      (hv (level + 1) size [] _ allBlank_nil ?_ (by omega)) ?_)
    · exact delimited_moreItems (hl.lineBreak level) vs
    · exact items_moreItems hl (hl.lineBreak level) hvs (by omega) (by omega)

lemma reads_ofList (hl : l.Blank) {item : ℕ → Reader α} {levels : ℕ} {f : α → Value}
    (h : ∀ a, Reads l (item levels) (f a) a) (as : List α) :
    Reads l (listOf item (levels + 1)) (.ofList f as) as :=
  reads_list hl (List.forall₂_map_left_iff.2 (List.forall₂_same.2 fun a _ => h a))

/-! ## Members of objects -/

lemma Spells.anotherName_first {literal : List Char} {name : String} (h : Spells literal name)
    (hblanks : AllBlank blanks) (hsize : literal.length ≤ size) :
    anotherName true size (blanks ++ (literal ++ rest)) = .ok (some name, rest) := by
  rw [anotherName, bind_apply, h.look_eq hblanks]
  change (some <$> quotedString) size _ = _
  rw [map_apply, h.quotedString_eq hsize]

/-- Blanks may stand on both sides of the comma. -/
lemma Spells.anotherName_next {literal before : List Char} {name : String}
    (h : Spells literal name) (hbefore : AllBlank before) (hblanks : AllBlank blanks)
    (hsize : literal.length ≤ size) :
    anotherName false size (before ++ ',' :: (blanks ++ (literal ++ rest))) =
      .ok (some name, rest) := by
  rw [anotherName, bind_apply, look_apply hbefore rfl]
  change (advance >>= fun _ => look >>= _) size _ = _
  rw [bind_apply, advance]
  dsimp only
  rw [List.drop_one, List.tail_cons, bind_apply, h.look_eq hblanks]
  change (some <$> quotedString) size _ = _
  rw [map_apply, h.quotedString_eq hsize]

lemma anotherName_next (hblanks : AllBlank blanks) (name : String)
    (hsize : (stringChars name).length ≤ size) :
    anotherName false size (',' :: (blanks ++ (stringChars name ++ rest))) =
      .ok (some name, rest) :=
  (spells_stringChars name).anotherName_next allBlank_nil hblanks hsize

lemma anotherName_end (hblanks : AllBlank blanks) (first : Bool) :
    anotherName first size (blanks ++ '}' :: rest) = .ok (none, '}' :: rest) := by
  rw [anotherName, bind_apply, look_apply hblanks rfl]
  rfl

lemma colon_apply : colon size (':' :: s) = .ok ((), s) := rfl

/-- Behind a name its value is read. -/
lemma colon_bind (hl : l.Blank) (h : Reads l r v a) (hrest : Delimited rest)
    (hsize : (v.chars l level).length ≤ size) (f : α → Reader β) :
    (colon >>= fun _ => r >>= f) size (l.colon ++ (v.chars l level ++ rest)) = f a size rest := by
  obtain ⟨blanks, hcolon, hblanks⟩ := hl.colon
  rw [hcolon, List.cons_append, bind_apply, colon_apply]
  dsimp only
  rw [bind_apply, h level size blanks rest hblanks hrest hsize]

lemma delimited_moreMembers (hblanks : AllBlank blanks) (ms : List (String × Value)) :
    Delimited (Value.moreMembers l level ms ++ (blanks ++ '}' :: rest)) := by
  cases ms with
  | nil => exact delimited_blanks_append hblanks (.inr (.inr rfl))
  | cons m ms =>
    rw [Value.moreMembers]
    exact delimited_blanks_append allBlank_nil (.inl rfl)

lemma length_le_length_moreMembers (ms : List (String × Value)) :
    ms.length ≤ (Value.moreMembers l level ms).length := by
  induction ms with
  | nil => exact Nat.zero_le _
  | cons m ms ih =>
    simp only [Value.moreMembers, List.length_cons, List.length_append]
    omega

/-! ## Records -/

/-- The members fill the fields of a record one after another, each a field that was not filled
before, and take one draft to the other. -/
inductive Record.Fills {Draft α : Type} (l : Spacing) (r : Record Draft α) (levels : ℕ) :
    Draft → List (String × Value) → Draft → Prop
  | nil (d : Draft) : Fills l r levels d [] d
  | cons {d d' d'' : Draft} {name : String} {v : Value} {ms : List (String × Value)}
      (slot : Slot Draft) (hslot : r.slots.find? (·.name == name) = some slot)
      (hfree : slot.filled d = false) (hfill : Reads l (slot.fill levels d) v d')
      (hrest : Fills l r levels d' ms d'') : Fills l r levels d ((name, v) :: ms) d''

namespace Record

variable {Draft : Type} {r : Record Draft α} {levels : ℕ} {d d' d'' : Draft} {name : String}
  {slot : Slot Draft} {ms : List (String × Value)}

lemma named_cons (hl : l.Blank)
    (hname : anotherName first size s = .ok (some name, l.colon ++ (v.chars l level ++ t)))
    (hslot : r.slots.find? (·.name == name) = some slot) (hfree : slot.filled d = false)
    (hfill : Reads l (slot.fill levels d) v d') (ht : Delimited t)
    (hsize : (v.chars l level).length ≤ size) :
    r.named levels (limit + 1) first d size s = r.named levels limit false d' size t := by
  rw [named, bind_apply, hname]
  dsimp only
  rw [hslot]
  simp only [hfree, Bool.false_eq_true, if_false]
  exact colon_bind hl hfill ht hsize _

lemma named_end (hend : anotherName first size s = .ok (none, t)) :
    r.named levels (limit + 1) first d size s = .ok (d, t) := by
  rw [named, bind_apply, hend]
  rfl

/-- Behind the first member of an object the others are read, each behind its comma. -/
lemma named_moreMembers (hl : l.Blank) (hblanks : AllBlank blanks)
    (h : r.Fills l levels d ms d') (hlimit : ms.length < limit)
    (hsize : (Value.moreMembers l level ms).length ≤ size) :
    r.named levels limit false d size (Value.moreMembers l level ms ++ (blanks ++ '}' :: rest)) =
      .ok (d', '}' :: rest) := by
  induction h generalizing limit with
  | nil d =>
    obtain ⟨limit, rfl⟩ := Nat.exists_eq_succ_of_ne_zero (Nat.ne_of_gt hlimit)
    exact named_end (anotherName_end hblanks false)
  | @cons d d' d'' name v ms slot hslot hfree hfill _ ih =>
    obtain ⟨limit, rfl⟩ := Nat.exists_eq_succ_of_ne_zero (Nat.ne_of_gt (Nat.zero_lt_of_lt hlimit))
    simp only [Value.moreMembers, List.length_cons, List.length_append] at hsize hlimit
    simp only [Value.moreMembers, List.cons_append, List.append_assoc]
    rw [named_cons hl (anotherName_next (hl.lineBreak level) name (by omega)) hslot hfree hfill
      (delimited_moreMembers hblanks ms) (by omega)]
    exact ih (Nat.succ_lt_succ_iff.1 hlimit) (by omega)

lemma read_apply (hblanks : AllBlank blanks) (hfinish : r.finish d = .ok a)
    (hnamed : r.named levels (size + 1) true r.blank size s = .ok (d, '}' :: rest)) :
    r.read (levels + 1) size (blanks ++ '{' :: s) = .ok (a, rest) := by
  have hclose : closeObject size ('}' :: rest) = .ok ((), rest) := rfl
  rw [read, bind_apply, look_apply hblanks rfl]
  simp only [descend, advance, bind_apply, List.drop_one, List.tail_cons, turns, hnamed, hfinish,
    ofExcept_ok, hclose, pure_apply]

/-- A record is read from an object if the members fill its fields and the record can be made of
them. -/
theorem reads_object (hl : l.Blank) (h : r.Fills l levels r.blank ms d)
    (hfinish : r.finish d = .ok a) : Reads l (r.read (levels + 1)) (.object ms) a := by
  intro level size blanks rest hblanks hrest hsize
  generalize hblank : r.blank = d' at h
  cases h with
  | nil =>
    subst hblank
    exact read_apply hblanks hfinish (named_end (anotherName_end allBlank_nil true))
  | @cons _ d'' _ name v ms slot hslot hfree hfill hmore =>
    subst hblank
    rw [Value.chars] at hsize ⊢
    simp only [List.length_cons, List.length_append] at hsize
    have hcount : ms.length ≤ (Value.moreMembers l (level + 1) ms).length :=
      length_le_length_moreMembers ms
    simp only [List.cons_append, List.append_assoc, List.nil_append]
    refine read_apply hblanks hfinish ?_
    rw [named_cons hl
      ((spells_stringChars name).anotherName_first (hl.lineBreak (level + 1)) (by omega)) hslot
      hfree hfill (delimited_moreMembers (hl.lineBreak level) ms) (by omega)]
    exact named_moreMembers hl (hl.lineBreak level) hmore (by omega) (by omega)

end Record

/-! ## Values that may be missing, and whole texts -/

/-- Only null starts with its first letter, so what is there is not taken for what is missing. -/
theorem reads_optional (hv : v ≠ .null) (h : Reads l r v a) :
    Reads l (optional r) v (some a) := by
  intro level size blanks rest hblanks hrest hsize
  have hread := h level size [] rest allBlank_nil hrest hsize
  obtain ⟨c, cs, hchars, hc, hnull⟩ := exists_chars_eq (l := l) v level
  have hne : some c = some 'n' → False := fun hn => hv (hnull (Option.some.inj hn))
  rw [hchars, List.nil_append, List.cons_append] at hread
  rw [hchars, List.cons_append, optional, bind_apply, look_apply hblanks hc.isBlank_eq_false]
  simp only [map_apply, hread]

/-- What is read from the indented text of a value. -/
theorem parse_pretty (h : Reads .indented r v a) : parse r v.pretty = .ok a := by
  have hread := h 0 (v.chars .indented 0).length [] [] allBlank_nil delimited_nil (Nat.le_refl _)
  rw [List.nil_append, List.append_nil] at hread
  simp only [parse, Value.pretty, String.toList_ofList, hread]
  rfl

end Blueprint.Json
