import Blueprint.Json.Reader
import Blueprint.Json.Value
import Mathlib.Data.Nat.Init
import Mathlib.Tactic.IntervalCases
import Mathlib.Tactic.SplitIfs

/-!
# Reading strings and numbers that were written

The text that is written for a string is read as the same string, whatever characters it has: a
character is either written as it is, which only those are that a reader leaves alone, or by an
escape that stands for it. The digits of a natural number are read as that number, as long as it
fits into a significand and nothing follows with which the number would go on.
-/
namespace Blueprint.Json

/-! ## Characters -/

/-- The text holds nothing but blanks. -/
def AllBlank (s : List Char) : Prop := ∀ c ∈ s, isBlank c = true

/-- The text does not start with a character that would carry a number on. -/
def Delimited (s : List Char) : Prop :=
  ∀ c ∈ s.head?, isDigit c = false ∧ c ≠ '.' ∧ c ≠ 'e' ∧ c ≠ 'E'

variable {blanks cs rest : List Char} {c : Char} {size turns : ℕ}

lemma delimited_nil : Delimited [] := fun _ hc => by simp at hc

lemma isBlank_iff : isBlank c = true ↔ c = ' ' ∨ c = '\n' ∨ c = '\t' ∨ c = '\r' := by
  simp [isBlank, or_assoc]

/-- Blanks, and what closes or separates values, end a number. -/
lemma delimited_blanks_append (hblanks : AllBlank blanks)
    (hc : c = ',' ∨ c = ']' ∨ c = '}') :
    Delimited (blanks ++ c :: rest) := by
  intro d hd
  cases blanks with
  | nil =>
    obtain rfl : c = d := by simpa using hd
    rcases hc with rfl | rfl | rfl <;> decide
  | cons b bs =>
    obtain rfl : b = d := by simpa using hd
    rcases isBlank_iff.1 (hblanks b (.head _)) with rfl | rfl | rfl | rfl <;> decide

lemma skipBlanks_append (hblanks : AllBlank blanks) (s : List Char) :
    skipBlanks (blanks ++ s) = skipBlanks s :=
  List.dropWhile_append_of_pos hblanks

lemma look_apply (hblanks : AllBlank blanks) (hc : isBlank c = false) :
    look size (blanks ++ c :: cs) = .ok (some c, c :: cs) := by
  have hskip : skipBlanks (blanks ++ c :: cs) = c :: cs := by
    rw [skipBlanks_append hblanks, skipBlanks, List.dropWhile_cons, hc]
    rfl
  simp only [look, hskip, List.head?_cons]

/-! ## Strings -/

lemma hexValue_hexDigit {n : ℕ} (hn : n < 16) : hexValue (hexDigit n) = some n := by
  interval_cases n <;> rfl

/-- A control character that has no letter is written by its number. -/
lemma unicodeEscape_hexDigits (hc : c.toNat < 32) :
    unicodeEscape ('0' :: '0' :: hexDigit (c.toNat / 16) :: hexDigit (c.toNat % 16) :: rest) =
      .ok (c, rest) := by
  have hzero : hexValue '0' = some 0 := rfl
  have hhigh := hexValue_hexDigit (n := c.toNat / 16) (by omega)
  have hlow := hexValue_hexDigit (n := c.toNat % 16) (by omega)
  have hquad : hexQuad
      ('0' :: '0' :: hexDigit (c.toNat / 16) :: hexDigit (c.toNat % 16) :: rest) =
        .ok (c.toNat, rest) := by
    simp only [hexQuad, hzero, hhigh, hlow, Nat.zero_mul, Nat.zero_add, Nat.div_add_mod']
  rw [unicodeEscape, hquad]
  simp only [if_neg (show ¬ (0xDC00 ≤ c.toNat ∧ c.toNat ≤ 0xDFFF) by omega),
    if_pos (show c.toNat < 0xD800 ∨ 0xDBFF < c.toNat by omega), Char.ofNat_toNat]

/-- What is written for a character is read as that character, in one turn. -/
lemma stringTail_escapeChar {ds s : List Char} (c : Char)
    (h : stringTail turns s = .ok (ds, rest)) :
    stringTail (turns + 1) (escapeChar c ++ s) = .ok (c :: ds, rest) := by
  have hshort : ∀ d, shortEscape d = some c → d ≠ 'u' →
      stringTail (turns + 1) ('\\' :: d :: s) = .ok (c :: ds, rest) := by
    intro d hd hu
    have hescape : escape (d :: s) = .ok (c, s) := by rw [escape, if_neg hu, hd]
    rw [stringTail, if_neg (by decide), if_pos rfl, hescape]
    simp only [h]
  unfold escapeChar
  split_ifs with hquote hslash hb hf hn hr ht hcontrol
  · subst hquote; exact hshort '"' rfl (by decide)
  · subst hslash; exact hshort '\\' rfl (by decide)
  · subst hb; exact hshort 'b' rfl (by decide)
  · subst hf; exact hshort 'f' rfl (by decide)
  · subst hn; exact hshort 'n' rfl (by decide)
  · subst hr; exact hshort 'r' rfl (by decide)
  · subst ht; exact hshort 't' rfl (by decide)
  · simp only [List.cons_append, List.nil_append]
    rw [stringTail, if_neg (by decide), if_pos rfl, escape, if_pos rfl,
      unicodeEscape_hexDigits hcontrol]
    simp only [h]
  · rw [List.singleton_append, stringTail, if_neg hquote, if_neg hslash, if_neg hcontrol]
    simp only [h]

lemma stringTail_flatMap (cs : List Char) (hturns : cs.length < turns) :
    stringTail turns (cs.flatMap escapeChar ++ '"' :: rest) = .ok (cs, rest) := by
  induction cs generalizing turns with
  | nil =>
    obtain ⟨turns, rfl⟩ := Nat.exists_eq_succ_of_ne_zero (Nat.ne_of_gt hturns)
    rfl
  | cons c cs ih =>
    obtain ⟨turns, rfl⟩ := Nat.exists_eq_succ_of_ne_zero (Nat.ne_of_gt (Nat.zero_lt_of_lt hturns))
    rw [List.flatMap_cons, List.append_assoc]
    exact stringTail_escapeChar c (ih (Nat.succ_lt_succ_iff.1 hturns))

lemma length_le_length_flatMap (cs : List Char) :
    cs.length ≤ (cs.flatMap escapeChar).length := by
  induction cs with
  | nil => exact Nat.le_refl _
  | cons c cs ih =>
    have hpos : 1 ≤ (escapeChar c).length := by
      unfold escapeChar
      split_ifs <;> simp
    rw [List.flatMap_cons, List.length_append, List.length_cons]
    omega

/-- The characters are taken off a text as this, whatever follows them. -/
def Takes (read : List Char → Except Fault (α × List Char)) (cs : List Char) (a : α) : Prop :=
  ∀ rest, read (cs ++ rest) = .ok (a, rest)

/-- The literal, from one quote to the other, spells the string, with or without escapes. -/
def Spells (literal : List Char) (s : String) : Prop :=
  ∃ cs, literal = '"' :: cs ∧ ∀ turns, cs.length ≤ turns → Takes (stringTail turns) cs s.toList

lemma spells_stringChars (s : String) : Spells (stringChars s) s := by
  refine ⟨_, rfl, fun turns hturns rest => ?_⟩
  rw [List.append_assoc, List.singleton_append]
  refine stringTail_flatMap _ ?_
  have hlength := length_le_length_flatMap s.toList
  simp only [List.length_append, List.length_singleton] at hturns
  omega

lemma Spells.quotedString_eq {literal : List Char} {name : String} (h : Spells literal name)
    (hsize : literal.length ≤ size) :
    quotedString size (literal ++ rest) = .ok (name, rest) := by
  obtain ⟨cs, rfl, hcs⟩ := h
  rw [List.length_cons] at hsize
  have htail := hcs (size + 1) (by omega) rest
  simp only [quotedString, List.cons_append, List.drop_succ_cons, List.drop_zero, htail,
    String.ofList_toList]

/-- A string is read as it was written. -/
theorem quotedString_stringChars (s : String) (hsize : (stringChars s).length ≤ size) :
    quotedString size (stringChars s ++ rest) = .ok (s, rest) :=
  (spells_stringChars s).quotedString_eq hsize

/-! ## Numbers -/

/-- The number that digits stand for, behind those that stand for `n`. -/
def significandOf (n : ℕ) (ds : List Char) : ℕ := ds.foldl (fun n d => n * 10 + digitValue d) n

lemma le_significandOf (n : ℕ) (ds : List Char) : n ≤ significandOf n ds := by
  induction ds generalizing n with
  | nil => exact Nat.le_refl _
  | cons d ds ih =>
    have hnext := ih (n * 10 + digitValue d)
    simp only [significandOf, List.foldl_cons] at hnext ⊢
    omega

/-- No digit is lost if the number fits. -/
lemma takeInteger_eq (ds : List Char) (n : ℕ) (hfits : significandOf n ds ≤ maxSignificand) :
    takeInteger ds n = (significandOf n ds, 0) := by
  induction ds generalizing n with
  | nil => rfl
  | cons d ds ih =>
    have hnext := Nat.le_trans (le_significandOf _ ds) hfits
    simp only [takeInteger, if_neg (Nat.not_lt.2 hnext)]
    exact ih _ hfits

lemma isDigit_digitChar {n : ℕ} (hn : n < 10) : isDigit n.digitChar = true := by
  interval_cases n <;> rfl

lemma digitValue_digitChar {n : ℕ} (hn : n < 10) : digitValue n.digitChar = n := by
  interval_cases n <;> rfl

lemma isDigit_of_mem_toDigits {n : ℕ} (hc : c ∈ Nat.toDigits 10 n) : isDigit c = true := by
  induction n using Nat.strong_induction_on with
  | _ n ih =>
    by_cases hn : n < 10
    · rw [Nat.toDigits_of_lt_base hn, List.mem_singleton] at hc
      exact hc ▸ isDigit_digitChar hn
    · rw [Nat.toDigits_of_base_le (by decide) (Nat.le_of_not_lt hn), List.mem_append,
        List.mem_singleton] at hc
      rcases hc with hc | rfl
      · exact ih (n / 10) (by omega) hc
      · exact isDigit_digitChar (Nat.mod_lt n (by decide))

lemma significandOf_toDigits (n : ℕ) : significandOf 0 (Nat.toDigits 10 n) = n := by
  induction n using Nat.strong_induction_on with
  | _ n ih =>
    by_cases hn : n < 10
    · rw [Nat.toDigits_of_lt_base hn]
      simp [significandOf, digitValue_digitChar hn]
    · have hlast := digitValue_digitChar (Nat.mod_lt n (show 0 < 10 by decide))
      have hfirst := ih (n / 10) (by omega)
      rw [significandOf] at hfirst
      rw [Nat.toDigits_of_base_le (by decide) (Nat.le_of_not_lt hn), significandOf,
        List.foldl_append, hfirst, List.foldl_cons, List.foldl_nil, hlast]
      omega

/-- Only zero itself starts with the digit zero. -/
lemma toDigits_eq_cons_zero {n : ℕ} {ds : List Char} (h : Nat.toDigits 10 n = '0' :: ds) :
    ds = [] := by
  induction n using Nat.strong_induction_on generalizing ds with
  | _ n ih =>
    by_cases hn : n < 10
    · rw [Nat.toDigits_of_lt_base hn] at h
      exact (List.cons.inj h).2.symm
    · rw [Nat.toDigits_of_base_le (by decide) (Nat.le_of_not_lt hn)] at h
      obtain ⟨d, es, hes⟩ :=
        List.exists_cons_of_ne_nil (Nat.toDigits_ne_nil (n := n / 10) (b := 10))
      rw [hes, List.cons_append] at h
      obtain ⟨rfl, -⟩ := List.cons.inj h
      obtain rfl := ih (n / 10) (by omega) hes
      -- a single digit zero stands for zero, but a tenth of the number is not zero
      have hvalue := significandOf_toDigits (n / 10)
      rw [hes] at hvalue
      have hzero : significandOf 0 ['0'] = 0 := rfl
      omega

/-- The digits of a number are taken off what does not carry it on. -/
lemma span_toDigits (n : ℕ) (hrest : Delimited rest) :
    (Nat.toDigits 10 n ++ rest).takeWhile isDigit = Nat.toDigits 10 n ∧
      (Nat.toDigits 10 n ++ rest).dropWhile isDigit = rest := by
  have hdigits : ∀ c ∈ Nat.toDigits 10 n, isDigit c = true := fun c => isDigit_of_mem_toDigits
  have hspan : rest.takeWhile isDigit = [] ∧ rest.dropWhile isDigit = rest := by
    cases rest with
    | nil => exact ⟨rfl, rfl⟩
    | cons e es => simp [(hrest e (by simp)).1]
  rw [List.takeWhile_append_of_pos hdigits, List.dropWhile_append_of_pos hdigits, hspan.1, hspan.2,
    List.append_nil]
  exact ⟨rfl, rfl⟩

/-- A natural number is read as it was written, if it fits and nothing carries it on. -/
theorem number_toDigits {n : ℕ} (hfits : n ≤ maxSignificand) (hrest : Delimited rest) :
    number true size (Nat.toDigits 10 n ++ rest) = .ok (.natural n, rest) := by
  obtain ⟨d, ds, hds⟩ := List.exists_cons_of_ne_nil (Nat.toDigits_ne_nil (n := n) (b := 10))
  have hdigits : ∀ c ∈ d :: ds, isDigit c = true := fun c hc => isDigit_of_mem_toDigits (hds ▸ hc)
  obtain ⟨htake, hdrop⟩ := span_toDigits n hrest
  rw [hds, List.cons_append] at htake hdrop
  have hlead : ¬ (d = '0' ∧ (ds ++ rest).head?.any isDigit = true) := by
    rintro ⟨rfl, hnext⟩
    rw [toDigits_eq_cons_zero hds, List.nil_append, Option.any_eq_true] at hnext
    obtain ⟨c, hc, hdigit⟩ := hnext
    exact Bool.false_ne_true ((hrest c hc).1.symm.trans hdigit)
  have htaken : takeInteger (d :: ds) 0 = (n, 0) := by
    have hvalue := significandOf_toDigits n
    rw [hds] at hvalue
    rw [takeInteger_eq _ _ (hvalue ▸ hfits), hvalue]
  have hfirst : isDigit d = true := hdigits d (.head _)
  rw [hds, List.cons_append, number]
  simp only [hfirst, hlead, htake, hdrop, htaken, Bool.not_true, Bool.false_eq_true, if_false,
    if_true, wholeNumber]
  split
  · exact absurd rfl (hrest '.' rfl).2.1
  · exact absurd rfl (hrest 'e' rfl).2.2.1
  · exact absurd rfl (hrest 'E' rfl).2.2.2
  · rfl

end Blueprint.Json
