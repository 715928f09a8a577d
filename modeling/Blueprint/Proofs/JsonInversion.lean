import Blueprint.Proofs.JsonReading
import Mathlib.Data.List.TakeWhile

/-!
# What a reader has taken

From what a reader has read one sees what stood in the text. A reader that consists of steps has
succeeded exactly if each step has, and the text is put together from what the steps have taken,
with blanks between them. A string may be spelt in more ways than one; what was taken for it would
be taken for it before any other text.
-/
namespace Blueprint

namespace Json

open Reader

variable {α β : Type} {r : Reader α} {f : α → Reader β} {a : α} {b : β} {size turns : ℕ}
  {s t rest blanks : List Char} {c : Char}

/-! ## What a reader has taken -/

lemma bind_eq_ok_iff : (r >>= f) size s = .ok (b, rest) ↔
    ∃ a t, r size s = .ok (a, t) ∧ f a size t = .ok (b, rest) := by
  rw [bind_apply]
  cases h : r size s with
  | error fault => simp
  | ok read =>
    obtain ⟨a, t⟩ := read
    simp

lemma pure_eq_ok_iff {a' : α} :
    (pure a : Reader α) size s = .ok (a', rest) ↔ a = a' ∧ s = rest := by
  simp

lemma map_eq_ok_iff {g : α → β} :
    (g <$> r) size s = .ok (b, rest) ↔ ∃ a, r size s = .ok (a, rest) ∧ g a = b := by
  rw [map_apply]
  cases h : r size s with
  | error fault => simp
  | ok read =>
    obtain ⟨a, t⟩ := read
    simp only [Except.ok.injEq, Prod.mk.injEq]
    constructor
    · rintro ⟨rfl, rfl⟩
      exact ⟨a, ⟨rfl, rfl⟩, rfl⟩
    · rintro ⟨-, ⟨rfl, rfl⟩, rfl⟩
      exact ⟨rfl, rfl⟩

lemma some_map_ne_none : (some <$> r) size s ≠ .ok (none, rest) := by
  intro h
  obtain ⟨a, -, hnone⟩ := map_eq_ok_iff.1 h
  exact Option.some_ne_none a hnone

lemma fail_ne_ok {fault : Fault} : (fail fault : Reader α) size s ≠ .ok (a, rest) := by
  simp [fail]

lemma bind_of_ok (h : r size s = .ok (a, t)) : (r >>= f) size s = f a size t := by
  rw [bind_apply, h]

lemma bind_of_error {fault : Fault} (h : r size s = .error fault) :
    (r >>= f) size s = .error fault := by
  rw [bind_apply, h]

lemma skipBlanks_eq_nil_iff : skipBlanks s = [] ↔ AllBlank s := List.dropWhile_eq_nil_iff

/-- A text is its blanks and what one looks at behind them. -/
lemma exists_blanks_append (s : List Char) :
    ∃ blanks, AllBlank blanks ∧ s = blanks ++ skipBlanks s :=
  ⟨s.takeWhile isBlank, fun _ hc => List.mem_takeWhile_imp hc,
    List.takeWhile_append_dropWhile.symm⟩

/-- Nothing is read where something else was expected. -/
lemma wrongType_ne_ok {expected : String} {a : α} : wrongType expected size s ≠ .ok (a, rest) := by
  intro h
  obtain ⟨found, t, -, hfail⟩ := bind_eq_ok_iff.1 h
  exact absurd hfail fail_ne_ok

lemma word_eq_ok_iff {cs : List Char} : word cs size s = .ok ((), rest) ↔ s = cs ++ rest := by
  induction cs generalizing s with
  | nil => simp [word]
  | cons c cs ih =>
    cases s with
    | nil => simp [word]
    | cons d s =>
      by_cases h : c = d
      · simp [word, h, ih]
      · simp [word, h, Ne.symm h]

theorem parse_eq_ok_iff {text : String} {a : α} : parse r text = .ok a ↔
    ∃ rest, r text.toList.length text.toList = .ok (a, rest) ∧ AllBlank rest := by
  simp only [parse]
  cases h : r text.toList.length text.toList with
  | error fault => simp
  | ok read =>
    obtain ⟨a', rest⟩ := read
    by_cases hblank : AllBlank rest
    · simp [skipBlanks_eq_nil_iff.2 hblank, hblank]
    · simp [mt skipBlanks_eq_nil_iff.1 hblank, hblank]

/-! ## Spellings of a string -/

lemma exists_takes_hexQuad {n : ℕ} (h : hexQuad s = .ok (n, rest)) :
    ∃ cs, s = cs ++ rest ∧ Takes hexQuad cs n := by
  unfold hexQuad at h
  split at h
  · next a b c d rest' =>
    split at h
    · next ha hb hc hd =>
      obtain ⟨rfl, rfl⟩ := Prod.mk.inj (Except.ok.inj h)
      exact ⟨[a, b, c, d], rfl, fun rest => by simp [hexQuad, ha, hb, hc, hd]⟩
    · simp at h
  · simp at h

lemma exists_takes_unicodeEscape (h : unicodeEscape s = .ok (c, rest)) :
    ∃ cs, s = cs ++ rest ∧ Takes unicodeEscape cs c := by
  unfold unicodeEscape at h
  cases hhigh : hexQuad s with
  | error fault => simp [hhigh] at h
  | ok read =>
    obtain ⟨high, t⟩ := read
    obtain ⟨cs, rfl, hcs⟩ := exists_takes_hexQuad hhigh
    simp only [hhigh] at h
    split_ifs at h with hlone hsingle
    · obtain ⟨rfl, rfl⟩ := Prod.mk.inj (Except.ok.inj h)
      exact ⟨cs, rfl, fun rest => by simp [unicodeEscape, hcs rest, hlone, hsingle]⟩
    · split at h
      · simp at h
      · simp at h
      · next t' =>
        cases hlow : hexQuad t' with
        | error fault => simp [hlow] at h
        | ok read =>
          obtain ⟨low, t⟩ := read
          obtain ⟨cs', rfl, hcs'⟩ := exists_takes_hexQuad hlow
          simp only [hlow] at h
          split_ifs at h with hpair
          obtain ⟨rfl, rfl⟩ := Prod.mk.inj (Except.ok.inj h)
          refine ⟨cs ++ '\\' :: 'u' :: cs', by simp, fun rest => ?_⟩
          rw [List.append_assoc, List.cons_append, List.cons_append, unicodeEscape, hcs]
          simp [hlone, hsingle, hcs' rest, hpair]
      · simp at h

lemma exists_takes_escape (h : escape s = .ok (c, rest)) :
    ∃ cs, s = cs ++ rest ∧ Takes escape cs c := by
  cases s with
  | nil => simp [escape] at h
  | cons d s =>
    rw [escape] at h
    split_ifs at h with hu
    · obtain ⟨cs, rfl, hcs⟩ := exists_takes_unicodeEscape h
      exact ⟨d :: cs, rfl, fun rest => by rw [List.cons_append, escape, if_pos hu, hcs]⟩
    · cases hshort : shortEscape d with
      | none => simp [hshort] at h
      | some e =>
        obtain ⟨rfl, rfl⟩ : e = c ∧ s = rest := by simpa [hshort] using h
        exact ⟨[d], rfl, fun rest => by simp [escape, hu, hshort]⟩

/-- What has been taken for the rest of a string would be so before any other text, and in any
number of turns that is enough. -/
lemma exists_takes_stringTail {ds : List Char} (h : stringTail turns s = .ok (ds, rest)) :
    ∃ cs, s = cs ++ rest ∧ ∀ turns, cs.length ≤ turns → Takes (stringTail turns) cs ds := by
  induction turns generalizing s ds with
  | zero => simp [stringTail] at h
  | succ turns ih =>
    cases s with
    | nil => simp [stringTail] at h
    | cons c s =>
      rw [stringTail] at h
      split_ifs at h with hquote hslash hcontrol
      · obtain ⟨rfl, rfl⟩ := Prod.mk.inj (Except.ok.inj h)
        refine ⟨[c], rfl, fun turns hturns rest => ?_⟩
        obtain ⟨turns, rfl⟩ := Nat.exists_eq_succ_of_ne_zero (Nat.ne_of_gt hturns)
        rw [List.singleton_append, stringTail, if_pos hquote]
      · cases hescape : escape s with
        | error fault => simp [hescape] at h
        | ok read =>
          obtain ⟨d, t⟩ := read
          obtain ⟨cs, rfl, hcs⟩ := exists_takes_escape hescape
          simp only [hescape] at h
          cases htail : stringTail turns t with
          | error fault => simp [htail] at h
          | ok read =>
            obtain ⟨ds', t'⟩ := read
            obtain ⟨rfl, rfl⟩ : d :: ds' = ds ∧ t' = rest := by simpa [htail] using h
            obtain ⟨cs', rfl, hcs'⟩ := ih htail
            refine ⟨c :: (cs ++ cs'), by simp, fun turns hturns rest => ?_⟩
            obtain ⟨turns, rfl⟩ :=
              Nat.exists_eq_succ_of_ne_zero (Nat.ne_of_gt (Nat.zero_lt_of_lt hturns))
            simp only [List.length_cons, List.length_append] at hturns
            rw [List.cons_append, List.append_assoc, stringTail, if_neg hquote, if_pos hslash, hcs]
            simp only [hcs' turns (by omega) rest]
      · cases htail : stringTail turns s with
        | error fault => simp [htail] at h
        | ok read =>
          obtain ⟨ds', t'⟩ := read
          obtain ⟨rfl, rfl⟩ : c :: ds' = ds ∧ t' = rest := by simpa [htail] using h
          obtain ⟨cs', rfl, hcs'⟩ := ih htail
          refine ⟨c :: cs', by simp, fun turns hturns rest => ?_⟩
          obtain ⟨turns, rfl⟩ :=
            Nat.exists_eq_succ_of_ne_zero (Nat.ne_of_gt (Nat.zero_lt_of_lt hturns))
          rw [List.length_cons] at hturns
          rw [List.cons_append, stringTail, if_neg hquote, if_neg hslash, if_neg hcontrol]
          simp only [hcs' turns (by omega) rest]

lemma exists_spells_of_quotedString {name : String}
    (h : quotedString size ('"' :: s) = .ok (name, rest)) :
    ∃ literal, '"' :: s = literal ++ rest ∧ Spells literal name := by
  simp only [quotedString, List.drop_succ_cons, List.drop_zero] at h
  cases htail : stringTail (size + 1) s with
  | error fault => simp [htail] at h
  | ok read =>
    obtain ⟨ds, t⟩ := read
    obtain ⟨rfl, rfl⟩ : String.ofList ds = name ∧ t = rest := by simpa [htail] using h
    obtain ⟨cs, rfl, hcs⟩ := exists_takes_stringTail htail
    exact ⟨'"' :: cs, rfl, cs, rfl, by simpa using hcs⟩

/-! ## Parts of objects and lists -/

/-- How a truth value is written. -/
def truthChars : Bool → List Char
  | true => ['t', 'r', 'u', 'e']
  | false => ['f', 'a', 'l', 's', 'e']

/-- A text of blanks, or none. -/
abbrev Blanks : Type := {blanks : List Char // AllBlank blanks}

def Blanks.append (x y : Blanks) : Blanks :=
  ⟨x.1 ++ y.1, fun c hc => (List.mem_append.1 hc).elim (x.2 c) (y.2 c)⟩

/-- What one looks at stands behind blanks. -/
lemma exists_of_look_bind {f : Option Char → Reader β} (h : (look >>= f) size s = .ok (b, rest)) :
    ∃ (x : Blanks) (t : List Char) (r : Reader β),
      s = x.1 ++ t ∧ f t.head? = r ∧ r size t = .ok (b, rest) := by
  obtain ⟨blanks, hblanks, hs⟩ := exists_blanks_append s
  exact ⟨⟨blanks, hblanks⟩, _, _, hs, rfl, h⟩

theorem boolean_eq_ok_iff {v : Bool} : boolean size s = .ok (v, rest) ↔
    ∃ x : Blanks, s = x.1 ++ (truthChars v ++ rest) := by
  constructor
  · intro h
    obtain ⟨x, t, r, rfl, hr, ht⟩ := exists_of_look_bind h
    refine ⟨x, congrArg _ ?_⟩
    split at hr <;> subst hr
    · exact absurd ht fail_ne_ok
    · obtain ⟨⟨⟩, t, hword, hpure⟩ := bind_eq_ok_iff.1 ht
      obtain ⟨rfl, rfl⟩ := pure_eq_ok_iff.1 hpure
      exact word_eq_ok_iff.1 hword
    · obtain ⟨⟨⟩, t, hword, hpure⟩ := bind_eq_ok_iff.1 ht
      obtain ⟨rfl, rfl⟩ := pure_eq_ok_iff.1 hpure
      exact word_eq_ok_iff.1 hword
    · exact absurd ht wrongType_ne_ok
  · rintro ⟨x, rfl⟩
    cases v with
    | true => rw [truthChars, boolean, List.cons_append, bind_apply, look_apply x.2 rfl]; rfl
    | false => rw [truthChars, boolean, List.cons_append, bind_apply, look_apply x.2 rfl]; rfl

/-- The character that one has looked at is taken. -/
lemma eq_cons_of_advance (hc : t.head? = some c) (h : advance size t = .ok ((), rest)) :
    t = c :: rest := by
  obtain ⟨t', rfl⟩ := List.head?_eq_some_iff.1 hc
  simpa [advance] using h

theorem colon_eq_ok_iff : colon size s = .ok ((), rest) ↔ ∃ x : Blanks, s = x.1 ++ ':' :: rest := by
  constructor
  · intro h
    obtain ⟨x, t, r, rfl, hr, ht⟩ := exists_of_look_bind h
    split at hr <;> subst hr
    · exact absurd ht fail_ne_ok
    · next hc => exact ⟨x, congrArg _ (eq_cons_of_advance hc ht)⟩
    · exact absurd ht fail_ne_ok
  · rintro ⟨x, rfl⟩
    rw [colon, bind_apply, look_apply x.2 rfl]
    rfl

lemma closeObject_cons : closeObject size ('}' :: s) = .ok ((), s) := rfl

theorem closeList_eq_ok_iff :
    closeList size s = .ok ((), rest) ↔ ∃ x : Blanks, s = x.1 ++ ']' :: rest := by
  constructor
  · intro h
    obtain ⟨x, t, r, rfl, hr, ht⟩ := exists_of_look_bind h
    split at hr <;> subst hr
    · exact absurd ht fail_ne_ok
    · next hc => exact ⟨x, congrArg _ (eq_cons_of_advance hc ht)⟩
    · -- behind a comma no end is right
      obtain ⟨⟨⟩, t, -, hcomma⟩ := bind_eq_ok_iff.1 ht
      obtain ⟨-, t, r, -, hr, hbehind⟩ := exists_of_look_bind hcomma
      split at hr <;> subst hr <;> exact absurd hbehind fail_ne_ok
    · exact absurd ht fail_ne_ok
  · rintro ⟨x, rfl⟩
    rw [closeList, bind_apply, look_apply x.2 rfl]
    rfl

lemma closeList_cons : closeList size (']' :: s) = .ok ((), s) := rfl

/-- No name is read in front of the end of an object, and nowhere else. -/
lemma anotherName_eq_none_iff {first : Bool} : anotherName first size s = .ok (none, rest) ↔
    ∃ (x : Blanks) (t : List Char), s = x.1 ++ '}' :: t ∧ rest = '}' :: t := by
  constructor
  · intro h
    obtain ⟨x, t, r, rfl, hr, ht⟩ := exists_of_look_bind h
    split at hr
    · subst hr
      exact absurd ht fail_ne_ok
    · next hc =>
      subst hr
      obtain ⟨-, rfl⟩ := pure_eq_ok_iff.1 ht
      obtain ⟨t', rfl⟩ := List.head?_eq_some_iff.1 hc
      exact ⟨x, t', rfl, rfl⟩
    · split_ifs at hr <;> subst hr
      · exact absurd ht some_map_ne_none
      · exact absurd ht fail_ne_ok
      · -- a comma asks for another name
        obtain ⟨⟨⟩, t, -, hcomma⟩ := bind_eq_ok_iff.1 ht
        obtain ⟨-, t, r, -, hr, hbehind⟩ := exists_of_look_bind hcomma
        split at hr <;> subst hr
        · exact absurd hbehind fail_ne_ok
        · exact absurd hbehind some_map_ne_none
        · exact absurd hbehind fail_ne_ok
        · exact absurd hbehind fail_ne_ok
      · exact absurd ht fail_ne_ok
  · rintro ⟨x, t, rfl, rfl⟩
    exact anotherName_end x.2 first

lemma exists_spells_of_anotherName {name : String}
    (h : anotherName true size s = .ok (some name, rest)) :
    ∃ (x : Blanks) (literal : List Char), s = x.1 ++ (literal ++ rest) ∧ Spells literal name := by
  obtain ⟨x, t, r, rfl, hr, ht⟩ := exists_of_look_bind h
  split at hr
  · subst hr
    exact absurd ht fail_ne_ok
  · subst hr
    simp at ht
  · next c _ hc =>
    rw [if_pos rfl] at hr
    split_ifs at hr with hquote <;> subst hr
    · obtain ⟨t', rfl⟩ := List.head?_eq_some_iff.1 hc
      subst hquote
      obtain ⟨known, hknown, hname⟩ := map_eq_ok_iff.1 ht
      obtain rfl := Option.some.inj hname
      obtain ⟨literal, hliteral, hspells⟩ := exists_spells_of_quotedString hknown
      exact ⟨x, literal, congrArg _ hliteral, hspells⟩
    · exact absurd ht fail_ne_ok

/-- No item is read in front of the end of a list. -/
lemma anotherItem_eq_false_iff : anotherItem true size s = .ok (false, rest) ↔
    ∃ (x : Blanks) (t : List Char), s = x.1 ++ ']' :: t ∧ rest = ']' :: t := by
  constructor
  · intro h
    obtain ⟨x, t, r, rfl, hr, ht⟩ := exists_of_look_bind h
    split at hr
    · subst hr
      exact absurd ht fail_ne_ok
    · next hc =>
      subst hr
      obtain ⟨-, rfl⟩ := pure_eq_ok_iff.1 ht
      obtain ⟨t', rfl⟩ := List.head?_eq_some_iff.1 hc
      exact ⟨x, t', rfl, rfl⟩
    · rw [if_pos rfl] at hr
      subst hr
      simp at ht
  · rintro ⟨x, t, rfl, rfl⟩
    exact anotherItem_end x.2 true

lemma anotherItem_truthChars (x : Blanks) (v : Bool) :
    anotherItem true size (x.1 ++ (truthChars v ++ rest)) = .ok (true, truthChars v ++ rest) := by
  cases v with
  | true => rw [truthChars, anotherItem, List.cons_append, bind_apply, look_apply x.2 rfl]; rfl
  | false => rw [truthChars, anotherItem, List.cons_append, bind_apply, look_apply x.2 rfl]; rfl

lemma exists_of_anotherItem (h : anotherItem true size s = .ok (true, rest)) :
    ∃ x : Blanks, s = x.1 ++ rest := by
  obtain ⟨x, t, r, rfl, hr, ht⟩ := exists_of_look_bind h
  split at hr
  · subst hr
    exact absurd ht fail_ne_ok
  · subst hr
    simp at ht
  · rw [if_pos rfl] at hr
    subst hr
    obtain ⟨-, rfl⟩ := pure_eq_ok_iff.1 ht
    exact ⟨x, rfl⟩

end Json

end Blueprint
