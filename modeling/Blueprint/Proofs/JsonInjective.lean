import Blueprint.Proofs.JsonReading

/-!
# Values told by their text

Different values have different texts. The first character of a text tells the kind of the value.
A string ends at the first quote that is not escaped, a number at the first character that does not
carry it on, and the text of a list or an object is one part after another up to the bracket, each
part told by its text. So a text tells the value, and where it ends, whatever follows.
-/
namespace Blueprint.Json

variable {α : Type} {l : Spacing} {level : ℕ} {rest rest' : List Char} {c : Char}

/-- The text of a part tells the part and where it ends. -/
def Tells (text : α → List Char) (a : α) : Prop :=
  ∀ b rest rest', Delimited rest → Delimited rest' →
    text a ++ rest = text b ++ rest' → a = b ∧ rest = rest'

/-! ## Strings and numbers -/

theorem stringChars_append_inj {s t : String}
    (h : stringChars s ++ rest = stringChars t ++ rest') : s = t ∧ rest = rest' := by
  have hs : quotedString ((stringChars s).length + (stringChars t).length)
      (stringChars s ++ rest) = .ok (s, rest) := quotedString_stringChars s (by omega)
  have ht : quotedString ((stringChars s).length + (stringChars t).length)
      (stringChars t ++ rest') = .ok (t, rest') := quotedString_stringChars t (by omega)
  rw [h, ht] at hs
  obtain ⟨rfl, rfl⟩ := Prod.mk.inj (Except.ok.inj hs)
  exact ⟨rfl, rfl⟩

theorem tells_toDigits (n : ℕ) : Tells (Nat.toDigits 10) n := by
  intro k rest rest' hrest hrest' h
  have hdigits : Nat.toDigits 10 n = Nat.toDigits 10 k := by
    rw [← (span_toDigits n hrest).1, h, (span_toDigits k hrest').1]
  have hvalue := congrArg (significandOf 0) hdigits
  rw [significandOf_toDigits, significandOf_toDigits] at hvalue
  rw [hdigits] at h
  exact ⟨hvalue, List.append_cancel_left h⟩

/-! ## Parts between brackets -/

/-- Parts one after another, up to the bracket that closes. -/
def partsChars (text : α → List Char) (before after : List Char) (close : Char) :
    List α → List Char
  | [] => [close]
  | a :: as =>
    before ++ text a ++ as.flatMap (fun a => ',' :: (before ++ text a)) ++ after ++ [close]

/-- What closes a list or an object. -/
def IsBracket (c : Char) : Prop := c = ']' ∨ c = '}'

section Parts

variable {text : α → List Char} {before after : List Char} {close : Char} {as bs : List α}

lemma IsBracket.isBlank_eq_false (h : IsBracket c) : isBlank c = false := by
  rcases h with rfl | rfl <;> rfl

lemma blanks_append_ne_comma (hafter : AllBlank after) (hclose : IsBracket close)
    (s : List Char) : after ++ close :: rest ≠ ',' :: s := by
  intro h
  have hskip := congrArg skipBlanks h
  rw [skipBlanks_append hafter, skipBlanks, skipBlanks, List.dropWhile_cons, List.dropWhile_cons,
    hclose.isBlank_eq_false] at hskip
  obtain ⟨rfl, -⟩ := List.cons.inj hskip
  simp [IsBracket] at hclose

lemma delimited_moreParts (hafter : AllBlank after) (hclose : IsBracket close) (as : List α) :
    Delimited (as.flatMap (fun a => ',' :: (before ++ text a)) ++ (after ++ close :: rest)) := by
  cases as with
  | nil => exact delimited_blanks_append hafter (.inr hclose)
  | cons a as => exact delimited_blanks_append allBlank_nil (.inl rfl)

lemma moreParts_append_inj (hafter : AllBlank after) (hclose : IsBracket close)
    (htells : ∀ a ∈ as, Tells text a)
    (h : as.flatMap (fun a => ',' :: (before ++ text a)) ++ (after ++ close :: rest) =
      bs.flatMap (fun a => ',' :: (before ++ text a)) ++ (after ++ close :: rest')) :
    as = bs ∧ rest = rest' := by
  induction as generalizing bs with
  | nil =>
    cases bs with
    | nil => exact ⟨rfl, (List.cons.inj (List.append_cancel_left h)).2⟩
    | cons b bs => exact absurd h (blanks_append_ne_comma hafter hclose _)
  | cons a as ih =>
    cases bs with
    | nil => exact absurd h.symm (blanks_append_ne_comma hafter hclose _)
    | cons b bs =>
      simp only [List.flatMap_cons, List.cons_append, List.append_assoc, List.cons.injEq,
        true_and] at h
      obtain ⟨rfl, hmore⟩ := htells a (.head _) b _ _ (delimited_moreParts hafter hclose as)
        (delimited_moreParts hafter hclose bs) (List.append_cancel_left h)
      obtain ⟨rfl, hrest⟩ := ih (fun a ha => htells a (.tail _ ha)) hmore
      exact ⟨rfl, hrest⟩

/-- No part starts like a bracket that closes, nor with a blank. -/
def StartsParts (text : α → List Char) : Prop :=
  ∀ a, ∃ c cs, text a = c :: cs ∧ isBlank c = false ∧ ¬ IsBracket c

lemma close_ne_part (hbefore : AllBlank before) (hclose : IsBracket close)
    (hstarts : StartsParts text) (a : α) : close :: rest ≠ before ++ (text a ++ rest') := by
  obtain ⟨c, cs, hc, hblank, hnot⟩ := hstarts a
  intro h
  have hskip := congrArg skipBlanks h
  rw [skipBlanks_append hbefore, hc, List.cons_append, skipBlanks, skipBlanks,
    List.dropWhile_cons, List.dropWhile_cons, hclose.isBlank_eq_false, hblank] at hskip
  obtain ⟨rfl, -⟩ := List.cons.inj hskip
  exact hnot hclose

/-- The text up to the bracket tells all parts. -/
theorem partsChars_append_inj (hbefore : AllBlank before) (hafter : AllBlank after)
    (hclose : IsBracket close) (hstarts : StartsParts text) (htells : ∀ a ∈ as, Tells text a)
    (h : partsChars text before after close as ++ rest =
      partsChars text before after close bs ++ rest') : as = bs ∧ rest = rest' := by
  cases as with
  | nil =>
    cases bs with
    | nil => exact ⟨rfl, (List.cons.inj h).2⟩
    | cons b bs =>
      simp only [partsChars, List.append_assoc, List.singleton_append] at h
      exact absurd h (close_ne_part hbefore hclose hstarts b)
  | cons a as =>
    cases bs with
    | nil =>
      simp only [partsChars, List.append_assoc, List.singleton_append] at h
      exact absurd h.symm (close_ne_part hbefore hclose hstarts a)
    | cons b bs =>
      simp only [partsChars, List.append_assoc, List.singleton_append] at h
      obtain ⟨rfl, hmore⟩ := htells a (.head _) b _ _ (delimited_moreParts hafter hclose as)
        (delimited_moreParts hafter hclose bs) (List.append_cancel_left h)
      obtain ⟨rfl, hrest⟩ :=
        moreParts_append_inj hafter hclose (fun a ha => htells a (.tail _ ha)) hmore
      exact ⟨rfl, hrest⟩

end Parts

/-! ## Values -/

/-- A name with its value. -/
def memberChars (l : Spacing) (level : ℕ) (m : String × Value) : List Char :=
  stringChars m.1 ++ l.colon ++ m.2.chars l level

lemma moreItems_eq_flatMap (vs : List Value) : Value.moreItems l level vs =
    vs.flatMap fun v => ',' :: (l.lineBreak level ++ v.chars l level) := by
  induction vs with
  | nil => rfl
  | cons v vs ih => simp [Value.moreItems, ih]

lemma moreMembers_eq_flatMap (ms : List (String × Value)) : Value.moreMembers l level ms =
    ms.flatMap fun m => ',' :: (l.lineBreak level ++ memberChars l level m) := by
  induction ms with
  | nil => rfl
  | cons m ms ih => simp [Value.moreMembers, memberChars, ih]

lemma chars_array (vs : List Value) : (Value.array vs).chars l level =
    '[' :: partsChars (Value.chars l (level + 1)) (l.lineBreak (level + 1)) (l.lineBreak level) ']'
      vs := by
  cases vs with
  | nil => rfl
  | cons v vs => simp [Value.chars, partsChars, moreItems_eq_flatMap]

lemma chars_object (ms : List (String × Value)) : (Value.object ms).chars l level =
    '{' :: partsChars (memberChars l (level + 1)) (l.lineBreak (level + 1)) (l.lineBreak level) '}'
      ms := by
  cases ms with
  | nil => rfl
  | cons m ms => simp [Value.chars, partsChars, memberChars, moreMembers_eq_flatMap]

/-- To show something of all values, show it of lists and objects given that it holds of their
parts. -/
@[elab_as_elim]
theorem Value.induction {motive : Value → Prop} (null : motive .null)
    (bool : ∀ b, motive (.bool b)) (number : ∀ n, motive (.number n))
    (string : ∀ s, motive (.string s))
    (array : ∀ vs, (∀ v ∈ vs, motive v) → motive (.array vs))
    (object : ∀ ms, (∀ m ∈ ms, motive m.2) → motive (.object ms)) (v : Value) : motive v :=
  @Value.rec motive (fun vs => ∀ v ∈ vs, motive v) (fun ms => ∀ m ∈ ms, motive m.2)
    (fun m => motive m.2) null bool number string array object (by simp)
    (fun _ _ hv hvs => List.forall_mem_cons.2 ⟨hv, hvs⟩) (by simp)
    (fun _ _ hm hms => List.forall_mem_cons.2 ⟨hm, hms⟩) (fun _ _ hv => hv) v

/-- The character with which the text of a value starts, with one for all digits and one for both
truth values. -/
def Value.opening : Value → Char
  | .null => 'n'
  | .bool _ => 'f'
  | .number _ => '0'
  | .string _ => '"'
  | .array _ => '['
  | .object _ => '{'

def openingOf (c : Char) : Char := if isDigit c then '0' else if c = 't' then 'f' else c

lemma exists_chars_opening (v : Value) (level : ℕ) :
    ∃ c cs, v.chars l level = c :: cs ∧ openingOf c = v.opening := by
  cases v with
  | null => exact ⟨_, _, rfl, rfl⟩
  | bool b => cases b <;> exact ⟨_, _, rfl, rfl⟩
  | number n =>
    obtain ⟨c, cs, hcs, hc⟩ := exists_toDigits_append_eq n []
    exact ⟨c, cs, by rw [Value.chars, ← hcs, List.append_nil], if_pos hc⟩
  | string s => exact ⟨_, _, rfl, rfl⟩
  | array vs => exact ⟨_, _, chars_array vs, rfl⟩
  | object ms => exact ⟨_, _, chars_object ms, rfl⟩

lemma opening_eq_of_chars_append_eq {v w : Value}
    (h : v.chars l level ++ rest = w.chars l level ++ rest') : v.opening = w.opening := by
  obtain ⟨c, cs, hv, hc⟩ := exists_chars_opening (l := l) v level
  obtain ⟨d, ds, hw, hd⟩ := exists_chars_opening (l := l) w level
  rw [hv, hw, List.cons_append, List.cons_append] at h
  rw [← hc, ← hd, (List.cons.inj h).1]

lemma StartsValue.not_isBracket (h : StartsValue c) : ¬ IsBracket c := by
  rcases h with h | h
  · simp only [List.mem_cons, List.not_mem_nil, or_false] at h
    rcases h with rfl | rfl | rfl | rfl | rfl | rfl <;> simp [IsBracket]
  · exact not_or.2 ⟨ne_of_isDigit h rfl, ne_of_isDigit h rfl⟩

lemma startsParts_chars : StartsParts (Value.chars l level) := by
  intro v
  obtain ⟨c, cs, hchars, hc, -⟩ := exists_chars_eq (l := l) v level
  exact ⟨c, cs, hchars, hc.isBlank_eq_false, hc.not_isBracket⟩

lemma startsParts_memberChars : StartsParts (memberChars l level) :=
  fun _ => ⟨'"', _, rfl, rfl, by simp [IsBracket]⟩

lemma tells_memberChars {m : String × Value} (h : Tells (Value.chars l level) m.2) :
    Tells (memberChars l level) m := by
  intro n rest rest' hrest hrest' heq
  obtain ⟨name, v⟩ := m
  obtain ⟨other, w⟩ := n
  simp only [memberChars, List.append_assoc] at heq
  obtain ⟨rfl, hmore⟩ := stringChars_append_inj heq
  obtain ⟨rfl, htail⟩ := h w _ _ hrest hrest' (List.append_cancel_left hmore)
  exact ⟨rfl, htail⟩

/-- The text of a value tells the value. -/
theorem tells_chars (hl : l.Blank) (v : Value) (level : ℕ) : Tells (Value.chars l level) v := by
  -- the first character leaves only values of the same kind, and these are compared part by part
  induction v using Value.induction generalizing level with
  | null =>
    intro w rest rest' _ _ h
    have hopening := opening_eq_of_chars_append_eq h
    cases w with
    | null => exact ⟨rfl, List.append_cancel_left h⟩
    | _ => simp [Value.opening] at hopening
  | bool b =>
    intro w rest rest' _ _ h
    have hopening := opening_eq_of_chars_append_eq h
    cases w with
    | bool b' =>
      cases b <;> cases b' <;> simp [Value.chars] at h ⊢ <;> exact h
    | _ => simp [Value.opening] at hopening
  | number n =>
    intro w rest rest' hrest hrest' h
    have hopening := opening_eq_of_chars_append_eq h
    cases w with
    | number k =>
      simp only [Value.chars] at h
      obtain ⟨rfl, htail⟩ := tells_toDigits n k rest rest' hrest hrest' h
      exact ⟨rfl, htail⟩
    | _ => simp [Value.opening] at hopening
  | string s =>
    intro w rest rest' _ _ h
    have hopening := opening_eq_of_chars_append_eq h
    cases w with
    | string t =>
      simp only [Value.chars] at h
      obtain ⟨rfl, htail⟩ := stringChars_append_inj h
      exact ⟨rfl, htail⟩
    | _ => simp [Value.opening] at hopening
  | array vs ih =>
    intro w rest rest' _ _ h
    have hopening := opening_eq_of_chars_append_eq h
    cases w with
    | array ws =>
      rw [chars_array, chars_array] at h
      obtain ⟨rfl, htail⟩ := partsChars_append_inj (hl.lineBreak _) (hl.lineBreak _) (.inl rfl)
        startsParts_chars (fun v hv => ih v hv _) (List.cons.inj h).2
      exact ⟨rfl, htail⟩
    | _ => simp [Value.opening] at hopening
  | object ms ih =>
    intro w rest rest' _ _ h
    have hopening := opening_eq_of_chars_append_eq h
    cases w with
    | object ns =>
      rw [chars_object, chars_object] at h
      obtain ⟨rfl, htail⟩ := partsChars_append_inj (hl.lineBreak _) (hl.lineBreak _) (.inr rfl)
        startsParts_memberChars (fun m hm => tells_memberChars (ih m hm _)) (List.cons.inj h).2
      exact ⟨rfl, htail⟩
    | _ => simp [Value.opening] at hopening

theorem chars_injective (hl : l.Blank) (level : ℕ) : Function.Injective (Value.chars l level) := by
  intro v w h
  have happend : v.chars l level ++ [] = w.chars l level ++ [] := congrArg (· ++ []) h
  exact (tells_chars hl v level w [] [] delimited_nil delimited_nil happend).1

/-- Different values have different indented texts. -/
theorem Value.pretty_injective : Function.Injective Value.pretty := by
  intro v w h
  exact chars_injective blank_indented 0 (String.ofList_injective h)

end Blueprint.Json
