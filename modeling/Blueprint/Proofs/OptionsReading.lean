import Blueprint.Model.Options
import Blueprint.Proofs.JsonInversion

/-!
# Reading options

The texts that are taken for options, exactly. Such a text is an object with at most one member, or
a list of at most one item, and blanks may stand between any two parts of it. The member has the one
name that is known, in whatever way that is spelt, and its value is true or false; without it new
rows are not nested. An object is refused at the first name that is not known or comes again,
whatever stands behind that.
-/
namespace Blueprint

/-! ## Texts of options -/

namespace Options

open Json Reader

variable {size turns : ℕ} {s rest : List Char} {b : Bool} {o : Options}

/-- The text stands for the options. -/
inductive Written : List Char → Options → Prop
  | noMember (x y z : Blanks) : Written (x.1 ++ '{' :: (y.1 ++ '}' :: z.1)) {}
  | member (x y z u v w : Blanks) {literal : List Char}
      (hname : Spells literal "nested_creations") (b : Bool) :
      Written (x.1 ++ '{' :: (y.1 ++ (literal ++ (z.1 ++ ':' :: (u.1 ++ (truthChars b ++
        (v.1 ++ '}' :: w.1))))))) ⟨b⟩
  | noItem (x y z : Blanks) : Written (x.1 ++ '[' :: (y.1 ++ ']' :: z.1)) {}
  | item (x y z w : Blanks) (b : Bool) :
      Written (x.1 ++ '[' :: (y.1 ++ (truthChars b ++ (z.1 ++ ']' :: w.1)))) ⟨b⟩

/-- How deep a value may be nested that stands in options. -/
abbrev levels : ℕ := maxLevels - 1

lemma read_object (x : Blanks) : record.read maxLevels size (x.1 ++ '{' :: s) =
    (record.named levels (size + 1) true {} >>= fun d => closeObject >>= fun _ =>
      pure (⟨d.nestedCreations.getD false⟩ : Options)) size s := by
  rw [Record.read, bind_apply, look_apply x.2 rfl]
  rfl

lemma read_list (x : Blanks) : record.read maxLevels size (x.1 ++ '[' :: s) =
    (record.listed levels record.slots 0 {} >>= fun d => closeList >>= fun _ =>
      pure (⟨d.nestedCreations.getD false⟩ : Options)) size s := by
  rw [Record.read, bind_apply, look_apply x.2 rfl]
  rfl

/-- Options are an object or a list. -/
lemma eq_object_or_list (h : record.read maxLevels size s = .ok (o, rest)) :
    ∃ (x : Blanks) (t : List Char), s = x.1 ++ '{' :: t ∨ s = x.1 ++ '[' :: t := by
  obtain ⟨x, t, r, rfl, hr, ht⟩ := exists_of_look_bind h
  split at hr
  · subst hr
    exact absurd ht fail_ne_ok
  · next hc =>
    obtain ⟨t', rfl⟩ := List.head?_eq_some_iff.1 hc
    exact ⟨x, t', .inr rfl⟩
  · next hc =>
    obtain ⟨t', rfl⟩ := List.head?_eq_some_iff.1 hc
    exact ⟨x, t', .inl rfl⟩
  · subst hr
    exact absurd ht wrongType_ne_ok

/-- The one value that options may have. -/
def value : Reader Draft := boolean >>= fun b => pure ⟨some b⟩

lemma value_eq_ok_iff {d : Draft} : value size s = .ok (d, rest) ↔
    ∃ (x : Blanks) (b : Bool), s = x.1 ++ (truthChars b ++ rest) ∧ d = ⟨some b⟩ := by
  rw [value, bind_eq_ok_iff]
  constructor
  · rintro ⟨b, t, hvalue, hpure⟩
    obtain ⟨rfl, rfl⟩ := pure_eq_ok_iff.1 hpure
    obtain ⟨x, hs⟩ := boolean_eq_ok_iff.1 hvalue
    exact ⟨x, b, hs, rfl⟩
  · rintro ⟨x, b, rfl, rfl⟩
    exact ⟨b, rest, boolean_eq_ok_iff.2 ⟨x, rfl⟩, rfl⟩

/-- What is done about a name that has been found in an object. -/
def onName (turns : ℕ) (d : Draft) : Option String → Reader Draft
  | none => pure d
  | some name =>
    if name = "nested_creations" then
      if d.nestedCreations.isSome then fail (.duplicateField name)
      else colon >>= fun _ => value >>= record.named levels turns false
    else fail (.unknownField name ["nested_creations"])

lemma named_succ (turns : ℕ) (first : Bool) (d : Draft) :
    record.named levels (turns + 1) first d = anotherName first >>= onName turns d := by
  rw [Record.named]
  congr 1
  funext found
  cases found with
  | none => rfl
  | some name =>
    by_cases hname : name = "nested_creations"
    · subst hname
      rfl
    · have hbeq : ("nested_creations" == name) = false := beq_false_of_ne (Ne.symm hname)
      simp only [onName, if_neg hname, record, List.find?_cons, hbeq, List.find?_nil, if_true,
        List.map_cons, List.map_nil]

/-- Behind a member that is known nothing but the end of the object is read. -/
lemma named_full_eq_ok_iff {d : Draft} :
    record.named levels (turns + 1) false ⟨some b⟩ size s = .ok (d, rest) ↔
      d = ⟨some b⟩ ∧ ∃ (x : Blanks) (t : List Char), s = x.1 ++ '}' :: t ∧ rest = '}' :: t := by
  rw [named_succ, bind_eq_ok_iff]
  constructor
  · rintro ⟨found, t, hname, hmore⟩
    cases found with
    | none =>
      obtain ⟨rfl, rfl⟩ := pure_eq_ok_iff.1 hmore
      exact ⟨rfl, anotherName_eq_none_iff.1 hname⟩
    | some name =>
      rw [onName] at hmore
      split_ifs at hmore with hknown hfull
      · exact absurd hmore fail_ne_ok
      · exact absurd rfl hfull
      · exact absurd hmore fail_ne_ok
  · rintro ⟨rfl, hend⟩
    exact ⟨none, rest, anotherName_eq_none_iff.2 hend, rfl⟩

lemma listed_slots :
    record.listed levels record.slots 0 {} =
      anotherItem true >>= fun more => if more then value >>= pure else pure {} := by
  rfl

lemma written_of_object (x : Blanks) (hrest : AllBlank rest)
    (h : record.read maxLevels size (x.1 ++ '{' :: s) = .ok (o, rest)) :
    Written (x.1 ++ '{' :: s) o := by
  rw [read_object, named_succ] at h
  obtain ⟨d, t, hdraft, hfinish⟩ := bind_eq_ok_iff.1 h
  obtain ⟨⟨⟩, t', hclose, hpure⟩ := bind_eq_ok_iff.1 hfinish
  obtain ⟨rfl, rfl⟩ := pure_eq_ok_iff.1 hpure
  obtain ⟨found, u, hname, hmore⟩ := bind_eq_ok_iff.1 hdraft
  cases found with
  | none =>
    obtain ⟨rfl, rfl⟩ := pure_eq_ok_iff.1 hmore
    obtain ⟨y, z, rfl, rfl⟩ := anotherName_eq_none_iff.1 hname
    obtain rfl : z = t' := by simpa [closeObject_cons] using hclose
    exact .noMember x y ⟨_, hrest⟩
  | some name =>
    rw [onName] at hmore
    split_ifs at hmore with hknown hfull
    · exact absurd hfull Bool.false_ne_true
    · subst hknown
      obtain ⟨y, literal, rfl, hliteral⟩ := exists_spells_of_anotherName hname
      obtain ⟨⟨⟩, v, hcolon, hvalue⟩ := bind_eq_ok_iff.1 hmore
      obtain ⟨z, rfl⟩ := colon_eq_ok_iff.1 hcolon
      obtain ⟨d', w, hvalue, hend⟩ := bind_eq_ok_iff.1 hvalue
      obtain ⟨u, b, rfl, rfl⟩ := value_eq_ok_iff.1 hvalue
      cases size with
      | zero => simp [Record.named, fail] at hend
      | succ size =>
        obtain ⟨rfl, v, w, rfl, rfl⟩ := named_full_eq_ok_iff.1 hend
        obtain rfl : w = t' := by simpa [closeObject_cons] using hclose
        exact .member x y z u v ⟨_, hrest⟩ hliteral b
    · exact absurd hmore fail_ne_ok

lemma written_of_list (x : Blanks) (hrest : AllBlank rest)
    (h : record.read maxLevels size (x.1 ++ '[' :: s) = .ok (o, rest)) :
    Written (x.1 ++ '[' :: s) o := by
  rw [read_list, listed_slots] at h
  obtain ⟨d, t, hdraft, hfinish⟩ := bind_eq_ok_iff.1 h
  obtain ⟨⟨⟩, t', hclose, hpure⟩ := bind_eq_ok_iff.1 hfinish
  obtain ⟨rfl, rfl⟩ := pure_eq_ok_iff.1 hpure
  obtain ⟨more, u, hmore, hvalue⟩ := bind_eq_ok_iff.1 hdraft
  cases more with
  | false =>
    obtain ⟨rfl, rfl⟩ := pure_eq_ok_iff.1 hvalue
    obtain ⟨y, z, rfl, rfl⟩ := anotherItem_eq_false_iff.1 hmore
    obtain rfl : z = t' := by simpa [closeList_cons] using hclose
    exact .noItem x y ⟨_, hrest⟩
  | true =>
    obtain ⟨y, rfl⟩ := exists_of_anotherItem hmore
    obtain ⟨d', v, hitem, hpure⟩ := bind_eq_ok_iff.1 hvalue
    obtain ⟨rfl, rfl⟩ := pure_eq_ok_iff.1 hpure
    obtain ⟨y', b, rfl, rfl⟩ := value_eq_ok_iff.1 hitem
    obtain ⟨z, rfl⟩ := closeList_eq_ok_iff.1 hclose
    have hwritten := Written.item x (y.append y') z ⟨_, hrest⟩ b
    rwa [Blanks.append, List.append_assoc] at hwritten

lemma written_of_read (hrest : AllBlank rest)
    (h : record.read maxLevels size s = .ok (o, rest)) : Written s o := by
  obtain ⟨x, t, rfl | rfl⟩ := eq_object_or_list h
  · exact written_of_object x hrest h
  · exact written_of_list x hrest h

lemma exists_read_of_written (h : Written s o) (hsize : s.length ≤ size) :
    ∃ rest, record.read maxLevels size s = .ok (o, rest) ∧ AllBlank rest := by
  cases h with
  | noMember x y z =>
    refine ⟨z.1, ?_, z.2⟩
    rw [read_object, named_succ]
    refine bind_eq_ok_iff.2 ⟨{}, '}' :: z.1, ?_, rfl⟩
    exact bind_eq_ok_iff.2 ⟨none, '}' :: z.1, anotherName_eq_none_iff.2 ⟨y, z.1, rfl, rfl⟩, rfl⟩
  | @member x y z u v w literal hname b =>
    simp only [List.length_append, List.length_cons] at hsize
    obtain ⟨size, rfl⟩ := Nat.exists_eq_succ_of_ne_zero (n := size) (by omega)
    refine ⟨w.1, ?_, w.2⟩
    rw [read_object, named_succ]
    refine bind_eq_ok_iff.2 ⟨⟨some b⟩, '}' :: w.1, ?_, rfl⟩
    refine bind_eq_ok_iff.2 ⟨_, _, hname.anotherName_first y.2 (by omega), ?_⟩
    refine bind_eq_ok_iff.2 ⟨_, _, colon_eq_ok_iff.2 ⟨z, rfl⟩, ?_⟩
    refine bind_eq_ok_iff.2 ⟨_, _, value_eq_ok_iff.2 ⟨u, b, rfl, rfl⟩, ?_⟩
    exact named_full_eq_ok_iff.2 ⟨rfl, v, w.1, rfl, rfl⟩
  | noItem x y z =>
    refine ⟨z.1, ?_, z.2⟩
    rw [read_list, listed_slots]
    refine bind_eq_ok_iff.2 ⟨{}, ']' :: z.1, ?_, rfl⟩
    exact bind_eq_ok_iff.2 ⟨false, _, anotherItem_eq_false_iff.2 ⟨y, z.1, rfl, rfl⟩, rfl⟩
  | item x y z w b =>
    refine ⟨w.1, ?_, w.2⟩
    rw [read_list, listed_slots]
    refine bind_eq_ok_iff.2 ⟨⟨some b⟩, z.1 ++ ']' :: w.1, ?_, ?_⟩
    · refine bind_eq_ok_iff.2 ⟨true, _, anotherItem_truthChars y b, ?_⟩
      exact bind_eq_ok_iff.2 ⟨_, _, value_eq_ok_iff.2 ⟨⟨[], allBlank_nil⟩, b, rfl, rfl⟩, rfl⟩
    · exact bind_eq_ok_iff.2 ⟨_, _, closeList_eq_ok_iff.2 ⟨z, rfl⟩, rfl⟩

/-- Options are read from the texts that stand for them and from no others. -/
theorem ofJson_eq_ok_iff {text : String} :
    Options.ofJson text = .ok o ↔ Written text.toList o := by
  rw [ofJson, parse_eq_ok_iff]
  constructor
  · rintro ⟨rest, h, hrest⟩
    exact written_of_read hrest h
  · exact fun h => exists_read_of_written h le_rfl

/-- What is written for options stands for them. -/
lemma written_toValue {l : Spacing} (hl : l.Blank) (o : Options) :
    Written (o.toValue.chars l 0) o := by
  obtain ⟨blanks, hcolon, hblanks⟩ := hl.colon
  obtain ⟨b⟩ := o
  have h := Written.member ⟨[], allBlank_nil⟩ ⟨_, hl.lineBreak 1⟩ ⟨[], allBlank_nil⟩
    ⟨blanks, hblanks⟩ ⟨_, hl.lineBreak 0⟩ ⟨[], allBlank_nil⟩ (spells_stringChars _) b
  cases b <;> simpa [toValue, Value.chars, Value.moreMembers, hcolon, truthChars] using h

/-- Options survive being written and read again. -/
theorem ofJson_pretty (o : Options) : Options.ofJson o.toValue.pretty = .ok o := by
  rw [ofJson_eq_ok_iff, Value.pretty, String.toList_ofList]
  exact written_toValue blank_indented o

/-! ## Names that are refused -/

lemma ofJson_eq_error {fault : Fault} (h : record.read maxLevels s.length s = .error fault) :
    Options.ofJson (String.ofList s) = .error fault := by
  rw [ofJson, parse]
  simp only [String.toList_ofList, h]

/-- Options are refused at a first name that is not known, whatever stands behind it. -/
theorem ofJson_eq_unknownField (x y : Blanks) {literal : List Char} {name : String}
    (hname : Spells literal name) (hne : name ≠ "nested_creations") (rest : List Char) :
    Options.ofJson (String.ofList (x.1 ++ '{' :: (y.1 ++ (literal ++ rest)))) =
      .error (.unknownField name ["nested_creations"]) := by
  refine ofJson_eq_error ?_
  have hsize : literal.length ≤ (x.1 ++ '{' :: (y.1 ++ (literal ++ rest))).length := by
    simp only [List.length_append, List.length_cons]
    omega
  rw [read_object, bind_of_error]
  rw [named_succ, bind_of_ok (hname.anotherName_first y.2 hsize), onName, if_neg hne]
  rfl

lemma named_second (v w : Blanks) {literal : List Char} {name : String}
    (hname : Spells literal name) (hsize : literal.length ≤ size) :
    record.named levels (turns + 1) false ⟨some b⟩ size
      (v.1 ++ ',' :: (w.1 ++ (literal ++ rest))) =
        .error (if name = "nested_creations" then .duplicateField name
          else .unknownField name ["nested_creations"]) := by
  rw [named_succ, bind_of_ok (hname.anotherName_next v.2 w.2 hsize), onName]
  split_ifs with hknown hfull
  · rfl
  · exact absurd rfl hfull
  · rfl

/-- They are refused at any second name. The known one is then there twice. -/
theorem ofJson_second_name (x y z u v w : Blanks) {literal literal' : List Char} {name : String}
    (hfirst : Spells literal "nested_creations") (hsecond : Spells literal' name) (b : Bool)
    (rest : List Char) :
    Options.ofJson (String.ofList (x.1 ++ '{' :: (y.1 ++ (literal ++ (z.1 ++ ':' :: (u.1 ++
      (truthChars b ++ (v.1 ++ ',' :: (w.1 ++ (literal' ++ rest)))))))))) =
        .error (if name = "nested_creations" then .duplicateField name
          else .unknownField name ["nested_creations"]) := by
  refine ofJson_eq_error ?_
  generalize hsize : List.length (x.1 ++ _) = size
  simp only [List.length_append, List.length_cons] at hsize
  obtain ⟨turns, rfl⟩ := Nat.exists_eq_succ_of_ne_zero (n := size) (by omega)
  rw [read_object, bind_of_error]
  rw [named_succ, bind_of_ok (hfirst.anotherName_first y.2 (by omega))]
  change (colon >>= fun _ => value >>= record.named levels (turns + 1) false) _ _ = _
  rw [bind_of_ok (colon_eq_ok_iff.2 ⟨z, rfl⟩), bind_of_ok (value_eq_ok_iff.2 ⟨u, b, rfl, rfl⟩),
    named_second v w hsecond (by omega)]

end Options

end Blueprint
