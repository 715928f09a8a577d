import Blueprint.Model.Json
import Blueprint.Proofs.JsonReading

/-!
# Reading models that were written

The text of a model is read as the same model, whatever names it has and whether or not it could be
compiled. Each declaration is written with its members in the order of its fields, leaving out what
it does not have, and is read by filling these fields.
-/
namespace Blueprint

open Json

variable {l : Spacing} (hl : l.Blank) (levels : ℕ)

/-! ## Multiplicities and types -/

theorem Bound.reads (b : Bound) : Reads l (Bound.read levels) b.toValue b := by
  intro level size blanks rest hblanks hrest hsize
  cases b with
  | bounded n =>
    have hread := reads_untyped_number (l := l) (le_maxSignificand n) levels level size blanks rest
      hblanks hrest hsize
    have hbound : Bound.ofUntyped (.number (.natural n.toNat)) = .ok (.bounded n) := by
      simp [Bound.ofUntyped, n.toNat_lt]
    rw [Bound.toValue, Bound.read, Reader.bind_apply, hread]
    simp only [hbound, Reader.ofExcept_ok, Reader.pure_apply]
  | unbounded =>
    have hread := reads_untyped_string (l := l) "*" levels level size blanks rest
      hblanks hrest hsize
    have hbound : Bound.ofUntyped (.string "*") = .ok .unbounded := rfl
    rw [Bound.toValue, Bound.read, Reader.bind_apply, hread]
    simp only [hbound, Reader.ofExcept_ok, Reader.pure_apply]

include hl in
theorem Multiplicity.reads (μ : Multiplicity) :
    Reads l (Multiplicity.read (levels + 1)) μ.toValue μ :=
  Record.reads_object hl (d := ⟨some μ.min, some μ.max⟩)
    (.cons _ rfl rfl ((reads_word32 μ.min).bind_pure _)
      (.cons _ rfl rfl ((Bound.reads levels μ.max).bind_pure _) (.nil _))) rfl

namespace TypeRef

variable {first : Bool} {size limit : ℕ} {s t : List Char}

lemma nextKey_kind (h : anotherName first size s = .ok (some "kind", t)) :
    nextKey (limit + 1) first size s = .ok (some .kind, t) := by
  rw [nextKey, Reader.bind_apply, h]
  rfl

lemma nextKey_name (h : anotherName first size s = .ok (some "name", t)) :
    nextKey (limit + 1) first size s = .ok (some .name, t) := by
  rw [nextKey, Reader.bind_apply, h]
  rfl

lemma nextKey_end (h : anotherName first size s = .ok (none, t)) :
    nextKey (limit + 1) first size s = .ok (none, t) := by
  rw [nextKey, Reader.bind_apply, h]
  rfl

lemma turns_bind {α : Type} (f : ℕ → Reader α) : (turns >>= f) size s = f (size + 1) size s := rfl

lemma noMoreKeys_apply (h : anotherName false size s = .ok (none, t)) :
    noMoreKeys size s = .ok ((), t) := by
  rw [noMoreKeys, turns_bind, Reader.bind_apply, nextKey_end h]
  rfl

include hl in
/-- A type is read if its kind is allowed and its name is read as that kind asks for. -/
theorem reads_object {key : String} {kind : TypeKind} {v : Value} {type : TypeRef}
    (hkind : TypeKind.choices.lookup key = some kind)
    (hname : Reads l (kind.readName levels) v type) :
    Reads l (TypeRef.read (levels + 1)) (.object [("kind", .string key), ("name", v)]) type := by
  intro level size blanks rest hblanks hrest hsize
  simp only [Value.chars, Value.moreMembers, List.length_cons, List.length_append] at hsize
  let closing := l.lineBreak level ++ '}' :: rest
  let second := ',' :: (l.lineBreak (level + 1) ++ (stringChars "name" ++
    (l.colon ++ (v.chars l (level + 1) ++ closing))))
  have hcomma : Delimited second := delimited_blanks_append allBlank_nil (.inl rfl)
  have hbrace : Delimited closing :=
    delimited_blanks_append (hl.lineBreak level) (.inr (.inr rfl))
  have hmembers : readMembers levels size (l.lineBreak (level + 1) ++ (stringChars "kind" ++
      (l.colon ++ ((Value.string key).chars l (level + 1) ++ second)))) =
        .ok (type, '}' :: rest) := by
    rw [readMembers, turns_bind, Reader.bind_apply,
      nextKey_kind ((spells_stringChars "kind").anotherName_first (hl.lineBreak _) (by omega))]
    dsimp only
    rw [colon_bind hl (reads_choice hkind levels) hcomma (by simp only [Value.chars]; omega),
      turns_bind, Reader.bind_apply,
      nextKey_name (anotherName_next (hl.lineBreak _) "name" (by omega))]
    dsimp only
    rw [colon_bind hl hname hbrace (by omega), Reader.bind_apply,
      noMoreKeys_apply (anotherName_end (hl.lineBreak level) false)]
    rfl
  have hclose : closeObject size ('}' :: rest) = .ok ((), rest) := rfl
  have htext : (Value.object [("kind", .string key), ("name", v)]).chars l level ++ rest =
      '{' :: (l.lineBreak (level + 1) ++ (stringChars "kind" ++
        (l.colon ++ ((Value.string key).chars l (level + 1) ++ second)))) := by
    simp [Value.chars, Value.moreMembers, second, closing]
  rw [htext, read, Reader.bind_apply, look_apply hblanks rfl]
  simp only [descend, advance, Reader.bind_apply, List.drop_one, List.tail_cons, hmembers, hclose,
    Reader.pure_apply]

include hl in
theorem reads (t : TypeRef) : Reads l (TypeRef.read (levels + 1)) t.toValue t := by
  cases t with
  | primitive p =>
    have hname : Primitive.choices.lookup p.key = some p := by cases p <;> rfl
    exact reads_object hl levels rfl ((reads_choice hname levels).map _)
  | ofClass name => exact reads_object hl levels rfl ((reads_string name).map _)
  | ofEnumeration name => exact reads_object hl levels rfl ((reads_string name).map _)

end TypeRef

/-! ## Declarations -/

include hl

theorem Property.reads (p : Property) :
    Reads l (Property.read (levels + 2)) p.toValue p := by
  obtain ⟨name, type, multiplicity⟩ := p
  have hname := (reads_string (l := l) name).bind_pure
    fun s => ({ name := some s } : Property.Draft)
  have htype := fun t : TypeRef =>
    (reads_optional (by cases t <;> nofun) (TypeRef.reads hl levels t)).bind_pure
      fun t => ({ name := some name, type := some t } : Property.Draft)
  have hmultiplicity := fun (d : Property.Draft) (μ : Multiplicity) =>
    (reads_optional (by nofun) (Multiplicity.reads hl levels μ)).bind_pure
      fun μ => { d with multiplicity := some μ }
  refine Record.reads_object hl (d := ⟨some name, type.map some, multiplicity.map some⟩)
    (.cons _ rfl rfl hname ?_) (by cases type <;> cases multiplicity <;> rfl)
  -- a property leaves out the members that it does not have
  cases type with
  | none =>
    cases multiplicity with
    | none => exact .nil _
    | some μ => exact .cons _ rfl rfl (hmultiplicity _ μ) (.nil _)
  | some t =>
    refine .cons _ rfl rfl (htype t) ?_
    cases multiplicity with
    | none => exact .nil _
    | some μ => exact .cons _ rfl rfl (hmultiplicity _ μ) (.nil _)

theorem EnumDecl.reads (e : EnumDecl) : Reads l (EnumDecl.read (levels + 2)) e.toValue e :=
  Record.reads_object hl (d := ⟨some e.name, some e.literals⟩)
    (.cons _ rfl rfl ((reads_string e.name).bind_pure _)
      (.cons _ rfl rfl ((reads_ofList hl (fun s => reads_string s) e.literals).bind_pure _)
        (.nil _))) rfl

theorem ClassDecl.reads (d : ClassDecl) : Reads l (ClassDecl.read (levels + 4)) d.toValue d :=
  Record.reads_object hl (d := ⟨some d.name, some d.attributes, some d.isAbstract⟩)
    (.cons _ rfl rfl ((reads_string d.name).bind_pure _)
      (.cons _ rfl rfl ((reads_ofList hl (Property.reads hl levels) d.attributes).bind_pure _)
        (.cons _ rfl rfl ((reads_bool d.isAbstract).bind_pure _) (.nil _)))) rfl

theorem Association.reads (a : Association) :
    Reads l (Association.read (levels + 4)) a.toValue a :=
  Record.reads_object hl (d := ⟨some a.name, some a.ends⟩)
    (.cons _ rfl rfl ((reads_string a.name).bind_pure _)
      (.cons _ rfl rfl ((reads_ofList hl (Property.reads hl levels) a.ends).bind_pure _)
        (.nil _))) rfl

theorem Generalization.reads (g : Generalization) :
    Reads l (Generalization.read (levels + 1)) g.toValue g :=
  Record.reads_object hl (d := ⟨some g.general, some g.specific⟩)
    (.cons _ rfl rfl ((reads_string g.general).bind_pure _)
      (.cons _ rfl rfl ((reads_string g.specific).bind_pure _) (.nil _))) rfl

/-- A model is read if containers may be nested at least as deep as it nests them. -/
theorem Model.reads (m : Model) : Reads l (Model.read (levels + 6)) m.toValue m :=
  Record.reads_object hl (d := ⟨some m.name, some m.classes, some m.enumerations,
      some m.associations, some m.generalizations⟩)
    (.cons _ rfl rfl ((reads_string m.name).bind_pure _)
      (.cons _ rfl rfl ((reads_ofList hl (ClassDecl.reads hl levels) m.classes).bind_pure _)
        (.cons _ rfl rfl
          ((reads_ofList hl (EnumDecl.reads hl (levels + 2)) m.enumerations).bind_pure _)
          (.cons _ rfl rfl
            ((reads_ofList hl (Association.reads hl levels) m.associations).bind_pure _)
            (.cons _ rfl rfl ((reads_ofList hl (Generalization.reads hl (levels + 3))
              m.generalizations).bind_pure _) (.nil _)))))) rfl

omit hl

/-- A model survives being written and read again. -/
theorem Model.ofJson_toJson (m : Model) : Model.ofJson m.toJson = .ok m :=
  parse_pretty (Model.reads blank_indented 121 m)

end Blueprint
