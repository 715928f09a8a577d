import Mathlib.Data.List.Nodup
import Mathlib.Logic.Relation

/-!
# Ascents

The chain of a relation that leads from an item to the next one above, up to an item with nothing
above. If no descent is infinite every item has such a chain, and none of its items comes twice. If
only one item is directly above another there is only one chain.
-/
namespace Blueprint

open Relation (TransGen ReflTransGen)

variable {α β : Type} {r : α → α → Prop} {x y : α} {chain other : List α}

lemma not_transGen_self_of_acc (h : Acc (fun b a => r a b) x) : ¬ TransGen r x x := by
  induction h with
  | intro x _ ih =>
    intro hcycle
    obtain ⟨y, hxy, hyx⟩ := TransGen.head'_iff.1 hcycle
    exact ih y hxy (TransGen.tail' hyx hxy)

/-- The item itself comes first. -/
inductive Ascent (r : α → α → Prop) : α → List α → Prop
  | top {x : α} (h : ∀ y, ¬ r x y) : Ascent r x [x]
  | step {x y : α} {chain : List α} (h : r x y) (hchain : Ascent r y chain) :
      Ascent r x (x :: chain)

namespace Ascent

theorem exists_of_wellFounded (h : WellFounded fun b a => r a b) (x : α) :
    ∃ chain, Ascent r x chain := by
  induction x using h.induction with
  | h x ih =>
    by_cases hx : ∃ y, r x y
    · obtain ⟨y, hxy⟩ := hx
      obtain ⟨chain, hchain⟩ := ih y hxy
      exact ⟨x :: chain, .step hxy hchain⟩
    · exact ⟨[x], .top (not_exists.1 hx)⟩

theorem unique (hfun : ∀ a b c, r a b → r a c → b = c) (h : Ascent r x chain)
    (h' : Ascent r x other) : chain = other := by
  induction h generalizing other with
  | top hx =>
    cases h' with
    | top _ => rfl
    | step hxy _ => exact absurd hxy (hx _)
  | step hxy _ ih =>
    cases h' with
    | top hx => exact absurd hxy (hx _)
    | step hxz hz =>
      obtain rfl := hfun _ _ _ hxy hxz
      rw [ih hz]

theorem reaches (h : Ascent r x chain) (hy : y ∈ chain) : ReflTransGen r x y := by
  induction h with
  | top _ => rw [List.mem_singleton.1 hy]
  | step hxz _ ih =>
    rcases List.mem_cons.1 hy with rfl | hy
    · exact .refl
    · exact .head hxz (ih hy)

theorem nodup (hwf : WellFounded fun b a => r a b) (h : Ascent r x chain) : chain.Nodup := by
  induction h with
  | top _ => exact List.nodup_singleton _
  | step hxy hchain ih =>
    refine List.nodup_cons.2 ⟨fun hmem => ?_, ih⟩
    exact not_transGen_self_of_acc (hwf.apply _) (TransGen.head' hxy (hchain.reaches hmem))

/-- A map that keeps the steps and the tops keeps the chains. -/
theorem map {s : β → β → Prop} {f : α → β} (hstep : ∀ a b, r a b → s (f a) (f b))
    (htop : ∀ a, a ∈ chain → (∀ b, ¬ r a b) → ∀ b, ¬ s (f a) b) (h : Ascent r x chain) :
    Ascent s (f x) (chain.map f) := by
  induction h with
  | top hx => exact .top (htop _ (.head _) hx)
  | step hxy _ ih =>
    exact .step (hstep _ _ hxy) (ih fun a ha => htop a (.tail _ ha))

end Ascent

end Blueprint
