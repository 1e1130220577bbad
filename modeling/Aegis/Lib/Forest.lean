import Mathlib.Logic.Relation

/-!
# Trees of links

A link leads from a node to its parent.  `SameTree` says that links join two nodes, in
whatever direction.  `sameTree_graft` and `sameTree_graft_leaf` say what a new leaf changes:
it is in the tree of its parent, and no two trees grow together.
-/

namespace Aegis.Lib

variable {α : Type*} {link link' : α → α → Prop} {a b c leaf parent : α}

def SameTree (link : α → α → Prop) : α → α → Prop := Relation.EqvGen link

/-- The links with one more. -/
def Graft (link : α → α → Prop) (leaf parent : α) : α → α → Prop :=
  fun a b => link a b ∨ a = leaf ∧ b = parent

theorem SameTree.refl (a : α) : SameTree link a a := Relation.EqvGen.refl a

theorem SameTree.of_link (linked : link a b) : SameTree link a b := Relation.EqvGen.rel a b linked

theorem SameTree.symm (same : SameTree link a b) : SameTree link b a :=
  Relation.EqvGen.symm a b same

theorem SameTree.trans (first : SameTree link a b) (second : SameTree link b c) :
    SameTree link a c := Relation.EqvGen.trans a b c first second

/-- A map that takes links into trees takes trees into trees. -/
theorem SameTree.map {f : α → α} (links : ∀ a b, link' a b → SameTree link (f a) (f b))
    (same : SameTree link' a b) : SameTree link (f a) (f b) := by
  induction same with
  | rel a b linked => exact links a b linked
  | refl a => exact .refl (f a)
  | symm a b _ ih => exact ih.symm
  | trans a b c _ _ first second => exact first.trans second

theorem SameTree.graft (same : SameTree link a b) : SameTree (Graft link leaf parent) a b :=
  same.map (f := id) fun _ _ linked => .of_link (.inl linked)

/-- The tree of a node once the leaf is pushed up to its parent. -/
theorem sameTree_graft_of [DecidableEq α] (childless : ∀ a, ¬ link a leaf)
    (orphan : ∀ a, ¬ link leaf a) (proper : parent ≠ leaf)
    (same : SameTree (Graft link leaf parent) a b) :
    SameTree link (if a = leaf then parent else a) (if b = leaf then parent else b) := by
  refine same.map (f := fun a => if a = leaf then parent else a) fun a b linked => ?_
  rcases linked with linked | ⟨rfl, rfl⟩
  · have first : a ≠ leaf := by
      intro same
      rcases same with rfl
      exact orphan b linked
    have second : b ≠ leaf := by
      intro same
      rcases same with rfl
      exact childless a linked
    rw [if_neg first, if_neg second]
    exact .of_link linked
  · rw [if_pos rfl, if_neg proper]
    exact .refl b

theorem sameTree_graft (childless : ∀ a, ¬ link a leaf) (orphan : ∀ a, ¬ link leaf a)
    (proper : parent ≠ leaf) (first : a ≠ leaf) (second : b ≠ leaf) :
    SameTree (Graft link leaf parent) a b ↔ SameTree link a b := by
  classical
  refine ⟨fun same => ?_, .graft⟩
  have pushed := sameTree_graft_of childless orphan proper same
  rwa [if_neg first, if_neg second] at pushed

theorem sameTree_graft_leaf (childless : ∀ a, ¬ link a leaf) (orphan : ∀ a, ¬ link leaf a)
    (proper : parent ≠ leaf) (other : b ≠ leaf) :
    SameTree (Graft link leaf parent) leaf b ↔ SameTree link parent b := by
  classical
  constructor
  · intro same
    have pushed := sameTree_graft_of childless orphan proper same
    rwa [if_pos rfl, if_neg other] at pushed
  · intro same
    have grafted : SameTree (Graft link leaf parent) leaf parent := .of_link (.inr ⟨rfl, rfl⟩)
    exact grafted.trans same.graft

/-- A node without links is alone. -/
theorem SameTree.alone_iff (childless : ∀ a, ¬ link a leaf) (orphan : ∀ a, ¬ link leaf a)
    (same : SameTree link a b) : a = leaf ↔ b = leaf := by
  induction same with
  | rel a b linked =>
      constructor
      · intro same
        rcases same with rfl
        exact absurd linked (orphan b)
      · intro same
        rcases same with rfl
        exact absurd linked (childless a)
  | refl a => exact Iff.rfl
  | symm a b _ ih => exact ih.symm
  | trans a b c _ _ first second => exact first.trans second

end Aegis.Lib
