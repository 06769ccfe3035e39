import ApiBlueprint.Element.Tree
import Mathlib.Data.List.Basic

/-! Places in a parse tree. A place is known by the indices on the way down to it, so document order
is the lexicographic order of these paths. -/
namespace ApiBlueprint

/-- A fact holds of all elements if it passes from the children of an element to the element. -/
theorem Element.induction_on_children {P : Element → Prop}
    (step : ∀ e, (∀ child ∈ e.children, P child) → P e) (e : Element) : P e := by
  induction hn : sizeOf e using Nat.strongRecOn generalizing e with
  | ind n ih =>
    refine step e ?_
    intro child hchild
    refine ih (sizeOf child) ?_ child rfl
    have hlist := List.sizeOf_lt_of_mem hchild
    cases e with
    | remark note => cases hchild
    | _ =>
      simp only [children] at hlist
      simp only [category.sizeOf_spec, resource.sizeOf_spec, other.sizeOf_spec] at hn
      omega

/-- An element within a tree: the indices on the way down to it, the elements that are passed, and
the element itself. -/
structure Place where
  path : List Nat
  above : List Element
  element : Element

namespace Place

/-- The same place seen from one level higher. -/
def under (i : Nat) (parent : Element) (p : Place) : Place :=
  ⟨i :: p.path, parent :: p.above, p.element⟩

/-- The places below something that has the given children. -/
inductive Below : List Element → Place → Prop where
  | child {children : List Element} {i : Nat} {e : Element} (h : children[i]? = some e) :
      Below children ⟨[i], [], e⟩
  | deeper {children : List Element} {i : Nat} {e : Element} {p : Place}
      (h : children[i]? = some e) (hp : Below e.children p) : Below children (p.under i e)

mutual

/-- All places below an element, in document order. -/
def within : Element → List Place
  | .category _ _ children => among 0 children
  | .resource _ _ children => among 0 children
  | .remark _ => []
  | .other _ children => among 0 children

def among : Nat → List Element → List Place
  | _, [] => []
  | i, e :: rest => ⟨[i], [], e⟩ :: (within e).map (under i e) ++ among (i + 1) rest

end

/-- Below an element are its children and what is below them. An annotation has none. -/
theorem within_eq (e : Element) : within e = among 0 e.children := by
  cases e with
  | remark note => rfl
  | _ => rw [within, Element.children]

private theorem mem_among {p : Place} (i : Nat) (children : List Element) :
    p ∈ among i children ↔ ∃ j e, children[j]? = some e ∧
      (p = ⟨[i + j], [], e⟩ ∨ ∃ q ∈ within e, p = q.under (i + j) e) := by
  induction children generalizing i with
  | nil => simp [among]
  | cons first others ih =>
    rw [among, List.cons_append, List.mem_cons, List.mem_append, List.mem_map, ih]
    constructor
    · rintro (rfl | ⟨q, hq, rfl⟩ | ⟨j, e, he, h⟩)
      · exact ⟨0, first, rfl, .inl rfl⟩
      · exact ⟨0, first, rfl, .inr ⟨q, hq, rfl⟩⟩
      · rw [Nat.add_assoc, Nat.add_comm 1 j] at h
        exact ⟨j + 1, e, he, h⟩
    · rintro ⟨j, e, he, h⟩
      cases j with
      | zero =>
        cases he
        rcases h with rfl | ⟨q, hq, rfl⟩
        · exact .inl rfl
        · exact .inr (.inl ⟨q, hq, rfl⟩)
      | succ j =>
        rw [← Nat.add_comm 1 j, ← Nat.add_assoc] at h
        exact .inr (.inr ⟨j, e, he, h⟩)

private theorem mem_among_of_each {p : Place} {children : List Element}
    (h : ∀ e ∈ children, ∀ q, q ∈ within e ↔ Below e.children q) :
    p ∈ among 0 children ↔ Below children p := by
  rw [mem_among]
  constructor
  · rintro ⟨j, e, he, rfl | ⟨q, hq, rfl⟩⟩
    · rw [Nat.zero_add]
      exact .child he
    · rw [Nat.zero_add]
      exact .deeper he ((h e (List.mem_of_getElem? he) q).mp hq)
  · rintro (⟨he⟩ | ⟨he, hp⟩)
    · exact ⟨_, _, he, .inl (by rw [Nat.zero_add])⟩
    · refine ⟨_, _, he, .inr ⟨_, (h _ (List.mem_of_getElem? he) _).mpr hp, ?_⟩⟩
      rw [Nat.zero_add]

private theorem mem_within (e : Element) : ∀ p, p ∈ within e ↔ Below e.children p := by
  induction e using Element.induction_on_children with
  | step e ih =>
    intro p
    rw [within_eq]
    exact mem_among_of_each ih

/-- All places below are listed, and no others. -/
theorem mem_among_zero {p : Place} {children : List Element} :
    p ∈ among 0 children ↔ Below children p :=
  mem_among_of_each fun e _ => mem_within e

/-! Document order is the lexicographic order of paths. -/

private theorem pairwise_among_of_each (i : Nat) {children : List Element}
    (h : ∀ e ∈ children, (within e).Pairwise fun p q => p.path < q.path) :
    (among i children).Pairwise fun p q => p.path < q.path := by
  induction children generalizing i with
  | nil => exact .nil
  | cons first others ih =>
    have hbelow : ((within first).map (under i first)).Pairwise fun p q => p.path < q.path := by
      rw [List.pairwise_map]
      refine (h first List.mem_cons_self).imp ?_
      intro p q hpq
      exact List.cons_lt_cons_iff.mpr (.inr ⟨rfl, hpq⟩)
    have hafter : ∀ q ∈ among (i + 1) others, ∀ rest, i :: rest < q.path := by
      intro q hq rest
      obtain ⟨j, e, -, rfl | ⟨r, -, rfl⟩⟩ := (mem_among (i + 1) others).mp hq
      · exact List.cons_lt_cons_iff.mpr (.inl (by omega))
      · exact List.cons_lt_cons_iff.mpr (.inl (by omega))
    rw [among, List.pairwise_append, List.pairwise_cons]
    refine ⟨⟨?_, hbelow⟩, ih (i + 1) fun e he => h e (List.mem_cons_of_mem _ he), ?_⟩
    · intro q hq
      obtain ⟨r, hr, rfl⟩ := List.mem_map.mp hq
      -- No path below an element is empty.
      have hpath : r.path ≠ [] := by
        cases (mem_within first r).mp hr with
        | child h => simp
        | deeper h hp => simp [under]
      refine List.cons_lt_cons_iff.mpr (.inr ⟨rfl, ?_⟩)
      cases hr : r.path with
      | nil => exact absurd hr hpath
      | cons j rest => exact List.nil_lt_cons j rest
    · intro p hp q hq
      rcases List.mem_cons.mp hp with rfl | hp
      · exact hafter q hq []
      · obtain ⟨r, -, rfl⟩ := List.mem_map.mp hp
        exact hafter q hq r.path

private theorem pairwise_within (e : Element) : (within e).Pairwise fun p q => p.path < q.path := by
  induction e using Element.induction_on_children with
  | step e ih =>
    rw [within_eq]
    exact pairwise_among_of_each 0 ih

/-- Places are listed in document order. -/
theorem pairwise_among (i : Nat) (children : List Element) :
    (among i children).Pairwise fun p q => p.path < q.path :=
  pairwise_among_of_each i fun e _ => pairwise_within e

end Place
end ApiBlueprint
