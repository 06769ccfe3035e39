import ApiBlueprint.Analysis
import ApiBlueprint.Proofs.Tree

/-! The outline against the tree it is taken from. Two searches make it, one for the groups of an
API and one for the resources of a group. Together they list what has a group and no other resource
above it. -/
namespace ApiBlueprint
open Source Text

namespace Element

def isCategory : Element → Bool
  | category _ _ _ => true
  | _ => false

def isResource : Element → Bool
  | resource _ _ _ => true
  | _ => false

def resourceTitle? : Element → Option Located
  | resource title _ _ => title
  | _ => none

private theorem category?_eq_none {e : Element} (h : e.isCategory = false) :
    e.category? = none := by
  cases e with
  | category => cases h
  | _ => rfl

end Element

namespace Place

/-- A titled resource with a category and no other resource above it. -/
structure Listed (p : Place) (title : Located) : Prop where
  titled : ∃ href children, p.element = .resource (some title) href children
  outermost : ∀ e ∈ p.above, e.isResource = false
  grouped : ∃ e ∈ p.above, e.isCategory = true

/-- The title of a resource that is outermost. -/
def outermost? (p : Place) : Option Located :=
  if p.above.any Element.isResource then none else p.element.resourceTitle?

def listed? (p : Place) : Option Located :=
  if p.above.any Element.isCategory then p.outermost? else none

private theorem listed?_eq_some {p : Place} {title : Located} :
    p.listed? = some title ↔ p.Listed title := by
  have htitle : p.element.resourceTitle? = some title ↔
      ∃ href children, p.element = .resource (some title) href children := by
    cases p.element <;> simp [Element.resourceTitle?]
  rw [listed?, outermost?]
  constructor
  · intro h
    split at h
    · rename_i hcategory
      split at h
      · cases h
      · rename_i hresource
        exact ⟨htitle.mp h, by simpa using hresource, by simpa using hcategory⟩
    · cases h
  · rintro ⟨htitled, houter, hgroup⟩
    rw [if_pos (by simpa using hgroup), if_neg (by simpa using houter)]
    exact htitle.mpr htitled

private theorem outermost?_under (i : Nat) (e : Element) (p : Place) :
    (p.under i e).outermost? = if e.isResource then none else p.outermost? := by
  cases he : e.isResource <;> simp [outermost?, under, he]

private theorem listed?_under (i : Nat) (e : Element) (p : Place) :
    (p.under i e).listed? =
      if e.isResource then none else if e.isCategory then p.outermost? else p.listed? := by
  rw [listed?, outermost?_under]
  cases hr : e.isResource <;> cases hc : e.isCategory <;> simp [listed?, under, hc]

/-- Below a resource nothing is found. -/
private theorem filterMap_outermost?_under (i : Nat) (e : Element) (ps : List Place) :
    (ps.map (under i e)).filterMap outermost? =
      if e.isResource then [] else ps.filterMap outermost? := by
  rw [List.filterMap_map]
  cases hr : e.isResource <;> simp [outermost?_under, hr]

private theorem filterMap_listed?_under (i : Nat) (e : Element) (ps : List Place) :
    (ps.map (under i e)).filterMap listed? =
      if e.isResource then []
      else if e.isCategory then ps.filterMap outermost? else ps.filterMap listed? := by
  rw [List.filterMap_map]
  cases hr : e.isResource <;> cases hc : e.isCategory <;>
    simp [listed?_under, hr, hc]

/-- A search that agrees with `f` at and below each child agrees with it on all of them. -/
private theorem flatMap_eq_filterMap_among {search : Element → List Located}
    {f : Place → Option Located} (i : Nat) {children : List Element}
    (h : ∀ e ∈ children, ∀ j,
      search e = (⟨[j], [], e⟩ :: (within e).map (under j e)).filterMap f) :
    children.flatMap search = (among i children).filterMap f := by
  induction children generalizing i with
  | nil => rfl
  | cons first others ih =>
    rw [List.flatMap_cons, among, List.filterMap_append, h first List.mem_cons_self i,
      ih (i + 1) fun e he => h e (List.mem_cons_of_mem _ he)]

def resourceTitles (e : Element) : List Located := e.resources.filterMap Resource.title

/-- Titles of the resources in the outermost categories at or below an element. -/
def groupedTitles (e : Element) : List Located :=
  (e.categories.flatMap Category.resources).filterMap Resource.title

/-- Searching for resources finds the titles below in document order. -/
theorem titles_resourcesIn (children : List Element) :
    (Element.resourcesIn children).filterMap Resource.title = children.flatMap resourceTitles := by
  induction children with
  | nil => rfl
  | cons first others ih =>
    rw [Element.resourcesIn, List.filterMap_append, ih, List.flatMap_cons, resourceTitles]

/-- Searching for groups and then for their resources finds the titles within groups. -/
theorem titles_categoriesIn (children : List Element) :
    ((Element.categoriesIn children).flatMap Category.resources).filterMap Resource.title =
      children.flatMap groupedTitles := by
  induction children with
  | nil => rfl
  | cons first others ih =>
    rw [Element.categoriesIn, List.flatMap_append, List.filterMap_append, ih, List.flatMap_cons,
      groupedTitles]

private theorem resourceTitles_eq (e : Element) : ∀ i,
    resourceTitles e = (⟨[i], [], e⟩ :: (within e).map (under i e)).filterMap outermost? := by
  induction e using Element.induction_on_children with
  | step e ih =>
    intro i
    rw [List.filterMap_cons, filterMap_outermost?_under, within_eq]
    cases e with
    | category title classes children =>
      exact (titles_resourcesIn children).trans (flatMap_eq_filterMap_among 0 ih)
    | resource title href children => cases title <;> rfl
    | remark note => rfl
    | other tag children =>
      exact (titles_resourcesIn children).trans (flatMap_eq_filterMap_among 0 ih)

private theorem groupedTitles_eq (e : Element) : ∀ i,
    groupedTitles e = (⟨[i], [], e⟩ :: (within e).map (under i e)).filterMap listed? := by
  induction e using Element.induction_on_children with
  | step e ih =>
    intro i
    rw [List.filterMap_cons, filterMap_listed?_under, within_eq]
    cases e with
    | category title classes children =>
      -- The search for groups ends here and the one for resources takes over.
      rw [groupedTitles, Element.categories, List.flatMap_singleton]
      exact (titles_resourcesIn children).trans
        (flatMap_eq_filterMap_among 0 fun e _ => resourceTitles_eq e)
    | resource title href children => rfl
    | remark note => rfl
    | other tag children =>
      exact (titles_categoriesIn children).trans (flatMap_eq_filterMap_among 0 ih)

private theorem titles_groups (c : Category) :
    (c.groups.flatMap Category.resources).filterMap Resource.title =
      (among 0 c.children).filterMap listed? :=
  (titles_categoriesIn c.children).trans
    (flatMap_eq_filterMap_among 0 fun e _ => groupedTitles_eq e)

end Place

namespace ParseResult

private theorem api?_eq_none {result : ParseResult}
    (h : ∀ e ∈ result.content, e.isCategory = false) :
    result.api? = none := by
  rw [api?, List.findSome?_eq_none_iff]
  exact fun e he => Element.category?_eq_none (h e he)

private theorem api?_of_split {result : ParseResult} {before after children : List Element}
    {title : Option Located} {classes : List String}
    (h : result.content = before ++ .category title classes children :: after)
    (hb : ∀ e ∈ before, e.isCategory = false) : result.api? = some ⟨title, classes, children⟩ := by
  have hbefore : ParseResult.api? ⟨before⟩ = none := api?_eq_none hb
  rw [api?] at hbefore
  rw [api?, h, List.findSome?_append, hbefore]
  rfl

/-- Without a category at the top there is no outline. Otherwise the first one is the API, and its
title is followed by the titled resources below it that have a group and no other resource above
them, each once and in document order. Nothing beside the API matters. -/
theorem symbols_list_grouped_resources (result : ParseResult) (lines : Lines) :
    ((∀ e ∈ result.content, e.isCategory = false) → result.symbols lines = []) ∧
    ∀ before title classes children after,
      result.content = before ++ .category title classes children :: after →
      (∀ e ∈ before, e.isCategory = false) →
      ∃ found : List (Place × Located),
        (∀ p t, (p, t) ∈ found ↔ Place.Below children p ∧ p.Listed t) ∧
        (found.Pairwise fun a b => a.1.path < b.1.path) ∧
        result.symbols lines =
          (title.map fun t =>
            ⟨t.content, .package, (resolveOrStart lines t.sourceMap).range, none⟩).toList ++
          found.map fun o => ⟨o.2.content, .property,
            (resolveOrStart lines o.2.sourceMap).range, title.map Located.content⟩ := by
  refine ⟨?_, ?_⟩
  · intro h
    rw [symbols, api?_eq_none h]
  · intro before title classes children after hcontent hbefore
    refine ⟨(Place.among 0 children).filterMap fun p => p.listed?.map (p, ·), ?_, ?_, ?_⟩
    · intro p t
      rw [← Place.listed?_eq_some, ← Place.mem_among_zero, List.mem_filterMap]
      constructor
      · rintro ⟨q, hq, hlisted⟩
        obtain ⟨t', ht, heq⟩ := Option.map_eq_some_iff.mp hlisted
        cases heq
        exact ⟨hq, ht⟩
      · rintro ⟨hp, ht⟩
        exact ⟨p, hp, by rw [ht]; rfl⟩
    · refine List.Pairwise.filterMap _ ?_ (Place.pairwise_among 0 children)
      intro p q hpq a ha b hb
      obtain ⟨t, -, rfl⟩ := Option.map_eq_some_iff.mp ha
      obtain ⟨u, -, rfl⟩ := Option.map_eq_some_iff.mp hb
      exact hpq
    · have htitles := Place.titles_groups ⟨title, classes, children⟩
      rw [symbols, api?_of_split hcontent hbefore]
      simp only [htitles, List.map_filterMap, Option.map_map]
      rfl

private def called (name : String) : Option Located := some ⟨name, none⟩

/-- A group within something else, with a group of its own. One resource is beside the groups, one
within a resource, one has no title, and one is in a second category. -/
private def shop : ParseResult :=
  ⟨[.other "copy" [.category (called "Draft") [] []],
    .category (some ⟨"Shop", some ⟨[⟨2, 4⟩]⟩⟩) ["api"] [
      .resource (called "Status") none [],
      .other "copy" [.category none [] [
        .category (called "Orders") [] [
          .resource (called "Order") none [.resource (called "Line") none []]],
        .resource none none [],
        .resource (called "Customer") none []]]],
    .category (called "Archive") [] [.category none [] [.resource (called "Old order") none []]]]⟩

/-- Two of the titled resources have a group and no resource above them. -/
theorem shop_lists_grouped_resources :
    ∃ before title classes children after,
      shop.content = before ++ .category title classes children :: after ∧
      (∀ e ∈ before, e.isCategory = false) ∧
      ∃ found : List (Place × Located),
        (∀ p t, (p, t) ∈ found ↔ Place.Below children p ∧ p.Listed t) ∧
        (found.Pairwise fun a b => a.1.path < b.1.path) ∧
        shop.symbols (Lines.ofText "# Shop") =
          ⟨"Shop", .package, ⟨⟨0, 2⟩, ⟨0, 6⟩⟩, none⟩ :: found.map (fun o =>
            ⟨o.2.content, .property, (resolveOrStart (Lines.ofText "# Shop") o.2.sourceMap).range,
              some "Shop"⟩) ∧
        found.map (fun o => o.2.content) = ["Order", "Customer"] := by
  have hbefore : ∀ e ∈ [Element.other "copy" [.category (called "Draft") [] []]],
      e.isCategory = false := by simp [Element.isCategory]
  obtain ⟨found, hmem, hsorted, hsymbols⟩ :=
    (symbols_list_grouped_resources shop (Lines.ofText "# Shop")).2 _ _ _ _ _ rfl hbefore
  have hnames := congrArg (List.map Symbol.name) hsymbols
  refine ⟨_, _, _, _, _, rfl, hbefore, found, hmem, hsorted, hsymbols, ?_⟩
  rw [List.map_append, List.map_map] at hnames
  exact (List.cons.inj hnames).2.symm

end ParseResult
end ApiBlueprint
