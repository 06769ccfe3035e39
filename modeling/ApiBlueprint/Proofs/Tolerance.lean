import ApiBlueprint.Proofs.Failure
import ApiBlueprint.Proofs.Occurrence
import Mathlib.Logic.Relation

/-! What a parse result may hold below its root. Items that are no elements are passed over before
anything is read from them. So a reader that gives up on the first of them never meets one, and they
may be put in or left out. -/
namespace ApiBlueprint.Refract
open Json

/-- An object with a string under `element`. -/
def IsElement (v : Value) : Prop := ∃ tag, v.get? "element" = some (.string tag)

private theorem isElement_object {members : Members} :
    IsElement (.object members) ↔ ∃ tag, tag? members = some tag := by
  simp only [tag?_eq_some_iff]
  rfl

/-- What an element is can be told without reading it. -/
theorem isElement_iff {v : Value} : IsElement v ↔ (element? v).isSome := by
  cases v with
  | object members =>
    rw [isElement_object, element?, Option.isSome_map, Option.isSome_iff_exists]
  | _ =>
    refine ⟨?_, fun h => by cases h⟩
    rintro ⟨tag, htag⟩
    cases htag

instance : DecidablePred IsElement := fun _ => decidable_of_iff _ isElement_iff.symm

private theorem element?_eq_none {v : Value} (h : ¬ IsElement v) : element? v = none := by
  rwa [isElement_iff, Option.not_isSome_iff_eq_none] at h

private theorem ofValue_of_not_object {v : Value} (h : ∀ members, v ≠ .object members) :
    ofValue v = .error .notAnObject := by
  cases v with
  | object members => exact absurd rfl (h members)
  | _ => rfl

private theorem ofValue_of_not_isElement {members : Members} (h : ¬ IsElement (.object members)) :
    ofValue (.object members) = .error .missingElement := by
  have htag : tag? members = none :=
    Option.eq_none_iff_forall_ne_some.mpr (not_exists.mp (mt isElement_object.mpr h))
  rw [ofValue, htag]

private theorem ofValue_of_isElement {members : Members} (h : IsElement (.object members)) :
    ∃ result, ofValue (.object members) = .ok result := by
  obtain ⟨tag, htag⟩ := isElement_object.mp h
  rw [ofValue, htag]
  exact ⟨_, rfl⟩

/-- The root is taken apart if it says that it is a result, and is the only element otherwise. -/
theorem ofValue_eq_ok {root : Value} {result : ParseResult} (h : ofValue root = .ok result) :
    ∃ members tag, root = .object members ∧ tag? members = some tag ∧
      result = ⟨if tag = "parseResult" then childrenOf members
        else [assemble tag members (childrenOf members)]⟩ := by
  cases root with
  | object members =>
    rw [ofValue] at h
    cases htag : tag? members with
    | none =>
      rw [htag] at h
      cases h
    | some tag =>
      rw [htag] at h
      exact ⟨members, tag, rfl, htag, (Except.ok.inj h).symm⟩
  | _ => cases h

/-- Items that are no elements are passed over. -/
theorem elementsIn_eq (items : List Value) : elementsIn items = items.filterMap element? := by
  induction items with
  | nil => rfl
  | cons v rest ih =>
    rw [elementsIn, ih, List.filterMap_cons]
    cases element? v <;> rfl

/-! Reading that gives up. -/

section Strict
variable (fault : Value → ReadError)

mutual

/-- Read an element with everything below it, or report the first value that is none. An annotation
has no children. -/
def strictElement : Value → Except ReadError Element
  | .object members =>
    match tag? members with
    | none => .error (fault (.object members))
    | some tag =>
      if tag = "annotation" then .ok (assemble tag members [])
      else (strictChildren members).map (assemble tag members)
  | v => .error (fault v)

def strictChildren : List (String × Value) → Except ReadError (List Element)
  | [] => .ok []
  | (key, v) :: rest => if key = "content" then strictItems v else strictChildren rest

def strictItems : Value → Except ReadError (List Element)
  | .array vs => strictElements vs
  | _ => .ok []

/-- What is no element is dropped, and a fault in the rest is passed on. -/
def strictElements : List Value → Except ReadError (List Element)
  | [] => .ok []
  | v :: rest =>
    if IsElement v then do
      let first ← strictElement v
      let others ← strictElements rest
      return first :: others
    else strictElements rest

end

/-- A parse result with the faults of all its parts. -/
def strictOfValue : Value → Except ReadError ParseResult
  | .object members =>
    match tag? members with
    | none => .error .missingElement
    | some tag =>
      if tag = "parseResult" then (strictChildren fault members).map ParseResult.mk
      else (strictElement fault (.object members)).map fun e => ⟨[e]⟩
  | _ => .error .notAnObject

private theorem strictChildren_eq (members : Members) :
    strictChildren fault members =
      ((members.get? "content").map (strictItems fault)).getD (.ok []) := by
  induction members with
  | nil => rfl
  | cons member rest ih =>
    obtain ⟨key, v⟩ := member
    rw [strictChildren, Members.get?]
    split
    · rfl
    · exact ih

variable {fault}

private theorem strictElements_of_each {items : List Value}
    (h : ∀ v ∈ items, ∀ e, element? v = some e → strictElement fault v = .ok e) :
    strictElements fault items = .ok (elementsIn items) := by
  induction items with
  | nil => rfl
  | cons v rest ih =>
    have hrest := ih fun w hw => h w (List.mem_cons_of_mem v hw)
    rw [strictElements, elementsIn]
    split
    · rename_i hv
      obtain ⟨e, he⟩ := Option.isSome_iff_exists.mp (isElement_iff.mp hv)
      rw [h v List.mem_cons_self e he, hrest, he]
      rfl
    · rename_i hv
      rw [hrest, element?_eq_none hv]
      rfl

private theorem strictChildren_of_each {members : Members}
    (h : ∀ children, members.get? "content" = some (.array children) → ∀ child ∈ children,
      ∀ e, element? child = some e → strictElement fault child = .ok e) :
    strictChildren fault members = .ok (childrenOf members) := by
  rw [strictChildren_eq, childrenOf_eq]
  cases hcontent : members.get? "content" with
  | none => rfl
  | some content =>
    cases content with
    | array children => exact strictElements_of_each (h children hcontent)
    | _ => rfl

/-- Below an element all faults are dropped with the values that would cause them. -/
theorem strictElement_eq (v : Value) :
    ∀ e, element? v = some e → strictElement fault v = .ok e := by
  induction v using children_induction with
  | step v ih =>
    intro e he
    cases v with
    | object members =>
      obtain ⟨tag, htag, rfl⟩ := Option.map_eq_some_iff.mp he
      rw [strictElement, htag]
      dsimp only
      split
      · rename_i hnote
        subst hnote
        rfl
      · rw [strictChildren_of_each ih]
        rfl
    | _ => cases he

private theorem strictOfValue_eq (v : Value) : strictOfValue fault v = ofValue v := by
  cases v with
  | object members =>
    rw [strictOfValue, ofValue]
    cases htag : tag? members with
    | none => rfl
    | some tag =>
      dsimp only
      split
      · rw [strictChildren_of_each fun children _ child _ => strictElement_eq child]
        rfl
      · rw [strictElement_eq (.object members) _ (by rw [element?, htag]; rfl)]
        rfl
  | _ => rfl

end Strict

/-! Items that are passed over. -/

/-- Two objects with other items in their content and nothing else changed. -/
structure Changed (items items' : List Value) (members members' : Members) : Prop where
  others : ∀ key, key ≠ "content" → members'.get? key = members.get? key
  old : members.get? "content" = some (.array items)
  new : members'.get? "content" = some (.array items')

/-- The second value has one item more, which is no element, among the children of an element at or
below the first one. -/
inductive Padded : Value → Value → Prop where
  | here {members members' : Members} {front back : List Value} {item : Value}
      (helement : IsElement (.object members)) (hitem : ¬ IsElement item)
      (h : Changed (front ++ back) (front ++ item :: back) members members') :
      Padded (.object members) (.object members')
  | deeper {members members' : Members} {front back : List Value} {child child' : Value}
      (helement : IsElement (.object members)) (hchild : Padded child child')
      (h : Changed (front ++ child :: back) (front ++ child' :: back) members members') :
      Padded (.object members) (.object members')

namespace Changed
variable {items items' : List Value} {members members' : Members}
  (h : Changed items items' members members')
include h

private theorem tag?_eq : tag? members' = tag? members := by
  rw [tag?, tag?, h.others "element" (by decide)]

/-- A list as content is no message, so only the children can differ. -/
theorem assemble_eq (tag : String) (children : List Element) :
    assemble tag members' children = assemble tag members children := by
  have hmeta := h.others "meta" (by decide)
  have hattributes := h.others "attributes" (by decide)
  have hmessage : (members'.get? "content").bind string? =
      (members.get? "content").bind string? := by
    rw [h.old, h.new]
    rfl
  simp only [assemble, hmeta, hattributes, hmessage]

private theorem childrenOf_eq (hitems : elementsIn items' = elementsIn items) :
    childrenOf members' = childrenOf members := by
  rw [Refract.childrenOf_eq, Refract.childrenOf_eq, h.old, h.new]
  exact hitems

private theorem element?_eq (hitems : elementsIn items' = elementsIn items) :
    element? (.object members') = element? (.object members) := by
  simp only [element?, h.tag?_eq, h.assemble_eq, h.childrenOf_eq hitems]

private theorem ofValue_eq (hitems : elementsIn items' = elementsIn items) :
    ofValue (.object members') = ofValue (.object members) := by
  simp only [ofValue, h.tag?_eq, h.assemble_eq, h.childrenOf_eq hitems]

end Changed

/-- However deep the item is put in, the elements among the children stay the same. -/
theorem Padded.exists_changed {v w : Value} (h : Padded v w) :
    ∃ items items' members members', v = .object members ∧ w = .object members' ∧
      Changed items items' members members' ∧ elementsIn items' = elementsIn items := by
  induction h with
  | here _ hitem h =>
    refine ⟨_, _, _, _, rfl, rfl, h, ?_⟩
    rw [elementsIn_eq, elementsIn_eq, List.filterMap_append, List.filterMap_append,
      List.filterMap_cons_none (element?_eq_none hitem)]
  | deeper _ _ h ih =>
    obtain ⟨_, _, _, _, rfl, rfl, hchanged, hitems⟩ := ih
    refine ⟨_, _, _, _, rfl, rfl, h, ?_⟩
    rw [elementsIn_eq, elementsIn_eq, List.filterMap_append, List.filterMap_append,
      List.filterMap_cons, List.filterMap_cons, hchanged.element?_eq hitems]

private theorem Padded.ofValue_eq {v w : Value} (h : Padded v w) : ofValue w = ofValue v := by
  obtain ⟨_, _, _, _, rfl, rfl, hchanged, hitems⟩ := h.exists_changed
  exact hchanged.ofValue_eq hitems

/-- Only the root is ever refused: for not being an object, or for having no string under `element`.
Reading that passes on all faults from below comes to the same, and items that are no elements can
be put among the children at any depth, or taken from them, without a trace. -/
theorem only_the_root_is_refused (v : Value) :
    (ofValue v = .error .notAnObject ↔ ∀ members, v ≠ .object members) ∧
      (ofValue v = .error .missingElement ↔ (∃ members, v = .object members) ∧ ¬ IsElement v) ∧
      ((∃ result, ofValue v = .ok result) ↔ (∃ members, v = .object members) ∧ IsElement v) ∧
      (∀ fault, strictOfValue fault v = ofValue v) ∧
      ∀ w, Relation.EqvGen Padded v w → ofValue w = ofValue v := by
  rw [← and_assoc, ← and_assoc]
  refine ⟨?_, fun fault => strictOfValue_eq v, ?_⟩
  · by_cases hobject : ∃ members, v = .object members
    · obtain ⟨members, rfl⟩ := hobject
      by_cases helement : IsElement (.object members)
      · obtain ⟨result, hresult⟩ := ofValue_of_isElement helement
        simp [hresult, helement]
      · simp [ofValue_of_not_isElement helement, helement]
    · have hnone := not_exists.mp hobject
      simp [ofValue_of_not_object hnone, hnone]
  · intro w h
    induction h with
    | rel v w h => exact h.ofValue_eq
    | refl v => rfl
    | symm v w _ ih => exact ih.symm
    | trans u v w _ _ ihv ihw => exact ihw.trans ihv

private def bareElement (tag : String) (children : List Value) : Value :=
  .object [("content", .array children), ("element", .string tag)]

private theorem changed_bareElement (tag : String) (items items' : List Value) :
    Changed items items' [("content", .array items), ("element", .string tag)]
      [("content", .array items'), ("element", .string tag)] := by
  refine ⟨?_, rfl, rfl⟩
  intro key hkey
  simp only [Members.get?, if_neg hkey.symm]

private theorem padded_bareElement (tag : String) (front back : List Value) {item : Value}
    (hitem : ¬ IsElement item) :
    Padded (bareElement tag (front ++ back)) (bareElement tag (front ++ item :: back)) :=
  .here ⟨tag, rfl⟩ hitem (changed_bareElement tag _ _)

/-- An API with one resource, and something more on either side of the resource. -/
private def api (more below : List Value) : Value :=
  bareElement "parseResult" (more ++ [bareElement "category" (bareElement "resource" [] :: below)])

/-- A text is taken from the top, and something with a number for its name is put in below. -/
theorem stray_items_leave_no_trace :
    Relation.EqvGen Padded (api [.string "stray"] []) (api [] [.object [("element", .ofNat64 3)]]) ∧
      ofValue (api [] [.object [("element", .ofNat64 3)]]) =
        .ok ⟨[.category none [] [.resource none none []]]⟩ := by
  have hstray : Padded (api [] []) (api [.string "stray"] []) :=
    padded_bareElement "parseResult" [] _ (by decide)
  have hcategory := padded_bareElement "category" [bareElement "resource" []] []
    (show ¬ IsElement (.object [("element", .ofNat64 3)]) by decide)
  have hnumber : Padded (api [] []) (api [] [.object [("element", .ofNat64 3)]]) :=
    .deeper ⟨"parseResult", rfl⟩ hcategory (changed_bareElement "parseResult" ([] ++ _ :: []) _)
  have hchain := (Relation.EqvGen.rel _ _ hstray).symm.trans _ _ _ (.rel _ _ hnumber)
  refine ⟨hchain, ?_⟩
  rw [(only_the_root_is_refused _).2.2.2.2 _ hchain]
  rfl

end ApiBlueprint.Refract
