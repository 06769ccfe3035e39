import ApiBlueprint.Analysis
import Mathlib.Data.List.Forall2

/-! Annotations as they occur in JSON. An occurrence is known by the indices on the way down to it,
so document order is the lexicographic order of these paths. -/
namespace ApiBlueprint.Refract
open Json Source Text

/-- Elements below a value, each with the indices that lead to it. Only lists of children are
entered, and those of annotations are not. -/
inductive Reaches : Value → List Nat → Value → Prop where
  | here (v : Value) : Reaches v [] v
  | down {members : Members} {tag : String} {children : List Value} {i : Nat} {child v : Value}
      {path : List Nat} (htag : tag? members = some tag) (hne : tag ≠ "annotation")
      (hcontent : members.get? "content" = some (.array children))
      (hchild : children[i]? = some child) (h : Reaches child path v) :
      Reaches (.object members) (i :: path) v

def IsAnnotation (v : Value) : Prop :=
  ∃ members, v = .object members ∧ tag? members = some "annotation"

/-- What is reported of an annotation, read from its own members. -/
structure Reported (lines : Lines) (v : Value) (d : Diagnostic) : Prop where
  severity : d.severity = .warning ↔
    ((((v.get? "meta").bind (·.get? "classes")).map strings).getD []).head? = some "warning"
  code : d.code = ((v.get? "attributes").bind (·.get? "code")).bind code?
  message : d.message = ((v.get? "content").bind string?).getD ""
  range : d.range =
    (resolveOrStart lines (((v.get? "attributes").bind (·.get? "sourceMap")).bind sourceMap?)).range
  source : d.source = some Diagnostic.origin

mutual

/-- Annotations at or below a value with their paths, in document order. -/
def occurrences : Value → List (List Nat × Value)
  | .object members =>
    match tag? members with
    | none => []
    | some tag =>
      if tag = "annotation" then [([], .object members)] else occurrencesBelow members
  | _ => []

def occurrencesBelow : List (String × Value) → List (List Nat × Value)
  | [] => []
  | (key, v) :: rest => if key = "content" then occurrencesAmong v else occurrencesBelow rest

def occurrencesAmong : Value → List (List Nat × Value)
  | .array children => occurrencesFrom 0 children
  | _ => []

def occurrencesFrom : Nat → List Value → List (List Nat × Value)
  | _, [] => []
  | i, v :: rest => (occurrences v).map (fun o => (i :: o.1, o.2)) ++ occurrencesFrom (i + 1) rest

end

private theorem sizeOf_get?_lt {key : String} {members : Members} {v : Value}
    (h : members.get? key = some v) : sizeOf v < sizeOf members := by
  induction members with
  | nil => cases h
  | cons member rest ih =>
    obtain ⟨k, w⟩ := member
    rw [Members.get?] at h
    split at h
    · cases h
      simp only [List.cons.sizeOf_spec, Prod.mk.sizeOf_spec]
      omega
    · have hrest := ih h
      simp only [List.cons.sizeOf_spec]
      omega

/-- A fact holds of all values if it passes from the children of a value to the value. -/
theorem children_induction {P : Value → Prop}
    (step : ∀ v, (∀ children, v.get? "content" = some (.array children) →
      ∀ child ∈ children, P child) → P v) (v : Value) : P v := by
  induction hn : sizeOf v using Nat.strongRecOn generalizing v with
  | ind n ih =>
    refine step v ?_
    intro children hcontent child hchild
    refine ih (sizeOf child) ?_ child rfl
    cases v with
    | object members =>
      have hmember := sizeOf_get?_lt hcontent
      have hlist := List.sizeOf_lt_of_mem hchild
      simp only [Value.array.sizeOf_spec] at hmember
      simp only [Value.object.sizeOf_spec] at hn
      omega
    | _ => cases hcontent

private theorem occurrencesBelow_eq (members : Members) :
    occurrencesBelow members = ((members.get? "content").map occurrencesAmong).getD [] := by
  induction members with
  | nil => rfl
  | cons member rest ih =>
    obtain ⟨key, v⟩ := member
    rw [occurrencesBelow, Members.get?]
    split
    · rfl
    · exact ih

/-- The children of an element are the elements among its content. -/
theorem childrenOf_eq (members : Members) :
    childrenOf members = ((members.get? "content").map items).getD [] := by
  induction members with
  | nil => rfl
  | cons member rest ih =>
    obtain ⟨key, v⟩ := member
    rw [childrenOf, Members.get?]
    split
    · rfl
    · exact ih

/-- The note that the members of an annotation make. -/
def note (v : Value) : Note where
  classes := (((v.get? "meta").bind (·.get? "classes")).map strings).getD []
  code := ((v.get? "attributes").bind (·.get? "code")).bind code?
  message := ((v.get? "content").bind string?).getD ""
  sourceMap := ((v.get? "attributes").bind (·.get? "sourceMap")).bind sourceMap?

private theorem annotations_assemble (tag : String) (members : Members) (children : List Element) :
    (assemble tag members children).annotations =
      if tag = "annotation" then [note (.object members)]
      else Element.annotationsIn children := by
  unfold assemble
  split
  · rw [if_neg (by decide), Element.annotations]
  · rw [if_neg (by decide), Element.annotations]
  · rw [if_pos rfl, Element.annotations]
    rfl
  · rename_i h
    rw [if_neg h, Element.annotations]

private theorem reported_note (lines : Lines) (v : Value) :
    Reported lines v ((note v).diagnostic lines) := by
  refine ⟨?_, rfl, rfl, rfl, rfl⟩
  have hfirst : ∀ classes,
      Severity.ofClasses classes = .warning ↔ classes.head? = some "warning" := by
    intro classes
    unfold Severity.ofClasses
    split
    · simp
    · rename_i h
      cases classes with
      | nil => simp
      | cons c rest =>
        have hc : c ≠ "warning" := by
          rintro rfl
          exact h rest rfl
        simp [hc]
  exact hfirst _

/-! The occurrences are those that are reached. -/

private theorem mem_occurrencesFrom {path : List Nat} {v : Value} (i : Nat)
    (children : List Value) :
    (path, v) ∈ occurrencesFrom i children ↔
      ∃ j child rest, children[j]? = some child ∧ path = (i + j) :: rest ∧
        (rest, v) ∈ occurrences child := by
  induction children generalizing i with
  | nil => simp [occurrencesFrom]
  | cons first others ih =>
    rw [occurrencesFrom, List.mem_append, ih]
    constructor
    · rintro (hfirst | ⟨j, child, rest, hchild, rfl, hmem⟩)
      · obtain ⟨⟨rest, w⟩, hmem, heq⟩ := List.mem_map.mp hfirst
        cases heq
        exact ⟨0, first, rest, rfl, rfl, hmem⟩
      · exact ⟨j + 1, child, rest, hchild, by rw [Nat.add_assoc, Nat.add_comm 1 j], hmem⟩
    · rintro ⟨j, child, rest, hchild, rfl, hmem⟩
      cases j with
      | zero =>
        cases hchild
        exact .inl (List.mem_map.mpr ⟨(rest, v), hmem, rfl⟩)
      | succ j =>
        exact .inr ⟨j, child, rest, hchild, by rw [Nat.add_assoc, Nat.add_comm 1 j], hmem⟩

private theorem mem_occurrencesBelow {members : Members} {path : List Nat} {v : Value} :
    (path, v) ∈ occurrencesBelow members ↔
      ∃ children i child rest, members.get? "content" = some (.array children) ∧
        children[i]? = some child ∧ path = i :: rest ∧ (rest, v) ∈ occurrences child := by
  rw [occurrencesBelow_eq]
  cases hc : members.get? "content" with
  | none => simp
  | some content =>
    cases content with
    | array children => simp [occurrencesAmong, mem_occurrencesFrom]
    | _ => simp [occurrencesAmong]

private theorem mem_occurrences {path : List Nat} {v root : Value} :
    (path, v) ∈ occurrences root ↔ Reaches root path v ∧ IsAnnotation v := by
  induction root using children_induction generalizing path with
  | step root ih =>
    constructor
    · intro hmem
      cases root with
      | object members =>
        rw [occurrences] at hmem
        split at hmem
        · cases hmem
        · rename_i tag htag
          split at hmem
          · rename_i hannotation
            cases List.mem_singleton.mp hmem
            exact ⟨.here _, members, rfl, hannotation ▸ htag⟩
          · rename_i hother
            obtain ⟨children, i, child, rest, hcontent, hchild, rfl, hrest⟩ :=
              mem_occurrencesBelow.mp hmem
            obtain ⟨hreach, hannotation⟩ :=
              (ih children hcontent child (List.mem_of_getElem? hchild)).mp hrest
            exact ⟨.down htag hother hcontent hchild hreach, hannotation⟩
      | _ => cases hmem
    · rintro ⟨hreach, hannotation⟩
      cases hreach with
      | here =>
        obtain ⟨members, rfl, htag⟩ := hannotation
        simp [occurrences, htag]
      | @down members tag children i child _ rest htag hne hcontent hchild hreach =>
        have hrest := (ih children hcontent child (List.mem_of_getElem? hchild)).mpr
          ⟨hreach, hannotation⟩
        rw [occurrences, htag]
        simp only [hne, if_false]
        exact mem_occurrencesBelow.mpr ⟨children, i, child, rest, hcontent, hchild, rfl, hrest⟩

/-! They are listed in document order. -/

private theorem pairwise_occurrencesFrom (i : Nat) {children : List Value}
    (h : ∀ child ∈ children, (occurrences child).Pairwise fun a b => a.1 < b.1) :
    (occurrencesFrom i children).Pairwise fun a b => a.1 < b.1 := by
  induction children generalizing i with
  | nil => exact .nil
  | cons first others ih =>
    rw [occurrencesFrom, List.pairwise_append]
    refine ⟨?_, ih (i + 1) fun child hchild => h child (List.mem_cons_of_mem _ hchild), ?_⟩
    · rw [List.pairwise_map]
      refine (h first List.mem_cons_self).imp ?_
      intro a b hab
      exact List.cons_lt_cons_iff.mpr (.inr ⟨rfl, hab⟩)
    · intro a ha b hb
      obtain ⟨o, -, rfl⟩ := List.mem_map.mp ha
      obtain ⟨path, v⟩ := b
      obtain ⟨j, child, rest, -, rfl, -⟩ := (mem_occurrencesFrom (i + 1) others).mp hb
      exact List.cons_lt_cons_iff.mpr (.inl (by omega))

private theorem pairwise_occurrences (root : Value) :
    (occurrences root).Pairwise fun a b => a.1 < b.1 := by
  induction root using children_induction with
  | step root ih =>
    cases root with
    | object members =>
      rw [occurrences]
      split
      · exact .nil
      · split
        · exact List.pairwise_singleton _ _
        · rw [occurrencesBelow_eq]
          cases hcontent : Members.get? "content" members with
          | none => exact .nil
          | some content =>
            cases content with
            | array children => exact pairwise_occurrencesFrom 0 (ih children hcontent)
            | _ => exact .nil
    | _ => exact .nil

/-! The tree holds their notes in the same order. -/

private theorem annotationsIn_append (a b : List Element) :
    Element.annotationsIn (a ++ b) = Element.annotationsIn a ++ Element.annotationsIn b := by
  induction a with
  | nil => rfl
  | cons e rest ih =>
    rw [List.cons_append, Element.annotationsIn, ih, Element.annotationsIn, List.append_assoc]

private theorem annotationsIn_elementsIn (i : Nat) {children : List Value}
    (h : ∀ child ∈ children, Element.annotationsIn (element? child).toList =
      (occurrences child).map fun o => note o.2) :
    Element.annotationsIn (elementsIn children) =
      (occurrencesFrom i children).map fun o => note o.2 := by
  induction children generalizing i with
  | nil => rfl
  | cons first others ih =>
    rw [elementsIn, annotationsIn_append, h first List.mem_cons_self,
      ih (i + 1) fun child hchild => h child (List.mem_cons_of_mem _ hchild), occurrencesFrom,
      List.map_append, List.map_map]
    rfl

private theorem annotationsIn_singleton (e : Element) :
    Element.annotationsIn [e] = e.annotations := by
  simp only [Element.annotationsIn, List.append_nil]

private theorem annotations_element? (root : Value) :
    Element.annotationsIn (element? root).toList = (occurrences root).map fun o => note o.2 := by
  induction root using children_induction with
  | step root ih =>
    cases root with
    | object members =>
      rw [element?, occurrences]
      cases htag : tag? members with
      | none => rfl
      | some tag =>
        rw [Option.map_some, Option.toList_some, annotationsIn_singleton, annotations_assemble]
        dsimp only
        split
        · rfl
        · rw [childrenOf_eq, occurrencesBelow_eq]
          cases hcontent : Members.get? "content" members with
          | none => rfl
          | some content =>
            cases content with
            | array children => exact annotationsIn_elementsIn 0 (ih children hcontent)
            | _ => rfl
    | _ => rfl

/-- The root of a whole parse is not an element of it, but it is no annotation either. -/
theorem annotations_ofValue {root : Value} {result : ParseResult} (h : ofValue root = .ok result) :
    result.annotations = (occurrences root).map fun o => note o.2 := by
  rw [← annotations_element?]
  cases root with
  | object members =>
    rw [ofValue] at h
    rw [element?]
    cases htag : tag? members with
    | none => simp [htag] at h
    | some tag =>
      simp only [htag, Except.ok.injEq] at h
      subst h
      rw [ParseResult.annotations, Option.map_some, Option.toList_some]
      dsimp only
      split
      · rename_i hroot
        rw [annotationsIn_singleton, annotations_assemble, hroot, if_neg (by decide)]
      · rfl
  | _ => cases h

/-- One diagnostic for each annotation that is reached, in document order and each with its own
data. Paths increase, so no occurrence is listed twice. -/
theorem diagnostics_follow_occurrences {root : Value} {result : ParseResult}
    (h : ofValue root = .ok result) (lines : Lines) :
    ∃ found : List (List Nat × Value),
      (∀ path v, (path, v) ∈ found ↔ Reaches root path v ∧ IsAnnotation v) ∧
      (found.Pairwise fun a b => a.1 < b.1) ∧
      List.Forall₂ (fun o d => Reported lines o.2 d) found (result.diagnostics lines) := by
  refine ⟨occurrences root, fun path v => mem_occurrences, pairwise_occurrences root, ?_⟩
  rw [ParseResult.diagnostics, annotations_ofValue h, List.map_map, List.forall₂_map_right_iff,
    List.forall₂_same]
  intro o _
  exact reported_note lines o.2

private def remark (kind message : String) : Value :=
  .record [("element", .string "annotation"),
    ("meta", .record [("classes", .array [.string kind])]), ("content", .string message)]

/-- An annotation below a category, beside something that is no element, and one after it. -/
private def nested : Value :=
  .record [("element", .string "parseResult"),
    ("content", .array [.record [("element", .string "category"),
      ("content", .array [.null, remark "warning" "first"])], remark "error" "second"])]

/-- What is no element is passed over, and the annotation in the category comes first. -/
theorem nested_diagnostics_follow :
    ∃ result found, ofValue nested = .ok result ∧
      (∀ path v, (path, v) ∈ found ↔ Reaches nested path v ∧ IsAnnotation v) ∧
      (found.Pairwise fun a b => a.1 < b.1) ∧
      List.Forall₂ (fun o d => Reported (Lines.ofText "") o.2 d) found
        (result.diagnostics (Lines.ofText "")) ∧
      (result.diagnostics (Lines.ofText "")).map (fun d => (d.severity, d.message)) =
        [(.warning, "first"), (.error, "second")] := by
  have hread : ofValue nested = .ok _ := rfl
  obtain ⟨found, hmem, hsorted, heach⟩ := diagnostics_follow_occurrences hread (Lines.ofText "")
  exact ⟨_, found, hread, hmem, hsorted, heach, rfl⟩

end ApiBlueprint.Refract
