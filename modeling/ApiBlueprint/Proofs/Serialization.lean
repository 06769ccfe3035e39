import ApiBlueprint.Proofs.Occurrence
import ApiBlueprint.Proofs.Tree
import ApiBlueprint.Proofs.Value

/-! The forms in which a parse tree may be written. Every value stands bare or inside layers of its
own, each independently of all others, and whatever the choice the tree is read back. -/
namespace ApiBlueprint.Refract
open Json Source

/-- A value as the content of an element. -/
def layer (kind v : Value) : Value := .record [("element", kind), ("content", v)]

/-- A value bare or inside any number of layers. -/
inductive Wraps (v : Value) : Value → Prop where
  | bare : Wraps v v
  | layer (kind : Value) {w : Value} (h : Wraps v w) : Wraps v (layer kind w)

/-- A span is a pair of numbers. -/
inductive SpanForm (span : Span) : Value → Prop where
  | pair {a b w : Value} (ha : Wraps (.ofNat64 span.offset) a) (hb : Wraps (.ofNat64 span.length) b)
      (hw : Wraps (.array [a, b]) w) : SpanForm span w

inductive BlockForm (spans : List Span) : Value → Prop where
  | block {pairs : List Value} {w : Value} (hp : List.Forall₂ SpanForm spans pairs)
      (hw : Wraps (.array pairs) w) : BlockForm spans w

/-- The spans of a source map are cut into blocks anywhere. -/
inductive MapForm (map : SourceMap) : Value → Prop where
  | cut {parts : List (List Span)} {blocks : List Value} {w : Value}
      (hs : parts.flatten = map.spans) (hb : List.Forall₂ BlockForm parts blocks)
      (hw : Wraps (.array blocks) w) : MapForm map w

/-- A title that has a source map carries it on its outermost layer. -/
inductive TitleForm : Located → Value → Prop where
  | plain {content : String} {w : Value} (hw : Wraps (.string content) w) :
      TitleForm ⟨content, none⟩ w
  | mapped {content : String} {map : SourceMap} (kind : Value) {w m : Value}
      (hw : Wraps (.string content) w) (hm : MapForm map m) :
      TitleForm ⟨content, some map⟩ (.record [("element", kind),
        ("attributes", .record [("sourceMap", m)]), ("content", w)])

inductive ClassesForm (classes : List String) : Value → Prop where
  | list {names : List Value} {w : Value}
      (hn : List.Forall₂ (fun name => Wraps (.string name)) classes names)
      (hw : Wraps (.array names) w) : ClassesForm classes w

/-- A member may be left out if it has the value that is read without it. -/
inductive Field {α : Type} (absent : α) (Form : α → Value → Prop) : α → Option Value → Prop where
  | given {a : α} {w : Value} (h : Form a w) : Field absent Form a (some w)
  | omitted : Field absent Form absent none

/-- An object within an element may be left out if it has no members. -/
inductive PartForm (members : List (String × Option Value)) : Option Value → Prop where
  | given : PartForm members (some (.sparse members))
  | omitted (h : ∀ m ∈ members, m.2 = none) : PartForm members none

/-- Children stand in a list that has no layers. -/
def ContentForm (children : List Value) (w : Value) : Prop := w = .array children

inductive ElementForm : Element → Value → Prop where
  | category {title : Option Located} {classes : List String} {children : List Element}
      {t c about content : Option Value} {vs : List Value}
      (ht : Option.Rel TitleForm title t) (hc : Field [] ClassesForm classes c)
      (ha : PartForm [("title", t), ("classes", c)] about)
      (hs : List.Forall₂ ElementForm children vs) (hv : Field [] ContentForm vs content) :
      ElementForm (.category title classes children) (.sparse
        [("element", some (.string "category")), ("meta", about), ("content", content)])
  | resource {title : Option Located} {href : Option String} {children : List Element}
      {t h about attributes content : Option Value} {vs : List Value}
      (ht : Option.Rel TitleForm title t) (ha : PartForm [("title", t)] about)
      (hh : Option.Rel (fun s => Wraps (.string s)) href h) (hb : PartForm [("href", h)] attributes)
      (hs : List.Forall₂ ElementForm children vs) (hv : Field [] ContentForm vs content) :
      ElementForm (.resource title href children) (.sparse
        [("element", some (.string "resource")), ("meta", about), ("attributes", attributes),
          ("content", content)])
  | remark {note : Note} {c about k m attributes content : Option Value}
      (hc : Field [] ClassesForm note.classes c) (ha : PartForm [("classes", c)] about)
      (hk : Option.Rel (fun code => Wraps code.toValue) note.code k)
      (hm : Option.Rel MapForm note.sourceMap m)
      (hb : PartForm [("code", k), ("sourceMap", m)] attributes)
      (hv : Field "" (fun s => Wraps (.string s)) note.message content) :
      ElementForm (.remark note) (.sparse
        [("element", some (.string "annotation")), ("meta", about), ("attributes", attributes),
          ("content", content)])
  | other {tag : String} {children : List Element} {content : Option Value} {vs : List Value}
      (hs : List.Forall₂ ElementForm children vs) (hv : Field [] ContentForm vs content) :
      ElementForm (.other tag children) (.sparse
        [("element", some (.string tag)), ("content", content)])

/-- A whole parse is written as a root that is not one of its elements. -/
inductive ResultForm (result : ParseResult) : Value → Prop where
  | root {content : Option Value} {vs : List Value}
      (hs : List.Forall₂ ElementForm result.content vs) (hv : Field [] ContentForm vs content) :
      ResultForm result (.sparse [("element", some (.string "parseResult")), ("content", content)])

def HasSpans (map : Option SourceMap) : Prop := ∀ m ∈ map, m.spans ≠ []

/-- What a written form can tell of an element on its own. An empty source map is as good as none,
and the three names have a meaning. -/
def Expressible : Element → Prop
  | .category title _ _ => ∀ t ∈ title, HasSpans t.sourceMap
  | .resource title _ _ => ∀ t ∈ title, HasSpans t.sourceMap
  | .remark note => HasSpans note.sourceMap
  | .other tag _ => tag ∉ ["category", "resource", "annotation"]

/-! Layers are taken off. -/

private theorem get?_layer (key : String) (kind v : Value) :
    (layer kind v).get? key = List.lookup key [("element", kind), ("content", v)] :=
  Value.get?_record key (by simp)

private theorem unwrapContent_eq (members : Members) :
    unwrapContent members = ((members.get? "content").map unwrap).getD .null := by
  induction members with
  | nil => rfl
  | cons member rest ih =>
    obtain ⟨key, v⟩ := member
    rw [unwrapContent, Members.get?]
    split
    · rfl
    · exact ih

private theorem spansOfContent_eq (members : Members) :
    spansOfContent members = ((members.get? "content").map spans).getD [] := by
  induction members with
  | nil => rfl
  | cons member rest ih =>
    obtain ⟨key, v⟩ := member
    rw [spansOfContent, Members.get?]
    split
    · rfl
    · exact ih

section Layer
variable {v w : Value} (he : (v.get? "element").isSome) (hc : v.get? "content" = some w)
include he hc

/-- Unwrapping goes through one layer at a time. -/
theorem unwrap_layer : unwrap v = unwrap w := by
  cases v with
  | object members =>
    simp only [Value.get?] at he hc
    simp [unwrap, Members.contains, he, unwrapContent_eq, hc]
  | _ => cases he

private theorem spans_layer : spans v = spans w := by
  cases v with
  | object members =>
    simp only [Value.get?] at he hc
    simp [spans, Members.contains, he, spansOfContent_eq, hc]
  | _ => cases he

end Layer

namespace Wraps
variable {v w : Value}

private theorem unwrap_eq (h : Wraps v w) : unwrap w = unwrap v := by
  induction h with
  | bare => rfl
  | layer kind h ih =>
    refine (unwrap_layer ?_ (get?_layer "content" kind _)).trans ih
    rw [get?_layer]
    rfl

private theorem spans_eq (h : Wraps v w) : spans w = spans v := by
  induction h with
  | bare => rfl
  | layer kind h ih =>
    refine (spans_layer ?_ (get?_layer "content" kind _)).trans ih
    rw [get?_layer]
    rfl

private theorem unwrap_array {items : List Value} (h : Wraps (.array items) w) :
    unwrap w = .array items :=
  h.unwrap_eq.trans rfl

private theorem string?_eq {s : String} (h : Wraps (.string s) w) : string? w = some s := by
  rw [string?, h.unwrap_eq]
  rfl

private theorem code?_eq {code : Code} (h : Wraps code.toValue w) : code? w = some code := by
  rw [code?, h.unwrap_eq]
  cases code with
  | number n =>
    have hread : Code.ofScalar? (.ofInt64 n) = some (.number n) := by
      simp [Code.ofScalar?, Value.int64?_ofInt64]
    exact hread
  | text s => rfl

/-- Layers around a text have no attributes. -/
theorem attributes_eq {s : String} (h : Wraps (.string s) w) : w.get? "attributes" = none := by
  cases h with
  | bare => rfl
  | layer kind h => exact get?_layer ..

end Wraps

/-! Source maps keep their spans in order, however they are cut. -/

private theorem spansIn_eq (vs : List Value) : spansIn vs = vs.flatMap spans := by
  induction vs with
  | nil => rfl
  | cons v rest ih => rw [spansIn, ih, List.flatMap_cons]

/-- A list of lists is entered, even if it has two of them: they are no offset and length. -/
theorem spans_array {α : Type} {Form : α → Value → Prop} {f : α → List Span} {as : List α}
    {vs : List Value} (h : List.Forall₂ Form as vs)
    (hf : ∀ a v, Form a v → (∃ items, unwrap v = .array items) ∧ spans v = f a) :
    spans (.array vs) = as.flatMap f := by
  have hpair : pair? vs = none := by
    unfold pair?
    split
    · cases h with
      | cons hfirst _ =>
        obtain ⟨⟨items, hitems⟩, -⟩ := hf _ _ hfirst
        rw [hitems]
        rfl
    · rfl
  have hall : vs.flatMap spans = as.flatMap f := by
    clear hpair
    induction h with
    | nil => rfl
    | cons hfirst _ ih => rw [List.flatMap_cons, List.flatMap_cons, ih, (hf _ _ hfirst).2]
  rw [spans, hpair, spansIn_eq]
  exact hall

private theorem SpanForm.spans_eq (span : Span) (w : Value) (h : SpanForm span w) :
    (∃ items, unwrap w = .array items) ∧ spans w = [span] := by
  obtain ⟨ha, hb, hw⟩ := h
  refine ⟨⟨_, hw.unwrap_array⟩, ?_⟩
  rw [hw.spans_eq, spans]
  simp [pair?, ha.unwrap_eq, hb.unwrap_eq, Value.ofNat64, unwrap, Value.nat64?]

private theorem BlockForm.spans_eq (part : List Span) (w : Value) (h : BlockForm part w) :
    (∃ items, unwrap w = .array items) ∧ spans w = part := by
  obtain ⟨hp, hw⟩ := h
  refine ⟨⟨_, hw.unwrap_array⟩, ?_⟩
  rw [hw.spans_eq, spans_array hp SpanForm.spans_eq, List.flatMap_singleton']

private theorem MapForm.sourceMap?_eq {map : SourceMap} {w : Value} (h : MapForm map w)
    (hne : map.spans ≠ []) : sourceMap? w = some map := by
  obtain ⟨hs, hb, hw⟩ := h
  have hspans : spans w = map.spans := by
    rw [hw.spans_eq, spans_array (f := id) hb BlockForm.spans_eq, List.flatMap_id, hs]
  simp [sourceMap?, hspans, hne]

/-! Members of an element. -/

private theorem TitleForm.located?_eq {title : Located} {w : Value} (h : TitleForm title w)
    (hne : HasSpans title.sourceMap) : located? w = some title := by
  cases h with
  | plain hw => simp [located?, hw.string?_eq, hw.attributes_eq]
  | @mapped content map kind w m hw hm =>
    have hget (key : String) : (Value.record [("element", kind),
        ("attributes", .record [("sourceMap", m)]), ("content", w)]).get? key =
          List.lookup key [("element", kind), ("attributes", .record [("sourceMap", m)]),
            ("content", w)] :=
      Value.get?_record key (by simp)
    have hstring : string? (.record [("element", kind),
        ("attributes", .record [("sourceMap", m)]), ("content", w)]) = some content := by
      rw [string?, unwrap_layer (by rw [hget]; rfl) (hget "content"), ← string?, hw.string?_eq]
    have hattributes : (Value.record [("element", kind),
        ("attributes", .record [("sourceMap", m)]), ("content", w)]).get? "attributes" =
          some (.record [("sourceMap", m)]) := hget "attributes"
    have hmap : (Value.record [("sourceMap", m)]).get? "sourceMap" = some m :=
      Value.get?_record _ (by simp)
    simp [located?, hstring, hattributes, hmap, hm.sourceMap?_eq (hne map rfl)]

private theorem ClassesForm.strings_eq {classes : List String} {w : Value}
    (h : ClassesForm classes w) :
    strings w = classes := by
  obtain ⟨hn, hw⟩ := h
  rw [strings, hw.unwrap_array]
  dsimp only
  clear hw
  induction hn with
  | nil => rfl
  | cons hfirst _ ih => rw [List.filterMap_cons, hfirst.string?_eq, ih]

private theorem PartForm.get?_eq {members : List (String × Option Value)} {part : Option Value}
    (h : PartForm members part) (hn : (members.map Prod.fst).Nodup) (key : String) :
    part.bind (·.get? key) = (members.lookup key).join := by
  cases h with
  | given => exact Value.get?_sparse key hn
  | omitted h =>
    cases hl : members.lookup key with
    | none => rfl
    | some v =>
      obtain ⟨before, after, rfl, -⟩ := List.lookup_eq_some_iff.mp hl
      exact (h (key, v) (by simp)).symm

private theorem PartForm.of_get? {members : Members} {name : String} {part : Option Value}
    {parts : List (String × Option Value)} (h : PartForm parts part)
    (hget : members.get? name = part) (hn : (parts.map Prod.fst).Nodup) (key : String) :
    (members.get? name).bind (·.get? key) = (parts.lookup key).join := by
  rw [hget]
  exact h.get?_eq hn key

section Field
variable {w : Option Value}

private theorem title_eq {title : Option Located} (h : Option.Rel TitleForm title w)
    (hne : ∀ t ∈ title, HasSpans t.sourceMap) : w.bind located? = title := by
  cases h with
  | none => rfl
  | some h => exact h.located?_eq (hne _ rfl)

private theorem href_eq {href : Option String}
    (h : Option.Rel (fun s => Wraps (.string s)) href w) :
    w.bind string? = href := by
  cases h with
  | none => rfl
  | some h => exact h.string?_eq

private theorem code_eq {code : Option Code}
    (h : Option.Rel (fun code => Wraps code.toValue) code w) :
    w.bind code? = code := by
  cases h with
  | none => rfl
  | some h => exact h.code?_eq

private theorem sourceMap_eq {map : Option SourceMap} (h : Option.Rel MapForm map w)
    (hne : HasSpans map) : w.bind sourceMap? = map := by
  cases h with
  | none => rfl
  | some h => exact h.sourceMap?_eq (hne _ rfl)

private theorem classes_eq {classes : List String} (h : Field [] ClassesForm classes w) :
    (w.map strings).getD [] = classes := by
  cases h with
  | omitted => rfl
  | given h => exact h.strings_eq

private theorem message_eq {message : String}
    (h : Field "" (fun s => Wraps (.string s)) message w) : (w.bind string?).getD "" = message := by
  cases h with
  | omitted => rfl
  | given h => rw [Option.bind_some, h.string?_eq, Option.getD_some]

private theorem content_eq {vs : List Value} (h : Field [] ContentForm vs w) :
    (w.map items).getD [] = elementsIn vs := by
  cases h with
  | omitted => rfl
  | given h =>
    rw [ContentForm] at h
    subst h
    rfl

end Field

/-! Whole trees. -/

/-- An object with a tag is an element of that tag. -/
theorem element?_object {members : Members} {tag : String}
    (h : members.get? "element" = some (.string tag)) :
    element? (.object members) = some (assemble tag members (childrenOf members)) := by
  rw [element?, tag?, h]
  rfl

private theorem elementsIn_of_each {children : List Element} {vs : List Value}
    (h : List.Forall₂ ElementForm children vs)
    (hread : ∀ child ∈ children, ∀ v, ElementForm child v → element? v = some child) :
    elementsIn vs = children := by
  induction h with
  | nil => rfl
  | @cons child v children vs hfirst _ ih =>
    rw [elementsIn, hread child List.mem_cons_self v hfirst,
      ih fun c hc => hread c (List.mem_cons_of_mem _ hc)]
    rfl

section Assemble
variable {members : Members} {about attributes content : Option Value}

private theorem assemble_category {title : Option Located} {classes : List String}
    {t c : Option Value} (hget : members.get? "meta" = about)
    (ha : PartForm [("title", t), ("classes", c)] about) (ht : Option.Rel TitleForm title t)
    (hne : ∀ t ∈ title, HasSpans t.sourceMap) (hc : Field [] ClassesForm classes c)
    (children : List Element) :
    assemble "category" members children = .category title classes children := by
  have htitle : (members.get? "meta").bind (·.get? "title") = t :=
    ha.of_get? hget (by simp) "title"
  have hclasses : (members.get? "meta").bind (·.get? "classes") = c :=
    ha.of_get? hget (by simp) "classes"
  simp only [assemble, htitle, hclasses, title_eq ht hne, classes_eq hc]

private theorem assemble_resource {title : Option Located} {href : Option String}
    {t h : Option Value} (hget : members.get? "meta" = about) (ha : PartForm [("title", t)] about)
    (ht : Option.Rel TitleForm title t) (hne : ∀ t ∈ title, HasSpans t.sourceMap)
    (hget' : members.get? "attributes" = attributes) (hb : PartForm [("href", h)] attributes)
    (hh : Option.Rel (fun s => Wraps (.string s)) href h) (children : List Element) :
    assemble "resource" members children = .resource title href children := by
  have htitle : (members.get? "meta").bind (·.get? "title") = t :=
    ha.of_get? hget (by simp) "title"
  have hhref : (members.get? "attributes").bind (·.get? "href") = h :=
    hb.of_get? hget' (by simp) "href"
  simp only [assemble, htitle, hhref, title_eq ht hne, href_eq hh]

private theorem assemble_remark {note : Note} {c k m : Option Value}
    (hget : members.get? "meta" = about) (ha : PartForm [("classes", c)] about)
    (hc : Field [] ClassesForm note.classes c) (hget' : members.get? "attributes" = attributes)
    (hb : PartForm [("code", k), ("sourceMap", m)] attributes)
    (hk : Option.Rel (fun code => Wraps code.toValue) note.code k)
    (hm : Option.Rel MapForm note.sourceMap m) (hne : HasSpans note.sourceMap)
    (hcontent : members.get? "content" = content)
    (hv : Field "" (fun s => Wraps (.string s)) note.message content) (children : List Element) :
    assemble "annotation" members children = .remark note := by
  have hclasses : (members.get? "meta").bind (·.get? "classes") = c :=
    ha.of_get? hget (by simp) "classes"
  have hcode : (members.get? "attributes").bind (·.get? "code") = k :=
    hb.of_get? hget' (by simp) "code"
  have hmap : (members.get? "attributes").bind (·.get? "sourceMap") = m :=
    hb.of_get? hget' (by simp) "sourceMap"
  simp only [assemble, hclasses, hcode, hmap, hcontent, classes_eq hc, code_eq hk, message_eq hv,
    sourceMap_eq hm hne]

private theorem assemble_other {tag : String} {children : List Element}
    (h : Expressible (.other tag children)) :
    assemble tag members children = .other tag children := by
  simp only [Expressible, List.mem_cons, List.not_mem_nil, or_false, not_or] at h
  unfold assemble
  split
  · exact absurd rfl h.1
  · exact absurd rfl h.2.1
  · exact absurd rfl h.2.2
  · rfl

end Assemble

/-- The members of a written element by their keys. -/
theorem exists_members (parts : List (String × Option Value))
    (h : (parts.map Prod.fst).Nodup) :
    ∃ members : Members, Value.sparse parts = .object members ∧
      ∀ key, members.get? key = (parts.lookup key).join :=
  ⟨_, rfl, fun key => Value.get?_sparse key h⟩

private theorem element?_of_form (e : Element) (he : Expressible e)
    (hbelow : ∀ p, Place.Below e.children p → Expressible p.element) :
    ∀ v, ElementForm e v → element? v = some e := by
  induction e using Element.induction_on_children with
  | step e ih =>
    have hchildren {members : Members} {content : Option Value} {vs : List Value}
        (hget : members.get? "content" = content) (hs : List.Forall₂ ElementForm e.children vs)
        (hv : Field [] ContentForm vs content) : childrenOf members = e.children := by
      rw [childrenOf_eq, hget, content_eq hv]
      refine elementsIn_of_each hs ?_
      intro child hchild
      obtain ⟨i, hi⟩ := List.getElem?_of_mem hchild
      exact ih child hchild (hbelow _ (.child hi))
        fun p hp => hbelow (p.under i child) (.deeper hi hp)
    intro v hv
    cases hv with
    | @category title classes children t c about content vs ht hc ha hs hv =>
      obtain ⟨members, hobject, hget⟩ := exists_members [("element", some (.string "category")),
        ("meta", about), ("content", content)] (by simp)
      rw [hobject, element?_object (hget "element"), hchildren (hget "content") hs hv,
        assemble_category (hget "meta") ha ht he hc]
      rfl
    | @resource title href children t h about attributes content vs ht ha hh hb hs hv =>
      obtain ⟨members, hobject, hget⟩ := exists_members [("element", some (.string "resource")),
        ("meta", about), ("attributes", attributes), ("content", content)] (by simp)
      rw [hobject, element?_object (hget "element"), hchildren (hget "content") hs hv,
        assemble_resource (hget "meta") ha ht he (hget "attributes") hb hh]
      rfl
    | @remark note c about k m attributes content hc ha hk hm hb hv =>
      obtain ⟨members, hobject, hget⟩ := exists_members [("element", some (.string "annotation")),
        ("meta", about), ("attributes", attributes), ("content", content)] (by simp)
      rw [hobject, element?_object (hget "element"),
        assemble_remark (hget "meta") ha hc (hget "attributes") hb hk hm he (hget "content") hv]
    | @other tag children content vs hs hv =>
      obtain ⟨members, hobject, hget⟩ := exists_members [("element", some (.string tag)),
        ("content", content)] (by simp)
      rw [hobject, element?_object (hget "element"), hchildren (hget "content") hs hv]
      exact congrArg some (assemble_other he)

/-! Every tree has a written form. -/

private theorem exists_forall₂ {α β : Type} (R : α → β → Prop) (as : List α)
    (h : ∀ a ∈ as, ∃ b, R a b) : ∃ bs, List.Forall₂ R as bs := by
  induction as with
  | nil => exact ⟨[], .nil⟩
  | cons a rest ih =>
    obtain ⟨b, hb⟩ := h a List.mem_cons_self
    obtain ⟨bs, hbs⟩ := ih fun c hc => h c (List.mem_cons_of_mem _ hc)
    exact ⟨b :: bs, .cons hb hbs⟩

private theorem exists_rel {α β : Type} {R : α → β → Prop} (h : ∀ a, ∃ b, R a b) (o : Option α) :
    ∃ w, Option.Rel R o w := by
  cases o with
  | none => exact ⟨none, .none⟩
  | some a =>
    obtain ⟨b, hb⟩ := h a
    exact ⟨some b, .some hb⟩

private theorem exists_mapForm (map : SourceMap) : ∃ w, MapForm map w := by
  obtain ⟨pairs, hp⟩ := exists_forall₂ SpanForm map.spans
    fun span _ => ⟨_, .pair .bare .bare .bare⟩
  have hs : [map.spans].flatten = map.spans := by simp
  exact ⟨_, .cut hs (.cons (.block hp .bare) .nil) .bare⟩

private theorem exists_titleForm (title : Located) : ∃ w, TitleForm title w := by
  obtain ⟨content, map⟩ := title
  cases map with
  | none => exact ⟨_, .plain .bare⟩
  | some map =>
    obtain ⟨m, hm⟩ := exists_mapForm map
    exact ⟨_, .mapped (.string "string") .bare hm⟩

private theorem exists_classesForm (classes : List String) : ∃ w, ClassesForm classes w := by
  obtain ⟨names, hn⟩ := exists_forall₂ (fun name => Wraps (.string name)) classes
    fun name _ => ⟨_, .bare⟩
  exact ⟨_, .list hn .bare⟩

private theorem exists_elementForm (e : Element) : ∃ v, ElementForm e v := by
  induction e using Element.induction_on_children with
  | step e ih =>
    obtain ⟨vs, hs⟩ := exists_forall₂ ElementForm e.children ih
    cases e with
    | category title classes children =>
      obtain ⟨t, ht⟩ := exists_rel exists_titleForm title
      obtain ⟨c, hc⟩ := exists_classesForm classes
      exact ⟨_, .category ht (.given hc) .given hs (.given rfl)⟩
    | resource title href children =>
      obtain ⟨t, ht⟩ := exists_rel exists_titleForm title
      obtain ⟨h, hh⟩ := exists_rel (fun s => ⟨_, Wraps.bare (v := .string s)⟩) href
      exact ⟨_, .resource ht .given hh .given hs (.given rfl)⟩
    | remark note =>
      obtain ⟨c, hc⟩ := exists_classesForm note.classes
      obtain ⟨k, hk⟩ := exists_rel (fun code => ⟨_, Wraps.bare (v := Code.toValue code)⟩) note.code
      obtain ⟨m, hm⟩ := exists_rel exists_mapForm note.sourceMap
      exact ⟨_, .remark (.given hc) .given hk hm .given (.given .bare)⟩
    | other tag children => exact ⟨_, .other hs (.given rfl)⟩

/-- Reading undoes writing, whichever of its forms a tree was written in, provided that its source
maps have spans and no other element takes the name of a known one. -/
theorem written_forms_are_read_back {result : ParseResult}
    (h : ∀ p, Place.Below result.content p → Expressible p.element) :
    (∃ v, ResultForm result v) ∧ ∀ v, ResultForm result v → ofValue v = .ok result := by
  refine ⟨?_, ?_⟩
  · obtain ⟨vs, hs⟩ := exists_forall₂ ElementForm result.content fun e _ => exists_elementForm e
    exact ⟨_, .root hs (.given rfl)⟩
  · rintro v ⟨hs, hv⟩
    rename_i content vs
    obtain ⟨members, hobject, hget⟩ := exists_members [("element", some (.string "parseResult")),
      ("content", content)] (by simp)
    have htag : tag? members = some "parseResult" := by
      rw [tag?, hget "element"]
      rfl
    have hchildren : childrenOf members = result.content := by
      rw [childrenOf_eq, hget "content"]
      refine (content_eq hv).trans (elementsIn_of_each hs ?_)
      intro child hchild
      obtain ⟨i, hi⟩ := List.getElem?_of_mem hchild
      exact element?_of_form child (h _ (.child hi))
        fun p hp => h (p.under i child) (.deeper hi hp)
    rw [hobject, ofValue, htag]
    simp [hchildren]

private def sample : ParseResult :=
  ⟨[.category (some ⟨"A", some ⟨[⟨2, 1⟩, ⟨4, 0⟩, ⟨9, 3⟩]⟩⟩) ["api", "draft"] [.other "copy" []],
    .remark ⟨[], some (.number (-6)), "late", some ⟨[⟨0, 5⟩]⟩⟩]⟩

/-- Two blocks, the first of two pairs, of which one stands in a layer. -/
private def cuts : Value :=
  .array [.array [layer .null (.array [.ofNat64 2, layer .null (.ofNat64 1)]),
    .array [.ofNat64 4, .ofNat64 0]], layer .null (.array [.array [.ofNat64 9, .ofNat64 3]])]

/-- Some values of the sample are bare and some have one or two layers. -/
private def mixed : Value :=
  .sparse [("element", some (.string "parseResult")), ("content", some (.array [
    .sparse [("element", some (.string "category")),
      ("meta", some (.sparse [
        ("title", some (.record [("element", .string "string"),
          ("attributes", .record [("sourceMap", cuts)]),
          ("content", layer (.string "string") (.string "A"))])),
        ("classes", some (.array [layer (.string "string") (.string "api"), .string "draft"]))])),
      ("content", some (.array [.sparse [("element", some (.string "copy")), ("content", none)]]))],
    .sparse [("element", some (.string "annotation")), ("meta", none),
      ("attributes", some (.sparse [("code", some (layer (.string "number") (.ofInt64 (-6)))),
        ("sourceMap", some (layer (.string "array") (layer .null
          (.array [.array [.array [.ofNat64 0, .ofNat64 5]]]))))])),
      ("content", some (.string "late"))]]))]

private theorem cuts_form : MapForm ⟨[⟨2, 1⟩, ⟨4, 0⟩, ⟨9, 3⟩]⟩ cuts := by
  have hparts : [[⟨2, 1⟩, ⟨4, 0⟩], [⟨9, 3⟩]].flatten = ([⟨2, 1⟩, ⟨4, 0⟩, ⟨9, 3⟩] : List Span) := rfl
  refine .cut hparts (.cons ?_ (.cons ?_ .nil)) .bare
  · exact .block (.cons (.pair .bare (.layer _ .bare) (.layer _ .bare))
      (.cons (.pair .bare .bare .bare) .nil)) .bare
  · exact .block (.cons (.pair .bare .bare .bare) .nil) (.layer _ .bare)

private theorem mixed_form : ResultForm sample mixed := by
  refine .root (.cons ?_ (.cons ?_ .nil)) (.given rfl)
  · exact .category (.some (.mapped _ (.layer _ .bare) cuts_form))
      (.given (.list (.cons (.layer _ .bare) (.cons .bare .nil)) .bare)) .given
      (.cons (.other .nil .omitted) .nil) (.given rfl)
  · have hparts : [[⟨0, 5⟩]].flatten = ([⟨0, 5⟩] : List Span) := rfl
    exact .remark .omitted (.omitted (by simp)) (.some (.layer _ .bare))
      (.some (.cut hparts (.cons (.block (.cons (.pair .bare .bare .bare) .nil) .bare) .nil)
        (.layer _ (.layer _ .bare)))) .given (.given .bare)

/-- Wrapped and bare parts and a source map in two blocks are read as what they stand for. -/
theorem mixed_form_is_read_back :
    (∀ p, Place.Below sample.content p → Expressible p.element) ∧ ResultForm sample mixed ∧
      ofValue mixed = .ok sample := by
  have hsample : ∀ p, Place.Below sample.content p → Expressible p.element := by
    intro p hp
    have hmem := Place.mem_among_zero.mpr hp
    simp only [sample, Place.among, Place.within, List.map_nil, List.append_nil, List.map_cons,
      List.cons_append, List.nil_append, List.mem_cons, List.not_mem_nil, or_false] at hmem
    rcases hmem with rfl | rfl | rfl
    · simp [Expressible, HasSpans]
    · simp [Expressible, Place.under]
    · simp [Expressible, HasSpans]
  exact ⟨hsample, mixed_form, (written_forms_are_read_back hsample).2 mixed mixed_form⟩

end ApiBlueprint.Refract
