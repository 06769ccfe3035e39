import ApiBlueprint.Proofs.Outline
import ApiBlueprint.Proofs.Serialization
import ApiBlueprint.Proofs.Tolerance

/-! The names in an outline, read off the JSON it comes from. An entry is named by the title of its
element, whatever the title is, so it has nothing to show exactly if that title is the empty
text. -/
namespace ApiBlueprint.Refract
open Json Source Text

/-- A text as it stands, or as the content of elements within elements. -/
inductive Spells : Value → String → Prop where
  | plain (s : String) : Spells (.string s) s
  | wrapped {v w : Value} {s : String} (helement : (v.get? "element").isSome)
      (hcontent : v.get? "content" = some w) (h : Spells w s) : Spells v s

def HasTag (tag : String) (v : Value) : Prop := v.get? "element" = some (.string tag)

private theorem HasTag.unique {a b : String} {v : Value} (ha : HasTag a v) (hb : HasTag b v) :
    a = b :=
  Value.string.inj (Option.some.inj (ha.symm.trans hb))

/-- The title of an element is the given text. -/
def Titled (v : Value) (name : String) : Prop :=
  ∃ about title, v.get? "meta" = some about ∧ about.get? "title" = some title ∧ Spells title name

/-- The category that stands for the API: the root, or the first one among the children of a whole
parse. -/
inductive IsApi : Value → Value → Prop where
  | root {v : Value} (h : HasTag "category" v) : IsApi v v
  | first {root api : Value} {front back : List Value} (hroot : HasTag "parseResult" root)
      (hcontent : root.get? "content" = some (.array (front ++ api :: back)))
      (hfront : ∀ v ∈ front, ¬ HasTag "category" v) (h : HasTag "category" api) : IsApi root api

private theorem IsApi.hasTag {root api : Value} (h : IsApi root api) : HasTag "category" api := by
  cases h with
  | root h => exact h
  | first _ _ _ h => exact h

/-- A resource at or below a value that is not within another resource. Unless the way down starts
within a group, it has to pass through a category. -/
inductive ResourceBelow : Bool → Value → Value → Prop where
  | here {v : Value} (h : HasTag "resource" v) : ResourceBelow true v v
  | down {grouped : Bool} {v child resource : Value} {tag : String} {children : List Value}
      (htag : HasTag tag v) (hresource : tag ≠ "resource") (hnote : tag ≠ "annotation")
      (hcontent : v.get? "content" = some (.array children)) (hchild : child ∈ children)
      (h : ResourceBelow (grouped || tag = "category") child resource) :
      ResourceBelow grouped v resource

/-- The elements that have an entry if they have a title: the API and the resources of its
groups. -/
inductive Outlined (root : Value) : Value → Prop where
  | api {v : Value} (h : IsApi root v) : Outlined root v
  | resource {api child v : Value} {children : List Value} (hapi : IsApi root api)
      (hcontent : api.get? "content" = some (.array children)) (hchild : child ∈ children)
      (h : ResourceBelow false child v) : Outlined root v

/-! Titles. -/

mutual

private theorem spells_of_unwrap {s : String} : ∀ v, unwrap v = .string s → Spells v s
  | .object members, h => by
    rw [unwrap] at h
    split at h
    · rename_i helement
      obtain ⟨w, hcontent, hw⟩ := spells_of_unwrapContent members h
      exact .wrapped helement hcontent hw
    · cases h
  | .string t, h => by
    rw [unwrap] at h
    · cases h
      exact .plain s
    · simp
  | .null, h => by simp [unwrap] at h
  | .bool _, h => by simp [unwrap] at h
  | .number _, h => by simp [unwrap] at h
  | .array _, h => by simp [unwrap] at h

private theorem spells_of_unwrapContent {s : String} : ∀ members : List (String × Value),
    unwrapContent members = .string s → ∃ w, Members.get? "content" members = some w ∧ Spells w s
  | [], h => by cases h
  | (key, v) :: rest, h => by
    rw [unwrapContent] at h
    rw [Members.get?]
    by_cases hkey : key = "content"
    · rw [if_pos hkey] at h ⊢
      exact ⟨v, rfl, spells_of_unwrap v h⟩
    · rw [if_neg hkey] at h ⊢
      exact spells_of_unwrapContent rest h

end

private theorem string?_eq_some_iff {v : Value} {s : String} : string? v = some s ↔ Spells v s := by
  constructor
  · intro h
    apply spells_of_unwrap
    rw [string?] at h
    cases hv : unwrap v with
    | string t =>
      rw [hv] at h
      rw [Option.some.inj h]
    | _ =>
      rw [hv] at h
      cases h
  · intro h
    induction h with
    | plain s => rfl
    | wrapped helement hcontent _ ih => rwa [string?, unwrap_layer helement hcontent]

def title? (v : Value) : Option Located :=
  ((v.get? "meta").bind (·.get? "title")).bind located?

private theorem titled_iff {v : Value} {name : String} :
    Titled v name ↔ ∃ title, title? v = some title ∧ title.content = name := by
  simp only [Titled, title?, Option.bind_eq_some_iff, ← string?_eq_some_iff]
  constructor
  · rintro ⟨about, title, habout, htitle, hname⟩
    exact ⟨⟨name, _⟩, ⟨title, ⟨about, habout, htitle⟩, by rw [located?, hname]; rfl⟩, rfl⟩
  · rintro ⟨found, ⟨title, ⟨about, habout, htitle⟩, hfound⟩, rfl⟩
    refine ⟨about, title, habout, htitle, ?_⟩
    obtain ⟨content, hcontent, hmade⟩ := Option.bind_eq_some_iff.mp hfound
    rw [hcontent, ← Option.some.inj hmade]

/-! Resources below an element of the tree and below the value it is read from. -/

/-- Titles of the resources at or below an element. They need a group unless there is one above. -/
def titlesAt (grouped : Bool) (e : Element) : List Located :=
  if grouped then Place.resourceTitles e else Place.groupedTitles e

private theorem titlesAt_category (grouped : Bool) (title : Option Located) (classes : List String)
    (children : List Element) :
    titlesAt grouped (.category title classes children) = children.flatMap (titlesAt true) := by
  have hresources : (Element.resourcesIn children).filterMap Resource.title =
      children.flatMap (titlesAt true) := Place.titles_resourcesIn children
  rw [← hresources]
  cases grouped with
  | true => rfl
  | false =>
    -- The search for groups ends here and the one for resources takes over.
    change ([⟨title, classes, children⟩].flatMap Category.resources).filterMap Resource.title = _
    rw [List.flatMap_singleton]
    rfl

private theorem titlesAt_resource (grouped : Bool) (title : Option Located) (href : Option String)
    (children : List Element) :
    titlesAt grouped (.resource title href children) = if grouped then title.toList else [] := by
  cases grouped with
  | true => cases title <;> rfl
  | false => rfl

private theorem titlesAt_other (grouped : Bool) (tag : String) (children : List Element) :
    titlesAt grouped (.other tag children) = children.flatMap (titlesAt grouped) := by
  cases grouped with
  | true => exact Place.titles_resourcesIn children
  | false => exact Place.titles_categoriesIn children

private theorem titlesAt_assemble (grouped : Bool) (tag : String) (members : Members)
    (children : List Element) :
    titlesAt grouped (assemble tag members children) =
      if tag = "resource" then if grouped then (title? (.object members)).toList else []
      else if tag = "annotation" then []
      else children.flatMap (titlesAt (grouped || tag = "category")) := by
  unfold assemble
  split
  · rw [titlesAt_category, if_neg (by decide), if_neg (by decide)]
    simp
  · rw [titlesAt_resource, if_pos rfl]
    rfl
  · rw [if_neg (by decide), if_pos rfl]
    cases grouped <;> rfl
  · rename_i hcategory hresource hnote
    rw [titlesAt_other, if_neg hresource, if_neg hnote, decide_eq_false hcategory,
      Bool.or_false]

private theorem mem_childrenOf {members : Members} {e : Element} :
    e ∈ childrenOf members ↔ ∃ children child, members.get? "content" = some (.array children) ∧
      child ∈ children ∧ element? child = some e := by
  rw [childrenOf_eq]
  cases hcontent : members.get? "content" with
  | none => simp
  | some content =>
    cases content with
    | array children => simp [items, elementsIn_eq]
    | _ => simp [items]

/-- What an element of the given name has below it. -/
private theorem resourceBelow_iff {grouped : Bool} {members : Members} {tag : String}
    {resource : Value} (htag : tag? members = some tag) :
    ResourceBelow grouped (.object members) resource ↔
      if tag = "resource" then grouped = true ∧ resource = .object members
      else tag ≠ "annotation" ∧ ∃ children child,
        members.get? "content" = some (.array children) ∧ child ∈ children ∧
          ResourceBelow (grouped || tag = "category") child resource := by
  have hthis : HasTag tag (.object members) := tag?_eq_some_iff.mp htag
  constructor
  · intro h
    cases h with
    | here hresource =>
      rw [if_pos (hthis.unique hresource)]
      exact ⟨rfl, rfl⟩
    | down hother hresource hnote hcontent hchild h =>
      obtain rfl := hthis.unique hother
      rw [if_neg hresource]
      exact ⟨hnote, _, _, hcontent, hchild, h⟩
  · intro h
    split at h
    · rename_i hresource
      obtain ⟨rfl, rfl⟩ := h
      exact .here (hresource ▸ hthis)
    · rename_i hresource
      obtain ⟨hnote, children, child, hcontent, hchild, h⟩ := h
      exact .down hthis hresource hnote hcontent hchild h

private theorem ResourceBelow.exists_element {grouped : Bool} {v resource : Value}
    (h : ResourceBelow grouped v resource) : ∃ e, element? v = some e := by
  refine Option.isSome_iff_exists.mp (isElement_iff.mp ?_)
  cases h with
  | here h => exact ⟨_, h⟩
  | down htag => exact ⟨_, htag⟩

private theorem mem_titlesAt (v : Value) : ∀ e, element? v = some e → ∀ grouped title,
    title ∈ titlesAt grouped e ↔ ∃ w, ResourceBelow grouped v w ∧ title? w = some title := by
  induction v using children_induction with
  | step v ih =>
    intro e he grouped title
    cases v with
    | object members =>
      obtain ⟨tag, htag, rfl⟩ := Option.map_eq_some_iff.mp he
      simp only [titlesAt_assemble, resourceBelow_iff htag]
      split
      · cases grouped <;> simp
      · split
        · rename_i hnote
          simp [hnote]
        · rename_i hnote
          simp only [List.mem_flatMap, mem_childrenOf]
          constructor
          · rintro ⟨e, ⟨children, child, hcontent, hchild, he⟩, htitle⟩
            obtain ⟨w, hw, hread⟩ := (ih children hcontent child hchild e he _ title).mp htitle
            exact ⟨w, ⟨hnote, children, child, hcontent, hchild, hw⟩, hread⟩
          · rintro ⟨w, ⟨-, children, child, hcontent, hchild, hw⟩, hread⟩
            obtain ⟨e, he⟩ := hw.exists_element
            exact ⟨e, ⟨children, child, hcontent, hchild, he⟩,
              (ih children hcontent child hchild e he _ title).mpr ⟨w, hw, hread⟩⟩
    | _ => cases he

/-! The API. -/

def category? (v : Value) : Option Category := (element? v).bind Element.category?

private theorem category?_of_hasTag {v : Value} (h : HasTag "category" v) :
    ∃ members classes, v = .object members ∧
      category? v = some ⟨title? v, classes, childrenOf members⟩ := by
  cases v with
  | object members =>
    have hread := congrArg (Option.bind · Element.category?) (element?_object h)
    exact ⟨members, _, rfl, hread⟩
  | _ => cases h

private theorem category?_eq_none {v : Value} : category? v = none ↔ ¬ HasTag "category" v := by
  constructor
  · intro hnone h
    obtain ⟨members, classes, -, hsome⟩ := category?_of_hasTag h
    rw [hnone] at hsome
    cases hsome
  · intro h
    cases v with
    | object members =>
      rw [category?, element?]
      cases htag : tag? members with
      | none => rfl
      | some tag =>
        have hne : tag ≠ "category" := by
          rintro rfl
          exact h (tag?_eq_some_iff.mp htag)
        rw [Option.map_some, Option.bind_some]
        unfold assemble
        split
        · exact absurd rfl hne
        · rfl
        · rfl
        · rfl
    | _ => rfl

private theorem hasTag_of_category? {v : Value} {c : Category} (h : category? v = some c) :
    HasTag "category" v := by
  by_contra hnot
  rw [category?_eq_none.mpr hnot] at h
  cases h

private theorem findSome?_childrenOf {members : Members} {c : Category} :
    (childrenOf members).findSome? Element.category? = some c ↔ ∃ front api back,
      members.get? "content" = some (.array (front ++ api :: back)) ∧ category? api = some c ∧
        ∀ v ∈ front, ¬ HasTag "category" v := by
  simp only [← category?_eq_none]
  rw [childrenOf_eq]
  cases hcontent : members.get? "content" with
  | none => simp
  | some content =>
    cases content with
    | array children =>
      rw [Option.map_some, Option.getD_some, items, elementsIn_eq, ← List.head?_filterMap,
        List.filterMap_filterMap, List.head?_filterMap, List.findSome?_eq_some_iff]
      simp [category?]
    | _ => simp [items]

private theorem api?_eq_some {root : Value} {result : ParseResult} (h : ofValue root = .ok result)
    {c : Category} : result.api? = some c ↔ ∃ v, IsApi root v ∧ category? v = some c := by
  obtain ⟨members, tag, rfl, htag, rfl⟩ := ofValue_eq_ok h
  have hthis : HasTag tag (.object members) := tag?_eq_some_iff.mp htag
  rw [ParseResult.api?]
  dsimp only
  by_cases hroot : tag = "parseResult"
  · subst hroot
    rw [if_pos rfl, findSome?_childrenOf]
    constructor
    · rintro ⟨front, api, back, hcontent, hapi, hfront⟩
      exact ⟨api, .first hthis hcontent hfront (hasTag_of_category? hapi), hapi⟩
    · rintro ⟨api, hisApi, hapi⟩
      cases hisApi with
      | root hcategory => exact absurd (hthis.unique hcategory) (by decide)
      | first _ hcontent hfront _ => exact ⟨_, _, _, hcontent, hapi, hfront⟩
  · have hread : [assemble tag members (childrenOf members)].findSome? Element.category? =
        category? (.object members) := by
      rw [category?, element?_object hthis, List.findSome?_singleton, Option.bind_some]
    rw [if_neg hroot, hread]
    constructor
    · intro hapi
      exact ⟨_, .root (hasTag_of_category? hapi), hapi⟩
    · rintro ⟨api, hisApi, hapi⟩
      cases hisApi with
      | root _ => exact hapi
      | first hresult => exact absurd (hthis.unique hresult) hroot

/-! Entries. -/

/-- The title is the API's or that of a resource in one of its groups. -/
def Lists (result : ParseResult) (title : Located) : Prop :=
  ∃ c, result.api? = some c ∧
    (c.title = some title ∨ title ∈ c.children.flatMap (titlesAt false))

private theorem exists_symbol_named {result : ParseResult} {lines : Lines} {name : String} :
    (∃ s ∈ result.symbols lines, s.name = name) ↔
      ∃ title, Lists result title ∧ title.content = name := by
  have hgroups (c : Category) : (c.groups.flatMap Category.resources).filterMap Resource.title =
      c.children.flatMap (titlesAt false) := Place.titles_categoriesIn c.children
  unfold Lists
  rw [ParseResult.symbols]
  cases hapi : result.api? with
  | none => simp
  | some c =>
    simp only [hgroups, List.mem_append, Option.mem_toList, Option.map_eq_some_iff, List.mem_map]
    constructor
    · rintro ⟨s, ⟨title, htitle, rfl⟩ | ⟨title, htitle, rfl⟩, hname⟩
      · exact ⟨title, ⟨c, rfl, .inl htitle⟩, hname⟩
      · exact ⟨title, ⟨c, rfl, .inr htitle⟩, hname⟩
    · rintro ⟨title, ⟨c', hc, htitle⟩, hname⟩
      obtain rfl := Option.some.inj hc
      rcases htitle with htitle | htitle
      · exact ⟨_, .inl ⟨title, htitle, rfl⟩, hname⟩
      · exact ⟨_, .inr ⟨title, htitle, rfl⟩, hname⟩

private theorem lists_iff {root : Value} {result : ParseResult} (h : ofValue root = .ok result)
    {title : Located} : Lists result title ↔ ∃ v, Outlined root v ∧ title? v = some title := by
  simp only [Lists, api?_eq_some h]
  constructor
  · rintro ⟨c, ⟨api, hapi, hread⟩, htitle⟩
    obtain ⟨members, classes, rfl, hcategory⟩ := category?_of_hasTag hapi.hasTag
    obtain rfl := Option.some.inj (hread.symm.trans hcategory)
    rcases htitle with htitle | htitle
    · exact ⟨_, .api hapi, htitle⟩
    · obtain ⟨e, he, hmem⟩ := List.mem_flatMap.mp htitle
      obtain ⟨children, child, hcontent, hchild, hchildRead⟩ := mem_childrenOf.mp he
      obtain ⟨v, hbelow, hv⟩ := (mem_titlesAt child e hchildRead false title).mp hmem
      exact ⟨v, .resource hapi hcontent hchild hbelow, hv⟩
  · rintro ⟨v, houtlined, hv⟩
    cases houtlined with
    | api hapi =>
      obtain ⟨members, classes, -, hcategory⟩ := category?_of_hasTag hapi.hasTag
      exact ⟨_, ⟨v, hapi, hcategory⟩, .inl hv⟩
    | @resource api child _ children hapi hcontent hchild hbelow =>
      obtain ⟨members, classes, rfl, hcategory⟩ := category?_of_hasTag hapi.hasTag
      obtain ⟨e, he⟩ := hbelow.exists_element
      have hmem := (mem_titlesAt child e he false title).mpr ⟨v, hbelow, hv⟩
      have hamong := mem_childrenOf.mpr ⟨children, child, hcontent, hchild, he⟩
      exact ⟨_, ⟨_, hapi, hcategory⟩, .inr (List.mem_flatMap.mpr ⟨e, hamong, hmem⟩)⟩

/-- The names shown are the titles of the elements outlined, all of them and no others. So every
entry has something to show exactly if none of these elements has the empty text for its title. -/
theorem names_are_the_titles {root : Value} {result : ParseResult} (h : ofValue root = .ok result)
    (lines : Lines) :
    (∀ name, (∃ s ∈ result.symbols lines, s.name = name) ↔
        ∃ v, Outlined root v ∧ Titled v name) ∧
      ((∀ s ∈ result.symbols lines, s.name ≠ "") ↔ ∀ v, Outlined root v → ¬ Titled v "") := by
  have hnames (name : String) : (∃ s ∈ result.symbols lines, s.name = name) ↔
      ∃ v, Outlined root v ∧ Titled v name := by
    simp only [exists_symbol_named, lists_iff h, titled_iff]
    constructor
    · rintro ⟨title, ⟨v, houtlined, hv⟩, hname⟩
      exact ⟨v, houtlined, title, hv, hname⟩
    · rintro ⟨v, houtlined, title, hv, hname⟩
      exact ⟨title, ⟨v, houtlined, hv⟩, hname⟩
  refine ⟨hnames, ?_, ?_⟩
  · intro hall v houtlined htitled
    obtain ⟨s, hs, hempty⟩ := (hnames "").mpr ⟨v, houtlined, htitled⟩
    exact hall s hs hempty
  · intro hall s hs hempty
    obtain ⟨v, houtlined, htitled⟩ := (hnames "").mp ⟨s, hs, hempty⟩
    exact hall v houtlined htitled

/-- An API with one group of one resource, under the given titles. -/
private def titledApi (name entry : Value) : Value :=
  .record [("element", .string "category"), ("meta", .record [("title", name)]),
    ("content", .array [.record [("element", .string "category"),
      ("content", .array [.record [("element", .string "resource"),
        ("meta", .record [("title", entry)])]])]])]

private def readApi (name entry : String) : ParseResult :=
  ⟨[.category (some ⟨name, none⟩) [] [.category none [] [.resource (some ⟨entry, none⟩) none []]]]⟩

/-- Titles bare and within two layers. -/
theorem layered_titles_are_shown :
    ofValue (titledApi (layer .null (layer .null (.string "Shop"))) (.string "Order")) =
        .ok (readApi "Shop" "Order") ∧
      ((readApi "Shop" "Order").symbols (Lines.ofText "")).map Symbol.name = ["Shop", "Order"] ∧
      ∀ v, Outlined (titledApi (layer .null (layer .null (.string "Shop"))) (.string "Order")) v →
        ¬ Titled v "" := by
  have hread : ofValue (titledApi (layer .null (layer .null (.string "Shop"))) (.string "Order")) =
      .ok (readApi "Shop" "Order") := rfl
  refine ⟨hread, rfl, (names_are_the_titles hread (Lines.ofText "")).2.mp ?_⟩
  decide

/-- A resource with the empty text for its title has an entry all the same. -/
theorem empty_title_is_shown :
    ofValue (titledApi (.string "Shop") (.string "")) = .ok (readApi "Shop" "") ∧
      ∃ s ∈ (readApi "Shop" "").symbols (Lines.ofText ""), s.name = "" := by
  refine ⟨rfl, ?_⟩
  decide

end ApiBlueprint.Refract
