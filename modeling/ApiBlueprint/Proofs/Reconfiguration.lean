import ApiBlueprint.Proofs.Validation

/-! New settings for all open documents. The passes that follow are made in any order of the
documents: each touches its own document only and none outdates another, so they commute. -/
namespace ApiBlueprint
open Json

namespace Store

private theorem find?_of_mem {s : Store} {d : OpenDocument} (h : d ∈ s.documents) :
    s.find? d.uri = some d := by
  obtain ⟨before, after, hsplit⟩ := List.append_of_mem h
  have hnodup := s.nodup
  rw [hsplit, List.map_append, List.nodup_append] at hnodup
  refine List.find?_eq_some_iff_append.mpr ⟨by simp, before, after, hsplit, ?_⟩
  intro e he
  have hne : e.uri ≠ d.uri := hnodup.2.2 _ (List.mem_map_of_mem he) _ List.mem_cons_self
  simpa using hne

/-- The documents are what is found under the keys, in their order. -/
theorem documents_map_some (s : Store) : s.documents.map some = s.uris.map s.find? := by
  rw [uris, List.map_map]
  exact List.map_congr_left fun d hd => (find?_of_mem hd).symm

/-- Stores are equal if they have the same keys in the same order and the same documents under
them. -/
theorem ext_find? {s t : Store} (huris : s.uris = t.uris)
    (hgeneration : s.lastGeneration = t.lastGeneration)
    (hfind : ∀ key, s.find? key = t.find? key) : s = t := by
  have hdocuments : s.documents = t.documents := by
    have hsome : s.documents.map some = t.documents.map some := by
      rw [documents_map_some s, documents_map_some t, huris, funext hfind]
    exact (List.map_inj_right fun _ _ => Option.some.inj).mp hsome
  obtain ⟨docs, generation, hnodup⟩ := s
  obtain ⟨docs', generation', hnodup'⟩ := t
  obtain rfl : docs = docs' := hdocuments
  obtain rfl : generation = generation' := hgeneration
  rfl

@[simp] private theorem uris_storeAnalysis (s : Store) (uri : String) (generation : Nat)
    (analysis : Analysis) : (s.storeAnalysis uri generation analysis).2.uris = s.uris := by
  unfold storeAnalysis
  split
  · exact uris_modifyAt uri (.record analysis) (fun _ h => h) s.documents
  · rfl

end Store

namespace Server

private theorem ext_parts {s t : Server} (hsettings : s.settings = t.settings)
    (hstore : s.store = t.store) : s = t := by
  cases s
  cases t
  cases hsettings
  cases hstore
  rfl

section Pass
variable (programs : Programs)

@[simp] private theorem uris_validate (s : Server) (uri : String) :
    (s.validate programs uri).1.store.uris = s.store.uris := by
  unfold validate
  split
  · rfl
  · rw [finish_store, Store.uris_storeAnalysis]

@[simp] private theorem lastGeneration_validate (s : Server) (uri : String) :
    (s.validate programs uri).1.store.lastGeneration = s.store.lastGeneration := by
  unfold validate
  split
  · rfl
  · rw [finish_store, Store.lastGeneration_storeAnalysis]

@[simp] private theorem uris_validateAll (s : Server) (order : List String) :
    (validateAll programs s order).1.store.uris = s.store.uris := by
  induction order generalizing s with
  | nil => rfl
  | cons uri rest ih => rw [validateAll, ih, uris_validate]

@[simp] private theorem lastGeneration_validateAll (s : Server) (order : List String) :
    (validateAll programs s order).1.store.lastGeneration = s.store.lastGeneration := by
  induction order generalizing s with
  | nil => rfl
  | cons uri rest ih => rw [validateAll, ih, lastGeneration_validate]

/-- Passes over the same documents leave the same server behind, however they are ordered. -/
theorem validateAll_congr (s : Server) {order order' : List String}
    (h : ∀ key, key ∈ order ↔ key ∈ order') :
    (validateAll programs s order).1 = (validateAll programs s order').1 := by
  apply ext_parts
  · rw [validateAll_settings, validateAll_settings]
  · apply Store.ext_find?
    · rw [uris_validateAll, uris_validateAll]
    · rw [lastGeneration_validateAll, lastGeneration_validateAll]
    · intro key
      simp only [find?_validateAll, h key]

/-- A document that is listed once is told about once, if it is open. -/
theorem about_reports (s : Server) {order : List String} (hnodup : order.Nodup) (key : String) :
    (s.reports programs order).filterMap (Notice.about? key) =
      if key ∈ order then
        ((s.store.find? key).map fun d =>
          ((d.document.analysis programs s.settings).diagnostics, d.document.version)).toList
      else [] := by
  induction order with
  | nil => rfl
  | cons uri rest ih =>
    rw [List.nodup_cons] at hnodup
    rw [reports_cons, List.filterMap_append, about_report, ih hnodup.2]
    by_cases hk : key = uri
    · simp [hk, hnodup.1]
    · simp [hk]

end Pass

private theorem about_configure (s : Server) (payload : Value) (key : String) :
    (s.configure payload).2.filterMap (Notice.about? key) = [] := by
  unfold configure
  split <;> rfl

/-- A server whose settings are new and whose passes under way are all outdated. -/
def renewed (s : Server) (payload : Value) : Server :=
  { (s.configure payload).1 with store := s.store.invalidateAll }

private theorem reconfigure_eq (programs : Programs) (s : Server) (payload : Value)
    (order : List String) :
    s.reconfigure programs payload order =
      ((validateAll programs (s.renewed payload) order).1,
        (s.configure payload).2 ++ (s.renewed payload).reports programs order) := by
  rw [← validateAll_notices, renewed, ← configure_store s payload]
  rfl

section Order
variable (programs : Programs) (s : Server) (payload : Value)

@[simp] private theorem settings_renewed :
    (s.renewed payload).settings = ((Settings.ofValue payload).toOption).getD s.settings :=
  configure_settings s payload

@[simp] private theorem find?_renewed (key : String) : (s.renewed payload).store.find? key =
    (s.store.find? key).map (.renew (s.store.lastGeneration + 1)) :=
  Store.find?_invalidateAll s.store key

/-- What new settings come to. Every open document has the analysis it is due under the settings
that now hold and is told about once, under its own version; nothing is told about any other. -/
structure Revalidated (s' : Server) (told : List Notice) : Prop where
  settings : s'.settings = ((Settings.ofValue payload).toOption).getD s.settings
  documents : ∀ key, s'.store.find? key = (s.store.find? key).map fun d =>
    (d.renew (s.store.lastGeneration + 1)).examined programs s'.settings
  told : ∀ key, told.filterMap (Notice.about? key) = ((s.store.find? key).map fun d =>
    ((d.document.analysis programs s'.settings).diagnostics, d.document.version)).toList

/-- The place of a document in the order shows neither in the store nor in what is told about it. -/
theorem revalidated_reconfigure {order : List String} (h : order.Perm s.store.uris) :
    Revalidated programs s payload (s.reconfigure programs payload order).1
      (s.reconfigure programs payload order).2 := by
  have hnodup : order.Nodup := h.nodup_iff.mpr s.store.nodup
  have hmem (key : String) : key ∈ order ↔ (s.store.find? key).isSome :=
    h.mem_iff.trans Store.mem_uris
  rw [reconfigure_eq]
  refine ⟨?_, fun key => ?_, fun key => ?_⟩
  · rw [validateAll_settings, settings_renewed]
  · rw [find?_validateAll, find?_renewed, validateAll_settings]
    cases hf : s.store.find? key with
    | none => simp
    | some d =>
      rw [if_pos ((hmem key).mpr (by rw [hf]; rfl))]
      rfl
  · rw [List.filterMap_append, about_configure, List.nil_append, about_reports programs _ hnodup,
      find?_renewed, validateAll_settings]
    cases hf : s.store.find? key with
    | none => simp
    | some d =>
      rw [if_pos ((hmem key).mpr (by rw [hf]; rfl))]
      rfl

/-- Settings are changed with the same result in whatever order the open documents are examined
again, of which the server takes one. The orders differ in nothing but the order of what is told. -/
theorem order_of_passes_does_not_matter {order order' : List String}
    (h : order.Perm s.store.uris) (h' : order'.Perm s.store.uris) :
    (s.reconfigure programs payload order).1 = (s.reconfigure programs payload order').1 ∧
      (s.reconfigure programs payload order).2.Perm (s.reconfigure programs payload order').2 ∧
      Revalidated programs s payload (s.reconfigure programs payload order).1
        (s.reconfigure programs payload order).2 ∧
      s.handle programs (.configured payload) =
        s.reconfigure programs payload s.store.uris := by
  have hperm : order.Perm order' := h.trans h'.symm
  refine ⟨?_, ?_, revalidated_reconfigure programs s payload h, rfl⟩
  · rw [reconfigure_eq, reconfigure_eq]
    exact validateAll_congr programs _ fun key => hperm.mem_iff
  · rw [reconfigure_eq, reconfigure_eq]
    exact (hperm.filterMap _).append_left _

end Order

private def absent : Programs := fun _ _ _ => .notStarted "gone"

/-- Three documents are opened and one of them is closed again. -/
private def desk (s : Server) : Server :=
  [Event.opened "file:///a.apib" "# A" 3, .opened "file:///b.apib" "# B" 7,
    .opened "file:///c.apib" "# C" 1, .closed "file:///c.apib"].foldl
      (fun s event => (s.handle absent event).1) s

private def verbose : Value := .record [("exportSourcemap", .bool false)]

/-- Two documents are examined in either order. Nothing is told about the one that was closed. -/
theorem desk_is_examined_in_both_orders :
    ["file:///b.apib", "file:///a.apib"].Perm (desk {}).store.uris ∧
      ((desk {}).reconfigure absent verbose ["file:///b.apib", "file:///a.apib"]).1 =
        ((desk {}).reconfigure absent verbose ["file:///a.apib", "file:///b.apib"]).1 ∧
      ((desk {}).reconfigure absent verbose ["file:///b.apib", "file:///a.apib"]).2.Perm
        ((desk {}).reconfigure absent verbose ["file:///a.apib", "file:///b.apib"]).2 ∧
      (((desk {}).reconfigure absent verbose ["file:///b.apib", "file:///a.apib"]).2.filterMap
        (Notice.about? "file:///b.apib")).map Prod.snd = [some 7] ∧
      ((desk {}).reconfigure absent verbose ["file:///b.apib", "file:///a.apib"]).2.filterMap
        (Notice.about? "file:///c.apib") = [] := by
  have huris : (desk {}).store.uris = ["file:///a.apib", "file:///b.apib"] := rfl
  have h : ["file:///b.apib", "file:///a.apib"].Perm (desk {}).store.uris := by
    rw [huris]
    exact .swap _ _ _
  have h' : ["file:///a.apib", "file:///b.apib"].Perm (desk {}).store.uris := by rw [huris]
  obtain ⟨hserver, hnotices, hvalid, -⟩ :=
    order_of_passes_does_not_matter absent (desk {}) verbose h h'
  refine ⟨h, hserver, hnotices, ?_, hvalid.told "file:///c.apib"⟩
  rw [hvalid.told]
  rfl

end Server
end ApiBlueprint
