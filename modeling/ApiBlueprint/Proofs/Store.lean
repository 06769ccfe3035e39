import ApiBlueprint.Store

/-! The store seen through `find?`, which determines it up to the order of opening. Every
operation has one equation, so that nothing else needs to look at the list of documents. -/
namespace ApiBlueprint.Store

/-- A document is found under its own URI. -/
theorem uri_of_find? {s : Store} {uri : String} {d : OpenDocument} (h : s.find? uri = some d) :
    d.uri = uri := by
  simpa using List.find?_some h

/-- Asking for a document is looking for it. -/
theorem contains_eq (s : Store) (uri : String) : s.contains uri = (s.find? uri).isSome := by
  rw [Bool.eq_iff_iff]
  simp [contains, find?]

/-- The keys are those under which a document is found. -/
theorem mem_uris {s : Store} {uri : String} : uri ∈ s.uris ↔ (s.find? uri).isSome := by
  simp [uris, find?]

private theorem find?_modifyAt (uri key : String) (f : OpenDocument → OpenDocument)
    (hf : ∀ d, d.uri = uri → (f d).uri = uri) (docs : List OpenDocument) :
    (modifyAt uri f docs).find? (fun d => d.uri == key) =
      if key = uri then (docs.find? fun d => d.uri == uri).map f
      else docs.find? fun d => d.uri == key := by
  have hkeep : ((fun d : OpenDocument => d.uri == key) ∘ fun d => if d.uri = uri then f d else d) =
      fun d => d.uri == key := by
    funext d
    by_cases hd : d.uri = uri
    · simp [hd, hf d hd]
    · simp [hd]
  rw [modifyAt, List.find?_map, hkeep]
  cases hfind : docs.find? fun d => d.uri == key with
  | none =>
    split
    · rename_i hk
      rw [← hk, hfind]
      rfl
    · rfl
  | some d =>
    have hd : d.uri = key := by simpa using List.find?_some hfind
    split
    · rename_i hk
      rw [← hk, hfind]
      simp [hd, hk]
    · rename_i hk
      simp [hd, hk]

private theorem find?_modify (s : Store) (uri key : String) (f : OpenDocument → OpenDocument)
    (hf : ∀ d, d.uri = uri → (f d).uri = uri) :
    (s.modify uri f hf).find? key = if key = uri then (s.find? uri).map f else s.find? key :=
  find?_modifyAt uri key f hf s.documents

private theorem find?_put (s : Store) (d : OpenDocument) (key : String) :
    (s.put d).find? key = if key = d.uri then some d else s.find? key := by
  unfold put
  split
  · rename_i h
    have hn : s.find? d.uri = none := by simpa [contains_eq] using h
    rw [find?] at hn ⊢
    rw [List.find?_append]
    by_cases hk : key = d.uri
    · simp [hk, hn]
    · simp [find?, hk, Ne.symm hk]
  · rename_i h
    rw [find?_modify]
    by_cases hk : key = d.uri
    · have hs : (s.find? d.uri).isSome = true := by simpa [← contains_eq] using h
      obtain ⟨e, he⟩ := Option.isSome_iff_exists.mp hs
      simp [hk, he]
    · simp [hk]

/-- Opening touches one document, which has no analysis then. -/
@[simp] theorem find?_openText (s : Store) (uri content key : String) (version : Int32) :
    (s.openText uri content version).find? key =
      if key = uri then some ⟨⟨uri, content, some version⟩, s.lastGeneration + 1, none⟩
      else s.find? key :=
  find?_put s.advance _ key

/-- A change tells whether there is a document to change. -/
@[simp] theorem changeText_known (s : Store) (uri content : String) (version : Int32) :
    (s.changeText uri content version).1 = (s.find? uri).isSome :=
  contains_eq s.advance uri

/-- A change touches one document and keeps its analysis. -/
@[simp] theorem find?_changeText (s : Store) (uri content key : String) (version : Int32) :
    (s.changeText uri content version).2.find? key =
      if key = uri then (s.find? uri).map (.edit content version (s.lastGeneration + 1))
      else s.find? key :=
  find?_modify s.advance uri key (.edit content version (s.lastGeneration + 1)) fun _ h => h

/-- All documents get one new generation and keep everything else. -/
@[simp] theorem find?_invalidateAll (s : Store) (key : String) :
    s.invalidateAll.find? key = (s.find? key).map (.renew (s.lastGeneration + 1)) := by
  simp only [find?, invalidateAll, List.find?_map]
  rfl

/-- Closing removes one document. -/
@[simp] theorem find?_close (s : Store) (uri key : String) :
    (s.close uri).find? key = if key = uri then none else s.find? key := by
  simp only [find?, close, List.find?_filter]
  split
  · rename_i h
    simp [h]
  · rename_i h
    congr 1
    funext d
    by_cases hd : d.uri = key
    · simp [hd, h]
    · simp [hd]

/-- A generation is accepted as long as the document has it. -/
theorem accepts_iff {s : Store} {uri : String} {generation : Nat} :
    s.accepts uri generation = true ↔ ∃ d, s.find? uri = some d ∧ d.generation = generation := by
  rw [accepts]
  cases s.find? uri with
  | none => simp
  | some d => simp

/-- An analysis is stored exactly if its generation is accepted. -/
@[simp] theorem storeAnalysis_stored (s : Store) (uri : String) (generation : Nat)
    (analysis : Analysis) :
    (s.storeAnalysis uri generation analysis).1 = s.accepts uri generation := by
  unfold storeAnalysis
  split <;> simp_all

/-- Storing touches the analysis of one document, if it does anything. -/
@[simp] theorem find?_storeAnalysis (s : Store) (uri key : String) (generation : Nat)
    (analysis : Analysis) :
    (s.storeAnalysis uri generation analysis).2.find? key =
      if key = uri ∧ s.accepts uri generation then (s.find? uri).map (.record analysis)
      else s.find? key := by
  unfold storeAnalysis
  split
  · rename_i h
    simp only [h, and_true]
    exact find?_modify s uri key _ _
  · rename_i h
    simp [h]

/-! Generations. Closing a document and storing an analysis take none. -/

@[simp] theorem lastGeneration_openText (s : Store) (uri content : String) (version : Int32) :
    (s.openText uri content version).lastGeneration = s.lastGeneration + 1 := by
  simp only [openText, put]
  split <;> rfl

@[simp] theorem lastGeneration_changeText (s : Store) (uri content : String)
    (version : Int32) :
    (s.changeText uri content version).2.lastGeneration = s.lastGeneration + 1 := rfl

@[simp] theorem lastGeneration_invalidateAll (s : Store) :
    s.invalidateAll.lastGeneration = s.lastGeneration + 1 := rfl

@[simp] theorem lastGeneration_close (s : Store) (uri : String) :
    (s.close uri).lastGeneration = s.lastGeneration := rfl

@[simp] theorem lastGeneration_storeAnalysis (s : Store) (uri : String) (generation : Nat)
    (analysis : Analysis) :
    (s.storeAnalysis uri generation analysis).2.lastGeneration = s.lastGeneration := by
  unfold storeAnalysis
  split <;> rfl

/-- No document has a generation that is still to come. -/
def Bounded (s : Store) : Prop :=
  ∀ uri d, s.find? uri = some d → d.generation ≤ s.lastGeneration

/-- What every operation does with generations. A document whose generation is an old one has been
there all the time with the same text and version. -/
structure Advances (s s' : Store) : Prop where
  le : s.lastGeneration ≤ s'.lastGeneration
  old : ∀ uri d', s'.find? uri = some d' → d'.generation ≤ s.lastGeneration →
    ∃ d, s.find? uri = some d ∧ d.generation = d'.generation ∧ d.document = d'.document
  bounded : s.Bounded → s'.Bounded

theorem Advances.refl (s : Store) : s.Advances s :=
  ⟨Nat.le_refl _, fun _ d h _ => ⟨d, h, rfl, rfl⟩, id⟩

/-- One step after the other. -/
theorem Advances.trans {s s' s'' : Store} (h : s.Advances s') (h' : s'.Advances s'') :
    s.Advances s'' := by
  refine ⟨Nat.le_trans h.le h'.le, ?_, fun hb => h'.bounded (h.bounded hb)⟩
  intro uri d'' hd'' hg
  obtain ⟨d', hd', hgen', hdoc'⟩ := h'.old uri d'' hd'' (Nat.le_trans hg h.le)
  obtain ⟨d, hd, hgen, hdoc⟩ := h.old uri d' hd' (hgen' ▸ hg)
  exact ⟨d, hd, hgen.trans hgen', hdoc.trans hdoc'⟩

/-- An old generation that is accepted afterwards was accepted before. -/
theorem Advances.accepts_of_le {s s' : Store} {uri : String} {generation : Nat}
    (h : s.Advances s') (hle : generation ≤ s.lastGeneration)
    (ha : s'.accepts uri generation = true) : s.accepts uri generation = true := by
  obtain ⟨d', hd', rfl⟩ := accepts_iff.mp ha
  obtain ⟨d, hd, hg, -⟩ := h.old uri d' hd' hle
  exact accepts_iff.mpr ⟨d, hd, hg⟩

/-- It is enough that what is found afterwards was there before or has just been renewed. -/
private theorem Advances.of_find? {s s' : Store} (hle : s.lastGeneration ≤ s'.lastGeneration)
    (h : ∀ uri d', s'.find? uri = some d' →
      (∃ d, s.find? uri = some d ∧ d.generation = d'.generation ∧ d.document = d'.document) ∨
      (d'.generation = s'.lastGeneration ∧ s.lastGeneration < s'.lastGeneration)) :
    s.Advances s' := by
  refine ⟨hle, ?_, ?_⟩
  · intro uri d' hd hg
    rcases h uri d' hd with hold | ⟨hnew, hlt⟩
    · exact hold
    · omega
  · intro hb uri d' hd
    rcases h uri d' hd with ⟨d, hf, hg, -⟩ | ⟨hnew, -⟩
    · have := hb uri d hf
      omega
    · omega

/-- A document that is opened gets a generation that was never given out. -/
theorem advances_openText (s : Store) (uri content : String) (version : Int32) :
    s.Advances (s.openText uri content version) := by
  apply Advances.of_find?
  · simp
  · intro key d' hd
    rw [find?_openText] at hd
    split at hd
    · cases hd
      exact .inr ⟨by simp, by simp⟩
    · exact .inl ⟨d', hd, rfl, rfl⟩

/-- So does one that is changed. -/
theorem advances_changeText (s : Store) (uri content : String) (version : Int32) :
    s.Advances (s.changeText uri content version).2 := by
  apply Advances.of_find?
  · simp
  · intro key d' hd
    rw [find?_changeText] at hd
    split at hd
    · obtain ⟨d, -, rfl⟩ := Option.map_eq_some_iff.mp hd
      exact .inr ⟨rfl, by simp⟩
    · exact .inl ⟨d', hd, rfl, rfl⟩

/-- All documents leave their old generations. -/
theorem advances_invalidateAll (s : Store) : s.Advances s.invalidateAll := by
  apply Advances.of_find?
  · simp
  · intro key d' hd
    rw [find?_invalidateAll] at hd
    obtain ⟨d, -, rfl⟩ := Option.map_eq_some_iff.mp hd
    exact .inr ⟨rfl, by simp⟩

/-- Closing renews nothing. -/
theorem advances_close (s : Store) (uri : String) : s.Advances (s.close uri) := by
  apply Advances.of_find?
  · simp
  · intro key d' hd
    rw [find?_close] at hd
    split at hd
    · cases hd
    · exact .inl ⟨d', hd, rfl, rfl⟩

/-- An analysis is no reason for a new generation. -/
theorem advances_storeAnalysis (s : Store) (uri : String) (generation : Nat) (analysis : Analysis) :
    s.Advances (s.storeAnalysis uri generation analysis).2 := by
  apply Advances.of_find?
  · simp
  · intro key d' hd
    rw [find?_storeAnalysis] at hd
    split at hd
    · rename_i hk
      obtain ⟨d, hf, rfl⟩ := Option.map_eq_some_iff.mp hd
      exact .inl ⟨d, hk.1 ▸ hf, rfl, rfl⟩
    · exact .inl ⟨d', hd, rfl, rfl⟩

/-- All passes under way are overtaken at once. -/
theorem not_accepts_invalidateAll {s : Store} {uri : String} {generation : Nat}
    (h : generation ≤ s.lastGeneration) : s.invalidateAll.accepts uri generation = false := by
  rw [Bool.eq_false_iff]
  intro ha
  obtain ⟨d, hd, hg⟩ := accepts_iff.mp ha
  rw [find?_invalidateAll] at hd
  obtain ⟨e, -, rfl⟩ := Option.map_eq_some_iff.mp hd
  simp only [OpenDocument.renew] at hg
  omega

end ApiBlueprint.Store
