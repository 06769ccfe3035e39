import ApiBlueprint.Analysis

/-! Open documents and their latest analysis, by URI. Generations tell a pass that was started on
the current text and settings from one that has been overtaken. -/
namespace ApiBlueprint

/-- A text under a URI. Versions are the editor's own and need not grow. -/
structure Document where
  uri : String
  content : String
  version : Option Int32 := none
  deriving DecidableEq, Repr

def Document.edit (d : Document) (content : String) (version : Int32) : Document :=
  { d with content, version := some version }

/-- `generation` is renewed whenever the text or the settings change. The analysis may be that of
an earlier generation. -/
structure OpenDocument where
  document : Document
  generation : Nat
  analysis : Option Analysis := none
  deriving Repr

namespace OpenDocument

def uri (d : OpenDocument) : String := d.document.uri

def edit (content : String) (version : Int32) (generation : Nat) (d : OpenDocument) :
    OpenDocument := { d with document := d.document.edit content version, generation }

def renew (generation : Nat) (d : OpenDocument) : OpenDocument := { d with generation }

def record (analysis : Analysis) (d : OpenDocument) : OpenDocument :=
  { d with analysis := some analysis }

end OpenDocument

/-- Documents in the order of their opening. `lastGeneration` belongs to the store, so a document
that is opened again never meets an old generation. -/
structure Store where
  documents : List OpenDocument := []
  lastGeneration : Nat := 0
  nodup : (documents.map OpenDocument.uri).Nodup := by simp

namespace Store

def find? (s : Store) (uri : String) : Option OpenDocument :=
  s.documents.find? fun d => d.uri == uri

def contains (s : Store) (uri : String) : Bool := s.documents.any fun d => d.uri == uri

def uris (s : Store) : List String := s.documents.map OpenDocument.uri

def size (s : Store) : Nat := s.documents.length

def isEmpty (s : Store) : Bool := s.documents.isEmpty

def modifyAt (uri : String) (f : OpenDocument → OpenDocument) (docs : List OpenDocument) :
    List OpenDocument :=
  docs.map fun d => if d.uri = uri then f d else d

/-- A change that keeps a URI keeps them all. -/
theorem uris_modifyAt (uri : String) (f : OpenDocument → OpenDocument)
    (hf : ∀ d, d.uri = uri → (f d).uri = uri) (docs : List OpenDocument) :
    (modifyAt uri f docs).map OpenDocument.uri = docs.map OpenDocument.uri := by
  simp only [modifyAt, List.map_map]
  apply List.map_congr_left
  intro d _
  simp only [Function.comp_apply]
  split
  · rename_i h
    rw [hf d h, h]
  · rfl

def modify (s : Store) (uri : String) (f : OpenDocument → OpenDocument)
    (hf : ∀ d, d.uri = uri → (f d).uri = uri) : Store :=
  ⟨modifyAt uri f s.documents, s.lastGeneration, by
    rw [uris_modifyAt uri f hf]
    exact s.nodup⟩

def advance (s : Store) : Store := { s with lastGeneration := s.lastGeneration + 1 }

/-- A document that is not there yet can be put after all others. -/
theorem nodup_snoc (s : Store) (d : OpenDocument) (h : s.contains d.uri = false) :
    ((s.documents ++ [d]).map OpenDocument.uri).Nodup := by
  have hd : ∀ e ∈ s.documents, e.uri ≠ d.uri := by simpa [contains] using h
  rw [List.map_append, List.nodup_append]
  refine ⟨s.nodup, by simp, ?_⟩
  intro a ha b hb
  obtain ⟨e, he, rfl⟩ := List.mem_map.mp ha
  simp only [List.map_cons, List.map_nil, List.mem_singleton] at hb
  exact hb ▸ hd e he

/-- Put a document in the place of the one with its URI, or after all others. -/
def put (s : Store) (d : OpenDocument) : Store :=
  if h : s.contains d.uri = false then ⟨s.documents ++ [d], s.lastGeneration, s.nodup_snoc d h⟩
  else s.modify d.uri (fun _ => d) fun _ _ => rfl

/-- Open a document or replace it. An earlier analysis is dropped. -/
def openText (s : Store) (uri content : String) (version : Int32) : Store :=
  let s := s.advance
  s.put ⟨⟨uri, content, some version⟩, s.lastGeneration, none⟩

/-- Replace the text of an open document. Tells whether it was open; a generation is taken in
either case. -/
def changeText (s : Store) (uri content : String) (version : Int32) : Bool × Store :=
  let s := s.advance
  (s.contains uri, s.modify uri (.edit content version s.lastGeneration) fun _ h => h)

/-- Outdate every pass under way. Stored analyses stay. -/
def invalidateAll (s : Store) : Store :=
  let s := s.advance
  ⟨s.documents.map (.renew s.lastGeneration), s.lastGeneration, by
    rw [List.map_map]
    exact s.nodup⟩

def close (s : Store) (uri : String) : Store :=
  ⟨s.documents.filter fun d => d.uri ≠ uri, s.lastGeneration,
    s.nodup.sublist (List.filter_sublist.map OpenDocument.uri)⟩

/-- Whether an analysis started at `generation` may still be stored. -/
def accepts (s : Store) (uri : String) (generation : Nat) : Bool :=
  (s.find? uri).any fun d => d.generation == generation

/-- Store an analysis unless the document has been overtaken or closed since. Tells which. -/
def storeAnalysis (s : Store) (uri : String) (generation : Nat) (analysis : Analysis) :
    Bool × Store :=
  if s.accepts uri generation then (true, s.modify uri (.record analysis) fun _ h => h)
  else (false, s)

end Store
end ApiBlueprint
