import ApiBlueprint.Proofs.Store
import ApiBlueprint.Server

/-! Passes that run without anything in between. Such a pass always stores its analysis, so what it
leaves behind and what it tells are functions of the document and the settings. -/
namespace ApiBlueprint
open Json

/-- What a notice tells about one document. -/
def Notice.about? (uri : String) : Notice → Option (List Diagnostic × Option Int32)
  | .log _ _ => none
  | .publish key diagnostics version => if key = uri then some (diagnostics, version) else none

/-- The diagnostics an editor shows for a document: those it was told last. -/
def lastPublished (uri : String) (told : List Notice) : Option (List Diagnostic × Option Int32) :=
  (told.filterMap (Notice.about? uri)).getLast?

@[simp] theorem lastPublished_nil (uri : String) : lastPublished uri [] = none := rfl

/-- What was told later holds. -/
theorem lastPublished_append (uri : String) (earlier later : List Notice) :
    lastPublished uri (earlier ++ later) =
      (lastPublished uri later).or (lastPublished uri earlier) := by
  simp only [lastPublished, List.filterMap_append, List.getLast?_append]

/-- A publication is about one document. -/
@[simp] theorem lastPublished_publish (uri key : String) (diagnostics : List Diagnostic)
    (version : Option Int32) :
    lastPublished uri [.publish key diagnostics version] =
      if key = uri then some (diagnostics, version) else none := by
  by_cases h : key = uri <;> simp [lastPublished, Notice.about?, h]

/-- The analysis a document is due. -/
def Document.analysis (programs : Programs) (settings : Settings) (d : Document) : Analysis :=
  analyzeWith programs settings d.content

/-- An open document with the analysis it is due. -/
def OpenDocument.examined (programs : Programs) (settings : Settings) (d : OpenDocument) :
    OpenDocument := d.record (d.document.analysis programs settings)

/-- What is told about a document that has been examined. -/
def Document.report (programs : Programs) (settings : Settings) (d : Document) : Notice :=
  .publish d.uri (d.analysis programs settings).diagnostics d.version

namespace Server

/-- Reports on the documents that are open, in the given order. -/
def reports (programs : Programs) (s : Server) (order : List String) : List Notice :=
  order.filterMap fun uri => (s.store.find? uri).map (·.document.report programs s.settings)

/-- New settings leave the store alone. -/
@[simp] theorem configure_store (s : Server) (payload : Value) :
    (s.configure payload).1.store = s.store := by
  unfold configure
  split <;> rfl

/-- Settings that cannot be read leave the old ones in force. -/
theorem configure_settings (s : Server) (payload : Value) :
    (s.configure payload).1.settings = ((Settings.ofValue payload).toOption).getD s.settings := by
  unfold configure
  split
  · rename_i h
    simp [h, Except.toOption]
  · rename_i h
    simp [h, Except.toOption]

/-- A complaint about settings is about no document. -/
@[simp] theorem lastPublished_configure (s : Server) (payload : Value) (uri : String) :
    lastPublished uri (s.configure payload).2 = none := by
  unfold configure
  split <;> rfl

@[simp] theorem finish_settings (s : Server) (uri : String) (c : Capture) (a : Analysis) :
    (s.finish uri c a).1.settings = s.settings := rfl

@[simp] theorem finish_store (s : Server) (uri : String) (c : Capture) (a : Analysis) :
    (s.finish uri c a).1.store = (s.store.storeAnalysis uri c.generation a).2 := rfl

/-- Something is published exactly if the analysis is accepted. -/
theorem finish_notices (s : Server) (uri : String) (c : Capture) (a : Analysis) :
    (s.finish uri c a).2 =
      if s.store.accepts uri c.generation then [.publish uri a.diagnostics c.version] else [] := by
  simp only [finish, Store.storeAnalysis_stored]

private theorem validate_of_none (programs : Programs) {s : Server} {uri : String}
    (h : s.store.find? uri = none) : s.validate programs uri = (s, []) := by
  simp [validate, Store.capture?, h]

private theorem validate_of_some (programs : Programs) {s : Server} {uri : String}
    {d : OpenDocument} (h : s.store.find? uri = some d) :
    s.validate programs uri =
      s.finish uri ⟨d.document.content, d.document.version, d.generation⟩
        (d.document.analysis programs s.settings) := by
  simp [validate, Store.capture?, h, Document.analysis]

@[simp] theorem validate_settings (programs : Programs) (s : Server) (uri : String) :
    (s.validate programs uri).1.settings = s.settings := by
  unfold validate
  split <;> rfl

/-- A pass gives one document the analysis it is due. -/
@[simp] theorem find?_validate (programs : Programs) (s : Server) (uri key : String) :
    (s.validate programs uri).1.store.find? key =
      if key = uri then (s.store.find? key).map (.examined programs s.settings)
      else s.store.find? key := by
  cases h : s.store.find? uri with
  | none =>
    rw [validate_of_none programs h]
    split
    · rename_i hk
      simp [hk, h]
    · rfl
  | some d =>
    have hacc : s.store.accepts uri d.generation = true := Store.accepts_iff.mpr ⟨d, h, rfl⟩
    rw [validate_of_some programs h, finish_store, Store.find?_storeAnalysis]
    split
    · rename_i hk
      simp [hk, h, OpenDocument.examined]
    · rename_i hk
      simp [hacc] at hk
      simp [hk]

/-- A pass reports on its document, if it is open. -/
theorem validate_notices (programs : Programs) (s : Server) (uri : String) :
    (s.validate programs uri).2 = s.reports programs [uri] := by
  cases h : s.store.find? uri with
  | none => simp [validate_of_none programs h, reports, h]
  | some d =>
    have hacc : s.store.accepts uri d.generation = true := Store.accepts_iff.mpr ⟨d, h, rfl⟩
    have huri : d.document.uri = uri := Store.uri_of_find? h
    simp [validate_of_some programs h, finish_notices, hacc, reports, h, Document.report, huri]

@[simp] theorem validateAll_settings (programs : Programs) (s : Server) (order : List String) :
    (validateAll programs s order).1.settings = s.settings := by
  induction order generalizing s with
  | nil => rfl
  | cons uri rest ih => rw [validateAll, ih, validate_settings]

private theorem examined_examined (programs : Programs) (settings : Settings) (d : OpenDocument) :
    (d.examined programs settings).examined programs settings = d.examined programs settings := rfl

/-- Examining a document again changes nothing, so it does not matter how often it is listed. -/
@[simp] theorem find?_validateAll (programs : Programs) (s : Server) (order : List String)
    (key : String) :
    (validateAll programs s order).1.store.find? key =
      if key ∈ order then (s.store.find? key).map (.examined programs s.settings)
      else s.store.find? key := by
  induction order generalizing s with
  | nil => simp [validateAll]
  | cons uri rest ih =>
    rw [validateAll, ih, validate_settings, find?_validate]
    by_cases hk : key = uri
    · by_cases hr : key ∈ rest
      · simp [hk ▸ hr, hk, Function.comp_def, examined_examined]
      · simp [hk ▸ hr, hk]
    · simp [hk]

private theorem reports_validate (programs : Programs) (s : Server) (uri : String)
    (order : List String) :
    (s.validate programs uri).1.reports programs order = s.reports programs order := by
  simp only [reports, validate_settings, find?_validate]
  congr 1
  funext key
  split
  · rw [Option.map_map]
    rfl
  · rfl

/-- Reports follow the order of the documents. -/
theorem reports_cons (programs : Programs) (s : Server) (uri : String) (rest : List String) :
    s.reports programs (uri :: rest) = s.reports programs [uri] ++ s.reports programs rest := by
  simp only [reports, ← List.filterMap_append, List.singleton_append]

/-- Passes report on the documents in the order given. -/
theorem validateAll_notices (programs : Programs) (s : Server) (order : List String) :
    (validateAll programs s order).2 = s.reports programs order := by
  induction order generalizing s with
  | nil => rfl
  | cons uri rest ih =>
    rw [reports_cons, ← validate_notices, ← reports_validate programs s uri, ← ih]
    rfl

/-- A report on one document is about no other. -/
theorem about_report (programs : Programs) (s : Server) (uri key : String) :
    (s.reports programs [uri]).filterMap (Notice.about? key) =
      if key = uri then
        ((s.store.find? key).map fun d =>
          ((d.document.analysis programs s.settings).diagnostics, d.document.version)).toList
      else [] := by
  cases hf : s.store.find? uri with
  | none =>
    by_cases hk : key = uri
    · simp [reports, hf, hk]
    · simp [reports, hf, hk]
  | some d =>
    have huri : d.document.uri = uri := Store.uri_of_find? hf
    by_cases hk : key = uri
    · simp [reports, hf, hk, Document.report, Notice.about?, huri]
    · simp [reports, hf, hk, Document.report, Notice.about?, huri, Ne.symm hk]

private theorem lastPublished_report (programs : Programs) (s : Server) (uri key : String) :
    lastPublished key (s.reports programs [uri]) =
      if key = uri then
        (s.store.find? key).map fun d =>
          ((d.document.analysis programs s.settings).diagnostics, d.document.version)
      else none := by
  rw [lastPublished, about_report]
  split
  · cases s.store.find? key <;> rfl
  · rfl

/-- The last report on a document is of its analysis under the settings in force. -/
theorem lastPublished_reports (programs : Programs) (s : Server) (order : List String)
    (key : String) :
    lastPublished key (s.reports programs order) =
      if key ∈ order then
        (s.store.find? key).map fun d =>
          ((d.document.analysis programs s.settings).diagnostics, d.document.version)
      else none := by
  induction order with
  | nil => rfl
  | cons uri rest ih =>
    rw [reports_cons, lastPublished_append, ih, lastPublished_report]
    by_cases hk : key = uri
    · by_cases hr : key ∈ rest
      · simp [hk ▸ hr, hk]
      · simp [hk ▸ hr, hk]
    · simp [hk]

end Server
end ApiBlueprint
