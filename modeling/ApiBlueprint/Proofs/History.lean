import ApiBlueprint.Proofs.Store
import Mathlib.Data.Set.Card

/-! Runs of calls on a store. What a store shows is told by the calls and their answers, and whether
an analysis is still taken by the calls since its generation was read. -/
namespace ApiBlueprint.Store

inductive Call where
  | openText (uri content : String) (version : Int32)
  | changeText (uri content : String) (version : Int32)
  | close (uri : String)
  | invalidateAll
  | storeAnalysis (uri : String) (generation : Nat) (analysis : Analysis)

/-- A call and its answer. -/
structure Entry where
  call : Call
  answer : Bool

/-- The answer of a call and the store after it. Calls that tell nothing count as done. -/
def perform (s : Store) : Call → Bool × Store
  | .openText uri content version => (true, s.openText uri content version)
  | .changeText uri content version => s.changeText uri content version
  | .close uri => (true, s.close uri)
  | .invalidateAll => (true, s.invalidateAll)
  | .storeAnalysis uri generation analysis => s.storeAnalysis uri generation analysis

def run (s : Store) : List Call → Store
  | [] => s
  | call :: rest => (s.perform call).2.run rest

/-- The calls of a run with their answers, oldest first. -/
def history (s : Store) : List Call → List Entry
  | [] => []
  | call :: rest => ⟨call, (s.perform call).1⟩ :: (s.perform call).2.history rest

theorem run_append (s : Store) (calls more : List Call) :
    s.run (calls ++ more) = (s.run calls).run more := by
  induction calls generalizing s with
  | nil => rfl
  | cons call rest ih => exact ih _

private theorem history_append (s : Store) (calls more : List Call) :
    s.history (calls ++ more) = s.history calls ++ (s.run calls).history more := by
  induction calls generalizing s with
  | nil => rfl
  | cons call rest ih => exact congrArg (List.cons _) (ih _)

/-! Generations along a run. -/

private theorem advances_perform (s : Store) (call : Call) : s.Advances (s.perform call).2 := by
  cases call with
  | openText uri content version => exact s.advances_openText uri content version
  | changeText uri content version => exact s.advances_changeText uri content version
  | close uri => exact s.advances_close uri
  | invalidateAll => exact s.advances_invalidateAll
  | storeAnalysis uri generation analysis => exact s.advances_storeAnalysis uri generation analysis

private theorem advances_run (s : Store) (calls : List Call) : s.Advances (s.run calls) := by
  induction calls generalizing s with
  | nil => exact .refl s
  | cons call rest ih => exact (s.advances_perform call).trans (ih _)

/-- No call takes more than one generation. -/
theorem lastGeneration_run_le (s : Store) (calls : List Call) :
    (s.run calls).lastGeneration ≤ s.lastGeneration + calls.length := by
  induction calls generalizing s with
  | nil => exact Nat.le_refl _
  | cons call rest ih =>
    have hone : (s.perform call).2.lastGeneration ≤ s.lastGeneration + 1 := by
      cases call <;> simp [perform]
    have hrest := ih (s.perform call).2
    rw [List.length_cons]
    exact Nat.le_trans hrest (by omega)

/-- Whether a call gives the document of `uri` a new generation or takes it away. Only a change that
found its document does. -/
def Entry.renews (uri : String) : Entry → Bool
  | ⟨.openText key _ _, _⟩ => key == uri
  | ⟨.changeText key _ _, known⟩ => key == uri && known
  | ⟨.close key, _⟩ => key == uri
  | ⟨.invalidateAll, _⟩ => true
  | ⟨.storeAnalysis _ _ _, _⟩ => false

/-- A generation that has been given out stays accepted through a call exactly if the call does not
renew it. -/
theorem accepts_perform_iff {s : Store} {uri : String} {generation : Nat}
    (hle : generation ≤ s.lastGeneration) (call : Call) :
    (s.perform call).2.accepts uri generation = true ↔
      s.accepts uri generation = true ∧
        Entry.renews uri ⟨call, (s.perform call).1⟩ = false := by
  have hnew : s.lastGeneration + 1 ≠ generation := by omega
  cases call with
  | openText key content version =>
    by_cases hk : uri = key
    · simp [perform, accepts, Entry.renews, hk, hnew]
    · simp [perform, accepts, Entry.renews, hk, Ne.symm hk]
  | changeText key content version =>
    by_cases hk : uri = key
    · cases hf : s.find? key with
      | none => simp [perform, accepts, Entry.renews, hk, hf]
      | some d => simp [perform, accepts, Entry.renews, hk, hf, OpenDocument.edit, hnew]
    · simp [perform, accepts, Entry.renews, hk, Ne.symm hk]
  | close key =>
    by_cases hk : uri = key
    · simp [perform, accepts, Entry.renews, hk]
    · simp [perform, accepts, Entry.renews, hk, Ne.symm hk]
  | invalidateAll => simp [perform, Entry.renews, not_accepts_invalidateAll hle]
  | storeAnalysis key old analysis =>
    have hsame : (s.storeAnalysis key old analysis).2.accepts uri generation =
        s.accepts uri generation := by
      rw [accepts, find?_storeAnalysis]
      split
      · rename_i hk
        rw [accepts, hk.1, Option.any_map]
        rfl
      · rfl
    simp [perform, Entry.renews, hsame]

private theorem accepts_run_iff {s : Store} {uri : String} {generation : Nat}
    (hle : generation ≤ s.lastGeneration) (calls : List Call) :
    (s.run calls).accepts uri generation = true ↔
      s.accepts uri generation = true ∧ ∀ e ∈ s.history calls, e.renews uri = false := by
  induction calls generalizing s with
  | nil => simp [run, history]
  | cons call rest ih =>
    have hlater := Nat.le_trans hle (s.advances_perform call).le
    rw [run, ih hlater, accepts_perform_iff hle, history, List.forall_mem_cons, and_assoc]

/-- The analysis of one document is a new one, and nothing else has changed. -/
structure Analysed (s : Store) (uri : String) (analysis : Analysis) (s' : Store) : Prop where
  document : ∃ d, s.find? uri = some d ∧
    s'.find? uri = some { d with analysis := some analysis }
  others : ∀ key, key ≠ uri → s'.find? key = s.find? key
  uris : s'.uris = s.uris
  lastGeneration : s'.lastGeneration = s.lastGeneration

private theorem analysed_storeAnalysis {s : Store} {uri : String} {generation : Nat}
    (h : s.accepts uri generation = true) (analysis : Analysis) :
    s.Analysed uri analysis (s.storeAnalysis uri generation analysis).2 := by
  obtain ⟨d, hd, -⟩ := accepts_iff.mp h
  refine ⟨⟨d, hd, ?_⟩, ?_, ?_, lastGeneration_storeAnalysis s uri generation analysis⟩
  · simp [h, hd, OpenDocument.record]
  · intro key hk
    simp [hk]
  · rw [storeAnalysis, if_pos h]
    exact uris_modifyAt uri (.record analysis) (fun _ hd => hd) s.documents

private theorem bounded_run (calls : List Call) : (run {} calls).Bounded := by
  apply (advances_run {} calls).bounded
  intro uri d hd
  cases hd

/-- An analysis is taken exactly if nothing has renewed its document since the generation was read.
It then replaces the one before it; otherwise nothing happens. Generations do not outnumber the
calls, so a run of fewer than `2 ^ 64` calls can count them in 64 bits. -/
theorem analysis_is_stored_iff_not_renewed (earlier later : List Call) (uri : String)
    (d : OpenDocument) (hd : (run {} earlier).find? uri = some d) (analysis : Analysis) :
    let s := run {} (earlier ++ later)
    let result := s.storeAnalysis uri d.generation analysis
    (result.1 = true ↔ ∀ e ∈ (run {} earlier).history later, e.renews uri = false) ∧
      (result.1 = false → result.2 = s) ∧
      (result.1 = true → s.Analysed uri analysis result.2) ∧
      s.lastGeneration ≤ (earlier ++ later).length := by
  intro s result
  have hread : (run {} earlier).accepts uri d.generation = true :=
    accepts_iff.mpr ⟨d, hd, rfl⟩
  have hle := bounded_run earlier uri d hd
  have hstored : result.1 = s.accepts uri d.generation := storeAnalysis_stored ..
  refine ⟨?_, ?_, ?_, ?_⟩
  · rw [hstored, show s = (run {} earlier).run later from run_append ..,
      accepts_run_iff hle, and_iff_right hread]
  · intro hrefused
    rw [hstored] at hrefused
    exact congrArg Prod.snd (if_neg (Bool.eq_false_iff.mp hrefused))
  · intro htaken
    rw [hstored] at htaken
    exact analysed_storeAnalysis htaken analysis
  · exact (lastGeneration_run_le {} (earlier ++ later)).trans_eq (Nat.zero_add _)

/-- What a pass leaves that has nothing to report. -/
private def reading (text : String) : Analysis := analyze text {} fun _ _ => .ok ⟨[]⟩

/-- Another document, a change that finds none and another pass do not matter. -/
theorem undisturbed_pass_is_stored :
    (run {} [.openText "a" "x" 1]).find? "a" = some ⟨⟨"a", "x", some 1⟩, 1, none⟩ ∧
      ((run {} [.openText "a" "x" 1, .openText "b" "y" 1, .changeText "c" "z" 2,
        .storeAnalysis "a" 1 (reading "y"), .close "b"]).storeAnalysis "a" 1
          (reading "x")).1 = true ∧
      ((run {} [.openText "a" "x" 1, .openText "b" "y" 1, .invalidateAll]).storeAnalysis "a" 1
        (reading "x")).1 = false := by
  have hread : (run {} [.openText "a" "x" 1]).find? "a" =
    some ⟨⟨"a", "x", some 1⟩, 1, none⟩ := rfl
  have hquiet := analysis_is_stored_iff_not_renewed [.openText "a" "x" 1] [.openText "b" "y" 1,
    .changeText "c" "z" 2, .storeAnalysis "a" 1 (reading "y"), .close "b"] "a" _ hread (reading "x")
  have hrenewed := analysis_is_stored_iff_not_renewed [.openText "a" "x" 1]
    [.openText "b" "y" 1, .invalidateAll] "a" _ hread (reading "x")
  refine ⟨hread, hquiet.1.mpr (by decide), ?_⟩
  rw [Bool.eq_false_iff]
  exact fun hstored => absurd (hrenewed.1.mp hstored) (by decide)

/-! What a history says of a document. -/

namespace Entry

/-- `true` if the document of `uri` is opened and `false` if it is closed. -/
def turn? (uri : String) : Entry → Option Bool
  | ⟨.openText key _ _, _⟩ => if key = uri then some true else none
  | ⟨.close key, _⟩ => if key = uri then some false else none
  | _ => none

/-- The document of `uri` as it is opened or changed. -/
def written? (uri : String) : Entry → Option Document
  | ⟨.openText key content version, _⟩ =>
    if key = uri then some ⟨uri, content, some version⟩ else none
  | ⟨.changeText key content version, _⟩ =>
    if key = uri then some ⟨uri, content, some version⟩ else none
  | _ => none

/-- The analysis that the document of `uri` is given. One that was refused is none. -/
def stored? (uri : String) : Entry → Option Analysis
  | ⟨.storeAnalysis key _ analysis, true⟩ => if key = uri then some analysis else none
  | _ => none

end Entry

/-- Whether the last call that opened or closed `uri` opened it. -/
def isOpenAfter (uri : String) (history : List Entry) : Bool :=
  (history.filterMap (Entry.turn? uri)).getLast? == some true

/-- What comes from the last opening on, which is nothing if there was none. -/
def sinceOpening (uri : String) : List Entry → List Entry
  | [] => []
  | e :: rest =>
    if e.turn? uri = some true ∧ ∀ later ∈ rest, later.turn? uri ≠ some true then e :: rest
    else sinceOpening uri rest

private theorem getLast?_filterMap_snoc {α β : Type} (f : α → Option β) (l : List α) (e : α) :
    ((l ++ [e]).filterMap f).getLast? = (f e).or (l.filterMap f).getLast? := by
  cases h : f e with
  | none => simp [h]
  | some b => simp [h]

private theorem sinceOpening_opening (uri : String) (history : List Entry) {e : Entry}
    (h : e.turn? uri = some true) : sinceOpening uri (history ++ [e]) = [e] := by
  induction history with
  | nil => simp [sinceOpening, h]
  | cons first rest ih =>
    have hlater : ¬ ∀ later ∈ rest ++ [e], later.turn? uri ≠ some true :=
      fun hall => hall e (by simp) h
    rw [List.cons_append, sinceOpening, if_neg fun hboth => hlater hboth.2, ih]

private theorem sinceOpening_snoc (uri : String) {history : List Entry} {e : Entry}
    (h : e.turn? uri ≠ some true) (hopened : sinceOpening uri history ≠ []) :
    sinceOpening uri (history ++ [e]) = sinceOpening uri history ++ [e] := by
  induction history with
  | nil => exact absurd rfl hopened
  | cons first rest ih =>
    rw [sinceOpening] at hopened
    rw [List.cons_append, sinceOpening, sinceOpening]
    simp only [List.forall_mem_append, List.forall_mem_singleton, and_iff_left h]
    split
    · rfl
    · rename_i hnot
      rw [if_neg hnot] at hopened
      exact ih hopened

/-- What is held for `uri` is what a history says. -/
structure Agrees (uri : String) (history : List Entry) (held : Option OpenDocument) : Prop where
  isSome : held.isSome = isOpenAfter uri history
  document : ∀ d ∈ held,
    ((sinceOpening uri history).filterMap (Entry.written? uri)).getLast? = some d.document
  analysis : ∀ d ∈ held,
    d.analysis = ((sinceOpening uri history).filterMap (Entry.stored? uri)).getLast?

namespace Agrees
variable {uri : String} {history : List Entry} {held : Option OpenDocument} {e : Entry}

private theorem opened {d : OpenDocument} (ht : e.turn? uri = some true)
    (hd : e.written? uri = some d.document) (ha : e.stored? uri = none)
    (hnone : d.analysis = none) : Agrees uri (history ++ [e]) (some d) := by
  refine ⟨?_, ?_, ?_⟩
  · simp [isOpenAfter, ht]
  · simp [sinceOpening_opening uri history ht, hd]
  · simp [sinceOpening_opening uri history ht, ha, hnone]

private theorem absent (h : isOpenAfter uri history = false) : Agrees uri history none :=
  ⟨h.symm, by simp, by simp⟩

private theorem closed (ht : e.turn? uri = some false) : Agrees uri (history ++ [e]) none := by
  apply absent
  simp [isOpenAfter, ht]

/-- A call that neither opens nor closes the document can only write it or store its analysis. -/
theorem kept (h : Agrees uri history held) (ht : e.turn? uri = none)
    (f : OpenDocument → OpenDocument)
    (hd : ∀ d ∈ held, (f d).document = (e.written? uri).getD d.document)
    (ha : ∀ d ∈ held, (f d).analysis = (e.stored? uri).or d.analysis) :
    Agrees uri (history ++ [e]) (held.map f) := by
  have hopen : isOpenAfter uri (history ++ [e]) = isOpenAfter uri history := by
    rw [isOpenAfter, getLast?_filterMap_snoc, ht, Option.none_or, isOpenAfter]
  have hsince : ∀ d ∈ held,
      sinceOpening uri (history ++ [e]) = sinceOpening uri history ++ [e] := by
    intro d hmem
    apply sinceOpening_snoc uri (by simp [ht])
    intro hnil
    simpa [hnil] using h.document d hmem
  refine ⟨by rw [Option.isSome_map, h.isSome, hopen], ?_, ?_⟩
  · intro d' hd'
    obtain ⟨d, hmem, rfl⟩ := Option.map_eq_some_iff.mp hd'
    rw [hsince d hmem, getLast?_filterMap_snoc, h.document d hmem, hd d hmem]
    cases e.written? uri <;> rfl
  · intro d' hd'
    obtain ⟨d, hmem, rfl⟩ := Option.map_eq_some_iff.mp hd'
    rw [hsince d hmem, getLast?_filterMap_snoc, ha d hmem, h.analysis d hmem]

/-- A call that is about other documents. -/
theorem untouched (h : Agrees uri history held) (ht : e.turn? uri = none)
    (hw : e.written? uri = none) (hs : e.stored? uri = none) :
    Agrees uri (history ++ [e]) held := by
  have hkept := h.kept ht id (fun d _ => by rw [hw]; rfl) (fun d _ => by rw [hs]; rfl)
  rwa [Option.map_id] at hkept

private theorem perform {s : Store} (h : Agrees uri history (s.find? uri)) (call : Call) :
    Agrees uri (history ++ [⟨call, (s.perform call).1⟩]) ((s.perform call).2.find? uri) := by
  cases call with
  | openText key content version =>
    by_cases hk : uri = key
    · simp only [Store.perform, find?_openText, if_pos hk]
      subst hk
      exact .opened (by simp [Entry.turn?]) (by simp [Entry.written?]) rfl rfl
    · simp only [Store.perform, find?_openText, if_neg hk]
      exact h.untouched (by simp [Entry.turn?, Ne.symm hk])
        (by simp [Entry.written?, Ne.symm hk]) rfl
  | changeText key content version =>
    by_cases hk : uri = key
    · simp only [Store.perform, find?_changeText, if_pos hk]
      subst hk
      refine h.kept rfl (.edit content version (s.lastGeneration + 1)) ?_ ?_
      · intro d hd
        simp [Entry.written?, OpenDocument.edit, Document.edit, ← uri_of_find? hd, OpenDocument.uri]
      · intro d hd
        rfl
    · simp only [Store.perform, find?_changeText, if_neg hk]
      exact h.untouched rfl (by simp [Entry.written?, Ne.symm hk]) rfl
  | close key =>
    by_cases hk : uri = key
    · simp only [Store.perform, find?_close, if_pos hk]
      exact .closed (by simp [Entry.turn?, hk])
    · simp only [Store.perform, find?_close, if_neg hk]
      exact h.untouched (by simp [Entry.turn?, Ne.symm hk]) rfl rfl
  | invalidateAll =>
    simp only [Store.perform, find?_invalidateAll]
    exact h.kept rfl _ (fun d _ => rfl) (fun d _ => rfl)
  | storeAnalysis key generation analysis =>
    by_cases hk : uri = key ∧ s.accepts key generation = true
    · obtain ⟨rfl, ha⟩ := hk
      simp only [Store.perform, find?_storeAnalysis, storeAnalysis_stored, ha, and_self, if_true]
      refine h.kept rfl (.record analysis) (fun d _ => rfl) ?_
      intro d hd
      simp [Entry.stored?, OpenDocument.record]
    · simp only [Store.perform, find?_storeAnalysis, if_neg hk, storeAnalysis_stored]
      refine h.untouched rfl rfl ?_
      cases ha : s.accepts key generation with
      | false => rfl
      | true =>
        have hne : key ≠ uri := fun heq => hk ⟨heq.symm, ha⟩
        simp [Entry.stored?, hne]

end Agrees

/-- After every run of calls, what is held for a document is what their history says. -/
theorem agrees_run (uri : String) (calls : List Call) :
    Agrees uri (history {} calls) ((run {} calls).find? uri) := by
  induction calls using List.reverseRecOn with
  | nil => exact .absent rfl
  | append_singleton calls call ih =>
    rw [history_append, run_append]
    exact ih.perform call

/-- A store shows what the history of its calls says: the documents that were opened and not closed
since, each as it was last written, with the analysis last accepted since it was opened. -/
theorem store_shows_its_history (calls : List Call) :
    (∀ uri, ((run {} calls).contains uri = isOpenAfter uri (history {} calls)) ∧
      (isOpenAfter uri (history {} calls) = true → ∃ d, (run {} calls).find? uri = some d ∧
        ((sinceOpening uri (history {} calls)).filterMap (Entry.written? uri)).getLast? =
          some d.document ∧
        ((sinceOpening uri (history {} calls)).filterMap (Entry.stored? uri)).getLast? =
          d.analysis) ∧
      ∀ content version, ((run {} calls).changeText uri content version).1 =
        isOpenAfter uri (history {} calls)) ∧
      (run {} calls).uris.Nodup ∧
      (∀ uri, uri ∈ (run {} calls).uris ↔ isOpenAfter uri (history {} calls) = true) ∧
      (run {} calls).size = {uri | isOpenAfter uri (history {} calls) = true}.ncard := by
  have hmem (uri : String) :
      uri ∈ (run {} calls).uris ↔ isOpenAfter uri (history {} calls) = true := by
    rw [mem_uris, (agrees_run uri calls).isSome]
  refine ⟨fun uri => ⟨?_, ?_, ?_⟩, (run {} calls).nodup, hmem, ?_⟩
  · rw [contains_eq, (agrees_run uri calls).isSome]
  · intro hopen
    have hagrees := agrees_run uri calls
    obtain ⟨d, hd⟩ := Option.isSome_iff_exists.mp (hagrees.isSome.trans hopen)
    exact ⟨d, hd, hagrees.document d hd, (hagrees.analysis d hd).symm⟩
  · intro content version
    rw [changeText_known, (agrees_run uri calls).isSome]
  · have hset : {uri | isOpenAfter uri (history {} calls) = true} =
        ((run {} calls).uris.toFinset : Set String) := by
      ext uri
      rw [Set.mem_ofPred_eq, ← hmem, Finset.mem_coe, List.mem_toFinset]
    have hcard : (run {} calls).uris.toFinset.card = (run {} calls).uris.length :=
      List.toFinset_card_of_nodup (run {} calls).nodup
    rw [hset, Set.ncard_coe_finset, hcard]
    exact (List.length_map OpenDocument.uri).symm

/-- Opened, read, changed and overtaken: the text is the new one and the analysis still the old
one, as the second came too late. -/
theorem changed_document_keeps_analysis :
    isOpenAfter "a" (history {} [.openText "a" "x" 1, .storeAnalysis "a" 1 (reading "x"),
      .changeText "a" "y" 2, .storeAnalysis "a" 1 (reading "z"), .invalidateAll]) = true ∧
      ∃ d, (run {} [.openText "a" "x" 1, .storeAnalysis "a" 1 (reading "x"),
        .changeText "a" "y" 2, .storeAnalysis "a" 1 (reading "z"), .invalidateAll]).find? "a" =
          some d ∧ d.document = ⟨"a", "y", some 2⟩ ∧ d.analysis = some (reading "x") := by
  have hopen : isOpenAfter "a" (history {} [.openText "a" "x" 1,
      .storeAnalysis "a" 1 (reading "x"), .changeText "a" "y" 2,
      .storeAnalysis "a" 1 (reading "z"), .invalidateAll]) = true := by decide
  obtain ⟨d, hd, hdocument, hanalysis⟩ := ((store_shows_its_history _).1 "a").2.1 hopen
  exact ⟨hopen, d, hd, Option.some.inj hdocument.symm, hanalysis.symm⟩

end ApiBlueprint.Store
