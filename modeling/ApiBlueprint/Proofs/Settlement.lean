import ApiBlueprint.Proofs.Interleaving

/-! No update is lost. A pass that has been overtaken leaves nothing behind, so whatever overtakes
it must bring a pass of its own: every document is settled or owed a pass by a handler under way. -/
namespace ApiBlueprint.Interleaving
open Json

/-- A document has the analysis it is due, and its editor was told of it last. -/
structure System.Settled (programs : Programs) (s : System) (uri : String) (d : OpenDocument) :
    Prop where
  analysis : d.analysis = some (d.document.analysis programs s.server.settings)
  shown : lastPublished uri s.told =
    some ((d.document.analysis programs s.server.settings).diagnostics, d.document.version)

/-- The handler will examine a document that keeps its generation, under settings that stay. A pass
under way counts only if it can still be accepted. -/
def Task.Owes (settings : Settings) (uri : String) (generation : Nat) : Task → Prop
  | .start _ => False
  | .outdate _ => True
  | .visit later => uri ∈ later
  | .captured key c later => key = uri ∧ c.generation = generation ∨ uri ∈ later
  | .ready key c read later =>
    (key = uri ∧ c.generation = generation ∧ read = settings) ∨ uri ∈ later

def System.Owed (s : System) (uri : String) (d : OpenDocument) : Prop :=
  ∃ task ∈ s.tasks, task.Owes s.server.settings uri d.generation

/-- What one step of a handler means for a document that is open afterwards. -/
inductive Fate (programs : Programs) (server server' : Server) (task : Task)
    (notices : List Notice) (next : Option Task) (uri : String) (d : OpenDocument) : Prop
  | promised {task' : Task} (hn : next = some task')
      (h : task'.Owes server'.settings uri d.generation)
  | untouched (hd : server.store.find? uri = some d) (hs : server'.settings = server.settings)
      (hn : lastPublished uri notices = none)
      (h : ¬ task.Owes server.settings uri d.generation)
  | examined {e : OpenDocument} {c : Capture} {settings : Settings} {later : List String}
      (ht : task = .ready uri c settings later) (he : server.store.find? uri = some e)
      (hg : e.generation = c.generation)
      (hd : d = e.record (analyzeWith programs settings c.text))
      (hs : server'.settings = server.settings)
      (hn : lastPublished uri notices =
        some ((analyzeWith programs settings c.text).diagnostics, c.version))

variable {programs : Programs}

section Step
variable {server server' : Server} {task : Task} {notices : List Notice} {next : Option Task}

private theorem Fate.finished (server : Server) (key : String) (c : Capture) (settings : Settings)
    (later : List String) {uri : String} {d : OpenDocument}
    (hd : (server.finish key c (analyzeWith programs settings c.text)).1.store.find? uri =
      some d) :
    Fate programs server (server.finish key c (analyzeWith programs settings c.text)).1
      (.ready key c settings later) (server.finish key c (analyzeWith programs settings c.text)).2
      (some (.visit later)) uri d := by
  rw [Server.finish_store, Store.find?_storeAnalysis] at hd
  split at hd
  · rename_i hk
    obtain ⟨rfl, hacc⟩ := hk
    obtain ⟨e, he, hg⟩ := Store.accepts_iff.mp hacc
    refine .examined rfl he hg ?_ rfl ?_
    · rw [he] at hd
      exact (Option.some_inj.mp hd).symm
    · simp [Server.finish_notices, hacc]
  · rename_i hk
    by_cases hlater : uri ∈ later
    · exact .promised rfl hlater
    · refine .untouched hd rfl ?_ ?_
      · rw [Server.finish_notices]
        split
        · rename_i hacc
          have hne : key ≠ uri := fun h => hk ⟨h.symm, hacc⟩
          simp [hne]
        · rfl
      · rintro (⟨rfl, hg, -⟩ | h)
        · exact hk ⟨rfl, Store.accepts_iff.mpr ⟨d, hd, hg.symm⟩⟩
        · exact hlater h

private theorem Task.Step.fate (h : task.Step programs server server' notices next) {uri : String}
    {d : OpenDocument} (hd : server'.store.find? uri = some d) :
    Fate programs server server' task notices next uri d := by
  cases h with
  | opened key text version =>
    by_cases hk : uri = key
    · exact .promised rfl (List.mem_singleton.mpr hk)
    · rw [Store.find?_openText, if_neg hk] at hd
      exact .untouched hd rfl rfl id
  | unchanged key version h => exact .untouched hd rfl rfl id
  | @changed key version texts text h =>
    rw [Store.find?_changeText] at hd
    split at hd
    · rename_i hk
      obtain ⟨e, he, -⟩ := Option.map_eq_some_iff.mp hd
      have hknown : (server.store.changeText key text version).1 = true := by simp [he]
      rw [if_pos hknown]
      exact .promised rfl (List.mem_singleton.mpr hk)
    · exact .untouched hd rfl rfl id
  | closed key =>
    rw [Store.find?_close] at hd
    split at hd
    · cases hd
    · rename_i hk
      exact .untouched hd rfl (by simp [Ne.symm hk]) id
  | configured payload => exact .promised rfl trivial
  | outdated written h =>
    rw [Store.find?_invalidateAll] at hd
    obtain ⟨e, he, -⟩ := Option.map_eq_some_iff.mp hd
    have hopen : uri ∈ server.store.uris := Store.mem_uris.mpr (by simp [he])
    exact .promised rfl (h.mem_iff.mpr hopen)
  | done => exact .untouched hd rfl rfl (by simp [Task.Owes])
  | @skipped key later h =>
    by_cases hlater : uri ∈ later
    · exact .promised rfl hlater
    · refine .untouched hd rfl rfl ?_
      intro howes
      rcases List.mem_cons.mp howes with rfl | hmem
      · simp [Store.capture?, hd] at h
      · exact hlater hmem
  | @captured key c later h =>
    by_cases hlater : uri ∈ later
    · exact .promised rfl (.inr hlater)
    · by_cases hk : uri = key
      · subst hk
        rw [Store.capture?, hd] at h
        cases h
        exact .promised rfl (.inl ⟨rfl, rfl⟩)
      · exact .untouched hd rfl rfl (by simp [Task.Owes, hk, hlater])
  | read key c later =>
    by_cases howes : key = uri ∧ c.generation = d.generation ∨ uri ∈ later
    · refine .promised rfl ?_
      rcases howes with ⟨hk, hg⟩ | hlater
      · exact .inl ⟨hk, hg, rfl⟩
      · exact .inr hlater
    · exact .untouched hd rfl rfl howes
  | finished key c settings later => exact .finished server key c settings later hd

end Step

private theorem System.Settled.congr {s s' : System} {uri : String} {d : OpenDocument}
    (h : s.Settled programs uri d) (hs : s'.server.settings = s.server.settings)
    (ht : lastPublished uri s'.told = lastPublished uri s.told) : s'.Settled programs uri d := by
  refine ⟨?_, ?_⟩
  · rw [hs]
    exact h.analysis
  · rw [hs, ht]
    exact h.shown

/-- Every document is settled or owed a pass. -/
def System.Attended (programs : Programs) (s : System) : Prop :=
  ∀ uri d, s.server.store.find? uri = some d → s.Settled programs uri d ∨ s.Owed uri d

private theorem mem_of_advanced {t task : Task} {before after : List Task} {next : Option Task}
    (ht : t ∈ before ++ task :: after) (hne : t ≠ task) : t ∈ before ++ next.toList ++ after := by
  simp only [List.mem_append, List.mem_cons] at ht ⊢
  rcases ht with ht | ht | ht
  · exact .inl (.inl ht)
  · exact absurd ht hne
  · exact .inr ht

private theorem System.Attended.step {s s' : System} (ha : s.Attended programs) (hs : s.Sound)
    (h : System.Step programs s s') : s'.Attended programs := by
  intro uri d hd
  cases h with
  | arrive event =>
    rcases ha uri d hd with hset | ⟨task, ht, howes⟩
    · exact .inl (hset.congr rfl rfl)
    · exact .inr ⟨task, List.mem_append_left _ ht, howes⟩
  | introduce payload h =>
    simp [Store.find?, h] at hd
  | @advance before after task server notices next htasks hstep =>
    cases hstep.fate hd with
    | promised hn h => exact .inr ⟨_, by simp [hn], h⟩
    | untouched he hsame hn hnot =>
      rcases ha uri d he with hset | ⟨t, ht, howes⟩
      · exact .inl (hset.congr hsame (by simp [lastPublished_append, hn]))
      · refine .inr ⟨t, ?_, ?_⟩
        · refine mem_of_advanced (htasks ▸ ht) ?_
          rintro rfl
          exact hnot howes
        · exact hsame ▸ howes
    | @examined e c settings later ht he hg hd' hsame hn =>
      have hready : .ready uri c settings later ∈ s.tasks := by simp [htasks, ht]
      have hacc := Store.accepts_iff.mpr ⟨e, he, hg⟩
      obtain ⟨e', haccepted, hversion⟩ :
          ∃ e', Accepted programs s uri e' (analyzeWith programs settings c.text) ∧
            e'.document.version = c.version := hs.accepted hready hacc
      obtain rfl : e = e' := Option.some_inj.mp (he.symm.trans haccepted.opened)
      rcases haccepted.settings with hcurrent | hpending
      · have hanalysis : analyzeWith programs settings c.text =
            e.document.analysis programs server.settings := by
          rw [haccepted.text, hcurrent, hsame]
        refine .inl ⟨?_, ?_⟩
        · rw [hd', hanalysis]
          rfl
        · rw [lastPublished_append, hn, hanalysis, ← hversion, hd']
          rfl
      · rw [System.Pending, htasks] at hpending
        refine .inr ⟨.outdate true, mem_of_advanced hpending ?_, trivial⟩
        simp [ht]

private theorem Reachable.attended {s : System} (h : Reachable programs s) :
    s.Attended programs := by
  induction h with
  | start =>
    intro uri d hd
    cases hd
  | step hreach hstep ih => exact ih.step hreach.sound hstep

private theorem Reachable.run {s s' : System} (h : Reachable programs s)
    (hr : Relation.ReflTransGen (System.Step programs) s s') : Reachable programs s' := by
  induction hr with
  | refl => exact h
  | tail _ hstep ih => exact ih.step hstep

/-- No handler is under way, though messages may have come that none has begun with. -/
def System.Idle (s : System) : Prop := ∀ task ∈ s.tasks, ∃ event, task = .start event

/-- What is owed is owed by a handler under way. -/
theorem Reachable.settled_of_idle {s : System} (h : Reachable programs s) (hi : s.Idle)
    {uri : String} {d : OpenDocument} (hd : s.server.store.find? uri = some d) :
    s.Settled programs uri d := by
  rcases h.attended uri d hd with hsettled | ⟨task, ht, howes⟩
  · exact hsettled
  · obtain ⟨event, rfl⟩ := hi task ht
    cases howes

/-- Whenever the server comes to rest, every open document has an analysis of its current text under
the current settings, and that is what was told about it last. -/
theorem idle_documents_are_settled {s : System} (h : Reachable programs s) (hi : s.Idle)
    (uri : String) (d : OpenDocument) (hd : s.server.store.find? uri = some d) :
    d.analysis = some (analyzeWith programs s.server.settings d.document.content) ∧
      lastPublished uri s.told =
        some ((analyzeWith programs s.server.settings d.document.content).diagnostics,
          d.document.version) := by
  have hsettled := h.settled_of_idle hi hd
  exact ⟨hsettled.analysis, hsettled.shown⟩

/-- The race is over: the analysis under the old settings was accepted, and the renewal replaced
it. -/
theorem race_settles :
    ∃ s d, Reachable missing s ∧ s.Idle ∧ s.server.settings = (race {}).server.settings ∧
      s.server.store.find? "draft" = some d ∧
      d.analysis = some (analyzeWith missing s.server.settings d.document.content) ∧
      lastPublished "draft" s.told =
        some ((analyzeWith missing s.server.settings d.document.content).diagnostics,
          d.document.version) := by
  let accepted : Server :=
    ((race {}).server.finish "draft" sketched (analyzeWith missing {} "# A")).1
  let renewed : Server := { accepted with store := accepted.store.invalidateAll }
  have hfinish := race_reachable.step (step_first missing
    (.finished (race {}).server "draft" sketched {} []) [.outdate true] [])
  have hdone := hfinish.step (step_first missing (.done accepted) [.outdate true] _)
  have hrenew := hdone.step (step_first missing
    (.outdated accepted true (List.Perm.refl _)) [] _)
  have hrest := hrenew.run (visit_alone accepted.store.uris renewed [] _)
  have hopen : ∃ e, accepted.store.find? "draft" = some e := by
    rw [Server.finish_store, Store.find?_storeAnalysis]
    split <;> simp [race, sketch]
  obtain ⟨e, he⟩ := hopen
  have hmem : "draft" ∈ accepted.store.uris := Store.mem_uris.mpr (by simp [he])
  have hd : (renewed.validateAll missing accepted.store.uris).1.store.find? "draft" =
      some ((e.renew (accepted.store.lastGeneration + 1)).examined missing renewed.settings) := by
    rw [Server.find?_validateAll, if_pos hmem, Store.find?_invalidateAll, he]
    rfl
  have hidle (server : Server) (told : List Notice) : System.Idle ⟨server, [], told⟩ := by
    intro task ht
    cases ht
  refine ⟨_, _, hrest, hidle _ _, by simp [renewed, accepted], hd, ?_⟩
  exact idle_documents_are_settled hrest (hidle _ _) "draft" _ hd

end ApiBlueprint.Interleaving
