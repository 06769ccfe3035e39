import ApiBlueprint.Proofs.Validation
import Mathlib.Logic.Relation

/-! Handlers that run side by side. Each step of a handler holds one lock, and between two steps any
others may come. The settings are read after the generation, so settings that change in between are
noticed by the renewal that follows them. -/
namespace ApiBlueprint.Interleaving
open Json

/-- What is left of a handler, between two of its steps. `later` lists the documents that it has yet
to look at, and `written` tells whether new settings are in force that no document knows of. -/
inductive Task where
  | start (event : Event)
  | outdate (written : Bool)
  | visit (later : List String)
  | captured (uri : String) (capture : Capture) (later : List String)
  | ready (uri : String) (capture : Capture) (settings : Settings) (later : List String)

/-- A server with the handlers under way and all that was told so far. -/
structure System where
  server : Server := {}
  tasks : List Task := []
  told : List Notice := []

/-- One step of a handler: what becomes of the server, what is told, and what is left to do. The
documents are visited in any order after a change of settings. -/
inductive Task.Step (programs : Programs) :
    Server → Task → Server → List Notice → Option Task → Prop
  | opened (s : Server) (uri text : String) (version : Int32) :
      Step programs s (.start (.opened uri text version))
        { s with store := s.store.openText uri text version } [] (some (.visit [uri]))
  | unchanged (s : Server) (uri : String) (version : Int32) {texts : List String}
      (h : texts.getLast? = none) :
      Step programs s (.start (.changed uri version texts)) s [] none
  | changed (s : Server) (uri : String) (version : Int32) {texts : List String} {text : String}
      (h : texts.getLast? = some text) :
      Step programs s (.start (.changed uri version texts))
        { s with store := (s.store.changeText uri text version).2 } []
        (if (s.store.changeText uri text version).1 then some (.visit [uri]) else none)
  | closed (s : Server) (uri : String) :
      Step programs s (.start (.closed uri)) { s with store := s.store.close uri }
        [.publish uri [] none] none
  | configured (s : Server) (payload : Value) :
      Step programs s (.start (.configured payload)) (s.configure payload).1 (s.configure payload).2
        (some (.outdate (Settings.ofValue payload).isOk))
  | outdated (s : Server) (written : Bool) {order : List String} (h : order.Perm s.store.uris) :
      Step programs s (.outdate written) { s with store := s.store.invalidateAll } []
        (some (.visit order))
  | done (s : Server) : Step programs s (.visit []) s [] none
  | skipped (s : Server) {uri : String} (later : List String) (h : s.store.capture? uri = none) :
      Step programs s (.visit (uri :: later)) s [] (some (.visit later))
  | captured (s : Server) {uri : String} {c : Capture} (later : List String)
      (h : s.store.capture? uri = some c) :
      Step programs s (.visit (uri :: later)) s [] (some (.captured uri c later))
  | read (s : Server) (uri : String) (c : Capture) (later : List String) :
      Step programs s (.captured uri c later) s [] (some (.ready uri c s.settings later))
  | finished (s : Server) (uri : String) (c : Capture) (settings : Settings) (later : List String) :
      Step programs s (.ready uri c settings later)
        (s.finish uri c (analyzeWith programs settings c.text)).1
        (s.finish uri c (analyzeWith programs settings c.text)).2 (some (.visit later))

/-- One step of the whole: a message arrives, or a handler goes on. Apart from handlers, settings
are only set while no document is open. -/
inductive System.Step (programs : Programs) : System → System → Prop
  | arrive (s : System) (event : Event) :
      Step programs s { s with tasks := s.tasks ++ [.start event] }
  | introduce (s : System) (payload : Value) (h : s.server.store.documents = []) :
      Step programs s { s with server := (s.server.configure payload).1,
                               told := s.told ++ (s.server.configure payload).2 }
  | advance {s : System} {before after : List Task} {task : Task} {server : Server}
      {notices : List Notice} {next : Option Task} (h : s.tasks = before ++ task :: after)
      (hs : task.Step programs s.server server notices next) :
      Step programs s ⟨server, before ++ next.toList ++ after, s.told ++ notices⟩

/-- Everything that can come of a server to which nothing has been said. -/
inductive Reachable (programs : Programs) : System → Prop
  | start : Reachable programs {}
  | step {s s' : System} (h : Reachable programs s) (hs : System.Step programs s s') :
      Reachable programs s'

variable {programs : Programs}

/-! A handler that nothing interrupts does what the server does with its event. -/

private theorem step_at (programs : Programs) (before : List Task) {task : Task}
    {server server' : Server} {notices : List Notice} {next : Option Task}
    (hs : task.Step programs server server' notices next) (after : List Task) (told : List Notice) :
    System.Step programs ⟨server, before ++ task :: after, told⟩
      ⟨server', before ++ next.toList ++ after, told ++ notices⟩ :=
  @System.Step.advance programs ⟨server, before ++ task :: after, told⟩ before after task server'
    notices next rfl hs

/-- A step of the first handler is one of the system. -/
theorem step_first (programs : Programs) {task : Task} {server server' : Server}
    {notices : List Notice} {next : Option Task}
    (hs : task.Step programs server server' notices next) (others : List Task)
    (told : List Notice) :
    System.Step programs ⟨server, task :: others, told⟩
      ⟨server', next.toList ++ others, told ++ notices⟩ :=
  step_at programs [] hs others told

/-- Passes that nothing interrupts are those of the server, one document after the other. -/
theorem visit_alone (order : List String) (server : Server) (others : List Task)
    (told : List Notice) :
    Relation.ReflTransGen (System.Step programs) ⟨server, .visit order :: others, told⟩
      ⟨(server.validateAll programs order).1, others,
        told ++ (server.validateAll programs order).2⟩ := by
  induction order generalizing server told with
  | nil => exact .single (step_first programs (.done server) others told)
  | cons uri rest ih =>
    cases hc : server.store.capture? uri with
    | none =>
      have hskip := step_first programs (.skipped server rest hc) others told
      simpa [Server.validateAll, Server.validate, hc] using
        Relation.ReflTransGen.head hskip (ih server (told ++ []))
    | some c =>
      have htake := step_first programs (.captured server rest hc) others told
      have hread := step_first programs (.read server uri c rest) others (told ++ [])
      have hlast := step_first programs (.finished server uri c server.settings rest) others
        (told ++ [] ++ [])
      simpa [Server.validateAll, Server.validate, hc] using
        Relation.ReflTransGen.head htake (.head hread (.head hlast (ih _ _)))

/-- Steps that follow each other make up the handling of an event. -/
theorem handle_alone (server : Server) (event : Event) (others : List Task) (told : List Notice) :
    Relation.ReflTransGen (System.Step programs) ⟨server, .start event :: others, told⟩
      ⟨(server.handle programs event).1, others, told ++ (server.handle programs event).2⟩ := by
  cases event with
  | opened uri text version =>
    have hfirst := step_first programs (.opened server uri text version) others told
    simpa [Server.handle, Server.validateAll] using
      Relation.ReflTransGen.head hfirst (visit_alone _ _ _ _)
  | changed uri version texts =>
    cases ht : texts.getLast? with
    | none =>
      have hfirst := step_first programs (.unchanged server uri version ht) others told
      simpa [Server.handle, ht] using Relation.ReflTransGen.single hfirst
    | some text =>
      have hfirst := step_first programs (.changed server uri version ht) others told
      cases hf : (server.store.find? uri).isSome with
      | false => simpa [Server.handle, ht, hf] using Relation.ReflTransGen.single hfirst
      | true =>
        simp [hf] at hfirst
        simpa [Server.handle, Server.validateAll, ht, hf] using
          Relation.ReflTransGen.head hfirst (visit_alone _ _ _ _)
  | closed uri => exact .single (step_first programs (.closed server uri) others told)
  | configured payload =>
    have hfirst := step_first programs (.configured server payload) others told
    have hthen := step_first programs
      (.outdated (server.configure payload).1 (Settings.ofValue payload).isOk (List.Perm.refl _))
      others (told ++ (server.configure payload).2)
    simpa [Server.handle, Server.reconfigure] using
      Relation.ReflTransGen.head hfirst (.head hthen (visit_alone _ _ _ _))

/-! What the steps of one handler leave true for all the others. -/

/-- A capture is of a generation given out before, and as long as its document has that generation
it is a copy of it. -/
structure Knows (store : Store) (uri : String) (c : Capture) : Prop where
  le : c.generation ≤ store.lastGeneration
  same : ∀ d, store.find? uri = some d → d.generation = c.generation →
    d.document.content = c.text ∧ d.document.version = c.version

/-- What holds of a handler between two steps, where `pending` tells whether a change of settings
is still to reach the documents. -/
def Task.Sound (server : Server) (pending : Prop) : Task → Prop
  | .captured uri c _ => Knows server.store uri c
  | .ready uri c settings _ =>
    Knows server.store uri c ∧
      (server.store.accepts uri c.generation = true → settings = server.settings ∨ pending)
  | _ => True

private theorem Knows.of_capture {store : Store} {uri : String} {c : Capture} (hb : store.Bounded)
    (h : store.capture? uri = some c) : Knows store uri c := by
  obtain ⟨d, hd, rfl⟩ := Option.map_eq_some_iff.mp h
  refine ⟨hb uri d hd, ?_⟩
  intro e he _
  obtain rfl : d = e := Option.some_inj.mp (hd.symm.trans he)
  exact ⟨rfl, rfl⟩

private theorem Knows.advance {store store' : Store} {uri : String} {c : Capture}
    (h : Knows store uri c)
    (ha : store.Advances store') : Knows store' uri c := by
  refine ⟨Nat.le_trans h.le ha.le, ?_⟩
  intro d' hd' hg
  obtain ⟨d, hd, hgen, hdoc⟩ := ha.old uri d' hd' (hg ▸ h.le)
  rw [← hdoc]
  exact h.same d hd (hgen.trans hg)

/-- Settings that change while a generation is still accepted leave a change pending. -/
def Keeps (server server' : Server) (pending pending' : Prop) : Prop :=
  ∀ uri generation, generation ≤ server.store.lastGeneration →
    server'.store.accepts uri generation = true →
    pending' ∨ server'.settings = server.settings ∧ (pending → pending')

private theorem Task.Sound.advance {server server' : Server} {pending pending' : Prop} {task : Task}
    (h : task.Sound server pending) (ha : server.store.Advances server'.store)
    (hk : Keeps server server' pending pending') : task.Sound server' pending' := by
  cases task with
  | start event => trivial
  | outdate written => trivial
  | visit later => trivial
  | captured uri c later => exact Knows.advance h ha
  | ready uri c settings later =>
    obtain ⟨hknows, hcur⟩ := h
    refine ⟨hknows.advance ha, ?_⟩
    intro hacc
    rcases hk uri c.generation hknows.le hacc with hp | ⟨hsame, hp⟩
    · exact .inr hp
    · rw [hsame]
      exact (hcur (ha.accepts_of_le hknows.le hacc)).imp_right hp

section Step
variable {server server' : Server} {task : Task} {notices : List Notice} {next : Option Task}

private theorem Task.Step.advances (h : task.Step programs server server' notices next) :
    server.store.Advances server'.store := by
  cases h with
  | opened uri text version => exact Store.advances_openText ..
  | unchanged uri version h => exact .refl _
  | changed uri version h => exact Store.advances_changeText ..
  | closed uri => exact Store.advances_close ..
  | configured payload =>
    rw [Server.configure_store]
    exact .refl _
  | outdated written h => exact Store.advances_invalidateAll _
  | done => exact .refl _
  | skipped later h => exact .refl _
  | captured later h => exact .refl _
  | read uri c later => exact .refl _
  | finished uri c settings later => exact Store.advances_storeAnalysis ..

/-- Only a configuration change writes settings, and what it leaves to do is the renewal. The
renewal itself leaves no old generation accepted. -/
theorem Task.Step.settings_or (h : task.Step programs server server' notices next) {uri : String}
    {generation : Nat} (hle : generation ≤ server.store.lastGeneration)
    (hacc : server'.store.accepts uri generation = true) :
    next = some (.outdate true) ∨ server'.settings = server.settings ∧ task ≠ .outdate true := by
  cases h with
  | configured payload =>
    cases hp : Settings.ofValue payload with
    | ok settings => exact .inl rfl
    | error e =>
      refine .inr ⟨?_, by simp⟩
      simp [Server.configure_settings, hp, Except.toOption]
  | outdated written h =>
    rw [Store.not_accepts_invalidateAll hle] at hacc
    cases hacc
  | _ => exact .inr ⟨rfl, by simp⟩

private theorem Task.Step.next_sound (h : task.Step programs server server' notices next)
    (hb : server.store.Bounded) {pending pending' : Prop} (ht : task.Sound server pending)
    {task' : Task} (hn : next = some task') : task'.Sound server' pending' := by
  cases h with
  | changed uri version h =>
    split at hn
    · cases hn
      trivial
    · cases hn
  | captured later h =>
    cases hn
    exact Knows.of_capture hb h
  | read uri c later =>
    cases hn
    exact ⟨ht, fun _ => .inl rfl⟩
  | unchanged | closed | done => cases hn
  | opened | configured | outdated | skipped | finished =>
    cases hn
    trivial

/-- What a step may do to one document, and what is told about it. -/
inductive Effect (programs : Programs) (server server' : Server) (task : Task) (uri : String) :
    Option (List Diagnostic × Option Int32) → Prop
  | kept (h : (server'.store.find? uri).map OpenDocument.analysis =
      (server.store.find? uri).map OpenDocument.analysis) :
      Effect programs server server' task uri none
  | renewed {d : OpenDocument} (h : server'.store.find? uri = some d) (ha : d.analysis = none) :
      Effect programs server server' task uri none
  | removed (h : server'.store.find? uri = none) :
      Effect programs server server' task uri (some ([], none))
  | stored {c : Capture} {settings : Settings} {later : List String}
      (ht : task = .ready uri c settings later)
      (hacc : server.store.accepts uri c.generation = true)
      (h : server'.store.find? uri =
        (server.store.find? uri).map (.record (analyzeWith programs settings c.text))) :
      Effect programs server server' task uri
        (some ((analyzeWith programs settings c.text).diagnostics, c.version))

private theorem Task.Step.effect (h : task.Step programs server server' notices next)
    (uri : String) :
    Effect programs server server' task uri (lastPublished uri notices) := by
  cases h with
  | opened key text version =>
    by_cases hk : uri = key
    · exact .renewed (by rw [Store.find?_openText, if_pos hk]) rfl
    · exact .kept (by rw [Store.find?_openText, if_neg hk])
  | changed key version h =>
    refine .kept ?_
    rw [Store.find?_changeText]
    split
    · rename_i hk
      rw [hk, Option.map_map]
      rfl
    · rfl
  | closed key =>
    rw [lastPublished_publish]
    by_cases hk : uri = key
    · rw [if_pos hk.symm]
      exact .removed (by rw [Store.find?_close, if_pos hk])
    · rw [if_neg (Ne.symm hk)]
      exact .kept (by rw [Store.find?_close, if_neg hk])
  | configured payload =>
    rw [Server.lastPublished_configure]
    exact .kept (by rw [Server.configure_store])
  | outdated written h =>
    refine .kept ?_
    rw [Store.find?_invalidateAll, Option.map_map]
    rfl
  | finished key c settings later =>
    have hfind := Store.find?_storeAnalysis server.store key uri c.generation
      (analyzeWith programs settings c.text)
    rw [Server.finish_notices]
    by_cases hacc : server.store.accepts key c.generation = true
    · rw [if_pos hacc, lastPublished_publish]
      by_cases hk : uri = key
      · subst hk
        rw [if_pos rfl]
        exact .stored rfl hacc (hfind.trans (if_pos ⟨rfl, hacc⟩))
      · rw [if_neg (Ne.symm hk)]
        exact .kept (congrArg _ (hfind.trans (if_neg fun h => hk h.1)))
    · rw [if_neg hacc]
      exact .kept (congrArg _ (hfind.trans (if_neg fun h => hacc h.2)))
  | _ => exact .kept rfl

end Step

/-- A change of settings has been written and the documents are still to be renewed. -/
def System.Pending (s : System) : Prop := Task.outdate true ∈ s.tasks

structure System.Sound (s : System) : Prop where
  bounded : s.server.store.Bounded
  tasks : ∀ task ∈ s.tasks, task.Sound s.server s.Pending

private theorem System.Step.advances {s s' : System} (h : System.Step programs s s') :
    s.server.store.Advances s'.server.store := by
  cases h with
  | arrive event => exact .refl _
  | introduce payload h =>
    simp only [Server.configure_store]
    exact .refl _
  | advance h hs => exact hs.advances

private theorem advances_of_run {s s' : System}
    (h : Relation.ReflTransGen (System.Step programs) s s') :
    s.server.store.Advances s'.server.store := by
  induction h with
  | refl => exact .refl _
  | tail _ hstep ih => exact ih.trans hstep.advances

private theorem System.Sound.step {s s' : System} (hs : s.Sound) (h : System.Step programs s s') :
    s'.Sound := by
  have ha := h.advances
  refine ⟨ha.bounded hs.bounded, ?_⟩
  cases h with
  | arrive event =>
    intro task ht
    rcases List.mem_append.mp ht with ht | ht
    · refine (hs.tasks task ht).advance ha ?_
      intro _ _ _ _
      exact .inr ⟨rfl, fun hp => List.mem_append_left _ hp⟩
    · rw [List.mem_singleton.mp ht]
      trivial
  | introduce payload h =>
    intro task ht
    refine (hs.tasks task ht).advance ha ?_
    intro uri generation _ hacc
    obtain ⟨d, hd, -⟩ := Store.accepts_iff.mp hacc
    simp [Store.find?, h] at hd
  | @advance before after task server notices next htasks hstep =>
    have hrest : Keeps s.server server s.Pending
        (Task.outdate true ∈ before ++ next.toList ++ after) := by
      intro uri generation hle hacc
      rcases hstep.settings_or hle hacc with rfl | ⟨hsame, hne⟩
      · exact .inl (by simp)
      · refine .inr ⟨hsame, ?_⟩
        intro hp
        rw [System.Pending, htasks] at hp
        simp only [List.mem_append, List.mem_cons] at hp ⊢
        rcases hp with hp | hp | hp
        · exact .inl (.inl hp)
        · exact absurd hp.symm hne
        · exact .inr hp
    intro t ht
    simp only [List.mem_append, Option.mem_toList] at ht
    rcases ht with (ht | ht) | ht
    · exact (hs.tasks t (by simp [htasks, ht])).advance ha hrest
    · exact hstep.next_sound hs.bounded (hs.tasks task (by simp [htasks])) ht
    · exact (hs.tasks t (by simp [htasks, ht])).advance ha hrest

/-- Whatever came in between, no handler has been misled. -/
theorem Reachable.sound {s : System} (h : Reachable programs s) : s.Sound := by
  induction h with
  | start =>
    refine ⟨?_, ?_⟩
    · intro uri d hd
      cases hd
    · intro task ht
      cases ht
  | step _ hstep ih => exact ih.step hstep

/-- An analysis that a document may be given. It is one of its text, and its settings are those in
force unless the documents are still to be renewed. -/
structure Accepted (programs : Programs) (s : System) (uri : String) (d : OpenDocument)
    (a : Analysis) : Prop where
  opened : s.server.store.find? uri = some d
  text : a = d.document.analysis programs a.settings
  settings : a.settings = s.server.settings ∨ s.Pending

/-- A pass that is still accepted has the text and version of its document, and the settings in
force unless a renewal is to come. -/
theorem System.Sound.accepted {s : System} (hs : s.Sound) {uri : String} {c : Capture}
    {settings : Settings} {later : List String} (ht : .ready uri c settings later ∈ s.tasks)
    (hacc : s.server.store.accepts uri c.generation = true) :
    ∃ d, Accepted programs s uri d (analyzeWith programs settings c.text) ∧
      d.document.version = c.version := by
  obtain ⟨hknows, hcur⟩ := hs.tasks _ ht
  obtain ⟨d, hd, hg⟩ := Store.accepts_iff.mp hacc
  obtain ⟨htext, hversion⟩ := hknows.same d hd hg
  refine ⟨d, ⟨hd, ?_, hcur hacc⟩, hversion⟩
  rw [Document.analysis, htext]
  rfl

private theorem System.Step.analysis_from {s s' : System} (h : System.Step programs s s')
    {uri : String}
    {d' : OpenDocument} {a : Analysis} (hd : s'.server.store.find? uri = some d')
    (ha : d'.analysis = some a) :
    (∃ d, s.server.store.find? uri = some d ∧ d.analysis = some a ∧
      lastPublished uri s'.told = lastPublished uri s.told) ∨
    ∃ c settings later, .ready uri c settings later ∈ s.tasks ∧
      s.server.store.accepts uri c.generation = true ∧ a = analyzeWith programs settings c.text ∧
      lastPublished uri s'.told = some (a.diagnostics, c.version) := by
  cases h with
  | arrive event => exact .inl ⟨d', hd, ha, rfl⟩
  | introduce payload h =>
    simp only [Server.configure_store] at hd
    exact .inl ⟨d', hd, ha, by simp [lastPublished_append]⟩
  | @advance _ _ _ _ notices _ htasks hstep =>
    have heffect := hstep.effect uri
    simp only [lastPublished_append]
    generalize lastPublished uri notices = said at heffect ⊢
    cases heffect with
    | kept h =>
      rw [hd] at h
      obtain ⟨d, hf, hsame⟩ := Option.map_eq_some_iff.mp h.symm
      exact .inl ⟨d, hf, hsame.trans ha, rfl⟩
    | renewed h hnone =>
      obtain rfl := Option.some_inj.mp (hd.symm.trans h)
      exact absurd ha (by simp [hnone])
    | removed h => exact absurd hd (by simp [h])
    | @stored c settings later ht hacc h =>
      rw [hd] at h
      obtain ⟨d, -, rfl⟩ := Option.map_eq_some_iff.mp h.symm
      obtain rfl : _ = a := Option.some_inj.mp ha
      exact .inr ⟨c, settings, later, by simp [htasks, ht], hacc, rfl, rfl⟩

/-- The moment `s₀` at which a document `d₀` was given an analysis, seen from a later state whose
editor has been told nothing else about the document since. -/
structure Since (programs : Programs) (s₀ : System) (d₀ : OpenDocument) (s : System) (uri : String)
    (a : Analysis) : Prop where
  reachable : Reachable programs s₀
  run : Relation.ReflTransGen (System.Step programs) s₀ s
  accepted : Accepted programs s₀ uri d₀ a
  told : lastPublished uri s.told = some (a.diagnostics, d₀.document.version)

private theorem Reachable.since {s : System} (h : Reachable programs s) {uri : String}
    {d : OpenDocument}
    {a : Analysis} (hd : s.server.store.find? uri = some d) (ha : d.analysis = some a) :
    ∃ s₀ d₀, Since programs s₀ d₀ s uri a := by
  induction h generalizing d with
  | start => cases hd
  | @step s s' hreach hstep ih =>
    rcases hstep.analysis_from hd ha with ⟨e, he, hea, hsame⟩ | ⟨c, settings, later, ht, h⟩
    · obtain ⟨s₀, d₀, hsince⟩ := ih he hea
      exact ⟨s₀, d₀, hsince.reachable, hsince.run.tail hstep, hsince.accepted,
        hsame.trans hsince.told⟩
    · obtain ⟨hacc, rfl, htold⟩ := h
      obtain ⟨d₀, hacc₀, hversion⟩ := hreach.sound.accepted ht hacc
      exact ⟨s, d₀, hreach, .single hstep, hacc₀, hversion ▸ htold⟩

/-- As long as the generation stays, the document is the one the analysis was made for. -/
theorem Since.document_eq {s₀ s : System} {d₀ d : OpenDocument} {uri : String} {a : Analysis}
    (h : Since programs s₀ d₀ s uri a) (hd : s.server.store.find? uri = some d)
    (hg : d₀.generation = d.generation) : d₀.document = d.document := by
  have hle : d₀.generation ≤ s₀.server.store.lastGeneration :=
    h.reachable.sound.bounded uri d₀ h.accepted.opened
  obtain ⟨e, he, -, hdoc⟩ := (advances_of_run h.run).old uri d hd (hg ▸ hle)
  obtain rfl : d₀ = e := Option.some_inj.mp (h.accepted.opened.symm.trans he)
  exact hdoc

private theorem Reachable.absent {s : System} (h : Reachable programs s) {uri : String}
    (hd : s.server.store.find? uri = none) :
    lastPublished uri s.told = none ∨ lastPublished uri s.told = some ([], none) := by
  induction h with
  | start => exact .inl rfl
  | step _ hstep ih =>
    cases hstep with
    | arrive event => exact ih hd
    | introduce payload h =>
      simp only [Server.configure_store] at hd
      simpa [lastPublished_append] using ih hd
    | @advance _ _ _ _ notices _ htasks hstep =>
      have heffect := hstep.effect uri
      simp only [lastPublished_append]
      generalize lastPublished uri notices = said at heffect ⊢
      cases heffect with
      | kept h =>
        rw [hd] at h
        exact ih (Option.map_eq_none_iff.mp h.symm)
      | renewed h _ => exact absurd hd (by simp [h])
      | removed _ => exact .inr rfl
      | stored ht hacc h =>
        obtain ⟨d, hf, -⟩ := Store.accepts_iff.mp hacc
        exact absurd hd (by simp [h, hf])

/-- Whatever handlers do in between, an analysis is accepted only for the text and version that its
document has at that moment, and with the settings in force unless a renewal is still to come. What
is stored for a document is what was told about it last. -/
theorem accepted_analyses_are_current_and_shown {s : System} (h : Reachable programs s) :
    (∀ uri c settings later, Task.ready uri c settings later ∈ s.tasks →
      let a := analyzeWith programs settings c.text
      (s.server.store.storeAnalysis uri c.generation a).1 = true →
        ∃ d, Accepted programs s uri d a ∧
          (s.server.finish uri c a).1.store.find? uri = some (d.record a) ∧
          (s.server.finish uri c a).2 = [.publish uri a.diagnostics d.document.version]) ∧
    (∀ uri d a, s.server.store.find? uri = some d → d.analysis = some a →
      ∃ s₀ d₀, Since programs s₀ d₀ s uri a ∧
        (d₀.generation = d.generation → d₀.document = d.document)) ∧
    ∀ uri, s.server.store.find? uri = none →
      lastPublished uri s.told = none ∨ lastPublished uri s.told = some ([], none) := by
  refine ⟨?_, ?_, fun uri hd => h.absent hd⟩
  · intro uri c settings later ht a hstored
    rw [Store.storeAnalysis_stored] at hstored
    obtain ⟨d, hacc, hversion⟩ := h.sound.accepted ht hstored
    refine ⟨d, hacc, ?_, ?_⟩
    · simp [hstored, hacc.opened]
    · simp [Server.finish_notices, hstored, hversion]
  · intro uri d a hd ha
    obtain ⟨s₀, d₀, hsince⟩ := h.since hd ha
    exact ⟨s₀, d₀, hsince, hsince.document_eq hd⟩

def missing : Programs := fun _ _ _ => .notStarted "no such file"

def sketched : Capture := ⟨"# A", some 1, 1⟩

def compact : Value := .record [("json", .bool true)]

def sketch (s : Server) : Server := { s with store := s.store.openText "draft" "# A" 1 }

/-- A pass has read the settings before they were changed, and no document knows of the change. -/
def race (s : Server) : System :=
  ⟨((sketch s).configure compact).1, [.ready "draft" sketched {} [], .outdate true], []⟩

/-- Settings may change between the last two steps of a pass. -/
theorem race_reachable : Reachable missing (race {}) := by
  have hcapture : (sketch {}).store.capture? "draft" = some sketched := by
    simp [sketch, Store.capture?, sketched]
  have hopen : Reachable missing ⟨{}, [.start (.opened "draft" "# A" 1)], []⟩ :=
    Reachable.start.step (.arrive {} _)
  have hvisit := hopen.step (step_first missing (.opened {} "draft" "# A" 1) [] [])
  have htaken := hvisit.step (step_first missing (.captured (sketch {}) [] hcapture) [] [])
  have hready := htaken.step (step_first missing (.read (sketch {}) "draft" sketched []) [] [])
  have hcome := hready.step (.arrive _ (.configured compact))
  exact hcome.step (step_at missing [.ready "draft" sketched {} []]
    (.configured (sketch {}) compact) [] [])

/-- The analysis is still accepted, under settings that are no longer in force. -/
theorem race_accepts_outdated_settings :
    Reachable missing (race {}) ∧ (race {}).server.settings ≠ {} ∧
      ∃ d, Accepted missing (race {}) "draft" d (analyzeWith missing {} "# A") ∧
        ((race {}).server.finish "draft" sketched (analyzeWith missing {} "# A")).1.store.find?
          "draft" = some (d.record (analyzeWith missing {} "# A")) ∧
        ((race {}).server.finish "draft" sketched (analyzeWith missing {} "# A")).2 =
          [.publish "draft" (analyzeWith missing {} "# A").diagnostics d.document.version] := by
  have hstored : ((race {}).server.store.storeAnalysis "draft" sketched.generation
      (analyzeWith missing {} "# A")).1 = true := by
    simp [race, sketch, sketched, Store.accepts]
  refine ⟨race_reachable, by decide, ?_⟩
  exact (accepted_analyses_are_current_and_shown race_reachable).1 "draft" sketched {} []
    (by simp [race]) hstored

end ApiBlueprint.Interleaving
