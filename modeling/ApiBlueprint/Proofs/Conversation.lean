import ApiBlueprint.Proofs.Validation
import ApiBlueprint.Server.Session
import Mathlib.Data.List.Forall2

/-! Conversations of well-formed messages, handled one at a time. What the server holds, answers and
has told is a function of what was said, in which generations and earlier passes do not occur. -/
namespace ApiBlueprint
open Json

/-- What a well-formed message says once a conversation has begun. Documents are named by URIs in
normal form, whatever form the message has them in. -/
inductive Saying where
  | event (event : Event)
  | outline (id : Value) (uri : String)

namespace Incoming

/-- The request that begins a conversation, with the settings sent along. -/
inductive Introduces : Incoming → Option Value → Prop where
  | greeting {id params : Value} {options : Option Value}
      (h : handshakeParams params = .ok options) :
      Introduces ⟨some id, "initialize", some params⟩ options

/-- Notifications about documents and settings have no id, and outlines are asked for under one. -/
inductive Says : Incoming → Saying → Prop where
  | didOpen {params : Value} {event : Event} (h : openParams params = .ok event) :
      Says ⟨none, "textDocument/didOpen", some params⟩ (.event event)
  | didChange {params : Value} {event : Event} (h : changeParams params = .ok event) :
      Says ⟨none, "textDocument/didChange", some params⟩ (.event event)
  | didClose {params : Value} {event : Event} (h : closeParams params = .ok event) :
      Says ⟨none, "textDocument/didClose", some params⟩ (.event event)
  | didConfigure {params : Value} {event : Event} (h : configureParams params = .ok event) :
      Says ⟨none, "workspace/didChangeConfiguration", some params⟩ (.event event)
  | outline {id params : Value} {uri : String} (h : outlineParams params = .ok uri) :
      Says ⟨some id, "textDocument/documentSymbol", some params⟩ (.outline id uri)

end Incoming

/-! The ideal state after a history, oldest saying first. -/
namespace Saying

def payload? : Saying → Option Value
  | event (.configured payload) => some payload
  | _ => none

/-- The last settings that could be read; those that could not are passed over. -/
def settingsAfter (options : Option Value) (said : List Saying) : Settings :=
  ((options.toList ++ said.filterMap payload?).filterMap
    fun payload => (Settings.ofValue payload).toOption).getLast?.getD {}

/-- The document under `uri` after one more saying. -/
def revise (uri : String) (held : Option Document) : Saying → Option Document
  | event (.opened key text version) =>
    if key = uri then some ⟨uri, text, some version⟩ else held
  | event (.changed key version texts) =>
    if key = uri then
      match texts.getLast? with
      | some text => held.map fun _ => ⟨uri, text, some version⟩
      | none => held
    else held
  | event (.closed key) => if key = uri then none else held
  | event (.configured _) => held
  | outline _ _ => held

def documentAfter (uri : String) (said : List Saying) : Option Document :=
  said.foldl (revise uri) none

def closes (uri : String) : Saying → Bool
  | event (.closed key) => key == uri
  | _ => false

/-- What an editor shows for `uri`: the diagnostics of the open document, and otherwise nothing,
which it has been told if the document was ever closed. -/
def shownAfter (programs : Programs) (options : Option Value) (uri : String)
    (said : List Saying) : Option (List Diagnostic × Option Int32) :=
  match documentAfter uri said with
  | some d => some ((d.analysis programs (settingsAfter options said)).diagnostics, d.version)
  | none => if said.any (closes uri) then some ([], none) else none

/-- The outline of the document under `uri`. -/
def outlineAfter (programs : Programs) (options : Option Value) (uri : String)
    (said : List Saying) : List Symbol :=
  ((documentAfter uri said).map
    fun d => (d.analysis programs (settingsAfter options said)).symbols).getD []

end Saying

/-- A server agrees with a history and with what was told in it. The documents are exactly those of
the history, and each has the analysis it is due. -/
structure Server.Reflects (programs : Programs) (options : Option Value) (said : List Saying)
    (s : Server) (told : List Notice) : Prop where
  settings : s.settings = Saying.settingsAfter options said
  documents : ∀ uri, (s.store.find? uri).map (fun d => (d.document, d.analysis)) =
    (Saying.documentAfter uri said).map
      fun d => (d, some (d.analysis programs (Saying.settingsAfter options said)))
  shown : ∀ uri, lastPublished uri told = Saying.shownAfter programs options uri said

namespace Saying
variable {options : Option Value} {said : List Saying} {uri : String}

private theorem settingsAfter_snoc (saying : Saying) :
    settingsAfter options (said ++ [saying]) =
      ((saying.payload?.bind fun payload => (Settings.ofValue payload).toOption).getD
        (settingsAfter options said)) := by
  cases hp : saying.payload? with
  | none => simp [settingsAfter, hp]
  | some payload =>
    cases hs : (Settings.ofValue payload).toOption with
    | none => simp [settingsAfter, hp, hs]
    | some settings => simp [settingsAfter, hp, hs, ← List.append_assoc]

private theorem documentAfter_snoc (saying : Saying) :
    documentAfter uri (said ++ [saying]) = saying.revise uri (documentAfter uri said) := by
  simp [documentAfter]

/-- A saying that is about other documents changes nothing that is shown for this one. -/
theorem shownAfter_snoc_of_silent (programs : Programs) (saying : Saying)
    (hp : saying.payload? = none) (hr : ∀ held, saying.revise uri held = held)
    (hc : saying.closes uri = false) :
    shownAfter programs options uri (said ++ [saying]) = shownAfter programs options uri said := by
  simp [shownAfter, documentAfter_snoc, settingsAfter_snoc, hp, hr, hc]

end Saying

namespace Server
variable {programs : Programs} {options : Option Value} {said : List Saying} {s : Server}
  {told : List Notice}

private theorem Reflects.documentAfter_eq (h : s.Reflects programs options said told)
    (uri : String) :
    Saying.documentAfter uri said = (s.store.find? uri).map OpenDocument.document := by
  have hd := congrArg (Option.map Prod.fst) (h.documents uri)
  simpa [Function.comp_def] using hd.symm

private theorem Reflects.analysis_eq (h : s.Reflects programs options said told) {uri : String}
    {d : OpenDocument} (hd : s.store.find? uri = some d) :
    d.analysis = some (d.document.analysis programs s.settings) := by
  have hs := h.documents uri
  rw [h.documentAfter_eq, hd] at hs
  simpa [h.settings] using hs

private theorem Reflects.settings_stay (h : s.Reflects programs options said told)
    {saying : Saying} (hp : saying.payload? = none) :
    Saying.settingsAfter options (said ++ [saying]) = s.settings := by
  rw [Saying.settingsAfter_snoc, hp, h.settings]
  rfl

/-- An event that leaves the settings alone touches one document. It is enough to look at that one;
everything else must stay as it is. -/
private theorem Reflects.snoc (h : s.Reflects programs options said told) {saying : Saying}
    (uri : String) {s' : Server} {notices : List Notice} (hp : saying.payload? = none)
    (hother : ∀ key, key ≠ uri → (∀ held, saying.revise key held = held) ∧
      saying.closes key = false ∧ s'.store.find? key = s.store.find? key ∧
      lastPublished key notices = none)
    (hs : s'.settings = s.settings)
    (hd : (s'.store.find? uri).map (fun d => (d.document, d.analysis)) =
      (saying.revise uri ((s.store.find? uri).map OpenDocument.document)).map
        fun d => (d, some (d.analysis programs s.settings)))
    (hn : (lastPublished uri notices).or (lastPublished uri told) =
      Saying.shownAfter programs options uri (said ++ [saying])) :
    s'.Reflects programs options (said ++ [saying]) (told ++ notices) := by
  have hset := h.settings_stay hp
  refine ⟨by rw [hs, hset], ?_, ?_⟩
  · intro key
    rw [hset, Saying.documentAfter_snoc]
    by_cases hk : key = uri
    · rw [hk, hd, h.documentAfter_eq]
    · obtain ⟨hr, -, hf, -⟩ := hother key hk
      rw [hr, hf, h.documents, h.settings]
  · intro key
    rw [lastPublished_append]
    by_cases hk : key = uri
    · rw [hk, hn]
    · obtain ⟨hr, hc, -, hq⟩ := hother key hk
      rw [hq, Option.none_or, h.shown, Saying.shownAfter_snoc_of_silent programs saying hp hr hc]

private theorem Reflects.opened (h : s.Reflects programs options said told) (uri text : String)
    (version : Int32) :
    (s.handle programs (.opened uri text version)).1.Reflects programs options
      (said ++ [.event (.opened uri text version)])
      (told ++ (s.handle programs (.opened uri text version)).2) := by
  have hset : Saying.settingsAfter options (said ++ [.event (.opened uri text version)]) =
      s.settings := h.settings_stay rfl
  apply h.snoc uri rfl
  · intro key hk
    refine ⟨fun held => by simp [Saying.revise, Ne.symm hk], rfl, ?_, ?_⟩
    · simp [handle, hk]
    · simp [handle, validate_notices, lastPublished_reports, hk]
  · simp [handle]
  · simp [handle, Saying.revise, OpenDocument.examined, OpenDocument.record]
  · simp [handle, validate_notices, lastPublished_reports, Saying.shownAfter,
      Saying.documentAfter_snoc, Saying.revise, hset]

private theorem Reflects.changed (h : s.Reflects programs options said told) (uri : String)
    (version : Int32) (texts : List String) :
    (s.handle programs (.changed uri version texts)).1.Reflects programs options
      (said ++ [.event (.changed uri version texts)])
      (told ++ (s.handle programs (.changed uri version texts)).2) := by
  have hset : Saying.settingsAfter options (said ++ [.event (.changed uri version texts)]) =
      s.settings := h.settings_stay rfl
  have hshown := h.shown uri
  cases ht : texts.getLast? with
  | none =>
    have hstay : s.handle programs (.changed uri version texts) = (s, []) := by simp [handle, ht]
    have hr : ∀ key held, Saying.revise key held (.event (.changed uri version texts)) = held := by
      intro key held
      simp [Saying.revise, ht]
    rw [hstay]
    apply h.snoc uri rfl
    · intro key _
      exact ⟨hr key, rfl, rfl, rfl⟩
    · rfl
    · rw [hr, ← h.documentAfter_eq, h.documents, h.settings]
    · rw [Saying.shownAfter_snoc_of_silent programs _ rfl (hr uri) rfl]
      simpa using hshown
  | some text =>
    have hr (held : Option Document) :
        Saying.revise uri held (.event (.changed uri version texts)) =
          held.map fun _ => ⟨uri, text, some version⟩ := by
      simp [Saying.revise, ht]
    cases hf : s.store.find? uri with
    | none =>
      have hdoc : Saying.documentAfter uri said = none := by rw [h.documentAfter_eq, hf]; rfl
      apply h.snoc uri rfl
      · intro key hk
        refine ⟨fun held => by simp [Saying.revise, Ne.symm hk], rfl, ?_, ?_⟩
        · simp [handle, ht, hf, hk]
        · simp [handle, ht, hf]
      · simp [handle, ht, hf]
      · simp [handle, ht, hf, hr]
      · simpa [handle, ht, hf, hr, Saying.shownAfter, Saying.documentAfter_snoc, hdoc,
          Saying.closes] using hshown
    | some d =>
      have hdoc : Saying.documentAfter uri said = some d.document := by
        rw [h.documentAfter_eq, hf]
        rfl
      have huri : d.document.uri = uri := Store.uri_of_find? hf
      apply h.snoc uri rfl
      · intro key hk
        refine ⟨fun held => by simp [Saying.revise, Ne.symm hk], rfl, ?_, ?_⟩
        · simp [handle, ht, hf, hk]
        · simp [handle, ht, hf, validate_notices, lastPublished_reports, hk]
      · simp [handle, ht, hf]
      · simp [handle, ht, hf, hr, huri, OpenDocument.examined, OpenDocument.record,
          OpenDocument.edit, Document.edit]
      · simp [handle, ht, hf, hr, hdoc, hset, huri, validate_notices, lastPublished_reports,
          Saying.shownAfter, Saying.documentAfter_snoc, OpenDocument.edit, Document.edit]

private theorem Reflects.closed (h : s.Reflects programs options said told) (uri : String) :
    (s.handle programs (.closed uri)).1.Reflects programs options
      (said ++ [.event (.closed uri)]) (told ++ (s.handle programs (.closed uri)).2) := by
  apply h.snoc uri rfl
  · intro key hk
    refine ⟨fun held => by simp [Saying.revise, Ne.symm hk],
      by simp [Saying.closes, Ne.symm hk], ?_, ?_⟩
    · simp [handle, hk]
    · simp [handle, Ne.symm hk]
  · rfl
  · simp [handle, Saying.revise]
  · simp [handle, Saying.shownAfter, Saying.documentAfter_snoc, Saying.revise, Saying.closes]

/-- New settings reach every open document, and settings that cannot be read renew all analyses. -/
private theorem Reflects.configured (h : s.Reflects programs options said told) (payload : Value) :
    (s.handle programs (.configured payload)).1.Reflects programs options
      (said ++ [.event (.configured payload)])
      (told ++ (s.handle programs (.configured payload)).2) := by
  have hset : (s.configure payload).1.settings =
      Saying.settingsAfter options (said ++ [.event (.configured payload)]) := by
    rw [configure_settings, Saying.settingsAfter_snoc, h.settings]
    rfl
  have hdoc (key : String) :
      Saying.documentAfter key (said ++ [.event (.configured payload)]) =
        (s.store.find? key).map OpenDocument.document := by
    rw [Saying.documentAfter_snoc, ← h.documentAfter_eq]
    rfl
  refine ⟨?_, ?_, ?_⟩
  · simp [handle, reconfigure, hset]
  · intro key
    rw [hdoc]
    cases hf : s.store.find? key with
    | none => simp [handle, reconfigure, hf]
    | some d =>
      have hm : key ∈ s.store.uris := Store.mem_uris.mpr (by simp [hf])
      simp [handle, reconfigure, hf, hm, hset, OpenDocument.examined, OpenDocument.record,
        OpenDocument.renew]
  · intro key
    rw [lastPublished_append, Saying.shownAfter, hdoc]
    cases hf : s.store.find? key with
    | none =>
      have hm : key ∉ s.store.uris := fun hm => by simpa [hf] using Store.mem_uris.mp hm
      have hdoc' : Saying.documentAfter key said = none := by rw [h.documentAfter_eq, hf]; rfl
      simp [handle, reconfigure, validateAll_notices, lastPublished_append, lastPublished_reports,
        hm, h.shown, Saying.shownAfter, hdoc', Saying.closes]
    | some d =>
      have hm : key ∈ s.store.uris := Store.mem_uris.mpr (by simp [hf])
      simp [handle, reconfigure, validateAll_notices, lastPublished_append, lastPublished_reports,
        hm, hf, hset, OpenDocument.renew]

/-- One event keeps a server in agreement with the history. -/
theorem Reflects.handle (h : s.Reflects programs options said told) (event : Event) :
    (s.handle programs event).1.Reflects programs options (said ++ [.event event])
      (told ++ (s.handle programs event).2) := by
  cases event with
  | opened uri text version => exact h.opened uri text version
  | changed uri version texts => exact h.changed uri version texts
  | closed uri => exact h.closed uri
  | configured payload => exact h.configured payload

private theorem Reflects.asked (h : s.Reflects programs options said told) (id : Value)
    (uri : String) :
    s.Reflects programs options (said ++ [.outline id uri]) told := by
  have hstep : s.Reflects programs options (said ++ [.outline id uri]) (told ++ []) := by
    apply h.snoc uri rfl
    · exact fun _ _ => ⟨fun _ => rfl, rfl, rfl, rfl⟩
    · rfl
    · rw [h.documents, h.documentAfter_eq, h.settings]
      rfl
    · rw [Saying.shownAfter_snoc_of_silent programs _ rfl (fun _ => rfl) rfl, h.shown]
      rfl
  rwa [List.append_nil] at hstep

private theorem Reflects.symbols_eq (h : s.Reflects programs options said told) (uri : String) :
    s.symbols uri = Saying.outlineAfter programs options uri said := by
  rw [Saying.outlineAfter, h.documentAfter_eq, symbols]
  cases hf : s.store.find? uri with
  | none => rfl
  | some d => simp [h.analysis_eq hf, h.settings]

/-- A new server agrees with the history in which nothing but the first request was made. -/
theorem reflects_introduction (programs : Programs) (options : Option Value) :
    (options.elim (({} : Server), []) ({} : Server).configure).1.Reflects programs options []
      (options.elim (({} : Server), []) ({} : Server).configure).2 := by
  cases options with
  | none => exact ⟨rfl, fun _ => rfl, fun _ => rfl⟩
  | some payload =>
    refine ⟨?_, ?_, ?_⟩
    · rw [Option.elim_some, configure_settings]
      cases hs : (Settings.ofValue payload).toOption with
      | none => simp [Saying.settingsAfter, hs]
      | some settings => simp [Saying.settingsAfter, hs]
    · intro uri
      rw [Option.elim_some, configure_store]
      rfl
    · intro uri
      rw [Option.elim_some, lastPublished_configure]
      rfl

end Server

namespace Session

/-- Messages handled one after the other, with the reply to each. There is none after an exit. -/
def converse (programs : Programs) : Session → List Incoming → Option (Session × List Reply)
  | s, [] => some (s, [])
  | s, message :: rest => do
    let (s, reply) ← s.handle programs message
    let (s, replies) ← converse programs s rest
    return (s, reply :: replies)

variable {programs : Programs} {options : Option Value} {said : List Saying} {s : Session}
  {told : List Notice}

private theorem handle_introduction {hello : Incoming} (h : hello.Introduces options) :
    ({} : Session).handle programs hello =
      some (⟨.serving, (options.elim (({} : Server), []) ({} : Server).configure).1⟩,
        ⟨hello.id.map fun id => ⟨id, .ok Server.introduction⟩,
          (options.elim (({} : Server), []) ({} : Server).configure).2⟩) := by
  cases h with
  | greeting h =>
    have hm : Method.ofName? "initialize" = some .handshake := rfl
    simp [handle, hm, refusal?, dispatch, introduce, readParams, h, Except.mapError]

/-- A well-formed notification changes the server as its event does, and is not answered. -/
theorem handle_event {message : Incoming} {event : Event} (hs : s.phase = .serving)
    (h : message.Says (.event event)) :
    s.handle programs message =
      some ({ s with server := (s.server.handle programs event).1 },
        { notices := (s.server.handle programs event).2 }) := by
  cases h with
  | didOpen h =>
    have hm : Method.ofName? "textDocument/didOpen" = some .didOpen := rfl
    simp [handle, hs, hm, refusal?, dispatch, notify, readParams, h, Except.mapError]
  | didChange h =>
    have hm : Method.ofName? "textDocument/didChange" = some .didChange := rfl
    simp [handle, hs, hm, refusal?, dispatch, notify, readParams, h, Except.mapError]
  | didClose h =>
    have hm : Method.ofName? "textDocument/didClose" = some .didClose := rfl
    simp [handle, hs, hm, refusal?, dispatch, notify, readParams, h, Except.mapError]
  | didConfigure h =>
    have hm : Method.ofName? "workspace/didChangeConfiguration" = some .didConfigure := rfl
    simp [handle, hs, hm, refusal?, dispatch, notify, readParams, h, Except.mapError]

/-- A request for an outline is answered from the store and changes nothing. -/
theorem handle_outline {message : Incoming} {id : Value} {uri : String} (hs : s.phase = .serving)
    (h : message.Says (.outline id uri)) :
    s.handle programs message =
      some (s, { response := some ⟨id, .ok (.array
        ((s.server.symbols uri).map (·.toWire uri)))⟩ }) := by
  cases h with
  | outline h =>
    have hm : Method.ofName? "textDocument/documentSymbol" = some .outline := rfl
    simp [handle, hs, hm, refusal?, dispatch, readParams, h, Except.mapError, Except.map]

/-- Every well-formed message is handled, and the server goes on agreeing with the history. -/
theorem converse_reflects {messages : List Incoming} {later : List Saying}
    (hm : List.Forall₂ Incoming.Says messages later) (hs : s.phase = .serving)
    (h : s.server.Reflects programs options said told) :
    ∃ s' replies, converse programs s messages = some (s', replies) ∧ s'.phase = .serving ∧
      s'.server.Reflects programs options (said ++ later)
        (told ++ replies.flatMap Reply.notices) := by
  induction hm generalizing s said told with
  | nil => exact ⟨s, [], rfl, hs, by simpa using h⟩
  | @cons message saying messages later hsay _ ih =>
    cases saying with
    | event event =>
      obtain ⟨s', replies, hc, hs', hr⟩ :=
        ih (s := { s with server := (s.server.handle programs event).1 }) hs (h.handle event)
      refine ⟨s', { notices := (s.server.handle programs event).2 } :: replies, ?_, hs', ?_⟩
      · simp [converse, handle_event hs hsay, hc]
      · simpa using hr
    | outline id uri =>
      obtain ⟨s', replies, hc, hs', hr⟩ := ih hs (h.asked id uri)
      refine ⟨s', { response := some ⟨id, .ok (.array
        ((s.server.symbols uri).map (·.toWire uri)))⟩ } :: replies, ?_, hs', ?_⟩
      · simp [converse, handle_outline hs hsay, hc]
      · simpa using hr

/-- After every conversation of well-formed messages the server holds exactly the documents of the
history, each with the analysis of its last text under the last readable settings. Outlines are
answered from those analyses, and what was told last about a document is what they report. -/
theorem conversation_reflects_history (programs : Programs) {hello : Incoming}
    {options : Option Value} {messages : List Incoming} {said : List Saying}
    (hh : hello.Introduces options) (hm : List.Forall₂ Incoming.Says messages said) :
    ∃ s replies, converse programs {} (hello :: messages) = some (s, replies) ∧
      s.server.Reflects programs options said (replies.flatMap Reply.notices) ∧
      ∀ (request : Incoming) (id : Value) (uri : String), request.Says (.outline id uri) →
        s.handle programs request = some (s, { response := some ⟨id, .ok (.array
          ((Saying.outlineAfter programs options uri said).map (·.toWire uri)))⟩ }) := by
  have hfirst := Server.reflects_introduction programs options
  obtain ⟨s, replies, hc, hs, hr⟩ := converse_reflects hm
    (s := ⟨.serving, (options.elim (({} : Server), []) ({} : Server).configure).1⟩) rfl hfirst
  refine ⟨s, ⟨hello.id.map fun id => ⟨id, .ok Server.introduction⟩,
    (options.elim (({} : Server), []) ({} : Server).configure).2⟩ :: replies, ?_, ?_, ?_⟩
  · simp [converse, handle_introduction hh, hc]
  · simpa using hr
  · intro request id uri hreq
    rw [handle_outline hs hreq, hr.symbols_eq]
    rfl

private def echo : Programs := fun _ _ text => .finished (Text.Utf8.encode text) (.code 0) []

private def draft : Value := .string "file:///draft.apib"

/-- A document is opened, settings that cannot be read are sent, and the text is replaced twice in
one message. -/
private def exchange : List Incoming :=
  [⟨none, "textDocument/didOpen", some (.record [("textDocument", .record [("uri", draft),
      ("languageId", .string "apiblueprint"), ("version", .ofInt32 1), ("text", .string "# A")])])⟩,
    ⟨none, "workspace/didChangeConfiguration", some (.record [("settings", .string "none")])⟩,
    ⟨none, "textDocument/didChange", some (.record [
      ("textDocument", .record [("uri", draft), ("version", .ofInt32 2)]),
      ("contentChanges", .array [.record [("text", .string "# B")],
        .record [("text", .string "# C")]])])⟩]

private def account : List Saying :=
  [.event (.opened "file:///draft.apib" "# A" 1), .event (.configured (.string "none")),
    .event (.changed "file:///draft.apib" 2 ["# B", "# C"])]

private def terse : Value := .record [("json", .bool true)]

private def greeting : Incoming :=
  ⟨some .null, "initialize", some (.record [("capabilities", .record []),
    ("initializationOptions", terse)])⟩

/-- The last of two texts in one message holds, and settings that cannot be read leave those of the
first request in force. -/
theorem exchange_reflects_account :
    greeting.Introduces (some terse) ∧ List.Forall₂ Incoming.Says exchange account ∧
      Saying.documentAfter "file:///draft.apib" account =
        some ⟨"file:///draft.apib", "# C", some 2⟩ ∧
      ∃ s replies, converse echo {} (greeting :: exchange) = some (s, replies) ∧
        s.server.Reflects echo (some terse) account (replies.flatMap Reply.notices) := by
  have hh : greeting.Introduces (some terse) := .greeting rfl
  have hm : List.Forall₂ Incoming.Says exchange account :=
    .cons (.didOpen rfl) (.cons (.didConfigure rfl) (.cons (.didChange rfl) .nil))
  obtain ⟨s, replies, hc, hr, -⟩ := conversation_reflects_history echo hh hm
  exact ⟨hh, hm, rfl, s, replies, hc, hr⟩

end Session
end ApiBlueprint
