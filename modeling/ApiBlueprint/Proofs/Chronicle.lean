import ApiBlueprint.Proofs.History
import ApiBlueprint.Proofs.Settlement

/-! The calls that handlers make to the store, in the order in which they come to make them. No step
makes more than one, so the store of every state that can be reached shows the history of the calls
made so far, however the handlers were interleaved. -/
namespace ApiBlueprint.Interleaving
open Json

/-- The call that a handler makes in its next step, if it makes one. -/
def Task.call? (programs : Programs) : Task → Option Store.Call
  | .start (.opened uri text version) => some (.openText uri text version)
  | .start (.changed uri version texts) =>
    texts.getLast?.map fun text => .changeText uri text version
  | .start (.closed uri) => some (.close uri)
  | .start (.configured _) => none
  | .outdate _ => some .invalidateAll
  | .visit _ => none
  | .captured _ _ _ => none
  | .ready uri c settings _ =>
    some (.storeAnalysis uri c.generation (analyzeWith programs settings c.text))

/-- A state that can be reached, with the calls made on the way to it, oldest first. -/
inductive Chronicle (programs : Programs) : List Store.Call → System → Prop
  | start : Chronicle programs [] {}
  | arrive {calls : List Store.Call} {s : System} (h : Chronicle programs calls s)
      (event : Event) : Chronicle programs calls { s with tasks := s.tasks ++ [.start event] }
  | introduce {calls : List Store.Call} {s : System} (h : Chronicle programs calls s)
      (payload : Value) (hs : s.server.store.documents = []) :
      Chronicle programs calls { s with server := (s.server.configure payload).1,
                                        told := s.told ++ (s.server.configure payload).2 }
  | advance {calls : List Store.Call} {s : System} {before after : List Task} {task : Task}
      {server : Server} {notices : List Notice} {next : Option Task}
      (h : Chronicle programs calls s) (ht : s.tasks = before ++ task :: after)
      (hs : task.Step programs s.server server notices next) :
      Chronicle programs (calls ++ (task.call? programs).toList)
        ⟨server, before ++ next.toList ++ after, s.told ++ notices⟩

variable {programs : Programs}

private theorem Task.Step.store_eq {server server' : Server} {task : Task} {notices : List Notice}
    {next : Option Task} (h : task.Step programs server server' notices next) :
    server'.store = server.store.run (task.call? programs).toList := by
  cases h with
  | unchanged uri version h =>
    simp only [Task.call?, h]
    rfl
  | changed uri version h =>
    simp only [Task.call?, h]
    rfl
  | configured payload => exact Server.configure_store server payload
  | _ => rfl

/-- A chronicle leaves nothing out that can happen. -/
theorem Reachable.exists_chronicle {s : System} (h : Reachable programs s) :
    ∃ calls, Chronicle programs calls s := by
  induction h with
  | start => exact ⟨[], .start⟩
  | step _ hstep ih =>
    obtain ⟨calls, hcalls⟩ := ih
    cases hstep with
    | arrive event => exact ⟨calls, hcalls.arrive event⟩
    | introduce payload h => exact ⟨calls, hcalls.introduce payload h⟩
    | advance h hs => exact ⟨_, hcalls.advance h hs⟩

namespace Chronicle
variable {calls : List Store.Call} {s : System}

/-- A chronicle tells of nothing that cannot happen. -/
theorem reachable (h : Chronicle programs calls s) : Reachable programs s := by
  induction h with
  | start => exact .start
  | arrive _ event ih => exact ih.step (.arrive _ event)
  | introduce _ payload hs ih => exact ih.step (.introduce _ payload hs)
  | advance _ ht hs ih => exact ih.step (.advance ht hs)

/-- The store is what the calls make of an empty one. -/
theorem store_eq (h : Chronicle programs calls s) : s.server.store = Store.run {} calls := by
  induction h with
  | start => rfl
  | arrive _ _ ih => exact ih
  | introduce _ payload _ ih => exact (Server.configure_store _ payload).trans ih
  | advance _ _ hs ih => rw [hs.store_eq, ih, Store.run_append]

/-- What is held for a document is what the calls and their answers say. -/
theorem agrees (h : Chronicle programs calls s) (uri : String) :
    Store.Agrees uri (Store.history {} calls) (s.server.store.find? uri) := by
  rw [h.store_eq]
  exact Store.agrees_run uri calls

/-- Whenever the server comes to rest, what is stored for an open document and what was told about
it last is the analysis of the text that the last call wrote. -/
theorem written_text_is_settled (h : Chronicle programs calls s) (hi : s.Idle) {uri : String}
    {d : OpenDocument} (hd : s.server.store.find? uri = some d) :
    ∃ document, ((Store.sinceOpening uri (Store.history {} calls)).filterMap
        (Store.Entry.written? uri)).getLast? = some document ∧
      d.analysis = some (document.analysis programs s.server.settings) ∧
      lastPublished uri s.told =
        some ((document.analysis programs s.server.settings).diagnostics, document.version) := by
  have hsettled := h.reachable.settled_of_idle hi hd
  exact ⟨d.document, (h.agrees uri).document d hd, hsettled.analysis, hsettled.shown⟩

end Chronicle
end ApiBlueprint.Interleaving
