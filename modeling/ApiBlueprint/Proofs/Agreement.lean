import ApiBlueprint.CommandLine
import ApiBlueprint.Proofs.Conversation
import ApiBlueprint.Proofs.Failure
import ApiBlueprint.Proofs.Printing
import ApiBlueprint.Proofs.Value
import Mathlib.Algebra.Group.Int.Defs

/-! A check and a server with the same parser tell the same about a text. They write it down in
different forms, so entries are compared member by member. -/
namespace ApiBlueprint
open Json Source

def Json.Value.codeText? (v : Value) : Option String :=
  v.string?.or (v.int64?.map fun n => toString n.toInt)

/-- One code as a check and as a server give it. It is shown alike, and it is a number to the editor
exactly if it is one to the check and fits 32 bits. -/
structure SameCode (reported published : Value) : Prop where
  text : ∃ text, reported.codeText? = some text ∧ published.codeText? = some text
  number : ∀ n, published.int64? = some n ↔
    reported.int64? = some n ∧ -2 ^ 31 ≤ n.toInt ∧ n.toInt < 2 ^ 31

/-- One diagnostic in the report of a check and in what a server publishes. -/
structure SameFinding (reported published : Value) : Prop where
  range : ∃ range : Range, reported.get? "range" = some range.toValue ∧
    published.get? "range" = some range.toValue
  severity : reported.get? "severity" = some (.string "error") ∧
      published.get? "severity" = some (.ofNat32 1) ∨
    reported.get? "severity" = some (.string "warning") ∧
      published.get? "severity" = some (.ofNat32 2)
  code : Option.Rel SameCode (reported.get? "code") (published.get? "code")
  source : ∃ source : Option String, reported.get? "source" = source.map .string ∧
    published.get? "source" = source.map .string
  message : ∃ message : String, reported.get? "message" = some (.string message) ∧
    published.get? "message" = some (.string message)

/-- One entry of an outline in the report of a check and in the answer of a server, which names the
document by its URI in normal form. -/
structure SameEntry (uri : String) (listed answered : Value) : Prop where
  name : ∃ name : String, listed.get? "name" = some (.string name) ∧
    answered.get? "name" = some (.string name)
  kind : listed.get? "kind" = some (.string "package") ∧
      answered.get? "kind" = some (.ofNat32 4) ∨
    listed.get? "kind" = some (.string "property") ∧ answered.get? "kind" = some (.ofNat32 7)
  range : ∃ (range : Range) (location : Value), listed.get? "range" = some range.toValue ∧
    answered.get? "location" = some location ∧ location.get? "uri" = some (.string uri) ∧
    location.get? "range" = some range.toValue
  container : ∃ container : Option String,
    listed.get? "container_name" = container.map .string ∧
      answered.get? "containerName" = container.map .string

private theorem Code.sameCode (code : Code) : SameCode code.toValue code.toWire := by
  cases code with
  | text s =>
    refine ⟨⟨s, rfl, rfl⟩, ?_⟩
    intro n
    constructor
    · rintro ⟨⟩
    · rintro ⟨⟨⟩, -⟩
  | number n =>
    have hread := Value.int64?_ofInt64 n
    have hshown : (Code.number n).toValue.codeText? = some (toString n.toInt) := by
      rw [Value.codeText?, Code.toValue, hread]
      rfl
    by_cases hfits : -0x80000000 ≤ n.toInt ∧ n.toInt < 0x80000000
    · rw [Code.toWire, if_pos hfits]
      refine ⟨⟨_, hshown, hshown⟩, ?_⟩
      intro k
      rw [Code.toValue, hread]
      constructor
      · rintro ⟨⟩
        exact ⟨rfl, hfits⟩
      · exact And.left
    · rw [Code.toWire, if_neg hfits]
      refine ⟨⟨_, hshown, rfl⟩, ?_⟩
      intro k
      rw [Code.toValue, hread]
      constructor
      · rintro ⟨⟩
      · rintro ⟨⟨⟩, hk⟩
        exact absurd hk hfits

namespace Diagnostic
variable (d : Diagnostic)

private theorem sameFinding : SameFinding d.toValue d.toWire := by
  have hreported := d.get?_members Severity.toValue Code.toValue
  have hpublished := d.get?_members Severity.toWire Code.toWire
  refine ⟨⟨d.range, hreported "range", hpublished "range"⟩, ?_, ?_,
    ⟨d.source, hreported "source", hpublished "source"⟩,
    ⟨d.message, hreported "message", hpublished "message"⟩⟩
  · rw [toValue, toWire, hreported, hpublished]
    simp only [members]
    cases d.severity with
    | error => exact .inl ⟨rfl, rfl⟩
    | warning => exact .inr ⟨rfl, rfl⟩
  · have hcode : d.toValue.get? "code" = d.code.map Code.toValue := hreported "code"
    have hwire : d.toWire.get? "code" = d.code.map Code.toWire := hpublished "code"
    rw [hcode, hwire]
    cases d.code with
    | none => exact .none
    | some code => exact .some code.sameCode

end Diagnostic

namespace Symbol
variable (symbol : Symbol) (uri : String)

private theorem sameEntry : SameEntry uri symbol.toValue (symbol.toWire uri) where
  name := ⟨symbol.name, symbol.get?_toValue "name", symbol.get?_toWire uri "name"⟩
  kind := by
    have hlisted : symbol.toValue.get? "kind" = some symbol.kind.toValue := symbol.get?_toValue _
    have hanswered : (symbol.toWire uri).get? "kind" = some (.ofNat32 symbol.kind.number) :=
      symbol.get?_toWire uri _
    rw [hlisted, hanswered]
    cases symbol.kind with
    | package => exact .inl ⟨rfl, rfl⟩
    | property => exact .inr ⟨rfl, rfl⟩
  range := by
    have hlocation (key : String) :
        (Value.record [("uri", .string uri), ("range", symbol.range.toValue)]).get? key =
          List.lookup key [("uri", .string uri), ("range", symbol.range.toValue)] :=
      Value.get?_record key (by simp)
    exact ⟨symbol.range, _, symbol.get?_toValue "range", symbol.get?_toWire uri "location",
      hlocation "uri", hlocation "range"⟩
  container := ⟨symbol.containerName, symbol.get?_toValue "container_name",
    symbol.get?_toWire uri "containerName"⟩

end Symbol

/-! The report of a check can be read back. -/

private theorem Source.Range.plain (range : Range) : Plain 2 range.toValue := by
  have hposition (p : Position) : Plain 1 p.toValue := by
    refine .record ?_
    simp only [Position.members, List.forall_mem_cons]
    exact ⟨.natural _, .natural _, by simp⟩
  refine .record ?_
  simp only [Range.members, List.forall_mem_cons]
  exact ⟨hposition _, hposition _, by simp⟩

private theorem plain_map {α : Type} {f : α → Value} {n : Nat} (h : ∀ a, Plain n (f a))
    (a : Option α) : ∀ v ∈ a.map f, Plain n v := by
  intro v hv
  obtain ⟨a, -, rfl⟩ := Option.map_eq_some_iff.mp hv
  exact h a

private theorem Diagnostic.plain (d : Diagnostic) : Plain 3 d.toValue := by
  have hcode (code : Code) : Plain 2 code.toValue := by
    cases code with
    | number n => exact .ofInt64 n
    | text s => exact .string s
  refine .sparse ?_
  simp only [members, List.forall_mem_cons, Option.mem_some_iff, forall_eq']
  exact ⟨d.range.plain, .string _, plain_map hcode _, plain_map .string _, .string _, by simp⟩

private theorem Symbol.plain (symbol : Symbol) : Plain 3 symbol.toValue := by
  refine .sparse ?_
  simp only [members, List.forall_mem_cons, Option.mem_some_iff, forall_eq']
  exact ⟨.string _, .string _, symbol.range.plain, plain_map .string _, by simp⟩

namespace Check
variable {o : CheckOptions}

private theorem jsonReport_plain (a : Analysis) : Plain 5 (jsonReport o a) := by
  have hlist {α : Type} {f : α → Value} (h : ∀ x, Plain 3 (f x)) (xs : List α) :
      Plain 4 (.array (xs.map f)) := by
    refine .array fun v hv => ?_
    obtain ⟨x, -, rfl⟩ := List.mem_map.mp hv
    exact h x
  refine .sparse ?_
  simp only [List.forall_mem_cons, Option.mem_some_iff, forall_eq']
  refine ⟨.string _, hlist Diagnostic.plain _, ?_, by simp⟩
  intro v hv
  split at hv
  · exact Option.some.inj hv ▸ hlist Symbol.plain _
  · cases hv

/-- A report for programs is printed as a text that reads back as the report. -/
theorem parse_stdout (hjson : o.json = true) (programs : Programs) (text : String) :
    parse (run programs o (.ok (Text.Utf8.encode text))).stdout =
      .ok (jsonReport o (analyzeWith programs (settings o) text)) := by
  have hreport (a : Analysis) : (outcome o a).stdout = (jsonReport o a).pretty ++ "\n" := by
    have hlines : report o a = (jsonReport o a).pretty ++ "\n" := by simp [report, hjson]
    rw [outcome]
    split
    · exact hlines
    · exact hlines
  rw [run_encode, hreport, parse_pretty (jsonReport_plain _) (by decide)]

end Check

/-! What both sides make of a text. -/

/-- The settings of an editor that names nothing but a parser. -/
def Settings.naming (command : String) : Value :=
  .record [("parser", .record [("command", .string command)])]

private theorem ofValue_naming (o : CheckOptions) {command : String} (h : o.parser = some command) :
    Settings.ofValue (Settings.naming command) = .ok (Check.settings o) := by
  rw [Check.settings, h]
  rfl

namespace Server
variable (programs : Programs) (s : Server) (uri text : String) (version : Int32)

private theorem notices_opened : (s.handle programs (.opened uri text version)).2 =
    [.publish uri (analyzeWith programs s.settings text).diagnostics (some version)] := by
  simp [handle, validate_notices, reports, Document.report, Document.analysis]

private theorem symbols_opened : (s.handle programs (.opened uri text version)).1.symbols uri =
    (analyzeWith programs s.settings text).symbols := by
  simp [handle, symbols, OpenDocument.examined, OpenDocument.record, Document.analysis]

end Server

/-- A check that prints a report with these diagnostics and this outline. -/
def Outcome.Prints (r : Outcome) (reported listed : List Value) : Prop :=
  ∃ report, parse r.stdout = .ok report ∧ report.get? "diagnostics" = some (.array reported) ∧
    report.get? "symbols" = some (.array listed)

/-- A notice that publishes these diagnostics of a document under its URI in normal form. -/
structure Notice.Publishes (notice : Notice) (uri : String) (published : List Value) : Prop where
  method : notice.method = "textDocument/publishDiagnostics"
  uri : notice.params.get? "uri" = some (.string uri)
  diagnostics : notice.params.get? "diagnostics" = some (.array published)

private theorem prints_run {programs : Programs} {o : CheckOptions} (hjson : o.json = true)
    (houtline : o.outline = true) (text : String) :
    (Check.run programs o (.ok (Text.Utf8.encode text))).Prints
      ((analyzeWith programs (Check.settings o) text).diagnostics.map Diagnostic.toValue)
      ((analyzeWith programs (Check.settings o) text).symbols.map Symbol.toValue) := by
  refine ⟨_, Check.parse_stdout hjson programs text, ?_, ?_⟩
  · exact Value.get?_sparse "diagnostics" (by simp)
  · refine (Value.get?_sparse "symbols" (by simp)).trans ?_
    exact if_pos houtline

private theorem publishes_publish (uri : String) (diagnostics : List Diagnostic)
    (version : Option Int32) :
    (Notice.publish uri diagnostics version).Publishes uri
      (diagnostics.map Diagnostic.toWire) where
  method := rfl
  uri := Value.get?_sparse "uri" (by simp)
  diagnostics := Value.get?_sparse "diagnostics" (by simp)

/-- A check with a parser and a server whose editor names that parser report alike on a text,
whatever the server has been told before. -/
theorem check_and_server_report_alike (programs : Programs)
    (files : String → Except String (List UInt8)) {args : List String}
    {file command text uri : String} {version : Int32} {s : Session} {opening request : Incoming}
    {id : Value}
    (hargs : CommandLine.read args = some (.check ⟨file, some command, true, true⟩))
    (hfile : files file = .ok (Text.Utf8.encode text)) (hphase : s.phase = .serving)
    (hsettings : Settings.ofValue (Settings.naming command) = .ok s.server.settings)
    (hopening : opening.Says (.event (.opened uri text version)))
    (hrequest : request.Says (.outline id uri)) :
    ∃ (reported listed published answered : List Value) (notice : Notice) (s' : Session),
      (CommandLine.run programs files (CommandLine.read args)).Prints reported listed ∧
      s.handle programs opening = some (s', { notices := [notice] }) ∧
      notice.Publishes uri published ∧
      s'.handle programs request =
        some (s', { response := some ⟨id, .ok (.array answered)⟩ }) ∧
      reported.length = (analyzeWith programs s.server.settings text).diagnostics.length ∧
      listed.length = (analyzeWith programs s.server.settings text).symbols.length ∧
      List.Forall₂ SameFinding reported published ∧
      List.Forall₂ (SameEntry uri) listed answered := by
  have hsame : Check.settings ⟨file, some command, true, true⟩ = s.server.settings := by
    rw [ofValue_naming ⟨file, some command, true, true⟩ rfl] at hsettings
    exact Except.ok.inj hsettings
  have hprints : (CommandLine.run programs files (CommandLine.read args)).Prints
      ((analyzeWith programs s.server.settings text).diagnostics.map Diagnostic.toValue)
      ((analyzeWith programs s.server.settings text).symbols.map Symbol.toValue) := by
    rw [hargs, CommandLine.run, hfile, ← hsame]
    exact prints_run rfl rfl text
  have hopened : s.handle programs opening =
      some ({ s with server := (s.server.handle programs (.opened uri text version)).1 },
        { notices := [.publish uri (analyzeWith programs s.server.settings text).diagnostics
          (some version)] }) := by
    rw [Session.handle_event hphase hopening, Server.notices_opened]
  have hasked : Session.handle programs
      { s with server := (s.server.handle programs (.opened uri text version)).1 } request =
      some ({ s with server := (s.server.handle programs (.opened uri text version)).1 },
        { response := some ⟨id, .ok (.array
          ((analyzeWith programs s.server.settings text).symbols.map (·.toWire uri)))⟩ }) := by
    rw [← Server.symbols_opened programs s.server uri text version]
    exact Session.handle_outline hphase hrequest
  refine ⟨_, _, _, _, _, _, hprints, hopened, publishes_publish _ _ _, hasked, List.length_map _,
    List.length_map _, ?_, ?_⟩
  · rw [List.forall₂_map_left_iff, List.forall₂_map_right_iff, List.forall₂_same]
    intro d _
    exact d.sameFinding
  · rw [List.forall₂_map_left_iff, List.forall₂_map_right_iff, List.forall₂_same]
    intro symbol _
    exact symbol.sameEntry uri

/-- A title, and a remark under a number that needs more than 32 bits. -/
private def shop : Value :=
  .record [("element", .string "parseResult"), ("content", .array [
    .record [("element", .string "category"), ("meta", .record [("title", .string "Shop"),
      ("classes", .array [.string "api"])])],
    .record [("element", .string "annotation"),
      ("attributes", .record [("code", .number (.natural 3000000000))])]])]

private theorem plain_shop : Plain 5 shop := by
  refine .record ?_
  simp only [List.forall_mem_cons]
  refine ⟨.string _, .array ?_, by simp⟩
  simp only [List.forall_mem_cons]
  refine ⟨.record ?_, .record ?_, by simp⟩
  · simp only [List.forall_mem_cons]
    refine ⟨.string _, .record ?_, by simp⟩
    simp only [List.forall_mem_cons]
    exact ⟨.string _, .array (by simp [Plain.string]), by simp⟩
  · simp only [List.forall_mem_cons]
    exact ⟨.string _, .record (by simp [Plain.natural]), by simp⟩

private def vendor : Programs := fun _ _ _ =>
  .finished (Text.Utf8.encode (shop.pretty ++ "\n")) (.code 0) []

private def opening : Incoming :=
  ⟨none, "textDocument/didOpen", some (.record [("textDocument", .record [
    ("uri", .string "file:///shop.apib"), ("languageId", .string "apiblueprint"),
    ("version", .ofInt32 1), ("text", .string "# Shop")])])⟩

private def request : Incoming :=
  ⟨some .null, "textDocument/documentSymbol", some (.record [("textDocument",
    .record [("uri", .string "file:///shop.apib")])])⟩

private def arguments : List String :=
  ["check", "--parser", "vendor", "--json", "--outline", "shop.apib"]

/-- The number is told in digits by the server, as it is too great for its form of a number. -/
theorem shop_is_reported_alike :
    CommandLine.read arguments = some (.check ⟨"shop.apib", some "vendor", true, true⟩) ∧
      opening.Says (.event (.opened "file:///shop.apib" "# Shop" 1)) ∧
      request.Says (.outline .null "file:///shop.apib") ∧
      ∃ (s s' : Session) (notice : Notice) (reported listed published answered : List Value),
        s.phase = .serving ∧
        Settings.ofValue (Settings.naming "vendor") = .ok s.server.settings ∧
        (CommandLine.run vendor (fun _ => .ok (Text.Utf8.encode "# Shop"))
          (CommandLine.read arguments)).Prints reported listed ∧
        s.handle vendor opening = some (s', { notices := [notice] }) ∧
        notice.Publishes "file:///shop.apib" published ∧
        s'.handle vendor request =
          some (s', { response := some ⟨.null, .ok (.array answered)⟩ }) ∧
        reported.length = 1 ∧ listed.length = 1 ∧
        List.Forall₂ SameFinding reported published ∧
        List.Forall₂ (SameEntry "file:///shop.apib") listed answered := by
  have hargs : CommandLine.read arguments =
      some (.check ⟨"shop.apib", some "vendor", true, true⟩) := by with_unfolding_all rfl
  have hopening : opening.Says (.event (.opened "file:///shop.apib" "# Shop" 1)) := .didOpen rfl
  have hrequest : request.Says (.outline .null "file:///shop.apib") := .outline rfl
  obtain ⟨s, hphase, hsettings⟩ : ∃ s : Session, s.phase = .serving ∧
      Settings.ofValue (Settings.naming "vendor") = .ok s.server.settings :=
    ⟨⟨.serving, (({} : Server).configure (Settings.naming "vendor")).1⟩, rfl, rfl⟩
  have hnamed : s.server.settings = ⟨true, false, false, "refract", ⟨"vendor", none⟩⟩ :=
    (Except.ok.inj hsettings).symm
  have hyields : Yields s.server.settings (s.server.settings.run vendor "# Shop") shop := by
    rw [hnamed]
    exact ⟨rfl, _, _, _, rfl, parse_pretty plain_shop (by decide), _, "parseResult", rfl, rfl⟩
  obtain ⟨tree, hvalue, hattempt⟩ := attempt_yields hyields
  have htree : tree = _ := (Except.ok.inj hvalue).symm
  obtain ⟨reported, listed, published, answered, notice, s', hprints, hopened, hpublishes, hasked,
    hreported, hlisted, hfindings, hentries⟩ :=
    check_and_server_report_alike vendor (fun _ => .ok (Text.Utf8.encode "# Shop")) hargs rfl
      hphase hsettings hopening hrequest
  rw [analyzeWith_ok hattempt, htree, hnamed] at hreported hlisted
  exact ⟨hargs, hopening, hrequest, s, s', notice, reported, listed, published, answered, hphase,
    hsettings, hprints, hopened, hpublishes, hasked, hreported, hlisted, hfindings, hentries⟩

end ApiBlueprint
