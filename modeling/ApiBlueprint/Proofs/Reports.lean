import ApiBlueprint.Proofs.Agreement
import ApiBlueprint.Proofs.Resolution

/-! The outcome and the two reports of a check. They are made of one analysis: an error fails the
check in either form, and what is printed for people is the report for programs counted from
one. -/
namespace ApiBlueprint
open Json Source Text

/-! Places that can be counted from one. -/

/-- One more than both numbers is still a number of 32 bits. -/
structure Source.Position.HasNext (p : Position) : Prop where
  line : p.line.toNat + 1 < 2 ^ 32
  character : p.character.toNat + 1 < 2 ^ 32

/-- There is at most one line more than there are bytes, and no column beyond those of a line. -/
theorem Source.Inside.hasNext {lines : Lines} {range : Range} (h : Inside lines range)
    (hsize : lines.size ≤ 2 ^ 32 - 2) : range.start.HasNext := by
  have hline := h.line_lt
  have hcount := lines.count_le
  obtain ⟨content, hcontent, hstop, -, -⟩ := h.content
  obtain ⟨line, hget, rfl⟩ := Option.map_eq_some_iff.mp hcontent
  have hbytes := lines.byteCount_content_le (List.mem_of_getElem? hget)
  have hunits := unitCount_le_byteCount line.content
  have hcharacter := UInt32.le_iff_toNat_le.mp h.character_le
  rw [String.toList_ofList, length_utf16] at hstop
  exact ⟨by omega, by omega⟩

private theorem Source.Position.HasNext.toNat_line {p : Position} (h : p.HasNext) :
    (p.line + 1).toNat = p.line.toNat + 1 := by
  have hline := h.line
  rw [UInt32.toNat_add]
  exact Nat.mod_eq_of_lt hline

private theorem Source.Position.HasNext.toNat_character {p : Position} (h : p.HasNext) :
    (p.character + 1).toNat = p.character.toNat + 1 := by
  have hcharacter := h.character
  rw [UInt32.toNat_add]
  exact Nat.mod_eq_of_lt hcharacter

/-- Whatever the parser did, all that is reported is placed by a source map or for want of one. -/
theorem analyze_located (text : String) (settings : Settings) (parser : Parser) :
    (∀ d ∈ (analyze text settings parser).diagnostics,
      ∃ map, d.range = (resolveOrStart (Lines.ofText text) map).range) ∧
    ∀ symbol ∈ (analyze text settings parser).symbols,
      ∃ map, symbol.range = (resolveOrStart (Lines.ofText text) map).range := by
  cases hp : parser text settings.parseOptions with
  | error e =>
    simp only [analyze, parseWithDiagnostics, hp, Analysis.symbols]
    refine ⟨?_, by simp⟩
    intro d hd
    rw [List.mem_singleton.mp hd]
    exact ⟨none, rfl⟩
  | ok result =>
    simp only [analyze, parseWithDiagnostics, hp, Analysis.symbols]
    refine ⟨result.diagnostics_located _, ?_⟩
    intro symbol hs
    split at hs
    · exact result.symbols_located _ symbol hs
    · cases hs

section
variable {text : String} (hsize : (Utf8.encode text).length ≤ 2 ^ 32 - 2) (programs : Programs)
  (settings : Settings)
include hsize

private theorem hasNext_resolveOrStart (map : Option SourceMap) :
    (resolveOrStart (Lines.ofText text) map).range.start.HasNext := by
  have hlines : (Lines.ofText text).size ≤ 2 ^ 32 - 2 := by
    rwa [size_ofText]
  exact (inside_resolveOrStart (by omega) map).hasNext hlines

private theorem diagnostics_hasNext :
    ∀ d ∈ (analyzeWith programs settings text).diagnostics, d.range.start.HasNext := by
  intro d hd
  obtain ⟨map, hmap⟩ := (analyze_located text settings _).1 d hd
  exact hmap ▸ hasNext_resolveOrStart hsize map

private theorem symbols_hasNext :
    ∀ symbol ∈ (analyzeWith programs settings text).symbols, symbol.range.start.HasNext := by
  intro symbol hs
  obtain ⟨map, hmap⟩ := (analyze_located text settings _).2 symbol hs
  exact hmap ▸ hasNext_resolveOrStart hsize map

end

/-! Entries of both reports. -/

/-- A number of the start of an entry in the report for programs. -/
def Json.Value.startNumber? (entry : Value) (name : String) : Option Nat :=
  ((((entry.get? "range").bind (·.get? "start")).bind (·.get? name)).bind nat64?).map UInt64.toNat

/-- The place of an entry counted from one, in numbers of 32 bits. -/
structure OneBased (entry : Value) (line column : Nat) : Prop where
  line : ∃ n, entry.startNumber? "line" = some n ∧ line = n + 1 ∧ line < 2 ^ 32
  column : ∃ n, entry.startNumber? "character" = some n ∧ column = n + 1 ∧ column < 2 ^ 32

/-- A diagnostic as it is printed, and its entry in the report for programs. -/
def PrintedFinding (file printed : String) (entry : Value) : Prop :=
  ∃ (line column : Nat) (severity message : String), OneBased entry line column ∧
    entry.get? "severity" = some (.string severity) ∧
    entry.get? "message" = some (.string message) ∧
    printed = file ++ ":" ++ toString line ++ ":" ++ toString column ++ ": " ++ severity ++
      (((entry.get? "code").bind Value.codeText?).map fun code => "[" ++ code ++ "]").getD "" ++
      ": " ++ message

/-- An entry of the outline as it is printed, and its entry in the report for programs. -/
def PrintedSymbol (printed : String) (entry : Value) : Prop :=
  ∃ (line column : Nat) (name : String), OneBased entry line column ∧
    entry.get? "name" = some (.string name) ∧
    printed = (if (entry.get? "container_name").isSome then "  " else "") ++ name ++ " (" ++
      toString line ++ ":" ++ toString column ++ ")"

private theorem oneBased {entry : Value} {range : Range}
    (h : entry.get? "range" = some range.toValue)
    (hnext : range.start.HasNext) :
    OneBased entry (range.start.line + 1).toNat (range.start.character + 1).toNat := by
  have hstart : range.toValue.get? "start" = some range.start.toValue :=
    Value.get?_record "start" range.nodup_members
  have hline : range.start.toValue.get? "line" = some (.ofNat32 range.start.line) :=
    Value.get?_record "line" range.start.nodup_members
  have hcharacter : range.start.toValue.get? "character" = some (.ofNat32 range.start.character) :=
    Value.get?_record "character" range.start.nodup_members
  have hnumber (n : UInt32) : (Value.ofNat32 n).nat64?.map UInt64.toNat = some n.toNat := by
    simp [Value.ofNat32, Value.ofNat64, Value.nat64?]
  refine ⟨⟨range.start.line.toNat, ?_, hnext.toNat_line, UInt32.toNat_lt _⟩,
    ⟨range.start.character.toNat, ?_, hnext.toNat_character, UInt32.toNat_lt _⟩⟩
  · simp only [Value.startNumber?, h, hstart, hline, Option.bind_some, hnumber]
  · simp only [Value.startNumber?, h, hstart, hcharacter, Option.bind_some, hnumber]

private theorem Code.codeText?_toValue (code : Code) :
    code.toValue.codeText? = some code.display := by
  cases code with
  | text s => rfl
  | number n =>
    rw [Code.toValue, Value.codeText?, Value.int64?_ofInt64]
    rfl

private theorem printedFinding (file : String) {d : Diagnostic} (h : d.range.start.HasNext) :
    PrintedFinding file (Check.diagnosticLine file d) d.toValue := by
  have hmember := d.get?_members Severity.toValue Code.toValue
  have hcode : (d.toValue.get? "code").bind Value.codeText? = d.code.map Code.display := by
    have hget : d.toValue.get? "code" = d.code.map Code.toValue := hmember "code"
    rw [hget]
    cases d.code with
    | none => rfl
    | some code => exact code.codeText?_toValue
  refine ⟨_, _, d.severity.text, d.message, oneBased (hmember "range") h, hmember "severity",
    hmember "message", ?_⟩
  rw [hcode, Option.map_map]
  rfl

private theorem printedSymbol {symbol : Symbol} (h : symbol.range.start.HasNext) :
    PrintedSymbol (Check.symbolLine symbol) symbol.toValue := by
  have hcontainer : (symbol.toValue.get? "container_name").isSome =
      symbol.containerName.isSome := by
    have hget : symbol.toValue.get? "container_name" = symbol.containerName.map Value.string :=
      symbol.get?_toValue _
    rw [hget, Option.isSome_map]
  refine ⟨_, _, symbol.name, oneBased (symbol.get?_toValue "range") h,
    symbol.get?_toValue "name", ?_⟩
  rw [hcontainer]
  rfl

private theorem forall₂_findings (file : String) {ds : List Diagnostic}
    (h : ∀ d ∈ ds, d.range.start.HasNext) :
    List.Forall₂ (PrintedFinding file) (ds.map (Check.diagnosticLine file))
      (ds.map Diagnostic.toValue) := by
  rw [List.forall₂_map_left_iff, List.forall₂_map_right_iff, List.forall₂_same]
  exact fun d hd => printedFinding file (h d hd)

private theorem forall₂_symbols {symbols : List Symbol} (h : ∀ s ∈ symbols, s.range.start.HasNext) :
    List.Forall₂ PrintedSymbol (symbols.map Check.symbolLine) (symbols.map Symbol.toValue) := by
  rw [List.forall₂_map_left_iff, List.forall₂_map_right_iff, List.forall₂_same]
  exact fun s hs => printedSymbol (h s hs)

/-! The check as a whole. -/

namespace Check

/-- The exit code and the program's own message for the given number of errors. A check that passes
has no message. -/
structure Tells (r : Outcome) (file : String) (errors : Nat) : Prop where
  passes : errors = 0 → r.exit = 0 ∧ r.stderr = ""
  fails : errors ≠ 0 → r.exit = 1 ∧
    r.stderr = "Error: " ++ toString errors ++ " error(s) in " ++ file ++ "\n"

private theorem outcome_tells (o : CheckOptions) (a : Analysis) :
    Tells (outcome o a) o.file (a.diagnostics.filter (·.severity = .error)).length := by
  have hcount : errorCount a.diagnostics = (a.diagnostics.filter (·.severity = .error)).length := by
    rw [errorCount, List.countP_eq_length_filter]
    rfl
  rw [← hcount, outcome]
  by_cases h : errorCount a.diagnostics = 0
  · rw [if_pos h]
    exact ⟨fun _ => ⟨rfl, rfl⟩, fun hne => absurd h hne⟩
  · rw [if_neg h]
    exact ⟨fun heq => absurd heq h, fun _ => ⟨rfl, rfl⟩⟩

private theorem stdout_outcome (o : CheckOptions) (a : Analysis) :
    (outcome o a).stdout = report o a := by
  rw [outcome]
  split <;> rfl

end Check

/-- What the command does when asked to check a file. -/
def checked (programs : Programs) (files : String → Except String (List UInt8)) (file : String)
    (parser : Option String) (json outline : Bool) : Outcome :=
  CommandLine.run programs files (some (.check ⟨file, parser, json, outline⟩))

section
variable {programs : Programs} {files : String → Except String (List UInt8)} {file text : String}
  (hfile : files file = .ok (Utf8.encode text)) (parser : Option String) (json outline : Bool)
include hfile

private theorem checked_eq : checked programs files file parser json outline =
    Check.outcome ⟨file, parser, json, outline⟩
      (analyzeWith programs (Check.settings ⟨file, parser, json, outline⟩) text) := by
  rw [checked, CommandLine.run, hfile]
  exact run_encode text

private theorem checked_fails_iff : (checked programs files file parser json outline).exit ≠ 0 ↔
    ∃ d ∈ (analyzeWith programs (Check.settings ⟨file, parser, json, outline⟩) text).diagnostics,
      d.severity = .error := by
  rw [checked_eq hfile, ne_eq, outcome_exit]
  simp

/-- The report for programs is printed as a text that reads back as itself. -/
theorem parse_checked : parse (checked programs files file parser true outline).stdout =
    .ok (Check.jsonReport ⟨file, parser, true, outline⟩
      (analyzeWith programs (Check.settings ⟨file, parser, true, outline⟩) text)) := by
  rw [checked, CommandLine.run, hfile]
  exact Check.parse_stdout rfl programs text

private theorem stdout_checked : (checked programs files file parser false outline).stdout =
    String.join ((Check.textReport ⟨file, parser, false, outline⟩
      (analyzeWith programs (Check.settings ⟨file, parser, false, outline⟩) text)).map
        (· ++ "\n")) := by
  rw [checked_eq hfile, Check.stdout_outcome]
  rfl

end

/-- A check of a readable file fails exactly if its analysis has an error, and tells their number,
whatever form of report it was asked for. The report for people has one entry for each entry of the
report for programs, in the same order, and so has its outline. The places of both are those of the
report for programs counted from one, which 32 bits suffice for. -/
theorem reports_are_one_analysis (programs : Programs)
    (files : String → Except String (List UInt8)) (file text : String) (parser : Option String)
    (hfile : files file = .ok (Utf8.encode text))
    (hsize : (Utf8.encode text).length ≤ 2 ^ 32 - 2) :
    ∃ a : Analysis,
      (∀ json outline,
        a = analyzeWith programs (Check.settings ⟨file, parser, json, outline⟩) text ∧
        ((checked programs files file parser json outline).exit ≠ 0 ↔
          ∃ d ∈ a.diagnostics, d.severity = .error) ∧
        Check.Tells (checked programs files file parser json outline) file
          (a.diagnostics.filter (·.severity = .error)).length) ∧
      ∀ outline, ∃ (report : Value) (findings entries : List String),
        parse (checked programs files file parser true outline).stdout = .ok report ∧
        report.get? "diagnostics" = some (.array (a.diagnostics.map Diagnostic.toValue)) ∧
        report.get? "symbols" =
          (if outline then some (.array (a.symbols.map Symbol.toValue)) else none) ∧
        (checked programs files file parser false outline).stdout =
          String.join ((findings ++ if outline then entries else []).map (· ++ "\n")) ∧
        List.Forall₂ (PrintedFinding file) findings (a.diagnostics.map Diagnostic.toValue) ∧
        List.Forall₂ PrintedSymbol entries (a.symbols.map Symbol.toValue) := by
  -- Neither flag has a part in the settings, so the same analysis is behind every report.
  refine ⟨analyzeWith programs (Check.settings ⟨file, parser, false, false⟩) text,
    fun json outline => ⟨rfl, checked_fails_iff hfile parser json outline, ?_⟩, fun outline => ?_⟩
  · rw [checked_eq hfile]
    exact Check.outcome_tells ⟨file, parser, json, outline⟩ _
  · exact ⟨_, _, _, parse_checked hfile parser outline, Value.get?_sparse "diagnostics" (by simp),
      Value.get?_sparse "symbols" (by simp), stdout_checked hfile parser outline,
      forall₂_findings file (diagnostics_hasNext hsize programs _),
      forall₂_symbols (symbols_hasNext hsize programs _)⟩

/-- The source map of the letter after a surrogate pair. -/
private def letter : Value :=
  .record [("element", .string "sourceMap"),
    ("content", .array [.array [.ofNat64 6, .ofNat64 1]])]

private def remark : Value :=
  .record [("element", .string "parseResult"), ("content", .array [
    .record [("element", .string "annotation"),
      ("attributes", .record [("sourceMap", .array [letter])]),
      ("content", .string "unexpected")]])]

private theorem plain_remark : Plain 8 remark := by
  have hspan : Plain 1 (.array [.ofNat64 6, .ofNat64 1]) :=
    .array (by simp [Value.ofNat64, Plain.natural])
  have hletter : Plain 3 letter := by
    refine .record ?_
    simp only [List.forall_mem_cons]
    exact ⟨.string _, .array (by simpa using hspan), by simp⟩
  have hattributes : Plain 5 (.record [("sourceMap", .array [letter])]) :=
    .record (by simpa using Plain.array (by simpa using hletter))
  refine .record ?_
  simp only [List.forall_mem_cons]
  refine ⟨.string _, .array ?_, by simp⟩
  simp only [List.forall_mem_cons]
  refine ⟨.record ?_, by simp⟩
  simp only [List.forall_mem_cons]
  exact ⟨.string _, hattributes, .string _, by simp⟩

private def critic : Programs := fun _ _ _ =>
  .finished (Utf8.encode (remark.pretty ++ "\n")) (.code 0) []

/-- A remark behind a surrogate pair is an error, and its place is printed counting from one. -/
theorem remark_fails_every_check :
    (Utf8.encode "a\n𝄞b").length ≤ 2 ^ 32 - 2 ∧
      (∀ json outline, Check.Tells (checked critic (fun _ => .ok (Utf8.encode "a\n𝄞b")) "a.apib"
        none json outline) "a.apib" 1) ∧
      ∃ (entry : Value) (printed : String), entry.startNumber? "line" = some 1 ∧
        entry.startNumber? "character" = some 2 ∧ PrintedFinding "a.apib" printed entry ∧
        (checked critic (fun _ => .ok (Utf8.encode "a\n𝄞b")) "a.apib" none false false).stdout =
          printed ++ "\n" := by
  have hsize : (Utf8.encode "a\n𝄞b").length ≤ 2 ^ 32 - 2 := by
    rw [← size_ofText]
    decide
  have hyields : Yields {} (Settings.run critic {} "a\n𝄞b") remark :=
    ⟨rfl, _, _, _, rfl, parse_pretty plain_remark (by decide), _, "parseResult", rfl, rfl⟩
  obtain ⟨tree, hvalue, hattempt⟩ := attempt_yields hyields
  have htree : tree = _ := (Except.ok.inj hvalue).symm
  obtain ⟨a, hflags, hreports⟩ := reports_are_one_analysis critic
    (fun _ => .ok (Utf8.encode "a\n𝄞b")) "a.apib" "a\n𝄞b" none rfl hsize
  have ha : a = _ := (hflags false false).1.trans (analyzeWith_ok hattempt)
  have hone : a.diagnostics =
      [⟨⟨⟨1, 2⟩, ⟨1, 3⟩⟩, .error, none, some Diagnostic.origin, "unexpected"⟩] := by
    rw [ha, htree]
    rfl
  obtain ⟨report, findings, entries, -, -, -, hstdout, hfindings, -⟩ := hreports false
  rw [hone] at hflags hfindings
  obtain ⟨printed, rest, hprinted, hrest, rfl⟩ := List.forall₂_cons_right_iff.mp hfindings
  obtain rfl := List.forall₂_nil_right_iff.mp hrest
  refine ⟨hsize, fun json outline => (hflags json outline).2.2, _, printed, rfl, rfl, hprinted, ?_⟩
  rw [hstdout]
  simp

end ApiBlueprint
