import ApiBlueprint.Check
import ApiBlueprint.Proofs.Utf8
import Mathlib.Data.List.TakeWhile

/-! Usable output of a parser always wins; without it the first stage that failed is reported, in
an editor as in a check. -/
namespace ApiBlueprint

namespace Text

/-- A text without the blanks around it. -/
def Trimmed (text said : List Char) : Prop :=
  ∃ before after, text = before ++ said ++ after ∧ (∀ c ∈ before ++ after, isBlank c) ∧
    (∀ c ∈ said.head?, ¬ isBlank c) ∧ ∀ c ∈ said.getLast?, ¬ isBlank c

private theorem dropWhile_blanks {before text : List Char} (hbefore : ∀ c ∈ before, isBlank c)
    (htext : ∀ c ∈ text.head?, ¬ isBlank c) : (before ++ text).dropWhile isBlank = text := by
  rw [List.dropWhile_append_of_pos hbefore]
  cases text with
  | nil => rfl
  | cons c text => exact List.dropWhile_cons_of_neg (htext c rfl)

private theorem head_dropWhile (text : List Char) :
    ∀ c ∈ (text.dropWhile isBlank).head?, ¬ isBlank c := by
  intro c hc
  have hall := List.head?_dropWhile_not isBlank text
  rw [Option.mem_def.mp hc] at hall
  simpa using hall

private theorem exists_blanks (text : List Char) :
    ∃ before, text = before ++ text.dropWhile isBlank ∧ ∀ c ∈ before, isBlank c :=
  ⟨text.takeWhile isBlank, List.takeWhile_append_dropWhile.symm, fun _ => List.mem_takeWhile_imp⟩

private theorem trim_eq_iff {text said : List Char} : trim text = said ↔ Trimmed text said := by
  constructor
  · rintro rfl
    obtain ⟨before, hbefore, hb⟩ := exists_blanks text
    obtain ⟨after, hafter, ha⟩ := exists_blanks (text.dropWhile isBlank).reverse
    have hrest : text.dropWhile isBlank = trim text ++ after.reverse := by
      rw [trim, ← List.reverse_append, ← hafter, List.reverse_reverse]
    refine ⟨before, after.reverse, ?_, ?_, ?_, ?_⟩
    · rw [List.append_assoc, ← hrest]
      exact hbefore
    · simpa [or_imp, forall_and] using ⟨hb, ha⟩
    · intro c hc
      refine head_dropWhile text c ?_
      rw [hrest, List.head?_append, Option.mem_def.mp hc]
      rfl
    · intro c hc
      rw [trim, List.getLast?_reverse] at hc
      exact head_dropWhile _ c hc
  · rintro ⟨before, after, rfl, hblank, hhead, hlast⟩
    have hafter : ∀ c ∈ after.reverse, isBlank c := fun c hc =>
      hblank c (List.mem_append_right _ (List.mem_reverse.mp hc))
    cases said with
    | nil => rw [trim, List.append_nil, List.dropWhile_eq_nil_iff.mpr hblank]; rfl
    | cons c said =>
      have hbefore : ∀ c ∈ before, isBlank c := fun c hc => hblank c (List.mem_append_left _ hc)
      have hrest : ∀ x ∈ (c :: said ++ after).head?, ¬ isBlank x := hhead
      rw [trim, List.append_assoc, dropWhile_blanks hbefore hrest, List.reverse_append,
        dropWhile_blanks hafter (by rwa [List.head?_reverse]), List.reverse_reverse]

end Text

open Json Text

/-- What becomes of the program that the settings name when it is given a text. -/
def Settings.run (programs : Programs) (settings : Settings) (text : String) : Run :=
  programs settings.parser.command
    ((Command.ofSettings settings.parser).arguments settings.parseOptions) text

/-- What a program said on the side: its text with U+FFFD for broken pieces, trimmed. -/
def Said (stderr : List UInt8) (said : String) : Prop :=
  ∃ read, Utf8.Pieces stderr read ∧ Trimmed (read.map fun piece => piece.getD '\uFFFD') said.toList

namespace Refract

/-- A text that the reader of JSON takes, with its limits on depths and numbers and no half pairs of
surrogates, and whose value is an object with a string `element`. -/
def Usable (text : String) (v : Value) : Prop :=
  parse text = .ok v ∧ ∃ members tag, v = .object members ∧
    Members.get? "element" members = some (.string tag)

/-- What is wrong with any other text. -/
inductive Unusable (text : String) : String → Prop where
  | malformed {e : SyntaxError} (h : parse text = .error e) :
      Unusable text ("invalid JSON: " ++ e.message)
  | notObject {v : Value} (h : parse text = .ok v) (hv : ∀ members, v ≠ .object members) :
      Unusable text "invalid type: expected object for parse result"
  | untagged {members : Members} (h : parse text = .ok (.object members))
      (hm : ∀ tag, Members.get? "element" members ≠ some (.string tag)) :
      Unusable text "missing required field: element"

end Refract

open Refract

/-- A run whose output is asked for, written in UTF-8 and usable, whatever its end. -/
def Yields (settings : Settings) (run : Run) (v : Value) : Prop :=
  settings.outputType = "refract" ∧ ∃ output status stderr,
    run = .finished (Utf8.encode output) status stderr ∧ Usable output v

/-- An end without success, by its number. -/
inductive Unsuccessful : ExitStatus → Int → Prop where
  | code {n : Int32} (h : n ≠ 0) : Unsuccessful (.code n) n.toInt
  | killed : Unsuccessful .signal (-1)

/-- What is reported of the first stage that fails. -/
inductive Failure (settings : Settings) : Run → String → Prop where
  | outputType {run : Run} (ho : settings.outputType ≠ "refract") :
      Failure settings run ("Unsupported parser output type '" ++ settings.outputType ++
        "', only 'refract' is understood")
  | spawn {reason : String} (ho : settings.outputType = "refract") :
      Failure settings (.notStarted reason)
        ("Failed to spawn parser '" ++ settings.parser.command ++ "': " ++ reason)
  | write {reason : String} (ho : settings.outputType = "refract") :
      Failure settings (.notWritten reason)
        ("Failed to write to parser '" ++ settings.parser.command ++ "' stdin: " ++ reason)
  | encoding {stdout stderr : List UInt8} {status : ExitStatus}
      (ho : settings.outputType = "refract") (h : ∀ output, Utf8.encode output ≠ stdout) :
      Failure settings (.finished stdout status stderr)
        ("Parser '" ++ settings.parser.command ++ "' produced invalid UTF-8 output")
  | exit {output reason said : String} {status : ExitStatus} {number : Int}
      {stderr : List UInt8} (ho : settings.outputType = "refract") (h : Unusable output reason)
      (hstatus : Unsuccessful status number) (hsaid : Said stderr said) :
      Failure settings (.finished (Utf8.encode output) status stderr)
        ("Parser '" ++ settings.parser.command ++ "' exited with status " ++ toString number ++
          ": " ++ said)
  | read {output reason : String} {stderr : List UInt8}
      (ho : settings.outputType = "refract") (h : Unusable output reason) :
      Failure settings (.finished (Utf8.encode output) (.code 0) stderr)
        ("Failed to read parser output: " ++ reason)

/-- No tree, no outline, and one error at the start of the document. -/
structure Analysis.Reports (a : Analysis) (message : String) : Prop where
  tree : a.tree = none
  symbols : a.symbols = []
  diagnostics :
    a.diagnostics = [⟨⟨⟨0, 0⟩, ⟨0, 0⟩⟩, .error, none, some Diagnostic.origin, message⟩]

/-- A check that fails over one error. Its own message counts it, and a report for people says on a
line what it is. -/
structure Outcome.Fails (r : Outcome) (o : CheckOptions) (message : String) : Prop where
  exit : r.exit = 1
  stderr : r.stderr = "Error: 1 error(s) in " ++ o.file ++ "\n"
  stdout : o.json = false → r.stdout = o.file ++ ":1:1: error: " ++ message ++ "\n"

/-! Reading output. -/

private theorem said_iff {stderr : List UInt8} {said : String} :
    Said stderr said ↔ String.ofList (trim (Utf8.decodeLossy stderr)) = said := by
  constructor
  · rintro ⟨read, hread, htrim⟩
    rw [Utf8.decodeLossy, Utf8.pieces_eq_iff.mpr hread]
    exact (congrArg String.ofList (trim_eq_iff.mpr htrim)).trans (String.ofList_toList)
  · rintro rfl
    refine ⟨_, Utf8.pieces_eq_iff.mp rfl, ?_⟩
    rw [String.toList_ofList]
    exact trim_eq_iff.mp rfl

namespace Unsuccessful
variable {status : ExitStatus} {number : Int}

private theorem not_isSuccess (h : Unsuccessful status number) : ¬ status.isSuccess := by
  cases h with
  | code h => simpa [ExitStatus.isSuccess] using h
  | killed => decide

private theorem number_eq (h : Unsuccessful status number) : status.number = number := by
  cases h <;> rfl

end Unsuccessful

private theorem success_or_unsuccessful (status : ExitStatus) :
    status = .code 0 ∨ ∃ number, Unsuccessful status number := by
  cases status with
  | signal => exact .inr ⟨_, .killed⟩
  | code n =>
    by_cases h : n = 0
    · exact .inl (congrArg _ h)
    · exact .inr ⟨_, .code h⟩

namespace Refract

/-- The tag of an element is the string under `element`. -/
theorem tag?_eq_some_iff {members : Members} {tag : String} :
    tag? members = some tag ↔ Members.get? "element" members = some (.string tag) := by
  rw [tag?, Option.bind_eq_some_iff]
  constructor
  · rintro ⟨v, hv, hs⟩
    cases v with
    | string s =>
      rw [hv]
      exact congrArg (some ∘ Value.string) (Option.some.inj hs)
    | _ => cases hs
  · intro h
    exact ⟨_, h, rfl⟩

private theorem Usable.ofText_eq {text : String} {v : Value} (h : Usable text v) :
    ∃ tree, ofValue v = .ok tree ∧ ofText text = .ok tree := by
  obtain ⟨hparse, members, tag, rfl, htag⟩ := h
  rw [← tag?_eq_some_iff] at htag
  simp [ofText, hparse, ofValue, htag]

private theorem Unusable.ofText_eq {text reason : String} (h : Unusable text reason) :
    ∃ e, ofText text = .error e ∧ e.message = reason := by
  cases h with
  | @malformed e h => exact ⟨.invalidJson e, by simp [ofText, h], rfl⟩
  | @notObject v h hv =>
    refine ⟨.notAnObject, ?_, rfl⟩
    cases v with
    | object members => exact absurd rfl (hv members)
    | _ => simp [ofText, h, ofValue]
  | @untagged members h hm =>
    have htag : tag? members = none :=
      Option.eq_none_iff_forall_ne_some.mpr fun tag htag => hm tag (tag?_eq_some_iff.mp htag)
    exact ⟨.missingElement, by simp [ofText, h, ofValue, htag], rfl⟩

private theorem usable_or_unusable (text : String) :
    (∃ v, Usable text v) ∨ ∃ reason, Unusable text reason := by
  cases hparse : parse text with
  | error e => exact .inr ⟨_, .malformed hparse⟩
  | ok v =>
    by_cases hv : ∃ members, v = .object members
    · obtain ⟨members, rfl⟩ := hv
      by_cases htag : ∃ tag, Members.get? "element" members = some (.string tag)
      · obtain ⟨tag, htag⟩ := htag
        exact .inl ⟨_, hparse, members, tag, rfl, htag⟩
      · exact .inr ⟨_, .untagged hparse (not_exists.mp htag)⟩
    · exact .inr ⟨_, .notObject hparse (not_exists.mp hv)⟩

end Refract

/-! One attempt at a parse. -/

section Attempt
variable (programs : Programs) (settings : Settings) (text : String)

/-- What the program that the settings name makes of a text. -/
def Settings.attempt : Except ParseError ParseResult :=
  (Command.ofSettings settings.parser).parser programs text settings.parseOptions

variable {programs settings text}

private theorem attempt_understood (ho : settings.outputType = "refract") :
    settings.attempt programs text =
      Command.ofRun settings.parser.command (settings.run programs text) := by
  have hrefract : settings.parseOptions.outputType = refract := ho
  rw [Settings.attempt, Command.parser, if_neg (not_not.mpr hrefract)]
  rfl

/-- Usable output is read, however the program ended. -/
theorem attempt_yields {v : Value} (h : Yields settings (settings.run programs text) v) :
    ∃ tree, ofValue v = .ok tree ∧ settings.attempt programs text = .ok tree := by
  obtain ⟨ho, output, status, stderr, hrun, hv⟩ := h
  obtain ⟨tree, hvalue, htree⟩ := hv.ofText_eq
  refine ⟨tree, hvalue, ?_⟩
  rw [attempt_understood ho, hrun, Command.ofRun, Utf8.decode?_eq_some_iff.mpr rfl]
  simp only [htree]

private theorem attempt_unusable (ho : settings.outputType = "refract") {output reason : String}
    {status : ExitStatus} {stderr : List UInt8}
    (hrun : settings.run programs text = .finished (Utf8.encode output) status stderr)
    (hreason : Unusable output reason) :
    ∃ e : ReadError, e.message = reason ∧ settings.attempt programs text = .error
      (if status.isSuccess then .output e
      else .nonZeroExit settings.parser.command status.number
        (String.ofList (trim (Utf8.decodeLossy stderr)))) := by
  obtain ⟨e, htext, hmessage⟩ := hreason.ofText_eq
  refine ⟨e, hmessage, ?_⟩
  rw [attempt_understood ho, hrun, Command.ofRun, Utf8.decode?_eq_some_iff.mpr rfl]
  simp only [htext]
  split <;> rfl

private theorem attempt_failure {message : String}
    (h : Failure settings (settings.run programs text) message) :
    ∃ e : ParseError, settings.attempt programs text = .error e ∧ e.message = message := by
  generalize hrun : settings.run programs text = run at h
  cases h with
  | outputType ho =>
    have hother : settings.parseOptions.outputType ≠ refract := ho
    exact ⟨.unsupportedOutputType _, if_pos hother, rfl⟩
  | @spawn reason ho =>
    refine ⟨.spawnFailed settings.parser.command reason, ?_, rfl⟩
    rw [attempt_understood ho, hrun]
    rfl
  | @write reason ho =>
    refine ⟨.stdinWrite settings.parser.command reason, ?_, rfl⟩
    rw [attempt_understood ho, hrun]
    rfl
  | encoding ho h =>
    have hdecode := Option.eq_none_iff_forall_ne_some.mpr fun output houtput =>
      h output (Utf8.decode?_eq_some_iff.mp houtput)
    refine ⟨.invalidUtf8Output settings.parser.command, ?_, rfl⟩
    rw [attempt_understood ho, hrun, Command.ofRun, hdecode]
  | exit ho h hstatus hsaid =>
    obtain ⟨e, -, hattempt⟩ := attempt_unusable ho hrun h
    rw [if_neg hstatus.not_isSuccess, hstatus.number_eq, said_iff.mp hsaid] at hattempt
    exact ⟨_, hattempt, rfl⟩
  | read ho h =>
    obtain ⟨e, hmessage, hattempt⟩ := attempt_unusable ho hrun h
    rw [if_pos (by decide)] at hattempt
    exact ⟨_, hattempt, congrArg ("Failed to read parser output: " ++ ·) hmessage⟩

/-- Either the output is usable or a stage has failed. -/
theorem yields_or_failure (settings : Settings) (run : Run) :
    (∃ v, Yields settings run v) ∨ ∃ message, Failure settings run message := by
  by_cases ho : settings.outputType = "refract"
  · cases run with
    | notStarted reason => exact .inr ⟨_, .spawn ho⟩
    | notWritten reason => exact .inr ⟨_, .write ho⟩
    | finished stdout status stderr =>
      by_cases hstdout : ∃ output, Utf8.encode output = stdout
      · obtain ⟨output, rfl⟩ := hstdout
        rcases usable_or_unusable output with ⟨v, hv⟩ | ⟨reason, hreason⟩
        · exact .inl ⟨v, ho, output, status, stderr, rfl, hv⟩
        · have hsaid := said_iff.mpr (Eq.refl (String.ofList (trim (Utf8.decodeLossy stderr))))
          rcases success_or_unsuccessful status with rfl | ⟨number, hstatus⟩
          · exact .inr ⟨_, .read ho hreason⟩
          · exact .inr ⟨_, .exit ho hreason hstatus hsaid⟩
      · exact .inr ⟨_, .encoding ho (not_exists.mp hstdout)⟩
  · exact .inr ⟨_, .outputType ho⟩

/-! Its analysis. -/

/-- The analysis of a text whose parser gave a tree. -/
theorem analyzeWith_ok {tree : ParseResult} (h : settings.attempt programs text = .ok tree) :
    analyzeWith programs settings text =
      ⟨tree.diagnostics (Lines.ofText text), some tree, Lines.ofText text, settings⟩ := by
  simp only [analyzeWith, analyze, parseWithDiagnostics]
  rw [← Settings.attempt, h]

private theorem analyzeWith_error {e : ParseError} (h : settings.attempt programs text = .error e) :
    analyzeWith programs settings text = ⟨[e.diagnostic], none, Lines.ofText text, settings⟩ := by
  simp only [analyzeWith, analyze, parseWithDiagnostics]
  rw [← Settings.attempt, h]

private theorem reports_failure {message : String}
    (h : Failure settings (settings.run programs text) message) :
    (analyzeWith programs settings text).Reports message := by
  obtain ⟨e, hattempt, rfl⟩ := attempt_failure h
  rw [analyzeWith_error hattempt]
  exact ⟨rfl, ite_self _, rfl⟩

private theorem tree_of_yields {v : Value} (h : Yields settings (settings.run programs text) v) :
    ∃ tree, ofValue v = .ok tree ∧ (analyzeWith programs settings text).tree = some tree ∧
      (analyzeWith programs settings text).diagnostics = tree.diagnostics (Lines.ofText text) := by
  obtain ⟨tree, hvalue, hattempt⟩ := attempt_yields h
  rw [analyzeWith_ok hattempt]
  exact ⟨tree, hvalue, rfl, rfl⟩

private theorem tree_isSome_iff :
    (analyzeWith programs settings text).tree.isSome ↔
      ∃ v, Yields settings (settings.run programs text) v := by
  constructor
  · intro htree
    rcases yields_or_failure settings (settings.run programs text) with h | ⟨message, h⟩
    · exact h
    · rw [(reports_failure h).tree] at htree
      cases htree
  · rintro ⟨v, h⟩
    obtain ⟨tree, -, htree, -⟩ := tree_of_yields h
    rw [htree]
    rfl

/-- Neither the end of a run nor what it said on the side touches a usable output. -/
theorem analysis_of_same_output {others : Programs} {stdout stderr stderr' : List UInt8}
    {status status' : ExitStatus}
    (hrun : settings.run programs text = .finished stdout status stderr)
    (hrun' : settings.run others text = .finished stdout status' stderr')
    (htree : (analyzeWith programs settings text).tree.isSome) :
    analyzeWith others settings text = analyzeWith programs settings text := by
  obtain ⟨v, h⟩ := tree_isSome_iff.mp htree
  -- What is usable is a matter of the output alone, so the other run has it too.
  have h' : Yields settings (settings.run others text) v := by
    obtain ⟨ho, output, _, _, hfinished, hv⟩ := h
    rw [hrun] at hfinished
    obtain ⟨rfl, -, -⟩ := Run.finished.inj hfinished
    exact ⟨ho, output, status', stderr', hrun', hv⟩
  obtain ⟨tree, hvalue, hattempt⟩ := attempt_yields h
  obtain ⟨tree', hvalue', hattempt'⟩ := attempt_yields h'
  obtain rfl := Except.ok.inj (hvalue.symm.trans hvalue')
  rw [analyzeWith_ok hattempt, analyzeWith_ok hattempt']

end Attempt

/-! Checks. -/

section Check
variable {programs : Programs} {o : CheckOptions}

/-- A file in UTF-8 is checked by the analysis of its text. -/
theorem run_encode (text : String) :
    Check.run programs o (.ok (Utf8.encode text)) =
      Check.outcome o (analyzeWith programs (Check.settings o) text) := by
  simp only [Check.run, Utf8.decode?_eq_some_iff.mpr rfl]

/-- A check passes exactly if no diagnostic is an error. -/
theorem outcome_exit (a : Analysis) :
    (Check.outcome o a).exit = 0 ↔ ∀ d ∈ a.diagnostics, d.severity ≠ .error := by
  have hcount : Check.errorCount a.diagnostics = 0 ↔ ∀ d ∈ a.diagnostics, d.severity ≠ .error := by
    simp [Check.errorCount, List.countP_eq_zero]
  rw [← hcount, Check.outcome]
  by_cases h : Check.errorCount a.diagnostics = 0
  · simp [h]
  · simp [h]

private theorem check_passes_iff (file : Except String (List UInt8)) :
    (Check.run programs o file).exit = 0 ↔ ∃ text, file = .ok (Utf8.encode text) ∧
      ∀ d ∈ (analyzeWith programs (Check.settings o) text).diagnostics, d.severity ≠ .error := by
  constructor
  · intro h
    cases file with
    | error reason => simp [Check.run, Check.unreadable] at h
    | ok bytes =>
      cases hdecode : Utf8.decode? bytes with
      | none => simp [Check.run, hdecode, Check.unreadable] at h
      | some text =>
        obtain rfl := Utf8.decode?_eq_some_iff.mp hdecode
        rw [run_encode, outcome_exit] at h
        exact ⟨text, rfl, h⟩
  · rintro ⟨text, rfl, h⟩
    rw [run_encode, outcome_exit]
    exact h

private theorem diagnosticLine_origin (file message : String) :
    Check.diagnosticLine file ⟨⟨⟨0, 0⟩, ⟨0, 0⟩⟩, .error, none, some Diagnostic.origin, message⟩ =
      file ++ ":1:1: error: " ++ message := by
  have hplace : ":" ++ toString 1 ++ ":" ++ toString 1 ++ ": " ++ "error" ++ "" ++ ": " =
      ":1:1: error: " := by decide
  rw [← hplace]
  simp only [← String.append_assoc]
  rfl

private theorem outcome_reports {a : Analysis} {message : String} (h : a.Reports message) :
    (Check.outcome o a).Fails o message := by
  have hcount : Check.errorCount a.diagnostics = 1 := by
    rw [h.diagnostics]
    rfl
  have houtcome : Check.outcome o a =
      ⟨1, Check.report o a, "Error: " ++ toString 1 ++ " error(s) in " ++ o.file ++ "\n"⟩ := by
    rw [Check.outcome, hcount]
    rfl
  rw [houtcome]
  refine ⟨rfl, rfl, fun hjson => ?_⟩
  have hlines : Check.textReport o a = [o.file ++ ":1:1: error: " ++ message] := by
    rw [Check.textReport, h.diagnostics, h.symbols, List.map_singleton, List.map_nil, ite_self,
      List.append_nil, diagnosticLine_origin]
  simp [Check.report, hjson, hlines]

end Check

/-- There is a tree exactly if the output is usable, and then neither the end of the program nor
what it said on the side matters. Otherwise the first stage that failed is all that is reported. A
check passes only on a text without errors, so it fails with its parser. -/
theorem usable_output_wins_or_failure_is_reported (programs : Programs) (settings : Settings)
    (text : String) :
    ((analyzeWith programs settings text).tree.isSome ↔
      ∃ v, Yields settings (settings.run programs text) v) ∧
    (∀ v, Yields settings (settings.run programs text) v → ∃ tree, ofValue v = .ok tree ∧
      (analyzeWith programs settings text).tree = some tree ∧
      (analyzeWith programs settings text).diagnostics = tree.diagnostics (Lines.ofText text)) ∧
    (∀ others stdout status stderr status' stderr',
      settings.run programs text = .finished stdout status stderr →
      settings.run others text = .finished stdout status' stderr' →
      (analyzeWith programs settings text).tree.isSome →
        analyzeWith others settings text = analyzeWith programs settings text) ∧
    ((analyzeWith programs settings text).tree = none →
      ∃ message, Failure settings (settings.run programs text) message) ∧
    (∀ message, Failure settings (settings.run programs text) message →
      (analyzeWith programs settings text).Reports message) ∧
    ∀ o : CheckOptions,
      (∀ file, (Check.run programs o file).exit = 0 ↔ ∃ content, file = .ok (Utf8.encode content) ∧
        ∀ d ∈ (analyzeWith programs (Check.settings o) content).diagnostics,
          d.severity ≠ .error) ∧
      ∀ message, Failure (Check.settings o) ((Check.settings o).run programs text) message →
        (Check.run programs o (.ok (Utf8.encode text))).Fails o message := by
  refine ⟨tree_isSome_iff, fun v => tree_of_yields, fun others stdout status stderr status' stderr'
    hrun hrun' => analysis_of_same_output hrun hrun', fun hnone => ?_,
    fun message => reports_failure, fun o => ⟨check_passes_iff, fun message h => ?_⟩⟩
  · refine (yields_or_failure settings (settings.run programs text)).resolve_left fun hyields => ?_
    have htree := tree_isSome_iff.mpr hyields
    rw [hnone] at htree
    cases htree
  · rw [run_encode]
    exact outcome_reports (reports_failure h)

private def speechless : Programs := fun _ _ _ =>
  .finished (Utf8.encode "[]") .signal [0x20, 0xC3, 0x62, 0x0A]

private def insistent : Programs := fun _ _ _ =>
  .finished (Utf8.encode "\x7b\"element\":\"parseResult\"\x7d") (.code 70) [0x62]

/-- Output that is no object leaves the signal to report, with the half character before `b`
replaced; output that is one makes up for any exit code. -/
theorem speechless_parser_is_reported :
    Failure {} (Settings.run speechless {} "# A")
        "Parser 'drafter' exited with status -1: \uFFFDb" ∧
      (analyzeWith speechless {} "# A").Reports "Parser 'drafter' exited with status -1: \uFFFDb" ∧
      (Check.run speechless ⟨"a.apib", none, false, true⟩ (.ok (Utf8.encode "# A"))).exit = 1 ∧
      (Check.run speechless ⟨"a.apib", none, false, true⟩ (.ok (Utf8.encode "# A"))).stdout =
        "a.apib:1:1: error: Parser 'drafter' exited with status -1: \uFFFDb\n" ∧
      (analyzeWith insistent {} "# A").tree = some ⟨[]⟩ := by
  have hunusable : Unusable "[]" "invalid type: expected object for parse result" :=
    .notObject (show parse "[]" = .ok (.array []) by with_unfolding_all rfl) (by simp)
  have hsaid : Said [0x20, 0xC3, 0x62, 0x0A] "\uFFFDb" := said_iff.mpr (by decide)
  have hfailure : Failure {} (Settings.run speechless {} "# A")
      "Parser 'drafter' exited with status -1: \uFFFDb" := .exit rfl hunusable .killed hsaid
  have husable : Usable "\x7b\"element\":\"parseResult\"\x7d"
      (.object [("element", .string "parseResult")]) :=
    ⟨by with_unfolding_all rfl, _, "parseResult", rfl, rfl⟩
  obtain ⟨-, -, -, -, hreports, hcheck⟩ :=
    usable_output_wins_or_failure_is_reported speechless {} "# A"
  have hfails := (hcheck ⟨"a.apib", none, false, true⟩).2 _ hfailure
  obtain ⟨-, hyields, -⟩ := usable_output_wins_or_failure_is_reported insistent {} "# A"
  obtain ⟨tree, hvalue, htree, -⟩ := hyields _ ⟨rfl, _, _, _, rfl, husable⟩
  have hempty : tree = ⟨[]⟩ := (Except.ok.inj hvalue).symm
  exact ⟨hfailure, hreports _ hfailure, hfails.exit, hfails.stdout rfl,
    htree.trans (congrArg some hempty)⟩

end ApiBlueprint
