import ApiBlueprint.Proofs.Reading
import ApiBlueprint.Settings

/-! Which JSON is taken for settings, and for which ones. Every field counts by itself: what is
given for it must have its type, and what is not given is its default. -/
namespace ApiBlueprint
open Json
open Refract (Field)

/-- The value of a field: under its name in an object, at its place in an array. -/
def Json.Value.slot? (fields : List String) (name : String) : Value → Option Value
  | .object members => Members.get? name members
  | .array items => items[fields.idxOf name]?
  | _ => none

/-- An object, or an array with no more items than there are fields. -/
def Json.Value.IsRecord (fields : List String) : Value → Prop
  | .object _ => True
  | .array items => items.length ≤ fields.length
  | _ => False

/-- A field can be read if its value, when there is one, can. -/
theorem exists_field {α : Type} {absent : α} {Form : α → Value → Prop} {found : Option Value} :
    (∃ a, Field absent Form a found) ↔ ∀ v ∈ found, ∃ a, Form a v := by
  cases found with
  | none => simpa using ⟨absent, Field.omitted⟩
  | some v =>
    constructor
    · rintro ⟨a, ⟨ha⟩⟩ w hw
      obtain rfl := Option.some.inj hw
      exact ⟨a, ha⟩
    · intro h
      obtain ⟨a, ha⟩ := h v rfl
      exact ⟨a, .given ha⟩

namespace ParserSettings

def fields : List String := ["command", "args"]

/-- `null` for no arguments of their own, or a list of strings. -/
inductive ArgsForm : Option (List String) → Value → Prop where
  | null : ArgsForm none .null
  | list (args : List String) : ArgsForm (some args) (.array (args.map .string))

/-- Each field is what `v` has for it, or its default. -/
structure Matches (p : ParserSettings) (v : Value) : Prop where
  record : v.IsRecord fields
  command : Field "drafter" (fun s w => w = .string s) p.command (v.slot? fields "command")
  args : Field none ArgsForm p.args (v.slot? fields "args")

structure Readable (v : Value) : Prop where
  record : v.IsRecord fields
  command : ∀ w ∈ v.slot? fields "command", ∃ s, w = .string s
  args : ∀ w ∈ v.slot? fields "args",
    w = .null ∨ ∃ strings : List String, w = .array (strings.map .string)

private theorem takes_args :
    Reader.Takes (Reader.optional (Reader.list Reader.string)) ArgsForm := by
  have htakes := Reader.takes_string.list.optional (by simp)
  intro v args
  rw [htakes v args]
  have hstrings {strings : List String} {items : List Value} :
      List.Forall₂ (fun s w => w = .string s) strings items ↔ items = strings.map .string := by
    induction strings generalizing items with
    | nil => simp
    | cons s rest ih => cases items <;> simp [ih]
  constructor
  · intro h
    cases h with
    | null => exact .null
    | @value strings v h =>
      obtain ⟨items, rfl, hitems⟩ := h
      obtain rfl := hstrings.mp hitems
      exact .list strings
  · intro h
    cases h with
    | null => exact .null
    | list strings => exact .value ⟨_, rfl, hstrings.mpr rfl⟩

/-- What is read for each field. Objects and arrays are read in different orders, which matters for
nothing but the fault that is met first. -/
private theorem matches_iff {p : ParserSettings} {v : Value} :
    p.Matches v ↔ v.IsRecord fields ∧ ∃ command args,
      readFound Reader.string (v.slot? fields "command") = .ok command ∧
      readFound (Reader.optional (Reader.list Reader.string)) (v.slot? fields "args") = .ok args ∧
      p = ⟨command.getD "drafter", args.getD none⟩ := by
  constructor
  · intro h
    obtain ⟨command, hcommand, hc⟩ := (readFound_takes Reader.takes_string).mpr h.command
    obtain ⟨args, hargs, ha⟩ := (readFound_takes takes_args).mpr h.args
    exact ⟨h.record, command, args, hcommand, hargs, by rw [hc, ha]⟩
  · rintro ⟨hrecord, command, args, hcommand, hargs, rfl⟩
    exact ⟨hrecord, (readFound_takes Reader.takes_string).mp ⟨command, hcommand, rfl⟩,
      (readFound_takes takes_args).mp ⟨args, hargs, rfl⟩⟩

private theorem takes_ofValue : Reader.Takes ofValue Matches := by
  intro v p
  rw [matches_iff]
  cases v with
  | object members =>
    simp only [ofValue, bind_eq_ok, field?_eq]
    constructor
    · rintro ⟨args, hargs, command, hcommand, ⟨⟩⟩
      exact ⟨trivial, command, args, hcommand, hargs, rfl⟩
    · rintro ⟨-, command, args, hcommand, hargs, rfl⟩
      exact ⟨args, hargs, command, hcommand, rfl⟩
  | array items =>
    simp only [ofValue, bind_eq_ok, item?_eq, noMoreThan_eq_ok]
    constructor
    · rintro ⟨command, hcommand, args, hargs, -, hlength, ⟨⟩⟩
      exact ⟨hlength, command, args, hcommand, hargs, rfl⟩
    · rintro ⟨hlength, command, args, hcommand, hargs, rfl⟩
      exact ⟨command, hcommand, args, hargs, (), hlength, rfl⟩
  | _ =>
    constructor
    · intro h
      cases h
    · intro h
      exact absurd h.1 id

private theorem exists_matches {v : Value} : (∃ p : ParserSettings, p.Matches v) ↔ Readable v := by
  constructor
  · rintro ⟨p, h⟩
    refine ⟨h.record, exists_field.mp ⟨_, h.command⟩, ?_⟩
    intro w hw
    obtain ⟨args, hargs⟩ := exists_field.mp ⟨_, h.args⟩ w hw
    cases hargs with
    | null => exact .inl rfl
    | list strings => exact .inr ⟨strings, rfl⟩
  · intro h
    obtain ⟨command, hcommand⟩ := exists_field.mpr h.command
    obtain ⟨args, hargs⟩ : ∃ args, Field none ArgsForm args (v.slot? fields "args") := by
      refine exists_field.mpr fun w hw => ?_
      rcases h.args w hw with rfl | ⟨strings, rfl⟩
      · exact ⟨none, .null⟩
      · exact ⟨some strings, .list strings⟩
    exact ⟨⟨command, args⟩, h.record, hcommand, hargs⟩

end ParserSettings

namespace Settings

def fields : List String := ["exportSourcemap", "json", "requireBlueprintName", "type", "parser"]

/-- Each field is what `v` has for it, or its default. -/
structure Matches (s : Settings) (v : Value) : Prop where
  record : v.IsRecord fields
  exportSourcemap :
    Field true (fun b w => w = .bool b) s.exportSourcemap (v.slot? fields "exportSourcemap")
  json : Field false (fun b w => w = .bool b) s.json (v.slot? fields "json")
  requireBlueprintName :
    Field false (fun b w => w = .bool b) s.requireBlueprintName
      (v.slot? fields "requireBlueprintName")
  outputType : Field "refract" (fun s w => w = .string s) s.outputType (v.slot? fields "type")
  parser : Field ⟨"drafter", none⟩ ParserSettings.Matches s.parser (v.slot? fields "parser")

structure Readable (v : Value) : Prop where
  record : v.IsRecord fields
  exportSourcemap : ∀ w ∈ v.slot? fields "exportSourcemap", ∃ b, w = .bool b
  json : ∀ w ∈ v.slot? fields "json", ∃ b, w = .bool b
  requireBlueprintName : ∀ w ∈ v.slot? fields "requireBlueprintName", ∃ b, w = .bool b
  outputType : ∀ w ∈ v.slot? fields "type", ∃ s, w = .string s
  parser : ∀ w ∈ v.slot? fields "parser", ParserSettings.Readable w

private theorem matches_iff {s : Settings} {v : Value} :
    s.Matches v ↔ v.IsRecord fields ∧ ∃ exportSourcemap json requireBlueprintName outputType parser,
      readFound Reader.bool (v.slot? fields "exportSourcemap") = .ok exportSourcemap ∧
      readFound Reader.bool (v.slot? fields "json") = .ok json ∧
      readFound Reader.bool (v.slot? fields "requireBlueprintName") = .ok requireBlueprintName ∧
      readFound Reader.string (v.slot? fields "type") = .ok outputType ∧
      readFound ParserSettings.ofValue (v.slot? fields "parser") = .ok parser ∧
      s = ⟨exportSourcemap.getD true, json.getD false, requireBlueprintName.getD false,
        outputType.getD "refract", parser.getD ⟨"drafter", none⟩⟩ := by
  constructor
  · intro h
    obtain ⟨e, he, hes⟩ := (readFound_takes Reader.takes_bool).mpr h.exportSourcemap
    obtain ⟨j, hj, hjs⟩ := (readFound_takes Reader.takes_bool).mpr h.json
    obtain ⟨r, hr, hrs⟩ := (readFound_takes Reader.takes_bool).mpr h.requireBlueprintName
    obtain ⟨t, ht, hts⟩ := (readFound_takes Reader.takes_string).mpr h.outputType
    obtain ⟨p, hp, hps⟩ := (readFound_takes ParserSettings.takes_ofValue).mpr h.parser
    exact ⟨h.record, e, j, r, t, p, he, hj, hr, ht, hp, by rw [hes, hjs, hrs, hts, hps]⟩
  · rintro ⟨hrecord, e, j, r, t, p, he, hj, hr, ht, hp, rfl⟩
    exact ⟨hrecord, (readFound_takes Reader.takes_bool).mp ⟨e, he, rfl⟩,
      (readFound_takes Reader.takes_bool).mp ⟨j, hj, rfl⟩,
      (readFound_takes Reader.takes_bool).mp ⟨r, hr, rfl⟩,
      (readFound_takes Reader.takes_string).mp ⟨t, ht, rfl⟩,
      (readFound_takes ParserSettings.takes_ofValue).mp ⟨p, hp, rfl⟩⟩

/-- A section is read as `s` exactly if each of its fields is given as in `s` or left to its
default. -/
theorem takes_ofSection : Reader.Takes ofSection Matches := by
  intro v s
  rw [matches_iff]
  cases v with
  | object members =>
    simp only [ofSection, bind_eq_ok, field?_eq]
    constructor
    · rintro ⟨e, he, j, hj, p, hp, r, hr, t, ht, ⟨⟩⟩
      exact ⟨trivial, e, j, r, t, p, he, hj, hr, ht, hp, rfl⟩
    · rintro ⟨-, e, j, r, t, p, he, hj, hr, ht, hp, rfl⟩
      exact ⟨e, he, j, hj, p, hp, r, hr, t, ht, rfl⟩
  | array items =>
    simp only [ofSection, bind_eq_ok, item?_eq, noMoreThan_eq_ok]
    constructor
    · rintro ⟨e, he, j, hj, r, hr, t, ht, p, hp, -, hlength, ⟨⟩⟩
      exact ⟨hlength, e, j, r, t, p, he, hj, hr, ht, hp, rfl⟩
    · rintro ⟨hlength, e, j, r, t, p, he, hj, hr, ht, hp, rfl⟩
      exact ⟨e, he, j, hj, r, hr, t, ht, p, hp, (), hlength, rfl⟩
  | _ =>
    constructor
    · intro h
      cases h
    · intro h
      exact absurd h.1 id

private theorem exists_matches {v : Value} : (∃ s : Settings, s.Matches v) ↔ Readable v := by
  constructor
  · rintro ⟨s, h⟩
    refine ⟨h.record, exists_field.mp ⟨_, h.exportSourcemap⟩, exists_field.mp ⟨_, h.json⟩,
      exists_field.mp ⟨_, h.requireBlueprintName⟩, exists_field.mp ⟨_, h.outputType⟩, ?_⟩
    intro w hw
    exact ParserSettings.exists_matches.mp (exists_field.mp ⟨_, h.parser⟩ w hw)
  · intro h
    obtain ⟨e, he⟩ := exists_field.mpr h.exportSourcemap
    obtain ⟨j, hj⟩ := exists_field.mpr h.json
    obtain ⟨r, hr⟩ := exists_field.mpr h.requireBlueprintName
    obtain ⟨t, ht⟩ := exists_field.mpr h.outputType
    obtain ⟨p, hp⟩ := exists_field.mpr fun w hw => ParserSettings.exists_matches.mpr (h.parser w hw)
    exact ⟨⟨e, j, r, t, p⟩, h.record, he, hj, hr, ht, hp⟩

/-- Settings outside of a section are read like a section. -/
theorem ofValue_flat {members : Members} (h : members.get? "apielements" = none) :
    ofValue (.object members) = ofSection (.object members) := by
  have hget : (Value.object members).get? sectionName = none := h
  rw [ofValue, hget]
  rfl

/-- What stands beside the section is not read. -/
theorem ofValue_nested {members : Members} {w : Value} (h : members.get? "apielements" = some w) :
    ofValue (.object members) = ofValue (.object [("apielements", w)]) := by
  have hget : (Value.object members).get? sectionName = some w := h
  have halone : (Value.object [("apielements", w)]).get? sectionName = some w := rfl
  rw [ofValue, ofValue, hget, halone]
  rfl

private theorem ofValue_section {w : Value} (h : w ≠ .null) :
    ofValue (.object [("apielements", w)]) = ofSection w := by
  cases w with
  | null => exact absurd rfl h
  | _ => rfl

/-- Flat settings are read if and only if each known field is of its type, and then each has what is
given for it or its default. Nothing else in the object matters. A section is read in the same way
and alone: neither what stands beside it nor a section within it counts, and `null` gives the
defaults. -/
theorem settings_are_the_given_fields (members : Members) :
    (members.get? "apielements" = none →
      ((∃ s, ofValue (.object members) = .ok s) ↔ Readable (.object members)) ∧
        ∀ s, ofValue (.object members) = .ok s ↔ s.Matches (.object members)) ∧
      ∀ w, members.get? "apielements" = some w →
        (w = .null →
          ofValue (.object members) = .ok ⟨true, false, false, "refract", ⟨"drafter", none⟩⟩) ∧
        (w ≠ .null →
          ((∃ s, ofValue (.object members) = .ok s) ↔ Readable w) ∧
            ∀ s, ofValue (.object members) = .ok s ↔ s.Matches w) ∧
        ofValue (.object members) = ofValue (.object [("apielements", w)]) := by
  refine ⟨?_, ?_⟩
  · intro habsent
    rw [ofValue_flat habsent, ← exists_matches]
    exact ⟨exists_congr fun s => takes_ofSection _ s, takes_ofSection _⟩
  · intro w hw
    rw [ofValue_nested hw]
    refine ⟨?_, ?_, rfl⟩
    · rintro rfl
      rfl
    · intro hnull
      rw [ofValue_section hnull, ← exists_matches]
      exact ⟨exists_congr fun s => takes_ofSection w s, takes_ofSection w⟩

/-- Flat settings with a key that is not theirs and a parser without a command, and a section that
gives the parser as an array and holds a section of its own, beside a field of the wrong type. -/
theorem section_hides_its_siblings :
    ofValue (.object [("tabSize", .null), ("json", .bool true),
        ("parser", .object [("args", .array [.string "-u"])])]) =
      .ok ⟨true, true, false, "refract", ⟨"drafter", some ["-u"]⟩⟩ ∧
    ofValue (.object [("apielements", .object [("apielements", .object [("json", .bool true)]),
        ("parser", .array [.string "cat"])]), ("type", .bool true)]) =
      .ok ⟨true, false, false, "refract", ⟨"cat", none⟩⟩ ∧
    ∀ s, ofValue (.object [("type", .bool true)]) ≠ .ok s := by
  refine ⟨?_, ?_, ?_⟩
  · exact ((((settings_are_the_given_fields _).1 rfl).2 _).mpr
      ⟨trivial, .omitted, .given rfl, .omitted, .omitted,
        .given ⟨trivial, .omitted, .given (.list ["-u"])⟩⟩)
  · refine ((((settings_are_the_given_fields _).2 _ rfl).2.1 (by simp)).2 _).mpr ?_
    exact ⟨trivial, .omitted, .omitted, .omitted, .omitted,
      .given ⟨Nat.le_succ 1, .given rfl, .omitted⟩⟩
  · intro s hs
    have hread := ((settings_are_the_given_fields _).1 rfl).1.mp ⟨s, hs⟩
    obtain ⟨t, ht⟩ := hread.outputType _ rfl
    cases ht

end Settings

end ApiBlueprint
