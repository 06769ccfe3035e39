import ApiBlueprint.Diagnostic
import ApiBlueprint.Proofs.Configuration
import ApiBlueprint.Proofs.Value
import ApiBlueprint.Symbol

/-! Records that are written and read again. Objects leave out what is absent, and arrays have
`null` at its place. Both forms are read as the record they were made from, at every depth. -/
namespace ApiBlueprint
open Json Source
open Refract (Field)

namespace Json

/-- The object has a member for exactly the fields that are marked. -/
def Value.Holds (v : Value) (fields : List (String × Bool)) : Prop :=
  ∀ key, (v.get? key).isSome ↔ (key, true) ∈ fields

private theorem isSome_lookup_iff {key : String} {parts : List (String × Option Value)}
    (h : (parts.map Prod.fst).Nodup) :
    (parts.lookup key).join.isSome ↔
      (key, true) ∈ parts.map fun part => (part.1, part.2.isSome) := by
  induction parts with
  | nil => simp
  | cons part rest ih =>
    obtain ⟨k, found⟩ := part
    rw [List.map_cons, List.nodup_cons] at h
    rw [List.lookup_cons]
    by_cases hk : key = k
    · subst hk
      have hrest : (key, true) ∉ rest.map fun part => (part.1, part.2.isSome) := by
        intro hmem
        obtain ⟨part, hpart, heq⟩ := List.mem_map.mp hmem
        exact h.1 (List.mem_map.mpr ⟨part, hpart, (Prod.mk.inj heq).1⟩)
      cases found with
      | none => simpa using hrest
      | some v => simp
    · have hne : (key == k) = false := by simpa using hk
      rw [hne, ih h.2]
      simp [hk]

private theorem holds_sparse (parts : List (String × Option Value))
    (h : (parts.map Prod.fst).Nodup) :
    (Value.sparse parts).Holds (parts.map fun part => (part.1, part.2.isSome)) := by
  intro key
  rw [Value.get?_sparse key h, isSome_lookup_iff h]

private theorem record_eq_sparse (members : List (String × Value)) :
    Value.record members = Value.sparse (members.map fun m => (m.1, some m.2)) := by
  rw [Value.sparse, List.filterMap_map]
  congr 1
  exact (List.filterMap_some).symm

/-- The members of a written record, as its readers look for them. -/
theorem exists_sparse (parts : List (String × Option Value)) (h : (parts.map Prod.fst).Nodup) :
    ∃ members : Members, Value.sparse parts = .object members ∧
      ∀ (key : String) {α : Type} (read : Reader α),
        field? members key read = readFound read (parts.lookup key).join := by
  obtain ⟨members, hobject, hget⟩ := Refract.exists_members parts h
  refine ⟨members, hobject, fun key α read => ?_⟩
  rw [field?_eq, hget]

/-- The same where nothing is absent. -/
private theorem exists_record (parts : List (String × Value)) (h : (parts.map Prod.fst).Nodup) :
    ∃ members : Members, Value.record parts = .object members ∧
      ∀ (key : String) {α : Type} (read : Reader α),
        field? members key read = readFound read (parts.lookup key) := by
  refine ⟨_, rfl, fun key α read => ?_⟩
  rw [field?_eq]
  exact congrArg (readFound read) (Value.get?_record key h)

/-- The object and the array are both read as `a`. -/
def Reader.Restores {α : Type} (read : Reader α) (a : α) (object array : Value) : Prop :=
  read object = .ok a ∧ read array = .ok a

private theorem readFound_some {α : Type} {read : Reader α} {v : Value} {a : α}
    (h : read v = .ok a) :
    readFound read (some v) = .ok (some a) := by
  rw [readFound, h]
  rfl

private theorem Reader.unsigned32_ofNat32 (n : UInt32) :
    Reader.unsigned32 (.ofNat32 n) = .ok n := by
  have hlt : n.toUInt64.toNat < 0x100000000 := by
    rw [UInt32.toNat_toUInt64]
    exact n.toNat_lt
  rw [Value.ofNat32, Value.ofNat64, unsigned32, if_pos hlt, UInt32.toUInt32_toUInt64]

/-! What may be absent. -/

section Optional
variable {α : Type} (read : Reader α) (write : α → Value) (hread : ∀ a, read (write a) = .ok a)
  (hnull : ∀ a, write a ≠ .null)
include hread hnull

private theorem optional_write (a : α) : Reader.optional read (write a) = .ok (some a) := by
  have ha := hread a
  cases hw : write a with
  | null => exact absurd hw (hnull a)
  | _ =>
    rw [hw] at ha
    simp only [Reader.optional, ha]
    rfl

/-- In an array, `null` stands at the place of what is absent. -/
theorem optional_item (found : Option α) :
    Reader.optional read ((found.map write).getD .null) = .ok found := by
  cases found with
  | none => rfl
  | some a => exact optional_write read write hread hnull a

/-- In an object, what is absent is left out. -/
theorem optional_member (found : Option α) :
    readFound (Reader.optional read) (found.map write) = .ok (found.map some) := by
  cases found with
  | none => rfl
  | some a => exact readFound_some (optional_write read write hread hnull a)

end Optional

private theorem optional_string_item (found : Option String) :
    Reader.optional Reader.string ((found.map Value.string).getD .null) = .ok found :=
  optional_item Reader.string Value.string (fun _ => rfl) (by simp) found

private theorem optional_string_member (found : Option String) :
    readFound (Reader.optional Reader.string) (found.map Value.string) = .ok (found.map some) :=
  optional_member Reader.string Value.string (fun _ => rfl) (by simp) found

end Json

/-! Places. -/

namespace Source

def Position.items (p : Position) : Value := .array [.ofNat32 p.line, .ofNat32 p.character]

def Range.items (range : Range) : Value := .array [range.start.items, range.stop.items]

private theorem Position.ofValue_toValue (p : Position) : Position.ofValue p.toValue = .ok p := by
  obtain ⟨members, hobject, hfield⟩ := exists_record _ p.nodup_members
  have hvalue : p.toValue = .object members := hobject
  have hline := (hfield "line" _).trans (readFound_some (Reader.unsigned32_ofNat32 p.line))
  have hcharacter :=
    (hfield "character" _).trans (readFound_some (Reader.unsigned32_ofNat32 p.character))
  rw [hvalue]
  simp only [Position.ofValue, hline, hcharacter]
  rfl

private theorem Position.ofValue_items (p : Position) : Position.ofValue p.items = .ok p := by
  have hline := Reader.unsigned32_ofNat32 p.line
  have hcharacter := Reader.unsigned32_ofNat32 p.character
  simp only [Position.items, Position.ofValue, item, List.getElem?_cons_zero,
    List.getElem?_cons_succ, hline, hcharacter]
  rfl

private theorem Range.ofValue_toValue (range : Range) :
    Range.ofValue range.toValue = .ok range := by
  obtain ⟨members, hobject, hfield⟩ := exists_record _ range.nodup_members
  have hvalue : range.toValue = .object members := hobject
  have hstart := (hfield "start" _).trans (readFound_some range.start.ofValue_toValue)
  have hstop := (hfield "end" _).trans (readFound_some range.stop.ofValue_toValue)
  rw [hvalue]
  simp only [Range.ofValue, hstart, hstop]
  rfl

private theorem Range.ofValue_items (range : Range) : Range.ofValue range.items = .ok range := by
  have hstart := range.start.ofValue_items
  have hstop := range.stop.ofValue_items
  simp only [Range.items, Range.ofValue, item, List.getElem?_cons_zero, List.getElem?_cons_succ,
    hstart, hstop]
  rfl

end Source

/-! Diagnostics. -/

private theorem Severity.ofValue_toValue (severity : Severity) :
    Severity.ofValue severity.toValue = .ok severity := by
  cases severity <;> rfl

namespace Code

/-- A number comes back as a number, up to both ends of its 64 bits. -/
theorem ofValue_toValue (code : Code) : Code.ofValue code.toValue = .ok code := by
  cases code with
  | number n =>
    have hscalar : ofScalar? (.ofInt64 n) = some (.number n) := by
      rw [ofScalar?, Value.int64?_ofInt64]
      rfl
    rw [toValue, Code.ofValue, hscalar]
  | text s => rfl

private theorem toValue_ne_null (code : Code) : code.toValue ≠ .null := by
  cases code <;> simp [toValue, Value.ofInt64]

end Code

namespace Diagnostic

/-- The fields in order, with `null` for what is absent. -/
def items (d : Diagnostic) : Value :=
  .array [d.range.items, d.severity.toValue, (d.code.map Code.toValue).getD .null,
    (d.source.map Value.string).getD .null, .string d.message]

private theorem ofValue_toValue (d : Diagnostic) : Diagnostic.ofValue d.toValue = .ok d := by
  obtain ⟨members, hobject, hfield⟩ :=
    exists_sparse _ (d.nodup_members Severity.toValue Code.toValue)
  have hvalue : d.toValue = .object members := hobject
  have hrange := (hfield "range" _).trans (readFound_some d.range.ofValue_toValue)
  have hseverity := (hfield "severity" _).trans (readFound_some d.severity.ofValue_toValue)
  have hcode := (hfield "code" _).trans
    (optional_member _ _ Code.ofValue_toValue Code.toValue_ne_null d.code)
  have hsource := (hfield "source" _).trans (optional_string_member d.source)
  have hmessage := (hfield "message" Reader.string).trans (readFound_some rfl)
  rw [hvalue]
  simp only [Diagnostic.ofValue, hrange, hseverity, hcode, hsource, hmessage]
  obtain ⟨range, severity, code, source, message⟩ := d
  cases code <;> cases source <;> rfl

private theorem ofValue_items (d : Diagnostic) : Diagnostic.ofValue d.items = .ok d := by
  have hrange := d.range.ofValue_items
  have hseverity := d.severity.ofValue_toValue
  have hcode := optional_item _ _ Code.ofValue_toValue Code.toValue_ne_null d.code
  have hsource := optional_string_item d.source
  simp only [items, Diagnostic.ofValue, item, List.getElem?_cons_zero, List.getElem?_cons_succ,
    hrange, hseverity, hcode, hsource]
  rfl

private theorem holds_toValue (d : Diagnostic) : d.toValue.Holds
    [("range", true), ("severity", true), ("code", d.code.isSome), ("source", d.source.isSome),
      ("message", true)] := by
  have hholds := holds_sparse _ (d.nodup_members Severity.toValue Code.toValue)
  simp only [members, List.map_cons, List.map_nil, Option.isSome_map, Option.isSome_some] at hholds
  exact hholds

end Diagnostic

/-! Entries of an outline. -/

private theorem SymbolKind.ofValue_toValue (kind : SymbolKind) :
    SymbolKind.ofValue kind.toValue = .ok kind := by
  cases kind <;> rfl

namespace Symbol

/-- The fields in order, with `null` for an absent container. -/
def items (symbol : Symbol) : Value :=
  .array [.string symbol.name, symbol.kind.toValue, symbol.range.items,
    (symbol.containerName.map Value.string).getD .null]

private theorem ofValue_toValue (symbol : Symbol) : Symbol.ofValue symbol.toValue = .ok symbol := by
  obtain ⟨members, hobject, hfield⟩ := exists_sparse _ symbol.nodup_members
  have hvalue : symbol.toValue = .object members := hobject
  have hname := (hfield "name" Reader.string).trans (readFound_some rfl)
  have hkind := (hfield "kind" _).trans (readFound_some symbol.kind.ofValue_toValue)
  have hrange := (hfield "range" _).trans (readFound_some symbol.range.ofValue_toValue)
  have hcontainer :=
    (hfield "container_name" _).trans (optional_string_member symbol.containerName)
  rw [hvalue]
  simp only [Symbol.ofValue, hname, hkind, hrange, hcontainer]
  obtain ⟨name, kind, range, container⟩ := symbol
  cases container <;> rfl

private theorem ofValue_items (symbol : Symbol) : Symbol.ofValue symbol.items = .ok symbol := by
  have hkind := symbol.kind.ofValue_toValue
  have hrange := symbol.range.ofValue_items
  have hcontainer := optional_string_item symbol.containerName
  simp only [items, Symbol.ofValue, item, List.getElem?_cons_zero, List.getElem?_cons_succ, hkind,
    hrange, hcontainer]
  rfl

private theorem holds_toValue (symbol : Symbol) : symbol.toValue.Holds
    [("name", true), ("kind", true), ("range", true),
      ("container_name", symbol.containerName.isSome)] := by
  have hholds := holds_sparse _ symbol.nodup_members
  simp only [members, List.map_cons, List.map_nil, Option.isSome_map, Option.isSome_some] at hholds
  exact hholds

end Symbol

/-! Settings. Every field has a default, so what matters is that nothing falls back to it. -/

namespace ParserSettings

/-- The fields in order, with `null` for absent arguments. -/
def items (p : ParserSettings) : Value :=
  .array [.string p.command, (p.args.map fun args => .array (args.map Value.string)).getD .null]

private theorem matches_toValue (p : ParserSettings) : p.Matches p.toValue := by
  have hslot (key : String) : p.toValue.slot? fields key = (p.members.lookup key).join :=
    Value.get?_sparse key p.nodup_members
  refine ⟨trivial, ?_, ?_⟩
  · rw [hslot]
    exact .given rfl
  · rw [hslot]
    obtain ⟨command, args⟩ := p
    cases args with
    | none => exact .omitted
    | some args => exact .given (.list args)

private theorem matches_items (p : ParserSettings) : p.Matches p.items := by
  refine ⟨Nat.le_refl 2, .given rfl, ?_⟩
  obtain ⟨command, args⟩ := p
  cases args with
  | none => exact .given .null
  | some args => exact .given (.list args)

private theorem holds_toValue (p : ParserSettings) :
    p.toValue.Holds [("command", true), ("args", p.args.isSome)] := by
  have hholds := holds_sparse _ p.nodup_members
  simp only [members, List.map_cons, List.map_nil, Option.isSome_map, Option.isSome_some] at hholds
  exact hholds

end ParserSettings

namespace Settings

def items (s : Settings) : Value :=
  .array [.bool s.exportSourcemap, .bool s.json, .bool s.requireBlueprintName,
    .string s.outputType, s.parser.items]

private theorem matches_toValue (s : Settings) : s.Matches s.toValue := by
  have hslot (key : String) : s.toValue.slot? fields key = s.members.lookup key :=
    Value.get?_record key s.nodup_members
  refine ⟨trivial, ?_, ?_, ?_, ?_, ?_⟩
  · rw [hslot]
    exact .given rfl
  · rw [hslot]
    exact .given rfl
  · rw [hslot]
    exact .given rfl
  · rw [hslot]
    exact .given rfl
  · rw [hslot]
    exact .given s.parser.matches_toValue

private theorem matches_items (s : Settings) : s.Matches s.items :=
  ⟨Nat.le_refl 5, .given rfl, .given rfl, .given rfl, .given rfl, .given s.parser.matches_items⟩

private theorem holds_toValue (s : Settings) : s.toValue.Holds
    [("exportSourcemap", true), ("json", true), ("requireBlueprintName", true), ("type", true),
      ("parser", true)] := by
  rw [toValue, record_eq_sparse]
  exact holds_sparse _ (by simp [members])

private theorem ofSection_toValue (s : Settings) : ofSection s.toValue = .ok s :=
  (takes_ofSection _ s).mpr s.matches_toValue

private theorem ofSection_items (s : Settings) : ofSection s.items = .ok s :=
  (takes_ofSection _ s).mpr s.matches_items

/-- No field of settings has the name of their section. -/
theorem ofValue_toValue (s : Settings) : Settings.ofValue s.toValue = .ok s := by
  have habsent : s.toValue.get? "apielements" = none := Value.get?_record _ s.nodup_members
  exact (ofValue_flat habsent).trans s.ofSection_toValue

private theorem ofValue_items (s : Settings) : Settings.ofValue s.items = .ok s := s.ofSection_items

end Settings

/-- Diagnostics, entries of an outline and settings are read back from the object they are written
as, in which exactly the absent fields are missing, and from the array of their fields in order.
Settings are also read back as the editor sends them: flat, or in their section. -/
theorem written_records_are_read_back :
    (∀ d : Diagnostic, Reader.Restores Diagnostic.ofValue d d.toValue d.items ∧
      d.toValue.Holds [("range", true), ("severity", true), ("code", d.code.isSome),
        ("source", d.source.isSome), ("message", true)]) ∧
    (∀ symbol : Symbol, Reader.Restores Symbol.ofValue symbol symbol.toValue symbol.items ∧
      symbol.toValue.Holds [("name", true), ("kind", true), ("range", true),
        ("container_name", symbol.containerName.isSome)]) ∧
    ∀ s : Settings, Reader.Restores Settings.ofSection s s.toValue s.items ∧
      Reader.Restores Settings.ofValue s s.toValue s.items ∧
      Reader.Restores Settings.ofValue s (.record [("apielements", s.toValue)])
        (.record [("apielements", s.items)]) ∧
      s.toValue.Holds [("exportSourcemap", true), ("json", true), ("requireBlueprintName", true),
        ("type", true), ("parser", true)] ∧
      ∃ parser, s.toValue.get? "parser" = some parser ∧
        parser.Holds [("command", true), ("args", s.parser.args.isSome)] := by
  refine ⟨?_, ?_, ?_⟩
  · intro d
    exact ⟨⟨d.ofValue_toValue, d.ofValue_items⟩, d.holds_toValue⟩
  · intro symbol
    exact ⟨⟨symbol.ofValue_toValue, symbol.ofValue_items⟩, symbol.holds_toValue⟩
  · intro s
    have hparser : s.toValue.get? "parser" = some s.parser.toValue :=
      Value.get?_record "parser" s.nodup_members
    exact ⟨⟨s.ofSection_toValue, s.ofSection_items⟩, ⟨s.ofValue_toValue, s.ofValue_items⟩,
      ⟨s.ofSection_toValue, s.ofSection_items⟩, s.holds_toValue, _, hparser,
      s.parser.holds_toValue⟩

end ApiBlueprint
