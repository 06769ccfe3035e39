import ApiBlueprint.Proofs.Serialization

/-! When readers succeed, and with what. A reader is known by the values it takes for each result,
and a field that may be missing by the values of its reader and a default. -/
namespace ApiBlueprint.Json
open Refract (Field)

section Except
variable {ε α β : Type}

/-- Reading on succeeds exactly if both steps do. -/
theorem bind_eq_ok {x : Except ε α} {f : α → Except ε β} {b : β} :
    (x >>= f) = .ok b ↔ ∃ a, x = .ok a ∧ f a = .ok b := by
  cases x with
  | error e =>
    constructor
    · intro h
      cases h
    · rintro ⟨a, h, -⟩
      cases h
  | ok a =>
    constructor
    · exact fun h => ⟨a, rfl, h⟩
    · rintro ⟨a, ⟨⟩, h⟩
      exact h

private theorem map_eq_ok {x : Except ε α} {f : α → β} {b : β} :
    x.map f = .ok b ↔ ∃ a, x = .ok a ∧ f a = b := by
  cases x with
  | error e => simp [Except.map]
  | ok a => simp [Except.map]

end Except

namespace Reader
variable {α : Type}

/-- The reader takes a value for `a` exactly if the value is a form of `a`. -/
def Takes (read : Reader α) (Form : α → Value → Prop) : Prop := ∀ v a, read v = .ok a ↔ Form a v

/-- `null` for nothing, or a form of something. -/
inductive NullOr (Form : α → Value → Prop) : Option α → Value → Prop where
  | null : NullOr Form none .null
  | value {a : α} {v : Value} (h : Form a v) : NullOr Form (some a) v

/-- A flag is taken from a boolean and nothing else. -/
theorem takes_bool : Takes bool fun b v => v = .bool b := by
  intro v a
  cases v <;> simp [bool]

/-- A text is taken from a string and nothing else. -/
theorem takes_string : Takes string fun s v => v = .string s := by
  intro v a
  cases v <;> simp [string]

section
variable {read : Reader α} {Form : α → Value → Prop} (h : Takes read Form)
include h

private theorem mapM_eq_ok {items : List Value} {as : List α} :
    items.mapM read = .ok as ↔ List.Forall₂ Form as items := by
  induction items generalizing as with
  | nil =>
    rw [List.mapM_nil, List.forall₂_nil_right_iff]
    exact ⟨fun hnil => (Except.ok.inj hnil).symm, fun hnil => congrArg Except.ok hnil.symm⟩
  | cons v rest ih =>
    simp only [List.mapM_cons, bind_eq_ok, h v, ih, List.forall₂_cons_right_iff]
    constructor
    · rintro ⟨a, ha, as, has, ⟨⟩⟩
      exact ⟨a, as, ha, has, rfl⟩
    · rintro ⟨a, as, ha, has, rfl⟩
      exact ⟨a, ha, as, has, rfl⟩

/-- A list is taken from an array, item by item. -/
theorem Takes.list :
    Takes (list read) fun as v => ∃ items, v = .array items ∧ List.Forall₂ Form as items := by
  intro v as
  cases v with
  | array items => simp [Reader.list, mapM_eq_ok h]
  | _ => simp [Reader.list]

/-- What may be nothing is taken from `null` or from its own forms. -/
theorem Takes.optional (hnull : ∀ a, ¬ Form a .null) : Takes (optional read) (NullOr Form) := by
  intro v o
  constructor
  · intro hread
    by_cases hv : v = .null
    · subst hv
      cases hread
      exact .null
    · have hvalue : Reader.optional read v = (read v).map some := by
        cases v with
        | null => exact absurd rfl hv
        | _ => rfl
      rw [hvalue, map_eq_ok] at hread
      obtain ⟨a, ha, rfl⟩ := hread
      exact .value ((h v a).mp ha)
  · intro hform
    cases hform with
    | null => rfl
    | @value a v ha =>
      have hread := (h v a).mpr ha
      cases v with
      | null => exact absurd ha (hnull a)
      | _ => simp [Reader.optional, hread, Except.map]

end

end Reader

/-! Fields that may be missing. -/

section Field
variable {α : Type} (read : Reader α)

/-- Read what is found for a field, if anything is. -/
def readFound : Option Value → Except Mismatch (Option α)
  | none => .ok none
  | some v => (read v).map some

/-- A field of an object by what is found under its name. -/
theorem field?_eq (members : Members) (name : String) :
    field? members name read = readFound read (members.get? name) := by
  rw [field?]
  cases members.get? name <;> rfl

/-- A field of an array by what is found at its place. -/
theorem item?_eq (items : List Value) (place : Nat) :
    item? items place read = readFound read items[place]? := by
  rw [item?]
  cases items[place]? <;> rfl

variable {read}

/-- A field with a default is known by the forms of its reader and that default. -/
theorem readFound_takes {Form : α → Value → Prop} (h : Reader.Takes read Form) {absent a : α}
    {found : Option Value} :
    (∃ o, readFound read found = .ok o ∧ o.getD absent = a) ↔ Field absent Form a found := by
  cases found with
  | none =>
    constructor
    · rintro ⟨o, ⟨⟩, rfl⟩
      exact .omitted
    · rintro ⟨⟩
      exact ⟨none, rfl, rfl⟩
  | some v =>
    constructor
    · rintro ⟨o, hread, rfl⟩
      obtain ⟨b, hb, rfl⟩ := map_eq_ok.mp hread
      exact .given ((h v b).mp hb)
    · rintro ⟨ha⟩
      exact ⟨some a, map_eq_ok.mpr ⟨a, (h v a).mpr ha, rfl⟩, rfl⟩

end Field

/-- Only items beyond the last field are refused. -/
theorem noMoreThan_eq_ok {arity : Nat} {items : List Value} {u : Unit} :
    noMoreThan arity items = .ok u ↔ items.length ≤ arity := by
  rw [noMoreThan]
  split
  · rename_i hlt
    simpa using hlt
  · rename_i hle
    simpa using hle

end ApiBlueprint.Json
