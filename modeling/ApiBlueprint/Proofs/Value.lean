import ApiBlueprint.Server.Wire

/-! JSON objects seen through `get?`. However an object is put together, its members are found by
their keys alone. -/
namespace ApiBlueprint.Json

namespace Members

private theorem get?_insert (key k : String) (v : Value) (members : Members) :
    (members.insert k v).get? key = if k = key then some v else members.get? key := by
  induction members with
  | nil => rfl
  | cons member rest ih =>
    obtain ⟨k', v'⟩ := member
    rw [insert]
    split
    · rename_i hk
      subst hk
      simp only [get?]
      split <;> rfl
    · split
      · rfl
      · rename_i hne _
        simp only [get?, ih]
        split
        · rename_i hk'
          rw [if_neg fun hk => hne (hk.trans hk'.symm)]
        · rfl

end Members

namespace Value

private theorem lookup_eq_none {β : Type} {key : String} {members : List (String × β)}
    (h : key ∉ members.map Prod.fst) : members.lookup key = none := by
  rw [List.lookup_eq_none_iff]
  intro m hm
  have hne : key ≠ m.1 := fun hk => h (List.mem_map.mpr ⟨m, hm, hk.symm⟩)
  simpa using hne

private theorem get?_foldl_insert (key : String) (members : List (String × Value))
    (h : (members.map Prod.fst).Nodup) (base : Members) :
    (members.foldl (fun ms m => Members.insert m.1 m.2 ms) base).get? key =
      (members.lookup key).or (base.get? key) := by
  induction members generalizing base with
  | nil => rfl
  | cons member rest ih =>
    obtain ⟨k, v⟩ := member
    rw [List.map_cons, List.nodup_cons] at h
    rw [List.foldl_cons, ih h.2, Members.get?_insert, List.lookup_cons]
    by_cases hk : k = key
    · subst hk
      simp [lookup_eq_none h.1]
    · have hkey : (key == k) = false := by simpa using Ne.symm hk
      rw [if_neg hk, hkey]

/-- A record has its members under their keys. -/
theorem get?_record (key : String) {members : List (String × Value)}
    (h : (members.map Prod.fst).Nodup) : (record members).get? key = members.lookup key := by
  have hget := get?_foldl_insert key members h []
  rwa [Members.get?, Option.or_none] at hget

private theorem lookup_present (key : String) (members : List (String × Option Value))
    (h : (members.map Prod.fst).Nodup) :
    (members.filterMap fun m => m.2.map fun v => (m.1, v)).lookup key =
      (members.lookup key).join := by
  induction members with
  | nil => rfl
  | cons member rest ih =>
    obtain ⟨k, v⟩ := member
    rw [List.map_cons, List.nodup_cons] at h
    rw [List.filterMap_cons, List.lookup_cons]
    cases v with
    | some v =>
      simp only [Option.map_some, List.lookup_cons, ih h.2]
      split <;> rfl
    | none =>
      rw [Option.map_none, ih h.2]
      split
      · rename_i hk
        rw [eq_of_beq hk, lookup_eq_none h.1]
        rfl
      · rfl

/-- A record that leaves out what is absent has the other members under their keys. -/
theorem get?_sparse (key : String) {members : List (String × Option Value)}
    (h : (members.map Prod.fst).Nodup) : (sparse members).get? key = (members.lookup key).join := by
  have hkeys : ((members.filterMap fun m => m.2.map fun v => (m.1, v)).map Prod.fst).Nodup := by
    refine List.Nodup.sublist ?_ h
    clear h
    induction members with
    | nil => exact .slnil
    | cons member rest ih =>
      obtain ⟨k, v⟩ := member
      cases v with
      | some v => simpa using ih
      | none => simpa using ih.cons k
  rw [sparse, get?_record key hkeys, lookup_present key members h]

/-- A signed number is read back from either of its two forms. -/
theorem int64?_ofInt64 (n : Int64) : (ofInt64 n).int64? = some n := by
  rw [ofInt64]
  split
  · rfl
  · rename_i h
    have hpos : 0 ≤ n.toBitVec.toInt := by
      rw [Int64.lt_iff_toInt_lt] at h
      exact Int.not_lt.mp h
    have hlt : n.toBitVec.toNat < 0x8000000000000000 := by
      rw [BitVec.toInt_eq_toNat_cond] at hpos
      have hbound := n.toBitVec.isLt
      split at hpos <;> omega
    exact if_pos hlt

end Value
end ApiBlueprint.Json

/-! The records that checks and servers write, each in its two forms. -/
namespace ApiBlueprint
open Json

/-- A diagnostic, whichever way its severity and its code are written. -/
theorem Diagnostic.get?_members (severity : Severity → Value) (code : Code → Value)
    (d : Diagnostic) (key : String) : (Value.sparse (d.members severity code)).get? key =
      ((d.members severity code).lookup key).join :=
  Value.get?_sparse key (d.nodup_members severity code)

/-- An entry of an outline in the report of a check. -/
theorem Symbol.get?_toValue (s : Symbol) (key : String) :
    s.toValue.get? key = (s.members.lookup key).join :=
  Value.get?_sparse key s.nodup_members

/-- An entry of an outline in the answer of a server. -/
theorem Symbol.get?_toWire (uri : String) (s : Symbol) (key : String) :
    (s.toWire uri).get? key = ((s.wireMembers uri).lookup key).join :=
  Value.get?_sparse key (s.nodup_wireMembers uri)

end ApiBlueprint
