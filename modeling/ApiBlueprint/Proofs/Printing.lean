import ApiBlueprint.Json.Parse
import ApiBlueprint.Proofs.Literals
import Mathlib.Data.String.Basic

/-! Written values are read back. The reader takes a value wherever one may begin and goes on with
the value put in its place, so values can be read one inside the other. -/
namespace ApiBlueprint.Json

/-! Tokens. -/

/-- With `text` read, `rest` is read from another state. Offsets matter to faults only. -/
def Reads (m : Machine) (text : List Char) (m' : Machine) (rest : List Char) : Prop :=
  ∀ offset, ∃ later, readFrom m offset (text ++ rest) = readFrom m' later rest

namespace Reads
variable {m m₁ m₂ : Machine} {a b rest : List Char}

private theorem append (ha : Reads m a m₁ (b ++ rest)) (hb : Reads m₁ b m₂ rest) :
    Reads m (a ++ b) m₂ rest := by
  intro offset
  obtain ⟨middle, hmiddle⟩ := ha offset
  obtain ⟨later, hlater⟩ := hb middle
  exact ⟨later, by rw [List.append_assoc, hmiddle, hlater]⟩

private theorem blank {a : List Char} (h : ∀ c ∈ a, isSpace c = true) : Reads m a m rest := by
  intro offset
  induction a generalizing offset with
  | nil => exact ⟨offset, rfl⟩
  | cons c a ih =>
    obtain ⟨later, hlater⟩ := ih (fun d hd => h d (List.mem_cons_of_mem c hd)) (offset + 1)
    refine ⟨later, ?_⟩
    rw [List.cons_append, readFrom, if_pos (h c List.mem_cons_self), hlater]

private theorem space {c : Char} (h : isSpace c = true) : Reads m [c] m rest := by
  refine blank fun d hd => ?_
  rw [List.mem_singleton.mp hd, h]

private theorem token {c : Char} {token : Token} (hc : isSpace c = false)
    (hscan : ∀ offset, ∃ bytes, scanToken offset c (a ++ rest) = ⟨token, a.length, bytes⟩)
    (haccept : ∀ offset, m.accept offset token = .ok m₁) : Reads m (c :: a) m₁ rest := by
  intro offset
  obtain ⟨bytes, hbytes⟩ := hscan offset
  refine ⟨offset + c.utf8Size + bytes, ?_⟩
  rw [List.cons_append, readFrom, if_neg (by rw [hc]; decide)]
  simp only [hbytes, haccept offset, List.drop_left]

end Reads

private theorem scanToken_quote (s : String) (offset : Nat) (rest : List Char) :
    ∃ bytes, scanToken offset '"' (s.toList.flatMap escapeChar ++ ['"'] ++ rest) =
      ⟨.string s, (s.toList.flatMap escapeChar ++ ['"']).length, bytes⟩ := by
  obtain ⟨bytes, hbytes⟩ := scanString_escaped s.toList [] 0 0 (offset + 1) rest
  refine ⟨bytes, ?_⟩
  rw [List.append_assoc, List.singleton_append]
  simp only [scanToken, hbytes, List.reverse_nil, List.nil_append, String.ofList_toList,
    Nat.sub_zero, Nat.zero_add, List.length_append, List.length_singleton]

private theorem scanToken_number {c : Char} (hc : c = '-' ∨ c.isDigit = true) {offset : Nat}
    {rest : List Char} {n : Number} {chars bytes : Nat}
    (h : scanNumber offset (c :: rest) = .ok ⟨n, chars, bytes⟩) :
    scanToken offset c rest = ⟨.scalar (.number n), chars - 1, bytes - 1⟩ := by
  rw [scanToken.eq_def]
  split
  case h_11 => simp only [h, hc, if_true]
  all_goals exact absurd hc (by decide)

namespace Reads
variable {m m₁ m₂ : Machine} {rest : List Char}

private theorem quote (s : String) (haccept : ∀ offset, m.accept offset (.string s) = .ok m₁) :
    Reads m (quote s).toList m₁ rest := by
  have htext : (Json.quote s).toList = '"' :: (s.toList.flatMap escapeChar ++ ['"']) := by
    simp [Json.quote]
  rw [htext]
  exact token rfl (fun offset => scanToken_quote s offset rest) haccept

private theorem number {n : Number} {text : List Char}
    (hc : ∃ c tail, text = c :: tail ∧ (c = '-' ∨ c.isDigit = true))
    (hscan : ∀ offset, scanNumber offset (text ++ rest) = .ok ⟨n, text.length, text.length⟩)
    (haccept : ∀ offset, m.accept offset (.scalar (.number n)) = .ok m₁) :
    Reads m text m₁ rest := by
  obtain ⟨c, tail, rfl, hc⟩ := hc
  have hspace : isSpace c = false := by
    refine Bool.eq_false_iff.mpr fun h => ?_
    simp only [isSpace, Bool.or_eq_true, beq_iff_eq] at h
    rcases h with ((rfl | rfl) | rfl) | rfl
    all_goals exact absurd hc (by decide)
  exact token hspace (fun offset => ⟨_, scanToken_number hc (hscan offset)⟩) haccept

end Reads

/-! Values. -/

/-- Values that are read back as they were written, nested at most `n` deep: no floating-point
numbers, and the keys of objects in order. -/
inductive Plain : Nat → Value → Prop where
  | null {n : Nat} : Plain n .null
  | bool {n : Nat} (b : Bool) : Plain n (.bool b)
  | natural {n : Nat} (k : UInt64) : Plain n (.number (.natural k))
  | negative {n : Nat} {k : Int64} (h : k < 0) : Plain n (.number (.negative k))
  | string {n : Nat} (s : String) : Plain n (.string s)
  | array {n : Nat} {items : List Value} (h : ∀ v ∈ items, Plain n v) :
      Plain (n + 1) (.array items)
  | object {n : Nat} {members : Members} (hkeys : (members.map Prod.fst).Pairwise (· < ·))
      (h : ∀ m ∈ members, Plain n m.2) : Plain (n + 1) (.object members)

namespace Members
variable {members : Members} {key : String}

private theorem insert_of_forall_lt (value : Value) (h : ∀ m ∈ members, m.1 < key) :
    members.insert key value = members ++ [(key, value)] := by
  induction members with
  | nil => rfl
  | cons m members ih =>
    have hlt : m.1 < key := h m List.mem_cons_self
    rw [insert, if_neg (ne_of_gt hlt), if_neg (lt_asymm hlt),
      ih fun m hm => h m (List.mem_cons_of_mem _ hm), List.cons_append]

private theorem mem_insert {value : Value} {m : String × Value} (h : m ∈ members.insert key value) :
    m = (key, value) ∨ m ∈ members := by
  induction members with
  | nil => exact .inl (List.mem_singleton.mp h)
  | cons first members ih =>
    rw [insert] at h
    split at h
    · rcases List.mem_cons.mp h with h | h
      · exact .inl h
      · exact .inr (List.mem_cons_of_mem _ h)
    · split at h
      · exact List.mem_cons.mp h
      · rcases List.mem_cons.mp h with h | h
        · exact .inr (h ▸ List.mem_cons_self)
        · exact (ih h).imp_right (List.mem_cons_of_mem _)

private theorem pairwise_insert (h : (members.map Prod.fst).Pairwise (· < ·)) (value : Value) :
    ((members.insert key value).map Prod.fst).Pairwise (· < ·) := by
  induction members with
  | nil => exact List.pairwise_singleton ..
  | cons first members ih =>
    obtain ⟨hfirst, hrest⟩ := List.pairwise_cons.mp h
    rw [insert]
    split
    · rename_i heq
      exact heq ▸ h
    · rename_i hne
      split
      · rename_i hlt
        refine List.pairwise_cons.mpr ⟨?_, h⟩
        intro k hk
        rcases List.mem_cons.mp hk with rfl | hk
        · exact hlt
        · exact hlt.trans (hfirst k hk)
      · rename_i hnlt
        have hlt : first.1 < key := lt_of_le_of_ne (not_lt.mp hnlt) (Ne.symm hne)
        refine List.pairwise_cons.mpr ⟨?_, ih hrest⟩
        intro k hk
        obtain ⟨m, hm, rfl⟩ := List.mem_map.mp hk
        rcases mem_insert hm with rfl | hm
        · exact hlt
        · exact hfirst m.1 (List.mem_map_of_mem hm)

end Members

namespace Plain
variable {n : Nat}

/-- Either form of a signed number is plain. -/
theorem ofInt64 (k : Int64) : Plain n (.ofInt64 k) := by
  rw [Value.ofInt64]
  split
  · rename_i h
    exact .negative h
  · exact .natural _

private theorem foldl_insert {members : List (String × Value)} (h : ∀ m ∈ members, Plain n m.2)
    {base : Members} (hkeys : (base.map Prod.fst).Pairwise (· < ·))
    (hbase : ∀ m ∈ base, Plain n m.2) :
    Plain (n + 1) (.object (members.foldl (fun ms m => Members.insert m.1 m.2 ms) base)) := by
  induction members generalizing base with
  | nil => exact .object hkeys hbase
  | cons member members ih =>
    refine ih (fun m hm => h m (List.mem_cons_of_mem _ hm)) (Members.pairwise_insert hkeys _) ?_
    intro m hm
    rcases Members.mem_insert hm with rfl | hm
    · exact h member List.mem_cons_self
    · exact hbase m hm

/-- A record of plain values is one level deeper. -/
theorem record {members : List (String × Value)} (h : ∀ m ∈ members, Plain n m.2) :
    Plain (n + 1) (.record members) :=
  foldl_insert h .nil (by simp)

/-- So is one that leaves out what is absent. -/
theorem sparse {members : List (String × Option Value)}
    (h : ∀ m ∈ members, ∀ v ∈ m.2, Plain n v) : Plain (n + 1) (.sparse members) := by
  refine record fun m hm => ?_
  obtain ⟨member, hmember, hm⟩ := List.mem_filterMap.mp hm
  obtain ⟨v, hv, rfl⟩ := Option.map_eq_some_iff.mp hm
  exact h member hmember v hv

end Plain

/-! The state of the reader around a value. -/

/-- Where a value may begin. -/
def Machine.WantsValue (m : Machine) : Prop :=
  m.want = .value ∨ m.want = .firstItem ∨ m.want = .laterItem

namespace Machine.WantsValue
variable {m : Machine} (h : m.WantsValue)
include h

private theorem depth_eq : m.depth = m.stack.length := by
  rcases h with h | h | h <;> rw [depth, h] <;> rfl

private theorem accept_eq {token : Token} (ht : token ≠ .closeArray) (offset : Nat) :
    m.accept offset token = m.acceptValue offset token := by
  obtain ⟨stack, want⟩ := m
  rcases h with h | h | h
  all_goals
    obtain rfl : want = _ := h
    cases token with
    | closeArray => exact absurd rfl ht
    | _ => rfl

end Machine.WantsValue

private theorem indentedItems_eq (depth : Nat) (items : List Value) :
    Value.indentedItems depth items = items.map (Value.indented depth) := by
  induction items with
  | nil => rfl
  | cons v items ih => rw [Value.indentedItems, ih, List.map_cons]

private theorem indentedMembers_eq (depth : Nat) (members : Members) :
    Value.indentedMembers depth members =
      members.map fun m => quote m.1 ++ ": " ++ m.2.indented depth := by
  induction members with
  | nil => rfl
  | cons m members ih => rw [Value.indentedMembers, ih, List.map_cons]

private theorem isSpace_blanks (n : Nat) : ∀ c ∈ (Value.blanks n).toList, isSpace c = true := by
  intro c hc
  rw [Value.blanks, String.toList_ofList] at hc
  rw [List.eq_of_mem_replicate hc]
  rfl

/-! Entries between brackets. `before` and `after` give the state with some entries read, with the
next one and with a comma or bracket to come. -/

section Entries
variable {α : Type} {text : α → String} (before after : List α → Machine) {all : List α}
  {rest : List Char}
  (hentry : ∀ done a later, done ++ a :: later = all → ∀ rest, Ends rest →
    Reads (before done) (text a).toList (after (done ++ [a])) rest)
  (hcomma : ∀ done a rest, Reads (after (done ++ [a])) [','] (before (done ++ [a])) rest)
include hentry hcomma

private theorem reads_entries (width : Nat) {done later : List α} {a : α}
    (h : done ++ a :: later = all)
    (hrest : Ends rest) :
    Reads (before done) ([',', '\n'].intercalate ((a :: later).map fun a =>
      (Value.blanks width).toList ++ (text a).toList)) (after all) rest := by
  have hblanks {m : Machine} {rest : List Char} :
      Reads m (Value.blanks width).toList m rest := .blank (isSpace_blanks width)
  induction later generalizing done a with
  | nil =>
    rw [List.map_singleton, List.intercalate_singleton, ← h]
    exact hblanks.append (hentry done a [] h rest hrest)
  | cons b later ih =>
    have hnext : (done ++ [a]) ++ b :: later = all := by
      rw [List.append_assoc]
      exact h
    have hfirst {rest : List Char} (hrest : Ends rest) :
        Reads (before done) ((Value.blanks width).toList ++ (text a).toList)
          (after (done ++ [a])) rest :=
      hblanks.append (hentry done a (b :: later) h rest hrest)
    have hseparator {rest : List Char} :
        Reads (after (done ++ [a])) [',', '\n'] (before (done ++ [a])) rest :=
      .append (a := [',']) (hcomma done a _) (.space rfl)
    rw [List.map_cons, List.map_cons, List.intercalate_cons_cons]
    exact ((hfirst ⟨',', _, rfl, .inl rfl⟩).append hseparator).append (ih hnext)

private theorem reads_block (depth : Nat) {m m' : Machine} {left right : String}
    (hleft : ∀ rest, Reads m left.toList (before []) rest)
    (hright : ∀ rest, Reads (if all = [] then before [] else after all) right.toList m' rest) :
    Reads m (Value.block left right depth (all.map text)).toList m' rest := by
  cases all with
  | nil =>
    rw [List.map_nil, Value.block, if_pos (by decide), String.toList_append]
    exact (hleft _).append (hright rest)
  | cons a later =>
    have hfeed {m : Machine} {rest : List Char} : Reads m "\n".toList m rest := .space rfl
    have hblanks {m : Machine} {rest : List Char} :
        Reads m (Value.blanks (2 * depth)).toList m rest := .blank (isSpace_blanks _)
    have hentries {rest : List Char} (hrest : Ends rest) := reads_entries before after
      hentry hcomma (2 * (depth + 1)) (List.nil_append (a :: later)) hrest
    have htext : (Value.block left right depth ((a :: later).map text)).toList =
        left.toList ++ "\n".toList ++ [',', '\n'].intercalate ((a :: later).map fun a =>
          (Value.blanks (2 * (depth + 1))).toList ++ (text a).toList) ++ "\n".toList ++
          (Value.blanks (2 * depth)).toList ++ right.toList := by
      rw [Value.block, if_neg (by simp)]
      simp only [String.toList_append, String.toList_intercalate, List.map_map,
        Function.comp_def]
      rfl
    rw [if_neg (List.cons_ne_nil a later)] at hright
    rw [htext]
    exact .append (.append (.append (.append (.append (hleft _) hfeed)
      (hentries ⟨'\n', _, rfl, .inr rfl⟩)) hfeed) hblanks) (hright rest)

end Entries

/-- A value is read wherever one may begin, if it nests at most `n` deep and that fits. -/
def Readable (n : Nat) (v : Value) : Prop :=
  ∀ m : Machine, m.WantsValue → m.stack.length + n < Machine.depthLimit →
    ∀ (depth : Nat) {rest : List Char}, Ends rest →
      Reads m (v.indented depth).toList (.deliver m.stack v) rest

namespace Readable
open Machine
variable {n : Nat}

private theorem accept_scalar {m : Machine} (hm : m.WantsValue) (v : Value) (offset : Nat) :
    m.accept offset (.scalar v) = .ok (deliver m.stack v) := by
  rw [hm.accept_eq (by simp)]
  rfl

private theorem word (text : String) {v : Value} {c : Char} {letters : List Char}
    (htext : text.toList = c :: letters) (hv : ∀ depth, v.indented depth = text)
    (hc : isSpace c = false)
    (hscan : ∀ offset rest, ∃ bytes,
      scanToken offset c (letters ++ rest) = ⟨.scalar v, letters.length, bytes⟩) :
    Readable n v := by
  intro m hm _ depth rest _
  rw [hv, htext]
  exact .token hc (fun offset => hscan offset rest) (accept_scalar hm v)

private theorem null : Readable n .null := by
  have htext : "null".toList = 'n' :: ['u', 'l', 'l'] := by decide
  exact word "null" htext (fun _ => rfl) rfl fun _ _ => ⟨_, rfl⟩

private theorem bool (b : Bool) : Readable n (.bool b) := by
  cases b with
  | true =>
    have htext : "true".toList = 't' :: ['r', 'u', 'e'] := by decide
    exact word "true" htext (fun _ => rfl) rfl fun _ _ => ⟨_, rfl⟩
  | false =>
    have htext : "false".toList = 'f' :: ['a', 'l', 's', 'e'] := by decide
    exact word "false" htext (fun _ => rfl) rfl fun _ _ => ⟨_, rfl⟩

private theorem natural (k : UInt64) : Readable n (.number (.natural k)) := by
  intro m hm _ depth rest hrest
  have htext : (Value.indented depth (.number (.natural k))).toList = Nat.toDigits 10 k.toNat :=
    Nat.toList_repr
  obtain ⟨c, tail, htail, hc, -⟩ := exists_cons_toDigits k.toNat
  rw [htext]
  exact .number ⟨c, tail, htail, .inr hc⟩ (scanNumber_natural k hrest) (accept_scalar hm _)

private theorem negative {k : Int64} (h : k < 0) : Readable n (.number (.negative k)) := by
  intro m hm _ depth rest hrest
  obtain ⟨i, hi⟩ : ∃ i, k.toInt = Int.negSucc i := by
    have hneg : k.toInt < 0 := by simpa using Int64.lt_iff_toInt_lt.mp h
    exact Int.eq_negSucc_of_lt_zero hneg
  have htext : (Value.indented depth (.number (.negative k))).toList =
      '-' :: Nat.toDigits 10 (i + 1) := by
    show (toString k.toInt).toList = _
    rw [hi]
    show ("-" ++ Nat.repr (i + 1)).toList = _
    rw [String.toList_append, Nat.toList_repr]
    rfl
  have hle : i + 1 ≤ 0x8000000000000000 := by
    have hmin := Int64.le_toInt k
    omega
  have hk : Int64.ofInt (-Int.ofNat (i + 1)) = k := by
    have hneg : -Int.ofNat (i + 1) = k.toInt := hi.symm
    rw [hneg, Int64.ofInt_toInt]
  have hscan := scanNumber_negative (Nat.succ_pos i) hle hrest
  rw [hk] at hscan
  rw [htext]
  exact .number ⟨'-', _, rfl, .inl rfl⟩ hscan (accept_scalar hm _)

private theorem string (s : String) : Readable n (.string s) := by
  intro m hm _ depth rest _
  exact .quote s fun offset => hm.accept_eq (by simp) offset

private theorem array {items : List Value} (h : ∀ v ∈ items, Readable n v) :
    Readable (n + 1) (.array items) := by
  intro m hm hdepth depth rest hrest
  rw [Value.indented, indentedItems_eq]
  refine reads_block
    (fun done => ⟨.array done.reverse :: m.stack, if done = [] then .firstItem else .laterItem⟩)
    (fun done => ⟨.array done.reverse :: m.stack, .itemEnd⟩) ?_ ?_ depth ?_ ?_
  · intro done v later hall rest hrest
    have hwants : WantsValue ⟨.array done.reverse :: m.stack,
        if done = [] then .firstItem else .laterItem⟩ := by
      rw [WantsValue]
      split <;> simp
    have hfits : (Frame.array done.reverse :: m.stack).length + n < depthLimit := by
      rw [List.length_cons]
      omega
    rw [List.reverse_append]
    exact h v (by simp [← hall]) _ hwants hfits (depth + 1) hrest
  · intro done v rest
    refine .token rfl (fun offset => ⟨0, rfl⟩) fun offset => ?_
    rw [if_neg (by simp)]
    rfl
  · intro rest
    refine .token rfl (fun offset => ⟨0, rfl⟩) fun offset => ?_
    rw [hm.accept_eq (by simp), acceptValue, hm.depth_eq, if_pos (by omega)]
    rfl
  · intro rest
    refine .token rfl (fun offset => ⟨0, rfl⟩) fun offset => ?_
    split
    · rename_i hnil
      rw [hnil]
      rfl
    · simp [accept, closeArray]

/-- A key that is greater than all before it goes to the end. -/
private theorem reads_member {v : Value} (hv : Readable n v) {stack : List Frame} {done : Members}
    {key : String} {want : Want} (hwant : want = .firstKey done ∨ want = .laterKey done)
    (hlt : ∀ m ∈ done, m.1 < key) (hdepth : stack.length + (n + 1) < depthLimit) (depth : Nat)
    {rest : List Char} (hrest : Ends rest) :
    Reads ⟨stack, want⟩ (quote key ++ ": " ++ v.indented depth).toList
      ⟨stack, .memberEnd (done ++ [(key, v)])⟩ rest := by
  have hkey {rest : List Char} :
      Reads ⟨stack, want⟩ (quote key).toList ⟨.object done key :: stack, .colon⟩ rest := by
    refine .quote key fun offset => ?_
    rcases hwant with rfl | rfl
    · rfl
    · rfl
  have hcolon {rest : List Char} : Reads ⟨.object done key :: stack, .colon⟩ ": ".toList
      ⟨.object done key :: stack, .value⟩ rest := by
    refine .append (a := [':']) (.token rfl (fun offset => ⟨0, rfl⟩) fun offset => ?_) (.space rfl)
    rfl
  have hfits : (Frame.object done key :: stack).length + n < depthLimit := by
    rw [List.length_cons]
    omega
  have hvalue : Reads ⟨.object done key :: stack, .value⟩ (v.indented depth).toList
      ⟨stack, .memberEnd (done ++ [(key, v)])⟩ rest := by
    rw [← Members.insert_of_forall_lt v hlt]
    exact hv _ (.inl rfl) hfits depth hrest
  rw [String.toList_append, String.toList_append]
  exact .append (.append hkey hcolon) hvalue

private theorem object {members : Members} (hkeys : (members.map Prod.fst).Pairwise (· < ·))
    (h : ∀ m ∈ members, Readable n m.2) : Readable (n + 1) (.object members) := by
  intro m hm hdepth depth rest hrest
  rw [Value.indented, indentedMembers_eq]
  refine reads_block
    (fun done => ⟨m.stack, if done = [] then .firstKey done else .laterKey done⟩)
    (fun done => ⟨m.stack, .memberEnd done⟩) ?_ ?_ depth ?_ ?_
  · intro done member later hall rest hrest
    have hlt : ∀ m ∈ done, m.1 < member.1 := by
      rw [← hall, List.map_append, List.pairwise_append] at hkeys
      intro m hm
      exact hkeys.2.2 m.1 (List.mem_map_of_mem hm) member.1 (by simp)
    have hwant : (if done = [] then Want.firstKey done else .laterKey done) = .firstKey done ∨
        (if done = [] then Want.firstKey done else .laterKey done) = .laterKey done := by
      split <;> simp
    exact reads_member (h member (by simp [← hall])) hwant hlt hdepth (depth + 1) hrest
  · intro done member rest
    refine .token rfl (fun offset => ⟨0, rfl⟩) fun offset => ?_
    rw [if_neg (by simp)]
    rfl
  · intro rest
    refine .token rfl (fun offset => ⟨0, rfl⟩) fun offset => ?_
    rw [hm.accept_eq (by simp), acceptValue, hm.depth_eq, if_pos (by omega)]
    rfl
  · intro rest
    refine .token rfl (fun offset => ⟨0, rfl⟩) fun offset => ?_
    split
    · rename_i hnil
      rw [hnil]
      rfl
    · rfl

end Readable

private theorem Plain.readable {n : Nat} {v : Value} (h : Plain n v) : Readable n v := by
  induction h with
  | null => exact .null
  | bool b => exact .bool b
  | natural k => exact .natural k
  | negative h => exact .negative h
  | string s => exact .string s
  | array _ ih => exact .array ih
  | object hkeys _ ih => exact .object hkeys ih

/-- What is written on lines of its own is read back. -/
theorem parse_pretty {n : Nat} {v : Value} (h : Plain n v) (hn : n < Machine.depthLimit) :
    parse (v.pretty ++ "\n") = .ok v := by
  have hwants : (Machine.mk [] .value).WantsValue := .inl rfl
  have hends : Ends ['\n'] := ⟨'\n', [], rfl, .inr rfl⟩
  obtain ⟨later, hlater⟩ := h.readable _ hwants (by simpa using hn) 0 hends 0
  have hread : readFrom {} 0 (v.pretty ++ "\n").toList = .ok v := by
    rw [String.toList_append, Value.pretty]
    refine hlater.trans ?_
    rw [readFrom, if_pos (by decide), readFrom]
    rfl
  rw [parse, hread]
  rfl

end ApiBlueprint.Json
