import ApiBlueprint.Proofs.Resolution

/-! Places computed over bytes in machine words, where every operation that can fail is guarded:
sums of 64 bits, differences, looks at a byte and parts of a string. No guard ever stops such a
computation, and its results are the lines and places of the text. -/
namespace ApiBlueprint.Guarded
open Text Source

/-- The guard that stops a computation. -/
inductive Trap where
  | overflow
  | underflow
  | index
  | slice
  | malformed
  deriving DecidableEq, Repr

/-! Guarded operations. Machine words are natural numbers below `2 ^ 64`. -/

def add (a b : Nat) : Except Trap Nat := if a + b < 2 ^ 64 then .ok (a + b) else .error .overflow

def sub (a b : Nat) : Except Trap Nat := if b ≤ a then .ok (a - b) else .error .underflow

def look {α : Type} (items : List α) (i : Nat) : Except Trap α :=
  match items[i]? with
  | some a => .ok a
  | none => .error .index

/-- A part of a string. Its ends must be in order, within the string and between characters. -/
def part (form : List UInt8) (i j : Nat) : Except Trap (List UInt8) :=
  if i ≤ j ∧ j ≤ form.length ∧ IsBoundary form i ∧ IsBoundary form j then .ok (slice form i j)
  else .error .slice

/-- Go back to the last boundary, one byte at a time. -/
def floor (form : List UInt8) (i : Nat) : Except Trap Nat :=
  if IsBoundary form i then .ok i
  else
    match i with
    | 0 => .error .underflow
    | i + 1 => floor form i

/-- The UTF-16 code units of a string, added up. -/
def units (form : List UInt8) : Except Trap Nat :=
  match Utf8.decode? form with
  | some text => text.toList.foldlM (fun n c => add n (unitWidth c)) 0
  | none => .error .malformed

/-! Lines, by the offsets of the feeds. -/

def feedsFrom (offset : Nat) : List UInt8 → List Nat
  | [] => []
  | b :: rest =>
    if b = feed then offset :: feedsFrom (offset + 1) rest else feedsFrom (offset + 1) rest

/-- Whether a return stands between the start of a line and its feed, directly before the latter. -/
def hasReturn (form : List UInt8) (start index : Nat) : Except Trap Bool :=
  if start < index then do
    let before ← look form (← sub index 1)
    return before == carriage
  else return false

/-- The line from `start` to the feed at `index`. -/
def closedLine (form : List UInt8) (start index : Nat) : Except Trap Cut := do
  if ← hasReturn form start index then
    return ⟨start, ← sub (← sub index 1) start, 2⟩
  else
    return ⟨start, ← sub index start, 1⟩

def linesFrom (form : List UInt8) (start : Nat) : List Nat → Except Trap (List Cut)
  | [] => do return [⟨start, ← sub form.length start, 0⟩]
  | index :: rest => do
    let first ← closedLine form start index
    let later ← linesFrom form (← add index 1) rest
    return first :: later

def lines (form : List UInt8) : Except Trap (List Cut) := linesFrom form 0 (feedsFrom 0 form)

def line (form : List UInt8) (cuts : List Cut) (k : Nat) : Except Trap (Option (List UInt8)) :=
  match cuts[k]? with
  | none => return none
  | some cut => do return some (← part form cut.start (← add cut.start cut.length))

/-! Places. -/

/-- The run of `length` bytes from byte `column` of a line's content. The sum of the two stops
growing at the greatest word. -/
def within (content : List UInt8) (index column length : Nat) : Except Trap Reference := do
  let start ← floor content (min column content.length)
  let stop ← floor content (min (min (column + length) (2 ^ 64 - 1)) content.length)
  let before ← units (← part content 0 start)
  let marked ← units (← part content start (max stop start))
  return ⟨saturate32 index, saturate32 before, saturate32 marked⟩

def onLine (form : List UInt8) (cuts : List Cut) (index column length : Nat) :
    Except Trap Reference := do
  within ((← line form cuts index).getD []) index column length

/-- Walk over the lines up to the one that holds the first byte of a span. `consumed` bytes are
those of the lines already passed. -/
def walk (form : List UInt8) (cuts : List Cut) (span : Span) (index consumed : Nat) :
    List Cut → Except Trap (Option Reference)
  | [] => return none
  | cut :: rest => do
    let width ← add cut.length cut.width
    let next ← add consumed width
    if span.offset.toNat < next then
      let column ← sub span.offset.toNat consumed
      return some (← onLine form cuts index column span.length.toNat)
    else walk form cuts span (index + 1) next rest

/-- The place of a span. An offset that no line holds is just after the last character. -/
def place (form : List UInt8) (cuts : List Cut) (span : Span) : Except Trap Reference := do
  match ← walk form cuts span 0 0 cuts with
  | some ref => return ref
  | none =>
    let last ← sub cuts.length 1
    let column ← sub span.offset.toNat (← look cuts last).start
    onLine form cuts last column span.length.toNat

def resolve (form : List UInt8) (cuts : List Cut) (map : SourceMap) :
    Except Trap (Except Unplaced Reference) :=
  match map.spans with
  | [] => return .error .noSpan
  | span :: _ =>
    if form.length < span.offset.toNat then return .error (.outside span.offset form.length)
    else do return .ok (← place form cuts span)

def resolveOrStart (form : List UInt8) (cuts : List Cut) : Option SourceMap → Except Trap Reference
  | none => return .origin
  | some map => do
    match ← resolve form cuts map with
    | .ok ref => return ref
    | .error _ => return .origin

/-- The range of a reference. The end column stops growing at the greatest number of 32 bits. -/
def range (ref : Reference) : Except Trap Range :=
  let stop := if ref.startColumn.toNat + ref.charCount.toNat < 2 ^ 32 then
    ref.startColumn + ref.charCount else 0xFFFFFFFF
  return ⟨⟨ref.line, ref.startColumn⟩, ⟨ref.line, stop⟩⟩

/-! Guards that hold. -/

section Operation
variable {a b i : Nat}

private theorem add_of_lt (h : a + b < 2 ^ 64) : add a b = .ok (a + b) := if_pos h

private theorem sub_of_le (h : b ≤ a) : sub a b = .ok (a - b) := if_pos h

private theorem look_of_getElem? {α : Type} {items : List α} {x : α} (h : items[i]? = some x) :
    look items i = .ok x := by
  rw [look, h]

@[simp] private theorem ok_bind {α β : Type} (x : α) (f : α → Except Trap β) :
    (Except.ok x >>= f) = f x := rfl

@[simp] private theorem pure_eq_ok {α : Type} (x : α) : (pure x : Except Trap α) = .ok x := rfl

/-- A part between two runs of characters. -/
theorem part_bytes (before middle after : List Char) :
    part (bytes (before ++ middle ++ after)) (byteCount before)
      (byteCount before + byteCount middle) = .ok (bytes middle) := by
  have hend : byteCount before + byteCount middle = byteCount (before ++ middle) :=
    (byteCount_append before middle).symm
  have hfirst : before <+: before ++ middle ++ after := by
    rw [List.append_assoc]
    exact List.prefix_append ..
  rw [part, if_pos, slice_bytes]
  refine ⟨Nat.le_add_right .., ?_, isBoundary_bytes_iff.mpr ⟨before, hfirst, rfl⟩,
    isBoundary_bytes_iff.mpr ⟨before ++ middle, List.prefix_append .., hend.symm⟩⟩
  rw [length_bytes, hend]
  exact byteCount_le_of_prefix (List.prefix_append ..)

end Operation

/-- The start of a string is a boundary, so no step back is made from there. -/
theorem floor_eq {form : List UInt8} (h : IsBoundary form 0) (i : Nat) :
    floor form i = .ok (floorBoundary form i) := by
  induction i with
  | zero => rw [floor, if_pos h, floorBoundary, Nat.findGreatest_zero]
  | succ i ih =>
    rw [floor, floorBoundary, Nat.findGreatest_succ]
    split
    · rfl
    · exact ih

private theorem floor_bytes (text : List Char) (i : Nat) :
    floor (bytes text) i = .ok (byteCount (takeBytes i text)) := by
  have hzero : IsBoundary (bytes text) 0 := isBoundary_bytes_iff.mpr ⟨[], List.nil_prefix, rfl⟩
  rw [floor_eq hzero, floorBoundary_bytes]

/-- No character has more than four bytes. -/
theorem le_byteCount_takeBytes {text : List Char} {i : Nat} (h : i ≤ byteCount text) :
    i ≤ byteCount (takeBytes i text) + 3 := by
  induction text generalizing i with
  | nil =>
    rw [byteCount_nil] at h
    omega
  | cons c rest ih =>
    rw [byteCount_cons] at h
    rw [takeBytes]
    split
    · have hrest := ih (show i - c.utf8Size ≤ byteCount rest by omega)
      rw [byteCount_cons]
      omega
    · have hfour := c.utf8Size_le_four
      omega

private theorem foldlM_units {text : List Char} {n : Nat} (h : n + unitCount text < 2 ^ 64) :
    text.foldlM (fun n c => add n (unitWidth c)) n = .ok (n + unitCount text) := by
  induction text generalizing n with
  | nil => rfl
  | cons c rest ih =>
    rw [unitCount_cons] at h
    rw [List.foldlM_cons, add_of_lt (by omega), ok_bind, ih (by omega), unitCount_cons,
      Nat.add_assoc]

private theorem units_bytes {text : List Char} (h : byteCount text < 2 ^ 64) :
    units (bytes text) = .ok (unitCount text) := by
  have hunits := unitCount_le_byteCount text
  have hdecode : Utf8.decode? (bytes text) = some (String.ofList text) :=
    Utf8.decode?_eq_some_iff.mpr (encode_ofList text)
  rw [units, hdecode]
  simp only [String.toList_ofList]
  rw [foldlM_units (by omega), Nat.zero_add]

/-! Lines. -/

private theorem feedsFrom_append (offset : Nat) (a b : List UInt8) :
    feedsFrom offset (a ++ b) = feedsFrom offset a ++ feedsFrom (offset + a.length) b := by
  induction a generalizing offset with
  | nil => rfl
  | cons c rest ih =>
    have hoffset : offset + (rest.length + 1) = offset + 1 + rest.length := by omega
    rw [List.cons_append, feedsFrom, feedsFrom, ih, List.length_cons, hoffset]
    split <;> rfl

private theorem feedsFrom_of_not_mem (offset : Nat) {form : List UInt8} (h : feed ∉ form) :
    feedsFrom offset form = [] := by
  induction form generalizing offset with
  | nil => rfl
  | cons c rest ih =>
    rw [List.mem_cons, not_or] at h
    rw [feedsFrom, if_neg (Ne.symm h.1), ih _ h.2]

/-- The first feed after the start of a closed line is the last byte of its ending. -/
theorem feedsFrom_closed (start : Nat) {content ending : List UInt8} (after : List UInt8)
    (h : feed ∉ content) (hc : Closes content ending) :
    feedsFrom start (content ++ ending ++ after) =
      (start + content.length + (ending.length - 1)) ::
        feedsFrom (start + content.length + ending.length) after := by
  rw [feedsFrom_append, feedsFrom_append, feedsFrom_of_not_mem start h, List.length_append,
    Nat.add_assoc start content.length ending.length]
  cases hc <;> rfl

section Line
variable {form content ending after : List UInt8} {start : Nat}

/-- The byte before the feed tells which of the two endings a line has. -/
theorem hasReturn_of_closes (hd : form.drop start = content ++ ending ++ after)
    (hc : Closes content ending) :
    hasReturn form start (start + content.length + (ending.length - 1)) =
      .ok (ending.length == 2) := by
  have hget (i : Nat) : form[start + i]? = (content ++ ending ++ after)[i]? := by
    rw [← hd, List.getElem?_drop]
  cases hc with
  | lf hr =>
    by_cases hempty : content = []
    · simp [hasReturn, hempty]
    · obtain ⟨b, hb⟩ := Option.isSome_iff_exists.mp (List.getLast?_isSome.mpr hempty)
      have hpos : 0 < content.length := List.length_pos_iff.mpr hempty
      have hlook : look form (start + content.length - 1) = .ok b := by
        apply look_of_getElem?
        rw [Nat.add_sub_assoc hpos, hget, List.append_assoc,
          List.getElem?_append_left (by omega), ← List.getLast?_eq_getElem?, hb]
      have hne : b ≠ carriage := fun heq => hr (heq ▸ hb)
      simp only [hasReturn, List.length_singleton, Nat.sub_self, Nat.add_zero]
      rw [if_pos (by omega), sub_of_le (by omega), ok_bind, hlook, ok_bind]
      simp [hne]
  | crlf =>
    have hlook : look form (start + content.length) = .ok carriage := by
      apply look_of_getElem?
      rw [hget]
      simp
    simp only [hasReturn, List.length_cons, List.length_nil]
    rw [if_pos (by omega), sub_of_le (by omega), ok_bind]
    simp [hlook]

private theorem closedLine_of_closes (hd : form.drop start = content ++ ending ++ after)
    (hc : Closes content ending) :
    closedLine form start (start + content.length + (ending.length - 1)) =
      .ok ⟨start, content.length, ending.length⟩ := by
  rw [closedLine, hasReturn_of_closes hd hc, ok_bind]
  cases hc with
  | lf =>
    simp only [List.length_singleton, Nat.sub_self, Nat.add_zero]
    rw [if_neg (by decide), sub_of_le (by omega), Nat.add_sub_cancel_left]
    rfl
  | crlf =>
    simp only [List.length_cons, List.length_nil]
    rw [sub_of_le (by omega), ok_bind, sub_of_le (by omega)]
    simp

/-- Records that tile the bytes are found from the feeds. No end of a line is beyond the bytes, so
it can be counted if they can. -/
theorem linesFrom_of_tiled {cuts : List Cut} (h : Tiled form start cuts)
    (hsize : form.length < 2 ^ 64) :
    linesFrom form start (feedsFrom start (form.drop start)) = .ok cuts := by
  induction h with
  | last hle hno =>
    rw [feedsFrom_of_not_mem _ hno, linesFrom, sub_of_le hle]
    rfl
  | @more start content ending after rest hd hf hc hrest ih =>
    have hlength := congrArg List.length hd
    rw [List.length_drop, List.length_append, List.length_append] at hlength
    have hpos : 0 < ending.length := by cases hc <;> decide
    have hnext : start + content.length + (ending.length - 1) + 1 =
        start + content.length + ending.length := by omega
    rw [Tiled.drop_stop hd] at ih
    rw [hd, feedsFrom_closed start after hf hc, linesFrom, closedLine_of_closes hd hc, ok_bind,
      add_of_lt (by omega), ok_bind, hnext, ih]
    rfl

end Line

/-! Places. -/

/-- Both ends fall back to boundaries, the second one not before the first, so the parts between
them can be taken and measured. -/
theorem within_bytes {content : List Char} (h : byteCount content < 2 ^ 64)
    (index column length : Nat) :
    within (bytes content) index column length = .ok (.onLine index column length content) := by
  obtain ⟨marked, hmarked⟩ := takeBytes_mono (Nat.le_add_right column length) content
  obtain ⟨rest, hrest⟩ := takeBytes_prefix (column + length) content
  have hcontent : content = takeBytes column content ++ marked ++ rest := by rw [hmarked, hrest]
  have hle : byteCount (takeBytes column content) + byteCount marked ≤ byteCount content := by
    rw [← byteCount_append, hmarked]
    exact byteCount_le_of_prefix ( takeBytes_prefix ..)
  have hcut : min (min (column + length) (2 ^ 64 - 1)) (byteCount content) =
      min (column + length) (byteCount content) := by omega
  have hstop : max (byteCount (takeBytes (column + length) content))
      (byteCount (takeBytes column content)) =
      byteCount (takeBytes column content) + byteCount marked := by
    rw [← hmarked, byteCount_append]
    omega
  have hbefore : part (bytes content) 0 (byteCount (takeBytes column content)) =
      .ok (bytes (takeBytes column content)) := by
    have hpart := part_bytes [] (takeBytes column content) (marked ++ rest)
    rwa [List.nil_append, ← List.append_assoc, ← hcontent, byteCount_nil, Nat.zero_add] at hpart
  have hmiddle : part (bytes content) (byteCount (takeBytes column content))
      (byteCount (takeBytes column content) + byteCount marked) = .ok (bytes marked) := by
    have hpart := part_bytes (takeBytes column content) marked rest
    rwa [← hcontent] at hpart
  have hunits : unitCount (takeBytes (column + length) content) -
      unitCount (takeBytes column content) = unitCount marked := by
    rw [← hmarked, unitCount_append, Nat.add_sub_cancel_left]
  rw [within, length_bytes, hcut, floor_bytes, floor_bytes, takeBytes_min, takeBytes_min, ok_bind,
    ok_bind, hbefore, ok_bind, units_bytes (by omega), ok_bind, hstop, hmiddle, ok_bind,
    units_bytes (by omega), ok_bind, Reference.onLine, hunits]
  rfl

section Place
variable {lines : Lines} (hsize : lines.size < 2 ^ 64)
include hsize

private theorem line_eq (k : Nat) : line (bytes lines.text) (lines.all.map Line.cut) k =
    .ok (lines.all[k]?.map fun l => bytes l.content) := by
  rw [line, List.getElem?_map]
  cases hk : lines.all[k]? with
  | none => rfl
  | some l =>
    obtain ⟨before, after, htext, hstart⟩ := Lines.exists_text_split hk
    have hstop := Lines.stop_le_size hk
    rw [Line.stop, hstart] at hstop
    simp only [Option.map_some, Line.cut, hstart]
    rw [add_of_lt (by omega), ok_bind, htext, part_bytes]
    rfl

private theorem onLine_eq {index : Nat} {l : Line} (hl : lines.all[index]? = some l)
    (column length : Nat) :
    onLine (bytes lines.text) (lines.all.map Line.cut) index column length =
      .ok (.onLine index column length l.content) := by
  have hbytes := lines.byteCount_content_le (List.mem_of_getElem? hl)
  rw [onLine, line_eq hsize, ok_bind, hl]
  exact within_bytes (by omega) index column length

/-- The lines passed so far end where the next one starts, so the walk finds the first line that
stops after the offset, with the column on it. -/
theorem walk_eq {span : Span} {cuts : List (List Char × Ending)} {index consumed : Nat}
    (htail : lines.all.drop index = placeLines consumed cuts)
    (hlo : consumed ≤ span.offset.toNat) :
    walk (bytes lines.text) (lines.all.map Line.cut) span index consumed
        ((placeLines consumed cuts).map Line.cut) =
      .ok (((placeLines consumed cuts).find? fun l => span.offset.toNat < l.stop).map fun l =>
        .onLine (index + (placeLines consumed cuts).findIdx fun l => span.offset.toNat < l.stop)
          (span.offset.toNat - l.start) span.length.toNat l.content) := by
  induction cuts generalizing index consumed with
  | nil => rfl
  | cons cut rest ih =>
    obtain ⟨content, ending⟩ := cut
    have hl : lines.all[index]? = some ⟨consumed, content, ending⟩ := by
      rw [← List.head?_drop, htail]
      rfl
    have hstop : consumed + byteCount content + ending.width ≤ lines.size :=
      Lines.stop_le_size hl
    have hlater : lines.all.drop (index + 1) =
        placeLines (consumed + byteCount content + ending.width) rest := by
      rw [← List.drop_drop, htail]
      rfl
    simp only [placeLines, List.map_cons, walk, Line.cut]
    rw [add_of_lt (by omega), ok_bind, add_of_lt (by omega), ok_bind, ← Nat.add_assoc]
    by_cases hin : span.offset.toNat < consumed + byteCount content + ending.width
    · have hfirst :
          decide (span.offset.toNat < (⟨consumed, content, ending⟩ : Line).stop) = true :=
        decide_eq_true hin
      rw [if_pos hin, sub_of_le hlo, ok_bind, onLine_eq hsize hl, List.find?_cons,
        List.findIdx_cons, hfirst]
      rfl
    · have hfirst :
          decide (span.offset.toNat < (⟨consumed, content, ending⟩ : Line).stop) = false :=
        decide_eq_false hin
      rw [if_neg hin, ih hlater (Nat.not_lt.mp hin), List.find?_cons, List.findIdx_cons, hfirst]
      simp only [cond_false, ← Nat.add_assoc, Nat.add_right_comm index 1]

private theorem place_eq (span : Span) : place (bytes lines.text) (lines.all.map Line.cut) span =
    .ok (placeSpan lines span) := by
  have hpos : 0 < lines.all.length := lines.count_pos
  have hwalk := walk_eq hsize (show lines.all.drop 0 = placeLines 0 (cutLines lines.text) from
    lines.all_eq) (Nat.zero_le span.offset.toNat)
  rw [← lines.all_eq] at hwalk
  rw [place, hwalk, ok_bind, placeSpan, Lines.indexAt, Lines.count]
  cases hfind : lines.all.find? fun l => span.offset.toNat < l.stop with
  | some l =>
    have hget := List.find?_eq_getElem?_findIdx.symm.trans hfind
    have hlt := (List.getElem?_eq_some_iff.mp hget).1
    simp only [Option.map_some, Nat.zero_add]
    rw [Nat.min_eq_left (by omega), hget]
    rfl
  | none =>
    -- Every line stops before the offset, and so does the last one start.
    have hnone := List.find?_eq_none.mp hfind
    have hlength : lines.all.findIdx (fun l => span.offset.toNat < l.stop) = lines.all.length :=
      List.findIdx_eq_length.mpr fun l hl => by simpa using hnone l hl
    obtain ⟨l, hl⟩ : ∃ l, lines.all[lines.all.length - 1]? = some l :=
      ⟨_, List.getElem?_eq_getElem (by omega)⟩
    have hstart : l.start ≤ span.offset.toNat := by
      have hstop : ¬ span.offset.toNat < l.stop := by
        simpa using hnone l (List.mem_of_getElem? hl)
      rw [Line.stop] at hstop
      omega
    have hlook : look (lines.all.map Line.cut) (lines.all.length - 1) = .ok l.cut :=
      look_of_getElem? (by rw [List.getElem?_map, hl]; rfl)
    rw [hlength, Nat.min_eq_right (Nat.sub_le ..), hl]
    simp only [Option.map_none, List.length_map]
    rw [sub_of_le hpos, ok_bind, hlook, ok_bind, Line.cut, sub_of_le hstart, ok_bind,
      onLine_eq hsize hl]

private theorem resolve_eq (map : SourceMap) :
    resolve (bytes lines.text) (lines.all.map Line.cut) map = .ok (Source.resolve lines map) := by
  obtain ⟨spans⟩ := map
  cases spans with
  | nil => rfl
  | cons span rest =>
    rw [Source.resolve_cons, Lines.size]
    simp only [resolve, place_eq hsize, length_bytes]
    by_cases hout : byteCount lines.text < span.offset.toNat
    · rw [if_pos hout, if_pos hout]
      rfl
    · rw [if_neg hout, if_neg hout]
      rfl

private theorem resolveOrStart_eq (map : Option SourceMap) :
    resolveOrStart (bytes lines.text) (lines.all.map Line.cut) map =
      .ok (Source.resolveOrStart lines map) := by
  cases map with
  | none => rfl
  | some map =>
    rw [resolveOrStart, resolve_eq hsize, ok_bind, Source.resolveOrStart, Option.map_some]
    cases Source.resolve lines map <;> rfl

end Place

private theorem range_eq (ref : Reference) : range ref = .ok ref.range := by
  have hstop : (if ref.startColumn.toNat + ref.charCount.toNat < 2 ^ 32 then
      ref.startColumn + ref.charCount else 0xFFFFFFFF) =
      saturate32 (ref.startColumn.toNat + ref.charCount.toNat) := by
    rw [← UInt32.toNat_inj, toNat_saturate32]
    split
    · rename_i hlt
      rw [UInt32.toNat_add, Nat.mod_eq_of_lt hlt]
      omega
    · rename_i hge
      have hmax : (0xFFFFFFFF : UInt32).toNat = 0xFFFFFFFF := rfl
      rw [hmax]
      omega
  rw [range, hstop]
  rfl

private theorem exists_floor {text : String} {i : Nat} (h : i ≤ (Utf8.encode text).length) :
    ∃ r, floor (Utf8.encode text) i = .ok r ∧ IsBoundary (Utf8.encode text) r ∧ r ≤ i ∧
      i ≤ r + 3 := by
  rw [encode_eq_bytes] at h ⊢
  rw [length_bytes] at h
  exact ⟨_, floor_bytes _ i, isBoundary_bytes_iff.mpr ⟨_, takeBytes_prefix i _, rfl⟩,
    byteCount_takeBytes_le i _, le_byteCount_takeBytes h⟩

/-- No guard stops the computation of lines and places of a text whose bytes can be counted,
whatever the source map, and its results are the lines and places of the text. A step back to a
boundary is made at most three times. -/
theorem no_guard_stops_a_place (text : String) (h : (Utf8.encode text).length < 2 ^ 64) :
    ∃ cuts, lines (Utf8.encode text) = .ok cuts ∧
      cuts = (Lines.ofText text).all.map Line.cut ∧
      (∀ k, line (Utf8.encode text) cuts k =
        .ok (((Lines.ofText text).line? k).map Utf8.encode)) ∧
      (∀ map, resolve (Utf8.encode text) cuts map =
        .ok (Source.resolve (Lines.ofText text) map)) ∧
      (∀ map, resolveOrStart (Utf8.encode text) cuts map =
        .ok (Source.resolveOrStart (Lines.ofText text) map)) ∧
      (∀ ref, range ref = .ok ref.range) ∧
      ∀ (content : String) (i : Nat), i ≤ (Utf8.encode content).length →
        ∃ r, floor (Utf8.encode content) i = .ok r ∧ IsBoundary (Utf8.encode content) r ∧
          r ≤ i ∧ i ≤ r + 3 := by
  have hsize : (Lines.ofText text).size < 2 ^ 64 := by rwa [size_ofText]
  have hform : Utf8.encode text = bytes (Lines.ofText text).text := encode_eq_bytes text
  rw [hform] at h ⊢
  refine ⟨_, linesFrom_of_tiled (Lines.ofText text).tiled h, rfl, fun k => ?_, resolve_eq hsize,
    resolveOrStart_eq hsize, range_eq, fun content i => exists_floor⟩
  rw [line_eq hsize, Lines.line?, Option.map_map]
  congr 2
  funext l
  exact (encode_ofList l.content).symm

/-- From within a character of the second line to as far as words go, and beyond the text. -/
theorem run_within_pair_is_guarded :
    (Utf8.encode "é\r\n𝄞b\r").length < 2 ^ 64 ∧
      ∃ cuts, lines (Utf8.encode "é\r\n𝄞b\r") = .ok cuts ∧ cuts = [⟨0, 2, 2⟩, ⟨4, 6, 0⟩] ∧
        resolve (Utf8.encode "é\r\n𝄞b\r") cuts ⟨[⟨6, 0xFFFFFFFFFFFFFFFF⟩]⟩ = .ok (.ok ⟨1, 0, 4⟩) ∧
        resolveOrStart (Utf8.encode "é\r\n𝄞b\r") cuts (some ⟨[⟨0xFFFFFFFFFFFFFFFF, 1⟩]⟩) =
          .ok ⟨0, 0, 0⟩ := by
  have hsize : (Utf8.encode "é\r\n𝄞b\r").length < 2 ^ 64 := by
    rw [← size_ofText]
    decide
  obtain ⟨cuts, hlines, hcuts, -, hresolve, hstart, -, -⟩ :=
    no_guard_stops_a_place "é\r\n𝄞b\r" hsize
  refine ⟨hsize, cuts, hlines, hcuts.trans (by decide), (hresolve _).trans ?_,
    (hstart _).trans ?_⟩
  · decide
  · decide

/-- A byte that continues a character has no boundary before it, and no part ends within one. -/
example : floor [0x80] 0 = .error .underflow ∧ part [0xC3, 0xA9] 0 1 = .error .slice := by decide

end ApiBlueprint.Guarded
