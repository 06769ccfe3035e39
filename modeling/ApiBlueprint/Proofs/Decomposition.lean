import ApiBlueprint.Proofs.Bytes
import ApiBlueprint.Proofs.Lines
import Mathlib.Data.List.Chain

/-! The lines of a text among its bytes. Their records tile the text, nothing of it is lost, and no
other records with the same properties do. -/
namespace ApiBlueprint.Text

/-- Contents and endings as a text falls into them. Only the last line is open, no content holds a
feed, and a return in front of a feed belongs to the ending. -/
inductive WellCut : List (List Char × Ending) → Prop where
  | last {content : List Char} (h : '\n' ∉ content) : WellCut [(content, .unclosed)]
  | lf {content : List Char} {rest : List (List Char × Ending)} (h : '\n' ∉ content)
      (hr : content.getLast? ≠ some '\r') (hrest : WellCut rest) : WellCut ((content, .lf) :: rest)
  | crlf {content : List Char} {rest : List (List Char × Ending)} (h : '\n' ∉ content)
      (hrest : WellCut rest) : WellCut ((content, .crlf) :: rest)

private theorem WellCut.prepend (c : Char) {cuts : List (List Char × Ending)} (h : WellCut cuts) :
    WellCut (prependChar c cuts) := by
  by_cases hc : c = '\n'
  · cases h with
    | last hl => simpa [prependChar, hc] using WellCut.lf (by simp) (by simp) (.last hl)
    | lf hl hr hrest =>
      simpa [prependChar, hc] using WellCut.lf (by simp) (by simp) (.lf hl hr hrest)
    | crlf hl hrest => simpa [prependChar, hc] using WellCut.lf (by simp) (by simp) (.crlf hl hrest)
  · have hcons {content : List Char} (hl : '\n' ∉ content) : '\n' ∉ c :: content := by
      simp [Ne.symm hc, hl]
    cases h with
    | last hl => simpa [prependChar, hc] using WellCut.last (hcons hl)
    | crlf hl hrest => simpa [prependChar, hc] using WellCut.crlf (hcons hl) hrest
    | @lf content rest hl hr hrest =>
      cases content with
      | nil =>
        by_cases hreturn : c = '\r'
        · simpa [prependChar, hreturn] using WellCut.crlf (by simp) hrest
        · simpa [prependChar, hc, hreturn] using
            WellCut.lf (hcons hl) (by simpa using hreturn) hrest
      | cons d content =>
        simpa [prependChar, hc] using
          WellCut.lf (hcons hl) (by rwa [List.getLast?_cons_cons]) hrest

/-- Every text falls into lines of this form. -/
theorem wellCut_cutLines (text : List Char) : WellCut (cutLines text) := by
  induction text with
  | nil => exact .last (by simp)
  | cons c rest ih => exact ih.prepend c

theorem joined_append (a b : List (List Char × Ending)) : joined (a ++ b) = joined a ++ joined b :=
  List.flatMap_append

theorem joined_cons (content : List Char) (ending : Ending) (rest : List (List Char × Ending)) :
    joined ((content, ending) :: rest) = content ++ ending.chars ++ joined rest := rfl

/-- The width of an ending is the number of its bytes. -/
theorem byteCount_chars (ending : Ending) : byteCount ending.chars = ending.width := by
  cases ending <;> decide

/-! Records of lines, as they can be written down for any bytes. -/

/-- A line as three numbers: where it starts, the bytes of its content and those of its ending. -/
structure Cut where
  start : Nat
  length : Nat
  width : Nat
  deriving DecidableEq, Repr

namespace Cut

def stop (c : Cut) : Nat := c.start + c.length + c.width

def content (form : List UInt8) (c : Cut) : List UInt8 := slice form c.start (c.start + c.length)

def ending (form : List UInt8) (c : Cut) : List UInt8 := slice form (c.start + c.length) c.stop

end Cut

def Line.cut (line : Line) : Cut := ⟨line.start, byteCount line.content, line.ending.width⟩

/-- Records that tile `form` and cut it at its feeds. The bytes of contents and endings are looked
up in `form`, so nothing holds of them but what is asked for here. -/
structure Canonical (form : List UInt8) (cuts : List Cut) : Prop where
  first : cuts.head?.map Cut.start = some 0
  next : cuts.IsChain fun c d => d.start = c.stop
  last : cuts.getLast?.map (fun c => (c.width, c.stop)) = some (0, form.length)
  whole : cuts.flatMap (fun c => c.content form ++ c.ending form) = form
  endings : ∀ c ∈ cuts, c.width = 0 ∨ c.width = 1 ∧ c.ending form = [feed] ∨
    c.width = 2 ∧ c.ending form = [carriage, feed]
  feedless : ∀ c ∈ cuts, feed ∉ c.content form
  joint : ∀ c ∈ cuts, c.width = 1 → (c.content form).getLast? ≠ some carriage
  count : cuts.length = form.count feed + 1

/-- The two endings that close a line of the given content. A return in front of the feed is never
left to the content. -/
inductive Closes (content : List UInt8) : List UInt8 → Prop where
  | lf (h : content.getLast? ≠ some carriage) : Closes content [feed]
  | crlf : Closes content [carriage, feed]

def Cut.IsLine (form : List UInt8) (c : Cut) : Prop :=
  feed ∉ c.content form ∧ (c.width = 0 ∨
    c.width = (c.ending form).length ∧ Closes (c.content form) (c.ending form))

/-- The same from some offset on, line by line: each takes what is up to the next feed, and the last
one takes what has none. -/
inductive Tiled (form : List UInt8) : Nat → List Cut → Prop where
  | last {start : Nat} (hle : start ≤ form.length) (h : feed ∉ form.drop start) :
      Tiled form start [⟨start, form.length - start, 0⟩]
  | more {start : Nat} {content ending after : List UInt8} {rest : List Cut}
      (hd : form.drop start = content ++ ending ++ after) (h : feed ∉ content)
      (hc : Closes content ending)
      (hrest : Tiled form (start + content.length + ending.length) rest) :
      Tiled form start (⟨start, content.length, ending.length⟩ :: rest)

theorem feed_ne_carriage : feed ≠ carriage := by decide

private theorem append_feed_inj {a a' r r' : List UInt8} (h : a ++ feed :: r = a' ++ feed :: r')
    (ha : feed ∉ a) (ha' : feed ∉ a') : a = a' := by
  have hidx := congrArg (List.idxOf feed) h
  rw [List.idxOf_append, if_neg ha, List.idxOf_append, if_neg ha'] at hidx
  exact (List.append_inj h (by simpa using hidx)).1

/-- Content and ending are found by looking for the feed and then at the byte before it. -/
theorem Closes.unique {content content' ending ending' after after' : List UInt8}
    (h : Closes content ending) (h' : Closes content' ending') (hf : feed ∉ content)
    (hf' : feed ∉ content') (heq : content ++ ending ++ after = content' ++ ending' ++ after') :
    content = content' ∧ ending = ending' := by
  have hreturn {run : List UInt8} (hrun : feed ∉ run) : feed ∉ run ++ [carriage] := by
    simp [hrun, feed_ne_carriage]
  cases h with
  | lf hr =>
    cases h' with
    | lf hr' => exact ⟨append_feed_inj (by simpa using heq) hf hf', rfl⟩
    | crlf =>
      have hrun : content = content' ++ [carriage] :=
        append_feed_inj (by simpa using heq) hf (hreturn hf')
      exact absurd (by rw [hrun, List.getLast?_concat]) hr
  | crlf =>
    cases h' with
    | lf hr' =>
      have hrun : content ++ [carriage] = content' :=
        append_feed_inj (by simpa using heq) (hreturn hf) hf'
      exact absurd (by rw [← hrun, List.getLast?_concat]) hr'
    | crlf =>
      have hrun : content ++ [carriage] = content' ++ [carriage] :=
        append_feed_inj (by simpa using heq) (hreturn hf) (hreturn hf')
      exact ⟨List.append_cancel_right hrun, rfl⟩

/-- One feed closes a line. -/
theorem Closes.count_feed {content ending : List UInt8} (h : Closes content ending) :
    ending.count feed = 1 := by
  cases h <;> decide

namespace Tiled
variable {form : List UInt8} {start : Nat} {cuts others : List Cut}

private theorem unique (h : Tiled form start cuts) (h' : Tiled form start others) :
    cuts = others := by
  induction h generalizing others with
  | last hle hno =>
    cases h' with
    | last => rfl
    | more hd _ hc _ =>
      -- A closed line has a feed, and none is left.
      rw [hd] at hno
      cases hc <;> simp at hno
  | more hd hf hc hrest ih =>
    cases h' with
    | last hle hno =>
      rw [hd] at hno
      cases hc <;> simp at hno
    | more hd' hf' hc' hrest' =>
      obtain ⟨rfl, rfl⟩ := hc.unique hc' hf hf' (hd.symm.trans hd')
      rw [ih hrest']

/-- What is left of the bytes after a line. -/
theorem drop_stop {content ending after : List UInt8}
    (hd : form.drop start = content ++ ending ++ after) :
    form.drop (start + content.length + ending.length) = after := by
  rw [Nat.add_assoc, ← List.drop_drop, hd, ← List.length_append, List.drop_left]

/-- The bytes that the numbers of a line stand for. -/
private theorem parts_of_drop {content ending after : List UInt8}
    (hd : form.drop start = content ++ ending ++ after) :
    (⟨start, content.length, ending.length⟩ : Cut).content form = content ∧
      (⟨start, content.length, ending.length⟩ : Cut).ending form = ending := by
  have hlater : form.drop (start + content.length) = ending ++ after := by
    rw [← List.drop_drop, hd, List.append_assoc, List.drop_left]
  constructor
  · rw [Cut.content, slice, hd, Nat.add_sub_cancel_left, List.append_assoc, List.take_left]
  · rw [Cut.ending, slice, Cut.stop, hlater, Nat.add_sub_cancel_left, List.take_left]

private theorem parts_of_last (form : List UInt8) (start : Nat) :
    (⟨start, form.length - start, 0⟩ : Cut).content form = form.drop start ∧
      (⟨start, form.length - start, 0⟩ : Cut).ending form = [] := by
  have hd : form.drop start = form.drop start ++ [] ++ [] := by simp
  have hparts := parts_of_drop hd
  rwa [List.length_drop] at hparts

private theorem head?_eq (h : Tiled form start cuts) : cuts.head?.map Cut.start = some start := by
  cases h <;> rfl

private theorem ne_nil (h : Tiled form start cuts) : cuts ≠ [] := by
  cases h <;> exact List.cons_ne_nil _ _

private theorem isChain (h : Tiled form start cuts) : cuts.IsChain fun c d => d.start = c.stop := by
  induction h with
  | last => exact .singleton _
  | more _ _ _ hrest ih =>
    refine List.isChain_cons.mpr ⟨?_, ih⟩
    intro d hd
    have hstart := hrest.head?_eq
    rw [hd] at hstart
    exact Option.some.inj hstart

private theorem getLast?_eq (h : Tiled form start cuts) :
    cuts.getLast?.map (fun c => (c.width, c.stop)) = some (0, form.length) := by
  induction h with
  | last hle =>
    simp only [List.getLast?_singleton, Option.map_some, Cut.stop]
    congr 2
    omega
  | more _ _ _ hrest ih =>
    have hne := hrest.ne_nil
    rwa [List.getLast?_cons_of_ne_nil hne]

private theorem flatMap_eq (h : Tiled form start cuts) :
    cuts.flatMap (fun c => c.content form ++ c.ending form) = form.drop start := by
  induction h with
  | last => simp [parts_of_last]
  | more hd _ _ _ ih =>
    rw [List.flatMap_cons, ih, (parts_of_drop hd).1, (parts_of_drop hd).2, drop_stop hd, hd]

private theorem isLine_of_mem (h : Tiled form start cuts) {c : Cut} (hc : c ∈ cuts) :
    c.IsLine form := by
  induction h with
  | last hle hno =>
    rw [List.mem_singleton.mp hc, Cut.IsLine, (parts_of_last form _).1]
    exact ⟨hno, .inl rfl⟩
  | more hd hf hcl _ ih =>
    rcases List.mem_cons.mp hc with rfl | hc
    · rw [Cut.IsLine, (parts_of_drop hd).1, (parts_of_drop hd).2]
      exact ⟨hf, .inr ⟨rfl, hcl⟩⟩
    · exact ih hc

private theorem length_eq (h : Tiled form start cuts) :
    cuts.length = (form.drop start).count feed + 1 := by
  induction h with
  | last hle hno => rw [List.count_eq_zero.mpr hno, List.length_singleton]
  | more hd hf hc _ ih =>
    rw [List.length_cons, ih, drop_stop hd, hd, List.count_append, List.count_append,
      List.count_eq_zero.mpr hf, hc.count_feed]
    omega

private theorem canonical (h : Tiled form 0 cuts) : Canonical form cuts where
  first := h.head?_eq
  next := h.isChain
  last := h.getLast?_eq
  whole := by rw [h.flatMap_eq, List.drop_zero]
  endings := by
    intro c hc
    obtain ⟨-, hopen | ⟨hwidth, hcl⟩⟩ := h.isLine_of_mem hc
    · exact .inl hopen
    · rw [hwidth]
      generalize c.ending form = ending at hcl ⊢
      cases hcl with
      | lf => exact .inr (.inl ⟨rfl, rfl⟩)
      | crlf => exact .inr (.inr ⟨rfl, rfl⟩)
  feedless := fun c hc => (h.isLine_of_mem hc).1
  joint := by
    intro c hc hone
    obtain ⟨-, hopen | ⟨hwidth, hcl⟩⟩ := h.isLine_of_mem hc
    · omega
    · generalize c.ending form = ending at hwidth hcl
      cases hcl with
      | lf hr => exact hr
      | crlf => exact absurd (hone.symm.trans hwidth) (by decide)
  count := by rw [h.length_eq, List.drop_zero]

end Tiled

namespace Canonical
variable {form : List UInt8} {cuts : List Cut}

private theorem isLine_of_mem (h : Canonical form cuts) {c : Cut} (hc : c ∈ cuts) :
    c.IsLine form := by
  refine ⟨h.feedless c hc, ?_⟩
  rcases h.endings c hc with hopen | ⟨hone, hend⟩ | ⟨htwo, hend⟩
  · exact .inl hopen
  · refine .inr ⟨by rw [hone, hend]; rfl, ?_⟩
    rw [hend]
    exact .lf (h.joint c hc hone)
  · refine .inr ⟨by rw [htwo, hend]; rfl, ?_⟩
    rw [hend]
    exact .crlf

/-- Each closed line has one feed, and it is in its ending. -/
private theorem count_flatMap (h : ∀ c ∈ cuts, c.IsLine form) :
    (cuts.flatMap fun c => c.content form ++ c.ending form).count feed =
      cuts.countP fun c => c.width ≠ 0 := by
  induction cuts with
  | nil => rfl
  | cons c rest ih =>
    obtain ⟨hf, hend⟩ := h c List.mem_cons_self
    have hone : (c.ending form).count feed = if c.width ≠ 0 then 1 else 0 := by
      rcases hend with hopen | ⟨hwidth, hcl⟩
      · simp [Cut.ending, slice, Cut.stop, hopen]
      · have hpos : c.width ≠ 0 := by
          intro hzero
          have hnil := List.eq_nil_of_length_eq_zero (hwidth.symm.trans hzero)
          rw [hnil] at hcl
          cases hcl
        rw [hcl.count_feed, if_pos hpos]
    rw [List.flatMap_cons, List.count_append, List.count_append, List.count_eq_zero.mpr hf, hone,
      ih fun d hd => h d (List.mem_cons_of_mem c hd), List.countP_cons]
    simp [Nat.add_comm]

/-- With as many closed lines as there are lines but one, the open one is the last. -/
private theorem isChain_closed (hnext : cuts.IsChain fun c d => d.start = c.stop)
    (hlast : ∀ c ∈ cuts.getLast?, c.width = 0)
    (hcount : cuts.length ≤ (cuts.countP fun c => c.width ≠ 0) + 1) :
    cuts.IsChain fun c d => d.start = c.stop ∧ c.width ≠ 0 := by
  induction hnext with
  | nil => exact .nil
  | singleton c => exact .singleton c
  | @cons_cons c d rest hstart _ ih =>
    rw [List.getLast?_cons_cons] at hlast
    have hopen : (d :: rest).countP (fun c => c.width ≠ 0) < (d :: rest).length := by
      refine Nat.lt_of_le_of_ne List.countP_le_length fun heq => ?_
      have hsome := List.getLast?_isSome.mpr (List.cons_ne_nil d rest)
      obtain ⟨e, he⟩ := Option.isSome_iff_exists.mp hsome
      have hclosed := List.countP_eq_length.mp heq e (List.mem_of_getLast? he)
      simp [hlast e he] at hclosed
    by_cases hzero : c.width = 0
    · rw [List.countP_cons_of_neg (by simp [hzero]), List.length_cons] at hcount
      omega
    · rw [List.countP_cons_of_pos (by simp [hzero]), List.length_cons] at hcount
      exact .cons_cons ⟨hstart, hzero⟩ (ih hlast (by omega))

/-- Records that follow each other, closed ones first, take the lines one after the other. -/
private theorem tiled_of_isChain {start : Nat} (hfirst : cuts.head?.map Cut.start = some start)
    (hnext : cuts.IsChain fun c d => d.start = c.stop ∧ c.width ≠ 0)
    (hlast : cuts.getLast?.map (fun c => (c.width, c.stop)) = some (0, form.length))
    (hline : ∀ c ∈ cuts, c.IsLine form) : Tiled form start cuts := by
  induction hnext generalizing start with
  | nil => cases hfirst
  | singleton c =>
    obtain ⟨begin, length, width⟩ := c
    obtain rfl : begin = start := by simpa using hfirst
    obtain ⟨rfl, hstop⟩ : width = 0 ∧ begin + length + width = form.length := by
      simpa [Cut.stop] using hlast
    obtain rfl : length = form.length - begin := by omega
    obtain ⟨hf, -⟩ := hline _ List.mem_cons_self
    rw [(Tiled.parts_of_last form begin).1] at hf
    exact .last (by omega) hf
  | @cons_cons c d rest hstep _ ih =>
    obtain ⟨hstart, hclosed⟩ := hstep
    obtain ⟨begin, length, width⟩ := c
    obtain rfl : begin = start := by simpa using hfirst
    obtain ⟨hf, hopen | ⟨hwidth, hcl⟩⟩ := hline _ List.mem_cons_self
    · exact absurd hopen hclosed
    · have hin : width = min (begin + length + width - (begin + length))
          (form.length - (begin + length)) := hwidth.trans (length_slice ..)
      have hlen : (Cut.content form ⟨begin, length, width⟩).length = length := by
        have hpos : width ≠ 0 := hclosed
        refine (length_slice form begin (begin + length)).trans ?_
        omega
      have hd : form.drop begin = Cut.content form ⟨begin, length, width⟩ ++
          Cut.ending form ⟨begin, length, width⟩ ++ form.drop (begin + length + width) := by
        rw [List.append_assoc, Cut.ending, Cut.stop, slice_append_drop form (Nat.le_add_right ..),
          Cut.content, slice_append_drop form (Nat.le_add_right ..)]
      have hrest : Tiled form (begin + length + width) (d :: rest) := by
        refine ih ?_ ?_ fun c hc => hline c (List.mem_cons_of_mem _ hc)
        · simpa [Cut.stop] using hstart
        · rwa [List.getLast?_cons_cons] at hlast
      have hmore := Tiled.more hd hf hcl (by rw [hlen, ← hwidth]; exact hrest)
      rwa [hlen, ← hwidth] at hmore

private theorem tiled (h : Canonical form cuts) : Tiled form 0 cuts := by
  have hcount : cuts.length ≤ (cuts.countP fun c => c.width ≠ 0) + 1 := by
    rw [← count_flatMap fun c => h.isLine_of_mem, h.whole, h.count]
  have hlast : ∀ c ∈ cuts.getLast?, c.width = 0 := by
    intro c hc
    have hl := h.last
    rw [hc] at hl
    simpa using congrArg (Option.map Prod.fst) hl
  exact tiled_of_isChain h.first (isChain_closed h.next hlast hcount) h.last
    fun c => h.isLine_of_mem

end Canonical

private theorem canonical_iff_tiled {form : List UInt8} {cuts : List Cut} :
    Canonical form cuts ↔ Tiled form 0 cuts :=
  ⟨Canonical.tiled, Tiled.canonical⟩

/-! The lines of a text are such records. -/

/-- A first line is closed by its ending, or it is the only one. -/
theorem WellCut.of_cons {content : List Char} {ending : Ending} {rest : List (List Char × Ending)}
    (h : WellCut ((content, ending) :: rest)) :
    '\n' ∉ content ∧ (Closes (bytes content) (bytes ending.chars) ∧ WellCut rest ∨
      ending = .unclosed ∧ rest = []) := by
  cases h with
  | last hf => exact ⟨hf, .inr ⟨rfl, rfl⟩⟩
  | lf hf hr hrest => exact ⟨hf, .inl ⟨.lf (getLast?_bytes_ne_carriage hr), hrest⟩⟩
  | crlf hf hrest => exact ⟨hf, .inl ⟨.crlf, hrest⟩⟩

private theorem tiled_cons {content : List Char} {ending : Ending}
    {rest : List (List Char × Ending)} (before : List Char) (hf : '\n' ∉ content)
    (hc : Closes (bytes content) (bytes ending.chars))
    (hrest : Tiled (bytes (before ++ (content ++ ending.chars) ++ joined rest))
      (byteCount (before ++ (content ++ ending.chars)))
      ((placeLines (byteCount (before ++ (content ++ ending.chars))) rest).map Line.cut)) :
    Tiled (bytes (before ++ joined ((content, ending) :: rest))) (byteCount before)
      ((placeLines (byteCount before) ((content, ending) :: rest)).map Line.cut) := by
  have hd : (bytes (before ++ joined ((content, ending) :: rest))).drop (byteCount before) =
      bytes content ++ bytes ending.chars ++ bytes (joined rest) := by
    rw [bytes_append, drop_bytes, joined_cons, bytes_append, bytes_append]
  rw [List.append_assoc, ← joined_cons, byteCount_append, byteCount_append, byteCount_chars,
    ← Nat.add_assoc] at hrest
  have hmore := Tiled.more hd (feed_not_mem_bytes hf) hc
    (by rw [length_bytes, length_bytes, byteCount_chars]; exact hrest)
  rwa [length_bytes, length_bytes, byteCount_chars] at hmore

private theorem WellCut.tiled {cuts : List (List Char × Ending)} (h : WellCut cuts)
    (before : List Char) :
    Tiled (bytes (before ++ joined cuts)) (byteCount before)
      ((placeLines (byteCount before) cuts).map Line.cut) := by
  induction cuts generalizing before with
  | nil => cases h
  | cons cut rest ih =>
    obtain ⟨content, ending⟩ := cut
    obtain ⟨hf, ⟨hc, hrest⟩ | ⟨rfl, rfl⟩⟩ := h.of_cons
    · exact tiled_cons before hf hc (ih hrest _)
    · have hdrop : (bytes (before ++ joined [(content, .unclosed)])).drop (byteCount before) =
          bytes content := by
        rw [bytes_append, drop_bytes, joined_cons]
        simp [joined, Ending.chars]
      have hlen := congrArg List.length hdrop
      rw [List.length_drop, length_bytes, length_bytes] at hlen
      have hle : byteCount before ≤ (bytes (before ++ joined [(content, .unclosed)])).length := by
        rw [length_bytes, byteCount_append]
        exact Nat.le_add_right ..
      have hlast := Tiled.last hle (by rw [hdrop]; exact feed_not_mem_bytes hf)
      rwa [length_bytes, hlen] at hlast

/-- A line starts where those before it end. -/
theorem getElem?_placeLines (start : Nat) (cuts : List (List Char × Ending)) (k : Nat) :
    (placeLines start cuts)[k]? = cuts[k]?.map fun cut =>
      ⟨start + byteCount (joined (cuts.take k)), cut.1, cut.2⟩ := by
  induction cuts generalizing start k with
  | nil => rfl
  | cons cut rest ih =>
    obtain ⟨content, ending⟩ := cut
    cases k with
    | zero => rfl
    | succ k =>
      rw [placeLines, List.getElem?_cons_succ, List.getElem?_cons_succ, ih, List.take_succ_cons,
        joined_cons, byteCount_append, byteCount_append, byteCount_chars, ← Nat.add_assoc,
        ← Nat.add_assoc]

namespace Lines

/-- The lines of a text tile its bytes. -/
theorem tiled (lines : Lines) : Tiled (bytes lines.text) 0 (lines.all.map Line.cut) := by
  have h := (wellCut_cutLines lines.text).tiled []
  rwa [List.nil_append, joined_cutLines, byteCount_nil, ← lines.all_eq] at h

/-- What stands before and after line `k`. -/
theorem exists_split {lines : Lines} {k : Nat} {line : Line} (h : lines.all[k]? = some line) :
    ∃ before after, cutLines lines.text = before ++ (line.content, line.ending) :: after ∧
      before.length = k ∧ line.start = byteCount (joined before) := by
  rw [lines.all_eq, getElem?_placeLines] at h
  obtain ⟨cut, hcut, rfl⟩ := Option.map_eq_some_iff.mp h
  obtain ⟨hk, rfl⟩ := List.getElem?_eq_some_iff.mp hcut
  refine ⟨(cutLines lines.text).take k, (cutLines lines.text).drop (k + 1), ?_, ?_, ?_⟩
  · rw [← List.drop_eq_getElem_cons hk, List.take_append_drop]
  · exact List.length_take_of_le (Nat.le_of_lt hk)
  · exact Nat.zero_add _

/-- The characters before a line and after it. -/
theorem exists_text_split {lines : Lines} {k : Nat} {line : Line} (h : lines.all[k]? = some line) :
    ∃ before after, lines.text = before ++ line.content ++ (line.ending.chars ++ after) ∧
      line.start = byteCount before := by
  obtain ⟨before, after, hcut, -, hstart⟩ := exists_split h
  refine ⟨joined before, joined after, ?_, hstart⟩
  rw [← joined_cutLines lines.text, hcut, joined_append, joined_cons]
  simp only [List.append_assoc]

private theorem content_cut {lines : Lines} {k : Nat} {line : Line}
    (h : lines.all[k]? = some line) :
    line.cut.content (bytes lines.text) = bytes line.content := by
  obtain ⟨before, after, htext, hstart⟩ := exists_text_split h
  rw [Cut.content, Line.cut, hstart, htext, slice_bytes]

/-- No line reaches beyond the text. -/
theorem stop_le_size {lines : Lines} {k : Nat} {line : Line} (h : lines.all[k]? = some line) :
    line.stop ≤ lines.size := by
  obtain ⟨before, after, htext, hstart⟩ := exists_text_split h
  rw [Line.stop, hstart, ← byteCount_chars, size, htext]
  simp only [byteCount_append]
  omega

end Lines

/-- The lines of a text are the only records that tile it and cut it at its feeds. Line `k` is there
exactly if it is one of them, and it is what its record says. -/
theorem lines_are_the_only_canonical_cuts (text : String) :
    (∀ cuts, Canonical (Utf8.encode text) cuts ↔ cuts = (Lines.ofText text).all.map Line.cut) ∧
      (Lines.ofText text).size = (Utf8.encode text).length ∧
      (Lines.ofText text).count = (Utf8.encode text).count feed + 1 ∧
      ∀ k, (((Lines.ofText text).line? k).isSome ↔ k < (Lines.ofText text).count) ∧
        ((Lines.ofText text).line? k).map Utf8.encode =
          ((Lines.ofText text).all.map Line.cut)[k]?.map (Cut.content (Utf8.encode text)) := by
  have htiled := (Lines.ofText text).tiled
  rw [encode_eq_bytes]
  refine ⟨fun cuts => ?_, ?_, ?_, fun k => ⟨?_, ?_⟩⟩
  · rw [canonical_iff_tiled]
    constructor
    · exact fun h => h.unique htiled
    · rintro rfl
      exact htiled
  · exact (length_bytes _).symm
  · rw [Lines.count_eq, count_feed_bytes]
    rfl
  · simp [Lines.line?, Lines.count]
  · rw [Lines.line?, List.getElem?_map, Option.map_map, Option.map_map]
    cases hline : (Lines.ofText text).all[k]? with
    | none => rfl
    | some line =>
      have hcontent := Lines.content_cut hline
      simp only [Option.map_some, Function.comp_apply, encode_ofList]
      exact congrArg some hcontent.symm

/-- Only the second of two returns belongs to the ending, and a return at the end to none. -/
example : (Lines.ofText "é\r\n\r\r\n\nb\r").all.map Line.cut =
    [⟨0, 2, 2⟩, ⟨4, 1, 2⟩, ⟨7, 0, 1⟩, ⟨8, 2, 0⟩] := by decide

end ApiBlueprint.Text
