import Outline.Proofs.Text.Lines
import Outline.Text.Cursor

/-! How far the start of a text reaches. A place of a text is where some of its characters end; it
is known by its bytes, and the distance between two places leads from the one to the other. A cursor
that has started at a place and moves on by the characters it reads is at a place again. -/
namespace Outline.Text

namespace Offset

/-! ### Sums and distances -/

theorem ext {a b : Offset} (hbytes : a.bytes = b.bytes) (hrow : a.row = b.row)
    (hcolumn : a.column = b.column) : a = b := by
  cases a
  cases b
  simp_all

theorem add_eq (a b : Offset) : a + b =
    if b.row = 0 then ⟨a.bytes + b.bytes, a.row, a.column + b.column⟩
    else ⟨a.bytes + b.bytes, a.row + b.row, b.column⟩ := rfl

@[simp] theorem add_zero (a : Offset) : a + {} = a := rfl

@[simp] theorem zero_add (a : Offset) : {} + a = a := by
  rw [add_eq]
  split
  · next hrow => exact ext (Nat.zero_add _) hrow.symm (Nat.zero_add _)
  · exact ext (Nat.zero_add _) (Nat.zero_add _) rfl

theorem add_assoc (a b c : Offset) : a + b + c = a + (b + c) := by
  simp only [add_eq]
  by_cases hc : c.row = 0
  · by_cases hb : b.row = 0
    · simp [hb, hc, Nat.add_assoc]
    · simp [hb, hc, Nat.add_assoc]
  · by_cases hb : b.row = 0
    · simp [hb, hc, Nat.add_assoc]
    · simp [hb, hc, Nat.add_assoc]

theorem bytes_le_add (a b : Offset) : a.bytes ≤ (a + b).bytes := by
  rw [add_bytes]
  exact Nat.le_add_right _ _

theorem since_add (a b : Offset) : (a + b).since a = b := by
  rw [add_eq, since]
  by_cases hb : b.row = 0
  · simp only [hb, ↓reduceIte, Nat.lt_irrefl, Nat.add_sub_cancel_left]
    exact ext rfl hb.symm rfl
  · have hlt : a.row < a.row + b.row := by omega
    simp only [hb, hlt, ↓reduceIte, Nat.add_sub_cancel_left]

/-! ### Characters -/

/-- How far some characters reach. -/
def ofChars (cs : List Char) : Offset := cs.foldl push {}

theorem push_eq_add (p : Offset) (c : Char) : p.push c = p + push {} c := by
  unfold push
  split
  · simp [add_eq]
  · simp [add_eq]

theorem foldl_push (p : Offset) (cs : List Char) : cs.foldl push p = p + ofChars cs := by
  induction cs generalizing p with
  | nil => rfl
  | cons c cs ih =>
    rw [ofChars, List.foldl_cons, List.foldl_cons, ih, ih, push_eq_add p, add_assoc]

theorem ofChars_append (a b : List Char) : ofChars (a ++ b) = ofChars a + ofChars b := by
  rw [ofChars, List.foldl_append, foldl_push]
  rfl

theorem ofChars_snoc (a : List Char) (c : Char) : ofChars (a ++ [c]) = (ofChars a).push c := by
  rw [ofChars, List.foldl_append]
  rfl

theorem bytes_ofChars_pos {cs : List Char} (h : cs ≠ []) : 0 < (ofChars cs).bytes := by
  obtain ⟨c, cs, rfl⟩ := List.exists_cons_of_ne_nil h
  have hsize := c.utf8Size_pos
  rw [ofChars, List.foldl_cons, foldl_push, add_bytes, push_bytes]
  omega

/-! ### Places -/

/-- The offset is where some characters at the start of the text end. -/
def IsPlace (text : List Char) (o : Offset) : Prop :=
  ∃ before after, text = before ++ after ∧ o = ofChars before

variable {text : List Char} {o p : Offset}

theorem isPlace_zero : IsPlace text {} := ⟨[], text, rfl, rfl⟩

/-- Of two places the one with more bytes is reached from the other by some characters. -/
theorem IsPlace.exists_between (ho : o.IsPlace text) (hp : p.IsPlace text)
    (h : o.bytes ≤ p.bytes) : ∃ between, p = o + ofChars between := by
  obtain ⟨a, a', rfl, rfl⟩ := ho
  obtain ⟨b, b', heq, rfl⟩ := hp
  rcases List.append_eq_append_iff.mp heq with ⟨c, rfl, -⟩ | ⟨c, rfl, -⟩
  · exact ⟨c, ofChars_append a c⟩
  · rw [ofChars_append, add_bytes] at h
    have hc : c = [] := by
      by_contra hne
      have := bytes_ofChars_pos hne
      omega
    exact ⟨[], by simp [hc, ofChars]⟩

theorem IsPlace.add_since (ho : o.IsPlace text) (hp : p.IsPlace text) (h : o.bytes ≤ p.bytes) :
    o + p.since o = p := by
  obtain ⟨between, rfl⟩ := ho.exists_between hp h
  rw [since_add]

theorem IsPlace.eq_of_bytes (ho : o.IsPlace text) (hp : p.IsPlace text) (h : o.bytes = p.bytes) :
    o = p := by
  obtain ⟨between, rfl⟩ := ho.exists_between hp (by omega)
  have hnil : between = [] := by
    by_contra hne
    have := bytes_ofChars_pos hne
    rw [add_bytes] at h
    omega
  simp [hnil, ofChars]

/-! ### Bytes of characters -/

theorem foldl_pushByte_of_notMem (p : Offset) {bs : List UInt8} (h : (10 : UInt8) ∉ bs) :
    bs.foldl pushByte p = ⟨p.bytes + bs.length, p.row, p.column + bs.length⟩ := by
  induction bs generalizing p with
  | nil => rfl
  | cons b bs ih =>
    rw [List.mem_cons, not_or] at h
    rw [List.foldl_cons, ih _ h.2, pushByte, if_neg (Ne.symm h.1)]
    simp [Nat.add_assoc, Nat.add_comm 1]

theorem foldl_pushByte_utf8EncodeChar (p : Offset) (c : Char) :
    (String.utf8EncodeChar c).foldl pushByte p = p.push c := by
  by_cases hc : c = '\n'
  · subst hc
    rfl
  · rw [foldl_pushByte_of_notMem p (lineFeed_notMem_utf8EncodeChar hc),
      String.length_utf8EncodeChar, push, if_neg hc]

theorem ofBytes_flatMap (cs : List Char) :
    ofBytes (cs.flatMap String.utf8EncodeChar) = ofChars cs := by
  rw [ofBytes, ofChars, List.foldl_flatMap]
  simp only [foldl_pushByte_utf8EncodeChar]

theorem IsPlace.isIn {text : String} {o : Offset} (h : o.IsPlace text.toList) : o.IsIn text := by
  obtain ⟨before, after, htext, rfl⟩ := h
  have hlength : (ofChars before).bytes = (before.flatMap String.utf8EncodeChar).length := by
    rw [← ofBytes_flatMap, bytes_ofBytes]
  rw [IsIn, utf8_eq_flatMap, htext, List.flatMap_append, hlength, List.take_left, ofBytes_flatMap]

end Offset

/-! ### Cursors -/

namespace Cursor

/-- The cursor is at a place of the text, with what follows there. -/
def IsOn (text : List Char) (k : Cursor) : Prop :=
  ∃ before, text = before ++ k.rest ∧ k.pos = .ofChars before

variable {text : List Char} {k : Cursor}

theorem IsOn.isPlace (h : k.IsOn text) : k.pos.IsPlace text := by
  obtain ⟨before, htext, hpos⟩ := h
  exact ⟨before, k.rest, htext, hpos⟩

theorem IsOn.push {c : Char} {rest : List Char} {o : Offset} (h : IsOn text ⟨c :: rest, o⟩) :
    IsOn text ⟨rest, o.push c⟩ := by
  obtain ⟨before, htext, hpos⟩ := h
  dsimp only at htext hpos
  exact ⟨before ++ [c], by rw [htext, List.append_assoc]; rfl, by rw [hpos, Offset.ofChars_snoc]⟩

theorem IsOn.next (h : k.IsOn text) : k.next.IsOn text := by
  obtain ⟨rest, pos⟩ := k
  cases rest with
  | nil => exact h
  | cons c rest => exact h.push

theorem bytes_le_next (k : Cursor) : k.pos.bytes ≤ k.next.pos.bytes := by
  unfold Cursor.next
  split
  · exact Nat.le_refl _
  · simp

theorem IsOn.go {p : Char → Bool} {rest : List Char} {o : Offset} (h : IsOn text ⟨rest, o⟩) :
    (skipWhile.go p rest o).IsOn text := by
  induction rest generalizing o with
  | nil => exact h
  | cons c rest ih =>
    rw [skipWhile.go]
    split
    · exact ih h.push
    · exact h

theorem IsOn.skipWhile (h : k.IsOn text) (p : Char → Bool) : (k.skipWhile p).IsOn text := h.go

theorem bytes_le_go (p : Char → Bool) (rest : List Char) (o : Offset) :
    o.bytes ≤ (skipWhile.go p rest o).pos.bytes := by
  induction rest generalizing o with
  | nil => exact Nat.le_refl _
  | cons c rest ih =>
    rw [skipWhile.go]
    split
    · have hpush := ih (o.push c)
      rw [Offset.push_bytes] at hpush
      omega
    · exact Nat.le_refl _

theorem bytes_le_skipWhile (k : Cursor) (p : Char → Bool) :
    k.pos.bytes ≤ (k.skipWhile p).pos.bytes :=
  bytes_le_go p k.rest k.pos

end Cursor

/-! ### Passages -/

namespace Passage

/-- What is left of a text at every byte of it, and at its end. -/
def rests : List Char → List (List Char)
  | [] => [[]]
  | c :: rest => List.replicate c.utf8Size (c :: rest) ++ rests rest

theorem toList_fill (t : List Char) (acc : Array (List Char)) (n : Nat) :
    (ofString.fill t acc n).toList = acc.toList ++ List.replicate n t := by
  induction n generalizing acc with
  | zero => simp [ofString.fill]
  | succ n ih =>
    rw [ofString.fill, ih, Array.toList_push, List.append_assoc, List.replicate_succ]
    rfl

theorem toList_go (cs : List Char) (acc : Array (List Char)) :
    (ofString.go cs acc).toList = acc.toList ++ rests cs := by
  induction cs generalizing acc with
  | nil => simp [ofString.go, rests]
  | cons c cs ih => rw [ofString.go, ih, toList_fill, rests, List.append_assoc]

theorem getElem?_rests_zero (cs : List Char) : (rests cs)[0]? = some cs := by
  cases cs with
  | nil => rfl
  | cons c cs =>
    have hsize := c.utf8Size_pos
    rw [rests, List.getElem?_append_left (by simpa using hsize), List.getElem?_replicate,
      if_pos hsize]

theorem getElem?_rests (before after : List Char) :
    (rests (before ++ after))[(Offset.ofChars before).bytes]? = some after := by
  induction before with
  | nil => exact getElem?_rests_zero after
  | cons c before ih =>
    have hbytes : (Offset.ofChars (c :: before)).bytes =
        c.utf8Size + (Offset.ofChars before).bytes := by
      rw [Offset.ofChars, List.foldl_cons, Offset.foldl_push, Offset.add_bytes, Offset.push_bytes,
        Nat.zero_add]
    rw [List.cons_append, rests, hbytes, List.getElem?_append_right (by simp)]
    simpa using ih

/-- Reading can start at every place of a text. -/
theorem isOn_cursor {text : String} {o : Offset} (h : o.IsPlace text.toList) :
    ((ofString text).cursor o).IsOn text.toList := by
  obtain ⟨before, after, htext, rfl⟩ := h
  refine ⟨before, ?_, rfl⟩
  have htails : (ofString text).tails.toList = rests text.toList := toList_go text.toList #[]
  have hrest : ((ofString text).cursor (.ofChars before)).rest = after := by
    rw [cursor, Array.getD_eq_getD_getElem?, ← Array.getElem?_toList, htails, htext,
      getElem?_rests]
    rfl
  rw [hrest, htext]

end Passage

end Outline.Text
