import Lookahead.Text.Position

/-!
# Slices

What a span cuts out of a text.  The places of a text that cut no character are those behind its
first characters (`Span.isBoundary_iff`), so a span over the middle one of three parts of a text
cuts out just that part (`Span.slice?_of_append`).
-/

namespace Lookahead

theorem byteCount_cons (c : Char) (cs : List Char) :
    byteCount (c :: cs) = c.utf8Size + byteCount cs := rfl

theorem length_le_byteCount (cs : List Char) : cs.length ≤ byteCount cs := by
  induction cs with
  | nil => exact Nat.le_refl _
  | cons c cs ih =>
    have := c.utf8Size_pos
    rw [byteCount_cons, List.length_cons]
    omega

theorem byteCount_append (as bs : List Char) :
    byteCount (as ++ bs) = byteCount as + byteCount bs := by
  induction as with
  | nil => exact (Nat.zero_add _).symm
  | cons c as ih => rw [List.cons_append, byteCount_cons, ih, byteCount_cons, Nat.add_assoc]

theorem byteCount_le_of_isPrefix {as bs : List Char} (h : as <+: bs) :
    byteCount as ≤ byteCount bs := by
  obtain ⟨cs, rfl⟩ := h
  rw [byteCount_append]
  exact Nat.le_add_right _ _

theorem byteCount_pos {cs : List Char} (h : cs ≠ []) : 0 < byteCount cs := by
  cases cs with
  | nil => exact absurd rfl h
  | cons c cs =>
    rw [byteCount_cons]
    exact Nat.add_pos_left c.utf8Size_pos _

theorem size_utf8Encode (cs : List Char) : cs.utf8Encode.size = byteCount cs := by
  induction cs with
  | nil => rfl
  | cons c cs ih =>
    rw [← List.singleton_append, List.utf8Encode_append, ByteArray.size_append, ih]
    simp [byteCount, List.utf8Encode_singleton]

theorem utf8ByteSize_eq (s : String) : s.utf8ByteSize = byteCount s.toList := by
  rw [← size_utf8Encode, ← String.toByteArray_ofList, String.ofList_toList]
  rfl

theorem toUTF8_eq (s : String) : s.toUTF8 = s.toList.utf8Encode := by
  rw [← String.toByteArray_ofList, String.ofList_toList]
  rfl

namespace Span

/-- The byte a character begins with is none that a character goes on with. -/
theorem bne_of_isUTF8FirstByte {b : UInt8} (h : b.IsUTF8FirstByte) :
    (b &&& 0xC0 != 0x80) = true := by
  have hall : ∀ v : BitVec 8, (v &&& 0x80 = 0 ∨ v &&& 0xE0 = 0xC0 ∨ v &&& 0xF0 = 0xE0 ∨
      v &&& 0xF8 = 0xF0) → v &&& 0xC0 ≠ 0x80 := by
    decide +kernel
  simp only [UInt8.IsUTF8FirstByte, ← UInt8.toBitVec_inj] at h
  rw [bne_iff_ne, ne_eq, ← UInt8.toBitVec_inj]
  exact hall b.toBitVec h

/-- A boundary behind the first of two parts is one of the second. -/
theorem isBoundary_append (a b : ByteArray) (i : Nat) :
    isBoundary (a ++ b) (a.size + i) = isBoundary b i := by
  rw [isBoundary, isBoundary]
  by_cases h : i < b.size
  · have h' : a.size + i < (a ++ b).size := by
      rw [ByteArray.size_append]
      exact Nat.add_lt_add_left h _
    rw [dif_pos h, dif_pos h', ByteArray.getElem_append_right (Nat.le_add_right _ _)]
    simp only [Nat.add_sub_cancel_left]
  · have h' : ¬ a.size + i < (a ++ b).size := by
      rw [ByteArray.size_append]
      exact fun hlt => h (Nat.lt_of_add_lt_add_left hlt)
    rw [dif_neg h, dif_neg h', ByteArray.size_append, Bool.eq_iff_iff, beq_iff_eq, beq_iff_eq,
      Nat.add_left_cancel_iff]

/-- A text begins with a whole character. -/
theorem isBoundary_start (cs : List Char) : isBoundary cs.utf8Encode 0 = true := by
  rw [isBoundary]
  split
  · next h =>
    have hvalid : cs.utf8Encode.IsValidUTF8 := .intro cs rfl
    exact bne_of_isUTF8FirstByte (hvalid.isUTF8FirstByte_getElem_zero h)
  · next h => exact beq_iff_eq.2 (Nat.eq_zero_of_not_pos h).symm

theorem isBoundary_byteCount (as bs : List Char) :
    isBoundary (as ++ bs).utf8Encode (byteCount as) = true := by
  have hbehind := isBoundary_append as.utf8Encode bs.utf8Encode 0
  rw [Nat.add_zero, size_utf8Encode, ← List.utf8Encode_append] at hbehind
  exact hbehind.trans (isBoundary_start bs)

/-- A character goes on with bytes that none begins with. -/
theorem continues_utf8EncodeChar (c : Char) :
    ∀ b ∈ (String.utf8EncodeChar c).tail, (b &&& 0xC0 != 0x80) = false := by
  have hlow : ∀ b : UInt8, ((b &&& 63 ||| 128) &&& 0xC0 != 0x80) = false := fun b => by
    have hall : ∀ v : BitVec 8, (v &&& 63 ||| 128) &&& 0xC0 = 0x80 := by decide +kernel
    rw [bne_eq_false_iff_eq, ← UInt8.toBitVec_inj]
    exact hall b.toBitVec
  rcases Char.utf8Size_eq c with h | h | h | h
  · rw [String.utf8EncodeChar_eq_singleton h]
    exact fun _ hb => (List.not_mem_nil hb).elim
  · rw [String.utf8EncodeChar_eq_cons_cons h]
    exact List.forall_mem_singleton.2 (hlow _)
  · rw [String.utf8EncodeChar_eq_cons_cons_cons h]
    exact List.forall_mem_cons.2 ⟨hlow _, List.forall_mem_singleton.2 (hlow _)⟩
  · rw [String.utf8EncodeChar_eq_cons_cons_cons_cons h]
    exact List.forall_mem_cons.2 ⟨hlow _, List.forall_mem_cons.2
      ⟨hlow _, List.forall_mem_singleton.2 (hlow _)⟩⟩

/-- A place inside a character is no boundary. -/
theorem isBoundary_inside {c : Char} {i : Nat} (hpos : 0 < i) (hlt : i < c.utf8Size)
    (cs : List Char) : isBoundary (c :: cs).utf8Encode i = false := by
  have hi : i < (String.utf8EncodeChar c).length := by rwa [String.length_utf8EncodeChar]
  have hencode : (c :: cs).utf8Encode =
      (String.utf8EncodeChar c).toByteArray ++ cs.utf8Encode := by
    rw [List.utf8Encode_cons, List.utf8Encode_singleton]
  have hfirst : i < (String.utf8EncodeChar c).toByteArray.size := by
    rwa [List.size_toByteArray]
  have hsize : i < ((String.utf8EncodeChar c).toByteArray ++ cs.utf8Encode).size := by
    rw [ByteArray.size_append]
    exact Nat.lt_add_right _ hfirst
  have hmem : (String.utf8EncodeChar c)[i] ∈ (String.utf8EncodeChar c).tail := by
    obtain ⟨i, rfl⟩ := Nat.exists_eq_add_one.2 hpos
    rw [← List.getElem_tail (by rw [List.length_tail]; omega)]
    exact List.getElem_mem _
  rw [hencode, isBoundary, dif_pos hsize, ByteArray.getElem_append_left hfirst,
    List.getElem_toByteArray]
  exact continues_utf8EncodeChar c _ hmem

/-- **The boundaries of a text** are the places behind its first characters. -/
theorem isBoundary_iff {cs : List Char} {i : Nat} :
    isBoundary cs.utf8Encode i = true ↔ ∃ as, as <+: cs ∧ byteCount as = i := by
  refine ⟨fun h => ?_, ?_⟩
  · induction cs generalizing i with
    | nil =>
      refine ⟨[], List.nil_prefix, ?_⟩
      have hsize : i = 0 := by simpa [isBoundary] using h
      exact hsize.symm
    | cons c cs ih =>
      rcases Nat.eq_zero_or_pos i with rfl | hpos
      · exact ⟨[], List.nil_prefix, rfl⟩
      rcases Nat.lt_or_ge i c.utf8Size with hlt | hle
      · rw [isBoundary_inside hpos hlt] at h
        cases h
      · obtain ⟨j, rfl⟩ := Nat.exists_eq_add_of_le hle
        have hc : c.utf8Size = [c].utf8Encode.size := by
          rw [size_utf8Encode]
          rfl
        rw [List.utf8Encode_cons, hc, isBoundary_append] at h
        obtain ⟨as, has, rfl⟩ := ih h
        exact ⟨c :: as, List.cons_prefix_cons.2 ⟨rfl, has⟩, rfl⟩
  · rintro ⟨as, ⟨bs, rfl⟩, rfl⟩
    exact isBoundary_byteCount as bs

/-- A span over the middle part of a text cuts it out. -/
theorem slice?_of_append {s : Span} {as mid : List Char} (bs : List Char)
    (hstart : s.start.offset = byteCount as) (hstop : s.stop.offset = byteCount (as ++ mid)) :
    s.slice? (String.ofList (as ++ mid ++ bs)) = some (String.ofList mid) := by
  have hle : s.start.offset ≤ s.stop.offset := by
    rw [hstart, hstop, byteCount_append]; exact Nat.le_add_right _ _
  have hbytes : (String.ofList (as ++ mid ++ bs)).toUTF8 = (as ++ mid ++ bs).utf8Encode :=
    String.toByteArray_ofList
  have hextract : (as ++ mid ++ bs).utf8Encode.extract (byteCount as) (byteCount (as ++ mid)) =
      mid.utf8Encode := by
    have hsize : byteCount (as ++ mid) = as.utf8Encode.size + mid.utf8Encode.size := by
      rw [size_utf8Encode, size_utf8Encode, byteCount_append]
    have hbehind : byteCount (as ++ mid) - (as ++ mid).utf8Encode.size = 0 := by
      rw [size_utf8Encode, Nat.sub_self]
    rw [List.utf8Encode_append, ByteArray.extract_append, hbehind, List.utf8Encode_append,
      ByteArray.extract_append_eq_right (size_utf8Encode as).symm hsize,
      ByteArray.extract_eq_empty_iff.2 (by omega), ByteArray.append_empty]
  have hmid : mid.utf8Encode.IsValidUTF8 := .intro mid rfl
  have hfrom : String.fromUTF8? mid.utf8Encode = some (String.ofList mid) := by
    rw [String.fromUTF8?, dif_pos hmid]
    congr 1
  have hstartBoundary := isBoundary_byteCount as (mid ++ bs)
  rw [← List.append_assoc] at hstartBoundary
  rw [slice?, hbytes, hstart, hstop, hstartBoundary, isBoundary_byteCount (as ++ mid) bs, hextract,
    hfrom, ← hstart, ← hstop]
  simp [hle]

/-- The span of the first bytes of a text; where its line and column end does not matter. -/
def front (bytes : Nat) : Span := ⟨.start, { Position.start with offset := bytes }⟩

theorem slice?_front (as bs : List Char) :
    (front (byteCount as)).slice? (String.ofList (as ++ bs)) = some (String.ofList as) :=
  @slice?_of_append (front (byteCount as)) [] as bs rfl rfl

end Span

end Lookahead
