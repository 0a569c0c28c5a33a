import Lookahead.Log.Clip
import Lookahead.Proofs.Slices

/-!
# Clipped messages

A message that is too long for a log is cut to the longest front part of it that fits.  One way to
find the cut is to go back from the limit, byte by byte, to a place that cuts no character
(`cutBack?`); since a text begins at such a place, and no character takes more than four bytes, this
comes to an end within three bytes, and at the cut that whole characters taken one by one lead to.

* `boundaryUpTo?_utf8Encode`: going back finds the end of the characters that fit.
* `clipMessage_longest`: what messages are cut to.
-/

namespace Lookahead

/-! ### Characters that fit -/

variable {n : Nat} {as cs : List Char}

theorem clipChars_isPrefix (n : Nat) (cs : List Char) : clipChars n cs <+: cs := by
  fun_induction clipChars n cs with
  | case1 => exact List.nil_prefix
  | case2 _ _ _ _ ih => exact List.cons_prefix_cons.2 ⟨rfl, ih⟩
  | case3 => exact List.nil_prefix

theorem byteCount_clipChars_le (n : Nat) (cs : List Char) : byteCount (clipChars n cs) ≤ n := by
  fun_induction clipChars n cs with
  | case1 => exact Nat.zero_le _
  | case2 n c cs hfits ih =>
    rw [byteCount_cons]
    exact Nat.add_le_of_le_sub' hfits ih
  | case3 => exact Nat.zero_le _

/-- **No more whole characters fit.** -/
theorem isPrefix_clipChars (has : as <+: cs) (hfits : byteCount as ≤ n) :
    as <+: clipChars n cs := by
  induction cs generalizing as n with
  | nil => exact has
  | cons c cs ih =>
    cases as with
    | nil => exact List.nil_prefix
    | cons a as =>
      obtain ⟨rfl, hrest⟩ := List.cons_prefix_cons.1 has
      rw [byteCount_cons] at hfits
      rw [clipChars, if_pos (Nat.le_of_add_right_le hfits)]
      exact List.cons_prefix_cons.2 ⟨rfl, ih hrest (Nat.le_sub_of_add_le' hfits)⟩

theorem clipChars_eq_self (hfits : byteCount cs ≤ n) : clipChars n cs = cs :=
  (clipChars_isPrefix n cs).eq_of_length_le (isPrefix_clipChars List.prefix_rfl hfits).length_le

/-- A text that does not fit is cut at most three bytes before the limit: the next character has no
more than four. -/
theorem le_byteCount_clipChars (h : n < byteCount cs) : n ≤ byteCount (clipChars n cs) + 3 := by
  fun_induction clipChars n cs with
  | case1 => exact absurd h (Nat.not_lt_zero _)
  | case2 n c cs hfits ih =>
    rw [byteCount_cons] at h ⊢
    have := ih (by omega)
    omega
  | case3 n c cs hfits =>
    have := c.utf8Size_le_four
    omega

/-- The second character of two bytes does not fit. -/
example : clipChars 4 "aéé".toList = ['a', 'é'] := by decide

/-! ### Going back to a boundary -/

/-- The last place up to a byte offset that cuts no character, looked for by going back.  Nothing is
before the first byte. -/
def boundaryUpTo? (bytes : ByteArray) : Nat → Option Nat
  | 0 => if Span.isBoundary bytes 0 then some 0 else none
  | i + 1 => if Span.isBoundary bytes (i + 1) then some (i + 1) else boundaryUpTo? bytes i

theorem boundaryUpTo?_eq_some {bytes : ByteArray} {i k : Nat}
    (hk : Span.isBoundary bytes k = true) (hle : k ≤ i)
    (hlast : ∀ j ≤ i, Span.isBoundary bytes j = true → j ≤ k) :
    boundaryUpTo? bytes i = some k := by
  induction i with
  | zero =>
    obtain rfl := Nat.le_zero.1 hle
    rw [boundaryUpTo?, if_pos hk]
  | succ i ih =>
    rw [boundaryUpTo?]
    split
    · next hi => rw [Nat.le_antisymm hle (hlast _ (Nat.le_refl _) hi)]
    · next hi =>
      have hne : k ≠ i + 1 := fun heq => hi (heq ▸ hk)
      exact ih (by omega) fun j hj => hlast j (by omega)

/-- **Going back from an offset** leads to the end of the characters that fit before it. -/
theorem boundaryUpTo?_utf8Encode (cs : List Char) (n : Nat) :
    boundaryUpTo? cs.utf8Encode n = some (byteCount (clipChars n cs)) := by
  refine boundaryUpTo?_eq_some (Span.isBoundary_iff.2 ⟨_, clipChars_isPrefix n cs, rfl⟩)
    (byteCount_clipChars_le n cs) fun j hj hboundary => ?_
  obtain ⟨as, has, rfl⟩ := Span.isBoundary_iff.1 hboundary
  exact byteCount_le_of_isPrefix (isPrefix_clipChars has hj)

/-- A message cut by going back from the limit.  There is no result if no boundary is found, or if
the text is cut through a character. -/
def cutBack? (message : String) : Option String :=
  if message.utf8ByteSize ≤ messageLimit then some message
  else (boundaryUpTo? message.toUTF8 messageLimit).bind fun i => (Span.front i).slice? message

/-- **Going back from the limit** cuts a message to as many whole characters as fit. -/
theorem cutBack?_eq (message : String) : cutBack? message = some (clipMessage message) := by
  rw [cutBack?, clipMessage]
  split
  · rfl
  · obtain ⟨cs, hcs⟩ := clipChars_isPrefix messageLimit message.toList
    have hslice := Span.slice?_front (clipChars messageLimit message.toList) cs
    rw [hcs, String.ofList_toList] at hslice
    rw [toUTF8_eq, boundaryUpTo?_utf8Encode, Option.bind_some, hslice]

/-! ### Clipped messages -/

/-- What a message is cut to.  It is found by going back from the limit; it is a front part of the
message that ends with a whole character and fits, and the longest. -/
structure Clip (message clipped : String) : Prop where
  found : cutBack? message = some clipped
  front : ∃ rest, message = clipped ++ rest
  boundary : Span.isBoundary message.toUTF8 clipped.utf8ByteSize = true
  size_le : clipped.utf8ByteSize ≤ messageLimit
  longest : ∀ i ≤ messageLimit, Span.isBoundary message.toUTF8 i = true →
    i ≤ clipped.utf8ByteSize
  whole : message.utf8ByteSize ≤ messageLimit → clipped = message
  nearly_full : messageLimit < message.utf8ByteSize → messageLimit ≤ clipped.utf8ByteSize + 3
  again : clipMessage clipped = clipped

theorem toList_clipMessage (message : String) :
    (clipMessage message).toList = clipChars messageLimit message.toList := by
  rw [clipMessage]
  split
  · next h => rw [clipChars_eq_self (utf8ByteSize_eq message ▸ h)]
  · exact String.toList_ofList

/-- **Messages are cut to the longest front part that fits**: at the end of a character, with at
most the limit of 4096 bytes, and at least 4093 if anything is cut off. -/
theorem clipMessage_longest (message : String) : Clip message (clipMessage message) where
  found := cutBack?_eq message
  front := by
    obtain ⟨cs, hcs⟩ := clipChars_isPrefix messageLimit message.toList
    refine ⟨String.ofList cs, String.toList_injective ?_⟩
    rw [String.toList_append, toList_clipMessage, String.toList_ofList, hcs]
  boundary := by
    rw [toUTF8_eq, utf8ByteSize_eq, toList_clipMessage]
    exact Span.isBoundary_iff.2 ⟨_, clipChars_isPrefix _ _, rfl⟩
  size_le := by
    rw [utf8ByteSize_eq, toList_clipMessage]
    exact byteCount_clipChars_le _ _
  longest i hi hboundary := by
    rw [toUTF8_eq] at hboundary
    obtain ⟨as, has, rfl⟩ := Span.isBoundary_iff.1 hboundary
    rw [utf8ByteSize_eq, toList_clipMessage]
    exact byteCount_le_of_isPrefix (isPrefix_clipChars has hi)
  whole := fun h => if_pos h
  nearly_full h := by
    rw [utf8ByteSize_eq] at h ⊢
    rw [toList_clipMessage]
    exact le_byteCount_clipChars h
  again := by
    have hfits : (clipMessage message).utf8ByteSize ≤ messageLimit := by
      rw [utf8ByteSize_eq, toList_clipMessage]
      exact byteCount_clipChars_le _ _
    exact if_pos hfits

end Lookahead
