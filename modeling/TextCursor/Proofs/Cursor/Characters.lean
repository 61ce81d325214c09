import TextCursor.Proofs.Cursor.Consumption

/-!
# Bytes and characters

A cursor reads its text through byte offsets, and nothing of this can be seen.  The table
of offsets marks where every character begins and the text ends (`Source.Marks`), so between
two entries stand the bytes of the characters between the two places.  What a cursor shows and
reads is what one shows and reads that has a list of characters and a position, and knows
nothing about bytes (`Cursor.Refines`).
-/

namespace TextCursor

/-- The character at a place of a list, if the place lies in it. -/
def characterAt? (chars : List Char) (place : Int) : Option Char :=
  if 0 ≤ place then chars[place.toNat]? else none

/-! ## The table of offsets -/

/-- The source holds the characters of a list, and its table says where each of them begins and
where the last one ends. -/
structure Source.Marks (source : Source) (chars : List Char) : Prop where
  length_eq : source.length = chars.length
  size_offsets : source.offsets.size = chars.length + 1
  first : source.offsets[0]? = some 0
  increasing : source.offsets.toList.Pairwise (· < ·)
  /-- An entry is the size of the text before its place. -/
  getElem?_offsets : ∀ place, place ≤ chars.length →
    source.offsets[place]? = some (String.ofList (chars.take place)).utf8ByteSize
  /-- No entry lies within a character. -/
  isValid_offset : ∀ place, place ≤ chars.length →
    String.Pos.Raw.IsValid source.text ⟨source.offset place⟩
  /-- Between two entries stand the bytes of the characters between the two places. -/
  bytes_between : ∀ first stop, first ≤ stop → stop ≤ chars.length →
    source.text.toByteArray.extract (source.offset first) (source.offset stop) =
      ((chars.drop first).take (stop - first)).utf8Encode
  slice_eq : ∀ first stop, first ≤ stop → stop ≤ chars.length →
    source.slice first stop = String.ofList ((chars.drop first).take (stop - first))
  charAt?_eq : ∀ place, source.charAt? place = characterAt? chars place

theorem le_of_mem_byteOffsets {start offset : Nat} {chars : List Char}
    (member : offset ∈ byteOffsets start chars) : start ≤ offset := by
  induction chars generalizing start with
  | nil =>
      rw [byteOffsets, List.mem_singleton] at member
      exact Nat.le_of_eq member.symm
  | cons char chars ih =>
      rcases List.mem_cons.1 member with rfl | later
      · exact Nat.le_refl _
      · exact Nat.le_of_add_right_le (ih later)

/-- Every character takes at least a byte. -/
theorem pairwise_lt_byteOffsets (start : Nat) (chars : List Char) :
    (byteOffsets start chars).Pairwise (· < ·) := by
  induction chars generalizing start with
  | nil => exact List.pairwise_singleton _ _
  | cons char chars ih =>
      refine .cons ?_ (ih _)
      intro offset later
      have positive := char.utf8Size_pos
      have behind := le_of_mem_byteOffsets later
      omega

theorem size_utf8Encode (chars : List Char) : chars.utf8Encode.size = byteLength chars := by
  rw [← String.toByteArray_ofList]
  exact utf8ByteSize_ofList chars

/-- The bytes of characters in the middle of a list stand behind the bytes of the characters
before them. -/
theorem extract_utf8Encode (chars : List Char) (first count : Nat) :
    chars.utf8Encode.extract (byteLength (chars.take first))
        (byteLength (chars.take (first + count))) =
      ((chars.drop first).take count).utf8Encode := by
  have split : chars.utf8Encode = (chars.take first).utf8Encode ++
      (((chars.drop first).take count).utf8Encode ++
        ((chars.drop first).drop count).utf8Encode) := by
    rw [← List.utf8Encode_append, List.take_append_drop, ← List.utf8Encode_append,
      List.take_append_drop]
  have before := (size_utf8Encode (chars.take first)).symm
  have inner := (size_utf8Encode ((chars.drop first).take count)).symm
  rw [List.take_add, byteLength_append, split]
  calc
    _ = _ := ByteArray.extract_append_size_add' (i := 0) before
    _ = _ := ByteArray.extract_append_eq_left inner

namespace Source

theorem marks_toList (source : Source) : source.Marks source.text.toList := by
  have table := source.toList_offsets
  refine
    { length_eq := source.length_eq
      size_offsets := ?_
      first := source.getElem?_offsets (Nat.zero_le _)
      increasing := ?_
      getElem?_offsets := ?_
      isValid_offset := ?_
      bytes_between := ?_
      slice_eq := ?_
      charAt?_eq := source.charAt?_eq }
  · rw [← Array.length_toList, table, length_byteOffsets]
  · rw [table]
    exact pairwise_lt_byteOffsets 0 source.text.toList
  · intro place inside
    rw [utf8ByteSize_ofList]
    exact source.getElem?_offsets (source.length_eq ▸ inside)
  · intro place inside
    exact source.isValid_offset (source.length_eq ▸ inside)
  · intro first stop ordered inside
    rw [← source.length_eq] at inside
    obtain ⟨count, rfl⟩ := Nat.exists_eq_add_of_le ordered
    rw [source.offset_eq inside, source.offset_eq (Nat.le_trans ordered inside),
      Nat.add_sub_cancel_left, ← extract_utf8Encode, ← String.toByteArray_ofList,
      String.ofList_toList]
  · intro first stop ordered inside
    rw [← source.toList_slice ordered (source.length_eq ▸ inside), String.ofList_toList]

end Source

/-! ## Cursors over lists -/

/-- A list of characters and a position in it. -/
structure ListCursor where
  chars : List Char
  position : Int

namespace ListCursor

/-- The character at the position. -/
def value? (cursor : ListCursor) : Option Char := characterAt? cursor.chars cursor.position

/-- The next character. -/
def peek? (cursor : ListCursor) : Option Char := characterAt? cursor.chars (cursor.position + 1)

/-- The characters ahead; from a position before the start there are none. -/
def remaining (cursor : ListCursor) : List Char :=
  if -1 ≤ cursor.position then cursor.chars.drop (cursor.position + 1).toNat else []

/-- Take at most the given number of characters. -/
def read (cursor : ListCursor) (count : Nat) : List Char × ListCursor :=
  let taken := cursor.remaining.take count
  (taken, { cursor with position := cursor.position + taken.length })

end ListCursor

namespace Cursor

/-- The cursor shows and reads what a cursor over a list shows and reads. -/
structure Refines (cursor : Cursor) (plain : ListCursor) : Prop where
  value?_eq : cursor.value? = plain.value?
  peek?_eq : cursor.peek? = plain.peek?
  remaining_eq : cursor.remaining = String.ofList plain.remaining
  text_read : ∀ count, (cursor.read count).1 = String.ofList (plain.read count).1
  position_read : ∀ count, (cursor.read count).2.position = (plain.read count).2.position

/-- A cursor reads its text as a list of characters. -/
theorem refines_toList (cursor : Cursor) :
    cursor.Refines ⟨cursor.source.text.toList, cursor.position⟩ := by
  have remaining : cursor.ahead =
      (⟨cursor.source.text.toList, cursor.position⟩ : ListCursor).remaining := cursor.ahead_eq
  refine
    { value?_eq := cursor.source.charAt?_eq _
      peek?_eq := cursor.source.charAt?_eq _
      remaining_eq := ?_
      text_read := ?_
      position_read := ?_ }
  · rw [← remaining, ahead, String.ofList_toList]
  · intro count
    rw [ListCursor.read, ← remaining, ← toList_read, String.ofList_toList]
  · intro count
    rw [ListCursor.read, ← remaining, List.length_take, length_ahead]
    rfl

/-- The table of offsets of a new cursor marks the characters of its text, and at whatever
position the cursor is then, with whatever history, it shows and reads what a cursor over the
list of these characters does. -/
theorem marks_ofString_and_refines (text : String) (config : Config) :
    (ofString text config).source.Marks text.toList ∧
      ∀ (position : Int) (history : BoundedStack Int),
        Refines { ofString text config with position := position, history := history }
          ⟨text.toList, position⟩ :=
  ⟨Source.marks_toList _, fun _ _ => refines_toList _⟩

/-- Characters of one to four bytes. -/
example : (Source.ofString "aé変😀").offsets = #[0, 1, 3, 6, 10] := by decide

end Cursor

end TextCursor
