import TextCursor.Source.Basic

/-!
# Places and characters

The byte offsets of a source are the sizes of the beginnings of its text, so
looking up and cutting by place are looking up and cutting in the list of
characters (`charAt?_eq`, `toList_slice`).
-/

namespace TextCursor

/-- The number of bytes that characters take. -/
def byteLength : List Char → Nat
  | [] => 0
  | char :: chars => char.utf8Size + byteLength chars

@[simp] theorem byteLength_nil : byteLength [] = 0 := rfl

@[simp] theorem byteLength_cons (char : Char) (chars : List Char) :
    byteLength (char :: chars) = char.utf8Size + byteLength chars := rfl

/-- The bytes of joined texts add up. -/
theorem byteLength_append (first second : List Char) :
    byteLength (first ++ second) = byteLength first + byteLength second := by
  induction first with
  | nil => simp
  | cons char first ih => simp [ih, Nat.add_assoc]

/-- What characters take is what the string that is made of them takes. -/
theorem utf8ByteSize_ofList (chars : List Char) :
    (String.ofList chars).utf8ByteSize = byteLength chars := by
  induction chars with
  | nil => rfl
  | cons char chars ih =>
      rw [← List.singleton_append, String.ofList_append, String.utf8ByteSize_append, ih,
        ← String.singleton_eq_ofList, String.utf8ByteSize_singleton]
      rfl

@[simp] theorem length_byteOffsets (start : Nat) (chars : List Char) :
    (byteOffsets start chars).length = chars.length + 1 := by
  induction chars generalizing start with
  | nil => rfl
  | cons char chars ih => simp [byteOffsets, ih]

/-- The offset of a place is the size of the text before it. -/
theorem getElem?_byteOffsets (start place : Nat) (chars : List Char)
    (inside : place ≤ chars.length) :
    (byteOffsets start chars)[place]? = some (start + byteLength (chars.take place)) := by
  induction chars generalizing start place with
  | nil =>
      have first : place = 0 := Nat.le_zero.1 inside
      simp [first, byteOffsets]
  | cons char chars ih =>
      cases place with
      | zero => simp [byteOffsets]
      | succ place =>
          simp only [byteOffsets, List.getElem?_cons_succ]
          rw [ih (start + char.utf8Size) place (Nat.le_of_succ_le_succ inside)]
          simp [Nat.add_assoc]

/-- The byte offsets before and behind a character differ. -/
theorem rawPos_ne (start size : Nat) (char : Char) :
    (⟨start⟩ : String.Pos.Raw) ≠ ⟨start + char.utf8Size + size⟩ := by
  have positive := char.utf8Size_pos
  simp only [ne_eq, String.Pos.Raw.mk.injEq]
  omega

/-- Reading characters up to a byte offset gives the characters stored before it. -/
theorem extract_go₂_byteLength (start count : Nat) (chars : List Char) :
    String.Pos.Raw.extract.go₂ chars ⟨start⟩ ⟨start + byteLength (chars.take count)⟩ =
      chars.take count := by
  induction chars generalizing start count with
  | nil => exact List.take_nil.symm
  | cons char chars ih =>
      have unfolded (stop : String.Pos.Raw) :
          String.Pos.Raw.extract.go₂ (char :: chars) ⟨start⟩ stop =
            if ⟨start⟩ = stop then []
            else char :: String.Pos.Raw.extract.go₂ chars ⟨start + char.utf8Size⟩ stop := rfl
      rw [unfolded]
      cases count with
      | zero => exact if_pos rfl
      | succ count =>
          have different := rawPos_ne start (byteLength (chars.take count)) char
          rw [List.take_succ_cons, byteLength_cons, ← Nat.add_assoc, if_neg different, ih]

/-- Cutting between the offsets of two places gives the characters between them. -/
theorem extract_go₁_byteLength (start first count : Nat) (chars : List Char) :
    String.Pos.Raw.extract.go₁ chars ⟨start⟩ ⟨start + byteLength (chars.take first)⟩
        ⟨start + byteLength (chars.take (first + count))⟩ =
      (chars.drop first).take count := by
  induction chars generalizing start first with
  | nil =>
      have nothing : (([] : List Char).drop first).take count = [] := by simp
      exact nothing.symm
  | cons char chars ih =>
      have unfolded (begin stop : String.Pos.Raw) :
          String.Pos.Raw.extract.go₁ (char :: chars) ⟨start⟩ begin stop =
            if ⟨start⟩ = begin then String.Pos.Raw.extract.go₂ (char :: chars) ⟨start⟩ stop
            else String.Pos.Raw.extract.go₁ chars ⟨start + char.utf8Size⟩ begin stop := rfl
      rw [unfolded]
      cases first with
      | zero =>
          rw [List.take_zero, byteLength_nil, Nat.add_zero, if_pos rfl, Nat.zero_add,
            List.drop_zero]
          exact extract_go₂_byteLength start count (char :: chars)
      | succ first =>
          have different := rawPos_ne start (byteLength (chars.take first)) char
          rw [Nat.succ_add, List.take_succ_cons, List.take_succ_cons, byteLength_cons,
            byteLength_cons, ← Nat.add_assoc, ← Nat.add_assoc, if_neg different, ih,
            List.drop_succ_cons]

/-- Looking up the offset of a place gives the character there. -/
theorem utf8GetAux?_byteLength (start place : Nat) (chars : List Char) :
    String.Pos.Raw.utf8GetAux? chars ⟨start⟩ ⟨start + byteLength (chars.take place)⟩ =
      chars[place]? := by
  induction chars generalizing start place with
  | nil => rfl
  | cons char chars ih =>
      have unfolded (target : String.Pos.Raw) :
          String.Pos.Raw.utf8GetAux? (char :: chars) ⟨start⟩ target =
            if ⟨start⟩ = target then some char
            else String.Pos.Raw.utf8GetAux? chars ⟨start + char.utf8Size⟩ target := rfl
      rw [unfolded]
      cases place with
      | zero => exact if_pos rfl
      | succ place =>
          have different := rawPos_ne start (byteLength (chars.take place)) char
          rw [List.take_succ_cons, byteLength_cons, ← Nat.add_assoc, if_neg different, ih,
            List.getElem?_cons_succ]

/-- Cutting a string is cutting its characters, unless the end is not behind the
beginning. -/
theorem extract_eq (text : String) (first stop : String.Pos.Raw) :
    String.Pos.Raw.extract text first stop =
      if first.byteIdx ≥ stop.byteIdx then ""
      else String.ofList (String.Pos.Raw.extract.go₁ text.toList 0 first stop) := rfl

namespace Source

@[simp] theorem text_ofString (text : String) : (ofString text).text = text := rfl

/-- Places count characters. -/
@[simp] theorem length_eq (source : Source) : source.length = source.text.toList.length := by
  rw [length, ← Array.length_toList, source.toList_offsets, length_byteOffsets]
  rfl

/-- The table has an entry for every place of the text and for its end: the size of the text
before it. -/
theorem getElem?_offsets (source : Source) {place : Nat} (inside : place ≤ source.length) :
    source.offsets[place]? = some (byteLength (source.text.toList.take place)) := by
  rw [length_eq] at inside
  have found := getElem?_byteOffsets 0 place source.text.toList inside
  rw [← source.toList_offsets, Array.getElem?_toList, Nat.zero_add] at found
  exact found

/-- The offset of a place is the size of the text before it. -/
theorem offset_eq (source : Source) {place : Nat} (inside : place ≤ source.length) :
    source.offset place = byteLength (source.text.toList.take place) := by
  rw [offset, Array.getD_eq_getD_getElem?, source.getElem?_offsets inside]
  rfl

theorem offset_le (source : Source) {first stop : Nat} (ordered : first ≤ stop)
    (inside : stop ≤ source.length) : source.offset first ≤ source.offset stop := by
  obtain ⟨count, rfl⟩ := Nat.exists_eq_add_of_le ordered
  rw [source.offset_eq inside, source.offset_eq (Nat.le_trans ordered inside), List.take_add,
    byteLength_append]
  exact Nat.le_add_right _ _

/-- The end of the text is behind all of its bytes. -/
theorem offset_length (source : Source) :
    source.offset source.length = source.text.utf8ByteSize := by
  rw [source.offset_eq (Nat.le_refl _), length_eq, List.take_length,
    ← utf8ByteSize_ofList, String.ofList_toList]

/-- No entry of the table of offsets lies within a character. -/
theorem isValid_offset (source : Source) {place : Nat} (inside : place ≤ source.length) :
    String.Pos.Raw.IsValid source.text ⟨source.offset place⟩ := by
  apply String.Pos.Raw.isValid_iff_exists_take_toList.2
  refine ⟨place, ?_⟩
  rw [utf8ByteSize_ofList, source.offset_eq inside]

/-- A place holds the character that the list of characters has there. -/
theorem charAt?_eq (source : Source) (place : Int) :
    source.charAt? place =
      if 0 ≤ place then source.text.toList[place.toNat]? else none := by
  unfold charAt?
  by_cases inside : 0 ≤ place ∧ place.toNat < source.length
  · rw [if_pos inside, if_pos inside.1, source.offset_eq (Nat.le_of_lt inside.2)]
    have found := utf8GetAux?_byteLength 0 place.toNat source.text.toList
    rw [Nat.zero_add] at found
    exact found
  · rw [if_neg inside]
    split
    · rename_i positive
      rw [List.getElem?_eq_none]
      rw [← length_eq]
      exact Nat.le_of_not_lt fun below => inside ⟨positive, below⟩
    · rfl

/-- A place that holds a character is inside the text. -/
theorem lt_of_charAt? {source : Source} {place : Nat} {char : Char}
    (found : source.charAt? place = some char) : place < source.length := by
  rw [charAt?_eq, if_pos (Int.natCast_nonneg place), Int.toNat_natCast] at found
  rw [length_eq]
  exact (List.getElem?_eq_some_iff.1 found).1

/-- A slice holds the characters between its two places. -/
theorem toList_slice (source : Source) {first stop : Nat} (ordered : first ≤ stop)
    (inside : stop ≤ source.length) :
    (source.slice first stop).toList = (source.text.toList.drop first).take (stop - first) := by
  obtain ⟨count, rfl⟩ := Nat.exists_eq_add_of_le ordered
  rw [slice, source.offset_eq inside, source.offset_eq (Nat.le_trans ordered inside),
    Nat.add_sub_cancel_left, extract_eq]
  have cut := extract_go₁_byteLength 0 first count source.text.toList
  rw [Nat.zero_add, Nat.zero_add] at cut
  split
  · rename_i reversed
    simp only [ge_iff_le, List.take_add, byteLength_append] at reversed
    cases remaining : (source.text.toList.drop first).take count with
    | nil => rfl
    | cons char chars =>
        have positive := char.utf8Size_pos
        rw [remaining, byteLength_cons] at reversed
        omega
  · rw [String.toList_ofList]
    exact cut

/-- A slice without width is empty. -/
@[simp] theorem slice_self (source : Source) (place : Nat) : source.slice place place = "" := by
  rw [slice, extract_eq, if_pos (Nat.le_refl _)]

/-- A slice with a width is not empty. -/
theorem slice_ne_empty (source : Source) {first stop : Nat} (ordered : first < stop)
    (inside : stop ≤ source.length) : source.slice first stop ≠ "" := by
  intro empty
  have chars := source.toList_slice (Nat.le_of_lt ordered) inside
  rw [empty] at chars
  have lengths := congrArg List.length chars
  rw [length_eq] at inside
  simp only [String.toList_empty, List.length_nil, List.length_take, List.length_drop] at lengths
  omega

end Source

end TextCursor
