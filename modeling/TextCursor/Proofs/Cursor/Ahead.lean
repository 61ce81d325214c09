import TextCursor.Cursor.Progress

/-!
# The characters ahead

Every answer of a cursor can be told from the characters that lie ahead of it.
Here each operation is said once in terms of them: what a name covers at the
beginning of a text (`probe?_eq`), and which characters are ahead after a move
(`Advanced.ahead_eq`).  Later modules reason about lists of characters and leave
places, slices and byte offsets alone.
-/

namespace TextCursor

/-- The length of a text, if it is not empty and the characters begin with it. -/
def prefixLength? (text : String) (chars : List Char) : Option Nat :=
  if text ≠ "" ∧ text.toList <+: chars then some text.length else none

/-- The number of characters that a name covers at the beginning of a text. -/
def Registry.covers? (registry : Registry) (name : String) (chars : List Char) : Option Nat :=
  match registry.classify? name with
  | some (.pattern rule) =>
      match chars with
      | char :: _ => if rule.searchChar char then some 1 else none
      | [] => none
  | some (.literal text) => prefixLength? text chars
  | none => prefixLength? (ClassName.literalText name) chars

theorem prefixLength?_eq_some {text : String} {chars : List Char} {count : Nat}
    (found : prefixLength? text chars = some count) :
    0 < count ∧ count = text.length ∧ chars = text.toList ++ chars.drop count := by
  simp only [prefixLength?] at found
  split at found
  · rename_i fits
    cases found
    obtain ⟨rest, rfl⟩ := fits.2
    refine ⟨?_, rfl, ?_⟩
    · apply Nat.pos_of_ne_zero
      intro empty
      exact fits.1 (String.length_eq_zero_iff.1 empty)
    · rw [← String.length_toList, List.drop_left]
  · cases found

/-- What is covered is the text itself. -/
theorem take_of_prefixLength? {text : String} {chars : List Char} {count : Nat}
    (found : prefixLength? text chars = some count) : chars.take count = text.toList := by
  obtain ⟨-, size, split⟩ := prefixLength?_eq_some found
  rw [split, size, ← String.length_toList, List.take_left]

@[simp] theorem prefixLength?_nil (text : String) : prefixLength? text [] = none := by
  simp [prefixLength?, List.prefix_nil]

/-- No name covers anything at the end of a text. -/
@[simp] theorem Registry.covers?_nil (registry : Registry) (name : String) :
    registry.covers? name [] = none := by
  simp only [covers?, prefixLength?_nil]
  cases registry.classify? name with
  | none => rfl
  | some matcher => cases matcher <;> rfl

namespace Cursor

variable {σ : Type}

/-- The characters that have not been consumed. -/
def ahead (cursor : Cursor) : List Char := cursor.remaining.toList

theorem ahead_eq (cursor : Cursor) :
    cursor.ahead =
      if -1 ≤ cursor.position then
        cursor.source.text.toList.drop (cursor.position + 1).toNat
      else [] := by
  simp only [ahead, remaining, head?]
  by_cases started : -1 ≤ cursor.position
  · by_cases before : cursor.position < cursor.source.length
    · rw [if_pos ⟨started, before⟩, if_pos started]
      simp only
      rw [Source.toList_slice _ (by omega) (Nat.le_refl _), List.take_of_length_le]
      simp
    · rw [if_neg fun inside => before inside.2, if_pos started, List.drop_eq_nil_of_le]
      · rfl
      · rw [Source.length_eq] at before
        omega
  · rw [if_neg fun inside => started inside.1, if_neg started]
    rfl

/-- From a position that is not before the start, the characters ahead are those
behind the position. -/
theorem ahead_of_started {cursor : Cursor} (started : -1 ≤ cursor.position) :
    cursor.ahead = cursor.source.text.toList.drop (cursor.position + 1).toNat := by
  rw [ahead_eq, if_pos started]

theorem ahead_of_head? {cursor : Cursor} {head : Nat} (found : cursor.head? = some head) :
    cursor.ahead = cursor.source.text.toList.drop head := by
  have inside := inside_of_head? found
  rw [ahead_of_started inside.1, ← inside.2.2, Int.toNat_natCast]

theorem ahead_of_head?_eq_none {cursor : Cursor} (missing : cursor.head? = none) :
    cursor.ahead = [] := by
  simp only [ahead, remaining, missing]
  rfl

@[simp] theorem length_ahead (cursor : Cursor) : cursor.ahead.length = cursor.left := by
  cases found : cursor.head? with
  | none => rw [ahead_of_head?_eq_none found, left, found]; rfl
  | some head =>
      rw [ahead_of_head? found, left, found, List.length_drop, ← Source.length_eq]

theorem atEnd_iff (cursor : Cursor) : cursor.atEnd = true ↔ cursor.ahead = [] := by
  rw [atEnd, beq_iff_eq, ← length_ahead, List.length_eq_zero_iff]

/-- The next character is the first one ahead. -/
theorem peek?_eq (cursor : Cursor) : cursor.peek? = cursor.ahead.head? := by
  rw [peek?, Source.charAt?_eq, ahead_eq]
  by_cases started : -1 ≤ cursor.position
  · rw [if_pos (by omega), if_pos started, List.head?_drop]
  · rw [if_neg (by omega), if_neg started]
    rfl

/-- A slice from the place to read from holds the first characters ahead. -/
theorem toList_slice_head {cursor : Cursor} {head count : Nat}
    (found : cursor.head? = some head) (available : count ≤ cursor.left) :
    (cursor.source.slice head (head + count)).toList = cursor.ahead.take count := by
  have inside := inside_of_head? found
  have size := left_of_head? found
  rw [Source.toList_slice _ (Nat.le_add_right _ _) (by omega), ahead_of_head? found,
    Nat.add_sub_cancel_left]

/-! ## Names -/

theorem literalLength?_eq (cursor : Cursor) (place : Nat) (text : String) :
    cursor.literalLength? place text =
      prefixLength? text (cursor.source.text.toList.drop place) := by
  simp only [literalLength?, prefixLength?, String.length_eq_zero_iff]
  rw [Source.length_eq]
  by_cases empty : text = ""
  · rw [if_pos (Or.inl empty), if_neg fun fits => fits.1 empty]
  · by_cases short : cursor.source.text.toList.length < place + text.length
    · rw [if_pos (Or.inr short), if_neg]
      rintro ⟨-, fits⟩
      have bound := fits.length_le
      have positive := Nat.pos_of_ne_zero (mt String.length_eq_zero_iff.1 empty)
      rw [List.length_drop, String.length_toList] at bound
      omega
    · rw [if_neg fun outside => outside.elim empty short]
      have cut := Source.toList_slice cursor.source (Nat.le_add_right place text.length)
        (by rw [Source.length_eq]; exact Nat.le_of_not_lt short)
      rw [Nat.add_sub_cancel_left] at cut
      congr 1
      rw [eq_iff_iff, ← String.toList_inj, cut, List.prefix_iff_eq_take, String.length_toList]
      exact ⟨fun same => ⟨empty, same.symm⟩, fun fits => fits.2.symm⟩

theorem matchLength?_eq (cursor : Cursor) (place : Nat) (name : String) :
    cursor.matchLength? place name =
      cursor.registry.covers? name (cursor.source.text.toList.drop place) := by
  simp only [matchLength?, Registry.covers?, literalLength?_eq, Source.charAt?_eq,
    Int.natCast_nonneg, if_pos, Int.toNat_natCast, ← List.head?_drop]
  cases cursor.registry.classify? name with
  | none => rfl
  | some matcher =>
      cases matcher with
      | literal text => rfl
      | pattern rule => cases cursor.source.text.toList.drop place <;> rfl

/-- A name covers what is ahead as it covers any text. -/
theorem probe?_eq (cursor : Cursor) (name : String) :
    cursor.probe? name = cursor.registry.covers? name cursor.ahead := by
  cases found : cursor.head? with
  | none => rw [ahead_of_head?_eq_none found, Registry.covers?_nil, probe?, found]
  | some head =>
      rw [ahead_of_head? found, ← matchLength?_eq, probe?, found]

theorem accept_of_covers {cursor : Cursor} {name : String} {count : Nat}
    (covered : cursor.registry.covers? name cursor.ahead = some count) :
    cursor.accept name = (true, cursor.consume count) := by
  rw [← probe?_eq] at covered
  simp [accept, acceptAny, probeAny?, covered]

theorem accept_of_not_covers {cursor : Cursor} {name : String}
    (uncovered : cursor.registry.covers? name cursor.ahead = none) :
    cursor.accept name = (false, cursor) := by
  rw [← probe?_eq] at uncovered
  simp [accept, acceptAny, probeAny?, uncovered]

/-! ## Moves -/

/-- The later cursor is a number of characters further on in the same text, and reads
it with the same classes and as much room for its history. -/
structure Advanced (later earlier : Cursor) (count : Nat) : Prop where
  source_eq : later.source = earlier.source
  registry_eq : later.registry = earlier.registry
  capacity_eq : later.history.capacity = earlier.history.capacity
  position_eq : later.position = earlier.position + count

namespace Advanced

variable {last later earlier : Cursor} {count further : Nat}

theorem refl (cursor : Cursor) : Advanced cursor cursor 0 :=
  ⟨rfl, rfl, rfl, (Int.add_zero _).symm⟩

theorem trans (second : Advanced last later further) (first : Advanced later earlier count) :
    Advanced last earlier (count + further) := by
  constructor
  · exact second.source_eq.trans first.source_eq
  · exact second.registry_eq.trans first.registry_eq
  · exact second.capacity_eq.trans first.capacity_eq
  · rw [second.position_eq, first.position_eq, Int.natCast_add, Int.add_assoc]

theorem started (advanced : Advanced later earlier count)
    (before : -1 ≤ earlier.position) : -1 ≤ later.position := by
  rw [advanced.position_eq]
  exact Int.le_trans before (Int.le_add_of_nonneg_right (Int.natCast_nonneg count))

/-- Moving on leaves the characters behind that were passed. -/
theorem ahead_eq (advanced : Advanced later earlier count)
    (before : -1 ≤ earlier.position) : later.ahead = earlier.ahead.drop count := by
  rw [ahead_of_started (advanced.started before), ahead_of_started before,
    advanced.source_eq, advanced.position_eq, List.drop_drop]
  congr 1
  omega

end Advanced

theorem advanced_consume (cursor : Cursor) (count : Nat) :
    Advanced (cursor.consume count) cursor count := ⟨rfl, rfl, rfl, rfl⟩

theorem left_pos_of_ahead {cursor : Cursor} {char : Char} {chars : List Char}
    (some : cursor.ahead = char :: chars) : 0 < cursor.left := by
  rw [← length_ahead, some]
  exact Nat.succ_pos _

/-- With a character ahead, the next step gives it and moves over it. -/
theorem next_of_ahead {cursor : Cursor} {char : Char} {chars : List Char}
    (some : cursor.ahead = char :: chars) :
    cursor.next.1 = Option.some char ∧ Advanced cursor.next.2 cursor 1 := by
  have moved := position_skip_of_left_pos (left_pos_of_ahead some)
  have same : cursor.skip.source = cursor.source := (follows_skip cursor).source_eq
  constructor
  · have peeked := peek?_eq cursor
    rw [some] at peeked
    simp only [next, value?, same, moved]
    exact peeked
  · refine ⟨same, ?_, ?_, moved⟩
    · simp only [next, skip]
      split <;> rfl
    · simp only [next, skip]
      split <;> rfl

/-- Consume a number of characters, and remember the position only if there are any. -/
def pass (cursor : Cursor) (count : Nat) : Cursor :=
  if count = 0 then cursor else cursor.consume count

theorem pass_eq (cursor : Cursor) (count : Nat) :
    cursor.pass count =
      { cursor with
        position := cursor.position + count
        history := if count = 0 then cursor.history else cursor.history.push cursor.position } := by
  rw [pass]
  split
  · rename_i nothing
    rw [nothing, Int.natCast_zero, Int.add_zero]
  · rfl

theorem advanced_pass (cursor : Cursor) (count : Nat) :
    Advanced (cursor.pass count) cursor count := by
  simp only [pass]
  split
  · rename_i nothing
    subst nothing
    exact Advanced.refl cursor
  · exact advanced_consume cursor count

/-- Behind characters that are consumed are the others that were ahead. -/
theorem ahead_consume {cursor : Cursor} (some : 0 < cursor.left) (count : Nat) :
    (cursor.consume count).ahead = cursor.ahead.drop count :=
  (advanced_consume cursor count).ahead_eq (inside_of_left_pos some).1

theorem ahead_consume_one {cursor : Cursor} {char : Char} {chars : List Char}
    (some : cursor.ahead = char :: chars) : (cursor.consume 1).ahead = chars := by
  rw [ahead_consume (left_pos_of_ahead some), some, List.drop_one, List.tail_cons]

/-- Behind characters that are passed are the others that were ahead. -/
theorem ahead_pass {cursor : Cursor} {count : Nat} (available : count ≤ cursor.left) :
    (cursor.pass count).ahead = cursor.ahead.drop count := by
  by_cases nothing : count = 0
  · rw [pass, if_pos nothing, nothing, List.drop_zero]
  · rw [pass, if_neg nothing]
    exact ahead_consume (Nat.lt_of_lt_of_le (Nat.pos_of_ne_zero nothing) available) count

end Cursor

end TextCursor
