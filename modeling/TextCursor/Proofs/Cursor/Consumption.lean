import TextCursor.Proofs.Cursor.Ahead
import TextCursor.Proofs.Cursor.Steps

/-!
# What is consumed

On its way forward a cursor hands out its text piece by piece.  Every operation that
neither jumps nor goes back consumes a text, though it may be empty: what it answers,
what the fitting name spells, or the character that was next.  That text was ahead
of the cursor, and what is ahead afterwards is the rest (`Consumed.perform`), so a
run of such operations loses, repeats and reorders nothing
(`join_consumedTexts_append_remaining`).
-/

namespace TextCursor.Cursor

variable {σ : Type}

/-- Whether an operation neither jumps nor goes back. -/
def Operation.isForward : Operation σ → Bool
  | .next | .skip | .acceptAny _ | .acceptClass _ | .check _ => true
  | .read _ | .readWhile _ | .readUntil _ => true
  | .jump _ | .reset | .undo => false

/-- The text of the next character; at the end of the text it is empty. -/
def nextText (cursor : Cursor) : String := cursor.peek?.elim "" Char.toString

/-- The text that a name spells where it fits: the next character for a class with a
pattern, and otherwise the whole text that the name stands for. -/
def spelling (cursor : Cursor) (name : String) : String :=
  match cursor.registry.classify? name with
  | some (.pattern _) => cursor.nextText
  | some (.literal text) => text
  | none => ClassName.literalText name

/-- The text that the first fitting one of several names matches. -/
def matchedText (cursor : Cursor) (candidates : List String) : String :=
  (candidates.find? cursor.check).elim "" cursor.spelling

/-- The text that an operation consumes. -/
def consumedText (cursor : Cursor) (state : σ) : Operation σ → String
  | .next | .skip => cursor.nextText
  | .acceptAny candidates => cursor.matchedText candidates
  | .acceptClass charClass => cursor.matchedText [charClass.name]
  | .read count => (cursor.read count).1
  | .readWhile predicate => (cursor.readWhile predicate state).text
  | .readUntil predicate => (cursor.readUntil predicate state).text
  | .check _ | .jump _ | .reset | .undo => ""

/-- The texts that several operations consume, in order. -/
def consumedTexts (cursor : Cursor) (state : σ) : List (Operation σ) → List String
  | [] => []
  | operation :: operations =>
      let outcome := cursor.perform state operation
      cursor.consumedText state operation ::
        consumedTexts outcome.cursor outcome.state operations

/-! ## Each text is what was ahead -/

theorem toList_nextText (cursor : Cursor) : cursor.nextText.toList = cursor.ahead.take 1 := by
  rw [nextText, peek?_eq]
  cases cursor.ahead with
  | nil => rfl
  | cons char chars => exact String.toList_singleton char

theorem toList_read (cursor : Cursor) (count : Nat) :
    (cursor.read count).1.toList = cursor.ahead.take count := by
  cases found : cursor.head? with
  | none =>
      rw [ahead_of_head?_eq_none found, read, found, List.take_nil]
      rfl
  | some head =>
      have cut := toList_slice_head found (Nat.min_le_right count cursor.left)
      rw [← length_ahead, ← List.take_eq_take_min] at cut
      simp only [read, found, ← length_ahead]
      exact cut

/-- What a name spells is as much of the text ahead as it covers. -/
theorem toList_spelling {cursor : Cursor} {name : String} {count : Nat}
    (covered : cursor.registry.covers? name cursor.ahead = some count) :
    (cursor.spelling name).toList = cursor.ahead.take count := by
  simp only [Registry.covers?] at covered
  simp only [spelling]
  cases registered : cursor.registry.classify? name with
  | none =>
      rw [registered] at covered
      exact (take_of_prefixLength? covered).symm
  | some matcher =>
      rw [registered] at covered
      cases matcher with
      | literal text => exact (take_of_prefixLength? covered).symm
      | pattern rule =>
          simp only at covered
          split at covered
          · split at covered
            · cases covered
              exact toList_nextText cursor
            · cases covered
          · cases covered

theorem probeAny?_eq_bind (cursor : Cursor) (candidates : List String) :
    cursor.probeAny? candidates = (candidates.find? cursor.check).bind cursor.probe? := by
  induction candidates with
  | nil => rfl
  | cons name names ih =>
      rw [probeAny?] at ih
      rw [probeAny?, List.findSome?_cons, List.find?_cons, check]
      cases covered : cursor.probe? name with
      | some count => simp [covered]
      | none => simp [ih]

/-- Accepting one of several names moves over the text that is matched. -/
theorem acceptAny_split (cursor : Cursor) (candidates : List String) :
    ∃ count, count ≤ cursor.left ∧
      (cursor.matchedText candidates).toList = cursor.ahead.take count ∧
      Advanced (cursor.acceptAny candidates).2 cursor count := by
  rw [acceptAny, matchedText, probeAny?_eq_bind]
  cases first : candidates.find? cursor.check with
  | none => exact ⟨0, Nat.zero_le _, rfl, Advanced.refl cursor⟩
  | some name =>
      have fits : cursor.check name = true := List.find?_some first
      obtain ⟨count, covered⟩ := Option.isSome_iff_exists.1 fits
      refine ⟨count, (probe?_bounds covered).2, ?_, ?_⟩
      · rw [probe?_eq] at covered
        exact toList_spelling covered
      · rw [Option.bind_some, covered]
        exact advanced_consume cursor count

/-- Reading a run moves over the text that is read, whatever its tests remember. -/
theorem readRun_split (cursor : Cursor) (predicate : Predicate σ) (wanted : Bool) (state : σ) :
    ∃ count, count ≤ cursor.left ∧
      (cursor.readRun predicate wanted state).text.toList = cursor.ahead.take count ∧
      Advanced (cursor.readRun predicate wanted state).cursor cursor count := by
  cases found : cursor.head? with
  | none =>
      rw [readRun, found]
      exact ⟨0, Nat.zero_le _, rfl, Advanced.refl cursor⟩
  | some head =>
      have bound := extent_le cursor predicate wanted head cursor.left 0 state
      rw [Nat.zero_add] at bound
      simp only [readRun, found]
      exact ⟨_, bound, toList_slice_head found bound, advanced_pass cursor _⟩

/-! ## What is left is the rest -/

/-- The position is the place of a character, or next to the first or last one. -/
structure Inside (cursor : Cursor) : Prop where
  started : -1 ≤ cursor.position
  stopped : cursor.position ≤ cursor.source.length

/-- The text is what was consumed between two moments. -/
structure Consumed (text : String) (later earlier : Cursor) : Prop where
  source_eq : later.source = earlier.source
  inside : Inside later
  ahead_eq : earlier.ahead = text.toList ++ later.ahead

namespace Consumed

variable {text further : String} {last later earlier cursor : Cursor} {count : Nat}

theorem refl (inside : Inside cursor) : Consumed "" cursor cursor := ⟨rfl, inside, rfl⟩

theorem trans (second : Consumed further last later) (first : Consumed text later earlier) :
    Consumed (text ++ further) last earlier := by
  constructor
  · exact second.source_eq.trans first.source_eq
  · exact second.inside
  · rw [first.ahead_eq, second.ahead_eq, String.toList_append, List.append_assoc]

/-- Moving over characters that are ahead consumes them. -/
theorem of_advanced (inside : Inside earlier) (available : count ≤ earlier.left)
    (taken : text.toList = earlier.ahead.take count) (advanced : Advanced later earlier count) :
    Consumed text later earlier := by
  have started := advanced.started inside.started
  refine ⟨advanced.source_eq, ⟨started, ?_⟩, ?_⟩
  · have size := left_eq earlier inside.started
    have stopped := inside.stopped
    rw [advanced.source_eq, advanced.position_eq]
    omega
  · rw [taken, advanced.ahead_eq inside.started, List.take_append_drop]

/-- A step consumes the next character, and nothing at the end of the text. -/
theorem skip (inside : Inside cursor) : Consumed cursor.nextText cursor.skip cursor := by
  by_cases before : cursor.position < cursor.source.length
  · have moved : Advanced cursor.skip cursor 1 := by
      rw [Cursor.skip, if_pos before]
      exact ⟨rfl, rfl, rfl, rfl⟩
    refine ⟨moved.source_eq, ⟨moved.started inside.started, ?_⟩, ?_⟩
    · rw [moved.source_eq, moved.position_eq]
      omega
    · rw [toList_nextText, moved.ahead_eq inside.started, List.take_append_drop]
  · have finished : cursor.ahead = [] := by
      rw [← List.length_eq_zero_iff, length_ahead, left_eq cursor inside.started]
      omega
    rw [Cursor.skip, if_neg before]
    refine ⟨rfl, inside, ?_⟩
    rw [toList_nextText, finished]
    rfl

/-- An operation that goes forward consumes its text and nothing else. -/
theorem perform (inside : Inside cursor) (state : σ) {operation : Operation σ}
    (forward : operation.isForward = true) :
    Consumed (cursor.consumedText state operation) (cursor.perform state operation).cursor
      cursor := by
  have accepts : ∀ candidates,
      Consumed (cursor.matchedText candidates) (cursor.acceptAny candidates).2 cursor := by
    intro candidates
    obtain ⟨count, available, taken, advanced⟩ := acceptAny_split cursor candidates
    exact of_advanced inside available taken advanced
  have reads : ∀ predicate wanted,
      Consumed (cursor.readRun predicate wanted state).text
        (cursor.readRun predicate wanted state).cursor cursor := by
    intro predicate wanted
    obtain ⟨count, available, taken, advanced⟩ := readRun_split cursor predicate wanted state
    exact of_advanced inside available taken advanced
  cases operation with
  | next => exact skip inside
  | skip => exact skip inside
  | jump target => cases forward
  | reset => cases forward
  | undo => cases forward
  | acceptAny candidates => exact accepts candidates
  | acceptClass charClass => exact accepts [charClass.name]
  | check name => exact refl inside
  | read count =>
      apply of_advanced inside (Nat.min_le_right count cursor.left) _ (advanced_consume cursor _)
      rw [← length_ahead, ← List.take_eq_take_min]
      exact toList_read cursor count
  | readWhile predicate => exact reads predicate true
  | readUntil predicate => exact reads predicate false

/-- Operations that go forward consume their texts and nothing else. -/
theorem after (inside : Inside cursor) (state : σ) {operations : List (Operation σ)}
    (forward : ∀ operation ∈ operations, operation.isForward = true) :
    Consumed (String.join (cursor.consumedTexts state operations))
      (cursor.after state operations).1 cursor := by
  induction operations generalizing cursor state with
  | nil => exact refl inside
  | cons operation operations ih =>
      have first := perform inside state (forward operation List.mem_cons_self)
      have rest := ih first.inside (cursor.perform state operation).state fun other member =>
        forward other (List.mem_cons_of_mem _ member)
      rw [consumedTexts, String.join_cons]
      exact rest.trans first

/-- The number of places passed grows with the text that is consumed. -/
theorem passed_eq (inside : Inside earlier) (consumed : Consumed text later earlier) :
    min (later.position + 1) later.source.length =
      min (earlier.position + 1) earlier.source.length + text.length := by
  have lengths := congrArg List.length consumed.ahead_eq
  rw [List.length_append, length_ahead, length_ahead, left_eq earlier inside.started,
    left_eq later consumed.inside.started, String.length_toList, consumed.source_eq] at lengths
  have stopped := inside.stopped
  have laterStopped := consumed.inside.stopped
  have started := inside.started
  have laterStarted := consumed.inside.started
  rw [consumed.source_eq] at laterStopped ⊢
  omega

end Consumed

/-- Whatever a cursor does on its way forward, what it consumes is what was ahead of it, up
to what is still ahead, and it passes as many places as characters.  A bulk read
consumes as many characters as it is asked for, or all that are left. -/
theorem join_consumedTexts_append_remaining (cursor : Cursor) (inside : Inside cursor)
    (state : σ) (operations : List (Operation σ))
    (forward : ∀ operation ∈ operations, operation.isForward = true) :
    String.join (cursor.consumedTexts state operations) ++
        (cursor.after state operations).1.remaining = cursor.remaining ∧
      min ((cursor.after state operations).1.position + 1) cursor.source.length =
        min (cursor.position + 1) cursor.source.length +
          (String.join (cursor.consumedTexts state operations)).length ∧
      ∀ earlier count later, operations = earlier ++ .read count :: later →
        ((cursor.after state earlier).1.consumedText (cursor.after state earlier).2
          (.read count)).length = min count (cursor.after state earlier).1.remaining.length := by
  have consumed := Consumed.after inside state forward
  refine ⟨?_, ?_, ?_⟩
  · rw [← String.toList_inj, String.toList_append]
    exact consumed.ahead_eq.symm
  · have passed := consumed.passed_eq inside
    rw [consumed.source_eq] at passed
    exact passed
  · intro earlier count later split
    have taken := congrArg List.length (toList_read (cursor.after state earlier).1 count)
    rw [List.length_take, String.length_toList] at taken
    exact taken

/-- Forward by a class, a step, the second of two texts, a test that remembers how often it
was asked, a read beyond the end of the text and steps behind it. -/
def forwardOperations : List (Operation Nat) :=
  [.acceptClass .digit, .next, .acceptAny ["x", "_let"], .check "x",
    .readWhile (.test fun asked char run => (decide (char ≠ 'z' ∧ asked + run < 4), asked + 1)),
    .read 9, .skip, .next]

theorem join_consumedTexts_append_remaining_forward :
    Inside (ofString "1é letxyz") ∧
      (∀ operation ∈ forwardOperations, operation.isForward = true) ∧
      String.join ((ofString "1é letxyz").consumedTexts 0 forwardOperations) ++
          ((ofString "1é letxyz").after 0 forwardOperations).1.remaining =
        (ofString "1é letxyz").remaining ∧
      min (((ofString "1é letxyz").after 0 forwardOperations).1.position + 1)
          (ofString "1é letxyz").source.length =
        min ((ofString "1é letxyz").position + 1) (ofString "1é letxyz").source.length +
          (String.join ((ofString "1é letxyz").consumedTexts 0 forwardOperations)).length ∧
      (((ofString "1é letxyz").after 0 (forwardOperations.take 5)).1.consumedText
          ((ofString "1é letxyz").after 0 (forwardOperations.take 5)).2 (.read 9)).length =
        min 9 ((ofString "1é letxyz").after 0 (forwardOperations.take 5)).1.remaining.length := by
  have inside : Inside (ofString "1é letxyz") := by
    refine ⟨Int.le_refl _, ?_⟩
    exact Int.le_trans (by decide : (-1 : Int) ≤ 0) (Int.natCast_nonneg _)
  have forward : ∀ operation ∈ forwardOperations, operation.isForward = true := by
    simp [forwardOperations, Operation.isForward]
  obtain ⟨accounted, passed, reads⟩ :=
    join_consumedTexts_append_remaining (ofString "1é letxyz") inside 0 forwardOperations forward
  exact ⟨inside, forward, accounted, passed, reads _ 9 [.skip, .next] rfl⟩

end TextCursor.Cursor
