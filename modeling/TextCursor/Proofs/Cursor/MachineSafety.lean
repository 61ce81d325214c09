import TextCursor.Proofs.Cursor.Machine
import TextCursor.Proofs.Cursor.Steps
import TextCursor.Proofs.Registry.Lookup

/-!
# A machine never stops

Every operation that a machine carries out gives the result of the operation itself,
whatever was done to the cursor before (`perform_eq`).  This needs a text that can be
stored and a position that fits a signed word, and both last: positions stay in any
interval that holds the places of the text and all targets of jumps.
-/

namespace TextCursor.Machine

variable {σ : Type}

/-! ## Words -/

/-- A text that a machine can store. -/
def Stored (text : String) : Prop := text.utf8ByteSize < 2 ^ 63

@[simp] theorem ok_bind {α β : Type} (value : α) (next : α → Checked β) :
    (Except.ok value >>= next) = next value := rfl

theorem addSigned_of_fits {left right : Int} (fits : FitsSigned (left + right)) :
    addSigned left right = .ok (left + right) := if_pos fits

theorem addUnsigned_of_lt {left right : Nat} (fits : left + right < 2 ^ 64) :
    addUnsigned left right = .ok (left + right) := if_pos fits

theorem subtractUnsigned_of_le {left right : Nat} (order : right ≤ left) :
    subtractUnsigned left right = .ok (left - right) := if_pos order

theorem toSigned_of_lt {place : Nat} (fits : place < 2 ^ 63) :
    toSigned place = .ok (place : Int) := if_pos fits

instance (text : String) : Decidable (Stored text) := inferInstanceAs (Decidable (_ < _))

/-! ## Source texts -/

theorem length_le_byteLength (chars : List Char) : chars.length ≤ byteLength chars := by
  induction chars with
  | nil => exact Nat.le_refl 0
  | cons char chars ih =>
      have positive := char.utf8Size_pos
      simp only [List.length_cons, byteLength_cons]
      omega

/-- A stored text has no more characters than a signed word can count. -/
theorem Stored.length_lt {text : String} (stored : Stored text) : text.length < 2 ^ 63 := by
  have bytes := utf8ByteSize_ofList text.toList
  rw [String.ofList_toList] at bytes
  have chars := length_le_byteLength text.toList
  rw [String.length_toList] at chars
  simp only [Stored] at stored
  omega

theorem length_eq (source : Source) : length source = .ok source.length := by
  have entries : source.offsets.size = source.text.toList.length + 1 := by
    rw [← Array.length_toList, source.toList_offsets, length_byteOffsets]
  exact subtractUnsigned_of_le (by rw [entries]; exact Nat.le_add_left 1 _)

theorem offset_eq {source : Source} {place : Nat} (inside : place ≤ source.length) :
    offset source place = .ok (source.offset place) := by
  simp only [offset, source.getElem?_offsets inside, source.offset_eq inside]

theorem slice_eq {source : Source} {first stop : Nat} (ordered : first ≤ stop)
    (inside : stop ≤ source.length) :
    slice source first stop = .ok (source.slice first stop) := by
  have before := Nat.le_trans ordered inside
  simp only [slice, offset_eq before, offset_eq inside, ok_bind]
  exact if_pos
    ⟨source.offset_le ordered inside, source.isValid_offset before, source.isValid_offset inside⟩

theorem charAt?_eq (source : Source) (position : Int) :
    charAt? source position = .ok (source.charAt? position) := by
  rw [Source.charAt?_eq]
  by_cases positive : 0 ≤ position
  · simp only [charAt?, toUnsigned?, if_pos positive, length_eq, ok_bind]
    by_cases behind : source.length ≤ position.toNat
    · rw [if_pos behind, List.getElem?_eq_none]
      · rfl
      · rw [← Source.length_eq]
        exact behind
    · have inside := Nat.le_of_lt (Nat.lt_of_not_le behind)
      have cutting := slice_eq inside (Nat.le_refl source.length)
      simp only [slice, offset_eq inside, offset_eq (Nat.le_refl source.length), ok_bind,
        Source.offset_length] at cutting
      simp only [if_neg behind, offset_eq inside, ok_bind, cutting]
      rw [Source.toList_slice _ inside (Nat.le_refl _), List.take_of_length_le,
        List.head?_drop]
      · rfl
      · simp
  · simp only [charAt?, toUnsigned?, if_neg positive]

/-! ## Looking -/

/-- A cursor that a machine can hold: its text and the texts that its classes stand
for are stored, and its position fits a word. -/
structure Holds (cursor : Cursor) : Prop where
  text : Stored cursor.source.text
  literals : ∀ name literal, cursor.registry.classify? name = some (.literal literal) →
    Stored literal
  position : FitsSigned cursor.position

variable {cursor : Cursor}

theorem Holds.length_lt (holds : Holds cursor) : cursor.source.length < 2 ^ 63 := by
  rw [Source.length_eq, String.length_toList]
  exact holds.text.length_lt

theorem head?_eq (holds : Holds cursor) : head? cursor = .ok cursor.head? := by
  have size := holds.length_lt
  have fits := holds.position
  simp only [FitsSigned] at fits
  simp only [head?, Cursor.head?, successor?]
  by_cases greatest : cursor.position < 2 ^ 63 - 1
  · simp only [if_pos greatest, Option.bind_some, toUnsigned?]
    by_cases started : 0 ≤ cursor.position + 1
    · simp only [if_pos started, length_eq, ok_bind]
      by_cases inside : cursor.position < cursor.source.length
      · rw [if_pos (by omega), if_pos ⟨by omega, inside⟩]
        rfl
      · rw [if_neg (by omega), if_neg fun both => inside both.2]
        rfl
    · rw [if_neg started, if_neg (by omega)]
  · rw [if_neg greatest, if_neg (by omega)]
    rfl

theorem left_eq (holds : Holds cursor) : left cursor = .ok cursor.left := by
  simp only [left, head?_eq holds, ok_bind, length_eq, Cursor.left]
  cases found : cursor.head? with
  | none => rfl
  | some head =>
      have inside := Cursor.inside_of_head? found
      exact subtractUnsigned_of_le (by omega)

theorem remaining_eq (holds : Holds cursor) : remaining cursor = .ok cursor.remaining := by
  simp only [remaining, head?_eq holds, ok_bind, length_eq, Cursor.remaining]
  cases found : cursor.head? with
  | none => rfl
  | some head =>
      have inside := Cursor.inside_of_head? found
      exact slice_eq (by omega) (Nat.le_refl _)

/-- Beyond the greatest position there is no character, so staying there is as good as
going on. -/
theorem peek?_eq (holds : Holds cursor) : peek? cursor = .ok cursor.peek? := by
  have size := holds.length_lt
  have fits := holds.position
  simp only [FitsSigned] at fits
  simp only [peek?, Cursor.peek?, charAt?_eq, saturatingSuccessor]
  split
  · rfl
  · rename_i greatest
    rw [Source.charAt?, Source.charAt?, if_neg (by omega), if_neg (by omega)]

/-- Looking at a cursor never stops the machine. -/
theorem view_eq (holds : Holds cursor) : view cursor = .ok cursor.view := by
  simp only [view, value?, charAt?_eq, peek?_eq holds, atEnd, left_eq holds,
    remaining_eq holds, ok_bind]
  rfl

/-! ## Moving -/

theorem value?_eq (cursor : Cursor) : value? cursor = .ok cursor.value? :=
  charAt?_eq cursor.source cursor.position

theorem skip_eq (holds : Holds cursor) : skip cursor = .ok cursor.skip := by
  have size := holds.length_lt
  have fits := holds.position
  simp only [FitsSigned] at fits
  simp only [skip, length_eq, ok_bind, toSigned_of_lt size, Cursor.skip]
  by_cases before : cursor.position < cursor.source.length
  · have next : FitsSigned (cursor.position + 1) := by
      simp only [FitsSigned]
      omega
    simp only [if_pos before, addSigned_of_fits next, ok_bind]
    rfl
  · rw [if_neg before, if_neg before]
    rfl

/-- A step that moves ends within the text. -/
theorem Holds.skip (holds : Holds cursor) : Holds cursor.skip := by
  have size := holds.length_lt
  have fits := holds.position
  simp only [FitsSigned] at fits
  rw [Cursor.skip]
  split
  · refine ⟨holds.text, holds.literals, ?_⟩
    simp only [FitsSigned]
    omega
  · exact holds

/-- Moving over characters that are ahead does not leave the text. -/
theorem consume_eq (holds : Holds cursor) {count : Nat} (available : count ≤ cursor.left) :
    consume cursor count = .ok (cursor.consume count) := by
  have size := holds.length_lt
  have fits := holds.position
  simp only [FitsSigned] at fits
  have sum : count < 2 ^ 63 ∧ FitsSigned (cursor.position + count) := by
    simp only [FitsSigned]
    by_cases nothing : cursor.left = 0
    · omega
    · have inside := Cursor.inside_of_left_pos (Nat.pos_of_ne_zero nothing)
      have ahead := Cursor.left_eq cursor inside.1
      omega
  simp only [consume, toSigned_of_lt sum.1, addSigned_of_fits sum.2, ok_bind]
  rfl

/-! ## Names -/

theorem literalLength?_eq (holds : Holds cursor) {place : Nat}
    (inside : place ≤ cursor.source.length) {text : String} (count : text.length < 2 ^ 63) :
    literalLength? cursor place text = .ok (cursor.literalLength? place text) := by
  have size := holds.length_lt
  simp only [literalLength?, Cursor.literalLength?]
  by_cases empty : text.length = 0
  · rw [if_pos empty, if_pos (Or.inl empty)]
  · have stop : place + text.length < 2 ^ 64 := by omega
    simp only [if_neg empty, addUnsigned_of_lt stop, length_eq, ok_bind]
    by_cases short : cursor.source.length < place + text.length
    · rw [if_pos short, if_pos (Or.inr short)]
      rfl
    · have fits := Nat.le_of_not_lt short
      rw [if_neg short, if_neg fun outside => outside.elim empty short,
        slice_eq (Nat.le_add_right _ _) fits]
      rfl

theorem matchLength?_eq (holds : Holds cursor) {place : Nat}
    (inside : place ≤ cursor.source.length) {name : String} (stored : Stored name) :
    matchLength? cursor place name = .ok (cursor.matchLength? place name) := by
  have size := holds.length_lt
  simp only [matchLength?, Cursor.matchLength?]
  cases found : cursor.registry.classify? name with
  | none =>
      apply literalLength?_eq holds inside
      rw [ClassName.length_literalText]
      exact stored.length_lt
  | some matcher =>
      cases matcher with
      | literal text => 
          exact literalLength?_eq holds inside (holds.literals name text found).length_lt
      | pattern rule =>
          simp only [toSigned_of_lt (Nat.lt_of_le_of_lt inside size), charAt?_eq, ok_bind]
          cases cursor.source.charAt? place <;> rfl

theorem probe?_eq (holds : Holds cursor) {name : String} (stored : Stored name) :
    probe? cursor name = .ok (cursor.probe? name) := by
  simp only [probe?, head?_eq holds, ok_bind, Cursor.probe?]
  cases found : cursor.head? with
  | none => rfl
  | some head =>
      have inside := Cursor.inside_of_head? found
      exact matchLength?_eq holds (by omega) stored

theorem probeAny?_eq (holds : Holds cursor) (candidates : List String)
    (stored : ∀ name ∈ candidates, Stored name) :
    probeAny? cursor candidates = .ok (cursor.probeAny? candidates) := by
  induction candidates with
  | nil => rfl
  | cons name names ih =>
      have rest := ih fun other member => stored other (List.mem_cons_of_mem name member)
      simp only [probeAny?, probe?_eq holds (stored name List.mem_cons_self), ok_bind,
        Cursor.probeAny?, List.findSome?_cons] at rest ⊢
      cases cursor.probe? name with
      | none => exact rest
      | some count => rfl

theorem acceptAny_eq (holds : Holds cursor) (candidates : List String)
    (stored : ∀ name ∈ candidates, Stored name) :
    acceptAny cursor candidates = .ok (cursor.acceptAny candidates) := by
  simp only [acceptAny, probeAny?_eq holds candidates stored, ok_bind, Cursor.acceptAny]
  cases found : cursor.probeAny? candidates with
  | none => rfl
  | some count =>
      have available := (Cursor.probeAny?_bounds found).2
      simp only [consume_eq holds available, ok_bind]
      rfl

/-! ## Reading -/

theorem read_eq (holds : Holds cursor) (count : Nat) :
    read cursor count = .ok (cursor.read count) := by
  have size := holds.length_lt
  have available : min count cursor.left ≤ cursor.left := Nat.min_le_right _ _
  simp only [read, left_eq holds, head?_eq holds, ok_bind, Cursor.read,
    consume_eq holds available]
  cases found : cursor.head? with
  | none => rfl
  | some head =>
      have inside := Cursor.inside_of_head? found
      have ahead := Cursor.left_eq cursor inside.1
      have stop : head + min count cursor.left ≤ cursor.source.length := by omega
      simp only [addUnsigned_of_lt (Nat.lt_of_le_of_lt stop (by omega)),
        slice_eq (Nat.le_add_right _ _) stop, ok_bind]
      rfl

/-- A predicate that a machine can hold. -/
def StoredPredicate : Predicate σ → Prop
  | .name name => Stored name
  | .pattern _ => True
  | .test _ => True

theorem satisfies_eq (holds : Holds cursor) {predicate : Predicate σ}
    (stored : StoredPredicate predicate) (state : σ) {place : Nat}
    (inside : place ≤ cursor.source.length) (run : Nat) :
    satisfies cursor predicate state place run =
      .ok (cursor.satisfies predicate state place run) := by
  have size := holds.length_lt
  simp only [satisfies, toSigned_of_lt (Nat.lt_of_le_of_lt inside size), charAt?_eq, ok_bind,
    Cursor.satisfies]
  cases cursor.source.charAt? place with
  | none => rfl
  | some char =>
      cases predicate with
      | test ask => rfl
      | pattern rule => rfl
      | name name =>
          simp only [matchLength?_eq holds inside stored, ok_bind]
          rfl

/-- The loop that looks for the end of a run adds nothing that does not fit, and its
guard never fails before all characters are taken. -/
theorem runEnd_eq (holds : Holds cursor) {predicate : Predicate σ}
    (stored : StoredPredicate predicate) (wanted : Bool) (start : Nat) :
    ∀ (ahead run : Nat) (state : σ), start + run + ahead = cursor.source.length →
      runEnd cursor predicate wanted start ahead (start + run) state =
        .ok (start + (cursor.extent predicate wanted start ahead run state).1,
          (cursor.extent predicate wanted start ahead run state).2) := by
  intro ahead
  have size := holds.length_lt
  induction ahead with
  | zero =>
      intro run state reached
      rfl
  | succ ahead ih =>
      intro run state reached
      have inside : start + run < cursor.source.length := by omega
      have difference : start + run - start = run := Nat.add_sub_cancel_left start run
      simp only [runEnd, length_eq, ok_bind, if_pos inside,
        subtractUnsigned_of_le (Nat.le_add_right start run), difference,
        satisfies_eq holds stored state (Nat.le_of_lt inside), Cursor.extent]
      split
      · simp only [addUnsigned_of_lt (show start + run + 1 < 2 ^ 64 by omega), ok_bind]
        exact ih (run + 1) _ (by omega)
      · rfl

theorem readRun_eq (holds : Holds cursor) {predicate : Predicate σ}
    (stored : StoredPredicate predicate) (wanted : Bool) (state : σ) :
    readRun cursor predicate wanted state = .ok (cursor.readRun predicate wanted state) := by
  simp only [readRun, head?_eq holds, left_eq holds, ok_bind, Cursor.readRun]
  cases found : cursor.head? with
  | none => rfl
  | some start =>
      have inside := Cursor.inside_of_head? found
      have ahead := Cursor.left_eq cursor inside.1
      have stop := runEnd_eq holds stored wanted start cursor.left 0 state (by omega)
      have bound := Cursor.extent_le cursor predicate wanted start cursor.left 0 state
      rw [Nat.add_zero] at stop
      simp only [stop, ok_bind]
      generalize cursor.extent predicate wanted start cursor.left 0 state = extent at bound ⊢
      obtain ⟨run, state⟩ := extent
      simp only at bound ⊢
      rw [Nat.zero_add] at bound
      have cutting : slice cursor.source start (start + run) =
          .ok (cursor.source.slice start (start + run)) :=
        slice_eq (Nat.le_add_right start run) (by omega)
      by_cases nothing : run = 0
      · rw [if_neg (by omega), if_pos nothing, cutting]
        rfl
      · rw [if_pos (by omega), subtractUnsigned_of_le (Nat.le_add_right start run),
          Nat.add_sub_cancel_left, if_neg nothing]
        simp only [ok_bind, consume_eq holds bound, cutting]
        rfl

/-! ## Runs -/

theorem stored_name (charClass : CharClass) : Stored charClass.name := by
  cases charClass <;> decide

/-- An operation whose operands a machine can hold. -/
def Fits : Cursor.Operation σ → Prop
  | .jump target => FitsSigned target
  | .acceptAny candidates => ∀ name ∈ candidates, Stored name
  | .check name => Stored name
  | .read count => count < 2 ^ 64
  | .readWhile predicate => StoredPredicate predicate
  | .readUntil predicate => StoredPredicate predicate
  | .next | .skip | .reset | .undo | .acceptClass _ => True

/-- An operation never stops the machine, and does on it what it does. -/
theorem perform_eq (holds : Holds cursor) (state : σ) {operation : Cursor.Operation σ}
    (fits : Fits operation) :
    perform cursor state operation = .ok (cursor.perform state operation) := by
  cases operation with
  | next =>
      simp only [perform, skip_eq holds, value?_eq, ok_bind]
      rfl
  | skip =>
      simp only [perform, skip_eq holds, ok_bind]
      rfl
  | jump target => rfl
  | reset => rfl
  | undo => rfl
  | acceptAny candidates =>
      simp only [perform, acceptAny_eq holds candidates fits, ok_bind]
      rfl
  | acceptClass charClass =>
      have stored : ∀ name ∈ [charClass.name], Stored name := by
        intro name member
        rw [List.mem_singleton.1 member]
        exact stored_name charClass
      simp only [perform, acceptAny_eq holds _ stored, ok_bind]
      rfl
  | check name =>
      simp only [perform, probe?_eq holds fits, ok_bind]
      rfl
  | read count =>
      simp only [perform, read_eq holds count, ok_bind]
      rfl
  | readWhile predicate =>
      simp only [perform, readRun_eq holds fits, ok_bind]
      rfl
  | readUntil predicate =>
      simp only [perform, readRun_eq holds fits, ok_bind]
      rfl

/-- The positions that fit signed words. -/
abbrev InWords (cursor : Cursor) : Prop := Cursor.Within (-2 ^ 63) (2 ^ 63 - 1) cursor

theorem InWords.perform (within : InWords cursor) (holds : Holds cursor) (state : σ)
    {operation : Cursor.Operation σ} (fits : Fits operation) :
    InWords (cursor.perform state operation).cursor := by
  have size := holds.length_lt
  apply Cursor.Within.perform within (by decide) (by omega)
  intro target kind
  rw [kind] at fits
  exact ⟨fits.1, Int.le_sub_one_of_lt fits.2⟩

theorem Holds.perform (holds : Holds cursor) (within : InWords cursor) (state : σ)
    {operation : Cursor.Operation σ} (fits : Fits operation) :
    Holds (cursor.perform state operation).cursor := by
  have later := within.perform holds state fits
  constructor
  · rw [Cursor.source_perform]
    exact holds.text
  · rw [Cursor.registry_perform]
    exact holds.literals
  · exact ⟨later.position.1, Int.lt_of_le_sub_one later.position.2⟩

/-- What operations leave behind, a machine can hold as well. -/
theorem Holds.after (holds : Holds cursor) (within : InWords cursor) (state : σ)
    {operations : List (Cursor.Operation σ)} (fits : ∀ operation ∈ operations, Fits operation) :
    Holds (cursor.after state operations).1 := by
  induction operations generalizing cursor state with
  | nil => exact holds
  | cons operation operations ih =>
      have first := fits operation List.mem_cons_self
      exact ih (holds.perform within state first) (within.perform holds state first) _
        fun other member => fits other (List.mem_cons_of_mem _ member)

theorem run_eq (holds : Holds cursor) (within : InWords cursor) (state : σ)
    (operations : List (Cursor.Operation σ)) (fits : ∀ operation ∈ operations, Fits operation) :
    run cursor state operations =
      .ok ((cursor.run state operations).map fun outcome => (outcome, outcome.cursor.view)) := by
  induction operations generalizing cursor state with
  | nil => rfl
  | cons operation operations ih =>
      have first := fits operation List.mem_cons_self
      have later := holds.perform within state first
      have rest := ih later (within.perform holds state first)
        (cursor.perform state operation).state
        fun other member => fits other (List.mem_cons_of_mem _ member)
      simp only [run, perform_eq holds state first, view_eq later, rest, ok_bind]
      rfl

theorem holds_ofString {text : String} {config : Cursor.Config} (textStored : Stored text)
    (literalsStored : ∀ name literal,
      config.registry.classify? name = some (.literal literal) → Stored literal) :
    Holds (Cursor.ofString text config) :=
  ⟨textStored, literalsStored, (by decide : FitsSigned (-1))⟩

theorem within_ofString (text : String) (config : Cursor.Config) {least greatest : Int}
    (start : least ≤ -1) (stop : -1 ≤ greatest) :
    Cursor.Within least greatest (Cursor.ofString text config) :=
  ⟨⟨start, stop⟩, fun entry member => by cases member⟩

theorem inWords_ofString (text : String) (config : Cursor.Config) :
    InWords (Cursor.ofString text config) :=
  within_ofString text config (by decide) (by decide)

/-- Whatever is done to a cursor, and wherever it is told to jump, a machine carries
it out without a sum that does not fit its word, a place without an offset or a bad
cut, and finds the results of the operations themselves.  If no jump leads out of the
text, no position ever lies outside of it. -/
theorem run_never_stops (text : String) (config : Cursor.Config) (state : σ)
    (operations : List (Cursor.Operation σ)) (textStored : Stored text)
    (literalsStored : ∀ name literal,
      config.registry.classify? name = some (.literal literal) → Stored literal)
    (operationsFit : ∀ operation ∈ operations, Fits operation) :
    view (Cursor.ofString text config) = .ok (Cursor.ofString text config).view ∧
      run (Cursor.ofString text config) state operations =
        .ok (((Cursor.ofString text config).run state operations).map
          fun outcome => (outcome, outcome.cursor.view)) ∧
      ((∀ target, .jump target ∈ operations → -1 ≤ target ∧ target ≤ (text.length : Int)) →
        ∀ outcome ∈ (Cursor.ofString text config).run state operations,
          Cursor.Within (-1) text.length outcome.cursor) := by
  have holds := holds_ofString textStored literalsStored
  refine ⟨view_eq holds, ?_, ?_⟩
  · exact run_eq holds (inWords_ofString text config) state operations operationsFit
  · intro jumps
    have within : Cursor.Within (-1) text.length (Cursor.ofString text config) :=
      within_ofString text config (by decide) (by omega)
    apply within.run (by decide)
    · rw [Source.length_eq, String.length_toList]
      exact Int.le_refl _
    · exact jumps

theorem stored_literal_standard (name literal : String)
    (registered : Registry.standard.classify? name = some (.literal literal)) :
    Stored literal := by
  rw [Registry.classify?_standard, Option.map_eq_some_iff] at registered
  obtain ⟨charClass, -, matched⟩ := registered
  cases charClass <;> cases matched <;> decide

/-- Jumps to both ends of the positions, with moves, a read of all that a count can ask
for and steps back in between. -/
def extremeOperations : List (Cursor.Operation Unit) :=
  [.jump (2 ^ 63 - 1), .skip, .next, .jump (-2 ^ 63), .skip, .read (2 ^ 64 - 1),
    .acceptClass .digit, .undo, .undo, .readWhile (.ofClass .digit), .undo]

/-- Jumps to both ends of a text of two characters. -/
def innerOperations : List (Cursor.Operation Unit) :=
  [.jump 2, .next, .undo, .read 2, .jump (-1), .next]

theorem run_never_stops_extreme :
    Stored "1é" ∧
      (∀ operation ∈ extremeOperations, Fits operation) ∧
      (view (Cursor.ofString "1é") = .ok (Cursor.ofString "1é").view ∧
        run (Cursor.ofString "1é") () extremeOperations =
          .ok (((Cursor.ofString "1é").run () extremeOperations).map
            fun outcome => (outcome, outcome.cursor.view))) ∧
      ∀ outcome ∈ (Cursor.ofString "1é").run () innerOperations,
        Cursor.Within (-1) "1é".length outcome.cursor := by
  have stored : Stored "1é" := by decide
  have extreme : ∀ operation ∈ extremeOperations, Fits operation := by
    simp [extremeOperations, Fits, FitsSigned, StoredPredicate, Predicate.ofClass, stored_name]
  have inner : ∀ operation ∈ innerOperations, Fits operation := by
    simp [innerOperations, Fits, FitsSigned]
  have jumps : ∀ target, .jump target ∈ innerOperations →
      -1 ≤ target ∧ target ≤ ("1é".length : Int) := by
    intro target member
    simp only [innerOperations, List.mem_cons, List.not_mem_nil, Cursor.Operation.jump.injEq,
      reduceCtorEq, or_false, false_or] at member
    rcases member with rfl | rfl <;> decide
  have safe := run_never_stops "1é" {} () extremeOperations stored stored_literal_standard extreme
  have bounded := run_never_stops "1é" {} () innerOperations stored stored_literal_standard inner
  exact ⟨stored, extreme, ⟨safe.1, safe.2.1⟩, bounded.2.2 jumps⟩

end TextCursor.Machine
