/-!
# Names of character classes

The words of a class name are separated by underscores, and a reader may write
spaces instead.  A name that no class bears stands for a text, in which the
underscores are the spaces between its words.

Names are compared with registered ones byte by byte (`spells`).  A space is one byte, which is
part of no other character, so this is to compare them once underscores are written for the spaces
(`spells_iff`).
-/

namespace TextCursor.ClassName

/-- The registered spelling of a name: underscores between its words. -/
def normalise (name : String) : String :=
  name.map fun char => if char = ' ' then '_' else char

/-- The text that a name stands for when no class bears it. -/
def literalText (name : String) : String :=
  name.map fun char => if char = '_' then ' ' else char

/-- Whether a name is itself the text it stands for. -/
def isVerbatim (name : String) : Bool := name.toList.all (· ≠ '_')

/-- The bytes that a name is stored as. -/
def bytes (name : String) : List UInt8 := name.toByteArray.data.toList

/-- Whether a byte may be written for one of a registered name: for an underscore also a space. -/
def mayStandFor (own given : UInt8) : Bool :=
  own == given || (own == '_'.toUInt8 && given == ' '.toUInt8)

/-- Whether a name is a spelling of a registered one, byte by byte. -/
def spells (registered name : String) : Bool :=
  registered.utf8ByteSize == name.utf8ByteSize &&
    ((bytes registered).zip (bytes name)).all fun (own, given) => mayStandFor own given

/-- To replace a value changes nothing exactly where it does not occur. -/
theorem map_replace_eq_self_iff {α : Type} [DecidableEq α] {old new : α} (different : new ≠ old)
    {values : List α} :
    (values.map fun value => if value = old then new else value) = values ↔ old ∉ values := by
  have kept := List.map_inj_left (l := values) (g := id)
    (f := fun value => if value = old then new else value)
  rw [List.map_id] at kept
  rw [kept]
  constructor
  · intro same member
    have replaced := same old member
    rw [if_pos rfl] at replaced
    exact different replaced
  · intro absent value member
    exact if_neg fun equal : value = old => absent (equal ▸ member)

/-- Two replacements, one after the other, are one. -/
theorem map_map_eq {inner outer both : Char → Char} (same : ∀ char, outer (inner char) = both char)
    (name : String) : (name.map inner).map outer = name.map both := by
  rw [← String.toList_inj]
  simp only [String.toList_map, List.map_map]
  exact List.map_congr_left fun char _ => same char

@[simp] theorem normalise_normalise (name : String) :
    normalise (normalise name) = normalise name := by
  apply map_map_eq
  intro char
  by_cases space : char = ' ' <;> simp [space]

/-- A name is in its registered spelling exactly when it has no spaces. -/
theorem normalise_eq_self_iff {name : String} : normalise name = name ↔ ' ' ∉ name.toList := by
  rw [← String.toList_inj, normalise, String.toList_map, map_replace_eq_self_iff (by decide)]

@[simp] theorem normalise_eq_empty_iff {name : String} : normalise name = "" ↔ name = "" :=
  String.map_eq_empty

/-- Spaces and underscores in a name do not change the text it stands for. -/
@[simp] theorem literalText_normalise (name : String) :
    literalText (normalise name) = literalText name := by
  apply map_map_eq
  intro char
  by_cases space : char = ' ' <;> simp [space]

theorem length_literalText (name : String) : (literalText name).length = name.length := by
  rw [← String.length_toList, literalText, String.toList_map, List.length_map,
    String.length_toList]

/-- A name is verbatim exactly when it is the text it stands for. -/
theorem isVerbatim_iff (name : String) : isVerbatim name = true ↔ literalText name = name := by
  rw [← String.toList_inj, literalText, String.toList_map, map_replace_eq_self_iff (by decide)]
  simp only [isVerbatim, List.all_eq_true, decide_eq_true_eq]
  exact ⟨fun verbatim member => verbatim '_' member rfl,
    fun absent char member equal => absent (equal ▸ member)⟩

/-! ## Names as bytes -/

theorem length_bytes (name : String) : (bytes name).length = name.utf8ByteSize := rfl

theorem bytes_eq (name : String) : bytes name = name.toList.flatMap String.utf8EncodeChar := by
  conv => lhs; rw [← String.ofList_toList (s := name)]
  rw [bytes, String.toByteArray_ofList, List.utf8Encode, List.toList_data_toByteArray]

theorem bytes_inj {left right : String} : bytes left = bytes right ↔ left = right := by
  rw [bytes, bytes, Array.toList_inj, ← String.toByteArray_inj]
  exact ⟨ByteArray.ext, congrArg _⟩

/-- The bytes of a character outside ASCII are outside ASCII too. -/
theorem le_of_mem_utf8EncodeChar {char : Char} (wide : ¬ char.val.toNat ≤ 127) :
    ∀ byte ∈ String.utf8EncodeChar char, 128 ≤ byte.toNat := by
  have bits (number size lead : Nat) (enough : 128 ≤ lead) (fits : number % size + lead < 256) :
      128 ≤ (UInt8.ofNat (number % size + lead)).toNat := by
    rw [UInt8.toNat_ofNat', Nat.mod_eq_of_lt fits]
    exact Nat.le_add_left_of_le enough
  simp only [String.utf8EncodeChar, if_neg wide]
  split
  · simp (disch := omega) only [List.forall_mem_cons, bits]
    simp
  · split <;> simp (disch := omega) only [List.forall_mem_cons, bits] <;> simp

/-- The byte of a space is part of no other character. -/
theorem space_mem_utf8EncodeChar {char : Char} :
    ' '.toUInt8 ∈ String.utf8EncodeChar char ↔ char = ' ' := by
  constructor
  · intro member
    by_cases ascii : char.val.toNat ≤ 127
    · simp only [String.utf8EncodeChar, if_pos ascii, List.mem_singleton] at member
      have codes := congrArg UInt8.toNat member
      rw [UInt8.toNat_ofNat', Nat.mod_eq_of_lt (by omega)] at codes
      exact Char.ext (UInt32.toNat_inj.1 codes.symm)
    · exact absurd (le_of_mem_utf8EncodeChar ascii _ member) (by decide)
  · rintro rfl
    decide

/-- To write underscores for spaces is to replace one byte. -/
theorem bytes_normalise (name : String) :
    bytes (normalise name) =
      (bytes name).map fun byte => if byte = ' '.toUInt8 then '_'.toUInt8 else byte := by
  rw [bytes_eq, bytes_eq, normalise, String.toList_map, List.flatMap_map, List.map_flatMap]
  congr 1
  funext char
  by_cases space : char = ' '
  · rw [if_pos space, space]
    decide
  · rw [if_neg space]
    exact ((map_replace_eq_self_iff (by decide)).2 (mt space_mem_utf8EncodeChar.1 space)).symm

/-- A byte of a name without spaces is the given one, or an underscore where that is a space. -/
theorem mayStandFor_iff {own given : UInt8} (spaceless : own ≠ ' '.toUInt8) :
    mayStandFor own given = true ↔
      own = if given = ' '.toUInt8 then '_'.toUInt8 else given := by
  simp only [mayStandFor, Bool.or_eq_true, Bool.and_eq_true, beq_iff_eq]
  split
  · rename_i space
    rw [space]
    exact ⟨fun stands => stands.resolve_left spaceless |>.1, fun same => .inr ⟨same, rfl⟩⟩
  · rename_i other
    exact ⟨fun stands => stands.resolve_right fun spaced => other spaced.2, .inl⟩

theorem all_zip_iff {own given : List UInt8} (spaceless : ' '.toUInt8 ∉ own) :
    (own.length = given.length ∧
        ((own.zip given).all fun (own, given) => mayStandFor own given) = true) ↔
      own = given.map fun byte => if byte = ' '.toUInt8 then '_'.toUInt8 else byte := by
  induction own generalizing given with
  | nil => cases given <;> simp
  | cons first own ih =>
      cases given with
      | nil => simp
      | cons byte given =>
          rw [List.mem_cons, not_or] at spaceless
          have single := @mayStandFor_iff first byte (Ne.symm spaceless.1)
          rw [List.map_cons, List.cons.injEq, ← ih spaceless.2, ← single, List.zip_cons_cons,
            List.all_cons, Bool.and_eq_true, List.length_cons, List.length_cons, Nat.succ_inj]
          exact and_left_comm

/-- The spellings of a registered name are the names that are it once underscores are written for
spaces. -/
theorem spells_iff {registered name : String} (spaceless : ' ' ∉ registered.toList) :
    spells registered name = true ↔ normalise name = registered := by
  have bytesSpaceless : ' '.toUInt8 ∉ bytes registered := by
    rw [bytes_eq, List.mem_flatMap]
    rintro ⟨char, member, space⟩
    exact spaceless (space_mem_utf8EncodeChar.1 space ▸ member)
  rw [spells, Bool.and_eq_true, beq_iff_eq, ← length_bytes, ← length_bytes,
    all_zip_iff bytesSpaceless, ← bytes_normalise, bytes_inj]
  exact eq_comm
end TextCursor.ClassName
