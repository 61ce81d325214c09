import TextCursor.Registry

/-!
# Looking names up

What a registry answers is told by the entries stored in it: the last one stored
under the spelling of the name wins (`getElem?_insertAll`).  As long as no name is stored
with a space, the two attempts to look up a name come to one look at its registered spelling
(`classify?_eq`).  The standard registry holds one entry for every standard class, so it
answers with the rule of the class that the name belongs to, and with nothing where there is
none (`classify?_standard`).  The search among the classes themselves agrees with it on every text
(`CharClass.ofName?_agrees_with_standard`).
-/

namespace TextCursor

/-- A pattern that is a set matches the characters of the set. -/
theorem Pattern.Expr.searchChar_set (allowed : CharSet) (source : String) (char : Char) :
    (pattern (.set allowed) source).searchChar char = allowed.contains char := by
  simp [searchChar, pattern, search, searchFrom, found, nullable, complete, advance]

namespace CharClass

variable {engine : Engine}

/-- The digits of ASCII, as they are searched for. -/
def digitPattern : Pattern := Pattern.Expr.pattern (.set { members := [.range '0' '9'] }) "[0-9]"

@[simp] theorem matcher_digit : digit.matcher = .pattern digitPattern :=
  matcher_of_ofSource rfl rfl

theorem searchChar_digitPattern : digitPattern.searchChar = Char.isDigit := by
  funext char
  rw [digitPattern, Pattern.Expr.searchChar_set]
  simp only [Pattern.CharSet.contains, Pattern.CharSet.lists, List.any_cons, List.any_nil,
    Pattern.Member.contains, Bool.or_false, Bool.false_eq_true, if_false, Bool.bne_false]
  rfl

theorem name_of_find? {classes : List CharClass} {key : String} {charClass : CharClass}
    (found : classes.find? (·.name = key) = some charClass) : charClass.name = key := by
  have named := List.find?_some found
  exact of_decide_eq_true named

theorem space_notMem_name (charClass : CharClass) : ' ' ∉ charClass.name.toList := by
  cases charClass <;> decide

@[simp] theorem normalise_name (charClass : CharClass) :
    ClassName.normalise charClass.name = charClass.name :=
  ClassName.normalise_eq_self_iff.2 charClass.space_notMem_name

theorem spells_name_iff {charClass : CharClass} {name : String} :
    ClassName.spells charClass.name name = true ↔ charClass.name = ClassName.normalise name := by
  rw [ClassName.spells_iff charClass.space_notMem_name]
  exact eq_comm

/-- The class of a name is the one that bears its registered spelling. -/
theorem ofName?_eq (name : String) :
    ofName? name = all.find? (·.name = ClassName.normalise name) := by
  rw [ofName?]
  congr 1
  funext charClass
  rw [Bool.eq_iff_iff, decide_eq_true_iff]
  exact spells_name_iff

theorem find?_name (charClass : CharClass) :
    all.find? (·.name = charClass.name) = some charClass := by
  cases charClass <;> cbv

theorem name_injective {left right : CharClass} (names : left.name = right.name) :
    left = right := by
  have found := find?_name left
  rw [names, find?_name] at found
  exact (Option.some.inj found).symm

/-- A name belongs to one class only, so it does not matter in which order all classes are
searched. -/
theorem find?_eq_some_iff {classes : List CharClass} (complete : ∀ charClass, charClass ∈ classes)
    {key : String} {charClass : CharClass} :
    classes.find? (·.name = key) = some charClass ↔ charClass.name = key := by
  constructor
  · exact name_of_find?
  · intro named
    cases found : classes.find? (·.name = key) with
    | none =>
        have missing := List.find?_eq_none.1 found charClass (complete charClass)
        exact absurd (decide_eq_true named) missing
    | some other => rw [name_injective ((name_of_find? found).trans named.symm)]

@[simp] theorem ofName?_name (charClass : CharClass) :
    ofName? charClass.name = some charClass := by
  rw [ofName?_eq, normalise_name, find?_name]

theorem ofName?_eq_some_iff {name : String} {charClass : CharClass} :
    ofName? name = some charClass ↔ charClass.name = ClassName.normalise name := by
  rw [ofName?_eq, find?_eq_some_iff mem_all]

/-- Among the entries of all classes, a name finds the rule of its class. -/
theorem find?_entries (key : String) :
    ((entries engine).reverse.find? (·.1 = key)).map Prod.snd =
      (all.find? (·.name = key)).map (·.matcher engine) := by
  have same : all.reverse.find? (·.name = key) = all.find? (·.name = key) := by
    ext charClass
    rw [find?_eq_some_iff fun charClass => List.mem_reverse.2 (mem_all charClass),
      find?_eq_some_iff mem_all]
  rw [entries, ← List.map_reverse, List.find?_map, Option.map_map, ← same]
  rfl

end CharClass

namespace Registry

/-- The entry stored last under a key is the one found. -/
theorem getElem?_insertAll (registry : Registry) (entries : List (String × Matcher))
    (key : String) :
    (registry.insertAll entries).table[key]? =
      ((entries.reverse.find? (·.1 = key)).map Prod.snd).or registry.table[key]? := by
  induction entries generalizing registry with
  | nil => rfl
  | cons entry entries ih =>
      have rest := ih ⟨registry.table.insert entry.1 entry.2⟩
      simp only [insertAll, List.foldl_cons] at rest ⊢
      rw [rest, List.reverse_cons, List.find?_append, Std.HashMap.getElem?_insert]
      cases entries.reverse.find? (·.1 = key) with
      | some later => rfl
      | none =>
          by_cases same : entry.1 = key
          · simp [same]
          · simp [same]

@[simp] theorem getElem?_empty (key : String) : empty.table[key]? = none :=
  Std.HashMap.getElem?_empty

/-- No name is stored with a space. -/
def Normalised (registry : Registry) : Prop := ∀ name ∈ registry.table, ' ' ∉ name.toList

/-- A name is found under its registered spelling, however it is written. -/
theorem classify?_eq {registry : Registry} (normalised : registry.Normalised) (name : String) :
    registry.classify? name = registry.table[ClassName.normalise name]? := by
  by_cases spaced : ' ' ∈ name.toList
  · have missing : registry.table[name]? = none :=
      Std.HashMap.getElem?_eq_none fun stored => normalised name stored spaced
    simp only [classify?, missing, if_pos spaced]
  · rw [ClassName.normalise_eq_self_iff.2 spaced, classify?]
    cases registry.table[name]? with
    | some matcher => rfl
    | none => exact if_neg spaced

variable {engine : Engine}

theorem getElem?_standard (key : String) :
    (standard engine).table[key]? =
      (CharClass.all.find? (·.name = key)).map (·.matcher engine) := by
  rw [standard, getElem?_insertAll, CharClass.find?_entries, getElem?_empty]
  exact Option.or_none

theorem normalised_standard : (standard engine).Normalised := by
  intro name stored
  rw [Std.HashMap.mem_iff_isSome_getElem?, getElem?_standard, Option.isSome_map] at stored
  obtain ⟨charClass, found⟩ := Option.isSome_iff_exists.1 stored
  rw [← CharClass.name_of_find? found]
  exact ClassName.normalise_eq_self_iff.1 charClass.normalise_name

/-- The standard registry knows the names of the standard classes and no others. -/
theorem classify?_standard (name : String) :
    (standard engine).classify? name = (CharClass.ofName? name).map (·.matcher engine) := by
  rw [classify?_eq normalised_standard, getElem?_standard, CharClass.ofName?_eq]

@[simp] theorem classify?_standard_name (charClass : CharClass) :
    (standard engine).classify? charClass.name = some (charClass.matcher engine) := by
  rw [classify?_standard, CharClass.ofName?_name]
  rfl

end Registry

namespace CharClass

theorem ofName_eq_ok_iff {name : String} {charClass : CharClass} :
    ofName name = .ok charClass ↔ ofName? name = some charClass := by
  rw [ofName]
  cases ofName? name with
  | none => simp
  | some found => simp

theorem ofName_eq_error_iff {name : String} {unknown : UnknownClass} :
    ofName name = .error unknown ↔ ofName? name = none ∧ unknown = ⟨name⟩ := by
  rw [ofName]
  cases ofName? name with
  | none => simp [eq_comm]
  | some found => simp

/-- The search among the classes, which compares bytes, and the standard registry, which looks a
name up and then its registered spelling, agree on every text: there is a class exactly if it
bears the registered spelling, it is the only one, and the registry answers with its rule.  Where
there is none, the text is given back as it was. -/
theorem ofName?_agrees_with_standard (engine : Engine) (name : String) :
    (∀ charClass, ofName? name = some charClass ↔ ClassName.normalise name = charClass.name) ∧
      ((ofName? name).isSome = true ↔
        ((Registry.standard engine).classify? name).isSome = true) ∧
      (∀ charClass, ofName? name = some charClass →
        (Registry.standard engine).classify? name = some (charClass.matcher engine)) ∧
      (∀ left right : CharClass, ClassName.spells left.name name = true →
        ClassName.spells right.name name = true → left = right) ∧
      (∀ charClass, ofName name = .ok charClass ↔ ofName? name = some charClass) ∧
      ∀ unknown, ofName name = .error unknown ↔ ofName? name = none ∧ unknown = ⟨name⟩ := by
  have answer := @Registry.classify?_standard engine name
  refine ⟨?_, ?_, ?_, ?_, fun _ => ofName_eq_ok_iff, fun _ => ofName_eq_error_iff⟩
  · intro charClass
    rw [ofName?_eq_some_iff]
    exact eq_comm
  · rw [answer, Option.isSome_map]
  · intro charClass found
    rw [answer, found, Option.map_some]
  · intro left right fits fitsToo
    rw [spells_name_iff] at fits fitsToo
    exact name_injective (fits.trans fitsToo.symm)

/-- A name with spaces is not taken for the one that it ends with. -/
theorem ofName?_agrees_with_standard_spaced :
    ofName? "left angle bracket" = some .leftAngleBracket ∧
      Registry.standard.classify? "left angle bracket" = some leftAngleBracket.matcher ∧
      ofName "left angle bracket" = .ok .leftAngleBracket := by
  obtain ⟨named, -, registered, -, parsed, -⟩ :=
    ofName?_agrees_with_standard .marking "left angle bracket"
  have spelled : ClassName.normalise "left angle bracket" = leftAngleBracket.name := by
    rw [ClassName.normalise, ← String.toList_inj, String.toList_map]
    decide
  have found := (named .leftAngleBracket).2 spelled
  exact ⟨found, registered _ found, (parsed _).2 found⟩

end CharClass

end TextCursor
