import TextCursor.Proofs.Cursor.ClassSpan

/-!
# The table of the standard classes

Every standard class is a set of characters, and a table says which (`CharClass.contains`).  The
rules of the classes, some of them literals and some patterns, match the text of one character
where the table has it (`CharClass.acceptsChar_matcher`).  So of several classes, with the standard
registry, one is accepted where the next character is in one of their sets
(`Cursor.acceptAny_names`), and the class of both sides of a bracket is the one side or else the
other (`CharClass.contains_of_sides?`).
-/

namespace TextCursor

namespace CharClass

/-- Whether a character is of the class, by the table of the standard classes. -/
def contains : CharClass → Char → Bool
  | .digit, char => char.isDigit
  | .alphabet, char => char.isAlphanum || char == '_'
  | .whitespace, char => char == ' '
  | .newline, char => ['\r', '\n', '\u2028', '\u2029'].contains char
  | .atSign, char => char == '@'
  | .quote, char => ['\x27', '"', '\x60'].contains char
  | .dot, char => char == '.'
  | .semicolon, char => char == ';'
  | .hashtag, char => char == '#'
  | .dollarSign, char => char == '$'
  | .astrix, char => char == '*'
  | .exclamationSign, char => char == '!'
  | .slash, char => char == '/'
  | .equal, char => char == '='
  | .colon, char => char == ':'
  | .leftAngleBracket, char => char == '<'
  | .rightAngleBracket, char => char == '>'
  | .angleBracket, char => ['<', '>'].contains char
  | .leftSquareBracket, char => char == '['
  | .rightSquareBracket, char => char == ']'
  | .squareBracket, char => ['[', ']'].contains char
  | .leftRoundBracket, char => char == '('
  | .rightRoundBracket, char => char == ')'
  | .roundBracket, char => ['(', ')'].contains char
  | .leftCurlyBracket, char => char == '\x7b'
  | .rightCurlyBracket, char => char == '\x7d'
  | .curlyBracket, char => ['\x7b', '\x7d'].contains char

/-- The classes of the left and the right side, of a class of both sides of a bracket. -/
def sides? : CharClass → Option (CharClass × CharClass)
  | .angleBracket => some (.leftAngleBracket, .rightAngleBracket)
  | .squareBracket => some (.leftSquareBracket, .rightSquareBracket)
  | .roundBracket => some (.leftRoundBracket, .rightRoundBracket)
  | .curlyBracket => some (.leftCurlyBracket, .rightCurlyBracket)
  | _ => none

/-- A bracket is a left or a right one. -/
theorem contains_of_sides? {both left right : CharClass}
    (sides : both.sides? = some (left, right)) (char : Char) :
    both.contains char = (left.contains char || right.contains char) := by
  cases both with
  | angleBracket | squareBracket | roundBracket | curlyBracket =>
      cases sides
      simp only [contains, List.contains_cons, List.contains_nil, Bool.or_false]
  | _ => cases sides

/-! ## Rules -/

theorem acceptsChar_literal {text : String} {only : Char} (spelled : text.toList = [only])
    (char : Char) : (Matcher.literal text).acceptsChar char = (char == only) := by
  rw [eq_singleton_of_toList spelled, Bool.eq_iff_iff, beq_iff_eq]
  exact beq_iff_eq.trans (String.singleton_inj.trans eq_comm)

/-- A rule with a pattern matches what the expression spelled by the pattern does. -/
theorem acceptsChar_of_ofSource {charClass : CharClass} {source : String} {expr : Pattern.Expr}
    (defined : charClass.definition = .pattern source)
    (spelled : Pattern.Expr.ofSource source = .ok expr) (char : Char) :
    charClass.matcher.acceptsChar char = (expr.pattern source).searchChar char := by
  rw [matcher_of_ofSource defined spelled]
  rfl

/-- A pattern that lists single characters matches those. -/
theorem searchChar_singles (chars : List Char) (source : String) (char : Char) :
    (Pattern.Expr.pattern (.set { members := chars.map Pattern.Member.single }) source).searchChar
      char = chars.contains char := by
  rw [Pattern.Expr.searchChar_set, Bool.eq_iff_iff]
  simp [Pattern.CharSet.contains, Pattern.CharSet.lists]

/-- A letter, a digit or the underscore. -/
theorem searchChar_alphabet (source : String) (char : Char) :
    (Pattern.Expr.pattern (.set { members :=
      [.range 'A' 'Z', .range 'a' 'z', .range '0' '9', .single '_'] }) source).searchChar char =
      (char.isAlphanum || char == '_') := by
  have upper : (Pattern.Member.range 'A' 'Z').contains char = char.isUpper :=
    (Bool.decide_and _ _).symm
  have lower : (Pattern.Member.range 'a' 'z').contains char = char.isLower := rfl
  have digit : (Pattern.Member.range '0' '9').contains char = char.isDigit := rfl
  have alphanum : char.isAlphanum = (char.isUpper || char.isLower || char.isDigit) := rfl
  rw [Pattern.Expr.searchChar_set]
  simp only [Pattern.CharSet.contains, Pattern.CharSet.lists, List.any_cons, List.any_nil, upper,
    lower, digit, Pattern.Member.contains_single, alphanum, Bool.or_assoc, Bool.or_false,
    Bool.bne_false, Bool.false_eq_true, if_false, eq_comm]
  rfl

/-- The line ends that are single characters. -/
theorem searchChar_newline (source : String) (char : Char) :
    (Pattern.Expr.pattern
      (.alt (.seq (.set (.single '\r')) (.alt (.set (.single '\n')) .empty))
        (.alt (.set (.single '\n')) (.alt (.set (.single '\u2028')) (.set (.single '\u2029')))))
      source).searchChar char = ['\r', '\n', '\u2028', '\u2029'].contains char := by
  simp [Pattern.searchChar, Pattern.Expr.pattern, Pattern.Expr.search, Pattern.Expr.searchFrom,
    Pattern.Expr.found, Pattern.Expr.nullable, Pattern.Expr.complete, Pattern.Expr.advance,
    eq_comm]

/-- The rule of a class matches the text of one character where the table has it. -/
theorem acceptsChar_matcher (charClass : CharClass) (char : Char) :
    charClass.matcher.acceptsChar char = charClass.contains char := by
  cases charClass with
  | digit => exact (acceptsChar_of_ofSource rfl rfl char).trans (congrFun searchChar_digitPattern _)
  | alphabet => exact (acceptsChar_of_ofSource rfl rfl char).trans (searchChar_alphabet _ char)
  | newline => exact (acceptsChar_of_ofSource rfl rfl char).trans (searchChar_newline _ char)
  | quote | angleBracket | squareBracket | roundBracket | curlyBracket =>
      exact (acceptsChar_of_ofSource rfl rfl char).trans (searchChar_singles _ _ char)
  | _ => exact acceptsChar_literal rfl char

end CharClass

namespace Registry

theorem accepts_standard (charClass : CharClass) (char : Char) :
    standard.accepts charClass.name (String.singleton char) = charClass.contains char := by
  rw [accepts, classify?_standard_name]
  exact charClass.acceptsChar_matcher char

/-- A standard class covers the next character if the table has it. -/
theorem covers?_standard (charClass : CharClass) (chars : List Char) :
    standard.covers? charClass.name chars =
      if chars.head?.any charClass.contains then some 1 else none := by
  have single : standard.CoversSingly charClass.name := span_eq_one_iff.1 (span_standard charClass)
  cases chars with
  | nil => exact covers?_nil _ _
  | cons char chars =>
      rw [single.covers?_cons, accepts_standard]
      rfl

end Registry

namespace Cursor

variable {cursor : Cursor}

section Standard

variable (registry : cursor.registry = Registry.standard)
include registry

theorem probe?_name (charClass : CharClass) :
    cursor.probe? charClass.name =
      if cursor.peek?.any charClass.contains then some 1 else none := by
  rw [probe?_eq, registry, Registry.covers?_standard, peek?_eq]

/-- Of several classes one fits if the next character is in one of them. -/
theorem probeAny?_names (classes : List CharClass) :
    cursor.probeAny? (classes.map CharClass.name) =
      if cursor.peek?.any fun char => classes.any (·.contains char) then some 1 else none := by
  induction classes with
  | nil => cases cursor.peek? <;> rfl
  | cons charClass classes ih =>
      rw [probeAny?] at ih
      rw [probeAny?, List.map_cons, List.findSome?_cons, probe?_name registry, ih]
      cases cursor.peek? with
      | none => rfl
      | some char => cases fits : charClass.contains char <;> simp [fits]

theorem acceptAny_names (classes : List CharClass) :
    cursor.acceptAny (classes.map CharClass.name) =
      if cursor.peek?.any fun char => classes.any (·.contains char) then (true, cursor.consume 1)
      else (false, cursor) := by
  rw [acceptAny, probeAny?_names registry]
  cases cursor.peek?.any fun char => classes.any (·.contains char) <;> rfl

theorem acceptClass_eq (charClass : CharClass) :
    cursor.acceptClass charClass =
      if cursor.peek?.any charClass.contains then (true, cursor.consume 1)
      else (false, cursor) := by
  have accepted := acceptAny_names registry [charClass]
  simp only [List.any_cons, List.any_nil, Bool.or_false] at accepted
  exact accepted

end Standard

/-- With the standard registry a class is accepted where the next character is in its set.  It
takes that character and remembers the position before it, and otherwise leaves everything as it
is.  The class of both sides of a bracket is accepted just as the left or else the right side
is. -/
theorem acceptClass_standard (cursor : Cursor) (registry : cursor.registry = Registry.standard)
    (charClass : CharClass) :
    ((cursor.acceptClass charClass).1 = true ↔
        ∃ char, cursor.peek? = some char ∧ charClass.contains char = true) ∧
      ((cursor.acceptClass charClass).1 = true →
        (cursor.acceptClass charClass).2 =
          { cursor with
            position := cursor.position + 1
            history := cursor.history.push cursor.position }) ∧
      ((cursor.acceptClass charClass).1 = false → (cursor.acceptClass charClass).2 = cursor) ∧
      ∀ left right, charClass.sides? = some (left, right) →
        cursor.acceptClass charClass = cursor.acceptAny [left.name, right.name] := by
  refine ⟨?_, ?_, ?_, ?_⟩
  · rw [acceptClass_eq registry, ← Option.any_eq_true]
    split <;> rename_i fits
    · exact iff_of_true rfl fits
    · exact iff_of_false Bool.false_ne_true fits
  · intro accepted
    rw [acceptClass_eq registry] at accepted ⊢
    split at accepted <;> rename_i fits
    · rw [if_pos fits]
      rfl
    · cases accepted
  · intro refused
    exact acceptAny_eq_false refused
  · intro left right sides
    have either := acceptAny_names registry [left, right]
    simp only [List.any_cons, List.any_nil, Bool.or_false,
      ← CharClass.contains_of_sides? sides] at either
    exact (acceptClass_eq registry charClass).trans either.symm

/-- The class of both brackets takes a closing one. -/
theorem acceptClass_standard_closing :
    (ofString "é]").skip.registry = Registry.standard ∧
      ((ofString "é]").skip.acceptClass .squareBracket).1 = true ∧
      ((ofString "é]").skip.acceptClass .squareBracket).2.position = 1 ∧
      (ofString "é]").skip.acceptClass .squareBracket =
        (ofString "é]").skip.acceptAny ["left_square_bracket", "right_square_bracket"] := by
  obtain ⟨fits, taken, -, either⟩ :=
    acceptClass_standard (ofString "é]").skip rfl .squareBracket
  have accepted := fits.2 ⟨']', by decide, rfl⟩
  refine ⟨rfl, accepted, ?_, either _ _ rfl⟩
  rw [taken accepted]
  rfl

end Cursor

end TextCursor
