import TextCursor.CharClass
import TextCursor.Pattern.Parser

/-!
# Engines

An engine compiles patterns: it refuses a source text or gives the pattern that the text
spells.  Classes and registries are made with an engine, and what is said of building them and of
looking names up holds for every engine.  The engine that is run reads a source text as a
regular expression and marks the sets of the expression while it searches (`Engine.marking`).  It
refuses what is seldom written, such as properties of characters by name and named groups, and
another engine may take its place.
-/

namespace TextCursor

/-- A way to compile patterns. -/
structure Engine where
  /-- Why a source text is refused. -/
  Cause : Type
  /-- Compile a source text. -/
  compile : String → Except Cause Pattern
  /-- The patterns of the standard classes are not refused. -/
  compiles : ∀ {charClass : CharClass} {source : String},
    charClass.definition = .pattern source → (compile source).toOption.isSome = true

namespace Pattern.Expr

/-- The pattern of an expression that is spelled by a source text. -/
def pattern (expr : Expr) (source : String) : Pattern where
  source := source
  search text := expr.search text.toList

/-- The pattern that a source text spells. -/
def compile (source : String) : Except SyntaxError Pattern :=
  (ofSource source).map (·.pattern source)

end Pattern.Expr

/-- The engine that moves marks over regular expressions. -/
def Engine.marking : Engine where
  Cause := Pattern.SyntaxError
  compile := Pattern.Expr.compile
  compiles {charClass source} defined := by
    cases charClass <;> cases defined <;> rfl

/-- The rule of a class. -/
def CharClass.matcher (charClass : CharClass) (engine : Engine := .marking) : Matcher :=
  match defined : charClass.definition with
  | .literal text => .literal text
  | .pattern source => .pattern ((engine.compile source).toOption.get (engine.compiles defined))

namespace CharClass

variable {charClass : CharClass} {engine : Engine}

theorem matcher_of_compile {source : String} {rule : Pattern}
    (defined : charClass.definition = .pattern source)
    (compiled : engine.compile source = .ok rule) : charClass.matcher engine = .pattern rule := by
  unfold matcher
  split <;> rename_i same <;> cases defined.symm.trans same
  rw [Option.get_of_eq_some _ (congrArg Except.toOption compiled)]

/-- The rule of a class with a pattern, as it is run. -/
theorem matcher_of_ofSource {source : String} {expr : Pattern.Expr}
    (defined : charClass.definition = .pattern source)
    (spelled : Pattern.Expr.ofSource source = .ok expr) :
    charClass.matcher = .pattern (expr.pattern source) := by
  apply matcher_of_compile defined
  exact congrArg (Except.map (Pattern.Expr.pattern · source)) spelled

end CharClass

end TextCursor
