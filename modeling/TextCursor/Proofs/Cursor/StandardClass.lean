import TextCursor.Proofs.Cursor.TextSearch
import TextCursor.Proofs.Registry.Lookup

/-!
# Standard classes ahead of a cursor

With the standard registry a class covers what its own rule says, whatever the
cursor has been through.
-/

namespace TextCursor

variable {σ : Type}

theorem prefixLength?_of_toList {text : String} {char : Char} (spelled : text.toList = [char])
    (chars : List Char) :
    prefixLength? text chars = if chars.head? = some char then some 1 else none := by
  have size : text.length = 1 := by rw [← String.length_toList, spelled]; rfl
  have some : text ≠ "" := by
    intro empty
    rw [empty] at size
    cases size
  simp only [prefixLength?, spelled, size]
  cases chars with
  | nil => simp
  | cons first chars => simp [some, eq_comm]

/-- The name of a class with a literal stands for it. -/
theorem Registry.textOf?_of_literal {charClass : CharClass} {text : String}
    (literal : charClass.matcher = .literal text) :
    standard.textOf? charClass.name = some text := by
  simp only [textOf?, classify?_standard_name, literal]

/-- A text that is the name of no class stands for itself. -/
theorem Registry.textOf?_of_nameless {text : String} (nameless : CharClass.ofName? text = none)
    (verbatim : ClassName.isVerbatim text = true) : standard.textOf? text = some text := by
  have literal := (ClassName.isVerbatim_iff text).1 verbatim
  simp only [textOf?, classify?_standard, nameless, Option.map_none, literal]

namespace Cursor

variable {cursor : Cursor}

/-- A name that stands for one character is accepted where that character is next. -/
theorem accept_of_char {name text : String} {char : Char}
    (stands : cursor.registry.textOf? name = some text) (spelled : text.toList = [char]) :
    cursor.accept name =
      if cursor.ahead.head? = some char then (true, cursor.consume 1) else (false, cursor) := by
  have covered := Registry.covers?_of_textOf? stands cursor.ahead
  rw [prefixLength?_of_toList spelled] at covered
  split <;> rename_i next
  · rw [if_pos next] at covered
    exact accept_of_covers covered
  · rw [if_neg next] at covered
    exact accept_of_not_covers covered

section Standard

variable (registry : cursor.registry = Registry.standard)
include registry

theorem acceptClass_dot :
    cursor.acceptClass .dot =
      if cursor.ahead.head? = some '.' then (true, cursor.consume 1) else (false, cursor) := by
  have stands : cursor.registry.textOf? CharClass.dot.name = some "." := by
    rw [registry]
    exact Registry.textOf?_of_literal rfl
  exact accept_of_char stands rfl

theorem decides_ofClass {charClass : CharClass} {rule : Pattern}
    (pattern : charClass.matcher = .pattern rule) :
    cursor.Decides (.ofClass charClass : Predicate σ) rule.searchChar := by
  apply decides_name_of_pattern
  rw [registry, Registry.classify?_standard_name, pattern]

theorem decides_digit : cursor.Decides (.ofClass .digit : Predicate σ) Char.isDigit := by
  rw [← CharClass.searchChar_digitPattern]
  exact decides_ofClass registry CharClass.matcher_digit

/-- Taking digits takes the digits that are ahead. -/
theorem takeWhile_digit :
    cursor.takeWhile (.ofClass .digit) =
      (String.ofList (cursor.ahead.takeWhile Char.isDigit),
        cursor.pass (cursor.ahead.takeWhile Char.isDigit).length) :=
  takeWhile_eq (decides_digit registry)

end Standard

end Cursor

end TextCursor
