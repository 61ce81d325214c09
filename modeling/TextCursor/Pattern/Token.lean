import TextCursor.Pattern.Symbol

/-!
# The tokens of a pattern

The second reading gathers symbols into tokens: sets in square brackets,
repetition counts and the openings of groups take several symbols each.
-/

namespace TextCursor.Pattern

/-- A token of a pattern. -/
inductive Token where
  /-- One character of a set. -/
  | set (allowed : CharSet)
  /-- The start of the whole text. -/
  | textStart
  /-- The end of the whole text. -/
  | textEnd
  /-- The bar between alternatives. -/
  | bar
  /-- The opening of a group. -/
  | openGroup
  /-- The end of a group. -/
  | closeGroup
  /-- From here to the end of the group letters stand for both of their cases. -/
  | ignoreCase
  /-- How often the expression before it is repeated. -/
  | repetition (least : Nat) (most : Option Nat)
  deriving DecidableEq, Repr

namespace Token

/-- What is known of a range while the entries of a set are read. -/
inductive PendingEntry where
  /-- Nothing is waiting. -/
  | idle
  /-- A character or property that may begin a range. -/
  | entry (symbol : Symbol)
  /-- A range that lacks its last character. -/
  | range (first : Char)

/-- The character that a symbol in a set stands for. -/
def literal? : Symbol → Option Char
  | .plain char => some char
  | .escaped char => some char
  | _ => none

/-- The entry of a set that a symbol stands for on its own. -/
def member? : Symbol → Except SyntaxError Member
  | .plain char => pure (.single char)
  | .escaped char => pure (.single char)
  | .property kind present => pure (.property kind present)
  | .textStart => throw .unknownEscape
  | .textEnd => throw .unknownEscape

/-- Whether a symbol and its successor form an operation on sets, or open a set
within the set. -/
def opensOperation (symbol : Symbol) (next : Option Symbol) : Bool :=
  symbol = .plain '[' ||
    (['-', '&', '~'].any fun mark => symbol = .plain mark && next = some (.plain mark))

/-- Read the entries of a set up to its closing bracket, with the number of symbols
they take. -/
def setEntries (pending : PendingEntry) (read : List Member) (count : Nat) :
    List Symbol → Except SyntaxError (List Member × Nat)
  | [] => throw .unclosedSet
  | symbol :: rest =>
      match pending with
      | .range first =>
          match literal? symbol with
          | some last =>
              if first ≤ last then
                setEntries .idle (read ++ [.range first last]) (count + 1) rest
              else throw .invalidRange
          | none => throw .invalidRange
      | .entry earlier =>
          if symbol = .plain '-' ∧ rest.head? ≠ some (.plain ']') ∧
              rest.head? ≠ some (.plain '-') then
            match literal? earlier with
            | some first => setEntries (.range first) read (count + 1) rest
            | none => throw .invalidRange
          else do
            let member ← member? earlier
            if symbol = .plain ']' then pure (read ++ [member], count + 1)
            else if opensOperation symbol rest.head? then throw .unsupportedSet
            else setEntries (.entry symbol) (read ++ [member]) (count + 1) rest
      | .idle =>
          if symbol = .plain ']' then pure (read, count + 1)
          else if opensOperation symbol rest.head? then throw .unsupportedSet
          else setEntries (.entry symbol) read (count + 1) rest

/-- Read a set behind its opening bracket.  A caret first stands for the complement;
hyphens at the very start, or else a closing bracket there, belong to the set. -/
def setToken (rest : List Symbol) : Except SyntaxError (Token × Nat) := do
  let negated := rest.head? = some (.plain '^')
  let body := if negated then rest.drop 1 else rest
  let hyphens := body.takeWhile (· = .plain '-')
  let afterHyphens := body.drop hyphens.length
  let bracket := hyphens.isEmpty && afterHyphens.head? = some (.plain ']')
  let leading := hyphens.map (fun _ => Member.single '-') ++
    if bracket then [Member.single ']'] else []
  let (members, count) ←
    setEntries .idle leading 0 (if bracket then afterHyphens.drop 1 else afterHyphens)
  pure (.set { members := members, negated := negated },
    (if negated then 1 else 0) + leading.length + count)

/-- Whether a symbol is a plain white-space character. -/
def isBlank : Symbol → Bool
  | .plain char => Text.isWhiteSpace char
  | _ => false

/-- Whether a symbol is a plain digit. -/
def isDigit : Symbol → Bool
  | .plain char => char.isDigit
  | _ => false

/-- The number that digits spell, for a number of at most thirty-two bits. -/
def countOf? (digits : List Symbol) : Except SyntaxError Nat :=
  let value := digits.foldl (fun value digit =>
    match digit with
    | .plain char => 10 * value + (char.toNat - '0'.toNat)
    | _ => value) 0
  if digits.isEmpty || 0xFFFFFFFF < value then throw .invalidCount else pure value

/-- Read a number that may stand between blanks, with the symbols behind it. -/
def readCount (rest : List Symbol) : Except SyntaxError (Nat × List Symbol) := do
  let trimmed := rest.dropWhile isBlank
  let count ← countOf? (trimmed.takeWhile isDigit)
  pure (count, (trimmed.dropWhile isDigit).dropWhile isBlank)

/-- Whether the symbols begin with the plain character. -/
def beginsWith (char : Char) (rest : List Symbol) : Bool :=
  rest.head? = some (.plain char)

/-- A repetition with the symbols behind it, where a question mark that asks for the
shortest match changes nothing in what is found. -/
def lazily (token : Token) (rest : List Symbol) : Token × List Symbol :=
  (token, if beginsWith '?' rest then rest.drop 1 else rest)

/-- Read a repetition count behind its opening brace. -/
def countToken (rest : List Symbol) : Except SyntaxError (Token × List Symbol) := do
  let (least, behind) ← readCount rest
  if beginsWith '\x7d' behind then
    pure (lazily (.repetition least (some least)) (behind.drop 1))
  else if beginsWith ',' behind then
    if beginsWith '\x7d' (behind.drop 1) then
      pure (lazily (.repetition least none) (behind.drop 2))
    else
      let (most, after) ← readCount (behind.drop 1)
      if beginsWith '\x7d' after && least ≤ most then
        pure (lazily (.repetition least (some most)) (after.drop 1))
      else throw .invalidCount
  else throw .invalidCount

/-- Read what follows an opening parenthesis. -/
def groupToken (rest : List Symbol) : Except SyntaxError (Token × List Symbol) :=
  match rest with
  | .plain '?' :: .plain ':' :: behind => pure (.openGroup, behind)
  | .plain '?' :: .plain 'i' :: .plain ')' :: behind => pure (.ignoreCase, behind)
  | .plain '?' :: _ => throw .unsupportedGroup
  | _ => pure (.openGroup, rest)

/-- The token that begins with a symbol, with the number of further symbols it
takes. -/
def next (symbol : Symbol) (rest : List Symbol) : Except SyntaxError (Token × Nat) :=
  let counted (result : Token × List Symbol) : Token × Nat :=
    (result.1, rest.length - result.2.length)
  match symbol with
  | .escaped char => pure (.set (.single char), 0)
  | .property kind present => pure (.set { members := [.property kind present] }, 0)
  | .textStart => pure (.textStart, 0)
  | .textEnd => pure (.textEnd, 0)
  | .plain char =>
      match char with
      | '^' => pure (.textStart, 0)
      | '$' => pure (.textEnd, 0)
      | '.' => pure (.set .anyButLineFeed, 0)
      | '|' => pure (.bar, 0)
      | ')' => pure (.closeGroup, 0)
      | '(' => counted <$> groupToken rest
      | '[' => setToken rest
      | '*' => pure (counted (lazily (.repetition 0 none) rest))
      | '+' => pure (counted (lazily (.repetition 1 none) rest))
      | '?' => pure (counted (lazily (.repetition 0 (some 1)) rest))
      | '\x7b' => counted <$> countToken rest
      | _ => pure (.set (.single char), 0)

/-- Read the tokens of a pattern, after skipping the symbols that belong to a token
already read. -/
def readAll : (skip : Nat) → List Symbol → Except SyntaxError (List Token)
  | _, [] => pure []
  | skip + 1, _ :: rest => readAll skip rest
  | 0, symbol :: rest => do
      let (token, count) ← next symbol rest
      pure (token :: (← readAll count rest))

/-- The tokens of a pattern. -/
def ofSource (source : String) : Except SyntaxError (List Token) := do
  readAll 0 (← Symbol.readAll 0 source.toList)

end Token

end TextCursor.Pattern
