import TextCursor.BoundedStack.Basic
import TextCursor.BoundedStack.Lemmas
import TextCursor.BoundedStack.Operation
import TextCursor.Text.WhiteSpace
import TextCursor.Text.DecimalDigit
import TextCursor.Text.Word
import TextCursor.Text.Quoted
import TextCursor.Decimal.Numeral
import TextCursor.Decimal.Layout
import TextCursor.Pattern.Basic
import TextCursor.CharClass
import TextCursor.Engine
import TextCursor.Registry
import TextCursor.Source.Lemmas
import TextCursor.Cursor.Operation
import TextCursor.Cursor.Progress
import TextCursor.Lexer
import TextCursor.Calculator.Lexer
import TextCursor.Json.Lexer
import TextCursor.CommandLine
import TextCursor.Main
import TextCursor.Proofs.BoundedStack.Ledger
import TextCursor.Proofs.Cursor.Ahead
import TextCursor.Proofs.Cursor.Runs
import TextCursor.Proofs.Cursor.Steps
import TextCursor.Proofs.Registry.Lookup
import TextCursor.Proofs.Cursor.Capacity
import TextCursor.Proofs.Cursor.Machine
import TextCursor.Proofs.Cursor.MachineSafety
import TextCursor.Proofs.Cursor.Consumption
import TextCursor.Proofs.Cursor.StepsBack
import TextCursor.Proofs.Cursor.Questions
import TextCursor.Proofs.Cursor.TextSearch
import TextCursor.Proofs.Cursor.Probing
import TextCursor.Proofs.Lexer.Scanner
import TextCursor.Proofs.Cursor.Rewind
import TextCursor.Proofs.Cursor.StandardClass
import TextCursor.Proofs.Lexer.Factorisation
import TextCursor.Proofs.Lexer.Composition
import TextCursor.Proofs.Lexer.LongestPrefix
import TextCursor.Proofs.Decimal.Numeral
import TextCursor.Proofs.Calculator.MaximalMunch
import TextCursor.Proofs.Json.Scanner
import TextCursor.Proofs.Json.Findings
import TextCursor.Proofs.Json.NumberGrammar
import TextCursor.Proofs.Json.Factorisation
import TextCursor.Proofs.Json.EndToken
import TextCursor.Proofs.Json.Composition
import TextCursor.Proofs.Json.Rendering
import TextCursor.Proofs.Json.StringDecoding
import TextCursor.Proofs.Json.LongestNumber
import TextCursor.Proofs.Lexer.GivingBack
import TextCursor.Proofs.Lexer.Rounds
import TextCursor.Proofs.Calculator.Composition
import TextCursor.Proofs.Cursor.Characters
import TextCursor.Proofs.Registry.Building
import TextCursor.Proofs.Cursor.Spelling
import TextCursor.Proofs.Cursor.ClassSpan
import TextCursor.Proofs.Cursor.ClassTable
import TextCursor.Proofs.Cursor.Stepping
import TextCursor.Proofs.Cursor.Exhaustion
import TextCursor.Proofs.Cursor.Observers
import TextCursor.Proofs.Cursor.PredicateForms
import TextCursor.Proofs.BoundedStack.Newest
import TextCursor.Proofs.Lexer.GoingBack
