import TextCursor.Text.Quoted

/-!
# Tokens of JSON texts

Values without parts, and the punctuation of objects and arrays, each with the place
in the text where it begins.  A number keeps its spelling, a string has its escapes
resolved.
-/

namespace TextCursor.Json

/-- A punctuation mark. -/
inductive Punctuation where
  | leftBrace
  | rightBrace
  | leftBracket
  | rightBracket
  | comma
  | colon
  deriving DecidableEq, Repr

/-- The name of a punctuation mark. -/
def Punctuation.label : Punctuation → String
  | .leftBrace => "LeftBrace"
  | .rightBrace => "RightBrace"
  | .leftBracket => "LeftBracket"
  | .rightBracket => "RightBracket"
  | .comma => "Comma"
  | .colon => "Colon"

/-- A token of a JSON text. -/
inductive Token where
  /-- A string with its escapes resolved. -/
  | string (value : String) (offset : Int)
  /-- A number as it is spelled. -/
  | number (spelling : String) (offset : Int)
  /-- A truth value. -/
  | boolean (value : Bool) (offset : Int)
  /-- The null value. -/
  | null (offset : Int)
  /-- A punctuation mark. -/
  | punctuation (mark : Punctuation) (offset : Int)
  /-- The end of the text. -/
  | eof (offset : Int)
  deriving DecidableEq, Repr

namespace Token

/-- The name of the kind of token. -/
def label : Token → String
  | .string .. => "String"
  | .number .. => "Number"
  | .boolean .. => "Boolean"
  | .null _ => "Null"
  | .punctuation mark _ => mark.label
  | .eof _ => "Eof"

/-- The place where the token begins. -/
def offset : Token → Int
  | .string _ place => place
  | .number _ place => place
  | .boolean _ place => place
  | .null place => place
  | .punctuation _ place => place
  | .eof place => place

/-- A one-line description. -/
def describe (token : Token) : String :=
  let value := match token with
    | .string value _ => "value: " ++ Text.quoted value ++ ", "
    | .number spelling _ => "value: " ++ Text.quoted spelling ++ ", "
    | .boolean value _ => "value: " ++ (if value then "true" else "false") ++ ", "
    | _ => ""
  token.label ++ " \x7b " ++ value ++ "at: " ++ toString token.offset ++ " \x7d"

end Token

end TextCursor.Json
