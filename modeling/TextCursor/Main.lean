import TextCursor.CommandLine

/-!
# The main program

The first argument chooses between the programs, and the others are handed on.
-/

open TextCursor.CommandLine

/-- Run the program that the first argument names. -/
def main (arguments : List String) : IO UInt32 := do
  match arguments with
  | name :: rest =>
      match Program.ofName? name with
      | some program => do
          IO.print (program.output rest)
          return 0
      | none => do
          IO.eprintln ("unknown program: " ++ name)
          return 2
  | [] => do
      IO.eprintln "name a program: calc or json"
      return 2
