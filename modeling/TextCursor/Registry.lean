import Std.Data.HashMap
import TextCursor.Engine
import TextCursor.Event

/-!
# Registries of character classes

A registry maps names to matchers.  It is built by a list of registrations, each of
which replaces what an earlier one stored under the same name; an engine decides
which patterns compile.  Names are stored with underscores between their words.  A name is
looked up as it is written, and if that fails and it has spaces, once more with underscores
in their place.
-/

namespace TextCursor

/-- A table of named character classes. -/
structure Registry where
  /-- The matcher of every registered name. -/
  table : Std.HashMap String Matcher

/-- A request to register classes. -/
inductive Registration where
  /-- Register every standard class. -/
  | standard
  /-- Register a name for exactly one text. -/
  | literal (name text : String)
  /-- Register a name for a pattern. -/
  | pattern (name source : String)
  deriving DecidableEq, Repr

/-- Why a registration is refused; an engine gives the cause for a pattern. -/
inductive RegistrationError (κ : Type) where
  /-- The name is empty. -/
  | emptyName
  /-- The pattern for a name does not compile. -/
  | invalidPattern (name : String) (cause : κ)
  deriving DecidableEq, Repr

/-- What to tell the reader about a refused registration. -/
def RegistrationError.message {κ : Type} : RegistrationError κ → String
  | .emptyName => "character class name must not be empty"
  | .invalidPattern name _ => "invalid pattern for character class `" ++ name ++ "`"

/-- The names of the standard classes with their rules. -/
def CharClass.entries (engine : Engine) : List (String × Matcher) :=
  all.map fun charClass => (charClass.name, charClass.matcher engine)

namespace Registration

/-- The classes that a registration adds.  An empty name is refused before the
pattern is looked at. -/
def entries (engine : Engine) :
    Registration → Except (RegistrationError engine.Cause) (List (String × Matcher))
  | .standard => .ok (CharClass.entries engine)
  | .literal name text =>
      if name.isEmpty then .error .emptyName
      else .ok [(ClassName.normalise name, .literal text)]
  | .pattern name source =>
      if name.isEmpty then .error .emptyName
      else match engine.compile source with
        | .ok rule => .ok [(ClassName.normalise name, .pattern rule)]
        | .error cause => .error (.invalidPattern (ClassName.normalise name) cause)

/-- Whether a registration is accepted. -/
def isAccepted (engine : Engine) (registration : Registration) : Bool :=
  match registration.entries engine with
  | .ok _ => true
  | .error _ => false

/-- The event of an accepted registration. -/
def event : Registration → Event
  | .standard => .standardRegistered CharClass.all.length
  | .literal name _ => .literalRegistered (ClassName.normalise name)
  | .pattern name source => .patternRegistered (ClassName.normalise name) source

end Registration

namespace Registry

/-- The registry without classes. -/
def empty : Registry := ⟨∅⟩

/-- The number of registered names. -/
def size (registry : Registry) : Nat := registry.table.size

/-- Whether no name is registered. -/
def isEmpty (registry : Registry) : Bool := registry.table.isEmpty

/-- Store several classes, the first one first. -/
def insertAll (registry : Registry) (entries : List (String × Matcher)) : Registry :=
  ⟨entries.foldl (fun table entry => table.insert entry.1 entry.2) registry.table⟩

/-- The matcher registered under a name.  A name with spaces finds what is registered with
underscores. -/
def classify? (registry : Registry) (name : String) : Option Matcher :=
  match registry.table[name]? with
  | some matcher => some matcher
  | none =>
      if ' ' ∈ name.toList then registry.table[ClassName.normalise name]? else none

/-- Whether a name is registered. -/
def contains (registry : Registry) (name : String) : Bool := (registry.classify? name).isSome

/-- Whether a text belongs to the class of a name.  A name that is not registered
stands for a text, and only that text belongs to it. -/
def accepts (registry : Registry) (name candidate : String) : Bool :=
  match registry.classify? name with
  | some matcher => matcher.accepts candidate
  | none => ClassName.literalText name == candidate

/-- The first refused registration of a list. -/
structure BuildFailure (κ : Type) where
  /-- The place of the registration in the list. -/
  step : Nat
  /-- Why it is refused. -/
  error : RegistrationError κ
  deriving DecidableEq, Repr

/-- Carry out the registrations in order, the first of which has the given place,
up to the first one that is refused. -/
def buildFrom (engine : Engine) (registry : Registry) (step : Nat) :
    List Registration → Except (BuildFailure engine.Cause) Registry
  | [] => .ok registry
  | registration :: rest =>
      match registration.entries engine with
      | .ok entries => buildFrom engine (registry.insertAll entries) (step + 1) rest
      | .error error => .error ⟨step, error⟩

/-- The registry that a list of registrations makes. -/
def build (engine : Engine) (registrations : List Registration) :
    Except (BuildFailure engine.Cause) Registry :=
  buildFrom engine empty 0 registrations

/-- The events of building a registry: one for every registration before the first
refused one. -/
def buildEvents (engine : Engine) (registrations : List Registration) : List Event :=
  (registrations.takeWhile (·.isAccepted engine)).map (·.event)

/-- The registry of the standard classes. -/
def standard (engine : Engine := .marking) : Registry :=
  empty.insertAll (CharClass.entries engine)

end Registry

end TextCursor
