import DialogGate.Command.Check
import DialogGate.CommandLine.Option

/-! # Invocations

What a list of arguments asks for: the version, or a command with its options and how much it is to
tell. `Request.ofArguments` has no result for arguments that are not understood: an unknown or
repeated option, a missing or superfluous word, a value that is not one of those allowed.

* `ofArguments_nil`: there is always a command.
-/

namespace DialogGate.CommandLine

/-- A command with its options. -/
inductive Command where
  | check (c : Check)
  /-- Resolve a list; without an input the standard input is read. -/
  | resolve (input : Option Text) (pretty : Bool) (markers : Markers)
  | docs (topic : Option Text)

/-- A command, and how often it was asked to tell more. -/
structure Invocation where
  verbosity : Nat
  command : Command

/-- What the arguments ask for. -/
inductive Request where
  | version
  | run (i : Invocation)

/-! ## One command -/

/-- How often an option without a value is given. -/
def count (f : Flag) (given : List Given) : Nat := given.count (.flag f)

/-- The words that are not options. -/
def words (given : List Given) : List Text :=
  given.filterMap fun
    | .word text => some text
    | _ => none

/-- The values of an option. -/
def valuesOf (f : Flag) (given : List Given) : List Text :=
  given.filterMap fun
    | .value g text => if g = f then some text else none
    | _ => none

/-- The value of an option that may be given once. -/
def valueOf? (f : Flag) (given : List Given) : Option (Option Text) :=
  match valuesOf f given with
  | [] => some none
  | [text] => some (some text)
  | _ => none

/-- Whether an option without a value that may be given once is given. -/
def isGiven? (f : Flag) (given : List Given) : Option Bool :=
  match count f given with
  | 0 => some false
  | 1 => some true
  | _ => none

/-- The markers that a convention starts from. -/
def conventionOf? : Option Text → Option Markers
  | none => some Markers.short
  | some name =>
    if name = "short".toList then some Markers.short
    else if name = "long".toList then some Markers.long
    else none

/-- The markers of one kind: those given, and the ones of the convention for the rest. -/
def pairOf? (kind : Kind) (base : MarkerPair) (given : List Given) : Option MarkerPair := do
  let opening ← valueOf? (.opening kind) given
  let closing ← valueOf? (.closing kind) given
  return ⟨opening.getD base.opening, closing.getD base.closing⟩

/-- The markers of both kinds. -/
def markersOf? (given : List Given) : Option Markers := do
  let base ← conventionOf? (← valueOf? .convention given)
  return ⟨← pairOf? .disable base.disable given, ← pairOf? .hide base.hide given⟩

/-- The command of a name: the options it has. -/
def allowed? (name : Text) : Option (List Flag) :=
  if name = "check".toList then some [.verbose, .vars, .syntaxOnly]
  else if name = "resolve".toList then
    some [.verbose, .input, .pretty, .convention, .opening .disable, .closing .disable,
      .opening .hide, .closing .hide]
  else if name = "docs".toList then some [.verbose]
  else none

/-- The command of a name with what its arguments give. -/
def command? (name : Text) (given : List Given) : Option Command :=
  if name = "check".toList then
    match words given with
    | [expression] => do
      return .check ⟨expression, ← valueOf? .vars given, ← isGiven? .syntaxOnly given⟩
    | _ => none
  else if name = "resolve".toList then
    match words given with
    | [] => do
      return .resolve (← valueOf? .input given) (← isGiven? .pretty given) (← markersOf? given)
    | _ => none
  else
    match words given with
    | [] => some (.docs none)
    | [topic] => some (.docs (some topic))
    | _ => none

/-- A command of which `before` tells how often the program was asked to tell more ahead of the
command's name. What is asked behind the name takes precedence. -/
def invocation? (before : Nat) (name : Text) (arguments : List Text) : Option Invocation := do
  let given ← readArguments (← allowed? name) none arguments
  let behind := count .verbose given
  return ⟨if behind = 0 then before else behind, ← command? name given⟩

/-! ## All arguments -/

/-- What stands in a cluster of short options ahead of the command's name. -/
inductive Ahead where
  | more (times : Nat)
  | version

/-- Reads a cluster of short options ahead of the command's name. -/
def Ahead.ofLetters : Text → Option Ahead
  | [] => some (.more 0)
  | 'V' :: _ => some .version
  | 'v' :: rest =>
    (ofLetters rest).map fun
      | .more n => .more (n + 1)
      | .version => .version
  | _ => none

/-- Reads an argument ahead of the command's name, unless it is that name. -/
def Ahead.ofArgument : Argument → Option Ahead
  | .long name none =>
    if name = "version".toList then some .version
    else if name = Flag.verbose.long then some (.more 1)
    else none
  | .short letters => ofLetters letters
  | _ => none

namespace Request

/-- Reads the arguments behind those that asked `before` times to tell more. -/
def ofArgumentsFrom (before : Nat) : List Text → Option Request
  | [] => none
  | argument :: rest =>
    match Argument.ofText argument with
    | .plain name => (invocation? before name rest).map .run
    | form =>
      match Ahead.ofArgument form with
      | some (.more n) => ofArgumentsFrom (before + n) rest
      | some .version => some .version
      | none => none

/-- Reads the arguments of the program. -/
def ofArguments (arguments : List Text) : Option Request := ofArgumentsFrom 0 arguments

theorem ofArguments_nil : ofArguments [] = none := rfl

end Request

end DialogGate.CommandLine
