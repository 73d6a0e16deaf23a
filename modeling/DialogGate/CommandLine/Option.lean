import DialogGate.Label.Marker

/-! # Options of the command line

An argument is an option in its long form (`--name` or `--name=value`), a cluster of options in
their short form (`-pi`), the mark `--` behind which no argument is an option, or a plain word. An
option that takes a value takes it from the rest of its argument or from the next argument, which
has to be a plain word then.

* `Argument.ofText_plain`: an argument that does not start with a dash is a plain word.
-/

namespace DialogGate.CommandLine

/-- The options of all commands. -/
inductive Flag where
  | verbose | vars | syntaxOnly | input | pretty | convention
  | opening (kind : Kind)
  | closing (kind : Kind)
  deriving DecidableEq, Repr

namespace Flag

/-- The long form, without its dashes. -/
def long : Flag → Text
  | verbose => "verbose".toList
  | vars => "vars".toList
  | syntaxOnly => "syntax-only".toList
  | input => "input".toList
  | pretty => "pretty".toList
  | convention => "convention".toList
  | opening kind => kind.name ++ "-open".toList
  | closing kind => kind.name ++ "-close".toList

/-- The short form. -/
def short? : Flag → Option Char
  | verbose => some 'v'
  | input => some 'i'
  | pretty => some 'p'
  | _ => none

/-- The option comes with a value. -/
def takesValue : Flag → Bool
  | verbose | syntaxOnly | pretty => false
  | _ => true

end Flag

/-- The form of an argument. -/
inductive Argument where
  | endOfOptions
  | long (name : Text) (value : Option Text)
  | short (letters : Text)
  | plain (word : Text)
  deriving DecidableEq, Repr

namespace Argument

/-- The form of an argument; a single dash is a plain word. -/
def ofText : Text → Argument
  | ['-', '-'] => endOfOptions
  | '-' :: '-' :: rest =>
    long (rest.takeWhile (· ≠ '='))
      (if rest.contains '=' then some ((rest.dropWhile (· ≠ '=')).drop 1) else none)
  | '-' :: c :: rest => short (c :: rest)
  | word => plain word

theorem ofText_plain {c : Char} {rest : Text} (h : c ≠ '-') :
    ofText (c :: rest) = plain (c :: rest) := by
  unfold ofText
  split <;> simp_all

end Argument

/-- What the arguments of a command give. -/
inductive Given where
  | flag (f : Flag)
  | value (f : Flag) (text : Text)
  | word (text : Text)
  deriving DecidableEq, Repr

/-- What a cluster of short options gives, and the option that still needs a value. -/
def ofCluster (allowed : List Flag) : Text → Option (List Given × Option Flag)
  | [] => some ([], none)
  | c :: rest =>
    match allowed.find? (·.short? = some c) with
    | none => none
    | some f =>
      if f.takesValue then
        match rest with
        | [] => some ([], some f)
        | '=' :: text => some ([.value f text], none)
        | text => some ([.value f text], none)
      else
        (ofCluster allowed rest).map fun (given, open?) => (.flag f :: given, open?)

/-- What a long option gives, and the option that still needs a value. -/
def ofLong (allowed : List Flag) (name : Text) (value : Option Text) :
    Option (List Given × Option Flag) :=
  match allowed.find? (·.long = name) with
  | none => none
  | some f =>
    match f.takesValue, value with
    | true, some text => some ([.value f text], none)
    | true, none => some ([], some f)
    | false, some _ => none
    | false, none => some ([.flag f], none)

/-- What the arguments give; `open?` is an option before them that still needs a value. -/
def readArguments (allowed : List Flag) (open? : Option Flag) : List Text → Option (List Given)
  | [] => if open?.isSome then none else some []
  | argument :: rest =>
    match Argument.ofText argument, open? with
    | .plain word, some f => (readArguments allowed none rest).map (.value f word :: ·)
    | _, some _ => none
    | .plain word, none => (readArguments allowed none rest).map (.word word :: ·)
    | .endOfOptions, none => some (rest.map .word)
    | .long name value, none => do
      let (given, next) ← ofLong allowed name value
      return given ++ (← readArguments allowed next rest)
    | .short letters, none => do
      let (given, next) ← ofCluster allowed letters
      return given ++ (← readArguments allowed next rest)

end DialogGate.CommandLine
