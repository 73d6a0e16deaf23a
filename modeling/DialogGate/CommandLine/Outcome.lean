import DialogGate.Command.Manual
import DialogGate.Command.Resolve
import DialogGate.CommandLine.Invocation
import DialogGate.Text.Plain

/-! # Running an invocation

The outcome of an invocation: the exit status and what goes to the two output streams. Status 0 is
success, 1 a failure of the command, 2 arguments that are not understood. Results go to the standard
output; the log, as plain text, and the report of a failure go to the standard error.

* `status_run_le`: a command that was understood ends with status 0 or 1.
-/

namespace DialogGate.CommandLine

/-- What running the program comes to. -/
structure Outcome where
  status : Nat
  stdout : Text
  stderr : Text
  deriving DecidableEq, Repr

/-- The least severe level that is told when the program is asked so often to tell more. -/
def levelOf : Nat → Log.Level
  | 0 => .warn
  | 1 => .info
  | 2 => .debug
  | _ => .trace

/-- A name filled up with spaces to five characters. -/
def padded (name : Text) : Text := name ++ List.replicate (5 - name.length) ' '

/-- Further lines of a message are indented by four spaces. -/
def indented (message : Text) : Text :=
  message.flatMap fun c => if c = '\n' then "\n    ".toList else [c]

/-- The line of a record: plain text, whatever the message holds. -/
def recordLine (r : Log.Record) : Text :=
  Text.plain <|
    '[' :: padded r.level.name ++ ' ' :: r.origin.name ++ ']' :: ' ' :: indented r.message ++ ['\n']

/-- The lines of the records that are severe enough. -/
def logText (verbosity : Nat) (records : List Log.Record) : Text :=
  (Log.atLevel (some (levelOf verbosity)) records).flatMap recordLine

namespace Outcome

/-- The arguments were not understood. What is wrong with them is not told. -/
def usage : Outcome := ⟨2, [], []⟩

/-- The outcome of a command: its result, or the report of its failure behind the log. -/
def of (log : Text) : Except CommandError Text → Outcome
  | .ok result => ⟨0, result, log⟩
  | .error e => ⟨1, [], log ++ e.message ++ ['\n']⟩

end Outcome

/-- The input of `resolve`: the one given, or the standard input, which has to be UTF-8. -/
def inputText (given : Option Text) (stdin : ByteArray) : Except CommandError Text :=
  match given with
  | some text => .ok text
  | none =>
    match String.fromUTF8? stdin with
    | some s => .ok s.toList
    | none => .error .notUtf8

/-- Resolves a list and writes the choices that are shown. -/
def resolveText (r : Resolve) (pretty : Bool) : Except CommandError Text :=
  r.run.map fun resolution =>
    (if pretty then resolution.toJson.pretty else resolution.toJson.text) ++ ['\n']

/-- Runs a command. -/
def Invocation.run (i : Invocation) (stdin : ByteArray) : Outcome :=
  match i.command with
  | .check c => .of (logText i.verbosity c.log) (c.run.map (·.text ++ ['\n']))
  | .resolve given pretty markers =>
    match inputText given stdin with
    | .error e => .of [] (.error e)
    | .ok text =>
      let r : Resolve := ⟨some text, markers⟩
      .of (logText i.verbosity r.log) (resolveText r pretty)
  | .docs none => .of [] (.ok Manual.overview.toList)
  | .docs (some name) => .of [] ((Manual.find name).map (·.2.toList))

/-- The command reads the standard input. -/
def Invocation.readsInput (i : Invocation) : Bool :=
  match i.command with
  | .resolve none _ _ => true
  | _ => false

/-- The name and version of the program. -/
def versionLine : Text := "choices 0.1.0\n".toList

/-- Runs the program. -/
def run (arguments : List Text) (stdin : ByteArray) : Outcome :=
  match Request.ofArguments arguments with
  | none => .usage
  | some .version => ⟨0, versionLine, []⟩
  | some (.run i) => i.run stdin

theorem Outcome.status_of_le (log : Text) (result : Except CommandError Text) :
    (Outcome.of log result).status ≤ 1 := by
  cases result <;> simp [Outcome.of]

theorem status_run_le (i : Invocation) (stdin : ByteArray) : (i.run stdin).status ≤ 1 := by
  unfold Invocation.run
  split
  · exact Outcome.status_of_le _ _
  · split <;> exact Outcome.status_of_le _ _
  · exact Outcome.status_of_le _ _
  · exact Outcome.status_of_le _ _

end DialogGate.CommandLine
