import DialogGate.Command.Error

/-! # The manual

The pages that the `docs` command shows: an overview, and one page for each topic. A topic is found
by its name or one of its short names, in any case of the letters.

* `ofName?_name`: every topic is found by its name.
-/

namespace DialogGate

/-- What the manual has a page about. -/
inductive Topic where
  | grammar | operators | vars | tags
  deriving DecidableEq, Repr

namespace Topic

/-- The name of a topic. -/
def name : Topic → String
  | grammar => "Syntax"
  | operators => "Operators"
  | vars => "Variables"
  | tags => "Tags"

/-- The topic of a name. The names are ASCII, and so is the change of case. -/
def ofName? (name : Text) : Option Topic :=
  match String.ofList (name.map Char.toLower) with
  | "syntax" => some grammar
  | "operators" | "ops" => some operators
  | "variables" | "vars" | "variable" => some vars
  | "tags" | "tag" => some tags
  | _ => none

theorem ofName?_name (t : Topic) : ofName? t.name.toList = some t := by
  cases t <;> decide +kernel

end Topic

namespace Manual

/-- The page without a topic. -/
def overview : String :=
"CHOICE CONDITIONS

Conditions are small expressions written inside a choice label. A disable
condition greys the choice out, a hide condition removes it from the list.

DOCUMENTATION CATEGORIES

  syntax            Literals, parentheses, and how expressions are grouped
  operators         Arithmetic, comparison, and logical operators
  variables         Reading game variables with \\v[N]
  tags              Disable and hide regions inside labels

QUICK REFERENCE

  true / false      Boolean literals
  42, -1.5          Number literals
  \\v[3]             Variable 3
  ! / not           Negation
  && ||             And, or
  == != < > <= >=   Comparison
  + - * / % **      Arithmetic

EXAMPLES

  choices check '(1 + 2) >= (2 * (3 - 3))'
  choices check '\\v[1] > 0' --vars '[0, 5]'
  echo '[\"<dis>true</dis>Locked\", \"Open\"]' | choices resolve
"

/-- The page about the form of conditions. -/
def grammar : String :=
"SYNTAX

VALUES
  true, false       Booleans
  7, -3, 0.25, .5   Numbers (optionally signed, optionally fractional)

GROUPING
  Operators group by precedence, loosest first:

    ||                        3
    &&                        4
    == !=                     8
    < > <= >=                 9
    + -                       11
    * / %                     12
    **                        13
    ! not                     14

  Operators of equal precedence group left to right (8 - 3 - 2 is 3),
  except ** which groups right to left (2 ** 3 ** 2 is 512).

  Parentheses override grouping: (1 + 2) * 3

SIGNED NUMBERS
  A signed number must stand alone or be parenthesised when it follows an
  operator: 5 * (-3), not 5 * -3.
"

/-- The page about operators. -/
def operators : String :=
"OPERATORS

LOGICAL (booleans only)
  !a, not a         Negation
  a && b            True when both are true
  a || b            True when either is true

COMPARISON
  a == b, a != b    Numbers compare numerically, booleans by value.
                    A boolean never equals a number.
  a < b, a > b      Numbers only
  a <= b, a >= b

ARITHMETIC (numbers only)
  a + b, a - b
  a * b, a / b      Division by zero gives infinity or NaN
  a % b             Remainder, sign follows a
  a ** b            Power

Any comparison with NaN is false, except != which is true.
"

/-- The page about variables. -/
def vars : String :=
"VARIABLES

  \\v[N] or \\V[N] reads game variable N. Unset variables read as 0.

  Examples:
    \\v[1] > 0
    \\v[2] == (\\v[3] + 3)
    (\\v[1] > 0) && (\\v[1] < 100)
"

/-- The page about conditions inside labels. -/
def tags : String :=
"TAGS

  <dis>condition</dis>    Disable the choice when the condition is true
  <hide>condition</hide>  Hide the choice when the condition is true

  The long form <disable>...</disable> is available with --convention long.

  At most one disable and one hide region is used per choice. Text outside
  the regions is kept exactly, spaces included:

    <dis>true</dis> choice       =>  \" choice\" (disabled)

  A condition that fails to parse or evaluate counts as false: the choice
  stays enabled and visible, and a warning is logged.
"

/-- The page about a topic. -/
def page : Topic → String
  | .grammar => grammar
  | .operators => operators
  | .vars => vars
  | .tags => tags

/-- The page about the topic of a name. -/
def find (name : Text) : Except CommandError (Topic × String) :=
  match Topic.ofName? name with
  | some t => .ok (t, page t)
  | none => .error (.unknownTopic name)

end Manual

end DialogGate
