import RouteMigration.Text.Words

/-!
# Command line arguments

An argument is an option, the value of the option before it, or an operand.  Options have a long
name, written `--name` or `--name=value`, and may have a short one, written `-n`, `-nvalue` or
`-n=value`; short options without values may be written together.  After `--` everything is an
operand.

## Main Definitions

* `OptionRule` — an option that a command knows
* `Arguments.read` — the options and operands of an argument list
-/

namespace RouteMigration

/-- An option that a command knows. -/
structure OptionRule where
  /-- The long name, without its dashes. -/
  long : String
  /-- The short name, without its dash. -/
  short : Option Char := none
  /-- Which values the option may have, if it takes one. -/
  accepts : Option (String → Bool) := none
  /-- The option may be given more than once. -/
  mayRepeat : Bool := false
  /-- The option asks for help. -/
  isHelp : Bool := false

/-- Why a command line is not carried out. -/
inductive UsageStop where
  /-- It asks for help. -/
  | help
  /-- It is not well-formed. -/
  | misuse
deriving DecidableEq, Repr, Inhabited

/-- What an argument list says. -/
structure Arguments where
  /-- The long names of the given options, with their values. -/
  options : List (String × String) := []
  operands : List String := []
deriving DecidableEq, Repr, Inhabited

namespace Arguments

/-- The option was given. -/
def has (a : Arguments) (long : String) : Bool := a.options.any (·.1 = long)

/-- The value that the option was given. -/
def value? (a : Arguments) (long : String) : Option String := a.options.lookup long

/-- Adds an option and its value, which is empty for an option that takes none. -/
def addOption (a : Arguments) (rule : OptionRule) (value : String) : Except UsageStop Arguments :=
  if rule.isHelp then .error .help
  else if a.has rule.long && !rule.mayRepeat then .error .misuse
  else if (rule.accepts.map (· value)).getD true then
    .ok { a with options := a.options ++ [(rule.long, value)] }
  else .error .misuse

/-- Adds the operand, which is a path and the only one. -/
def addOperand (a : Arguments) (value : String) : Except UsageStop Arguments :=
  if a.operands.isEmpty && value ≠ "" then .ok { a with operands := [value] }
  else .error .misuse

/-- Adds operands. -/
def addOperands (a : Arguments) (values : List String) : Except UsageStop Arguments :=
  values.foldlM addOperand a

/-- The rule of an option. -/
def findRule (rules : List OptionRule) (p : OptionRule → Bool) : Except UsageStop OptionRule :=
  match rules.find? p with
  | some rule => .ok rule
  | none => .error .misuse

/-- Adds short options that are written together.  If the last one still needs a value, its rule is
given too. -/
def addShort (rules : List OptionRule) (a : Arguments) :
    List Char → Except UsageStop (Arguments × Option OptionRule)
  | [] => .ok (a, none)
  | c :: rest => do
    let rule ← findRule rules (·.short = some c)
    match rule.accepts, rest with
    | none, _ => addShort rules (← a.addOption rule "") rest
    | some _, [] => return (a, some rule)
    | some _, '=' :: value => return (← a.addOption rule (String.ofList value), none)
    | some _, value => return (← a.addOption rule (String.ofList value), none)

/-- Adds a long option.  If it still needs a value, its rule is given too. -/
def addLong (rules : List OptionRule) (a : Arguments) (text : List Char) :
    Except UsageStop (Arguments × Option OptionRule) := do
  let name := String.ofList (text.takeWhile (· != '='))
  let rule ← findRule rules (·.long = name)
  match rule.accepts, text.dropWhile (· != '=') with
  | none, [] => return (← a.addOption rule "", none)
  | none, _ => .error .misuse
  | some _, [] => return (a, some rule)
  | some _, _ :: value => return (← a.addOption rule (String.ofList value), none)

/-- Adds the options of one argument; `none` if it is no option. -/
def addArgument? (rules : List OptionRule) (a : Arguments) (arg : String) :
    Option (Except UsageStop (Arguments × Option OptionRule)) :=
  match arg.toList with
  | '-' :: '-' :: name => some (a.addLong rules name)
  | '-' :: c :: rest => some (a.addShort rules (c :: rest))
  | _ => none

/-- The argument cannot be the value of an option. -/
def looksLikeOption (arg : String) : Bool :=
  match arg.toList with
  | '-' :: _ :: _ => true
  | _ => false

/-- Adds the options and operands of an argument list. -/
def readFrom (rules : List OptionRule) (a : Arguments) : List String → Except UsageStop Arguments
  | [] => .ok a
  | arg :: rest => do
    if arg = "--" then a.addOperands rest
    else
      match a.addArgument? rules arg with
      | none => readFrom rules (← a.addOperand arg) rest
      | some added =>
        match ← added with
        | (a, none) => readFrom rules a rest
        | (a, some rule) =>
          match rest with
          | [] => .error .misuse
          | value :: rest =>
            if looksLikeOption value then .error .misuse
            else readFrom rules (← a.addOption rule value) rest

/-- The options and operands of an argument list. -/
def read (rules : List OptionRule) (args : List String) : Except UsageStop Arguments :=
  readFrom rules {} args

end Arguments

end RouteMigration
