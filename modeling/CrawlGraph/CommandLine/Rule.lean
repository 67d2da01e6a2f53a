import CrawlGraph.Text.Number

/-!
# Rules for arguments

What a command accepts: options, of which each has a long name and may have a letter, one operand,
and commands that follow it. A value is checked when it is read.

Main definitions: `ValueKind.read`, `OptionRule`, `CommandRule`.
-/

namespace CrawlGraph.CommandLine

/-- Why arguments are refused, or what they ask for instead of a command. -/
inductive UsageFault where
  /-- There is no such option, or no place for an operand. -/
  | unknownArgument
  | unknownCommand
  | missingCommand
  | missingArgument
  /-- An option has no value, or an empty one. -/
  | missingValue
  | invalidValue
  /-- An option that takes no value has one. -/
  | superfluousValue
  /-- An option is given again, or together with one that it excludes. -/
  | conflict
  | help
  | version
  deriving DecidableEq, Repr

/-- The words for a fault. -/
def UsageFault.message : UsageFault → String
  | .unknownArgument => "unexpected argument"
  | .unknownCommand => "unrecognized subcommand"
  | .missingCommand => "a subcommand is required but was not given"
  | .missingArgument => "a required argument was not given"
  | .missingValue => "a value is required but none was given"
  | .invalidValue => "invalid value"
  | .superfluousValue => "unexpected value for an option that takes none"
  | .conflict => "arguments cannot be used together or more than once"
  | .help => "help"
  | .version => "version"

/-- What a value has to be. -/
inductive ValueKind where
  | text
  /-- A text that is not empty. -/
  | path
  | int64
  | int32
  | count
  deriving DecidableEq, Repr

/-- The value of an argument. -/
inductive Value where
  /-- The value of an option that takes none. -/
  | present
  | text (s : String)
  | number (n : Int)
  deriving DecidableEq, Repr

/-- Reads a value. -/
def ValueKind.read (kind : ValueKind) (s : String) : Except UsageFault Value :=
  let number (n : Option Int) : Except UsageFault Value :=
    match n with
    | none => .error .invalidValue
    | some n => .ok (.number n)
  match kind with
  | .text => .ok (.text s)
  | .path => if s.isEmpty then .error .missingValue else .ok (.text s)
  | .int64 => number ((Text.readInt64 s.toList).map Int64.toInt)
  | .int32 => number ((Text.readInt32 s.toList).map Int32.toInt)
  | .count => number ((Text.readUInt64 s.toList).map fun n => n.toNat)

/-- What an option does. -/
inductive Effect where
  /-- It is there or not. -/
  | switch
  /-- It has a value. -/
  | value (kind : ValueKind)
  /-- It has a value and can be given again. -/
  | values (kind : ValueKind)
  /-- It asks for something instead of the command. -/
  | instead (fault : UsageFault)
  deriving DecidableEq, Repr

/-- An option. -/
structure OptionRule where
  name : String
  letter : Option Char := none
  effect : Effect
  isRequired : Bool := false
  /-- The options that it cannot be given with. -/
  excludes : List String := []
  deriving DecidableEq, Repr

/-- An argument without a name of its own on the command line. -/
structure OperandRule where
  name : String
  kind : ValueKind
  deriving DecidableEq, Repr

/-- A command. Its operand, and one of the commands that can follow it, have to be given. -/
structure CommandRule where
  name : String
  options : List OptionRule := []
  operand : Option OperandRule := none
  commands : List CommandRule := []

/-- The options that every command has. -/
def commonOptions : List OptionRule :=
  [{ name := "help", letter := some 'h', effect := .instead .help },
    { name := "version", letter := some 'V', effect := .instead .version }]

namespace CommandRule

/-- The option with a long name. -/
def named? (rule : CommandRule) (name : String) : Option OptionRule :=
  (rule.options ++ commonOptions).find? (·.name = name)

/-- The option with a letter. -/
def lettered? (rule : CommandRule) (letter : Char) : Option OptionRule :=
  (rule.options ++ commonOptions).find? (·.letter = some letter)

/-- The command with a name that can follow. -/
def command? (rule : CommandRule) (name : String) : Option CommandRule :=
  rule.commands.find? (·.name = name)

end CommandRule

end CrawlGraph.CommandLine
