import CrawlGraph.CommandLine.Rule
import CrawlGraph.Text.Cut

/-!
# Reading arguments

Reads the arguments of a command by its rule. An option is written `--name` or with its letter, and
letters can be written together. Its value follows as the next argument, or in the same one, after
an equals sign or right after the letter. After `--` all arguments are operands. The word `help` can
stand in the place of a command.

A value is taken over only when the next argument has turned out not to belong to it. So of two
faults the one in the later argument can be the one that is told.

Main definitions: `Given`, `CommandRule.parse`.
-/

namespace CrawlGraph.CommandLine

/-- What has been given to a command, in order, and the command that follows it. -/
structure Given where
  values : List (String × Value) := []
  next : Option (String × Given) := none

namespace Given

/-- The values given for a name. -/
def all (given : Given) (name : String) : List Value :=
  given.values.filterMap fun (n, value) => if n = name then some value else none

/-- Whether something is given for a name. -/
def has (given : Given) (name : String) : Bool := !(given.all name).isEmpty

/-- The texts given for a name. -/
def texts (given : Given) (name : String) : List String :=
  (given.all name).filterMap fun
    | .text s => some s
    | _ => none

/-- The numbers given for a name. -/
def numbers (given : Given) (name : String) : List Int :=
  (given.all name).filterMap fun
    | .number n => some n
    | _ => none

/-- The last text given for a name. -/
def text? (given : Given) (name : String) : Option String := (given.texts name).getLast?

/-- The last number given for a name. -/
def number? (given : Given) (name : String) : Option Int := (given.numbers name).getLast?

end Given

/-- An argument whose value has not been taken over. -/
structure Pending where
  name : String
  kind : ValueKind
  isRepeatable : Bool
  value : Option String
  deriving DecidableEq, Repr

/-- The reading of the arguments of one command. -/
structure Reading where
  given : Given := {}
  pending : Option Pending := none
  hasOperand : Bool := false
  /-- Whether all that follows are operands. -/
  isLiteral : Bool := false

namespace Reading

/-- Whether the next argument is the value of an option. -/
def awaitsValue (reading : Reading) : Bool :=
  match reading.pending with
  | some pending => pending.value.isNone
  | none => false

/-- Takes a value over. -/
def take (reading : Reading) (name : String) (isRepeatable : Bool)
    (value : Except UsageFault Value) : Except UsageFault Reading :=
  if reading.given.has name && !isRepeatable then .error .conflict
  else
    value.map fun value =>
      { reading with given.values := reading.given.values ++ [(name, value)] }

/-- Takes over the value of the pending argument. -/
def settle (reading : Reading) : Except UsageFault Reading :=
  match reading.pending with
  | none => .ok reading
  | some pending =>
    match pending.value with
    | none => .error .missingValue
    | some value =>
      { reading with pending := none }.take pending.name pending.isRepeatable
        (pending.kind.read value)

/-- Takes over an option that has no value. -/
def takeSwitch (reading : Reading) (name : String) : Except UsageFault Reading := do
  (← reading.settle).take name false (.ok .present)

/-- Starts an option that has a value, which may stand with it. -/
def takeOption (reading : Reading) (name : String) (kind : ValueKind) (isRepeatable : Bool)
    (attached : Option String) : Except UsageFault Reading := do
  let reading ← reading.settle
  match attached with
  | some value => reading.take name isRepeatable (kind.read value)
  | none => return { reading with pending := some ⟨name, kind, isRepeatable, none⟩ }

/-- Reads an option written with its name. -/
def readNamed (rule : CommandRule) (reading : Reading) (name : String) (attached : Option String) :
    Except UsageFault Reading :=
  match rule.named? name with
  | none => .error .unknownArgument
  | some option =>
    match option.effect, attached with
    | .value kind, _ => reading.takeOption option.name kind false attached
    | .values kind, _ => reading.takeOption option.name kind true attached
    | _, some _ => .error .superfluousValue
    | .switch, none => reading.takeSwitch option.name
    | .instead fault, none => reading.settle.bind fun _ => .error fault

/-- The value that stands right after a letter. -/
def attachedTo : List Char → Option String
  | [] => none
  | '=' :: cs => some (String.ofList cs)
  | cs => some (String.ofList cs)

/-- Reads options written with their letters. -/
def readLetters (rule : CommandRule) (reading : Reading) : List Char → Except UsageFault Reading
  | [] => .ok reading
  | c :: cs =>
    match rule.lettered? c with
    | none => .error .unknownArgument
    | some option =>
      match option.effect with
      | .value kind => reading.takeOption option.name kind false (attachedTo cs)
      | .values kind => reading.takeOption option.name kind true (attachedTo cs)
      | .switch => (reading.takeSwitch option.name).bind fun reading => readLetters rule reading cs
      | .instead fault => reading.settle.bind fun _ => .error fault

/-- Reads an operand. -/
def readOperand (rule : CommandRule) (reading : Reading) (argument : String) :
    Except UsageFault Reading :=
  match rule.operand, reading.hasOperand with
  | some operand, false => do
    return { (← reading.settle) with
      pending := some ⟨operand.name, operand.kind, false, some argument⟩, hasOperand := true }
  | some _, true => .error .unknownArgument
  | none, _ =>
    if rule.commands.isEmpty || reading.isLiteral && (rule.command? argument).isSome then
      .error .unknownArgument
    else .error .unknownCommand

/-- Reads an argument that is no command. -/
def read (rule : CommandRule) (reading : Reading) (argument : String) : Except UsageFault Reading :=
  if reading.isLiteral then reading.readOperand rule argument
  else
    match argument.toList with
    | ['-', '-'] => .ok { reading with isLiteral := true }
    | '-' :: '-' :: cs =>
      match Text.cutAt '=' cs with
      | some (name, value) =>
        reading.readNamed rule (String.ofList name) (some (String.ofList value))
      | none => reading.readNamed rule (String.ofList cs) none
    | '-' :: c :: cs => reading.readLetters rule (c :: cs)
    | _ =>
      match reading.pending with
      | some { name, kind, isRepeatable, value := none } =>
        .ok { reading with pending := some ⟨name, kind, isRepeatable, some argument⟩ }
      | _ => reading.readOperand rule argument

/-- Whether two options are given that exclude each other. -/
def hasConflict (rule : CommandRule) (given : Given) : Bool :=
  rule.options.any fun option => given.has option.name && option.excludes.any given.has

/-- Whether all that is required is given. -/
def isComplete (rule : CommandRule) (given : Given) : Bool :=
  (rule.options.all fun option => !option.isRequired || given.has option.name) &&
    (rule.operand.map fun operand => given.has operand.name).getD true

/-- What has been given, after the last argument and the command that follows. -/
def finish (rule : CommandRule) (reading : Reading) (next : Option (String × Given)) :
    Except UsageFault Given := do
  let given := { (← reading.settle).given with next }
  if next.isNone && !rule.commands.isEmpty then throw .missingCommand
  if hasConflict rule given then throw .conflict
  if isComplete rule given then return given else throw .missingArgument

end Reading

/-- What the word `help` asks for, with the names of commands that follow it. -/
def helpFault : CommandRule → List String → UsageFault
  | _, [] => .help
  | rule, name :: names =>
    match rule.command? name with
    | some command => helpFault command names
    | none =>
      if name = "help" && !rule.commands.isEmpty && names.isEmpty then .help else .unknownCommand

/-- Reads the rest of the arguments of a command. -/
def parseFrom (rule : CommandRule) (reading : Reading) : List String → Except UsageFault Given
  | [] => reading.finish rule none
  | argument :: arguments =>
    let isCommand := !reading.isLiteral && !reading.awaitsValue
    match isCommand, rule.command? argument with
    | true, some command => do
      let given ← parseFrom command {} arguments
      reading.finish rule (some (command.name, given))
    | _, _ =>
      if isCommand && argument = "help" && !rule.commands.isEmpty then
        .error (helpFault rule arguments)
      else (reading.read rule argument).bind fun reading => parseFrom rule reading arguments

/-- Reads the arguments of a command. -/
def CommandRule.parse (rule : CommandRule) (arguments : List String) : Except UsageFault Given :=
  parseFrom rule {} arguments

end CrawlGraph.CommandLine
