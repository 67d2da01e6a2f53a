import CrawlGraph.CommandLine.Rule

/-!
# Help texts

The arguments of a command in one line, and the commands that can follow it below, further to the
right.
-/

namespace CrawlGraph.CommandLine

/-- How an option is written. -/
def OptionRule.usage (option : OptionRule) : String :=
  let name := match option.letter with
    | some letter => "-" ++ letter.toString ++ "|--" ++ option.name
    | none => "--" ++ option.name
  let text := match option.effect with
    | .switch | .instead _ => name
    | .value _ => name ++ " VALUE"
    | .values _ => name ++ " VALUE ..."
  if option.isRequired then text else "[" ++ text ++ "]"

/-- How the arguments of a command are written. -/
def CommandRule.usage (rule : CommandRule) : String :=
  " ".intercalate (rule.name :: rule.options.map OptionRule.usage ++
    (rule.operand.map OperandRule.name).toList ++ if rule.commands.isEmpty then [] else ["COMMAND"])

mutual

/-- The lines of a help text, indented by `indent` steps. -/
def CommandRule.helpLines (indent : Nat) : CommandRule → List String
  | ⟨name, options, operand, commands⟩ =>
    (String.ofList (List.replicate (2 * indent) ' ') ++
      CommandRule.usage ⟨name, options, operand, commands⟩) :: allHelpLines (indent + 1) commands

/-- The lines of the help texts of commands. -/
def allHelpLines (indent : Nat) : List CommandRule → List String
  | [] => []
  | rule :: rules => rule.helpLines indent ++ allHelpLines indent rules

end

/-- The help text of a command. -/
def CommandRule.help (rule : CommandRule) : String :=
  String.join ((rule.helpLines 0).map (· ++ "\n"))

end CrawlGraph.CommandLine
