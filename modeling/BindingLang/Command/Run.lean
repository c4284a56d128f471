import BindingLang.Command.Arguments
import BindingLang.Command.Basic
import BindingLang.Json.Writer
/-!
  Running the command line: from its arguments and the standard input to what
  is printed and the exit code.
-/

namespace BindingLang

namespace Command

/-- What a run of the command line leaves. -/
structure Report where
  code : UInt8
  output : String
  errors : String
  deriving DecidableEq, Repr

/-- The document that a command prints, and whether it is indented. The input
stands for a scope that is not given. -/
def document (input : Option String) : Command → Except CommandError (Json × Bool)
  | .eval expression scope pretty => (evaluate expression (scope.or input)).map (·, pretty)
  | .parse expression pretty => (tree expression).map (·, pretty)
  | .ids expression =>
    (names expression).map fun names => (.array (names.map Json.string), false)

/-- Whether the command reads the standard input. -/
def readsInput : Command → Bool
  | .eval _ scope _ => scope.isNone
  | .parse _ _ => false
  | .ids _ => false

/-- Runs a command. -/
def run (command : Command) (input : Option String) : Report :=
  match command.document input with
  | .ok (document, indented) => ⟨0, document.toText indented ++ "\n", ""⟩
  | .error e => ⟨1, "", e.message ++ "\n"⟩

/-- What help prints. -/
def usage : String :=
  "Evaluate and inspect binding expressions\n\n" ++
  "Usage: bindinglang [-v] eval EXPRESSION [-s|--scope JSON] [-p|--pretty]\n" ++
  "       bindinglang [-v] parse EXPRESSION [-p|--pretty]\n" ++
  "       bindinglang [-v] ids EXPRESSION\n"

/-- What a question for the version prints. -/
def versionText : String := "bindinglang 0.1.0\n"

/-- Serves what the arguments ask for. -/
def serve (request : Request) (input : Option String) : Report :=
  match request with
  | .run command _ => command.run input
  | .help => ⟨0, usage, ""⟩
  | .version => ⟨0, versionText, ""⟩
  | .fault e => ⟨2, "", "error: " ++ e.message ++ "\n\n" ++ usage⟩

end Command

end BindingLang
