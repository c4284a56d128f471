import BindingLang.Command.Run

namespace BindingLang

namespace Command

/-- Serves the command line. The standard input is read only where a scope is
to come from it, and not from a terminal. -/
def serveProcess (arguments : List String) : IO UInt32 := do
  let request := Request.ofArguments arguments
  let wanted := match request with
    | .run command _ => command.readsInput
    | _ => false
  let stdin ← IO.getStdin
  let input ← if wanted && !(← stdin.isTty) then some <$> stdin.readToEnd else pure none
  let report := serve request input
  (← IO.getStdout).putStr report.output
  (← IO.getStderr).putStr report.errors
  return report.code.toUInt32

end Command

end BindingLang

def main (arguments : List String) : IO UInt32 :=
  BindingLang.Command.serveProcess arguments
