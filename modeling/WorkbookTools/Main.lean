import WorkbookTools.Server

/-!
# The program

Reads the command line and starts the server. No transport is built in, so a server that has been
configured reports that its library is missing.
-/

namespace WorkbookTools

/-- Runs a configured server on an empty workspace and prints its log. -/
def runConfigured (c : ServerConfig) : IO UInt32 := do
  let action : Action (Nat × Nat) := do
    let threshold ← Server.configureLog "" c
    let code ← Server.run (Server.start false c)
    pure (threshold, code)
  let (outcome, w) := action.run.run (Workspace.ofFiles FileSystem.empty ExcelSetup.absent)
  match outcome with
  | .error e =>
    IO.eprintln e.message
    pure 1
  | .ok (threshold, code) =>
    for r in LogRecord.shown threshold w.log do IO.eprintln r.line
    pure (UInt32.ofNat code)

end WorkbookTools

open WorkbookTools in
/-- The command line of the program. -/
def main (words : List String) : IO UInt32 := do
  match CommandLine.parse words with
  | .ok .help =>
    IO.print CommandLine.helpText
    pure 0
  | .error e =>
    IO.eprint CommandLine.usage
    IO.eprint (CommandLine.errorReport e)
    pure 2
  | .ok (.serve settings) =>
    match ServerConfig.ofSettings settings with
    | .error e =>
      IO.eprintln e.message
      pure 1
    | .ok c => runConfigured c
