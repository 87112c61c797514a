import WorkbookTools.Proofs.Action
import WorkbookTools.Tool

/-!
# Runs

A run is a row of calls with one policy, each made in the workspace that the calls before it have
left. Calls that fail are part of the run.
-/

namespace WorkbookTools.Tool

open WorkbookTools.Action

/-- A call that is made in a workspace, with what applies where it says nothing. -/
structure Step where
  workspace : Workspace
  defaults : Defaults
  call : Call

def Step.result (policy : PathPolicy) (s : Step) : Except Error Answer × Workspace :=
  Action.result (run (some policy) s.defaults s.call) s.workspace

/-- Makes calls one after the other. -/
def runAll (policy : PathPolicy) :
    List (Defaults × Call) → Workspace → List (Except Error Answer) × Workspace
  | [], w => ([], w)
  | (defaults, call) :: rest, w =>
    let (answer, next) := (Step.mk w defaults call).result policy
    let (answers, last) := runAll policy rest next
    (answer :: answers, last)

def steps (policy : PathPolicy) : List (Defaults × Call) → Workspace → List Step
  | [], _ => []
  | (defaults, call) :: rest, w =>
    ⟨w, defaults, call⟩ :: steps policy rest ((Step.mk w defaults call).result policy).2

end WorkbookTools.Tool
