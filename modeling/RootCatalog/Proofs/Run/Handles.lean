import RootCatalog.Run
/-! The handles that the calls of a run took and gave back. Which cursor or root a call was about is
not kept; calls that neither take nor give back leave no mark. -/
namespace RootCatalog

inductive Handle where
  | opened
  | begun
  | ended
  | closed
  deriving DecidableEq, Repr

def handles (calls : List (Call × Answer)) : List Handle :=
  calls.filterMap fun
    | (.openRoot, .done) => some .opened
    | (.beginSearch _, .done) => some .begun
    | (.endSearch, _) => some .ended
    | (.close, _) => some .closed
    | _ => none

theorem handlesMore (calls more : List (Call × Answer)) :
    handles (calls ++ more) = handles calls ++ handles more := List.filterMap_append

end RootCatalog
