import HouseStyle.Number.Binary64
import HouseStyle.Run.Checker
import HouseStyle.Run.Schedule

namespace HouseStyle

/-!
# Checking paths

Paths are collected into files, and the files are looked at under a deadline.
The report does not depend on the number of workers. A deadline that has passed
when the run begins, or passes while its workers start, cancels it at once.
-/

/-- How a run is carried out. -/
structure RunOptions where
  /-- The number of workers, if one is asked for. -/
  jobs : Option Int := none
  /-- The seconds after which the run is cancelled. -/
  timeout : Option Binary64 := none
  cancellation : Cancellation := {}

/-- Why a run cannot begin. -/
inductive RunFault
  | noWorkers
  | badPath (fault : LookupFault)
  deriving Repr, DecidableEq

/-- The wording of a fault. -/
def RunFault.message : RunFault → String
  | .noWorkers => "max_workers must be greater than 0"
  | .badPath fault => fault.message

/-- The time in which no run gets its workers started: a ten-thousandth second. -/
def startingTimesPerSecond : Nat := 10000

/-- Whether a deadline has passed when the workers of a run have started. -/
def hasPassed (timeout : Option Binary64) : Bool :=
  match timeout with
  | some seconds =>
      (seconds.times (.ofDecimal false startingTimesPerSecond 0)).isBelow 1
  | none => false

namespace Checker

/-- Check some files one after the other. -/
def checkInTurn
    (checker : Checker)
    (cancellation : Cancellation)
    (collection : Collection) :
    Report :=
  let run :=
    Run.initial collection.files checker.rules.failOn collection.skipped
  (run.steps checker.checkCollected (inTurn cancellation collection.files)).report

/-- Check some paths. -/
def check
    (checker : Checker)
    (options : RunOptions)
    (spellings : List String) :
    Except RunFault Report := do
  let collection ←
    (collect checker.surroundings spellings checker.rules.exclude).mapError
      .badPath
  if options.jobs.any fun jobs => jobs ≤ 0 then
    throw .noWorkers
  else
    let atOnce :=
      options.cancellation.atOnce || hasPassed options.timeout
    pure
      (checker.checkInTurn
        { options.cancellation with atOnce }
        collection)

end Checker

end HouseStyle
