import TypeProfile.Aggregate
import TypeProfile.Construction

/-!
# Trait reports

The three verdicts on a type, side by side.
-/

namespace TypeProfile

/-- The three verdicts. One that was read from elsewhere need not come from any profile. -/
@[ext] structure Report where
  typeClass : TypeClass
  aggregate : Verdict
  defaultConstructible : Bool
  triviallyDefaultConstructible : Bool
deriving DecidableEq

namespace Report

def isAggregate (report : Report) : Bool :=
  report.aggregate.isAggregate

/-- A report on one line. -/
def summary (report : Report) : String :=
  "Traits(" ++ report.typeClass.name ++
    ": aggregate=" ++ truth.name report.isAggregate ++
    ", default_constructible=" ++ truth.name report.defaultConstructible ++
    ", trivially_default_constructible=" ++ truth.name report.triviallyDefaultConstructible ++ ")"

end Report

/-- The three verdicts on a profile. -/
def Profile.report (profile : Profile) : Report where
  typeClass := profile.typeClass
  aggregate := profile.verdict
  defaultConstructible := profile.isDefaultConstructible
  triviallyDefaultConstructible := profile.isTriviallyDefaultConstructible

end TypeProfile
