/-!
# Kinds of reports

A data set is reported either as regular housekeeping or as diagnostics. The two kinds have
commands and reports of their own, and only regular reports are slowed down by the interval
factor of the manager.
-/

namespace Housekeeper

inductive ReportKind where
  | regular
  | diagnostics
deriving DecidableEq, Inhabited

namespace ReportKind

def isDiagnostics : ReportKind → Bool
  | regular => false
  | diagnostics => true

def ofDiagnostics (isDiagnostics : Bool) : ReportKind :=
  if isDiagnostics then diagnostics else regular

end ReportKind

end Housekeeper
