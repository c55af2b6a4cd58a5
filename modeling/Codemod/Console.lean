import Codemod.Batch

/-! The lines that are printed about events. -/

namespace Codemod.Console

def names (xs : List String) : String :=
  " (" ++ ", ".intercalate xs ++ ")"

/-- The lines about one event; an unchanged file is not worth one. -/
def eventLines (dryRun : Bool) (e : Event) : List String :=
  let first := match e.result with
    | .unchanged => []
    | .changed =>
      [(if dryRun then "would change: " else "changed: ") ++ e.path.spelling ++ names e.applied]
    | .failed cause => ["failed: " ++ cause.message]
  if e.unstable.isEmpty then first
  else first ++ ["unstable: " ++ e.path.spelling ++ names e.unstable]

def summaryLine (s : Summary) : String :=
  "summary: changed=" ++ toString s.changed ++ " unchanged=" ++ toString s.unchanged ++
    " failed=" ++ toString s.failed

def unlines (lines : List String) : String :=
  String.join (lines.map (· ++ "\n"))

/-- All lines about events, and about a summary if there is one. -/
def render (dryRun : Bool) (events : List Event) (summary? : Option Summary) : String :=
  unlines (events.flatMap (eventLines dryRun) ++ summary?.toList.map summaryLine)

/-- Prints the lines about each event, and at the end the one about the summary. -/
def reporter (dryRun : Bool) : Reporter String where
  report e printed := printed ++ unlines (eventLines dryRun e)
  finish s printed := printed ++ unlines [summaryLine s]

end Codemod.Console
