/-
Reports: what is shown at the end of a session.
-/
import TraceExport.Workload.Basic

namespace TraceExport

/-- The summary of a session. -/
structure Report where
  /-- The keyword of the session, if there was one. -/
  keyword : Option Keyword
  /-- The categories that were on. -/
  enabled : List String
  stats : Workload.Tally := {}
  /-- The number of records that were written. -/
  written : Nat := 0
  /-- The number of records that were lost. -/
  lost : Nat := 0
  deriving DecidableEq, Repr

namespace Report

/-- A report on the categories of an exporter as they are. -/
def ofExporter (e : Exporter) (keyword : Option Keyword) : Report :=
  { keyword, enabled := e.registry.enabled }

/-- The report where records that seemed written are lost after all. -/
def losing (r : Report) (count : Nat) : Report :=
  { r with written := r.written - count, lost := r.lost + count }

/-- A line across the report. -/
def rule : String := String.ofList (List.replicate 47 '═')

/-- The lines of a report. Losses are shown where there are some. -/
def lines (r : Report) : List String :=
  [ rule,
    "  ETW Export Session Report",
    rule,
    "  Keyword:    " ++ r.keyword.elim "(no session)" Keyword.format,
    "  Categories: " ++ (if r.enabled.isEmpty then "none enabled" else ", ".intercalate r.enabled),
    "  Offered:    " ++ r.stats.offered.repr,
    "  Exported:   " ++ r.stats.exported.repr,
    "  Complete:   " ++ r.stats.completeEnds.repr,
    "  Written:    " ++ r.written.repr ] ++
  if r.lost = 0 then [] else ["  Dropped:    " ++ r.lost.repr]

/-- The text of a report. -/
def text (r : Report) : String := String.join (r.lines.map (· ++ "\n"))

end Report

end TraceExport
