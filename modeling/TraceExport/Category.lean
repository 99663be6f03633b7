/-
Names of categories: the two catch-alls, the categories that have a bit by default, and the mark of
those that are disabled by default.
-/
import TraceExport.Text.Commas

namespace TraceExport.Category

/-- The catch-all of the categories that have no bit. -/
def otherEvents : String := "__OTHER_EVENTS"

/-- The catch-all of the categories that have no bit and are disabled by default. -/
def disabledOtherEvents : String := "__DISABLED_OTHER_EVENTS"

/-- Both catch-alls, in the order of their bits. -/
def catchAlls : List String := [otherEvents, disabledOtherEvents]

/-- How the name of a category that is disabled by default begins. -/
def disabledMark : String := "disabled-by-default"

/-- Whether a category is disabled by default. -/
def isDisabledByDefault (name : String) : Bool :=
  disabledMark.toList.isPrefixOf name.toList

/-- The categories that have a bit by default, bit 0 first. -/
def defaults : List String := [
  "benchmark", "blink", "browser", "cc", "evdev", "gpu", "input", "netlog", "sequence_manager",
  "toplevel", "v8", "disabled-by-default-cc.debug", "disabled-by-default-cc.debug.picture",
  "disabled-by-default-toplevel.flow", "startup", "latency"]

/-- The names in a category group. Commas part them, and empty names count for nothing. -/
def ofGroup (group : String) : List String := (Text.splitCommas group).filter (· ≠ "")

end TraceExport.Category
