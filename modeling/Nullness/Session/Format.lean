import Nullness.Json
import Nullness.Session

/-!
# The format of reports

A report as a JSON document: the thrower summaries in ascending order of their methods, and the
analysed methods in program order with the frames around each of their instructions. Stacks are
listed from the bottom.
-/

namespace Nullness

namespace Format

open Json

/-- A method identifier as an object. -/
def methodId (id : MethodId) : Json :=
  .object
    [("class_name", .string id.className), ("name", .string id.name),
      ("descriptor", .string id.descriptor)]

/-- A summary as an object with its kind. -/
def methodSummary : MethodSummary → Json
  | .none => .object [("kind", .string "none")]
  | .alwaysThrows => .object [("kind", .string "always_throws")]
  | .conditional parameters =>
    .object [("kind", .string "conditional"), ("parameters", ofList nat parameters.toList)]

/-- A nullness value by its name. -/
def nullity (v : Nullity) : Json := .string v.name

/-- Whether a frame is valid. -/
def validity {V : Type} (f : Frame V) : Json := .string (if f.valid then "valid" else "top")

/-- A frame with its locals and its stack. -/
def frame (f : NullFrame) : Json :=
  .object
    [("validity", validity f), ("locals", ofList nullity f.locals),
      ("stack", ofList nullity f.stack.reverse)]

/-- The frames around an instruction, and the slot of the null value that it makes, if it makes
one. -/
def location (r : LocationReport) : Json :=
  .object <|
    [("block", nat r.block), ("index", nat r.index), ("offset", nat r.offset),
      ("before", frame r.before), ("after", frame r.after)] ++
    (r.newNullSlot.map fun slot => ("new_null_slot", nat slot)).toList

/-- How the analysis of a method ended, with the frames or else with the causes of the failure,
outermost context first. -/
def methodStatus : MethodStatus → List (String × Json)
  | .ok passes locations =>
    [("status", .string "ok"), ("passes", nat passes), ("locations", ofList location locations)]
  | .failed cause => [("status", .string "failed"), ("errors", ofList .string cause.chain)]

/-- The report on a method. -/
def methodReport (r : MethodReport) : Json :=
  .object (("method", methodId r.method) :: methodStatus r.status)

/-- A method and its summary. -/
def summaryEntry (e : MethodId × MethodSummary) : Json :=
  .object [("method", methodId e.1), ("summary", methodSummary e.2)]

/-- The whole report. -/
def report (r : Report) : Json :=
  .object
    [("summaries", ofList summaryEntry r.summaries.toList),
      ("methods", ofList methodReport r.methods)]

end Format

/-- The report as a text over several lines that ends with a line break. -/
def Report.text (r : Report) : String := (Format.report r).pretty ++ "\n"

end Nullness
