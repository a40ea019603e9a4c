import ComposeCheck.Decimal.Bounds
import ComposeCheck.Json.Reader
import ComposeCheck.Violation

/-!
# Violations as JSON

Violations and results as JSON and back. A record is written as an object; it is read from an
object, whatever its other fields, or from an array of its fields in order.
-/

namespace ComposeCheck

namespace JsonValue

/-- A natural number of 64 bits. -/
def nat64? : JsonValue → Option Nat
  | nat n => if fitsWord n then some n else none
  | _ => none

def text? : JsonValue → Option String
  | str s => some s
  | _ => none

def bool? : JsonValue → Option Bool
  | bool b => some b
  | _ => none

def optionalText? : JsonValue → Option (Option String)
  | null => some none
  | str s => some (some s)
  | _ => none

/-- The values of a record's fields, in the order of `names`. No field may stand twice. -/
def record? (names : List String) : JsonValue → Option (List (Option JsonValue))
  | obj fields =>
    let known := fields.filter fun field => names.contains field.1
    if (known.map (·.1)).eraseDups.length = known.length then
      some (names.map fun name => known.lookup name)
    else none
  | arr items =>
    if items.length ≤ names.length then
      some (items.map some ++ List.replicate (names.length - items.length) none)
    else none
  | _ => none

end JsonValue

open JsonValue

/-- Reads a severity: its word, or an object with the word as its one field. -/
def Severity.ofJson? : JsonValue → Option Severity
  | str word => Severity.ofWord? word
  | obj [(word, null)] => Severity.ofWord? word
  | _ => none

namespace Location

def toJson (location : Location) : JsonValue :=
  obj [("file", str location.file), ("line", nat location.line), ("column", nat location.column),
    ("offset", nat location.offset), ("length", nat location.length)]

def ofJson? (value : JsonValue) : Option Location := do
  match ← record? ["file", "line", "column", "offset", "length"] value with
  | [some file, some line, some column, some offset, some length] =>
    return ⟨← file.text?, ← line.nat64?, ← column.nat64?, ← offset.nat64?, ← length.nat64?⟩
  | _ => none

end Location

namespace Violation

def toJson (v : Violation) : JsonValue :=
  obj ([("code", str v.code), ("rule", str v.rule), ("severity", str v.severity.word),
    ("location", v.location.toJson), ("message", str v.message)] ++
    (v.doc?.map fun doc => ("doc_ref", str doc)).toList ++
    [("can_auto_correct", bool v.fixable)])

def ofJson? (value : JsonValue) : Option Violation := do
  match ← record? ["code", "rule", "severity", "location", "message", "doc_ref",
    "can_auto_correct"] value with
  | [some code, some rule, some severity, some location, some message, doc, fixable] =>
    return ⟨← code.text?, ← rule.text?, ← Severity.ofJson? severity, ← Location.ofJson? location,
      ← message.text?, ← (doc.map optionalText?).getD (some none),
      ← (fixable.map bool?).getD (some false)⟩
  | _ => none

end Violation

namespace Summary

def toJson (summary : Summary) : JsonValue :=
  obj [("violations", arr (summary.violations.map Violation.toJson)),
    ("files_checked", nat summary.checked), ("files_fixed", nat summary.fixed)]

def ofJson? (value : JsonValue) : Option Summary := do
  match ← record? ["violations", "files_checked", "files_fixed"] value with
  | [some (arr violations), some checked, fixed] =>
    return ⟨← violations.mapM Violation.ofJson?, ← checked.nat64?,
      ← (fixed.map nat64?).getD (some 0)⟩
  | _ => none

def read? (text : String) : Option Summary := (JsonValue.read? text).bind ofJson?

end Summary

end ComposeCheck
