import SqlRequest.Json.Flaws
import SqlRequest.Json.Reader
import SqlRequest.Settings.Basic

/-!
Settings in JSON: a text that is one object without a flaw. Of a key given twice the last
value counts.
-/

namespace SqlRequest

mutual

/-- A JSON value as a setting. -/
def Json.setting : Json → Setting
  | .scalar (.bool b) => .bool b
  | .scalar (.number (.whole n)) => .integer n
  | .scalar (.number (.real x)) => .real x
  | .scalar (.text s) => .text s
  | .scalar _ | .fault _ => .null
  | .array js _ => .list (Json.itemSettings js)
  | .object ms _ => .table (Json.memberSettings ms [])

/-- The settings of items. -/
def Json.itemSettings : List Json → List Setting
  | [] => []
  | j :: js => Json.setting j :: Json.itemSettings js

/-- The settings of members, after those of the members before them. -/
def Json.memberSettings :
    List (Key × Json) → List (String × Setting) → List (String × Setting)
  | [], es => es
  | (.name k, j) :: ms, es =>
    Json.memberSettings ms (Setting.alterEntry k (fun _ => Json.setting j) es)
  | _ :: ms, es => Json.memberSettings ms es

end

/-- The greatest number of arrays and objects in one another. -/
def Setting.jsonDepth : Nat := 127

/-- The entries of a text that is an object. -/
def Setting.ofJsonText? (s : String) : Option (List (String × Setting)) :=
  let doc := Document.ofText s
  if doc.trailing ∨ (doc.root.readFlaw? jsonDepth).isSome then none
  else match doc.root.setting with
    | .table es => some es
    | _ => none

end SqlRequest
