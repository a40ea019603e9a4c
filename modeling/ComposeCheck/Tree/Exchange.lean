import ComposeCheck.Json.Reader
import ComposeCheck.Tree.Parse

/-!
# Parses as JSON

Parses come as an array with an object for each text: the text, whether it has errors, the names of
the kinds, and the nodes in preorder, each as an array of five numbers: the kind, the flags (one for
a named node, two for an extra), the start, the end, and the number of children.
-/

namespace ComposeCheck

namespace ParseTree

/-- Reads one entry of a listing; kinds are given by their places in `kinds`. -/
def Entry.ofJson? (kinds : Array String) : JsonValue → Option Entry
  | .arr [.nat kind, .nat flags, .nat start, .nat stop, .nat children] => do
    let name ← kinds[kind]?
    return ⟨⟨name, flags % 2 = 1, flags / 2 % 2 = 1, start, stop⟩, children⟩
  | _ => none

end ParseTree

namespace Parse

def ofJson? : JsonValue → Option (String × Parse)
  | .obj fields => do
    match fields.lookup "text", fields.lookup "error", fields.lookup "kinds",
        fields.lookup "nodes" with
    | some (.str text), some (.bool hasError), some (.arr kinds), some (.arr nodes) =>
      let kinds ← kinds.mapM fun
        | .str kind => some kind
        | _ => none
      let entries ← nodes.mapM (ParseTree.Entry.ofJson? kinds.toArray)
      return (text, ⟨← ParseTree.ofEntries? entries, hasError⟩)
    | _, _, _, _ => none
  | _ => none

end Parse

namespace Parser

/-- The grammar that knows the given texts only. -/
def ofList (known : List (String × Parse)) : Parser := fun text => known.lookup text

def read? (text : String) : Option Parser :=
  match JsonValue.read? text with
  | some (.arr entries) => (entries.mapM Parse.ofJson?).map ofList
  | _ => none

end Parser

end ComposeCheck
