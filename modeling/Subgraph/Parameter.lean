import Subgraph.Basic
import Subgraph.Text.Blank
import Subgraph.Text.Quoted

namespace Subgraph.Parameter

def keys : List String :=
  ["config", "log_level", "template_path"]

inductive Fault where
  | malformed (item : String)
  | unknown (key : String)
  deriving DecidableEq, Repr

def Fault.message : Fault → String
  | malformed item => s!"Parameter '{item}' must be key=value"
  | unknown key =>
    let known := ", ".intercalate (keys.map Text.quoted)
    s!"Unknown parameter '{key}', expected one of [{known}]"

/-- The items between commas, without blanks around them. Blank items do not count. -/
def items (text : String) : List (List Char) :=
  ((text.toList.splitOn ',').map Text.trim).filter (!·.isEmpty)

/-- The key and the value of an item, divided by its first equals sign. -/
def readItem (item : List Char) : Except Fault (String × String) :=
  match item.dropWhile (· != '=') with
  | [] => .error (.malformed (String.ofList item))
  | _ :: value =>
    let key := String.ofList (Text.trim (item.takeWhile (· != '=')))
    if keys.contains key then .ok (key, String.ofList (Text.trim value)) else .error (.unknown key)

/-- The value of each key. The last one given counts. -/
def parse (text : String) : Except Fault (Registry String) :=
  (items text).foldlM (fun values item => (readItem item).map fun (key, value) => values.put key value) []

end Subgraph.Parameter
