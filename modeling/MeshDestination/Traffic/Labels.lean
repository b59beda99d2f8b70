import MeshDestination.Text.Quoted
import MeshDestination.Traffic.Kind
import Std.Data.TreeMap

/-!
# Label selectors

The labels that a query asks for and those that it groups by.
-/

namespace MeshDestination.Traffic

open Std Text

/-- The values that labels must have, ascending by label. -/
abbrev LabelSet := TreeMap String String

namespace LabelSet

/-- Both sets together; where both have a label the later one counts. -/
def merge (a b : LabelSet) : LabelSet := b.foldl (fun m name value => m.insert name value) a

/-- One requirement of a selector. -/
def matcher (label : String × String) : String := label.1 ++ "=" ++ quoted label.2

/-- The text of a selector. -/
def text (s : LabelSet) : String := "\x7b" ++ ", ".intercalate (s.toList.map matcher) ++ "\x7d"

end LabelSet

/-- The label of a namespace. -/
def namespaceLabel : String := "namespace"

/-- Whether a selection asks for a namespace besides its name. -/
def Selection.asksNamespace (s : Selection) : Bool := s.kind ≠ .ns && !s.ns.isEmpty

/-- A label if a condition holds. -/
def labelIf (condition : Bool) (name value : String) : LabelSet :=
  if condition then (∅ : LabelSet).insert name value else ∅

/-- The labels of what is selected. Services are not asked for by name: inbound metrics do not tell
them. -/
def queryLabels (s : Selection) : LabelSet :=
  (labelIf (!s.name.isEmpty && s.kind ≠ .service) s.kind.label s.name).merge
    (labelIf s.asksNamespace namespaceLabel s.ns)

/-- The labels of what is selected as the destination of traffic. Only what has a name is asked for.
-/
def destinationLabels (s : Selection) : LabelSet :=
  if s.name.isEmpty then ∅
  else if s.kind.isResource then
    (labelIf true ("dst_" ++ s.kind.label) s.name).merge
      (labelIf s.asksNamespace ("dst_" ++ namespaceLabel) s.ns)
  else labelIf true s.kind.label s.name

/-- The label of inbound or outbound traffic. -/
def directionLabels (direction : String) : LabelSet := labelIf true "direction" direction

/-- The labels by which things of a kind are told apart. -/
def groupLabels (k : Kind) : List String :=
  namespaceLabel :: if k = .ns then [] else [k.label]

/-- The text of labels to group by. -/
def groupText (names : List String) : String := ", ".intercalate names

end MeshDestination.Traffic
