import MeshDestination.Json.Printer
import MeshDestination.Yaml.Scalar

/-!
# YAML documents

A document in block style: fields and items on lines of their own, two spaces further in for each
level. The items of a list stand level with the field that holds them.
-/

namespace MeshDestination.Yaml

/-- Spaces for a level. -/
def pad (indent : Nat) : String := String.ofList (List.replicate indent ' ')

/-- What a level is further in than the one around it. -/
def indentStep : Nat := 2

mutual
/-- The fields of an object, each on a line of its own. -/
def fieldLines (indent : Nat) : List (String × Json) → String
  | [] => ""
  | (name, j) :: r => pad indent ++ name ++ ":" ++ afterName indent j ++ fieldLines indent r

/-- What follows a field's name. -/
def afterName (indent : Nat) : Json → String
  | .obj [] => " \x7b\x7d\n"
  | .obj fields => "\n" ++ fieldLines (indent + indentStep) fields
  | .arr [] => " []\n"
  | .arr items => "\n" ++ itemLines indent items
  | .str s => " " ++ scalarText (indent + indentStep) s
  | j => " " ++ j.render ++ "\n"

/-- The items of a list, each behind a dash. -/
def itemLines (indent : Nat) : List Json → String
  | [] => ""
  | j :: r => pad indent ++ "- " ++ afterDash indent j ++ itemLines indent r

/-- What follows a dash: the item's lines, the first of them on the line of the dash. -/
def afterDash (indent : Nat) : Json → String
  | .obj [] => "\x7b\x7d\n"
  | .obj ((name, j) :: r) =>
    name ++ ":" ++ afterName (indent + indentStep) j ++ fieldLines (indent + indentStep) r
  | .arr [] => "[]\n"
  | .arr (j :: r) =>
    "- " ++ afterDash (indent + indentStep) j ++ itemLines (indent + indentStep) r
  | .str s => scalarText (indent + indentStep) s
  | j => j.render ++ "\n"
end

/-- The text of a document whose field names need no quotes. -/
def document : Json → String
  | .obj [] => "\x7b\x7d\n"
  | .obj fields => fieldLines 0 fields
  | .arr [] => "[]\n"
  | .arr items => itemLines 0 items
  | .str s => scalarText 0 s
  | j => j.render ++ "\n"

end MeshDestination.Yaml
