/-!
# Outlines

An outline is the tree of a value with the names of its parts. It is written with one item on a
line, four blanks deeper than what it belongs to, and with a comma behind every item.
-/

namespace ScriptCheck

inductive Outline where
  | atom (text : String)
  | list (items : List Outline)
  | tuple (name : String) (items : List Outline)
  | record (name : String) (fields : List (String × Outline))

namespace Outline

/-- The lines of an item in the outline that it belongs to: a label before the first line, a comma
behind the last, and everything indented. -/
def item (label : String) : List String → List String
  | [] => []
  | [line] => ["    " ++ label ++ line ++ ","]
  | line :: rest =>
    ("    " ++ label ++ line) :: (rest.dropLast.map ("    " ++ ·) ++
      ["    " ++ rest.getLastD "" ++ ","])

/-- Items between an opening and a closing line, which are one line where there are no items. -/
def enclose (opening closing : String) (items : List String) : List String :=
  if items.isEmpty then [opening ++ closing] else opening :: items ++ [closing]

mutual

def lines : Outline → List String
  | .atom text => [text]
  | .list items => enclose "[" "]" (itemLines items)
  | .tuple name items => enclose (name ++ "(") ")" (itemLines items)
  | .record name fields => enclose (name ++ " \x7b") "\x7d" (fieldLines fields)
  termination_by structural outline => outline

def itemLines : List Outline → List String
  | [] => []
  | outline :: rest => item "" (lines outline) ++ itemLines rest
  termination_by structural items => items

/-- The lines of items that are labelled with their names. -/
def fieldLines : List (String × Outline) → List String
  | [] => []
  | (name, outline) :: rest => item (name ++ ": ") (lines outline) ++ fieldLines rest
  termination_by structural fields => fields

end

def render (outline : Outline) : String :=
  String.intercalate "\n" outline.lines

end Outline

end ScriptCheck
