/-!
Inspection texts: how records, variants, lists and tables are spelled for a reader who
wants to see every field.

The texts are on one line. A record shows its name and its fields in braces, a variant
with a payload shows the payload in parentheses, and items are separated by a comma and
a space. The parts are given as texts already.
-/

namespace TensorArena.Text.Inspect

/-- Items with a comma and a space between them. -/
def items (texts : List String) : String := ", ".intercalate texts

/-- A named record with at least one field. -/
def record (name : String) (fields : List (String × String)) : String :=
  name ++ " \x7b " ++ items (fields.map fun field => field.1 ++ ": " ++ field.2) ++ " \x7d"

/-- A variant with a payload. -/
def variant (name payload : String) : String := name ++ "(" ++ payload ++ ")"

/-- A value that may be missing. -/
def optional : Option String → String
  | none => "None"
  | some text => variant "Some" text

/-- A list. -/
def list (texts : List String) : String := "[" ++ items texts ++ "]"

/-- A pair. -/
def pair (first second : String) : String := "(" ++ first ++ ", " ++ second ++ ")"

/-- A table: keys with their values. -/
def table (entries : List (String × String)) : String :=
  "\x7b" ++ items (entries.map fun entry => entry.1 ++ ": " ++ entry.2) ++ "\x7d"

end TensorArena.Text.Inspect
