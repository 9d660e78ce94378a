import TensorArena.Emit.Fault

/-!
Identifiers of the emitted language: an ASCII letter or an underscore, then ASCII letters,
digits and underscores.
-/

namespace TensorArena.Emit

/-- A character with which an identifier begins. -/
def isIdentifierHead (c : Char) : Bool := c.isAlpha || c == '_'

/-- A character with which an identifier goes on. -/
def isIdentifierTail (c : Char) : Bool := c.isAlphanum || c == '_'

/-- The name is an identifier. -/
def isIdentifier (name : String) : Bool :=
  match name.toList with
  | [] => false
  | c :: rest => isIdentifierHead c && rest.all isIdentifierTail

/-- The name is an identifier, or a fault that names it. -/
def checkIdentifier (name : String) : Except Fault Unit :=
  if isIdentifier name then .ok () else .error (.invalidIdentifier name)

/-- All names are identifiers, or a fault that names the first that is none. -/
def checkIdentifiers : List String → Except Fault Unit
  | [] => .ok ()
  | name :: rest =>
    match checkIdentifier name with
    | .error fault => .error fault
    | .ok () => checkIdentifiers rest

end TensorArena.Emit
