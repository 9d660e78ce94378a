import TensorArena.Emit.Fragment
import TensorArena.Emit.Operator

/-!
The call of an operator: its parameters are set, its inputs and outputs connected, and it is
evaluated.

An operator with parameters is constructed from an object that holds them. Every name in the
text is checked to be an identifier; class and parameter values are not.
-/

namespace TensorArena.Emit

/-- The call of one operator. -/
structure OperatorCall where
  var : String
  className : String
  inputs : List Connection
  outputs : List Connection
  parameters : Table String
deriving DecidableEq, Repr

namespace OperatorCall

/-- A call without inputs, outputs and parameters. -/
def new (var className : String) : OperatorCall := ⟨var, className, [], [], .empty⟩

variable (call : OperatorCall)

/-- Connect more inputs. -/
def addInputs (more : List Connection) : OperatorCall :=
  { call with inputs := call.inputs ++ more }

/-- Connect more outputs. -/
def addOutputs (more : List Connection) : OperatorCall :=
  { call with outputs := call.outputs ++ more }

/-- Set a parameter. -/
def setParameter (key value : String) : OperatorCall :=
  { call with parameters := call.parameters.insert key value }

/-- Set parameters in order. -/
def setParameters (more : List (String × String)) : OperatorCall :=
  more.foldl (fun call entry => call.setParameter entry.1 entry.2) call

/-- The operator takes parameters. -/
def hasParameters : Bool := !call.parameters.entries.isEmpty

/-- The variable of the object that holds the parameters. -/
def parametersVar : String := call.var ++ "_params"

/-- The names in the text in the order in which they are checked. -/
def names : List String :=
  call.var :: call.parameters.names
    ++ call.inputs.flatMap (fun c => [c.1, c.2])
    ++ call.outputs.flatMap (fun c => [c.1, c.2])

/-- The line that sets a parameter. -/
def parameterLine (entry : String × String) : String :=
  s!"{call.parametersVar}.{entry.1} = {entry.2};\n"

/-- The line that connects an input. -/
def inputLine (c : Connection) : String :=
  s!"        \x7b {call.className}::{c.1}, {c.2} \x7d,\n"

/-- The line that connects an output, with a comma unless it is the last. -/
def outputLine (c : Connection) (isLast : Bool) : String :=
  s!"        \x7b {call.className}::{c.1}, {c.2}\x7d" ++ (if isLast then "\n" else ",\n")

/-- The lines that connect the outputs. -/
def outputLines : List Connection → List String
  | [] => []
  | [c] => [call.outputLine c true]
  | c :: rest => call.outputLine c false :: outputLines rest

/-- The whole call. -/
def text : String :=
  String.join (call.parameters.entries.map call.parameterLine)
    ++ call.var ++ "\n    .set_inputs(\x7b\n"
    ++ String.join (call.inputs.map call.inputLine)
    ++ "    \x7d)\n    .set_outputs(\x7b\n"
    ++ String.join (call.outputLines call.outputs)
    ++ "    \x7d)\n    .eval();"

/-- The definition of the operator and of the object that holds its parameters. -/
def definition : String :=
  if call.hasParameters then
    s!"{call.className}::Params {call.parametersVar};\n"
      ++ s!"{call.className} {call.var}({call.parametersVar});"
  else s!"{call.className} {call.var};"

/-- The call as a fragment. It claims nothing. -/
def fragment : Fragment where
  render _ :=
    match checkIdentifiers call.names with
    | .error fault => .error fault
    | .ok () => .ok call.text
  declaration _ :=
    match checkIdentifier call.var with
    | .error fault => .error fault
    | .ok () => .ok (some call.definition)
  footprint := .zero
  symbols := call.var :: (if call.hasParameters then [call.parametersVar] else [])

end OperatorCall

end TensorArena.Emit
