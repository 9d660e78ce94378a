import TensorArena.Emit.Fragment
import TensorArena.Emit.Operator
import TensorArena.Model.Plan
import TensorArena.Text.Lines

/-!
Compilation units: the code of one model.

A unit defines two arenas, the fragments at file scope, and one function that installs the
arenas, runs the local fragments and then the evaluations. Quantization parameters of the
outputs follow the function.

Before anything is emitted a unit is checked, in this order: its name, its capacities, all
names that it defines, the scales of its outputs, and that what it binds fits the arenas.
-/

namespace TensorArena.Emit

/-- How the integers of an output stand for numbers. -/
structure Quantization where
  zeroPoint : Int
  scale : Binary32
deriving DecidableEq, Repr

/-- The code of one model before it is text. -/
structure CompilationUnit where
  name : String
  placeholders : List String
  outputs : List String
  capacities : Capacities
  pools : PoolNames
  /-- Fragments at file scope. -/
  globals : List Fragment
  /-- Fragments at the start of the function. -/
  locals : List Fragment
  /-- Fragments after the local ones. -/
  evaluations : List Fragment
  quantization : Table Quantization

namespace CompilationUnit

variable (u : CompilationUnit)

/-! ### Checks -/

/-- All names that the unit defines, in the order in which they are checked. -/
def symbols : List String :=
  [u.pools.metadata, u.pools.ram] ++ u.placeholders ++ u.outputs
    ++ (u.globals ++ u.locals ++ u.evaluations).flatMap Fragment.symbols

/-- Every name is an identifier and stands neither earlier in the list nor in `seen`. -/
def checkDistinct (seen : List String) : List String → Except Fault Unit
  | [] => .ok ()
  | name :: rest =>
    match checkIdentifier name with
    | .error fault => .error fault
    | .ok () =>
      if name ∈ seen then .error (.duplicateSymbol name) else checkDistinct (name :: seen) rest

/-- The parameters of an output, where it has any. -/
def quantized (outputs : List String) : List (String × Quantization) :=
  outputs.filterMap fun output => (u.quantization.get? output).map fun q => (output, q)

/-- The scales of all outputs are finite. -/
def checkScales : Except Fault Unit :=
  match (u.quantized u.outputs).find? fun entry => !entry.2.scale.isFinite with
  | some (output, _) => .error (.nonFiniteScale output)
  | none => .ok ()

/-- What the local fragments take together and the largest evaluation besides. -/
def required : PerPool Nat :=
  (PerPool.satSum (u.locals.map (·.footprint))).satAdd
    (.largest (u.evaluations.map (·.footprint)))

/-- What the unit binds fits both arenas; metadata is checked first. -/
def checkFits : Except Fault Unit :=
  match u.capacities.firstExceeded? u.required with
  | some pool => .error (.exceedsPool pool (u.required.get pool) (u.capacities.get pool))
  | none => .ok ()

/-- All checks before emission. -/
def check : Except Fault Unit := do
  checkIdentifier u.name
  u.capacities.check.mapError .capacities
  checkDistinct [] u.symbols
  u.checkScales
  u.checkFits

/-! ### Emission -/

/-- A line of text. -/
def line (text : String) : String := text ++ "\n"

/-- The definitions of the two arenas. -/
def arenaLines : String :=
  line s!"static localCircularArenaAllocator<{u.capacities.metadata}> {u.pools.metadata};"
    ++ line s!"static localCircularArenaAllocator<{u.capacities.ram}> {u.pools.ram};"

/-- The texts of fragments, in order. -/
def renderAll (fragments : List Fragment) : Except Fault (List String) :=
  fragments.mapM fun fragment => fragment.render u.pools

/-- The declarations that fragments need, in order. -/
def declareAll (fragments : List Fragment) : Except Fault (List String) := do
  let declarations ← fragments.mapM fun fragment => fragment.declaration u.pools
  return declarations.filterMap id

/-- The name of the function. -/
def functionName : String := "compute_" ++ u.name

/-- The head of the function. -/
def functionHead : String :=
  let parameters := (u.placeholders ++ u.outputs).map fun tensor => s!"Tensor& {tensor}"
  line (s!"void {u.functionName}(" ++ ", ".intercalate parameters ++ ")\x7b")

/-- The lines that install the arenas. -/
def installLines : String :=
  line s!"    Context::get_default_context()->set_metadata_allocator(&{u.pools.metadata});"
    ++ line s!"    Context::get_default_context()->set_ram_data_allocator(&{u.pools.ram});"

/-- The lines that set the parameters of one output. -/
def quantizationLines (entry : String × Quantization) : String :=
  line s!"{entry.1}_zp = {entry.2.zeroPoint};"
    ++ line s!"{entry.1}_scale = {entry.2.scale.describe};"

/-- The text of a checked unit from the texts of its parts. Evaluations are set apart by
empty lines. -/
def assemble (globals declarations locals evaluations : List String) : String :=
  line "using namespace uTensor;" ++ "\n"
    ++ u.arenaLines ++ "\n"
    ++ line "// start rendering global declare snippets"
    ++ String.join (globals.map line)
    ++ String.join (declarations.map line)
    ++ line "// end of rendering global declare snippets" ++ "\n"
    ++ u.functionHead
    ++ u.installLines
    ++ line "    // start rendering local declare snippets"
    ++ String.join (locals.map Text.indent)
    ++ line "    // end of rendering local declare snippets"
    ++ line "    // start rendering eval snippets"
    ++ "\n".intercalate (evaluations.map Text.indent)
    ++ line "    // end of rendering eval snippets"
    ++ line "\x7d"
    ++ String.join ((u.quantized u.outputs).map quantizationLines)

/-- The text of the unit. Texts are rendered in the order in which they stand. -/
def render : Except Fault String := do
  u.check
  let globals ← u.renderAll u.globals
  let declarations ← u.declareAll u.evaluations
  let locals ← u.renderAll u.locals
  let evaluations ← u.renderAll u.evaluations
  return u.assemble globals declarations locals evaluations

end CompilationUnit

end TensorArena.Emit
