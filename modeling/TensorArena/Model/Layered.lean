import TensorArena.Model.Run

/-!
A layered network over signed bytes, as a model.

Every layer is a dense layer with fixed weights in {-1, 0, 1} followed by a rectifier. The
sums of a dense layer are kept in ram scratch as little-endian 32-bit words; a quarter of
each, rounded down and clamped to a signed byte, is the output. The activations are
tensors of shape `[1, width]`.
-/

namespace TensorArena.Layered

/-- A byte read as a signed number. -/
def signed (b : UInt8) : Int := b.toInt8.toInt

/-- The nearest signed byte. -/
def clampByte (n : Int) : UInt8 := (Int8.ofInt (max (-128) (min 127 n))).toUInt8

/-- The weight from input `i` to output `j`. -/
def weight (i j : Nat) : Int := (((i + j) % 3 : Nat) : Int) - 1

/-- The sum of the inputs from position `i` on, weighted for output `j`. -/
def weighted (j : Nat) : Nat → Bytes → Int
  | _, [] => 0
  | i, x :: rest => signed x * weight i j + weighted j (i + 1) rest

/-- A sum as a word. -/
def sumBytes (n : Int) : Bytes := Tensor.Record.wordBytes (Int32.ofInt n).toUInt32

/-- The sums in a buffer of words. Bytes that do not fill a word are left out. -/
def sums : Bytes → List Int
  | a :: b :: c :: d :: rest => (Tensor.Record.wordAt [a, b, c, d] 0).toInt32.toInt :: sums rest
  | _ => []

/-- The words of a dense layer for `words` outputs. -/
def accumulate (input : Bytes) (words : Nat) : Bytes :=
  (List.range words).flatMap fun j => sumBytes (weighted j 0 input)

/-- The outputs of a dense layer: a quarter of each sum, rounded down and clamped. -/
def quantize (accumulator : Bytes) : Bytes :=
  (sums accumulator).map fun n => clampByte (n / 4)

/-- A byte with its negative values replaced by zero. -/
def rectify (b : UInt8) : UInt8 := if signed b < 0 then 0 else b

variable {σ : Type}

/-- The name of the activation before layer `l`. -/
def activation (l : Nat) : String := s!"act_{l}"

/-- Copy the input into the first activation. -/
def load : Step σ where
  name := "load_input"
  demand := .zero
  body := Step.stateless (.mk (.ask (.load "input" (activation 0))))

/-- One dense layer. Its scratch is counted with padding. -/
def dense (l width : Nat) : Step σ where
  name := s!"dense_{l}"
  demand := .only .ram (width * 4 + 3)
  body := Step.stateless do
    let acc ← ExceptT.mk (.ask (.claimScratch .ram (width * 4) 4))
    let _ ← ExceptT.mk (.ask (.modifyPair (.binding (activation l)) (.scratch acc)
      fun input words => (input, accumulate input (words.length / 4))))
    let _ ← ExceptT.mk (.ask (.modifyPair (.scratch acc) (.binding (activation (l + 1)))
      fun words output => (words, (quantize words).take output.length)))
    return ()

/-- The rectifier after a dense layer, in place. -/
def rectifier (l : Nat) : Step σ where
  name := s!"relu_{l}"
  demand := .zero
  body := Step.stateless do
    let _ ← ExceptT.mk (.ask (.modifyBinding (activation (l + 1)) (List.map rectify)))
    return ()

/-- Copy the last activation into the output. -/
def store (layers : Nat) : Step σ where
  name := "store_output"
  demand := .zero
  body := Step.stateless (.mk (.ask (.store (activation layers) "output")))

/-- A tensor for every activation. -/
def declarations (layers width : Nat) : List (Step σ) :=
  (List.range (layers + 1)).map fun l => Step.tensor (activation l) ⟨.i8, [1, width.toUInt32], 0⟩

/-- The steps of every layer between loading and storing. -/
def evaluations (layers width : Nat) : List (Step σ) :=
  load :: (List.range layers).flatMap (fun l => [dense l width, rectifier l]) ++ [store layers]

/-- A network of `layers` layers over activations of `width` bytes, for arenas of 4096 and
65536 bytes. It reads the tensor `input` and writes the tensor `output`. -/
def blueprint (layers width : Nat) : Blueprint σ where
  name := s!"layered_{layers}x{width}"
  capacities := ⟨4096, 64 * 1024⟩
  inputs := ["input"]
  outputs := ["output"]
  declarations := declarations layers width
  evaluations := evaluations layers width

end TensorArena.Layered
