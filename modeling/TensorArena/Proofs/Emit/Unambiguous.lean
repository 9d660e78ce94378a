import Mathlib.Data.List.Nodup
import TensorArena.Proofs.Emit.Window

/-!
Emitted calls can be read back.

The names in a call are identifiers, so none of them holds a blank, a semicolon, a comma or a
line break, and the text around them is told apart from them. From the definition of an operator
one reads its class and its name, and with them, line by line, from its call its parameters, its
inputs and its outputs. No two classes are alike, whatever the element type, so the class tells
the operator type. Records with the same texts are therefore records of the same call.
-/

namespace TensorArena.Emit

/-! ### Marks -/

/-- Items that are written one by one are read back up to a mark that none of them is written as. -/
theorem items_inj {α β : Type} {writes : α → β → Prop} {mark : β} {xs ys : List α}
    {ls ls' rest rest' : List β} (written : List.Forall₂ writes xs ls)
    (written' : List.Forall₂ writes ys ls') (unique : ∀ x y l, writes x l → writes y l → x = y)
    (apart : ∀ x, ¬ writes x mark) (same : ls ++ mark :: rest = ls' ++ mark :: rest') :
    xs = ys ∧ rest = rest' := by
  induction written generalizing ys ls' with
  | nil =>
    cases written' with
    | nil => exact ⟨rfl, (List.cons.inj same).2⟩
    | cons first _ => exact absurd ((List.cons.inj same).1 ▸ first) (apart _)
  | cons first _ ih =>
    cases written' with
    | nil => exact absurd ((List.cons.inj same).1 ▸ first) (apart _)
    | cons first' others' =>
      obtain ⟨rfl, others⟩ := List.cons.inj same
      obtain ⟨rfl, after⟩ := ih others' others
      rw [unique _ _ _ first first']
      exact ⟨rfl, after⟩

/-- What stands before the first mark, and what after it, are read off a list. -/
theorem append_cons_inj {α : Type} {d : α} {xs xs' ys ys' : List α} (free : d ∉ xs)
    (free' : d ∉ xs') (same : xs ++ d :: ys = xs' ++ d :: ys') : xs = xs' ∧ ys = ys' := by
  have written {zs : List α} (free : d ∉ zs) : List.Forall₂ (fun x y => x = y ∧ y ≠ d) zs zs :=
    List.forall₂_same.mpr fun x mem => ⟨rfl, fun same => free (same ▸ mem)⟩
  exact items_inj (written free) (written free') (fun _ _ _ first second =>
    first.1.trans second.1.symm) (fun _ wrote => wrote.2 rfl) same

/-- A text is read up to a mark with whose first character it is not written. -/
theorem read_to_mark {mark s s' t t' : String} {d : Char} {rest : List Char}
    (begins : mark.toList = d :: rest) (free : d ∉ s.toList) (free' : d ∉ s'.toList)
    (same : s ++ (mark ++ t) = s' ++ (mark ++ t')) : s = s' ∧ t = t' := by
  simp only [← String.toList_inj, String.toList_append, begins, List.cons_append] at same ⊢
  obtain ⟨before, after⟩ := append_cons_inj free free' same
  exact ⟨before, List.append_cancel_left after⟩

/-! ### Lines -/

/-- A text that ends with its only line break. -/
def IsLine (l : String) : Prop := ∃ body, l = body ++ "\n" ∧ '\n' ∉ body.toList

theorem IsLine.append {s l : String} (free : '\n' ∉ s.toList) (line : IsLine l) :
    IsLine (s ++ l) := by
  obtain ⟨body, rfl, clean⟩ := line
  refine ⟨s ++ body, by rw [String.append_assoc], ?_⟩
  simp [free, clean]

/-- Lines are read off the text that they make up. -/
theorem join_lines_inj {ls ls' : List String} (lines : ∀ l ∈ ls, IsLine l)
    (lines' : ∀ l ∈ ls', IsLine l) (same : String.join ls = String.join ls') : ls = ls' := by
  induction ls generalizing ls' with
  | nil =>
    cases ls' with
    | nil => rfl
    | cons l rest =>
      obtain ⟨body, rfl, -⟩ := lines' l List.mem_cons_self
      simp [String.join_cons] at same
  | cons l rest ih =>
    obtain ⟨⟨body, rfl, free⟩, others⟩ := List.forall_mem_cons.mp lines
    cases ls' with
    | nil => simp [String.join_cons] at same
    | cons l' rest' =>
      obtain ⟨⟨body', rfl, free'⟩, others'⟩ := List.forall_mem_cons.mp lines'
      rw [String.join_cons, String.join_cons, String.append_assoc, String.append_assoc] at same
      obtain ⟨rfl, after⟩ := read_to_mark (rfl : "\n".toList = ['\n']) free free' same
      rw [ih others others' after]

theorem forall_mem_of_forall₂ {α β : Type} {writes : α → β → Prop} {p : β → Prop} {xs : List α}
    {ls : List β} (written : List.Forall₂ writes xs ls) (each : ∀ x l, writes x l → p l) :
    ∀ l ∈ ls, p l := by
  have both : List.Forall₂ (fun l x => p l ∧ writes x l) ls xs :=
    (written.imp fun x l wrote => ⟨each x l wrote, wrote⟩).flip
  exact ((List.forall₂_and_left _ _).mp both).1

/-! ### Lines of a call -/

/-- A connection of a slot and a tensor that are identifiers. -/
def Connection.Named (c : Connection) : Prop := isIdentifier c.1 = true ∧ isIdentifier c.2 = true

/-- The line sets a parameter of the operator of this name. -/
def WritesParameter (var : String) (entry : String × String) (l : String) : Prop :=
  isIdentifier entry.1 = true ∧ '\n' ∉ entry.2.toList ∧
    l = var ++ ("_params." ++ (entry.1 ++ (" = " ++ (entry.2 ++ ";\n"))))

/-- The line of a connection in an operator of this class, which ends in `tail`. -/
def connectionLine (className : String) (c : Connection) (tail : String) : String :=
  "        \x7b " ++ (className ++ ("::" ++ (c.1 ++ (", " ++ (c.2 ++ tail)))))

/-- The line connects an input. -/
def WritesInput (className : String) (c : Connection) (l : String) : Prop :=
  c.Named ∧ l = connectionLine className c " \x7d,\n"

/-- The line connects an output, perhaps the last. -/
def WritesOutput (className : String) (c : Connection) (l : String) : Prop :=
  c.Named ∧ ∃ isLast : Bool,
    l = connectionLine className c ("\x7d" ++ if isLast then "\n" else ",\n")

section Lines

variable {var className l : String} {entry entry' : String × String} {c c' : Connection}

theorem WritesParameter.eq (wrote : WritesParameter var entry l)
    (wrote' : WritesParameter var entry' l) : entry = entry' := by
  obtain ⟨key, -, rfl⟩ := wrote
  obtain ⟨key', -, same⟩ := wrote'
  rw [String.append_right_inj, String.append_right_inj] at same
  obtain ⟨keys, values⟩ := read_to_mark (rfl : " = ".toList = [' ', '=', ' '])
    (notMem_of_isIdentifier key rfl) (notMem_of_isIdentifier key' rfl) same
  exact Prod.ext keys ((String.append_left_inj _).mp values)

theorem connectionLine_inj {tail tail' : String} (named : c.Named) (named' : c'.Named)
    (same : connectionLine className c tail = connectionLine className c' tail') :
    c.1 = c'.1 ∧ c.2 ++ tail = c'.2 ++ tail' := by
  unfold connectionLine at same
  rw [String.append_right_inj, String.append_right_inj, String.append_right_inj] at same
  exact read_to_mark (rfl : ", ".toList = [',', ' ']) (notMem_of_isIdentifier named.1 rfl)
    (notMem_of_isIdentifier named'.1 rfl) same

theorem WritesInput.eq (wrote : WritesInput className c l) (wrote' : WritesInput className c' l) :
    c = c' := by
  obtain ⟨named, rfl⟩ := wrote
  obtain ⟨named', same⟩ := wrote'
  obtain ⟨slots, tensors⟩ := connectionLine_inj named named' same
  exact Prod.ext slots ((String.append_left_inj _).mp tensors)

theorem WritesOutput.eq (wrote : WritesOutput className c l)
    (wrote' : WritesOutput className c' l) : c = c' := by
  obtain ⟨named, isLast, rfl⟩ := wrote
  obtain ⟨named', isLast', same⟩ := wrote'
  obtain ⟨slots, rest⟩ := connectionLine_inj named named' same
  -- The commas may differ, but neither tensor holds the brace before them.
  obtain ⟨tensors, -⟩ := read_to_mark (rfl : "\x7d".toList = ['\x7d'])
    (notMem_of_isIdentifier named.2 rfl) (notMem_of_isIdentifier named'.2 rfl) rest
  exact Prod.ext slots tensors

theorem not_writesParameter (entry : String × String) :
    ¬ WritesParameter var entry (var ++ "\n") := by
  rintro ⟨-, -, line⟩
  rw [String.append_right_inj] at line
  simp [← String.toList_inj] at line

theorem not_writesInput (c : Connection) : ¬ WritesInput className c "    \x7d)\n" := by
  rintro ⟨-, line⟩
  simp [connectionLine, ← String.toList_inj] at line

theorem not_writesOutput (c : Connection) : ¬ WritesOutput className c "    \x7d)\n" := by
  rintro ⟨-, isLast, line⟩
  simp [connectionLine, ← String.toList_inj] at line

theorem WritesParameter.isLine (named : isIdentifier var = true)
    (wrote : WritesParameter var entry l) : IsLine l := by
  obtain ⟨key, value, rfl⟩ := wrote
  refine .append (notMem_of_isIdentifier named rfl) (.append (by decide) ?_)
  refine .append (notMem_of_isIdentifier key rfl) (.append (by decide) (.append value ?_))
  exact ⟨";", rfl, by decide⟩

theorem isLine_connectionLine {tail : String} (clean : '\n' ∉ className.toList) (named : c.Named)
    (line : IsLine tail) : IsLine (connectionLine className c tail) := by
  refine .append (by decide) (.append clean (.append (by decide) ?_))
  refine .append (notMem_of_isIdentifier named.1 rfl) (.append (by decide) ?_)
  exact .append (notMem_of_isIdentifier named.2 rfl) line

theorem WritesInput.isLine (clean : '\n' ∉ className.toList) (wrote : WritesInput className c l) :
    IsLine l := by
  obtain ⟨named, rfl⟩ := wrote
  exact isLine_connectionLine clean named ⟨" \x7d,", rfl, by decide⟩

theorem WritesOutput.isLine (clean : '\n' ∉ className.toList)
    (wrote : WritesOutput className c l) : IsLine l := by
  obtain ⟨named, isLast, rfl⟩ := wrote
  refine isLine_connectionLine clean named ?_
  cases isLast with
  | true => exact ⟨"\x7d", rfl, by decide⟩
  | false => exact ⟨"\x7d,", rfl, by decide⟩

end Lines

/-! ### Calls -/

namespace OperatorCall

/-- A call whose names are identifiers, whose class has no blank and no line break, and whose
parameters have no line break. -/
structure Readable (call : OperatorCall) : Prop where
  names : ∀ name ∈ call.names, isIdentifier name = true
  className : ' ' ∉ call.className.toList ∧ '\n' ∉ call.className.toList
  values : ∀ entry ∈ call.parameters.entries, '\n' ∉ entry.2.toList

/-- The lines of a call but its last. -/
def lines (call : OperatorCall) : List String :=
  call.parameters.entries.map call.parameterLine
    ++ (call.var ++ "\n") :: "    .set_inputs(\x7b\n" :: (call.inputs.map call.inputLine
    ++ "    \x7d)\n" :: "    .set_outputs(\x7b\n" :: (call.outputLines call.outputs
    ++ ["    \x7d)\n"]))

variable {call other : OperatorCall}

theorem text_eq_lines : call.text = String.join call.lines ++ "    .eval();" := by
  have inputs : "\n    .set_inputs(\x7b\n" = "\n" ++ "    .set_inputs(\x7b\n" := rfl
  have outputs : "    \x7d)\n    .set_outputs(\x7b\n" =
      "    \x7d)\n" ++ "    .set_outputs(\x7b\n" := rfl
  have last : "    \x7d)\n    .eval();" = "    \x7d)\n" ++ "    .eval();" := rfl
  rw [text, lines, inputs, outputs, last]
  simp only [String.join_append, String.join_cons, String.join_nil, String.append_assoc,
    String.empty_append]

namespace Readable

variable (readable : call.Readable)
include readable

theorem var : isIdentifier call.var = true := readable.names _ (by simp [OperatorCall.names])

theorem key {entry : String × String} (mem : entry ∈ call.parameters.entries) :
    isIdentifier entry.1 = true := by
  refine readable.names _ ?_
  simp only [OperatorCall.names, Table.names, List.mem_append, List.mem_cons, List.mem_map]
  exact .inl (.inl (.inr ⟨entry, mem, rfl⟩))

theorem input {c : Connection} (mem : c ∈ call.inputs) : c.Named := by
  refine ⟨readable.names _ ?_, readable.names _ ?_⟩
  all_goals
    simp only [OperatorCall.names, List.mem_append, List.mem_flatMap]
    exact .inl (.inr ⟨c, mem, by simp⟩)

theorem output {c : Connection} (mem : c ∈ call.outputs) : c.Named := by
  refine ⟨readable.names _ ?_, readable.names _ ?_⟩
  all_goals
    simp only [OperatorCall.names, List.mem_append, List.mem_flatMap]
    exact .inr ⟨c, mem, by simp⟩

end Readable

theorem outputLines_written {outputs : List Connection} (named : ∀ c ∈ outputs, c.Named) :
    List.Forall₂ (WritesOutput call.className) outputs (call.outputLines outputs) := by
  have line (c : Connection) (isLast : Bool) : call.outputLine c isLast =
      connectionLine call.className c ("\x7d" ++ if isLast then "\n" else ",\n") := by
    simp only [connectionLine, ← String.append_assoc]
    rfl
  induction outputs with
  | nil => exact .nil
  | cons c rest ih =>
    obtain ⟨first, others⟩ := List.forall_mem_cons.mp named
    have lines : call.outputLines (c :: rest) =
        call.outputLine c rest.isEmpty :: call.outputLines rest := by
      cases rest <;> rfl
    rw [lines]
    exact .cons ⟨first, _, line c _⟩ (ih others)

namespace Readable

variable (readable : call.Readable)
include readable

theorem parameters_written : List.Forall₂ (WritesParameter call.var) call.parameters.entries
    (call.parameters.entries.map call.parameterLine) := by
  rw [List.forall₂_map_right_iff, List.forall₂_same]
  refine fun entry mem => ⟨readable.key mem, readable.values entry mem, ?_⟩
  simp only [parameterLine_eq, String.append_assoc]

theorem inputs_written : List.Forall₂ (WritesInput call.className) call.inputs
    (call.inputs.map call.inputLine) := by
  rw [List.forall₂_map_right_iff, List.forall₂_same]
  refine fun c mem => ⟨readable.input mem, ?_⟩
  simp only [connectionLine, ← String.append_assoc]
  rfl

theorem outputs_written : List.Forall₂ (WritesOutput call.className) call.outputs
    (call.outputLines call.outputs) :=
  outputLines_written fun _ => readable.output

theorem isLine_lines : ∀ l ∈ call.lines, IsLine l := by
  have parameters := forall_mem_of_forall₂ readable.parameters_written
    fun _ _ wrote => wrote.isLine readable.var
  have inputs := forall_mem_of_forall₂ readable.inputs_written
    fun _ _ wrote => wrote.isLine readable.className.2
  have outputs := forall_mem_of_forall₂ readable.outputs_written
    fun _ _ wrote => wrote.isLine readable.className.2
  have var : IsLine (call.var ++ "\n") :=
    .append (notMem_of_isIdentifier readable.var rfl) ⟨"", rfl, by decide⟩
  simp only [lines, List.forall_mem_append, List.forall_mem_cons]
  refine ⟨parameters, var, ⟨"    .set_inputs(\x7b", rfl, by decide⟩, inputs,
    ⟨"    \x7d)", rfl, by decide⟩, ⟨"    .set_outputs(\x7b", rfl, by decide⟩, outputs,
    ⟨"    \x7d)", rfl, by decide⟩, ?_⟩
  exact List.forall_mem_nil _

end Readable

/-- A definition begins with a class, a blank, a variable and a semicolon: those of the parameters
where the operator takes some, and then it goes on. -/
theorem definition_eq (call : OperatorCall) : ∃ rest, (rest = "" ↔ call.hasParameters = false) ∧
    call.definition = (call.className ++ if call.hasParameters then "::Params" else "") ++ (" "
      ++ ((call.var ++ if call.hasParameters then "_params" else "") ++ (";" ++ rest))) := by
  unfold definition
  split
  · rename_i has
    refine ⟨"\n" ++ s!"{call.className} {call.var}({call.parametersVar});", by simp [has], ?_⟩
    have blank : "::Params " = "::Params" ++ " " := rfl
    have line : ";\n" = ";" ++ "\n" := rfl
    simp only [parametersVar, toString, blank, line, String.append_assoc]
  · rename_i lacks
    refine ⟨"", by simp [lacks], ?_⟩
    simp only [toString, String.append_assoc, String.append_empty]

/-- The definition of an operator tells its class and its name. -/
theorem definition_inj (readable : call.Readable) (readable' : other.Readable)
    (same : call.definition = other.definition) :
    call.className = other.className ∧ call.var = other.var := by
  obtain ⟨rest, bare, shape⟩ := definition_eq call
  obtain ⟨rest', bare', shape'⟩ := definition_eq other
  have clean {call : OperatorCall} (readable : call.Readable) :
      ' ' ∉ (call.className ++ if call.hasParameters then "::Params" else "").toList := by
    cases call.hasParameters <;> simp [readable.className.1]
  have whole {call : OperatorCall} (readable : call.Readable) :
      ';' ∉ (call.var ++ if call.hasParameters then "_params" else "").toList := by
    have var := notMem_of_isIdentifier (c := ';') readable.var rfl
    cases call.hasParameters <;> simp [var]
  rw [shape, shape'] at same
  obtain ⟨classes, after⟩ := read_to_mark (rfl : " ".toList = [' ']) (clean readable)
    (clean readable') same
  obtain ⟨vars, rfl⟩ := read_to_mark (rfl : ";".toList = [';']) (whole readable)
    (whole readable') after
  have alike : call.hasParameters = other.hasParameters := by
    have := bare.symm.trans bare'
    revert this
    cases call.hasParameters <;> cases other.hasParameters <;> simp
  rw [alike, String.append_left_inj] at classes vars
  exact ⟨classes, vars⟩

/-- The call of an operator of a known class and name tells its parameters, its inputs and its
outputs. -/
theorem eq_of_text_eq (readable : call.Readable) (readable' : other.Readable)
    (className : call.className = other.className) (var : call.var = other.var)
    (same : call.text = other.text) : call = other := by
  rw [text_eq_lines, text_eq_lines, String.append_left_inj] at same
  have lines := join_lines_inj readable.isLine_lines readable'.isLine_lines same
  have parameters' := readable'.parameters_written
  have inputs' := readable'.inputs_written
  have outputs' := readable'.outputs_written
  rw [← var] at parameters'
  rw [← className] at inputs' outputs'
  rw [OperatorCall.lines, OperatorCall.lines, ← var] at lines
  obtain ⟨parameters, rest⟩ := items_inj readable.parameters_written parameters'
    (fun _ _ _ => WritesParameter.eq) not_writesParameter lines
  obtain ⟨inputs, rest⟩ := items_inj readable.inputs_written inputs'
    (fun _ _ _ => WritesInput.eq) not_writesInput (List.cons.inj rest).2
  obtain ⟨outputs, -⟩ := items_inj readable.outputs_written outputs'
    (fun _ _ _ => WritesOutput.eq) not_writesOutput (List.cons.inj rest).2
  obtain ⟨_, _, _, _, ⟨_⟩⟩ := call
  obtain ⟨_, _, _, _, ⟨_⟩⟩ := other
  cases className
  cases var
  cases parameters
  cases inputs
  cases outputs
  rfl

end OperatorCall

/-! ### Classes -/

/-- The class of each operator type. -/
def classNames : List (String × String) := [
  ("Add", "AddOperator"),
  ("ArgMax", "ArgMaxOperator"),
  ("DepthwiseSeparableConv2D", "DepthwiseSeparableConvOperator"),
  ("Dequantize", "DequantizeOperator"),
  ("MatMul", "MatrixMultOperator"),
  ("Max", "MaxOperator"),
  ("Min", "MinOperator"),
  ("QuantizeV2", "QuantizeV2Operator"),
  ("QuantizedAdd", "QuantizedAddOperator"),
  ("QuantizedConv2D", "QuantizedConv2DOperator"),
  ("QuantizedMatMul", "QuantizedMatMulOperator"),
  ("QuantizedMaxPool", "QuantizedMaxPoolOperator"),
  ("QuantizedRelu", "QuantizedReluOperator"),
  ("QuantizedReshape", "QuantizedReshapeOperator"),
  ("Relu", "ReLUOperator"),
  ("RequantizationRange", "RequantizationRangeOperator"),
  ("Requantize", "RequantizeOperator"),
  ("Reshape", "ReshapeOperator"),
  ("Softmax", "SoftmaxOperator")]

theorem isIdentifier_classNames : ∀ entry ∈ classNames, isIdentifier entry.2 = true := by decide

/-- Each operator type has a class of its own. -/
theorem kind_eq_of_class_eq {kind kind' base : String} (known : (kind, base) ∈ classNames)
    (known' : (kind', base) ∈ classNames) : kind = kind' := by
  have distinct : (classNames.map Prod.snd).Nodup := by decide
  exact congrArg Prod.fst (List.inj_on_of_nodup_map distinct known known' rfl)

theorem isIdentifier_scalarTypeName (dtype : Tensor.ElementType) :
    isIdentifier (scalarTypeName dtype) = true := by
  cases dtype <;> rfl

theorem scalarTypeName_inj {dtype dtype' : Tensor.ElementType}
    (same : scalarTypeName dtype = scalarTypeName dtype') : dtype = dtype' := by
  revert same
  cases dtype <;> cases dtype' <;> decide

theorem referenceClass_eq (base : String) (dtype : Tensor.ElementType) : referenceClass base dtype =
    "ReferenceOperators::" ++ (base ++ ("<" ++ (scalarTypeName dtype ++ ">"))) := by
  simp only [← String.append_assoc]
  rfl

/-- The name of a class tells the operator and the element type. -/
theorem referenceClass_inj {base base' : String} {dtype dtype' : Tensor.ElementType}
    (named : isIdentifier base = true) (named' : isIdentifier base' = true)
    (same : referenceClass base dtype = referenceClass base' dtype') :
    base = base' ∧ dtype = dtype' := by
  rw [referenceClass_eq, referenceClass_eq, String.append_right_inj] at same
  obtain ⟨bases, types⟩ := read_to_mark (rfl : "<".toList = ['<'])
    (notMem_of_isIdentifier named rfl) (notMem_of_isIdentifier named' rfl) same
  exact ⟨bases, scalarTypeName_inj ((String.append_left_inj _).mp types)⟩

/-- A class holds no character but those of identifiers, colons and brackets. -/
theorem notMem_referenceClass {base : String} {dtype : Tensor.ElementType} {c : Char}
    (named : isIdentifier base = true) (other : isIdentifierTail c = false)
    (mark : c ∉ ['>', '<', ':']) : c ∉ (referenceClass base dtype).toList := by
  have inBase := notMem_of_isIdentifier named other
  have inType := notMem_of_isIdentifier (isIdentifier_scalarTypeName dtype) other
  have inNamespace := notMem_of_isIdentifier (rfl : isIdentifier "ReferenceOperators" = true) other
  have colons : "ReferenceOperators::" = "ReferenceOperators" ++ "::" := rfl
  simp only [referenceClass_eq, colons, String.toList_append, List.mem_append, not_or]
  simp_all

/-! ### Parameters -/

theorem notMem_toString (n : UInt32) : '\n' ∉ (toString n).toList := by
  have digits : (toString n).toList = Nat.toDigits 10 n.toNat := by
    show (Nat.repr n.toNat).toList = _
    rw [Nat.repr, String.toList_ofList]
  rw [digits]
  intro mem
  have := Nat.isDigit_of_mem_toDigits (by decide) (by decide) mem
  cases this

theorem notMem_padding (p : Padding) : '\n' ∉ p.constant.toList := by
  cases p <;> decide

theorem notMem_activation (a : Activation) : '\n' ∉ a.constant.toList := by
  cases a <;> decide

/-- What is read is emitted in one way. -/
theorem Operator.Emits.eq {op : Operator} {w : WindowOperator}
    {parameters parameters' : List (String × String)} (first : op.Emits w parameters)
    (second : op.Emits w parameters') : parameters = parameters' := by
  cases first with
  | depthwiseSeparable padding activation stride dilation multiplier =>
    cases second with
    | depthwiseSeparable padding' activation' stride' dilation' multiplier' =>
      rw [padding.eq padding', activation.eq activation', stride.eq stride',
        dilation.eq dilation', multiplier.eq multiplier']
  | quantizedConvolution stride padding =>
    cases second with
    | quantizedConvolution stride' padding' => rw [stride.eq stride', padding.eq padding']
  | quantizedMaxPool size stride padding =>
    cases second with
    | quantizedMaxPool size' stride' padding' =>
      rw [size.eq size', stride.eq stride', padding.eq padding']

theorem Operator.Emits.notMem {op : Operator} {w : WindowOperator}
    {parameters : List (String × String)} (emitted : op.Emits w parameters) :
    ∀ entry ∈ parameters, '\n' ∉ entry.2.toList := by
  cases emitted <;> simp [notMem_toString, notMem_padding, notMem_activation]

/-- The parameters that an operator emits: what a window operator reads, and none otherwise. -/
inductive Operator.EmitsParameters (op : Operator) : List (String × String) → Prop where
  | window {w : WindowOperator} {parameters : List (String × String)} : op.kind = w.kind →
      op.Emits w parameters → EmitsParameters op parameters
  | none : (∀ w : WindowOperator, op.kind ≠ w.kind) → EmitsParameters op []

theorem Operator.EmitsParameters.notMem {op : Operator} {parameters : List (String × String)}
    (emitted : op.EmitsParameters parameters) :
    ∀ entry ∈ parameters, '\n' ∉ entry.2.toList := by
  cases emitted with
  | window _ emits => exact emits.notMem
  | none _ => simp

/-! ### Records -/

/-- The window operator of an operator type. -/
def WindowOperator.ofKind? (kind : String) : Option WindowOperator :=
  [.depthwiseSeparable, .quantizedConvolution, .quantizedMaxPool].find? fun w => w.kind = kind

/-- The constructor of an operator type that has this class. -/
def constructorOf (entry : String × String) : Constructor :=
  match WindowOperator.ofKind? entry.1 with
  | some w => .ofCall w.call
  | none => reference entry.2

theorem constructors_eq : Registry.standard.constructors.entries =
    classNames.map fun entry => (entry.1, constructorOf entry) := rfl

theorem WindowOperator.kind_inj {w w' : WindowOperator} (same : w.kind = w'.kind) : w = w' := by
  revert same
  cases w <;> cases w' <;> decide

theorem WindowOperator.kind_of_ofKind? {kind : String} {w : WindowOperator}
    (found : ofKind? kind = some w) : kind = w.kind := by
  have := List.find?_some found
  exact (of_decide_eq_true this).symm

theorem WindowOperator.kind_ne_of_ofKind? {kind : String} (unknown : ofKind? kind = none)
    (w : WindowOperator) : kind ≠ w.kind := by
  have apart := List.find?_eq_none.mp unknown w (by cases w <;> simp)
  rintro rfl
  simp at apart

theorem WindowOperator.mem_classNames (w : WindowOperator) : (w.kind, w.className) ∈ classNames := by
  cases w <;> decide

namespace Operator

variable {op : Operator} {fragment : Fragment}

/-- A record is made into the call of the class of its kind, with the parameters that it emits. -/
theorem created_call (created : Registry.standard.create op = .ok fragment) :
    ∃ base parameters, (op.kind, base) ∈ classNames ∧ op.EmitsParameters parameters ∧
      fragment = (op.callOf base parameters).fragment := by
  cases window : WindowOperator.ofKind? op.kind with
  | some w =>
    have kind := WindowOperator.kind_of_ofKind? window
    obtain ⟨parameters, emitted, rfl⟩ := created_window kind created
    exact ⟨_, parameters, kind ▸ w.mem_classNames, .window kind emitted, rfl⟩
  | none =>
    unfold Registry.create at created
    split at created
    · cases created
    · rename_i make found
      have mem := Table.mem_of_lookup found
      rw [constructors_eq, List.mem_map] at mem
      obtain ⟨⟨_, base⟩, known, same⟩ := mem
      cases same
      simp only [constructorOf, window] at created
      cases created
      exact ⟨base, [], known, .none (WindowOperator.kind_ne_of_ofKind? window), rfl⟩

/-- The names in the record. -/
def names (op : Operator) : List String :=
  op.name :: (op.inputs ++ op.outputs).flatMap fun c => [c.1, c.2]

/-- The record has this definition and this call. -/
def Emitted (op : Operator) (definition : Option String) (text : String) : Prop :=
  ∃ fragment pools, Registry.standard.create op = .ok fragment ∧
    fragment.declaration pools = .ok definition ∧ fragment.render pools = .ok text

/-- The records are of the same call. Each emits one list of parameters, which is the same. -/
structure SameCall (op other : Operator) : Prop where
  name : op.name = other.name
  kind : op.kind = other.kind
  dtype : op.dtype = other.dtype
  inputs : op.inputs = other.inputs
  outputs : op.outputs = other.outputs
  parameters : ∃ parameters, ∀ emitted, (op.EmitsParameters emitted ↔ emitted = parameters) ∧
    (other.EmitsParameters emitted ↔ emitted = parameters)

/-- What is emitted is the text of a readable call of the class of the record's kind. -/
theorem Emitted.call {definition : Option String} {text : String}
    (emitted : op.Emitted definition text) : ∃ base parameters, (op.kind, base) ∈ classNames ∧
      op.EmitsParameters parameters ∧ (op.callOf base parameters).Readable ∧
      some (op.callOf base parameters).definition = definition ∧
      (op.callOf base parameters).text = text := by
  obtain ⟨fragment, pools, created, declared, rendered⟩ := emitted
  obtain ⟨base, parameters, known, emits, rfl⟩ := created_call created
  obtain ⟨-, definition⟩ := OperatorCall.declaration_ok_iff.mp declared
  obtain ⟨names, text⟩ := OperatorCall.render_ok_iff.mp rendered
  have named := isIdentifier_classNames _ known
  refine ⟨base, parameters, known, emits, ⟨names, ⟨?_, ?_⟩, emits.notMem⟩, definition, text⟩
  · exact notMem_referenceClass named rfl (by decide)
  · exact notMem_referenceClass named rfl (by decide)

theorem EmitsParameters.eq {parameters parameters' : List (String × String)}
    (emitted : op.EmitsParameters parameters) (emitted' : op.EmitsParameters parameters') :
    parameters = parameters' := by
  cases emitted with
  | window kind emits =>
    cases emitted' with
    | window kind' emits' =>
      cases WindowOperator.kind_inj (kind.symm.trans kind')
      exact emits.eq emits'
    | none plain => exact absurd kind (plain _)
  | none plain =>
    cases emitted' with
    | window kind' _ => exact absurd kind' (plain _)
    | none _ => rfl

/-- **Emitted calls can be read back.** Where a record has a definition and a call, its name, its
slots and its tensors are identifiers, and every record with the same definition and call has the
same name, operator type, element type, inputs and outputs, and emits the same parameters. -/
theorem emitted_unambiguously {definition : Option String} {text : String}
    (emitted : op.Emitted definition text) : (∀ name ∈ op.names, IsIdentifier name) ∧
      ∀ other : Operator, other.Emitted definition text → op.SameCall other := by
  obtain ⟨base, parameters, known, emits, readable, rfl, rfl⟩ := emitted.call
  constructor
  · intro name mem
    refine isIdentifier_iff.mp (readable.names name ?_)
    simp only [names, callOf, OperatorCall.names, List.mem_cons, List.flatMap_append,
      List.mem_append] at mem ⊢
    tauto
  · intro other again
    obtain ⟨base', parameters', known', emits', readable', definition, text⟩ := again.call
    obtain ⟨className, var⟩ := OperatorCall.definition_inj readable readable'
      (Option.some.inj definition).symm
    have same := OperatorCall.eq_of_text_eq readable readable' className var text.symm
    obtain ⟨rfl, dtype⟩ := referenceClass_inj (isIdentifier_classNames _ known)
      (isIdentifier_classNames _ known') className
    simp only [callOf, OperatorCall.mk.injEq, Table.mk.injEq] at same
    obtain ⟨name, -, inputs, outputs, rfl⟩ := same
    exact {
      name, dtype, inputs, outputs
      kind := kind_eq_of_class_eq known known'
      parameters := ⟨parameters, fun emitted =>
        ⟨⟨fun again => again.eq emits, fun same => same ▸ emits⟩,
          ⟨fun again => again.eq emits', fun same => same ▸ emits'⟩⟩⟩ }

/-- A convolution with a padding of this name. -/
def padded (padding : String) : Operator where
  name := "conv"
  kind := "QuantizedConv2D"
  dtype := .i8
  inputs := [("in", "x"), ("filter", "w")]
  outputs := [("out", "y")]
  attributes := ⟨[("strides", .ints [1, 2, 3, 1]), ("padding", .text padding)]⟩

/-- What is emitted for it where the name is that of the padding that keeps the size. -/
def paddedCall : OperatorCall :=
  (padded "SAME").callOf "QuantizedConv2DOperator"
    [("stride_height", "2"), ("stride_width", "3"), ("padding", "kTfLitePaddingSame")]

theorem padded_emitted {padding : String} (same : SameButCase padding "SAME") :
    (padded padding).Emitted (some paddedCall.definition) paddedCall.text := by
  have reads : (padded padding).Reads .padding Padding.same :=
    (⟨padding, rfl, same⟩ : Attribute.IsPadding (.text padding) .same)
  have made : quantizedConvolutionCall (padded padding) = .ok paddedCall :=
    bind_ok_iff.mpr ⟨⟨2, 3⟩, rfl, bind_ok_iff.mpr ⟨.same, read_ok_iff.mpr reads, rfl⟩⟩
  have created : Registry.standard.create (padded padding) = .ok paddedCall.fragment := by
    rw [create_window (w := .quantizedConvolution) rfl, WindowOperator.call, made]
    rfl
  exact ⟨_, .standard, created, OperatorCall.declaration_ok_iff.mpr ⟨rfl, rfl⟩,
    OperatorCall.render_ok_iff.mpr ⟨by decide, rfl⟩⟩

/-- The name of a padding may be in lower or upper case: the records are of the same call. -/
theorem emitted_unambiguously_padded :
    (padded "same").Emitted (some paddedCall.definition) paddedCall.text ∧
      (padded "SAME").Emitted (some paddedCall.definition) paddedCall.text ∧
      (padded "same").SameCall (padded "SAME") := by
  have lower := padded_emitted (by decide : SameButCase "same" "SAME")
  have upper := padded_emitted (by decide : SameButCase "SAME" "SAME")
  exact ⟨lower, upper, (emitted_unambiguously lower).2 _ upper⟩

end Operator

end TensorArena.Emit
