import TensorArena.Emit.Registry
import TensorArena.Proofs.Emit.Precedence

/-!
How window operators read their attributes.

An attribute that holds an extent is a list of four integers of which the second is the height
and the third the width, both positive words; names of paddings and activations are read in any
case. The three operators that slide a window read these kinds of attributes alike and each in an
order of its own: an operator is made exactly if all that it reads is there and valid, absent
attributes that it does not require apart, and is refused for the first that is not. What it
reads is what it emits.
-/

namespace TensorArena.Emit

/-! ### Names in any case -/

/-- The texts differ in nothing but the case of ASCII letters. -/
def SameButCase (s t : String) : Prop :=
  List.Forall₂ (fun c d : Char => c.toLower = d.toLower) s.toList t.toList

instance (s t : String) : Decidable (SameButCase s t) :=
  inferInstanceAs (Decidable (List.Forall₂ _ _ _))

/-- The name of a padding, in upper case. -/
def Padding.name : Padding → String
  | .same => "SAME"
  | .valid => "VALID"

/-- The name of an activation, in upper case. -/
def Activation.name : Activation → String
  | .identity => "NONE"
  | .relu => "RELU"
  | .relu6 => "RELU6"

theorem sameButCase_iff {s t : String} : SameButCase s t ↔ lowerCase s = lowerCase t := by
  rw [SameButCase, ← String.toList_inj, lowerCase, lowerCase, String.toList_map, String.toList_map,
    ← List.forall₂_eq_eq_eq, List.forall₂_map_left_iff, List.forall₂_map_right_iff]

theorem lowerCase_eq {s t : String} (lowered : s.toList.map Char.toLower = t.toList) :
    lowerCase s = t := by
  rw [lowerCase, ← String.toList_inj, String.toList_map, lowered]

theorem Padding.ofName?_eq_some_iff {name : String} {p : Padding} :
    Padding.ofName? name = some p ↔ SameButCase name p.name := by
  have same : lowerCase "SAME" = "same" := lowerCase_eq rfl
  have valid : lowerCase "VALID" = "valid" := lowerCase_eq rfl
  rw [sameButCase_iff, ofName?]
  cases p <;> grind [Padding.name]

theorem Activation.ofName?_eq_some_iff {name : String} {a : Activation} :
    Activation.ofName? name = some a ↔ SameButCase name a.name := by
  have identity : lowerCase "NONE" = "none" := lowerCase_eq rfl
  have relu : lowerCase "RELU" = "relu" := lowerCase_eq rfl
  have relu6 : lowerCase "RELU6" = "relu6" := lowerCase_eq rfl
  rw [sameButCase_iff, ofName?]
  cases a <;> grind [Activation.name]

/-! ### Values -/

/-- The integer is this word of 32 bits, and positive. -/
def IsPositiveWord (n : Int) (w : UInt32) : Prop := 1 ≤ n ∧ n ≤ 4294967295 ∧ n = w.toNat

namespace Attribute

variable (value : Attribute)

def IsPadding (p : Padding) : Prop := ∃ name, value = .text name ∧ SameButCase name p.name

def IsActivation (a : Activation) : Prop := ∃ name, value = .text name ∧ SameButCase name a.name

/-- Four integers, of which the second is the height and the third the width. -/
def IsExtent (e : Extent) : Prop :=
  ∃ batch height width channel, value = .ints [batch, height, width, channel] ∧
    IsPositiveWord height e.height ∧ IsPositiveWord width e.width

def IsMultiplier (w : UInt32) : Prop := ∃ n, value = .int n ∧ IsPositiveWord n w

end Attribute

/-! ### Readings -/

/-- How an attribute of a window operator is read. -/
inductive Reading where
  | padding
  | activation
  | extent (key : String)
  | extentIfAny (key : String)
  | depthMultiplier
deriving DecidableEq

namespace Reading

/-- What is read. -/
abbrev Result : Reading → Type
  | padding => Padding
  | activation => Activation
  | extent _ | extentIfAny _ => Extent
  | depthMultiplier => UInt32

/-- The name of the attribute. -/
def key : Reading → String
  | padding => "padding"
  | activation => "activation"
  | extent key | extentIfAny key => key
  | depthMultiplier => "depth_multiplier"

/-- What a value of the attribute stands for, if it is valid. -/
def Means : (r : Reading) → Attribute → r.Result → Prop
  | padding => Attribute.IsPadding
  | activation => Attribute.IsActivation
  | extent _ | extentIfAny _ => Attribute.IsExtent
  | depthMultiplier => Attribute.IsMultiplier

/-- What the absence of the attribute stands for, where it may be absent. -/
def absent? : (r : Reading) → Option r.Result
  | padding | extent _ => none
  | activation => some Activation.identity
  | extentIfAny _ => some (⟨1, 1⟩ : Extent)
  | depthMultiplier => some (1 : UInt32)

/-- Why an integer is no positive word. -/
def notPositive (n : Int) : String := s!"expected a positive integer, got {n}"

/-- Why a value is no extent. The height is looked at before the width. -/
def extentReason : Attribute → String
  | .ints [_, height, width, _] =>
    notPositive (if 1 ≤ height ∧ height ≤ 4294967295 then width else height)
  | other => s!"expected four integers, got {other.describe}"

/-- Why a value is not valid. -/
def reason : Reading → Attribute → String
  | padding, .text name => s!"unknown mode {name}"
  | activation, .text name => s!"unknown activation {name}"
  | padding, other | activation, other => s!"expected a string, got {other.describe}"
  | extent _, value | extentIfAny _, value => extentReason value
  | depthMultiplier, .int n => notPositive n
  | depthMultiplier, other => s!"expected an integer, got {other.describe}"

/-- The function that reads the attribute. -/
def read (op : Operator) : (r : Reading) → Except Fault r.Result
  | padding => op.padding
  | activation => op.activation
  | extent key => op.requireExtent key
  | extentIfAny key => op.extentOrUnit key
  | depthMultiplier => op.depthMultiplier

end Reading

namespace Operator

variable (op : Operator)

/-- The attribute is there and valid and means `x`, or is absent and its absence does. -/
def Reads (r : Reading) (x : r.Result) : Prop :=
  match op.attributes.get? r.key with
  | some value => r.Means value x
  | none => r.absent? = some x

/-- The attribute can be read. -/
def Provides (r : Reading) : Prop := ∃ x, op.Reads r x

/-- The fault of an attribute that cannot be read. -/
def refusal (r : Reading) : Fault :=
  match op.attributes.get? r.key with
  | some value => .invalidAttribute op.name r.key (r.reason value)
  | none => .missingAttribute op.name r.key

end Operator

/-! ### Each reading -/

section Readings

variable {op : Operator} {key : String} {n : Int} {value : Attribute}

theorem isPositiveWord_toUInt32 (low : 1 ≤ n) (high : n ≤ 4294967295) :
    IsPositiveWord n n.toNat.toUInt32 := by
  refine ⟨low, high, ?_⟩
  rw [Nat.toUInt32_eq, UInt32.toNat_ofNat_of_lt' (by simp; omega)]
  omega

theorem IsPositiveWord.eq {v w : UInt32} (first : IsPositiveWord n v)
    (second : IsPositiveWord n w) : v = w := by
  have same : (v.toNat : Int) = w.toNat := first.2.2.symm.trans second.2.2
  exact UInt32.toNat_inj.mp (Int.ofNat_inj.mp same)

/-- What is not a positive word is refused with the integer that it is. -/
theorem positive_cases (op : Operator) (key : String) (n : Int) :
    (∃ w, op.positive key n = .ok w ∧ IsPositiveWord n w) ∨
      (op.positive key n = .error (.invalidAttribute op.name key (Reading.notPositive n)) ∧
        ¬ (1 ≤ n ∧ n ≤ 4294967295)) := by
  rw [Operator.positive]
  by_cases range : 0 < n ∧ n ≤ 4294967295
  · rw [if_pos range]
    exact .inl ⟨_, rfl, isPositiveWord_toUInt32 (by omega) (by omega)⟩
  · rw [if_neg range]
    exact .inr ⟨rfl, by omega⟩

/-- An extent is read off the second and the third of four integers, the height first. -/
theorem extent?_of_some (found : op.attributes.get? key = some value) :
    (∃ e, op.extent? key = .ok (some e) ∧ value.IsExtent e) ∨
      (op.extent? key = .error (.invalidAttribute op.name key (Reading.extentReason value)) ∧
        ∀ e, ¬ value.IsExtent e) := by
  rw [Operator.extent?, found]
  split
  · contradiction
  · rename_i batch height width channel four
    cases four
    rw [Reading.extentReason]
    obtain ⟨h, read, tall⟩ | ⟨refused, outside⟩ := positive_cases op key height
    · rw [read, if_pos ⟨tall.1, tall.2.1⟩]
      obtain ⟨w, read, wide⟩ | ⟨refused, outside⟩ := positive_cases op key width
      · rw [read]
        exact .inl ⟨⟨h, w⟩, rfl, _, _, _, _, rfl, tall, wide⟩
      · rw [refused]
        refine .inr ⟨rfl, ?_⟩
        rintro e ⟨_, _, _, _, same, -, ⟨low, high, -⟩⟩
        cases same
        exact outside ⟨low, high⟩
    · rw [refused, if_neg outside]
      refine .inr ⟨rfl, ?_⟩
      rintro e ⟨_, _, _, _, same, ⟨low, high, -⟩, -⟩
      cases same
      exact outside ⟨low, high⟩
  · rename_i other others same
    cases same
    have reason : Reading.extentReason value =
        s!"expected four integers, got {value.describe}" := by
      unfold Reading.extentReason
      split
      · exact absurd rfl (others _ _ _ _)
      · rfl
    rw [reason]
    refine .inr ⟨rfl, ?_⟩
    rintro e ⟨_, _, _, _, rfl, -⟩
    exact others _ _ _ _ rfl

/-- The answer is what is read, or the fault of an attribute that cannot be read. -/
def Reading.Answers (r : Reading) (op : Operator) (answer : Except Fault r.Result) : Prop :=
  (∃ x, answer = .ok x ∧ op.Reads r x) ∨ (answer = .error (op.refusal r) ∧ ¬ op.Provides r)

namespace Reading.Answers

variable {r : Reading} {answer : Except Fault r.Result}

theorem of_some (found : op.attributes.get? r.key = some value)
    (read : (∃ x, answer = .ok x ∧ r.Means value x) ∨
      (answer = .error (.invalidAttribute op.name r.key (r.reason value)) ∧
        ∀ x, ¬ r.Means value x)) : r.Answers op answer := by
  simp only [Answers, Operator.Provides, Operator.Reads, Operator.refusal, found, not_exists]
  exact read

theorem of_none (missing : op.attributes.get? r.key = none)
    (read : (∃ x, answer = .ok x ∧ r.absent? = some x) ∨
      (answer = .error (.missingAttribute op.name r.key) ∧ r.absent? = none)) :
    r.Answers op answer := by
  simp only [Answers, Operator.Provides, Operator.Reads, Operator.refusal, missing]
  refine read.imp_right fun ⟨refused, required⟩ => ⟨refused, ?_⟩
  simp [required]

/-- A value that has to be a name is a text that one of them is spelled by. -/
theorem of_text (ofName? : String → Option r.Result) (found : op.attributes.get? r.key = some value)
    (means : ∀ x, r.Means value x ↔ ∃ name, value = .text name ∧ ofName? name = some x)
    (known : ∀ name x, value = .text name → ofName? name = some x → answer = .ok x)
    (unknown : ∀ name, value = .text name → ofName? name = none →
      answer = .error (.invalidAttribute op.name r.key (r.reason value)))
    (other : (∀ name, value ≠ .text name) →
      answer = .error (.invalidAttribute op.name r.key (r.reason value))) :
    r.Answers op answer := by
  refine of_some found ?_
  simp only [means]
  by_cases spelled : ∃ name, value = .text name
  · obtain ⟨name, rfl⟩ := spelled
    cases named : ofName? name with
    | some x => exact .inl ⟨x, known name x rfl named, name, rfl, named⟩
    | none =>
      refine .inr ⟨unknown name rfl named, ?_⟩
      rintro x ⟨_, same, read⟩
      cases same
      rw [named] at read
      cases read
  · refine .inr ⟨other (not_exists.mp spelled), ?_⟩
    rintro x ⟨name, same, -⟩
    exact spelled ⟨name, same⟩

end Reading.Answers

theorem padding_answers : Reading.padding.Answers op op.padding := by
  rw [Operator.padding, Operator.text?]
  cases found : op.attributes.get? "padding" with
  | none => exact .of_none found (.inr ⟨rfl, rfl⟩)
  | some value =>
    refine .of_text Padding.ofName? found (fun p => ?_) ?_ ?_ ?_
    · simp only [Padding.ofName?_eq_some_iff]
      rfl
    · rintro name p rfl named
      simp only [named]
    · rintro name rfl named
      simp only [named]
      rfl
    · intro other
      cases value with
      | text name => exact absurd rfl (other name)
      | _ => rfl

theorem activation_answers : Reading.activation.Answers op op.activation := by
  rw [Operator.activation, Operator.text?]
  cases found : op.attributes.get? "activation" with
  | none => exact .of_none found (.inl ⟨_, rfl, rfl⟩)
  | some value =>
    refine .of_text Activation.ofName? found (fun a => ?_) ?_ ?_ ?_
    · simp only [Activation.ofName?_eq_some_iff]
      rfl
    · rintro name a rfl named
      simp only [named]
    · rintro name rfl named
      simp only [named]
      rfl
    · intro other
      cases value with
      | text name => exact absurd rfl (other name)
      | _ => rfl

theorem extent_answers : (Reading.extent key).Answers op (op.requireExtent key) := by
  rw [Operator.requireExtent]
  cases found : op.attributes.get? key with
  | none =>
    rw [Operator.extent?, found]
    exact .of_none found (.inr ⟨rfl, rfl⟩)
  | some value =>
    refine .of_some found ?_
    obtain ⟨e, read, means⟩ | ⟨refused, invalid⟩ := extent?_of_some found
    · rw [read]
      exact .inl ⟨e, rfl, means⟩
    · rw [refused]
      exact .inr ⟨rfl, invalid⟩

theorem extentIfAny_answers : (Reading.extentIfAny key).Answers op (op.extentOrUnit key) := by
  rw [Operator.extentOrUnit]
  cases found : op.attributes.get? key with
  | none =>
    rw [Operator.extent?, found]
    exact .of_none found (.inl ⟨_, rfl, rfl⟩)
  | some value =>
    refine .of_some found ?_
    obtain ⟨e, read, means⟩ | ⟨refused, invalid⟩ := extent?_of_some found
    · rw [read]
      exact .inl ⟨e, rfl, means⟩
    · rw [refused]
      exact .inr ⟨rfl, invalid⟩

theorem depthMultiplier_answers : Reading.depthMultiplier.Answers op op.depthMultiplier := by
  rw [Operator.depthMultiplier, Operator.intOr, Table.contains, Operator.requireInt,
    Operator.require]
  cases found : op.attributes.get? "depth_multiplier" with
  | none => exact .of_none found (.inl ⟨_, rfl, rfl⟩)
  | some value =>
    refine .of_some found ?_
    cases value with
    | int n =>
      obtain ⟨w, read, word⟩ | ⟨refused, outside⟩ := positive_cases op "depth_multiplier" n
      · exact .inl ⟨w, read, n, rfl, word⟩
      · refine .inr ⟨refused, ?_⟩
        rintro w ⟨_, same, low, high, -⟩
        cases same
        exact outside ⟨low, high⟩
    | _ => exact .inr ⟨rfl, by rintro w ⟨_, same, _⟩; cases same⟩

/-- Every function reads its attribute. -/
theorem read_answers (r : Reading) (op : Operator) : r.Answers op (r.read op) := by
  cases r with
  | padding => exact padding_answers
  | activation => exact activation_answers
  | extent key => exact extent_answers
  | extentIfAny key => exact extentIfAny_answers
  | depthMultiplier => exact depthMultiplier_answers

/-- A value means one thing. -/
theorem Reading.Means.eq {r : Reading} {x y : r.Result} (first : r.Means value x)
    (second : r.Means value y) : x = y := by
  have extents {d e : Extent} (first : value.IsExtent d) (second : value.IsExtent e) : d = e := by
    obtain ⟨_, _, _, _, rfl, tall, wide⟩ := first
    obtain ⟨_, _, _, _, same, high, broad⟩ := second
    cases same
    cases d
    cases e
    rw [Extent.mk.injEq]
    exact ⟨tall.eq high, wide.eq broad⟩
  cases r with
  | padding =>
    obtain ⟨name, rfl, named⟩ := first
    obtain ⟨_, same, again⟩ := second
    cases same
    rw [← Padding.ofName?_eq_some_iff] at named again
    exact Option.some.inj (named.symm.trans again)
  | activation =>
    obtain ⟨name, rfl, named⟩ := first
    obtain ⟨_, same, again⟩ := second
    cases same
    rw [← Activation.ofName?_eq_some_iff] at named again
    exact Option.some.inj (named.symm.trans again)
  | extent key => exact extents first second
  | extentIfAny key => exact extents first second
  | depthMultiplier =>
    obtain ⟨n, rfl, word⟩ := first
    obtain ⟨_, same, again⟩ := second
    cases same
    exact word.eq again

theorem Operator.Reads.eq {r : Reading} {x y : r.Result} (first : op.Reads r x)
    (second : op.Reads r y) : x = y := by
  simp only [Operator.Reads] at first second
  cases found : op.attributes.get? r.key with
  | some value =>
    simp only [found] at first second
    exact first.eq second
  | none =>
    simp only [found] at first second
    exact Option.some.inj (first.symm.trans second)

theorem read_ok_iff {r : Reading} {x : r.Result} : r.read op = .ok x ↔ op.Reads r x := by
  obtain ⟨y, read, means⟩ | ⟨refused, unread⟩ := read_answers r op
  · rw [read, Except.ok.injEq]
    exact ⟨fun same => same ▸ means, means.eq⟩
  · rw [refused]
    exact ⟨nofun, fun means => absurd ⟨x, means⟩ unread⟩

end Readings

/-! ### Operators -/

/-- The operators that slide a window. -/
inductive WindowOperator where
  | depthwiseSeparable
  | quantizedConvolution
  | quantizedMaxPool
deriving DecidableEq

namespace WindowOperator

/-- The operator type. -/
def kind : WindowOperator → String
  | depthwiseSeparable => "DepthwiseSeparableConv2D"
  | quantizedConvolution => "QuantizedConv2D"
  | quantizedMaxPool => "QuantizedMaxPool"

/-- The class of the operator. -/
def className : WindowOperator → String
  | depthwiseSeparable => "DepthwiseSeparableConvOperator"
  | quantizedConvolution => "QuantizedConv2DOperator"
  | quantizedMaxPool => "QuantizedMaxPoolOperator"

/-- What the operator reads, in order. -/
def readings : WindowOperator → List Reading
  | depthwiseSeparable =>
    [.padding, .activation, .extentIfAny "strides", .extentIfAny "dilations", .depthMultiplier]
  | quantizedConvolution => [.extent "strides", .padding]
  | quantizedMaxPool => [.extent "ksize", .extent "strides", .padding]

/-- The call of the operator. -/
def call : WindowOperator → Operator → Except Fault OperatorCall
  | depthwiseSeparable => depthwiseSeparableCall
  | quantizedConvolution => quantizedConvolutionCall
  | quantizedMaxPool => quantizedMaxPoolCall

end WindowOperator

/-- The call of the record's operator as one of a class, with parameters. -/
def Operator.callOf (op : Operator) (name : String) (parameters : List (String × String)) :
    OperatorCall :=
  ⟨op.name, referenceClass name op.dtype, op.inputs, op.outputs, ⟨parameters⟩⟩

/-- The parameters that a window operator emits for what it reads. -/
inductive Operator.Emits (op : Operator) : WindowOperator → List (String × String) → Prop where
  | depthwiseSeparable {padding : Padding} {activation : Activation} {stride dilation : Extent}
      {multiplier : UInt32} : op.Reads .padding padding → op.Reads .activation activation →
      op.Reads (.extentIfAny "strides") stride → op.Reads (.extentIfAny "dilations") dilation →
      op.Reads .depthMultiplier multiplier → Emits op .depthwiseSeparable [
        ("padding", padding.constant),
        ("stride_width", toString stride.width),
        ("stride_height", toString stride.height),
        ("depth_multiplier", toString multiplier),
        ("activation", activation.constant),
        ("dilation_width_factor", toString dilation.width),
        ("dilation_height_factor", toString dilation.height)]
  | quantizedConvolution {stride : Extent} {padding : Padding} :
      op.Reads (.extent "strides") stride → op.Reads .padding padding →
      Emits op .quantizedConvolution [
        ("stride_height", toString stride.height),
        ("stride_width", toString stride.width),
        ("padding", padding.constant)]
  | quantizedMaxPool {size stride : Extent} {padding : Padding} :
      op.Reads (.extent "ksize") size → op.Reads (.extent "strides") stride →
      op.Reads .padding padding → Emits op .quantizedMaxPool [
        ("ksize_height", toString size.height),
        ("ksize_width", toString size.width),
        ("stride_height", toString stride.height),
        ("stride_width", toString stride.width),
        ("padding", padding.constant)]

section Operators

variable {op : Operator} {w : WindowOperator}

theorem create_window (kind : op.kind = w.kind) :
    Registry.standard.create op = (w.call op).map OperatorCall.fragment := by
  cases w <;>
  · rw [Registry.create, kind]
    rfl

theorem convolution_ok_iff {c : Convolution} : Convolution.ofOperator op = .ok c ↔
    op.Reads .padding c.padding ∧ op.Reads .activation c.activation ∧
      op.Reads (.extentIfAny "strides") c.stride ∧
      op.Reads (.extentIfAny "dilations") c.dilation ∧
      op.Reads .depthMultiplier c.depthMultiplier := by
  simp only [← read_ok_iff, Reading.read, Convolution.ofOperator, bind_ok_iff]
  constructor
  · rintro ⟨_, padding, _, activation, _, stride, _, dilation, _, multiplier, same⟩
    cases same
    exact ⟨padding, activation, stride, dilation, multiplier⟩
  · rintro ⟨padding, activation, stride, dilation, multiplier⟩
    exact ⟨_, padding, _, activation, _, stride, _, dilation, _, multiplier, rfl⟩

theorem call_emits {call : OperatorCall} (made : w.call op = .ok call) :
    ∃ parameters, op.Emits w parameters ∧ call = op.callOf w.className parameters := by
  cases w with
  | depthwiseSeparable =>
    obtain ⟨c, read, rest⟩ := bind_ok_iff.mp made
    cases rest
    obtain ⟨padding, activation, stride, dilation, multiplier⟩ := convolution_ok_iff.mp read
    exact ⟨_, .depthwiseSeparable padding activation stride dilation multiplier, rfl⟩
  | quantizedConvolution =>
    obtain ⟨stride, strides, rest⟩ := bind_ok_iff.mp made
    obtain ⟨padding, padded, rest⟩ := bind_ok_iff.mp rest
    cases rest
    exact ⟨_, .quantizedConvolution (read_ok_iff.mp strides) (read_ok_iff.mp padded), rfl⟩
  | quantizedMaxPool =>
    obtain ⟨size, sizes, rest⟩ := bind_ok_iff.mp made
    obtain ⟨stride, strides, rest⟩ := bind_ok_iff.mp rest
    obtain ⟨padding, padded, rest⟩ := bind_ok_iff.mp rest
    cases rest
    exact ⟨_, .quantizedMaxPool (read_ok_iff.mp sizes) (read_ok_iff.mp strides)
      (read_ok_iff.mp padded), rfl⟩

/-- What is made of a window operator is the call that emits what it reads. -/
theorem created_window {fragment : Fragment} (kind : op.kind = w.kind)
    (created : Registry.standard.create op = .ok fragment) : ∃ parameters,
      op.Emits w parameters ∧ fragment = (op.callOf w.className parameters).fragment := by
  rw [create_window kind] at created
  cases made : w.call op with
  | error fault =>
    rw [made] at created
    cases created
  | ok call =>
    rw [made] at created
    cases created
    obtain ⟨parameters, emitted, rfl⟩ := call_emits made
    exact ⟨parameters, emitted, rfl⟩

end Operators

end TensorArena.Emit
