import Nullness.Json.Text
import Nullness.Json.Tree
import Nullness.Program

/-!
# The format of programs

Programs as JSON documents. Classes, fields and methods need their names and descriptors; all else
may be left out. The opcode of an instruction is named by its member `op`, and the operands are
further members of the instruction.
-/

namespace Nullness

/-- Sizes, indices and identifiers. -/
def NaturalRange.size : NaturalRange := ⟨"usize", 0xFFFFFFFFFFFFFFFF⟩

/-- Offsets in bytecode. -/
def NaturalRange.offset : NaturalRange := ⟨"u32", 0xFFFFFFFF⟩

namespace Format

open Decoder

variable {D : Type → Type} [Decoder D]

/-- A size, an index or an identifier. -/
def size : D Nat := natural .size

/-! ### Instructions -/

/-- An annotation by its name. -/
def nullMark : D NullMark :=
  choice
    [("non_null", .nonNull), ("check_for_null", .checkForNull), ("nullable", .nullable),
      ("unknown", .unknown)]

/-- The kind of a call by its name. -/
def callKind : D CallKind :=
  choice
    [("virtual", .virtual), ("interface", .interface), ("special", .special), ("static", .static)]

/-- A field as an instruction names it. -/
def fieldRef : D FieldRef :=
  record ⟨"FieldRef", ⟨"", "", ""⟩,
    [.required "owner" string fun v f => { f with owner := v },
      .required "name" string fun v f => { f with name := v },
      .required "descriptor" string fun v f => { f with descriptor := v }]⟩

/-- A call site, given how its kind is read. -/
def callSiteWith (kind : D CallKind) : D CallSite :=
  record ⟨"CallSite", ⟨"", "", "", .virtual⟩,
    [.required "owner" string fun v c => { c with owner := v },
      .required "name" string fun v c => { c with name := v },
      .required "descriptor" string fun v c => { c with descriptor := v },
      .required "kind" kind fun v c => { c with kind := v }]⟩

/-- A method as a call instruction names it. -/
def callSite : D CallSite := callSiteWith callKind

/-- An opcode with a single operand. -/
def operand {α : Type} (name : String) (value : TreeDecoder α) (op : α → Opcode) :
    TreeDecoder Opcode :=
  record ⟨"operands", .nop, [.required name value fun v _ => op v]⟩

/-- The numbers of values that a computation takes and leaves. -/
def arithmeticOperands : TreeDecoder Opcode :=
  Functor.map (fun e : StackEffect => .arithmetic e.pops e.pushes) <| record ⟨"operands", ⟨0, 0⟩,
    [.required "pops" size fun v (e : StackEffect) => { e with pops := v },
      .required "pushes" size fun v e => { e with pushes := v }]⟩

/-- The kind of a call. When it is given as the only key of an object, the value of that key may
also be an empty object. -/
def operandKind : TreeDecoder CallKind
  | .object [(key, .object [])] => (callKind : TreeDecoder CallKind) (.object [(key, .null)])
  | j => (callKind : TreeDecoder CallKind) j

/-- An opcode on a field. -/
def onField (op : FieldRef → Opcode) : TreeDecoder Opcode := Functor.map op fieldRef

/-- An opcode without operands; members that could be operands are passed over. -/
def plain (op : Opcode) : TreeDecoder Opcode := fun _ => .ok op

/-- The opcodes by name, each with how its operands are read. -/
def opcodes : List (String × TreeDecoder Opcode) :=
  [("nop", plain .nop), ("const_null", plain .constNull),
    ("const_primitive", plain .constPrimitive), ("const_reference", plain .constReference),
    ("load", operand "slot" size .load), ("store", operand "slot" size .store),
    ("pop", plain .pop), ("dup", plain .dup), ("dup_x1", plain .dupX1), ("swap", plain .swap),
    ("new", operand "class" string .new), ("new_array", plain .newArray),
    ("multi_new_array", operand "dimensions" size .multiNewArray),
    ("get_field", onField .getField), ("put_field", onField .putField),
    ("get_static", onField .getStatic), ("put_static", onField .putStatic),
    ("array_load", plain .arrayLoad), ("array_store", plain .arrayStore),
    ("array_length", plain .arrayLength),
    ("invoke", Functor.map .invoke (callSiteWith operandKind)),
    ("check_cast", plain .checkCast), ("instance_of", plain .instanceOf),
    ("arithmetic", arithmeticOperands),
    ("if_null", plain .ifNull), ("if_non_null", plain .ifNonNull),
    ("if_ref_eq", plain .ifRefEq), ("if_ref_ne", plain .ifRefNe),
    ("if_eq", plain .ifEq), ("if_ne", plain .ifNe),
    ("if_compare", operand "operands" size .ifCompare),
    ("goto", plain .goto), ("switch", plain .switch), ("return", plain .return),
    ("return_value", plain .returnValue), ("throw", plain .throw),
    ("monitor_enter", plain .monitorEnter), ("monitor_exit", plain .monitorExit)]

/-- The opcode that a value names, or gives by its place in the list of opcodes. -/
def namedOpcode : Json → Except JsonError (TreeDecoder Opcode)
  | .string s => chosen opcodes s
  | .number (.natural n) =>
    match opcodes[n]? with
    | some (_, d) => .ok d
    | none =>
      .error (.wrongValue (.number (.natural n))
        ("variant index 0 <= i < " ++ toString opcodes.length))
  | j => .error (.wrongType (.ofJson j) "variant identifier")

/-- The opcode of an instruction, from the members that hold its name and its operands. -/
def opcode (members : List (String × Json)) : Except JsonError Opcode :=
  match members.partition fun m => m.1 = "op" with
  | ([], _) => .error (.missingField "op")
  | ((_, name) :: others, operands) => do
    let d ← namedOpcode name
    if others.isEmpty then d (.object operands) else .error (.duplicateField "op")

/-- An instruction: its offset, and the members that give its opcode. -/
def instruction : D Instruction :=
  openRecord
    ⟨"Instruction", ⟨0, .nop⟩,
      [.optional "offset" (natural .offset) fun v i => { i with offset := v }]⟩
    fun members i => do return { i with op := ← opcode members }

/-! ### Bodies -/

/-- A block of a body. -/
def block : D Block :=
  record ⟨"BasicBlock", ⟨0, []⟩,
    [.required "id" size fun v b => { b with id := v },
      .optional "instructions" (list instruction) fun v b => { b with code := v }]⟩

/-- The kind of an edge by its name. -/
def edgeKind : D EdgeKind :=
  choice
    [("fall_through", .fallThrough), ("branch", .branch), ("handled_exception", .handledException),
      ("unhandled_exception", .unhandledException)]

/-- An edge of a body. -/
def edge : D (Edge Nat) :=
  record ⟨"Edge", ⟨0, 0, .fallThrough⟩,
    [.required "from" size fun v e => { e with source := v },
      .required "to" size fun v e => { e with target := v },
      .required "kind" edgeKind fun v e => { e with kind := v }]⟩

/-- A method body. -/
def body : D Body :=
  record ⟨"Cfg", ⟨0, 0, [], []⟩,
    [.required "entry" size fun v b => { b with entry := v },
      .required "exit" size fun v b => { b with exit := v },
      .required "blocks" (list block) fun v b => { b with blocks := v },
      .optional "edges" (list edge) fun v b => { b with edges := v }]⟩

/-! ### Classes -/

/-- Whether a method is public, static and abstract. -/
def access : D (Bool × Bool × Bool) :=
  record ⟨"MethodAccess", (false, false, false),
    [.optional "is_public" bool fun v (_, s, a) => (v, s, a),
      .optional "is_static" bool fun v (p, _, a) => (p, v, a),
      .optional "is_abstract" bool fun v (p, s, _) => (p, s, v)]⟩

/-- The annotations of what a method returns and of its parameters. -/
def signature : D (NullMark × List NullMark) :=
  record ⟨"MethodNullness", (.unknown, []),
    [.optional "return_nullness" nullMark fun v (_, ps) => (v, ps),
      .optional "parameter_nullness" (list nullMark) fun v (r, _) => (r, v)]⟩

/-- A method. -/
def method : D Method :=
  record ⟨"Method", ⟨"", "", false, false, false, .unknown, [], 0, 0, none, []⟩,
    [.required "name" string fun v m => { m with name := v },
      .required "descriptor" string fun v m => { m with descriptor := v },
      .optional "access" access fun (p, s, a) m =>
        { m with isPublic := p, isStatic := s, isAbstract := a },
      .optional "nullness" signature fun (r, ps) m =>
        { m with returnMark := r, parameterMarks := ps },
      .optional "max_locals" size fun v m => { m with maxLocals := v },
      .optional "max_stack" size fun v m => { m with maxStack := v },
      .optional "cfg" (optional body) fun v m => { m with body := v },
      .optional "dereferenced_parameters" (list size) fun v m =>
        { m with dereferencedParameters := v }]⟩

/-- A field. -/
def fieldDecl : D FieldDecl :=
  record ⟨"Field", ⟨"", "", false, .unknown⟩,
    [.required "name" string fun v f => { f with name := v },
      .required "descriptor" string fun v f => { f with descriptor := v },
      .optional "is_static" bool fun v f => { f with isStatic := v },
      .optional "nullness" nullMark fun v f => { f with mark := v }]⟩

/-- Classes are application classes unless they say otherwise. -/
def classDecl : D ClassDecl :=
  record ⟨"Class", ⟨"", none, [], false, false, true, [], []⟩,
    [.required "name" string fun v c => { c with name := v },
      .optional "super_name" (optional string) fun v c => { c with superName := v },
      .optional "interfaces" (list string) fun v c => { c with interfaces := v },
      .optional "is_interface" bool fun v c => { c with isInterface := v },
      .optional "is_abstract" bool fun v c => { c with isAbstract := v },
      .optional "is_application" bool fun v c => { c with isApplication := v },
      .optional "fields" (list fieldDecl) fun v c => { c with fields := v },
      .optional "methods" (list method) fun v c => { c with methods := v }]⟩

/-- A program. -/
def program : D Program :=
  record ⟨"Program", ⟨[]⟩,
    [.required "classes" (list classDecl) fun v p => { p with classes := v }]⟩

end Format

/-- Reads the program at the start of a text. -/
def Program.read (text : String) : Except Fault Program :=
  TextDecoder.decode Format.program text

end Nullness
