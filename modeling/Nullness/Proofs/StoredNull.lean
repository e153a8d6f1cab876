import Mathlib.Tactic
import Nullness.Descriptor.Reader
import Nullness.Proofs.Alignment
import Nullness.Proofs.AvailableLoads
import Nullness.Proofs.MergeLabels

/-!
# Null values read back

A value that is stored in a field is known of its class from then on, and the class is available
under the load of the field. Until the next call or write to the heap the load stays available. The
known value of the class stays null: what is known not to be null already is not tightened, reads from
the heap copy what is known of a class, and the results of other instructions are of classes of their
own.

* `ValueFrame.available?_of_keepsHeap`, `NullModel.known_null_apply`: what an instruction keeps of the
  load and of the null value;
* `NullModel.NullLoad.next`, `NullModel.NullLoad.until`: the null value stays under its load;
* `MethodAnalysis.stored_null_read`: **a stored null is read back as null.**
-/

namespace Nullness

/-! ### Labels around an instruction -/

/-- Makes a reference that comes neither from the frame nor from the heap. -/
def Opcode.makesReference : Opcode → Bool
  | .constNull | .constReference | .new _ | .newArray | .multiNewArray _ => true
  | _ => false

namespace ValueFrame

variable {α : Type} [Ord α] [Std.TransOrd α] {f f' : ValueFrame α} {output : Nat → α} {op : Opcode}
  {l : Load α} {label : α}

/-- A reference that is made is a class of its own. -/
lemma topValue?_of_makesReference [DescriptorReader] (hmakes : op.makesReference = true)
    (h : f.step output op = .ok f') : f'.topValue? = some (output 0) := by
  cases step_eq_ok_iff.1 h with
  | plain _ heffect =>
      cases op with
      | constNull | constReference | new | newArray | multiNewArray =>
          obtain rfl := Except.ok.inj heffect
          rfl
      | _ => cases hmakes
  | _ => cases hmakes

/-- The load of the cell that a read of a field finds. -/
def readLoad? (f : ValueFrame α) : Opcode → Option (Load α)
  | .getField field => (f.stackValue? 0).map fun reference => .field (some reference) field
  | .getStatic field => some (.field none field)
  | _ => none

/-- A read gives an available load its label. -/
lemma topValue?_of_read [DescriptorReader] (h : f.step output op = .ok f')
    (hl : f.readLoad? op = some l)
    (hlabel : f.available? l = some label) : f'.topValue? = some label := by
  have read : ∀ {f₀ : ValueFrame α} {fresh}, f₀.loads = f.loads →
      (f₀.readHeap fresh l).topValue? = some label := by
    intro f₀ fresh hloads
    have hfound : f₀.available? l = some label := by rwa [available?, hloads]
    simp [readHeap_eq, hfound, topValue?, stackValue?]
  cases step_eq_ok_iff.1 h with
  | getField hs =>
      simp only [readLoad?, stackValue?, hs, List.getElem?_cons_zero, Option.map_some,
        Option.some.injEq] at hl
      exact hl ▸ read rfl
  | getStatic =>
      obtain rfl := Option.some.inj hl
      exact read rfl
  | plain hplain =>
      cases op with
      | getField | getStatic => cases hplain
      | _ => cases hl
  | _ => cases hl

/-- A store makes the load of its cell available, and tells the label. -/
lemma available?_of_store [DescriptorReader] [Std.LawfulEqOrd α] [DecidableEq α]
    (h : f.step output op = .ok f')
    (hl : f.storedLoad? op = some l) :
    ∃ label, f'.available? l = some label ∧ f.told? f' op = some label := by
  have htold : f.told? f' op = f'.available? l := by
    cases op with
    | putField | putStatic | arrayStore => exact congrArg (·.bind f'.available?) hl
    | _ => cases hl
  rw [htold]
  cases loadsStep_of_step h with
  | kept hkeeps =>
      cases op with
      | putField | putStatic | arrayStore => cases hkeeps
      | _ => cases hl
  | read hkeeps =>
      cases op with
      | putField | putStatic | arrayStore => cases hkeeps
      | _ => cases hl
  | @written f₀ l₀ x _ _ hwritten =>
      refine ⟨x, ?_, ?_⟩
      all_goals rw [← htold, hwritten, available?_writeHeap, if_pos rfl]
  | called hcall =>
      obtain ⟨call, rfl⟩ := hcall
      cases hl

end ValueFrame

namespace NullModel

open Nullness.Frame ValueNumbering

variable {g : FlowGraph} {m : NullModel g} {b : g.Node} {index number : Nat} {op : Opcode}
  {f f' : NullFrame} {v : Nullity}

/-! ### Known null values -/

lemma known_null_tighten (numbers : NumberedFrame) (tightened : Nat)
    (h : f.knownValue? number = some .definitelyNull) :
    (tighten numbers tightened f).knownValue? number = some .definitelyNull := by
  unfold tighten
  split
  · exact h
  · rename_i v hv
    split
    · exact h
    · rename_i hundecided
      have hne : number ≠ tightened := by
        rintro rfl
        obtain rfl := Option.some.inj (h.symm.trans hv)
        exact hundecided rfl
      refine (knownValue?_setKnown f tightened number _).trans ?_
      rw [if_neg hne]
      exact h

lemma Tightened.known_null (h : Tightened f f') (hknown : f.knownValue? number = some .definitelyNull) :
    f'.knownValue? number = some .definitelyNull := by
  induction h with
  | refl => exact hknown
  | tail _ hstep ih =>
      obtain ⟨numbers, tightened, rfl⟩ := hstep
      exact known_null_tighten numbers tightened ih

lemma knownValue?_withResult : (m.withResult b index f v).knownValue? number =
    if m.resultNumber? b index = some number then some v else f.knownValue? number := by
  unfold withResult
  split
  · rename_i hnone
    rw [hnone, if_neg (by simp)]
    rfl
  · rename_i result hresult
    rw [hresult, knownValue?_setKnown]
    simp only [Option.some.injEq, eq_comm]
    rfl

/-- A produced value is of another class, or it is null. -/
lemma known_null_produce (h : Yields (m.produce b index f v) f')
    (hknown : f.knownValue? number = some .definitelyNull)
    (hv : m.resultNumber? b index = some number → v = .definitelyNull) :
    f'.knownValue? number = some .definitelyNull := by
  obtain ⟨-, rfl⟩ := yields_produce.1 h
  rw [knownValue?_withResult]
  split
  · rename_i hresult
    rw [hv hresult]
  · exact hknown

lemma known_null_loadField {isStatic : Bool} {field : FieldRef}
    (h : Yields (m.loadField b index isStatic field f) f')
    (hknown : f.knownValue? number = some .definitelyNull) :
    f'.knownValue? number = some .definitelyNull := by
  have hresult : m.resultNumber? b index = some number →
      m.knownResult? b index f = some .definitelyNull := by
    intro hnumber
    rw [knownResult?, hnumber]
    exact hknown
  obtain ⟨slot, h⟩ := h
  obtain ⟨popped, hpop, ⟨v, h, hv⟩ | ⟨-, h⟩⟩ := loadField_cases h
  · obtain ⟨-, rfl⟩ := popN_eq_ok_iff.1 hpop
    exact known_null_produce ⟨slot, h⟩ hknown fun hnumber => hv _ (hresult hnumber)
  · obtain ⟨-, rfl⟩ := popN_eq_ok_iff.1 hpop
    obtain ⟨pushed, hpush, h⟩ := bind_eq_ok_iff.1 h
    obtain ⟨-, rfl⟩ := push_eq_ok_iff.1 hpush
    obtain rfl := congrArg Modeled.frame (pure_eq_ok_iff.1 h)
    exact hknown

/-- Before it is known that an instruction has completed. -/
lemma known_null_applyOp [DescriptorReader] (h : Yields (m.applyOp b index op f) f')
    (hkeeps : op.keepsHeap = true)
    (hmakes : op.makesReference = true → m.resultNumber? b index ≠ some number)
    (hknown : f.knownValue? number = some .definitelyNull) :
    f'.knownValue? number = some .definitelyNull := by
  have effect : Yields (unremarkable (applyEffect op f)) f' →
      f'.knownValue? number = some .definitelyNull := by
    intro h
    obtain ⟨effect, -, h⟩ := bind_eq_ok_iff.1 (yields_unremarkable.1 h)
    obtain ⟨_, hpop, h⟩ := bind_eq_ok_iff.1 h
    obtain ⟨-, rfl⟩ := popN_eq_ok_iff.1 hpop
    obtain ⟨-, rfl⟩ := pushN_eq_ok_iff.1 h
    exact hknown
  cases op with
  | nop | goto | «return» | checkCast =>
      obtain rfl : f = f' := yields_ok.1 h
      exact hknown
  | constNull | constReference | new =>
      exact known_null_produce h hknown fun hnumber => absurd hnumber (hmakes rfl)
  | newArray | multiNewArray =>
      obtain ⟨popped, hpop, h⟩ := yields_bind.1 h
      obtain ⟨-, rfl⟩ := popN_eq_ok_iff.1 hpop
      exact known_null_produce h hknown fun hnumber => absurd hnumber (hmakes rfl)
  | load | store | pop | dup | dupX1 | swap =>
      rw [knownValue?, (moved_of_yields rfl h).known_eq]
      exact hknown
  | getField | getStatic => exact known_null_loadField h hknown
  | arrayLoad =>
      simp only [applyOp] at h
      split at h
      · rename_i v hv
        obtain ⟨popped, hpop, h⟩ := yields_bind.1 h
        obtain ⟨-, rfl⟩ := popN_eq_ok_iff.1 hpop
        refine known_null_produce h hknown fun hnumber => ?_
        rw [knownResult?, hnumber] at hv
        exact Option.some.inj (hv.symm.trans hknown)
      · exact effect h
  | putField | putStatic | arrayStore | invoke => cases hkeeps
  | _ => exact effect h

lemma afterAssertion_eq (hcall : ∀ call, op ≠ .invoke call) (f : NullFrame) :
    m.afterAssertion op f = f := by
  unfold afterAssertion
  split
  · rename_i call
    exact absurd rfl (hcall call)
  · rfl

/-- An instruction that is not a call leaves the frame of its effect, tightened. -/
lemma apply_eq_ok [DescriptorReader] {out : Modeled} (hcall : ∀ call, op ≠ .invoke call)
    (hvalid : f.valid = true)
    (h : m.apply b index op f = .ok out) :
    ∃ out₀, m.applyOp b index op f = .ok out₀ ∧ Tightened out₀.frame out.frame ∧
      out.newNull = out₀.newNull := by
  obtain ⟨out₀, h₀, rfl⟩ := (apply_eq_ok_iff hvalid).1 h
  refine ⟨out₀, h₀, ?_, rfl⟩
  simp only
  split
  · rw [afterAssertion_eq hcall]
    exact tightened_afterDereference _ _
  · exact .refl

/-- The known value of a class stays null. -/
lemma known_null_apply [DescriptorReader] (hvalid : f.valid = true)
    (h : Yields (m.apply b index op f) f')
    (hkeeps : op.keepsHeap = true)
    (hmakes : op.makesReference = true → m.resultNumber? b index ≠ some number)
    (hknown : f.knownValue? number = some .definitelyNull) :
    f'.knownValue? number = some .definitelyNull := by
  have hcall : ∀ call, op ≠ .invoke call := by
    rintro call rfl
    cases hkeeps
  obtain ⟨slot, h⟩ := h
  obtain ⟨out₀, h₀, htightened, -⟩ := apply_eq_ok hcall hvalid h
  exact htightened.known_null (known_null_applyOp ⟨_, h₀⟩ hkeeps hmakes hknown)

/-! ### Stores and reads -/

/-- A stored null is the known value of the class that the store makes available. -/
lemma known_null_of_store [DescriptorReader] {l : Load Nat} (hvalid : f.valid = true)
    (h : Yields (m.apply b index op f) f') (hstore : m.storedLoad? b index op = some l)
    (hnull : f.topValue = .ok .definitelyNull) (hlearned : m.learned? b index op = some number) :
    f'.knownValue? number = some .definitelyNull := by
  have stored : ∀ {count : Nat} {out₀ : Modeled},
      (unremarkable do
        let stored ← f.topValue
        let f ← f.popN count
        return m.remember b index (m.storedLoad? b index op) stored f) = .ok out₀ →
      m.storedNumber? b index (m.storedLoad? b index op) = some number →
      out₀.frame.knownValue? number = some .definitelyNull := by
    intro count out₀ h₀ hnumber
    obtain ⟨v, hv, h₀⟩ := bind_eq_ok_iff.1 (yields_unremarkable.1 ⟨_, h₀⟩)
    obtain ⟨popped, -, h₀⟩ := bind_eq_ok_iff.1 h₀
    obtain rfl := Except.ok.inj (hnull.symm.trans hv)
    rw [← pure_eq_ok_iff.1 h₀, remember_eq, hnumber, knownValue?_setKnown, if_pos rfl]
  have hcall : ∀ call, op ≠ .invoke call := by
    rintro call rfl
    cases hstore
  obtain ⟨slot, h⟩ := h
  obtain ⟨out₀, h₀, htightened, -⟩ := apply_eq_ok hcall hvalid h
  refine htightened.known_null ?_
  cases op with
  | putField | putStatic | arrayStore => exact stored h₀ hlearned
  | _ => cases hstore

/-- Tightening changes the value on top only if it is undecided. -/
lemma topValue_tighten (numbers : NumberedFrame) (tightened : Nat) (f : NullFrame) :
    (tighten numbers tightened f).topValue = .ok .definitelyNull ↔
      f.topValue = .ok .definitelyNull := by
  have cell : ∀ (p : Prop) [Decidable p] (v : Nullity),
      (if p ∧ v.isUndecided = true then Nullity.nonNullGuarded else v) = .definitelyNull ↔
        v = .definitelyNull := by
    intro p _ v
    split
    · rename_i h
      constructor
      · rintro ⟨⟩
      · rintro rfl
        exact absurd h.2 (by decide)
    · exact Iff.rfl
  have top : ∀ {f₀ : NullFrame}, f₀.topValue = f.topValue →
      ((f₀.mapSlots fun i v => if numbers.slot? i = some tightened && v.isUndecided
        then .nonNullGuarded else v).topValue = .ok .definitelyNull ↔
          f.topValue = .ok .definitelyNull) := by
    intro f₀ hf₀
    rw [← hf₀, topValue_eq_ok_iff, topValue_eq_ok_iff]
    cases hs : f₀.stack with
    | nil => simp [mapSlots, hs]
    | cons v rest => simpa [mapSlots, hs, List.mapIdx_append] using cell _ v
  unfold tighten
  split
  · exact top rfl
  · split
    · exact top rfl
    · exact top rfl

lemma Tightened.topValue (h : Tightened f f') :
    f'.topValue = .ok .definitelyNull ↔ f.topValue = .ok .definitelyNull := by
  induction h with
  | refl => exact Iff.rfl
  | tail _ hstep ih =>
      obtain ⟨numbers, tightened, rfl⟩ := hstep
      exact (topValue_tighten numbers tightened _).trans ih

/-- A produced value is on top, and its slot is reported when it is null. -/
lemma produced {out : Modeled} (h : m.produce b index f v = .ok out) :
    out.frame.valid = f.valid ∧ out.frame.topValue = .ok v ∧
      out.newNull = if v.isDefinitelyNull then some (out.frame.numSlots - 1) else none := by
  obtain ⟨pushed, hpush, h⟩ := bind_eq_ok_iff.1 h
  obtain ⟨-, rfl⟩ := push_eq_ok_iff.1 hpush
  obtain rfl := pure_eq_ok_iff.1 h
  cases m.resultNumber? b index <;> exact ⟨rfl, rfl, rfl⟩

/-- A read of which the result is known to be null makes a null value. -/
lemma null_of_read [DescriptorReader] {out : Modeled} (hvalid : f.valid = true)
    (h : m.apply b index op f = .ok out)
    (hread : ∃ field, op = .getField field ∨ op = .getStatic field)
    (hknown : m.knownResult? b index f = some .definitelyNull) :
    out.frame.topValue = .ok .definitelyNull ∧ out.newNull = some (out.frame.numSlots - 1) := by
  have loaded : ∀ {isStatic : Bool} {field : FieldRef} {out₀ : Modeled},
      m.loadField b index isStatic field f = .ok out₀ →
      out₀.frame.topValue = .ok .definitelyNull ∧ out₀.newNull = some (out₀.frame.numSlots - 1) := by
    intro isStatic field out₀ h₀
    obtain ⟨popped, -, h₀⟩ := bind_eq_ok_iff.1 h₀
    rw [hknown] at h₀
    exact (produced h₀).2
  have hcall : ∀ call, op ≠ .invoke call := by
    rintro call rfl
    obtain ⟨field, h | h⟩ := hread <;> cases h
  obtain ⟨out₀, h₀, htightened, hnew⟩ := apply_eq_ok hcall hvalid h
  obtain ⟨htop, hslot⟩ : out₀.frame.topValue = .ok .definitelyNull ∧
      out₀.newNull = some (out₀.frame.numSlots - 1) := by
    obtain ⟨field, rfl | rfl⟩ := hread
    · exact loaded h₀
    · exact loaded h₀
  refine ⟨htightened.topValue.2 htop, ?_⟩
  rw [hnew, hslot, numSlots, numSlots, htightened.kept.numLocals_eq, htightened.kept.depth_eq]

/-! ### A null value in a field -/

section

variable [DescriptorReader] {entry : NullFrame} {maxStack i j : Nat}
  {sv : Solution g OriginFact Unit} {order : List ValueOrigin}
  {s : Solution g NullFrame (BranchDecision Nullity)} {l : Load ValueOrigin} {label : ValueOrigin}

/-- A store to a field and a read of the field, of objects of one class or static. -/
inductive Rereads (m : NullModel g) (b : g.Node) (i j : Nat) : Opcode → Opcode → Prop
  | object {field : FieldRef} (hsame : m.operand? b i 1 = m.operand? b j 0) :
      Rereads m b i j (.putField field) (.getField field)
  | static {field : FieldRef} : Rereads m b i j (.putStatic field) (.getStatic field)

/-- A load is available at a point of a block, under a label whose class is known to be null. -/
structure NullLoad (m : NullModel g) (entry : NullFrame) (maxStack : Nat)
    (sv : Solution g OriginFact Unit) (order : List ValueOrigin)
    (s : Solution g NullFrame (BranchDecision Nullity)) (b : g.Node) (l : Load ValueOrigin)
    (label : ValueOrigin) (index : Nat) : Prop where
  available : ∀ v, At g entry.numLocals maxStack sv b index v → v.available? l = some label
  known : ((m.analysis entry).factAt s b index).knownValue? (numberOf order label)
    = some .definitelyNull

/-- Where a frame of a block is valid, so are the frames in front of it. -/
lemma valid_of_le (hij : i ≤ j) (hvalid : ((m.analysis entry).factAt s b j).valid = true) :
    ((m.analysis entry).factAt s b i).valid = true := by
  rw [FlowAnalysis.factAt_eq_within, ← isTop_eq_false_iff] at hvalid ⊢
  by_contra htop
  have hlater := (m.analysis entry).within_isTop_mono (Bool.eq_true_of_not_eq_false htop) hij
  rw [hvalid] at hlater
  cases hlater

variable (hn : Numbers m.numbers entry.numLocals maxStack sv order)
  (htrack : m.config.trackValueNumbers = true)

include hn htrack

lemma resultNumber?_eq (hlt : index < (g.instructions b).length) {v : ValueFrame ValueOrigin}
    (hv : At g entry.numLocals maxStack sv b (index + 1) v) :
    m.resultNumber? b index = v.topValue?.map (numberOf order) := by
  rw [resultNumber?, if_pos htrack, ValueTable.factAfter?,
    (hn.factAt?_eq_some_iff hlt).2 ⟨v, hv, rfl⟩]
  simp [ValueFrame.topValue?, ValueFrame.stackValue?, ValueFrame.map]

variable (hstack : entry.stack = []) (hsolve : (m.analysis entry).solve = .ok s)

include hstack hsolve

/-- An instruction keeps a load of null. -/
lemma NullLoad.next {i : Instruction} (h : NullLoad m entry maxStack sv order s b l label index)
    (hi : (g.instructions b)[index]? = some i) (hkeeps : i.op.keepsHeap = true)
    (hvalid : ((m.analysis entry).factAt s b (index + 1)).valid = true) :
    NullLoad m entry maxStack sv order s b l label (index + 1) := by
  have hlt : index < (g.instructions b).length := (List.getElem?_eq_some_iff.1 hi).1
  obtain ⟨v', hv', -⟩ := frame_of_valid hn.solve hstack hsolve hlt hvalid
  obtain ⟨v, hv, hstep⟩ := of_at_succ hi hv'
  have hl := h.available v hv
  refine ⟨fun v'' hv'' => ?_, ?_⟩
  · obtain rfl := hv'.unique hv''
    exact ValueFrame.available?_of_keepsHeap hkeeps hstep hl
  · rw [FlowAnalysis.factAt_eq_within] at hvalid
    obtain ⟨hbefore, hyields⟩ := of_within_succ hi hvalid
    refine known_null_apply hbefore hyields hkeeps (fun hmakes hresult => ?_) h.known
    -- the label would be the one that the instruction gives
    rw [resultNumber?_eq hn htrack hlt hv', ValueFrame.topValue?_of_makesReference hmakes hstep,
      Option.map_some, Option.some.injEq] at hresult
    have hmention := ValueFrame.mem_labels_of_available hl
    obtain rfl := numberOf_injective (hn.mem_order hlt.le hv hmention) hresult.symm
    exact not_mentioned_before hn.solve hlt.le le_rfl hv hmention

/-- The instructions up to a point keep a load of null. -/
lemma NullLoad.until (h : NullLoad m entry maxStack sv order s b l label i) (hij : i ≤ j)
    (hj : j ≤ (g.instructions b).length)
    (hkeeps : ∀ k x, i ≤ k → k < j → (g.instructions b)[k]? = some x → x.op.keepsHeap = true)
    (hvalid : ((m.analysis entry).factAt s b j).valid = true) :
    NullLoad m entry maxStack sv order s b l label j := by
  induction j, hij using Nat.le_induction with
  | base => exact h
  | succ j hij ih =>
      have hget := List.getElem?_eq_getElem (Nat.lt_of_succ_le hj)
      have hload := ih (by omega) (fun k x hik hkj => hkeeps k x hik (by omega))
        (valid_of_le (Nat.le_succ j) hvalid)
      exact hload.next hn htrack hstack hsolve hget (hkeeps j _ hij (Nat.lt_succ_self j) hget) hvalid

/-- Behind a store of null its load is a load of null. -/
lemma nullLoad_of_store {x : Instruction} {v : ValueFrame ValueOrigin}
    (hx : (g.instructions b)[index]? = some x) (hv : At g entry.numLocals maxStack sv b index v)
    (hl : v.storedLoad? x.op = some l)
    (hnull : ((m.analysis entry).factAt s b index).topValue = .ok .definitelyNull)
    (hvalid : ((m.analysis entry).factAt s b (index + 1)).valid = true) :
    ∃ label, NullLoad m entry maxStack sv order s b l label (index + 1) := by
  have hlt : index < (g.instructions b).length := (List.getElem?_eq_some_iff.1 hx).1
  obtain ⟨v', hv', -⟩ := frame_of_valid hn.solve hstack hsolve hlt hvalid
  obtain ⟨v₀, hv₀, hstep⟩ := of_at_succ hx hv'
  obtain rfl := hv.unique hv₀
  obtain ⟨label, hlabel, htold⟩ := ValueFrame.available?_of_store hstep hl
  refine ⟨label, fun v'' hv'' => ?_, ?_⟩
  · obtain rfl := hv'.unique hv''
    exact hlabel
  · rw [FlowAnalysis.factAt_eq_within] at hvalid
    obtain ⟨hbefore, hyields⟩ := of_within_succ hx hvalid
    have hstore : m.storedLoad? b index x.op = some (l.map (numberOf order)) := by
      rw [storedLoad?_numbered hn hlt.le hv, hl]
      rfl
    exact known_null_of_store hbefore hyields hstore hnull
      (learned?_of_told hn htrack hx hv hv' htold)

/-- What is read through a load of null is null. -/
lemma NullLoad.read {x : Instruction} {v : ValueFrame ValueOrigin}
    (h : NullLoad m entry maxStack sv order s b l label index)
    (hx : (g.instructions b)[index]? = some x) (hv : At g entry.numLocals maxStack sv b index v)
    (hl : v.readLoad? x.op = some l)
    (hvalid : ((m.analysis entry).factAt s b (index + 1)).valid = true) :
    ∃ out, m.apply b index x.op ((m.analysis entry).factAt s b index) = .ok out ∧
      out.frame = (m.analysis entry).factAt s b (index + 1) ∧
      out.frame.topValue = .ok .definitelyNull ∧ out.newNull = some (out.frame.numSlots - 1) := by
  have hlt : index < (g.instructions b).length := (List.getElem?_eq_some_iff.1 hx).1
  obtain ⟨v', hv', -⟩ := frame_of_valid hn.solve hstack hsolve hlt hvalid
  obtain ⟨v₀, hv₀, hstep⟩ := of_at_succ hx hv'
  obtain rfl := hv.unique hv₀
  rw [FlowAnalysis.factAt_eq_within] at hvalid
  obtain ⟨hbefore, slot, hout⟩ := of_within_succ hx hvalid
  refine ⟨_, hout, rfl, null_of_read hbefore hout ?_ ?_⟩
  · cases hop : x.op with
    | getField field => exact ⟨field, .inl rfl⟩
    | getStatic field => exact ⟨field, .inr rfl⟩
    | _ =>
        rw [hop] at hl
        cases hl
  · rw [knownResult?, resultNumber?_eq hn htrack hlt hv',
      ValueFrame.topValue?_of_read hstep hl (h.available v hv)]
    exact h.known

omit htrack hstack hsolve in
/-- The two instructions name one load. -/
lemma Rereads.load {store read : Opcode} {v v' w : ValueFrame ValueOrigin} {output : Nat → ValueOrigin}
    (h : Rereads m b i j store read) (hi : i ≤ (g.instructions b).length)
    (hj : j ≤ (g.instructions b).length) (hv : At g entry.numLocals maxStack sv b i v)
    (hw : At g entry.numLocals maxStack sv b j w) (hstep : v.step output store = .ok v') :
    ∃ l, v.storedLoad? store = some l ∧ w.readLoad? read = some l := by
  cases h with
  | static => exact ⟨_, rfl, rfl⟩
  | @object field hsame =>
      simp only [ValueFrame.step, bind_eq_ok_iff, Prod.exists, ValueFrame.pop_eq_ok_iff,
        pure_eq_ok_iff] at hstep
      obtain ⟨_, _, ⟨_, hs, rfl⟩, reference, _, ⟨rest, rfl, rfl⟩, -⟩ := hstep
      have hstored : v.stackValue? 1 = some reference := by simp [ValueFrame.stackValue?, hs]
      rw [operand?_numbered hn hi hv, operand?_numbered hn hj hw, hstored] at hsame
      obtain ⟨label, hlabel, hnumber⟩ := Option.map_eq_some_iff.1 hsame.symm
      obtain rfl := numberOf_injective (hn.mem_order hj hw
        (ValueFrame.mem_labels_of_stack (List.mem_of_getElem? hlabel))) hnumber
      exact ⟨_, congrArg (Option.map _) hstored, congrArg (Option.map _) hlabel⟩

end

end NullModel

namespace MethodAnalysis

open NullModel

variable {ctx : AnalysisContext} {c : ClassDecl} {method : Method} {a : MethodAnalysis}

/-- **A stored null is read back as null.** Between a store of null to a field and a read of the
field, of an object of the same class or static, there is neither a call nor a write to the heap,
and frames are valid up to the read. Then the read leaves a null value and reports its slot. -/
theorem stored_null_read [DescriptorReader] (h : ofMethod ctx c method = .ok a)
    (htrack : ctx.config.trackValueNumbers = true) {b : a.graph.Node} {i j : Nat} (hij : i < j)
    {store read : Instruction} (hi : (a.graph.instructions b)[i]? = some store)
    (hj : (a.graph.instructions b)[j]? = some read)
    (hsame : Rereads a.model b i j store.op read.op)
    (hnull : (a.factAt b i).topValue = .ok .definitelyNull)
    (hkeeps : ∀ k x, i < k → k < j → (a.graph.instructions b)[k]? = some x →
      x.op.keepsHeap = true)
    (hvalid : (a.factAfter b j).valid = true) :
    (a.factAfter b j).topValue = .ok .definitelyNull ∧
      a.newNullSlot? b j = some ((a.factAfter b j).numSlots - 1) := by
  obtain ⟨hconfig, -, hnumbers, hentry, hsolve⟩ := ofMethod_parts h
  obtain ⟨-, hnum, hstack, -, -⟩ := entryFrame_shape hentry
  rw [← hconfig] at htrack
  rw [← hnum] at hnumbers
  obtain ⟨sv, order, hn⟩ := ValueNumbering.numbers_ofGraph hnumbers
  have hlt : j < (a.graph.instructions b).length := (List.getElem?_eq_some_iff.1 hj).1
  have hvalid : ((a.model.analysis a.entry).factAt a.solution b (j + 1)).valid = true := hvalid
  -- the frames of value numbering at both instructions
  obtain ⟨v', hv', -⟩ := frame_of_valid hn.solve hstack hsolve (hij.trans hlt)
    (valid_of_le (show i + 1 ≤ j + 1 by omega) hvalid)
  obtain ⟨v, hv, hstep⟩ := ValueNumbering.of_at_succ hi hv'
  obtain ⟨w, hw, -⟩ := frame_of_valid hn.solve hstack hsolve hlt.le
    (valid_of_le (Nat.le_succ j) hvalid)
  obtain ⟨l, hstored, hread⟩ := hsame.load hn (hij.trans hlt).le hlt.le hv hw hstep
  obtain ⟨label, hload⟩ := nullLoad_of_store hn htrack hstack hsolve hi hv hstored hnull
    (valid_of_le (show i + 1 ≤ j + 1 by omega) hvalid)
  have hload := hload.until hn htrack hstack hsolve hij hlt.le hkeeps
    (valid_of_le (Nat.le_succ j) hvalid)
  obtain ⟨out, hout, hframe, htop, hnew⟩ := hload.read hn htrack hstack hsolve hj hw hread hvalid
  have hafter : out.frame = a.factAfter b j := hframe
  rw [hafter] at htop hnew
  refine ⟨htop, ?_⟩
  have happly : a.model.apply b j read.op (a.factAt b j) = .ok out := hout
  rw [newNullSlot?, hj, Option.bind_some, happly]
  exact hnew

/-- A method that stores null in a field of its parameter and reads the field, until it finds no
null there. -/
def clearing : Method where
  name := "m"
  descriptor := "(LA;)V"
  isPublic := true
  isStatic := true
  isAbstract := false
  returnMark := .unknown
  parameterMarks := []
  maxLocals := 1
  maxStack := 2
  body := some {
    entry := 0
    exit := 1
    blocks := [⟨0, [⟨0, .load 0⟩, ⟨1, .constNull⟩, ⟨2, .putField ⟨"A", "f", "LA;"⟩⟩, ⟨3, .load 0⟩,
      ⟨4, .getField ⟨"A", "f", "LA;"⟩⟩, ⟨5, .ifNull⟩]⟩, ⟨1, []⟩]
    edges := [⟨0, 0, .branch⟩, ⟨0, 1, .fallThrough⟩] }
  dereferencedParameters := []

/-- The analysis of the method. -/
def clearingAnalysis : MethodAnalysis :=
  (ofMethod shortcutContext shortcutClass clearing).toOption.get (by decide +kernel)

/-- In the loop the field is found to be null. -/
theorem stored_null_read_clearing :
    ofMethod shortcutContext shortcutClass clearing = .ok clearingAnalysis ∧
      (clearingAnalysis.factAt clearingAnalysis.graph.entry 2).topValue = .ok .definitelyNull ∧
      (clearingAnalysis.factAfter clearingAnalysis.graph.entry 4).topValue = .ok .definitelyNull ∧
      clearingAnalysis.newNullSlot? clearingAnalysis.graph.entry 4
        = some ((clearingAnalysis.factAfter clearingAnalysis.graph.entry 4).numSlots - 1) := by
  have h : ofMethod shortcutContext shortcutClass clearing = .ok clearingAnalysis :=
    eq_ok_get (by decide +kernel)
  have hnull : (clearingAnalysis.factAt clearingAnalysis.graph.entry 2).topValue
      = .ok .definitelyNull := by decide +kernel
  have hsame : Rereads clearingAnalysis.model clearingAnalysis.graph.entry 2 4
      (.putField ⟨"A", "f", "LA;"⟩) (.getField ⟨"A", "f", "LA;"⟩) := .object (by decide +kernel)
  have hstore : (clearingAnalysis.graph.instructions clearingAnalysis.graph.entry)[2]?
      = some ⟨2, .putField ⟨"A", "f", "LA;"⟩⟩ := by decide +kernel
  have hloaded : (clearingAnalysis.graph.instructions clearingAnalysis.graph.entry)[3]?
      = some ⟨3, .load 0⟩ := by decide +kernel
  have hread : (clearingAnalysis.graph.instructions clearingAnalysis.graph.entry)[4]?
      = some ⟨4, .getField ⟨"A", "f", "LA;"⟩⟩ := by decide +kernel
  refine ⟨h, hnull, stored_null_read h (by decide +kernel) (by decide) hstore hread hsame hnull
    (fun k x hk hk' hx => ?_) (by decide +kernel)⟩
  obtain rfl : k = 3 := by omega
  obtain rfl := Option.some.inj (hloaded.symm.trans hx)
  rfl

end MethodAnalysis

end Nullness
