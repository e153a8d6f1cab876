import Nullness.Dataflow
import Nullness.SortedMap

/-!
# Checked calls

A call is checked on an edge when its result has just been compared against null and the edge is the
one on which the result is not null. For every block the analysis finds the names of the calls that
were checked on every path into it; such calls are trusted to return no null again.

* `checkedEdge?`: the call that a block checks at its end, and `checkedEdge?_cases`;
* `CheckedCalls.ofGraph`: the names checked on every path into each block.
-/

namespace Nullness

variable [DescriptorReader]

/-- The kind of edge on which the result of the named call is not null. -/
structure CheckedEdge where
  name : String
  kind : EdgeKind
deriving DecidableEq

/-- Walks backwards over instructions, the last one first, to the one that left the cell `needed`
cells below the top of the stack, and tells whether that is the null constant. The cells are counted
by a machine word. -/
def isNullAt : Nat → List Opcode → Except Error Bool
  | _, [] => .ok false
  | needed, op :: before =>
    match op.effect with
    | .error _ => .ok false
    | .ok effect =>
      if needed < effect.pushes then .ok false
      else if needed = effect.pushes then .ok (op = .constNull)
      else do isNullAt (← word (needed - effect.pushes + effect.pops)) before

/-- The call whose result a reference comparison at the end of a block compares with the null
constant, from the opcodes before the comparison, the last one first. The constant is either on top
of the result or below the arguments of the call. -/
def comparedCall? : List Opcode → Except Error (Option CallSite)
  | .constNull :: .invoke call :: _ => .ok (some call)
  | .invoke call :: before =>
    match (Opcode.invoke call).effect with
    | .error _ => .ok none
    | .ok effect => do
      return if ← isNullAt (2 + effect.pops - effect.pushes) before then some call else none
  | _ => .ok none

/-- The call that a block checks at its end, from its opcodes, the last one first. -/
def checkedEdge? : List Opcode → Except Error (Option CheckedEdge)
  | .ifNull :: .invoke call :: _ => .ok (some ⟨call.name, .fallThrough⟩)
  | .ifNonNull :: .invoke call :: _ => .ok (some ⟨call.name, .branch⟩)
  | .ifRefEq :: before => do
    return (← comparedCall? before).map fun call => ⟨call.name, .fallThrough⟩
  | .ifRefNe :: before => do
    return (← comparedCall? before).map fun call => ⟨call.name, .branch⟩
  | _ => .ok none

/-- The two forms of code whose result a comparison compares with the null constant. -/
theorem comparedCall?_cases {ops : List Opcode} {call : CallSite}
    (h : comparedCall? ops = .ok (some call)) : ∃ before,
      ops = .constNull :: .invoke call :: before ∨
      ops = .invoke call :: before ∧ ∃ effect, (Opcode.invoke call).effect = .ok effect ∧
        isNullAt (2 + effect.pops - effect.pushes) before = .ok true := by
  unfold comparedCall? at h
  split at h
  · cases h
    exact ⟨_, .inl rfl⟩
  · split at h
    · cases h
    · rename_i called before _ effect heffect
      cases hnull : isNullAt (2 + effect.pops - effect.pushes) before with
      | error e =>
          rw [hnull] at h
          cases h
      | ok found =>
          rw [hnull] at h
          cases found with
          | false => cases h
          | true =>
              cases h
              exact ⟨before, .inr ⟨rfl, effect, heffect, hnull⟩⟩
  · cases h

/-- The call that a block checks stands right before a null test, or is compared with null. -/
theorem checkedEdge?_cases {ops : List Opcode} {d : CheckedEdge}
    (h : checkedEdge? ops = .ok (some d)) : ∃ test call before, call.name = d.name ∧
      (ops = test :: .invoke call :: before ∧
          (test = .ifNull ∧ d.kind = .fallThrough ∨ test = .ifNonNull ∧ d.kind = .branch) ∨
        ops = test :: before ∧ comparedCall? before = .ok (some call) ∧
          (test = .ifRefEq ∧ d.kind = .fallThrough ∨ test = .ifRefNe ∧ d.kind = .branch)) := by
  have hmap : ∀ {before : List Opcode} {kind : EdgeKind},
      (do return (← comparedCall? before).map fun call => (⟨call.name, kind⟩ : CheckedEdge)) =
        Except.ok (some d) →
      ∃ call, comparedCall? before = .ok (some call) ∧ call.name = d.name ∧ d.kind = kind := by
    intro before kind hd
    cases hcall : comparedCall? before with
    | error e =>
        rw [hcall] at hd
        cases hd
    | ok found =>
        rw [hcall] at hd
        obtain ⟨call, rfl, rfl⟩ := Option.map_eq_some_iff.1 (Except.ok.inj hd)
        exact ⟨call, rfl, rfl, rfl⟩
  unfold checkedEdge? at h
  split at h
  · cases h
    exact ⟨_, _, _, rfl, .inl ⟨rfl, .inl ⟨rfl, rfl⟩⟩⟩
  · cases h
    exact ⟨_, _, _, rfl, .inl ⟨rfl, .inr ⟨rfl, rfl⟩⟩⟩
  · obtain ⟨call, hcall, hname, hkind⟩ := hmap h
    exact ⟨_, call, _, hname, .inr ⟨rfl, hcall, .inl ⟨rfl, hkind⟩⟩⟩
  · obtain ⟨call, hcall, hname, hkind⟩ := hmap h
    exact ⟨_, call, _, hname, .inr ⟨rfl, hcall, .inr ⟨rfl, hkind⟩⟩⟩
  · cases h

/-- The names of the calls checked on every path, if there is a path. -/
abbrev CheckedNames : Type := Option (SortedSet String)

/-- For every block the names of the calls checked on every path into it. -/
structure CheckedCalls (g : FlowGraph) where
  starts : Vector CheckedNames g.size

namespace CheckedCalls

variable {g : FlowGraph}

/-- The call that a block checks at its end, if the cells can be counted. -/
def checkedAtEnd? (g : FlowGraph) (b : g.Node) : Option CheckedEdge :=
  (checkedEdge? (g.ops b).reverse).toOption.join

theorem checkedAtEnd?_eq_some_iff {b : g.Node} {d : CheckedEdge} :
    checkedAtEnd? g b = some d ↔ checkedEdge? (g.ops b).reverse = .ok (some d) := by
  unfold checkedAtEnd?
  cases checkedEdge? (g.ops b).reverse <;> simp [Except.toOption]

/-- The names of all calls in a graph. -/
def callNames (g : FlowGraph) : SortedSet String :=
  .ofList <| g.code.toList.flatten.filterMap fun i =>
    match i.op with
    | .invoke call => some call.name
    | _ => none

/-- Adds the name of a checked call on the edge that checks it. -/
def refine (e : g.Arc) (d : CheckedEdge) : CheckedNames → CheckedNames
  | none => none
  | some names => some (if e.kind = d.kind then names.add d.name else names)

/-- Of the names checked so far those stay that the joined path has checked as well. -/
def meet : (sofar carried : CheckedNames) → CheckedNames
  | sofar, none => sofar
  | none, some carried => some carried
  | some sofar, some carried => some (SortedSet.inter sofar carried)

/-- The analysis of checked calls. -/
def analysis (g : FlowGraph) : FlowAnalysis g CheckedNames CheckedEdge where
  top := none
  isTop f := f.isNone
  entry := some .empty
  height := (callNames g).size + 2
  step _ _ _ f := .ok f
  decide b _ _ := checkedAtEnd? g b
  refine := refine
  enterHandler _ f := .ok f
  join _ sofar carried := .ok (meet sofar carried)

/-- Looks at the end of every block that the entry leads to, as the first pass does. -/
def countCells (g : FlowGraph) : Except Error Unit :=
  g.reversePostorder.forM fun b => discard (checkedEdge? (g.ops b).reverse)

/-- The calls checked on every path into each block. -/
def ofGraph (g : FlowGraph) : Except Error (CheckedCalls g) := do
  countCells g
  let s ← inContext .checkedCalls (analysis g).execute
  return ⟨.ofFn fun b => s.startFact b⟩

/-- Whether a call of that name was checked on every path into a block that is reached. -/
def contains (t : CheckedCalls g) (b : g.Node) (name : String) : Bool :=
  match t.starts.get b with
  | none => false
  | some names => SortedSet.mem names name

end CheckedCalls

end Nullness
