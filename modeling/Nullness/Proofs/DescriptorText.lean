import Mathlib.Tactic
import Nullness.Descriptor.Reader
import Nullness.Proofs.EntryFrame
import Nullness.Proofs.Explorations
import Nullness.Proofs.Transfer

/-!
# Descriptors as they are written

Parameter types are written one after another without a separator, so each has to show where it ends:
a primitive type is a single letter, a name runs up to its semicolon, and the dimensions of an array
stand in front of its element type. What is read back from a descriptor is then what was written. The
slots of its parameters follow from the widths alone. A `long` or `double` takes two, so all later
parameters move up by one, and no parameter starts at its second slot.

* `MethodDescriptor.WellFormed`: the descriptors that a class file may contain;
* `DescriptorReader.InOrder`: a reader that takes one type after another;
* `DescriptorReader.InOrder.parse_render`: such a reader reads descriptors back;
* `DescriptorReader.inOrder`: the reader from left to right is one;
* `MethodDescriptor.add_slots_le`: each parameter lies behind all slots of those before it;
* `MethodDescriptor.written_descriptor`: **what analyses take from a descriptor is as written.**
-/

namespace Nullness

namespace JvmType

variable {t : JvmType} {rest : List Char}

/-- Whether there are arrays of the type. A name ends at the first semicolon. -/
def isElement : JvmType → Bool
  | .void | .array _ _ => false
  | .object name => !name.contains ';'
  | _ => true

/-- Whether a parameter may have the type. -/
def isValue : JvmType → Bool
  | .array dimensions element =>
    1 ≤ dimensions && dimensions ≤ maxDimensions && element.isElement
  | t => t.isElement

/-- No type starts with the parenthesis that ends the list of parameters. -/
lemma head?_render_ne (h : t.isValue = true) : (t.render ++ rest).head? ≠ some ')' := by
  cases t with
  | array dimensions element =>
      obtain ⟨n, rfl⟩ : ∃ n, dimensions = n + 1 := by
        simp only [isValue, Bool.and_eq_true, decide_eq_true_eq] at h
        exact ⟨_, (Nat.succ_pred_eq_of_pos h.1.1).symm⟩
      simp [render, List.replicate_succ]
  | _ => simp [render]

/-! ### Widths -/

lemma slots_pos (t : JvmType) : 0 < t.slots := by
  cases t <;> exact Nat.succ_pos _

lemma slots_eq (t : JvmType) : t.slots = if t = .long ∨ t = .double then 2 else 1 := by
  cases t <;> simp [slots]

lemma isReference_iff : t.isReference = true ↔
    (∃ name, t = .object name) ∨ ∃ dimensions element, t = .array dimensions element := by
  cases t <;> simp [isReference]

end JvmType

namespace MethodDescriptor

open JvmType

variable {d : MethodDescriptor} {ts : List JvmType} {rest : List Char}

/-- Parameters are values, and only a result may be missing. -/
structure WellFormed (d : MethodDescriptor) : Prop where
  parameters : ∀ t ∈ d.parameters, t.isValue = true
  result : d.result = .void ∨ d.result.isValue = true

end MethodDescriptor

/-! ### Reading a descriptor -/

namespace DescriptorReader

variable {next : List Char → Option (JvmType × List Char)} {text rest : List Char} {t : JvmType}
  {ts : List JvmType}

/-- The types that are one letter each. -/
def letters : List (Char × JvmType) :=
  [('V', .void), ('Z', .boolean), ('B', .byte), ('C', .char), ('S', .short), ('I', .int),
    ('J', .long), ('F', .float), ('D', .double)]

/-- Types are taken off the front of a text one after another, up to a closing parenthesis. -/
inductive Reads (next : List Char → Option (JvmType × List Char)) :
    List Char → List JvmType → List Char → Prop
  | close (rest : List Char) : Reads next (')' :: rest) [] rest
  | type {text after rest : List Char} {t : JvmType} {ts : List JvmType} :
      text.head? ≠ some ')' → next text = some (t, after) → Reads next after ts rest →
      Reads next text (t :: ts) rest

/-- A reader that takes parameter types one after another up to the closing parenthesis, and then
the return type. A type is a letter, a name up to the first semicolon, or an element type behind
some brackets. -/
structure InOrder [DescriptorReader] (next : List Char → Option (JvmType × List Char)) : Prop where
  letter : ∀ x ∈ letters, ∀ rest, next (x.1 :: rest) = some (x.2, rest)
  object {text rest : List Char} : text.dropWhile (· ≠ ';') = ';' :: rest →
    next ('L' :: text) = some (.object (text.takeWhile (· ≠ ';')), rest)
  array {dimensions : Nat} {element : JvmType} {text rest : List Char} :
    1 ≤ dimensions → dimensions ≤ JvmType.maxDimensions → element.isElement = true →
    next text = some (element, rest) →
    next (List.replicate dimensions '[' ++ text) = some (.array dimensions element, rest)
  descriptor {text rest : List Char} {ts : List JvmType} {t : JvmType} :
    Reads next text ts rest → next rest = some (t, []) →
    read (String.ofList ('(' :: text)) = .ok ⟨ts, t⟩

namespace InOrder

variable [DescriptorReader] (h : InOrder next)
include h

/-- A type that is no array is read back, whatever follows it. -/
lemma next_element (ht : t = .void ∨ t.isElement = true) :
    next (t.render ++ rest) = some (t, rest) := by
  cases t with
  | object name =>
      have hsemicolon : ';' ∉ name := by simpa [JvmType.isElement] using ht
      have hname : ∀ c ∈ name, decide (c ≠ ';') = true := fun c hc =>
        decide_eq_true fun heq => hsemicolon (heq ▸ hc)
      have htake : (name ++ ';' :: rest).takeWhile (· ≠ ';') = name := by
        rw [List.takeWhile_append_of_pos hname]
        simp
      have hdrop : (name ++ ';' :: rest).dropWhile (· ≠ ';') = ';' :: rest := by
        rw [List.dropWhile_append_of_pos hname]
        simp
      have htext : (JvmType.object name).render ++ rest = 'L' :: (name ++ ';' :: rest) := by
        simp [JvmType.render]
      rw [htext, h.object hdrop, htake]
  | array dimensions element => exact ht.elim (nomatch ·) (nomatch ·)
  | _ => exact h.letter (_, _) (by decide) rest

/-- A type is read back, whatever follows it. -/
lemma next_render (ht : t = .void ∨ t.isValue = true) :
    next (t.render ++ rest) = some (t, rest) := by
  cases t with
  | array dimensions element =>
      obtain ⟨⟨hpos, hle⟩, helement⟩ : (1 ≤ dimensions ∧ dimensions ≤ JvmType.maxDimensions) ∧
          element.isElement = true := by simpa [JvmType.isValue] using ht
      rw [JvmType.render, List.append_assoc]
      exact h.array hpos hle helement (h.next_element (.inr helement))
  | _ => exact h.next_element ht

/-- The parameter types are read back one after another. -/
lemma reads_render (hts : ∀ t ∈ ts, t.isValue = true) :
    Reads next (ts.flatMap JvmType.render ++ ')' :: rest) ts rest := by
  induction ts with
  | nil => exact .close rest
  | cons t ts ih =>
      rw [List.flatMap_cons, List.append_assoc]
      refine .type ?_ (h.next_render (.inr (hts t List.mem_cons_self)))
        (ih fun t ht => hts t (List.mem_cons_of_mem _ ht))
      exact JvmType.head?_render_ne (hts t List.mem_cons_self)

/-- A descriptor is read back as it was written. -/
theorem parse_render {d : MethodDescriptor} (hd : d.WellFormed) :
    MethodDescriptor.parse (String.ofList d.render) = .ok d := by
  have hresult : next d.result.render = some (d.result, []) := by
    rw [← List.append_nil d.result.render]
    exact h.next_render hd.result
  rw [MethodDescriptor.parse, MethodDescriptor.render, List.cons_append,
    h.descriptor (h.reads_render hd.parameters) hresult]

end InOrder

/-! ### The reader from left to right -/

open JvmType MethodDescriptor

/-- The first type of a text and what follows it. -/
def first? (text : List Char) : Option (JvmType × List Char) :=
  match read? 0 text with
  | .ok (some t, rest) => some (t, rest)
  | _ => none

lemma first?_eq_some_iff : first? text = some (t, rest) ↔ read? 0 text = .ok (some t, rest) := by
  unfold first?
  split
  · next h => simp [h]
  · next h => exact ⟨nofun, fun heq => absurd heq (h t rest)⟩

lemma read?_element {c : Char} (hopen : c ≠ '[') (hclose : c ≠ ')') (brackets : Nat) :
    read? brackets (c :: text) = (readElement c text).map fun read =>
      (some (arrayOf brackets read.1), read.2) := by
  rw [read?.eq_4 _ _ _ hopen hclose]
  cases readElement c text <;> rfl

/-- A type is read behind one more bracket, or is an element type. -/
lemma read?_cases {brackets : Nat} (h : read? brackets text = .ok (some t, rest)) :
    (∃ after, text = '[' :: after ∧ read? (brackets + 1) after = .ok (some t, rest)) ∨
      ∃ c after element, text = c :: after ∧ c ≠ '[' ∧ c ≠ ')' ∧
        readElement c after = .ok (element, rest) ∧ t = arrayOf brackets element := by
  cases text with
  | nil => cases h
  | cons c after =>
      by_cases hopen : c = '['
      · subst hopen
        rw [read?] at h
        split at h
        · exact .inl ⟨after, rfl, h⟩
        · cases h
      by_cases hclose : c = ')'
      · subst hclose
        rw [read?] at h
        split at h <;> cases h
      right
      rw [read?_element hopen hclose] at h
      cases hread : readElement c after with
      | error e =>
          rw [hread] at h
          cases h
      | ok read =>
          rw [hread] at h
          cases h
          exact ⟨c, after, read.1, rfl, hopen, hclose, hread, rfl⟩

/-- What is read behind a bracket is an array. -/
lemma isElement_of_read? : ∀ {text : List Char} {brackets : Nat},
    read? (brackets + 1) text = .ok (some t, rest) → t.isElement = false := by
  intro text
  induction text with
  | nil => exact nofun
  | cons c text ih =>
      intro brackets h
      obtain ⟨after, heq, hread⟩ | ⟨_, _, element, -, -, -, -, rfl⟩ := read?_cases h
      · cases heq
        exact ih hread
      · rfl

/-- An element type is read alike behind any brackets. -/
lemma read?_brackets (h : read? 0 text = .ok (some t, rest)) (ht : t.isElement = true)
    (brackets : Nat) : read? brackets text = .ok (some (arrayOf brackets t), rest) := by
  obtain ⟨after, -, hread⟩ | ⟨c, after, element, rfl, hopen, hclose, hread, rfl⟩ := read?_cases h
  · exact absurd (ht.symm.trans (isElement_of_read? hread)) (by decide)
  · rw [read?_element hopen hclose, hread]
    rfl

lemma read?_replicate (text : List Char) {brackets dimensions : Nat}
    (h : brackets + dimensions ≤ maxDimensions) :
    read? brackets (List.replicate dimensions '[' ++ text) = read? (brackets + dimensions) text := by
  induction dimensions generalizing brackets with
  | zero => rfl
  | succ dimensions ih =>
      rw [List.replicate_succ, List.cons_append, read?, if_pos (by omega), ih (by omega)]
      congr 1
      omega

lemma length_readElement {c : Char} (h : readElement c text = .ok (t, rest)) :
    rest.length ≤ text.length := by
  have hname := (text.dropWhile_sublist (· ≠ ';')).length_le
  unfold readElement at h
  split at h
  case h_10 =>
    split at h
    · cases h
    · next heq =>
      cases h
      rw [heq] at hname
      exact (Nat.le_succ _).trans hname
  all_goals
    cases h
    try exact le_rfl

/-- A type takes a character at least. -/
lemma length_read? : ∀ {text : List Char} {brackets : Nat},
    read? brackets text = .ok (some t, rest) → rest.length < text.length := by
  intro text
  induction text with
  | nil => exact nofun
  | cons c text ih =>
      intro brackets h
      obtain ⟨after, heq, hread⟩ | ⟨_, after, _, heq, -, -, hread, -⟩ := read?_cases h
      · cases heq
        exact (ih hread).trans (Nat.lt_succ_self _)
      · cases heq
        exact Nat.lt_succ_of_le (length_readElement hread)

lemma Reads.length_le (h : Reads first? text ts rest) : ts.length ≤ text.length := by
  induction h with
  | close rest => exact Nat.zero_le _
  | type _ hnext _ ih => exact Nat.lt_of_le_of_lt ih (length_read? (first?_eq_some_iff.1 hnext))

lemma Reads.readParameters (h : Reads first? text ts rest) {bound : Nat}
    (hbound : ts.length < bound) : readParameters bound text = .ok (ts, rest) := by
  induction h generalizing bound with
  | close rest =>
      obtain ⟨bound, rfl⟩ := Nat.exists_eq_succ_of_ne_zero (Nat.ne_of_gt hbound)
      rfl
  | type _ hnext _ ih =>
      obtain ⟨bound, rfl⟩ := Nat.exists_eq_succ_of_ne_zero (Nat.ne_zero_of_lt hbound)
      have hrest := ih (Nat.lt_of_succ_lt_succ hbound)
      rw [MethodDescriptor.readParameters, first?_eq_some_iff.1 hnext]
      simp only [bind, Except.bind, hrest]

/-- **The reader from left to right takes one type after another.** -/
theorem inOrder : InOrder first? where
  letter x hx rest := by
    fin_cases hx <;> rfl
  object h := by
    rw [first?_eq_some_iff, read?_element (by decide) (by decide), readElement, h]
    rfl
  array hpos hle helement h := by
    rw [first?_eq_some_iff, read?_replicate _ (by omega),
      read?_brackets (first?_eq_some_iff.1 h) helement, Nat.zero_add]
    obtain ⟨n, rfl⟩ := Nat.exists_eq_succ_of_ne_zero (Nat.ne_zero_of_lt hpos)
    rfl
  descriptor h hresult := by
    change ofChars (String.ofList _).toList = _
    rw [String.toList_ofList, ofChars]
    have hparameters := h.readParameters (Nat.lt_succ_of_le h.length_le)
    simp only [bind, Except.bind, hparameters, first?_eq_some_iff.1 hresult]

end DescriptorReader

namespace MethodDescriptor

open JvmType

variable {d : MethodDescriptor} {ts : List JvmType} {rest : List Char}

/-! ### Slots -/

lemma le_of_mem_slotsFrom {first slot : Nat} (h : slot ∈ slotsFrom first ts) : first ≤ slot := by
  induction ts generalizing first with
  | nil => cases h
  | cons t ts ih =>
      rcases List.mem_cons.1 h with rfl | h
      · exact le_rfl
      · exact (Nat.le_add_right _ _).trans (ih h)

lemma getElem?_slotsFrom {first i : Nat} (hi : i < ts.length) :
    (slotsFrom first ts)[i]? = some (first + ((ts.take i).map slots).sum) := by
  induction ts generalizing first i with
  | nil => cases hi
  | cons t ts ih =>
      cases i with
      | zero => rfl
      | succ i =>
          rw [slotsFrom, List.getElem?_cons_succ, ih (Nat.lt_of_succ_lt_succ hi),
            List.take_succ_cons, List.map_cons, List.sum_cons, Nat.add_assoc]

/-- A parameter lies behind all slots of those before it. -/
lemma add_slots_le {first i j slot slot' : Nat} {t : JvmType} (hij : i < j) (ht : ts[i]? = some t)
    (hslot : (slotsFrom first ts)[i]? = some slot) (hslot' : (slotsFrom first ts)[j]? = some slot') :
    slot + t.slots ≤ slot' := by
  induction ts generalizing first i j with
  | nil => cases ht
  | cons u ts ih =>
      obtain ⟨j, rfl⟩ := Nat.exists_eq_succ_of_ne_zero (Nat.ne_zero_of_lt hij)
      cases i with
      | zero =>
          obtain rfl := Option.some.inj ht
          obtain rfl := Option.some.inj hslot
          exact le_of_mem_slotsFrom (List.mem_of_getElem? hslot')
      | succ i => exact ih (Nat.lt_of_succ_lt_succ hij) ht hslot hslot'

lemma pairwise_slotsFrom (first : Nat) (ts : List JvmType) :
    (slotsFrom first ts).Pairwise (· < ·) := by
  refine List.pairwise_iff_getElem.2 fun i j hi hj hij => ?_
  have hlt : i < ts.length := length_slotsFrom first ts ▸ hi
  have hgap := add_slots_le hij (List.getElem?_eq_getElem hlt) (List.getElem?_eq_getElem hi)
    (List.getElem?_eq_getElem hj)
  have hpos := slots_pos ts[i]
  omega

/-- No parameter starts at the second slot of another. -/
lemma succ_notMem_slotsFrom {first i slot : Nat} {t : JvmType} (ht : ts[i]? = some t)
    (hwide : t.slots = 2) (hslot : (slotsFrom first ts)[i]? = some slot) :
    slot + 1 ∉ slotsFrom first ts := by
  intro hmem
  obtain ⟨j, hj⟩ := List.mem_iff_getElem?.1 hmem
  rcases Nat.lt_trichotomy i j with hij | rfl | hji
  · have := add_slots_le hij ht hslot hj
    omega
  · rw [hslot, Option.some.injEq] at hj
    omega
  · obtain ⟨u, hu⟩ : ∃ u, ts[j]? = some u :=
      ⟨_, List.getElem?_eq_getElem (hji.trans (List.getElem?_eq_some_iff.1 ht).1)⟩
    have := add_slots_le hji hu hj hslot
    omega

end MethodDescriptor

lemma FlowGraph.Tests.unique {g : FlowGraph} {b : g.Node} {slot slot' : Nat} (h : g.Tests slot b)
    (h' : g.Tests slot' b) : slot = slot' := by
  have loaded : ∀ {slot}, g.Tests slot b → (g.ops b).dropLast.getLast? = some (.load slot) := by
    rintro slot ⟨before, hops | hops⟩
    all_goals
      rw [hops]
      simp
  have hsame := (loaded h).symm.trans (loaded h')
  simpa using hsame

namespace MethodDescriptor

open JvmType

variable {d : MethodDescriptor}

lemma returnKind_eq (d : MethodDescriptor) : d.returnKind =
    if d.result = .void then .void else if d.result.isReference then .reference else .primitive := by
  obtain ⟨parameters, result⟩ := d
  cases result <;> simp [returnKind, isReference]

/-- **What analyses take from a descriptor is as written.** The descriptor is read back. A call with
it has as many parameters as written, takes them and its receiver, and returns what is written. For
static methods and for others the slots of the parameters start behind the receiver, each behind the
widths of those before it, and ascend. The parameter that a block tests is the one whose slot it
tests, and the second slot of a `long` or `double` is no parameter's. References are objects and
arrays. -/
theorem written_descriptor [DescriptorReader]
    {next : List Char → Option (JvmType × List Char)} (hreader : DescriptorReader.InOrder next)
    (hd : d.WellFormed) :
    parse (String.ofList d.render) = .ok d ∧
    (∀ call : CallSite, call.descriptor = String.ofList d.render →
      call.parameterCount = .ok d.parameters.length ∧
      call.consumed = .ok (d.parameters.length + if call.kind = .static then 0 else 1) ∧
      call.returnKind = .ok (if d.result = .void then .void
        else if d.result.isReference then .reference else .primitive)) ∧
    (∀ isStatic : Bool,
      (d.parameterSlots isStatic).length = d.parameters.length ∧
      (∀ i < d.parameters.length, (d.parameterSlots isStatic)[i]? =
        some ((if isStatic then 0 else 1) + ((d.parameters.take i).map
          fun t : JvmType => if t = .long ∨ t = .double then 2 else 1).sum)) ∧
      (d.parameterSlots isStatic).Pairwise (· < ·) ∧
      ∀ (g : FlowGraph) (b : g.Node),
        (∀ i, g.testedParameter? (d.parameterSlots isStatic) b = some i ↔
          ∃ slot, (d.parameterSlots isStatic)[i]? = some slot ∧ g.Tests slot b) ∧
        ∀ (i slot : Nat) (t : JvmType), d.parameters[i]? = some t → t = .long ∨ t = .double →
          (d.parameterSlots isStatic)[i]? = some slot → g.Tests (slot + 1) b →
          g.testedParameter? (d.parameterSlots isStatic) b = none) ∧
    d.referenceParameters.length = d.parameters.length ∧
    (∀ (i : Nat) (t : JvmType), d.parameters[i]? = some t →
      d.referenceParameters[i]? = some t.isReference) ∧
    ∀ t : JvmType, t.isReference = true ↔
      (∃ name, t = .object name) ∨ ∃ dimensions element, t = .array dimensions element := by
  have hparse := hreader.parse_render hd
  refine ⟨hparse, fun call hcall => ?_, fun isStatic => ?_, List.length_map _, fun i t ht => ?_,
    fun t => isReference_iff⟩
  · rw [← hcall] at hparse
    exact ⟨CallSite.parameterCount_eq hparse, CallSite.consumed_eq_ok_iff.2 ⟨d, hparse, rfl⟩,
      (CallSite.returnKind_eq hparse).trans (congrArg _ (returnKind_eq d))⟩
  · have hslots := pairwise_slotsFrom (if isStatic then 0 else 1) d.parameters
    have htested : ∀ {g : FlowGraph} {b : g.Node} {i : Nat},
        g.testedParameter? (d.parameterSlots isStatic) b = some i ↔
          ∃ slot, (d.parameterSlots isStatic)[i]? = some slot ∧ g.Tests slot b :=
      FlowGraph.testedParameter?_iff_of_nodup (hslots.imp ne_of_lt)
    refine ⟨length_slotsFrom _ _, fun i hi => ?_, hslots, fun g b => ⟨fun i => htested, ?_⟩⟩
    · rw [parameterSlots, getElem?_slotsFrom hi, funext slots_eq]
    · intro i slot t ht hwide hslot htests
      refine Option.eq_none_iff_forall_ne_some.2 fun j hj => ?_
      obtain ⟨slot', hslot', htests'⟩ := htested.1 hj
      obtain rfl := htests.unique htests'
      have htwo : t.slots = 2 := by rw [slots_eq, if_pos hwide]
      exact succ_notMem_slotsFrom ht htwo hslot (List.mem_of_getElem? hslot')
  · rw [referenceParameters, List.getElem?_map, ht]
    rfl

/-- A descriptor with wide parameters between and before others. -/
def wideParameters : MethodDescriptor :=
  ⟨[.long, .object "java/lang/String".toList, .double, .array 2 .int], .void⟩

/-- Of an instance method the string is in slot 3, and slot 2 is no parameter's. -/
theorem written_descriptor_wideParameters :
    wideParameters.WellFormed ∧
    parse "(JLjava/lang/String;D[[I)V" = .ok wideParameters ∧
    wideParameters.parameterSlots false = [1, 3, 4, 6] ∧
    (wideParameters.parameterSlots false)[1]? = some 3 ∧
    (CallSite.mk "A" "m" "(JLjava/lang/String;D[[I)V" .virtual).consumed = .ok 5 := by
  have hd : wideParameters.WellFormed := ⟨by decide, .inl rfl⟩
  have htext : String.ofList wideParameters.render = "(JLjava/lang/String;D[[I)V" := by decide
  obtain ⟨hparse, hcalls, hslots, -⟩ := written_descriptor DescriptorReader.inOrder hd
  rw [htext] at hparse hcalls
  obtain ⟨-, hslot, -⟩ := hslots false
  exact ⟨hd, hparse, rfl, hslot 1 (by decide),
    (hcalls ⟨"A", "m", "(JLjava/lang/String;D[[I)V", .virtual⟩ rfl).2.1⟩

end MethodDescriptor

end Nullness
