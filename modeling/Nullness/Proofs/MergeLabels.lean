import Mathlib.Tactic
import Nullness.Proofs.NumberedDepths

/-!
# Labels of meeting points and of results

A label that a block has given to one of its slots where frames met is mentioned only where a path
leads through the block. So a path that brings it back to the block has been there before, and the
first path to a block brings none of its labels. The frame at the start of a block hence labels two
slots alike only if all frames that arrive there do. Likewise the label of a result is mentioned only
where a path has come through the instruction, and so not in front of the instruction in its block.

* `ValueNumbering.early_of_merge`: a path through a block lies behind each mention of its labels;
* `ValueNumbering.not_stray_merge`: **the labels of a block are not stray at its start**;
* `ValueNumbering.Joined.slots_congr`: slots that are labelled alike at the start of a block are
  labelled alike in all frames that arrive;
* `ValueNumbering.not_mentioned_before`: **the label of a result is not mentioned in front of it.**
-/

namespace Nullness

namespace ValueNumbering

open FlowGraph

/-! ### Slots that are labelled alike -/

/-- Slots that are labelled alike at the start of a block are labelled alike in a frame that
arrives there. -/
lemma Joined.slots_congr {block : Nat} {f f' : ValueFrame ValueOrigin} (h : Joined block f f')
    (hstray : ∀ slot, ¬ StrayIn block f' (.merge block slot)) {i j : Nat} (hi : i < f'.numSlots)
    (hij : f'.slots[i]? = f'.slots[j]?) : f.slots[i]? = f.slots[j]? := by
  obtain ⟨a, ha⟩ := ValueFrame.exists_label hi
  have ha' : f'.slots[j]? = some a := hij ▸ ha
  -- the label of a slot is stray in any other one
  by_cases heq : i = j
  · rw [heq]
  have hne : a ≠ .merge block i := by
    rintro rfl
    exact hstray i (.inl ⟨j, ha', by simpa using heq⟩)
  have hne' : a ≠ .merge block j := by
    rintro rfl
    exact hstray j (.inl ⟨i, ha, by simpa using Ne.symm heq⟩)
  rw [(h.slots i a ha).resolve_right hne, (h.slots j a ha').resolve_right hne']

section

variable [DescriptorReader] {g : FlowGraph} {numLocals maxStack n index depth : Nat} {b : g.Node}
  {s : Solution g OriginFact Unit} {f : ValueFrame ValueOrigin} {block slot : Nat}

/-! ### Within a block -/

/-- Within a block only results get labels. -/
lemma born_or_within {start : OriginFact} {a : ValueOrigin}
    (hindex : index ≤ (g.instructions b).length)
    (hf : (analysis g numLocals maxStack).within b start index = some f) (ha : a ∈ f.labels) :
    (∃ k < index, ∃ output, a = .produced b k output) ∨ ∃ f₀, start = some f₀ ∧ a ∈ f₀.labels := by
  induction index generalizing f with
  | zero => exact .inr ⟨f, hf, ha⟩
  | succ index ih =>
      obtain ⟨f₀, hf₀, hstep⟩ := of_within_succ (List.getElem?_eq_getElem hindex) hf
      rcases ValueFrame.labels_step hstep a ha with hold | ⟨output, hfresh⟩
      · exact (ih (by omega) hf₀ hold).imp_left fun ⟨k, hk, hborn⟩ => ⟨k, by omega, hborn⟩
      · exact .inl ⟨index, Nat.lt_succ_self index, output, hfresh⟩

lemma born_or_start {a : ValueOrigin} (hindex : index ≤ (g.instructions b).length)
    (hf : At g numLocals maxStack s b index f) (ha : a ∈ f.labels) :
    (∃ k < index, ∃ output, a = .produced b k output) ∨
      ∃ f₀, At g numLocals maxStack s b 0 f₀ ∧ a ∈ f₀.labels :=
  born_or_within hindex hf ha

/-- Within a block no meeting gets a label. -/
lemma merge_start (hindex : index ≤ (g.instructions b).length)
    (hf : At g numLocals maxStack s b index f) (hmerge : .merge block slot ∈ f.labels) :
    ∃ f₀, At g numLocals maxStack s b 0 f₀ ∧ .merge block slot ∈ f₀.labels := by
  rcases born_or_start hindex hf hmerge with ⟨_, -, _, hfresh⟩ | hstart
  · cases hfresh
  · exact hstart

/-! ### Along an edge -/

omit [DescriptorReader] in
/-- A handler receives its exception, and of the frame only what it keeps. -/
lemma labels_handlerFrame {handler : Nat} {x : ValueFrame ValueOrigin} {a : ValueOrigin}
    (h : a ∈ (handlerFrame handler x).labels) : a ∈ x.labels ∨ a = .handler handler := by
  rcases ValueFrame.mem_labels.1 h with hlocal | hstack | hload
  · exact .inl (ValueFrame.mem_labels.2 (.inl hlocal))
  · exact .inr (List.mem_singleton.1 hstack)
  · exact .inl (ValueFrame.mem_labels.2 (.inr (.inr hload)))

/-- An edge brings a frame of its source, or the frame with which a handler is entered from there.
-/
lemma exists_within_of_brings {t : FactTable g OriginFact Unit}
    (hcons : (analysis g numLocals maxStack).Consistent t) {e : g.Arc} {u : OriginFact}
    (h : (analysis g numLocals maxStack).Brings t e u) :
    ∃ index ≤ (g.instructions e.source).length, ∃ x,
      (analysis g numLocals maxStack).within e.source (t.get e.source).start index = some x ∧
      (u = some x ∨ e.kind.isException = true ∧ u = some (handlerFrame e.target x)) := by
  cases h with
  | normal hkind hcarried =>
      rw [carried?_eq hcons, Option.map_eq_some_iff] at hcarried
      obtain ⟨x, hx, rfl⟩ := hcarried
      exact ⟨_, le_rfl, x, (hcons.result e.source).symm.trans hx, .inl rfl⟩
  | @thrown x hkind hx htop henter _ =>
      obtain ⟨index, hindex, rfl⟩ := hcons.thrown hx
      obtain ⟨x, hx⟩ := isTop_eq_false_iff.1 htop
      rw [hx] at henter
      exact ⟨index, hindex, x, hx, .inr ⟨hkind, (Except.ok.inj henter).symm⟩⟩

/-- What is mentioned in a fact that an edge brings is mentioned at a point of its source, unless it
is the exception that a handler receives. -/
lemma mentioned_of_brings {t : FactTable g OriginFact Unit}
    (hcons : (analysis g numLocals maxStack).Consistent t) {e : g.Arc} {u : ValueFrame ValueOrigin}
    (h : (analysis g numLocals maxStack).Brings t e (some u)) {a : ValueOrigin} (ha : a ∈ u.labels)
    (hhandler : ∀ handler, a ≠ .handler handler) :
    ∃ index ≤ (g.instructions e.source).length, ∃ x,
      (analysis g numLocals maxStack).within e.source (t.get e.source).start index = some x ∧
      a ∈ x.labels := by
  obtain ⟨index, hindex, x, hx, hu⟩ := exists_within_of_brings hcons h
  refine ⟨index, hindex, x, hx, ?_⟩
  rcases hu with hu | ⟨-, hu⟩
  · exact Option.some.inj hu ▸ ha
  · obtain rfl := Option.some.inj hu
    exact (labels_handlerFrame ha).resolve_right (hhandler _)

/-- The label of a meeting that an edge brings is mentioned at the start of its source. -/
lemma merge_of_brings {t : FactTable g OriginFact Unit}
    (hcons : (analysis g numLocals maxStack).Consistent t) {e : g.Arc} {u : ValueFrame ValueOrigin}
    (h : (analysis g numLocals maxStack).Brings t e (some u))
    (hmerge : .merge block slot ∈ u.labels) :
    ∃ x, (t.get e.source).start = some x ∧ .merge block slot ∈ x.labels := by
  obtain ⟨index, hindex, x, hx, hmention⟩ := mentioned_of_brings hcons h hmerge (by simp)
  rcases born_or_within hindex hx hmention with ⟨_, -, _, hborn⟩ | hstart
  · cases hborn
  · exact hstart

/-! ### Along a path -/

variable (hsolve : (analysis g numLocals maxStack).solve = .ok s)

include hsolve

/-- What is stray at the start of a block has come along the last edge, unless it is a label that
the entry or a handler gives. -/
lemma source_of_stray {a : ValueOrigin} (h : g.Arrives numLocals n b 0 depth)
    (hf : At g numLocals maxStack s b 0 f) (hentry : ∀ slot, a ≠ .entry slot)
    (hhandler : ∀ handler, a ≠ .handler handler) (hstray : StrayIn b f a) :
    ∃ k source d index x, n = k + 1 ∧ g.Arrives numLocals k source 0 d ∧
      index ≤ (g.instructions source).length ∧ At g numLocals maxStack s source index x ∧
      a ∈ x.labels := by
  rcases last_arrival hsolve h with rfl | ⟨e, he, rfl, k, d, u, rfl, hsource, hbrings⟩
  · obtain ⟨f', hf', hjoined⟩ := at_entry hsolve
    obtain rfl : f = f' := hf.unique hf'
    obtain ⟨slot, hslot⟩ := labels_entryFrame (hjoined.stray hstray)
    exact absurd hslot (hentry slot)
  · obtain ⟨_, f', ⟨⟩, hf', hjoined⟩ := FlowAnalysis.flow_bound pointInvariant_wellShaped
      joinBound_joined rfl hsolve he hsource.reachable hbrings
    obtain rfl : f = f' := hf.unique hf'
    obtain ⟨index, hindex, x, hx, hmention⟩ := mentioned_of_brings
      (FlowAnalysis.solve_consistent rfl hsolve) hbrings (hjoined.stray hstray) hhandler
    exact ⟨k, e.source, d, index, x, rfl, hsource, hindex, hx, hmention⟩

/-- A label of a meeting that is stray at the start of a block has come along the last edge. -/
lemma stray_source (h : g.Arrives numLocals n b 0 depth) (hf : At g numLocals maxStack s b 0 f)
    (hstray : StrayIn b f (.merge block slot)) :
    ∃ k source d x, n = k + 1 ∧ g.Arrives numLocals k source 0 d ∧
      At g numLocals maxStack s source 0 x ∧ .merge block slot ∈ x.labels := by
  obtain ⟨k, source, d, index, x, hn, hsource, hindex, hx, hmention⟩ :=
    source_of_stray hsolve h hf (fun _ => by simp) (fun _ => by simp) hstray
  obtain ⟨x₀, hx₀, hmention₀⟩ := merge_start hindex hx hmention
  exact ⟨k, source, d, x₀, hn, hsource, hx₀, hmention₀⟩

/-- **The label of a meeting is mentioned only behind a path through its block.** -/
theorem early_of_merge (h : g.Arrives numLocals n b 0 depth) (hf : At g numLocals maxStack s b 0 f)
    (hmerge : .merge block slot ∈ f.labels) :
    ∃ c : g.Node, c = block ∧ g.Early numLocals n c := by
  induction n using Nat.strong_induction_on generalizing b depth f with
  | _ n ih =>
    rcases stray_or_merge b hmerge with hstray | ⟨_, hown⟩
    · obtain ⟨k, source, d, x, rfl, hsource, hx, hmention⟩ := stray_source hsolve h hf hstray
      obtain ⟨c, hc, m, hm, hpath⟩ := ih k (Nat.lt_succ_self k) hsource hx hmention
      exact ⟨c, hc, m, hm.trans (Nat.le_succ k), hpath⟩
    · obtain ⟨rfl, -⟩ := ValueOrigin.merge.inj hown
      exact ⟨b, rfl, n, le_rfl, depth, h⟩

/-- **The labels of a block are not stray at its start.** -/
theorem not_stray_merge (h : g.Arrives numLocals n b 0 depth)
    (hf : At g numLocals maxStack s b 0 f) : ¬ StrayIn b f (.merge b slot) := by
  induction n using Nat.strong_induction_on generalizing depth with
  | _ n ih =>
    intro hstray
    -- a path with fewer edges has been here before
    obtain ⟨k, source, d, x, rfl, hsource, hx, hmention⟩ := stray_source hsolve h hf hstray
    obtain ⟨c, hc, m, hm, _, hpath⟩ := early_of_merge hsolve hsource hx hmention
    obtain rfl := Fin.ext hc
    exact ih m (Nat.lt_succ_of_le hm) hpath hstray

/-! ### Results -/

/-- Where the label of a result is mentioned at the start of a block, a path with fewer edges leads
to the block of the instruction. -/
lemma earlier_of_produced {k output : Nat} (h : g.Arrives numLocals n b 0 depth)
    (hf : At g numLocals maxStack s b 0 f) (ha : .produced block k output ∈ f.labels) :
    ∃ c : g.Node, c = block ∧ ∃ m < n, ∃ d, g.Arrives numLocals m c 0 d := by
  induction n using Nat.strong_induction_on generalizing b depth f with
  | _ n ih =>
    have hstray : StrayIn b f (.produced block k output) :=
      (stray_or_merge b ha).resolve_right (by simp)
    obtain ⟨n', source, d, index, x, rfl, hsource, hindex, hx, hmention⟩ :=
      source_of_stray hsolve h hf (by simp) (by simp) hstray
    rcases born_or_start hindex hx hmention with ⟨k', -, output', hborn⟩ | ⟨x₀, hx₀, hstart⟩
    · obtain ⟨rfl, -⟩ := ValueOrigin.produced.inj hborn
      exact ⟨source, rfl, n', Nat.lt_succ_self n', d, hsource⟩
    · obtain ⟨c, hc, m, hm, hpath⟩ := ih n' (Nat.lt_succ_self n') hsource hx₀ hstart
      exact ⟨c, hc, m, hm.trans (Nat.lt_succ_self n'), hpath⟩

/-- **The label of a result is not mentioned in front of the instruction.** -/
theorem not_mentioned_before {k output : Nat} (hindex : index ≤ (g.instructions b).length)
    (hk : index ≤ k) (hf : At g numLocals maxStack s b index f) :
    .produced b k output ∉ f.labels := by
  intro ha
  rcases born_or_start hindex hf ha with ⟨k', hlt, output', hborn⟩ | ⟨f₀, hf₀, hstart⟩
  · obtain ⟨-, rfl, -⟩ := ValueOrigin.produced.inj hborn
    omega
  · obtain ⟨-, n, harrives⟩ := arrives_of_frame hsolve (Nat.zero_le _) hf₀
    generalize f₀.depth = depth at harrives
    -- each path to the block would need one with fewer edges
    induction n using Nat.strong_induction_on generalizing depth with
    | _ n ih =>
      obtain ⟨c, hc, m, hm, d, hpath⟩ := earlier_of_produced hsolve harrives hf₀ hstart
      obtain rfl := Fin.ext hc
      exact ih m hm d hpath

end

end ValueNumbering

end Nullness
