import Mathlib.Tactic
import Nullness.Proofs.Passes
import Nullness.Proofs.StackDepth
import Nullness.Proofs.ValueNumbering

/-!
# Stack depths in value numbering

The frames of value numbering are as deep as the paths that lead to them bring them, so a method is
refused exactly when its paths disagree.

* `ValueNumbering.arrives_of_frame`, `ValueNumbering.frame_of_arrives`: where there is a frame a path
  leads there, and the other way round;
* `ValueNumbering.slotCountsDiffer_iff`: **frames of different size meet exactly when paths to a block
  disagree in their depth.**
-/

namespace Nullness

namespace ValueNumbering

open FlowGraph

variable [DescriptorReader] {g : FlowGraph} {numLocals maxStack n : Nat} {b : g.Node}
  {index depth : Nat}

/-! ### From frames to paths -/

/-- A fact is a frame that is as deep as some path makes it. -/
def Arrived (numLocals : Nat) (b : g.Node) (index : Nat) (f : OriginFact) : Prop :=
  ∃ v, f = some v ∧ v.numLocals = numLocals ∧ ∃ n, g.Arrives numLocals n b index v.depth

lemma pointInvariant_arrived :
    (analysis g numLocals maxStack).PointInvariant (Arrived numLocals) where
  entry := ⟨_, rfl, by simp [entryFrame, ValueFrame.numLocals], 0, .entry⟩
  step := by
    rintro b index i _ f' hi - ⟨v, rfl, hv, n, harrives⟩ hstep -
    obtain ⟨v', hv', rfl⟩ : ∃ v', v.step (.produced b index) i.op = .ok v' ∧ some v' = f' := by
      cases h : v.step (.produced b index) i.op with
      | error e => simp [analysis, h, Except.map] at hstep
      | ok v' => exact ⟨v', rfl, by simpa [analysis, h, Except.map] using hstep⟩
    obtain ⟨effect, hshape⟩ := ValueFrame.step_shaped hv'
    refine ⟨v', rfl, hshape.numLocals_eq.trans hv, n, ?_⟩
    have hfits : i.op.Fits numLocals v.depth effect := hv ▸ hshape.fits
    have hdepth : v'.depth = v.depth - effect.pops + effect.pushes := by
      have hpops := hfits.pops_le
      have heq := hshape.depth_eq
      omega
    exact hdepth ▸ harrives.step hi hfits
  flow := by
    rintro e _ he hkind - ⟨v, rfl, hv, n, harrives⟩
    exact ⟨v, rfl, hv, n + 1, .jump harrives he hkind⟩
  refine := by
    rintro e _ _ he hkind - ⟨v, rfl, hv, n, harrives⟩ -
    exact ⟨v, rfl, hv, n + 1, .jump harrives he hkind⟩
  handler := by
    rintro e index _ f' he hkind - ⟨v, rfl, hv, n, harrives⟩ henter -
    obtain rfl : some (handlerFrame e.target v) = f' := by simpa [analysis] using henter
    obtain ⟨_, hstart⟩ := harrives.start
    exact ⟨_, rfl, hv, n + 1, .throw hstart he hkind⟩
  join := by
    intro e sofar f f' _ hsofar hf hjoin htop
    rcases meetFacts_eq_ok hjoin with ⟨rfl, rfl⟩ | ⟨rfl, rfl⟩ | ⟨u, v, w, rfl, rfl, rfl, hmeet⟩
    · exact hsofar htop
    · exact hf htop
    · obtain ⟨_, ⟨⟩, hu, n, harrives⟩ := hsofar rfl
      obtain ⟨_, ⟨⟩, hv, -⟩ := hf rfl
      have hjoined := (meetFrames_joined (hu.trans hv.symm) hmeet).1
      exact ⟨w, rfl, hjoined.numLocals_eq.trans hu, n, hjoined.depth_eq ▸ harrives⟩

variable {s : Solution g OriginFact Unit}

/-- Where there is a frame a path leads there. -/
lemma arrives_of_frame (hsolve : (analysis g numLocals maxStack).solve = .ok s)
    (hindex : index ≤ (g.instructions b).length) {f : ValueFrame ValueOrigin}
    (hf : At g numLocals maxStack s b index f) :
    f.numLocals = numLocals ∧ ∃ n, g.Arrives numLocals n b index f.depth := by
  have hlive := FlowAnalysis.solve_live pointInvariant_arrived rfl hsolve b index hindex
    (isTop_eq_false_iff.2 ⟨f, hf⟩)
  obtain ⟨_, hf', hnum, harrives⟩ := hlive
  obtain rfl := Option.some.inj (hf.symm.trans hf')
  exact ⟨hnum, harrives⟩

/-! ### From paths to frames -/

/-- After so many passes, every shorter path has brought its frame to a block. -/
def Met (numLocals n : Nat) (b : g.Node) (f : OriginFact) : Prop :=
  ∀ m < n, ∀ depth, g.Arrives numLocals m b 0 depth → ∃ v, f = some v ∧ v.depth = depth

/-- What has been brought to the start of a block gets to all points in it. -/
lemma Met.within {start : OriginFact} (hstart : Met numLocals n b start)
    (hshape : ∀ v, start = some v → v.numLocals = numLocals) {m : Nat} (hm : m < n)
    (h : g.Arrives numLocals m b index depth) :
    ∃ v, (analysis g numLocals maxStack).within b start index = some v ∧
      v.numLocals = numLocals ∧ v.depth = depth := by
  induction index generalizing depth with
  | zero =>
      obtain ⟨v, rfl, hv⟩ := hstart m hm depth h
      exact ⟨v, FlowAnalysis.within_zero _ b _, hshape v rfl, hv⟩
  | succ index ih =>
      obtain ⟨i, effect, depth, hi, hfits, hbefore, rfl⟩ := h.of_succ
      obtain ⟨v, hv, hnum, rfl⟩ := ih hbefore
      have hfits' : i.op.Fits v.numLocals v.depth effect := hnum ▸ hfits
      obtain ⟨v', hstep⟩ : ∃ v', v.step (.produced b index) i.op = .ok v' :=
        ValueFrame.step_succeeds hfits'
      obtain ⟨effect', hshaped⟩ := ValueFrame.step_shaped hstep
      obtain rfl := Except.ok.inj (hfits.effect_eq.symm.trans hshaped.fits.effect_eq)
      refine ⟨v', within_step hi hv hstep, hshaped.numLocals_eq.trans hnum, ?_⟩
      have hdepth := hshaped.depth_eq
      have hpops := hfits.pops_le
      omega

lemma progress_met :
    (analysis g numLocals maxStack).Progress (WellShaped numLocals) (Met numLocals) where
  nothing b f m hm := absurd hm (Nat.not_lt_zero m)
  weaken h m hm := h m (Nat.lt_succ_of_lt hm)
  unreachable hb m _ depth h := absurd h.reachable hb
  visit := by
    intro n t b start hcons hlive hall hstart m hm depth harrives
    have hbounded := pointInvariant_wellShaped.start_of joinBound_joined rfl hcons hlive hstart
    have hshape : ∀ c v, (t.get c).start = some v → v.numLocals = numLocals := by
      intro c v hv
      obtain ⟨_, hv', hnum⟩ := hlive c 0 (Nat.zero_le _)
        (by rw [FlowAnalysis.within_zero, hv]; rfl)
      rw [FlowAnalysis.within_zero, hv] at hv'
      exact Option.some.inj hv' ▸ hnum
    have hbrought : ∀ v : ValueFrame ValueOrigin, ∀ e ∈ g.edges, e.target = b →
        (analysis g numLocals maxStack).Brings t e (some v) →
        ∃ v', start = some v' ∧ v'.depth = v.depth := by
      intro v e he ht hbrings
      obtain ⟨_, v', ⟨⟩, hv', hjoined⟩ := hbounded.arrive _ ⟨e, he, ht, hbrings⟩
      exact ⟨v', hv', hjoined.depth_eq⟩
    cases harrives with
    | entry =>
        obtain ⟨_, v', ⟨⟩, hv', hjoined⟩ := hbounded.stay (some (entryFrame numLocals))
          (by rw [FlowAnalysis.initial, if_pos rfl]; exact ⟨_, _, rfl, rfl, .refl _ _⟩)
        exact ⟨v', hv', hjoined.depth_eq⟩
    | @jump m e depth hsource he hkind =>
        obtain ⟨v, hv, -, rfl⟩ :=
          (hall e.source).within (hshape e.source) (Nat.lt_of_succ_lt_succ hm) hsource
        exact hbrought v e he rfl (brings_result hcons hkind hv)
    | @throw m e depth hsource he hkind =>
        obtain ⟨v, hv, -⟩ := hall e.source m (Nat.lt_of_succ_lt_succ hm) depth hsource
        obtain ⟨x, hx⟩ := exists_thrown_frame hcons hv
        exact hbrought (handlerFrame e.target x) e he rfl (.thrown hkind hx rfl rfl rfl)

/-- Where a path leads there is a frame. -/
lemma frame_of_arrives (hsolve : (analysis g numLocals maxStack).solve = .ok s)
    (h : g.Arrives numLocals n b index depth) :
    ∃ f, At g numLocals maxStack s b index f ∧ f.numLocals = numLocals ∧ f.depth = depth := by
  have hmet := progress_met.solved pointInvariant_wellShaped rfl hsolve (n + 1) b
  refine hmet.within (fun v hv => ?_) (Nat.lt_succ_self n) h
  have hstart : At g numLocals maxStack s b 0 v := by
    rw [At, FlowAnalysis.factAt_eq_within, FlowAnalysis.within_zero, hv]
  exact (arrives_of_frame hsolve (Nat.zero_le _) hstart).1

/-- A path to a block leads to the entry, or its last edge brings a frame. -/
lemma last_arrival (hsolve : (analysis g numLocals maxStack).solve = .ok s)
    (h : g.Arrives numLocals n b 0 depth) :
    b = g.entry ∨ ∃ e ∈ g.edges, e.target = b ∧ ∃ k d u, n = k + 1 ∧
      g.Arrives numLocals k e.source 0 d ∧
      (analysis g numLocals maxStack).Brings s.table e (some u) := by
  have hcons := FlowAnalysis.solve_consistent rfl hsolve
  cases h with
  | entry => exact .inl rfl
  | @jump k e d hsource he hkind =>
      obtain ⟨x, hx, -⟩ := frame_of_arrives hsolve hsource
      obtain ⟨d₀, hstart⟩ := hsource.start
      exact .inr ⟨e, he, rfl, k, d₀, x, rfl, hstart, brings_result hcons hkind hx⟩
  | @throw k e d hsource he hkind =>
      obtain ⟨f₀, hf₀, -⟩ := frame_of_arrives hsolve hsource
      obtain ⟨x, hx⟩ := exists_thrown_frame hcons hf₀
      exact .inr ⟨e, he, rfl, k, d, _, rfl, hsource, .thrown hkind hx rfl rfl rfl⟩

/-! ### Where frames meet -/

/-- A method is refused where frames of different sizes meet, to which paths of different depths
lead. -/
lemma of_refused {err : Error}
    (h : (analysis g numLocals maxStack).Refused (Arrived numLocals) b err) :
    (∃ mine theirs block, err = .numbering (.slotCountsDiffer mine theirs block)) ∧
      ¬ g.DepthsAgree numLocals := by
  cases h with
  | handler _ _ _ _ _ henter => cases henter
  | @join e sofar f he ht hsofar hf hjoin =>
      have hjoin : meetFacts e.target sofar f = .error err := hjoin
      cases f with
      | none => simp [meetFacts] at hjoin
      | some v =>
          cases sofar with
          | none => simp [meetFacts] at hjoin
          | some u =>
              obtain ⟨_, ⟨⟩, hu, n, harrives⟩ := hsofar rfl
              obtain ⟨_, ⟨⟩, hv, n', harrives'⟩ := hf rfl
              rw [meetFacts, meetFrames] at hjoin
              split at hjoin
              · rename_i hcount
                refine ⟨⟨_, _, _, (Except.error.inj hjoin).symm⟩, fun hagree => hcount ?_⟩
                rw [ValueFrame.numSlots, ValueFrame.numSlots, hu, hv,
                  hagree _ _ _ _ _ harrives harrives']
              · cases hjoin

/-- **Frames of different size meet exactly when paths to a block disagree in their depth.** -/
theorem slotCountsDiffer_iff : (∃ mine theirs block, (analysis g numLocals maxStack).solve
      = .error (.numbering (.slotCountsDiffer mine theirs block))) ↔ ¬ g.DepthsAgree numLocals := by
  constructor
  · rintro ⟨mine, theirs, block, h⟩
    rcases FlowAnalysis.solve_error_cases h with ⟨n, t, -, hafter, hpass⟩ | ⟨heq, -⟩
    · obtain ⟨b, hrefused⟩ := FlowAnalysis.pass_refused pointInvariant_arrived rfl hafter hpass
      exact (of_refused hrefused).2
    · cases heq
  · intro hdisagree
    obtain ⟨n, n', b, depth, depth', hn, hn', h, h', hne⟩ := disagree_early hdisagree
    -- no frame has both depths
    have hnever : ∀ f, ¬ Met numLocals (analysis g numLocals maxStack).passLimit b f := by
      intro f hmet
      obtain ⟨v, hv, hdepth⟩ := hmet n (hn.trans_lt (FlowAnalysis.size_lt_passLimit _)) depth h
      obtain ⟨v', hv', hdepth'⟩ := hmet n' (hn'.trans_lt (FlowAnalysis.size_lt_passLimit _)) depth' h'
      obtain rfl := Option.some.inj (hv.symm.trans hv')
      exact hne (hdepth.symm.trans hdepth')
    obtain ⟨err, hsolve, b, hrefused⟩ :=
      progress_met.refused pointInvariant_wellShaped pointInvariant_arrived rfl hnever
    obtain ⟨⟨mine, theirs, block, rfl⟩, -⟩ := of_refused hrefused
    exact ⟨mine, theirs, block, hsolve⟩

end ValueNumbering

end Nullness
