import Mathlib.Data.List.Lex
import Mathlib.Data.Prod.Lex
import Mathlib.Tactic
import Nullness.Reachability

/-!
# What a listing contains

* `reachableFrom_keeps`: what holds of a value and of all steps from values with it holds of all that
  is listed;
* `mem_reachableFrom`: **a listing that is not cut short contains exactly what repeated steps lead
  to**;
* `reachableFrom_of_le`: with a larger bound the listing is the same;
* `follow`, `place`: the steps to a value as a list of choices, and breadth-first order;
* `reachableFrom_first`: **values are listed in breadth-first order**;
* `reachableFrom_nearest`: what takes fewer steps is listed earlier.
-/

namespace Nullness

variable {α : Type} [DecidableEq α] {next : α → List α} {P : α → Prop}

lemma listReachable_keeps (hnext : ∀ a, P a → ∀ b ∈ next a, P b) :
    ∀ {bound : Nat} {queue seen : List α}, (∀ a ∈ queue, P a) →
      ∀ b ∈ listReachable next bound queue seen, P b
  | 0, _, _, _, b, hb => by simp [listReachable] at hb
  | bound + 1, [], _, _, b, hb => by simp [listReachable] at hb
  | bound + 1, a :: queue, seen, hqueue, b, hb => by
      have hrest : ∀ c ∈ queue, P c := fun c hc => hqueue c (List.mem_cons_of_mem a hc)
      rw [listReachable] at hb
      split at hb
      · exact listReachable_keeps hnext hrest b hb
      · rcases List.mem_cons.1 hb with rfl | hb
        · exact hqueue b List.mem_cons_self
        · refine listReachable_keeps hnext (fun c hc => ?_) b hb
          rcases List.mem_append.1 hc with hc | hc
          · exact hrest c hc
          · exact hnext a (hqueue a List.mem_cons_self) c hc

/-- A property that all steps keep holds of all that a value leads to. -/
lemma reachableFrom_keeps (hnext : ∀ a, P a → ∀ b ∈ next a, P b) {steps : Nat} {a : α} (ha : P a) :
    ∀ b ∈ reachableFrom next steps a, P b :=
  listReachable_keeps hnext (by simpa using ha)

/-! ### Listings that are not cut short -/

/-- The number of steps out of the values of a set that have not been seen. -/
def stepsLeft (next : α → List α) (values : Finset α) (seen : List α) : Nat :=
  ∑ a ∈ values with a ∉ seen, (next a).length

lemma stepsLeft_cons (next : α → List α) {values : Finset α} {seen : List α} {a : α} (ha : a ∈ values)
    (hseen : a ∉ seen) :
    (next a).length + stepsLeft next values (a :: seen) = stepsLeft next values seen := by
  have herase : values.filter (· ∉ a :: seen) = (values.filter (· ∉ seen)).erase a := by
    ext b
    simp only [Finset.mem_filter, Finset.mem_erase, List.mem_cons, not_or]
    tauto
  rw [stepsLeft, herase]
  exact Finset.add_sum_erase _ (fun a => (next a).length) (Finset.mem_filter.2 ⟨ha, hseen⟩)

/-- What is in the queue gets listed unless it has been seen, and so does what is one step from what
gets listed. -/
lemma listReachable_closed {values : Finset α} (hvalues : ∀ a ∈ values, ∀ b ∈ next a, b ∈ values) :
    ∀ (bound : Nat) (queue seen : List α), (∀ a ∈ queue, a ∈ values) →
      queue.length + stepsLeft next values seen ≤ bound →
      (∀ a ∈ queue, a ∈ seen ∨ a ∈ listReachable next bound queue seen) ∧
        ∀ a ∈ listReachable next bound queue seen, ∀ b ∈ next a,
          b ∈ seen ∨ b ∈ listReachable next bound queue seen
  | 0, queue, seen, _, hbound => by
      obtain rfl : queue = [] := List.length_eq_zero_iff.1 (by omega)
      simp [listReachable]
  | bound + 1, [], _, _, _ => by simp [listReachable]
  | bound + 1, a :: queue, seen, hqueue, hbound => by
      have ha : a ∈ values := hqueue a List.mem_cons_self
      have hrest : ∀ c ∈ queue, c ∈ values := fun c hc => hqueue c (List.mem_cons_of_mem a hc)
      rw [List.length_cons] at hbound
      rw [listReachable]
      split
      · rename_i hseen
        obtain ⟨hlisted, hclosed⟩ := listReachable_closed hvalues bound queue seen hrest (by omega)
        exact ⟨List.forall_mem_cons.2 ⟨.inl hseen, hlisted⟩, hclosed⟩
      · rename_i hseen
        have hsteps := stepsLeft_cons next ha hseen
        obtain ⟨hlisted, hclosed⟩ := listReachable_closed hvalues bound (queue ++ next a) (a :: seen)
          (List.forall_mem_append.2 ⟨hrest, hvalues a ha⟩) (by rw [List.length_append]; omega)
        have hkept : ∀ b, b ∈ a :: seen ∨ b ∈ listReachable next bound (queue ++ next a) (a :: seen) →
            b ∈ seen ∨ b ∈ a :: listReachable next bound (queue ++ next a) (a :: seen) := by
          intro b hb
          simp only [List.mem_cons] at hb ⊢
          tauto
        refine ⟨List.forall_mem_cons.2 ⟨.inr List.mem_cons_self, fun c hc => ?_⟩,
          List.forall_mem_cons.2 ⟨fun b hb => ?_, fun c hc b hb => hkept b (hclosed c hc b hb)⟩⟩
        · exact hkept c (hlisted c (List.mem_append_left _ hc))
        · exact hkept b (hlisted b (List.mem_append_right _ hb))

/-- Where the bound does not cut the listing short, a larger one lists the same. -/
lemma listReachable_of_le {values : Finset α} (hvalues : ∀ a ∈ values, ∀ b ∈ next a, b ∈ values) :
    ∀ {bound more : Nat} (queue seen : List α), (∀ a ∈ queue, a ∈ values) →
      queue.length + stepsLeft next values seen ≤ bound → bound ≤ more →
      listReachable next more queue seen = listReachable next bound queue seen
  | 0, 0, _, _, _, _, _ => rfl
  | 0, more + 1, queue, seen, _, hbound, _ => by
      obtain rfl : queue = [] := List.length_eq_zero_iff.1 (by omega)
      rfl
  | bound + 1, more + 1, [], _, _, _, _ => rfl
  | bound + 1, more + 1, a :: queue, seen, hqueue, hbound, hmore => by
      have ha : a ∈ values := hqueue a List.mem_cons_self
      have hrest : ∀ c ∈ queue, c ∈ values := fun c hc => hqueue c (List.mem_cons_of_mem a hc)
      rw [List.length_cons] at hbound
      rw [listReachable, listReachable]
      split
      · exact listReachable_of_le hvalues queue seen hrest (by omega) (by omega)
      · rename_i hseen
        have hsteps := stepsLeft_cons next ha hseen
        have hlonger : (queue ++ next a).length + stepsLeft next values (a :: seen) ≤ bound := by
          rw [List.length_append]
          omega
        rw [listReachable_of_le hvalues (queue ++ next a) (a :: seen)
          (List.forall_mem_append.2 ⟨hrest, hvalues a ha⟩) hlonger (Nat.le_of_succ_le_succ hmore)]

lemma stepsLeft_nil (next : α → List α) (values : Finset α) :
    stepsLeft next values [] = ∑ a ∈ values, (next a).length := by
  simp [stepsLeft]

/-- **A listing that is not cut short contains exactly what repeated steps lead to.** -/
theorem mem_reachableFrom {values : Finset α} (hvalues : ∀ a ∈ values, ∀ b ∈ next a, b ∈ values)
    {steps : Nat} (hsteps : ∑ a ∈ values, (next a).length ≤ steps) {a b : α} (ha : a ∈ values) :
    b ∈ reachableFrom next steps a ↔ Relation.ReflTransGen (fun a b => b ∈ next a) a b := by
  constructor
  · exact reachableFrom_keeps (fun _ hc _ hb => hc.tail hb) .refl b
  · have hbound : [a].length + stepsLeft next values [] ≤ steps + 1 := by
      rw [stepsLeft_nil, List.length_singleton]
      omega
    obtain ⟨hlisted, hclosed⟩ := listReachable_closed hvalues _ _ _ (by simpa using ha) hbound
    intro h
    induction h with
    | refl => exact (hlisted a List.mem_cons_self).resolve_left List.not_mem_nil
    | tail _ hstep ih => exact (hclosed _ ih _ hstep).resolve_left List.not_mem_nil

/-- A bound that is large enough may be chosen larger. -/
theorem reachableFrom_of_le {values : Finset α} (hvalues : ∀ a ∈ values, ∀ b ∈ next a, b ∈ values)
    {steps more : Nat} (hsteps : ∑ a ∈ values, (next a).length ≤ steps) (hmore : steps ≤ more)
    {a : α} (ha : a ∈ values) : reachableFrom next more a = reachableFrom next steps a := by
  refine listReachable_of_le hvalues [a] [] (by simpa using ha) ?_ (Nat.succ_le_succ hmore)
  rw [stepsLeft_nil, List.length_singleton]
  omega

/-- Items that are counted by a key are counted at one value at most. -/
lemma sum_length_filter_le {β : Type} (key : β → α) (items : List β) (values : Finset α) :
    ∑ a ∈ values, (items.filter fun b => key b = a).length ≤ items.length := by
  induction items with
  | nil => simp
  | cons b items ih =>
      have hsplit : ∀ a, ((b :: items).filter fun b => key b = a).length
          = (if key b = a then 1 else 0) + (items.filter fun b => key b = a).length := by
        intro a
        rw [List.filter_cons]
        split <;> simp_all [Nat.add_comm]
      have hone : ∑ a ∈ values, (if key b = a then 1 else 0) ≤ 1 := by
        rw [Finset.sum_ite_eq]
        split <;> omega
      simp only [hsplit, Finset.sum_add_distrib, List.length_cons]
      omega

/-! ### Steps -/

/-- A number of steps leads from one value to another. -/
inductive StepsTo (next : α → List α) (a : α) : Nat → α → Prop
  | stay : StepsTo next a 0 a
  | step {n : Nat} {b c : α} : StepsTo next a n b → c ∈ next b → StepsTo next a (n + 1) c

omit [DecidableEq α] in
/-- One step more at the front. -/
lemma StepsTo.prepend {a b c : α} {n : Nat} (h : StepsTo next b n c) (hb : b ∈ next a) :
    StepsTo next a (n + 1) c := by
  induction h with
  | stay => exact .step .stay hb
  | step _ hstep ih => exact .step ih hstep

omit [DecidableEq α] in
/-- Without the number. -/
lemma exists_stepsTo_iff {a b : α} :
    (∃ n, StepsTo next a n b) ↔ Relation.ReflTransGen (fun a b => b ∈ next a) a b := by
  constructor
  · rintro ⟨n, h⟩
    induction h with
    | stay => exact .refl
    | step _ hstep ih => exact ih.tail hstep
  · intro h
    induction h with
    | refl => exact ⟨0, .stay⟩
    | tail _ hstep ih =>
        obtain ⟨n, hn⟩ := ih
        exact ⟨n + 1, hn.step hstep⟩

/-- The value to which a list of choices leads: each is the position of a step among those that can
be taken. -/
def follow (next : α → List α) (a : α) : List Nat → Option α
  | [] => some a
  | i :: choices => (next a)[i]?.bind fun b => follow next b choices

omit [DecidableEq α] in
/-- The last choice. -/
lemma follow_append_singleton {a : α} {choices : List Nat} {i : Nat} :
    follow next a (choices ++ [i]) = (follow next a choices).bind fun b => (next b)[i]? := by
  induction choices generalizing a with
  | nil => simp [follow]
  | cons j choices ih => simp only [List.cons_append, follow, ih, Option.bind_assoc]

omit [DecidableEq α] in
/-- Each step is a choice. -/
lemma stepsTo_iff {a b : α} {n : Nat} :
    StepsTo next a n b ↔ ∃ choices, choices.length = n ∧ follow next a choices = some b := by
  constructor
  · intro h
    induction h with
    | stay => exact ⟨[], rfl, rfl⟩
    | step _ hstep ih =>
        obtain ⟨choices, rfl, hfollow⟩ := ih
        obtain ⟨i, hi⟩ := List.mem_iff_getElem?.1 hstep
        refine ⟨choices ++ [i], by simp, ?_⟩
        rw [follow_append_singleton, hfollow, Option.bind_some, hi]
  · rintro ⟨choices, rfl, hfollow⟩
    induction choices using List.reverseRecOn generalizing b with
    | nil =>
        obtain rfl := Option.some.inj hfollow
        exact .stay
    | append_singleton choices i ih =>
        rw [follow_append_singleton] at hfollow
        obtain ⟨c, hc, hi⟩ := Option.bind_eq_some_iff.1 hfollow
        rw [List.length_append]
        exact .step (ih hc) (List.mem_of_getElem? hi)

/-! ### Breadth-first order -/

/-- The place of a list of choices in breadth-first order. The fewest choices come first, and of
equally many those that have the smaller number where they first differ. -/
def place (choices : List Nat) : ℕ ×ₗ List ℕ := toLex (choices.length, choices)

section Place

variable {v w : List Nat} {i j : Nat}

lemma place_lt_iff : place v < place w ↔ v.length < w.length ∨ v.length = w.length ∧ v < w :=
  Prod.Lex.toLex_lt_toLex

lemma length_le_of_place_le (h : place v ≤ place w) : v.length ≤ w.length := by
  rcases h.lt_or_eq with hlt | heq
  · rcases place_lt_iff.1 hlt with hshorter | ⟨hsame, -⟩
    · exact hshorter.le
    · exact hsame.le
  · exact (congrArg (fun p => (ofLex p).1) heq).le

/-- One choice more at the end of two lists of one length does not change their order. -/
lemma append_lt_append (hlength : v.length = w.length) (h : v < w) : v ++ [i] < w ++ [j] := by
  induction v generalizing w with
  | nil =>
      obtain rfl := List.length_eq_zero_iff.1 hlength.symm
      exact absurd h (lt_irrefl _)
  | cons a v ih =>
      cases w with
      | nil => cases hlength
      | cons b w =>
          rw [List.cons_append, List.cons_append, List.cons_lt_cons_iff]
          rcases List.cons_lt_cons_iff.1 h with hlt | ⟨heq, hlt⟩
          · exact .inl hlt
          · exact .inr ⟨heq, ih (Nat.succ.inj hlength) hlt⟩

lemma place_append_lt (h : place v < place w) : place (v ++ [i]) < place (w ++ [j]) := by
  rw [place_lt_iff] at h ⊢
  simp only [List.length_append, List.length_singleton, Nat.add_lt_add_iff_right,
    Nat.add_right_cancel_iff]
  exact h.imp_right fun ⟨hlength, hlt⟩ => ⟨hlength, append_lt_append hlength hlt⟩

lemma place_append_le (h : place v ≤ place w) : place (v ++ [i]) ≤ place (w ++ [i]) := by
  rcases h.lt_or_eq with hlt | heq
  · exact (place_append_lt hlt).le
  · obtain rfl : v = w := congrArg (fun p => (ofLex p).2) heq
    exact le_rfl

/-- What was chosen before comes first. -/
lemma place_lt_append : place w < place (w ++ [i]) :=
  place_lt_iff.2 (.inl (by simp))

lemma place_siblings_lt (h : i < j) : place (w ++ [i]) < place (w ++ [j]) :=
  place_lt_iff.2 (.inr ⟨by simp, List.append_left_lt (List.cons_lt_cons_iff.2 (.inl h))⟩)

/-- What comes after something else has a last choice. -/
lemma dropLast_append_of_place_lt (h : place v < place w) : ∃ i, w.dropLast ++ [i] = w := by
  have hne : w ≠ [] := by
    rintro rfl
    rcases place_lt_iff.1 h with hlt | ⟨hlength, hlt⟩
    · exact absurd hlt (Nat.not_lt_zero _)
    · rw [List.length_eq_zero_iff.1 hlength] at hlt
      exact absurd hlt (lt_irrefl _)
  exact ⟨w.getLast hne, List.dropLast_append_getLast hne⟩

end Place

/-- A queue of values, each with the choices by which it was found. They stand in breadth-first order,
and what one of them was found from comes before everything in front of it. A step out of a seen value
was taken after the first choices that lead to that value. -/
structure Frontier (next : α → List α) (a : α) (queue : List (α × List Nat)) (seen : List α) :
    Prop where
  led : ∀ q ∈ queue, follow next a q.2 = some q.1
  sorted : queue.Pairwise fun q r => place r.2.dropLast < place q.2 ∧ place q.2 < place r.2
  start : a ∉ seen → (a, []) ∈ queue
  closed : ∀ b ∈ seen, ∀ choices, follow next a choices = some b → ∀ i c, (next b)[i]? = some c →
    c ∉ seen → ∃ q ∈ queue, q.1 = c ∧ place q.2 ≤ place (choices ++ [i])

namespace Frontier

variable {a b c : α} {choices others : List Nat} {queue : List (α × List Nat)} {seen : List α}

omit [DecidableEq α] in
/-- On the way to an unseen value something unseen is in the queue. -/
lemma ahead (h : Frontier next a queue seen) (hc : follow next a choices = some c) (hseen : c ∉ seen) :
    ∃ q ∈ queue, q.1 ∉ seen ∧ place q.2 ≤ place choices := by
  induction choices using List.reverseRecOn generalizing c with
  | nil =>
      obtain rfl := Option.some.inj hc
      exact ⟨_, h.start hseen, hseen, le_rfl⟩
  | append_singleton choices i ih =>
      rw [follow_append_singleton] at hc
      obtain ⟨b, hb, hi⟩ := Option.bind_eq_some_iff.1 hc
      by_cases hbefore : b ∈ seen
      · obtain ⟨q, hq, rfl, hle⟩ := h.closed b hbefore choices hb i c hi hseen
        exact ⟨q, hq, hseen, hle⟩
      · obtain ⟨q, hq, hunseen, hle⟩ := ih hb hbefore
        exact ⟨q, hq, hunseen, hle.trans place_lt_append.le⟩

omit [DecidableEq α] in
/-- Nothing unseen comes before the head of the queue. -/
lemma head_le (h : Frontier next a ((b, choices) :: queue) seen) (hc : follow next a others = some c)
    (hseen : c ∉ seen) : place choices ≤ place others := by
  obtain ⟨q, hq, -, hle⟩ := h.ahead hc hseen
  rcases List.mem_cons.1 hq with rfl | hq
  · exact hle
  · exact ((List.pairwise_cons.1 h.sorted).1 q hq).2.le.trans hle

omit [DecidableEq α] in
/-- A seen value is dropped. -/
lemma drop (h : Frontier next a ((b, choices) :: queue) seen) (hb : b ∈ seen) :
    Frontier next a queue seen where
  led q hq := h.led q (List.mem_cons_of_mem _ hq)
  sorted := (List.pairwise_cons.1 h.sorted).2
  start ha := by
    rcases List.mem_cons.1 (h.start ha) with heq | hmem
    · obtain ⟨rfl, -⟩ := Prod.mk.inj heq
      exact absurd hb ha
    · exact hmem
  closed d hd others hothers i c hi hseen := by
    obtain ⟨q, hq, rfl, hle⟩ := h.closed d hd others hothers i c hi hseen
    rcases List.mem_cons.1 hq with rfl | hq
    · exact absurd hb hseen
    · exact ⟨q, hq, rfl, hle⟩

omit [DecidableEq α] in
/-- An unseen value is listed, and what is one step from it joins the queue. -/
lemma list (h : Frontier next a ((b, choices) :: queue) seen) (hb : b ∉ seen) :
    Frontier next a (queue ++ (next b).zipIdx.map fun c => (c.1, choices ++ [c.2])) (b :: seen) where
  led q hq := by
    rcases List.mem_append.1 hq with hq | hq
    · exact h.led q (List.mem_cons_of_mem _ hq)
    · obtain ⟨c, hc, rfl⟩ := List.mem_map.1 hq
      rw [follow_append_singleton, h.led _ List.mem_cons_self]
      exact List.mem_zipIdx_iff_getElem?.1 hc
  sorted := by
    obtain ⟨hhead, hrest⟩ := List.pairwise_cons.1 h.sorted
    refine List.pairwise_append.2 ⟨hrest, ?_, fun q hq r hr => ?_⟩
    · have hpositions : (next b).zipIdx.Pairwise fun c d => c.2 < d.2 := by
        rw [← List.pairwise_map (f := Prod.snd), List.zipIdx_map_snd]
        exact List.pairwise_lt_range'
      rw [List.pairwise_map]
      refine hpositions.imp fun hlt => ⟨?_, place_siblings_lt hlt⟩
      rw [List.dropLast_concat]
      exact place_lt_append
    · obtain ⟨c, -, rfl⟩ := List.mem_map.1 hr
      obtain ⟨hparent, hlt⟩ := hhead q hq
      rw [List.dropLast_concat]
      obtain ⟨i, hi⟩ := dropLast_append_of_place_lt hlt
      refine ⟨hlt, ?_⟩
      rw [← hi]
      exact place_append_lt hparent
  start ha := by
    obtain ⟨hne, ha⟩ := List.ne_and_not_mem_of_not_mem_cons ha
    rcases List.mem_cons.1 (h.start ha) with heq | hmem
    · exact absurd (Prod.mk.inj heq).1 hne
    · exact List.mem_append_left _ hmem
  closed d hd others hothers i c hi hseen := by
    obtain ⟨hne, hseen⟩ := List.ne_and_not_mem_of_not_mem_cons hseen
    rcases List.mem_cons.1 hd with rfl | hd
    · exact ⟨(c, choices ++ [i]), List.mem_append_right _
        (List.mem_map.2 ⟨(c, i), List.mem_zipIdx_iff_getElem?.2 hi, rfl⟩), rfl,
        place_append_le (h.head_le hothers hb)⟩
    · obtain ⟨q, hq, rfl, hle⟩ := h.closed d hd others hothers i c hi hseen
      rcases List.mem_cons.1 hq with rfl | hq
      · exact absurd rfl hne
      · exact ⟨q, List.mem_append_left _ hq, rfl, hle⟩

end Frontier

lemma listReachable_first {a x : α} :
    ∀ {bound : Nat} {queue : List (α × List Nat)} {seen before after : List α},
      Frontier next a queue seen →
      listReachable next bound (queue.map (·.1)) seen = before ++ x :: after →
      ∃ choices, follow next a choices = some x ∧ ∀ c ∉ before, c ∉ seen → ∀ others,
        follow next a others = some c → place choices ≤ place others
  | 0, _, _, _, _, _, heq => by simp [listReachable] at heq
  | bound + 1, [], _, _, _, _, heq => by simp [listReachable] at heq
  | bound + 1, (b, choices) :: queue, seen, before, after, h, heq => by
      rw [List.map_cons, listReachable] at heq
      split at heq
      · rename_i hb
        exact listReachable_first (h.drop hb) heq
      · rename_i hb
        cases before with
        | nil =>
            obtain rfl := (List.cons_eq_cons.1 heq).1
            exact ⟨choices, h.led _ List.mem_cons_self, fun c _ hseen _ hc => h.head_le hc hseen⟩
        | cons d before =>
            rw [List.cons_append, List.cons.injEq] at heq
            obtain ⟨rfl, heq⟩ := heq
            have hqueue : (queue ++ (next b).zipIdx.map fun c => (c.1, choices ++ [c.2])).map (·.1)
                = queue.map (·.1) ++ next b := by
              rw [List.map_append, List.map_map]
              exact congrArg _ (List.zipIdx_map_fst 0 (next b))
            rw [← hqueue] at heq
            obtain ⟨found, hfound, hfirst⟩ := listReachable_first (h.list hb) heq
            refine ⟨found, hfound, fun c hbefore hseen => ?_⟩
            obtain ⟨hne, hbefore⟩ := List.ne_and_not_mem_of_not_mem_cons hbefore
            exact hfirst c hbefore (List.not_mem_cons_of_ne_of_not_mem hne hseen)

/-- **Values are listed in breadth-first order.** Some choices lead to a listed value that come before
all choices that lead to anything that is not listed in front of it. -/
theorem reachableFrom_first {steps : Nat} {a x : α} {before after : List α}
    (h : reachableFrom next steps a = before ++ x :: after) :
    ∃ choices, follow next a choices = some x ∧ ∀ c ∉ before, ∀ others,
      follow next a others = some c → place choices ≤ place others := by
  have hstart : Frontier next a [(a, [])] [] := by
    refine ⟨?_, List.pairwise_singleton _ _, fun _ => List.mem_singleton_self _, by simp⟩
    rintro _ hq
    obtain rfl := List.mem_singleton.1 hq
    rfl
  obtain ⟨choices, hchoices, hfirst⟩ := listReachable_first hstart h
  exact ⟨choices, hchoices, fun c hc => hfirst c hc List.not_mem_nil⟩

/-- What takes fewer steps is listed earlier: a listed value is at most as many steps away as whatever
is not listed in front of it. -/
theorem reachableFrom_nearest {steps n : Nat} {a c x : α} {before after : List α}
    (h : reachableFrom next steps a = before ++ x :: after) (hbefore : c ∉ before)
    (hc : StepsTo next a n c) : ∃ k ≤ n, StepsTo next a k x := by
  obtain ⟨choices, hchoices, hfirst⟩ := reachableFrom_first h
  obtain ⟨others, rfl, hothers⟩ := stepsTo_iff.1 hc
  exact ⟨choices.length, length_le_of_place_le (hfirst c hbefore others hothers),
    stepsTo_iff.2 ⟨choices, rfl, hchoices⟩⟩

/-- The first listed value of some kind is first among all of its kind. -/
lemma first_of_find? {steps : Nat} {a x : α} {p : α → Bool}
    (h : (reachableFrom next steps a).find? p = some x) :
    p x = true ∧ ∃ choices, follow next a choices = some x ∧ ∀ c, p c = true → ∀ others,
      follow next a others = some c → place choices ≤ place others := by
  obtain ⟨hx, before, after, hlist, hbefore⟩ := List.find?_eq_some_iff_append.1 h
  obtain ⟨choices, hchoices, hfirst⟩ := reachableFrom_first hlist
  refine ⟨hx, choices, hchoices, fun c hc => hfirst c fun hmem => ?_⟩
  have hnone := hbefore c hmem
  rw [hc] at hnone
  cases hnone

end Nullness
