/-!
# Finite maps with ascending keys

A finite map is the list of its entries in strictly ascending order of the keys. Two maps with the
same entries are therefore equal as values, so a comparison of maps, as the fixpoint iteration
makes it, does not depend on the order in which entries arrived, and listing a map lists it in
order.

* `SortedMap.get?_insert`: an inserted entry is found, every other look-up is unchanged;
* `SortedMap.get?_filter`: what a filter keeps;
* `SortedMap.get?_eq_some_iff`: look-up is membership in the list of entries;
* `SortedMap.ext_get?`: maps with the same look-ups are equal;
* `SortedSet.ext_mem`, `SortedSet.mem_inter`, `SortedSet.mem_add`, `SortedSet.mem_ofList`: sets by their
  members.
-/

namespace Nullness

/-- A finite map from `κ` to `α`, as the list of its entries by ascending key. -/
structure SortedMap (κ α : Type) [Ord κ] where
  entries : List (κ × α)
  ascending : entries.Pairwise fun a b => compare a.1 b.1 = .lt

/-- A finite set, as a map to the one-element type. -/
abbrev SortedSet (κ : Type) [Ord κ] := SortedMap κ Unit

namespace SortedMap

variable {κ α β : Type} [Ord κ]

instance [DecidableEq κ] [DecidableEq α] : DecidableEq (SortedMap κ α) := fun a b =>
  decidable_of_iff (a.entries = b.entries) (by
    cases a; cases b; simp)

/-- The map without entries. -/
def empty : SortedMap κ α := ⟨[], .nil⟩

instance : Inhabited (SortedMap κ α) := ⟨empty⟩

/-- Whether the map has no entries. -/
def isEmpty (m : SortedMap κ α) : Bool := m.entries.isEmpty

/-- The number of entries. -/
def size (m : SortedMap κ α) : Nat := m.entries.length

/-- The keys in ascending order. -/
def keys (m : SortedMap κ α) : List κ := m.entries.map (·.1)

/-- The value stored under a key. -/
def get? (m : SortedMap κ α) (k : κ) : Option α :=
  (m.entries.find? fun e => compare k e.1 == .eq).map (·.2)

/-- Whether a value is stored under a key. -/
def contains (m : SortedMap κ α) (k : κ) : Bool := (m.get? k).isSome

/-- The entries that satisfy a test. -/
def filter (p : κ → α → Bool) (m : SortedMap κ α) : SortedMap κ α :=
  ⟨m.entries.filter fun e => p e.1 e.2, m.ascending.filter _⟩

/-- Replaces or drops every value; keys stay where they are. -/
def filterMap (f : κ → α → Option β) (m : SortedMap κ α) : SortedMap κ β where
  entries := m.entries.filterMap fun e => (f e.1 e.2).map (e.1, ·)
  ascending := by
    refine List.pairwise_filterMap.2 (m.ascending.imp ?_)
    intro a b hab a' ha b' hb
    obtain ⟨_, _, rfl⟩ := Option.map_eq_some_iff.1 ha
    obtain ⟨_, _, rfl⟩ := Option.map_eq_some_iff.1 hb
    exact hab

/-- Replaces every value; keys stay where they are. -/
def mapValues (f : α → β) (m : SortedMap κ α) : SortedMap κ β := m.filterMap fun _ v => some (f v)

/-- The entries whose key occurs in both maps, with the two values combined. -/
def interWith (f : α → α → α) (a b : SortedMap κ α) : SortedMap κ α :=
  a.filterMap fun k v => (b.get? k).map (f v)

section Insert

/-- Puts an entry into an ascending list, in place of the one with the same key. -/
def insertEntry (k : κ) (v : α) : List (κ × α) → List (κ × α)
  | [] => [(k, v)]
  | e :: rest =>
    match compare k e.1 with
    | .lt => (k, v) :: e :: rest
    | .eq => (k, v) :: rest
    | .gt => e :: insertEntry k v rest

/-- Putting an entry in adds nothing else. -/
theorem mem_insertEntry {k : κ} {v : α} {l : List (κ × α)} {e : κ × α}
    (h : e ∈ insertEntry k v l) : e = (k, v) ∨ e ∈ l := by
  induction l with
  | nil => simpa [insertEntry] using h
  | cons a rest ih =>
    unfold insertEntry at h
    split at h <;> grind

variable [Std.TransOrd κ]

/-- Putting an entry in keeps the keys in order. -/
theorem pairwise_insertEntry (k : κ) (v : α) {l : List (κ × α)}
    (h : l.Pairwise fun a b => compare a.1 b.1 = .lt) :
    (insertEntry k v l).Pairwise fun a b => compare a.1 b.1 = .lt := by
  induction l with
  | nil => exact List.pairwise_singleton _ _
  | cons a rest ih =>
    obtain ⟨hhead, htail⟩ := List.pairwise_cons.1 h
    unfold insertEntry
    split
    · rename_i hlt
      refine List.pairwise_cons.2 ⟨fun b hb => ?_, h⟩
      rcases List.mem_cons.1 hb with rfl | hb
      · exact hlt
      · exact Std.TransCmp.lt_trans hlt (hhead b hb)
    · rename_i heq
      exact List.pairwise_cons.2 ⟨fun b hb => Std.TransCmp.lt_of_eq_of_lt heq (hhead b hb), htail⟩
    · rename_i hgt
      refine List.pairwise_cons.2 ⟨fun b hb => ?_, ih htail⟩
      rcases mem_insertEntry hb with rfl | hb
      · exact Std.OrientedCmp.lt_of_gt hgt
      · exact hhead b hb

/-- Stores a value under a key, in place of the one that was there. -/
def insert (m : SortedMap κ α) (k : κ) (v : α) : SortedMap κ α :=
  ⟨insertEntry k v m.entries, pairwise_insertEntry k v m.ascending⟩

/-- Stores the pairs one after the other, so the last one with a key stays. -/
def ofList (l : List (κ × α)) : SortedMap κ α := l.foldl (fun m e => m.insert e.1 e.2) empty

end Insert

@[simp] theorem get?_empty (k : κ) : (empty : SortedMap κ α).get? k = none := rfl

section Lookup

variable [Std.LawfulEqOrd κ]

/-- Look-up is membership in the list of entries. -/
theorem get?_eq_some_iff {m : SortedMap κ α} {k : κ} {v : α} :
    m.get? k = some v ↔ (k, v) ∈ m.entries := by
  obtain ⟨l, hl⟩ := m
  simp only [get?]
  induction l with
  | nil => simp
  | cons a rest ih =>
    obtain ⟨hhead, htail⟩ := List.pairwise_cons.1 hl
    rw [List.find?_cons]
    by_cases hk : compare k a.1 = .eq
    · have hka : k = a.1 := Std.LawfulEqOrd.eq_of_compare hk
      have hnot : ∀ w, (k, w) ∉ rest := fun w hw => by
        have := hhead _ hw
        rw [← hka, Std.compare_self] at this
        cases this
      simp only [hk, beq_self_eq_true, Option.map_some, Option.some.injEq, List.mem_cons, hnot,
        or_false]
      exact ⟨fun h => by rw [hka, ← h], fun h => by rw [← h]⟩
    · have hne : (k, v) ≠ a := fun h => hk (by rw [← h, Std.compare_self])
      have hb : (compare k a.1 == .eq) = false := by simpa using hk
      simp only [hb, List.mem_cons, hne, false_or]
      exact ih htail

/-- Maps with the same look-ups are equal. -/
theorem ext_get? [Std.TransOrd κ] {a b : SortedMap κ α} (h : ∀ k, a.get? k = b.get? k) : a = b := by
  have hmem : ∀ e, e ∈ a.entries ↔ e ∈ b.entries := fun e => by
    rw [← get?_eq_some_iff (k := e.1), ← get?_eq_some_iff (k := e.1), h]
  obtain ⟨la, ha⟩ := a
  obtain ⟨lb, hb⟩ := b
  congr
  have asymm : ∀ {x y : κ × α}, compare x.1 y.1 = .lt → ¬ compare y.1 x.1 = .lt := fun h h' => by
    have := Std.TransCmp.lt_trans h h'
    rw [Std.compare_self] at this
    cases this
  clear h
  induction la generalizing lb with
  | nil =>
    cases lb with
    | nil => rfl
    | cons b lb => exact absurd ((hmem b).2 List.mem_cons_self) List.not_mem_nil
  | cons a la ih =>
    cases lb with
    | nil => exact absurd ((hmem a).1 List.mem_cons_self) List.not_mem_nil
    | cons b lb =>
      obtain ⟨ha1, ha2⟩ := List.pairwise_cons.1 ha
      obtain ⟨hb1, hb2⟩ := List.pairwise_cons.1 hb
      have hab : a = b := by
        rcases List.mem_cons.1 ((hmem a).1 List.mem_cons_self) with h | h
        · exact h
        · rcases List.mem_cons.1 ((hmem b).2 List.mem_cons_self) with h' | h'
          · exact h'.symm
          · exact absurd (ha1 _ h') (asymm (hb1 _ h))
      subst hab
      congr
      refine ih ha2 lb hb2 fun e => ?_
      have := hmem e
      simp only [List.mem_cons] at this
      constructor
      · intro he
        rcases this.1 (.inr he) with rfl | h
        · exact absurd (ha1 _ he) (fun h => asymm h h)
        · exact h
      · intro he
        rcases this.2 (.inr he) with rfl | h
        · exact absurd (hb1 _ he) (fun h => asymm h h)
        · exact h

/-- An inserted entry is found, and every other look-up is unchanged. -/
theorem get?_insert [Std.TransOrd κ] [DecidableEq κ] (m : SortedMap κ α) (k k' : κ) (v : α) :
    (m.insert k v).get? k' = if k' = k then some v else m.get? k' := by
  obtain ⟨l, hl⟩ := m
  simp only [get?, insert]
  clear hl
  induction l with
  | nil =>
    by_cases h : k' = k
    · subst h; simp [insertEntry]
    · simp [insertEntry, h]
  | cons a rest ih =>
    unfold insertEntry
    split
    · by_cases h : k' = k
      · subst h; simp
      · simp [h]
    · rename_i heq
      have hka : k = a.1 := Std.LawfulEqOrd.eq_of_compare heq
      by_cases h : k' = k
      · subst h; simp
      · have h' : ¬ k' = a.1 := hka ▸ h
        simp [h, h']
    · rename_i hgt
      rw [List.find?_cons, List.find?_cons]
      by_cases h : compare k' a.1 = .eq
      · have hk : k' ≠ k := fun hk => by
          rw [← hk, h] at hgt
          cases hgt
        simp [h, hk]
      · have hb : (compare k' a.1 == .eq) = false := by simpa using h
        simp only [hb]
        exact ih

/-- A filter keeps what passes the test. -/
theorem get?_filter (p : κ → α → Bool) (m : SortedMap κ α) (k : κ) :
    (m.filter p).get? k = (m.get? k).filter (p k) := by
  apply Option.ext
  intro v
  rw [get?_eq_some_iff, Option.filter_eq_some_iff, get?_eq_some_iff]
  simp [filter]

/-- What is found after every value has been replaced or dropped. -/
theorem get?_filterMap (f : κ → α → Option β) (m : SortedMap κ α) (k : κ) :
    (m.filterMap f).get? k = (m.get? k).bind (f k) := by
  apply Option.ext
  intro v
  rw [get?_eq_some_iff, Option.bind_eq_some_iff]
  simp only [filterMap, List.mem_filterMap, Option.map_eq_some_iff, Prod.mk.injEq]
  constructor
  · rintro ⟨e, he, w, hw, rfl, rfl⟩
    exact ⟨e.2, get?_eq_some_iff.2 he, hw⟩
  · rintro ⟨w, hw, hv⟩
    exact ⟨(k, w), get?_eq_some_iff.1 hw, v, hv, rfl, rfl⟩

/-- What is found in a combination of two maps. -/
theorem get?_interWith (f : α → α → α) (a b : SortedMap κ α) (k : κ) :
    (a.interWith f b).get? k = (a.get? k).bind fun v => (b.get? k).map (f v) :=
  get?_filterMap ..

end Lookup

end SortedMap

namespace SortedSet

variable {κ : Type} [Ord κ]

/-- Whether a key belongs to the set. -/
def mem (s : SortedSet κ) (k : κ) : Bool := SortedMap.contains s k

/-- The members in ascending order. -/
def toList (s : SortedSet κ) : List κ := s.entries.map (·.1)

/-- The common members of two sets. -/
def inter (a b : SortedSet κ) : SortedSet κ := a.filter fun k _ => SortedMap.contains b k

/-- The members are listed in ascending order. -/
theorem toList_ascending (s : SortedSet κ) : s.toList.Pairwise fun a b => compare a b = .lt :=
  List.pairwise_map.2 s.ascending

section Members

@[simp] theorem mem_empty (k : κ) : mem (SortedMap.empty : SortedSet κ) k = false := rfl

theorem get?_eq_some_iff {s : SortedSet κ} {k : κ} {v : Unit} : s.get? k = some v ↔ mem s k = true := by
  unfold mem SortedMap.contains
  cases s.get? k <;> simp

variable [Std.LawfulEqOrd κ]

theorem mem_toList {s : SortedSet κ} {k : κ} : k ∈ s.toList ↔ mem s k = true := by
  rw [← get?_eq_some_iff (v := ()), SortedMap.get?_eq_some_iff, toList, List.mem_map]
  constructor
  · rintro ⟨e, he, rfl⟩
    exact he
  · exact fun h => ⟨_, h, rfl⟩

@[simp] theorem mem_filter (p : κ → Unit → Bool) (s : SortedSet κ) (k : κ) :
    mem (s.filter p) k = (mem s k && p k ()) := by
  unfold mem SortedMap.contains
  rw [SortedMap.get?_filter]
  cases s.get? k with
  | none => rfl
  | some _ => cases h : p k () <;> simp [h]

@[simp] theorem mem_inter (a b : SortedSet κ) (k : κ) : mem (inter a b) k = (mem a k && mem b k) :=
  mem_filter ..

/-- Sets with the same members are equal. -/
theorem ext_mem [Std.TransOrd κ] {a b : SortedSet κ} (h : ∀ k, mem a k = mem b k) : a = b := by
  refine SortedMap.ext_get? fun k => Option.ext fun v => ?_
  rw [get?_eq_some_iff, get?_eq_some_iff, h]

end Members

section Adding

variable [Std.TransOrd κ]

/-- The set with one more member. -/
def add (s : SortedSet κ) (k : κ) : SortedSet κ := SortedMap.insert s k ()

/-- The set of the members of a list. -/
def ofList (l : List κ) : SortedSet κ := l.foldl add SortedMap.empty

variable [Std.LawfulEqOrd κ] [DecidableEq κ]

@[simp] theorem mem_add {s : SortedSet κ} {k k' : κ} :
    mem (s.add k) k' = true ↔ k' = k ∨ mem s k' = true := by
  unfold mem SortedMap.contains add
  rw [SortedMap.get?_insert]
  split <;> simp [*]

/-- The members of the set of a list are the elements of the list. -/
theorem mem_ofList {l : List κ} {k : κ} : mem (ofList l) k = true ↔ k ∈ l := by
  have hfold : ∀ (l : List κ) (s : SortedSet κ),
      mem (l.foldl add s) k = true ↔ k ∈ l ∨ mem s k = true := by
    intro l
    induction l with
    | nil => simp
    | cons a l ih =>
      intro s
      rw [List.foldl_cons, ih, mem_add, List.mem_cons]
      grind
  have hmem := hfold l SortedMap.empty
  rwa [mem_empty, Bool.false_eq_true, or_false] at hmem

end Adding

end SortedSet

end Nullness
