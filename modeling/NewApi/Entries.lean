import Mathlib.Data.List.Basic

/-! # Lists and maps by position

A map from positions to values is a list of entries, of which the first with a position counts.
When some of the elements of a list go, what is noted about the others by position has to
move with them.

* `keep p n` are the positions below `n` that stay, and `pick p l` the elements of `l` there;
* `reindex olds m` is the map that has, at each position `i`, what `m` has at `olds[i]`. -/
namespace Entries
open List
variable {α : Type}

/-! ## Looking up -/

/-- Filtering by the key hides the keys that do not pass. -/
theorem lookup_filter {κ : Type} [DecidableEq κ] (p : κ → Bool) (k : κ) (m : List (κ × α)) :
    (m.filter fun e => p e.1).lookup k = if p k then m.lookup k else none := by
  induction m with
  | nil => simp
  | cons e m ih =>
    obtain ⟨i, a⟩ := e
    by_cases hki : k = i
    · subst hki
      by_cases hp : p k = true
      · simp [hp]
      · simp [hp, ih]
    · have hne : (k == i) = false := by simpa using hki
      by_cases hp : p i = true
      all_goals simp [hp, lookup_cons, hne, ih]

/-- An entry after others with other positions. -/
theorem lookup_concat (k i : Nat) (a : α) (m : List (Nat × α)) (hm : m.lookup i = none) :
    (m ++ [(i, a)]).lookup k = if k = i then some a else m.lookup k := by
  rw [lookup_append]
  by_cases hki : k = i
  · subst hki
    simp [hm]
  · have hne : (k == i) = false := by simpa using hki
    simp [hki, lookup_cons, hne]

/-! ## What stays of a list -/

/-- The positions below `n` that stay. -/
def keep (p : Nat → Bool) (n : Nat) : List Nat := (List.range n).filter p

/-- The elements at the positions that stay. -/
def pick (p : Nat → Bool) (l : List α) : List α := (keep p l.length).filterMap fun i => l[i]?

theorem keep_succ (p : Nat → Bool) (n : Nat) :
    keep p (n + 1) = (if p 0 then [0] else []) ++ (keep (fun i => p (i + 1)) n).map (· + 1) := by
  simp only [keep, range_succ_eq_map, filter_cons, filter_map]
  by_cases hp : p 0 = true
  · simp only [hp, if_true, singleton_append]
    rfl
  · simp only [hp]
    rfl

theorem mem_keep {p : Nat → Bool} {n i : Nat} : i ∈ keep p n ↔ i < n ∧ p i = true := by
  simp [keep]

theorem pick_cons (p : Nat → Bool) (a : α) (l : List α) :
    pick p (a :: l) = (if p 0 then [a] else []) ++ pick (fun i => p (i + 1)) l := by
  simp only [pick, length_cons, keep_succ, filterMap_append, filterMap_map]
  congr 1
  by_cases hp : p 0 = true
  · simp [hp]
  · simp [hp]

/-- The positions of the elements with a property. -/
theorem pick_filter (q : α → Bool) (p : Nat → Bool) (l : List α)
    (h : ∀ i a, l[i]? = some a → p i = q a) : pick p l = l.filter q := by
  induction l generalizing p with
  | nil => rfl
  | cons a l ih =>
    rw [pick_cons, ih (fun i => p (i + 1)) fun i b hb => h (i + 1) b (by simpa using hb),
      h 0 a rfl, filter_cons]
    by_cases hq : q a = true
    · simp [hq]
    · simp [hq]

/-- All but one position. -/
theorem pick_ne (i : Nat) (l : List α) : pick (fun j => decide (j ≠ i)) l = l.eraseIdx i := by
  induction l generalizing i with
  | nil => rfl
  | cons a l ih =>
    rw [pick_cons]
    cases i with
    | zero =>
      rw [pick_filter (fun _ => true) _ l fun j b _ => by simp]
      simp
    | succ i =>
      have hshi : (fun j => decide (j + 1 ≠ i + 1)) = fun j => decide (j ≠ i) := by
        funext j
        simp
      rw [hshi, ih]
      simp

theorem pick_map {β : Type} (p : Nat → Bool) (f : α → β) (l : List α) :
    pick p (l.map f) = (pick p l).map f := by
  simp only [pick, length_map, map_filterMap, getElem?_map]

/-- What stands at a new position. -/
theorem getElem?_pick (p : Nat → Bool) (l : List α) (j : Nat) :
    (pick p l)[j]? = ((keep p l.length)[j]?).bind fun i => l[i]? := by
  have hin : ∀ i ∈ keep p l.length, i < l.length := fun i hi => (mem_keep.mp hi).1
  simp only [pick]
  generalize keep p l.length = positions at hin
  induction positions generalizing j with
  | nil => simp
  | cons i positions ih =>
    obtain ⟨a, hi⟩ : ∃ a, l[i]? = some a :=
      ⟨_, getElem?_eq_getElem (hin i (mem_cons_self ..))⟩
    rw [filterMap_cons_some hi]
    cases j with
    | zero => simp [hi]
    | succ j =>
      simpa using ih j fun k hk => hin k (mem_cons_of_mem _ hk)

/-! ## Moving entries -/

/-- The entries of `m`, moved: position `i` gets what stands at the position `olds[i]`, if there
is one. -/
def reindex (olds : List (Option Nat)) (m : List (Nat × α)) : List (Nat × α) :=
  (List.range olds.length).filterMap fun i =>
    ((olds[i]?.join).bind fun old => m.lookup old).map fun a => (i, a)

theorem lookup_filterMap_range (f : Nat → Option α) (n k : Nat) :
    ((List.range n).filterMap fun i => (f i).map fun a => (i, a)).lookup k =
      if k < n then f k else none := by
  induction n with
  | zero => rfl
  | succ n ih =>
    rw [range_succ, filterMap_append, lookup_append, ih]
    rcases Nat.lt_trichotomy k n with hlt | heq | hgt
    · rw [if_pos hlt, if_pos (by omega)]
      have hne : (k == n) = false := by simpa using Nat.ne_of_lt hlt
      cases hn : f n with
      | none => simp [hn]
      | some a => simp [hn, lookup_cons, hne]
    · subst heq
      cases hk : f k with
      | none | some a => simp [hk]
    · rw [if_neg (by omega), if_neg (by omega)]
      have hne : (k == n) = false := by simpa using Nat.ne_of_gt hgt
      cases hn : f n with
      | none => simp [hn]
      | some a => simp [hn, lookup_cons, hne]

/-- **What a moved map has at a position.** -/
theorem lookup_reindex (olds : List (Option Nat)) (m : List (Nat × α)) (k : Nat) :
    (reindex olds m).lookup k = (olds[k]?.join).bind fun old => m.lookup old := by
  rw [reindex, lookup_filterMap_range (fun i => (olds[i]?.join).bind fun old => m.lookup old)]
  by_cases hk : k < olds.length
  · rw [if_pos hk]
  rw [if_neg hk, getElem?_eq_none (Nat.le_of_not_lt hk)]
  rfl

/-- A list together with old positions. -/
theorem mapIdx_join {β γ : Type} (f : α → Option β → γ) (l : List α) (olds : List (Option β))
    (hlen : olds.length = l.length) :
    (l.mapIdx fun i a => f a olds[i]?.join) = (l.zip olds).map fun e => f e.1 e.2 := by
  induction l generalizing olds with
  | nil => simp
  | cons a l ih =>
    cases olds with
    | nil => cases hlen
    | cons old olds =>
      have hih := ih olds (Nat.succ.inj hlen)
      simpa [mapIdx_cons] using hih

end Entries
