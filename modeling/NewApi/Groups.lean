import Mathlib.Data.List.Nodup
import Mathlib.Data.Set.Function

/-! # Groups in order of first appearance

Elements that come mixed and carry a key are put together by key, and the groups stand in the
order in which their keys first appear.  A receiver of a stream puts fragments together this way.

Two facts make it useful.  Elements that come group after group give these groups back
(`groups_flatMap`).  And the sender may rename the keys: groups by new names are groups by key
(`groups_comp`).  `number` names keys by numbers, a new key by the next number, so that the keys
seen so far are named by their positions (`number_zipIdx`). -/
namespace Groups
open List
variable {α β κ μ : Type} [DecidableEq κ] [DecidableEq μ]

/-- The keys of the elements, in order of first appearance. -/
def keys (f : α → κ) (l : List α) : List κ := (l.map f).eraseDups

/-- The elements of each key, in order of first appearance of the keys. -/
def groups (f : α → κ) (l : List α) : List (List α) :=
  (keys f l).map fun k => l.filter fun a => f a = k

theorem nodup_eraseDups (l : List κ) : l.eraseDups.Nodup := by
  match l with
  | [] => simp
  | k :: l =>
    rw [eraseDups_cons, nodup_cons]
    refine ⟨?_, nodup_eraseDups (l.filter fun b => !b == k)⟩
    simp [mem_eraseDups] termination_by l.length
decreasing_by exact Nat.lt_succ_of_le (length_filter_le _ _)

theorem nodup_keys (f : α → κ) (l : List α) : (keys f l).Nodup := nodup_eraseDups _

variable {f : α → κ} {l : List α}

theorem mem_keys {k : κ} : k ∈ keys f l ↔ ∃ a ∈ l, f a = k := by
  simp [keys, mem_eraseDups]

theorem eraseDups_of_forall_eq {k : κ} {l : List κ} (hne : l ≠ []) (hl : ∀ b ∈ l, b = k) :
    l.eraseDups = [k] := by
  match l with
  | b :: l =>
    have hb : b = k := hl b mem_cons_self
    have hno : l.filter (fun c => !c == b) = [] := by
      rw [filter_eq_nil_iff]
      intro c hc
      simp [hb, hl c (mem_cons_of_mem _ hc)]
    rw [eraseDups_cons, hno, eraseDups_nil, hb]

theorem removeAll_of_disjoint {l seen : List κ} (h : ∀ k ∈ l, k ∉ seen) : l.removeAll seen = l := by
  rw [List.removeAll, filter_eq_self]
  intro k hk
  simpa using h k hk

/-! ## Groups that come one after the other -/

section
variable {f : α → κ} {k : β → κ} {items : β → List α} {bs : List β}

/-- The first of the parts gives the first key. -/
theorem keys_flatMap (hne : ∀ b ∈ bs, items b ≠ [])
    (hkey : ∀ b ∈ bs, ∀ a ∈ items b, f a = k b) (hnd : (bs.map k).Nodup) :
    keys f (bs.flatMap items) = bs.map k := by
  induction bs with
  | nil => rfl
  | cons b bs ih =>
    rw [map_cons, nodup_cons] at hnd
    have hfst : ((items b).map f).eraseDups = [k b] := by
      refine eraseDups_of_forall_eq (by simpa using hne b mem_cons_self) ?_
      intro c hc
      obtain ⟨a, ha, rfl⟩ := mem_map.mp hc
      exact hkey b mem_cons_self a ha
    have hre : ((bs.flatMap items).map f).removeAll ((items b).map f) =
        (bs.flatMap items).map f := by
      refine removeAll_of_disjoint ?_
      intro c hc hmem
      obtain ⟨a, ha, rfl⟩ := mem_map.mp hc
      obtain ⟨b', hb', ha'⟩ := mem_flatMap.mp ha
      obtain ⟨a', ha'', heq⟩ := mem_map.mp hmem
      rw [hkey b mem_cons_self a' ha'', hkey b' (mem_cons_of_mem _ hb') a ha'] at heq
      exact hnd.1 (heq ▸ mem_map_of_mem hb')
    have hks := ih (fun b' hb' => hne b' (mem_cons_of_mem _ hb'))
      (fun b' hb' => hkey b' (mem_cons_of_mem _ hb')) hnd.2
    rw [keys] at hks
    rw [keys, flatMap_cons, map_append, eraseDups_append, hfst, hre, hks]
    rfl

/-- What one key selects from parts with different keys is its part. -/
theorem filter_flatMap (hkey : ∀ b ∈ bs, ∀ a ∈ items b, f a = k b)
    (hnd : (bs.map k).Nodup) {b : β} (hb : b ∈ bs) :
    (bs.flatMap items).filter (fun a => f a = k b) = items b := by
  induction bs with
  | nil => simp at hb
  | cons c bs ih =>
    rw [map_cons, nodup_cons] at hnd
    have hkey' : ∀ b' ∈ bs, ∀ a ∈ items b', f a = k b' := fun b' hb' =>
      hkey b' (mem_cons_of_mem _ hb')
    rw [flatMap_cons, filter_append]
    rcases mem_cons.mp hb with rfl | hb
    · have hse : (items b).filter (fun a => f a = k b) = items b := by
        rw [filter_eq_self]
        exact fun a ha => decide_eq_true (hkey b mem_cons_self a ha)
      have hoth : (bs.flatMap items).filter (fun a => f a = k b) = [] := by
        rw [filter_eq_nil_iff]
        intro a ha hab
        obtain ⟨b', hb', ha'⟩ := mem_flatMap.mp ha
        rw [decide_eq_true_eq, hkey' b' hb' a ha'] at hab
        exact hnd.1 (hab ▸ mem_map_of_mem hb')
      rw [hse, hoth, append_nil]
    · have hoth : (items c).filter (fun a => f a = k b) = [] := by
        rw [filter_eq_nil_iff]
        intro a ha hab
        rw [decide_eq_true_eq, hkey c mem_cons_self a ha] at hab
        exact hnd.1 (hab ▸ mem_map_of_mem hb)
      rw [hoth, nil_append, ih hkey' hnd.2 hb]

/-- **Parts that come one after the other are the groups.** -/
theorem groups_flatMap (hne : ∀ b ∈ bs, items b ≠ [])
    (hkey : ∀ b ∈ bs, ∀ a ∈ items b, f a = k b) (hnd : (bs.map k).Nodup) :
    groups f (bs.flatMap items) = bs.map items := by
  rw [groups, keys_flatMap hne hkey hnd, map_map]
  exact map_congr_left fun b hb => filter_flatMap hkey hnd hb

end

/-! ## Renamed keys -/

variable {g : κ → μ}

theorem eraseDups_map (l : List κ) (hg : Set.InjOn g {k | k ∈ l}) :
    (l.map g).eraseDups = l.eraseDups.map g := by
  match l with
  | [] => rfl
  | k :: l =>
    have hfil : (l.map g).filter (fun b => !b == g k) = (l.filter fun b => !b == k).map g := by
      rw [filter_map]
      refine congrArg (List.map g) (filter_congr ?_)
      intro b hb
      have hiff : g b = g k ↔ b = k :=
        ⟨fun h => hg (mem_cons_of_mem _ hb) mem_cons_self h, fun h => h ▸ rfl⟩
      simp [hiff]
    rw [map_cons, eraseDups_cons, hfil, eraseDups_cons, map_cons,
      eraseDups_map (l.filter fun b => !b == k)
        (hg.mono fun b hb => mem_cons_of_mem _ (mem_of_mem_filter hb))] termination_by l.length
decreasing_by exact Nat.lt_succ_of_le (length_filter_le _ _)

theorem keys_comp (hg : Set.InjOn g {k | k ∈ keys f l}) : keys (g ∘ f) l = (keys f l).map g := by
  have hg' : Set.InjOn g {k | k ∈ l.map f} :=
    hg.mono fun k hk => mem_eraseDups.mpr hk
  rw [keys, keys, ← map_map, eraseDups_map _ hg']

/-- **Groups do not depend on how the keys are named.** -/
theorem groups_comp (hg : Set.InjOn g {k | k ∈ keys f l}) : groups (g ∘ f) l = groups f l := by
  rw [groups, groups, keys_comp hg, map_map]
  refine map_congr_left fun k hk => filter_congr fun a ha => ?_
  have hiff : g (f a) = g k ↔ f a = k :=
    ⟨fun h => hg (mem_keys.mpr ⟨a, ha, rfl⟩) hk h, fun h => h ▸ rfl⟩
  simp [hiff]

/-- Elements changed without their keys are grouped as before. -/
theorem groups_map {f' : β → κ} {h : α → β} (hf : ∀ a, f' (h a) = f a) (l : List α) :
    groups f' (l.map h) = (groups f l).map (List.map h) := by
  have hco : f' ∘ h = f := funext hf
  rw [groups, groups, keys, keys, map_map, map_map, hco]
  refine map_congr_left fun k _ => ?_
  rw [Function.comp_apply, filter_map]
  refine congrArg (List.map h) (filter_congr fun a _ => ?_)
  rw [Function.comp_apply, hf]

/-! ## Numbers for keys -/

/-- A key that has a number keeps it, a new one gets the next. -/
def number (table : List (κ × Nat)) (k : κ) : List (κ × Nat) × Nat :=
  match table.lookup k with
  | some n => (table, n)
  | none => (table ++ [(k, table.length)], table.length)

theorem lookup_zipIdx (seen : List κ) (n : Nat) (k : κ) :
    (seen.zipIdx n).lookup k = if k ∈ seen then some (n + seen.idxOf k) else none := by
  induction seen generalizing n with
  | nil => simp
  | cons c seen ih =>
    rw [zipIdx_cons, lookup_cons, ih, idxOf_cons]
    by_cases h : k = c
    · simp [h]
    have hck : (c == k) = false := by simpa using fun heq => h heq.symm
    simp only [beq_eq_false_iff_ne.mpr h, hck, cond_false, mem_cons, h, false_or]
    split
    · congr 1
      omega
    · rfl

/-- The table holds the keys it has seen with their positions. -/
theorem number_zipIdx (seen : List κ) (k : κ) : number seen.zipIdx k =
      if k ∈ seen then (seen.zipIdx, seen.idxOf k) else ((seen ++ [k]).zipIdx, seen.length) := by
  simp only [number, lookup_zipIdx, Nat.zero_add]
  by_cases h : k ∈ seen
  · simp [h]
  · simp [h, zipIdx_append]

end Groups
