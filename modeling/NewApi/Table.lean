import Mathlib.Data.List.Sort
import Mathlib.Tactic.Abel

/-! # Tables with a primary key

A table is a list of rows no two of which share a key, so a lookup by key has at
most one answer and a row can be replaced in place.  Statements are modelled the
way a relational database runs them: `create` refuses a row whose key is taken,
`save` replaces the row with the same key (and is a no-op when there is none),
`updateWhere` rewrites and `deleteWhere` deletes every row a predicate selects.

The sums of a column over the rows are what accounting invariants are about;
`sum_save` says how `save` moves them. -/
namespace Db
open List

/-- A list of rows with pairwise distinct keys. -/
structure Table {κ α : Type} (key : α → κ) where
  /-- The rows, oldest first. -/
  rows : List α
  /-- No two rows share a key. -/
  nodup : (rows.map key).Nodup

namespace Table
variable {κ α : Type} {key : α → κ}

/-- The table without rows. -/
def empty : Table key := ⟨[], List.nodup_nil⟩

theorem eq_of_key_eq (t : Table key) {a b : α} (ha : a ∈ t.rows) (hb : b ∈ t.rows)
    (h : key a = key b) : a = b :=
  inj_on_of_nodup_map t.nodup ha hb h

variable [DecidableEq κ]

/-- The row with key `k`. -/
def find? (t : Table key) (k : κ) : Option α := t.rows.find? (fun a => key a = k)

variable {a : α} (t : Table key)

theorem find?_eq_some_iff {k : κ} : t.find? k = some a ↔ a ∈ t.rows ∧ key a = k := by
  constructor
  · intro h
    exact ⟨mem_of_find?_eq_some h, by simpa using find?_some h⟩
  rintro ⟨hmem, rfl⟩
  cases hf : t.find? (key a) with
  | none => exact absurd (find?_eq_none.mp hf a hmem) (by simp)
  | some b =>
    have hb : b ∈ t.rows := mem_of_find?_eq_some hf
    have hk : key b = key a := by simpa using find?_some hf
    rw [t.eq_of_key_eq hb hmem hk]

theorem find?_eq_none_iff {k : κ} : t.find? k = none ↔ ∀ a ∈ t.rows, key a ≠ k := by
  simp [find?, find?_eq_none]

/-- Replace the row that has `a`'s key by `a`. -/
def save (t : Table key) (a : α) : Table key where
  rows := t.rows.map (fun b => if key b = key a then a else b)
  nodup := by
    have h : (t.rows.map (fun b => if key b = key a then a else b)).map key = t.rows.map key := by
      rw [List.map_map]
      refine List.map_congr_left fun b _ => ?_
      by_cases hb : key b = key a
      · simp [hb]
      · simp [hb]
    rw [h]
    exact t.nodup

theorem mem_save {a b : α} :
    b ∈ (t.save a).rows ↔ (b ∈ t.rows ∧ key b ≠ key a) ∨ (b = a ∧ ∃ c ∈ t.rows, key c = key a) := by
  simp only [save, mem_map]
  constructor
  · rintro ⟨c, hc, rfl⟩
    by_cases h : key c = key a
    · rw [if_pos h]
      exact .inr ⟨rfl, c, hc, h⟩
    · rw [if_neg h]
      exact .inl ⟨hc, h⟩
  · rintro (⟨hb, h⟩ | ⟨rfl, c, hc, h⟩)
    · exact ⟨b, hb, if_neg h⟩
    · exact ⟨c, hc, if_pos h⟩

theorem find?_save_ne {k : κ} (h : key a ≠ k) : (t.save a).find? k = t.find? k := by
  ext b
  rw [find?_eq_some_iff, find?_eq_some_iff, mem_save]
  constructor
  · rintro ⟨⟨hb, -⟩ | ⟨rfl, -⟩, hk⟩
    · exact ⟨hb, hk⟩
    · exact absurd hk h
  · rintro ⟨hb, hk⟩
    exact ⟨.inl ⟨hb, fun he => h (he.symm.trans hk)⟩, hk⟩

theorem find?_save_self {a b : α} (h : t.find? (key a) = some b) :
    (t.save a).find? (key a) = some a := by
  obtain ⟨hb, hk⟩ := t.find?_eq_some_iff.mp h
  exact (find?_eq_some_iff _).mpr ⟨t.mem_save.mpr (.inr ⟨rfl, b, hb, hk⟩), rfl⟩

/-- Insert `a`, unless its key is taken. -/
def create (t : Table key) (a : α) : Option (Table key) :=
  if h : key a ∈ t.rows.map key then none
  else some ⟨t.rows ++ [a], by
    rw [List.map_append]
    exact t.nodup.append (List.nodup_singleton _) (by simpa using h)⟩

theorem rows_create {t' : Table key} (h : t.create a = some t') :
    t'.rows = t.rows ++ [a] ∧ t.find? (key a) = none := by
  unfold create at h
  split at h
  · cases h
  rename_i hk
  cases h
  refine ⟨rfl, t.find?_eq_none_iff.mpr fun b hb he => hk ?_⟩
  exact mem_map.mpr ⟨b, hb, he⟩

/-- Insert `a`, or replace the row that has its key. -/
def put (t : Table key) (a : α) : Table key := (t.create a).getD (t.save a)

theorem find?_put (a : α) (k : κ) :
    (t.put a).find? k = if k = key a then some a else t.find? k := by
  unfold put
  cases hcreate : t.create a with
  | none =>
    -- the key is taken, so its row is replaced
    obtain ⟨b, hb⟩ : ∃ b, t.find? (key a) = some b := by
      by_contra hno
      rw [← Option.ne_none_iff_exists', ne_eq, not_not, find?_eq_none_iff] at hno
      unfold create at hcreate
      split at hcreate
      · rename_i hmem
        obtain ⟨b, hb, hkey⟩ := mem_map.mp hmem
        exact hno b hb hkey
      · cases hcreate
    by_cases hk : k = key a
    · rw [if_pos hk, hk]
      exact t.find?_save_self hb
    · rw [if_neg hk]
      exact t.find?_save_ne (Ne.symm hk)
  | some t' =>
    obtain ⟨hrows, hno⟩ := t.rows_create hcreate
    rw [Option.getD_some, find?, hrows, find?_append]
    by_cases hk : k = key a
    · rw [if_pos hk, hk]
      unfold find? at hno
      simp [hno]
    · rw [if_neg hk]
      simp [find?, Ne.symm hk]

omit [DecidableEq κ] in
/-- Rewrite by `f` every row that `p` selects.  `f` leaves keys alone. -/
def updateWhere (t : Table key) (p : α → Bool) (f : α → α) (hf : ∀ a, key (f a) = key a) :
    Table key where
  rows := t.rows.map (fun a => if p a then f a else a)
  nodup := by
    have h : (t.rows.map (fun a => if p a then f a else a)).map key = t.rows.map key := by
      rw [List.map_map]
      refine List.map_congr_left fun a _ => ?_
      cases hp : p a <;> simp [hp, hf]
    rw [h]
    exact t.nodup

theorem find?_updateWhere (p : α → Bool) (f : α → α) (hf : ∀ a, key (f a) = key a) (k : κ) :
    (t.updateWhere p f hf).find? k = (t.find? k).map (fun a => if p a then f a else a) := by
  have hkey : (fun a => decide (key a = k)) ∘ (fun a => if p a then f a else a) =
      fun a => decide (key a = k) := by
    funext a
    cases hp : p a <;> simp [hp, hf]
  rw [find?, updateWhere, find?_map, hkey]
  rfl

variable {p : α → Bool}

/-- An update that selects one row. -/
theorem find?_updateWhere_one {f : α → α}
    (hf : ∀ a, key (f a) = key a) (ha : t.find? (key a) = some a) (hp : p a = true)
    (hon : ∀ b, p b = true → key b = key a) (k : κ) :
    (t.updateWhere p f hf).find? k = if k = key a then some (f a) else t.find? k := by
  rw [find?_updateWhere]
  by_cases hk : k = key a
  · rw [if_pos hk, hk, ha, Option.map_some, if_pos hp]
  rw [if_neg hk]
  cases hfd : t.find? k with
  | none => rfl
  | some b =>
    have hb : key b = k := (t.find?_eq_some_iff.mp hfd).2
    rw [Option.map_some, if_neg fun hpb => hk (hb.symm.trans (hon b hpb))]

omit [DecidableEq κ] in
/-- Delete the rows that `p` selects. -/
def deleteWhere (t : Table key) (p : α → Bool) : Table key where
  rows := t.rows.filter fun a => !p a
  nodup := t.nodup.sublist (List.filter_sublist.map key)

omit [DecidableEq κ] in
theorem mem_deleteWhere : a ∈ (t.deleteWhere p).rows ↔ a ∈ t.rows ∧ p a = false := by
  simp [deleteWhere]

theorem find?_deleteWhere (p : α → Bool) (k : κ) :
    (t.deleteWhere p).find? k = (t.find? k).filter fun a => !p a := by
  ext a
  rw [find?_eq_some_iff, mem_deleteWhere, Option.filter_eq_some_iff, find?_eq_some_iff]
  simp only [Bool.not_eq_eq_eq_not, Bool.not_true]
  tauto

theorem find?_create {t' : Table key} (h : t.create a = some t') (k : κ) :
    t'.find? k = if k = key a then some a else t.find? k := by
  have hput : t.put a = t' := by
    rw [put, h]
    rfl
  rw [← hput]
  exact t.find?_put a k

theorem create_of_find?_eq_none (h : t.find? (key a) = none) : ∃ t', t.create a = some t' := by
  have hfr : key a ∉ t.rows.map key := by
    intro hmem
    obtain ⟨b, hb, hkey⟩ := mem_map.mp hmem
    exact t.find?_eq_none_iff.mp h b hb hkey
  exact ⟨_, dif_neg hfr⟩

omit [DecidableEq κ] in
/-- `updateWhere`, or nothing when no row is affected. -/
def update? (t : Table key) (p : α → Bool) (f : α → α) (hf : ∀ a, key (f a) = key a) :
    Option (Table key) :=
  if t.rows.any p then some (t.updateWhere p f hf) else none

omit [DecidableEq κ] in
theorem update?_eq_some {f : α → α} {hf : ∀ a, key (f a) = key a}
    {t' : Table key} (h : t.update? p f hf = some t') :
    t' = t.updateWhere p f hf ∧ ∃ a ∈ t.rows, p a = true := by
  unfold update? at h
  split at h
  · rename_i hany
    exact ⟨(Option.some.inj h).symm, any_eq_true.mp hany⟩
  · cases h

omit [DecidableEq κ] in
theorem update?_of_mem {f : α → α} {hf : ∀ a, key (f a) = key a}
    (ha : a ∈ t.rows) (hp : p a = true) : t.update? p f hf = some (t.updateWhere p f hf) :=
  if_pos (any_eq_true.mpr ⟨a, ha, hp⟩)

/-- Insert `a`, or do nothing when its key is taken. -/
def insertNew (t : Table key) (a : α) : Table key := (t.create a).getD t

theorem rows_insertNew (h : ∀ b ∈ t.rows, key b ≠ key a) :
    (t.insertNew a).rows = t.rows ++ [a] := by
  have hfr : key a ∉ t.rows.map key := by
    intro hmem
    obtain ⟨b, hb, hkey⟩ := mem_map.mp hmem
    exact h b hb hkey
  rw [insertNew, create, dif_neg hfr]
  rfl

theorem rows_foldl_insertNew {l : List α} (hnd : (l.map key).Nodup)
    (h : ∀ a ∈ l, ∀ b ∈ t.rows, key b ≠ key a) : (l.foldl insertNew t).rows = t.rows ++ l := by
  induction l generalizing t with
  | nil => simp
  | cons a l ih =>
    rw [map_cons, nodup_cons] at hnd
    have hrows := t.rows_insertNew (h a mem_cons_self)
    rw [foldl_cons, ih _ hnd.2, hrows, append_assoc]
    · rfl
    intro c hc b hb
    rw [hrows, mem_append, mem_singleton] at hb
    rcases hb with hb | rfl
    · exact h c (mem_cons_of_mem _ hc) b hb
    intro heq
    exact hnd.1 (mem_map.mpr ⟨c, hc, heq.symm⟩)

/-- Insert all, or nothing when a key is taken. -/
def createAll (t : Table key) : List α → Option (Table key)
  | [] => some t
  | a :: l =>
      match t.create a with
      | none => none
      | some t' => t'.createAll l

theorem rows_createAll {t t' : Table key} {l : List α} (h : t.createAll l = some t') :
    t'.rows = t.rows ++ l := by
  induction l generalizing t with
  | nil =>
    cases h
    simp
  | cons a l ih =>
    unfold createAll at h
    split at h
    · cases h
    rename_i t₁ hcreate
    rw [ih h, (t.rows_create hcreate).1, append_assoc]
    rfl

/-! ## Column sums -/

section Sum
variable {M : Type} [AddCommGroup M]

/-- Saving a row moves a column sum by the difference of the two rows. -/
theorem sum_save (g : α → M) {a old : α} (h : t.find? (key a) = some old) :
    ((t.save a).rows.map g).sum = (t.rows.map g).sum - g old + g a := by
  obtain ⟨hmem, hk⟩ := t.find?_eq_some_iff.mp h
  obtain ⟨l, r, hsplit⟩ := append_of_mem hmem
  have hnd := t.nodup
  rw [hsplit, map_append, map_cons] at hnd
  -- keys are unique, so `save` replaces the one row and keeps those around it
  have hoth : ∀ b, b ∈ l ∨ b ∈ r → key b ≠ key a := by
    intro b hb he
    have hold : key old ∉ l.map key ∧ key old ∉ r.map key := by
      have := nodup_middle.mp hnd
      rw [nodup_cons, mem_append, not_or] at this
      exact this.1
    rcases hb with hb | hb
    · exact hold.1 (mem_map.mpr ⟨b, hb, he.trans hk.symm⟩)
    · exact hold.2 (mem_map.mpr ⟨b, hb, he.trans hk.symm⟩)
  have hkept : ∀ x : List α, (∀ b ∈ x, key b ≠ key a) →
      x.map (fun b => if key b = key a then a else b) = x := by
    intro x hx
    conv_rhs => rw [← map_id x]
    exact map_congr_left fun b hb => if_neg (hx b hb)
  have hrows : (t.save a).rows = l ++ a :: r := by
    show t.rows.map _ = _
    rw [hsplit, map_append, map_cons, if_pos hk,
      hkept l fun b hb => hoth b (.inl hb), hkept r fun b hb => hoth b (.inr hb)]
  rw [hrows, hsplit]
  simp only [map_append, map_cons, sum_append, sum_cons]
  abel

omit [DecidableEq κ] in
/-- Replacing an element of a list moves a sum over it. -/
theorem sum_map_set {l : List α} {i : Nat} {a : α} (hi : l[i]? = some a) (b : α) (g : α → M) :
    ((l.set i b).map g).sum = (l.map g).sum - g a + g b := by
  induction l generalizing i with
  | nil => cases hi
  | cons c l ih =>
    cases i with
    | zero =>
      cases hi
      simp only [set_cons_zero, map_cons, sum_cons]
      abel
    | succ i =>
      have hre : l[i]? = some a := hi
      simp only [set_cons_succ, map_cons, sum_cons, ih hre]
      abel

/-- A sum over the rows with key `k` is what the row of `k` contributes. -/
theorem sum_ite_key {l : List α} (hnd : (l.map key).Nodup) (k : κ) (g : α → M) :
    (l.map fun a => if key a = k then g a else 0).sum =
      ((l.find? fun a => key a = k).map g).getD 0 := by
  induction l with
  | nil => rfl
  | cons a l ih =>
    rw [map_cons, nodup_cons] at hnd
    rw [map_cons, sum_cons, ih hnd.2]
    by_cases hk : key a = k
    · -- no other row has the key
      have hno : l.find? (fun b => key b = k) = none := by
        rw [find?_eq_none]
        intro b hb hkb
        exact hnd.1 (mem_map.mpr ⟨b, hb, (of_decide_eq_true hkb).trans hk.symm⟩)
      simp [hk, hno]
    · simp [hk]

end Sum
end Table

/-! ## The first row of an ordering -/

section First
variable {α : Type} (r : α → α → Prop) [DecidableRel r]

/-- `ORDER BY … LIMIT 1`. -/
def firstBy (l : List α) : Option α := (l.insertionSort r).head?

theorem firstBy_eq_none {l : List α} (h : firstBy r l = none) : l = [] := by
  have hnil : l.insertionSort r = [] := head?_eq_none_iff.mp h
  have hlen := length_insertionSort r l
  rw [hnil] at hlen
  exact length_eq_zero_iff.mp hlen.symm

variable [Std.Total r] [IsTrans α r]

theorem firstBy_eq_some {l : List α} {a : α} (h : firstBy r l = some a) :
    a ∈ l ∧ ∀ b ∈ l, r a b := by
  obtain ⟨rest, hso⟩ := head?_eq_some_iff.mp h
  have hsor := pairwise_insertionSort r l
  rw [hso, pairwise_cons] at hsor
  have hmem : ∀ b, b ∈ l ↔ b = a ∨ b ∈ rest := by
    intro b
    rw [← mem_insertionSort r, hso, mem_cons]
  refine ⟨(hmem a).mpr (.inl rfl), fun b hb => ?_⟩
  rcases (hmem b).mp hb with rfl | hre
  · rcases Std.Total.total (r := r) b b with h | h <;> exact h
  · exact hsor.1 b hre

end First
end Db
