import Mathlib.Data.Prod.Lex

/-! # The first best of a list of positions

Some positions have a rank; the best is the one with the highest rank, and the first of those
that tie.  `FirstBest` says so, `select` finds it in one pass, and the two agree
(`select_eq_some_iff`).

Whatever a pass computes, the best does not depend on the others: it stays the best when others
go (`FirstBest.of_sub`), whichever positions they leave behind.  Ranks that put the ready
positions before the others and then compare a score have the best score among the ready
positions first, or the best score of all if they are alike (`FirstBest.lex_ready`,
`FirstBest.lex_alike`). -/

/-- Position `i` has the highest rank, `b`, and no position before it has that rank. -/
structure FirstBest {β : Type} [LinearOrder β] (rank : Nat → Option β) (i : Nat) (b : β) :
    Prop where
  here : rank i = some b
  le : ∀ j c, rank j = some c → c ≤ b
  first : ∀ j c, j < i → rank j = some c → c < b

namespace FirstBest

open Prod.Lex
variable {β γ : Type} [LinearOrder β] [LinearOrder γ] {rank rank' : Nat → Option β} {i i' n : Nat}
  {b b' : β}

theorem index_unique (h : FirstBest rank i b) (h' : FirstBest rank i' b') : i = i' := by
  rcases Nat.lt_trichotomy i i' with hlt | heq | hgt
  · exact absurd (h.le i' b' h'.here) (not_le.mpr (h'.first i b hlt h.here))
  · exact heq
  · exact absurd (h'.le i b h.here) (not_le.mpr (h.first i' b' hgt h'.here))

/-- **The best stays the best when others go.**  `φ` says where the remaining positions were. -/
theorem of_sub {φ : Nat → Nat} (h : FirstBest rank (φ i) b) (hφ : StrictMono φ)
    (hsub : ∀ j c, rank' j = some c → rank (φ j) = some c) (hhe : rank' i = some b) :
    FirstBest rank' i b where
  here := hhe
  le j c hj := h.le (φ j) c (hsub j c hj)
  first j c hlt hj := h.first (φ j) c (hφ hlt) (hsub j c hj)

/-! ## One pass -/

/-- The best of the positions below `n`, with its rank. -/
def select (rank : Nat → Option β) : Nat → Option (Nat × β)
  | 0 => none
  | n + 1 =>
      match rank n, select rank n with
      | none, best => best
      | some c, none => some (n, c)
      | some c, some (i, b) => if b < c then some (n, c) else some (i, b)

/-- What a pass over the positions below `n` knows: nothing has a rank, or which is the best. -/
def Seen (rank : Nat → Option β) (n : Nat) : Option (Nat × β) → Prop
  | none => ∀ j < n, rank j = none
  | some (i, b) => i < n ∧ rank i = some b ∧
      ∀ j < n, ∀ c, rank j = some c → c ≤ b ∧ (j < i → c < b)

theorem seen_select (rank : Nat → Option β) (n : Nat) : Seen rank n (select rank n) := by
  induction n with
  | zero => exact fun j hj => absurd hj (Nat.not_lt_zero j)
  | succ n ih =>
    rw [select]
    -- position `n` has no rank, the first one, a better one or one that is no better
    cases hn : rank n with
    | none =>
      cases hbt : select rank n with
      | none =>
        rw [hbt] at ih
        intro j hj
        rcases Nat.lt_succ_iff_lt_or_eq.mp hj with hlt | rfl
        · exact ih j hlt
        · exact hn
      | some best =>
        rw [hbt] at ih
        obtain ⟨hi, hhe, hall⟩ := ih
        refine ⟨Nat.lt_succ_of_lt hi, hhe, fun j hj c hc => ?_⟩
        rcases Nat.lt_succ_iff_lt_or_eq.mp hj with hlt | rfl
        · exact hall j hlt c hc
        · cases hn.symm.trans hc
    | some d =>
      cases hbt : select rank n with
      | none =>
        rw [hbt] at ih
        refine ⟨Nat.lt_succ_self n, hn, fun j hj c hc => ?_⟩
        rcases Nat.lt_succ_iff_lt_or_eq.mp hj with hlt | rfl
        · cases (ih j hlt).symm.trans hc
        cases hn.symm.trans hc
        exact ⟨le_rfl, fun h => absurd h (lt_irrefl _)⟩
      | some best =>
        rw [hbt] at ih
        obtain ⟨hi, hhe, hall⟩ := ih
        by_cases hlt : best.2 < d
        · simp only [if_pos hlt]
          refine ⟨Nat.lt_succ_self n, hn, fun j hj c hc => ?_⟩
          rcases Nat.lt_succ_iff_lt_or_eq.mp hj with hj | rfl
          · have hc := (hall j hj c hc).1.trans_lt hlt
            exact ⟨hc.le, fun _ => hc⟩
          · cases hn.symm.trans hc
            exact ⟨le_rfl, fun h => absurd h (lt_irrefl _)⟩
        · simp only [if_neg hlt]
          refine ⟨Nat.lt_succ_of_lt hi, hhe, fun j hj c hc => ?_⟩
          rcases Nat.lt_succ_iff_lt_or_eq.mp hj with hj | rfl
          · exact hall j hj c hc
          cases hn.symm.trans hc
          exact ⟨not_lt.mp hlt, fun h => absurd (h.trans hi) (lt_irrefl _)⟩

/-- **A pass over all positions that have a rank finds the best of them.** -/
theorem select_eq_some_iff (hn : ∀ j c, rank j = some c → j < n) :
    select rank n = some (i, b) ↔ FirstBest rank i b := by
  have hse := seen_select rank n
  constructor
  · intro h
    rw [h] at hse
    obtain ⟨_, hhe, hall⟩ := hse
    exact ⟨hhe, fun j c hj => (hall j (hn j c hj) c hj).1,
      fun j c hlt hj => (hall j (hn j c hj) c hj).2 hlt⟩
  · intro h
    cases hbt : select rank n with
    | none =>
      rw [hbt] at hse
      cases (hse i (hn i b h.here)).symm.trans h.here
    | some best =>
      rw [hbt] at hse
      obtain ⟨_, hhe, hall⟩ := hse
      have hfst : FirstBest rank best.1 best.2 :=
        ⟨hhe, fun j c hj => (hall j (hn j c hj) c hj).1,
          fun j c hlt hj => (hall j (hn j c hj) c hj).2 hlt⟩
      obtain rfl := hfst.index_unique h
      obtain rfl := Option.some.inj (hhe.symm.trans h.here)
      rfl

theorem exists_of_some (hn : ∀ j c, rank j = some c → j < n) (h : rank i = some b) :
    ∃ i b, FirstBest rank i b := by
  cases hbt : select rank n with
  | none =>
    have hse := seen_select rank n
    rw [hbt] at hse
    cases (hse i (hn i b h)).symm.trans h
  | some best => exact ⟨best.1, best.2, (select_eq_some_iff hn).mp hbt⟩

/-- Two passes select the same position when the best position is the same. -/
theorem select_fst_congr {rank : Nat → Option β} {rank' : Nat → Option γ}
    (hn : ∀ j c, rank j = some c → j < n) (hn' : ∀ j c, rank' j = some c → j < n)
    (h : ∀ i, (∃ b, FirstBest rank i b) ↔ ∃ c, FirstBest rank' i c) :
    (select rank n).map Prod.fst = (select rank' n).map Prod.fst := by
  refine Option.ext fun i => ?_
  have hlf : (select rank n).map Prod.fst = some i ↔ ∃ b, FirstBest rank i b := by
    simp [← select_eq_some_iff hn]
  have hrig : (select rank' n).map Prod.fst = some i ↔ ∃ c, FirstBest rank' i c := by
    simp [← select_eq_some_iff hn']
  rw [hlf, hrig, h i]

/-! ## Ready positions before the others -/

section Ready
variable {score : Nat → Option γ} {ready : Nat → Bool} {c : γ}

/-- The ranks that compare readiness, then a score. -/
def lex (ready : Nat → Bool) (score : Nat → Option γ) (j : Nat) : Option (Bool ×ₗ γ) :=
  (score j).map fun c => toLex (ready j, c)

/-- The scores of the ready positions. -/
def onlyReady (ready : Nat → Bool) (score : Nat → Option γ) (j : Nat) : Option γ :=
  if ready j then score j else none

omit [LinearOrder γ] in
theorem onlyReady_eq_some {j : Nat} :
    onlyReady ready score j = some c ↔ ready j = true ∧ score j = some c := by
  unfold onlyReady
  split
  · simp [*]
  · simp [*]

omit [LinearOrder γ] in
theorem lex_eq_some {j : Nat} {b : Bool ×ₗ γ} :
    lex ready score j = some b ↔ ∃ c, score j = some c ∧ toLex (ready j, c) = b :=
  Option.map_eq_some_iff

theorem lex_ready {j : Nat} {d : γ} (hready : onlyReady ready score j = some d) :
    (∃ b, FirstBest (lex ready score) i b) ↔ ∃ c, FirstBest (onlyReady ready score) i c := by
  obtain ⟨hj, hd⟩ := onlyReady_eq_some.mp hready
  constructor
  · rintro ⟨b, h⟩
    obtain ⟨c, hc, rfl⟩ := lex_eq_some.mp h.here
    -- the best is ready, for a ready position is not better
    have hi : ready i = true := by
      have hle := h.le j _ (lex_eq_some.mpr ⟨d, hd, rfl⟩)
      rw [toLex_le_toLex, hj] at hle
      rcases hle with hlt | ⟨heq, _⟩
      · exact absurd hlt (not_lt_of_ge (Bool.le_true _))
      · exact heq.symm
    refine ⟨c, onlyReady_eq_some.mpr ⟨hi, hc⟩, fun k e hk => ?_, fun k e hlt hk => ?_⟩
    · obtain ⟨hk, he⟩ := onlyReady_eq_some.mp hk
      have hle := h.le k _ (lex_eq_some.mpr ⟨e, he, rfl⟩)
      simpa [toLex_le_toLex, hi, hk] using hle
    · obtain ⟨hk, he⟩ := onlyReady_eq_some.mp hk
      have hlt := h.first k _ hlt (lex_eq_some.mpr ⟨e, he, rfl⟩)
      simpa [toLex_lt_toLex, hi, hk] using hlt
  · rintro ⟨c, h⟩
    obtain ⟨hi, hc⟩ := onlyReady_eq_some.mp h.here
    refine ⟨toLex (true, c), lex_eq_some.mpr ⟨c, hc, by rw [hi]⟩, fun k b hk => ?_,
      fun k b hlt hk => ?_⟩
    · obtain ⟨e, he, rfl⟩ := lex_eq_some.mp hk
      rw [toLex_le_toLex]
      cases hk : ready k with
      | false => exact .inl Bool.false_lt_true
      | true => exact .inr ⟨rfl, h.le k e (onlyReady_eq_some.mpr ⟨hk, he⟩)⟩
    · obtain ⟨e, he, rfl⟩ := lex_eq_some.mp hk
      rw [toLex_lt_toLex]
      cases hk : ready k with
      | false => exact .inl Bool.false_lt_true
      | true => exact .inr ⟨rfl, h.first k e hlt (onlyReady_eq_some.mpr ⟨hk, he⟩)⟩

theorem lex_alike {r : Bool} (hready : ∀ j c, score j = some c → ready j = r) :
    (∃ b, FirstBest (lex ready score) i b) ↔ ∃ c, FirstBest score i c := by
  constructor
  · rintro ⟨b, h⟩
    obtain ⟨c, hc, rfl⟩ := lex_eq_some.mp h.here
    refine ⟨c, hc, fun k e he => ?_, fun k e hlt he => ?_⟩
    · have hle := h.le k _ (lex_eq_some.mpr ⟨e, he, rfl⟩)
      simpa [toLex_le_toLex, hready k e he, hready i c hc] using hle
    · have hlt := h.first k _ hlt (lex_eq_some.mpr ⟨e, he, rfl⟩)
      simpa [toLex_lt_toLex, hready k e he, hready i c hc] using hlt
  · rintro ⟨c, h⟩
    refine ⟨toLex (r, c), lex_eq_some.mpr ⟨c, h.here, by rw [hready i c h.here]⟩,
      fun k b hk => ?_, fun k b hlt hk => ?_⟩
    · obtain ⟨e, he, rfl⟩ := lex_eq_some.mp hk
      rw [toLex_le_toLex, hready k e he]
      exact .inr ⟨rfl, h.le k e he⟩
    · obtain ⟨e, he, rfl⟩ := lex_eq_some.mp hk
      rw [toLex_lt_toLex, hready k e he]
      exact .inr ⟨rfl, h.first k e hlt he⟩

/-- **When positions stop being ready, the best stays** unless it is the best of the ready ones
that stops. -/
theorem lex_shrink {ready' : Nat → Bool} (hn : ∀ j c, score j = some c → j < n)
    (hsub : ∀ j, ready' j = true → ready j = true)
    (hkept : ∀ j c, FirstBest (onlyReady ready score) j c → ready' j = true) :
    (∃ b, FirstBest (lex ready score) i b) ↔ ∃ b, FirstBest (lex ready' score) i b := by
  by_cases hso : ∃ j d, onlyReady ready score j = some d
  · obtain ⟨j, d, hj⟩ := hso
    have hbd : ∀ k e, onlyReady ready score k = some e → k < n :=
      fun k e hk => hn k e (onlyReady_eq_some.mp hk).2
    obtain ⟨best, c, hbt⟩ := exists_of_some hbd hj
    have hsco := (onlyReady_eq_some.mp hbt.here).2
    have hhe : onlyReady ready' score best = some c :=
      onlyReady_eq_some.mpr ⟨hkept best c hbt, hsco⟩
    have hbt' : FirstBest (onlyReady ready' score) best c := by
      refine hbt.of_sub (φ := id) strictMono_id (fun k e hk => ?_) hhe
      obtain ⟨hready, he⟩ := onlyReady_eq_some.mp hk
      exact onlyReady_eq_some.mpr ⟨hsub k hready, he⟩
    rw [lex_ready hj, lex_ready hhe]
    constructor
    · rintro ⟨e, he⟩
      exact ⟨c, he.index_unique hbt ▸ hbt'⟩
    · rintro ⟨e, he⟩
      exact ⟨c, he.index_unique hbt' ▸ hbt⟩
  · -- nothing was ready and nothing is
    have hno : ∀ j c, score j = some c → ready j = false := by
      intro j c hj
      by_contra hready
      exact hso ⟨j, c, onlyReady_eq_some.mpr ⟨by simpa using hready, hj⟩⟩
    have hno' : ∀ j c, score j = some c → ready' j = false := by
      intro j c hj
      by_contra hready
      have htr := hsub j (by simpa using hready)
      rw [hno j c hj] at htr
      cases htr
    rw [lex_alike hno, lex_alike hno']

end Ready

end FirstBest
