import Mathlib.Data.List.GetD
import Mathlib.Order.Lattice

/-! # Ladders

A ladder has rungs at descending heights, with gaps of any size, and goes on in steps of one
beyond both ends.  Positions are counted downwards from the top rung, which is 0; those above it
are negative.

`height` is the height at a position.  It falls with every step (`height_strictAnti`), so heights
compare as positions do.  `position` goes back: to the rung of a height, or to the next rung below
one that lies between two (`position_height`, `position_antitone`). -/

/-- Some rungs at descending heights. -/
structure Ladder where
  rungs : List Int
  nonempty : rungs ≠ []
  descending : rungs.Pairwise (· > ·)

namespace Ladder
open List
variable (l : Ladder)

/-- The height of the top rung. -/
def top : Int := l.rungs.getD 0 0

/-- The height of the bottom rung. -/
def bottom : Int := l.rungs.getD (l.rungs.length - 1) 0

/-- The height at a position. -/
def height (pos : Int) : Int :=
  if pos < 0 then l.top - pos
  else if pos < l.rungs.length then l.rungs.getD pos.toNat 0
  else l.bottom - (pos - l.rungs.length + 1)

/-- The position of a height, or of the next rung below it. -/
def position (h : Int) : Int :=
  if l.top < h then -(h - l.top)
  else if h < l.bottom then (l.rungs.length - 1 : Int) + (l.bottom - h)
  else (l.rungs.findIdx (· ≤ h) : Int)

theorem length_pos : 0 < l.rungs.length := length_pos_iff.mpr l.nonempty

theorem getD_lt {i j : Nat} (hij : i < j) (hj : j < l.rungs.length) :
    l.rungs.getD j 0 < l.rungs.getD i 0 := by
  have hi : i < l.rungs.length := hij.trans hj
  rw [getD_eq_getElem _ _ hi, getD_eq_getElem _ _ hj]
  exact pairwise_iff_getElem.mp l.descending i j hi hj hij

theorem getD_le {i j : Nat} (hij : i ≤ j) (hj : j < l.rungs.length) :
    l.rungs.getD j 0 ≤ l.rungs.getD i 0 := by
  rcases Nat.eq_or_lt_of_le hij with rfl | hlt
  · exact le_rfl
  · exact (l.getD_lt hlt hj).le

theorem height_nonneg {i : Nat} (hi : i < l.rungs.length) : l.height i = l.rungs.getD i 0 := by
  rw [height, if_neg (by omega), if_pos (by omega), Int.toNat_natCast]

/-- **Every step leads down.** -/
theorem height_strictAnti {a b : Int} (hab : a < b) : l.height b < l.height a := by
  have hpos := l.length_pos
  unfold height
  rcases lt_or_ge a 0 with ha | ha
  · rcases lt_or_ge b 0 with hb | hb
    · omega
    rcases lt_or_ge b l.rungs.length with hb' | hb'
    · have hle := l.getD_le (Nat.zero_le b.toNat) (by omega)
      rw [if_pos hb', top]
      omega
    · have hle := l.getD_le (Nat.zero_le (l.rungs.length - 1)) (by omega)
      rw [if_neg (by omega), top, bottom]
      omega
  · rw [if_neg (by omega : ¬ a < 0), if_neg (by omega : ¬ b < 0)]
    rcases lt_or_ge a l.rungs.length with ha' | ha'
    · rw [if_pos ha']
      rcases lt_or_ge b l.rungs.length with hb' | hb'
      · rw [if_pos hb']
        exact l.getD_lt (by omega) (by omega)
      · have hle := l.getD_le (show a.toNat ≤ l.rungs.length - 1 by omega) (by omega)
        rw [if_neg (by omega), bottom]
        omega
    · omega

theorem height_lt_iff {a b : Int} : l.height a < l.height b ↔ b < a :=
  StrictAnti.lt_iff_gt fun _ _ => l.height_strictAnti

/-- The rung found for a height that is not below the bottom. -/
theorem findIdx_lt {h : Int} (hh : l.bottom ≤ h) : l.rungs.findIdx (· ≤ h) < l.rungs.length := by
  have hpos := l.length_pos
  refine findIdx_lt_length_of_exists ⟨l.bottom, ?_, by simpa using hh⟩
  rw [bottom, getD_eq_getElem _ _ (by omega)]
  exact getElem_mem _

/-- **A height leads back to its position.** -/
theorem position_height (pos : Int) : l.position (l.height pos) = pos := by
  have hpos := l.length_pos
  have hen := l.getD_le (Nat.zero_le (l.rungs.length - 1)) (by omega)
  rw [← top, ← bottom] at hen
  rcases lt_or_ge pos 0 with hneg | hnon
  · rw [height, if_pos hneg, position, if_pos (by omega)]
    omega
  rcases lt_or_ge pos l.rungs.length with hlt | hge
  · obtain ⟨i, rfl⟩ := Int.eq_ofNat_of_zero_le hnon
    have hi : i < l.rungs.length := by omega
    have htop := l.getD_le (Nat.zero_le i) hi
    have hbot := l.getD_le (show i ≤ l.rungs.length - 1 by omega) (by omega)
    rw [l.height_nonneg hi, position, if_neg (by rw [top]; omega), if_neg (by rw [bottom]; omega)]
    -- the rungs above are higher, so this one is the first that is no higher than itself
    refine congrArg _ ((findIdx_eq hi).mpr ⟨?_, fun j hj => ?_⟩)
    · rw [getD_eq_getElem _ _ hi]
      simp
    · have hgt := l.getD_lt hj hi
      rw [getD_eq_getElem _ _ (hj.trans hi)] at hgt
      simpa using hgt
  · rw [height, if_neg (by omega), if_neg (by omega), position, if_neg (by omega),
      if_pos (by omega)]
    omega

/-- **A greater height has no greater position**, rung or not. -/
theorem position_antitone {h k : Int} (hhk : h ≤ k) : l.position k ≤ l.position h := by
  unfold position
  rcases lt_or_ge l.top k with hk | hk
  · split
    · omega
    split
    · omega
    · omega
  rw [if_neg (by omega), if_neg (by omega : ¬ l.top < h)]
  rcases lt_or_ge h l.bottom with hh | hh
  · split
    · omega
    have hlt := l.findIdx_lt (h := k) (by omega)
    omega
  · -- what is no higher than `h` is no higher than `k`
    have hfound : l.rungs.findIdx (· ≤ k) ≤ l.rungs.findIdx (· ≤ h) := by
      refine findIdx_le_findIdx fun x _ hx => ?_
      simp only [decide_eq_true_eq] at hx ⊢
      omega
    omega

end Ladder
