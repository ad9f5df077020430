import Mathlib.Data.List.Rotate

/-! # Taking turns

A ring is served in turns: at turn `r` it is the turn of the entry at `r`, counted round.  A log
of consecutive turns repeats nobody within one round (`Turns.nodup_of_infix`).

The ring is often not kept as such.  There are `n` positions, of which those with `p` take part,
and a cursor among all of them; the next to be served is the first participant from the cursor
on, and the cursor moves behind it.  `rank` counts the participants before the cursor.  It is the
turn of the ring of participants (`scan_eq_turn`), and serving one moves it by one
(`rank_next`). -/
namespace RoundRobin
open List

section Ring
variable {α : Type} {ring log : List α} {r : Nat}

/-- Whose turn it is. -/
def turn (ring : List α) (r : Nat) : Option α := ring[r % ring.length]?

/-- The log is what the ring serves from turn `r` on. -/
def Turns (ring : List α) (r : Nat) (log : List α) : Prop :=
  ∀ i < log.length, log[i]? = turn ring (r + i)

theorem turns_nil : Turns ring r [] := fun _ h => absurd h (Nat.not_lt_zero _)

theorem Turns.concat (h : Turns ring r log) {a : α} (ha : turn ring (r + log.length) = some a) :
    Turns ring r (log ++ [a]) := by
  intro i hi
  rw [length_append, length_singleton] at hi
  rcases Nat.lt_succ_iff_lt_or_eq.mp hi with hlt | rfl
  · rw [getElem?_append_left hlt]
    exact h i hlt
  · rw [getElem?_concat_length, ha]

theorem turn_mod (ring : List α) (r : Nat) : turn ring (r % ring.length) = turn ring r := by
  rw [turn, turn, Nat.mod_mod]

theorem mem_of_turn {a : α} (h : turn ring r = some a) : a ∈ ring := mem_of_getElem? h

/-- Two turns that are less than a round apart are of different entries. -/
theorem turn_ne (hri : ring.Nodup) {q : Nat} (hlt : r < q) (hrou : q < r + ring.length) :
    turn ring r ≠ turn ring q := by
  intro h
  have hpos : 0 < ring.length := by omega
  have hmod : r % ring.length = q % ring.length :=
    (getElem?_inj (Nat.mod_lt _ hpos) hri).mp h
  have hdvd := Nat.sub_mod_eq_zero_of_mod_eq hmod.symm
  rw [Nat.mod_eq_of_lt (by omega)] at hdvd
  omega

/-- **Nobody is served twice within a round.** -/
theorem Turns.nodup_of_infix (h : Turns ring r log) (hri : ring.Nodup) {w : List α}
    (hw : w <:+: log) (hlen : w.length ≤ ring.length) : w.Nodup := by
  obtain ⟨pre, post, rfl⟩ := hw
  -- an entry of the window is the one of its turn
  have hat : ∀ i < w.length, w[i]? = turn ring (r + (pre.length + i)) := by
    intro i hi
    rw [← h (pre.length + i) (by simp only [length_append]; omega), append_assoc,
      getElem?_append_right (by omega), Nat.add_sub_cancel_left, getElem?_append_left hi]
  rw [nodup_iff_getElem?_ne_getElem?]
  intro i j hij hj
  rw [hat i (by omega), hat j hj]
  exact turn_ne hri (by omega) (by omega)

theorem Turns.mem (h : Turns ring r log) {a : α} (ha : a ∈ log) : a ∈ ring := by
  obtain ⟨i, hi, hget⟩ := mem_iff_getElem.mp ha
  refine mem_of_turn (r := r + i) ?_
  rw [← h i hi, getElem?_eq_getElem hi, hget]

end Ring

section Cursor
variable {p : Nat → Bool} {n s i : Nat}

/-- The positions that take part. -/
def participants (p : Nat → Bool) (n : Nat) : List Nat := (List.range n).filter p

/-- The first participant from a cursor on, counted round. -/
def scan (p : Nat → Bool) (n s : Nat) : Option Nat :=
  ((List.range n).map fun i => (s + i) % n).find? p

/-- How many participants stand before a cursor. -/
def rank (p : Nat → Bool) (s : Nat) : Nat := (participants p s).length

theorem nodup_participants : (participants p n).Nodup := nodup_range.filter _

theorem mem_participants : i ∈ participants p n ↔ i < n ∧ p i = true := by
  simp [participants]

theorem map_range_eq_rotate (n s : Nat) :
    (List.range n).map (fun i => (s + i) % n) = (List.range n).rotate s := by
  refine ext_getElem (by simp) fun i hi hi' => ?_
  rw [getElem_rotate, getElem_map, getElem_range, getElem_range, length_range, Nat.add_comm]

/-- The participants before a cursor and those from it on. -/
theorem participants_split (hs : s ≤ n) :
    participants p n = participants p s ++ ((List.range n).drop s).filter p := by
  have hta : (List.range n).take s = List.range s := by
    rw [take_range, Nat.min_eq_left hs]
  rw [participants, participants, ← hta, ← filter_append, take_append_drop]

theorem scan_eq_turn (hs : s ≤ n) : scan p n s = turn (participants p n) (rank p s) := by
  have hrot : ((List.range n).rotate s).filter p = (participants p n).rotate (rank p s) := by
    rw [rotate_eq_drop_append_take (by simpa using hs), filter_append,
      participants_split hs, rank, rotate_append_length_eq, take_range,
      Nat.min_eq_left hs, participants]
  rw [scan, map_range_eq_rotate, ← head?_filter, hrot, turn]
  rcases Nat.eq_zero_or_pos (participants p n).length with hnil | hpos
  · rw [length_eq_zero_iff.mp hnil]
    simp
  · rw [← rotate_mod, head?_rotate (Nat.mod_lt _ hpos)]

theorem getElem?_participants (hi : i < n) (hp : p i = true) :
    (participants p n)[rank p i]? = some i := by
  rw [rank, participants_split hi.le, getElem?_append_right le_rfl, Nat.sub_self,
    drop_eq_getElem_cons (by simpa using hi), getElem_range, filter_cons_of_pos hp]
  rfl

theorem rank_succ (hp : p i = true) : rank p (i + 1) = rank p i + 1 := by
  rw [rank, rank, participants, participants, range_succ, filter_append,
    length_append, filter_cons_of_pos hp]
  rfl

/-- **Serving one moves the turn by one.** -/
theorem rank_next (hs : s ≤ n) (h : scan p n s = some i) :
    rank p ((i + 1) % n) % (participants p n).length =
      (rank p s + 1) % (participants p n).length := by
  rw [scan_eq_turn hs] at h
  obtain ⟨hi, hp⟩ := mem_participants.mp (mem_of_turn h)
  have hat := getElem?_participants hi hp
  have hlt := (List.getElem?_eq_some_iff.mp hat).1
  -- the participant is at its rank and at its turn, so the two are the same
  have hra : rank p i = rank p s % (participants p n).length :=
    (getElem?_inj hlt nodup_participants).mp (hat.trans h.symm)
  have htn : (rank p s + 1) % (participants p n).length =
      rank p (i + 1) % (participants p n).length := by
    rw [rank_succ hp, hra, Nat.mod_add_mod]
  rw [htn]
  rcases Nat.lt_or_ge (i + 1) n with hin | hend
  · rw [Nat.mod_eq_of_lt hin]
  obtain rfl : n = i + 1 := by omega
  rw [Nat.mod_self, ← rank, Nat.mod_self]
  exact Nat.zero_mod _

end Cursor
end RoundRobin
