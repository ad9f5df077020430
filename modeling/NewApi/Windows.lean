import Mathlib.Algebra.Order.Monoid.Unbundled.Basic

/-! # Sliding windows

How many of a list of times fall into a window of fixed width, wherever it
starts.  `Bounded.concat` is what a limiter relies on: a time may be added while
fewer than the limit still count. -/
namespace Windows
open List
variable {T : Type} [Add T] [LinearOrder T]

/-- How many times lie in the window that starts at `start`. -/
def count (width start : T) (times : List T) : Nat :=
  times.countP fun t => start ≤ t ∧ t < start + width

/-- How many times still count at `now`. -/
def recent (width now : T) (times : List T) : Nat := times.countP fun t => now < t + width

/-- No window holds more times than the limit. -/
def Bounded (width : T) (limit : Nat) (times : List T) : Prop :=
  ∀ start, count width start times ≤ limit

theorem recent_append (width now : T) (l r : List T) :
    recent width now (l ++ r) = recent width now l + recent width now r :=
  countP_append

theorem recent_le_length (width now : T) (l : List T) : recent width now l ≤ l.length :=
  countP_le_length

/-- Times that are over by now do not count. -/
theorem recent_eq_zero {width now : T} {l : List T} (h : ∀ t ∈ l, t + width ≤ now) :
    recent width now l = 0 := by
  refine countP_eq_zero.mpr fun t ht => ?_
  simpa using h t ht

variable {width : T} {limit : Nat} {times : List T}

theorem bounded_nil : Bounded width limit ([] : List T) := fun _ => Nat.zero_le _

/-- A time in the window was there before, or is the new one. -/
theorem count_concat (width start now : T) (times : List T) : count width start (times ++ [now]) =
      count width start times + if start ≤ now ∧ now < start + width then 1 else 0 := by
  simp [count, countP_append, countP_singleton]

/-- **A time may be added** while fewer than the limit still count. -/
theorem Bounded.concat [AddRightMono T] (h : Bounded width limit times) {now : T}
    (hrec : recent width now times < limit) : Bounded width limit (times ++ [now]) := by
  intro start
  rw [count_concat]
  split
  · rename_i hin
    -- what is in a window with `now` still counts at `now`
    have hle : count width start times ≤ recent width now times := by
      refine countP_mono_left fun t _ ht => ?_
      simp only [decide_eq_true_eq] at ht ⊢
      exact hin.2.trans_le (add_le_add_left ht.1 width)
    omega
  · exact h start

/-- Fewer times count later. -/
theorem recent_anti [AddRightMono T] {now later : T} (h : now ≤ later) (times : List T) :
    recent width later times ≤ recent width now times := by
  refine countP_mono_left fun t _ ht => ?_
  simp only [decide_eq_true_eq] at ht ⊢
  exact h.trans_lt ht

/-! ## Remembering only the last times

To see whether fewer than `limit` times still count, the last `limit` of them are enough, and times
that are over need not be among them. -/

/-- **The times that are kept are enough**: those before them are over, or `limit` times are
kept. -/
structure Suffices (width : T) (limit : Nat) (clock : T) (times kept : List T) : Prop where
  kept_suffix : ∃ dropped, times = dropped ++ kept ∧
    (kept.length = limit ∨ ∀ t ∈ dropped, t + width ≤ clock)
  short : kept.length ≤ limit
  sorted : times.Pairwise (· ≤ ·)
  past : ∀ t ∈ times, t ≤ clock

namespace Suffices
variable {clock now : T} {kept : List T}

theorem nil (width : T) (limit : Nat) (clock : T) : Suffices width limit clock [] [] :=
  ⟨⟨[], rfl, .inr (by simp)⟩, Nat.zero_le _, List.Pairwise.nil, by simp⟩

section
variable (h : Suffices width limit clock times kept)
include h

/-- Time goes on. -/
theorem later (hle : clock ≤ now) : Suffices width limit now times kept := by
  obtain ⟨dropped, hsplit, hen⟩ := h.kept_suffix
  refine ⟨⟨dropped, hsplit, ?_⟩, h.short, h.sorted, fun t ht => (h.past t ht).trans hle⟩
  rcases hen with hfu | hov
  · exact .inl hfu
  · exact .inr fun t ht => (hov t ht).trans hle

theorem sorted_concat (hle : clock ≤ now) : (times ++ [now]).Pairwise (· ≤ ·) := by
  refine pairwise_append.mpr ⟨h.sorted, pairwise_singleton _ _, ?_⟩
  intro t ht t' ht'
  rw [mem_singleton.mp ht']
  exact (h.past t ht).trans hle

theorem past_concat (hle : clock ≤ now) : ∀ t ∈ times ++ [now], t ≤ now := by
  intro t ht
  rcases mem_append.mp ht with ht | ht
  · exact (h.past t ht).trans hle
  · exact (mem_singleton.mp ht).le

theorem push (hle : clock ≤ now)
    (hrm : kept.length < limit) : Suffices width limit now (times ++ [now]) (kept ++ [now]) := by
  obtain ⟨dropped, hsplit, hen⟩ := (h.later hle).kept_suffix
  refine ⟨⟨dropped, ?_, .inr ?_⟩, ?_, h.sorted_concat hle, h.past_concat hle⟩
  · rw [hsplit, append_assoc]
  · rcases hen with hfu | hov
    · omega
    · exact hov
  · rw [length_append, length_singleton]
    exact hrm

end

/-- The times before the first that is kept are not later than it. -/
theorem dropped_le {dropped rest : List T} {first : T}
    (h : Suffices width limit clock (dropped ++ first :: rest) (first :: rest)) :
    ∀ t ∈ dropped, t ≤ first := by
  intro t ht
  exact (pairwise_append.mp h.sorted).2.2 t ht first mem_cons_self

/-- A time is added in the place of the first one that is kept, of `limit` many or when that one
is over. -/
theorem shift [AddRightMono T] {first : T} {rest : List T}
    (h : Suffices width limit clock times (first :: rest)) (hle : clock ≤ now)
    (hfst : rest.length + 1 = limit ∨ first + width ≤ now) :
    Suffices width limit now (times ++ [now]) (rest ++ [now]) := by
  have hsho := h.short
  obtain ⟨dropped, rfl, -⟩ := h.kept_suffix
  refine ⟨⟨dropped ++ [first], by simp, ?_⟩, by simpa using hsho, h.sorted_concat hle,
    h.past_concat hle⟩
  rcases hfst with hfu | hov
  · exact .inl (by simpa using hfu)
  refine .inr fun t ht => ?_
  rcases mem_append.mp ht with ht | ht
  · exact (add_le_add_left (h.dropped_le t ht) width).trans hov
  rw [mem_singleton.mp ht]
  exact hov

/-- Times that are over are forgotten. -/
theorem forget [AddRightMono T] (h : Suffices width limit clock times kept) (hle : clock ≤ now)
    (hlim : 1 ≤ limit) (hov : ∀ t ∈ kept, t + width ≤ now) : Suffices width limit now times [] := by
  refine ⟨⟨times, by simp, .inr ?_⟩, Nat.zero_le _, h.sorted, fun t ht => (h.past t ht).trans hle⟩
  obtain ⟨dropped, rfl, hen⟩ := h.kept_suffix
  intro t ht
  rcases mem_append.mp ht with hdr | hkept
  · rcases hen with hfu | hdrop
    · -- there is a first one that is kept, and `t` is not later
      cases kept with
      | nil =>
        rw [length_nil] at hfu
        omega
      | cons first rest =>
        have hfst := hov first mem_cons_self
        exact (add_le_add_left (h.dropped_le t hdr) width).trans hfst
    · exact (hdrop t hdr).trans hle
  · exact hov t hkept

/-- **What is kept tells whether there is room**: fewer than `limit` times are kept, or the first
of them is over. -/
theorem room_iff [AddRightMono T] (h : Suffices width limit clock times kept) (hle : clock ≤ now) :
    (kept.length < limit ∨ ∃ first ∈ kept.head?, first + width ≤ now) ↔
      recent width now times < limit := by
  have hsho := h.short
  obtain ⟨dropped, rfl, hen⟩ := (h.later hle).kept_suffix
  rw [recent_append]
  constructor
  · rintro (hrm | ⟨first, hfst, hov⟩)
    · rcases hen with hfu | hdrop
      · omega
      have hle := recent_le_length width now kept
      rw [recent_eq_zero hdrop]
      omega
    · obtain ⟨rest, rfl⟩ := head?_eq_some_iff.mp hfst
      have hdrop : recent width now dropped = 0 := by
        refine recent_eq_zero fun t ht => ?_
        exact (add_le_add_left (h.dropped_le t ht) width).trans hov
      have hfst : recent width now [first] = 0 := by
        refine recent_eq_zero fun t ht => ?_
        rw [mem_singleton.mp ht]
        exact hov
      have hre : recent width now (first :: rest) = recent width now rest := by
        rw [← singleton_append, recent_append, hfst, Nat.zero_add]
      have hle := recent_le_length width now rest
      rw [length_cons] at hsho
      omega
  · intro hrec
    by_contra hno
    rw [not_or, not_exists] at hno
    obtain ⟨hfu, hfst⟩ := hno
    -- no time that is kept is over, since the first is not
    have hall : recent width now kept = kept.length := by
      refine countP_eq_length.mpr fun t ht => ?_
      rw [decide_eq_true_eq]
      cases kept with
      | nil => cases ht
      | cons first rest =>
        have hnot : now < first + width := by
          have := hfst first
          simpa using this
        have hsor := (pairwise_append.mp h.sorted).2.1
        rcases mem_cons.mp ht with rfl | ht
        · exact hnot
        · exact hnot.trans_le (add_le_add_left ((pairwise_cons.mp hsor).1 t ht) width)
    omega

end Suffices

end Windows
