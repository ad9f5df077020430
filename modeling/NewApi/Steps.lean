import Mathlib.Data.List.Basic

/-! # Runs of a labelled step relation

A system is a relation `step s i s'`: in state `s` the input `i` may lead to
`s'`.  `Run step s is s'` is the finite run that takes the inputs `is` in turn.
Safety arguments use one rule, `Run.invariant`: what every step keeps, every run
keeps. -/
namespace Steps
variable {σ ι : Type}

/-- The finite runs of a step relation, with the inputs they take. -/
inductive Run (step : σ → ι → σ → Prop) : σ → List ι → σ → Prop
  | nil (s : σ) : Run step s [] s
  | cons {s s' s'' : σ} {i : ι} {is : List ι} (h : step s i s') (t : Run step s' is s'') :
      Run step s (i :: is) s''

namespace Run
variable {step step' : σ → ι → σ → Prop}

/-- **The invariant rule.** -/
theorem invariant {I : σ → Prop} (hst : ∀ s i s', I s → step s i s' → I s')
    {s s' : σ} {is : List ι} (h : Run step s is s') (hs : I s) : I s' := by
  induction h with
  | nil => exact hs
  | cons h _ ih => exact ih (hst _ _ _ hs h)

/-- A run of a finer relation is a run of a coarser one. -/
theorem mono (hle : ∀ s i s', step s i s' → step' s i s') {s s' : σ} {is : List ι}
    (h : Run step s is s') : Run step' s is s' := by
  induction h with
  | nil s => exact .nil s
  | cons h _ ih => exact .cons (hle _ _ _ h) ih

/-- A run whose inputs all satisfy `P` is a run of the relation that asks for it. -/
theorem restrict {P : ι → Prop} {s s' : σ} {is : List ι} (h : Run step s is s')
    (hP : ∀ i ∈ is, P i) : Run (fun s i s' => step s i s' ∧ P i) s is s' := by
  induction h with
  | nil s => exact .nil s
  | cons h _ ih =>
    exact .cons ⟨h, hP _ List.mem_cons_self⟩ (ih fun i hi => hP i (List.mem_cons_of_mem _ hi))

theorem append {s s' s'' : σ} {is js : List ι} (h : Run step s is s') (h' : Run step s' js s'') :
    Run step s (is ++ js) s'' := by
  induction h with
  | nil => exact h'
  | cons h _ ih => exact .cons h (ih h')

/-- A run that takes `is ++ js` passes through a state between the two. -/
theorem of_append {s s'' : σ} {is js : List ι} (h : Run step s (is ++ js) s'') :
    ∃ s', Run step s is s' ∧ Run step s' js s'' := by
  induction is generalizing s with
  | nil => exact ⟨s, .nil s, h⟩
  | cons i is ih =>
    cases h with
    | cons h t =>
      obtain ⟨s', ht, ht'⟩ := ih t
      exact ⟨s', .cons h ht, ht'⟩

/-- The run of a function that computes the steps. -/
theorem foldl {f : σ → ι → σ} (hst : ∀ s i, step s i (f s i)) (s : σ) (is : List ι) :
    Run step s is (is.foldl f s) := by
  induction is generalizing s with
  | nil => exact .nil s
  | cons i is ih => exact .cons (hst s i) (ih _)

/-- The run of a function that computes the steps and may be stuck. -/
theorem foldlM {f : σ → ι → Option σ} (hst : ∀ s i s', f s i = some s' → step s i s')
    {s s' : σ} {is : List ι} (h : is.foldlM f s = some s') : Run step s is s' := by
  induction is generalizing s with
  | nil =>
    cases h
    exact .nil _
  | cons i is ih =>
    obtain ⟨s₁, h₁, h⟩ := Option.bind_eq_some_iff.mp h
    exact .cons (hst s i s₁ h₁) (ih h)

/-- **A bound on the length of runs**: every step uses up the measure, except that a free one may
add `c` to it. -/
theorem length_le {μ : σ → Nat} {free : ι → Bool} {c : Nat}
    (hst : ∀ s i s', step s i s' → if free i then μ s' ≤ μ s + c else μ s' < μ s)
    {s s' : σ} {is : List ι} (h : Run step s is s') :
    is.length + μ s' ≤ μ s + (c + 1) * is.countP free := by
  induction h with
  | nil => simp
  | @cons s s' s'' i is h _ ih =>
    have hone := hst s i s' h
    rw [List.length_cons, List.countP_cons, Nat.mul_add]
    split at hone <;> rename_i hfr <;> simp [hfr] <;> omega

end Run
end Steps
