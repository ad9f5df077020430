import NewApi.Entries
import NewApi.Steps
import NewApi.TieredParams

/-! # The cache of compiled pricing expressions

`UsedVars` reads the cache, compiles and stores the expression when it is not there, and
reads it back, in critical sections of their own.  Any other caller may empty the cache
in between, by `InvalidateCache` or by storing into a full cache; the names are then lost
(`usedVars_lost`), and nothing is subtracted from the prompt for the sub-categories the
expression prices.  A call whose entry is not dropped returns the names of its expression
(`usedVars_eq_identifiers`). -/
namespace NewApi.CompileCache
open Function Steps

/-- What the cache is built from. -/
structure Compiler where
  exprHashString : String → String
  /-- `expr.Compile` with `extractUsedVars`. -/
  identifiers : String → Option (List String)

def maxCacheSize : Nat := 256

/-- The critical section a call enters next. -/
inductive Pc where
  /-- The first read of `UsedVars`. -/
  | look
  /-- The read of `compileFromCacheByHash`. -/
  | probe
  | store (vars : List String)
  /-- The last read of `UsedVars`. -/
  | readBack
  | done (result : Option (List String))
  deriving DecidableEq

/-- A call of `UsedVars`, or of `CompileFromCache` or `CompileFromCacheByHash` with the
hash of its expression. -/
structure Call where
  expr : String
  wantsVars : Bool
  pc : Pc

abbrev Cache := List (String × List String)

structure State where
  cache : Cache
  calls : Nat → Call

inductive Event where
  | run (call : Nat)
  | invalidateCache
  deriving DecidableEq

/-- `cache[hash] = entry`, into a new map when the old one is full. -/
def Cache.store (cache : Cache) (hash : String) (vars : List String) : Cache :=
  (hash, vars) :: if maxCacheSize ≤ cache.length then [] else cache.filter fun e => e.1 ≠ hash

/-- One critical section of a call, with what follows it up to the next. -/
def Call.step (k : Compiler) (cache : Cache) (c : Call) : Cache × Pc :=
  match c.pc with
  | .look =>
      if c.expr = "" then (cache, .done none)
      else match cache.lookup (k.exprHashString c.expr) with
      | some vars => (cache, .done (some vars))
      | none => (cache, .probe)
  | .probe =>
      match cache.lookup (k.exprHashString c.expr) with
      | some vars => (cache, if c.wantsVars then .readBack else .done (some vars))
      | none =>
        match k.identifiers c.expr with
        | none => (cache, .done none)
        | some vars => (cache, .store vars)
  | .store vars =>
      (cache.store (k.exprHashString c.expr) vars,
        if c.wantsVars then .readBack else .done (some vars))
  | .readBack => (cache, .done (cache.lookup (k.exprHashString c.expr)))
  | .done result => (cache, .done result)

def step (k : Compiler) (s : State) : Event → State
  | .run i =>
      let next := (s.calls i).step k s.cache
      ⟨next.1, Function.update s.calls i { s.calls i with pc := next.2 }⟩
  | .invalidateCache => { s with cache := [] }

/-- The event does not empty the cache while the call `i` is about to read back. -/
def Spares (i : Nat) (s : State) : Event → Prop
  | .run j => (s.calls i).pc = .readBack → ∀ vars, (s.calls j).pc = .store vars →
      s.cache.length < maxCacheSize
  | .invalidateCache => (s.calls i).pc ≠ .readBack

/-- The call has not entered a critical section. -/
def Call.Fresh (c : Call) : Prop := c.pc = if c.wantsVars then .look else .probe

/-- How many critical sections are left at most. -/
def Pc.left : Pc → Nat
  | .look => 4
  | .probe => 3
  | .store _ => 2
  | .readBack => 1
  | .done _ => 0

/-- What a call knows about its expression. -/
def Call.Knows (k : Compiler) (cache : Cache) (c : Call) : Prop :=
  match c.pc with
  | .store vars => k.identifiers c.expr = some vars
  | .readBack => cache.lookup (k.exprHashString c.expr) = k.identifiers c.expr
  | .done result => result = k.identifiers c.expr
  | _ => True

/-- The entries are those of their expressions, and the calls know theirs: the call `i` at
every point, the others at their stores.  `exprs` are the expressions of the calls that run. -/
structure Sound (k : Compiler) (i : Nat) (exprOf : Nat → String) (exprs : Set String) (s : State) :
    Prop where
  entries : ∀ expr ∈ exprs, ∀ vars, s.cache.lookup (k.exprHashString expr) = some vars →
    k.identifiers expr = some vars
  stores : ∀ j vars, (s.calls j).pc = .store vars → k.identifiers (s.calls j).expr = some vars
  expr : ∀ j, (s.calls j).expr = exprOf j
  knows : (s.calls i).Knows k s.cache

section
variable {k : Compiler} {i : Nat} {exprOf : Nat → String} {exprs : Set String} {s s' : State}
  {es : List Event}

/-- What a critical section does to the cache: only a store writes. -/
theorem step_fst (c : Call) (cache : Cache) : (c.step k cache).1 =
    match c.pc with
    | .store vars => cache.store (k.exprHashString c.expr) vars
    | _ => cache := by
  cases hpc : c.pc with
  | look =>
    by_cases hempty : c.expr = ""
    · simp [Call.step, hpc, hempty]
    · cases hl : cache.lookup (k.exprHashString c.expr) with
      | none | some vars => simp [Call.step, hpc, hempty, hl]
  | probe =>
    cases hl : cache.lookup (k.exprHashString c.expr) with
    | some vars => simp [Call.step, hpc, hl]
    | none =>
      cases hid : k.identifiers c.expr with
      | none | some vars => simp [Call.step, hpc, hl, hid]
  | store vars => simp [Call.step, hpc]
  | readBack => simp [Call.step, hpc]
  | done result => simp [Call.step, hpc]

/-- Where a critical section leads: a store follows a probe, and each one is nearer to the end. -/
theorem step_snd (c : Call) (cache : Cache) :
    (∀ vars, (c.step k cache).2 = .store vars → k.identifiers c.expr = some vars) ∧
      (c.step k cache).2.left ≤ c.pc.left - 1 := by
  cases hpc : c.pc with
  | look =>
    by_cases hempty : c.expr = ""
    · simp [Call.step, hpc, hempty, Pc.left]
    · cases hl : cache.lookup (k.exprHashString c.expr) with
      | none | some vars => simp [Call.step, hpc, hempty, hl, Pc.left]
  | probe =>
    cases hl : cache.lookup (k.exprHashString c.expr) with
    | some vars => cases hw : c.wantsVars <;> simp [Call.step, hpc, hl, hw, Pc.left]
    | none =>
      cases hid : k.identifiers c.expr with
      | none | some vars => simp [Call.step, hpc, hl, hid, Pc.left]
  | store vars => cases hw : c.wantsVars <;> simp [Call.step, hpc, hw, Pc.left]
  | readBack => simp [Call.step, hpc, Pc.left]
  | done result => simp [Call.step, hpc, Pc.left]

theorem left_run (h : Run (fun s e s' => s' = step k s e) s es s') :
    (s'.calls i).pc.left + es.count (.run i) ≤ max (s.calls i).pc.left (es.count (.run i)) := by
  induction h with
  | nil => simp
  | @cons s _ _ event es h _ ih =>
    subst h
    cases event with
    | invalidateCache => simpa [step] using ih
    | run j =>
      by_cases hj : j = i
      · subst hj
        have hle := (@step_snd k (s.calls j) s.cache).2
        simp only [step, update_self] at ih
        simp only [List.count_cons_self]
        omega
      · simpa [step, update_of_ne (Ne.symm hj), hj] using ih

variable (hinj : Set.InjOn k.exprHashString exprs)
include hinj

theorem lookup_store (cache : Cache) {expr other : String} (vars : List String)
    (hexpr : expr ∈ exprs) (hother : other ∈ exprs) :
    (cache.store (k.exprHashString expr) vars).lookup (k.exprHashString other) =
      if other = expr then some vars else if maxCacheSize ≤ cache.length then none
      else cache.lookup (k.exprHashString other) := by
  by_cases he : other = expr
  · simp [Cache.store, he]
  · have hne : k.exprHashString other ≠ k.exprHashString expr := fun h => he (hinj hother hexpr h)
    have hne' : (k.exprHashString other == k.exprHashString expr) = false := by simpa using hne
    simp only [Cache.store, List.lookup_cons, hne', if_neg he]
    split
    · rfl
    · rw [Entries.lookup_filter (fun key => key ≠ k.exprHashString expr)]
      simp [hne]

/-- A call learns nothing wrong. -/
theorem knows_step {cache : Cache} {c : Call} (hk : c.Knows k cache) (hne : c.expr ≠ "")
    (hexpr : c.expr ∈ exprs)
    (hent : ∀ vars, cache.lookup (k.exprHashString c.expr) = some vars →
      k.identifiers c.expr = some vars) :
    { c with pc := (c.step k cache).2 }.Knows k (c.step k cache).1 := by
  unfold Call.Knows at hk
  cases hpc : c.pc with
  | look =>
    cases hl : cache.lookup (k.exprHashString c.expr) with
    | none => simp [Call.Knows, Call.step, hpc, hne, hl]
    | some vars => simp [Call.Knows, Call.step, hpc, hne, hl, hent vars hl]
  | probe =>
    cases hl : cache.lookup (k.exprHashString c.expr) with
    | none => cases hid : k.identifiers c.expr <;> simp [Call.Knows, Call.step, hpc, hl, hid]
    | some vars =>
      cases hw : c.wantsVars <;> simp [Call.Knows, Call.step, hpc, hl, hw, hent vars hl]
  | store vars =>
    rw [hpc] at hk
    have hstored := lookup_store hinj cache vars hexpr hexpr
    cases hw : c.wantsVars <;> simp [Call.Knows, Call.step, hpc, hw, hk, hstored]
  | readBack =>
    simpa [Call.Knows, Call.step, hpc] using hk
  | done result =>
    simpa [Call.Knows, Call.step, hpc] using hk

/-- A step of another call leaves what the call `i` knows, if it spares it. -/
theorem knows_other (h : Sound k i exprOf exprs s) {j : Nat} (hi : exprOf i ∈ exprs)
    (hj : exprOf j ∈ exprs) (hspares : Spares i s (.run j)) :
    (s.calls i).Knows k ((s.calls j).step k s.cache).1 := by
  have hknows := h.knows
  rw [step_fst]
  unfold Call.Knows at hknows ⊢
  cases hpc : (s.calls i).pc with
  | look | probe => trivial
  | store vars | done result =>
    rw [hpc] at hknows
    exact hknows
  | readBack =>
    rw [hpc] at hknows
    cases hpcj : (s.calls j).pc with
    | look | probe | readBack | done => exact hknows
    | store vars =>
      have hroom := Nat.not_le.mpr (hspares hpc vars hpcj)
      rw [← h.expr i] at hi
      rw [← h.expr j] at hj
      dsimp only
      rw [lookup_store hinj s.cache vars hj hi]
      by_cases hsame : (s.calls i).expr = (s.calls j).expr
      · rw [if_pos hsame, hsame]
        exact (h.stores j vars hpcj).symm
      · rw [if_neg hsame, if_neg hroom]
        exact hknows

theorem entries_step (h : Sound k i exprOf exprs s) {j : Nat} (hj : exprOf j ∈ exprs)
    {expr : String} (hexpr : expr ∈ exprs) (vars : List String)
    (hl : ((s.calls j).step k s.cache).1.lookup (k.exprHashString expr) = some vars) :
    k.identifiers expr = some vars := by
  rw [step_fst] at hl
  cases hpc : (s.calls j).pc with
  | look | probe | readBack | done =>
    rw [hpc] at hl
    exact h.entries expr hexpr vars hl
  | store names =>
    rw [hpc] at hl
    rw [← h.expr j] at hj
    dsimp only at hl
    rw [lookup_store hinj s.cache names hj hexpr] at hl
    split at hl
    · rename_i hsame
      rw [hsame, ← hl]
      exact h.stores j names hpc
    split at hl
    · cases hl
    · exact h.entries expr hexpr vars hl

theorem Sound.step (h : Sound k i exprOf exprs s) (hne : exprOf i ≠ "") (hi : exprOf i ∈ exprs)
    {event : Event} (hruns : ∀ j, event = .run j → exprOf j ∈ exprs)
    (hspares : Spares i s event) : Sound k i exprOf exprs (step k s event) := by
  cases event with
  | invalidateCache =>
    refine ⟨fun _ _ _ hl => (by cases hl), h.stores, h.expr, ?_⟩
    have hknows := h.knows
    unfold Call.Knows at hknows ⊢
    dsimp only [CompileCache.step]
    cases hpc : (s.calls i).pc with
    | readBack => exact absurd hpc hspares
    | look | probe => trivial
    | store vars | done result =>
      rw [hpc] at hknows
      exact hknows
  | run j =>
    have hj := hruns j rfl
    have hstored := (@step_snd k (s.calls j) s.cache).1
    refine ⟨fun expr hexpr => entries_step hinj h hj hexpr, fun l vars hl => ?_, fun l => ?_, ?_⟩
    · by_cases hlj : l = j
      · subst hlj
        simp only [CompileCache.step, update_self] at hl ⊢
        exact hstored vars hl
      · simp only [CompileCache.step, update_of_ne hlj] at hl ⊢
        exact h.stores l vars hl
    · by_cases hlj : l = j
      · subst hlj
        simpa [CompileCache.step] using h.expr l
      · simpa [CompileCache.step, update_of_ne hlj] using h.expr l
    · by_cases hij : i = j
      · subst hij
        simp only [CompileCache.step, update_self]
        rw [← h.expr i] at hne hi
        exact knows_step hinj h.knows hne hi (h.entries _ hi)
      · simp only [CompileCache.step, update_of_ne hij]
        exact knows_other hinj h hi hj hspares

omit hinj in
/-- **`UsedVars` returns the names of its expression**, or none if it does not compile,
after at most four critical sections, whatever the other calls do, when none of them
empties the cache before the last of the four. -/
theorem usedVars_eq_identifiers
    (hhash : ∀ a b, .run a ∈ es → .run b ∈ es →
      k.exprHashString (s.calls a).expr = k.exprHashString (s.calls b).expr →
      (s.calls a).expr = (s.calls b).expr)
    (hcache : s.cache = []) (hfresh : ∀ j, (s.calls j).Fresh)
    (hne : (s.calls i).expr ≠ "")
    (hrun : Run (fun s e s' => s' = step k s e ∧ Spares i s e) s es s')
    (hsteps : 4 ≤ es.count (.run i)) :
    (s'.calls i).pc = .done (k.identifiers (s.calls i).expr) := by
  let exprs : Set String := { expr | ∃ j, .run j ∈ es ∧ (s.calls j).expr = expr }
  have hinj : Set.InjOn k.exprHashString exprs := by
    rintro _ ⟨a, ha, rfl⟩ _ ⟨b, hb, rfl⟩ he
    exact hhash a b ha hb he
  have hi : (s.calls i).expr ∈ exprs :=
    ⟨i, List.count_pos_iff.mp (Nat.lt_of_lt_of_le (by decide) hsteps), rfl⟩
  have hstart : Sound k i (fun j => (s.calls j).expr) exprs s := by
    have hpc : ∀ j, (s.calls j).pc = .look ∨ (s.calls j).pc = .probe := by
      intro j
      have hj := hfresh j
      unfold Call.Fresh at hj
      split at hj
      · exact .inl hj
      · exact .inr hj
    refine ⟨by simp [hcache], fun j vars hj => ?_, fun _ => rfl, ?_⟩
    · rcases hpc j with h | h <;> simp [h] at hj
    · rcases hpc i with h | h <;> simp [Call.Knows, h]
  have hends : Sound k i (fun j => (s.calls j).expr) exprs s' := by
    refine (hrun.restrict fun e he => he).invariant (fun t event t' h hst => ?_) hstart
    rw [hst.1.1]
    refine h.step hinj hne hi (fun j hj => ⟨j, ?_, rfl⟩) hst.1.2
    exact hj ▸ hst.2
  have hleft := @left_run k i _ _ _ (hrun.mono fun _ _ _ h => h.1)
  have hmax : (s.calls i).pc.left ≤ 4 := by cases (s.calls i).pc <;> simp [Pc.left]
  have hzero : (s'.calls i).pc.left = 0 := by omega
  have hknows := hends.knows
  rw [← hends.expr i]
  cases hpc : (s'.calls i).pc with
  | done result => simpa [Call.Knows, hpc] using hknows
  | look | probe | store | readBack => simp [hpc, Pc.left] at hzero

end

/-- An expression that prices cached tokens, and its variables. -/
def sampleCompiler : Compiler where
  exprHashString := id
  identifiers := fun expr => if expr = "tier(p + cr)" then some ["tier", "p", "cr"] else none

/-- Calls of `UsedVars` for it, before a cache that is empty. -/
def sampleState : State := ⟨[], fun _ => ⟨"tier(p + cr)", true, .look⟩⟩

/-- The cache is emptied while the call compiles, and another call takes its steps. -/
theorem usedVars_eq_identifiers_beside : ∃ s',
    Run (fun s e s' => s' = step sampleCompiler s e ∧ Spares 0 s e) sampleState
      [.run 0, .run 0, .invalidateCache, .run 1, .run 0, .run 0] s' ∧
    (s'.calls 0).pc = .done (some ["tier", "p", "cr"]) := by
  have hrun : Run (fun s e s' => s' = step sampleCompiler s e ∧ Spares 0 s e) sampleState
      [.run 0, .run 0, .invalidateCache, .run 1, .run 0, .run 0] _ :=
    .cons ⟨rfl, fun _ _ _ => by decide⟩ <| .cons ⟨rfl, fun _ _ _ => by decide⟩ <|
      .cons ⟨rfl, by unfold Spares; decide⟩ <| .cons ⟨rfl, fun _ _ _ => by decide⟩ <|
      .cons ⟨rfl, fun _ _ _ => by decide⟩ <| .cons ⟨rfl, fun _ _ _ => by decide⟩ <| .nil _
  exact ⟨_, hrun, @usedVars_eq_identifiers _ 0 sampleState _ _ (fun _ _ _ _ h => h) rfl
    (fun _ => rfl) (by decide) hrun (by decide)⟩

/-- The variables of sub-categories among the names, as `BuildTieredTokenParams` looks
them up; in no map there are none. -/
def subVars (vars : Option (List String)) (v : SubVar) : Bool :=
  (vars.getD []).contains (match v with
    | .cr => "cr"
    | .cc => "cc"
    | .cc1h => "cc1h"
    | .img => "img"
    | .ai => "ai"
    | .imgO => "img_o"
    | .ao => "ao")

/-- The cache is emptied after the call stored its entry: the call returns no names, and
forty cached tokens stay in the base count that is priced beside them. -/
theorem usedVars_lost :
    (([.run 0, .run 0, .run 0, .invalidateCache, .run 0].foldl
      (step sampleCompiler) sampleState).calls 0).pc = .done none ∧
    sampleCompiler.identifiers "tier(p + cr)" = some ["tier", "p", "cr"] ∧
    (buildTieredTokenParams { promptTokens := 100, promptTokensDetails :=
      { noInputDetails with cachedTokens := 40 } } false (subVars none)).p = 100 ∧
    (buildTieredTokenParams { promptTokens := 100, promptTokensDetails :=
      { noInputDetails with cachedTokens := 40 } } false
      (subVars (some ["tier", "p", "cr"]))).p = 60 := by
  decide +kernel

end NewApi.CompileCache
