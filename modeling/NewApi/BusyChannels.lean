import NewApi.ChannelSlots

/-! # Busy and missing

`selectAndAcquireChannel` has two answers without a channel.  `ErrAllChannelsSaturated` says
that a channel is there and busy, and the caller waits or reports backpressure; no channel and
no error says that nothing matches, which the caller reports as a configuration error.

The call tells the two apart by reading the counters once more after a selection found
nothing.  Two things are lost on the way.  A channel that had a free slot when it was chosen
and none when the slot was taken joins the channels that the request has tried, which the last
look passes over.  A channel that was full when the selection passed over it may be free at the
last look.  Busy is told from missing exactly when the last look finds a full channel that the call
has not tried (`busy_is_not_missing_iff`).

The set of tried channels is the caller's map until the first slot is lost, and a copy of it
from then on.  Which of the two a write goes to is kept here (`AttemptedMap`). -/
namespace NewApi
open List Selection

/-! ## The call -/

/-- The two maps of a call: the caller's, and its copy once there is one. -/
structure AttemptedMap where
  excludedChannelIds : List Int
  cloned : Option (List Int) := none
deriving DecidableEq, Repr

namespace AttemptedMap

def attempted (m : AttemptedMap) : List Int :=
  m.cloned.getD m.excludedChannelIds

/-- `attempted[channelId] = true`, on a copy. -/
def insert (m : AttemptedMap) (channelId : Int) : AttemptedMap :=
  { m with cloned := some (channelId :: m.attempted) }

@[simp] theorem attempted_insert (m : AttemptedMap) (channelId : Int) :
    (m.insert channelId).attempted = channelId :: m.attempted := rfl

end AttemptedMap

/-- What a turn of the call reads: the counters in the two loops of the selection, when the
slot is taken and at the last look, each as other requests have left them by then, and the
draw. -/
structure GaugeReads where
  inFlight : Gauge := fun _ => 0
  inFlight' : Gauge := fun _ => 0
  atAcquire : Gauge := fun _ => 0
  inFlight'' : Gauge := fun _ => 0
  random : Nat → Nat := fun _ => 0

/-- `rand.Intn` draws below its bound. -/
def GaugeReads.InRange (reads : GaugeReads) : Prop :=
  ∀ total, 0 < total → reads.random total < total

/-- What a turn chooses. -/
def GaugeReads.chosen (reads : GaugeReads) (candidates : List ChannelCandidate) (retry : Nat)
    (attempted : List Int) : Option Int :=
  selectChannelCandidate reads.inFlight reads.inFlight' reads.random candidates retry attempted

/-- The slot of a channel that has one is taken. -/
def GaugeReads.acquires (reads : GaugeReads) (candidates : List ChannelCandidate)
    (channelId : Int) : Bool :=
  (acquireChannelSlot channelId (slotLimit candidates channelId) reads.atAcquire).isSome

/-- `selectAndAcquireChannel` with its maps, for a number of turns. -/
def AttemptedMap.selectAndAcquireChannel (reads : Nat → GaugeReads)
    (candidates : List ChannelCandidate) (retry : Nat) :
    Nat → AttemptedMap → Option (Except SelectError Int × AttemptedMap)
  | 0, _ => none
  | turns + 1, m =>
      let r := reads turns
      match r.chosen candidates retry m.attempted with
      | none =>
          if candidates.any fun c => c.channelId ∉ m.attempted && c.isSaturated r.inFlight'' then
            some (.error .allChannelsSaturated, m)
          else some (.ok 0, m)
      | some channelId =>
          if r.acquires candidates channelId then some (.ok channelId, m)
          else AttemptedMap.selectAndAcquireChannel reads candidates retry turns
            (m.insert channelId)

/-! ## Every turn takes a candidate away -/

section Returns
variable {candidates : List ChannelCandidate} {retry : Nat}

/-- **The call returns**, whatever other requests do, and the caller's map is as it was. -/
theorem selectAndAcquireChannel_keeps_excluded (reads : Nat → GaugeReads) {turns : Nat}
    {m : AttemptedMap} (h : (untried candidates m.attempted).length < turns) :
    ∃ r m', m.selectAndAcquireChannel reads candidates retry turns = some (r, m') ∧
      m'.excludedChannelIds = m.excludedChannelIds := by
  induction turns generalizing m with
  | zero => omega
  | succ turns ih =>
    simp only [AttemptedMap.selectAndAcquireChannel]
    split
    · split
      all_goals exact ⟨_, m, rfl, rfl⟩
    · rename_i channelId hsel
      split
      · exact ⟨_, m, rfl, rfl⟩
      obtain ⟨hnew, c, hc, rfl⟩ := selectChannelCandidate_spec hsel
      have hlt := length_untried_cons hc hnew
      have hla : (untried candidates (m.insert c.channelId).attempted).length < turns := by
        rw [AttemptedMap.attempted_insert]
        omega
      exact ih hla

/-- Only the turns that are left matter. -/
theorem selectAndAcquireChannel_congr {tries tries' : Nat → SlotTry} {turns : Nat}
    (h : ∀ turn < turns, tries turn = tries' turn) (attempted : List Int) :
    selectAndAcquireChannel tries candidates retry turns attempted =
      selectAndAcquireChannel tries' candidates retry turns attempted := by
  induction turns generalizing attempted with
  | zero => rfl
  | succ turns ih =>
    simp only [selectAndAcquireChannel, h turns (by omega)]
    have hre := ih fun turn hlt => h turn (by omega)
    simp only [hre]

/-- The turn of the call on one list of tried channels that reads the same. -/
def GaugeReads.slotTry (reads : GaugeReads) (acquired : Bool) : SlotTry :=
  ⟨reads.inFlight, reads.inFlight', reads.inFlight'', reads.random, acquired⟩

theorem selectAndAcquireChannel_slotTry (reads : Nat → GaugeReads) (acquired : Nat → Bool)
    (turns : Nat) (attempted : List Int) :
    selectAndAcquireChannel (fun turn => (reads turn).slotTry (acquired turn)) candidates retry
        (turns + 1) attempted =
      match (reads turns).chosen candidates retry attempted with
      | none =>
          if candidates.any fun c =>
              c.channelId ∉ attempted && c.isSaturated (reads turns).inFlight'' then
            some (.error .allChannelsSaturated)
          else some (.ok 0)
      | some channelId =>
          if acquired turns then some (.ok channelId)
          else selectAndAcquireChannel (fun turn => (reads turn).slotTry (acquired turn)) candidates
            retry turns (channelId :: attempted) := rfl

/-- Which map is written to does not matter to the result: it is that of the call on one list
of tried channels that reads the same counters and draws, for some outcomes of the
acquisitions. -/
theorem exists_acquired_of_reads (reads : Nat → GaugeReads) (turns : Nat) (m : AttemptedMap) :
    ∃ acquired : Nat → Bool,
      (m.selectAndAcquireChannel reads candidates retry turns).map Prod.fst =
        NewApi.selectAndAcquireChannel (fun turn => (reads turn).slotTry (acquired turn)) candidates
          retry turns m.attempted := by
  induction turns generalizing m with
  | zero => exact ⟨fun _ => true, rfl⟩
  | succ turns ih =>
    cases hchosen : (reads turns).chosen candidates retry m.attempted with
    | none =>
      refine ⟨fun _ => true, ?_⟩
      rw [selectAndAcquireChannel_slotTry, AttemptedMap.selectAndAcquireChannel, hchosen]
      dsimp only
      split
      · rfl
      · rfl
    | some id =>
      obtain ⟨acquired, hrest⟩ := ih (m.insert id)
      let outcomes := Function.update acquired turns ((reads turns).acquires candidates id)
      refine ⟨outcomes, ?_⟩
      -- the turns that are left have the outcomes of the rest of the call
      have hcongr : ∀ attempted, NewApi.selectAndAcquireChannel
          (fun turn => (reads turn).slotTry (outcomes turn)) candidates retry turns attempted =
          NewApi.selectAndAcquireChannel (fun turn => (reads turn).slotTry (acquired turn))
            candidates retry turns attempted :=
        selectAndAcquireChannel_congr fun turn hlt => by
          rw [show outcomes turn = acquired turn from Function.update_of_ne (by omega) _ _]
      have hnow : outcomes turns = (reads turns).acquires candidates id := Function.update_self ..
      rw [selectAndAcquireChannel_slotTry, AttemptedMap.selectAndAcquireChannel, hchosen, hnow]
      dsimp only
      rw [hcongr]
      split
      · rfl
      · exact hrest

end Returns

/-! ## A draw from candidates gives one of them -/

section Draw

theorem pickWeightedIndex_lt {weights : List Nat} {draw : Nat} (h : draw < weights.sum) :
    ∃ index, pickWeightedIndex weights draw = some index ∧ index < weights.length := by
  induction weights generalizing draw with
  | nil => simp at h
  | cons weight weights ih =>
    rw [sum_cons] at h
    simp only [pickWeightedIndex]
    by_cases hlt : draw < weight
    · exact ⟨0, by simp [hlt], by simp⟩
    have hre : draw - weight < weights.sum := by omega
    obtain ⟨index, hpi, hidx⟩ := ih hre
    refine ⟨index + 1, by simp [hlt, hpi], ?_⟩
    simpa using hidx

/-- The total may be cut off, but it does not exceed the sum. -/
theorem totalWeight_le_sum (weights : List Nat) : totalWeight weights ≤ weights.sum := by
  suffices hfo : ∀ total, weights.foldl (fun total weight =>
      if total > maxInt - weight then maxInt else total + weight) total ≤ total + weights.sum from
    (hfo 0).trans_eq (Nat.zero_add _)
  induction weights with
  | nil => simp
  | cons weight weights ih =>
    intro total
    rw [foldl_cons, sum_cons]
    refine (ih _).trans ?_
    split
    · omega
    · omega

theorem totalWeight_pos {weight : Nat} (weights : List Nat) (h : 0 < weight) :
    0 < totalWeight (weight :: weights) := by
  have hfo : ∀ total, 0 < total → 0 < weights.foldl (fun total weight =>
      if total > maxInt - weight then maxInt else total + weight) total := by
    induction weights with
    | nil => simp
    | cons weight weights ih =>
      intro total hpos
      refine ih _ ?_
      dsimp only
      split
      · decide
      · omega
  refine hfo _ ?_
  dsimp only
  split
  · decide
  · omega

theorem effectiveChannelWeight_pos (weight : Int) : 0 < effectiveChannelWeight weight := by
  unfold effectiveChannelWeight channelWeightBaseline
  dsimp only
  generalize (if weight < 0 then 0 else weight.toNat) = clamped
  split
  · decide
  · omega

/-- **The draw finds a candidate** if there is one. -/
theorem draw_ne_none {random : Nat → Nat} (hran : ∀ total, 0 < total → random total < total)
    {left : List ChannelCandidate} (hlf : left ≠ []) : draw random left ≠ none := by
  obtain ⟨c, rest, rfl⟩ := exists_cons_of_ne_nil hlf
  intro hno
  rw [draw, map_cons] at hno
  have htot := hran _ (totalWeight_pos (rest.map fun c => effectiveChannelWeight c.weight)
    (effectiveChannelWeight_pos c.weight))
  obtain ⟨index, hpi, hidx⟩ :=
    pickWeightedIndex_lt (htot.trans_le (totalWeight_le_sum _))
  simp only [hpi] at hno
  simp at hidx hno
  omega

end Draw

/-! ## What a selection passed over -/

section Passed
variable {candidates : List ChannelCandidate} {excluded : List Int} {retry : Nat}
variable {inFlight inFlight' : Gauge} {random : Nat → Nat}

variable {c : ChannelCandidate}

theorem mem_tiers (hc : c ∈ candidates) : c.priority ∈ tiers candidates := by
  rw [tiers, mem_insertionSort, mem_dedup]
  exact mem_map_of_mem hc

/-- Priorities up to that of the first tier are among the tiers from it on. -/
theorem mem_drop_tiers {start : Nat} {tier priority : Int}
    (hti : (tiers candidates)[start]? = some tier) (hmem : priority ∈ tiers candidates)
    (hle : priority ≤ tier) : priority ∈ (tiers candidates).drop start := by
  obtain ⟨hstr, rfl⟩ := List.getElem?_eq_some_iff.mp hti
  obtain ⟨i, hi, rfl⟩ := List.getElem_of_mem hmem
  have hse : (tiers candidates)[start] ∈ (tiers candidates).drop start := by
    rw [drop_eq_getElem_cons hstr]
    exact mem_cons_self
  rcases Nat.lt_or_ge i start with hlt | hge
  · have hsor : (tiers candidates).Pairwise (· ≥ ·) := pairwise_insertionSort _ _
    have hge : (tiers candidates)[i] ≥ (tiers candidates)[start] :=
      pairwise_iff_getElem.mp hsor i start hi hstr hlt
    rw [le_antisymm hle hge]
    exact hse
  · rw [mem_drop_iff_getElem]
    refine ⟨i - start, by omega, ?_⟩
    congr 1
    omega

theorem startTier_lt (retry : Nat) (excluded : List Int) (hne : tiers candidates ≠ []) :
    startTier (tiers candidates) retry excluded < (tiers candidates).length := by
  have hlen := length_pos_iff.mpr hne
  unfold startTier
  split
  · omega
  · omega

/-- An untried candidate stands in the tiers that are walked, and the first of them is walked
only for its own candidates. -/
theorem exists_untried_in_tiers {tier : Int} (hc : c ∈ candidates) (hnew : c.channelId ∉ excluded)
    (hti : (tiers candidates)[startTier (tiers candidates) retry excluded]? = some tier) :
    ∃ c ∈ candidates, c.channelId ∉ excluded ∧
      c.priority ∈ (tiers candidates).drop (startTier (tiers candidates) retry excluded) := by
  by_cases hfst : excluded = [] ∧ retry > 0
  · obtain ⟨hstr, hget⟩ := List.getElem?_eq_some_iff.mp hti
    have hmem : tier ∈ tiers candidates := hget ▸ List.getElem_mem hstr
    have hrow : tier ∈ candidates.map (·.priority) := by
      unfold tiers at hmem
      rwa [mem_insertionSort, mem_dedup] at hmem
    obtain ⟨c', hc', rfl⟩ := mem_map.mp hrow
    exact ⟨c', hc', by simp [hfst.1], mem_drop_tiers hti hmem le_rfl⟩
  · refine ⟨c, hc, hnew, ?_⟩
    have hz : startTier (tiers candidates) retry excluded = 0 := if_neg hfst
    rw [hz, drop_zero]
    exact mem_tiers hc

/-- **What is chosen** was not full when the second loop read it. -/
theorem selectChannelCandidate_not_saturated {id : Int}
    (h : selectChannelCandidate inFlight inFlight' random candidates retry excluded = some id) :
    ∃ c ∈ candidates, c.channelId = id ∧ c.isSaturated inFlight' = false := by
  obtain ⟨c, hc, rfl⟩ := Option.map_eq_some_iff.mp h
  obtain ⟨tier, -, hdr⟩ := exists_of_findSome?_eq_some hc
  obtain ⟨hmem, hlf⟩ := mem_filter.mp (mem_of_draw hdr)
  simp only [Bool.and_eq_true, Bool.not_eq_true', decide_eq_true_eq] at hlf
  exact ⟨c, hmem, rfl, hlf.1.2⟩

/-- **What a selection without a result passed over** was full, for one of the untried
candidates at least.  Cooling candidates are passed over only for one that does not cool down,
which then was full when the second loop read it. -/
theorem exists_saturated_of_none (hran : ∀ total, 0 < total → random total < total)
    (h : selectChannelCandidate inFlight inFlight' random candidates retry excluded = none)
    (hc : c ∈ candidates) (hnew : c.channelId ∉ excluded) :
    ∃ c ∈ candidates, c.channelId ∉ excluded ∧ c.isSaturated inFlight' = true := by
  have hstr := startTier_lt retry excluded (ne_nil_of_mem (mem_tiers hc))
  obtain ⟨tier, hti⟩ : ∃ tier,
      (tiers candidates)[startTier (tiers candidates) retry excluded]? = some tier :=
    ⟨_, getElem?_eq_getElem hstr⟩
  unfold selectChannelCandidate at h
  simp only [Option.map_eq_none_iff, findSome?_eq_none_iff, hti, Option.any_some] at h
  set skipCooling := candidates.any fun c =>
    !c.coolingDown && decide (c.priority ≤ tier) && decide (c.channelId ∉ excluded) &&
      !c.isSaturated inFlight with hskip
  -- a candidate of a tier that was walked is left unless it is full
  have hpas : ∀ c' ∈ candidates, c'.channelId ∉ excluded →
      c'.priority ∈ (tiers candidates).drop (startTier (tiers candidates) retry excluded) →
      (skipCooling && c'.coolingDown) = false → c'.isSaturated inFlight' = true := by
    intro c' hc' hnew' hin hco
    by_contra hfr
    refine draw_ne_none hran ?_ (h _ hin)
    refine ne_nil_of_mem (a := c') (mem_filter.mpr ⟨hc', ?_⟩)
    simp only [Bool.not_eq_true] at hfr
    simp [hnew', hfr, hco]
  cases hca : skipCooling with
  | true =>
    obtain ⟨c', hc', hready⟩ := any_eq_true.mp (hskip ▸ hca)
    simp only [Bool.and_eq_true, Bool.not_eq_true', decide_eq_true_eq] at hready
    obtain ⟨⟨⟨hco, hle⟩, hnew'⟩, -⟩ := hready
    exact ⟨c', hc', hnew', hpas c' hc' hnew' (mem_drop_tiers hti (mem_tiers hc') hle)
      (by simp [hco])⟩
  | false =>
    obtain ⟨c', hc', hnew', hin⟩ := exists_untried_in_tiers hc hnew hti
    exact ⟨c', hc', hnew', hpas c' hc' hnew' hin (by simp [hca])⟩

end Passed

/-! ## Busy is told from missing, unless a slot changes hands in between -/

section Verdict
variable {candidates : List ChannelCandidate} {retry : Nat} {reads : Nat → GaugeReads}

/-- No other request takes a slot of the channel that is chosen before the call does, and none
frees a channel that was full when nothing was chosen. -/
structure GaugeReads.Undisturbed (reads : GaugeReads) (candidates : List ChannelCandidate)
    (retry : Nat) (excluded : List Int) : Prop where
  kept : ∀ channelId, reads.chosen candidates retry excluded = some channelId →
    reads.atAcquire channelId ≤ reads.inFlight' channelId
  busy : reads.chosen candidates retry excluded = none → ∀ c ∈ candidates,
    c.channelId ∉ excluded → c.isSaturated reads.inFlight' = true →
      c.isSaturated reads.inFlight'' = true

/-- From one number of turns left and list of tried channels to another, every channel that is
chosen has no slot left when it is to be taken. -/
inductive Loses (reads : Nat → GaugeReads) (candidates : List ChannelCandidate) (retry : Nat) :
    Nat → List Int → Nat → List Int → Prop
  | none (turns : Nat) (tried : List Int) : Loses reads candidates retry turns tried turns tried
  | lose {turns turns' : Nat} {tried tried' : List Int} {channelId : Int}
      (hchosen : (reads turns).chosen candidates retry tried = some channelId)
      (hlost : (reads turns).acquires candidates channelId = false)
      (hrest : Loses reads candidates retry turns (channelId :: tried) turns' tried') :
      Loses reads candidates retry (turns + 1) tried turns' tried'

/-- An answer tells busy from missing. -/
structure Tells (candidates : List ChannelCandidate) (excluded : List Int)
    (r : Except SelectError Int) : Prop where
  missing : r = .ok 0 → ∀ c ∈ candidates, c.channelId ∈ excluded
  busy : (∀ c ∈ candidates, r ≠ .ok c.channelId) → (∃ c ∈ candidates, c.channelId ∉ excluded) →
    r = .error .allChannelsSaturated

/-- The last look of a call that has nothing to choose finds a full channel, unless all were
excluded. -/
def LooksBusy (reads : Nat → GaugeReads) (candidates : List ChannelCandidate) (retry : Nat)
    (excluded : List Int) (turns : Nat) (tried : List Int) : Prop :=
  ∀ turn tried', Loses reads candidates retry turns tried (turn + 1) tried' →
    (reads turn).chosen candidates retry tried' = none →
    (∀ c ∈ candidates, c.channelId ∈ excluded) ∨
      ∃ c ∈ candidates, c.channelId ∉ tried' ∧ c.isSaturated (reads turn).inFlight'' = true

theorem GaugeReads.Undisturbed.acquires {r : GaugeReads} {excluded : List Int} {id : Int}
    (h : r.Undisturbed candidates retry excluded) (hrows : RowIds candidates)
    (hsel : r.chosen candidates retry excluded = some id) : r.acquires candidates id = true := by
  obtain ⟨c, hc, rfl, hfr⟩ := selectChannelCandidate_not_saturated hsel
  have hkept := h.kept c.channelId hsel
  rw [GaugeReads.acquires, acquireChannelSlot, hrows.slotLimit_eq hc]
  simp only [ChannelCandidate.isSaturated, Bool.and_eq_false_iff, decide_eq_false_iff_not] at hfr
  have hrm : ¬(c.maxConcurrency > 0 ∧ r.atAcquire c.channelId ≥ c.maxConcurrency) := by
    omega
  simp [hrm]

/-- A quiet first turn takes the slot it chose, or finds a channel full that it passed over. -/
theorem GaugeReads.Undisturbed.looksBusy {turns : Nat} {excluded : List Int}
    (h : (reads turns).Undisturbed candidates retry excluded) (hrows : RowIds candidates)
    (hrange : (reads turns).InRange) :
    LooksBusy reads candidates retry excluded (turns + 1) excluded := by
  intro turn tried hloses hnone
  cases hloses with
  | none =>
    by_cases hall : ∀ c ∈ candidates, c.channelId ∈ excluded
    · exact .inl hall
    · push Not at hall
      obtain ⟨c, hc, hnew⟩ := hall
      obtain ⟨c', hc', hnew', hfull⟩ := exists_saturated_of_none hrange hnone hc hnew
      exact .inr ⟨c', hc', hnew', h.busy hnone c' hc' hnew' hfull⟩
  | lose hchosen hlost =>
    rw [h.acquires hrows hchosen] at hlost
    cases hlost

theorem verdict_iff (hrows : RowIds candidates) (excluded : List Int) {turns : Nat}
    {m : AttemptedMap} (h : (untried candidates m.attempted).length < turns) :
    ∃ r m', m.selectAndAcquireChannel reads candidates retry turns = some (r, m') ∧
      m'.excludedChannelIds = m.excludedChannelIds ∧
      (Tells candidates excluded r ↔
        LooksBusy reads candidates retry excluded turns m.attempted) := by
  induction turns generalizing m with
  | zero => omega
  | succ turns ih =>
    simp only [AttemptedMap.selectAndAcquireChannel]
    cases hchosen : (reads turns).chosen candidates retry m.attempted with
    | none =>
      -- the call ends here, so the last look is this one
      have hlook : LooksBusy reads candidates retry excluded (turns + 1) m.attempted ↔
          (∀ c ∈ candidates, c.channelId ∈ excluded) ∨ ∃ c ∈ candidates,
            c.channelId ∉ m.attempted ∧ c.isSaturated (reads turns).inFlight'' = true := by
        refine ⟨fun hlook => hlook turns m.attempted (.none _ _) hchosen, fun hfull => ?_⟩
        intro turn tried hloses _
        cases hloses with
        | none => exact hfull
        | lose hsome => cases hchosen.symm.trans hsome
      simp only [hlook]
      split
      · rename_i hfull
        obtain ⟨c, hc, hfull⟩ := any_eq_true.mp hfull
        simp only [Bool.and_eq_true, decide_eq_true_eq] at hfull
        refine ⟨_, m, rfl, rfl, iff_of_true ⟨fun h => ?_, fun _ _ => rfl⟩ (.inr ⟨c, hc, hfull⟩)⟩
        cases h
      · rename_i hfree
        refine ⟨_, m, rfl, rfl, fun htells => .inl (htells.missing rfl), fun hor => ?_⟩
        rcases hor with hall | ⟨c, hc, hfull⟩
        · exact ⟨fun _ => hall, fun _ ⟨c, hc, hnew⟩ => absurd (hall c hc) hnew⟩
        · exact absurd (any_eq_true.mpr ⟨c, hc, by simpa using hfull⟩) hfree
    | some id =>
      obtain ⟨hnew, c, hc, rfl⟩ := selectChannelCandidate_spec hchosen
      have hpos := hrows.pos c hc
      dsimp only
      split
      · rename_i hacquired
        refine ⟨_, m, rfl, rfl, iff_of_true ⟨fun h => ?_, fun h => absurd rfl (h c hc)⟩ ?_⟩
        · have := Except.ok.inj h
          omega
        · intro turn tried hloses hnone
          cases hloses with
          | none => cases hchosen.symm.trans hnone
          | lose hsome hlost =>
            cases hchosen.symm.trans hsome
            rw [hacquired] at hlost
            cases hlost
      · rename_i hlost
        have hless := length_untried_cons hc hnew
        obtain ⟨r, m', heq, hkeep, hiff⟩ := @ih (m.insert c.channelId) (by
          rw [AttemptedMap.attempted_insert]
          omega)
        refine ⟨r, m', heq, hkeep, hiff.trans ?_⟩
        rw [AttemptedMap.attempted_insert]
        refine ⟨fun hlook turn tried hloses hnone => ?_, fun hlook turn tried hloses hnone => ?_⟩
        · cases hloses with
          | none => cases hchosen.symm.trans hnone
          | lose hsome _ hrest =>
            cases hchosen.symm.trans hsome
            exact hlook turn tried hrest hnone
        · exact hlook turn tried (.lose hchosen (by simpa using hlost) hloses) hnone

/-- **When busy is told from missing.**  The call returns, leaves the caller's map alone, and its
answer tells the two apart exactly when, once the chosen channels have lost their slots and nothing
is left to choose, the last look finds a full channel among the others.  So it does when no slot of
the chosen channel is taken and no full channel becomes free in the first turn. -/
theorem busy_is_not_missing_iff (hrows : RowIds candidates)
    (hrange : ∀ turn, (reads turn).InRange) (excluded : List Int) {turns : Nat}
    (hturns : candidates.length ≤ turns) :
    ∃ r m, AttemptedMap.selectAndAcquireChannel reads candidates retry (turns + 1)
        ⟨excluded, none⟩ = some (r, m) ∧ m.excludedChannelIds = excluded ∧
      (Tells candidates excluded r ↔
        LooksBusy reads candidates retry excluded (turns + 1) excluded) ∧
      ((reads turns).Undisturbed candidates retry excluded → Tells candidates excluded r) := by
  have hlen : (untried candidates excluded).length < turns + 1 :=
    Nat.lt_succ_of_le ((length_filter_le _ _).trans hturns)
  obtain ⟨r, m, heq, hkeep, hiff⟩ :=
    @verdict_iff _ retry reads hrows excluded _ ⟨excluded, none⟩ hlen
  exact ⟨r, m, heq, hkeep, hiff, fun hquiet => hiff.mpr (hquiet.looksBusy hrows (hrange turns))⟩

end Verdict

/-! ## The two races -/

/-- One channel with one slot. -/
def oneSlot : List ChannelCandidate :=
  [{ channelId := 7, priority := 0, weight := 0, maxConcurrency := 1, coolingDown := false }]

theorem rowIds_oneSlot : RowIds oneSlot := by
  refine ⟨by decide, fun c hc => ?_⟩
  obtain rfl := mem_singleton.mp hc
  decide

/-- The slot is lost while channel 3 was tried before: the copy has both, the map only 3. -/
theorem keeps_excluded_oneSlot : ∃ r m', AttemptedMap.selectAndAcquireChannel
    (fun _ => { atAcquire := fun _ => 1 }) oneSlot 0 2 ⟨[3], none⟩ = some (r, m') ∧
      m'.cloned = some [7, 3] ∧ m'.excludedChannelIds = [3] := by
  obtain ⟨r, m', heq, hkeep⟩ := @selectAndAcquireChannel_keeps_excluded oneSlot 0
    (fun _ => { atAcquire := fun _ => 1 }) 2 ⟨[3], none⟩ (by decide)
  have hcloned : (AttemptedMap.selectAndAcquireChannel (fun _ => { atAcquire := fun _ => 1 })
      oneSlot 0 2 ⟨[3], none⟩).map (·.2.cloned) = some (some [7, 3]) := by decide +kernel
  rw [heq] at hcloned
  exact ⟨r, m', heq, Option.some.inj hcloned, hkeep⟩

/-- A second channel, which is full while the slot of the first is lost. -/
def twoSlots : List ChannelCandidate :=
  { channelId := 8, priority := 0, weight := 0, maxConcurrency := 1, coolingDown := false } ::
    oneSlot

def slotLost : GaugeReads where
  inFlight id := if id = 8 then 1 else 0
  inFlight' id := if id = 8 then 1 else 0
  atAcquire _ := 1
  inFlight'' _ := 1

theorem busy_is_not_missing_twoSlots :
    ∃ r m, AttemptedMap.selectAndAcquireChannel (fun _ => slotLost) twoSlots 0 3 ⟨[], none⟩ =
      some (r, m) ∧ m.cloned = some [7] ∧ Tells twoSlots [] r := by
  have hrows : RowIds twoSlots := by
    refine ⟨by decide, fun c hc => ?_⟩
    rcases mem_cons.mp hc with rfl | hc
    · decide
    · exact rowIds_oneSlot.pos c hc
  obtain ⟨r, m, heq, -, hiff, -⟩ := @busy_is_not_missing_iff twoSlots 0 (fun _ => slotLost) hrows
    (fun _ _ h => h) [] 2 (by decide)
  have hcloned : (AttemptedMap.selectAndAcquireChannel (fun _ => slotLost) twoSlots 0 3
      ⟨[], none⟩).map (·.2.cloned) = some (some [7]) := by decide +kernel
  rw [heq] at hcloned
  have hfirst : slotLost.chosen twoSlots 0 [] = some 7 := by decide +kernel
  have hsecond : slotLost.chosen twoSlots 0 [7] = none := by decide +kernel
  refine ⟨r, m, heq, Option.some.inj hcloned, hiff.mpr fun turn tried hloses hnone => ?_⟩
  cases hloses with
  | none => cases hfirst.symm.trans hnone
  | lose hchosen _ hrest =>
    cases hfirst.symm.trans hchosen
    cases hrest with
    | none => exact .inr ⟨_, mem_cons_self, by decide +kernel, by decide +kernel⟩
    | lose hchosen => cases hsecond.symm.trans hchosen

/-- **A busy channel is reported as missing.**  Another request takes the slot between the choice
and the acquisition, or gives it back between the choice and the last look: the call returns
neither a channel nor an error, and the channel was not excluded. -/
theorem busy_reported_missing :
    (AttemptedMap.selectAndAcquireChannel (fun _ => { atAcquire := fun _ => 1 }) oneSlot 0 2
        ⟨[], none⟩).map Prod.fst = some (.ok 0) ∧
    (AttemptedMap.selectAndAcquireChannel
        (fun _ => { inFlight := fun _ => 1, inFlight' := fun _ => 1 }) oneSlot 0 2
        ⟨[], none⟩).map Prod.fst = some (.ok 0) ∧
    ∃ c ∈ oneSlot, c.channelId ∉ ([] : List Int) := by
  refine ⟨by decide +kernel, by decide +kernel, ?_⟩
  exact ⟨_, mem_singleton_self _, by simp⟩

end NewApi
