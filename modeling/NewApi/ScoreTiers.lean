import NewApi.ChannelScore
import NewApi.Ladder
import NewApi.Rounding
import Mathlib.Data.List.Dedup
import Mathlib.Data.List.Sort

/-! # Scores as positions

The dynamic score of a channel moves it among the candidates of one request, by whole tiers: the
tiers are the different priorities of the candidates, and a channel that is moved beyond the first
or the last of them gets a priority of its own, one unit for each tier.  So the tiers are a
`Ladder`, and `shiftByTiers` is the height at the position that is the channel's rank minus its
offset (`shiftByTiers_eq`).

Hence `ApplyToCandidates` keeps the candidates and their order in the list, and orders them by
rank minus offset (`scores_reorder_by_rank`).  `TierPosition` reads that position back from a
priority; it stops counting `math.MaxInt32` steps beyond either end (`tierPosition_stops`).

Priorities are 64-bit integers and saturate.  Ranks, offsets and lengths are far from such bounds
and do not wrap here.  The weight factor is computed with rationals instead of floating-point
numbers; nothing below depends on it. -/
namespace NewApi
open List Rounding

/-- `math.MaxInt64`. -/
def maxInt64 : Int := 9223372036854775807

/-- `math.MinInt64`. -/
def minInt64 : Int := -9223372036854775808

/-- `math.MaxInt32`, as `maxDistance` of `tierDistance`. -/
def maxDistance : Int := 2147483647

/-- `channel_score.Candidate`. -/
structure ScoreCandidate where
  channelId : Int
  priority : Int
  weight : Int
deriving DecidableEq, Repr

/-! ## Tiers -/

/-- `DistinctBaselineTiers`; `distinctTiersDesc` is this of the priorities of the candidates. -/
def distinctBaselineTiers (priorities : List Int) : List Int :=
  priorities.dedup.insertionSort (· ≥ ·)

def distinctTiersDesc (candidates : List ScoreCandidate) : List Int :=
  distinctBaselineTiers (candidates.map (·.priority))

def addClamped (base delta : Int) : Int :=
  if delta > 0 ∧ base > maxInt64 - delta then maxInt64
  else if delta < 0 ∧ base < minInt64 - delta then minInt64
  else base + delta

def shiftByTiers (tiers : List Int) (priority offset : Int) : Int :=
  if offset = 0 ∨ tiers = [] then priority
  else match tiers.findIdx? (· = priority) with
  | none => priority
  | some index =>
      let target := (index : Int) - offset
      if target < 0 then addClamped (tiers.getD 0 0) (-target)
      else if target ≥ tiers.length then
        addClamped (tiers.getD (tiers.length - 1) 0) (-(target - tiers.length + 1))
      else tiers.getD target.toNat 0

def tierDistance (higher lower : Int) : Int :=
  let gap := higher - lower
  if gap > maxDistance then maxDistance else gap

def tierPosition (tiers : List Int) (priority : Int) : Int :=
  if tiers = [] then 0
  else if priority > tiers.getD 0 0 then -tierDistance priority (tiers.getD 0 0)
  else
    let last := tiers.length - 1
    if priority < tiers.getD last 0 then last + tierDistance (tiers.getD last 0) priority
    else (tiers.findIdx? (priority ≥ ·)).getD last

/-! ## Weights -/

/-- `successRateFactor`; `weightFactorStep` is a quarter. -/
def successRateFactor (total success minSample : Int) : ℚ :=
  let minSample := if minSample ≤ 0 then 1 else minSample
  if total < minSample ∨ total ≤ 0 then 1
  else
    let rate : ℚ := success / total
    let rate := if rate < 0 then 0 else if rate > 1 then 1 else rate
    let factor := 1 / 2 + rate
    trunc (factor / (1 / 4) + 1 / 2) * (1 / 4)

def applyWeightFactor (weight : Int) (factor : ℚ) : Int :=
  if factor = 1 ∨ weight ≤ 0 then weight
  else
    let scaled := trunc (weight * factor)
    if scaled < 1 then 1 else scaled

/-! ## The candidates of a request -/

/-- What a request for a group and a model sees of the scores. -/
structure ScoreView where
  /-- `setting.Enabled`. -/
  enabled : Bool
  sharedStoreUsable : Bool := true
  redisActive : Bool := false
  /-- What `refreshShared` returns for the keys of the candidates. -/
  refreshed : Bool := true
  minSampleForWeight : Int := 1
  /-- What `lookup` returns for the key of a channel. -/
  lookup : Int → Option Snapshot

namespace ScoreView
variable (view : ScoreView)

/-- `Enabled`. -/
def scoringEnabled : Bool := view.enabled && view.sharedStoreUsable

/-- A round of the loop of `ApplyToCandidates`. -/
def adjust (tiers : List Int) (c : ScoreCandidate) : ScoreCandidate :=
  match view.lookup c.channelId with
  | none => c
  | some snap =>
      { c with
        priority :=
          if snap.tierOffset ≠ 0 then shiftByTiers tiers c.priority snap.tierOffset
          else c.priority
        weight := applyWeightFactor c.weight
          (successRateFactor snap.total snap.success view.minSampleForWeight) }

def applyToCandidates (candidates : List ScoreCandidate) : List ScoreCandidate :=
  if !view.enabled || candidates.isEmpty then candidates
  else if !view.sharedStoreUsable then candidates
  else if view.redisActive && !view.refreshed then candidates
  else candidates.map (view.adjust (distinctTiersDesc candidates))

/-- The scores are applied. -/
def applies : Bool := view.scoringEnabled && !(view.redisActive && !view.refreshed)

/-- The tier offset of a channel. -/
def offset (channelId : Int) : Int :=
  if view.applies then lookupOffset (view.lookup channelId) else 0

end ScoreView

/-- The baseline rank of a candidate: the index of its priority among the tiers. -/
def baselineRank (candidates : List ScoreCandidate) (c : ScoreCandidate) : Nat :=
  (distinctTiersDesc candidates).idxOf c.priority

/-- The rank of a candidate minus its offset. -/
def ScoreView.scoredRank (view : ScoreView) (candidates : List ScoreCandidate)
    (c : ScoreCandidate) : Int :=
  baselineRank candidates c - view.offset c.channelId

/-! ## Tiers are a ladder -/

theorem mem_distinctBaselineTiers {priorities : List Int} {p : Int} :
    p ∈ distinctBaselineTiers priorities ↔ p ∈ priorities := by
  rw [distinctBaselineTiers, mem_insertionSort, mem_dedup]

theorem distinctBaselineTiers_descending (priorities : List Int) :
    (distinctBaselineTiers priorities).Pairwise (· > ·) := by
  have hsor : (distinctBaselineTiers priorities).Pairwise (· ≥ ·) :=
    pairwise_insertionSort _ _
  have hnd : (distinctBaselineTiers priorities).Nodup :=
    (perm_insertionSort _ _).nodup_iff.mpr (nodup_dedup _)
  refine (hsor.and hnd).imp fun h => ?_
  omega

/-- The ladder of the tiers of some priorities. -/
def tierLadder (priorities : List Int) (hne : priorities ≠ []) : Ladder where
  rungs := distinctBaselineTiers priorities
  nonempty := by
    obtain ⟨p, hp⟩ := List.exists_mem_of_ne_nil _ hne
    exact List.ne_nil_of_mem (mem_distinctBaselineTiers.mpr hp)
  descending := distinctBaselineTiers_descending priorities

/-- The ladder of the tiers of some candidates. -/
def candidateLadder (candidates : List ScoreCandidate) (hne : candidates ≠ []) : Ladder :=
  tierLadder (candidates.map (·.priority)) (by simpa using hne)

theorem candidateLadder_rungs (candidates : List ScoreCandidate) (hne : candidates ≠ []) :
    (candidateLadder candidates hne).rungs = distinctTiersDesc candidates := rfl

/-- The priority needs no saturation. -/
def FitsInt64 (p : Int) : Prop := minInt64 ≤ p ∧ p ≤ maxInt64

instance (p : Int) : Decidable (FitsInt64 p) := inferInstanceAs (Decidable (_ ∧ _))

theorem addClamped_of_fits {base delta : Int} (h : FitsInt64 (base + delta)) :
    addClamped base delta = base + delta := by
  obtain ⟨hlow, hhi⟩ := h
  rw [addClamped, if_neg (by omega), if_neg (by omega)]

section LadderSpec
variable (l : Ladder)

/-- The loop finds a rung at its index. -/
theorem findIdx?_rung {i : Nat} (hi : i < l.rungs.length) :
    l.rungs.findIdx? (· = l.rungs.getD i 0) = some i := by
  rw [findIdx?_eq_some_iff_getElem]
  refine ⟨hi, ?_, fun j hj => ?_⟩
  · rw [getD_eq_getElem _ _ hi]
    simp
  · have hlt := l.getD_lt hj hi
    rw [getD_eq_getElem _ _ (hj.trans hi)] at hlt
    simpa using hlt.ne'

/-- **What `shiftByTiers` computes**: the height at the rank minus the offset. -/
theorem shiftByTiers_eq {i : Nat} (hi : i < l.rungs.length) {offset : Int}
    (hft : FitsInt64 (l.height (i - offset))) :
    shiftByTiers l.rungs (l.rungs.getD i 0) offset = l.height (i - offset) := by
  unfold shiftByTiers
  by_cases hz : offset = 0
  · rw [if_pos (.inl hz), hz, Int.sub_zero, l.height_nonneg hi]
  rw [if_neg (not_or.mpr ⟨hz, l.nonempty⟩), findIdx?_rung l hi]
  unfold Ladder.height at hft ⊢
  rcases lt_or_ge ((i : Int) - offset) 0 with hneg | hnon
  · simp only [if_pos hneg] at hft ⊢
    exact addClamped_of_fits hft
  simp only [if_neg (not_lt.mpr hnon)] at hft ⊢
  rcases lt_or_ge ((i : Int) - offset) l.rungs.length with hlt | hge
  · rw [if_neg (not_le.mpr hlt), if_pos hlt]
  simp only [if_neg (not_lt.mpr hge), if_pos hge] at hft ⊢
  exact addClamped_of_fits hft

/-- **What `TierPosition` computes**: the position, cut off `maxDistance` beyond the ends. -/
theorem tierPosition_eq (priority : Int) : tierPosition l.rungs priority =
      max (-maxDistance) (min (l.rungs.length - 1 + maxDistance) (l.position priority)) := by
  have hpos := l.length_pos
  have hmax : maxDistance = 2147483647 := rfl
  unfold tierPosition Ladder.position tierDistance
  rw [if_neg l.nonempty]
  dsimp only
  rw [← Ladder.top, ← Ladder.bottom]
  rcases lt_or_ge l.top priority with htop | htop
  · split <;> omega
  rcases lt_or_ge priority l.bottom with hbot | hbot
  · split <;> omega
  have hlt := l.findIdx_lt hbot
  have hfound : (l.rungs.findIdx? (priority ≥ ·)).getD (l.rungs.length - 1) =
      l.rungs.findIdx (· ≤ priority) := by
    rw [findIdx_eq_getD_findIdx?] at hlt ⊢
    cases hfd : l.rungs.findIdx? (· ≤ priority) with
    | none => simp [hfd] at hlt
    | some i => simp
  omega

/-- A channel with a higher priority has no higher position, cut off or not. -/
theorem tierPosition_antitone {p q : Int} (hpq : p ≤ q) :
    tierPosition l.rungs q ≤ tierPosition l.rungs p := by
  have hle := l.position_antitone hpq
  rw [tierPosition_eq, tierPosition_eq]
  omega

end LadderSpec

/-! ## Ranks decide -/

section Reorder
variable {view : ScoreView} {candidates : List ScoreCandidate} {c : ScoreCandidate}

/-- What becomes of one candidate. -/
def ScoreView.scored (view : ScoreView) (candidates : List ScoreCandidate) (c : ScoreCandidate) :
    ScoreCandidate :=
  if view.applies then view.adjust (distinctTiersDesc candidates) c else c

open ScoreView

theorem applyToCandidates_eq (view : ScoreView) (candidates : List ScoreCandidate) :
    view.applyToCandidates candidates = candidates.map (view.scored candidates) := by
  have hsm : candidates.map id = candidates := map_id _
  unfold applyToCandidates scored applies scoringEnabled
  cases view.enabled with
  | false => exact hsm.symm
  | true =>
    cases candidates with
    | nil => rfl
    | cons c cs =>
      cases view.sharedStoreUsable with
      | false => exact hsm.symm
      | true =>
        cases view.redisActive && !view.refreshed with
        | true => exact hsm.symm
        | false => rfl

theorem channelId_scored (view : ScoreView) (candidates : List ScoreCandidate)
    (c : ScoreCandidate) : (view.scored candidates c).channelId = c.channelId := by
  unfold scored adjust
  split
  · split <;> rfl
  · rfl

theorem baselineRank_lt (hc : c ∈ candidates) :
    baselineRank candidates c < (distinctTiersDesc candidates).length :=
  idxOf_lt_length_of_mem (mem_distinctBaselineTiers.mpr (mem_map_of_mem hc))

theorem getD_baselineRank (hc : c ∈ candidates) :
    (distinctTiersDesc candidates).getD (baselineRank candidates c) 0 = c.priority := by
  rw [getD_eq_getElem _ _ (baselineRank_lt hc)]
  exact getElem_idxOf _

theorem shiftByTiers_zero (tiers : List Int) (priority : Int) :
    shiftByTiers tiers priority 0 = priority := if_pos (.inl rfl)

theorem priority_scored (view : ScoreView) (candidates : List ScoreCandidate)
    (c : ScoreCandidate) : (view.scored candidates c).priority =
      shiftByTiers (distinctTiersDesc candidates) c.priority (view.offset c.channelId) := by
  unfold scored offset
  cases view.applies with
  | false => exact (shiftByTiers_zero _ _).symm
  | true =>
    rw [if_pos rfl, if_pos rfl, adjust]
    cases view.lookup c.channelId with
    | none => exact (shiftByTiers_zero _ _).symm
    | some snap =>
      dsimp only [lookupOffset]
      split
      · rfl
      rename_i hz
      rw [not_not.mp hz, shiftByTiers_zero]

/-- **A candidate gets the height at its rank minus its offset.** -/
theorem priority_scored_height (hne : candidates ≠ []) (hc : c ∈ candidates)
    (hft : FitsInt64 ((candidateLadder candidates hne).height (view.scoredRank candidates c))) :
    (view.scored candidates c).priority =
      (candidateLadder candidates hne).height (view.scoredRank candidates c) := by
  have hshi := shiftByTiers_eq (candidateLadder candidates hne) (baselineRank_lt hc) hft
  have hat : (candidateLadder candidates hne).rungs.getD (baselineRank candidates c) 0 =
      c.priority := getD_baselineRank hc
  rw [hat] at hshi
  rw [priority_scored]
  exact hshi

/-- Without scores a candidate stands at its rank. -/
theorem priority_height (hne : candidates ≠ []) (hc : c ∈ candidates) :
    c.priority = (candidateLadder candidates hne).height (baselineRank candidates c) := by
  rw [Ladder.height_nonneg _ (baselineRank_lt hc)]
  exact (getD_baselineRank hc).symm

/-- **Scores reorder by rank and nothing else**, as long as no priority saturates.  `TierPosition`
reads the position back if it is at most `maxDistance` steps beyond the tiers. -/
theorem scores_reorder_by_rank (view : ScoreView) (candidates : List ScoreCandidate)
    (hfits : ∀ hne, ∀ c ∈ candidates,
      FitsInt64 ((candidateLadder candidates hne).height (view.scoredRank candidates c))) :
    (view.applyToCandidates candidates).map (·.channelId) = candidates.map (·.channelId) ∧
    (∀ (i : Nat) (c c' : ScoreCandidate), candidates[i]? = some c →
      (view.applyToCandidates candidates)[i]? = some c' →
      -maxDistance ≤ view.scoredRank candidates c →
      view.scoredRank candidates c ≤ (distinctTiersDesc candidates).length - 1 + maxDistance →
      tierPosition (distinctTiersDesc candidates) c'.priority =
        baselineRank candidates c - view.offset c.channelId) ∧
    (∀ (i j : Nat) (a b a' b' : ScoreCandidate), candidates[i]? = some a →
      candidates[j]? = some b → (view.applyToCandidates candidates)[i]? = some a' →
      (view.applyToCandidates candidates)[j]? = some b' →
      (a'.priority < b'.priority ↔
          baselineRank candidates b - view.offset b.channelId <
            baselineRank candidates a - view.offset a.channelId) ∧
        (∀ k, (∀ c ∈ candidates, view.offset c.channelId = k) →
          (a'.priority < b'.priority ↔ a.priority < b.priority))) := by
  rw [applyToCandidates_eq]
  -- the candidate at an index is the scored one
  have hat : ∀ (i : Nat) (c c' : ScoreCandidate), candidates[i]? = some c →
      (candidates.map (view.scored candidates))[i]? = some c' →
      c ∈ candidates ∧ c' = view.scored candidates c := by
    intro i c c' hc hc'
    rw [getElem?_map, hc] at hc'
    exact ⟨mem_of_getElem? hc, (Option.some.inj hc').symm⟩
  refine ⟨?_, fun i c c' hc hc' hlow hhi => ?_, fun i j a b a' b' ha hb ha' hb' => ?_⟩
  · rw [map_map]
    exact map_congr_left fun c _ => channelId_scored view candidates c
  · obtain ⟨hmem, rfl⟩ := hat i c c' hc hc'
    have hne := ne_nil_of_mem hmem
    have hpos := tierPosition_eq (candidateLadder candidates hne)
      ((candidateLadder candidates hne).height (view.scoredRank candidates c))
    rw [Ladder.position_height, candidateLadder_rungs, min_eq_right hhi, max_eq_right hlow] at hpos
    rw [priority_scored_height hne hmem (hfits hne c hmem)]
    exact hpos
  · obtain ⟨ha, rfl⟩ := hat i a a' ha ha'
    obtain ⟨hb, rfl⟩ := hat j b b' hb hb'
    have hne := ne_nil_of_mem ha
    have hlt : (view.scored candidates a).priority < (view.scored candidates b).priority ↔
        view.scoredRank candidates b < view.scoredRank candidates a := by
      rw [priority_scored_height hne ha (hfits hne a ha),
        priority_scored_height hne hb (hfits hne b hb), Ladder.height_lt_iff]
    refine ⟨hlt, fun k hk => hlt.trans ?_⟩
    rw [priority_height hne ha, priority_height hne hb, Ladder.height_lt_iff,
      scoredRank, scoredRank, hk a ha, hk b hb]
    omega

/-- Three channels of different priorities. -/
def threeTiers : List ScoreCandidate := [⟨1, 100, 0⟩, ⟨2, 50, 0⟩, ⟨3, 0, 5⟩]

/-- The scores of channel 2 after two promotions. -/
def twicePromoted : ScoreView where
  enabled := true
  lookup id := if id = 2 then some ⟨2, 0, 0⟩ else none

theorem scores_reorder_by_rank_promoted :
    (twicePromoted.applyToCandidates threeTiers).map (·.priority) = [100, 101, 0] ∧
      tierPosition (distinctTiersDesc threeTiers) 101 = 1 - 2 := by
  have hft : ∀ c ∈ threeTiers, FitsInt64 ((candidateLadder threeTiers (by decide)).height
      (twicePromoted.scoredRank threeTiers c)) := by decide +kernel
  refine ⟨by decide +kernel, ?_⟩
  exact (scores_reorder_by_rank twicePromoted threeTiers (fun _ => hft)).2.1 1
    ⟨2, 50, 0⟩ ⟨2, 101, 0⟩ rfl (by decide +kernel) (by decide +kernel) (by decide +kernel)

/-- **`TierPosition` stops counting**: a channel that is moved further beyond the first tier is
reported at `maxDistance` above it, although its priority does not saturate. -/
theorem tierPosition_stops :
    let view : ScoreView := { enabled := true, lookup := fun _ => some ⟨2147483648, 0, 0⟩ }
    let candidates : List ScoreCandidate := [⟨1, 0, 0⟩]
    view.applyToCandidates candidates = [⟨1, 2147483648, 0⟩] ∧
      tierPosition (distinctTiersDesc candidates) 2147483648 = -2147483647 ∧
      (baselineRank candidates ⟨1, 0, 0⟩ : Int) - view.offset 1 = -2147483648 := by
  decide +kernel

end Reorder
end NewApi
