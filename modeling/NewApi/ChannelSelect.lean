import NewApi.RoutingModes
import Mathlib.Data.List.Dedup

/-! # Choosing among candidates

`selectChannelCandidate` walks the priorities of the candidates from the highest down and
draws one of the candidates of the first priority that has any left, by weight.  What is not
left: the channels that the request has tried, those at their cap, and those that cool down,
unless only such remain.

How many requests a channel serves is read from a counter that other requests move, so the
two loops of the function may read different numbers.  What they read is an argument here,
and so is the random draw. -/
namespace NewApi
open List

/-- The largest `int`. -/
def maxInt : Nat := 9223372036854775807

def channelWeightBaseline : Nat := 10

def effectiveChannelWeight (weight : Int) : Nat :=
  let weight := if weight < 0 then 0 else weight.toNat
  if weight > maxInt - channelWeightBaseline then maxInt else weight + channelWeightBaseline

/-- `pickWeightedIndex`; `none` is `-1`. -/
def pickWeightedIndex : List Nat → Nat → Option Nat
  | [], _ => none
  | weight :: weights, draw =>
      if draw < weight then some 0
      else (pickWeightedIndex weights (draw - weight)).map (· + 1)

/-- The sum of weights, up to the largest `int`. -/
def totalWeight (weights : List Nat) : Nat :=
  weights.foldl (fun total weight =>
    if total > maxInt - weight then maxInt else total + weight) 0

/-- `isSaturated`, for the number of requests that was read. -/
def ChannelCandidate.isSaturated (c : ChannelCandidate) (inFlight : Int → Int) : Bool :=
  c.maxConcurrency > 0 && inFlight c.channelId ≥ c.maxConcurrency

namespace Selection

/-- The priorities, from the highest down. -/
def tiers (candidates : List ChannelCandidate) : List Int :=
  (candidates.map (·.priority)).dedup.insertionSort (· ≥ ·)

/-- `startTier`.  The count of retries is a tier only if no attempts are tracked. -/
def startTier (tiers : List Int) (retry : Nat) (excluded : List Int) : Nat :=
  if excluded = [] ∧ retry > 0 then min retry (tiers.length - 1) else 0

/-- The candidates of a tier that are left. -/
def eligible (candidates : List ChannelCandidate) (inFlight : Int → Int) (excluded : List Int)
    (skipCooling : Bool) (tier : Int) : List ChannelCandidate :=
  candidates.filter fun c =>
    c.priority = tier && c.channelId ∉ excluded && !c.isSaturated inFlight &&
      !(skipCooling && c.coolingDown)

/-- The weighted draw. -/
def draw (random : Nat → Nat) (left : List ChannelCandidate) : Option ChannelCandidate :=
  let weights := left.map fun c => effectiveChannelWeight c.weight
  match pickWeightedIndex weights (random (totalWeight weights)) with
  | none => none
  | some index => left[index]?

end Selection

open Selection in
/-- `selectChannelCandidate`.  The first loop reads `inFlight`, the second `inFlight'`. -/
def selectChannelCandidate (inFlight inFlight' : Int → Int) (random : Nat → Nat)
    (candidates : List ChannelCandidate) (retry : Nat) (excluded : List Int) : Option Int :=
  let tiers := tiers candidates
  let start := startTier tiers retry excluded
  let skipCooling := candidates.any fun c =>
    !c.coolingDown && (tiers[start]?).any (c.priority ≤ ·) && c.channelId ∉ excluded &&
      !c.isSaturated inFlight
  ((tiers.drop start).findSome? fun tier =>
    draw random (eligible candidates inFlight' excluded skipCooling tier)).map (·.channelId)

/-- `applyDynamicScores`, for the priority and weight that the scores give a candidate. -/
def applyDynamicScores (score : ChannelCandidate → Int × Int) (candidates : List ChannelCandidate) :
    List ChannelCandidate :=
  candidates.map fun c => { c with priority := (score c).1, weight := (score c).2 }

/-- The cap that `selectAndAcquireChannel` looks up. -/
def slotLimit (candidates : List ChannelCandidate) (channelId : Int) : Int :=
  match candidates.find? fun c => c.channelId = channelId with
  | none => 0
  | some c => c.maxConcurrency

/-- Why a selection gives no channel. -/
inductive SelectError where
  /-- `ErrAllChannelsSaturated`. -/
  | allChannelsSaturated
  | noChannelFound
  /-- The abilities, the cache or the row of the channel cannot be read. -/
  | unreadable (message : String)
deriving DecidableEq, Repr

/-- What a turn of `selectAndAcquireChannel` meets: the counters as its three loops read them,
the draw, and whether the chosen channel has a slot left. -/
structure SlotTry where
  inFlight : Int → Int := fun _ => 0
  inFlight' : Int → Int := fun _ => 0
  inFlight'' : Int → Int := fun _ => 0
  random : Nat → Nat := fun _ => 0
  acquired : Bool := true

/-- `selectAndAcquireChannel`, for a number of turns.  The channel is 0 if nothing is left. -/
def selectAndAcquireChannel (tries : Nat → SlotTry) (candidates : List ChannelCandidate)
    (retry : Nat) : Nat → List Int → Option (Except SelectError Int)
  | 0, _ => none
  | turns + 1, attempted =>
      let t := tries turns
      match selectChannelCandidate t.inFlight t.inFlight' t.random candidates retry attempted with
      | none =>
          if candidates.any fun c => c.channelId ∉ attempted && c.isSaturated t.inFlight'' then
            some (.error .allChannelsSaturated)
          else some (.ok 0)
      | some channelId =>
          if t.acquired then some (.ok channelId)
          else selectAndAcquireChannel tries candidates retry turns (channelId :: attempted)

section Spec
variable {candidates : List ChannelCandidate} {excluded : List Int} {id : Int}

variable {c : ChannelCandidate}

theorem Selection.mem_of_draw {random : Nat → Nat} {left : List ChannelCandidate}
    (h : draw random left = some c) : c ∈ left := by
  dsimp only [draw] at h
  split at h
  · cases h
  · exact mem_of_getElem? h

/-- **What is chosen** is a candidate that has not been tried. -/
theorem selectChannelCandidate_spec {inFlight inFlight' : Int → Int} {random : Nat → Nat}
    {retry : Nat} (h : selectChannelCandidate inFlight inFlight' random candidates retry excluded =
      some id) : id ∉ excluded ∧ ∃ c ∈ candidates, c.channelId = id := by
  obtain ⟨c, hc, rfl⟩ := Option.map_eq_some_iff.mp h
  obtain ⟨tier, -, hdr⟩ := exists_of_findSome?_eq_some hc
  obtain ⟨hmem, hlf⟩ := mem_filter.mp (Selection.mem_of_draw hdr)
  simp only [Bool.and_eq_true, decide_eq_true_eq] at hlf
  exact ⟨hlf.1.1.2, c, hmem, rfl⟩

/-- The candidates that have not been tried. -/
def Selection.untried (candidates : List ChannelCandidate) (attempted : List Int) :
    List ChannelCandidate :=
  candidates.filter fun c => c.channelId ∉ attempted

variable {attempted : List Int}

theorem Selection.length_untried_cons (hc : c ∈ candidates) (hnew : c.channelId ∉ attempted) :
    (untried candidates (c.channelId :: attempted)).length <
      (untried candidates attempted).length := by
  have hmem : c ∈ untried candidates attempted := mem_filter.mpr ⟨hc, by simpa using hnew⟩
  have hsplit : untried candidates (c.channelId :: attempted) =
      (untried candidates attempted).filter fun c' => c'.channelId ≠ c.channelId := by
    unfold untried
    rw [filter_filter]
    refine filter_congr fun c' _ => ?_
    simp [not_or]
  rw [hsplit]
  exact length_filter_lt_length_iff_exists.mpr ⟨c, hmem, by simp⟩

/-- **Every turn takes a candidate away**, so one turn more than there are candidates is
enough. -/
theorem selectAndAcquireChannel_returns (tries : Nat → SlotTry) (retry : Nat) {turns : Nat}
    (h : (Selection.untried candidates attempted).length < turns) :
    ∃ r, selectAndAcquireChannel tries candidates retry turns attempted = some r := by
  induction turns generalizing attempted with
  | zero => omega
  | succ turns ih =>
    simp only [selectAndAcquireChannel]
    split
    · split
      all_goals exact ⟨_, rfl⟩
    · rename_i channelId hsel
      split
      · exact ⟨_, rfl⟩
      obtain ⟨hnew, c, hc, rfl⟩ := selectChannelCandidate_spec hsel
      have hlt := Selection.length_untried_cons hc hnew
      exact ih (by omega)

/-- The channel whose slot is taken is a candidate that has not been tried. -/
theorem selectAndAcquireChannel_spec {tries : Nat → SlotTry} {retry turns : Nat}
    (h : selectAndAcquireChannel tries candidates retry turns attempted = some (.ok id))
    (hid : id ≠ 0) : id ∉ attempted ∧ ∃ c ∈ candidates, c.channelId = id := by
  induction turns generalizing attempted with
  | zero => cases h
  | succ turns ih =>
    simp only [selectAndAcquireChannel] at h
    split at h
    · split at h
      · cases h
      cases h
      exact absurd rfl hid
    · rename_i channelId hsel
      split at h
      · cases h
        exact selectChannelCandidate_spec hsel
      · obtain ⟨hnew, hc⟩ := ih h
        exact ⟨fun hmem => hnew (mem_cons_of_mem _ hmem), hc⟩

/-- The candidates are of different channels, which have positive ids. -/
structure RowIds (candidates : List ChannelCandidate) : Prop where
  nodup : (candidates.map ChannelCandidate.channelId).Nodup
  pos : ∀ c ∈ candidates, 0 < c.channelId

/-- The cap that is looked up is the cap of the candidate. -/
theorem RowIds.slotLimit_eq (h : RowIds candidates) (hc : c ∈ candidates) :
    slotLimit candidates c.channelId = c.maxConcurrency := by
  unfold slotLimit
  cases hfd : candidates.find? fun c' => c'.channelId = c.channelId with
  | none => exact absurd (find?_eq_none.mp hfd c hc) (by simp)
  | some c' =>
    have hid : c'.channelId = c.channelId := by simpa using find?_some hfd
    rw [inj_on_of_nodup_map h.nodup (mem_of_find?_eq_some hfd) hc hid]

end Spec

/-! ## The candidates of both modes -/

section Rows
variable {env : RoutingEnv} {db : RoutingDb} {group model requestPath : String}

theorem nodup_getEnabledAbilities (m : String) :
    ((db.getEnabledAbilities group m).map Ability.channelId).Nodup := by
  have hrows : (db.getEnabledAbilities group m).Nodup :=
    (perm_insertionSort _ _).nodup_iff.mpr (db.abilities.nodup.of_map.filter _)
  refine hrows.map_on fun a ha b hb hid => ?_
  obtain ⟨ha, hag, ham, -⟩ := mem_getEnabledAbilities ha
  obtain ⟨hb, hbg, hbm, -⟩ := mem_getEnabledAbilities hb
  refine db.abilities.eq_of_key_eq ha hb ?_
  unfold Ability.key
  rw [hag, hbg, ham, hbm, hid]

theorem nodup_buildDBCandidates (env : RoutingEnv) (db : RoutingDb)
    (group model requestPath : String) :
    ((db.buildDBCandidates env group model requestPath).map ChannelCandidate.channelId).Nodup := by
  obtain ⟨m, hsub⟩ := usableAbilities_sublist env db group model requestPath
  rw [RoutingDb.buildDBCandidates, map_map]
  exact (nodup_getEnabledAbilities m).sublist (hsub.map _)

variable {found : List ChannelCandidate}

theorem candidates_sublist {cache : ChannelCache} {strictMissing : Bool} {ids : List Int}
    (h : cache.candidates env model strictMissing ids = .ok found) :
    (found.map ChannelCandidate.channelId).Sublist ids := by
  induction ids generalizing found with
  | nil =>
    cases h
    exact .slnil
  | cons id ids ih =>
    simp only [ChannelCache.candidates] at h
    split at h
    · split at h
      · cases h
      · exact (ih h).cons id
    · split at h
      · cases h
      rename_i rest hre
      cases h
      exact (ih hre).cons_cons id

end Rows

end NewApi
