import NewApi.BusyChannels
import NewApi.ScoreTiers

/-! # Pins that are valid when they are made

A conversation is pinned to the channel that was selected for it, and before it is used again the
pin is revalidated (`ValidateChannelAffinityPin`).  The two look at the same candidates by
different rules.  Selection takes the highest scored priority that has a channel left.
Revalidation compares positions on the ladder of the baseline priorities: the pin at its scored
position, a rival at the worse of its scored and its baseline position, and only a lead of two
tiers counts.

They agree in this much: in the state in which a channel was selected, its pin is valid
(`fresh_pin_valid`).  A rival that is free and does not cool down has no higher scored priority,
hence no better position. -/
namespace NewApi
open List Selection

/-! ## Scores of the candidates -/

/-- The triple that `applyDynamicScores` hands on. -/
def ChannelCandidate.toScore (c : ChannelCandidate) : ScoreCandidate :=
  ⟨c.channelId, c.priority, c.weight⟩

/-- The candidate with the priority and the weight of a triple. -/
def ChannelCandidate.withScore (c : ChannelCandidate) (out : ScoreCandidate) : ChannelCandidate :=
  { c with priority := out.priority, weight := out.weight }

open ChannelCandidate

/-- `applyDynamicScores`, for what a request sees of the scores. -/
def ScoreView.applyDynamicScores (view : ScoreView) (candidates : List ChannelCandidate) :
    List ChannelCandidate :=
  if candidates.isEmpty || !view.scoringEnabled then candidates
  else
    let out := view.applyToCandidates (candidates.map toScore)
    if out.length ≠ candidates.length then candidates
    else candidates.zipWith withScore out

/-! ## Revalidation -/

inductive ChannelAffinityPinVerdict where
  | valid
  | unusable
  | outranked
deriving DecidableEq, Repr

def affinityPinOutrankMarginTiers : Int := 2

/-- The rival displaces the pin; both are given as a candidate and as it is scored. -/
def outranks (view : ScoreView) (inFlight : Int → Int) (tiers : List Int)
    (pinned pinnedScored rival rivalScored : ChannelCandidate) : Bool :=
  if rival.isSaturated inFlight || rival.coolingDown then false
  else if !view.scoringEnabled then rival.priority > pinned.priority
  else
    let pinnedPosition := tierPosition tiers pinnedScored.priority
    let rivalPosition :=
      max (tierPosition tiers rivalScored.priority) (tierPosition tiers rival.priority)
    pinnedPosition - rivalPosition ≥ affinityPinOutrankMarginTiers

/-- The loop of `ValidateChannelAffinityPin` over the candidates, for the index of the pin. -/
def pinOutranked (view : ScoreView) (inFlight : Int → Int) (candidates : List ChannelCandidate)
    (pinnedIndex : Nat) : Bool :=
  let tiers := distinctBaselineTiers (candidates.map (·.priority))
  let scored := view.applyDynamicScores candidates
  (List.range candidates.length).any fun i =>
    i ≠ pinnedIndex &&
      match candidates[pinnedIndex]?, scored[pinnedIndex]?, candidates[i]?, scored[i]? with
      | some pinned, some pinnedScored, some rival, some rivalScored =>
          outranks view inFlight tiers pinned pinnedScored rival rivalScored
      | _, _, _, _ => false

/-- `ValidateChannelAffinityPin`, for what `affinityCandidateSnapshot` returns. -/
def validateChannelAffinityPin (view : ScoreView) (inFlight : Int → Int)
    (snapshot : Except String (List ChannelCandidate)) (channelId : Int) :
    ChannelAffinityPinVerdict :=
  if channelId ≤ 0 then .unusable
  else match snapshot with
  | .error _ => .valid
  | .ok candidates =>
      if candidates.isEmpty then .valid
      else match candidates.findIdx? (·.channelId = channelId) with
      | none => .unusable
      | some pinnedIndex =>
          if pinOutranked view inFlight candidates pinnedIndex then .outranked else .valid

/-- The candidates that both modes build; `strictMissing` is on in a selection and off in
`affinityCandidateSnapshot`. -/
def candidateSnapshot (memoryCacheEnabled strictMissing : Bool) (env : RoutingEnv)
    (db : RoutingDb) (cache : ChannelCache) (group modelName requestPath : String) :
    Except String (List ChannelCandidate) :=
  if memoryCacheEnabled then
    cache.buildCachedCandidates env group modelName requestPath strictMissing
  else .ok (db.buildDBCandidates env group modelName requestPath)

def affinityCandidateSnapshot (memoryCacheEnabled : Bool) :=
  candidateSnapshot memoryCacheEnabled false

/-- A selection that finds every channel in the cache sees what revalidation sees, and each
candidate is read off the cached row of its id. -/
theorem candidates_strict {env : RoutingEnv} {cache : ChannelCache} {modelName : String}
    {ids : List Int} {found : List ChannelCandidate}
    (h : cache.candidates env modelName true ids = .ok found) :
    cache.candidates env modelName false ids = .ok found ∧ ∀ c ∈ found, ∃ ch,
      cache.channelsIDM c.channelId = some ch ∧
        c = ChannelCache.candidate env modelName c.channelId ch := by
  induction ids generalizing found with
  | nil =>
    cases h
    exact ⟨rfl, fun c hc => nomatch hc⟩
  | cons id ids ih =>
    rw [ChannelCache.candidates] at h ⊢
    cases hch : cache.channelsIDM id with
    | none => simp [hch] at h
    | some ch =>
      simp only [hch] at h ⊢
      cases hre : cache.candidates env modelName true ids with
      | error e => simp [hre] at h
      | ok rest =>
        rw [hre] at h
        cases h
        obtain ⟨hsm, hrw⟩ := ih hre
        refine ⟨by rw [hsm], fun c hc => ?_⟩
        rcases mem_cons.mp hc with rfl | hc
        · exact ⟨ch, hch, rfl⟩
        · exact hrw c hc

/-- **Selection and revalidation see the same candidates**, one for each channel: where a list of
the cache repeats an id, it repeats the candidate. -/
theorem affinityCandidateSnapshot_eq {memoryCacheEnabled : Bool} {env : RoutingEnv}
    {db : RoutingDb} {cache : ChannelCache} {group modelName requestPath : String}
    {candidates : List ChannelCandidate}
    (h : candidateSnapshot memoryCacheEnabled true env db cache group modelName requestPath =
      .ok candidates) :
    affinityCandidateSnapshot memoryCacheEnabled env db cache group modelName requestPath =
      .ok candidates ∧
      ∀ c ∈ candidates, ∀ c' ∈ candidates, c.channelId = c'.channelId → c = c' := by
  cases memoryCacheEnabled with
  | true =>
    obtain ⟨hsm, hrw⟩ := candidates_strict h
    refine ⟨hsm, fun c hc c' hc' hid => ?_⟩
    obtain ⟨ch, hch, hc⟩ := hrw c hc
    obtain ⟨ch', hch', hc'⟩ := hrw c' hc'
    rw [hid, hch'] at hch
    cases hch
    rw [hc, hc', hid]
  | false =>
    cases h
    refine ⟨rfl, fun c hc c' hc' hid => ?_⟩
    exact inj_on_of_nodup_map (nodup_buildDBCandidates env db group modelName requestPath)
      hc hc' hid

/-! ## What is selected is best -/

section Selected
variable {candidates : List ChannelCandidate} {inFlight : Int → Int} {random : Nat → Nat}

/-- **A first selection takes the highest priority** that a free channel has which does not cool
down, or a higher one. -/
theorem selectChannelCandidate_best (hran : ∀ total, 0 < total → random total < total)
    {x : Int} (h : selectChannelCandidate inFlight inFlight random candidates 0 [] = some x) :
    ∃ c ∈ candidates, c.channelId = x ∧ ∀ rival ∈ candidates,
      rival.isSaturated inFlight = false → rival.coolingDown = false →
        rival.priority ≤ c.priority := by
  obtain ⟨c, hfound, rfl⟩ := Option.map_eq_some_iff.mp h
  obtain ⟨above, tier, below, htie, hdr, hno⟩ := findSome?_eq_some_iff.mp hfound
  obtain ⟨hc, hlf⟩ := mem_filter.mp (Selection.mem_of_draw hdr)
  have hti : c.priority = tier := by
    simp only [Bool.and_eq_true, decide_eq_true_eq] at hlf
    exact hlf.1.1.1
  have hsor : (above ++ tier :: below).Pairwise (· ≥ ·) := by
    rw [← htie, startTier, if_neg (by simp), drop_zero]
    exact pairwise_insertionSort _ _
  refine ⟨c, hc, rfl, fun rival hriv hfr hready => ?_⟩
  by_contra hhig
  -- the tier of a better rival comes first, and the rival is left in it
  have hmem : rival.priority ∈ above := by
    have hall := mem_tiers hriv
    rw [← drop_zero (l := tiers candidates),
      show (0 : Nat) = startTier (tiers candidates) 0 [] from rfl, htie] at hall
    rcases mem_append.mp hall with habv | hbel
    · exact habv
    rcases mem_cons.mp hbel with heq | hbel
    · omega
    have hle := rel_of_pairwise_cons (pairwise_append.mp hsor).2.1 hbel
    omega
  refine draw_ne_none hran (ne_nil_of_mem (mem_filter.mpr ⟨hriv, ?_⟩)) (hno _ hmem)
  simp [hfr, hready]

end Selected

/-! ## The pin of what is selected -/

section Pin
variable {view : ScoreView} {candidates : List ChannelCandidate} {inFlight : Int → Int}

/-- Each candidate keeps its place and gets a rank; its own one if scoring is off. -/
theorem applyDynamicScores_eq_map (view : ScoreView) (candidates : List ChannelCandidate) :
    ∃ score : ChannelCandidate → ScoreCandidate,
      view.applyDynamicScores candidates = candidates.map (fun c => c.withScore (score c)) ∧
        (view.scoringEnabled = false → score = toScore) := by
  have hsm : candidates.map (fun c => c.withScore c.toScore) = candidates := map_id _
  unfold ScoreView.applyDynamicScores
  by_cases hoff : (candidates.isEmpty || !view.scoringEnabled) = true
  · exact ⟨toScore, by rw [if_pos hoff, hsm], fun _ => rfl⟩
  refine ⟨fun c => view.scored (candidates.map toScore) c.toScore, ?_, ?_⟩
  · rw [if_neg hoff, applyToCandidates_eq, map_map]
    rw [if_neg (by simp), zipWith_map_right, zipWith_self]
    rfl
  · intro hsco
    simp [hsco] at hoff

/-- A free rival that does not cool down and is scored no higher does not displace the pin. -/
theorem outranks_false {priorities : List Int} (hpri : priorities ≠ [])
    {pinned pinnedScored rival rivalScored : ChannelCandidate}
    (hsc : rival.isSaturated inFlight = false → rival.coolingDown = false →
      rivalScored.priority ≤ pinnedScored.priority)
    (hoff : view.scoringEnabled = false → rivalScored.priority = rival.priority ∧
      pinnedScored.priority = pinned.priority) :
    outranks view inFlight (distinctBaselineTiers priorities) pinned pinnedScored rival
      rivalScored = false := by
  unfold outranks
  split
  · rfl
  rename_i hfr
  simp only [Bool.or_eq_true, not_or, Bool.not_eq_true] at hfr
  have hle := hsc hfr.1 hfr.2
  have hpos := tierPosition_antitone (tierLadder priorities hpri) hle
  split
  · rename_i hsco
    obtain ⟨hr, hq⟩ := hoff (by simpa using hsco)
    simp only [decide_eq_false_iff_not]
    omega
  · have hmar : affinityPinOutrankMarginTiers = 2 := rfl
    simp only [decide_eq_false_iff_not]
    change tierPosition (distinctBaselineTiers priorities) _ ≤
      tierPosition (distinctBaselineTiers priorities) _ at hpos
    omega

/-- **A fresh pin is valid.**  When a first selection picks a channel from the scored candidates,
the pin to it is valid in the same state, with scoring on or off. -/
theorem fresh_pin_valid (memoryCacheEnabled : Bool) (env : RoutingEnv) (db : RoutingDb)
    (cache : ChannelCache) (group modelName requestPath : String) (view : ScoreView)
    (inFlight : Int → Int) {random : Nat → Nat}
    (hrandom : ∀ total, 0 < total → random total < total) {candidates : List ChannelCandidate}
    (hcandidates : candidateSnapshot memoryCacheEnabled true env db cache group modelName
      requestPath = .ok candidates) {x : Int} (hx : 0 < x)
    (h : selectChannelCandidate inFlight inFlight random (view.applyDynamicScores candidates) 0
      [] = some x) :
    validateChannelAffinityPin view inFlight (affinityCandidateSnapshot memoryCacheEnabled env db
      cache group modelName requestPath) x = .valid := by
  obtain ⟨hsna, hone⟩ := affinityCandidateSnapshot_eq hcandidates
  obtain ⟨best, hbt, rfl, hall⟩ := selectChannelCandidate_best hrandom h
  obtain ⟨score, hsco, hoff⟩ := applyDynamicScores_eq_map view candidates
  rw [hsco] at hbt hall
  obtain ⟨pinned, hpin, rfl⟩ := mem_map.mp hbt
  rw [hsna, validateChannelAffinityPin, if_neg (not_le.mpr hx),
    show (pinned.withScore (score pinned)).channelId = pinned.channelId from rfl]
  cases hfd : candidates.findIdx? (·.channelId = pinned.channelId) with
  | none =>
    rw [findIdx?_eq_none_iff] at hfd
    simpa using hfd _ hpin
  | some p =>
    -- the channel at the index that is found has the selected candidate
    obtain ⟨hp, hid, -⟩ := findIdx?_eq_some_iff_getElem.mp hfd
    have hat : candidates[p]? = some pinned := by
      rw [getElem?_eq_getElem hp, hone _ (getElem_mem hp) _ hpin (of_decide_eq_true hid)]
    have hkept : pinOutranked view inFlight candidates p = false := by
      simp only [pinOutranked, hsco, hat, getElem?_map, Option.map_some]
      refine any_eq_false.mpr fun i _ => ?_
      cases hi : candidates[i]? with
      | none => simp
      | some rival =>
        have hriv := mem_of_getElem? hi
        have hkee : outranks view inFlight
            (distinctBaselineTiers (candidates.map (·.priority))) pinned
            (pinned.withScore (score pinned)) rival (rival.withScore (score rival)) = false :=
          outranks_false (by simpa using ne_nil_of_mem hpin)
            (hall _ (mem_map_of_mem hriv)) fun hsc => by
              rw [hoff hsc]
              exact ⟨rfl, rfl⟩
        simp [hkee]
    cases candidates with
    | nil => cases hpin
    | cons c rest => simp [hkept]

/-- Two channels for every group and model, the first one with the higher priority. -/
def twoChannels : ChannelCache where
  group2model2channels _ _ := [1, 2]
  channelsIDM id := some { id := id, priority := some (if id = 1 then 10 else 0) }
  channel2advancedCustomConfig _ := none
  channelCacheGeneration := 1

/-- The first channel has been demoted by two tiers. -/
def firstDemoted : ScoreView where
  enabled := true
  lookup id := if id = 1 then some ⟨-2, 0, 0⟩ else none

theorem fresh_pin_valid_demoted :
    selectChannelCandidate (fun _ => 0) (fun _ => 0) (fun _ => 0)
        (firstDemoted.applyDynamicScores [⟨1, 10, 0, 0, false⟩, ⟨2, 0, 0, 0, false⟩]) 0 [] =
      some 2 ∧
    validateChannelAffinityPin firstDemoted (fun _ => 0) (affinityCandidateSnapshot true
      RoutingDb.plainEnv .empty twoChannels "g" "m" "") 2 = .valid := by
  refine ⟨?sel, fresh_pin_valid true RoutingDb.plainEnv .empty twoChannels "g" "m" ""
    firstDemoted (fun _ => 0) (fun _ h => h) (by decide +kernel) (by decide) ?sel⟩
  decide +kernel

end Pin
end NewApi
