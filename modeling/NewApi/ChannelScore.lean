import Mathlib.Tactic.Linarith

/-! # Channel scores

A channel that keeps failing sinks in the order of selection, one that keeps succeeding rises.
Its record is a streak of each kind, a tier offset and two halves of a success window, and one
report moves all of it at once.  The transition is written twice: in Lua, where it runs on a
Redis hash that expires, and in Go, where it runs on a record of the process that never goes
away.  A third piece of code reads the offset between two reports.

The two writings agree field by field on every record (`scoreUpdate_eq_report`).  What differs
is the fate of a record without reports: the hash is deleted after `scoreKeyTTLSeconds`, the
other decays when the next report comes.  The offset stays within the configured tiers
(`ScoreState.Bounded`), and the hash lives one idle period longer than the deepest offset needs,
so what has expired has also decayed to nothing (`lapse_of_expired`).

Times are those of a clock after 1970: a record of time 0 counts as never updated and does not
decay.  The product in `scoreKeyTTLSeconds` and the negation of `MaxDemoteTiers` are those of
64-bit integers.  Counters are not cut off; each goes up by one with a report. -/
namespace NewApi

/-- What 64-bit arithmetic makes of an integer. -/
def wrapInt64 (n : Int) : Int :=
  (n + 9223372036854775808) % 18446744073709551616 - 9223372036854775808

theorem wrapInt64_of_fits {n : Int} (hlow : -9223372036854775808 ≤ n)
    (hhi : n < 9223372036854775808) : wrapInt64 n = n := by
  unfold wrapInt64
  omega

/-- `ChannelDynamicScoreSetting`, as far as a report reads it. -/
structure ChannelDynamicScoreSetting where
  successesToPromote : Int
  faultsToDemote : Int
  maxPromoteTiers : Int
  maxDemoteTiers : Int
  successWindowSeconds : Int
  idleResetSeconds : Int
deriving DecidableEq, Repr

/-- `Outcome`. -/
inductive ScoreOutcome where
  | success
  | fault
deriving DecidableEq, Repr

structure ScoreState where
  consecutiveSuccess : Int := 0
  faultCount : Int := 0
  tierOffset : Int := 0
  curStart : Int := 0
  curTotal : Int := 0
  curSuccess : Int := 0
  prevTotal : Int := 0
  prevSuccess : Int := 0
  updatedAt : Int := 0
deriving DecidableEq, Repr

structure Snapshot where
  tierOffset : Int
  total : Int := 0
  success : Int := 0
deriving DecidableEq, Repr

/-- The snapshot of a record; the totals are `sampleTotals`. -/
def ScoreState.snapshot (s : ScoreState) : Snapshot :=
  ⟨s.tierOffset, s.curTotal + s.prevTotal, s.curSuccess + s.prevSuccess⟩

namespace ChannelDynamicScoreSetting

/-- `halfWidth` in `Report`. -/
def halfWidth (setting : ChannelDynamicScoreSetting) : Int :=
  let halfWidth := setting.successWindowSeconds.tdiv 2
  if halfWidth ≤ 0 then 1 else halfWidth

/-- `depth` in `scoreKeyTTLSeconds`. -/
def depth (setting : ChannelDynamicScoreSetting) : Int :=
  let depth := setting.maxDemoteTiers
  let depth := if setting.maxPromoteTiers > depth then setting.maxPromoteTiers else depth
  if depth < 0 then 0 else depth

def scoreKeyTTLSeconds (setting : ChannelDynamicScoreSetting) : Int :=
  if setting.idleResetSeconds ≤ 0 then 0
  else wrapInt64 (setting.idleResetSeconds * (setting.depth + 1))

theorem halfWidth_pos (setting : ChannelDynamicScoreSetting) : 0 < setting.halfWidth := by
  dsimp only [halfWidth]
  split
  · decide
  · omega

end ChannelDynamicScoreSetting

/-! ## The record of the process -/

def min64 (a b : Int) : Int := if a < b then a else b

def decayedOffset (offset elapsed idleResetSeconds : Int) : Int :=
  if offset = 0 ∨ idleResetSeconds ≤ 0 then offset
  else
    let periods := elapsed.tdiv idleResetSeconds
    if periods ≤ 0 then offset
    else if offset > 0 then offset - min64 periods offset
    else offset + min64 periods (-offset)

namespace ScoreState

def decayIdle (now idleResetSeconds : Int) (s : ScoreState) : ScoreState :=
  if idleResetSeconds ≤ 0 ∨ s.updatedAt ≤ 0 then s
  else
    let periods := (now - s.updatedAt).tdiv idleResetSeconds
    let offset := s.tierOffset
    { updatedAt := s.updatedAt
      tierOffset :=
        if periods ≤ 0 then offset
        else if offset > 0 then offset - min64 periods offset
        else if offset < 0 then offset + min64 periods (-offset)
        else offset }

def rotate (now halfWidth : Int) (s : ScoreState) : ScoreState :=
  if halfWidth ≤ 0 then s
  else if s.curStart = 0 then { s with curStart := now }
  else
    let elapsed := now - s.curStart
    if elapsed < halfWidth then s
    else
      let prev := if elapsed < 2 * halfWidth then (s.curTotal, s.curSuccess) else (0, 0)
      { s with
        prevTotal := prev.1, prevSuccess := prev.2
        curTotal := 0, curSuccess := 0, curStart := now }

/-- What `applyLocal` does first: a record that has been idle decays. -/
def lapse (setting : ChannelDynamicScoreSetting) (now : Int) (s : ScoreState) : ScoreState :=
  if s.updatedAt > 0 ∧ setting.idleResetSeconds > 0 ∧
      now - s.updatedAt ≥ setting.idleResetSeconds then
    s.decayIdle now setting.idleResetSeconds
  else s

/-- The branch of a success. -/
def succeed (setting : ChannelDynamicScoreSetting) (s : ScoreState) : ScoreState :=
  let s := { s with
    curSuccess := s.curSuccess + 1, faultCount := 0
    consecutiveSuccess := s.consecutiveSuccess + 1 }
  if setting.successesToPromote > 0 ∧ s.consecutiveSuccess ≥ setting.successesToPromote then
    { s with
      consecutiveSuccess := 0
      tierOffset :=
        if s.tierOffset < setting.maxPromoteTiers then s.tierOffset + 1 else s.tierOffset }
  else s

/-- The branch of a fault. -/
def fail (setting : ChannelDynamicScoreSetting) (s : ScoreState) : ScoreState :=
  let s := { s with consecutiveSuccess := 0, faultCount := s.faultCount + 1 }
  if setting.faultsToDemote > 0 ∧ s.faultCount ≥ setting.faultsToDemote then
    { s with
      faultCount := 0
      tierOffset :=
        if s.tierOffset > wrapInt64 (-setting.maxDemoteTiers) then s.tierOffset - 1
        else s.tierOffset }
  else s

/-- The record, updated at a time. -/
def stamp (now : Int) (s : ScoreState) : ScoreState := { s with updatedAt := now }

/-- What `applyLocal` does with a record that is not idle. -/
def count (setting : ChannelDynamicScoreSetting) (now : Int) (outcome : ScoreOutcome)
    (s : ScoreState) : ScoreState :=
  let s := s.rotate now setting.halfWidth
  let s := { s with curTotal := s.curTotal + 1 }
  let s := match outcome with
    | .success => s.succeed setting
    | .fault => s.fail setting
  s.stamp now

/-- The transition of `applyLocal`. -/
def report (setting : ChannelDynamicScoreSetting) (now : Int) (outcome : ScoreOutcome)
    (s : ScoreState) : ScoreState :=
  (s.lapse setting now).count setting now outcome

end ScoreState

/-- `entry`, as far as a process without Redis uses it. -/
structure ScoreEntry where
  state : ScoreState := {}
  published : Option Snapshot := none
deriving DecidableEq, Repr

/-- `applyLocal`, on the entry of the key if there is one. -/
def applyLocal (setting : ChannelDynamicScoreSetting) (now : Int) (outcome : ScoreOutcome)
    (entry : Option ScoreEntry) : ScoreEntry :=
  let state := (entry.getD {}).state.report setting now outcome
  ⟨state, some state.snapshot⟩

def lookup (now idleResetSeconds : Int) (entry : Option ScoreEntry) : Option Snapshot :=
  match entry with
  | none => none
  | some e =>
      match e.published with
      | none => none
      | some snap =>
          if idleResetSeconds ≤ 0 then some snap
          else if e.state.updatedAt ≤ 0 then some snap
          else
            let elapsed := now - e.state.updatedAt
            if elapsed < idleResetSeconds then some snap
            else
              let decayed := decayedOffset snap.tierOffset elapsed idleResetSeconds
              if decayed = 0 then none else some ⟨decayed, 0, 0⟩

/-- The tier offset that the selection takes from a lookup. -/
def lookupOffset (found : Option Snapshot) : Int :=
  match found with
  | none => 0
  | some snap => snap.tierOffset

/-! ## The Redis hash -/

/-- A hash of Redis with its time of expiry. -/
structure ScoreHash where
  fields : ScoreState
  expireAt : Option Int
deriving DecidableEq, Repr

/-- What is left of a key at a time. -/
def liveHash (now : Int) (hash : Option ScoreHash) : Option ScoreHash :=
  hash.filter fun h => h.expireAt.all (now < ·)

/-- `HMGET`; a field that is not there counts as zero. -/
def hmget (hash : Option ScoreHash) : ScoreState :=
  match hash with
  | none => {}
  | some h => h.fields

namespace ScoreUpdate

/-- The idle handling of the script. -/
def idle (now idleResetSeconds : Int) (s : ScoreState) : ScoreState :=
  if s.updatedAt > 0 ∧ idleResetSeconds > 0 ∧ now - s.updatedAt ≥ idleResetSeconds then
    let periods := (now - s.updatedAt).fdiv idleResetSeconds
    { updatedAt := s.updatedAt
      tierOffset :=
        if periods > 0 then
          if s.tierOffset > 0 then max 0 (s.tierOffset - periods)
          else if s.tierOffset < 0 then min 0 (s.tierOffset + periods)
          else s.tierOffset
        else s.tierOffset }
  else s

/-- The rotation of the script. -/
def rotate (now halfWidth : Int) (s : ScoreState) : ScoreState :=
  if halfWidth > 0 then
    if s.curStart = 0 then { s with curStart := now }
    else
      let elapsed := now - s.curStart
      if elapsed ≥ halfWidth then
        { s with
          prevTotal := if elapsed < 2 * halfWidth then s.curTotal else 0
          prevSuccess := if elapsed < 2 * halfWidth then s.curSuccess else 0
          curTotal := 0, curSuccess := 0, curStart := now }
      else s
  else s

/-- The streaks and the offset in the script. -/
def streaks (outcome : ScoreOutcome)
    (successesToPromote faultsToDemote maxPromoteTiers maxDemoteTiers : Int) (s : ScoreState) :
    ScoreState :=
  match outcome with
  | .success =>
      let streak := s.consecutiveSuccess + 1
      let reached := decide (successesToPromote > 0) && decide (streak ≥ successesToPromote)
      { s with
        curSuccess := s.curSuccess + 1
        faultCount := 0
        consecutiveSuccess := if reached then 0 else streak
        tierOffset :=
          if reached && decide (s.tierOffset < maxPromoteTiers) then s.tierOffset + 1
          else s.tierOffset }
  | .fault =>
      let streak := s.faultCount + 1
      let reached := decide (faultsToDemote > 0) && decide (streak ≥ faultsToDemote)
      { s with
        consecutiveSuccess := 0
        faultCount := if reached then 0 else streak
        tierOffset :=
          if reached && decide (s.tierOffset > -maxDemoteTiers) then s.tierOffset - 1
          else s.tierOffset }

/-- What the script writes with `HMSET`. -/
def fields (setting : ChannelDynamicScoreSetting) (now : Int) (outcome : ScoreOutcome)
    (s : ScoreState) : ScoreState :=
  let s := idle now setting.idleResetSeconds s
  let s := rotate now setting.halfWidth s
  let s := { s with curTotal := s.curTotal + 1 }
  let s := streaks outcome setting.successesToPromote setting.faultsToDemote
    setting.maxPromoteTiers setting.maxDemoteTiers s
  s.stamp now

end ScoreUpdate

open ScoreUpdate (fields idle streaks)

/-- `score_update.lua`: the hash afterwards and what is returned.  `EXPIRE` is called only for a
positive time; without it a hash keeps the expiry that it has. -/
def scoreUpdate (setting : ChannelDynamicScoreSetting) (now : Int) (outcome : ScoreOutcome)
    (hash : Option ScoreHash) : ScoreHash × Snapshot :=
  let hash := liveHash now hash
  let fields := fields setting now outcome (hmget hash)
  let ttlSeconds := setting.scoreKeyTTLSeconds
  let expireAt := if ttlSeconds > 0 then some (now + ttlSeconds) else hash.bind (·.expireAt)
  (⟨fields, expireAt⟩, fields.snapshot)

/-! ## Histories -/

/-- A report: its time and its outcome. -/
abbrev ScoreReport := Int × ScoreOutcome

/-- The snapshots that the process publishes, and its entry in the end. -/
def localRun (setting : ChannelDynamicScoreSetting) (entry : Option ScoreEntry) :
    List ScoreReport → Option ScoreEntry × List (Option Snapshot)
  | [] => (entry, [])
  | (now, outcome) :: reports =>
      let entry := applyLocal setting now outcome entry
      let rest := localRun setting (some entry) reports
      (rest.1, entry.published :: rest.2)

/-- The triples that the script returns, and the hash in the end. -/
def sharedRun (setting : ChannelDynamicScoreSetting) (hash : Option ScoreHash) :
    List ScoreReport → Option ScoreHash × List (Option Snapshot)
  | [] => (hash, [])
  | (now, outcome) :: reports =>
      let updated := scoreUpdate setting now outcome hash
      let rest := sharedRun setting (some updated.1) reports
      (rest.1, some updated.2 :: rest.2)

/-! ## The two writings agree -/

section Agree
variable {setting : ChannelDynamicScoreSetting} {now : Int} {s : ScoreState}

/-- Towards zero in steps: by a minimum in Go, by a clamp in Lua. -/
theorem min64_of_pos {periods offset : Int} :
    offset - min64 periods offset = max 0 (offset - periods) := by
  unfold min64
  split
  · omega
  · omega

theorem min64_of_neg {periods offset : Int} :
    offset + min64 periods (-offset) = min 0 (offset + periods) := by
  unfold min64
  split
  · omega
  · omega

theorem idle_eq_lapse : idle now setting.idleResetSeconds s = s.lapse setting now := by
  unfold idle ScoreState.lapse
  by_cases hid : s.updatedAt > 0 ∧ setting.idleResetSeconds > 0 ∧
      now - s.updatedAt ≥ setting.idleResetSeconds
  · obtain ⟨hupd, hpos, hela⟩ := hid
    -- both divisions are of a nonnegative number
    have hdiv : (now - s.updatedAt).fdiv setting.idleResetSeconds =
        (now - s.updatedAt).tdiv setting.idleResetSeconds := by
      rw [Int.fdiv_eq_ediv_of_nonneg _ hpos.le, Int.tdiv_eq_ediv_of_nonneg (by omega)]
    have hact : ¬(setting.idleResetSeconds ≤ 0 ∨ s.updatedAt ≤ 0) := by omega
    rw [ScoreState.decayIdle, if_neg hact, hdiv]
    simp only [min64_of_pos, min64_of_neg, ← not_lt, ite_not, gt_iff_lt]
  · rw [if_neg hid, if_neg hid]

theorem rotate_eq_rotate (halfWidth : Int) :
    ScoreUpdate.rotate now halfWidth s = s.rotate now halfWidth := by
  unfold ScoreUpdate.rotate ScoreState.rotate
  rcases lt_or_ge 0 halfWidth with hpos | hneg
  · rw [if_pos hpos, if_neg (not_le.mpr hpos)]
    split
    · rfl
    rcases lt_or_ge (now - s.curStart) halfWidth with hlt | hge
    · rw [if_neg (not_le.mpr hlt), if_pos hlt]
    rw [if_pos hge, if_neg (not_lt.mpr hge)]
    split
    · rfl
    · rfl
  · rw [if_neg (not_lt.mpr hneg), if_pos hneg]

theorem streaks_success : streaks .success setting.successesToPromote
    setting.faultsToDemote setting.maxPromoteTiers setting.maxDemoteTiers s =
    s.succeed setting := by
  unfold streaks ScoreState.succeed
  by_cases hrea : setting.successesToPromote > 0 ∧
      s.consecutiveSuccess + 1 ≥ setting.successesToPromote
  · simp [hrea.1, hrea.2]
  have hbo : (decide (setting.successesToPromote > 0) &&
      decide (s.consecutiveSuccess + 1 ≥ setting.successesToPromote)) = false := by
    simpa using hrea
  simp only [hbo, if_neg hrea, Bool.false_and]
  rfl

section
variable (hneg : wrapInt64 (-setting.maxDemoteTiers) = -setting.maxDemoteTiers)
include hneg

theorem streaks_fault : streaks .fault setting.successesToPromote
    setting.faultsToDemote setting.maxPromoteTiers setting.maxDemoteTiers s = s.fail setting := by
  rw [streaks, ScoreState.fail, hneg]
  by_cases hrea : setting.faultsToDemote > 0 ∧ s.faultCount + 1 ≥ setting.faultsToDemote
  · simp [hrea.1, hrea.2]
  have hbo : (decide (setting.faultsToDemote > 0) &&
      decide (s.faultCount + 1 ≥ setting.faultsToDemote)) = false := by
    simpa using hrea
  simp only [hbo, if_neg hrea, Bool.false_and]
  rfl

/-- **The script and the process do the same to every record.** -/
theorem scoreUpdate_eq_report (outcome : ScoreOutcome) :
    fields setting now outcome s = s.report setting now outcome := by
  dsimp only [fields, ScoreState.report, ScoreState.count]
  rw [idle_eq_lapse, rotate_eq_rotate]
  cases outcome with
  | success => rw [streaks_success]
  | fault => rw [streaks_fault hneg]

end

end Agree

/-! ## The offset stays within the tiers -/

section Bounds
variable {setting : ChannelDynamicScoreSetting} {now : Int} {s : ScoreState}

/-- The offset is within the deepest movement either way. -/
def ScoreState.Bounded (setting : ChannelDynamicScoreSetting) (s : ScoreState) : Prop :=
  -setting.depth ≤ s.tierOffset ∧ s.tierOffset ≤ setting.depth

theorem depth_bounds (setting : ChannelDynamicScoreSetting) :
    0 ≤ setting.depth ∧ setting.maxDemoteTiers ≤ setting.depth ∧
      setting.maxPromoteTiers ≤ setting.depth := by
  dsimp only [ChannelDynamicScoreSetting.depth]
  split
  all_goals
    split
    · omega
    · omega

@[simp] theorem tierOffset_rotate (halfWidth : Int) :
    (s.rotate now halfWidth).tierOffset = s.tierOffset := by
  simp only [ScoreState.rotate]
  split_ifs
  all_goals rfl

/-- An idle record moves towards zero. -/
theorem lapse_bounded (h : s.Bounded setting) : (s.lapse setting now).Bounded setting := by
  obtain ⟨hlow, hhi⟩ := h
  unfold ScoreState.Bounded ScoreState.lapse
  split
  · have hact : ¬(setting.idleResetSeconds ≤ 0 ∨ s.updatedAt ≤ 0) := by omega
    rw [ScoreState.decayIdle, if_neg hact]
    simp only [min64_of_pos, min64_of_neg]
    split
    · exact ⟨hlow, hhi⟩
    split
    · omega
    split
    · omega
    · omega
  · exact ⟨hlow, hhi⟩

theorem succeed_bounded (h : s.Bounded setting) : (s.succeed setting).Bounded setting := by
  obtain ⟨-, -, hpro⟩ := depth_bounds setting
  obtain ⟨hlow, hhi⟩ := h
  dsimp only [ScoreState.Bounded, ScoreState.succeed]
  split
  · dsimp only
    split
    · omega
    · exact ⟨hlow, hhi⟩
  · exact ⟨hlow, hhi⟩

section
variable (hneg : wrapInt64 (-setting.maxDemoteTiers) = -setting.maxDemoteTiers)
include hneg

theorem fail_bounded (h : s.Bounded setting) : (s.fail setting).Bounded setting := by
  obtain ⟨-, hdem, -⟩ := depth_bounds setting
  obtain ⟨hlow, hhi⟩ := h
  dsimp only [ScoreState.Bounded, ScoreState.fail]
  split
  · dsimp only
    split
    · omega
    · exact ⟨hlow, hhi⟩
  · exact ⟨hlow, hhi⟩

/-- **A report keeps the offset within the tiers.** -/
theorem report_bounded (outcome : ScoreOutcome) (h : s.Bounded setting) :
    (s.report setting now outcome).Bounded setting := by
  have hrot : (ScoreState.rotate now setting.halfWidth (s.lapse setting now)).Bounded
      setting := by
    rw [ScoreState.Bounded, tierOffset_rotate]
    exact lapse_bounded h
  cases outcome with
  | success => exact succeed_bounded hrot
  | fault => exact fail_bounded hneg hrot

end

end Bounds

/-! ## What has expired has decayed -/

section Expiry
variable {setting : ChannelDynamicScoreSetting} {now : Int} {s : ScoreState}

/-- The settings whose products and negations fit in 64 bits. -/
structure ChannelDynamicScoreSetting.Fits (setting : ChannelDynamicScoreSetting) : Prop where
  demote_low : -9223372036854775808 < setting.maxDemoteTiers
  demote_high : setting.maxDemoteTiers < 9223372036854775808
  ttl : setting.idleResetSeconds * (setting.depth + 1) < 9223372036854775808

theorem ChannelDynamicScoreSetting.Fits.wrap_neg (h : setting.Fits) :
    wrapInt64 (-setting.maxDemoteTiers) = -setting.maxDemoteTiers := by
  have hlow := h.demote_low
  have hhi := h.demote_high
  exact wrapInt64_of_fits (by omega) (by omega)

/-- The hash lives one idle period longer than the deepest offset. -/
theorem ChannelDynamicScoreSetting.Fits.ttl_eq (h : setting.Fits)
    (hid : 0 < setting.idleResetSeconds) :
    setting.scoreKeyTTLSeconds = setting.idleResetSeconds * (setting.depth + 1) := by
  obtain ⟨hdep, -, -⟩ := depth_bounds setting
  have hpos : 0 ≤ setting.idleResetSeconds * (setting.depth + 1) :=
    mul_nonneg hid.le (by omega)
  have hft := h.ttl
  rw [scoreKeyTTLSeconds, if_neg (not_le.mpr hid), wrapInt64_of_fits (by omega) hft]

open ScoreState (count decayIdle fail lapse stamp succeed)

/-- An offset is gone after as many idle periods as it is deep. -/
theorem decayIdle_of_periods {idleResetSeconds periods : Int} (hid : 0 < idleResetSeconds)
    (hupd : 0 < s.updatedAt) (hlow : -periods ≤ s.tierOffset) (hhi : s.tierOffset ≤ periods)
    (hela : idleResetSeconds * (periods + 1) ≤ now - s.updatedAt) :
    s.decayIdle now idleResetSeconds = { updatedAt := s.updatedAt } := by
  have hper : periods + 1 ≤ (now - s.updatedAt).tdiv idleResetSeconds := by
    have hnon : 0 ≤ now - s.updatedAt :=
      (mul_nonneg hid.le (by omega)).trans hela
    rw [Int.tdiv_eq_ediv_of_nonneg hnon, Int.le_ediv_iff_mul_le hid, mul_comm]
    exact hela
  have hact : ¬(idleResetSeconds ≤ 0 ∨ s.updatedAt ≤ 0) := by omega
  rw [decayIdle, if_neg hact]
  simp only [min64_of_pos, min64_of_neg]
  congr 1
  split
  · omega
  split
  · omega
  split
  · omega
  · omega

/-- **A record that has expired has decayed** to a new one, but for its time. -/
theorem lapse_of_expired (hft : setting.Fits) (hid : 0 < setting.idleResetSeconds)
    (hupd : 0 < s.updatedAt) (hbdd : s.Bounded setting)
    (hexp : s.updatedAt + setting.scoreKeyTTLSeconds ≤ now) :
    s.lapse setting now = { updatedAt := s.updatedAt } := by
  obtain ⟨hdep, -, -⟩ := depth_bounds setting
  rw [hft.ttl_eq hid] at hexp
  have hela : setting.idleResetSeconds * (setting.depth + 1) ≤ now - s.updatedAt := by omega
  have hone : setting.idleResetSeconds * 1 ≤ setting.idleResetSeconds * (setting.depth + 1) :=
    mul_le_mul_of_nonneg_left (by omega) hid.le
  rw [lapse, if_pos ⟨hupd, hid, by omega⟩]
  exact decayIdle_of_periods hid hupd hbdd.1 hbdd.2 hela

theorem rotate_stamp (halfWidth time : Int) :
    (s.stamp time).rotate now halfWidth = (s.rotate now halfWidth).stamp time := by
  simp only [ScoreState.rotate, apply_ite (stamp time)]
  rfl

theorem succeed_stamp (time : Int) :
    (s.stamp time).succeed setting = (s.succeed setting).stamp time := by
  simp only [succeed, apply_ite (stamp time)]
  rfl

theorem fail_stamp (time : Int) : (s.stamp time).fail setting = (s.fail setting).stamp time := by
  simp only [fail, apply_ite (stamp time)]
  rfl

/-- What is counted does not depend on when the record was updated before. -/
theorem count_stamp (outcome : ScoreOutcome) (time : Int) :
    (s.stamp time).count setting now outcome = s.count setting now outcome := by
  unfold count
  rw [rotate_stamp]
  let r : ScoreState := { s.rotate now setting.halfWidth with
    curTotal := (s.rotate now setting.halfWidth).curTotal + 1 }
  cases outcome with
  | success =>
    calc ((r.stamp time).succeed setting).stamp now
        = ((r.succeed setting).stamp time).stamp now := by rw [succeed_stamp]
      _ = (r.succeed setting).stamp now := rfl
  | fault =>
    calc ((r.stamp time).fail setting).stamp now
        = ((r.fail setting).stamp time).stamp now := by rw [fail_stamp]
      _ = (r.fail setting).stamp now := rfl

end Expiry

/-! ## The same machine -/

section Machine
variable {setting : ChannelDynamicScoreSetting}

/-- The entry of the process and the hash after the same reports. -/
def SameScore (setting : ChannelDynamicScoreSetting) (entry : Option ScoreEntry)
    (hash : Option ScoreHash) : Prop :=
  (entry = none ∧ hash = none) ∨
  ∃ s : ScoreState, entry = some ⟨s, some s.snapshot⟩ ∧ 0 < s.updatedAt ∧ s.Bounded setting ∧
    hash = some ⟨s, if setting.scoreKeyTTLSeconds > 0 then
      some (s.updatedAt + setting.scoreKeyTTLSeconds) else none⟩

variable {entry : Option ScoreEntry} {hash : Option ScoreHash}

/-- What a report at a time starts from: the record after the idle handling. -/
theorem SameScore.hmget_live (hft : setting.Fits) (now : Int) (h : SameScore setting entry hash) :
    ∃ time, ((hmget (liveHash now hash)).lapse setting now).stamp time =
      (entry.getD {}).state.lapse setting now := by
  rcases h with ⟨rfl, rfl⟩ | ⟨s, rfl, hupd, hbdd, rfl⟩
  · exact ⟨0, rfl⟩
  by_cases hlv : setting.scoreKeyTTLSeconds > 0 ∧ s.updatedAt + setting.scoreKeyTTLSeconds ≤ now
  · -- the hash has expired
    have hid : 0 < setting.idleResetSeconds := by
      by_contra hnot
      rw [ChannelDynamicScoreSetting.scoreKeyTTLSeconds, if_pos (not_lt.mp hnot)] at hlv
      exact absurd hlv.1 (lt_irrefl 0)
    have hgo : liveHash now (some ⟨s, if setting.scoreKeyTTLSeconds > 0 then
        some (s.updatedAt + setting.scoreKeyTTLSeconds) else none⟩) = none := by
      rw [liveHash, if_pos hlv.1]
      simp [Option.filter, hlv.2]
    refine ⟨s.updatedAt, ?_⟩
    rw [hgo]
    exact (lapse_of_expired hft hid hupd hbdd hlv.2).symm
  · have hkept : liveHash now (some ⟨s, if setting.scoreKeyTTLSeconds > 0 then
        some (s.updatedAt + setting.scoreKeyTTLSeconds) else none⟩) = some ⟨s,
        if setting.scoreKeyTTLSeconds > 0 then
        some (s.updatedAt + setting.scoreKeyTTLSeconds) else none⟩ := by
      unfold liveHash
      split
      · rename_i hpos
        have hlt : now < s.updatedAt + setting.scoreKeyTTLSeconds := by
          by_contra hnot
          exact hlv ⟨hpos, not_lt.mp hnot⟩
        simp [Option.filter, hlt]
      · simp [Option.filter]
    rw [hkept]
    exact ⟨(s.lapse setting now).updatedAt, rfl⟩

theorem updatedAt_report (now : Int) (outcome : ScoreOutcome) (s : ScoreState) :
    (s.report setting now outcome).updatedAt = now := rfl

theorem SameScore.bounded
    (h : SameScore setting entry hash) : (entry.getD {}).state.Bounded setting := by
  rcases h with ⟨rfl, -⟩ | ⟨s, rfl, -, hbdd, -⟩
  · obtain ⟨hdep, -, -⟩ := depth_bounds setting
    exact ⟨by simpa using hdep, hdep⟩
  · exact hbdd

variable {now : Int}

/-- The expiry that a hash has left, if no new one is set. -/
theorem SameScore.expireAt
    (h : SameScore setting entry hash) (hno : ¬setting.scoreKeyTTLSeconds > 0) :
    (liveHash now hash).bind (·.expireAt) = none := by
  rcases h with ⟨-, rfl⟩ | ⟨s, -, -, -, rfl⟩
  · rfl
  rw [if_neg hno]
  rfl

/-- **One report**: the script returns what the process publishes, and the stores are again
the same. -/
theorem SameScore.report (hft : setting.Fits) (hpos : 0 < now)
    (outcome : ScoreOutcome) (h : SameScore setting entry hash) :
    SameScore setting (some (applyLocal setting now outcome entry))
        (some (scoreUpdate setting now outcome hash).1) ∧
      (applyLocal setting now outcome entry).published =
        some (scoreUpdate setting now outcome hash).2 := by
  obtain ⟨time, hstr⟩ := h.hmget_live hft now
  have hfie : fields setting now outcome (hmget (liveHash now hash)) =
      (entry.getD {}).state.report setting now outcome := by
    rw [scoreUpdate_eq_report hft.wrap_neg]
    unfold ScoreState.report
    rw [← hstr, count_stamp]
  refine ⟨.inr ⟨_, rfl, hpos, report_bounded hft.wrap_neg outcome h.bounded, ?_⟩, ?_⟩
  · simp only [scoreUpdate, hfie, updatedAt_report]
    split
    · rfl
    rename_i hno
    rw [h.expireAt hno]
  · simp only [scoreUpdate, hfie]
    rfl

/-- What a report that arrives at a time continues from, in the process. -/
def localOffset (setting : ChannelDynamicScoreSetting) (now : Int) (entry : Option ScoreEntry) :
    Int :=
  ((entry.getD {}).state.lapse setting now).tierOffset

/-- What a report that arrives at a time continues from, in Redis. -/
def sharedOffset (setting : ChannelDynamicScoreSetting) (now : Int) (hash : Option ScoreHash) :
    Int :=
  (idle now setting.idleResetSeconds (hmget (liveHash now hash))).tierOffset

theorem decayedOffset_eq_decayIdle {now idleResetSeconds : Int} {s : ScoreState}
    (hupd : 0 < s.updatedAt) : decayedOffset s.tierOffset (now - s.updatedAt)
      idleResetSeconds = (s.decayIdle now idleResetSeconds).tierOffset := by
  unfold decayedOffset ScoreState.decayIdle
  by_cases hid : idleResetSeconds ≤ 0
  · rw [if_pos (.inr hid), if_pos (.inl hid)]
  have hact : ¬(idleResetSeconds ≤ 0 ∨ s.updatedAt ≤ 0) := by omega
  simp only [min64_of_pos, min64_of_neg]
  split
  · split
    · rfl
    split
    · omega
    split
    · omega
    · rfl
  · split
    · rfl
    split
    · rfl
    split
    · rfl
    · omega

/-- **The lookup decays as the next report will.** -/
theorem SameScore.lookup_eq (h : SameScore setting entry hash) :
    lookupOffset (lookup now setting.idleResetSeconds entry) = localOffset setting now entry := by
  rcases h with ⟨rfl, -⟩ | ⟨s, rfl, hupd, -, -⟩
  · rfl
  simp only [lookup, localOffset, Option.getD_some, ScoreState.lapse]
  by_cases hlap : s.updatedAt > 0 ∧ setting.idleResetSeconds > 0 ∧
      now - s.updatedAt ≥ setting.idleResetSeconds
  · rw [if_pos hlap, ← decayedOffset_eq_decayIdle hupd]
    obtain ⟨-, hid, hela⟩ := hlap
    rw [if_neg (not_le.mpr hid), if_neg (not_le.mpr hupd), if_neg (not_lt.mpr hela)]
    -- an offset of zero is reported as no snapshot
    split
    · rename_i hz
      exact hz.symm
    · rfl
  · split
    · rfl
    split
    · rfl
    have hfresh : now - s.updatedAt < setting.idleResetSeconds := by omega
    rw [if_pos hfresh]
    rfl

theorem SameScore.sharedOffset_eq (hft : setting.Fits) (h : SameScore setting entry hash) :
    sharedOffset setting now hash = localOffset setting now entry := by
  obtain ⟨time, hstr⟩ := h.hmget_live hft now
  rw [sharedOffset, localOffset, idle_eq_lapse, ← hstr]
  rfl

theorem SameScore.run (hft : setting.Fits) {reports : List ScoreReport}
    (hpos : ∀ r ∈ reports, 0 < r.1) (h : SameScore setting entry hash) :
    SameScore setting (localRun setting entry reports).1 (sharedRun setting hash reports).1 ∧
      (localRun setting entry reports).2 = (sharedRun setting hash reports).2 := by
  induction reports generalizing entry hash with
  | nil => exact ⟨h, rfl⟩
  | cons r reports ih =>
    obtain ⟨now, outcome⟩ := r
    obtain ⟨hsm, hpub⟩ := h.report hft (hpos _ List.mem_cons_self) outcome
    obtain ⟨hend, hre⟩ := ih (fun r hr => hpos r (List.mem_cons_of_mem _ hr)) hsm
    refine ⟨hend, ?_⟩
    simp only [localRun, sharedRun, hpub, hre]

/-- **The two stores are the same machine.**  For the same reports the script returns what the
process publishes, and at any time the lookup gives the offset that a report would continue
from, in either store. -/
theorem scores_same_machine (hfits : setting.Fits) {reports : List ScoreReport}
    (hpos : ∀ r ∈ reports, 0 < r.1) :
    (sharedRun setting none reports).2 = (localRun setting none reports).2 ∧
    ∀ now, lookupOffset (lookup now setting.idleResetSeconds (localRun setting none reports).1) =
        localOffset setting now (localRun setting none reports).1 ∧
      lookupOffset (lookup now setting.idleResetSeconds (localRun setting none reports).1) =
        sharedOffset setting now (sharedRun setting none reports).1 := by
  have hno : SameScore setting none none := .inl ⟨rfl, rfl⟩
  obtain ⟨hend, hsna⟩ := hno.run hfits hpos
  refine ⟨hsna.symm, fun now => ⟨hend.lookup_eq, ?_⟩⟩
  rw [hend.lookup_eq, hend.sharedOffset_eq hfits]

/-- The default setting, a demotion that is forgiven before the last report. -/
theorem scores_same_machine_default :
    let setting : ChannelDynamicScoreSetting := ⟨5, 1, 1, 3, 300, 1800⟩
    let reports : List ScoreReport := [(100, .fault), (120, .fault), (9000, .success)]
    (sharedRun setting none reports).2 = (localRun setting none reports).2 ∧
    ∀ now, lookupOffset (lookup now setting.idleResetSeconds (localRun setting none reports).1) =
        localOffset setting now (localRun setting none reports).1 ∧
      lookupOffset (lookup now setting.idleResetSeconds (localRun setting none reports).1) =
        sharedOffset setting now (sharedRun setting none reports).1 :=
  scores_same_machine ⟨by decide, by decide, by decide⟩ (by decide)

/-- **Where they differ.**  A record of time 0 never decays in the process, but its hash expires;
and a product that does not fit in 64 bits gives the hash two seconds of an idle period of an age.
In both the process goes on to a second demotion and Redis starts again. -/
theorem scores_differ :
    (∃ setting : ChannelDynamicScoreSetting, setting.Fits ∧
      (sharedRun setting none [(0, .fault), (1000, .fault)]).2 ≠
        (localRun setting none [(0, .fault), (1000, .fault)]).2) ∧
    (∃ setting : ChannelDynamicScoreSetting,
      setting.idleResetSeconds < 9223372036854775808 ∧
      (sharedRun setting none [(1, .fault), (3, .fault)]).2 ≠
        (localRun setting none [(1, .fault), (3, .fault)]).2) := by
  refine ⟨⟨⟨5, 1, 0, 2, 300, 10⟩, ⟨by decide, by decide, by decide⟩, by decide +kernel⟩,
    ⟨⟨5, 1, 0, 2, 300, 6148914691236517206⟩, by decide, by decide +kernel⟩⟩

end Machine

end NewApi
