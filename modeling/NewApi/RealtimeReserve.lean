import NewApi.BillingAtomicity
import NewApi.QuotaMath
import NewApi.Steps

/-! # Reservations of a realtime session

While a realtime session runs, `PreWssConsumeQuota` prices each segment of usage
and raises the session's reservation by it, so that what is used is held.  A
trusted session is the exception: `Reserve` takes nothing for a target within the
amount the trust check approved.  The target of a segment is the current
reservation plus the segment's own price, so segments that each fit within the
approved amount are never reserved, however many there are
(`small_segments_unreserved`).  The reservation keeps up exactly when the leading
segments that fit add up to no more than what was approved
(`reservation_keeps_up_iff`). -/
namespace NewApi
open List Steps

/-- `dto.InputTokenDetails`. -/
structure InputTokenDetails where
  cachedTokens : Int
  cachedCreationTokens : Int
  cacheWriteTokens : Int
  textTokens : Int
  audioTokens : Int
  imageTokens : Int
  deriving DecidableEq, Repr

/-- `dto.OutputTokenDetails`. -/
structure OutputTokenDetails where
  textTokens : Int
  audioTokens : Int
  imageTokens : Int
  reasoningTokens : Int
  deriving DecidableEq, Repr

/-- `dto.RealtimeUsage`. -/
structure RealtimeUsage where
  totalTokens : Int
  inputTokens : Int
  outputTokens : Int
  inputTokenDetails : InputTokenDetails
  outputTokenDetails : OutputTokenDetails
  deriving DecidableEq, Repr

/-- The fields of `PriceData` and the model name that `PreWssConsumeQuota` reads. -/
structure PriceData where
  originModelName : String
  usePrice : Bool
  modelRatio : ℚ
  groupRatio : ℚ

/-- The errors of `PreWssConsumeQuota`. -/
inductive RealtimeError where
  /-- `realtime segment quota saturated: %s` -/
  | saturated (clamp : QuotaClamp)
  | reserve (e : NewAPIError)
  deriving DecidableEq

/-- The `QuotaInfo` of a segment. -/
def segmentInfo (price : PriceData) (usage : RealtimeUsage) : QuotaInfo where
  inputDetails := ⟨usage.inputTokenDetails.textTokens, usage.inputTokenDetails.audioTokens⟩
  outputDetails := ⟨usage.outputTokenDetails.textTokens, usage.outputTokenDetails.audioTokens⟩
  modelName := price.originModelName
  usePrice := price.usePrice
  modelPrice := 0
  modelRatio := price.modelRatio
  groupRatio := price.groupRatio

/-- `PreWssConsumeQuota`; `billing` is `relayInfo.Billing`. -/
def preWssConsumeQuota (setting : RatioSetting) (price : PriceData)
    (faults : BillingSession.Faults) (billing : Option BillingSession) (usage : RealtimeUsage)
    (db : Store) : Option RealtimeError × Option BillingSession × Store :=
  if price.usePrice then (none, billing, db)
  else match billing with
  | none => (none, none, db)
  | some s =>
      match calculateAudioQuota setting (segmentInfo price usage) with
      | (_, some clamp) => (some (.saturated clamp), some s, db)
      | (quota, none) =>
          match s.reserve faults (s.preConsumedQuota + quota) db with
          | (some e, s, db) => (some (.reserve e), some s, db)
          | (none, s, db) => (none, some s, db)

/-- A segment of usage, and what its reservation finds. -/
structure Segment where
  usage : RealtimeUsage
  faults : BillingSession.Faults
  db : Store

/-- The price of a segment. -/
def Segment.quota (setting : RatioSetting) (price : PriceData) (seg : Segment) : Int :=
  (calculateAudioQuota setting (segmentInfo price seg.usage)).1

/-- `PreWssConsumeQuota` of this segment returned `nil`. -/
def SegmentStep (setting : RatioSetting) (price : PriceData) (s : BillingSession) (seg : Segment)
    (s' : BillingSession) : Prop :=
  ∃ db, preWssConsumeQuota setting price seg.faults (some s) seg.usage seg.db = (none, some s', db)

namespace BillingSession
variable {s s' : BillingSession} {target : Int} {faults : Faults} {db db' : Store}

/-- Neither settled nor refunded. -/
def Live (s : BillingSession) : Prop := s.settled = false ∧ s.refunded = false

/-- A successful `Reserve` above the reservation raises it to the target, unless
the trust check approved the target. -/
theorem reserve_none (hlv : s.Live) (hle : s.preConsumedQuota ≤ target)
    (h : s.reserve faults target db = (none, s', db')) :
    s'.Live ∧ s'.trusted = s.trusted ∧ s'.trustedQuota = s.trustedQuota ∧ s'.preConsumedQuota =
        if s.trusted = true ∧ target ≤ s.trustedQuota then s.preConsumedQuota else target := by
  obtain ⟨hset, href⟩ := hlv
  unfold reserve at h
  -- the call returns early for a target that is covered or approved
  simp only [hset, href] at h
  split at h
  · rename_i hskip
    cases h
    refine ⟨⟨hset, href⟩, rfl, rfl, ?_⟩
    split
    · rfl
    rename_i hunt
    have : ¬ (s.trusted = true ∧ target ≤ s.trustedQuota) := hunt
    simp only [Bool.false_eq_true, false_or] at hskip
    rcases hskip with hcov | htru
    · omega
    · exact absurd htru this
  rename_i hgo
  split at h
  · cases h
  split at h
  · cases h
  cases h
  rw [syncRelayInfo_eq]
  refine ⟨⟨rfl, rfl⟩, rfl, rfl, ?_⟩
  rw [if_neg (fun htru => hgo (.inr (.inr (.inr htru))))]
  show s.preConsumedQuota + (target - s.preConsumedQuota) = target
  omega

end BillingSession

/-! ## A run of segments -/

section Run
variable {setting : RatioSetting} {price : PriceData} {s s' : BillingSession}

/-- The leading segments that a trusted session holding `held` lets pass. -/
def unreserved (held trustedQuota : Int) (quotas : List Int) : List Int :=
  quotas.takeWhile fun q => held + q ≤ trustedQuota

/-- One segment: its price is added to the reservation, unless it fits within the
approved amount. -/
theorem segment_step {seg : Segment} (hpri : price.usePrice = false) (hlv : s.Live)
    (h : SegmentStep setting price s seg s') :
    0 ≤ seg.quota setting price ∧ s'.Live ∧ s'.trusted = s.trusted ∧
      s'.trustedQuota = s.trustedQuota ∧ s'.preConsumedQuota =
        if s.trusted = true ∧ s.preConsumedQuota + seg.quota setting price ≤ s.trustedQuota
        then s.preConsumedQuota else s.preConsumedQuota + seg.quota setting price := by
  obtain ⟨db, h⟩ := h
  unfold preWssConsumeQuota at h
  rw [if_neg (by simp [hpri])] at h
  simp only at h
  split at h
  · cases h
  rename_i quota hquo
  have hseg : seg.quota setting price = quota := by rw [Segment.quota, hquo]
  have hnon : 0 ≤ quota := calculateAudioQuota_nonneg hpri hquo
  split at h
  · cases h
  rename_i s₁ db₁ hres
  cases h
  rw [hseg]
  exact ⟨hnon, BillingSession.reserve_none hlv (by omega) hres⟩

theorem quota_nonneg_run {segs : List Segment} (hpri : price.usePrice = false) (hlv : s.Live)
    (hrun : Run (SegmentStep setting price) s segs s') :
    ∀ q ∈ segs.map (Segment.quota setting price), 0 ≤ q := by
  induction hrun with
  | nil => simp
  | cons hst _ ih =>
    obtain ⟨hnon, hlv₁, -⟩ := segment_step hpri hlv hst
    intro q hq
    rcases mem_cons.mp hq with rfl | hq
    · exact hnon
    · exact ih hlv₁ q hq

theorem unreserved_eq_nil {held trustedQuota : Int} {quotas : List Int}
    (habv : trustedQuota < held) (hnon : ∀ q ∈ quotas, 0 ≤ q) :
    unreserved held trustedQuota quotas = [] := by
  cases quotas with
  | nil => rfl
  | cons q quotas =>
    have := hnon q (mem_cons_self ..)
    exact takeWhile_cons_of_neg (by simp only [decide_eq_true_eq]; omega)

/-- **What a run of segments holds**: everything but the leading segments that the
trust check lets pass. -/
theorem preConsumedQuota_run {segs : List Segment} (hpri : price.usePrice = false)
    (hlv : s.Live) (hrun : Run (SegmentStep setting price) s segs s') :
    s'.preConsumedQuota = s.preConsumedQuota + (segs.map (Segment.quota setting price)).sum -
      if s.trusted = true then
        (unreserved s.preConsumedQuota s.trustedQuota (segs.map (Segment.quota setting price))).sum
      else 0 := by
  induction hrun with
  | nil s => simp [unreserved]
  | @cons s s₁ s₂ seg segs hst hre ih =>
    obtain ⟨hnon, hlv₁, htru, hquo, hhd⟩ := segment_step hpri hlv hst
    rw [ih hlv₁, htru, hquo]
    simp only [map_cons, sum_cons]
    by_cases hft : s.trusted = true ∧ s.preConsumedQuota + seg.quota setting price ≤ s.trustedQuota
    · -- the segment passes: the reservation stays where it was
      rw [if_pos hft] at hhd
      rw [hhd, if_pos hft.1, if_pos hft.1, unreserved, unreserved,
        takeWhile_cons_of_pos (by simpa using hft.2), sum_cons]
      omega
    · rw [if_neg hft] at hhd
      by_cases ht : s.trusted = true
      · -- from here on the reservation is above the approved amount
        have habv : s.trustedQuota < s.preConsumedQuota + seg.quota setting price := by
          by_contra hle
          exact hft ⟨ht, by omega⟩
        have hlat := unreserved_eq_nil habv (quota_nonneg_run hpri hlv₁ hre)
        rw [if_pos ht, if_pos ht, hhd, hlat, unreserved,
          takeWhile_cons_of_neg (by simpa using habv), sum_nil]
        omega
      · rw [if_neg ht, if_neg ht, hhd]
        omega

/-- **A realtime reservation keeps up with usage** after a run of segments exactly
when the session is not trusted, or the leading segments that each fit within the
approved amount together do too. -/
theorem reservation_keeps_up_iff {env : BillingEnv} {info : RelayInfo} {quota : Int} {db : Store}
    {segs : List Segment} (hq : 0 ≤ quota)
    (hs : (newBillingSession env info quota db).result = .ok s) (hprice : price.usePrice = false)
    (hrun : Run (SegmentStep setting price) s segs s') :
    (segs.map (Segment.quota setting price)).sum - s.trustedQuota ≤ s'.preConsumedQuota ↔
      (s.trusted = true →
        ((segs.map (Segment.quota setting price)).takeWhile fun q => q ≤ s.trustedQuota).sum
          ≤ s.trustedQuota) := by
  obtain ⟨held, funding, hpos, hop⟩ := newBillingSession_opened hq hs
  have hlv : s.Live := ⟨hop.live.1, hop.live.2.1⟩
  have hfin := preConsumedQuota_run hprice hlv hrun
  rw [hop.preConsumedQuota] at hfin
  rcases hop.trust with ⟨htru, rfl⟩ | ⟨hunt, hz⟩
  · -- what is left unreserved is the first segments, up to the first above the approval
    simp only [htru, if_true, unreserved, Int.zero_add] at hfin
    constructor
    · intro h _
      omega
    · intro h
      have := h htru
      omega
  · -- nothing was approved in advance, so everything is reserved
    rw [hunt, if_neg (by simp)] at hfin
    constructor
    · intro _ h
      rw [hunt] at h
      cases h
    · intro _
      omega

end Run
/-! ## Many small segments -/

/-- Every ratio is one. -/
def sampleSetting : RatioSetting := ⟨500000, fun _ => 1, fun _ => 1, fun _ => 1⟩

/-- A token-priced model. -/
def samplePrice : PriceData := ⟨"gpt-4o-realtime", false, 1, 1⟩

/-- A segment of so many text tokens. -/
def sampleSegment (textTokens : Int) : Segment :=
  ⟨⟨textTokens, textTokens, 0, ⟨0, 0, 0, textTokens, 0, 0⟩, ⟨0, 0, 0, 0⟩⟩, {}, sampleStore⟩

/-- A segment within the approved amount leaves the trusted session as it is. -/
theorem segmentStep_trustedSession {textTokens : Int} (h : calculateAudioQuota sampleSetting
      (segmentInfo samplePrice (sampleSegment textTokens).usage) = (textTokens, none))
    (hle : textTokens ≤ 50) :
    SegmentStep sampleSetting samplePrice trustedSession (sampleSegment textTokens)
      trustedSession := by
  have hskip : trustedSession.reserve {} (0 + textTokens) sampleStore =
      (none, trustedSession, sampleStore) := by
    rw [BillingSession.reserve, if_pos]
    exact .inr (.inr (.inr ⟨rfl, by show 0 + textTokens ≤ 50; omega⟩))
  refine ⟨sampleStore, ?_⟩
  simp only [preWssConsumeQuota, h]
  show (match trustedSession.reserve {} (0 + textTokens) sampleStore with
    | (some e, s, db) => (some (RealtimeError.reserve e), some s, db)
    | (none, s, db) => (none, some s, db)) = _
  rw [hskip]

/-- Segments of 30 and 20 units fit within the 50 that were approved. -/
theorem reservation_keeps_up_sample :
    (newBillingSession trustedEnv walletInfo 50 sampleStore).result = .ok trustedSession ∧
    Run (SegmentStep sampleSetting samplePrice) trustedSession
      [sampleSegment 30, sampleSegment 20] trustedSession ∧
    ([sampleSegment 30, sampleSegment 20].map (Segment.quota sampleSetting samplePrice)).sum -
      trustedSession.trustedQuota ≤ trustedSession.preConsumedQuota := by
  have hquo : (0 : Int) ≤ 50 := by decide
  refine ⟨newBillingSession_trusted, ?run,
    (reservation_keeps_up_iff hquo newBillingSession_trusted rfl ?run).mpr fun _ => ?_⟩
  · exact .cons (segmentStep_trustedSession (by decide +kernel) (by decide))
      (.cons (segmentStep_trustedSession (by decide +kernel) (by decide)) (.nil _))
  · decide +kernel

/-- **Small segments are never reserved**: three segments of 30 units each, on a
session that was approved for 50, leave nothing held, though 90 were used. -/
theorem small_segments_unreserved :
    (newBillingSession trustedEnv walletInfo 50 sampleStore).result = .ok trustedSession ∧
    Run (SegmentStep sampleSetting samplePrice) trustedSession
      [sampleSegment 30, sampleSegment 30, sampleSegment 30] trustedSession ∧
    ¬ ([sampleSegment 30, sampleSegment 30, sampleSegment 30].map
        (Segment.quota sampleSetting samplePrice)).sum -
      trustedSession.trustedQuota ≤ trustedSession.preConsumedQuota := by
  have hst : SegmentStep sampleSetting samplePrice trustedSession (sampleSegment 30)
      trustedSession := segmentStep_trustedSession (by decide +kernel) (by decide)
  exact ⟨newBillingSession_trusted, .cons hst (.cons hst (.cons hst (.nil _))), by decide +kernel⟩

end NewApi
