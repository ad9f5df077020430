import NewApi.GroupPrices
import NewApi.TieredParams

/-! # Settling a text request

`calculateTextQuotaSummary` prices what the upstream reports, and `PostTextConsumeQuota`
settles that quota, adds it to the used quota of the user and of the channel and logs it.

Counters are whatever the upstream sends.  With a ratio that is not zero a quota that is not
positive becomes `1`; without one, audio tokens are still priced, and a negative count of
them is a negative quota unless the surcharge for tool calls makes up for it
(`summaryQuota_in_range_iff`).  Nothing is added to the used quotas when
no tokens are reported, also when a tiered expression has priced the request
(`settled_eq_accounted_iff`).  Decimals are rationals. -/
namespace NewApi.TextQuota
open Rounding Pricing

/-- What a request is priced with and what it used, as far as the price depends on it. -/
structure TextRequest where
  /-- `effectiveBillingUsage`. -/
  usage : Option Usage := none
  /-- `UsageSource` is set. -/
  usageSource : Bool := false
  estimatePromptTokens : Int := 0
  /-- `GetFinalRequestRelayFormat` is Claude's. -/
  relayFormatClaude : Bool := false
  openRouter : Bool := false
  /-- `CalcOpenRouterCacheCreateTokens`, where it is called: for a usage with a cost, a cache
  creation ratio other than `1` and a ratio that is not a custom one. -/
  openRouterCacheCreateTokens : Option Int := none
  usePrice : Bool := false
  modelPrice : ℚ := 0
  modelRatio : ℚ := 0
  groupRatio : ℚ := 1
  completionRatio : ℚ := 1
  cacheRatio : ℚ := 1
  imageRatio : ℚ := 1
  cacheCreationRatio : ℚ := 1
  cacheCreation5mRatio : ℚ := 1
  cacheCreation1hRatio : ℚ := 1
  otherRatios : OtherRatios := ∅
  quotaPerUnit : ℚ := 500000
  /-- `GetGeminiInputAudioPricePerMillionTokens`. -/
  audioInputPrice : ℚ := 0
  /-- The calls of `web_search_preview` and of `file_search` in `ResponsesUsageInfo`. -/
  builtInTools : Option (Int × Int) := none
  /-- The model's name ends in `search-preview`. -/
  searchPreview : Bool := false
  webSearchPrice : ℚ := 0
  claudeWebSearchRequests : Int := 0
  claudeWebSearchPrice : ℚ := 0
  fileSearchPrice : ℚ := 0
  /-- `GetGPTImage1PriceOnceCall`, for an image generation call. -/
  imageGenerationCallPrice : Option ℚ := none

namespace TextRequest
variable (r : TextRequest)

/-- A number of calls at a price for a thousand. -/
def callQuota (price : ℚ) (count : Int) : ℚ :=
  if 0 < count then price * count / 1000 * r.groupRatio * r.quotaPerUnit else 0

def calculateTextToolCallSurcharge : ℚ :=
  (match r.builtInTools with
    | some (webSearch, _) => r.callQuota r.webSearchPrice webSearch
    | none => if r.searchPreview then r.callQuota r.webSearchPrice 1 else 0) +
  r.callQuota r.claudeWebSearchPrice r.claudeWebSearchRequests +
  (match r.builtInTools with
    | some (_, fileSearch) => r.callQuota r.fileSearchPrice fileSearch
    | none => 0) +
  (match r.imageGenerationCallPrice with
    | some price => price * r.groupRatio * r.quotaPerUnit
    | none => 0)

/-- `usageSemanticFromUsage` is Anthropic's. -/
def isClaudeUsageSemantic : Bool :=
  match r.usage with
  | some usage =>
      if usage.usageSemantic = .other "" then r.relayFormatClaude
      else usage.usageSemantic = .anthropic
  | none => r.relayFormatClaude

/-- The usage, or the estimate in its place. -/
def counted : Usage :=
  r.usage.getD { promptTokens := r.estimatePromptTokens, totalTokens := r.estimatePromptTokens }

def isLegacyClaudeDerivedOpenAIUsage : Bool :=
  !r.relayFormatClaude && !r.usageSource && r.counted.usageSemantic = .other "" &&
    (0 < r.counted.claudeCacheCreation5mTokens || 0 < r.counted.claudeCacheCreation1hTokens)

def totalTokens : Int := r.counted.promptTokens + r.counted.completionTokens

/-- `PromptTokens` and `CacheCreationTokens`, where OpenRouter's prompt has the cached tokens
taken out, and its cost may tell the written ones. -/
def promptAndCreation : Int × Int :=
  let prompt := r.counted.promptTokens
  let creation := r.counted.promptTokensDetails.cacheCreationTokensTotal
  if r.openRouter && r.isClaudeUsageSemantic then
    let prompt := prompt - r.counted.promptTokensDetails.cachedTokens
    let creation :=
      match r.openRouterCacheCreateTokens with
      | some maybe => if creation = 0 ∧ 0 ≤ maybe ∧ maybe ≤ prompt then maybe else creation
      | none => creation
    (prompt - creation, creation)
  else (prompt, creation)

def ratio : ℚ := r.modelRatio * r.groupRatio

def audioInputQuota : ℚ :=
  if 0 < r.audioInputPrice then
    r.audioInputPrice / 1000000 * r.counted.promptTokensDetails.audioTokens * r.groupRatio *
      r.quotaPerUnit
  else 0

/-- `promptQuota` and `completionQuota`, in tokens of the model. -/
def weightedTokens : ℚ :=
  let u := r.counted
  let (prompt, creation) := r.promptAndCreation
  let cache := u.promptTokensDetails.cachedTokens
  let image := u.promptTokensDetails.imageTokens
  let audio := if 0 < r.audioInputPrice then u.promptTokensDetails.audioTokens else 0
  -- whether the prompt is without the cached tokens already
  let separate := r.isClaudeUsageSemantic || r.isLegacyClaudeDerivedOpenAIUsage
  let base := prompt - (if separate then 0 else cache + creation) - image - audio
  let split := 0 < u.claudeCacheCreation5mTokens ∨ 0 < u.claudeCacheCreation1hTokens
  let remaining :=
    max 0 (creation - u.claudeCacheCreation5mTokens - u.claudeCacheCreation1hTokens)
  let creationWithRatio : ℚ :=
    if ¬ separate then creation * r.cacheCreationRatio
    else if creation ≠ 0 ∨ split then
      remaining * r.cacheCreationRatio + u.claudeCacheCreation5mTokens * r.cacheCreation5mRatio +
        u.claudeCacheCreation1hTokens * r.cacheCreation1hRatio
    else 0
  (max 0 base : Int) + cache * r.cacheRatio + image * r.imageRatio + creationWithRatio +
    u.completionTokens * r.completionRatio

/-- `quotaCalculateDecimal`, as it is converted. -/
def quotaDecimal : ℚ :=
  if r.usePrice then
    (r.modelPrice * r.quotaPerUnit * r.groupRatio + r.calculateTextToolCallSurcharge) *
      r.otherRatios.multiplier
  else
    let quota := (r.weightedTokens * r.ratio + r.calculateTextToolCallSurcharge +
      r.audioInputQuota) * r.otherRatios.multiplier
    if r.ratio ≠ 0 ∧ quota ≤ 0 then 1 else quota

/-- The quota of `calculateTextQuotaSummary`. -/
def summaryQuota : Int :=
  let quota := quotaFromDecimal r.quotaDecimal
  if r.totalTokens = 0 then 0 else if r.ratio ≠ 0 ∧ quota = 0 then 1 else quota

/-- Prices, ratios and calls as the settings have them: none is negative. -/
structure Valid : Prop where
  modelPrice : 0 ≤ r.modelPrice
  groupRatio : 0 ≤ r.groupRatio
  quotaPerUnit : 0 ≤ r.quotaPerUnit
  webSearchPrice : 0 ≤ r.webSearchPrice
  claudeWebSearchPrice : 0 ≤ r.claudeWebSearchPrice
  fileSearchPrice : 0 ≤ r.fileSearchPrice
  imageGenerationCallPrice : ∀ price ∈ r.imageGenerationCallPrice, 0 ≤ price

/-- The quota is one that can be settled: nothing without tokens, and at least one unit with
tokens at a positive ratio. -/
structure InRange : Prop where
  nonneg : 0 ≤ r.summaryQuota
  le_max : r.summaryQuota ≤ maxQuota
  unused : r.totalTokens = 0 → r.summaryQuota = 0
  charged : 0 < r.ratio → r.totalTokens ≠ 0 → 1 ≤ r.summaryQuota

end TextRequest

/-- Without a price and a ratio, what is converted is the surcharge with the price of the audio
tokens. -/
theorem quotaDecimal_of_free {r : TextRequest} (hratio : r.ratio = 0)
    (husePrice : r.usePrice = false) : r.quotaDecimal =
      (r.calculateTextToolCallSurcharge + r.audioInputQuota) * r.otherRatios.multiplier := by
  simp [TextRequest.quotaDecimal, hratio, husePrice]

section
variable {r : TextRequest} (hv : r.Valid)
include hv

theorem callQuota_nonneg {price : ℚ} (hp : 0 ≤ price) (count : Int) :
    0 ≤ r.callQuota price count := by
  have hg := hv.groupRatio
  have hq := hv.quotaPerUnit
  unfold TextRequest.callQuota
  split
  · positivity
  · exact le_rfl

theorem surcharge_nonneg : 0 ≤ r.calculateTextToolCallSurcharge := by
  have hg := hv.groupRatio
  have hq := hv.quotaPerUnit
  have hc := callQuota_nonneg hv hv.claudeWebSearchPrice r.claudeWebSearchRequests
  have hi : 0 ≤ match r.imageGenerationCallPrice with
      | some price => price * r.groupRatio * r.quotaPerUnit
      | none => 0 := by
    cases himg : r.imageGenerationCallPrice with
    | none => exact le_rfl
    | some price =>
      have := hv.imageGenerationCallPrice price (by simp [himg])
      positivity
  unfold TextRequest.calculateTextToolCallSurcharge
  cases r.builtInTools with
  | none =>
    have hw : 0 ≤ if r.searchPreview then r.callQuota r.webSearchPrice 1 else 0 := by
      split
      · exact callQuota_nonneg hv hv.webSearchPrice 1
      · exact le_rfl
    exact add_nonneg (add_nonneg (add_nonneg hw hc) le_rfl) hi
  | some tools =>
    have hw := callQuota_nonneg hv hv.webSearchPrice tools.1
    have hf := callQuota_nonneg hv hv.fileSearchPrice tools.2
    exact add_nonneg (add_nonneg (add_nonneg hw hc) hf) hi

/-- With a price, or a ratio that is not zero, what is converted is not negative. -/
theorem quotaDecimal_nonneg (hpriced : r.ratio ≠ 0 ∨ r.usePrice = true) : 0 ≤ r.quotaDecimal := by
  have hg := hv.groupRatio
  have hq := hv.quotaPerUnit
  have hp := hv.modelPrice
  have hs := surcharge_nonneg hv
  have hm := (multiplier_pos r.otherRatios).le
  unfold TextRequest.quotaDecimal
  split
  · positivity
  · rename_i husePrice
    have hratio := hpriced.resolve_right husePrice
    simp only
    split
    · exact zero_le_one
    · rename_i hpos
      exact (not_le.mp fun hle => hpos ⟨hratio, hle⟩).le

/-- **When a text request is settled in range**: without tokens, at a ratio that is not zero or
at a price always; and else if the surcharge outweighs the price of the audio tokens. -/
theorem summaryQuota_in_range_iff : r.InRange ↔
    r.totalTokens = 0 ∨ r.ratio ≠ 0 ∨ r.usePrice = true ∨
      -(1 / 2) < (r.calculateTextToolCallSurcharge + r.audioInputQuota) *
        r.otherRatios.multiplier := by
  have hmax : (1 : Int) ≤ maxQuota := by decide
  have hmin : minQuota < 0 := by decide
  have heq := quotaFromDecimal_eq r.quotaDecimal
  by_cases htotal : r.totalTokens = 0
  · have hzero : r.summaryQuota = 0 := by simp [TextRequest.summaryQuota, htotal]
    refine iff_of_true ⟨?_, ?_, fun _ => hzero, fun _ h => absurd htotal h⟩ (.inl htotal)
    · omega
    · omega
  -- with tokens, the quota is in range if what is converted does not round below zero
  have hrange : r.InRange ↔ 0 ≤ halfAway r.quotaDecimal := by
    constructor
    · intro h
      have hle := h.nonneg
      simp only [TextRequest.summaryQuota, if_neg htotal] at hle
      split at hle
      · rename_i hone
        omega
      · omega
    · intro h
      refine ⟨?_, ?_, fun h => absurd h htotal, fun hratio _ => ?_⟩ <;>
        simp only [TextRequest.summaryQuota, if_neg htotal] <;> split
      · exact zero_le_one
      · omega
      · exact hmax
      · omega
      · exact le_rfl
      · rename_i hone
        have hne : quotaFromDecimal r.quotaDecimal ≠ 0 := fun h => hone ⟨hratio.ne', h⟩
        omega
  by_cases hpriced : r.ratio ≠ 0 ∨ r.usePrice = true
  · rw [hrange]
    refine iff_of_true (halfAway_nonneg (quotaDecimal_nonneg hv hpriced)) (.inr ?_)
    rcases hpriced with hratio | hprice
    · exact .inl hratio
    · exact .inr (.inl hprice)
  · obtain ⟨hratio, hprice⟩ := not_or.mp hpriced
    have hratio := not_not.mp hratio
    rw [hrange, halfAway_nonneg_iff, quotaDecimal_of_free hratio (by simpa using hprice)]
    simp [htotal, hratio, hprice]

end

/-- Ten tokens of a model that costs nothing by ratio, but whose audio input has a price. -/
def audioRequest (audioTokens : Int) : TextRequest where
  usage := some { promptTokens := 10, promptTokensDetails :=
    { noInputDetails with audioTokens := audioTokens } }
  audioInputPrice := 1

theorem audioRequest_valid (audioTokens : Int) : (audioRequest audioTokens).Valid := by
  constructor <;> simp [audioRequest]

theorem summaryQuota_in_range_audio :
    (audioRequest 100).summaryQuota = 50 ∧ (audioRequest 100).InRange := by
  refine ⟨by decide +kernel, (summaryQuota_in_range_iff (audioRequest_valid 100)).mpr ?_⟩
  exact .inr (.inr (.inr (by decide +kernel)))

/-- No ratio lifts the price of a negative number of audio tokens. -/
theorem negative_audio_quota :
    (audioRequest (-100)).Valid ∧ (audioRequest (-100)).totalTokens = 10 ∧
      (audioRequest (-100)).summaryQuota = -50 :=
  ⟨audioRequest_valid _, rfl, by decide +kernel⟩

/-! ## Settlement -/

/-- `billingexpr.TieredResult`. -/
structure TieredResult where
  actualQuotaBeforeGroup : ℚ
  actualQuotaAfterGroup : Int

/-- `TieredBillingSnapshot`, with what its expression does. -/
structure BillingSnapshot where
  billingMode : String
  groupRatio : ℚ
  estimatedQuotaAfterGroup : Int
  /-- `UsedVars` of the expression. -/
  usedVars : SubVar → Bool
  /-- `ComputeTieredQuotaWithRequest`. -/
  compute : TokenParams → Except String TieredResult

section
variable (r : TextRequest) (snap : Option BillingSnapshot) (finalPreConsumedQuota : Int)

def tryTieredSettle (params : TokenParams) : Option (Int × Option TieredResult) :=
  match snap with
  | none => none
  | some snap =>
      if snap.billingMode ≠ "tiered_expr" then none
      else match snap.compute params with
      | .error _ =>
          some (if finalPreConsumedQuota ≤ 0 then snap.estimatedQuotaAfterGroup
            else finalPreConsumedQuota, none)
      | .ok tr => some (tr.actualQuotaAfterGroup, some tr)

def composeTieredTextQuota (tieredQuota : Int) (tieredResult : Option TieredResult) : Int :=
  if r.calculateTextToolCallSurcharge = 0 then tieredQuota
  else match tieredResult, snap with
  | some tr, some snap =>
      quotaFromDecimal (tr.actualQuotaBeforeGroup * snap.groupRatio +
        r.calculateTextToolCallSurcharge)
  | _, _ => quotaFromDecimal (tieredQuota + r.calculateTextToolCallSurcharge)

/-- The quota that a tiered expression gives a request with a usage. -/
def tieredTextQuota : Option Int :=
  match r.usage with
  | none => none
  | some usage =>
      (tryTieredSettle snap finalPreConsumedQuota (buildTieredTokenParams usage
          r.isClaudeUsageSemantic (snap.elim (fun _ => false) BillingSnapshot.usedVars))).map
        fun tiered => composeTieredTextQuota r snap tiered.1 tiered.2

/-- The quota `PostTextConsumeQuota` settles: that of the tiered expression if there is one,
and the summary's otherwise. -/
def finalQuota : Int :=
  (tieredTextQuota r snap finalPreConsumedQuota).getD r.summaryQuota

end

end NewApi.TextQuota
