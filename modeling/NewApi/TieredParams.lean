import NewApi.RealtimeReserve

/-! # Token counts for tiered pricing

A pricing expression sees the tokens of a request as a base count `p` and counts of
sub-categories (cache read, cache creation, images, audio).  It is promised that a
sub-category it does not mention is part of `p`, whatever dialect the upstream speaks.

OpenAI's `prompt_tokens` include everything, and `BuildTieredTokenParams` subtracts what
the expression mentions; the sum comes out as the prompt (`inputTotal_openAI`).  Claude's
`input_tokens` are the rest already, and nothing is added to them: what the expression
does not mention is then missing, and so are tokens of a cache creation that is not split
into its two lifetimes (`cache_tokens_not_priced`).  `dialects_agree_iff` says when the
two dialects agree.

The counts are `float64`s made from `int`s; sums and differences of them are exact below
`2^53`, and the model has integers. -/
namespace NewApi

/-! ## Usage -/

/-- No details. -/
def noInputDetails : InputTokenDetails := ⟨0, 0, 0, 0, 0, 0⟩

/-- No details. -/
def noOutputDetails : OutputTokenDetails := ⟨0, 0, 0, 0⟩

def InputTokenDetails.cacheCreationTokensTotal (d : InputTokenDetails) : Int :=
  let total := d.cachedCreationTokens
  let total := if d.cacheWriteTokens > total then d.cacheWriteTokens else total
  if total < 0 then 0 else total

/-- `Usage.UsageSemantic`. -/
inductive UsageSemantic where
  | anthropic
  | gemini
  | openAI
  /-- The empty string of an upstream that sets none, or what it sets. -/
  | other (name : String)
  deriving DecidableEq, Repr

/-- `dto.Usage`. -/
structure Usage where
  promptTokens : Int := 0
  completionTokens : Int := 0
  totalTokens : Int := 0
  inputTokens : Int := 0
  outputTokens : Int := 0
  usageSemantic : UsageSemantic := .other ""
  promptTokensDetails : InputTokenDetails := noInputDetails
  completionTokenDetails : OutputTokenDetails := noOutputDetails
  claudeCacheCreation5mTokens : Int := 0
  claudeCacheCreation1hTokens : Int := 0
  deriving DecidableEq, Repr

structure ClaudeCacheCreationUsage where
  ephemeral5mInputTokens : Int := 0
  ephemeral1hInputTokens : Int := 0
  deriving DecidableEq, Repr

structure ClaudeUsage where
  inputTokens : Int := 0
  cacheCreationInputTokens : Int := 0
  cacheReadInputTokens : Int := 0
  outputTokens : Int := 0
  cacheCreation : Option ClaudeCacheCreationUsage := none
  claudeCacheCreation5mTokens : Int := 0
  claudeCacheCreation1hTokens : Int := 0
  deriving DecidableEq, Repr

namespace ClaudeUsage

def getCacheCreation5mTokens (u : ClaudeUsage) : Int :=
  match u.cacheCreation with
  | none => 0
  | some split => split.ephemeral5mInputTokens

def getCacheCreation1hTokens (u : ClaudeUsage) : Int :=
  match u.cacheCreation with
  | none => 0
  | some split => split.ephemeral1hInputTokens

/-- `cacheCreation5m` of `usageFromClaudeBillingUsage`. -/
def cacheCreation5m (u : ClaudeUsage) : Int :=
  if u.getCacheCreation5mTokens = 0 then u.claudeCacheCreation5mTokens
  else u.getCacheCreation5mTokens

/-- `cacheCreation1h` of `usageFromClaudeBillingUsage`. -/
def cacheCreation1h (u : ClaudeUsage) : Int :=
  if u.getCacheCreation1hTokens = 0 then u.claudeCacheCreation1hTokens
  else u.getCacheCreation1hTokens

end ClaudeUsage

def usageFromClaudeBillingUsage (u : ClaudeUsage) : Usage where
  promptTokens := u.inputTokens
  completionTokens := u.outputTokens
  totalTokens := u.inputTokens + u.outputTokens
  inputTokens := u.inputTokens + u.cacheReadInputTokens + u.cacheCreationInputTokens
  outputTokens := u.outputTokens
  usageSemantic := .anthropic
  claudeCacheCreation5mTokens := u.cacheCreation5m
  claudeCacheCreation1hTokens := u.cacheCreation1h
  promptTokensDetails :=
    { noInputDetails with
      cachedTokens := u.cacheReadInputTokens
      cachedCreationTokens := u.cacheCreationInputTokens }

/-! ## The parameters -/

/-- The variables of sub-categories. -/
inductive SubVar where
  | cr
  | cc
  | cc1h
  | img
  | ai
  | imgO
  | ao
  deriving DecidableEq, Repr

/-- `billingexpr.TokenParams`. -/
structure TokenParams where
  p : Int
  c : Int
  len : Int
  cr : Int
  cc : Int
  cc1h : Int
  img : Int
  imgO : Int
  ai : Int
  ao : Int
  deriving DecidableEq, Repr

/-- `count` if the expression has the variable. -/
def ifUsed (usedVars : SubVar → Bool) (v : SubVar) (count : Int) : Int :=
  if usedVars v then count else 0

def buildTieredTokenParams (usage : Usage) (isClaudeUsageSemantic : Bool)
    (usedVars : SubVar → Bool) : TokenParams :=
  let cr := usage.promptTokensDetails.cachedTokens
  let cc5m :=
    if usage.usageSemantic = .anthropic then usage.claudeCacheCreation5mTokens
    else usage.promptTokensDetails.cacheCreationTokensTotal
  let cc1h :=
    if usage.usageSemantic = .anthropic then usage.claudeCacheCreation1hTokens else 0
  let img := usage.promptTokensDetails.imageTokens
  let ai := usage.promptTokensDetails.audioTokens
  let imgO := usage.completionTokenDetails.imageTokens
  let ao := usage.completionTokenDetails.audioTokens
  let inputLen :=
    if isClaudeUsageSemantic then usage.promptTokens + cr + cc5m + cc1h else usage.promptTokens
  let p :=
    if isClaudeUsageSemantic then usage.promptTokens
    else usage.promptTokens - ifUsed usedVars .cr cr - ifUsed usedVars .cc cc5m -
      ifUsed usedVars .cc1h cc1h - ifUsed usedVars .img img - ifUsed usedVars .ai ai
  let c :=
    if isClaudeUsageSemantic then usage.completionTokens
    else usage.completionTokens - ifUsed usedVars .imgO imgO - ifUsed usedVars .ao ao
  { p := if p < 0 then 0 else p
    c := if c < 0 then 0 else c
    len := inputLen
    cr := cr
    cc := cc5m
    cc1h := cc1h
    img := img
    imgO := imgO
    ai := ai
    ao := ao }

namespace TokenParams
variable (params : TokenParams) (usedVars : SubVar → Bool)

/-- The counts of the input sub-categories that the expression mentions. -/
def referenced : Int :=
  ifUsed usedVars .cr params.cr + ifUsed usedVars .cc params.cc +
    ifUsed usedVars .cc1h params.cc1h + ifUsed usedVars .img params.img +
    ifUsed usedVars .ai params.ai

/-- The input tokens that the expression puts a price on. -/
def inputTotal : Int := params.p + params.referenced usedVars

end TokenParams

section IfUsed
variable {usedVars : SubVar → Bool} {v : SubVar} {count : Int}

@[simp] theorem ifUsed_zero : ifUsed usedVars v 0 = 0 := by
  unfold ifUsed
  split <;> rfl

theorem ifUsed_le (usedVars : SubVar → Bool) (v : SubVar) (hcnt : 0 ≤ count) :
    ifUsed usedVars v count ≤ count := by
  unfold ifUsed
  split <;> omega

/-- A count is priced in full exactly when it is mentioned or zero. -/
theorem ifUsed_eq_iff : ifUsed usedVars v count = count ↔ usedVars v ∨ count = 0 := by
  unfold ifUsed
  by_cases hv : usedVars v
  · simp [hv]
  · simp [hv, eq_comm]

end IfUsed

/-! ## What is priced -/

section Total
variable {usage : Usage} {usedVars : SubVar → Bool}

/-- **Under OpenAI's semantics** the prompt is priced, or the mentioned counts where they
exceed it. -/
theorem inputTotal_openAI : let params := buildTieredTokenParams usage false usedVars
    params.inputTotal usedVars = max usage.promptTokens (params.referenced usedVars) := by
  intro params
  have hp : params.p = max 0 (usage.promptTokens - params.referenced usedVars) := by
    simp only [params, buildTieredTokenParams, TokenParams.referenced, Bool.false_eq_true, if_false]
    split <;> omega
  unfold TokenParams.inputTotal
  omega

/-- Under Claude's semantics the mentioned counts come on top of the prompt. -/
theorem inputTotal_claude (hprompt : 0 ≤ usage.promptTokens) :
    let params := buildTieredTokenParams usage true usedVars
    params.inputTotal usedVars = usage.promptTokens + params.referenced usedVars := by
  intro params
  have hp : params.p = usage.promptTokens := by
    simp only [params, buildTieredTokenParams, if_true]
    split <;> omega
  rw [TokenParams.inputTotal, hp]

end Total

/-! ## The two dialects -/

namespace ClaudeUsage
variable {u : ClaudeUsage} {usedVars : SubVar → Bool}

/-- The request's whole input. -/
def totalInput (u : ClaudeUsage) : Int :=
  u.inputTokens + u.cacheReadInputTokens + u.cacheCreationInputTokens

/-- The usage that OpenAI's dialect reports for the same request. -/
def toOpenAI (u : ClaudeUsage) : Usage where
  promptTokens := u.totalInput
  completionTokens := u.outputTokens
  totalTokens := u.totalInput + u.outputTokens
  inputTokens := u.totalInput
  outputTokens := u.outputTokens
  usageSemantic := .openAI
  promptTokensDetails :=
    { noInputDetails with
      cachedTokens := u.cacheReadInputTokens
      cachedCreationTokens := u.cacheCreationInputTokens }

/-- No count is negative. -/
structure NonNeg (u : ClaudeUsage) : Prop where
  input : 0 ≤ u.inputTokens
  creation : 0 ≤ u.cacheCreationInputTokens
  read : 0 ≤ u.cacheReadInputTokens
  split5m : 0 ≤ u.getCacheCreation5mTokens
  split1h : 0 ≤ u.getCacheCreation1hTokens
  claude5m : 0 ≤ u.claudeCacheCreation5mTokens
  claude1h : 0 ≤ u.claudeCacheCreation1hTokens

theorem NonNeg.cacheCreation5m (h : u.NonNeg) : 0 ≤ u.cacheCreation5m := by
  unfold ClaudeUsage.cacheCreation5m
  split
  · exact h.claude5m
  · exact h.split5m

theorem NonNeg.cacheCreation1h (h : u.NonNeg) : 0 ≤ u.cacheCreation1h := by
  unfold ClaudeUsage.cacheCreation1h
  split
  · exact h.claude1h
  · exact h.split1h

/-- What the expression mentions of a usage in OpenAI's dialect. -/
theorem referenced_toOpenAI (h : u.NonNeg) :
    (buildTieredTokenParams u.toOpenAI false usedVars).referenced usedVars =
      ifUsed usedVars .cr u.cacheReadInputTokens +
        ifUsed usedVars .cc u.cacheCreationInputTokens := by
  have htot : u.toOpenAI.promptTokensDetails.cacheCreationTokensTotal =
      u.cacheCreationInputTokens := by
    have hcre := h.creation
    simp only [toOpenAI, noInputDetails, InputTokenDetails.cacheCreationTokensTotal]
    split_ifs <;> omega
  rw [TokenParams.referenced, buildTieredTokenParams, htot]
  simp [toOpenAI, noInputDetails]

/-- What the expression mentions of a usage in Claude's dialect. -/
theorem referenced_claude :
    (buildTieredTokenParams (usageFromClaudeBillingUsage u) true usedVars).referenced usedVars =
      ifUsed usedVars .cr u.cacheReadInputTokens + ifUsed usedVars .cc u.cacheCreation5m +
        ifUsed usedVars .cc1h u.cacheCreation1h := by
  unfold TokenParams.referenced buildTieredTokenParams
  simp [usageFromClaudeBillingUsage, noInputDetails]

/-- OpenAI's dialect prices the whole input, whatever is mentioned. -/
theorem inputTotal_toOpenAI (h : u.NonNeg) :
    (buildTieredTokenParams u.toOpenAI false usedVars).inputTotal usedVars = u.totalInput := by
  rw [inputTotal_openAI, referenced_toOpenAI h]
  have hinp := h.input
  have hcr := ifUsed_le usedVars .cr h.read
  have hcc := ifUsed_le usedVars .cc h.creation
  refine max_eq_left ?_
  show _ ≤ u.inputTokens + u.cacheReadInputTokens + u.cacheCreationInputTokens
  omega

/-- What the expression mentions of the caches is all of them. -/
def Covered (u : ClaudeUsage) (usedVars : SubVar → Bool) : Prop :=
  ifUsed usedVars .cr u.cacheReadInputTokens + ifUsed usedVars .cc u.cacheCreation5m +
      ifUsed usedVars .cc1h u.cacheCreation1h =
    u.cacheReadInputTokens + u.cacheCreationInputTokens

/-- Where the two lifetimes do not exceed the cache creation, a usage is covered if each
sub-category that has tokens is mentioned and all of the creation has a lifetime. -/
theorem covered_iff (h : u.NonNeg)
    (hsplit : u.cacheCreation5m + u.cacheCreation1h ≤ u.cacheCreationInputTokens) :
    u.Covered usedVars ↔
      (usedVars .cr ∨ u.cacheReadInputTokens = 0) ∧ (usedVars .cc ∨ u.cacheCreation5m = 0) ∧
        (usedVars .cc1h ∨ u.cacheCreation1h = 0) ∧
        u.cacheCreation5m + u.cacheCreation1h = u.cacheCreationInputTokens := by
  have hcr := ifUsed_le usedVars .cr h.read
  have hcc := ifUsed_le usedVars .cc h.cacheCreation5m
  have hcc1 := ifUsed_le usedVars .cc1h h.cacheCreation1h
  rw [Covered, ← ifUsed_eq_iff, ← ifUsed_eq_iff, ← ifUsed_eq_iff]
  omega

/-- **When the price does not depend on the dialect.**  OpenAI's dialect prices the whole
input of the request.  Claude's does, and the two agree, exactly when the expression
covers the usage. -/
theorem dialects_agree_iff (h : u.NonNeg) :
    (buildTieredTokenParams u.toOpenAI false usedVars).inputTotal usedVars = u.totalInput ∧
    ((buildTieredTokenParams (usageFromClaudeBillingUsage u) true usedVars).inputTotal usedVars =
        (buildTieredTokenParams u.toOpenAI false usedVars).inputTotal usedVars ↔
      u.Covered usedVars) ∧
    (u.cacheCreation5m + u.cacheCreation1h ≤ u.cacheCreationInputTokens →
      (u.Covered usedVars ↔
        (usedVars .cr ∨ u.cacheReadInputTokens = 0) ∧ (usedVars .cc ∨ u.cacheCreation5m = 0) ∧
          (usedVars .cc1h ∨ u.cacheCreation1h = 0) ∧
          u.cacheCreation5m + u.cacheCreation1h = u.cacheCreationInputTokens)) := by
  refine ⟨inputTotal_toOpenAI h, ?_, covered_iff h⟩
  rw [inputTotal_toOpenAI h, inputTotal_claude h.input, referenced_claude, Covered]
  show u.inputTokens + _ = u.inputTokens + u.cacheReadInputTokens + _ ↔ _
  omega

/-- A request of 190 tokens: 50 read from the cache, 30 and 10 written to it. -/
def splitUsage : ClaudeUsage :=
  { inputTokens := 100, cacheReadInputTokens := 50, cacheCreationInputTokens := 40
    cacheCreation := some ⟨30, 10⟩ }

/-- An expression that mentions everything prices the 190 tokens in both dialects. -/
theorem dialects_agree_split :
    (buildTieredTokenParams splitUsage.toOpenAI false fun _ => true).inputTotal
        (fun _ => true) = 190 ∧
      (buildTieredTokenParams (usageFromClaudeBillingUsage splitUsage) true
        fun _ => true).inputTotal (fun _ => true) = 190 := by
  have hcnt : splitUsage.NonNeg :=
    ⟨by decide, by decide, by decide, by decide, by decide, by decide, by decide⟩
  obtain ⟨htot, hiff, -⟩ := @dialects_agree_iff splitUsage (fun _ => true) hcnt
  exact ⟨htot, (hiff.mpr (by unfold Covered; decide)).trans htot⟩

/-- **Tokens of Claude's dialect are free.**  An expression that only knows `p` prices the
190 tokens in OpenAI's dialect and 100 in Claude's; and one that mentions everything misses
a cache creation of 40 tokens that is not split. -/
theorem cache_tokens_not_priced :
    ((buildTieredTokenParams splitUsage.toOpenAI false fun _ => false).inputTotal
        (fun _ => false) = 190 ∧
      (buildTieredTokenParams (usageFromClaudeBillingUsage splitUsage) true
        fun _ => false).inputTotal (fun _ => false) = 100) ∧
    ((buildTieredTokenParams { splitUsage with cacheCreation := none }.toOpenAI false
        fun _ => true).inputTotal (fun _ => true) = 190 ∧
      (buildTieredTokenParams (usageFromClaudeBillingUsage
        { splitUsage with cacheCreation := none }) true fun _ => true).inputTotal
          (fun _ => true) = 150) := by
  decide

end ClaudeUsage

end NewApi
