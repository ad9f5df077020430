import NewApi.Accounts
import NewApi.Rounding
import NewApi.StreamScanner

/-! # Thinking in requests to Claude

The chat converter sets the thinking of a request from a suffix of the model, then from the
reasoning effort, then from the reasoning object; the Responses converter sets it anew.  The
effort keeps the budget between `1024` and the maximum of tokens and drops what may not be
sent with thinking.  The suffix forgets `top_k`, the reasoning object checks nothing, and so
does the Responses converter (`unacceptable_thinking`). -/
namespace NewApi.ClaudeThinking
open Rounding

/-- The settings that the converters read: `ClaudeSettings` and `ThinkingModelBlacklist`. -/
structure ClaudeSettings where
  defaultMaxTokens : List (String × Int) := [("default", 8192)]
  thinkingAdapterEnabled : Bool := true
  budgetTokensPercentage : ℚ := 4 / 5
  thinkingModelBlacklist : List String := []

inductive ThinkingType
  | adaptive
  | enabled
deriving DecidableEq

structure Thinking where
  type : ThinkingType
  budgetTokens : Option Int
  display : String

/-- `dto.ClaudeRequest`, as far as thinking goes.  `effort` is that of `OutputConfig`. -/
structure ClaudeRequest where
  model : String
  maxTokens : Nat
  temperature : Option ℚ
  topP : Option ℚ
  topK : Option Int := none
  thinking : Option Thinking := none
  effort : String := ""

/-- `uint(x)` of an `int`. -/
def uintOfInt (x : Int) : Nat := (x % 2 ^ 64).toNat

/-- `int(x)` of a `uint`. -/
def intOfUint (x : Nat) : Int := if x < 2 ^ 63 then x else x - 2 ^ 64

/-- `int(x)` of a `float64`; what is too large for it becomes the least `int`. -/
def intOfFloat (x : ℚ) : Int := if x < 2 ^ 63 then trunc x else -2 ^ 63

def getDefaultMaxTokens (s : ClaudeSettings) (model : String) : Int :=
  ((s.defaultMaxTokens.lookup model).or (s.defaultMaxTokens.lookup "default")).getD 8192

/-- `strings.HasSuffix`. -/
def hasSuffix (s e : String) : Bool := e.toList.isSuffixOf s.toList

/-- `strings.TrimSuffix`. -/
def trimSuffix (s e : String) : String :=
  if hasSuffix s e then String.ofList (s.toList.take (s.length - e.length)) else s

def effortSuffixes : List String := ["-max", "-xhigh", "-high", "-medium", "-low", "-minimal"]

def trimEffortSuffix (model : String) : Option (String × String) :=
  (effortSuffixes.find? (hasSuffix model)).map fun e =>
    (trimSuffix model e, String.ofList (e.toList.drop 1))

def claudeSuffixEffort (baseModel effort : String) : String :=
  if effort = "minimal" then "low"
  else if effort = "xhigh" && hasPrefix baseModel "claude-opus-4-6" then "max"
  else effort

def shouldPreserveThinkingSuffix (s : ClaudeSettings) (model : String) : Bool :=
  trimSpace model ≠ "" && s.thinkingModelBlacklist.any (trimSpace · = trimSpace model)

/-- Opus 4.7 and 4.8, which take no sampling parameters with thinking. -/
def newOpus (model : String) : Bool :=
  hasPrefix model "claude-opus-4-7" || hasPrefix model "claude-opus-4-8"

variable (s : ClaudeSettings)

/-- What the suffix of the model asks for. -/
def applyModelSuffix (c : ClaudeRequest) : ClaudeRequest :=
  match (trimEffortSuffix c.model).filter fun _ =>
    hasPrefix c.model "claude-opus-4-6" || newOpus c.model with
  | some (base, level) =>
    let c := { c with model := base, effort := claudeSuffixEffort base level, topP := none }
    if newOpus base then
      { c with thinking := some ⟨.adaptive, none, "summarized"⟩, temperature := none, topK := none }
    else { c with thinking := some ⟨.adaptive, none, ""⟩, temperature := some 1 }
  | none =>
    if s.thinkingAdapterEnabled && hasSuffix c.model "-thinking" then
      let trimmed := trimSuffix c.model "-thinking"
      let model := if shouldPreserveThinkingSuffix s c.model then c.model else trimmed
      if newOpus trimmed then
        { c with
          model, thinking := some ⟨.adaptive, none, "summarized"⟩, effort := "high"
          temperature := none, topP := none, topK := none }
      else
        let maxTokens := max c.maxTokens 1280
        let budget := intOfFloat (maxTokens * s.budgetTokensPercentage)
        -- `TopK` stays
        { c with
          model, maxTokens, thinking := some ⟨.enabled, some budget, ""⟩
          topP := none, temperature := some 1 }
    else c

/-- The kinds of thinking that a suffix asks for: none, adaptive without or with sampling
parameters, or enabled with a budget. -/
inductive SuffixThinking where
  | none
  | bare
  | adaptive
  | enabled
  deriving DecidableEq

def suffixThinking (model : String) : SuffixThinking :=
  match (trimEffortSuffix model).filter fun _ =>
    hasPrefix model "claude-opus-4-6" || newOpus model with
  | some (base, _) => if newOpus base then .bare else .adaptive
  | none =>
    if s.thinkingAdapterEnabled && hasSuffix model "-thinking" then
      if newOpus (trimSuffix model "-thinking") then .bare else .enabled
    else .none

def effortBudgetTokens (effort : String) : Int :=
  if effort = "low" then 1280 else if effort = "medium" then 2048
  else if effort = "high" then 4096 else 0

def applyReasoningEffort (effort : String) (c : ClaudeRequest) : ClaudeRequest :=
  if 0 < effortBudgetTokens effort then
    let maxTokens := max c.maxTokens 1280
    let budget := if intOfUint maxTokens ≤ effortBudgetTokens effort then
        intOfFloat (intOfUint maxTokens * s.budgetTokensPercentage)
      else effortBudgetTokens effort
    { c with
      maxTokens, thinking := some ⟨.enabled, some budget, ""⟩
      temperature := none, topP := none, topK := none }
  else c

/-- The `max_tokens` of a reasoning object; also `applyResponsesReasoningToClaude`. -/
def applyReasoning (budgetTokens : Int) (c : ClaudeRequest) : ClaudeRequest :=
  if 0 < budgetTokens then
    { c with thinking := some ⟨.enabled, some budgetTokens, ""⟩ }
  else c

/-- A chat request with its `GetMaxTokens`, or a Responses request with its `MaxOutputTokens`.
A reasoning object is `some none` where it cannot be read. -/
structure Request where
  model : String
  maxTokens : Nat := 0
  temperature : Option ℚ := none
  topP : Option ℚ := none
  topK : Option Int := none
  reasoningEffort : String := ""
  reasoning : Option (Option Int) := none

/-- What the converters copy; the default stands in for a `MaxTokens` of `0`. -/
def Request.toClaude (r : Request) : ClaudeRequest where
  model := r.model
  maxTokens := if 0 < r.maxTokens then r.maxTokens else uintOfInt (getDefaultMaxTokens s r.model)
  temperature := r.temperature
  topP := r.topP
  topK := r.topK

def openAIChatRequestToClaudeMessages (r : Request) : Option ClaudeRequest :=
  let c := applyReasoningEffort s r.reasoningEffort (applyModelSuffix s (r.toClaude s))
  match r.reasoning with
  | none => some c
  | some config => config.map (applyReasoning · c)

def openAIResponsesRequestToClaudeMessages (r : Request) : ClaudeRequest :=
  applyReasoning (effortBudgetTokens r.reasoningEffort) { r.toClaude s with topK := none }

/-- What Anthropic asks of a request with thinking enabled. -/
def Acceptable (c : ClaudeRequest) : Prop :=
  ∀ t ∈ c.thinking, t.type = .enabled →
    (∃ b ∈ t.budgetTokens, 1024 ≤ b ∧ b < c.maxTokens) ∧ c.topP = none ∧ c.topK = none ∧
      (c.temperature = none ∨ c.temperature = some 1)

instance : DecidablePred Acceptable := fun c => by
  unfold Acceptable
  infer_instance

theorem budget_of_effort {effort : String} (heff : 0 < effortBudgetTokens effort) :
    1024 ≤ effortBudgetTokens effort := by
  revert heff
  unfold effortBudgetTokens
  split_ifs <;> decide

section
variable {s} (hlow : 4 / 5 ≤ s.budgetTokensPercentage)
  (hhigh : s.budgetTokensPercentage < 1) {c : ClaudeRequest}
include hlow hhigh

/-- A share of at least `1280` tokens is a budget. -/
theorem budget_of_share {n : Nat} (hn : 1280 ≤ n) (hsmall : n < 2 ^ 63) :
    1024 ≤ intOfFloat (n * s.budgetTokensPercentage) ∧
      intOfFloat (n * s.budgetTokensPercentage) < n := by
  have hnq : (1280 : ℚ) ≤ n := by exact_mod_cast hn
  have hsm : (n : ℚ) < 2 ^ 63 := by exact_mod_cast hsmall
  have hge : (1024 : ℚ) ≤ n * s.budgetTokensPercentage := by nlinarith
  have hlt : n * s.budgetTokensPercentage < (n : ℚ) := by nlinarith
  rw [intOfFloat, if_pos (hlt.trans hsm), trunc, if_pos (by linarith)]
  exact ⟨Int.le_floor.mpr (by exact_mod_cast hge), Int.floor_lt.mpr (by exact_mod_cast hlt)⟩

omit hlow hhigh in
/-- What the suffix does to the rest of the request. -/
theorem modelSuffix_fields (c : ClaudeRequest) :
    (applyModelSuffix s c).maxTokens =
        (if suffixThinking s c.model = .enabled then max c.maxTokens 1280 else c.maxTokens) ∧
      ((applyModelSuffix s c).topP = none ↔ suffixThinking s c.model ≠ .none ∨ c.topP = none) ∧
      ((applyModelSuffix s c).temperature = none ∨ (applyModelSuffix s c).temperature = some 1 ↔
        suffixThinking s c.model ≠ .none ∨ c.temperature = none ∨ c.temperature = some 1) ∧
      ((applyModelSuffix s c).topK = none ↔
        suffixThinking s c.model = .bare ∨ c.topK = none) := by
  unfold applyModelSuffix suffixThinking
  cases (trimEffortSuffix c.model).filter fun _ =>
      hasPrefix c.model "claude-opus-4-6" || newOpus c.model with
  | some suffix =>
    obtain ⟨base, level⟩ := suffix
    by_cases hnew : newOpus base = true <;> simp [hnew]
  | none =>
    by_cases hthinking : (s.thinkingAdapterEnabled && hasSuffix c.model "-thinking") = true
    · by_cases hnew : newOpus (trimSuffix c.model "-thinking") = true <;> simp [hthinking, hnew]
    · simp [hthinking]

/-- The suffix alone is acceptable, but for a `top_k` that it leaves. -/
theorem acceptable_modelSuffix (hsmall : c.maxTokens < 2 ^ 63) (hnone : c.thinking = none) :
    Acceptable (applyModelSuffix s c) ↔ (suffixThinking s c.model = .enabled → c.topK = none) := by
  have hmax : max c.maxTokens 1280 < 2 ^ 63 := max_lt hsmall (by norm_num)
  have hbudget := budget_of_share hlow hhigh (le_max_right c.maxTokens 1280) hmax
  unfold applyModelSuffix suffixThinking
  cases (trimEffortSuffix c.model).filter fun _ =>
      hasPrefix c.model "claude-opus-4-6" || newOpus c.model with
  | some suffix =>
    obtain ⟨base, level⟩ := suffix
    by_cases hnew : newOpus base = true <;> simp [hnew, Acceptable]
  | none =>
    by_cases hthinking : (s.thinkingAdapterEnabled && hasSuffix c.model "-thinking") = true
    · by_cases hnew : newOpus (trimSuffix c.model "-thinking") = true
      · simp [hthinking, hnew, Acceptable]
      · simp only [hthinking, hnew, if_true, Bool.false_eq_true, if_false, Acceptable,
          Option.mem_def, Option.some.injEq, forall_eq', true_and, forall_const, or_true]
        exact ⟨fun h => h.2.1, fun h => ⟨⟨_, rfl, hbudget⟩, h, trivial⟩⟩
    · simp [hthinking, Acceptable, hnone]

theorem acceptable_reasoningEffort {effort : String} (heff : 0 < effortBudgetTokens effort)
    (hsmall : c.maxTokens < 2 ^ 63) : Acceptable (applyReasoningEffort s effort c) := by
  have hmax : max c.maxTokens 1280 < 2 ^ 63 := max_lt hsmall (by norm_num)
  have hbud := budget_of_share hlow hhigh (le_max_right c.maxTokens 1280) hmax
  have hint : intOfUint (max c.maxTokens 1280) = (max c.maxTokens 1280 : Nat) := if_pos hmax
  rw [applyReasoningEffort, if_pos heff]
  rintro t ⟨⟩ -
  refine ⟨⟨_, rfl, ?_⟩, rfl, rfl, .inl rfl⟩
  rw [hint]
  split
  · exact_mod_cast hbud
  · rename_i hlt
    exact ⟨budget_of_effort heff, not_le.mp hlt⟩

omit hlow hhigh in
/-- The reasoning object has the last word, if it has a budget. -/
theorem chat_cases {r : Request} (h : openAIChatRequestToClaudeMessages s r = some c) :
    let c₀ := applyReasoningEffort s r.reasoningEffort (applyModelSuffix s (r.toClaude s))
    (∃ b, r.reasoning = some (some b) ∧ 0 < b ∧
        c = { c₀ with thinking := some ⟨.enabled, some b, ""⟩ }) ∨
      (∀ b, r.reasoning = some (some b) → b ≤ 0) ∧ c = c₀ := by
  unfold openAIChatRequestToClaudeMessages at h
  match hr : r.reasoning with
  | none =>
    rw [hr] at h
    exact .inr ⟨nofun, (Option.some.inj h).symm⟩
  | some none =>
    rw [hr] at h
    cases h
  | some (some b) =>
    rw [hr] at h
    cases h
    by_cases hb : 0 < b
    · exact .inl ⟨b, rfl, hb, if_pos hb⟩
    · right
      refine ⟨?_, if_neg hb⟩
      rintro _ ⟨⟩
      exact not_lt.mp hb

omit hlow hhigh in
theorem acceptable_object (c : ClaudeRequest) (b : Int) :
    Acceptable { c with thinking := some ⟨.enabled, some b, ""⟩ } ↔ 1024 ≤ b ∧ b < c.maxTokens ∧
      c.topP = none ∧ (c.temperature = none ∨ c.temperature = some 1) ∧ c.topK = none := by
  constructor
  · intro h
    obtain ⟨⟨_, ⟨⟩, hge, hlt⟩, htopP, htopK, htemperature⟩ := h _ rfl rfl
    exact ⟨hge, hlt, htopP, htemperature, htopK⟩
  · rintro ⟨hge, hlt, htopP, htemperature, htopK⟩ t ⟨⟩ -
    exact ⟨⟨b, rfl, hge, hlt⟩, htopP, htopK, htemperature⟩

omit hlow hhigh in
/-- An effort leaves nothing of the suffix but the model and the maximum of tokens. -/
theorem reasoningEffort_fields {effort : String} (heff : 0 < effortBudgetTokens effort)
    (c : ClaudeRequest) :
    (applyReasoningEffort s effort c).maxTokens = max c.maxTokens 1280 ∧
      (applyReasoningEffort s effort c).topP = none ∧
      (applyReasoningEffort s effort c).temperature = none ∧
      (applyReasoningEffort s effort c).topK = none := by
  rw [applyReasoningEffort, if_pos heff]
  exact ⟨rfl, rfl, rfl, rfl⟩

variable (s) in
/-- What a chat request has to be: a suffix that enables thinking comes without `top_k`, and a
reasoning object has a budget that fits and comes without sampling parameters, unless the effort
or the suffix drops them. -/
def ChatFits (r : Request) : Prop :=
  let effort := 0 < effortBudgetTokens r.reasoningEffort
  let suffix := suffixThinking s r.model
  let maxTokens := (r.toClaude s).maxTokens
  (suffix = .enabled → effort ∨ r.topK = none) ∧
    ∀ b, r.reasoning = some (some b) → 0 < b → 1024 ≤ b ∧
      b < (if effort ∨ suffix = .enabled then max maxTokens 1280 else maxTokens) ∧
      (effort ∨ suffix ≠ .none ∨ r.topP = none) ∧
      (effort ∨ suffix ≠ .none ∨ r.temperature = none ∨ r.temperature = some 1) ∧
      (effort ∨ suffix = .bare ∨ r.topK = none)

/-- A chat request is acceptable if it fits, whatever the effort and the suffix are. -/
theorem chat_acceptable_iff {r : Request} (hc : openAIChatRequestToClaudeMessages s r = some c)
    (hsmall : (r.toClaude s).maxTokens < 2 ^ 63) : Acceptable c ↔ ChatFits s r := by
  obtain ⟨hsufMax, hsufP, hsufTemp, hsufK⟩ := modelSuffix_fields (s := s) (r.toClaude s)
  have hsuf := acceptable_modelSuffix hlow hhigh hsmall rfl
  by_cases heff : 0 < effortBudgetTokens r.reasoningEffort
  · have hsufSmall : (applyModelSuffix s (r.toClaude s)).maxTokens < 2 ^ 63 := by
      rw [hsufMax]
      split
      · exact max_lt hsmall (by norm_num)
      · exact hsmall
    obtain ⟨hmax, hP, hTemp, hK⟩ := reasoningEffort_fields heff (s := s)
      (applyModelSuffix s (r.toClaude s))
    have hmax : (applyReasoningEffort s r.reasoningEffort
        (applyModelSuffix s (r.toClaude s))).maxTokens = max (r.toClaude s).maxTokens 1280 := by
      rw [hmax, hsufMax]
      split
      · exact max_eq_left (le_max_right _ _)
      · rfl
    rcases chat_cases hc with ⟨b, hb, hpos, rfl⟩ | ⟨hno, rfl⟩
    · rw [acceptable_object]
      simp [ChatFits, heff, hb, hpos, hmax, hP, hTemp, hK]
    · refine iff_of_true (acceptable_reasoningEffort hlow hhigh heff hsufSmall)
        ⟨fun _ => .inl heff, fun b hb hpos => absurd hpos (hno b hb).not_gt⟩
  · have hkeep : applyReasoningEffort s r.reasoningEffort (applyModelSuffix s (r.toClaude s)) =
        applyModelSuffix s (r.toClaude s) := if_neg heff
    rcases chat_cases hc with ⟨b, hb, hpos, rfl⟩ | ⟨hno, rfl⟩
    · rw [hkeep, acceptable_object, hsufMax, hsufP, hsufTemp, hsufK]
      simp only [ChatFits, heff, hb, Option.some.injEq, forall_eq', hpos, false_or, true_implies]
      refine ⟨fun h => ⟨fun hen => ?_, h⟩, fun h => h.2⟩
      -- a suffix that enables thinking is not one that drops `top_k`
      have hbare : suffixThinking s r.model ≠ .bare := by
        rw [hen]
        decide
      exact h.2.2.2.2.resolve_left hbare
    · rw [hkeep, hsuf]
      refine ⟨fun h => ⟨fun hen => .inr (h hen), fun b hb hpos => ?_⟩, fun h hen => ?_⟩
      · exact absurd hpos (hno b hb).not_gt
      · exact (h.1 hen).resolve_left heff

/-- **When requests with thinking are acceptable.**  For a chat request: exactly when what a
reasoning object asks for fits the rest of the request, and `top_k` is absent.  For a Responses
request: exactly when the request leaves room for the budget and has no sampling parameters. -/
theorem thinking_acceptable :
    (∀ r c, openAIChatRequestToClaudeMessages s r = some c → (r.toClaude s).maxTokens < 2 ^ 63 →
      (Acceptable c ↔ ChatFits s r)) ∧
    ∀ r, Acceptable (openAIResponsesRequestToClaudeMessages s r) ↔
      (0 < effortBudgetTokens r.reasoningEffort →
        effortBudgetTokens r.reasoningEffort < (r.toClaude s).maxTokens ∧ r.topP = none ∧
          (r.temperature = none ∨ r.temperature = some 1)) := by
  refine ⟨fun r c hc hsmall => chat_acceptable_iff hlow hhigh hc hsmall, fun r => ?_⟩
  unfold openAIResponsesRequestToClaudeMessages applyReasoning
  split
  · rename_i heff
    have hge := budget_of_effort heff
    simp [Acceptable, heff, hge, Request.toClaude, and_comm, and_assoc]
  · rename_i heff
    simp [Acceptable, heff, Request.toClaude]

end

def suffixed : Request := { model := "m-thinking", topK := some 40 }

/-- The budget of the object fits since the suffix raises the maximum of tokens. -/
theorem thinking_acceptable_suffixed : ∃ c, openAIChatRequestToClaudeMessages {}
    { model := "m-thinking", maxTokens := 5, topP := some 1, reasoning := some (some 1024) } =
      some c ∧ Acceptable c :=
  ⟨_, rfl, ((thinking_acceptable (s := {}) (by norm_num) (by norm_num)).1
    { model := "m-thinking", maxTokens := 5, topP := some 1, reasoning := some (some 1024) } _ rfl
    (by decide)).mpr ⟨fun _ => .inr rfl, fun b hb _ => by cases hb; decide +kernel⟩⟩

/-- Three ways to be refused: the suffix with `top_k`, a reasoning object with a small budget,
and an effort in a Responses request for few tokens. -/
theorem unacceptable_thinking :
    (∃ c ∈ openAIChatRequestToClaudeMessages {} suffixed, ¬Acceptable c) ∧
    (∃ c ∈ openAIChatRequestToClaudeMessages {} { model := "m", reasoning := some (some 1) },
      ¬Acceptable c) ∧
    ¬Acceptable (openAIResponsesRequestToClaudeMessages {}
      { model := "m", maxTokens := 9, reasoningEffort := "low" }) := by
  decide +kernel

end NewApi.ClaudeThinking
