import NewApi.Rounding

/-! # Prices in quota units

Quota columns are 32-bit, so a computed price is clamped to that range instead of
being allowed to wrap (`saturateQuota`); the caller learns of it by a
`QuotaClamp`.  Ratios and prices are decimals, whose sums and products are exact,
so they are rationals here.  A decimal is converted through `float64` after it was
rounded to an integer: the conversion is exact below `2^53`, and above that the
value is clamped either way. -/
namespace NewApi
open Rounding

/-- `common.MaxQuota`. -/
def maxQuota : Int := 2147483647

/-- `common.MinQuota`. -/
def minQuota : Int := -2147483648

/-- `QuotaClampKind`; a decimal is never `NaN`. -/
inductive QuotaClampKind where
  | overflow
  | underflow
  deriving DecidableEq, Repr

structure QuotaClamp where
  op : String
  kind : QuotaClampKind
  original : ℚ
  clamped : Int
  deriving DecidableEq

def saturateQuota (value : ℚ) (op : String) : Int × Option QuotaClamp :=
  if (maxQuota : ℚ) ≤ value then (maxQuota, some ⟨op, .overflow, value, maxQuota⟩)
  else if value ≤ (minQuota : ℚ) then (minQuota, some ⟨op, .underflow, value, minQuota⟩)
  else (trunc value, none)

def quotaFromDecimalChecked (d : ℚ) : Int × Option QuotaClamp :=
  saturateQuota (halfAway d : ℚ) "QuotaFromDecimal"

def quotaFromDecimal (d : ℚ) : Int := (quotaFromDecimalChecked d).1

/-- A conversion that was not clamped is the rounded value. -/
theorem quotaFromDecimalChecked_none {d : ℚ} {q : Int}
    (h : quotaFromDecimalChecked d = (q, none)) : q = halfAway d := by
  unfold quotaFromDecimalChecked saturateQuota at h
  split at h
  · cases h
  split at h
  · cases h
  rw [trunc_intCast] at h
  exact (Prod.mk.inj h).1.symm

/-- `d` is within half a unit of the positive quota `n`, or above it when `n` is the
largest. -/
def RoundsToQuota (d : ℚ) (n : Int) : Prop :=
  0 < n ∧ n ≤ maxQuota ∧ (n : ℚ) - 1 / 2 ≤ d ∧ (n < maxQuota → d < (n : ℚ) + 1 / 2)

/-- A decimal is rounded, then clamped. -/
theorem quotaFromDecimal_eq (d : ℚ) :
    quotaFromDecimal d = max minQuota (min maxQuota (halfAway d)) := by
  have hle : minQuota ≤ maxQuota := by decide
  unfold quotaFromDecimal quotaFromDecimalChecked saturateQuota
  split
  · rename_i hmax
    have hmax' : maxQuota ≤ halfAway d := Int.cast_le.mp hmax
    show maxQuota = _
    omega
  rename_i hmax
  have hmax' : ¬ maxQuota ≤ halfAway d := fun h => hmax (Int.cast_le.mpr h)
  split
  · rename_i hmin
    have hmin' : halfAway d ≤ minQuota := Int.cast_le.mp hmin
    show minQuota = _
    omega
  · rename_i hmin
    have hmin' : ¬ halfAway d ≤ minQuota := fun h => hmin (Int.cast_le.mpr h)
    show trunc (halfAway d : ℚ) = _
    rw [trunc_intCast]
    omega

/-- What a decimal has to be to come out as a given positive quota. -/
theorem quotaFromDecimal_pos_iff {d : ℚ} {n : Int} :
    (0 < n ∧ quotaFromDecimal d = n) ↔ RoundsToQuota d n := by
  have hmin : minQuota < 0 := by decide
  refine and_congr_right fun hpos => ?_
  have hnext : (0 : Int) < n + 1 := by omega
  have hha : d < (n : ℚ) + 1 / 2 ↔ ¬ n + 1 ≤ halfAway d := by
    rw [le_halfAway_iff hnext, not_le, Int.cast_add, Int.cast_one]
    constructor <;> intro h <;> linarith
  rw [quotaFromDecimal_eq, hha, ← le_halfAway_iff hpos]
  omega

structure TokenDetails where
  textTokens : Int
  audioTokens : Int
  deriving DecidableEq, Repr

structure QuotaInfo where
  inputDetails : TokenDetails
  outputDetails : TokenDetails
  modelName : String
  usePrice : Bool
  modelPrice : ℚ
  modelRatio : ℚ
  groupRatio : ℚ

/-- The operator's settings that a price is computed from: `common.QuotaPerUnit`
and the ratios of `ratio_setting`. -/
structure RatioSetting where
  quotaPerUnit : ℚ
  completionRatio : String → ℚ
  audioRatio : String → ℚ
  audioCompletionRatio : String → ℚ

def calculateAudioQuota (setting : RatioSetting) (info : QuotaInfo) : Int × Option QuotaClamp :=
  if info.usePrice then
    quotaFromDecimalChecked (info.modelPrice * setting.quotaPerUnit * info.groupRatio)
  else
    let completionRatio := setting.completionRatio info.modelName
    let audioRatio := setting.audioRatio info.modelName
    let audioCompletionRatio := setting.audioCompletionRatio info.modelName
    let ratio := info.groupRatio * info.modelRatio
    let quota := (info.inputDetails.textTokens + info.outputDetails.textTokens * completionRatio
      + info.inputDetails.audioTokens * audioRatio
      + info.outputDetails.audioTokens * audioRatio * audioCompletionRatio) * ratio
    quotaFromDecimalChecked (if ratio ≠ 0 ∧ quota ≤ 0 then 1 else quota)

/-- A token-based price that was not clamped is not negative. -/
theorem calculateAudioQuota_nonneg {setting : RatioSetting} {info : QuotaInfo} {q : Int}
    (huse : info.usePrice = false) (h : calculateAudioQuota setting info = (q, none)) : 0 ≤ q := by
  rw [calculateAudioQuota, if_neg (by simp [huse])] at h
  rw [quotaFromDecimalChecked_none h]
  apply halfAway_nonneg
  split
  · exact zero_le_one
  rename_i hpos
  by_cases hrat : info.groupRatio * info.modelRatio = 0
  · rw [hrat, mul_zero]
  by_contra hneg
  exact hpos ⟨hrat, (not_le.mp hneg).le⟩

end NewApi
