import NewApi.Abilities
import NewApi.QuotaMath
import Mathlib.Algebra.BigOperators.Ring.List
import Mathlib.Algebra.Order.BigOperators.GroupWithZero.List
import Mathlib.Data.List.AList

/-! # The ratios of a task's price

A task is priced when it is submitted, with the ratio of its group and with other ratios that the
adaptor estimates.  A remix is to be charged with the ratios of its origin as well.
`ResolveOriginTask` reads the channel of the request before `RelayTaskSubmit` has set it, which
is a nil dereference (`remix_panics`), and the price that it puts the ratios on is replaced
before it is used (`remix_charged_iff`).

A task that is charged again by its tokens looks for the special ratio of its group with itself,
where its price used that of the user's group with it (`recalculated_with_submitted_ratio_iff`).

The adaptor may correct its ratios after the submission.  The base quota is then recovered from
what was reserved, which is cut off, so that the estimate may show
(`price_independent_of_estimate_iff`).

Ratios are rationals: products are exact. -/
namespace NewApi
namespace Pricing
open Rounding

/-! ## Ratios of groups -/

/-- `groupRatioMap` and `groupGroupRatioMap`. -/
structure GroupTables where
  groupRatio : String → Option ℚ
  groupGroupRatio : String → Option (String → Option ℚ)

structure GroupRatioInfo where
  groupRatio : ℚ := 1
  groupSpecialRatio : ℚ := -1
  hasSpecialRatio : Bool := false
  deriving DecidableEq, Repr

namespace GroupTables
variable (t : GroupTables)

def getGroupRatio (name : String) : ℚ := (t.groupRatio name).getD 1

def getGroupGroupRatio (userGroup usingGroup : String) : Option ℚ :=
  match t.groupGroupRatio userGroup with
  | none => none
  | some gp => gp usingGroup

/-- The special ratio of two groups, or that of the second. -/
def effectiveRatio (userGroup usingGroup : String) : ℚ :=
  (t.getGroupGroupRatio userGroup usingGroup).getD (t.getGroupRatio usingGroup)

/-- `HandleGroupRatio`, with the group that is used from then on. -/
def handleGroupRatio (autoGroup userGroup usingGroup : String) : String × GroupRatioInfo :=
  let usingGroup := ratioGroup autoGroup usingGroup
  match t.getGroupGroupRatio userGroup usingGroup with
  | some ratio => (usingGroup, ⟨ratio, ratio, true⟩)
  | none => (usingGroup, { groupRatio := t.getGroupRatio usingGroup })

theorem handleGroupRatio_groupRatio (autoGroup userGroup usingGroup : String) :
    (t.handleGroupRatio autoGroup userGroup usingGroup).2.groupRatio =
      t.effectiveRatio userGroup (t.handleGroupRatio autoGroup userGroup usingGroup).1 := by
  unfold handleGroupRatio effectiveRatio
  cases h : t.getGroupGroupRatio userGroup (ratioGroup autoGroup usingGroup) <;> simp [h]

end GroupTables

/-! ## Prices -/

/-- The map of the other ratios. -/
abbrev OtherRatios := AList fun _ : String => ℚ

/-- `AddOtherRatio`. -/
def OtherRatios.add (ratios : OtherRatios) (entry : String × ℚ) : OtherRatios :=
  if 0 < entry.2 then ratios.insert entry.1 entry.2 else ratios

/-- `OtherRatioMultiplier`. -/
def OtherRatios.multiplier (ratios : OtherRatios) : ℚ :=
  ((ratios.entries.map (·.2)).filter fun ratio => 0 < ratio ∧ ratio ≠ 1).prod

/-- The fields of `PriceData` that pricing a request reads and writes. -/
structure PriceData where
  freeModel : Bool := false
  modelPrice : ℚ := 0
  modelRatio : ℚ := 0
  otherRatios : OtherRatios := ∅
  usePrice : Bool := false
  quota : Int := 0
  quotaToPreConsume : Int := 0
  groupRatioInfo : GroupRatioInfo := {}

/-- Why a request is not priced. -/
inductive PriceError where
  | notConfigured (matchName : String)
  | noBillingExpr
  | requestInput (text : String)
  | exprRunFailed (text : String)
  | clamp (c : QuotaClamp)
  deriving DecidableEq

/-- What the settings say of the price of a model. -/
structure ModelConfig where
  /-- `GetModelPrice`. -/
  modelPrice : Option ℚ := none
  /-- The entry of `GetDefaultModelPriceMap`. -/
  defaultModelPrice : Option ℚ := none
  /-- `GetModelRatio`: the ratio, whether it is set, and the name that matched. -/
  modelRatio : ℚ := 0
  hasRatioSetting : Bool := false
  matchName : String := ""
  acceptUnsetRatioModel : Bool := false
  quotaPerUnit : ℚ := 500000
  enableFreeModelPreConsume : Bool := false

/-- Nothing is reserved for a price or a group that is free. -/
def ModelConfig.isFree (m : ModelConfig) (price groupRatio : ℚ) : Bool :=
  !m.enableFreeModelPreConsume && (groupRatio = 0 || price = 0)

def strictQuota (converted : Int × Option QuotaClamp) : Except PriceError Int :=
  match converted.2 with
  | some c => .error (.clamp c)
  | none => .ok converted.1

def quotaFromFloatChecked (value : ℚ) : Int × Option QuotaClamp :=
  saturateQuota value "QuotaFromFloat"

def quotaFromFloat (value : ℚ) : Int := (quotaFromFloatChecked value).1

def quotaFromFloatStrict (value : ℚ) : Except PriceError Int :=
  strictQuota (quotaFromFloatChecked value)

/-- A quota from a price that is not negative is the largest one that the price reaches. -/
theorem le_quotaFromFloat_iff {value : ℚ} {n : Int} (hvalue : 0 ≤ value) (hn : n ≤ maxQuota) :
    n ≤ quotaFromFloat value ↔ (n : ℚ) ≤ value := by
  unfold quotaFromFloat quotaFromFloatChecked saturateQuota
  split
  · rename_i hmax
    exact iff_of_true hn (le_trans (Int.cast_le.mpr hn) hmax)
  split
  · rename_i hmin
    have hneg : (minQuota : ℚ) < 0 := by decide +kernel
    linarith
  · rw [trunc, if_pos hvalue, Int.le_floor]

theorem quotaFromFloat_le_max {value : ℚ} (hvalue : 0 ≤ value) :
    quotaFromFloat value ≤ maxQuota := by
  unfold quotaFromFloat quotaFromFloatChecked saturateQuota
  split
  · exact le_rfl
  split
  · exact (by decide : minQuota ≤ maxQuota)
  · rename_i hmax _
    rw [trunc, if_pos hvalue]
    exact Int.cast_le.mp ((Int.floor_le value).trans (not_le.mp hmax).le)

/-- A lower price gives the same quota if it still reaches it. -/
theorem quotaFromFloat_eq_iff {low high : ℚ} (hlow : 0 ≤ low) (hle : low ≤ high) :
    quotaFromFloat low = quotaFromFloat high ↔ (quotaFromFloat high : ℚ) ≤ low := by
  have hhigh : 0 ≤ high := hlow.trans hle
  rw [← le_quotaFromFloat_iff hlow (quotaFromFloat_le_max hhigh)]
  refine ⟨fun h => h.ge, fun h => le_antisymm ?_ h⟩
  have hmax := quotaFromFloat_le_max hlow
  rw [le_quotaFromFloat_iff hhigh hmax]
  exact ((le_quotaFromFloat_iff hlow hmax).mp le_rfl).trans hle

/-! ## Tasks -/

/-- The origin of a task: the names of its properties, the `model`, `seconds` (by `strconv.Atoi`)
and `size` of its data, and the ratios of its billing context if it has one. -/
structure OriginTask where
  channelId : Int
  originModelName : String := ""
  upstreamModelName : String := ""
  dataModel : String := ""
  billingContext : Option (List (String × ℚ)) := none
  seconds : Int := 0
  size : String := ""

def maxTaskDurationSeconds : Int := 3600

/-- The ratios that `ResolveOriginTask` adds for a remix. -/
def OriginTask.ratios (origin : OriginTask) : List (String × ℚ) :=
  match origin.billingContext with
  | some ratios => ratios
  | none =>
      let seconds := if origin.seconds ≤ 0 then 4 else origin.seconds
      let size : ℚ :=
        if origin.size = "1792x1024" ∨ origin.size = "1024x1792" then 1666667 / 1000000 else 1
      [("seconds", (min seconds maxTaskDurationSeconds : Int)), ("size", size)]

/-- The name of the model, from the origin if the request has none. -/
def OriginTask.modelName (origin : OriginTask) (requested : String) : String :=
  if requested ≠ "" then requested
  else if origin.originModelName ≠ "" then origin.originModelName
  else if origin.upstreamModelName ≠ "" then origin.upstreamModelName
  else origin.dataModel

/-- The channel of an origin task, with the key that `GetNextEnabledKey` gives. -/
structure OriginChannel where
  enabled : Bool := true
  type : Int := 0
  baseURL : String := ""
  nextKey : Option String := none
  deriving DecidableEq

/-- The fields of `ChannelMeta` that `ResolveOriginTask` reads and writes. -/
structure ChannelMeta where
  channelId : Int := 0
  channelType : Int := 0
  channelBaseUrl : String := ""
  apiKey : String := ""
  deriving DecidableEq

/-- The request of a task. -/
structure TaskInfo where
  originModelName : String
  userGroup : String := ""
  usingGroup : String := ""
  /-- The path is that of a remix. -/
  remix : Bool := false
  originTaskID : String := ""
  /-- The channel in the request's context. -/
  context : ChannelMeta := {}
  /-- The embedded pointer, which is nil until `InitChannelMeta`. -/
  channelMeta : Option ChannelMeta := none
  lockedChannel : Option OriginChannel := none
  priceData : PriceData := {}

/-- Why a task is not submitted. -/
inductive TaskFailure where
  /-- A `TaskError` with this code. -/
  | taskError (code : String)
  | modelPrice (error : PriceError)
  /-- The nil dereference. -/
  | nilPointer
  deriving DecidableEq

/-- The tables that `ResolveOriginTask` reads: `GetByTaskId` for the user, and
`GetChannelById`. -/
structure OriginStore where
  getByTaskId : String → Except String (Option OriginTask)
  getChannelById : Int → Option OriginChannel

open OtherRatios

/-- `AddOtherRatio` for some ratios. -/
def PriceData.addOtherRatios (price : PriceData) (ratios : List (String × ℚ)) : PriceData :=
  { price with otherRatios := ratios.foldl add price.otherRatios }

/-- What `ResolveOriginTask` does with the channel of the origin, when it is not the request's. -/
def TaskInfo.switchChannel (info : TaskInfo) (channelId : Int) (ch : OriginChannel) :
    Except TaskFailure TaskInfo :=
  match info.channelMeta with
  -- `info.ChannelId` is read through the embedded pointer
  | none => .error .nilPointer
  | some channelMeta =>
      if channelId = channelMeta.channelId then .ok info
      else match ch.nextKey with
      | none => .error (.taskError "channel_no_available_key")
      | some key =>
          let channel : ChannelMeta := ⟨channelId, ch.type, ch.baseURL, key⟩
          .ok { info with context := channel, channelMeta := some channel }

theorem switchChannel_ok {info : TaskInfo} {channelMeta : ChannelMeta} {ch : OriginChannel}
    {key : String} (hchannel : info.channelMeta = some channelMeta) (hkey : ch.nextKey = some key)
    (channelId : Int) : ∃ switched, info.switchChannel channelId ch = .ok switched ∧
      switched.userGroup = info.userGroup ∧ switched.usingGroup = info.usingGroup ∧
      switched.originModelName = info.originModelName := by
  simp only [TaskInfo.switchChannel, hchannel, hkey]
  split
  · exact ⟨info, rfl, rfl, rfl, rfl⟩
  · exact ⟨_, rfl, rfl, rfl, rfl⟩

def TaskInfo.resolveOriginTask (info : TaskInfo) (videoID : String) (store : OriginStore) :
    Except TaskFailure TaskInfo :=
  if info.remix ∧ isBlank videoID then .error (.taskError "invalid_request")
  else
    let info := if info.remix then { info with originTaskID := videoID } else info
    if info.originTaskID = "" then .ok info
    else match store.getByTaskId info.originTaskID with
    | .error _ => .error (.taskError "get_origin_task_failed")
    | .ok none => .error (.taskError "task_not_exist")
    | .ok (some origin) =>
        let info := { info with originModelName := origin.modelName info.originModelName }
        match store.getChannelById origin.channelId with
        | none => .error (.taskError "channel_not_found")
        | some ch =>
            if !ch.enabled then .error (.taskError "task_channel_disable")
            else
              (({ info with lockedChannel := some ch }).switchChannel origin.channelId ch).map
                fun (info : TaskInfo) =>
                  if info.remix then
                    { info with priceData := info.priceData.addOtherRatios origin.ratios }
                  else info

def ModelConfig.modelPriceHelperPerCall (m : ModelConfig) (group : GroupRatioInfo) :
    Except PriceError PriceData :=
  match m.modelPrice <|> m.defaultModelPrice with
  | some price =>
      (quotaFromFloatStrict (price * m.quotaPerUnit * group.groupRatio)).map fun quota =>
        let freeModel := m.isFree price group.groupRatio
        { freeModel := freeModel, modelPrice := price, usePrice := true
          quota := if freeModel then 0 else quota, groupRatioInfo := group }
  | none =>
      if !m.hasRatioSetting && !m.acceptUnsetRatioModel then .error (.notConfigured m.matchName)
      else
        (quotaFromFloatStrict (m.modelRatio / 2 * m.quotaPerUnit * group.groupRatio)).map
          fun quota =>
            let freeModel := m.isFree m.modelRatio group.groupRatio
            { freeModel := freeModel, modelPrice := -1, modelRatio := m.modelRatio
              quota := if freeModel then 0 else quota, groupRatioInfo := group }

/-- The price of a task in `RelayTaskSubmit`, for what the adaptor estimates: `PriceData.Quota` is
what is reserved.  `PriceData` is made anew by `ModelPriceHelperPerCall`. -/
def ModelConfig.relayTaskSubmit (m : ModelConfig) (t : GroupTables) (autoGroup : String)
    (taskPricePatches : List String) (estimatedRatios : List (String × ℚ)) (info : TaskInfo) :
    Except PriceError TaskInfo :=
  -- `InitChannelMeta`
  let info := { info with channelMeta := some info.context }
  let group := t.handleGroupRatio autoGroup info.userGroup info.usingGroup
  (m.modelPriceHelperPerCall group.2).map fun priceData =>
    let priceData := priceData.addOtherRatios estimatedRatios
    let quota := quotaFromFloatChecked (priceData.quota * priceData.otherRatios.multiplier)
    { info with
      usingGroup := group.1
      priceData := { priceData with
        quota := if info.originModelName ∈ taskPricePatches then priceData.quota else quota.1 } }

/-- `RelayTask` up to the price of its first attempt. -/
def ModelConfig.relayTask (m : ModelConfig) (t : GroupTables) (autoGroup : String)
    (taskPricePatches : List String) (estimatedRatios : List (String × ℚ)) (videoID : String)
    (store : OriginStore) (info : TaskInfo) : Except TaskFailure TaskInfo :=
  match info.resolveOriginTask videoID store with
  | .error failure => .error failure
  | .ok info =>
      match m.relayTaskSubmit t autoGroup taskPricePatches estimatedRatios info with
      | .error error => .error (.modelPrice error)
      | .ok info => .ok info

section Remix
variable {m : ModelConfig} {ratios ratios' : OtherRatios} {estimated : List (String × ℚ)}

theorem map_eq_ok {ε α β : Type} {x : Except ε α} {f : α → β} {b : β} (h : x.map f = .ok b) :
    ∃ a, x = .ok a ∧ f a = b := by
  cases x with
  | error e => cases h
  | ok a => exact ⟨a, rfl, Except.ok.inj h⟩

/-- Maps that differ only where they are written to are the same then. -/
theorem lookup_foldl_add (h : ∀ k, ratios.lookup k ≠ ratios'.lookup k →
      ∃ v, (k, v) ∈ estimated ∧ 0 < v) (k : String) : (estimated.foldl add ratios).lookup k =
      (estimated.foldl add ratios').lookup k := by
  induction estimated generalizing ratios ratios' with
  | nil =>
    by_contra hne
    obtain ⟨v, hv, -⟩ := h k hne
    cases hv
  | cons entry estimated ih =>
    refine ih fun k hne => ?_
    unfold add at hne
    split at hne
    · rename_i hval
      by_cases hk : k = entry.1
      · subst hk
        simp at hne
      · rw [AList.lookup_insert_ne hk, AList.lookup_insert_ne hk] at hne
        obtain ⟨v, hv, hpos⟩ := h k hne
        rcases List.mem_cons.mp hv with heq | hv
        · exact absurd (congrArg Prod.fst heq) hk
        · exact ⟨v, hv, hpos⟩
    · rename_i hval
      obtain ⟨v, hv, hpos⟩ := h k hne
      rcases List.mem_cons.mp hv with rfl | hv
      · exact absurd hpos hval
      · exact ⟨v, hv, hpos⟩

/-- What has no valid estimate is left as it is. -/
theorem lookup_foldl_add_of_not {k : String} (h : ∀ v, (k, v) ∈ estimated → ¬ 0 < v) :
    (estimated.foldl add ratios).lookup k = ratios.lookup k := by
  induction estimated generalizing ratios with
  | nil => rfl
  | cons entry estimated ih =>
    rw [List.foldl_cons, ih fun v hv => h v (List.mem_cons_of_mem _ hv)]
    unfold add
    split
    · rename_i hpos
      refine AList.lookup_insert_ne fun hk => ?_
      exact h entry.2 (by rw [hk]; exact List.mem_cons_self) hpos
    · rfl

theorem multiplier_congr (h : ∀ k, ratios.lookup k = ratios'.lookup k) :
    ratios.multiplier = ratios'.multiplier := by
  have hpe : ratios.entries.Perm ratios'.entries :=
    List.lookup_ext ratios.nodupKeys ratios'.nodupKeys fun k v => by
      have hk := h k
      unfold AList.lookup at hk
      rw [hk]
  exact ((hpe.map _).filter _).prod_eq

theorem perCall_ok {group : GroupRatioInfo} {base : PriceData}
    (h : m.modelPriceHelperPerCall group = .ok base) :
    base.otherRatios = ∅ ∧ base.groupRatioInfo = group := by
  unfold ModelConfig.modelPriceHelperPerCall at h
  split at h
  · obtain ⟨quota, -, rfl⟩ := map_eq_ok h
    exact ⟨rfl, rfl⟩
  · split at h
    · cases h
    · obtain ⟨quota, -, rfl⟩ := map_eq_ok h
      exact ⟨rfl, rfl⟩

/-- A remix that `RelayTask` can price: its origin and the channel of it are there, the channel
is enabled with a key, and the model has a price that is multiplied. -/
structure Remix (m : ModelConfig) (t : GroupTables) (autoGroup : String)
    (taskPricePatches : List String) (videoID : String) (store : OriginStore) (info : TaskInfo)
    where
  origin : OriginTask
  channel : OriginChannel
  key : String
  base : PriceData
  remix : info.remix = true
  video : isBlank videoID = false
  found : store.getByTaskId videoID = .ok (some origin)
  channelFound : store.getChannelById origin.channelId = some channel
  enabled : channel.enabled = true
  nextKey : channel.nextKey = some key
  priced : m.modelPriceHelperPerCall
    (t.handleGroupRatio autoGroup info.userGroup info.usingGroup).2 = .ok base
  unpatched : origin.modelName info.originModelName ∉ taskPricePatches

section
variable {t : GroupTables} {autoGroup videoID : String} {taskPricePatches : List String}
  {store : OriginStore} {info : TaskInfo}

/-- The ratios of a remix: those of the origin, which the estimates override. -/
def Remix.merged (r : Remix m t autoGroup taskPricePatches videoID store info)
    (estimated : List (String × ℚ)) : OtherRatios :=
  estimated.foldl add (r.origin.ratios.foldl add info.priceData.otherRatios)

variable (r : Remix m t autoGroup taskPricePatches videoID store info)
include r

/-- The request is resolved unless its channel is not set. -/
theorem resolve_remix : info.resolveOriginTask videoID store =
    (({ info with
        originTaskID := videoID
        originModelName := r.origin.modelName info.originModelName
        lockedChannel := some r.channel } : TaskInfo).switchChannel r.origin.channelId
      r.channel).map fun (info : TaskInfo) =>
        { info with priceData := info.priceData.addOtherRatios r.origin.ratios } := by
  have hne : videoID ≠ "" := by
    rintro rfl
    exact absurd r.video (by decide)
  unfold TaskInfo.resolveOriginTask
  simp only [r.remix, r.video, if_true, if_neg hne, r.found, r.channelFound, r.enabled,
    Bool.false_eq_true, and_false, if_false, Bool.not_true]
  unfold TaskInfo.switchChannel
  dsimp only
  cases info.channelMeta with
  | none => rfl
  | some channelMeta =>
    dsimp only
    split
    · simp only [Except.map, if_true]
    · simp only [r.nextKey, Except.map, if_true]

/-- **Every remix panics** whose origin is on an enabled channel: `GenRelayInfo` leaves the
channel of the request nil. -/
theorem remix_panics (estimated : List (String × ℚ)) (hnil : info.channelMeta = none) :
    m.relayTask t autoGroup taskPricePatches estimated videoID store info =
      .error .nilPointer := by
  unfold ModelConfig.relayTask
  rw [resolve_remix r]
  simp [TaskInfo.switchChannel, hnil, Except.map]

/-- With a channel, the ratios of the origin are on a price that is replaced. -/
theorem remix_submitted {channelMeta : ChannelMeta} (hchannel : info.channelMeta = some channelMeta)
    (estimated : List (String × ℚ)) :
    ∃ final, m.relayTask t autoGroup taskPricePatches estimated videoID store info = .ok final ∧
      final.priceData.otherRatios = estimated.foldl add ∅ ∧
      final.priceData.quota =
        quotaFromFloat (r.base.quota * (estimated.foldl add ∅).multiplier) := by
  obtain ⟨switched, hswitch, huser, husing, hname⟩ := @switchChannel_ok { info with
    originTaskID := videoID
    originModelName := r.origin.modelName info.originModelName
    lockedChannel := some r.channel } _ _ _ hchannel r.nextKey r.origin.channelId
  unfold ModelConfig.relayTask
  rw [resolve_remix r, hswitch]
  dsimp only [Except.map, ModelConfig.relayTaskSubmit]
  rw [huser, husing, hname, r.priced]
  simp only [if_neg r.unpatched, PriceData.addOtherRatios, (perCall_ok r.priced).1]
  exact ⟨_, rfl, rfl, rfl⟩

/-- **When a remix is charged with the ratios of its origin**: the channel of the request is set
before the origin is resolved, and the adaptor estimates every ratio of the origin anew. -/
theorem remix_charged_iff (estimated : List (String × ℚ)) :
    (∃ final, m.relayTask t autoGroup taskPricePatches estimated videoID store info = .ok final ∧
      (∀ k, final.priceData.otherRatios.lookup k = (r.merged estimated).lookup k) ∧
      final.priceData.quota =
        quotaFromFloat (r.base.quota * (r.merged estimated).multiplier)) ↔
    info.channelMeta ≠ none ∧ ∀ k ∈ r.origin.ratios.foldl add info.priceData.otherRatios,
      ∃ v, (k, v) ∈ estimated ∧ 0 < v := by
  cases hchannel : info.channelMeta with
  | none =>
    refine iff_of_false ?_ fun h => h.1 rfl
    rintro ⟨final, heq, -⟩
    rw [remix_panics r estimated hchannel] at heq
    cases heq
  | some channelMeta =>
    obtain ⟨final, heq, hratios, hquota⟩ := remix_submitted r hchannel estimated
    rw [heq]
    constructor
    · rintro ⟨_, hok, hlookup, -⟩
      cases hok
      refine ⟨by simp, fun k hk => ?_⟩
      by_contra hne
      have hnot : ∀ v, (k, v) ∈ estimated → ¬ 0 < v := fun v hv hpos => hne ⟨v, hv, hpos⟩
      -- a ratio that is not estimated is in the merged map only
      have hdropped := hlookup k
      rw [hratios, Remix.merged, lookup_foldl_add_of_not hnot, lookup_foldl_add_of_not hnot,
        AList.lookup_empty] at hdropped
      exact absurd (AList.lookup_isSome.mpr hk) (by simp [← hdropped])
    · rintro ⟨-, hestimated⟩
      have hlookup : ∀ k, (estimated.foldl add ∅).lookup k = (r.merged estimated).lookup k := by
        refine lookup_foldl_add fun k hne => hestimated k ?_
        rw [AList.lookup_empty] at hne
        exact AList.lookup_isSome.mp (Option.isSome_iff_ne_none.mpr hne.symm)
      refine ⟨final, rfl, fun k => by rw [hratios, hlookup], ?_⟩
      rw [hquota, multiplier_congr hlookup]

end

/-- A model with a price per call, and groups without special ratios. -/
def perCallModel (price : ℚ) : ModelConfig := { modelPrice := some price }

def plainGroups : GroupTables := ⟨fun _ => some 1, fun _ => none⟩

/-- A task of eight seconds, on a channel with a key. -/
def eightSeconds : OriginStore where
  getByTaskId _ := .ok (some { channelId := 7, billingContext := some [("seconds", 8)] })
  getChannelById _ := some { nextKey := some "k" }

theorem perCallModel_ok {price : ℚ} {quota : Int} (hprice : price ≠ 0)
    (hquota : quotaFromFloatStrict (price * 500000 * 1) = .ok quota) :
    (perCallModel price).modelPriceHelperPerCall (plainGroups.handleGroupRatio "" "" "").2 =
      .ok { modelPrice := price, usePrice := true, quota := quota } := by
  show (quotaFromFloatStrict (price * 500000 * 1)).map _ = _
  rw [hquota]
  have hfree : (perCallModel price).isFree price 1 = false := by simp [ModelConfig.isFree, hprice]
  show Except.ok _ = Except.ok _
  simp only [show (plainGroups.handleGroupRatio "" "" "").2 = { groupRatio := 1 } from rfl, hfree]
  rfl

/-- A remix of it. -/
def soraRemix (channelMeta : Option ChannelMeta) :
    Remix (perCallModel 1) plainGroups "" [] "video" eightSeconds
      { originModelName := "sora-2", remix := true, channelMeta := channelMeta } where
  origin := { channelId := 7, billingContext := some [("seconds", 8)] }
  channel := { nextKey := some "k" }
  key := "k"
  base := { modelPrice := 1, usePrice := true, quota := 500000 }
  remix := rfl
  video := by decide +kernel
  found := rfl
  channelFound := rfl
  enabled := rfl
  nextKey := rfl
  priced := perCallModel_ok one_ne_zero (by decide +kernel)
  unpatched := List.not_mem_nil

theorem remix_charged_estimated :
    ∃ final, (perCallModel 1).relayTask plainGroups "" [] [("seconds", 8)] "video" eightSeconds
        { originModelName := "sora-2", remix := true, channelMeta := some {} } = .ok final ∧
      (∀ k, final.priceData.otherRatios.lookup k =
        ((soraRemix (some {})).merged [("seconds", 8)]).lookup k) ∧
      final.priceData.quota = 4000000 := by
  have hkeys : (List.foldl add ∅ [("seconds", (8 : ℚ))]).keys = ["seconds"] := by decide +kernel
  have hestimated : ∀ k ∈ List.foldl add ∅ [("seconds", (8 : ℚ))],
      ∃ v, (k, v) ∈ [("seconds", (8 : ℚ))] ∧ 0 < v := by
    intro k hk
    rw [AList.mem_keys, hkeys, List.mem_singleton] at hk
    exact ⟨8, by rw [hk]; exact List.mem_singleton_self _, by norm_num⟩
  obtain ⟨final, heq, hlookup, hquota⟩ :=
    (remix_charged_iff (soraRemix (some {})) [("seconds", 8)]).mpr ⟨by simp, hestimated⟩
  exact ⟨final, heq, hlookup, hquota.trans (by decide +kernel)⟩

/-- **The remix of eight seconds is not priced**, and with a channel it would be priced as one
second, since the adaptor leaves the seconds of a remix to its origin. -/
theorem remix_ratio_lost :
    let price := fun channelMeta =>
      ((perCallModel 1).relayTask plainGroups "" [] [] "video" eightSeconds
        { originModelName := "sora-2", remix := true, channelMeta := channelMeta }).map
      (·.priceData.quota)
    price none = .error .nilPointer ∧ price (some {}) = .ok 500000 ∧
      quotaFromFloat (500000 * ((soraRemix (some {})).merged []).multiplier) =
        4000000 := by
  decide +kernel

end Remix

/-! ## The price after the submission -/

/-- `RemoveOtherRatiosFromFloat`. -/
def OtherRatios.removeFrom (ratios : OtherRatios) (value : ℚ) : ℚ :=
  ((ratios.entries.map (·.2)).filter fun ratio => 0 < ratio ∧ ratio ≠ 1).foldl (· / ·) value

/-- `recalcQuotaFromRatios`; there is none if no ratio is valid. -/
def PriceData.recalcQuotaFromRatios (price : PriceData) (ratios : List (String × ℚ)) :
    Option Int :=
  let baseQuota := price.otherRatios.removeFrom price.quota
  let replaced := ratios.foldl add ∅
  if replaced.entries = [] then none
  else some (quotaFromFloat (baseQuota * replaced.multiplier))

/-- The quota that `RelayTaskSubmit` returns, for the ratios of `AdjustBillingOnSubmit`. -/
def PriceData.finalQuota (price : PriceData) (adjusted : List (String × ℚ)) : Int :=
  (price.recalcQuotaFromRatios adjusted).getD price.quota

theorem foldl_div (l : List ℚ) (value : ℚ) : l.foldl (· / ·) value = value / l.prod := by
  induction l generalizing value with
  | nil => simp
  | cons ratio l ih => rw [List.foldl_cons, ih, List.prod_cons, div_div]

theorem multiplier_pos (ratios : OtherRatios) : 0 < ratios.multiplier := by
  refine List.prod_pos fun ratio h => ?_
  have := (List.mem_filter.mp h).2
  simp only [decide_eq_true_eq] at this
  exact this.1

theorem foldl_add_ne_nil {ratios : OtherRatios} {l : List (String × ℚ)}
    (h : ratios.entries ≠ [] ∨ ∃ entry ∈ l, 0 < entry.2) : (l.foldl add ratios).entries ≠ [] := by
  induction l generalizing ratios with
  | nil => simpa using h
  | cons entry l ih =>
    refine ih ?_
    unfold add
    split
    · exact .inl (by simp [AList.entries_insert])
    · rename_i hval
      simpa [hval] using h

/-- The final quota is recovered from what was reserved. -/
theorem finalQuota_eq {price : PriceData} {adjusted : List (String × ℚ)}
    (hadjusted : ∃ entry ∈ adjusted, 0 < entry.2) : price.finalQuota adjusted =
      quotaFromFloat (price.quota / price.otherRatios.multiplier *
        (adjusted.foldl add ∅).multiplier) := by
  unfold PriceData.finalQuota PriceData.recalcQuotaFromRatios
  rw [removeFrom, foldl_div, if_neg (foldl_add_ne_nil (.inr hadjusted))]
  rfl

section
variable (m : ModelConfig) (t : GroupTables) (autoGroup : String) (taskPricePatches : List String)
  (info : TaskInfo) (adjusted : List (String × ℚ))

/-- What `RelayTaskSubmit` returns for these estimates. -/
def finalPrice (estimated : List (String × ℚ)) : Except PriceError Int :=
  (m.relayTaskSubmit t autoGroup taskPricePatches estimated info).map
    (·.priceData.finalQuota adjusted)

def product (ratios : List (String × ℚ)) : ℚ := (ratios.foldl add ∅).multiplier

variable {m t autoGroup taskPricePatches info adjusted} {base : PriceData}
  (hbase : m.modelPriceHelperPerCall
    (t.handleGroupRatio autoGroup info.userGroup info.usingGroup).2 = .ok base)
  (hadjusted : ∃ entry ∈ adjusted, 0 < entry.2)
include hbase hadjusted

theorem finalPrice_eq (estimated : List (String × ℚ)) :
    finalPrice m t autoGroup taskPricePatches info adjusted estimated =
      .ok (quotaFromFloat ((if info.originModelName ∈ taskPricePatches then base.quota
        else quotaFromFloat (base.quota * product estimated) : Int) / product estimated *
          product adjusted)) := by
  dsimp only [finalPrice, ModelConfig.relayTaskSubmit]
  rw [hbase]
  refine congrArg Except.ok ((finalQuota_eq hadjusted).trans ?_)
  simp only [PriceData.addOtherRatios, (perCall_ok hbase).1]
  rfl

/-- A model whose price is multiplied gets the adjusted price if what is left of the reserved
quota still reaches it. -/
theorem finalPrice_eq_iff (hnonneg : 0 ≤ base.quota)
    (hpatch : info.originModelName ∉ taskPricePatches) (estimated : List (String × ℚ)) :
    finalPrice m t autoGroup taskPricePatches info adjusted estimated =
        .ok (quotaFromFloat (base.quota * product adjusted)) ↔
      quotaFromFloat (base.quota * product adjusted) * product estimated ≤
        quotaFromFloat (base.quota * product estimated) * product adjusted := by
  have hnonneg' : (0 : ℚ) ≤ base.quota := Int.cast_nonneg hnonneg
  have hest : 0 < product estimated := multiplier_pos _
  have hadj : 0 < product adjusted := multiplier_pos _
  have hreserved := (le_quotaFromFloat_iff (mul_nonneg hnonneg' hest.le)
    (quotaFromFloat_le_max (mul_nonneg hnonneg' hest.le))).mp le_rfl
  have hzero : 0 ≤ quotaFromFloat (base.quota * product estimated) :=
    (le_quotaFromFloat_iff (mul_nonneg hnonneg' hest.le) (by decide)).mpr
      (by simpa using mul_nonneg hnonneg' hest.le)
  have hzero' : (0 : ℚ) ≤ quotaFromFloat (base.quota * product estimated) := Int.cast_nonneg hzero
  rw [finalPrice_eq hbase hadjusted, if_neg hpatch, Except.ok.injEq]
  -- the base that is recovered is at most the one that was reserved for
  have hle : quotaFromFloat (base.quota * product estimated) / product estimated *
      product adjusted ≤ base.quota * product adjusted := by
    refine mul_le_mul_of_nonneg_right ?_ hadj.le
    rw [div_le_iff₀ hest]
    exact hreserved
  refine (quotaFromFloat_eq_iff (by positivity) hle).trans ?_
  rw [div_mul_eq_mul_div, le_div_iff₀ hest]

/-- **When the final price does not depend on the estimate.**  A model whose price is multiplied
gets the base times the adjusted ratios for both estimates if each reserved quota, cut off as it
is, still reaches that price; for a patched model, nothing but the two quotients counts. -/
theorem price_independent_of_estimate_iff (hnonneg : 0 ≤ base.quota)
    (estimated estimated' : List (String × ℚ)) :
    (finalPrice m t autoGroup taskPricePatches info adjusted estimated =
        finalPrice m t autoGroup taskPricePatches info adjusted estimated' ∧
      (info.originModelName ∉ taskPricePatches →
        finalPrice m t autoGroup taskPricePatches info adjusted estimated =
          .ok (quotaFromFloat (base.quota * product adjusted)))) ↔
    if info.originModelName ∈ taskPricePatches then
      quotaFromFloat (base.quota / product estimated * product adjusted) =
        quotaFromFloat (base.quota / product estimated' * product adjusted)
    else ∀ ratios ∈ [estimated, estimated'],
      quotaFromFloat (base.quota * product adjusted) * product ratios ≤
        quotaFromFloat (base.quota * product ratios) * product adjusted := by
  split
  · rename_i hpatch
    simp only [finalPrice_eq hbase hadjusted, hpatch, if_true, Except.ok.injEq, not_true_eq_false,
      false_imp_iff, and_true]
  · rename_i hpatch
    simp only [List.forall_mem_cons, List.not_mem_nil, false_imp_iff, implies_true, and_true,
      ← finalPrice_eq_iff hbase hadjusted hnonneg hpatch]
    constructor
    · rintro ⟨hsame, htarget⟩
      exact ⟨htarget hpatch, hsame.symm.trans (htarget hpatch)⟩
    · rintro ⟨htarget, htarget'⟩
      exact ⟨htarget.trans htarget'.symm, fun _ => htarget⟩

end

/-- Of a base quota of 10 a quarter is cut off to 2, from which an eighth is still 1. -/
theorem price_independent_of_estimate_seconds :
    let final := finalPrice (perCallModel (1 / 50000)) plainGroups "" []
      { originModelName := "sora-2" } [("seconds", 1 / 8)]
    final [("seconds", 8)] = final [("seconds", 1 / 4)] ∧ final [("seconds", 8)] = .ok 1 := by
  intro final
  have hbase : (perCallModel (1 / 50000)).modelPriceHelperPerCall
      (plainGroups.handleGroupRatio "" "" "").2 =
        .ok { modelPrice := 1 / 50000, usePrice := true, quota := 10 } :=
    perCallModel_ok (by norm_num) (by decide +kernel)
  have hadjusted : ∃ entry ∈ [("seconds", (1 / 8 : ℚ))], 0 < entry.2 :=
    ⟨_, List.mem_singleton_self _, by norm_num⟩
  have h := (@price_independent_of_estimate_iff _ _ _ [] { originModelName := "sora-2" } _ _
    hbase hadjusted (by decide) [("seconds", 8)] [("seconds", 1 / 4)]).mpr ?_
  · exact ⟨h.1, (h.2 List.not_mem_nil).trans (by decide +kernel)⟩
  · decide +kernel

/-- **The estimate decides the price**: of a base quota of 10 a quarter is 2, from which 8 is
recovered; and for a patched model, whose price was not multiplied, half of it. -/
theorem price_depends_on_estimate :
    let final := fun patches => finalPrice (perCallModel (1 / 50000)) plainGroups "" patches
      { originModelName := "sora-2" } [("seconds", 1)]
    final [] [] = .ok 10 ∧ final [] [("seconds", 1 / 4)] = .ok 8 ∧
      final ["sora-2"] [("seconds", 2)] = .ok 5 := by
  decide +kernel

/-- A task that `RelayTask` has created: `InitTask`, and the ratios of its billing context. -/
structure PricedTask where
  group : String
  groupRatio : ℚ
  otherRatios : OtherRatios

/-- The task of a request. -/
def TaskInfo.task (info : TaskInfo) : PricedTask :=
  ⟨info.usingGroup, info.priceData.groupRatioInfo.groupRatio, info.priceData.otherRatios⟩

/-- The group that `RecalculateTaskQuotaByTokens` charges: that of the user, if the user is found,
for a task without one. -/
def PricedTask.chargedGroup (task : PricedTask) (user : Option String) : String :=
  if task.group = "" then user.getD "" else task.group

/-- `finalGroupRatio` in `RecalculateTaskQuotaByTokens`. -/
def GroupTables.finalGroupRatio (t : GroupTables) (user : Option String) (task : PricedTask) :
    Option ℚ :=
  let group := task.chargedGroup user
  if group = "" then none
  else some (t.effectiveRatio group group)

/-- The quota of `RecalculateTaskQuotaByTokens`; none leaves the task as it is. -/
def ModelConfig.recalculateTaskQuotaByTokens (m : ModelConfig) (t : GroupTables)
    (user : Option String) (task : PricedTask) (totalTokens : Int) :
    Option (Int × Option QuotaClamp) :=
  if totalTokens ≤ 0 ∨ m.hasRatioSetting = false ∨ m.modelRatio ≤ 0 then none
  else (t.finalGroupRatio user task).map fun finalGroupRatio => quotaFromFloatChecked
    (totalTokens * m.modelRatio * finalGroupRatio * task.otherRatios.multiplier)

/-- **When tokens are charged with the ratio of the submission**: the group has the same ratio
with itself as with the user's group.  Then that ratio decides what is charged. -/
theorem recalculated_with_submitted_ratio_iff (m : ModelConfig) (t : GroupTables)
    {autoGroup : String} {taskPricePatches : List String} {estimated : List (String × ℚ)}
    {info submitted : TaskInfo} (user : Option String)
    (hsubmit : m.relayTaskSubmit t autoGroup taskPricePatches estimated info = .ok submitted) :
    ((∀ ratio ∈ t.finalGroupRatio user submitted.task, ratio = submitted.task.groupRatio) ↔
      let group := submitted.task.chargedGroup user
      group = "" ∨ t.effectiveRatio group group =
        t.effectiveRatio info.userGroup submitted.usingGroup) ∧
    ((∀ ratio ∈ t.finalGroupRatio user submitted.task, ratio = submitted.task.groupRatio) →
      ∀ totalTokens, ∀ charged ∈ m.recalculateTaskQuotaByTokens t user submitted.task totalTokens,
        charged = quotaFromFloatChecked (totalTokens * m.modelRatio * submitted.task.groupRatio *
          submitted.task.otherRatios.multiplier)) := by
  have hstored : submitted.task.groupRatio =
      t.effectiveRatio info.userGroup submitted.usingGroup := by
    obtain ⟨base, hbase, rfl⟩ := map_eq_ok hsubmit
    simp only [TaskInfo.task, PriceData.addOtherRatios, (perCall_ok hbase).2]
    exact t.handleGroupRatio_groupRatio _ _ _
  constructor
  · rw [← hstored]
    unfold GroupTables.finalGroupRatio
    by_cases hgroup : submitted.task.chargedGroup user = ""
    · simp [hgroup]
    · simp [hgroup]
  · intro hsame totalTokens charged hcharged
    unfold ModelConfig.recalculateTaskQuotaByTokens at hcharged
    split at hcharged
    · cases hcharged
    · obtain ⟨ratio, hratio, rfl⟩ := Option.map_eq_some_iff.mp hcharged
      rw [hsame ratio hratio]

/-- Half the price for `vip` in `default`, as for `default` itself: a hundred tokens are charged
fifty. -/
theorem recalculated_with_submitted_ratio_special :
    let m : ModelConfig := { modelRatio := 1, hasRatioSetting := true }
    let t : GroupTables := ⟨fun _ => some 1, fun user => if user = "vip" ∨ user = "default" then
      some fun group => if group = "default" then some (1 / 2) else none else none⟩
    let info : TaskInfo := { originModelName := "m", userGroup := "vip", usingGroup := "default" }
    ∃ submitted, m.relayTaskSubmit t "" [] [] info = .ok submitted ∧
      m.recalculateTaskQuotaByTokens t (some "vip") submitted.task 100 = some (50, none) ∧
      ∀ ratio ∈ t.finalGroupRatio (some "vip") submitted.task,
        ratio = submitted.task.groupRatio := by
  intro m t info
  have hrun : (m.relayTaskSubmit t "" [] [] info).map (fun submitted => (submitted.usingGroup,
      m.recalculateTaskQuotaByTokens t (some "vip") submitted.task 100)) =
      .ok ("default", some (50, none)) := by decide +kernel
  obtain ⟨submitted, hsubmit, heq⟩ := map_eq_ok hrun
  obtain ⟨husing, hcharged⟩ := Prod.mk.inj heq
  refine ⟨submitted, hsubmit, hcharged,
    (recalculated_with_submitted_ratio_iff m t (some "vip") hsubmit).1.mpr (.inr ?_)⟩
  simp only [PricedTask.chargedGroup, TaskInfo.task, husing]
  decide +kernel

/-- **A user of another group is charged with another ratio.** -/
theorem recalculated_with_other_ratio :
    let m : ModelConfig := { modelRatio := 1, hasRatioSetting := true }
    let t : GroupTables := ⟨fun _ => some 1, fun user => if user = "vip" then
      some fun group => if group = "default" then some (1 / 2) else none else none⟩
    let info : TaskInfo := { originModelName := "m", userGroup := "vip", usingGroup := "default" }
    (m.relayTaskSubmit t "" [] [] info).map (fun submitted => (submitted.task.groupRatio,
      t.finalGroupRatio (some "vip") submitted.task)) = .ok (1 / 2, some 1) := by
  decide +kernel

end Pricing
end NewApi
