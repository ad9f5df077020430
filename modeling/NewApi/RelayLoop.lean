import NewApi.ChannelSlots

/-! # The retry loop of a request

`Relay` makes an attempt on the channel of the distributor and, while attempts fail, on
channels that `CacheGetRandomSatisfiedChannel` selects.  For a token of the group auto the
selection goes through a list of groups; the index of the group that comes next is in the
context of the request.  The selection also moves the counter of the loop: it is set to zero
when a group is passed over, and, with cross-group retry, when an attempt is the last one of
its group, in which case the next increment is left out.

What the environment does in a turn is a `Turn`; a run of the loop is given by the list of
its turns.  `RelayRequest.Selects` says what a selection does and `RelayRequest.turn_cases`
what a turn does. -/
namespace NewApi

/-! ## Selection in a group -/

/-- What a selection in one group meets. -/
structure GroupView where
  candidates : Except String Candidates
  tries : Nat → SlotTry := fun _ => {}
  /-- Why the row of the selected channel cannot be read. -/
  rowError : Option String := none

namespace GroupView

/-- `GetRandomSatisfiedChannel`; the turns given to `selectAndAcquireChannel` are enough
(`selectAndAcquireChannel_returns`). -/
def getRandomSatisfiedChannel (view : GroupView) (retry : Nat) (excluded : List Int) :
    Except SelectError (Option Int) :=
  match view.candidates with
  | .error message => .error (.unreadable message)
  | .ok candidates =>
      if candidates.list = [] then .ok none
      else
        match (selectAndAcquireChannel view.tries candidates.list retry
            (candidates.list.length + 1) excluded).getD (.ok 0) with
        | .error e => .error e
        | .ok channelId =>
            if channelId = 0 then .error .noChannelFound
            else
              match view.rowError with
              | some message => .error (.unreadable message)
              | none => .ok (some channelId)

/-- A selection in the group gives a channel. -/
def offers (view : GroupView) (retry : Nat) (excluded : List Int) : Bool :=
  match view.getRandomSatisfiedChannel retry excluded with
  | .ok (some _) => true
  | _ => false

variable {view : GroupView} {retry : Nat} {excluded : List Int} {channelId : Int}

section
variable (h : view.getRandomSatisfiedChannel retry excluded = .ok (some channelId))
include h

theorem getRandomSatisfiedChannel_spec : channelId ∉ excluded ∧ 0 < channelId := by
  unfold getRandomSatisfiedChannel at h
  split at h
  · cases h
  rename_i candidates _
  split at h
  · cases h
  have htur : (Selection.untried candidates.list excluded).length <
      candidates.list.length + 1 := Nat.lt_succ_of_le (List.length_filter_le _ _)
  obtain ⟨r, hr⟩ := selectAndAcquireChannel_returns view.tries retry htur
  rw [hr, Option.getD_some] at h
  split at h
  · cases h
  split at h
  · cases h
  rename_i hid
  split at h
  · cases h
  cases h
  obtain ⟨hnew, c, hc, rfl⟩ := selectAndAcquireChannel_spec hr hid
  exact ⟨hnew, candidates.rows.pos c hc⟩

theorem offers_of_ok : view.offers retry excluded = true := by
  rw [offers, h]

end

end GroupView

/-! ## Requests -/

/-- What a request brings to the loop, and the settings that the loop reads. -/
structure RelayRequest where
  tokenGroup : String
  modelName : String
  /-- `setting.GetAutoGroups()`. -/
  autoGroups : List String
  /-- The keys of `GetUserUsableGroups`. -/
  usableGroups : List String
  /-- `ContextKeyTokenCrossGroupRetry`. -/
  crossGroupRetry : Bool
  /-- The channel of `specific_channel_id`. -/
  specificChannel : Option StoredChannel
  retryTimes : Nat

/-- `RetryParam`, with the keys of its `Ctx` that a selection reads and writes. -/
structure RetryParam where
  retry : Nat := 0
  resetNextTry : Bool := false
  excludedChannelIds : List Int := []
  /-- `ContextKeyAutoGroupIndex`. -/
  autoGroupIndex : Option Nat := none
  /-- `ContextKeyAutoGroup`, empty if it is not set. -/
  autoGroup : String := ""
  /-- The values that the index had, the last first.  The program does not keep this. -/
  indexes : List Nat := []

namespace RetryParam

def excludeChannel (channelId : Int) (p : RetryParam) : RetryParam :=
  { p with excludedChannelIds := channelId :: p.excludedChannelIds }

def increaseRetry (p : RetryParam) : RetryParam :=
  if p.resetNextTry then { p with resetNextTry := false } else { p with retry := p.retry + 1 }

/-- The group index that a selection starts from. -/
def groupIndex (p : RetryParam) : Nat := p.autoGroupIndex.getD 0

/-- The group index is stored. -/
def setGroupIndex (i : Nat) (p : RetryParam) : RetryParam :=
  { p with autoGroupIndex := some i, indexes := i :: p.indexes }

/-- The group at the index has no channel. -/
def passOver (p : RetryParam) : RetryParam :=
  { p.setGroupIndex (p.groupIndex + 1) with retry := 0 }

/-- What the context has of it. -/
def context (p : RetryParam) : RetryParam :=
  { autoGroupIndex := p.autoGroupIndex, autoGroup := p.autoGroup, indexes := p.indexes }

end RetryParam

namespace RelayRequest
variable (r : RelayRequest)

def getUserAutoGroup : List String := r.autoGroups.filter (· ∈ r.usableGroups)

/-- A channel of the group at index `i` is selected. -/
def take (group : String) (i priorityRetry : Nat) (p : RetryParam) : RetryParam :=
  let p := { p with autoGroup := group }
  if r.crossGroupRetry && priorityRetry ≥ r.retryTimes then
    { p.setGroupIndex (i + 1) with retry := 0, resetNextTry := true }
  else p.setGroupIndex i

/-- The loop of `CacheGetRandomSatisfiedChannel` over the groups from index `i` on.  The
result is the channel, `selectGroup` and the parameter. -/
def searchGroups (views : Nat → GroupView) (startGroupIndex : Nat) :
    Nat → List String → Bool → RetryParam → Except SelectError (Option Int) × String × RetryParam
  | _, [], anyGroupSaturated, p =>
      if anyGroupSaturated then (.error .allChannelsSaturated, r.tokenGroup, p)
      else (.ok none, r.tokenGroup, p)
  | i, group :: groups, anyGroupSaturated, p =>
      let priorityRetry := if i > startGroupIndex then 0 else p.retry
      match (views i).getRandomSatisfiedChannel priorityRetry p.excludedChannelIds with
      | .ok (some channelId) => (.ok (some channelId), group, r.take group i priorityRetry p)
      | .ok none =>
          searchGroups views startGroupIndex (i + 1) groups anyGroupSaturated
            { p.setGroupIndex (i + 1) with retry := 0 }
      | .error e =>
          searchGroups views startGroupIndex (i + 1) groups
            (anyGroupSaturated || e = .allChannelsSaturated)
            { p.setGroupIndex (i + 1) with retry := 0 }

/-- `CacheGetRandomSatisfiedChannel`.  A view is of the auto group at its index; the group of
another token has the view 0. -/
def cacheGetRandomSatisfiedChannel (views : Nat → GroupView) (p : RetryParam) :
    Except SelectError (Option Int) × String × RetryParam :=
  if r.tokenGroup = "auto" then
    if r.autoGroups = [] then (.error (.unreadable "auto groups is not enabled"), r.tokenGroup, p)
    else
      r.searchGroups views p.groupIndex p.groupIndex (r.getUserAutoGroup.drop p.groupIndex) false p
  else ((views 0).getRandomSatisfiedChannel p.retry p.excludedChannelIds, r.tokenGroup, p)

end RelayRequest

/-! ## The loop -/

/-- The codes of errors that the loop looks at. -/
inductive RelayErrorCode where
  | channelsSaturated
  | getChannelFailed
  | other (code : String)
deriving DecidableEq, Repr

/-- `NewAPIError`. -/
structure RelayError where
  code : RelayErrorCode
  message : String
deriving DecidableEq, Repr

/-- An attempt: its channel, the auto group of the context and the group that it is priced at. -/
structure RelayAttempt where
  channelId : Int
  autoGroup : String
  usingGroup : String
deriving DecidableEq, Repr

/-- What the distributor meets.  The preferred channel is one that is enabled, not cooling
down and whose slot was taken; the function says for which groups it is enabled. -/
structure Arrival where
  preferred : Option (StoredChannel × (String → Bool)) := none
  views : Nat → GroupView

/-- What the environment does in a turn of the loop. -/
structure Turn where
  views : Nat → GroupView
  /-- The error of `SetupContextForSelectedChannel`. -/
  setupError : Option RelayError := none
  /-- The error of pricing, of the reservation or of the body, before the attempt. -/
  prepareError : Option RelayError := none
  /-- The error of the attempt. -/
  attemptError : Option RelayError := none
  /-- The caller waits and the checks of `shouldRetry` that are not below let pass. -/
  retryable : Bool := true

/-- The state of the loop. -/
structure RelayState where
  param : RetryParam := {}
  /-- `channel_id` of the context, as the distributor left it. -/
  channelId : Int := 0
  /-- `ChannelMeta` is set, by the handler of the first attempt. -/
  channelMeta : Bool := false
  usingGroup : String := ""
  newAPIError : Option RelayError := none
  /-- The attempts that were made.  The program keeps their channels for its log. -/
  attempts : List RelayAttempt := []

/-- `Error` of the error of a selection. -/
def SelectError.error (group modelName : String) : SelectError → String
  | .allChannelsSaturated => "all matching channels are at their concurrency limit"
  | .noChannelFound => s!"no channel found, group: {group}, model: {modelName}"
  | .unreadable message => message

namespace RelayRequest
variable (r : RelayRequest)

/-- The state in which the loop starts. -/
def start (channelId : Int) (p : RetryParam) : RelayState :=
  { param := p, channelId := channelId, usingGroup := ratioGroup p.autoGroup r.tokenGroup }

/-- The group of the preferred channel, empty for a token that is not of the group auto. -/
def affinity (a : Arrival) : Option (Int × String) :=
  match a.preferred with
  | none => none
  | some (preferred, enabled) =>
      if r.tokenGroup = "auto" then (r.getUserAutoGroup.find? enabled).map (preferred.id, ·)
      else if enabled r.tokenGroup then some (preferred.id, "")
      else none

/-- `Distribute`, if it lets the request pass. -/
def distribute (a : Arrival) : Option RelayState :=
  match r.specificChannel with
  | some channel => some (r.start channel.id {})
  | none =>
      match r.affinity a with
      | some (channelId, group) => some (r.start channelId { autoGroup := group })
      | none =>
          match r.cacheGetRandomSatisfiedChannel a.views {} with
          -- its parameter is dropped, what it wrote to the context stays
          | (.ok (some channelId), _, p) => some (r.start channelId p.context)
          | _ => none

def getChannel (t : Turn) (s : RelayState) : Except RelayError Int × RelayState :=
  if s.channelMeta = false then
    (.ok s.channelId,
      if s.channelId > 0 then { s with param := s.param.excludeChannel s.channelId } else s)
  else
    let (channel, selectGroup, p) := r.cacheGetRandomSatisfiedChannel t.views s.param
    let model := r.modelName
    let s := { s with param := p, usingGroup := ratioGroup p.autoGroup s.usingGroup }
    match channel with
    | .error .allChannelsSaturated =>
        (.error ⟨.channelsSaturated, s!"分组 {selectGroup} 下模型 {model} 的渠道均已达到并发上限（retry）"⟩, s)
    | .error e =>
        let message := e.error selectGroup model
        (.error ⟨.getChannelFailed,
          s!"获取分组 {selectGroup} 下模型 {model} 的可用渠道失败（retry）: {message}"⟩, s)
    | .ok none =>
        (.error ⟨.getChannelFailed, s!"分组 {selectGroup} 下模型 {model} 的可用渠道不存在（retry）"⟩, s)
    | .ok (some channelId) =>
        match t.setupError with
        | some e => (.error e, s)
        | none => (.ok channelId, { s with param := s.param.excludeChannel channelId })

/-- An attempt on a channel. -/
def attempt (channelId : Int) (error : Option RelayError) (s : RelayState) : RelayState :=
  { s with
    channelMeta := true
    newAPIError := error
    attempts := s.attempts ++ [⟨channelId, s.param.autoGroup, s.usingGroup⟩] }

/-- A turn of the loop of `Relay`, and whether the loop goes on. -/
def turn (t : Turn) (s : RelayState) : Bool × RelayState :=
  match r.getChannel t s with
  | (.error e, s) =>
      if s.newAPIError = none ∨ e.code ≠ .getChannelFailed then
        (false, { s with newAPIError := some e })
      else (false, s)
  | (.ok channelId, s) =>
      match t.prepareError with
      | some e => (false, { s with newAPIError := some e })
      | none =>
          let s := attempt channelId t.attemptError s
          -- `shouldRetry`
          if t.attemptError ≠ none ∧ t.retryable ∧ s.param.retry < r.retryTimes ∧
              r.specificChannel = none then
            (true, { s with param := s.param.increaseRetry })
          else (false, s)

/-- The loop of `Relay`; `none` if the turns do not suffice. -/
def relay : List Turn → RelayState → Option RelayState
  | [], _ => none
  | t :: ts, s =>
      if s.param.retry > r.retryTimes then some s
      else
        match r.turn t s with
        | (true, s) => relay ts s
        | (false, s) => some s

/-- A request, from the distributor to the end of the loop. -/
def serve (a : Arrival) (turns : List Turn) : Option RelayState :=
  match r.distribute a with
  | none => some {}
  | some s => r.relay turns s

end RelayRequest

/-! ## What a selection does -/

namespace RetryParam
variable {views : Nat → GroupView} {p q : RetryParam}

/-- The index has not decreased. -/
structure Ordered (p : RetryParam) : Prop where
  sorted : p.indexes.Pairwise (· ≥ ·)
  le : ∀ i ∈ p.indexes, i ≤ p.groupIndex

theorem Ordered.setGroupIndex (h : p.Ordered) {i : Nat} (hi : p.groupIndex ≤ i) :
    (p.setGroupIndex i).Ordered := by
  refine ⟨List.pairwise_cons.mpr ⟨fun j hj => (h.le j hj).trans hi, h.sorted⟩, ?_⟩
  intro j hj
  rcases List.mem_cons.mp hj with rfl | hj
  · exact Nat.le_refl _
  · exact (h.le j hj).trans hi

theorem Ordered.increaseRetry (h : p.Ordered) : p.increaseRetry.Ordered := by
  unfold RetryParam.increaseRetry
  split
  all_goals exact ⟨h.sorted, h.le⟩

theorem increaseRetry_of_not_reset (h : p.resetNextTry = false) :
    p.increaseRetry = { p with retry := p.retry + 1 } := if_neg (by simp [h])

@[simp] theorem groupIndex_increaseRetry : p.increaseRetry.groupIndex = p.groupIndex := by
  unfold increaseRetry
  split
  · rfl
  · rfl

@[simp] theorem autoGroup_increaseRetry : p.increaseRetry.autoGroup = p.autoGroup := by
  unfold increaseRetry
  split
  · rfl
  · rfl

@[simp] theorem excludedChannelIds_increaseRetry :
    p.increaseRetry.excludedChannelIds = p.excludedChannelIds := by
  unfold increaseRetry
  split
  · rfl
  · rfl

/-- Groups without a channel are passed over. -/
inductive Passed (views : Nat → GroupView) : RetryParam → RetryParam → Prop
  | refl (p : RetryParam) : Passed views p p
  | next {p q : RetryParam}
      (hnone : (views p.groupIndex).offers p.retry p.excludedChannelIds = false)
      (h : Passed views p.passOver q) : Passed views p q

theorem Passed.eq_or_lt (h : p.Passed views q) :
    q = p ∨ (p.groupIndex < q.groupIndex ∧ q.retry = 0 ∧
      (views p.groupIndex).offers p.retry p.excludedChannelIds = false) := by
  induction h with
  | refl p => exact .inl rfl
  | @next p q hno h ih =>
    have hnext : p.passOver.groupIndex = p.groupIndex + 1 := rfl
    rcases ih with rfl | ⟨hlt, hret, -⟩
    · exact .inr ⟨by omega, rfl, hno⟩
    · exact .inr ⟨by omega, hret, hno⟩

theorem Passed.same (h : p.Passed views q) :
    q.excludedChannelIds = p.excludedChannelIds ∧ q.resetNextTry = p.resetNextTry := by
  induction h with
  | refl p => exact ⟨rfl, rfl⟩
  | next _ _ ih => exact ih

theorem Passed.ordered (h : p.Passed views q) (hp : p.Ordered) : q.Ordered := by
  induction h with
  | refl p => exact hp
  | @next p q _ _ ih =>
    have hset := hp.setGroupIndex (Nat.le_succ p.groupIndex)
    exact ih ⟨hset.sorted, hset.le⟩

end RetryParam

namespace RelayRequest
variable {r : RelayRequest} {views : Nat → GroupView} {p p' : RetryParam}

/-- **What `CacheGetRandomSatisfiedChannel` does** to its parameter. -/
inductive Selects (r : RelayRequest) (views : Nat → GroupView) (p : RetryParam) :
    Except SelectError (Option Int) → RetryParam → Prop
  | plain {channel : Except SelectError (Option Int)} (hgroup : r.tokenGroup ≠ "auto")
      (h : (views 0).getRandomSatisfiedChannel p.retry p.excludedChannelIds = channel) :
      Selects r views p channel p
  | found {q : RetryParam} {group : String} {channelId : Int} (hgroup : r.tokenGroup = "auto")
      (passed : p.Passed views q) (hindex : r.getUserAutoGroup[q.groupIndex]? = some group)
      (h : (views q.groupIndex).getRandomSatisfiedChannel q.retry q.excludedChannelIds =
        .ok (some channelId)) :
      Selects r views p (.ok (some channelId)) (r.take group q.groupIndex q.retry q)
  | missed {q : RetryParam} {channel : Except SelectError (Option Int)}
      (passed : p.Passed views q) (h : ∀ channelId, channel ≠ .ok (some channelId)) :
      Selects r views p channel q

theorem Selects.of_passOver {channel : Except SelectError (Option Int)}
    (h : r.Selects views p.passOver channel p') (hgroup : r.tokenGroup = "auto")
    (hno : (views p.groupIndex).offers p.retry p.excludedChannelIds = false) :
    r.Selects views p channel p' := by
  cases h with
  | plain hpl _ => exact absurd hgroup hpl
  | found _ passed hidx h => exact .found hgroup (.next hno passed) hidx h
  | missed passed h => exact .missed (.next hno passed) h

/-- The loop over the groups, by induction on the groups that are left. -/
theorem searchGroups_selects (hgroup : r.tokenGroup = "auto") {startGroupIndex : Nat}
    {groups : List String} (anyGroupSaturated : Bool)
    (hdr : r.getUserAutoGroup.drop p.groupIndex = groups)
    (hret : p.groupIndex > startGroupIndex → p.retry = 0) (hstr : startGroupIndex ≤ p.groupIndex) :
    let result := r.searchGroups views startGroupIndex p.groupIndex groups anyGroupSaturated p
    r.Selects views p result.1 result.2.2 := by
  induction groups generalizing p anyGroupSaturated with
  | nil =>
    simp only [searchGroups]
    split
    all_goals exact .missed (.refl p) (by simp)
  | cons group groups ih =>
    have hidx : r.getUserAutoGroup[p.groupIndex]? = some group := by
      have h0 : (r.getUserAutoGroup.drop p.groupIndex)[0]? = some group := by rw [hdr]; rfl
      rwa [List.getElem?_drop] at h0
    have hnext : r.getUserAutoGroup.drop (p.groupIndex + 1) = groups := by
      rw [← List.tail_drop, hdr]
      rfl
    -- in a group after the first the counter has been set to zero
    have hpri : (if p.groupIndex > startGroupIndex then 0 else p.retry) = p.retry := by
      split
      · rename_i hlat
        exact (hret hlat).symm
      · rfl
    have hlat (saturated : Bool) :=
      ih (p := p.passOver) saturated hnext (fun _ => rfl) (hstr.trans (Nat.le_succ _))
    simp only [searchGroups, hpri]
    split
    · rename_i channelId hsel
      exact .found hgroup (.refl p) hidx hsel
    · rename_i hsel
      exact (hlat anyGroupSaturated).of_passOver hgroup (by simp [GroupView.offers, hsel])
    · rename_i e hsel
      exact (hlat _).of_passOver hgroup (by simp [GroupView.offers, hsel])

theorem cacheGetRandomSatisfiedChannel_selects (r : RelayRequest) (views : Nat → GroupView)
    (p : RetryParam) : r.Selects views p (r.cacheGetRandomSatisfiedChannel views p).1
      (r.cacheGetRandomSatisfiedChannel views p).2.2 := by
  unfold cacheGetRandomSatisfiedChannel
  split
  · rename_i hgroup
    split
    · exact .missed (.refl p) (by simp)
    exact searchGroups_selects hgroup false rfl (fun h => absurd h (Nat.lt_irrefl _))
      (Nat.le_refl _)
  · rename_i hgroup
    exact .plain hgroup rfl

section Take
variable (r : RelayRequest) (group : String) (p : RetryParam)

/-- The next turn stays in the group of the channel, or leaves it after its last attempt. -/
theorem take_cases {p' : RetryParam} (h : r.take group p.groupIndex p.retry p = p') :
    (p'.groupIndex = p.groupIndex ∧ p'.retry = p.retry ∧ p'.resetNextTry = p.resetNextTry) ∨
      (r.crossGroupRetry = true ∧ r.retryTimes ≤ p.retry ∧
        p'.groupIndex = p.groupIndex + 1 ∧ p'.retry = 0 ∧ p'.resetNextTry = true) := by
  subst h
  unfold take
  split
  · rename_i hla
    simp only [Bool.and_eq_true, decide_eq_true_eq] at hla
    exact .inr ⟨hla.1, hla.2, rfl, rfl, rfl⟩
  · exact .inl ⟨rfl, rfl, rfl⟩

theorem take_same : (r.take group p.groupIndex p.retry p).autoGroup = group ∧
    (r.take group p.groupIndex p.retry p).excludedChannelIds = p.excludedChannelIds := by
  unfold take
  split
  all_goals exact ⟨rfl, rfl⟩

theorem ordered_take {p : RetryParam} (hp : p.Ordered) :
    (r.take group p.groupIndex p.retry p).Ordered := by
  have hnam : ({ p with autoGroup := group } : RetryParam).Ordered := ⟨hp.sorted, hp.le⟩
  unfold take
  split
  · have hset := hnam.setGroupIndex (Nat.le_succ p.groupIndex)
    exact ⟨hset.sorted, hset.le⟩
  · exact hnam.setGroupIndex (Nat.le_refl _)

end Take

theorem Selects.ordered {channel : Except SelectError (Option Int)}
    (h : r.Selects views p channel p') (hp : p.Ordered) : p'.Ordered := by
  cases h with
  | plain _ _ => exact hp
  | missed passed _ => exact passed.ordered hp
  | found _ passed _ _ => exact ordered_take r _ (passed.ordered hp)

theorem Selects.excludedChannelIds {channel : Except SelectError (Option Int)}
    (h : r.Selects views p channel p') : p'.excludedChannelIds = p.excludedChannelIds := by
  cases h with
  | plain _ _ => rfl
  | missed passed _ => exact passed.same.1
  | found _ passed _ _ => exact (r.take_same _ _).2.trans passed.same.1

/-- The channel is a new one. -/
theorem Selects.channel {channelId : Int} (h : r.Selects views p (.ok (some channelId)) p') :
    channelId ∉ p.excludedChannelIds ∧ 0 < channelId := by
  cases h with
  | plain _ h => exact GroupView.getRandomSatisfiedChannel_spec h
  | missed _ h => exact absurd rfl (h channelId)
  | found _ passed _ h =>
    obtain ⟨hnew, hpos⟩ := GroupView.getRandomSatisfiedChannel_spec h
    exact ⟨passed.same.1 ▸ hnew, hpos⟩

/-! ## What a turn does -/

/-- What `getChannel` does after the first turn. -/
inductive Chooses (r : RelayRequest) (views : Nat → GroupView) (s : RelayState) :
    Except RelayError Int → RelayState → Prop
  | failed {e : RelayError} {channel : Except SelectError (Option Int)} {p : RetryParam}
      (h : r.Selects views s.param channel p) :
      Chooses r views s (.error e)
        { s with param := p, usingGroup := ratioGroup p.autoGroup s.usingGroup }
  | chosen {channelId : Int} {p : RetryParam}
      (h : r.Selects views s.param (.ok (some channelId)) p) :
      Chooses r views s (.ok channelId)
        { s with
          param := p.excludeChannel channelId
          usingGroup := ratioGroup p.autoGroup s.usingGroup }

theorem Chooses.ok {s s' : RelayState} {channelId : Int}
    (h : r.Chooses views s (.ok channelId) s') :
    ∃ p, r.Selects views s.param (.ok (some channelId)) p ∧ s'.param = p.excludeChannel channelId ∧
      s'.usingGroup = ratioGroup p.autoGroup s.usingGroup := by
  cases h with
  | chosen hsel => exact ⟨_, hsel, rfl, rfl⟩

theorem Chooses.attempts {s s' : RelayState} {channel : Except RelayError Int}
    (h : r.Chooses views s channel s') : s'.attempts = s.attempts := by
  cases h with
  | failed _ | chosen _ => rfl

theorem getChannel_chooses {t : Turn} {s : RelayState} (hme : s.channelMeta = true) :
    r.Chooses t.views s (r.getChannel t s).1 (r.getChannel t s).2 := by
  have hsel := r.cacheGetRandomSatisfiedChannel_selects t.views s.param
  rw [getChannel, if_neg (by simp [hme])]
  generalize r.cacheGetRandomSatisfiedChannel t.views s.param = selected at hsel ⊢
  obtain ⟨channel, selectGroup, p⟩ := selected
  dsimp only at hsel ⊢
  split
  · exact .failed hsel
  · exact .failed hsel
  · exact .failed hsel
  · split
    · exact .failed hsel
    · exact .chosen hsel

theorem getChannel_first (r : RelayRequest) (t : Turn) {s : RelayState}
    (hme : s.channelMeta = false) (hpos : 0 < s.channelId) :
    ∃ s', r.getChannel t s = (.ok s.channelId, s') ∧
      s'.param = s.param.excludeChannel s.channelId ∧ s'.usingGroup = s.usingGroup ∧
      s'.attempts = s.attempts := by
  refine ⟨{ s with param := s.param.excludeChannel s.channelId }, ?_, rfl, rfl, rfl⟩
  rw [getChannel, if_pos hme, if_pos hpos]

/-- **What a turn does**: no attempt and the end, or an attempt and then the end or the next
turn. -/
theorem turn_cases (r : RelayRequest) (t : Turn) (s : RelayState) :
    (∃ error, r.turn t s = (false, { (r.getChannel t s).2 with newAPIError := error })) ∨
      ∃ channelId s', r.getChannel t s = (.ok channelId, s') ∧
        (r.turn t s = (false, attempt channelId t.attemptError s') ∨
          (r.specificChannel = none ∧ s'.param.retry < r.retryTimes ∧
            r.turn t s = (true, { attempt channelId t.attemptError s' with
              param := s'.param.increaseRetry }))) := by
  unfold turn
  rcases hget : r.getChannel t s with ⟨e | channelId, s'⟩
  · refine .inl ?_
    dsimp only
    split
    · exact ⟨some e, rfl⟩
    · exact ⟨s'.newAPIError, rfl⟩
  · dsimp only
    split
    · rename_i e _
      exact .inl ⟨some e, rfl⟩
    refine .inr ⟨channelId, s', rfl, ?_⟩
    split
    · rename_i hret
      exact .inr ⟨hret.2.2.2, hret.2.2.1, rfl⟩
    · exact .inl rfl

theorem length_attempt (channelId : Int) (error : Option RelayError) (s : RelayState) :
    (attempt channelId error s).attempts.length = s.attempts.length + 1 := by
  rw [attempt, List.length_append, List.length_singleton]

end RelayRequest

end NewApi
