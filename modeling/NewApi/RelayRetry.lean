import NewApi.RelayLoop

/-! # The retry loop ends

The counter of the loop does not show that it ends, since a selection may set it back.  What
does is the number of attempts that the groups from the index on allow, less those that the
counter has counted in the first of them (`RelayRequest.budget`): every turn that goes on
takes at least one away. -/
namespace NewApi
namespace RelayRequest
open List RetryParam
variable {r : RelayRequest} {views : Nat → GroupView} {p p' : RetryParam}

/-! ## The budget -/

/-- The bound on the attempts. -/
def attemptLimit (r : RelayRequest) : Nat :=
  if r.tokenGroup = "auto" then (r.retryTimes + 1) * r.getUserAutoGroup.length
  else r.retryTimes + 1

/-- The attempts that are left. -/
def budget (r : RelayRequest) (p : RetryParam) : Nat :=
  if r.tokenGroup = "auto" then
    (r.retryTimes + 1) * (r.getUserAutoGroup.length - p.groupIndex) - p.retry
  else r.retryTimes + 1 - p.retry

/-- The parameter at the start of a turn. -/
structure Ready (r : RelayRequest) (p : RetryParam) : Prop where
  resetNextTry : p.resetNextTry = false
  retry_le : p.retry ≤ r.retryTimes

variable {channelId : Int}

/-- **A selection is paid for**: there is an attempt left, and if the loop goes on after it
there is one less. -/
theorem Selects.budget_lt (h : r.Selects views p (.ok (some channelId)) p') (hp : r.Ready p) :
    1 ≤ r.budget p ∧ (p'.retry < r.retryTimes →
      r.Ready p'.increaseRetry ∧ r.budget p'.increaseRetry + 1 ≤ r.budget p) := by
  have hle := hp.retry_le
  unfold budget
  cases h with
  | plain hgroup _ =>
    rw [if_neg hgroup, if_neg hgroup]
    refine ⟨by omega, fun hlt => ?_⟩
    rw [increaseRetry_of_not_reset hp.resetNextTry]
    exact ⟨⟨hp.resetNextTry, hlt⟩, by dsimp only; omega⟩
  | missed _ h => exact absurd rfl (h channelId)
  | @found q group _ hgroup passed hidx _ =>
    rw [if_pos hgroup, if_pos hgroup]
    obtain ⟨hq, -⟩ := List.getElem?_eq_some_iff.mp hidx
    obtain ⟨-, hres⟩ := passed.same
    rw [hp.resetNextTry] at hres
    -- the groups from that of the channel on
    obtain ⟨k, hk⟩ : ∃ k, r.getUserAutoGroup.length - q.groupIndex = k + 1 :=
      ⟨r.getUserAutoGroup.length - q.groupIndex - 1, by omega⟩
    have hk' : r.getUserAutoGroup.length - (q.groupIndex + 1) = k := by omega
    have hgr : (r.retryTimes + 1) * (k + 1) = (r.retryTimes + 1) * k + (r.retryTimes + 1) :=
      Nat.mul_succ _ _
    -- what is left at the start, with the counter of the group of the channel
    have hstr : (r.retryTimes + 1) * (k + 1) - q.retry ≤
        (r.retryTimes + 1) * (r.getUserAutoGroup.length - p.groupIndex) - p.retry := by
      rcases passed.eq_or_lt with rfl | ⟨hlt, hret, -⟩
      · rw [hk]
      have hmo : (r.retryTimes + 1) * (k + 1 + 1) ≤
          (r.retryTimes + 1) * (r.getUserAutoGroup.length - p.groupIndex) :=
        Nat.mul_le_mul_left _ (by omega)
      rw [Nat.mul_succ] at hmo
      omega
    have hqle : q.retry ≤ r.retryTimes := by
      rcases passed.eq_or_lt with rfl | ⟨-, hret, -⟩
      · exact hle
      · omega
    refine ⟨by omega, ?_⟩
    generalize hta : r.take group q.groupIndex q.retry q = p'
    rw [groupIndex_increaseRetry]
    rcases r.take_cases group q hta with
      ⟨hidx', hret', hres'⟩ | ⟨-, hla, hidx', hret', hres'⟩
    · intro hlt
      rw [increaseRetry_of_not_reset (hres'.trans hres), hidx', hk]
      refine ⟨⟨hres'.trans hres, hlt⟩, ?_⟩
      dsimp only
      omega
    · intro _
      rw [RetryParam.increaseRetry, if_pos hres', hidx', hk']
      refine ⟨⟨rfl, hret'.trans_le (Nat.zero_le _)⟩, ?_⟩
      omega

/-! ## Turns -/

/-- The channels of the attempts differ and are excluded, the index has not decreased. -/
structure Tried (s : RelayState) : Prop where
  nodup : (s.attempts.map RelayAttempt.channelId).Nodup
  excluded : ∀ a ∈ s.attempts, a.channelId ∈ s.param.excludedChannelIds
  ordered : s.param.Ordered

variable {s s' : RelayState}

theorem Tried.attempt (h : Tried s)
    (hnew : channelId ∉ s.param.excludedChannelIds) (hatt : s'.attempts = s.attempts)
    (hexc : s'.param.excludedChannelIds = channelId :: s.param.excludedChannelIds)
    (hord : s'.param.Ordered) (error : Option RelayError) : Tried (attempt channelId error s') := by
  rw [RelayRequest.attempt, hatt]
  refine ⟨?_, ?_, hord⟩
  · rw [map_append, map_singleton]
    refine nodup_append.mpr ⟨h.nodup, nodup_singleton _, ?_⟩
    rintro id hid _ hmem rfl
    obtain ⟨a, ha, rfl⟩ := mem_map.mp hid
    have heq : a.channelId = channelId := mem_singleton.mp hmem
    exact hnew (heq ▸ h.excluded a ha)
  · intro a ha
    rw [hexc]
    rcases mem_append.mp ha with ha | ha
    · exact mem_cons_of_mem _ (h.excluded a ha)
    rw [mem_singleton.mp ha]
    exact mem_cons_self

variable {s : RelayState}

theorem Tried.increaseRetry (h : Tried s) : Tried { s with param := s.param.increaseRetry } := by
  refine ⟨h.nodup, ?_, h.ordered.increaseRetry⟩
  intro a ha
  rw [excludedChannelIds_increaseRetry]
  exact h.excluded a ha

theorem Tried.of_attempts (h : Tried s) (hatt : s'.attempts = s.attempts)
    (hsub : s.param.excludedChannelIds ⊆ s'.param.excludedChannelIds)
    (hord : s'.param.Ordered) : Tried s' := by
  refine ⟨?_, ?_, hord⟩
  · rw [hatt]
    exact h.nodup
  · rw [hatt]
    exact fun a ha => hsub (h.excluded a ha)

theorem Chooses.tried {channel : Except RelayError Int}
    (h : r.Chooses views s channel s') (hs : Tried s) : Tried s' := by
  cases h with
  | failed hsel =>
    refine hs.of_attempts rfl ?_ (hsel.ordered hs.ordered)
    exact fun id hid => hsel.excludedChannelIds ▸ hid
  | chosen hsel =>
    have hord := hsel.ordered hs.ordered
    refine hs.of_attempts rfl ?_ ⟨hord.sorted, hord.le⟩
    exact fun id hid => mem_cons_of_mem _ (hsel.excludedChannelIds ▸ hid)

/-- A turn that has a channel, which it excludes from the parameter `q` that the selection
left: there may be no attempt, or one after which the loop ends or goes on. -/
theorem Tried.turn {s s₁ : RelayState} {t : Turn} {q : RetryParam}
    (h : Tried s) (hget : r.getChannel t s = (.ok channelId, s₁))
    (hpar : s₁.param = q.excludeChannel channelId) (hat : s₁.attempts = s.attempts)
    (hnew : channelId ∉ s.param.excludedChannelIds)
    (hexc : q.excludedChannelIds = s.param.excludedChannelIds) (hord : q.Ordered) :
    (∃ s', r.turn t s = (false, s') ∧ Tried s' ∧ s'.attempts.length ≤ s.attempts.length + 1) ∨
      ∃ s', r.turn t s = (true, s') ∧ Tried s' ∧ s'.channelMeta = true ∧
        s'.attempts.length = s.attempts.length + 1 ∧
        s'.param = q.increaseRetry.excludeChannel channelId ∧
        q.retry < r.retryTimes ∧ r.specificChannel = none := by
  have hexc₁ : s₁.param.excludedChannelIds = channelId :: s.param.excludedChannelIds := by
    rw [hpar, ← hexc]
    rfl
  have hord₁ : s₁.param.Ordered := by
    rw [hpar]
    exact ⟨hord.sorted, hord.le⟩
  rcases r.turn_cases t s with ⟨error, htn⟩ | ⟨id, s₂, hget', htn⟩
  · rw [hget] at htn
    refine .inl ⟨_, htn, h.of_attempts hat ?_ hord₁, ?_⟩
    · rw [hexc₁]
      exact subset_cons_self _ _
    · rw [hat]
      exact Nat.le_succ _
  · rw [hget] at hget'
    cases hget'
    have hatt := h.attempt hnew hat hexc₁ hord₁ t.attemptError
    have hlen := length_attempt channelId t.attemptError s₁
    rw [hat] at hlen
    rcases htn with htn | ⟨hfr, hlt, htn⟩
    · exact .inl ⟨_, htn, hatt, hlen.le⟩
    rw [hpar] at hlt
    refine .inr ⟨_, htn, hatt.increaseRetry, rfl, hlen, ?_, hlt, hfr⟩
    rw [hpar]
    unfold RetryParam.increaseRetry RetryParam.excludeChannel
    split <;> rfl

/-- The loop goes on after the first turn. -/
structure Going (r : RelayRequest) (s : RelayState) : Prop extends Tried s where
  channelMeta : s.channelMeta = true
  ready : r.Ready s.param

/-- **A turn after the first** makes an attempt for which the budget pays. -/
theorem Going.turn (h : r.Going s) (t : Turn) : (∃ s', r.turn t s = (false, s') ∧ Tried s' ∧
        s'.attempts.length ≤ s.attempts.length + r.budget s.param) ∨
      ∃ s', r.turn t s = (true, s') ∧ r.Going s' ∧ s'.attempts.length = s.attempts.length + 1 ∧
        r.budget s'.param + 1 ≤ r.budget s.param := by
  have hcho : r.Chooses t.views s (r.getChannel t s).1 (r.getChannel t s).2 :=
    getChannel_chooses h.channelMeta
  have htri := hcho.tried h.toTried
  have hatt := hcho.attempts
  rcases r.turn_cases t s with ⟨error, htn⟩ | ⟨channelId, s₁, hget, -⟩
  · refine .inl ⟨_, htn, { htri with }, ?_⟩
    rw [hatt]
    exact Nat.le_add_right _ _
  · rw [hget] at hcho hatt
    obtain ⟨p, hsel, hpar, -⟩ := hcho.ok
    obtain ⟨hpa, hgo⟩ := hsel.budget_lt h.ready
    rcases h.toTried.turn hget hpar hatt hsel.channel.1 hsel.excludedChannelIds
        (hsel.ordered h.ordered) with
      ⟨s', htn, htri', hlen⟩ | ⟨s', htn, htri', hme, hlen, hpar', hlt, -⟩
    · exact .inl ⟨s', htn, htri', by omega⟩
    obtain ⟨hready, hbud⟩ := hgo hlt
    refine .inr ⟨s', htn, ⟨htri', hme, ?_⟩, hlen, ?_⟩
    · rw [hpar']
      exact ⟨hready.resetNextTry, hready.retry_le⟩
    · rw [hpar']
      exact hbud

/-- **The loop ends** when the budget is used up, at the latest. -/
theorem Going.relay (h : r.Going s) {turns : List Turn} (htur : r.budget s.param < turns.length) :
    ∃ s', r.relay turns s = some s' ∧ Tried s' ∧
      s'.attempts.length ≤ s.attempts.length + r.budget s.param := by
  induction turns generalizing s with
  | nil => exact absurd htur (Nat.not_lt_zero _)
  | cons t turns ih =>
    rw [RelayRequest.relay, if_neg (Nat.not_lt.mpr h.ready.retry_le)]
    rw [length_cons] at htur
    rcases h.turn t with ⟨s', htn, htri, hlen⟩ | ⟨s', htn, hgoi, hlen, hbud⟩
    · rw [htn]
      exact ⟨s', rfl, htri, hlen⟩
    · rw [htn]
      obtain ⟨s'', hrel, htri, hlen'⟩ := ih hgoi (by omega)
      exact ⟨s'', hrel, htri, by omega⟩

/-! ## The first turn -/

/-- What the distributor leaves. -/
structure Opened (r : RelayRequest) (s : RelayState) : Prop where
  channelMeta : s.channelMeta = false
  channelId_pos : 0 < s.channelId
  attempts : s.attempts = []
  retry : s.param.retry = 0
  resetNextTry : s.param.resetNextTry = false
  excluded : s.param.excludedChannelIds = []
  ordered : s.param.Ordered
  usingGroup : s.usingGroup = ratioGroup s.param.autoGroup r.tokenGroup
  /-- A group has served, and it is not the last one if its only attempt was the first. -/
  groups : r.specificChannel = none → r.tokenGroup = "auto" →
    0 < r.getUserAutoGroup.length ∧
      (0 < r.retryTimes → s.param.groupIndex < r.getUserAutoGroup.length)

theorem ordered_empty : ({} : RetryParam).Ordered := ⟨.nil, fun _ h => absurd h not_mem_nil⟩

/-- The index after the selection of the distributor. -/
theorem Selects.groups (h : r.Selects views {} (.ok (some channelId)) p')
    (hgroup : r.tokenGroup = "auto") : 0 < r.getUserAutoGroup.length ∧
      (0 < r.retryTimes → p'.groupIndex < r.getUserAutoGroup.length) := by
  cases h with
  | plain hpl _ => exact absurd hgroup hpl
  | missed _ h => exact absurd rfl (h channelId)
  | @found q group _ _ passed hidx _ =>
    obtain ⟨hlt, -⟩ := List.getElem?_eq_some_iff.mp hidx
    have hret : q.retry = 0 := by
      rcases passed.eq_or_lt with rfl | ⟨-, hret, -⟩
      · rfl
      · exact hret
    refine ⟨by omega, fun hpos => ?_⟩
    rcases r.take_cases group q rfl with ⟨hsm, -, -⟩ | ⟨-, hla, -⟩
    · exact hsm.trans_lt hlt
    · omega

theorem affinity_spec {a : Arrival} {group : String} (h : r.affinity a = some (channelId, group)) :
    0 < channelId ∧ (r.tokenGroup = "auto" → group ∈ r.getUserAutoGroup) := by
  unfold affinity at h
  split at h
  · cases h
  rename_i preferred enabled _
  split at h
  · obtain ⟨g, hfd, heq⟩ := Option.map_eq_some_iff.mp h
    cases heq
    exact ⟨preferred.pos, fun _ => mem_of_find?_eq_some hfd⟩
  · rename_i hpl
    split at h
    · cases h
      exact ⟨preferred.pos, fun hgroup => absurd hgroup hpl⟩
    · cases h

theorem distribute_opened {a : Arrival} (h : r.distribute a = some s) : r.Opened s := by
  unfold distribute at h
  split at h
  · rename_i channel hpin
    cases h
    exact ⟨rfl, channel.pos, rfl, rfl, rfl, rfl, ordered_empty, rfl,
      fun hfr => absurd (hpin.symm.trans hfr) (by simp)⟩
  · split at h
    · rename_i channelId group haff
      cases h
      obtain ⟨hpos, hmem⟩ := affinity_spec haff
      refine ⟨rfl, hpos, rfl, rfl, rfl, rfl, ⟨.nil, fun _ h => absurd h not_mem_nil⟩, rfl, ?_⟩
      intro _ hgroup
      have hlt := length_pos_of_mem (hmem hgroup)
      exact ⟨hlt, fun _ => hlt⟩
    · split at h
      · rename_i channelId selectGroup p hsel
        cases h
        have hsl := r.cacheGetRandomSatisfiedChannel_selects a.views {}
        rw [hsel] at hsl
        have hord := hsl.ordered ordered_empty
        exact ⟨rfl, hsl.channel.2, rfl, rfl, rfl, rfl, ⟨hord.sorted, hord.le⟩,
          rfl, fun _ hgroup => hsl.groups hgroup⟩
      · cases h

section
variable (h : r.Opened s)
include h

theorem Opened.tried : Tried s := by
  refine ⟨?_, ?_, h.ordered⟩
  · rw [h.attempts]
    exact nodup_nil
  · rw [h.attempts]
    exact fun _ ha => absurd ha not_mem_nil

/-- The budget after the first attempt. -/
theorem Opened.budget (hfr : r.specificChannel = none)
    (hlt : s.param.retry < r.retryTimes) : r.budget s.param.increaseRetry + 1 ≤ r.attemptLimit := by
  unfold RelayRequest.budget attemptLimit
  rw [groupIndex_increaseRetry, increaseRetry_of_not_reset h.resetNextTry]
  dsimp only
  split
  · rename_i hgroup
    obtain ⟨-, hidx⟩ := h.groups hfr hgroup
    have hpos : 1 * 1 ≤ (r.retryTimes + 1) * (r.getUserAutoGroup.length - s.param.groupIndex) :=
      Nat.mul_le_mul (by omega) (by have := hidx (by omega); omega)
    have hle : (r.retryTimes + 1) * (r.getUserAutoGroup.length - s.param.groupIndex) ≤
        (r.retryTimes + 1) * r.getUserAutoGroup.length := Nat.mul_le_mul_left _ (Nat.sub_le _ _)
    omega
  · omega

/-- The first turn: an attempt, unless it cannot be prepared. -/
theorem Opened.turn (t : Turn) :
    (∃ s', r.turn t s = (false, s') ∧ Tried s' ∧ s'.attempts.length ≤ 1) ∨
      ∃ s', r.turn t s = (true, s') ∧ r.Going s' ∧ s'.attempts.length = 1 ∧
        r.specificChannel = none ∧ r.budget s'.param + 1 ≤ r.attemptLimit := by
  obtain ⟨s₁, hget, hpar, -, hatt⟩ := r.getChannel_first t h.channelMeta h.channelId_pos
  have hnew : s.channelId ∉ s.param.excludedChannelIds := by
    rw [h.excluded]
    exact not_mem_nil
  have hno : s.attempts.length = 0 := congrArg List.length h.attempts
  rcases h.tried.turn hget hpar hatt hnew rfl h.ordered with
    ⟨s', htn, htri, hlen⟩ | ⟨s', htn, htri, hme, hlen, hpar', hlt, hfr⟩
  · exact .inl ⟨s', htn, htri, by omega⟩
  refine .inr ⟨s', htn, ⟨htri, hme, ?_⟩, by omega, hfr, ?_⟩
  · rw [hpar', increaseRetry_of_not_reset h.resetNextTry]
    exact ⟨h.resetNextTry, hlt⟩
  · rw [hpar']
    exact h.budget hfr hlt

theorem Opened.attemptLimit_pos (hfr : r.specificChannel = none) : 1 ≤ r.attemptLimit := by
  unfold attemptLimit
  split
  · rename_i hgroup
    exact Nat.mul_pos (Nat.succ_pos _) (h.groups hfr hgroup).1
  · exact Nat.succ_pos _

/-- The loop, from the distributor on. -/
theorem Opened.relay {turns : List Turn} (htur : r.attemptLimit < turns.length) :
    ∃ s', r.relay turns s = some s' ∧ Tried s' ∧
      (r.specificChannel = none → s'.attempts.length ≤ r.attemptLimit) ∧
      (r.specificChannel ≠ none → s'.attempts.length ≤ 1) := by
  cases turns with
  | nil => exact absurd htur (Nat.not_lt_zero _)
  | cons t turns =>
    have hret := h.retry
    rw [RelayRequest.relay, if_neg (by omega)]
    rw [length_cons] at htur
    rcases h.turn t with
      ⟨s', htn, htri, hlen⟩ | ⟨s', htn, hgoi, hlen, hfr, hbud⟩
    · rw [htn]
      exact ⟨s', rfl, htri, fun hfr => hlen.trans (h.attemptLimit_pos hfr), fun _ => hlen⟩
    · rw [htn]
      have hlf : r.budget s'.param < turns.length := by omega
      obtain ⟨s'', hrel, htri, hlen'⟩ := hgoi.relay hlf
      exact ⟨s'', hrel, htri, fun _ => by omega, fun hpin => absurd hfr hpin⟩

end

/-- **The retry loop is bounded and never repeats a channel.**  With one turn more than the
bound the loop has ended.  It has made at most `RetryTimes + 1` attempts, for each of the auto
groups if the token is of the group auto; a token that names its channel makes one.  No
channel was attempted twice and the group index did not decrease. -/
theorem retry_loop_bounded (r : RelayRequest) (a : Arrival) (turns : List Turn)
    (hturns : r.attemptLimit < turns.length) :
    ∃ s, r.serve a turns = some s ∧
      (r.specificChannel = none →
        (r.tokenGroup ≠ "auto" → s.attempts.length ≤ r.retryTimes + 1) ∧
        (r.tokenGroup = "auto" →
          s.attempts.length ≤ (r.retryTimes + 1) * r.getUserAutoGroup.length)) ∧
      (r.specificChannel ≠ none → s.attempts.length ≤ 1) ∧
      (s.attempts.map RelayAttempt.channelId).Nodup ∧ s.param.indexes.Pairwise (· ≥ ·) := by
  unfold serve
  cases hop : r.distribute a with
  | none =>
    -- the distributor refuses the request, no attempt is made
    refine ⟨{}, rfl, fun _ => ⟨fun _ => Nat.zero_le _, fun _ => Nat.zero_le _⟩,
      fun _ => Nat.zero_le _, nodup_nil, .nil⟩
  | some s =>
    obtain ⟨s', hrel, htri, hfr, hpin⟩ := (distribute_opened hop).relay hturns
    refine ⟨s', hrel, fun h => ⟨fun hgroup => ?_, fun hgroup => ?_⟩, hpin, htri.nodup,
      htri.ordered.sorted⟩
    · have hle := hfr h
      rwa [attemptLimit, if_neg hgroup] at hle
    · have hle := hfr h
      rwa [attemptLimit, if_pos hgroup] at hle

/-! ### A request that uses all of its attempts -/

/-- A channel without a cap. -/
def openChannel (channelId : Int) : ChannelCandidate := ⟨channelId, 0, 0, 0, false⟩

/-- A group with such channels. -/
def openView (channelIds : List Int) (h : RowIds (channelIds.map openChannel)) : GroupView where
  candidates := .ok ⟨channelIds.map openChannel, h⟩

/-- A turn whose attempt fails. -/
def failedTurn (views : Nat → GroupView) : Turn where
  views := views
  attemptError := some ⟨.other "bad_response_status_code", "bad response status code 500"⟩

/-- Channels 1 and 2 are in the first group, 3 and 4 in the others. -/
def fourChannels : Nat → GroupView
  | 0 => openView [1, 2] ⟨by decide, by decide⟩
  | _ => openView [3, 4] ⟨by decide, by decide⟩

/-- A request of a token of two auto groups, with one retry. -/
def twoGroups (crossGroupRetry : Bool) : RelayRequest where
  tokenGroup := "auto"
  modelName := "gpt-4o"
  autoGroups := ["a", "b"]
  usableGroups := ["a", "b"]
  crossGroupRetry := crossGroupRetry
  specificChannel := none
  retryTimes := 1

/-- All attempts fail. -/
def allFail : List Turn := .replicate 5 (failedTurn fourChannels)

theorem retry_loop_bounded_cross :
    ∃ s, (twoGroups true).serve { views := fourChannels } allFail = some s ∧
      s.attempts.map RelayAttempt.channelId = [1, 2, 3, 4] ∧
      s.attempts.length ≤ (1 + 1) * 2 ∧ s.param.indexes.Pairwise (· ≥ ·) := by
  obtain ⟨s, hser, hfr, -, -, hind⟩ :=
    retry_loop_bounded (twoGroups true) { views := fourChannels } allFail (by decide)
  have hview : ((twoGroups true).serve { views := fourChannels } allFail).map
      (fun s => s.attempts.map RelayAttempt.channelId) = some [1, 2, 3, 4] := by
    decide +kernel
  rw [hser] at hview
  exact ⟨s, hser, Option.some.inj hview, (hfr rfl).2 rfl, hind⟩

/-- A request of a token that names channel 1, when there are no auto groups. -/
def pinnedRequest : RelayRequest where
  tokenGroup := "auto"
  modelName := "gpt-4o"
  autoGroups := []
  usableGroups := ["auto"]
  crossGroupRetry := false
  specificChannel := some { id := 1, pos := by decide }
  retryTimes := 1

/-- It makes an attempt, which is more than the groups allow. -/
theorem pinned_attempt_without_groups :
    ∃ s, pinnedRequest.serve { views := fourChannels } [failedTurn fourChannels] = some s ∧
      (pinnedRequest.retryTimes + 1) * pinnedRequest.getUserAutoGroup.length <
        s.attempts.length :=
  ⟨_, rfl, by decide⟩

end RelayRequest

end NewApi
