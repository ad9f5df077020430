import NewApi.RelayRetry

/-! # Retries and the group of a request

The loop over the groups serves the search for a first group and the retries.  Cross-group
retry only decides what happens when the attempts of a group are used up; a group without a
channel is passed over in any case.  So a request without cross-group retry leaves its group
when the group has no channel left and a later one has (`retry_leaves_group`).  Otherwise it
stays in the group (`retries_stay_in_group`), provided that the index in the context is that
of the group: a preferred channel stores none, and the retries start at the first group. -/
namespace NewApi
namespace RelayRequest
variable {r : RelayRequest} {p' : RetryParam}

/-- A retry finds a channel in the group at the index, or in none of the groups after it. -/
def groupServes (r : RelayRequest) (t : Turn) (s : RelayState) : Bool :=
  !s.channelMeta ||
    (t.views s.param.groupIndex).offers s.param.retry s.param.excludedChannelIds ||
    (List.range r.getUserAutoGroup.length).all fun i =>
      i ≤ s.param.groupIndex || !(t.views i).offers 0 s.param.excludedChannelIds

/-- So does every retry of the loop. -/
def groupLasts (r : RelayRequest) : List Turn → RelayState → Bool
  | [], _ => true
  | t :: turns, s =>
      r.groupServes t s &&
        match r.turn t s with
        | (true, s) => groupLasts r turns s
        | (false, _) => true

/-- Without cross-group retry, such a selection does not leave the group. -/
theorem Selects.same_group {s : RelayState} {t : Turn} {channelId : Int} {group : String}
    (h : r.Selects t.views s.param (.ok (some channelId)) p') (hgroup : r.tokenGroup = "auto")
    (hcro : r.crossGroupRetry = false) (hme : s.channelMeta = true)
    (hser : r.groupServes t s = true)
    (hidx : r.getUserAutoGroup[s.param.groupIndex]? = some group) :
    p'.autoGroup = group ∧ p'.groupIndex = s.param.groupIndex := by
  cases h with
  | plain hpl _ => exact absurd hgroup hpl
  | missed _ h => exact absurd rfl (h channelId)
  | @found q g _ _ passed hind hsel =>
    have hsm : q = s.param := by
      rcases passed.eq_or_lt with hq | ⟨hlt, hret, hnon⟩
      · exact hq
      -- the group was passed over, so no group after it has a channel
      exfalso
      simp only [groupServes, hme, hnon, Bool.not_true, Bool.false_or, List.all_eq_true,
        List.mem_range, Bool.or_eq_true, decide_eq_true_eq, Bool.not_eq_true'] at hser
      obtain ⟨hq, -⟩ := List.getElem?_eq_some_iff.mp hind
      have hoff := GroupView.offers_of_ok hsel
      rw [hret, passed.same.1] at hoff
      rcases hser q.groupIndex hq with hle | hno
      · omega
      rw [hoff] at hno
      cases hno
    subst hsm
    rw [hidx] at hind
    cases hind
    refine ⟨(r.take_same _ _).1, ?_⟩
    rcases r.take_cases group s.param rfl with ⟨hsm, -, -⟩ | ⟨hon, -⟩
    · exact hsm
    rw [hcro] at hon
    cases hon

/-- An attempt in the group, priced at the group of the first one. -/
def InGroup (group usingGroup : String) (a : RelayAttempt) : Prop :=
  a.autoGroup = group ∧ a.usingGroup = usingGroup

/-- The loop is in the group. -/
structure Stays (r : RelayRequest) (group usingGroup : String) (s : RelayState) : Prop where
  index : r.getUserAutoGroup[s.param.groupIndex]? = some group
  autoGroup : s.param.autoGroup = group
  usingGroup_eq : s.usingGroup = usingGroup
  channelMeta : s.channelMeta = true ∨ 0 < s.channelId
  attempts : ∀ a ∈ s.attempts, InGroup group usingGroup a

section Stays
variable {group usingGroup : String} {s s' : RelayState} {t : Turn}

section
variable (h : r.Stays group usingGroup s)
include h

theorem Stays.getChannel (hgroup : r.tokenGroup = "auto")
    (hcro : r.crossGroupRetry = false) (hrat : ratioGroup group usingGroup = usingGroup)
    (hser : r.groupServes t s = true) {channelId : Int}
    (hget : r.getChannel t s = (.ok channelId, s')) :
    s'.param.groupIndex = s.param.groupIndex ∧ s'.param.autoGroup = group ∧
      s'.usingGroup = usingGroup ∧ s'.attempts = s.attempts := by
  cases hme : s.channelMeta with
  | false =>
    have hpos : 0 < s.channelId := h.channelMeta.resolve_left (by simp [hme])
    obtain ⟨s₁, hfst, hpar, husi, hatt⟩ := r.getChannel_first t hme hpos
    rw [hget] at hfst
    cases hfst
    rw [hpar, husi]
    exact ⟨rfl, h.autoGroup, h.usingGroup_eq, hatt⟩
  | true =>
    have hcho : r.Chooses t.views s (r.getChannel t s).1 (r.getChannel t s).2 :=
      getChannel_chooses hme
    rw [hget] at hcho
    obtain ⟨p, hsel, hpar, husi⟩ := hcho.ok
    obtain ⟨hau, hidx⟩ := hsel.same_group hgroup hcro hme hser h.index
    rw [hau, h.usingGroup_eq, hrat] at husi
    rw [hpar]
    exact ⟨hidx, hau, husi, hcho.attempts⟩

theorem attempts_getChannel : (r.getChannel t s).2.attempts = s.attempts := by
  cases hme : s.channelMeta with
  | false =>
    have hpos : 0 < s.channelId := h.channelMeta.resolve_left (by simp [hme])
    obtain ⟨s₁, hfst, -, -, hatt⟩ := r.getChannel_first t hme hpos
    rw [hfst]
    exact hatt
  | true => exact (getChannel_chooses hme).attempts

theorem Stays.turn (hgroup : r.tokenGroup = "auto")
    (hcro : r.crossGroupRetry = false) (hrat : ratioGroup group usingGroup = usingGroup)
    (hser : r.groupServes t s = true) :
    (∀ a ∈ (r.turn t s).2.attempts, InGroup group usingGroup a) ∧
      ((r.turn t s).1 = true → r.Stays group usingGroup (r.turn t s).2) := by
  rcases r.turn_cases t s with ⟨error, htn⟩ | ⟨channelId, s₁, hget, htn⟩
  · rw [htn]
    refine ⟨?_, fun hno => by cases hno⟩
    rw [attempts_getChannel h]
    exact h.attempts
  · obtain ⟨hidx, hau, husi, hatt⟩ := h.getChannel hgroup hcro hrat hser hget
    have hall : ∀ a ∈ (attempt channelId t.attemptError s₁).attempts,
        InGroup group usingGroup a := by
      intro a ha
      rw [attempt, hatt] at ha
      rcases List.mem_append.mp ha with ha | ha
      · exact h.attempts a ha
      rw [List.mem_singleton.mp ha]
      exact ⟨hau, husi⟩
    rcases htn with htn | ⟨-, -, htn⟩
    · rw [htn]
      exact ⟨hall, fun hno => by cases hno⟩
    rw [htn]
    refine ⟨hall, fun _ => ⟨?_, ?_, husi, .inl rfl, hall⟩⟩
    · rw [RetryParam.groupIndex_increaseRetry, hidx]
      exact h.index
    · rw [RetryParam.autoGroup_increaseRetry]
      exact hau

/-- So does the loop. -/
theorem Stays.relay (hgroup : r.tokenGroup = "auto")
    (hcro : r.crossGroupRetry = false) (hrat : ratioGroup group usingGroup = usingGroup)
    {turns : List Turn} (hlas : r.groupLasts turns s = true)
    (hrel : r.relay turns s = some s') : ∀ a ∈ s'.attempts, InGroup group usingGroup a := by
  induction turns generalizing s with
  | nil => cases hrel
  | cons t turns ih =>
    unfold RelayRequest.relay at hrel
    obtain ⟨hser, hlas⟩ := Bool.and_eq_true_iff.mp hlas
    obtain ⟨hatt, hgo⟩ := h.turn hgroup hcro hrat hser
    split at hrel
    · cases hrel
      exact h.attempts
    rcases htn : r.turn t s with ⟨go | go, s₁⟩
    · rw [htn] at hrel hatt
      cases hrel
      exact hatt
    · rw [htn] at hrel hlas hgo
      exact ih (hgo rfl) hlas hrel

end

end Stays

/-- The index in the context is that of the group of the first attempt, unless the channel is
a preferred one of another group than the first: for these no index is stored. -/
theorem distribute_index {a : Arrival} (hgroup : r.tokenGroup = "auto")
    (hcro : r.crossGroupRetry = false) (hfr : r.specificChannel = none)
    (haff : ∀ channelId group, r.affinity a = some (channelId, group) →
      r.getUserAutoGroup[0]? = some group) {s : RelayState} (hop : r.distribute a = some s) :
    r.getUserAutoGroup[s.param.groupIndex]? = some s.param.autoGroup := by
  rw [distribute, hfr] at hop
  dsimp only at hop
  split at hop
  · rename_i channelId group hpre
    cases hop
    exact haff channelId group hpre
  · split at hop
    · rename_i channelId selectGroup p hsel
      cases hop
      have hsl := r.cacheGetRandomSatisfiedChannel_selects a.views {}
      rw [hsel] at hsl
      dsimp only at hsl
      show r.getUserAutoGroup[p.groupIndex]? = some p.autoGroup
      cases hsl with
      | plain hpl _ => exact absurd hgroup hpl
      | missed _ h => exact absurd rfl (h channelId)
      | @found q group _ _ _ hidx _ =>
        rw [(r.take_same group q).1]
        rcases r.take_cases group q rfl with ⟨hsm, -, -⟩ | ⟨hon, -⟩
        · rw [hsm]
          exact hidx
        · rw [hcro] at hon
          cases hon
    · cases hop

/-- **Without cross-group retry a request stays in its group** while every retry finds a
channel in the group or in none of the later groups, if a preferred channel was one of the
first group.  All attempts are in the group of the first, and priced at it. -/
theorem retries_stay_in_group {a : Arrival} {turns : List Turn} {s₀ s : RelayState}
    (hgroup : r.tokenGroup = "auto") (hcross : r.crossGroupRetry = false)
    (hfree : r.specificChannel = none) (hopen : r.distribute a = some s₀)
    (haffinity : ∀ channelId group, r.affinity a = some (channelId, group) →
      r.getUserAutoGroup[0]? = some group)
    (hlasts : r.groupLasts turns s₀ = true) (hrelay : r.relay turns s₀ = some s) :
    ∀ x ∈ s.attempts, x.autoGroup = s₀.param.autoGroup ∧ x.usingGroup = s₀.usingGroup := by
  have hope := distribute_opened hopen
  have hidx := distribute_index hgroup hcross hfree haffinity hopen
  have hrat : ratioGroup s₀.param.autoGroup s₀.usingGroup = s₀.usingGroup := by
    rw [hope.usingGroup]
    unfold ratioGroup
    split <;> rfl
  have hstay : r.Stays s₀.param.autoGroup s₀.usingGroup s₀ :=
    { index := hidx
      autoGroup := rfl
      usingGroup_eq := rfl
      channelMeta := .inr hope.channelId_pos
      attempts := by
        rw [hope.attempts]
        exact fun _ ha => absurd ha List.not_mem_nil }
  exact hstay.relay hgroup hcross hrat hlasts hrelay

/-- With two channels in the group the retry stays in it, and then the loop ends. -/
theorem retries_stay_in_group_two :
    ∃ s, (twoGroups false).serve { views := fourChannels } allFail = some s ∧
      s.attempts.map RelayAttempt.channelId = [1, 2] ∧ ∀ x ∈ s.attempts, x.autoGroup = "a" := by
  refine ⟨_, rfl, ?_, fun x hx => ?_⟩
  · decide +kernel
  · exact (@retries_stay_in_group (twoGroups false) { views := fourChannels } allFail _ _ rfl rfl
      rfl rfl nofun (by decide +kernel) rfl x hx).1

/-- One channel in each group. -/
def oneChannelEach : Nat → GroupView
  | 0 => openView [1] ⟨by decide, by decide⟩
  | _ => openView [2] ⟨by decide, by decide⟩

/-- **The retry leaves the group** when its only channel has failed, and is priced at the
other group. -/
theorem retry_leaves_group :
    ((twoGroups false).serve { views := oneChannelEach }
        (.replicate 3 (failedTurn oneChannelEach))).map RelayState.attempts =
      some [⟨1, "a", "a"⟩, ⟨2, "b", "b"⟩] := by
  decide +kernel

-- a preferred channel of group b stores no index, so the retry starts at group a
example : ((twoGroups false).serve
      { preferred := some ({ id := 2, pos := by decide }, (· = "b")), views := oneChannelEach }
      (.replicate 3 (failedTurn oneChannelEach))).map RelayState.attempts =
    some [⟨2, "b", "b"⟩, ⟨1, "a", "a"⟩] := by
  decide +kernel

end RelayRequest

end NewApi
