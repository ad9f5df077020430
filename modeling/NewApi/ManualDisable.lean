import NewApi.KeySelection

/-! # A channel that an administrator disabled

Three parties write the status of a channel.  An administrator disables it by hand; a
request that failed disables it when `AutoBan` is on (`DisableChannel`); and the periodic
tests enable a channel that was disabled automatically once it answers again
(`performChannelTests`).  The tests decide by a copy of the channel, which they load with
the whole list before they test the first channel.

Nothing looks at the status it overwrites, so a manual disable can be undone
(`manual_disable_undone`).  A test run may still hold a copy from a time when the channel
was disabled automatically.  A late `DisableChannel` turns the manual disable into an
automatic one, which the next test run takes back.  And the manual disable of a channel
with an empty key disables that key.  `manually_disabled_stays` says that there is no
other way. -/
namespace NewApi
open Steps

/-! ## The parties -/

def disableChannel (autoBan : Bool) (usingKey reason : String) (now : Int) (ch : Channel) :
    Channel :=
  if autoBan = false then ch else (ch.updateStatus usingKey .autoDisabled reason now).getD ch

def enableChannel (usingKey : String) (now : Int) (ch : Channel) : Channel :=
  (ch.updateStatus usingKey .enabled "" now).getD ch

/-- What `testChannel` reports. -/
structure TestResult where
  /-- The key that was used. -/
  usingKey : String
  localErr : Bool
  newAPIError : Bool
  deriving DecidableEq, Repr

def shouldEnableChannel (automaticEnable newAPIError : Bool) (status : ChannelStatus) : Bool :=
  automaticEnable && !newAPIError && (status = .autoDisabled)

/-- How far a test run is with its copy of the channel. -/
inductive TestPhase where
  | loaded
  | tested (result : TestResult)
  | over
  deriving DecidableEq, Repr

/-- A test run's copy of the channel. -/
structure ChannelTest where
  copy : Channel
  phase : TestPhase

/-- `performChannelTests` calls `EnableChannel` for a copy. -/
def TestResult.enables (r : TestResult) (automaticEnable : Bool) (copy : Channel) : Bool :=
  !r.localErr && decide (copy.status ≠ .enabled) &&
    shouldEnableChannel automaticEnable r.newAPIError copy.status

/-- The row of a channel, and the copies that test runs hold. -/
structure ChannelWatch where
  row : Channel
  tests : List ChannelTest

/-- What may happen to the channel, other than an administrator enabling it. -/
inductive StatusEvent where
  /-- `UpdateChannelStatus(id, "", ManuallyDisabled, …)` -/
  | manualDisable (reason : String) (now : Int)
  /-- `DisableChannel`, for a request or a test that failed. -/
  | disableChannel (autoBan : Bool) (usingKey reason : String) (now : Int)
  /-- A test run loads the list; with passive recovery it selects what was disabled
  automatically. -/
  | loadTests (passiveRecovery : Bool)
  /-- The `i`-th copy is tested. -/
  | test (i : Nat) (result : TestResult)
  /-- The test run goes on after the test of the `i`-th copy. -/
  | react (i : Nat) (now : Int)

namespace ChannelWatch
variable (automaticEnable : Bool)

/-- `selectChannelsForAutomaticTest`, for one channel. -/
def selected (passiveRecovery : Bool) (ch : Channel) : Bool :=
  decide (ch.status ≠ .manuallyDisabled) && !(passiveRecovery && decide (ch.status ≠ .autoDisabled))

/-- One step. -/
def apply (s : ChannelWatch) : StatusEvent → ChannelWatch
  | .manualDisable reason now =>
      { s with row := (s.row.updateStatus "" .manuallyDisabled reason now).getD s.row }
  | .disableChannel autoBan usingKey reason now =>
      { s with row := NewApi.disableChannel autoBan usingKey reason now s.row }
  | .loadTests passiveRecovery =>
      if selected passiveRecovery s.row then { s with tests := s.tests ++ [⟨s.row, .loaded⟩] }
      else s
  | .test i result =>
      match s.tests[i]? with
      | some ⟨copy, .loaded⟩ =>
          let phase := if copy.status = .manuallyDisabled then .over else .tested result
          { s with tests := s.tests.set i ⟨copy, phase⟩ }
      | _ => s
  | .react i now =>
      match s.tests[i]? with
      | some ⟨copy, .tested r⟩ =>
          { row := if r.enables automaticEnable copy then enableChannel r.usingKey now s.row
              else s.row
            tests := s.tests.set i ⟨copy, .over⟩ }
      | _ => s

/-- A step. -/
def Step (s : ChannelWatch) (e : StatusEvent) (s' : ChannelWatch) : Prop :=
  s' = s.apply automaticEnable e

/-- A failed key of the channel is disabled alone: the channel has several keys, and another one is
enabled, or the key is not one of them. -/
def SparesChannel (row : Channel) (usingKey : String) : Prop :=
  row.channelInfo.isMultiKey = true ∧ row.keys ≠ [] ∧
    match row.keys.idxOf? usingKey with
    | none => usingKey ≠ ""
    | some i => ∃ j < row.keys.length, j ≠ i ∧ row.channelInfo.keyStatus j = .enabled

/-- A step in which a `DisableChannel` finds `AutoBan` off, or a row that it does not disable. -/
def QuietStep (s : ChannelWatch) (e : StatusEvent) (s' : ChannelWatch) : Prop :=
  Step automaticEnable s e s' ∧
    ∀ autoBan usingKey reason now, e = .disableChannel autoBan usingKey reason now →
      autoBan = false ∨ SparesChannel s.row usingKey

/-! ## When the channel stays disabled -/

/-- No `EnableChannel` can come of this copy any more. -/
def Spent (t : ChannelTest) : Prop :=
  t.phase = .over ∨ ∃ r, t.phase = .tested r ∧ r.enables automaticEnable t.copy = false

/-- The channel is disabled by hand, and no test run may enable it. -/
structure Disabled (s : ChannelWatch) : Prop where
  status : s.row.status = .manuallyDisabled
  copies : ∀ t ∈ s.tests, t.copy.status = .autoDisabled → Spent automaticEnable t

variable {automaticEnable : Bool} {s s' : ChannelWatch} {e : StatusEvent}

theorem enables_status {r : TestResult} {copy : Channel}
    (h : r.enables automaticEnable copy = true) : copy.status = .autoDisabled := by
  simp only [TestResult.enables, shouldEnableChannel, Bool.and_eq_true, decide_eq_true_eq] at h
  exact h.2.2

/-- Replacing a copy by one of the same channel that is no worse. -/
theorem copies_set {i : Nat} {copy : Channel} {phase : TestPhase}
    (hcop : ∀ t ∈ s.tests, t.copy.status = .autoDisabled → Spent automaticEnable t)
    (hnew : copy.status = .autoDisabled → Spent automaticEnable ⟨copy, phase⟩) :
    ∀ t ∈ s.tests.set i ⟨copy, phase⟩, t.copy.status = .autoDisabled → Spent automaticEnable t := by
  intro t ht
  rcases List.mem_or_eq_of_mem_set ht with hold | rfl
  · exact hcop t hold
  · exact hnew

theorem status_updateStatus_of_spares {row : Channel} {usingKey reason : String} {now : Int}
    (h : SparesChannel row usingKey) :
    ((row.updateStatus usingKey .autoDisabled reason now).getD row).status = row.status := by
  obtain ⟨hmulti, hkeys, hother⟩ := h
  have hsaved : (row.handlerMultiKeyUpdate usingKey .autoDisabled reason now).status =
      row.status := by
    rw [Channel.handlerMultiKeyUpdate, if_neg hkeys]
    cases hindex : row.keys.idxOf? usingKey with
    | none =>
      simp only [hindex] at hother
      simp only [if_pos hother]
    | some i =>
      simp only [hindex] at hother
      obtain ⟨j, hlt, hne, henabled⟩ := hother
      have hleft : hasEnabledMultiKey row.keys
          (putEntry i .autoDisabled row.channelInfo.multiKeyStatusList) = true := by
        refine (KeyedChannel.hasEnabledMultiKey_iff row.keys { row.channelInfo with
          multiKeyStatusList := putEntry i .autoDisabled
            row.channelInfo.multiKeyStatusList }).mpr ⟨j, hlt, ?_⟩
        rw [KeyedChannel.keyStatus_putEntry, if_neg hne, henabled]
      simp [hleft]
  unfold Channel.updateStatus
  split
  · rfl
  · simp only [hsaved, ne_eq, not_true_eq_false, if_false, Option.getD_some]

/-- **A quiet step keeps the channel disabled.** -/
theorem disabled_step (hd : s.Disabled automaticEnable)
    (hst : QuietStep automaticEnable s e s') : s'.Disabled automaticEnable := by
  obtain ⟨rfl, hqui⟩ := hst
  cases e with
  | manualDisable reason now =>
    have hsm : s.row.updateStatus "" .manuallyDisabled reason now = none := by
      rw [Channel.updateStatus, if_pos ⟨hd.status, fun h => by cases h.2.1⟩]
    refine ⟨?_, hd.copies⟩
    simp only [apply, hsm, Option.getD_none]
    exact hd.status
  | disableChannel autoBan usingKey reason now =>
    refine ⟨?_, hd.copies⟩
    simp only [apply, NewApi.disableChannel]
    split
    · exact hd.status
    · rename_i hban
      have hspares := (hqui _ _ _ _ rfl).resolve_left hban
      exact (status_updateStatus_of_spares hspares).trans hd.status
  | loadTests passiveRecovery =>
    have hskip : selected passiveRecovery s.row = false := by
      simp [selected, hd.status]
    simp only [apply, hskip]
    exact hd
  | test i result =>
    simp only [apply]
    split
    · rename_i copy hi
      refine ⟨hd.status, copies_set hd.copies fun hau => ?_⟩
      -- a copy of an automatically disabled channel has been tested already
      rcases hd.copies _ (List.mem_of_getElem? hi) hau with hov | ⟨r, hr, -⟩
      · cases hov
      · cases hr
    · exact hd
  | react i now =>
    simp only [apply]
    split
    · rename_i copy r hi
      have hno : r.enables automaticEnable copy = false := by
        by_contra hyes
        rw [Bool.not_eq_false] at hyes
        rcases hd.copies _ (List.mem_of_getElem? hi) (enables_status hyes) with
          hov | ⟨r', hr', h⟩
        · cases hov
        cases hr'
        rw [h] at hyes
        cases hyes
      refine ⟨?_, copies_set hd.copies fun _ => .inl rfl⟩
      rw [hno]
      exact hd.status
    · exact hd

/-- The manual disable takes, unless the channel has an empty key. -/
theorem status_manualDisable {ch : Channel} {reason : String} {now : Int}
    (hks : ch.channelInfo.isMultiKey = true → "" ∉ ch.keys) :
    ((ch.updateStatus "" .manuallyDisabled reason now).getD ch).status = .manuallyDisabled := by
  unfold Channel.updateStatus
  by_cases hsm : ch.status = .manuallyDisabled
  · rw [if_pos ⟨hsm, fun h => by cases h.2.1⟩]
    exact hsm
  rw [if_neg fun h => hsm h.1]
  by_cases hmul : ch.channelInfo.isMultiKey = true
  · have hsts : (ch.handlerMultiKeyUpdate "" .manuallyDisabled reason now).status =
        .manuallyDisabled := by
      have hno : ch.keys.idxOf? "" = none := by
        rw [List.idxOf?_eq_none_iff]
        exact hks hmul
      unfold Channel.handlerMultiKeyUpdate
      by_cases hemp : ch.keys = []
      · rw [if_pos hemp]
      rw [if_neg hemp, hno]
      simp
    simp only [if_pos hmul]
    rw [if_pos (by rw [hsts]; exact hsm)]
    exact hsts
  · simp only [if_neg hmul]
    rw [if_pos hsm]
    rfl

/-- **A manual disable stays**, as long as every `DisableChannel` finds another key enabled: the
channel is not enabled after any steps, provided that no test run held a copy from a time
when the channel was disabled automatically, and that no key of the channel is empty. -/
theorem manually_disabled_stays {reason : String} {now : Int} {es : List StatusEvent}
    {s₁ : ChannelWatch} (hkeys : s.row.channelInfo.isMultiKey = true → "" ∉ s.row.keys)
    (hcopies : ∀ t ∈ s.tests, t.copy.status = .autoDisabled → Spent automaticEnable t)
    (hdisable : Step automaticEnable s (.manualDisable reason now) s₁)
    (hrun : Run (QuietStep automaticEnable) s₁ es s') : s'.row.status ≠ .enabled := by
  have hdis : s₁.Disabled automaticEnable := by
    rw [hdisable]
    exact ⟨status_manualDisable hkeys, hcopies⟩
  have hend := hrun.invariant (I := Disabled automaticEnable)
    (fun _ _ _ hd hst => disabled_step hd hst) hdis
  rw [hend.status]
  exact nofun

/-- A channel with one key. -/
def sampleChannel (status : ChannelStatus) : Channel :=
  { id := 1, keys := ["k"], status := status, autoBan := some 1 }

/-- A channel with three keys, one of them empty. -/
def emptyKeyChannel : Channel :=
  { id := 1, keys := ["a", "", "b"], status := .enabled, autoBan := some 1
    channelInfo := { isMultiKey := true, multiKeySize := 3 } }

/-- A test that passes. -/
def passes : TestResult := ⟨"k", false, false⟩

def twoKeys : Channel :=
  { id := 1, keys := ["a", "b"], status := .enabled, autoBan := some 1
    channelInfo := { isMultiKey := true, multiKeySize := 2 } }

/-- A request that fails late disables its key, and a test run reacts to a copy from before the
disable; the channel stays as the administrator left it. -/
theorem manually_disabled_stays_twoKeys :
    ∃ s₁ s', Step true ⟨twoKeys, [⟨twoKeys, .loaded⟩]⟩ (.manualDisable "" 10) s₁ ∧
      Run (QuietStep true) s₁ [.disableChannel true "a" "timeout" 20, .test 0 passes,
        .react 0 30] s' ∧
      s'.row.channelInfo.multiKeyStatusList = [(0, .autoDisabled)] ∧ s'.row.status ≠ .enabled := by
  have hrun : Run (QuietStep true)
      (apply true ⟨twoKeys, [⟨twoKeys, .loaded⟩]⟩ (.manualDisable "" 10))
      [.disableChannel true "a" "timeout" 20, .test 0 passes, .react 0 30] _ :=
    .cons ⟨rfl, fun _ _ _ _ h => by
      cases h
      exact .inr ⟨rfl, by decide, 1, by decide, by decide, rfl⟩⟩ <|
    .cons ⟨rfl, fun _ _ _ _ h => by cases h⟩ <| .cons ⟨rfl, fun _ _ _ _ h => by cases h⟩ <| .nil _
  refine ⟨_, _, rfl, hrun, by decide +kernel,
    manually_disabled_stays (fun _ => by decide) ?_ rfl hrun⟩
  intro t ht
  obtain rfl := List.mem_singleton.mp ht
  intro h
  cases h

/-- **A manual disable can be undone.**  Right after the disable or some steps later the
channel is enabled, and no administrator has enabled it: by a test run that loaded its copy
before the disable; by a test run after a late `DisableChannel`; by the disable itself, which
takes the empty key for the one to disable. -/
theorem manual_disable_undone :
    (∃ s, Run (Step true) ⟨sampleChannel .autoDisabled, []⟩
        [.loadTests false, .manualDisable "manual operation" 10, .test 0 passes, .react 0 20] s ∧
      s.row.status = .enabled) ∧
    (∃ s, Run (Step true) ⟨sampleChannel .enabled, []⟩
        [.manualDisable "manual operation" 10, .disableChannel true "k" "timeout" 20,
          .loadTests false, .test 0 passes, .react 0 30] s ∧
      s.row.status = .enabled) ∧
    ∃ s, Run (Step true) ⟨emptyKeyChannel, []⟩ [.manualDisable "manual operation" 10] s ∧
      s.row.status = .enabled := by
  have hrun : ∀ s es, Run (Step true) s es (es.foldl (apply true) s) :=
    Run.foldl fun _ _ => rfl
  refine ⟨⟨_, hrun _ _, ?_⟩, ⟨_, hrun _ _, ?_⟩, ⟨_, hrun _ _, ?_⟩⟩
  · decide
  · decide
  · decide

end ChannelWatch

end NewApi
