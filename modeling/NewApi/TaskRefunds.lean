import NewApi.Steps
import NewApi.TaskPolling

/-! # One refund for each failed task

One row of `tasks`, and any number of copies of it in the memory of polling passes
on several nodes.  A copy is read in one step, updated and written back in a
later one, and a refund or settlement that a write earned is made in a step of its
own, so every interleaving of passes is a run.

**The refund is safe behind the guard**: a copy that was unfinished when it was
updated wins only over an unfinished row, a row is written as failed once, and
that write refunds.  Two things go around the guard.  The bulk updates for tasks
without an upstream id, or whose channel is gone, fail a row without asking and
without a refund.  And a copy that is already finished in memory is updated again
if the upstream names its id twice in one pass.  `TaskEvent.Careful` excludes both,
and `refunded_once` is the theorem. -/
namespace NewApi
open List Steps

/-- What a copy is in memory for.  The sweep uses each of its copies once. -/
inductive Duty where
  | sweep
  | poll
  | spent
  deriving DecidableEq, Repr

/-- A copy of the row in the memory of a pass. -/
structure Copy where
  task : Task
  duty : Duty
  /-- What the pass has still to bill before it goes on. -/
  owes : Billing
  deriving DecidableEq, Repr

/-- The row, its copies, and how often `RefundTaskQuota` has been called for it. -/
structure TaskState where
  row : Task
  copies : List Copy
  refunds : Nat
  deriving DecidableEq, Repr

/-- One step of one pass.  Copies are named by their index. -/
inductive TaskEvent where
  /-- The sweep reads the row. -/
  | sweepRead (cutoffUnix : Int)
  /-- `GetAllUnFinishSyncTasks` reads the row. -/
  | pollRead
  | sweep (i : Nat) (timeoutMinutes now : Int) (fault : Fault)
  | suno (i : Nat) (item : SunoDataResponse) (fault : Fault)
  | video (i : Nat) (now : Int) (proxyURL : String → String) (body : VideoBody) (fault : Fault)
  /-- The bulk update for tasks without an upstream id. -/
  | nullTaskId (i : Nat) (fault : Fault)
  /-- The bulk update for tasks whose channel was not found. -/
  | channelLost (i : Nat) (fault : Fault)
  /-- The pass makes the refund or settlement it owes. -/
  | bill (i : Nat) (adjusted byTokens : Int) (fundingFault updateFault : Fault)

namespace TaskState

/-- Update copy `i`, if `p` holds of it, and write it back. -/
def transition (s : TaskState) (i : Nat) (duty next : Duty) (p : Task → Bool)
    (f : Task → Transition) (fault : Fault) : Option TaskState :=
  match s.copies[i]? with
  | none => none
  | some c =>
      if c.duty = duty ∧ c.owes = .nothing ∧ p c.task = true then
        some { s with
          row := ((f c.task).perform fault s.row).1
          copies := s.copies.set i ⟨(f c.task).task, next, ((f c.task).perform fault s.row).2⟩ }
      else none

/-- Fail the row, if `p` holds of copy `i`. -/
def bulk (s : TaskState) (i : Nat) (next : Duty) (p : Task → Bool)
    (failReason : Task → Option String) (fault : Fault) : Option TaskState :=
  match s.copies[i]? with
  | none => none
  | some c =>
      if c.duty = .poll ∧ c.owes = .nothing ∧ p c.task = true then
        some { s with
          row := s.row.bulkFail fault (failReason c.task)
          copies := s.copies.set i ⟨c.task, next, .nothing⟩ }
      else none

/-- Make the refund or settlement copy `i` owes. -/
def bill (s : TaskState) (i : Nat) (adjusted byTokens : Int) (fundingFault updateFault : Fault) :
    Option TaskState :=
  match s.copies[i]? with
  | none => none
  | some c =>
      match c.owes with
      | .nothing => none
      | .refund =>
          some { s with
            copies := s.copies.set i { c with owes := .nothing }
            refunds := s.refunds + 1 }
      | .settle =>
          some { s with
            row := match settleTaskBillingOnComplete adjusted byTokens c.task with
              | none => s.row
              | some quota => recalculateTaskQuota fundingFault updateFault quota c.task s.row
            copies := s.copies.set i { c with owes := .nothing } }

/-- The step of an event, where the code can take it. -/
def apply (s : TaskState) : TaskEvent → Option TaskState
  | .sweepRead cutoffUnix =>
      if s.row.timedOut cutoffUnix then
        some { s with copies := s.copies ++ [⟨s.row, .sweep, .nothing⟩] }
      else none
  | .pollRead =>
      if s.row.unfinished then some { s with copies := s.copies ++ [⟨s.row, .poll, .nothing⟩] }
      else none
  | .sweep i timeoutMinutes now fault =>
      s.transition i .sweep .spent (fun _ => true) (fun t => t.sweep timeoutMinutes now) fault
  | .suno i item fault =>
      -- items are matched with copies by their upstream id, which is not empty
      s.transition i .poll .poll
        (fun t =>
          decide (t.platform = .suno ∧ t.getUpstreamTaskID = item.taskID ∧ item.taskID ≠ ""))
        (fun t => t.applySuno item) fault
  | .video i now proxyURL body fault =>
      s.transition i .poll .poll
        (fun t => t.platform.isVideo && decide (t.getUpstreamTaskID ≠ ""))
        (fun t => t.applyVideo now proxyURL body) fault
  | .nullTaskId i fault =>
      s.bulk i .spent (fun t => t.getUpstreamTaskID = "") (fun _ => none) fault
  | .channelLost i fault =>
      s.bulk i .poll (fun t => decide (t.getUpstreamTaskID ≠ "" ∧ t.platform ≠ .midjourney))
        (fun t => some (channelFailReason t.platform t.channelId)) fault
  | .bill i adjusted byTokens fundingFault updateFault =>
      s.bill i adjusted byTokens fundingFault updateFault

/-- The refunds that are owed. -/
def owed (copies : List Copy) : Nat := copies.countP fun c => c.owes = .refund

/-- No pass has a refund or settlement left to make. -/
def Finished (s : TaskState) : Prop := ∀ c ∈ s.copies, c.owes = .nothing

/-- A failed row that was charged has been refunded once. -/
def RefundedOnce (s : TaskState) : Prop :=
  s.row.status = .failure → s.row.isLegacy = false → s.row.quota ≠ 0 → s.refunds = 1

/-- The row as it was submitted, before any pass. -/
structure Initial (s : TaskState) : Prop where
  status : s.row.status ≠ .failure
  copies : s.copies = []
  refunds : s.refunds = 0

/-- **The invariant.**  Only the write that fails the row earns a refund, and the
passes that have one to settle won against everybody else. -/
structure Guarded (s : TaskState) : Prop where
  sweeping : ∀ c ∈ s.copies, c.duty = .sweep → c.task.status.isDone = false
  settling : ∀ c ∈ s.copies, c.owes = .settle → s.row.status = .success
  unfailed : s.row.status ≠ .failure → s.refunds + owed s.copies = 0
  failed : s.row.status = .failure → s.row.isLegacy = false → s.row.quota ≠ 0 →
    s.refunds + owed s.copies = 1

end TaskState

/-- A bulk update does no harm to a row that is failed already, or that nothing was
charged for and that has not succeeded. -/
def Task.MayBulkFail (row : Task) : Prop :=
  row.status = .failure ∨ (row.status ≠ .success ∧ (row.quota = 0 ∨ row.isLegacy = true))

/-- **The steps that keep to the guard**: copies are updated while they are
unfinished, and bulk updates fail no task that was charged. -/
def TaskEvent.Careful (s : TaskState) : TaskEvent → Prop
  | .suno i _ _ | .video i _ _ _ _ => ∀ c, s.copies[i]? = some c → c.task.status.isDone = false
  | .nullTaskId _ fault | .channelLost _ fault => fault ≠ none ∨ s.row.MayBulkFail
  | _ => True

/-! ## What the steps do -/

namespace Transition
variable {t : Task} {tr : Transition}

/-- **A write from an unfinished copy.**  Either the row stays and nothing is to be
billed, or the copy has replaced a row with the same status, and is billed as
its new status demands. -/
theorem Sound.perform (h : tr.Sound t) (fault : Fault) (row : Task) :
    (tr.perform fault row = (row, .nothing)) ∨
    ((tr.perform fault row).1 = tr.task ∧ row.status = t.status ∧
      ((tr.perform fault row).2 = .refund → tr.task.status = .failure) ∧
      ((tr.perform fault row).2 = .settle → tr.task.status = .success) ∧
      (tr.task.status = .failure → tr.task.quota ≠ 0 → tr.task.isLegacy = false →
        (tr.perform fault row).2 = .refund)) := by
  have hbil : tr.write ≠ .claim → tr.billing = .nothing := by
    intro hw
    cases hb : tr.billing with
    | nothing => rfl
    | refund => exact absurd (h.refund hb).1 hw
    | settle => exact absurd (h.settle hb).1 hw
  unfold Transition.perform Task.updateWithStatus
  rw [h.fromStatus]
  cases hw : tr.write with
  | skip =>
    left
    simp only [hbil (by rw [hw]; decide)]
  | record =>
    -- an unguarded write bills nothing, so a failed row it writes owes nothing
    have hno := hbil (by rw [hw]; decide)
    cases fault with
    | some text => exact .inl (by simp only [hno])
    | none =>
      by_cases hs : row.status = t.status
      · right
        simp only [if_pos hs, hno]
        refine ⟨trivial, hs, nofun, nofun, fun hf hq hl => ?_⟩
        have := h.failed (by rw [hw]; decide) hf (h.quota ▸ hq) hl
        rw [hno] at this
        cases this
      · left
        simp only [if_neg hs, hno]
  | claim =>
    cases fault with
    | some text => exact .inl rfl
    | none =>
      by_cases hs : row.status = t.status
      · right
        simp only [if_pos hs]
        exact ⟨trivial, hs, fun hb => (h.refund hb).2, fun hb => (h.settle hb).2,
          fun hf hq hl => h.failed (by rw [hw]; decide) hf (h.quota ▸ hq) hl⟩
      · left
        simp only [if_neg hs]

end Transition

namespace TaskState
variable {s s' : TaskState} {i : Nat} {c : Copy}

/-- The refund a copy owes. -/
def debt (c : Copy) : Nat := if c.owes = .refund then 1 else 0

theorem owed_set (hc : s.copies[i]? = some c) (c' : Copy) :
    owed (s.copies.set i c') + debt c = owed s.copies + debt c' := by
  obtain ⟨hi, rfl⟩ := List.getElem?_eq_some_iff.mp hc
  have hpos : s.copies[i].owes = .refund → 0 < owed s.copies := fun h =>
    List.countP_pos_iff.mpr ⟨s.copies[i], List.getElem_mem hi, by simpa using h⟩
  unfold owed debt at *
  rw [countP_set hi]
  simp only [decide_eq_true_eq]
  split
  · rename_i h
    have := hpos h
    omega
  · omega

/-- **Replacing one copy.**  What has to be said about the new row is said of the
refunds that were owed before. -/
theorem Guarded.replace (h : s.Guarded) (hc : s.copies[i]? = some c) {c' : Copy} {row : Task}
    {refunds : Nat} (hswe : c'.duty = .sweep → c'.task.status.isDone = false)
    (hold : ∀ b ∈ s.copies, b.owes = .settle → row.status = .success)
    (hnew : c'.owes = .settle → row.status = .success)
    (hunf : row.status ≠ .failure → refunds + owed s.copies + debt c' = debt c)
    (hfai : row.status = .failure → row.isLegacy = false → row.quota ≠ 0 →
      refunds + owed s.copies + debt c' = debt c + 1) :
    Guarded ⟨row, s.copies.set i c', refunds⟩ := by
  have how := owed_set hc c'
  refine ⟨fun b hb => ?_, fun b hb => ?_, fun hne => ?_, fun hf hl hq => ?_⟩
  · rcases mem_or_eq_of_mem_set hb with hmem | rfl
    · exact h.sweeping b hmem
    · exact hswe
  · rcases mem_or_eq_of_mem_set hb with hmem | rfl
    · exact hold b hmem
    · exact hnew
  · have := hunf hne
    show refunds + owed (s.copies.set i c') = 0
    omega
  · have := hfai hf hl hq
    show refunds + owed (s.copies.set i c') = 1
    omega

variable {p : Task → Bool} {fault : Fault}

section
variable (h : s.Guarded)
include h

/-- **The write of an unfinished copy keeps the guard**, and leaves a finished row
as it is. -/
theorem Guarded.transition {duty next : Duty} {f : Task → Transition} (hnext : next ≠ .sweep)
    (hs : s.transition i duty next p f fault = some s')
    (hf : ∀ c, s.copies[i]? = some c → c.duty = duty →
      c.task.status.isDone = false ∧ (f c.task).Sound c.task) :
    s'.Guarded ∧ (s.row.status = .success → s'.row.status = .success) := by
  unfold TaskState.transition at hs
  split at hs
  · cases hs
  rename_i c hc
  obtain ⟨⟨hdu, how, -⟩, hs'⟩ := Option.ite_none_right_eq_some.mp hs
  cases hs'
  obtain ⟨hop, hsound⟩ := hf c hc hdu
  obtain ⟨hsuc, hfai⟩ := not_or.mp (of_decide_eq_false hop)
  have hde : debt c = 0 := if_neg (by rw [how]; decide)
  rcases hsound.perform fault s.row with hst | ⟨hrow, hsts, href, hset, hfl⟩
  · rw [hst]
    refine ⟨h.replace hc (fun hc' => absurd hc' hnext) h.settling nofun
      (fun hne => ?_) (fun hf hl hq => ?_), id⟩
    · rw [hde]
      exact h.unfailed hne
    · rw [hde]
      exact h.failed hf hl hq
  · -- the guard was won: the row was open until now, and nobody was refunded
    have hno := h.unfailed (hsts ▸ hfai)
    rw [hrow]
    refine ⟨h.replace hc (fun hc' => absurd hc' hnext) (fun b hb hb' => ?_) hset
      (fun hne => ?_) (fun hf hl hq => ?_), fun hc' => ?_⟩
    · exact absurd (hsts.symm.trans (h.settling b hb hb')) hsuc
    · rw [hde, hno, Nat.zero_add]
      exact if_neg (fun hb => hne (href hb))
    · rw [hde, hno, Nat.zero_add]
      exact if_pos (hfl hf hq hl)
    · exact absurd (hsts.symm.trans hc') hsuc

theorem Guarded.bulk {next : Duty} {failReason : Task → Option String} (hnext : next ≠ .sweep)
    (hs : s.bulk i next p failReason fault = some s')
    (hmay : fault ≠ none ∨ s.row.MayBulkFail) :
    s'.Guarded ∧ (s.row.status = .success → s'.row.status = .success) := by
  unfold TaskState.bulk at hs
  split at hs
  · cases hs
  rename_i c hc
  obtain ⟨⟨hdu, how, -⟩, hs'⟩ := Option.ite_none_right_eq_some.mp hs
  cases hs'
  have hde : debt c = 0 := if_neg (by rw [how]; decide)
  have hswe : next = .sweep → c.task.status.isDone = false := fun hc' => absurd hc' hnext
  cases fault with
  | some text =>
    refine ⟨h.replace hc hswe h.settling nofun (fun hne => ?_) (fun hf hl hq => ?_), id⟩
    · rw [hde]
      exact h.unfailed hne
    · rw [hde]
      exact h.failed hf hl hq
  | none =>
    -- no copy waits to settle: the row has not succeeded
    have hset : ∀ b ∈ s.copies, b.owes ≠ .settle := by
      intro b hb hst
      have hsuc := h.settling b hb hst
      rcases hmay with hc' | hfai | ⟨hne, -⟩
      · exact hc' rfl
      · exact absurd (hfai.symm.trans hsuc) (by decide)
      · exact hne hsuc
    refine ⟨h.replace hc hswe (fun b hb hb' => absurd hb' (hset b hb))
      nofun (fun hne => absurd rfl hne) (fun _ hl hq => ?_), fun hc' => ?_⟩
    · rw [hde]
      rcases hmay with hc' | hfai | ⟨-, hz | hleg⟩
      · exact absurd rfl hc'
      · exact h.failed hfai hl hq
      · exact absurd hz hq
      · exact absurd (hleg.symm.trans hl) (by decide)
    · rcases hmay with hc'' | hfai | ⟨hne, -⟩
      · exact absurd rfl hc''
      · exact absurd (hfai.symm.trans hc') (by decide)
      · exact absurd hc' hne

/-- A refund or settlement that is owed. -/
theorem Guarded.bill {adjusted byTokens : Int} {fundingFault updateFault : Fault}
    (hs : s.bill i adjusted byTokens fundingFault updateFault = some s') :
    s'.Guarded ∧ (s.row.status = .success → s'.row.status = .success) := by
  unfold TaskState.bill at hs
  split at hs
  · cases hs
  rename_i c hc
  have hmem := mem_of_getElem? hc
  split at hs
  · cases hs
  · -- the refund moves from the debts to the calls
    rename_i how
    cases hs
    have hde : debt c = 1 := if_pos how
    refine ⟨h.replace hc (h.sweeping c hmem) h.settling nofun (fun hne => ?_)
      (fun hf hl hq => ?_), id⟩
    · have := h.unfailed hne
      show s.refunds + 1 + owed s.copies + 0 = debt c
      omega
    · have := h.failed hf hl hq
      show s.refunds + 1 + owed s.copies + 0 = debt c + 1
      omega
  · -- whoever settles has won the row, which is finished for good
    rename_i how
    cases hs
    have hsuc := h.settling c hmem how
    have hkept : (match settleTaskBillingOnComplete adjusted byTokens c.task with
        | none => s.row
        | some quota => recalculateTaskQuota fundingFault updateFault quota c.task s.row).status =
        .success := by
      split
      · exact hsuc
      unfold recalculateTaskQuota
      split
      · exact hsuc
      · split <;> exact hsuc
    refine ⟨h.replace hc (h.sweeping c hmem) (fun _ _ _ => hkept) (fun _ => hkept) (fun _ => ?_)
      (fun hf => absurd (hkept.symm.trans hf) (by decide)), fun _ => hkept⟩
    have hde : debt c = 0 := if_neg (by rw [how]; decide)
    rw [hde]
    exact h.unfailed (by rw [hsuc]; decide)

theorem Guarded.read (hunf : s.row.unfinished = true) (duty : Duty) :
    Guarded { s with copies := s.copies ++ [⟨s.row, duty, .nothing⟩] } := by
  have hop : s.row.status.isDone = false := by
    obtain ⟨-, hfai, hsuc⟩ := of_decide_eq_true hunf
    exact decide_eq_false (not_or.mpr ⟨hsuc, hfai⟩)
  have how : owed (s.copies ++ [⟨s.row, duty, .nothing⟩]) = owed s.copies := by
    rw [owed, countP_append]
    rfl
  refine ⟨fun b hb hswe => ?_, fun b hb hset => ?_, fun hne => ?_, fun hf hl hq => ?_⟩
  · rcases mem_append.mp hb with hb | hb
    · exact h.sweeping b hb hswe
    obtain rfl := mem_singleton.mp hb
    exact hop
  · rcases mem_append.mp hb with hb | hb
    · exact h.settling b hb hset
    obtain rfl := mem_singleton.mp hb
    cases hset
  · exact how ▸ h.unfailed hne
  · exact how ▸ h.failed hf hl hq

/-- **One step keeps the guard**, and a row that succeeded. -/
theorem guarded_step {e : TaskEvent} (hcar : e.Careful s) (hs : s.apply e = some s') :
    s'.Guarded ∧ (s.row.status = .success → s'.row.status = .success) := by
  cases e <;> simp only [TaskState.apply] at hs
  case sweepRead cutoffUnix =>
    obtain ⟨htim, hs'⟩ := Option.ite_none_right_eq_some.mp hs
    cases hs'
    exact ⟨h.read (Bool.and_eq_true_iff.mp htim).1 _, id⟩
  case pollRead =>
    obtain ⟨hunf, hs'⟩ := Option.ite_none_right_eq_some.mp hs
    cases hs'
    exact ⟨h.read hunf _, id⟩
  case sweep i timeoutMinutes now fault =>
    refine h.transition (by decide) hs fun c hc hdu => ?_
    exact ⟨h.sweeping c (mem_of_getElem? hc) hdu, Task.sound_sweep _ _⟩
  case suno i item fault =>
    exact h.transition (by decide) hs fun c hc _ => ⟨hcar c hc, Task.sound_applySuno _⟩
  case video i now proxyURL body fault =>
    refine h.transition (by decide) hs fun c hc _ => ?_
    exact ⟨hcar c hc, Task.sound_applyVideo _ _ _ (hcar c hc)⟩
  case nullTaskId i fault => exact h.bulk (by decide) hs hcar
  case channelLost i fault => exact h.bulk (by decide) hs hcar
  case bill i adjusted byTokens fundingFault updateFault => exact h.bill hs

end

/-! ## Runs -/

/-- A step of the passes. -/
def Step (s : TaskState) (e : TaskEvent) (s' : TaskState) : Prop := s.apply e = some s'

/-- A step that keeps to the guard. -/
def CarefulStep (s : TaskState) (e : TaskEvent) (s' : TaskState) : Prop :=
  e.Careful s ∧ s.apply e = some s'

variable {events : List TaskEvent}

theorem Initial.guarded (h : s.Initial) : s.Guarded := by
  have how : owed s.copies = 0 := by rw [h.copies]; rfl
  refine ⟨fun c hc => ?_, fun c hc => ?_, fun _ => ?_, fun hf => absurd hf h.status⟩
  · rw [h.copies] at hc
    cases hc
  · rw [h.copies] at hc
    cases hc
  · rw [h.refunds, how]

theorem guarded_run (h : s.Guarded) (hrun : Run CarefulStep s events s') : s'.Guarded :=
  hrun.invariant (I := Guarded) (fun _ _ _ h hst => (guarded_step h hst.1 hst.2).1) h

/-- Success is for good. -/
theorem success_run (h : s.Guarded) (hrun : Run CarefulStep s events s')
    (hsuc : s.row.status = .success) : s'.row.status = .success := by
  have hkept : s'.Guarded ∧ s'.row.status = .success := by
    refine hrun.invariant (I := fun s => s.Guarded ∧ s.row.status = .success)
      (fun _ _ _ h hst => ?_) ⟨h, hsuc⟩
    obtain ⟨hgua, hstay⟩ := guarded_step h.1 hst.1 hst.2
    exact ⟨hgua, hstay h.2⟩
  exact hkept.2

/-- Once nobody owes a refund, the calls are all there is. -/
theorem Guarded.refundedOnce (h : s.Guarded) (hfin : s.Finished) : s.RefundedOnce := by
  intro hf hl hq
  have how : owed s.copies = 0 := by
    refine countP_eq_zero.mpr fun c hc => ?_
    rw [hfin c hc]
    decide
  have := h.failed hf hl hq
  omega

/-- **A failed task is refunded once, and a task that succeeded does not fail**, in
every run of passes that keeps to the guard. -/
theorem refunded_once {s₀ : TaskState} (hinit : s₀.Initial)
    (hrun : Run CarefulStep s₀ events s) :
    (s.Finished → s.RefundedOnce) ∧
      ∀ later s', Run CarefulStep s later s' → s.row.status = .success →
        s'.row.status ≠ .failure := by
  have hgua := guarded_run hinit.guarded hrun
  refine ⟨hgua.refundedOnce, fun later s' hlat hsuc hfai => ?_⟩
  have := success_run hgua hlat hsuc
  rw [hfai] at this
  cases this

end TaskState

/-- A pass gets an answer about its copy. -/
def answered (i : Nat) (status : String) : TaskEvent :=
  .video i 1780000600 id (answer status) none

namespace TaskState

/-- Two passes see the task fail; one of them refunds it. -/
theorem refunded_once_two_passes :
    ∃ s, Run CarefulStep ⟨sampleTask, [], 0⟩
        [.pollRead, .pollRead, answered 0 "FAILURE", answered 1 "FAILURE",
          .bill 0 0 0 none none] s ∧
      s.row.status = .failure ∧ s.refunds = 1 := by
  have hrun : Run CarefulStep ⟨sampleTask, [], 0⟩
      [.pollRead, .pollRead, answered 0 "FAILURE", answered 1 "FAILURE", .bill 0 0 0 none none]
      _ :=
    .cons ⟨trivial, rfl⟩ (.cons ⟨trivial, rfl⟩ (.cons ⟨by rintro c ⟨⟩; rfl, rfl⟩
      (.cons ⟨by rintro c ⟨⟩; rfl, rfl⟩ (.cons ⟨trivial, rfl⟩ (.nil _)))))
  refine ⟨_, hrun, rfl, ?_⟩
  exact (refunded_once ⟨by decide, rfl, rfl⟩ hrun).1 (by unfold Finished; decide) rfl (by decide)
    (by decide)

/-- A pass whose channel lookup fails takes the task down without a refund, and does
so even after another pass has seen it succeed. -/
theorem channel_lost_unrefunded :
    (∃ s, Run Step ⟨sampleTask, [], 0⟩ [.pollRead, .channelLost 0 none] s ∧
      s.Finished ∧ s.row.status = .failure ∧ ¬ s.RefundedOnce) ∧
    ∃ s s', Run Step ⟨sampleTask, [], 0⟩
        [.pollRead, .pollRead, answered 0 "SUCCESS", .bill 0 0 0 none none] s ∧
      Run Step s [.channelLost 1 none] s' ∧
      s.row.status = .success ∧ s'.row.status = .failure := by
  refine ⟨⟨_, .cons rfl (.cons rfl (.nil _)), by unfold Finished; decide, rfl, fun h => ?_⟩, ?_⟩
  · exact absurd (h rfl (by decide) (by decide)) (by decide)
  exact ⟨_, _, .cons rfl (.cons rfl (.cons rfl (.cons rfl (.nil _)))), .cons rfl (.nil _),
    rfl, rfl⟩

end TaskState

end NewApi
