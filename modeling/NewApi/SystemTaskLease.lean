import NewApi.SystemTaskSteps

/-! # The lease of a system task

A lock of a type has one row, so one runner holds it; states and results are written under it; and
a status only moves on.  These hold for any interleaving and any pause.

Progress needs more.  `ClaimSystemTask` takes the lock and starts the task in two statements, and
the second does not look at the lock.  A runner that pauses in between until its lock has been
expired starts a task that nobody holds a lock of: nothing fails it, nothing claims it, and its
active key keeps new tasks of the type away (`lapsed_claim_wedges_type`).  While every statement
that relies on a lease runs before the lease has expired (`Prompt`), a running task has its lock
(`Leased`), and the next pass that expires locks frees the type (`lease_exclusive_and_live`). -/
namespace NewApi
open List Option SystemTaskDB

/-! ## The status of a task -/

/-- What one event may do to a status. -/
def SystemTaskStatus.Moves (a b : SystemTaskStatus) : Prop :=
  b = a ∨ a = .pending ∧ b = .running ∨ a = .running ∧ b.terminal = true

namespace SystemTasks
variable {s s' : SystemTasks} {e : LeaseEvent} {id : Nat} {type runner : String}

variable {t : SystemTask}

/-- **A task stays, and its status moves on** from pending to running to an end. -/
theorem status_step (h : Step s e s') (ht : s.db.task? id = some t) :
    ∃ t', s'.db.task? id = some t' ∧ t'.type = t.type ∧ t.status.Moves t'.status := by
  have hmov := task_step h id
  rw [ht] at hmov
  generalize s'.db.task? id = o at hmov
  cases hmov with
  | keeps => exact ⟨t, rfl, rfl, .inl rfl⟩
  | writes => exact ⟨_, rfl, rfl, .inl rfl⟩
  | starts _ _ _ _ hpen => exact ⟨_, rfl, rfl, .inr (.inl ⟨hpen, rfl⟩)⟩
  | expires _ _ hrun => exact ⟨_, rfl, rfl, .inr (.inr ⟨hrun, rfl⟩)⟩
  | finishes _ hsts hhd =>
    exact ⟨_, rfl, rfl, .inr (.inr ⟨(writable_iff.mp hhd).2.1, hsts⟩)⟩

/-- **An end is final.** -/
theorem terminal_run {es : List LeaseEvent} (h : Runs s es s') {status : SystemTaskStatus}
    (hter : status.terminal = true) (hen : ∃ t, s.db.task? id = some t ∧ t.status = status) :
    ∃ t, s'.db.task? id = some t ∧ t.status = status := by
  refine h.invariant (I := fun s => ∃ t, s.db.task? id = some t ∧ t.status = status) ?_ hen
  clear hen
  rintro s e s' ⟨t, ht, rfl⟩ hst
  obtain ⟨t', ht', -, hmov⟩ := status_step hst ht
  refine ⟨t', ht', ?_⟩
  rcases hmov with hsm | ⟨hpen, -⟩ | ⟨hrun, -⟩
  · exact hsm
  · rw [hpen] at hter
    cases hter
  · rw [hrun] at hter
    cases hter

/-! ## Well-formed states -/

/-- A task that is not over has its active key, no two such tasks share a type, a lock is of a task
of its type, and a pass has read its time before. -/
structure Wf (s : SystemTasks) : Prop where
  active : ∀ id t, s.db.task? id = some t →
    t.activeKey = if t.status.terminal then none else some t.type
  single : ∀ id id' t t', s.db.task? id = some t → s.db.task? id' = some t' →
    t.status.terminal = false → t'.status.terminal = false → t.type = t'.type → id = id'
  typed : ∀ type l, s.db.lock? type = some l → ∃ t, s.db.task? l.taskID = some t ∧ t.type = type
  claims : ∀ runner c, (s.pass runner).claim? = some c →
    ∃ t, s.db.task? c.id = some t ∧ t.type = c.type
  times : ∀ runner now, (s.pass runner).now? = some now → now ≤ s.clock
  released : ∀ id runner, (id, runner) ∈ s.releases →
    ∃ t, s.db.task? id = some t ∧ t.status.terminal = true

variable {now : Nat}

theorem Wf.lock_of_held (hwf : Wf s) (ht : s.db.task? id = some t)
    (hhd : s.db.lockHeld id runner now = true) :
    ∃ l, s.db.lock? t.type = some l ∧ l.taskID = id ∧ l.lockedBy = runner ∧
      now ≤ l.lockedUntil := by
  obtain ⟨type, l, hl, hid, hby, hcnt⟩ := lockHeld_iff.mp hhd
  obtain ⟨t₂, ht₂, rfl⟩ := hwf.typed type l hl
  rw [hid, ht] at ht₂
  cases ht₂
  exact ⟨l, hl, hid, hby, hcnt⟩

theorem wf_initial (clock : Nat) : Wf (initial clock) := by
  refine ⟨?_, ?_, ?_, ?_, ?_, ?_⟩
  · intro id t ht
    cases ht
  · intro id id' t t' ht
    cases ht
  · intro type l hl
    cases hl
  · intro runner c hclaim
    cases hclaim
  · intro runner now hnow
    cases hnow
  · intro id runner hmem
    cases hmem

variable {t' : SystemTask}

theorem active_step (h : Step s e s') (ht' : s'.db.task? id = some t')
    (hact : t'.status.terminal = false) :
    (∃ t, s.db.task? id = some t ∧ t.status.terminal = false ∧ t.type = t'.type) ∨
      (∃ payload state, e = .creates id t'.type payload state) ∧
        ∀ id t, s.db.task? id = some t → t.activeKey ≠ some t'.type := by
  have hmov := task_step h id
  rw [ht'] at hmov
  generalize ho : s.db.task? id = o at hmov
  cases hmov with
  | keeps => exact .inl ⟨t', rfl, hact, rfl⟩
  | creates he hfr => exact .inr ⟨⟨_, _, he⟩, hfr⟩
  | writes => exact .inl ⟨_, rfl, hact, rfl⟩
  | starts _ _ _ _ hpen => exact .inl ⟨_, rfl, by rw [hpen]; rfl, rfl⟩
  | expires => cases hact
  | finishes _ hsts =>
    rw [hsts] at hact
    cases hact

theorem activeKey_step (hwf : Wf s) (h : Step s e s') (ht' : s'.db.task? id = some t') :
    t'.activeKey = if t'.status.terminal then none else some t'.type := by
  have hmov := task_step h id
  rw [ht'] at hmov
  generalize ho : s.db.task? id = o at hmov
  cases hmov with
  | keeps => exact hwf.active id t' ho
  | creates => rfl
  | writes =>
    have hkey := hwf.active id _ ho
    exact hkey
  | starts _ _ _ _ hpen =>
    have hkey := hwf.active id _ ho
    rw [hpen] at hkey
    exact hkey
  | expires => rfl
  | finishes _ hsts => exact (if_pos hsts).symm

theorem wf_step (s : SystemTasks) (e : LeaseEvent) (s' : SystemTasks) (hwf : Wf s)
    (h : Step s e s') : Wf s' := by
  -- rows stay, with their types
  have hstay : ∀ {id type}, (∃ t, s.db.task? id = some t ∧ t.type = type) →
      ∃ t, s'.db.task? id = some t ∧ t.type = type := by
    rintro id type ⟨t, ht, rfl⟩
    obtain ⟨t', ht', htype, -⟩ := status_step h ht
    exact ⟨t', ht', htype⟩
  refine ⟨?_, ?_, ?_, ?_, ?_, ?_⟩
  · intro id t' ht'
    exact activeKey_step hwf h ht'
  · intro id id' t₁' t₂' ht₁' ht₂' hact₁ hact₂ htype
    have hkey : ∀ id t, s.db.task? id = some t → t.status.terminal = false →
        t.activeKey = some t.type := by
      intro id t ht hact
      rw [hwf.active id t ht, hact]
      rfl
    rcases active_step h ht₁' hact₁ with ⟨t₁, ht₁, ha₁, htype₁⟩ | ⟨⟨_, _, he₁⟩, hfr₁⟩
    · rcases active_step h ht₂' hact₂ with ⟨t₂, ht₂, ha₂, htype₂⟩ | ⟨-, hfr₂⟩
      · exact hwf.single id id' t₁ t₂ ht₁ ht₂ ha₁ ha₂ (by rw [htype₁, htype₂, htype])
      · exact absurd (by rw [hkey id t₁ ht₁ ha₁, htype₁, htype]) (hfr₂ id t₁ ht₁)
    · rcases active_step h ht₂' hact₂ with ⟨t₂, ht₂, ha₂, htype₂⟩ | ⟨⟨_, _, he₂⟩, -⟩
      · exact absurd (by rw [hkey id' t₂ ht₂ ha₂, htype₂, htype]) (hfr₁ id' t₂ ht₂)
      rw [he₁, LeaseEvent.creates.injEq] at he₂
      exact he₂.1
  · intro type l' hl'
    have hmov := lock_step h type
    rw [hl'] at hmov
    generalize ho : s.db.lock? type = o at hmov
    cases hmov with
    | keeps => exact hstay (hwf.typed type l' ho)
    | inserts he hat htype | takes he hat htype =>
      have hclaim := hwf.claims _ _ (by rw [hat]; rfl)
      rw [htype] at hclaim
      exact hstay hclaim
    | renews =>
      have hrow := hwf.typed type _ ho
      exact hstay hrow
  · intro runner c hclaim
    rcases claim_step h hclaim with hold | ⟨t, ht, htype, -⟩
    · exact hstay (hwf.claims runner c hold)
    · exact hstay ⟨t, ht, htype⟩
  · intro runner now hnow
    have hclock := clock_step h
    rcases now_step h hnow with hold | rfl
    · exact (hwf.times runner now hold).trans hclock
    · exact hclock
  · intro id runner hmem
    rcases releases_step h hmem with hold | hter
    · obtain ⟨t, ht, hter⟩ := hwf.released id runner hold
      obtain ⟨t', ht', hsts⟩ := terminal_run (.cons h (.nil _)) hter ⟨t, ht, rfl⟩
      exact ⟨t', ht', hsts ▸ hter⟩
    · exact hter

/-! ## Leases that are acted upon in time -/

/-- The claim whose task the runner's next statement starts. -/
def starting? (s : SystemTasks) (runner : String) : Option SystemTaskClaim :=
  match s.pass runner with
  | .start c => if (s.db.startTask c.id c.type runner c.now).isSome then some c else none
  | _ => none

/-- The runner's lock of the task has not expired since the runner read the time. -/
def InTime (s : SystemTasks) (id : Nat) (runner : String) (now : Nat) : Prop :=
  s.db.lockHeld id runner now = true → s.db.lockHeld id runner s.clock = true

instance (s : SystemTasks) (id : Nat) (runner : String) (now : Nat) :
    Decidable (s.InTime id runner now) :=
  @instDecidableForall _ _ (instDecidableEqBool _ _) (instDecidableEqBool _ _)

/-- A statement that relies on a lease runs before the lease has expired: the update that starts a
claimed task, a renewal, and the updates of a state and of a result.  Updates without effect are
free. -/
def Prompt (s : SystemTasks) : LeaseEvent → Prop
  | .runs runner =>
      ((s.starting? runner).all fun c => s.db.lockHeld c.id runner s.clock) = true
  | .renews id runner now lockUntil =>
      (s.db.renewSystemTaskLock id runner now lockUntil).isSome = true →
        s.db.lockHeld id runner s.clock = true ∧ s.clock ≤ lockUntil
  | .updates id runner now state =>
      (s.db.updateSystemTaskState id runner now state).isSome = true → s.InTime id runner now
  | .finishes id runner now status result error =>
      (s.db.finishSystemTask id runner now status result error).isSome = true →
        s.InTime id runner now
  | _ => True

instance (s : SystemTasks) : (e : LeaseEvent) → Decidable (s.Prompt e)
  | .runs _ => instDecidableEqBool _ _
  | .renews .. => @instDecidableForall _ _ (instDecidableEqBool _ _)
      (@instDecidableAnd _ _ (instDecidableEqBool _ _) (Nat.decLe _ _))
  | .updates .. | .finishes .. => @instDecidableForall _ _ (instDecidableEqBool _ _) inferInstance
  | .tick _ | .creates .. | .beginsExpire _ | .beginsClaim .. | .fails _ | .returns _
  | .releases .. => .isTrue trivial

/-- The steps of runners that are never late. -/
def PromptStep (s : SystemTasks) (e : LeaseEvent) (s' : SystemTasks) : Prop :=
  Step s e s' ∧ s.Prompt e

/-- Runs of runners that are never late. -/
abbrev PromptRuns := Steps.Run PromptStep

theorem PromptStep.step {s s' : SystemTasks} {e : LeaseEvent} (h : PromptStep s e s') :
    Step s e s' := h.1

/-- The lease of a running task: its runner's lock is there, it outlasts the time of every pass
that could take it or delete it, and its runner does not claim the task again. -/
structure Lease (s : SystemTasks) (t : SystemTask) (l : SystemTaskLock) : Prop where
  lock : s.db.lock? t.type = some l
  task : l.taskID = t.id
  holder : l.lockedBy = t.lockedBy
  claims : ∀ runner c, (s.pass runner).claim? = some c → c.type = t.type → c.now ≤ l.lockedUntil
  others : ∀ runner c, (s.pass runner).claim? = some c → c.id = t.id → runner ≠ t.lockedBy
  deletes : ∀ runner now lock, (s.pass runner).deleting? = some (now, lock) →
    lock.taskID = t.id → now ≤ l.lockedUntil

/-- Every running task has its lease. -/
def Leased (s : SystemTasks) : Prop :=
  ∀ id t, s.db.task? id = some t → t.status = .running → ∃ l, Lease s t l

/-- A task runs because it did, or because a claim has just started it. -/
theorem running_step (h : Step s e s') (ht' : s'.db.task? id = some t')
    (hrun : t'.status = .running) :
    (∃ t, s.db.task? id = some t ∧ t.status = .running ∧ t.type = t'.type ∧
        t.lockedBy = t'.lockedBy) ∨
      ∃ runner c t, e = .runs runner ∧ s.pass runner = .start c ∧ c.id = id ∧
        c.type = t'.type ∧ t'.lockedBy = runner ∧ s.db.task? id = some t ∧
        t.status = .pending ∧ t.type = t'.type := by
  have hmov := task_step h id
  rw [ht'] at hmov
  generalize ho : s.db.task? id = o at hmov
  cases hmov with
  | keeps => exact .inl ⟨t', rfl, hrun, rfl, rfl⟩
  | creates => cases hrun
  | writes => exact .inl ⟨_, rfl, hrun, rfl, rfl⟩
  | starts he hat hid htype hpen =>
    exact .inr ⟨_, _, _, he, hat, hid, htype, rfl, rfl, hpen, rfl⟩
  | expires => cases hrun
  | finishes _ hsts =>
    dsimp only at hrun
    rw [hrun] at hsts
    cases hsts

theorem not_running_of_mark (h : Step s (.runs runner) s') {lock : SystemTaskLock}
    {todo : List SystemTaskLock} (hat : s.pass runner = .stale now (lock :: todo))
    (ht' : s'.db.task? lock.taskID = some t') : t'.status ≠ .running := by
  obtain ⟨-, rfl⟩ := h
  have hdb : (s.run runner).db = s.db.markSystemTaskLeaseExpired lock.taskID s.clock := by
    rw [run, hat]
    rfl
  change (s.run runner).db.task? lock.taskID = some t' at ht'
  rw [hdb, task?_markSystemTaskLeaseExpired] at ht'
  obtain ⟨t, ht, rfl⟩ := map_eq_some_iff.mp ht'
  have hid : t.id = lock.taskID := id_of_task? ht
  by_cases hrun : t.status = .running
  · simp [hid, hrun]
  · simp [hrun]

variable {c : SystemTaskClaim}

open PassAt (exec find insertLock)

theorem claim?_of_start (h : Step s (.runs runner) s') (hat : s.pass runner = .start c)
    (hsta : (s.db.startTask c.id c.type runner c.now).isSome = true) :
    (s'.pass runner).claim? = none := by
  obtain ⟨-, rfl⟩ := h
  obtain ⟨db, hdb⟩ := isSome_iff_exists.mp hsta
  have hpla : (s.run runner).pass runner = .reread c := by
    rw [run, goTo, hat]
    dsimp only [exec]
    rw [hdb, Function.update_self]
  show ((s.run runner).pass runner).claim? = none
  rw [hpla]
  rfl

theorem startTask_isSome {db : SystemTaskDB} (runner : String) (now : Nat)
    (ht : db.task? id = some t) (htype : t.type = type) (hpen : t.status = .pending) :
    (db.startTask id type runner now).isSome = true := by
  obtain ⟨hmem, hid⟩ := db.tasks.find?_eq_some_iff.mp ht
  rw [startTask, db.tasks.update?_of_mem hmem (by simp [hid, htype, hpen])]
  rfl

theorem claim_old (hwf : Wf s) (h : Step s e s') (ht : s.db.task? id = some t)
    (hrun : t.status = .running)
    (hclaim : (s'.pass runner).claim? = some c) (hsm : c.type = t.type ∨ c.id = id) :
    (s.pass runner).claim? = some c := by
  rcases claim_step h hclaim with hold | ⟨t₂, ht₂, htype, hpen⟩
  · exact hold
  have hid : c.id = id := by
    rcases hsm with hsm | hid
    · exact hwf.single c.id id t₂ t ht₂ ht (by rw [hpen]; rfl) (by rw [hrun]; rfl) (htype.trans hsm)
    · exact hid
  rw [hid, ht] at ht₂
  cases ht₂
  rw [hrun] at hpen
  cases hpen

/-- **The lock of a running task stays**, and is renewed only in time. -/
theorem Lease.lock_step {l : SystemTaskLock} (hlea : Lease s t l) (hwf : Wf s)
    (h : PromptStep s e s') (ht : s.db.task? t.id = some t) (hrun : t.status = .running) :
    ∃ l', s'.db.lock? t.type = some l' ∧ l'.taskID = l.taskID ∧ l'.lockedBy = l.lockedBy ∧
      (l'.lockedUntil = l.lockedUntil ∨ s.clock ≤ l'.lockedUntil ∧ s.clock ≤ l.lockedUntil) := by
  have hmov := SystemTasks.lock_step h.step t.type
  rw [hlea.lock] at hmov
  generalize s'.db.lock? t.type = o at hmov
  cases hmov with
  | keeps => exact ⟨l, rfl, rfl, rfl, .inl rfl⟩
  | takes he hat htype hsta =>
    have hcnt := hlea.claims _ _ (by rw [hat]; rfl) htype
    omega
  | @renews _ now lockUntil he hcnt =>
    refine ⟨_, rfl, rfl, rfl, .inr ?_⟩
    have hprompt := h.2
    rw [he] at hprompt
    have hany : (s.db.renewSystemTaskLock l.taskID l.lockedBy now lockUntil).isSome = true := by
      unfold renewSystemTaskLock
      rw [s.db.locks.update?_of_mem (s.db.locks.find?_eq_some_iff.mp hlea.lock).1 (by simp [hcnt])]
      rfl
    obtain ⟨hhd, hunt⟩ := hprompt hany
    rw [hlea.task] at hhd
    obtain ⟨l₂, hl₂, -, -, hcnt₂⟩ := hwf.lock_of_held ht hhd
    rw [hlea.lock] at hl₂
    cases hl₂
    exact ⟨hunt, hcnt₂⟩
  | releases he hat hid =>
    exact absurd hlea.holder (hlea.others _ _ (by rw [hat]; rfl) (hid.trans hlea.task))
  | releasesFinished he =>
    obtain ⟨hen, -⟩ := h.step
    rw [he] at hen
    obtain ⟨t₂, ht₂, hter⟩ := hwf.released _ _ hen
    rw [hlea.task, ht] at ht₂
    cases ht₂
    rw [hrun] at hter
    cases hter
  | expires he hat hid hsta =>
    have hcnt := hlea.deletes _ _ _ (by rw [hat]; rfl) (hid.trans hlea.task)
    omega

theorem leased_step (hwf : Wf s) (hls : Leased s) (h : PromptStep s e s') : Leased s' := by
  intro id t' ht' hrun'
  have hid' : t'.id = id := id_of_task? ht'
  rcases running_step h.step ht' hrun' with
    ⟨t, ht, hrun, htype, hhol⟩ | ⟨runner, c, t, he, hat, hid, htype, hhol, ht, hpen, htty⟩
  · -- it ran before
    have hid : t.id = id := id_of_task? ht
    obtain ⟨l, hlea⟩ := hls id t ht hrun
    rw [← hid] at ht
    obtain ⟨l', hl', hta, hby, hunt⟩ := hlea.lock_step hwf h ht hrun
    have hlas : ∀ runner now, (s.pass runner).now? = some now → now ≤ l.lockedUntil →
        now ≤ l'.lockedUntil := by
      intro runner now hnow hle
      have hpa := hwf.times runner now hnow
      omega
    refine ⟨l', ⟨htype ▸ hl', ?_, ?_, ?_, ?_, ?_⟩⟩
    · rw [hta, hlea.task, hid, hid']
    · rw [hby, hlea.holder, hhol]
    · intro runner c hclaim hc
      have hold := claim_old hwf h.step ht hrun hclaim (.inl (hc.trans htype.symm))
      exact hlas runner c.now (PassAt.now?_of_claim? hold)
        (hlea.claims runner c hold (hc.trans htype.symm))
    · intro runner c hclaim hc
      rw [hid', ← hid] at hc
      have hold := claim_old hwf h.step ht hrun hclaim (.inr hc)
      rw [← hhol]
      exact hlea.others runner c hold hc
    · intro runner now lock hdel hlock
      rw [hid', ← hid] at hlock
      rcases deleting_step h.step hdel with hold | ⟨he, todo, hat⟩
      · exact hlas runner now (PassAt.now?_of_deleting? hold)
          (hlea.deletes runner now lock hold hlock)
      · rw [he] at h
        rw [← hid, ← hlock] at ht'
        exact absurd hrun' (not_running_of_mark h.step hat ht')
  · -- a claim has just started it, in time
    have hsta : (s.db.startTask c.id c.type runner c.now).isSome = true :=
      startTask_isSome runner c.now (hid ▸ ht) (htty.trans htype.symm) hpen
    have hprompt := h.2
    rw [he] at hprompt h
    have hst : s.starting? runner = some c := by
      rw [starting?, hat]
      exact if_pos hsta
    obtain ⟨l, hl, hta, hby, hcnt⟩ := hwf.lock_of_held ht (hid ▸ (all_eq_true _ _).mp hprompt c hst)
    rw [htty, ← htype] at hl
    rw [← hid] at hta
    have hsm : s'.db.lock? c.type = some l := by
      have hmov := SystemTasks.lock_step h.step c.type
      rw [hl] at hmov
      generalize s'.db.lock? c.type = o at hmov
      cases hmov with
      | keeps => rfl
      | takes he' hat' | releases he' hat' | expires he' hat' =>
        cases he'
        rw [hat] at hat'
        cases hat'
      | renews he' | releasesFinished he' => cases he'
    have hlas : ∀ runner now, (s'.pass runner).now? = some now → now ≤ l.lockedUntil := by
      intro runner now hnow
      rcases now_step h.step hnow with hold | rfl
      · exact (hwf.times runner now hold).trans hcnt
      · exact hcnt
    refine ⟨l, ⟨htype ▸ hsm, ?_, ?_, ?_, ?_, ?_⟩⟩
    · rw [hta, hid, hid']
    · rw [hby, hhol]
    · intro other c' hclaim hc
      exact hlas other c'.now (PassAt.now?_of_claim? hclaim)
    · intro other c' hclaim hc heq
      rw [heq, hhol, claim?_of_start h.step hat hsta] at hclaim
      cases hclaim
    · intro other now lock hdel hlock
      exact hlas other now (PassAt.now?_of_deleting? hdel)

/-- What runners that are never late keep. -/
def Sound (s : SystemTasks) : Prop := Wf s ∧ Leased s

theorem sound_step (s : SystemTasks) (e : LeaseEvent) (s' : SystemTasks) (hsound : Sound s)
    (h : PromptStep s e s') : Sound s' :=
  ⟨wf_step s e s' hsound.1 h.step, leased_step hsound.1 hsound.2 h⟩

theorem sound_initial (clock : Nat) : Sound (initial clock) := by
  refine ⟨wf_initial clock, ?_⟩
  intro id t ht
  cases ht

/-! ## A lease that has run out -/

/-- The task is running, and its lock counts only until a time that has passed. -/
def Lapsed (s : SystemTasks) (id lockedUntil : Nat) : Prop :=
  ∃ t l, s.db.task? id = some t ∧ t.status = .running ∧ s.db.lock? t.type = some l ∧
    l.taskID = id ∧ l.lockedUntil = lockedUntil ∧ lockedUntil < s.clock

/-- The task has failed. -/
def Failed (s : SystemTasks) (id : Nat) : Prop :=
  ∃ t, s.db.task? id = some t ∧ t.status = .failed

variable {lockedUntil : Nat}

/-- Nobody but an expiry acts on a lapsed lease. -/
theorem lapsed_step (hsound : Sound s) (h : PromptStep s e s')
    (hlap : Lapsed s id lockedUntil) : Failed s' id ∨ Lapsed s' id lockedUntil := by
  obtain ⟨hwf, hls⟩ := hsound
  obtain ⟨t, l, ht, hrun, hl, hta, rfl, hpa⟩ := hlap
  have hid : t.id = id := id_of_task? ht
  obtain ⟨l₂, hlea⟩ := hls id t ht hrun
  obtain rfl : l₂ = l := by
    have hlock := hlea.lock
    rw [hl] at hlock
    exact (Option.some.inj hlock).symm
  obtain ⟨l', hl', hta', -, hunt⟩ := hlea.lock_step hwf h (hid ▸ ht) hrun
  have hstay : l'.lockedUntil = l₂.lockedUntil := by omega
  have hclock := clock_step h.step
  have hre : ∀ t', s'.db.task? id = some t' → t'.status = .running → t'.type = t.type →
      Lapsed s' id l₂.lockedUntil := by
    intro t' ht' hrun' htype
    exact ⟨t', l', ht', hrun', htype ▸ hl', hta'.trans hta, hstay, by omega⟩
  have hmov := task_step h.step id
  rw [ht] at hmov
  generalize ho' : s'.db.task? id = o' at hmov
  cases hmov with
  | keeps => exact .inr (hre t ho' hrun rfl)
  | writes => exact .inr (hre _ ho' hrun rfl)
  | starts _ _ _ _ hpen =>
    rw [hrun] at hpen
    cases hpen
  | expires => exact .inl ⟨_, ho', rfl⟩
  | @finishes _ runner now status result error he hsts hhd =>
    -- the runner would need a lock that still counts
    have hprompt := h.2
    rw [he] at hprompt
    have hany : (s.db.finishSystemTask id runner now status result error).isSome = true := by
      rw [finishSystemTask, s.db.tasks.update?_of_mem (s.db.tasks.find?_eq_some_iff.mp ht).1 hhd]
      rfl
    have hheld := hprompt hany (writable_iff.mp hhd).2.2.2
    obtain ⟨l₃, hl₃, -, -, hcnt⟩ := hwf.lock_of_held ht hheld
    rw [hl] at hl₃
    cases hl₃
    omega

/-- The task has failed, or its lease has lapsed and the runner's pass will see it. -/
def Doomed (s : SystemTasks) (id lockedUntil : Nat) (runner : String) : Prop :=
  Failed s id ∨ Lapsed s id lockedUntil ∧ (s.pass runner).Sees id lockedUntil

theorem Failed.run {es : List LeaseEvent} (h : Failed s id) (hrun : Runs s es s') : Failed s' id :=
  terminal_run hrun rfl h

theorem doomed_step (hsound : Sound s) (h : PromptStep s e s')
    (hdoo : Doomed s id lockedUntil runner) : Doomed s' id lockedUntil runner := by
  rcases hdoo with hfai | ⟨hlap, hse⟩
  · exact .inl (hfai.run (.cons h.step (.nil _)))
  rcases lapsed_step hsound h hlap with hfai' | hlap'
  · exact .inl hfai'
  refine .inr ⟨hlap', ?_⟩
  obtain ⟨t, l, ht, hrun, hl, hta, rfl, hpa⟩ := hlap
  have hmov := pass_step h.step runner
  generalize s'.pass runner = at' at hmov
  cases hmov with
  | keeps => exact hse
  | beginsExpire => exact hpa
  | beginsClaim | returns => trivial
  | goes hnext he =>
    generalize hp : s.pass runner = p at hnext he hse
    cases hnext with
    | waits => exact hse
    | reads now =>
      refine ⟨l, mem_filter.mpr ⟨(s.db.locks.find?_eq_some_iff.mp hl).1, ?_⟩, hta⟩
      exact decide_eq_true hse
    | marks now lock todo =>
      have hru : e = .runs runner := by
        rcases he with he | hfa
        · exact he
        · cases hfa
      rw [hru] at h
      obtain ⟨l₂, hmem, hid₂⟩ := hse
      rcases mem_cons.mp hmem with rfl | hre
      · -- it is the task's turn, so it is not running any more
        obtain ⟨t', -, ht', hrun', -⟩ := hlap'
        rw [← hid₂] at ht'
        exact absurd hrun' (not_running_of_mark h.step hp ht')
      · exact ⟨l₂, hre, hid₂⟩
    | deletes => exact hse
    | _ => trivial

/-- **A whole pass fails the tasks whose leases had lapsed before it.** -/
theorem lapsed_fails {es₁ es₂ es₃ : List LeaseEvent} (hsound : Sound s)
    (hlap : Lapsed s id lockedUntil)
    (h : PromptRuns s (es₁ ++ .beginsExpire runner :: (es₂ ++ .returns runner :: es₃)) s') :
    Failed s' id := by
  obtain ⟨s₁, h₁, h⟩ := h.of_append
  cases h with
  | @cons _ s₂ _ _ _ hbeg h =>
  obtain ⟨s₃, h₂, h⟩ := h.of_append
  cases h with
  | @cons _ s₄ _ _ _ hret h₃ =>
  -- until the pass begins
  obtain ⟨hsound₁, hop₁⟩ := h₁.invariant
    (I := fun s => Sound s ∧ (Failed s id ∨ Lapsed s id lockedUntil)) (by
      rintro s e s' ⟨hsound, hop⟩ hst
      refine ⟨sound_step s e s' hsound hst, ?_⟩
      rcases hop with hfai | hlap
      · exact .inl (hfai.run (.cons hst.step (.nil _)))
      · exact lapsed_step hsound hst hlap) ⟨hsound, .inr hlap⟩
  have hid : s₁.pass runner = .idle := hbeg.step.1
  have hdoo₁ : Doomed s₁ id lockedUntil runner := by
    refine hop₁.imp_right fun hlap => ⟨hlap, ?_⟩
    rw [hid]
    trivial
  -- until it returns
  obtain ⟨-, hdoo₃⟩ := h₂.invariant
    (I := fun s => Sound s ∧ Doomed s id lockedUntil runner) (by
      rintro s e s' ⟨hsound, hdoo⟩ hst
      exact ⟨sound_step s e s' hsound hst, doomed_step hsound hst hdoo⟩)
    ⟨sound_step _ _ _ hsound₁ hbeg, doomed_step hsound₁ hbeg hdoo₁⟩
  have hfai₃ : Failed s₃ id := by
    obtain ⟨hbu, hpa⟩ := hret.step.1
    rcases hdoo₃ with hfai | ⟨-, hse⟩
    · exact hfai
    generalize s₃.pass runner = p at hbu hpa hse
    cases p with
    | idle => exact absurd rfl hpa
    | stale now todo =>
      cases todo with
      | nil =>
        obtain ⟨l, hmem, -⟩ := hse
        cases hmem
      | cons => cases hbu
    | _ => cases hbu
  exact hfai₃.run (.cons hret.step (h₃.mono fun _ _ _ h => h.step))

/-! ## A claim by itself -/

/-- A statement other than the start of a task is never late. -/
theorem promptStep_runs {p at' : PassAt} {db' : SystemTaskDB} (hat : s.pass runner = p)
    (hbu : p.busy = true) (hstr : ∀ c, p ≠ .start c)
    (hex : p.exec s.clock runner s.db = (db', at')) :
    ∃ s', PromptStep s (.runs runner) s' ∧ s'.db = db' ∧ s'.pass runner = at' ∧
      s'.clock = s.clock := by
  subst hat
  have hsta : s.starting? runner = none := by
    unfold starting?
    split
    · rename_i c hat
      exact absurd hat (hstr c)
    · rfl
  have hprompt : s.Prompt (.runs runner) := by
    dsimp only [Prompt]
    rw [hsta]
    rfl
  refine ⟨s.run runner, ⟨⟨hbu, rfl⟩, hprompt⟩, ?_, ?_, rfl⟩
  · show ((s.pass runner).exec s.clock runner s.db).1 = db'
    rw [hex]
  · show Function.update s.pass runner ((s.pass runner).exec s.clock runner s.db).2 runner = at'
    rw [Function.update_self, hex]

/-- The runner's claim is about to start its task, with the lock in its hands. -/
structure Ready (s : SystemTasks) (runner : String) (c : SystemTaskClaim) : Prop where
  place : s.pass runner = .start c
  pending : ∃ t, s.db.task? c.id = some t ∧ t.type = c.type ∧ t.status = .pending
  lock : ∃ l, s.db.lock? c.type = some l ∧ l.taskID = c.id ∧ l.lockedBy = runner ∧
    l.lockedUntil = c.lockUntil

theorem claim_inserts (hat : s.pass runner = .insertLock c)
    (hpen : ∃ t, s.db.task? c.id = some t ∧ t.type = c.type ∧ t.status = .pending)
    (hfr : s.db.lock? c.type = none) :
    ∃ s', PromptStep s (.runs runner) s' ∧ Ready s' runner c ∧ s'.clock = s.clock := by
  obtain ⟨locks, hcreate⟩ := s.db.locks.create_of_find?_eq_none (a := c.lock runner) hfr
  have hex : (insertLock c).exec s.clock runner s.db =
      ({ s.db with locks := locks }, .start c) := by
    dsimp only [exec]
    rw [hcreate]
  obtain ⟨s', hst, hdb, hat', hclock⟩ := promptStep_runs hat rfl (by simp) hex
  refine ⟨s', hst, ⟨hat', by rw [hdb]; exact hpen, ?_⟩, hclock⟩
  rw [hdb]
  exact ⟨c.lock runner, (s.db.locks.find?_create hcreate c.type).trans (if_pos rfl), rfl, rfl, rfl⟩

theorem claim_takes {expired : Nat} {l : SystemTaskLock} (hat : s.pass runner = .takeLock c expired)
    (hpen : ∃ t, s.db.task? c.id = some t ∧ t.type = c.type ∧ t.status = .pending)
    (hl : s.db.lock? c.type = some l) (hsta : l.lockedUntil < c.now) :
    ∃ n s', PromptRuns s (List.replicate n (.runs runner)) s' ∧ Ready s' runner c ∧
      s'.clock = s.clock := by
  obtain ⟨hmem, htype⟩ := s.db.locks.find?_eq_some_iff.mp hl
  obtain ⟨db₁, hta⟩ : ∃ db₁, s.db.takeLock c.type c.id runner c.now c.lockUntil = some db₁ := by
    rw [takeLock, s.db.locks.update?_of_mem hmem (by simp [htype, hsta])]
    exact ⟨_, rfl⟩
  have hlock₁ : ∃ l, db₁.lock? c.type = some l ∧ l.taskID = c.id ∧ l.lockedBy = runner ∧
      l.lockedUntil = c.lockUntil := by
    have hlock := lock?_of_update hta c.type
    rw [hl, map_some, if_pos (by simp [htype, hsta])] at hlock
    exact ⟨_, hlock, rfl, rfl, rfl⟩
  have hpen₁ : ∃ t, db₁.task? c.id = some t ∧ t.type = c.type ∧ t.status = .pending := by
    rw [task?_of_locks hta]
    exact hpen
  have hex : (PassAt.takeLock c expired).exec s.clock runner s.db =
      (db₁, if expired = c.id then .start c else .markExpired c expired) := by
    dsimp only [exec]
    rw [hta]
  obtain ⟨s₁, h₁, hdb₁, hat₁, hclock₁⟩ := promptStep_runs hat rfl (by simp) hex
  by_cases hown : expired = c.id
  · rw [if_pos hown] at hat₁
    refine ⟨1, s₁, .cons h₁ (.nil _), ⟨hat₁, ?_, ?_⟩, hclock₁⟩
    · rw [hdb₁]
      exact hpen₁
    · rw [hdb₁]
      exact hlock₁
  · -- the mark is of another task
    rw [if_neg hown] at hat₁
    obtain ⟨s₂, h₂, hdb₂, hat₂, hclock₂⟩ := promptStep_runs hat₁ rfl (by simp) rfl
    refine ⟨2, s₂, .cons h₁ (.cons h₂ (.nil _)), ⟨hat₂, ?_, ?_⟩, hclock₂.trans hclock₁⟩
    · obtain ⟨t, ht, hre⟩ := hpen₁
      refine ⟨t, ?_, hre⟩
      have hid : t.id = c.id := id_of_task? ht
      rw [hdb₂, hdb₁, task?_markSystemTaskLeaseExpired, ht]
      simp [hid, Ne.symm hown]
    · rw [hdb₂, hdb₁]
      exact hlock₁

/-- A claim of a pending task gets the lock if nobody holds it. -/
theorem claim_acquires (hat : s.pass runner = .insertLock c)
    (hpen : ∃ t, s.db.task? c.id = some t ∧ t.type = c.type ∧ t.status = .pending)
    (hfr : ∀ l, s.db.lock? c.type = some l → l.lockedUntil < c.now) :
    ∃ n s', PromptRuns s (List.replicate n (.runs runner)) s' ∧ Ready s' runner c ∧
      s'.clock = s.clock := by
  cases hlock : s.db.lock? c.type with
  | none =>
    obtain ⟨s', hst, hre⟩ := claim_inserts hat hpen hlock
    exact ⟨1, s', .cons hst (.nil _), hre⟩
  | some l =>
    have hsta := hfr l hlock
    -- the insert fails, the lock is read and then taken
    have hmee : (insertLock c).exec s.clock runner s.db = (s.db, .readLock c) := by
      dsimp only [exec]
      cases hcreate : s.db.locks.create (c.lock runner) with
      | none => rfl
      | some locks =>
        have hno : s.db.lock? c.type = none := (s.db.locks.rows_create hcreate).2
        rw [hlock] at hno
        cases hno
    obtain ⟨s₁, h₁, hdb₁, hat₁, hclock₁⟩ := promptStep_runs hat rfl (by simp) hmee
    have hrds : (PassAt.readLock c).exec s₁.clock runner s₁.db = (s.db, .takeLock c l.taskID) := by
      unfold exec
      rw [hdb₁]
      dsimp only
      rw [hlock]
      exact if_neg (Nat.not_le.mpr hsta)
    obtain ⟨s₂, h₂, hdb₂, hat₂, hclock₂⟩ := promptStep_runs hat₁ rfl (by simp) hrds
    rw [← hdb₂] at hpen hlock
    obtain ⟨n, s₃, hru, hready, hclock₃⟩ := claim_takes hat₂ hpen hlock hsta
    exact ⟨n + 2, s₃, .cons h₁ (.cons h₂ hru), hready, hclock₃.trans (hclock₂.trans hclock₁)⟩

/-- A claim by the runner, run by itself, starts the task. -/
def Claimable (s : SystemTasks) (t : SystemTask) : Prop :=
  ∀ runner lockUntil, s.pass runner = .idle → s.clock ≤ lockUntil →
    ∃ n s' t', PromptRuns s
        (.beginsClaim runner t.id t.type lockUntil :: List.replicate n (.runs runner)) s' ∧
      s'.db.task? t.id = some t' ∧ t'.status = .running ∧ t'.lockedBy = runner ∧
      s'.Holds t.type runner

/-- **A pending task is claimable while nobody holds the lock of its type.** -/
theorem claimable_of_pending (ht : s.db.task? t.id = some t)
    (hpen : t.status = .pending) (hfr : ∀ runner, ¬ s.Holds t.type runner) : Claimable s t := by
  intro runner lockUntil hid hunt
  obtain ⟨c, hc⟩ : ∃ c : SystemTaskClaim, c = ⟨t.id, t.type, s.clock, lockUntil⟩ := ⟨_, rfl⟩
  have hbeg : PromptStep s (.beginsClaim runner t.id t.type lockUntil)
      (s.goTo runner (.find c)) := ⟨⟨hid, by rw [hc]; rfl⟩, trivial⟩
  have hpla : (s.goTo runner (.find c)).pass runner = .find c := Function.update_self _ _ _
  have hfd : s.db.findPending c.id c.type = some t := by
    rw [findPending, hc, ht]
    simp [hpen]
  have hfin : (find c).exec s.clock runner s.db = (s.db, .insertLock c) := by
    dsimp only [exec]
    rw [hfd]
  obtain ⟨s₁, h₁, hdb₁, hat₁, hclock₁⟩ := promptStep_runs hpla rfl (by simp) hfin
  have hpen₁ : ∃ t, s₁.db.task? c.id = some t ∧ t.type = c.type ∧ t.status = .pending := by
    rw [hdb₁, hc]
    exact ⟨t, ht, rfl, hpen⟩
  have hfr₁ : ∀ l, s₁.db.lock? c.type = some l → l.lockedUntil < c.now := by
    rw [hdb₁, hc]
    intro l hl
    by_contra hcnt
    exact hfr l.lockedBy ⟨l, hl, rfl, Nat.not_lt.mp hcnt⟩
  obtain ⟨n, s₂, hru, hready, hclock₂⟩ := claim_acquires hat₁ hpen₁ hfr₁
  have hclock : s₂.clock = s.clock := hclock₂.trans hclock₁
  obtain ⟨t₂, ht₂, htype₂, hpen₂⟩ := hready.pending
  obtain ⟨l, hl, hta, hby, hloc⟩ := hready.lock
  have hcnt : s₂.clock ≤ l.lockedUntil := by
    rw [hclock, hloc, hc]
    exact hunt
  -- the start is in time
  have hbu : (s₂.pass runner).busy = true := by
    rw [hready.place]
    rfl
  have hst : PromptStep s₂ (.runs runner) (s₂.run runner) := by
    refine ⟨⟨hbu, rfl⟩, (all_eq_true _ _).mpr ?_⟩
    intro c' hc'
    rw [starting?, hready.place] at hc'
    obtain rfl : c = c' := by
      dsimp only at hc'
      split at hc'
      · exact Option.some.inj hc'
      · cases hc'
    exact lockHeld_iff.mpr ⟨_, l, hl, hta, hby, hcnt⟩
  obtain ⟨db, hdb⟩ := isSome_iff_exists.mp (startTask_isSome runner c.now ht₂ htype₂ hpen₂)
  have haft : (s₂.run runner).db = db := by
    rw [run, hready.place]
    dsimp only [exec]
    rw [hdb]
    rfl
  have hta' := task?_of_update hdb c.id
  have hid₂ : t₂.id = c.id := id_of_task? ht₂
  rw [ht₂, map_some, if_pos (by simp [hid₂, htype₂, hpen₂]), ← haft] at hta'
  have hlock' : (s₂.run runner).db.lock? c.type = some l := by
    rw [haft]
    rw [lock?_of_tasks hdb]
    exact hl
  rw [hc] at hta' hlock'
  refine ⟨n + 2, s₂.run runner, _, ?_, hta', rfl, rfl, l, hlock', hby, hcnt⟩
  rw [replicate_succ, replicate_succ']
  exact .cons hbeg (.cons h₁ (hru.append (.cons hst (.nil _))))

/-! ## The lease as a whole -/

/-- The task is running for the runner, who has the lock of its type for it, and at `now` the lock
counts. -/
def HeldAt (s : SystemTasks) (id : Nat) (runner : String) (now : Nat) : Prop :=
  ∃ t l, s.db.task? id = some t ∧ t.status = .running ∧ t.lockedBy = runner ∧
    s.db.lock? t.type = some l ∧ l.taskID = id ∧ l.lockedBy = runner ∧ now ≤ l.lockedUntil

/-- The runner held the task at the time it read, and it still does if and only if its lock has not
expired since. -/
def HeldSince (s : SystemTasks) (id : Nat) (runner : String) (now : Nat) : Prop :=
  HeldAt s id runner now ∧ (HeldAt s id runner s.clock ↔ s.InTime id runner now)

theorem Wf.heldAt (hwf : Wf s) (ht : s.db.task? id = some t)
    (hhd : s.db.writable id runner now t = true) : HeldAt s id runner now := by
  obtain ⟨-, hrun, hby, hlock⟩ := writable_iff.mp hhd
  obtain ⟨l, hl, hta, hhol, hcnt⟩ := hwf.lock_of_held ht hlock
  exact ⟨t, l, ht, hrun, hby, hl, hta, hhol, hcnt⟩

theorem Wf.heldSince (hwf : Wf s) (ht : s.db.task? id = some t)
    (hhd : s.db.writable id runner now t = true) : HeldSince s id runner now := by
  refine ⟨hwf.heldAt ht hhd, ?_, ?_⟩
  · rintro ⟨t', l, -, -, -, hl, hta, hhol, hcnt⟩ -
    exact lockHeld_iff.mpr ⟨t'.type, l, hl, hta, hhol, hcnt⟩
  · intro hin
    obtain ⟨hid, hrun, hby, hlock⟩ := writable_iff.mp hhd
    exact hwf.heldAt ht (writable_iff.mpr ⟨hid, hrun, hby, hin hlock⟩)

theorem Wf.heldSince_of_update (hwf : Wf s) {f : SystemTask → SystemTask}
    {hf : ∀ t, (f t).id = t.id}
    (h : ((s.db.tasks.update? (s.db.writable id runner now) f hf).map
      fun tasks => { s.db with tasks := tasks }).isSome = true) : HeldSince s id runner now := by
  rw [isSome_map] at h
  obtain ⟨tasks, htas⟩ := isSome_iff_exists.mp h
  obtain ⟨-, t, hmem, hp⟩ := s.db.tasks.update?_eq_some htas
  have hid := (writable_iff.mp hp).1
  exact hwf.heldSince (s.db.tasks.find?_eq_some_iff.mpr ⟨hmem, hid⟩) hp

/-- The event is a write to the task by the runner, at a time that it has read. -/
def Writes (e : LeaseEvent) (id : Nat) (runner : String) (now : Nat) : Prop :=
  (∃ state, e = .updates id runner now state) ∨
    ∃ status result error, e = .finishes id runner now status result error

theorem heldSince_of_change (hwf : Wf s) (h : Step s e s') {t t' : SystemTask}
    (ht : s.db.task? id = some t) (ht' : s'.db.task? id = some t')
    (hchg : t'.state ≠ t.state ∨ t'.result ≠ t.result) :
    ∃ runner now, Writes e id runner now ∧ HeldSince s id runner now ∧
      (s.Prompt e → HeldAt s id runner s.clock) := by
  have hmov := task_step h id
  rw [ht, ht'] at hmov
  cases hmov with
  | keeps | starts | expires => simp at hchg
  | writes he hhd =>
    have hheld := hwf.heldSince ht hhd
    refine ⟨_, _, .inl ⟨_, he⟩, hheld, fun hprompt => hheld.2.mpr ?_⟩
    rw [he] at hprompt
    refine hprompt ?_
    rw [updateSystemTaskState, s.db.tasks.update?_of_mem (s.db.tasks.find?_eq_some_iff.mp ht).1 hhd]
    rfl
  | finishes he _ hhd =>
    have hheld := hwf.heldSince ht hhd
    refine ⟨_, _, .inr ⟨_, _, _, he⟩, hheld, fun hprompt => hheld.2.mpr ?_⟩
    rw [he] at hprompt
    refine hprompt ?_
    rw [finishSystemTask, s.db.tasks.update?_of_mem (s.db.tasks.find?_eq_some_iff.mp ht).1 hhd]
    rfl

/-- **The lease is exclusive and never wedges a type.**  In every state that runners reach: one
runner holds a type; a status only moves on, and an end is final; a write of a state or a result
is by the runner who held the task at the time it read, and who holds it when the statement runs if
and only if its lock has not expired in between; a task of a type can be created once those before
it are over.  If no runner was late, and nobody holds the type: a pending task is claimable, and a
running one has failed after the next whole pass over the stale locks. -/
theorem lease_exclusive_and_live {clock : Nat} {es : List LeaseEvent}
    (h : Runs (initial clock) es s) :
    (∀ type runner runner', s.Holds type runner → s.Holds type runner' → runner = runner') ∧
    (∀ e s' id t, Step s e s' → s.db.task? id = some t →
      ∃ t', s'.db.task? id = some t' ∧ t'.type = t.type ∧ t.status.Moves t'.status) ∧
    (∀ es' s' id t, Runs s es' s' → s.db.task? id = some t → t.status.terminal = true →
      ∃ t', s'.db.task? id = some t' ∧ t'.status = t.status) ∧
    (∀ id runner now state,
      (s.db.updateSystemTaskState id runner now state).isSome = true →
        HeldSince s id runner now) ∧
    (∀ id runner now status result error,
      (s.db.finishSystemTask id runner now status result error).isSome = true →
        HeldSince s id runner now) ∧
    (∀ e s' id t t', Step s e s' → s.db.task? id = some t → s'.db.task? id = some t' →
      t'.state ≠ t.state ∨ t'.result ≠ t.result →
        ∃ runner now, Writes e id runner now ∧ HeldSince s id runner now ∧
          (s.Prompt e → HeldAt s id runner s.clock)) ∧
    (∀ type id payload state, (s.db.createSystemTask id type payload state s.clock).isSome = true ↔
      (∀ k t, s.db.task? k = some t → t.type = type → t.status.terminal = true) ∧
        s.db.task? id = none) ∧
    (PromptRuns (initial clock) es s → ∀ t, s.db.task? t.id = some t →
      (∀ runner, ¬ s.Holds t.type runner) →
        (t.status = .pending → Claimable s t) ∧
        (t.status = .running → ∀ runner es₁ es₂ es₃ s',
          PromptRuns s (es₁ ++ .beginsExpire runner :: (es₂ ++ .returns runner :: es₃)) s' →
            Failed s' t.id)) := by
  have hwf : Wf s := h.invariant wf_step (wf_initial clock)
  refine ⟨?_, ?_, ?_, ?_, ?_, ?_, ?_, ?_⟩
  · rintro type runner runner' ⟨l, hl, rfl, -⟩ ⟨l', hl', rfl, -⟩
    rw [hl] at hl'
    cases hl'
    rfl
  · intro e s' id t hst ht
    exact status_step hst ht
  · intro es' s' id t hru ht hter
    exact terminal_run hru hter ⟨t, ht, rfl⟩
  · intro id runner now state hso
    exact hwf.heldSince_of_update hso
  · intro id runner now status result error hso
    exact hwf.heldSince_of_update hso
  · intro e s' id t t' hst ht ht' hchg
    exact heldSince_of_change hwf hst ht ht' hchg
  · intro type id payload state
    rw [createSystemTask_isSome]
    refine and_congr_left fun _ => forall₂_congr fun k t => forall_congr' fun ht => ?_
    rw [hwf.active k t ht]
    cases hter : t.status.terminal <;> simp
  · intro hprompt t ht hfr
    have hsound : Sound s := hprompt.invariant sound_step (sound_initial clock)
    refine ⟨fun hpen => claimable_of_pending ht hpen hfr, ?_⟩
    intro hrun runner es₁ es₂ es₃ s' hru
    obtain ⟨l, hlea⟩ := hsound.2 t.id t ht hrun
    refine lapsed_fails hsound ⟨t, l, ht, hrun, hlea.lock, hlea.task, rfl, ?_⟩ hru
    by_contra hcnt
    exact hfr l.lockedBy ⟨l, hlea.lock, rfl, Nat.not_lt.mp hcnt⟩

/-- One step of a runner that is not late, if it is possible. -/
def applyPrompt (s : SystemTasks) (e : LeaseEvent) : Option SystemTasks :=
  if s.Prompt e then s.apply e else none

theorem promptStep_of_apply {s s' : SystemTasks} {e : LeaseEvent}
    (h : s.applyPrompt e = some s') : PromptStep s e s' := by
  unfold applyPrompt at h
  split at h
  · rename_i hprompt
    exact ⟨step_of_apply h, hprompt⟩
  · cases h

/-- Runner A starts a task and is not heard of again; after its lock has expired, a pass of runner
B fails the task. -/
theorem lease_exclusive_and_live_crash :
    ∃ es es' s s', PromptRuns (initial 0) es s ∧ Runs s es' s' ∧
      (∃ t, s.db.task? 1 = some t ∧ t.status = .running) ∧ Failed s' 1 := by
  let es : List LeaseEvent := [
    .creates 1 "log_cleanup" "" "", .beginsClaim "A" 1 "log_cleanup" 60, .runs "A", .runs "A",
    .runs "A", .runs "A", .tick 30, .updates 1 "A" 0 "half", .tick 31]
  let pass : List LeaseEvent := [.runs "B", .runs "B", .runs "B"]
  let es' : List LeaseEvent := [] ++ .beginsExpire "B" :: (pass ++ .returns "B" :: [])
  let t : SystemTask :=
    ⟨1, "log_cleanup", .running, some "log_cleanup", "", "half", "", "", "A", 0, 0⟩
  have hru : ((es.foldlM applyPrompt (initial 0)).bind fun s =>
      (es'.foldlM applyPrompt s).map fun _ =>
        (s.db.task? 1, s.db.locks.rows.map fun l => (l.type, l.lockedUntil), s.clock)) =
      some (some t, [("log_cleanup", 60)], 61) := by
    decide +kernel
  obtain ⟨s, hs, hre⟩ := bind_eq_some_iff.mp hru
  obtain ⟨s', hs', hview⟩ := map_eq_some_iff.mp hre
  simp only [Prod.mk.injEq] at hview
  obtain ⟨hta, hloc, hclock⟩ := hview
  have hprompt := Steps.Run.foldlM (fun _ _ _ => promptStep_of_apply) hs
  have hprompt' := Steps.Run.foldlM (fun _ _ _ => promptStep_of_apply) hs'
  have hfr : ∀ runner, ¬ s.Holds "log_cleanup" runner := by
    rintro runner ⟨l, hl, -, hcnt⟩
    have hmem := mem_map_of_mem (f := fun l => (l.type, l.lockedUntil))
      (s.db.locks.find?_eq_some_iff.mp hl).1
    rw [hloc, mem_singleton, Prod.mk.injEq] at hmem
    omega
  refine ⟨es, es', s, s', hprompt, hprompt'.mono fun _ _ _ h => h.step, ⟨t, hta, rfl⟩, ?_⟩
  exact ((lease_exclusive_and_live (hprompt.mono fun _ _ _ h => h.step)).2.2.2.2.2.2.2 hprompt t
    hta hfr).2 rfl "B" [] pass [] s' hprompt'

/-! ## A task without a lock -/

/-- The task is running, no lock is of it, and no pass is about to change that. -/
structure Orphan (s : SystemTasks) (id : Nat) (type : String) : Prop where
  row : ∃ t, s.db.task? id = some t ∧ t.type = type ∧ t.status = .running ∧ t.activeKey = some type
  unlocked : ∀ type l, s.db.lock? type = some l → l.taskID ≠ id
  claims : ∀ runner c, (s.pass runner).claim? = some c → c.id ≠ id
  marks : ∀ runner, ¬ (s.pass runner).Marks id

theorem Orphan.not_held (h : Orphan s id type) (runner : String) (now : Nat) :
    s.db.lockHeld id runner now = false := by
  rw [Bool.eq_false_iff]
  intro hhd
  obtain ⟨type', l, hl, hid, -⟩ := lockHeld_iff.mp hhd
  exact h.unlocked type' l hl hid

/-- **A task without a lock stays as it is.** -/
theorem orphan_step (s : SystemTasks) (e : LeaseEvent) (s' : SystemTasks) (h : Orphan s id type)
    (hst : Step s e s') : Orphan s' id type := by
  obtain ⟨t, ht, htype, hrun, hkey⟩ := h.row
  refine ⟨?_, ?_, ?_, ?_⟩
  · have hmov := task_step hst id
    rw [ht] at hmov
    generalize s'.db.task? id = o at hmov
    cases hmov with
    | keeps => exact ⟨t, rfl, htype, hrun, hkey⟩
    | writes => exact ⟨_, rfl, htype, hrun, hkey⟩
    | starts _ _ _ _ hpen =>
      rw [hrun] at hpen
      cases hpen
    | @expires _ runner _ hat =>
      refine absurd ?_ (h.marks runner)
      rcases hat with ⟨now, lock, todo, hat, hid⟩ | ⟨c, hat⟩
      · rw [hat]
        exact ⟨lock, mem_cons_self, hid⟩
      · rw [hat]
        rfl
    | finishes _ _ hhd =>
      have hlock := (writable_iff.mp hhd).2.2.2
      rw [h.not_held] at hlock
      cases hlock
  · intro type' l' hl'
    have hmov := lock_step hst type'
    rw [hl'] at hmov
    generalize ho : s.db.lock? type' = o at hmov
    cases hmov with
    | keeps => exact h.unlocked type' l' ho
    | inserts _ hat | takes _ hat => exact h.claims _ _ (by rw [hat]; rfl)
    | renews =>
      have hoth := h.unlocked type' _ ho
      exact hoth
  · intro runner c hclaim hid
    rcases claim_step hst hclaim with hold | ⟨t₂, ht₂, -, hpen⟩
    · exact h.claims runner c hold hid
    rw [hid, ht] at ht₂
    cases ht₂
    rw [hrun] at hpen
    cases hpen
  · intro runner hmar
    have hold := h.marks runner
    have hcl := h.claims runner
    have hmov := pass_step hst runner
    generalize s'.pass runner = at' at hmov hmar
    cases hmov with
    | keeps => exact hold hmar
    | beginsExpire | beginsClaim | returns => exact hmar
    | goes hnext he =>
      clear he
      generalize s.pass runner = p at hnext hold hcl
      cases hnext with
      | reads now =>
        obtain ⟨l, hmem, hid⟩ := hmar
        exact h.unlocked _ l (lock?_of_mem (mem_filter.mp hmem).1) hid
      | marks now lock todo =>
        obtain ⟨l, hmem, hid⟩ := hmar
        exact hold ⟨l, mem_cons_of_mem _ hmem, hid⟩
      | readsLock c hl => exact h.unlocked _ _ hl hmar
      | waits | deletes | takes => exact hold hmar
      | stops | finds | inserts | meets | takesOwn | marksExpired | gaveUp | starts | misses =>
        exact hmar

/-- **A claim that lapses wedges its type.**  Runner A has the lock and pauses before it starts the
task; runner B expires the lock, which leaves the pending task alone; then A starts the task.  From
then on the task runs forever without a lock, and no task of the type can be created. -/
theorem lapsed_claim_wedges_type :
    ∃ es s, Runs (initial 0) es s ∧ (∀ type runner, ¬ s.Holds type runner) ∧
      (∀ runner, s.pass runner = .idle) ∧
      ∀ es' s', Runs s es' s' →
        (∃ t, s'.db.task? 1 = some t ∧ t.type = "log_cleanup" ∧ t.status = .running) ∧
        ∀ id payload state,
          s'.db.createSystemTask id "log_cleanup" payload state s'.clock = none := by
  let es : List LeaseEvent := [
    .creates 1 "log_cleanup" "" "", .beginsClaim "A" 1 "log_cleanup" 60, .runs "A", .runs "A",
    .tick 61, .beginsExpire "B", .runs "B", .runs "B", .runs "B", .returns "B",
    .runs "A", .runs "A"]
  have hrun : ((es.foldlM apply (initial 0)).map fun s =>
      (s.db.task? 1, s.db.locks.rows, s.pass "A", s.pass "B")) =
      some (some ⟨1, "log_cleanup", .running, some "log_cleanup", "", "", "", "", "A", 0, 0⟩,
        [], .idle, .idle) := by
    decide +kernel
  obtain ⟨s, hs, hview⟩ := map_eq_some_iff.mp hrun
  simp only [Prod.mk.injEq] at hview
  obtain ⟨hta, hloc, hA, hB⟩ := hview
  have hru := Steps.Run.foldlM (fun _ _ _ => step_of_apply) hs
  have hlock : ∀ type l, s.db.lock? type ≠ some l := by
    intro type l hl
    have hmem := (s.db.locks.find?_eq_some_iff.mp hl).1
    rw [hloc] at hmem
    cases hmem
  have hid : ∀ runner, s.pass runner = .idle := by
    intro runner
    by_cases hrA : runner = "A"
    · rw [hrA, hA]
    by_cases hrB : runner = "B"
    · rw [hrB, hB]
    -- the other runners have done nothing
    refine (hru.restrict (P := fun e => passOf e ≠ some runner) ?_).invariant
      (I := fun s => s.pass runner = .idle) ?_ rfl
    · simp [es, passOf, Ne.symm hrA, Ne.symm hrB]
    intro s e s' hid hst
    rw [pass_of_ne hst.1 hst.2, hid]
  have horp : Orphan s 1 "log_cleanup" := by
    refine ⟨⟨_, hta, rfl, rfl, rfl⟩, fun type l hl => absurd hl (hlock type l), ?_, ?_⟩
    · intro runner c hclaim
      rw [hid] at hclaim
      cases hclaim
    · intro runner hmar
      rw [hid] at hmar
      exact hmar
  refine ⟨es, s, hru, ?_, hid, ?_⟩
  · rintro type runner ⟨l, hl, -⟩
    exact hlock type l hl
  intro es' s' hru'
  obtain ⟨t, ht, htype, hrn, hkey⟩ := (hru'.invariant orphan_step horp).row
  refine ⟨⟨t, ht, htype, hrn⟩, fun id payload state => ?_⟩
  rw [← not_isSome_iff_eq_none, createSystemTask_isSome]
  exact fun hfr => hfr.1 1 t ht hkey

/-! ## What is over -/

/-- An event does not write to the row of a task that is over. -/
theorem ended_step (s : SystemTasks) (e : LeaseEvent) (s' : SystemTasks)
    (hen : t.status.terminal = true) (ht : s.db.task? id = some t) (h : Step s e s') :
    s'.db.task? id = some t := by
  have hmov := task_step h id
  rw [ht] at hmov
  generalize s'.db.task? id = o at hmov
  cases hmov with
  | keeps => rfl
  | starts _ _ _ _ hsts | expires _ _ hsts =>
    rw [hsts] at hen
    cases hen
  | writes _ hhd | finishes _ _ hhd =>
    rw [(writable_iff.mp hhd).2.1] at hen
    cases hen

/-- **A type has one task that is not over, and the row of one that is over is final**, whatever
runners crash, pause or come late. -/
theorem active_single_ended_final {clock : Nat} {es : List LeaseEvent}
    (h : Runs (initial clock) es s) :
    (∀ id id' t t', s.db.task? id = some t → s.db.task? id' = some t' →
      t.status.terminal = false → t'.status.terminal = false → t.type = t'.type → id = id') ∧
    ∀ id t, s.db.task? id = some t → t.status.terminal = true →
      ∀ es' s', Runs s es' s' → s'.db.task? id = some t := by
  refine ⟨(h.invariant wf_step (wf_initial clock)).single, fun id t ht hen es' s' h' => ?_⟩
  exact h'.invariant (fun s e s' => ended_step s e s' hen) ht

theorem failed_row_final :
    ∃ es s t, Runs (initial 0) es s ∧ t.status = .failed ∧
      ∀ es' s', Runs s es' s' → s'.db.task? 1 = some t := by
  let t : SystemTask :=
    ⟨1, "log_cleanup", .failed, none, "", "", "", "task lease expired", "A", 0, 61⟩
  have hrun : Runs (initial 0) [
      .creates 1 "log_cleanup" "" "", .beginsClaim "A" 1 "log_cleanup" 60, .runs "A", .runs "A",
      .runs "A", .runs "A", .tick 61, .beginsExpire "B", .runs "B", .runs "B"] _ :=
    Steps.Run.foldlM (fun _ _ _ => step_of_apply) rfl
  exact ⟨_, _, t, hrun, rfl, (active_single_ended_final hrun).2 1 t (by decide +kernel) rfl⟩

end SystemTasks
end NewApi
