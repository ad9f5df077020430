import NewApi.Steps
import NewApi.TaskPolling

/-! # Which task an upstream answer belongs to

A pass groups the unfinished tasks of a platform by channel, one worker for each,
and looks a task up by its upstream id when a worker comes to it.  The lookup
table `taskM` is keyed by the upstream id alone, and shared by the workers.

A pass is a machine: workers look their channel up, ask, and are answered, in any
order, and the log keeps what was asked, what was applied to which task, and what
was refunded.  **A pass serves every task, each by its own channel, if and only if
no two tasks share an upstream id** (`attributed_iff`), apart from tasks it never
comes to: those without an upstream id, those of a channel that is gone, those
left when the pass is cancelled.  A Suno channel answers about many tasks at once, and
nothing checks that it was asked about them: there, the answers have to be honest. -/
namespace NewApi
open Function List Steps

/-! ## Grouping -/

/-- The tables `RunTaskPollingOnce` builds for one platform. -/
structure TaskMaps where
  taskM : String → Option Task
  taskChannelM : Int → List String
  nullTaskIds : List Int

/-- The loop body that adds a task. -/
def TaskMaps.add (m : TaskMaps) (task : Task) : TaskMaps :=
  let upstreamID := task.getUpstreamTaskID
  if upstreamID = "" then { m with nullTaskIds := m.nullTaskIds ++ [task.id] }
  else { m with
    taskM := Function.update m.taskM upstreamID (some task)
    taskChannelM := Function.update m.taskChannelM task.channelId
      (m.taskChannelM task.channelId ++ [upstreamID]) }

open TaskMaps (add)

/-- The loop. -/
def taskMaps (tasks : List Task) : TaskMaps :=
  tasks.foldl add ⟨fun _ => none, fun _ => [], []⟩

theorem taskMaps_append (tasks : List Task) (t : Task) :
    taskMaps (tasks ++ [t]) = (taskMaps tasks).add t := by
  rw [taskMaps, foldl_append]
  rfl

theorem taskM_add (m : TaskMaps) (t : Task) (u : String) : (m.add t).taskM u =
      if t.getUpstreamTaskID ≠ "" ∧ u = t.getUpstreamTaskID then some t else m.taskM u := by
  by_cases hne : t.getUpstreamTaskID = ""
  · simp [add, hne]
  · simp [add, hne, update_apply]

theorem taskChannelM_add (m : TaskMaps) (t : Task) (c : Int) : (m.add t).taskChannelM c =
      if t.getUpstreamTaskID ≠ "" ∧ c = t.channelId then m.taskChannelM c ++ [t.getUpstreamTaskID]
      else m.taskChannelM c := by
  by_cases hne : t.getUpstreamTaskID = ""
  · simp [add, hne]
  by_cases hc : c = t.channelId
  · subst hc
    simp [add, hne]
  · simp [add, hne, hc]

section Grouping
variable {tasks : List Task} {t : Task} {u : String}

/-- An entry of `taskM` is a task with that id. -/
theorem taskM_eq_some (h : (taskMaps tasks).taskM u = some t) :
    t ∈ tasks ∧ t.getUpstreamTaskID = u ∧ u ≠ "" := by
  induction tasks using List.reverseRecOn with
  | nil => cases h
  | append_singleton tasks last ih =>
    rw [taskMaps_append, taskM_add] at h
    split at h
    · rename_i hla
      cases h
      exact ⟨by simp, hla.2.symm, hla.2 ▸ hla.1⟩
    · exact ⟨mem_append_left _ (ih h).1, (ih h).2⟩

theorem taskM_ne_none (hmem : t ∈ tasks) (hne : t.getUpstreamTaskID ≠ "") :
    (taskMaps tasks).taskM t.getUpstreamTaskID ≠ none := by
  induction tasks using List.reverseRecOn with
  | nil => cases hmem
  | append_singleton tasks last ih =>
    rw [taskMaps_append, taskM_add]
    split
    · exact Option.some_ne_none _
    rename_i hla
    rcases mem_append.mp hmem with hmem | hmem
    · exact ih hmem
    obtain rfl := mem_singleton.mp hmem
    exact absurd ⟨hne, rfl⟩ hla

/-- If upstream ids are distinct, nothing is overwritten. -/
theorem taskM_of_mem (hnd : (tasks.map Task.getUpstreamTaskID).Nodup) (hmem : t ∈ tasks)
    (hne : t.getUpstreamTaskID ≠ "") : (taskMaps tasks).taskM t.getUpstreamTaskID = some t := by
  induction tasks using List.reverseRecOn with
  | nil => cases hmem
  | append_singleton tasks last ih =>
    rw [map_append, nodup_append] at hnd
    obtain ⟨hnd, -, hdis⟩ := hnd
    rw [taskMaps_append, taskM_add]
    rcases mem_append.mp hmem with hmem | hmem
    · have hoth : t.getUpstreamTaskID ≠ last.getUpstreamTaskID :=
        hdis _ (mem_map.mpr ⟨t, hmem, rfl⟩) _ (by simp)
      rw [if_neg (fun hc => hoth hc.2)]
      exact ih hnd hmem
    · obtain rfl := mem_singleton.mp hmem
      exact if_pos ⟨hne, rfl⟩

theorem taskChannelM_eq (tasks : List Task) (c : Int) : (taskMaps tasks).taskChannelM c =
      (tasks.filter fun t => t.getUpstreamTaskID ≠ "" ∧ c = t.channelId).map
        Task.getUpstreamTaskID := by
  induction tasks using List.reverseRecOn with
  | nil => rfl
  | append_singleton tasks last ih =>
    rw [taskMaps_append, taskChannelM_add, filter_append, map_append, ih]
    by_cases hla : last.getUpstreamTaskID ≠ "" ∧ c = last.channelId
    · simp [hla.1, hla.2]
    rw [if_neg hla]
    have hno : [last].filter (fun t => t.getUpstreamTaskID ≠ "" ∧ c = t.channelId) = [] :=
      filter_eq_nil_iff.mpr fun t ht => by
        obtain rfl := mem_singleton.mp ht
        simpa using hla
    rw [hno]
    simp

theorem mem_taskChannelM {c : Int} : u ∈ (taskMaps tasks).taskChannelM c ↔
      ∃ t ∈ tasks, t.channelId = c ∧ t.getUpstreamTaskID = u ∧ u ≠ "" := by
  rw [taskChannelM_eq, mem_map]
  constructor
  · rintro ⟨t, ht, rfl⟩
    obtain ⟨hmem, hp⟩ := mem_filter.mp ht
    obtain ⟨hne, hc⟩ := of_decide_eq_true hp
    exact ⟨t, hmem, hc.symm, rfl, hne⟩
  · rintro ⟨t, hmem, hc, rfl, hne⟩
    exact ⟨t, mem_filter.mpr ⟨hmem, decide_eq_true ⟨hne, hc.symm⟩⟩, rfl⟩

end Grouping

/-! ## The pass -/

/-- How far the worker of a channel has come. -/
inductive Worker where
  /-- The channel is still to be looked up. -/
  | start (ids : List String)
  /-- These ids are still to be asked about. -/
  | polling (ids : List String)
  /-- `FetchTask` is out for one id. -/
  | waiting (id : String) (ids : List String)
  /-- The Suno request for these ids is out, or its answer is being worked through. -/
  | collecting (ids : List String)
  deriving DecidableEq, Repr

namespace Worker

/-- The ids still to be asked about. -/
def unasked : Worker → List String
  | .start ids | .polling ids | .waiting _ ids => ids
  | .collecting _ => []

/-- The ids whose answer is still to come. -/
def pending : Worker → List String
  | .start ids | .polling ids | .collecting ids => ids
  | .waiting id ids => id :: ids

end Worker

/-- What a pass did. -/
inductive PollRecord where
  /-- The channel was asked about an id, on behalf of a task. -/
  | asked (channelId : Int) (upstreamID : String) (taskId : Int)
  /-- The answer of a channel about an id was applied to a task. -/
  | applied (channelId : Int) (upstreamID : String) (taskId : Int)
  /-- `RefundTaskQuota` was called for a task. -/
  | refunded (taskId : Int)
  deriving DecidableEq, Repr

/-- A pass over the tasks of one platform.  `taskM` holds the copies. -/
structure Pass where
  platform : TaskPlatform
  taskM : String → Option Task
  workers : Int → Worker
  log : List PollRecord

/-- One step of one worker.  Updates of rows are answered by the row as it is then,
whoever else writes it. -/
inductive PassEvent where
  /-- `CacheGetChannel` and the adaptor lookup. -/
  | lookup (channelId : Int) (found : Bool)
  /-- The worker finds its context cancelled. -/
  | cancel (channelId : Int)
  | fetch (channelId : Int)
  /-- `FetchTask` fails, or its body cannot be read. -/
  | fetchFailed (channelId : Int)
  | answer (channelId now : Int) (proxyURL : String → String) (body : VideoBody) (fault : Fault)
      (row : Task)
  /-- The Suno request for all ids of the channel. -/
  | fetchAll (channelId : Int)
  | item (channelId : Int) (reply : SunoDataResponse) (fault : Fault) (row : Task)
  /-- The Suno answer has no more items, or there is none. -/
  | collected (channelId : Int)

namespace Pass

/-- The ids `DispatchPlatformUpdate` hands to the worker of a channel.  Midjourney tasks
are left to another poller. -/
def dispatched (platform : TaskPlatform) (tasks : List Task) (c : Int) : List String :=
  match platform with
  | .midjourney => []
  | _ => (taskMaps tasks).taskChannelM c

/-- `RunTaskPollingOnce` before its workers start. -/
def begin (platform : TaskPlatform) (tasks : List Task) : Pass where
  platform := platform
  taskM := (taskMaps tasks).taskM
  workers := fun c => .start (dispatched platform tasks c)
  log := []

/-- Set the state of a worker. -/
def work (s : Pass) (c : Int) (w : Worker) : Pass :=
  { s with workers := Function.update s.workers c w }

/-- Apply a transition to the copy with an upstream id, and bill it. -/
def applyTo (s : Pass) (c : Int) (u : String) (t : Task) (tr : Transition) (fault : Fault)
    (row : Task) : Pass :=
  { s with
    taskM := Function.update s.taskM u (some tr.task)
    log := s.log ++ [.applied c u t.id] ++
      (if (tr.perform fault row).2 = .refund then [.refunded t.id] else []) }

theorem work_self (s : Pass) (c : Int) (w : Worker) : (s.work c w).workers c = w :=
  update_self ..

theorem work_ne (s : Pass) {c c' : Int} (h : c' ≠ c) (w : Worker) :
    (s.work c w).workers c' = s.workers c' :=
  update_of_ne h ..

theorem mem_log_applyTo {s : Pass} {c : Int} {u : String} {t : Task} {tr : Transition}
    {fault : Fault} {row : Task} {r : PollRecord} :
    r ∈ (s.applyTo c u t tr fault row).log ↔ r ∈ s.log ∨ r = .applied c u t.id ∨
      ((tr.perform fault row).2 = .refund ∧ r = .refunded t.id) := by
  unfold applyTo
  by_cases hb : (tr.perform fault row).2 = .refund
  · simp [hb]
  · simp [hb]

/-- The step of an event, where the code can take it. -/
def apply (s : Pass) : PassEvent → Option Pass
  | .lookup c found =>
      match s.workers c with
      | .start (u :: us) => some (s.work c (.polling (if found then u :: us else [])))
      | _ => none
  | .cancel c =>
      match s.workers c with
      | .start (_ :: _) | .polling (_ :: _) => some (s.work c (.polling []))
      | _ => none
  | .fetch c =>
      match s.platform.isVideo, s.workers c with
      | true, .polling (u :: us) =>
          match s.taskM u with
          | none => some (s.work c (.polling us))
          | some t =>
              some { s.work c (.waiting u us) with
                log := s.log ++ [.asked c t.getUpstreamTaskID t.id] }
      | _, _ => none
  | .fetchFailed c =>
      match s.workers c with
      | .waiting _ us => some (s.work c (.polling us))
      | _ => none
  | .answer c now proxyURL body fault row =>
      match s.workers c with
      | .waiting u us =>
          match s.taskM u with
          | none => none
          | some t =>
              some ((s.work c (.polling us)).applyTo c u t (t.applyVideo now proxyURL body) fault
                row)
      | _ => none
  | .fetchAll c =>
      match s.platform, s.workers c with
      | .suno, .polling (u :: us) =>
          some { s.work c (.collecting (u :: us)) with
            log := s.log ++ (u :: us).filterMap fun u =>
              (s.taskM u).map fun t => .asked c u t.id }
      | _, _ => none
  | .item c reply fault row =>
      match s.workers c with
      | .collecting us =>
          match s.taskM reply.taskID with
          | none => some s
          | some t =>
              if taskNeedsUpdate t reply = false then some s
              else
                some ((s.work c (.collecting (us.erase reply.taskID))).applyTo c reply.taskID t
                  (t.applySuno reply) fault row)
      | _ => none
  | .collected c =>
      match s.workers c with
      | .collecting _ => some (s.work c (.polling []))
      | _ => none

/-- Every worker is through with its ids. -/
def Finished (s : Pass) : Prop := ∀ c, (s.workers c).pending = []

end Pass

/-- The steps that give ids up: the channel is gone, or the pass is cancelled. -/
def PassEvent.GivesUp : PassEvent → Prop
  | .lookup _ found => found = false
  | .cancel _ => True
  | _ => False

/-- What a Suno channel says about a task of the pass is nothing new, or it is about an id that
the channel was asked about, and the first news of it.  A video answer comes one at a time. -/
def PassEvent.Honest (s : Pass) : PassEvent → Prop
  | .item c reply _ _ => ∀ t, s.taskM reply.taskID = some t → taskNeedsUpdate t reply = true →
      reply.taskID ∈ (s.workers c).pending
  | _ => True

/-- **What a pass owes its tasks.** -/
structure Attributed (tasks : List Task) (log : List PollRecord) : Prop where
  /-- What is applied to a task was fetched for its channel and its upstream id. -/
  own : ∀ t ∈ tasks, ∀ c u, .applied c u t.id ∈ log → c = t.channelId ∧ u = t.getUpstreamTaskID
  /-- Every task is asked about. -/
  polled : ∀ t ∈ tasks, .asked t.channelId t.getUpstreamTaskID t.id ∈ log
  /-- No task is refunded twice. -/
  once : ∀ t ∈ tasks, log.count (.refunded t.id) ≤ 1

/-! ## What a step can do -/

namespace Pass

/-- A record of what was asked for the copies with some ids. -/
def asks (s : Pass) (c : Int) (us : List String) : List PollRecord :=
  us.filterMap fun u => (s.taskM u).map fun t => .asked c u t.id

/-- **The steps of the worker of channel `c`**, other than giving up.  If the answer is honest, it
is about an id that the worker waits for. -/
inductive Effect (honest : Prop) (s : Pass) (c : Int) : Pass → Prop
  | quiet (w : Worker) (hpending : List.Sublist w.pending (s.workers c).pending)
      (hunasked : w.unasked = (s.workers c).unasked) : Effect honest s c (s.work c w)
  | asks (us : List String) (w : Worker) (hpending : w.pending = (s.workers c).pending)
      (hunasked : us ++ w.unasked = (s.workers c).unasked) :
      Effect honest s c { s.work c w with log := s.log ++ s.asks c us }
  | applies (u : String) (w : Worker) (t : Task) (tr : Transition) (fault : Fault) (row : Task)
      (hcopy : s.taskM u = some t) (hsame : t.SameTask tr.task)
      (hmem : honest → u ∈ (s.workers c).pending)
      (hpending : w.pending = (s.workers c).pending.erase u)
      (hunasked : w.unasked = (s.workers c).unasked) :
      Effect honest s c ((s.work c w).applyTo c u t tr fault row)

/-- **What holds in every state of a pass.** -/
structure Valid (tasks : List Task) (s : Pass) : Prop where
  copies : ∀ u, ((taskMaps tasks).taskM u = none ∧ s.taskM u = none) ∨
    ∃ t t', (taskMaps tasks).taskM u = some t ∧ s.taskM u = some t' ∧ t.SameTask t'
  pending : ∀ c, List.Sublist (s.workers c).pending (dispatched s.platform tasks c)
  asked : ∀ c u k, .asked c u k ∈ s.log → u ∈ dispatched s.platform tasks c ∧
    ∃ t, (taskMaps tasks).taskM u = some t ∧ t.id = k

/-- Every answer went to the task it was asked for. -/
def Applied (tasks : List Task) (s : Pass) : Prop :=
  ∀ c u k, .applied c u k ∈ s.log → u ∈ dispatched s.platform tasks c ∧
    ∃ t, (taskMaps tasks).taskM u = some t ∧ t.id = k

variable {tasks : List Task} {s s' : Pass} {e : PassEvent} {honest : Prop}

variable {u : String} {c : Int} {platform : TaskPlatform}

theorem mem_dispatched (h : u ∈ dispatched platform tasks c) :
    platform ≠ .midjourney ∧ ∃ t ∈ tasks, t.channelId = c ∧ t.getUpstreamTaskID = u ∧ u ≠ "" := by
  unfold dispatched at h
  split at h
  · cases h
  rename_i hne
  exact ⟨hne, mem_taskChannelM.mp h⟩

theorem Valid.copy (h : s.Valid tasks) {t' : Task} (ht : s.taskM u = some t') :
    ∃ t, (taskMaps tasks).taskM u = some t ∧ t.id = t'.id ∧ t'.getUpstreamTaskID = u := by
  rcases h.copies u with ⟨-, hno⟩ | ⟨t, t'', hin, hcp, hsm⟩
  · rw [hno] at ht
    cases ht
  obtain rfl := Option.some.inj (hcp.symm.trans ht)
  refine ⟨t, hin, hsm.id.symm, ?_⟩
  rw [hsm.getUpstreamTaskID]
  exact (taskM_eq_some hin).2.1

/-- Every id that is handed out has an entry. -/
theorem Valid.copy_of_pending (h : s.Valid tasks)
    (hu : u ∈ (s.workers c).pending) : s.taskM u ≠ none := by
  intro hno
  obtain ⟨-, t, ht, -, rfl, hne⟩ := mem_dispatched ((h.pending c).subset hu)
  rcases h.copies t.getUpstreamTaskID with ⟨hin, -⟩ | ⟨_, _, -, hcp, -⟩
  · exact taskM_ne_none ht hne hin
  rw [hcp] at hno
  cases hno

/-- A step may change nothing. -/
theorem Effect.stay (s : Pass) (c : Int) : Effect honest s c s := by
  have hself : s.work c (s.workers c) = s := by
    rw [work, update_eq_self]
  have hquiet : Effect honest s c _ := .quiet (s.workers c) (List.Sublist.refl _) rfl
  rwa [hself] at hquiet

theorem effect_fetch (h : s.Valid tasks) (hs : s.apply (.fetch c) = some s') :
    Effect honest s c s' := by
  simp only [Pass.apply] at hs
  split at hs
  · rename_i u us hvid hw
    split at hs
    · -- the branch for an unknown id is dead: ids are only handed out with an entry
      rename_i hno
      have hpen : u ∈ (s.workers c).pending := by
        rw [hw]
        exact mem_cons_self
      exact absurd hno (h.copy_of_pending hpen)
    · rename_i t ht
      cases hs
      obtain ⟨-, -, -, hid⟩ := h.copy ht
      have has : s.asks c [u] = [.asked c t.getUpstreamTaskID t.id] := by
        simp [asks, ht, hid]
      rw [← has]
      refine .asks [u] (.waiting u us) ?_ ?_
      · rw [hw]
        rfl
      · rw [hw]
        rfl
  · cases hs

theorem effect_answer {c now : Int} {proxyURL : String → String} {body : VideoBody} {fault : Fault}
    {row : Task} (hs : s.apply (.answer c now proxyURL body fault row) = some s') :
    Effect honest s c s' := by
  simp only [Pass.apply] at hs
  split at hs
  · rename_i u us hw
    split at hs
    · cases hs
    rename_i t ht
    cases hs
    refine .applies u _ t _ fault row ht (.of_unpolled fun _ hf => hf.applyVideo _ _ _) ?_ ?_ ?_
    · intro _
      rw [hw]
      exact mem_cons_self
    · rw [hw]
      exact (erase_cons_head u us).symm
    · rw [hw]
      rfl
  · cases hs

theorem effect_fetchAll (hs : s.apply (.fetchAll c) = some s') : Effect honest s c s' := by
  simp only [Pass.apply] at hs
  split at hs
  · rename_i u us hsu hw
    cases hs
    refine .asks (u :: us) (.collecting (u :: us)) ?_ ?_
    · rw [hw]
      rfl
    · rw [hw]
      exact append_nil _
  · cases hs

theorem effect_item {reply : SunoDataResponse} {fault : Fault} {row : Task}
    (hs : s.apply (.item c reply fault row) = some s') :
    Effect ((PassEvent.item c reply fault row).Honest s) s c s' := by
  simp only [Pass.apply] at hs
  split at hs
  · rename_i us hw
    split at hs
    · -- an item about an unknown task is skipped
      cases hs
      exact .stay s c
    · rename_i t ht
      split at hs
      · cases hs
        exact .stay s c
      rename_i hnews
      cases hs
      refine .applies reply.taskID _ t _ fault row ht (.of_unpolled fun _ hf => hf.applySuno _)
        (fun hhonest => hhonest t ht (Bool.not_eq_false _ ▸ hnews)) ?_ ?_
      · rw [hw]
        rfl
      · rw [hw]
        rfl
  · cases hs

/-- **Every step is one of these.** -/
theorem apply_effect (h : s.Valid tasks) (hs : s.apply e = some s') :
    ∃ c, (e.GivesUp ∧ (s.workers c).unasked ≠ [] ∧ s' = s.work c (.polling [])) ∨
      (¬ e.GivesUp ∧ Effect (e.Honest s) s c s') := by
  -- one case for each event; the worker's state says which ids are left
  cases e with
  | fetch c => exact ⟨c, .inr ⟨id, effect_fetch h hs⟩⟩
  | answer c now proxyURL body fault row => exact ⟨c, .inr ⟨id, effect_answer hs⟩⟩
  | fetchAll c => exact ⟨c, .inr ⟨id, effect_fetchAll hs⟩⟩
  | item c reply fault row => exact ⟨c, .inr ⟨id, effect_item hs⟩⟩
  | lookup c found =>
    refine ⟨c, ?_⟩
    simp only [Pass.apply] at hs
    split at hs
    · rename_i u us hw
      cases hs
      cases found
      · exact .inl ⟨rfl, by rw [hw]; simp [Worker.unasked], rfl⟩
      refine .inr ⟨by simp [PassEvent.GivesUp], .quiet _ ?_ ?_⟩
      · rw [hw]
        exact List.Sublist.refl _
      · rw [hw]
        rfl
    · cases hs
  | cancel c =>
    refine ⟨c, .inl ?_⟩
    simp only [Pass.apply] at hs
    -- `cancel` finds a worker either before its lookup or between two ids
    split at hs
    · rename_i u us hw
      cases hs
      exact ⟨trivial, by rw [hw]; simp [Worker.unasked], rfl⟩
    · rename_i u us hw
      cases hs
      exact ⟨trivial, by rw [hw]; simp [Worker.unasked], rfl⟩
    · cases hs
  | fetchFailed c =>
    refine ⟨c, .inr ⟨id, ?_⟩⟩
    simp only [Pass.apply] at hs
    split at hs
    · rename_i u us hw
      cases hs
      refine .quiet _ ?_ ?_
      · rw [hw]
        exact sublist_cons_self u us
      · rw [hw]
        rfl
    · cases hs
  | collected c =>
    refine ⟨c, .inr ⟨id, ?_⟩⟩
    simp only [Pass.apply] at hs
    split at hs
    · rename_i us hw
      cases hs
      refine .quiet _ (nil_sublist _) ?_
      rw [hw]
      rfl
    · cases hs

/-! ## Invariants -/

theorem valid_begin (platform : TaskPlatform) (tasks : List Task) :
    (begin platform tasks).Valid tasks := by
  refine ⟨fun u => ?_, fun c => List.Sublist.refl _, fun c u k h => ?_⟩
  · cases h : (taskMaps tasks).taskM u with
    | none => exact .inl ⟨rfl, h⟩
    | some t => exact .inr ⟨t, t, rfl, h, Task.SameTask.refl t⟩
  · cases h

variable {w : Worker}

theorem pending_work (h : s.Valid tasks)
    (hw : List.Sublist w.pending (s.workers c).pending) (c' : Int) :
    List.Sublist ((s.work c w).workers c').pending (dispatched s.platform tasks c') := by
  by_cases hc : c' = c
  · subst hc
    rw [work_self]
    exact hw.trans (h.pending c')
  · rw [work_ne s hc]
    exact h.pending c'

variable {c c' : Int}

theorem mem_asks {us : List String} {k : Int} :
    .asked c' u k ∈ s.asks c us ↔ c' = c ∧ u ∈ us ∧ ∃ t, s.taskM u = some t ∧ t.id = k := by
  simp only [asks, mem_filterMap, Option.map_eq_some_iff, PollRecord.asked.injEq]
  constructor
  · rintro ⟨_, hu, t, ht, rfl, rfl, rfl⟩
    exact ⟨rfl, hu, t, ht, rfl⟩
  · rintro ⟨rfl, hu, t, ht, rfl⟩
    exact ⟨u, hu, t, ht, rfl, rfl, rfl⟩

theorem valid_effect (h : s.Valid tasks) (heff : Effect honest s c s') : s'.Valid tasks := by
  have huna : ∀ u ∈ (s.workers c).unasked, u ∈ dispatched s.platform tasks c := by
    intro u hu
    refine (h.pending c).subset ?_
    cases hw : s.workers c <;> simp_all [Worker.unasked, Worker.pending]
  cases heff with
  | quiet w hpen _ => exact { h with pending := pending_work h hpen }
  | asks us w hpen hsplit =>
    refine ⟨h.copies, pending_work h (hpen ▸ List.Sublist.refl _), fun c' u k hlog => ?_⟩
    rcases mem_append.mp hlog with hlog | hlog
    · exact h.asked c' u k hlog
    obtain ⟨rfl, hu, t, ht, rfl⟩ := mem_asks.mp hlog
    obtain ⟨t₀, hin, hid, -⟩ := h.copy ht
    refine ⟨huna u ?_, t₀, hin, hid⟩
    rw [← hsplit]
    exact mem_append_left _ hu
  | applies u w t tr fault row hcp hsm _ hpen _ =>
    obtain ⟨t₀, hin, -, -⟩ := h.copy hcp
    refine ⟨fun u' => ?_, pending_work h (hpen ▸ erase_sublist), fun c' u' k hlog => ?_⟩
    · -- the copy with this id is replaced, all others stay
      by_cases hu : u' = u
      · subst hu
        rcases h.copies u' with ⟨hno, -⟩ | ⟨t₁, t₁', hin', hcp', hsm'⟩
        · rw [hin] at hno
          cases hno
        · obtain rfl := Option.some.inj (hcp'.symm.trans hcp)
          exact .inr ⟨t₁, tr.task, hin', update_self .., hsm'.trans hsm⟩
      · have hoth : ((s.work c w).applyTo c u t tr fault row).taskM u' = s.taskM u' :=
          update_of_ne hu ..
        rw [hoth]
        exact h.copies u'
    · rcases mem_log_applyTo.mp hlog with hlog | hlog | ⟨-, hlog⟩
      · exact h.asked c' u' k hlog
      · cases hlog
      · cases hlog

/-- A step of the pass, whatever the upstreams answer. -/
def Step (s : Pass) (e : PassEvent) (s' : Pass) : Prop := s.apply e = some s'

/-- A step of the pass in which an answer, if there is one, is honest. -/
def HonestStep (s : Pass) (e : PassEvent) (s' : Pass) : Prop := Step s e s' ∧ e.Honest s

theorem valid_step (h : s.Valid tasks) (hst : Step s e s') : s'.Valid tasks := by
  obtain ⟨c, ⟨-, -, rfl⟩ | ⟨-, heff⟩⟩ := apply_effect h hst
  · exact { h with pending := pending_work h (nil_sublist _) }
  · exact valid_effect h heff

theorem applied_step (h : s.Valid tasks) (happ : s.Applied tasks) (hst : HonestStep s e s') :
    s'.Applied tasks := by
  obtain ⟨c, ⟨-, -, rfl⟩ | ⟨-, heff⟩⟩ := apply_effect h hst.1
  · exact happ
  intro c' u' k hlog
  cases heff with
  | quiet w _ _ => exact happ c' u' k hlog
  | asks us w _ _ =>
    rcases mem_append.mp hlog with hlog | hlog
    · exact happ c' u' k hlog
    · simp [asks] at hlog
  | applies u w t tr fault row hcopy _ hmem _ _ =>
    rcases mem_log_applyTo.mp hlog with hlog | hlog | ⟨-, hlog⟩
    · exact happ c' u' k hlog
    · obtain ⟨rfl, rfl, rfl⟩ := PollRecord.applied.inj hlog
      obtain ⟨t₀, hin, hid, -⟩ := h.copy hcopy
      exact ⟨(h.pending c').subset (hmem hst.2), t₀, hin, hid⟩
    · cases hlog

/-- Nothing that is still to be asked about has been asked about. -/
def Fresh (s : Pass) : Prop := ∀ c u k, .asked c u k ∈ s.log → u ∉ (s.workers c).unasked

/-- A task that was not asked about, and will not be. -/
def Missed (s : Pass) (t : Task) : Prop :=
  .asked t.channelId t.getUpstreamTaskID t.id ∉ s.log ∧
    t.getUpstreamTaskID ∉ (s.workers t.channelId).unasked

/-- A task that was asked about, or will be. -/
def Due (s : Pass) (t : Task) : Prop :=
  .asked t.channelId t.getUpstreamTaskID t.id ∈ s.log ∨
    t.getUpstreamTaskID ∈ (s.workers t.channelId).unasked

/-- A task that is refunded at most once, and not while its answer is still to come. -/
def Single (s : Pass) (t : Task) : Prop :=
  s.log.count (.refunded t.id) ≤ 1 ∧
    (.refunded t.id ∈ s.log → t.getUpstreamTaskID ∉ (s.workers t.channelId).pending)

theorem unasked_sublist (w : Worker) : List.Sublist w.unasked w.pending := by
  cases w with
  | start ids | polling ids => exact List.Sublist.refl ids
  | waiting id ids => exact sublist_cons_self id ids
  | collecting ids => exact nil_sublist ids

theorem nodup_dispatched (hnd : (tasks.map Task.getUpstreamTaskID).Nodup)
    (platform : TaskPlatform) (c : Int) : (dispatched platform tasks c).Nodup := by
  unfold dispatched
  split
  · exact nodup_nil
  · rw [taskChannelM_eq]
    exact hnd.sublist (filter_sublist.map _)

theorem unasked_work (hw : ∀ u ∈ w.unasked, u ∈ (s.workers c).unasked)
    (hu : u ∈ ((s.work c w).workers c').unasked) : u ∈ (s.workers c').unasked := by
  by_cases hc : c' = c
  · subst hc
    rw [work_self] at hu
    exact hw u hu
  · rwa [work_ne s hc] at hu

theorem mem_pending_work (hw : ∀ u ∈ w.pending, u ∈ (s.workers c).pending)
    (hu : u ∈ ((s.work c w).workers c').pending) : u ∈ (s.workers c').pending := by
  by_cases hc : c' = c
  · subst hc
    rw [work_self] at hu
    exact hw u hu
  · rwa [work_ne s hc] at hu

theorem fresh_step (hnd : (tasks.map Task.getUpstreamTaskID).Nodup) (h : s.Valid tasks)
    (hfresh : s.Fresh) (hst : Step s e s') : s'.Fresh := by
  obtain ⟨c, ⟨-, -, rfl⟩ | ⟨-, heff⟩⟩ := apply_effect h hst
  · intro c' u k hlog hu
    exact hfresh c' u k hlog (unasked_work (by simp [Worker.unasked]) hu)
  intro c' u k hlog hu
  cases heff with
  | quiet w _ huna =>
    exact hfresh c' u k hlog (unasked_work (fun _ h => huna ▸ h) hu)
  | asks us w _ hsplit =>
    rcases mem_append.mp hlog with hlog | hlog
    · refine hfresh c' u k hlog (unasked_work (fun _ h => ?_) hu)
      rw [← hsplit]
      exact mem_append_right _ h
    · -- an id is asked about once, because the worker's list has it once
      obtain ⟨rfl, hus, -⟩ := mem_asks.mp hlog
      have hli : (us ++ w.unasked).Nodup := by
        rw [hsplit]
        exact (nodup_dispatched hnd s.platform c').sublist
          ((unasked_sublist _).trans (h.pending c'))
      have hw : u ∈ w.unasked := by
        have : u ∈ ((s.work c' w).workers c').unasked := hu
        rwa [work_self] at this
      exact (nodup_append.mp hli).2.2 u hus u hw rfl
  | applies u' w t tr fault row _ _ _ _ huna =>
    rcases mem_log_applyTo.mp hlog with hlog | hlog | ⟨-, hlog⟩
    · exact hfresh c' u k hlog (unasked_work (fun _ h => huna ▸ h) hu)
    · cases hlog
    · cases hlog

theorem missed_step {t : Task} (h : s.Valid tasks) (hmis : s.Missed t) (hst : Step s e s') :
    s'.Missed t := by
  obtain ⟨hlog, huna⟩ := hmis
  obtain ⟨c, ⟨-, -, rfl⟩ | ⟨-, heff⟩⟩ := apply_effect h hst
  · exact ⟨hlog, fun hu => huna (unasked_work (by simp [Worker.unasked]) hu)⟩
  cases heff with
  | quiet w _ hsm =>
    exact ⟨hlog, fun hu => huna (unasked_work (fun _ h => hsm ▸ h) hu)⟩
  | asks us w _ hsplit =>
    refine ⟨fun hc => ?_, fun hu => huna (unasked_work (fun _ h => ?_) hu)⟩
    · rcases mem_append.mp hc with hc | hc
      · exact hlog hc
      obtain ⟨rfl, hus, -⟩ := mem_asks.mp hc
      refine huna ?_
      rw [← hsplit]
      exact mem_append_left _ hus
    · rw [← hsplit]
      exact mem_append_right _ h
  | applies u' w t' tr fault row _ _ _ _ hsm =>
    refine ⟨fun hc => ?_, fun hu => huna (unasked_work (fun _ h => hsm ▸ h) hu)⟩
    rcases mem_log_applyTo.mp hc with hc | hc | ⟨-, hc⟩
    · exact hlog hc
    · cases hc
    · cases hc

theorem missed_of_givesUp (h : s.Valid tasks) (hfresh : s.Fresh) (hst : Step s e s')
    (hgiv : e.GivesUp) : ∃ t ∈ tasks, s'.Missed t := by
  obtain ⟨c, ⟨-, hne, rfl⟩ | ⟨hnot, -⟩⟩ := apply_effect h hst
  · obtain ⟨u, hu⟩ := exists_mem_of_ne_nil _ hne
    have hmem := (h.pending c).subset ((unasked_sublist _).subset hu)
    obtain ⟨-, t, ht, rfl, rfl, -⟩ := mem_dispatched hmem
    refine ⟨t, ht, fun hlog => hfresh _ _ _ hlog hu, fun hc => ?_⟩
    rw [work_self] at hc
    cases hc
  · exact absurd hgiv hnot

theorem due_step {t : Task} (hcp : (taskMaps tasks).taskM t.getUpstreamTaskID = some t)
    (h : s.Valid tasks) (hdue : s.Due t) (hst : Step s e s') (hnot : ¬ e.GivesUp) : s'.Due t := by
  obtain ⟨c, ⟨hgiv, -⟩ | ⟨-, heff⟩⟩ := apply_effect h hst
  · exact absurd hgiv hnot
  -- a worker that asks about nothing keeps its list, and the others keep theirs
  have hkept : ∀ w : Worker, w.unasked = (s.workers c).unasked →
      t.getUpstreamTaskID ∈ (s.workers t.channelId).unasked →
      t.getUpstreamTaskID ∈ ((s.work c w).workers t.channelId).unasked := by
    intro w hw hu
    by_cases hc : t.channelId = c
    · rw [hc, work_self, hw, ← hc]
      exact hu
    · rwa [work_ne s hc]
  cases heff with
  | quiet w _ hsm => exact hdue.imp id (hkept w hsm)
  | asks us w _ hsplit =>
    rcases hdue with hlog | hu
    · exact .inl (mem_append_left _ hlog)
    by_cases hc : t.channelId = c
    · -- the task's own worker asks: about this id, or it is still in the list
      subst hc
      rw [← hsplit] at hu
      rcases mem_append.mp hu with hus | hw
      · refine .inl (mem_append_right _ (mem_asks.mpr ⟨rfl, hus, ?_⟩))
        rcases h.copies t.getUpstreamTaskID with ⟨hno, -⟩ | ⟨t₀, t', hin, hcp', hsm⟩
        · rw [hcp] at hno
          cases hno
        · obtain rfl := Option.some.inj (hcp.symm.trans hin)
          exact ⟨t', hcp', hsm.id⟩
      · refine .inr ?_
        show _ ∈ ((s.work _ w).workers _).unasked
        rwa [work_self]
    · refine .inr ?_
      show _ ∈ ((s.work c w).workers _).unasked
      rwa [work_ne s hc]
  | applies u' w t' tr fault row _ _ _ _ hsm =>
    exact hdue.imp (fun hlog => mem_log_applyTo.mpr (.inl hlog)) (hkept w hsm)

/-- With distinct ids, an entry of a worker's list belongs to one task. -/
theorem owner {t t₀ : Task}
    (hids : (tasks.map Task.id).Nodup) (hnd : (tasks.map Task.getUpstreamTaskID).Nodup)
    (ht : t ∈ tasks) (hu : u ∈ dispatched platform tasks c)
    (hin : (taskMaps tasks).taskM u = some t₀) (hid : t₀.id = t.id) :
    c = t.channelId ∧ u = t.getUpstreamTaskID := by
  obtain ⟨ht₀, rfl, -⟩ := taskM_eq_some hin
  obtain rfl := inj_on_of_nodup_map hids ht₀ ht hid
  obtain ⟨-, t₁, ht₁, rfl, hsm, -⟩ := mem_dispatched hu
  rw [inj_on_of_nodup_map hnd ht₁ ht hsm]
  exact ⟨rfl, rfl⟩

theorem count_applyTo (s : Pass) (c : Int) (u : String) (t : Task) (tr : Transition)
    (fault : Fault) (row : Task) (k : Int) :
    (s.applyTo c u t tr fault row).log.count (.refunded k) = s.log.count (.refunded k) +
        if (tr.perform fault row).2 = .refund ∧ t.id = k then 1 else 0 := by
  unfold applyTo
  by_cases hb : (tr.perform fault row).2 = .refund
  · by_cases hk : t.id = k
    · simp [hb, hk]
    · simp [hb, hk]
  · simp [hb]

theorem single_step {t : Task} (hids : (tasks.map Task.id).Nodup)
    (hnd : (tasks.map Task.getUpstreamTaskID).Nodup) (ht : t ∈ tasks) (h : s.Valid tasks)
    (hsin : s.Single t) (hst : HonestStep s e s') : s'.Single t := by
  obtain ⟨hcnt, href⟩ := hsin
  obtain ⟨c, ⟨-, -, rfl⟩ | ⟨-, heff⟩⟩ := apply_effect h hst.1
  · refine ⟨hcnt, fun hlog hu => href hlog (mem_pending_work ?_ hu)⟩
    simp [Worker.pending]
  cases heff with
  | quiet w hpen _ =>
    refine ⟨hcnt, fun hlog hu => href hlog ?_⟩
    exact mem_pending_work (fun _ h => hpen.subset h) hu
  | asks us w hpen _ =>
    have hsm : (s.log ++ s.asks c us).count (.refunded t.id) = s.log.count (.refunded t.id) := by
      rw [count_append, Nat.add_eq_left]
      exact count_eq_zero.mpr fun hmem => by simp [asks] at hmem
    refine ⟨hsm ▸ hcnt, fun hlog hu => ?_⟩
    refine href ?_ (mem_pending_work (fun _ h => hpen ▸ h) hu)
    rw [← count_pos_iff] at hlog ⊢
    exact hsm ▸ hlog
  | applies u w t' tr fault row hcp _ hmem hpen _ =>
    replace hmem := hmem hst.2
    have hsub : ∀ u' ∈ w.pending, u' ∈ (s.workers c).pending := by
      intro u' hu'
      rw [hpen] at hu'
      exact mem_of_mem_erase hu'
    rw [Single, ← count_pos_iff, count_applyTo]
    show _ + _ ≤ 1 ∧ (0 < _ + _ → _ ∉ ((s.work c w).workers _).pending)
    by_cases hid : t'.id = t.id
    · -- its answer was still to come, so it has not been refunded yet
      obtain ⟨t₀, hin, hid₀, -⟩ := h.copy hcp
      obtain ⟨rfl, rfl⟩ := owner hids hnd ht ((h.pending c).subset hmem) hin (hid₀.trans hid)
      have hz : s.log.count (.refunded t.id) = 0 := by
        refine count_eq_zero.mpr fun hlog => href hlog hmem
      refine ⟨?_, fun _ => ?_⟩
      · show s.log.count _ + _ ≤ 1
        split <;> omega
      · rw [work_self, hpen]
        exact ((nodup_dispatched hnd s.platform _).sublist (h.pending _)).not_mem_erase
    · rw [if_neg (fun hc => hid hc.2)]
      refine ⟨hcnt, fun hlog hu => href ?_ (mem_pending_work hsub hu)⟩
      exact count_pos_iff.mp hlog

/-! ## Runs -/

section Runs
variable {platform : TaskPlatform} {events : List PassEvent}

theorem valid_run (hrun : Run Step (begin platform tasks) events s) : s.Valid tasks :=
  hrun.invariant (I := Valid tasks) (fun _ _ _ h hst => valid_step h hst)
    (valid_begin platform tasks)

/-- If every task was asked about in the end, nobody gave up. -/
theorem not_givesUp_of_polled (hnd : (tasks.map Task.getUpstreamTaskID).Nodup)
    (hrun : Run Step s events s') (h : s.Valid tasks) (hfresh : s.Fresh)
    (hpol : ∀ t ∈ tasks, .asked t.channelId t.getUpstreamTaskID t.id ∈ s'.log) :
    ∀ e ∈ events, ¬ e.GivesUp := by
  induction hrun with
  | nil s => exact fun e he => absurd he not_mem_nil
  | @cons s s₁ s' e events hst hre ih =>
    have hval := valid_step h hst
    intro e' he' hgiv
    rcases mem_cons.mp he' with rfl | hmem
    · obtain ⟨t, ht, hmis⟩ := missed_of_givesUp h hfresh hst hgiv
      -- a task that is missed once stays missed to the end of the pass
      have hend : s'.Valid tasks ∧ s'.Missed t :=
        hre.invariant (I := fun s => s.Valid tasks ∧ s.Missed t)
          (fun _ _ _ h hst => ⟨valid_step h.1 hst, missed_step h.1 h.2 hst⟩) ⟨hval, hmis⟩
      exact hend.2.1 (hpol t ht)
    · exact ih hval (fresh_step hnd h hfresh hst) hpol e' hmem hgiv

/-- The tasks a pass can serve: of a platform it polls, with upstream ids that no two
of them share. -/
structure Servable (platform : TaskPlatform) (tasks : List Task) : Prop where
  platform : tasks = [] ∨ platform ≠ .midjourney
  named : ∀ t ∈ tasks, t.getUpstreamTaskID ≠ ""
  distinct : (tasks.map Task.getUpstreamTaskID).Nodup

/-- A pass that asks about every task finds each under its own id. -/
theorem servable_of_polled (hids : (tasks.map Task.id).Nodup) (h : s.Valid tasks)
    (hpol : ∀ t ∈ tasks, .asked t.channelId t.getUpstreamTaskID t.id ∈ s.log) :
    Servable s.platform tasks := by
  have hfound : ∀ t ∈ tasks, s.platform ≠ .midjourney ∧
      (taskMaps tasks).taskM t.getUpstreamTaskID = some t := by
    intro t ht
    obtain ⟨hu, t₀, hin, hid⟩ := h.asked _ _ _ (hpol t ht)
    obtain rfl := inj_on_of_nodup_map hids (taskM_eq_some hin).1 ht hid
    exact ⟨(mem_dispatched hu).1, hin⟩
  refine ⟨?_, fun t ht => (taskM_eq_some (hfound t ht).2).2.2, ?_⟩
  · cases tasks with
    | nil => exact .inl rfl
    | cons t rest => exact .inr (hfound t mem_cons_self).1
  · refine List.Nodup.map_on (fun t ht t' ht' heq => ?_) (List.Nodup.of_map _ hids)
    have hso := (hfound t ht).2
    rw [heq, (hfound t' ht').2] at hso
    exact (Option.some.inj hso).symm

theorem platform_step (h : s.Valid tasks) (hst : Step s e s') : s'.platform = s.platform := by
  obtain ⟨c, ⟨-, -, rfl⟩ | ⟨-, heff⟩⟩ := apply_effect h hst
  · rfl
  · cases heff <;> rfl

theorem platform_run (hrun : Run Step (begin platform tasks) events s) : s.platform = platform := by
  have hkept : s.Valid tasks ∧ s.platform = platform :=
    hrun.invariant (I := fun s => s.Valid tasks ∧ s.platform = platform)
      (fun _ _ _ h hst =>
        ⟨valid_step h.1 hst, (platform_step h.1 hst).trans h.2⟩)
      ⟨valid_begin platform tasks, rfl⟩
  exact hkept.2

/-- A task of a servable list is handed to the worker of its channel. -/
theorem Servable.due (h : Servable platform tasks) {t : Task} (ht : t ∈ tasks) :
    (begin platform tasks).Due t := by
  refine .inr ?_
  have hmem : t.getUpstreamTaskID ∈ (taskMaps tasks).taskChannelM t.channelId :=
    mem_taskChannelM.mpr ⟨t, ht, rfl, rfl, h.named t ht⟩
  show t.getUpstreamTaskID ∈ dispatched platform tasks t.channelId
  unfold dispatched
  split
  · rcases h.platform with rfl | hne
    · cases ht
    · exact absurd rfl hne
  · exact hmem

theorem polled_of_servable (h : Servable platform tasks)
    (hrun : Run Step (begin platform tasks) events s) (hkept : ∀ e ∈ events, ¬ e.GivesUp)
    (hfin : s.Finished) {t : Task} (ht : t ∈ tasks) :
    .asked t.channelId t.getUpstreamTaskID t.id ∈ s.log := by
  have hcp := taskM_of_mem h.distinct ht (h.named t ht)
  have hend : s.Valid tasks ∧ s.Due t :=
    (hrun.restrict hkept).invariant (I := fun s => s.Valid tasks ∧ s.Due t)
      (fun _ _ _ h hst => ⟨valid_step h.1 hst.1, due_step hcp h.1 h.2 hst.1 hst.2⟩)
      ⟨valid_begin platform tasks, h.due ht⟩
  rcases hend.2 with hlog | hu
  · exact hlog
  have hpen := (unasked_sublist _).subset hu
  rw [hfin t.channelId] at hpen
  cases hpen

theorem applied_run (hrun : Run HonestStep (begin platform tasks) events s) : s.Applied tasks := by
  have hend : s.Valid tasks ∧ s.Applied tasks :=
    hrun.invariant (I := fun s => s.Valid tasks ∧ s.Applied tasks)
      (fun _ _ _ h hst => ⟨valid_step h.1 hst.1, applied_step h.1 h.2 hst⟩)
      ⟨valid_begin platform tasks, fun c u k hlog => by cases hlog⟩
  exact hend.2

theorem single_of_servable (hids : (tasks.map Task.id).Nodup) (h : Servable platform tasks)
    (hrun : Run HonestStep (begin platform tasks) events s) {t : Task} (ht : t ∈ tasks) :
    s.Single t := by
  have hend : s.Valid tasks ∧ s.Single t :=
    hrun.invariant (I := fun s => s.Valid tasks ∧ s.Single t)
      (fun _ _ _ hs hst => ⟨valid_step hs.1 hst.1,
        single_step hids h.distinct ht hs.1 hs.2 hst⟩)
      ⟨valid_begin platform tasks, Nat.zero_le 1, nofun⟩
  exact hend.2

/-- **A finished pass has served every task, from its own channel and with at most one refund, only
if no two tasks share an upstream id** and there was nothing it could not come to; and if the Suno
answers in it were honest, this is enough. -/
theorem attributed_iff (hids : (tasks.map Task.id).Nodup)
    (hrun : Run Step (begin platform tasks) events s) (hfinished : s.Finished) :
    (Attributed tasks s.log → Servable platform tasks ∧ ∀ e ∈ events, ¬ e.GivesUp) ∧
    (Run HonestStep (begin platform tasks) events s →
      (Attributed tasks s.log ↔ Servable platform tasks ∧ ∀ e ∈ events, ¬ e.GivesUp)) := by
  have hneeds : Attributed tasks s.log → Servable platform tasks ∧ ∀ e ∈ events, ¬ e.GivesUp := by
    intro h
    have hservable := servable_of_polled hids (valid_run hrun) h.polled
    rw [platform_run hrun] at hservable
    have hfresh : (begin platform tasks).Fresh := fun c u k hlog => by cases hlog
    exact ⟨hservable,
      not_givesUp_of_polled hservable.distinct hrun (valid_begin _ _) hfresh h.polled⟩
  refine ⟨hneeds, fun hhonest => ⟨hneeds, ?_⟩⟩
  rintro ⟨hservable, hkept⟩
  refine ⟨fun t ht c u hlog => ?_, fun t ht => ?_, fun t ht => ?_⟩
  · obtain ⟨hu, t₀, hin, hid⟩ := applied_run hhonest c u t.id hlog
    exact owner hids hservable.distinct ht hu hin hid
  · exact polled_of_servable hservable hrun hkept hfinished ht
  · exact (single_of_servable hids hservable hhonest ht).1

end Runs
/-- A task like the sample, through another channel. -/
def otherTask (upstreamID : String) : Task :=
  { sampleTask with
    id := 2
    channelId := 3
    privateData := { sampleTask.privateData with upstreamTaskID := upstreamID } }

/-- A channel answers about a task that is stored as `row`. -/
def answeredBy (c : Int) (status : String) (row : Task) : PassEvent :=
  .answer c 1780000600 id (answer status) none row

theorem finished_of_channels (h : s.Valid tasks)
    (hdn : ∀ t ∈ tasks, (s.workers t.channelId).pending = []) : s.Finished := by
  refine fun c => eq_nil_iff_forall_not_mem.mpr fun u hu => ?_
  obtain ⟨-, t, ht, rfl, -⟩ := mem_dispatched ((h.pending c).subset hu)
  rw [hdn t ht] at hu
  cases hu

/-- What a Suno channel says about an id. -/
def sunoItem (c : Int) (upstreamID status : String) (row : Task) : PassEvent :=
  .item c ⟨upstreamID, status, "", 1780000000, 0, 0, []⟩ none row

/-- Two Suno channels, two ids: the failure of one task is told twice, an id that nobody asked about
is passed over, and both tasks are served. -/
theorem attributed_two_channels :
    ∃ s, Run HonestStep (begin .suno [sampleTask, otherTask "up-2"])
        [.lookup 2 true, .lookup 3 true, .fetchAll 2, .fetchAll 3,
          sunoItem 3 "up-2" "FAILURE" (otherTask "up-2"),
          sunoItem 3 "up-2" "FAILURE" (otherTask "up-2"),
          sunoItem 2 "up-9" "FAILURE" sampleTask, sunoItem 2 "up-1" "SUCCESS" sampleTask,
          .collected 2, .collected 3] s ∧
      s.Finished ∧ .refunded 2 ∈ s.log ∧ Attributed [sampleTask, otherTask "up-2"] s.log := by
  have hrun : Run HonestStep (begin .suno [sampleTask, otherTask "up-2"])
      [.lookup 2 true, .lookup 3 true, .fetchAll 2, .fetchAll 3,
        sunoItem 3 "up-2" "FAILURE" (otherTask "up-2"),
        sunoItem 3 "up-2" "FAILURE" (otherTask "up-2"),
        sunoItem 2 "up-9" "FAILURE" sampleTask, sunoItem 2 "up-1" "SUCCESS" sampleTask,
        .collected 2, .collected 3] _ :=
    .cons ⟨rfl, trivial⟩ (.cons ⟨rfl, trivial⟩ (.cons ⟨rfl, trivial⟩ (.cons ⟨rfl, trivial⟩
      (.cons ⟨rfl, fun _ _ _ => by decide⟩
      -- the second time it is no news
      (.cons ⟨rfl, fun t ht hnews => by cases ht; exact absurd hnews (by decide)⟩
      (.cons ⟨rfl, fun t ht _ => by cases ht⟩ (.cons ⟨rfl, fun _ _ _ => by decide⟩
      (.cons ⟨rfl, trivial⟩ (.cons ⟨rfl, trivial⟩ (.nil _))))))))))
  have hstep := hrun.mono fun _ _ _ h => h.1
  have hfin := finished_of_channels (valid_run hstep) (by decide)
  refine ⟨_, hrun, hfin, by decide, ?_⟩
  refine ((attributed_iff (by decide) hstep hfin).2 hrun).mpr ⟨⟨?_, ?_, ?_⟩, ?_⟩
  · exact .inr (by decide)
  · decide
  · decide
  · simp [PassEvent.GivesUp, sunoItem]

/-- Two channels, one id: the answers of both go to the second task, which is refunded
for each of them, and the first task is never asked about. -/
theorem shared_id_misattributed :
    ([sampleTask, otherTask "up-1"].map Task.id).Nodup ∧
    ∃ s, Run Step (begin (.video "kling") [sampleTask, otherTask "up-1"])
        [.lookup 2 true, .fetch 2, answeredBy 2 "FAILURE" (otherTask "up-1"),
          .lookup 3 true, .fetch 3, answeredBy 3 "FAILURE" (otherTask "up-1")] s ∧
      s.Finished ∧
      s.log = [.asked 2 "up-1" 2, .applied 2 "up-1" 2, .refunded 2,
        .asked 3 "up-1" 2, .applied 3 "up-1" 2, .refunded 2] ∧
      ¬ Attributed [sampleTask, otherTask "up-1"] s.log := by
  have hrun : Run Step (begin (.video "kling") [sampleTask, otherTask "up-1"])
      [.lookup 2 true, .fetch 2, answeredBy 2 "FAILURE" (otherTask "up-1"),
        .lookup 3 true, .fetch 3, answeredBy 3 "FAILURE" (otherTask "up-1")] _ :=
    .cons rfl (.cons rfl (.cons rfl (.cons rfl
      (.cons rfl (.cons rfl (.nil _))))))
  refine ⟨by decide, _, hrun, finished_of_channels (valid_run hrun) (by decide),
    by decide +kernel, fun h => ?_⟩
  exact absurd (h.polled sampleTask mem_cons_self) (by decide +kernel)

end Pass
end NewApi
