import NewApi.BillingSession

/-! # Async tasks: what a poll does to a task

A polling pass reads unfinished rows of `tasks` into memory, asks the upstream
about each, updates its copy and writes the copy back.  `UpdateWithStatus` writes
every column of the copy, guarded by the status the copy had before; the refund
of a failed task and the settlement of a finished one hang on that guard.

The three ways to update a copy (the sweep of overdue tasks, an item of a Suno
answer, a video answer) are modelled as functions to one type, `Transition`: the
copy as it is afterwards, the statement that follows, and what is billed.
`Transition.Sound` collects what the refund argument needs of them; it holds as
long as the copy was unfinished when it was updated. -/
namespace NewApi

/-- `model.TaskStatus`.  Upstream texts that are no constant of the type are kept
as they are. -/
inductive TaskStatus where
  | notStart
  | submitted
  | queued
  | inProgress
  | failure
  | success
  | unknown
  | other (text : String)
  deriving DecidableEq, Repr

namespace TaskStatus

/-- The conversion `model.TaskStatus(text)`. -/
def ofString (text : String) : TaskStatus :=
  if text = "NOT_START" then .notStart
  else if text = "SUBMITTED" then .submitted
  else if text = "QUEUED" then .queued
  else if text = "IN_PROGRESS" then .inProgress
  else if text = "FAILURE" then .failure
  else if text = "SUCCESS" then .success
  else if text = "UNKNOWN" then .unknown
  else .other text

/-- `FAILURE` or `SUCCESS`. -/
def isDone (status : TaskStatus) : Bool := decide (status = .success ∨ status = .failure)

end TaskStatus

/-- `model.TaskPrivateData`, with the `PerCallBilling` of its billing context. -/
structure TaskPrivateData where
  key : String
  upstreamTaskID : String
  resultURL : String
  billingSource : Option BillingSource
  subscriptionId : Int
  tokenId : Int
  perCallBilling : Bool
  deriving DecidableEq, Repr

/-- `constant.TaskPlatform`, as far as `DispatchPlatformUpdate` tells it apart. -/
inductive TaskPlatform where
  | midjourney
  | suno
  | video (name : String)
  deriving DecidableEq, Repr

/-- The platforms `UpdateVideoTasks` is for. -/
def TaskPlatform.isVideo : TaskPlatform → Bool
  | .video _ => true
  | _ => false

/-- A row of `tasks`, or a copy of one. -/
structure Task where
  id : Int
  taskID : String
  platform : TaskPlatform
  userId : Int
  channelId : Int
  quota : Int
  status : TaskStatus
  failReason : String
  submitTime : Int
  startTime : Int
  finishTime : Int
  progress : String
  privateData : TaskPrivateData
  data : List UInt8
  deriving DecidableEq, Repr

structure TaskSnapshot where
  status : TaskStatus
  progress : String
  startTime : Int
  finishTime : Int
  failReason : String
  resultURL : String
  data : List UInt8
  deriving DecidableEq, Repr

namespace Task

def getUpstreamTaskID (t : Task) : String :=
  if t.privateData.upstreamTaskID ≠ "" then t.privateData.upstreamTaskID else t.taskID

/-- The `WHERE` of `GetAllUnFinishSyncTasks`. -/
def unfinished (t : Task) : Bool :=
  decide (t.progress ≠ "100%" ∧ t.status ≠ .failure ∧ t.status ≠ .success)

/-- The `WHERE` of `GetTimedOutUnfinishedTasks`. -/
def timedOut (cutoffUnix : Int) (t : Task) : Bool :=
  t.unfinished && decide (t.submitTime < cutoffUnix)

def snapshot (t : Task) : TaskSnapshot where
  status := t.status
  progress := t.progress
  startTime := t.startTime
  finishTime := t.finishTime
  failReason := t.failReason
  resultURL := t.privateData.resultURL
  data := t.data

/-- `UpdateWithStatus` on the row: whether the caller won, and the row afterwards.
The statement writes every column. -/
def updateWithStatus (fault : Fault) (fromStatus : TaskStatus) (t row : Task) :
    Except String (Bool × Task) :=
  match fault with
  | some text => .error text
  | none => if row.status = fromStatus then .ok (true, t) else .ok (false, row)

/-- `TaskBulkUpdateByID` as the poller uses it, on one of the rows: nothing guards
it.  The reason is written only where a channel was not found. -/
def bulkFail (fault : Fault) (failReason : Option String) (row : Task) : Task :=
  match fault with
  | some _ => row
  | none => { row with
      status := .failure, progress := "100%", failReason := failReason.getD row.failReason }

/-- `isLegacy`: submitted before `legacyTaskCutoff`. -/
def isLegacy (t : Task) : Bool := decide (0 < t.submitTime ∧ t.submitTime < 1740182400)

end Task

/-! ## Transitions -/

/-- What is billed after a transition. -/
inductive Billing where
  | nothing
  /-- `RefundTaskQuota` -/
  | refund
  /-- `settleTaskBillingOnComplete` -/
  | settle
  deriving DecidableEq, Repr

/-- The statement that follows on an updated copy. -/
inductive Write where
  | skip
  /-- `UpdateWithStatus`, whatever comes of it. -/
  | record
  /-- `UpdateWithStatus`, and billing only for the winner. -/
  | claim
  deriving DecidableEq, Repr

/-- One update of a copy. -/
structure Transition where
  /-- The copy afterwards. -/
  task : Task
  /-- The status it had before. -/
  fromStatus : TaskStatus
  write : Write
  billing : Billing
  deriving DecidableEq, Repr

/-- The row after the statement of a transition, and what is left to bill. -/
def Transition.perform (t : Transition) (fault : Fault) (row : Task) : Task × Billing :=
  match t.write with
  | .skip => (row, t.billing)
  | .record =>
      match t.task.updateWithStatus fault t.fromStatus row with
      | .error _ => (row, t.billing)
      | .ok (_, row') => (row', t.billing)
  | .claim =>
      match t.task.updateWithStatus fault t.fromStatus row with
      | .ok (true, row') => (row', t.billing)
      | _ => (row, .nothing)

/-- A copy is left alone. -/
def Task.stay (t : Task) (fromStatus : TaskStatus) : Transition := ⟨t, fromStatus, .skip, .nothing⟩

/-- The loop body of `sweepTimedOutTasks`. -/
def Task.sweep (timeoutMinutes now : Int) (t : Task) : Transition where
  task := { t with
    status := .failure
    progress := "100%"
    finishTime := now
    failReason :=
      if t.isLegacy then "任务超时（旧系统遗留任务，不进行退款，请联系管理员）"
      else "任务超时（" ++ toString timeoutMinutes ++ "分钟）" }
  fromStatus := t.status
  write := .claim
  billing := if t.isLegacy = false ∧ t.quota ≠ 0 then .refund else .nothing

/-! ### Suno -/

/-- `dto.SunoDataResponse`. -/
structure SunoDataResponse where
  taskID : String
  status : String
  failReason : String
  submitTime : Int
  startTime : Int
  finishTime : Int
  data : List UInt8
  deriving DecidableEq, Repr

/-- `taskNeedsUpdate`.  The data are compared by their sorted bytes. -/
def taskNeedsUpdate (oldTask : Task) (newTask : SunoDataResponse) : Bool :=
  if oldTask.submitTime ≠ newTask.submitTime then true
  else if oldTask.startTime ≠ newTask.startTime then true
  else if oldTask.finishTime ≠ newTask.finishTime then true
  else if oldTask.status ≠ .ofString newTask.status then true
  else if oldTask.failReason ≠ newTask.failReason then true
  else if (oldTask.status = .failure ∨ oldTask.status = .success) ∧ oldTask.progress ≠ "100%" then
    true
  else !oldTask.data.isPerm newTask.data

/-- The status an item reports for a copy. -/
def SunoDataResponse.statusFor (item : SunoDataResponse) (t : Task) : TaskStatus :=
  if item.status ≠ "" then .ofString item.status else t.status

/-- Whether an item reports a failure of a copy. -/
def SunoDataResponse.failed (item : SunoDataResponse) (t : Task) : Bool :=
  decide (item.failReason ≠ "" ∨ item.statusFor t = .failure)

/-- The loop body of `updateSunoTasks` for a copy and the item with its id. -/
def Task.applySuno (item : SunoDataResponse) (t : Task) : Transition :=
  if taskNeedsUpdate t item = false then t.stay t.status
  else
    { task := { t with
        status := if item.failed t then .failure else item.statusFor t
        failReason := if item.failReason ≠ "" then item.failReason else t.failReason
        submitTime := if item.submitTime ≠ 0 then item.submitTime else t.submitTime
        startTime := if item.startTime ≠ 0 then item.startTime else t.startTime
        finishTime := if item.finishTime ≠ 0 then item.finishTime else t.finishTime
        progress := if item.failed t ∨ item.status = "SUCCESS" then "100%" else t.progress
        data := item.data }
      fromStatus := t.status
      write := .claim
      billing := if item.failed t ∧ t.quota ≠ 0 then .refund else .nothing }

/-! ### Video -/

/-- `relaycommon.TaskInfo`. -/
structure TaskInfo where
  status : String
  reason : String
  url : String
  progress : String
  deriving DecidableEq, Repr

def failTaskInfo (reason : String) : TaskInfo := ⟨"FAILURE", reason, "", ""⟩

/-- An answer body read as a `GeneralErrorResponse`. -/
inductive ErrorBody where
  | unreadable
  /-- `TryToOpenAIError` finds none. -/
  | unrecognized
  | openAI (code : String)
  deriving DecidableEq, Repr

/-- An answer body, as the readers `updateVideoSingleTask` tries see it. -/
structure VideoBody where
  /-- A successful New API answer. -/
  newApi : Option TaskInfo
  /-- `adaptor.ParseTaskResult`. -/
  parsed : Except String TaskInfo
  error : ErrorBody
  /-- `redactVideoResponseBody`. -/
  redacted : List UInt8

/-- The result in a body.  `ok none` stands for the rate limit, which is no
result. -/
def VideoBody.result (body : VideoBody) : Except String (Option TaskInfo) :=
  let read := match body.newApi with
    | some info => Except.ok info
    | none => body.parsed
  match read with
  | .error e => .error e
  | .ok info =>
      if info.status ≠ "" then .ok (some info)
      else match body.error with
      | .unreadable => .ok (some info)
      | .unrecognized => .ok (some (failTaskInfo "upstream returned unrecognized message"))
      | .openAI code =>
          if code = "429" then .ok none else .ok (some (failTaskInfo "upstream returned error"))

/-- The `ResultURL` of a finished task.  Data URIs are kept out of it. -/
def resultURL (proxyURL : String → String) (taskID url : String) : String :=
  if "data:".toList <+: url.toList then proxyURL taskID
  else if url ≠ "" then url
  else proxyURL taskID

/-- `if taskResult.Progress != "" { task.Progress = taskResult.Progress }`. -/
def Task.withProgress (t : Task) (progress : String) : Task :=
  { t with progress := if progress ≠ "" then progress else t.progress }

/-- What follows once a copy has its new status: the end of
`updateVideoSingleTask`. -/
def Task.recordVideo (old updated : Task) (progress : String) (billing : Billing) : Transition :=
  let new := updated.withProgress progress
  if new.status.isDone ∧ old.status ≠ new.status then ⟨new, old.status, .claim, billing⟩
  -- without a change of status the bill does not depend on the outcome of the write
  else if old.snapshot ≠ new.snapshot then ⟨new, old.status, .record, billing⟩
  else ⟨new, old.status, .skip, billing⟩

/-- `updateVideoSingleTask` for a copy, once the upstream has answered.  Where the
source returns early the copy keeps what was written to it so far. -/
def Task.applyVideo (now : Int) (proxyURL : String → String) (body : VideoBody) (t : Task) :
    Transition :=
  match body.result with
  | .error _ => t.stay t.status
  | .ok none => { t with data := body.redacted }.stay t.status
  | .ok (some info) =>
      let new := { t with data := body.redacted, status := .ofString info.status }
      match TaskStatus.ofString info.status with
      | .submitted => t.recordVideo { new with progress := "10%" } info.progress .nothing
      | .queued => t.recordVideo { new with progress := "20%" } info.progress .nothing
      | .inProgress =>
          t.recordVideo { new with
            progress := "30%"
            startTime := if t.startTime = 0 then now else t.startTime } info.progress .nothing
      | .success =>
          t.recordVideo { new with
            progress := "100%"
            finishTime := if t.finishTime = 0 then now else t.finishTime
            privateData := { t.privateData with
              resultURL := resultURL proxyURL t.taskID info.url } } info.progress .settle
      | .failure =>
          t.recordVideo { new with
            progress := "100%"
            finishTime := if t.finishTime = 0 then now else t.finishTime
            failReason := info.reason } "100%" (if t.quota ≠ 0 then .refund else .nothing)
      -- any other status is an error: the copy has it, the row does not get it
      | _ => new.stay t.status

/-- The reason written when the channel of a task is gone. -/
def channelFailReason : TaskPlatform → Int → String
  | .suno, channelId => "获取渠道信息失败，请联系管理员，渠道ID：" ++ toString channelId
  | _, channelId => "Failed to get channel info, channel ID: " ++ toString channelId

/-- The quota `settleTaskBillingOnComplete` recalculates a task to, if any:
`adjusted` is what the adaptor says, `byTokens` what the token count comes to. -/
def settleTaskBillingOnComplete (adjusted byTokens : Int) (t : Task) : Option Int :=
  if t.privateData.perCallBilling then none
  else if 0 < adjusted then some adjusted
  else if 0 < byTokens then some byTokens
  else none

/-- The row after `RecalculateTaskQuota`. -/
def recalculateTaskQuota (fundingFault updateFault : Fault) (actualQuota : Int) (t row : Task) :
    Task :=
  if actualQuota ≤ 0 ∨ actualQuota = t.quota then row
  else match fundingFault, updateFault with
  | none, none => { row with quota := actualQuota }
  | _, _ => row

/-! ## What every transition does -/

/-- What a transition from `t` promises: the row it writes is refunded if it is a
failed one, and nothing is billed unless the guard was won. -/
structure Transition.Sound (t : Task) (tr : Transition) : Prop where
  fromStatus : tr.fromStatus = t.status
  quota : tr.task.quota = t.quota
  refund : tr.billing = .refund → tr.write = .claim ∧ tr.task.status = .failure
  settle : tr.billing = .settle → tr.write = .claim ∧ tr.task.status = .success
  failed : tr.write ≠ .skip → tr.task.status = .failure → t.quota ≠ 0 →
    tr.task.isLegacy = false → tr.billing = .refund

/-- The columns that say which task it is. -/
structure Task.SameTask (t t' : Task) : Prop where
  id : t'.id = t.id
  channelId : t'.channelId = t.channelId
  taskID : t'.taskID = t.taskID
  upstreamTaskID : t'.privateData.upstreamTaskID = t.privateData.upstreamTaskID

namespace Task
variable {t t' : Task}

theorem SameTask.getUpstreamTaskID (h : t.SameTask t') :
    t'.getUpstreamTaskID = t.getUpstreamTaskID := by
  unfold Task.getUpstreamTaskID
  rw [h.upstreamTaskID, h.taskID]

theorem SameTask.refl (t : Task) : t.SameTask t := ⟨rfl, rfl, rfl, rfl⟩

theorem SameTask.trans {t'' : Task} (h : t.SameTask t') (h' : t'.SameTask t'') : t.SameTask t'' :=
  ⟨h'.id.trans h.id, h'.channelId.trans h.channelId, h'.taskID.trans h.taskID,
    h'.upstreamTaskID.trans h.upstreamTaskID⟩

/-- A reading of a task that does not look at the columns polls write. -/
def Unpolled {β : Type} (f : Task → β) : Prop :=
  ∀ (t : Task) (status : TaskStatus) (failReason : String) (submitTime startTime finishTime : Int)
    (progress resultURL : String) (data : List UInt8),
    f { t with
      status := status, failReason := failReason, submitTime := submitTime
      startTime := startTime, finishTime := finishTime, progress := progress, data := data
      privateData := { t.privateData with resultURL := resultURL } } = f t

section Unpolled
variable {β : Type} {f : Task → β}

theorem Unpolled.sweep (hf : Unpolled f) (timeoutMinutes now : Int) :
    f (t.sweep timeoutMinutes now).task = f t :=
  hf t ..

theorem Unpolled.applySuno (hf : Unpolled f) (item : SunoDataResponse) :
    f (t.applySuno item).task = f t := by
  unfold Task.applySuno
  split
  · rfl
  · exact hf t ..

theorem Unpolled.recordVideo (hf : Unpolled f) {progress : String} {billing : Billing}
    (h : f t' = f t) : f (t.recordVideo t' progress billing).task = f t := by
  have hpro : f (t'.withProgress progress) = f t := Eq.trans (hf t' ..) h
  dsimp only [Task.recordVideo]
  split
  · exact hpro
  · split <;> exact hpro

theorem Unpolled.applyVideo (hf : Unpolled f) (now : Int) (proxyURL : String → String)
    (body : VideoBody) : f (t.applyVideo now proxyURL body).task = f t := by
  unfold Task.applyVideo
  split
  · rfl
  · exact hf t ..
  · split
    iterate 5 exact hf.recordVideo (hf t ..)
    exact hf t ..

end Unpolled

/-- An update that changes nothing but what polls write keeps the task. -/
theorem SameTask.of_unpolled (h : ∀ {β : Type} (f : Task → β), Unpolled f → f t' = f t) :
    t.SameTask t' where
  id := h _ fun _ _ _ _ _ _ _ _ _ => rfl
  channelId := h _ fun _ _ _ _ _ _ _ _ _ => rfl
  taskID := h _ fun _ _ _ _ _ _ _ _ _ => rfl
  upstreamTaskID := h (fun t => t.privateData.upstreamTaskID) fun _ _ _ _ _ _ _ _ _ => rfl

theorem sound_stay (h : t'.quota = t.quota) : (t'.stay t.status).Sound t where
  fromStatus := rfl
  quota := h
  refund hb := by cases hb
  settle hb := by cases hb
  failed hw := absurd rfl hw

theorem sound_sweep (timeoutMinutes now : Int) : (t.sweep timeoutMinutes now).Sound t := by
  refine ⟨rfl, rfl, fun _ => ⟨rfl, rfl⟩, fun hb => ?_, fun _ _ hquo hleg => ?_⟩
  · simp only [sweep] at hb
    split at hb <;> cases hb
  · exact if_pos ⟨hleg, hquo⟩

theorem sound_applySuno (item : SunoDataResponse) : (t.applySuno item).Sound t := by
  unfold applySuno
  split
  · exact sound_stay rfl
  cases hfai : item.failed t with
  | true =>
    refine ⟨rfl, rfl, fun _ => ⟨rfl, rfl⟩, fun hb => ?_, fun _ _ hquo _ => if_pos ⟨rfl, hquo⟩⟩
    simp only [true_and] at hb
    split at hb <;> cases hb
  | false =>
    have hsts : item.statusFor t ≠ .failure := fun hc => of_decide_eq_false hfai (.inr hc)
    exact ⟨rfl, rfl, fun hb => by simp at hb, fun hb => by simp at hb, fun _ hc => absurd hc hsts⟩

/-- The end of `updateVideoSingleTask`, for a copy that was unfinished. -/
theorem sound_recordVideo {progress : String} {billing : Billing} (hop : t.status.isDone = false)
    (hquo : t'.quota = t.quota) (href : billing = .refund → t'.status = .failure)
    (hset : billing = .settle → t'.status = .success)
    (hfai : t'.status = .failure → t.quota ≠ 0 → billing = .refund) :
    (t.recordVideo t' progress billing).Sound t := by
  have hsts : (t'.withProgress progress).status = t'.status := rfl
  unfold recordVideo
  by_cases hdn : t'.status.isDone = true
  · have hne : t.status ≠ t'.status := by
      intro heq
      rw [heq, hdn] at hop
      cases hop
    simp only [hsts, if_pos (And.intro hdn hne)]
    exact ⟨rfl, hquo, fun hb => ⟨rfl, href hb⟩, fun hb => ⟨rfl, hset hb⟩,
      fun _ hf hq _ => hfai hf hq⟩
  · have hno : ∀ {P : Prop}, t'.status = .failure ∨ t'.status = .success → P :=
      fun hc => absurd (decide_eq_true hc.symm) hdn
    simp only [hsts, if_neg (fun hc : t'.status.isDone = true ∧ _ => hdn hc.1)]
    split
    all_goals
      exact ⟨rfl, hquo, fun hb => hno (.inl (href hb)),
        fun hb => hno (.inr (hset hb)), fun _ hf => hno (.inl hf)⟩

theorem sound_applyVideo (now : Int) (proxyURL : String → String) (body : VideoBody)
    (hop : t.status.isDone = false) : (t.applyVideo now proxyURL body).Sound t := by
  unfold applyVideo
  split
  · exact sound_stay rfl
  · exact sound_stay rfl
  rename_i info _
  cases hsts : TaskStatus.ofString info.status with
  | submitted | queued | inProgress =>
    exact sound_recordVideo hop rfl nofun nofun nofun
  | success =>
    exact sound_recordVideo hop rfl nofun (fun _ => rfl) nofun
  | failure =>
    refine sound_recordVideo hop rfl (fun _ => rfl) (fun hb => ?_) (fun _ hne => if_pos hne)
    split at hb <;> cases hb
  | notStart | unknown | other text => exact sound_stay rfl

end Task

/-- A video task that took fifty units. -/
def sampleTask : Task where
  id := 1
  taskID := "task_a"
  platform := .video "kling"
  userId := 7
  channelId := 2
  quota := 50
  status := .submitted
  failReason := ""
  submitTime := 1780000000
  startTime := 0
  finishTime := 0
  progress := "10%"
  privateData := ⟨"", "up-1", "", some .wallet, 0, 9, false⟩
  data := []

/-- An answer that reports a status. -/
def answer (status : String) : VideoBody := ⟨none, .ok ⟨status, "", "", ""⟩, .unreadable, []⟩

end NewApi
