import NewApi.Steps
import NewApi.Table

/-! # System tasks

Background jobs are rows of `system_tasks`; which runner may work on a type of job is a row of
`system_task_locks`, with a time until which it counts.  Runners share only these tables: they
create tasks, claim pending ones, renew their locks, write states and results, and expire the locks
of runners that are gone.

Every function is a sequence of SQL statements, and a statement is one step.  Between two of them a
runner may pause for any time or for good, and other runners go on.  A row's `ID` and `TaskID` are
both unique and never change; `id` stands for both. -/
namespace NewApi

/-! ## The tables -/

inductive SystemTaskStatus where
  | pending
  | running
  | succeeded
  | failed
deriving DecidableEq, Repr

/-- The task is over. -/
def SystemTaskStatus.terminal : SystemTaskStatus → Bool
  | .succeeded | .failed => true
  | .pending | .running => false

structure SystemTask where
  id : Nat
  type : String
  status : SystemTaskStatus := .pending
  activeKey : Option String
  payload : String
  state : String
  result : String := ""
  error : String := ""
  lockedBy : String := ""
  createdAt : Nat
  updatedAt : Nat
deriving DecidableEq, Repr

structure SystemTaskLock where
  type : String
  taskID : Nat
  lockedBy : String
  lockedUntil : Nat
  updatedAt : Nat
deriving DecidableEq, Repr

/-- The two tables.  A task is found by its id, a lock by its type. -/
structure SystemTaskDB where
  tasks : Db.Table SystemTask.id := .empty
  locks : Db.Table SystemTaskLock.type := .empty

namespace SystemTaskDB

/-- The row of a task. -/
def task? (db : SystemTaskDB) (id : Nat) : Option SystemTask := db.tasks.find? id

/-- The lock of a type. -/
def lock? (db : SystemTaskDB) (type : String) : Option SystemTaskLock := db.locks.find? type

/-! ## The statements -/

/-- The row that `CreateSystemTask` inserts. -/
def newTask (id : Nat) (type payload state : String) (now : Nat) : SystemTask where
  id := id
  type := type
  activeKey := some type
  payload := payload
  state := state
  createdAt := now
  updatedAt := now

/-- `CreateSystemTask`.  The unique indexes refuse a row whose id or active key is taken. -/
def createSystemTask (id : Nat) (type payload state : String) (now : Nat) (db : SystemTaskDB) :
    Option SystemTaskDB :=
  if db.tasks.rows.any fun t => t.activeKey = some type then none
  else (db.tasks.create (newTask id type payload state now)).map fun tasks =>
    { db with tasks := tasks }

/-- The pending task of this id and type. -/
def findPending (id : Nat) (type : String) (db : SystemTaskDB) : Option SystemTask :=
  (db.task? id).filter fun t => t.type = type && t.status = .pending

/-- The update of `ClaimSystemTask` that starts a pending task. -/
def startTask (id : Nat) (type lockedBy : String) (now : Nat) (db : SystemTaskDB) :
    Option SystemTaskDB :=
  (db.tasks.update? (fun t => t.id = id && t.type = type && t.status = .pending)
    (fun t => { t with status := .running, lockedBy := lockedBy, updatedAt := now })
    fun _ => rfl).map fun tasks => { db with tasks := tasks }

/-- The update of `acquireSystemTaskLock` that takes an expired lock. -/
def takeLock (type : String) (taskID : Nat) (lockedBy : String) (now lockUntil : Nat)
    (db : SystemTaskDB) : Option SystemTaskDB :=
  (db.locks.update? (fun l => l.type = type && l.lockedUntil < now)
    (fun l => { l with
      taskID := taskID, lockedBy := lockedBy, lockedUntil := lockUntil, updatedAt := now })
    fun _ => rfl).map fun locks => { db with locks := locks }

def markSystemTaskLeaseExpired (id now : Nat) (db : SystemTaskDB) : SystemTaskDB :=
  { db with
    tasks := db.tasks.updateWhere (fun t => t.id = id && t.status = .running)
      (fun t => { t with
        status := .failed, activeKey := none, error := "task lease expired", updatedAt := now })
      fun _ => rfl }

/-- The delete of `ExpireStaleSystemTaskLocks`. -/
def deleteStaleLock (lock : SystemTaskLock) (now : Nat) (db : SystemTaskDB) : SystemTaskDB :=
  { db with
    locks := db.locks.deleteWhere fun l =>
      l.type = lock.type && l.taskID = lock.taskID && l.lockedBy = lock.lockedBy &&
        l.lockedUntil < now }

def releaseSystemTaskLock (id : Nat) (lockedBy : String) (db : SystemTaskDB) : SystemTaskDB :=
  { db with locks := db.locks.deleteWhere fun l => l.taskID = id && l.lockedBy = lockedBy }

/-- The `EXISTS` of the writes: the runner has a lock of the task that counts at `now`. -/
def lockHeld (id : Nat) (lockedBy : String) (now : Nat) (db : SystemTaskDB) : Bool :=
  db.locks.rows.any fun l => l.taskID = id && l.lockedBy = lockedBy && now ≤ l.lockedUntil

/-- The task is running for this runner, and its lock counts. -/
def writable (id : Nat) (lockedBy : String) (now : Nat) (db : SystemTaskDB) (t : SystemTask) :
    Bool :=
  t.id = id && t.status = .running && t.lockedBy = lockedBy && db.lockHeld id lockedBy now

/-- `UpdateSystemTaskState`; no row affected is `ErrSystemTaskLockLost`. -/
def updateSystemTaskState (id : Nat) (lockedBy : String) (now : Nat) (state : String)
    (db : SystemTaskDB) : Option SystemTaskDB :=
  (db.tasks.update? (db.writable id lockedBy now)
    (fun t => { t with state := state, updatedAt := now }) fun _ => rfl).map fun tasks =>
      { db with tasks := tasks }

def renewSystemTaskLock (id : Nat) (lockedBy : String) (now lockUntil : Nat) (db : SystemTaskDB) :
    Option SystemTaskDB :=
  (db.locks.update? (fun l => l.taskID = id && l.lockedBy = lockedBy && now ≤ l.lockedUntil)
    (fun l => { l with lockedUntil := lockUntil, updatedAt := now }) fun _ => rfl).map fun locks =>
      { db with locks := locks }

/-- The update of `FinishSystemTask`. -/
def finishSystemTask (id : Nat) (lockedBy : String) (now : Nat) (status : SystemTaskStatus)
    (result error : String) (db : SystemTaskDB) : Option SystemTaskDB :=
  (db.tasks.update? (db.writable id lockedBy now)
    (fun t => { t with
      status := status, activeKey := none, result := result, error := error, updatedAt := now })
    fun _ => rfl).map fun tasks => { db with tasks := tasks }

end SystemTaskDB

/-! ## A runner's pass

A runner has one goroutine that expires stale locks and claims tasks, one call after the other. -/

/-- The arguments of `ClaimSystemTask`, and the time it read. -/
structure SystemTaskClaim where
  id : Nat
  type : String
  now : Nat
  lockUntil : Nat
deriving DecidableEq, Repr

/-- The lock that a claim inserts. -/
def SystemTaskClaim.lock (c : SystemTaskClaim) (runner : String) : SystemTaskLock where
  type := c.type
  taskID := c.id
  lockedBy := runner
  lockedUntil := c.lockUntil
  updatedAt := c.now

/-- The statement that comes next. -/
inductive PassAt where
  | idle
  /-- `ExpireStaleSystemTaskLocks`: the select, -/
  | readStale (now : Nat)
  /-- the loop, at the mark of its next lock, -/
  | stale (now : Nat) (todo : List SystemTaskLock)
  /-- and at the delete of a lock. -/
  | deleteStale (now : Nat) (lock : SystemTaskLock) (todo : List SystemTaskLock)
  /-- `ClaimSystemTask`: the first select, -/
  | find (c : SystemTaskClaim)
  /-- `acquireSystemTaskLock`, -/
  | insertLock (c : SystemTaskClaim)
  | readLock (c : SystemTaskClaim)
  | takeLock (c : SystemTaskClaim) (expiredTaskID : Nat)
  /-- the mark of the task whose lock was taken, the update of the status, -/
  | markExpired (c : SystemTaskClaim) (expiredTaskID : Nat)
  | start (c : SystemTaskClaim)
  /-- `ReleaseSystemTaskLock` when the claim fails, and the last select. -/
  | release (c : SystemTaskClaim)
  | reread (c : SystemTaskClaim)
deriving DecidableEq, Repr

namespace PassAt

/-- A statement comes next. -/
def busy : PassAt → Bool
  | .idle | .stale _ [] => false
  | _ => true

/-- The next statement runs, at the time `clock`. -/
def exec (clock : Nat) (runner : String) : PassAt → SystemTaskDB → SystemTaskDB × PassAt
  | .idle, db => (db, .idle)
  | .readStale now, db =>
      (db, .stale now (db.locks.rows.filter fun l => l.lockedUntil < now))
  | .stale now [], db => (db, .stale now [])
  | .stale now (lock :: todo), db =>
      (db.markSystemTaskLeaseExpired lock.taskID clock, .deleteStale now lock todo)
  | .deleteStale now lock todo, db => (db.deleteStaleLock lock now, .stale now todo)
  | .find c, db =>
      match db.findPending c.id c.type with
      | none => (db, .idle)
      | some _ => (db, .insertLock c)
  | .insertLock c, db =>
      match db.locks.create (c.lock runner) with
      | some locks => ({ db with locks := locks }, .start c)
      | none => (db, .readLock c)
  | .readLock c, db =>
      match db.lock? c.type with
      | none => (db, .idle)
      | some existing =>
          if c.now ≤ existing.lockedUntil then (db, .idle)
          else (db, .takeLock c existing.taskID)
  | .takeLock c expiredTaskID, db =>
      match db.takeLock c.type c.id runner c.now c.lockUntil with
      | none => (db, .idle)
      | some db' =>
          (db', if expiredTaskID = c.id then .start c else .markExpired c expiredTaskID)
  | .markExpired c expiredTaskID, db =>
      (db.markSystemTaskLeaseExpired expiredTaskID clock, .start c)
  | .start c, db =>
      match db.startTask c.id c.type runner c.now with
      | none => (db, .release c)
      | some db' => (db', .reread c)
  | .release c, db => (db.releaseSystemTaskLock c.id runner, .idle)
  | .reread _, db => (db, .idle)

/-- The next statement returns an error.  An insert that fails is taken for a lock that exists. -/
def fail : PassAt → PassAt
  | .insertLock c => .readLock c
  | .markExpired c _ | .start c => .release c
  | _ => .idle

end PassAt

/-! ## The system -/

/-- The tables, the clock, what every runner is about to do, and the releases that calls of
`FinishSystemTask` have still to make. -/
structure SystemTasks where
  db : SystemTaskDB := {}
  clock : Nat
  pass : String → PassAt := fun _ => .idle
  releases : List (Nat × String) := []

/-- What may happen.  `UpdateSystemTaskState`, `RenewSystemTaskLock` and `FinishSystemTask` read the
time before their statement runs; `now` is the time they read. -/
inductive LeaseEvent where
  | tick (seconds : Nat)
  | creates (id : Nat) (type payload state : String)
  | beginsExpire (runner : String)
  | beginsClaim (runner : String) (id : Nat) (type : String) (lockUntil : Nat)
  /-- The next statement of the runner's pass runs. -/
  | runs (runner : String)
  /-- It returns an error. -/
  | fails (runner : String)
  /-- `ExpireStaleSystemTaskLocks` returns after its loop. -/
  | returns (runner : String)
  | updates (id : Nat) (runner : String) (now : Nat) (state : String)
  | renews (id : Nat) (runner : String) (now lockUntil : Nat)
  | finishes (id : Nat) (runner : String) (now : Nat) (status : SystemTaskStatus)
      (result error : String)
  /-- The release of a call of `FinishSystemTask`. -/
  | releases (id : Nat) (runner : String)
deriving DecidableEq, Repr

namespace SystemTasks

/-- No tasks, no locks, no calls. -/
def initial (clock : Nat) : SystemTasks := { clock := clock }

/-- The runner's pass goes on at `at'`. -/
def goTo (runner : String) (at' : PassAt) (s : SystemTasks) : SystemTasks :=
  { s with pass := Function.update s.pass runner at' }

/-- The runner's next statement runs. -/
def run (runner : String) (s : SystemTasks) : SystemTasks :=
  let next := (s.pass runner).exec s.clock runner s.db
  { s with db := next.1 }.goTo runner next.2

end SystemTasks

namespace LeaseEvent
open SystemTasks

/-- When an event is possible. -/
def Enabled : LeaseEvent → SystemTasks → Prop
  | .tick _, _ => True
  | .creates id type payload state, s =>
      (s.db.createSystemTask id type payload state s.clock).isSome = true
  | .beginsExpire runner, s | .beginsClaim runner _ _ _, s => s.pass runner = .idle
  | .runs runner, s | .fails runner, s => (s.pass runner).busy = true
  | .returns runner, s => (s.pass runner).busy = false ∧ s.pass runner ≠ .idle
  | .updates _ _ now _, s | .renews _ _ now _, s => now ≤ s.clock
  | .finishes _ _ now status _ _, s => now ≤ s.clock ∧ status.terminal = true
  | .releases id runner, s => (id, runner) ∈ s.releases

instance (e : LeaseEvent) (s : SystemTasks) : Decidable (e.Enabled s) := by
  cases e <;> dsimp only [Enabled] <;> infer_instance

/-- What an event does. -/
def effect : LeaseEvent → SystemTasks → SystemTasks
  | .tick seconds, s => { s with clock := s.clock + seconds }
  | .creates id type payload state, s =>
      { s with db := (s.db.createSystemTask id type payload state s.clock).getD s.db }
  | .beginsExpire runner, s => s.goTo runner (.readStale s.clock)
  | .beginsClaim runner id type lockUntil, s =>
      s.goTo runner (.find { id := id, type := type, now := s.clock, lockUntil := lockUntil })
  | .runs runner, s => s.run runner
  | .fails runner, s => s.goTo runner (s.pass runner).fail
  | .returns runner, s => s.goTo runner .idle
  | .updates id runner now state, s =>
      { s with db := (s.db.updateSystemTaskState id runner now state).getD s.db }
  | .renews id runner now lockUntil, s =>
      { s with db := (s.db.renewSystemTaskLock id runner now lockUntil).getD s.db }
  | .finishes id runner now status result error, s =>
      match s.db.finishSystemTask id runner now status result error with
      | none => s
      | some db => { s with db := db, releases := (id, runner) :: s.releases }
  | .releases id runner, s =>
      { s with
        db := s.db.releaseSystemTaskLock id runner, releases := s.releases.erase (id, runner) }

end LeaseEvent

namespace SystemTasks

/-- One event, if it is possible. -/
def apply (s : SystemTasks) (e : LeaseEvent) : Option SystemTasks :=
  if e.Enabled s then some (e.effect s) else none

/-- The steps of the system. -/
def Step (s : SystemTasks) (e : LeaseEvent) (s' : SystemTasks) : Prop :=
  e.Enabled s ∧ s' = e.effect s

theorem step_of_apply {s s' : SystemTasks} {e : LeaseEvent} (h : s.apply e = some s') :
    Step s e s' := by
  unfold apply at h
  split at h
  · rename_i hen
    exact ⟨hen, (Option.some.inj h).symm⟩
  · cases h

/-- Runs of the system, under any interleaving. -/
abbrev Runs := Steps.Run Step

/-- The runner holds the lock of the type, and it has not expired. -/
def Holds (s : SystemTasks) (type runner : String) : Prop :=
  ∃ l, s.db.lock? type = some l ∧ l.lockedBy = runner ∧ s.clock ≤ l.lockedUntil

end SystemTasks

end NewApi
