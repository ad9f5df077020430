import NewApi.SystemTasks

/-! # What an event does to system tasks

What one event can do is said once for each part of the state: `TaskMoves` for a row of
`system_tasks`, `LockMoves` for the lock of a type, and `PassMoves` for what a runner is about to
do.  The invariants follow from these, without the statements. -/
namespace NewApi

open LeaseEvent Option PassAt SystemTaskDB
namespace SystemTasks
variable {s s' : SystemTasks} {e : LeaseEvent} {id : Nat} {type runner : String}

/-! ## What a step does to a task -/

/-- What an event does to the row of one task. -/
inductive TaskMoves (s : SystemTasks) (e : LeaseEvent) (id : Nat) :
    Option SystemTask → Option SystemTask → Prop
  | keeps (o : Option SystemTask) : TaskMoves s e id o o
  | creates {type payload state : String} (he : e = .creates id type payload state)
      (hactive : ∀ id t, s.db.task? id = some t → t.activeKey ≠ some type) :
      TaskMoves s e id none (some (newTask id type payload state s.clock))
  | writes {t : SystemTask} {runner : String} {now : Nat} {state : String}
      (he : e = .updates id runner now state)
      (hheld : s.db.writable id runner now t = true) :
      TaskMoves s e id (some t) (some { t with state := state, updatedAt := now })
  | starts {t : SystemTask} {runner : String} {c : SystemTaskClaim} (he : e = .runs runner)
      (hat : s.pass runner = .start c) (hid : c.id = id) (htype : c.type = t.type)
      (hpending : t.status = .pending) :
      TaskMoves s e id (some t)
        (some { t with status := .running, lockedBy := runner, updatedAt := c.now })
  | expires {t : SystemTask} {runner : String} (he : e = .runs runner)
      (hat : (∃ now lock todo, s.pass runner = .stale now (lock :: todo) ∧ lock.taskID = id) ∨
        ∃ c, s.pass runner = .markExpired c id)
      (hrunning : t.status = .running) :
      TaskMoves s e id (some t)
        (some { t with
          status := .failed, activeKey := none, error := "task lease expired",
          updatedAt := s.clock })
  | finishes {t : SystemTask} {runner : String} {now : Nat} {status : SystemTaskStatus}
      {result error : String} (he : e = .finishes id runner now status result error)
      (hstatus : status.terminal = true) (hheld : s.db.writable id runner now t = true) :
      TaskMoves s e id (some t)
        (some { t with
          status := status, activeKey := none, result := result, error := error,
          updatedAt := now })

end SystemTasks

namespace SystemTaskDB
variable {db db' : SystemTaskDB} {id k now : Nat} {type runner : String}

theorem id_of_task? {t : SystemTask} (h : db.task? k = some t) : t.id = k :=
  (db.tasks.find?_eq_some_iff.mp h).2

theorem type_of_lock? {l : SystemTaskLock} (h : db.lock? type = some l) : l.type = type :=
  (db.locks.find?_eq_some_iff.mp h).2

theorem lock?_of_mem {l : SystemTaskLock} (h : l ∈ db.locks.rows) : db.lock? l.type = some l :=
  db.locks.find?_eq_some_iff.mpr ⟨h, rfl⟩

theorem lockHeld_iff : db.lockHeld id runner now = true ↔
    ∃ type l, db.lock? type = some l ∧ l.taskID = id ∧ l.lockedBy = runner ∧
      now ≤ l.lockedUntil := by
  rw [lockHeld, List.any_eq_true]
  constructor
  · rintro ⟨l, hl, hp⟩
    simp only [Bool.and_eq_true, decide_eq_true_eq] at hp
    exact ⟨l.type, l, lock?_of_mem hl, hp.1.1, hp.1.2, hp.2⟩
  · rintro ⟨type, l, hl, hid, hby, hunt⟩
    refine ⟨l, (db.locks.find?_eq_some_iff.mp hl).1, ?_⟩
    simp [hid, hby, hunt]

theorem writable_iff {t : SystemTask} : db.writable id runner now t = true ↔
    t.id = id ∧ t.status = .running ∧ t.lockedBy = runner ∧ db.lockHeld id runner now = true := by
  simp [writable, and_assoc]

variable {f : SystemTask → SystemTask} {hf : ∀ t, (f t).id = t.id} {p : SystemTask → Bool}

theorem task?_of_update
    (h : (db.tasks.update? p f hf).map (fun tasks => { db with tasks := tasks }) = some db')
    (k : Nat) : db'.task? k = (db.task? k).map fun t => if p t then f t else t := by
  obtain ⟨tasks, htas, rfl⟩ := map_eq_some_iff.mp h
  obtain ⟨rfl, -⟩ := db.tasks.update?_eq_some htas
  exact db.tasks.find?_updateWhere p f hf k

theorem lock?_of_tasks
    (h : (db.tasks.update? p f hf).map (fun tasks => { db with tasks := tasks }) = some db') :
    db'.lock? type = db.lock? type := by
  obtain ⟨tasks, -, rfl⟩ := map_eq_some_iff.mp h
  rfl

variable {f : SystemTaskLock → SystemTaskLock} {hf : ∀ l, (f l).type = l.type}

variable {p : SystemTaskLock → Bool}

theorem lock?_of_update
    (h : (db.locks.update? p f hf).map (fun locks => { db with locks := locks }) = some db')
    (type : String) : db'.lock? type = (db.lock? type).map fun l => if p l then f l else l := by
  obtain ⟨locks, hloc, rfl⟩ := map_eq_some_iff.mp h
  obtain ⟨rfl, -⟩ := db.locks.update?_eq_some hloc
  exact db.locks.find?_updateWhere p f hf type

theorem task?_of_locks
    (h : (db.locks.update? p f hf).map (fun locks => { db with locks := locks }) = some db') :
    db'.task? id = db.task? id := by
  obtain ⟨locks, -, rfl⟩ := map_eq_some_iff.mp h
  rfl

variable {payload state : String}

theorem createSystemTask_isSome : (db.createSystemTask id type payload state now).isSome = true ↔
      (∀ k t, db.task? k = some t → t.activeKey ≠ some type) ∧ db.task? id = none := by
  have hany : (db.tasks.rows.any fun t => t.activeKey = some type) = false ↔
      ∀ k t, db.task? k = some t → t.activeKey ≠ some type := by
    rw [List.any_eq_false]
    constructor
    · intro h k t ht
      simpa using h t (db.tasks.find?_eq_some_iff.mp ht).1
    · intro h t ht
      simpa using h t.id t (db.tasks.find?_eq_some_iff.mpr ⟨ht, rfl⟩)
  rw [← hany]
  unfold createSystemTask
  cases db.tasks.rows.any fun t => t.activeKey = some type with
  | true => simp
  | false =>
    simp only [Bool.false_eq_true, if_false, true_and, isSome_map]
    constructor
    · intro h
      obtain ⟨tasks, htas⟩ := isSome_iff_exists.mp h
      exact (db.tasks.rows_create htas).2
    · intro h
      obtain ⟨tasks, htas⟩ := db.tasks.create_of_find?_eq_none
        (a := newTask id type payload state now) h
      rw [htas]
      rfl

section
variable (h : db.createSystemTask id type payload state now = some db')
include h

theorem task?_createSystemTask (k : Nat) :
    db'.task? k = if k = id then some (newTask id type payload state now) else db.task? k := by
  unfold createSystemTask at h
  split at h
  · cases h
  obtain ⟨tasks, htas, rfl⟩ := map_eq_some_iff.mp h
  exact db.tasks.find?_create htas k

theorem lock?_createSystemTask (type : String) : db'.lock? type = db.lock? type := by
  unfold createSystemTask at h
  split at h
  · cases h
  obtain ⟨tasks, -, rfl⟩ := map_eq_some_iff.mp h
  rfl

end

theorem task?_markSystemTaskLeaseExpired (id now k : Nat) :
    (db.markSystemTaskLeaseExpired id now).task? k = (db.task? k).map fun t =>
      if t.id = id && t.status = .running then { t with
          status := .failed, activeKey := none, error := "task lease expired", updatedAt := now }
      else t := by
  unfold markSystemTaskLeaseExpired task?
  rw [Db.Table.find?_updateWhere]

end SystemTaskDB

namespace SystemTasks
variable {s s' : SystemTasks} {e : LeaseEvent} {id : Nat} {type runner : String}

/-- What an update does to a row, when a row may also be kept. -/
theorem moves_map {α : Type} {moves : Option α → Option α → Prop} (hkeeps : ∀ o, moves o o)
    {o : Option α} {p : α → Bool} {f : α → α}
    (h : ∀ a, o = some a → p a = true → moves (some a) (some (f a))) :
    moves o (o.map fun a => if p a then f a else a) := by
  cases o with
  | none => exact hkeeps none
  | some a =>
    rw [map_some]
    by_cases hp : p a = true
    · rw [if_pos hp]
      exact h a rfl hp
    · rw [if_neg hp]
      exact hkeeps _

theorem task_mark {marked : Nat}
    (hat : (∃ now lock todo, s.pass runner = .stale now (lock :: todo) ∧ lock.taskID = marked) ∨
      ∃ c, s.pass runner = .markExpired c marked) (id : Nat) :
    TaskMoves s (.runs runner) id (s.db.task? id)
      ((s.db.markSystemTaskLeaseExpired marked s.clock).task? id) := by
  rw [task?_markSystemTaskLeaseExpired]
  refine moves_map .keeps fun t ht hp => ?_
  simp only [Bool.and_eq_true, decide_eq_true_eq] at hp
  obtain rfl : marked = id := hp.1.symm.trans (id_of_task? ht)
  exact .expires rfl hat hp.2

theorem task_run (runner : String) (id : Nat) :
    TaskMoves s (.runs runner) id (s.db.task? id) ((s.run runner).db.task? id) := by
  dsimp only [run, goTo]
  cases hat : s.pass runner with
  | idle | readStale | deleteStale | release | reread => exact .keeps _
  | stale now todo =>
    cases todo with
    | nil => exact .keeps _
    | cons lock todo => exact task_mark (.inl ⟨now, lock, todo, hat, rfl⟩) id
  | find c | insertLock c =>
    dsimp only [exec]
    split <;> exact .keeps _
  | readLock c =>
    dsimp only [exec]
    split
    · exact .keeps _
    · split <;> exact .keeps _
  | takeLock c expired =>
    dsimp only [exec]
    cases hta : s.db.takeLock c.type c.id runner c.now c.lockUntil with
    | none => exact .keeps _
    | some db' =>
      rw [task?_of_locks hta]
      exact .keeps _
  | markExpired c expired => exact task_mark (.inr ⟨c, hat⟩) id
  | start c =>
    dsimp only [exec]
    cases hstr : s.db.startTask c.id c.type runner c.now with
    | none => exact .keeps _
    | some db' =>
      rw [task?_of_update hstr]
      refine moves_map .keeps fun t ht hp => ?_
      simp only [Bool.and_eq_true, decide_eq_true_eq] at hp
      obtain ⟨⟨hid, htype⟩, hpen⟩ := hp
      exact .starts rfl hat (hid.symm.trans (id_of_task? ht)) htype.symm hpen

/-- **What an event does to the row of a task.** -/
theorem task_step (h : Step s e s') (id : Nat) :
    TaskMoves s e id (s.db.task? id) (s'.db.task? id) := by
  obtain ⟨he, rfl⟩ := h
  cases e with
  | runs runner => exact task_run runner id
  | creates k type payload state =>
    obtain ⟨db, hdb⟩ := isSome_iff_exists.mp he
    have hfr := createSystemTask_isSome.mp he
    dsimp only [effect]
    rw [hdb, getD_some, task?_createSystemTask hdb]
    by_cases hid : id = k
    · subst hid
      rw [if_pos rfl, hfr.2]
      exact .creates rfl hfr.1
    · rw [if_neg hid]
      exact .keeps _
  | updates k runner now state =>
    dsimp only [effect]
    cases hdb : s.db.updateSystemTaskState k runner now state with
    | none => exact .keeps _
    | some db =>
      rw [getD_some, task?_of_update hdb]
      refine moves_map .keeps fun t ht hp => ?_
      obtain rfl : k = id :=
        (writable_iff.mp hp).1.symm.trans (id_of_task? ht)
      exact .writes rfl hp
  | renews k runner now lockUntil =>
    dsimp only [effect]
    cases hdb : s.db.renewSystemTaskLock k runner now lockUntil with
    | none => exact .keeps _
    | some db =>
      rw [getD_some, task?_of_locks hdb]
      exact .keeps _
  | finishes k runner now status result error =>
    dsimp only [effect]
    cases hdb : s.db.finishSystemTask k runner now status result error with
    | none => exact .keeps _
    | some db =>
      rw [task?_of_update hdb]
      refine moves_map .keeps fun t ht hp => ?_
      obtain rfl : k = id :=
        (writable_iff.mp hp).1.symm.trans (id_of_task? ht)
      exact .finishes rfl he.2 hp
  | tick | beginsExpire | beginsClaim | fails | returns | releases => exact .keeps _

/-! ## What a step does to a lock -/

/-- What an event does to the lock of one type. -/
inductive LockMoves (s : SystemTasks) (e : LeaseEvent) (type : String) :
    Option SystemTaskLock → Option SystemTaskLock → Prop
  | keeps (o : Option SystemTaskLock) : LockMoves s e type o o
  | inserts {runner : String} {c : SystemTaskClaim} (he : e = .runs runner)
      (hat : s.pass runner = .insertLock c) (htype : c.type = type) :
      LockMoves s e type none (some (c.lock runner))
  | takes {l : SystemTaskLock} {runner : String} {c : SystemTaskClaim} {expired : Nat}
      (he : e = .runs runner) (hat : s.pass runner = .takeLock c expired) (htype : c.type = type)
      (hstale : l.lockedUntil < c.now) :
      LockMoves s e type (some l) (some { c.lock runner with type := l.type })
  | renews {l : SystemTaskLock} {now lockUntil : Nat}
      (he : e = .renews l.taskID l.lockedBy now lockUntil) (hcounts : now ≤ l.lockedUntil) :
      LockMoves s e type (some l) (some { l with lockedUntil := lockUntil, updatedAt := now })
  | releases {l : SystemTaskLock} {c : SystemTaskClaim} (he : e = .runs l.lockedBy)
      (hat : s.pass l.lockedBy = .release c) (hid : c.id = l.taskID) :
      LockMoves s e type (some l) none
  | releasesFinished {l : SystemTaskLock} (he : e = .releases l.taskID l.lockedBy) :
      LockMoves s e type (some l) none
  | expires {l lock : SystemTaskLock} {runner : String} {now : Nat} {todo : List SystemTaskLock}
      (he : e = .runs runner) (hat : s.pass runner = .deleteStale now lock todo)
      (hid : lock.taskID = l.taskID) (hstale : l.lockedUntil < now) :
      LockMoves s e type (some l) none

variable {p : SystemTaskLock → Bool}

theorem LockMoves.of_delete
    (h : ∀ l, s.db.lock? type = some l → p l = true → LockMoves s e type (some l) none) :
    LockMoves s e type (s.db.lock? type) ((s.db.locks.deleteWhere p).find? type) := by
  rw [Db.Table.find?_deleteWhere]
  change LockMoves s e type (s.db.lock? type) ((s.db.lock? type).filter _)
  cases hlock : s.db.lock? type with
  | none => exact .keeps none
  | some l =>
    cases hp : p l with
    | true =>
      rw [filter_some, hp]
      exact h l hlock hp
    | false =>
      rw [filter_some, hp]
      exact .keeps _

theorem lock_run (runner type : String) :
    LockMoves s (.runs runner) type (s.db.lock? type) ((s.run runner).db.lock? type) := by
  dsimp only [run, goTo]
  cases hat : s.pass runner with
  | idle | readStale | markExpired | reread => exact .keeps _
  | stale now todo => cases todo <;> exact .keeps _
  | deleteStale now lock todo =>
    refine LockMoves.of_delete fun l hl hp => ?_
    simp only [Bool.and_eq_true, decide_eq_true_eq] at hp
    obtain ⟨⟨⟨-, hid⟩, -⟩, hsta⟩ := hp
    exact .expires rfl hat hid.symm hsta
  | find c =>
    dsimp only [exec]
    split <;> exact .keeps _
  | insertLock c =>
    dsimp only [exec]
    cases hcreate : s.db.locks.create (c.lock runner) with
    | none => exact .keeps _
    | some locks =>
      have hfr : s.db.lock? c.type = none := (s.db.locks.rows_create hcreate).2
      have hfd : locks.find? type =
          if type = c.type then some (c.lock runner) else s.db.lock? type :=
        s.db.locks.find?_create hcreate type
      show LockMoves s _ type (s.db.lock? type) (locks.find? type)
      rw [hfd]
      by_cases htype : type = c.type
      · rw [if_pos htype, htype, hfr]
        exact .inserts rfl hat rfl
      · rw [if_neg htype]
        exact .keeps _
  | readLock c =>
    dsimp only [exec]
    split
    · exact .keeps _
    · split <;> exact .keeps _
  | takeLock c expired =>
    dsimp only [exec]
    cases hta : s.db.takeLock c.type c.id runner c.now c.lockUntil with
    | none => exact .keeps _
    | some db' =>
      rw [lock?_of_update hta]
      refine moves_map .keeps fun l hl hp => ?_
      simp only [Bool.and_eq_true, decide_eq_true_eq] at hp
      have htype : c.type = type := hp.1.symm.trans (type_of_lock? hl)
      exact .takes rfl hat htype hp.2
  | start c =>
    dsimp only [exec]
    cases hstr : s.db.startTask c.id c.type runner c.now with
    | none => exact .keeps _
    | some db' =>
      rw [lock?_of_tasks hstr]
      exact .keeps _
  | release c =>
    refine LockMoves.of_delete fun l hl hp => ?_
    simp only [Bool.and_eq_true, decide_eq_true_eq] at hp
    obtain ⟨hid, rfl⟩ := hp
    exact .releases rfl hat hid.symm

/-- **What an event does to the lock of a type.** -/
theorem lock_step (h : Step s e s') (type : String) :
    LockMoves s e type (s.db.lock? type) (s'.db.lock? type) := by
  obtain ⟨he, rfl⟩ := h
  cases e with
  | runs runner => exact lock_run runner type
  | creates k ty payload state =>
    obtain ⟨db, hdb⟩ := isSome_iff_exists.mp he
    dsimp only [effect]
    rw [hdb, getD_some, lock?_createSystemTask hdb]
    exact .keeps _
  | updates k runner now state =>
    dsimp only [effect]
    cases hdb : s.db.updateSystemTaskState k runner now state with
    | none => exact .keeps _
    | some db =>
      rw [getD_some, lock?_of_tasks hdb]
      exact .keeps _
  | renews k runner now lockUntil =>
    dsimp only [effect]
    cases hdb : s.db.renewSystemTaskLock k runner now lockUntil with
    | none => exact .keeps _
    | some db =>
      rw [getD_some, lock?_of_update hdb]
      refine moves_map .keeps fun l hl hp => ?_
      simp only [Bool.and_eq_true, decide_eq_true_eq] at hp
      obtain ⟨⟨rfl, rfl⟩, hcnt⟩ := hp
      exact .renews rfl hcnt
  | finishes k runner now status result error =>
    dsimp only [effect]
    cases hdb : s.db.finishSystemTask k runner now status result error with
    | none => exact .keeps _
    | some db =>
      rw [lock?_of_tasks hdb]
      exact .keeps _
  | releases k runner =>
    refine LockMoves.of_delete fun l hl hp => ?_
    simp only [Bool.and_eq_true, decide_eq_true_eq] at hp
    obtain ⟨rfl, rfl⟩ := hp
    exact .releasesFinished rfl
  | tick | beginsExpire | beginsClaim | fails | returns => exact .keeps _

end SystemTasks

/-! ## What a pass is about to do -/

namespace PassAt
/-- The claim that a pass makes, once it has found its task. -/
def claim? : PassAt → Option SystemTaskClaim
  | .insertLock c | .readLock c | .takeLock c _ | .markExpired c _ | .start c | .release c => some c
  | _ => none

/-- The lock that a pass deletes next, with its time. -/
def deleting? : PassAt → Option (Nat × SystemTaskLock)
  | .deleteStale now lock _ => some (now, lock)
  | _ => none

/-- The time that a pass has read. -/
def now? : PassAt → Option Nat
  | .readStale now | .stale now _ | .deleteStale now _ _ => some now
  | .find c | .insertLock c | .readLock c | .takeLock c _ | .markExpired c _ | .start c
  | .release c => some c.now
  | .idle | .reread _ => none

/-- A pass that expires locks has the task's lock, which counts until `lockedUntil`, still to
come. -/
def Sees (id lockedUntil : Nat) : PassAt → Prop
  | .readStale now => lockedUntil < now
  | .stale _ todo | .deleteStale _ _ todo => ∃ l ∈ todo, l.taskID = id
  | _ => True

/-- The pass is about to fail this task if it is running. -/
def Marks (id : Nat) : PassAt → Prop
  | .stale _ todo | .deleteStale _ _ todo => ∃ l ∈ todo, l.taskID = id
  | .takeLock _ expired | .markExpired _ expired => expired = id
  | _ => False

theorem now?_of_claim? {p : PassAt} {c : SystemTaskClaim} (h : p.claim? = some c) :
    p.now? = some c.now := by
  cases p <;> first | (cases h; rfl) | cases h

theorem now?_of_deleting? {p : PassAt} {now : Nat} {lock : SystemTaskLock}
    (h : p.deleting? = some (now, lock)) : p.now? = some now := by
  cases p <;> first | (cases h; rfl) | cases h

/-- Where a pass goes from a statement, whether it runs or returns an error. -/
inductive Next (db : SystemTaskDB) : PassAt → PassAt → Prop
  | stops (p : PassAt) : Next db p .idle
  | waits (now : Nat) : Next db (.stale now []) (.stale now [])
  | reads (now : Nat) :
      Next db (.readStale now) (.stale now (db.locks.rows.filter fun l => l.lockedUntil < now))
  | marks (now : Nat) (lock : SystemTaskLock) (todo : List SystemTaskLock) :
      Next db (.stale now (lock :: todo)) (.deleteStale now lock todo)
  | deletes (now : Nat) (lock : SystemTaskLock) (todo : List SystemTaskLock) :
      Next db (.deleteStale now lock todo) (.stale now todo)
  | finds (c : SystemTaskClaim) {t : SystemTask} (ht : db.task? c.id = some t)
      (htype : t.type = c.type) (hpending : t.status = .pending) :
      Next db (.find c) (.insertLock c)
  | inserts (c : SystemTaskClaim) : Next db (.insertLock c) (.start c)
  | meets (c : SystemTaskClaim) : Next db (.insertLock c) (.readLock c)
  | readsLock (c : SystemTaskClaim) {l : SystemTaskLock} (hl : db.lock? c.type = some l) :
      Next db (.readLock c) (.takeLock c l.taskID)
  | takesOwn (c : SystemTaskClaim) (expired : Nat) : Next db (.takeLock c expired) (.start c)
  | takes (c : SystemTaskClaim) (expired : Nat) :
      Next db (.takeLock c expired) (.markExpired c expired)
  | marksExpired (c : SystemTaskClaim) (expired : Nat) :
      Next db (.markExpired c expired) (.start c)
  | gaveUp (c : SystemTaskClaim) (expired : Nat) : Next db (.markExpired c expired) (.release c)
  | starts (c : SystemTaskClaim) : Next db (.start c) (.reread c)
  | misses (c : SystemTaskClaim) : Next db (.start c) (.release c)

theorem next_exec (clock : Nat) (runner : String) (p : PassAt) (db : SystemTaskDB) :
    Next db p (p.exec clock runner db).2 := by
  cases p with
  | idle | release | reread => exact .stops _
  | readStale now => exact .reads now
  | deleteStale now lock todo => exact .deletes now lock todo
  | markExpired c expired => exact .marksExpired c expired
  | stale now todo =>
    cases todo with
    | nil => exact .waits now
    | cons lock todo => exact .marks now lock todo
  | find c =>
    dsimp only [exec]
    cases hfd : db.findPending c.id c.type with
    | none => exact .stops _
    | some t =>
      obtain ⟨ht, hp⟩ := filter_eq_some_iff.mp hfd
      simp only [Bool.and_eq_true, decide_eq_true_eq] at hp
      exact .finds c ht hp.1 hp.2
  | insertLock c =>
    dsimp only [exec]
    cases db.locks.create (c.lock runner) with
    | none => exact .meets c
    | some locks => exact .inserts c
  | readLock c =>
    dsimp only [exec]
    cases hlock : db.lock? c.type with
    | none => exact .stops _
    | some l =>
      dsimp only
      split
      · exact .stops _
      · exact .readsLock c hlock
  | takeLock c expired =>
    dsimp only [exec]
    cases db.takeLock c.type c.id runner c.now c.lockUntil with
    | none => exact .stops _
    | some db' =>
      dsimp only
      split
      · exact .takesOwn c expired
      · exact .takes c expired
  | start c =>
    dsimp only [exec]
    cases db.startTask c.id c.type runner c.now with
    | none => exact .misses c
    | some db' => exact .starts c

theorem next_fail (db : SystemTaskDB) (p : PassAt) : Next db p p.fail := by
  cases p with
  | insertLock c => exact .meets c
  | markExpired c expired => exact .gaveUp c expired
  | start c => exact .misses c
  | _ => exact .stops _

end PassAt

namespace SystemTasks
variable {s s' : SystemTasks} {e : LeaseEvent} {id : Nat} {type runner : String}

/-- The runner whose pass an event moves. -/
def passOf : LeaseEvent → Option String
  | .beginsExpire runner | .beginsClaim runner _ _ _ | .runs runner | .fails runner
  | .returns runner => some runner
  | _ => none

theorem pass_of_ne (h : Step s e s') (hne : passOf e ≠ some runner) :
    s'.pass runner = s.pass runner := by
  obtain ⟨-, rfl⟩ := h
  cases e with
  | beginsExpire other | beginsClaim other | runs other | fails other | returns other =>
    refine Function.update_of_ne ?_ _ _
    rintro rfl
    exact hne rfl
  | finishes k other now status result error =>
    dsimp only [effect]
    split <;> rfl
  | tick | creates | updates | renews | releases => rfl

/-- What an event does to the pass of one runner. -/
inductive PassMoves (s : SystemTasks) (e : LeaseEvent) (runner : String) : PassAt → Prop
  | keeps : PassMoves s e runner (s.pass runner)
  | beginsExpire (he : e = .beginsExpire runner) : PassMoves s e runner (.readStale s.clock)
  | beginsClaim {id : Nat} {type : String} {lockUntil : Nat}
      (he : e = .beginsClaim runner id type lockUntil) :
      PassMoves s e runner
        (.find { id := id, type := type, now := s.clock, lockUntil := lockUntil })
  | goes {at' : PassAt} (hnext : PassAt.Next s.db (s.pass runner) at')
      (he : e = .runs runner ∨ at' = (s.pass runner).fail) : PassMoves s e runner at'
  | returns (he : e = .returns runner) : PassMoves s e runner .idle

theorem PassMoves.goTo {other : String} {at' : PassAt} (h : PassMoves s e other at') :
    PassMoves s e runner (Function.update s.pass other at' runner) := by
  by_cases hr : runner = other
  · rw [hr, Function.update_self]
    exact h
  · rw [Function.update_of_ne hr]
    exact .keeps

section
variable (h : Step s e s')
include h

/-- **What an event does to the pass of a runner.** -/
theorem pass_step (runner : String) : PassMoves s e runner (s'.pass runner) := by
  obtain ⟨-, rfl⟩ := h
  cases e with
  | beginsExpire other => exact PassMoves.goTo (.beginsExpire rfl)
  | beginsClaim other id type lockUntil => exact PassMoves.goTo (.beginsClaim rfl)
  | runs other => exact PassMoves.goTo (.goes (next_exec s.clock other _ s.db) (.inl rfl))
  | fails other => exact PassMoves.goTo (.goes (next_fail s.db _) (.inr rfl))
  | returns other => exact PassMoves.goTo (.returns rfl)
  | finishes k other now status result error =>
    dsimp only [effect]
    split <;> exact .keeps
  | tick | creates | updates | renews | releases => exact .keeps

/-- A claim under way was so before, or has just found its task pending. -/
theorem claim_step {c : SystemTaskClaim} (hclaim : (s'.pass runner).claim? = some c) :
    (s.pass runner).claim? = some c ∨
      ∃ t, s.db.task? c.id = some t ∧ t.type = c.type ∧ t.status = .pending := by
  have hmov := pass_step h runner
  generalize s'.pass runner = at' at hmov hclaim
  cases hmov with
  | keeps => exact .inl hclaim
  | goes hnext he =>
    clear he
    generalize s.pass runner = p at hnext
    cases hnext with
    | finds c' ht htype hpen =>
      cases hclaim
      exact .inr ⟨_, ht, htype, hpen⟩
    | _ => first | exact .inl hclaim | cases hclaim
  | beginsExpire | beginsClaim | returns => cases hclaim

theorem now_step {now : Nat} (hnow : (s'.pass runner).now? = some now) :
    (s.pass runner).now? = some now ∨ now = s.clock := by
  have hmov := pass_step h runner
  generalize s'.pass runner = at' at hmov hnow
  cases hmov with
  | keeps => exact .inl hnow
  | beginsExpire | beginsClaim => exact .inr (Option.some.inj hnow).symm
  | goes hnext he =>
    clear he
    generalize s.pass runner = p at hnext
    cases hnext <;> first | exact .inl hnow | cases hnow
  | returns => cases hnow

/-- A delete that is next was so before, or its task has just been marked. -/
theorem deleting_step {now : Nat} {lock : SystemTaskLock}
    (hdel : (s'.pass runner).deleting? = some (now, lock)) :
    (s.pass runner).deleting? = some (now, lock) ∨
      e = .runs runner ∧ ∃ todo, s.pass runner = .stale now (lock :: todo) := by
  have hmov := pass_step h runner
  generalize s'.pass runner = at' at hmov hdel
  cases hmov with
  | keeps => exact .inl hdel
  | goes hnext he =>
    generalize s.pass runner = p at hnext he
    cases hnext with
    | marks now' lock' todo =>
      cases hdel
      rcases he with he | hfa
      · exact .inr ⟨he, todo, rfl⟩
      · cases hfa
    | _ => cases hdel
  | beginsExpire | beginsClaim | returns => cases hdel

theorem clock_step : s.clock ≤ s'.clock := by
  obtain ⟨-, rfl⟩ := h
  cases e with
  | tick seconds => exact Nat.le_add_right _ _
  | finishes k other now status result error =>
    dsimp only [effect]
    split <;> exact Nat.le_refl _
  | _ => exact Nat.le_refl _

theorem releases_step {id : Nat} (hmem : (id, runner) ∈ s'.releases) :
    (id, runner) ∈ s.releases ∨ ∃ t, s'.db.task? id = some t ∧ t.status.terminal = true := by
  obtain ⟨he, rfl⟩ := h
  cases e with
  | finishes k other now status result error =>
    dsimp only [effect] at hmem ⊢
    cases hdb : s.db.finishSystemTask k other now status result error with
    | none =>
      rw [hdb] at hmem
      exact .inl hmem
    | some db =>
      rw [hdb] at hmem
      rcases List.mem_cons.mp hmem with heq | hold
      · -- the row that was finished
        cases heq
        obtain ⟨tasks, htas, rfl⟩ := map_eq_some_iff.mp hdb
        obtain ⟨-, t, ht, hp⟩ := s.db.tasks.update?_eq_some htas
        have hid := (writable_iff.mp hp).1
        have hta : s.db.task? id = some t := s.db.tasks.find?_eq_some_iff.mpr ⟨ht, hid⟩
        have hfin := task?_of_update hdb id
        rw [hta, map_some, if_pos hp] at hfin
        exact .inr ⟨_, hfin, he.2⟩
      · exact .inl hold
  | releases k other => exact .inl (List.mem_of_mem_erase hmem)
  | tick | creates | beginsExpire | beginsClaim | runs | fails | returns | updates | renews =>
    exact .inl hmem

end

end SystemTasks

end NewApi
