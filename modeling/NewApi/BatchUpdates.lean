import NewApi.Steps
import NewApi.Table
import NewApi.Accounts
import Mathlib.Algebra.BigOperators.Group.List.Basic
import Mathlib.Logic.Function.Basic

/-! # The batch updater

With batch updates on, a change of a counter is first added to a map in memory, one
map for each kind of counter, and `batchUpdate` writes the maps to the database from
time to time.  A flush looks for data, takes the maps one by one, each under its own
lock, applies all of them in one transaction, and adds everything back when the
transaction fails.  New deltas may come in at every point in between, and nothing
here relies on there being one flush at a time.

The maps are walked in no particular order; a flush therefore gets the orders from
outside (`Walk`).  What is conserved is the value of a counter in the database
together with what waits in memory and what flushes hold (`conserved`). -/
namespace NewApi
open Db Function List Steps

/-! ## The maps -/

/-- The `BatchUpdateType…` constants. -/
inductive BatchUpdateType where
  | userQuota
  | tokenQuota
  | usedQuota
  | channelUsedQuota
  | requestCount
  deriving DecidableEq, Repr

/-- From 0 to `BatchUpdateTypeCount`. -/
def BatchUpdateType.all : List BatchUpdateType :=
  [.userQuota, .tokenQuota, .usedQuota, .channelUsedQuota, .requestCount]

/-- `map[int]int` -/
abbrev DeltaMap := Table (Prod.fst : Int × Int → Int)

/-- `m[id]`, which is 0 when there is no entry. -/
def DeltaMap.delta (m : DeltaMap) (id : Int) : Int := ((m.find? id).map Prod.snd).getD 0

/-- `batchUpdateStores`. -/
abbrev BatchStores := BatchUpdateType → DeltaMap

/-- Empty maps. -/
def BatchStores.empty : BatchStores := fun _ => .empty

def addNewRecord (type : BatchUpdateType) (id value : Int) (stores : BatchStores) : BatchStores :=
  Function.update stores type <|
    match (stores type).find? id with
    | none => (stores type).put (id, value)
    | some old => (stores type).put (id, old.2 + value)

/-! ## The database -/

/-- The counters of a user. -/
structure UserCounters where
  id : Int
  quota : Int
  usedQuota : Int
  requestCount : Int
  deriving DecidableEq

/-- The counters of a token. -/
structure TokenCounters where
  id : Int
  remainQuota : Int
  usedQuota : Int
  accessedTime : Int
  deriving DecidableEq

/-- The counter of a channel. -/
structure ChannelCounters where
  id : Int
  usedQuota : Int
  deriving DecidableEq

/-- The tables, as far as they are flushed to. -/
structure CounterDb where
  users : Table UserCounters.id
  tokens : Table TokenCounters.id
  channels : Table ChannelCounters.id

/-- What a statement meets: the time, and whether it fails. -/
structure Moment where
  now : Int := 0
  fault : Fault := none

/-- A statement that fails changes nothing. -/
def Moment.exec (m : Moment) (db : CounterDb) : Except String CounterDb :=
  match m.fault with
  | some text => .error text
  | none => .ok db

def increaseTokenQuota (m : Moment) (id quota : Int) (db : CounterDb) : Except String CounterDb :=
  let tokens := db.tokens.updateWhere (fun t => t.id = id)
    (fun t => { t with
      remainQuota := t.remainQuota + quota
      usedQuota := t.usedQuota - quota
      accessedTime := m.now })
    (fun _ => rfl)
  m.exec { db with tokens := tokens }

def updateChannelUsedQuota (m : Moment) (id quota : Int) (db : CounterDb) :
    Except String CounterDb :=
  let channels := db.channels.updateWhere (fun c => c.id = id)
    (fun c => { c with usedQuota := c.usedQuota + quota })
    (fun _ => rfl)
  m.exec { db with channels := channels }

def updateUserQuotaUsedQuotaAndRequestCount (m : Moment) (id quota usedQuota requestCount : Int)
    (db : CounterDb) : Except String CounterDb :=
  if quota = 0 ∧ usedQuota = 0 ∧ requestCount = 0 then .ok db
  else
    let users := db.users.updateWhere (fun u => u.id = id)
      (fun u => { u with
        quota := u.quota + quota
        usedQuota := u.usedQuota + usedQuota
        requestCount := u.requestCount + requestCount })
      (fun _ => rfl)
    m.exec { db with users := users }

/-- A statement of the transaction. -/
inductive FlushStatement where
  | token (id value : Int)
  | channel (id value : Int)
  | user (id quota usedQuota requestCount : Int)
  deriving DecidableEq, Repr

/-- The call that makes the statement. -/
def FlushStatement.exec (m : Moment) (db : CounterDb) : FlushStatement → Except String CounterDb
  | .token id value => increaseTokenQuota m id value db
  | .channel id value => updateChannelUsedQuota m id value db
  | .user id quota usedQuota requestCount =>
      updateUserQuotaUsedQuotaAndRequestCount m id quota usedQuota requestCount db

/-- `DB.Transaction`: the statements in turn, then the commit.  Any of them may fail. -/
def transaction (moments : Nat → Moment) (db : CounterDb) :
    List FlushStatement → Except String CounterDb
  | [] => (moments 0).exec db
  | statement :: rest =>
      match statement.exec (moments 0) db with
      | .error text => .error text
      | .ok db' => transaction (fun n => moments (n + 1)) db' rest

/-! ## A flush -/

structure PendingBatchDelta where
  updateType : BatchUpdateType
  id : Int
  value : Int
  deriving DecidableEq, Repr

/-- How a flush walks the maps, and what its statements meet. -/
structure Walk where
  /-- `range store` -/
  entries : BatchUpdateType → List (Int × Int)
  /-- `range userIDs` -/
  userIDs : List Int
  moments : Nat → Moment

/-- The walk is one of these maps: each entry once, and each user who is in one of the
three maps of users once. -/
structure Walk.Of (w : Walk) (stores : BatchStores) : Prop where
  entries : ∀ type, (w.entries type).Perm (stores type).rows
  nodup : w.userIDs.Nodup
  mem_userIDs : ∀ id, id ∈ w.userIDs ↔
    ((stores .userQuota).find? id).isSome ∨ ((stores .usedQuota).find? id).isSome ∨
      ((stores .requestCount).find? id).isSome

/-- `pending`, the snapshot for a failure. -/
def Walk.pending (w : Walk) : List PendingBatchDelta :=
  BatchUpdateType.all.flatMap fun type => (w.entries type).map fun e => ⟨type, e.1, e.2⟩

/-- The statements for the map of one type. -/
def Walk.storeStatements (w : Walk) (type : BatchUpdateType) : List FlushStatement :=
  match type with
  | .tokenQuota => (w.entries type).map fun e => .token e.1 e.2
  | .channelUsedQuota => (w.entries type).map fun e => .channel e.1 e.2
  | .userQuota | .usedQuota | .requestCount => []

/-- The statements of the transaction. -/
def Walk.statements (w : Walk) (stores : BatchStores) : List FlushStatement :=
  BatchUpdateType.all.flatMap w.storeStatements ++
    w.userIDs.map fun id => .user id ((stores .userQuota).delta id) ((stores .usedQuota).delta id)
      ((stores .requestCount).delta id)

/-- Where a run of `batchUpdate` is. -/
inductive Flush where
  /-- The types that have not been looked at for data. -/
  | checking (rest : List BatchUpdateType)
  /-- The types whose maps have not been taken, and those that have. -/
  | detaching (rest : List BatchUpdateType) (stores : BatchStores)
  | applying (stores : BatchStores) (pending : List PendingBatchDelta)
  /-- What has not been added back. -/
  | requeueing (rest : List PendingBatchDelta)
  | returned

/-- The database, the maps, and the flushes that have been started. -/
structure BatchState where
  db : CounterDb
  stores : BatchStores
  flushes : List Flush

/-- The next step of a flush; each is one critical section or one transaction. -/
def Flush.next (w : Walk) (db : CounterDb) (stores : BatchStores) :
    Flush → CounterDb × BatchStores × Flush
  | .checking [] => (db, stores, .returned)
  | .checking (type :: rest) =>
      if (stores type).rows ≠ [] then (db, stores, .detaching BatchUpdateType.all .empty)
      else (db, stores, .checking rest)
  | .detaching (type :: rest) taken =>
      (db, Function.update stores type .empty,
        .detaching rest (Function.update taken type (stores type)))
  | .detaching [] taken => (db, stores, .applying taken w.pending)
  | .applying taken pending =>
      match transaction w.moments db (w.statements taken) with
      | .ok db' => (db', stores, .returned)
      | .error _ => (db, stores, .requeueing pending)
  | .requeueing [] => (db, stores, .returned)
  | .requeueing (d :: rest) =>
      (db, addNewRecord d.updateType d.id d.value stores, .requeueing rest)
  | .returned => (db, stores, .returned)

/-- A flush that walks maps walks those it has taken. -/
def Flush.Walks (w : Walk) : Flush → Prop
  | .detaching [] taken => w.Of taken
  | .applying taken _ => w.Of taken
  | _ => True

/-- What may happen. -/
inductive BatchEvent where
  | addNewRecord (type : BatchUpdateType) (id value : Int)
  /-- `batchUpdate` is called. -/
  | batchUpdate
  /-- The `i`-th flush takes a step. -/
  | flush (i : Nat) (w : Walk)

namespace BatchState

/-- One step. -/
def apply (s : BatchState) : BatchEvent → BatchState
  | .addNewRecord type id value => { s with stores := addNewRecord type id value s.stores }
  | .batchUpdate => { s with flushes := s.flushes ++ [.checking BatchUpdateType.all] }
  | .flush i w =>
      match s.flushes[i]? with
      | none => s
      | some f =>
          let (db, stores, f') := f.next w s.db s.stores
          ⟨db, stores, s.flushes.set i f'⟩

/-- Anything may come next, but maps are walked as they are. -/
def Step (s : BatchState) (e : BatchEvent) (s' : BatchState) : Prop :=
  s' = s.apply e ∧ ∀ i w f, e = .flush i w → s.flushes[i]? = some f → f.Walks w

/-- A database with nothing pending. -/
def start (db : CounterDb) : BatchState := ⟨db, .empty, []⟩

end BatchState

/-! ## What is conserved -/

/-- The counters that are flushed. -/
inductive BatchCounter where
  | userQuota
  | userUsedQuota
  | userRequestCount
  | tokenRemainQuota
  | tokenUsedQuota
  | channelUsedQuota
  deriving DecidableEq, Repr

namespace BatchCounter

/-- The map its deltas are added to. -/
def type : BatchCounter → BatchUpdateType
  | .userQuota => .userQuota
  | .userUsedQuota => .usedQuota
  | .userRequestCount => .requestCount
  | .tokenRemainQuota | .tokenUsedQuota => .tokenQuota
  | .channelUsedQuota => .channelUsedQuota

/-- What a delta does to it: quota that a token gets back it has not used. -/
def sign : BatchCounter → Int
  | .tokenUsedQuota => -1
  | _ => 1

/-- Its value in the database, if the row is there. -/
def read (db : CounterDb) (id : Int) : BatchCounter → Option Int
  | .userQuota => (db.users.find? id).map UserCounters.quota
  | .userUsedQuota => (db.users.find? id).map UserCounters.usedQuota
  | .userRequestCount => (db.users.find? id).map UserCounters.requestCount
  | .tokenRemainQuota => (db.tokens.find? id).map TokenCounters.remainQuota
  | .tokenUsedQuota => (db.tokens.find? id).map TokenCounters.usedQuota
  | .channelUsedQuota => (db.channels.find? id).map ChannelCounters.usedQuota

end BatchCounter

/-- What a snapshot holds for an id. -/
def heldIn (pending : List PendingBatchDelta) (type : BatchUpdateType) (id : Int) : Int :=
  (pending.map fun d => if d.updateType = type ∧ d.id = id then d.value else 0).sum

/-- What a flush has taken out of the maps and neither written nor put back. -/
def Flush.held (type : BatchUpdateType) (id : Int) : Flush → Int
  | .detaching _ taken => (taken type).delta id
  | .applying taken _ => (taken type).delta id
  | .requeueing rest => heldIn rest type id
  | .checking _ | .returned => 0

/-- What the maps hold. -/
def BatchState.pending (s : BatchState) (type : BatchUpdateType) (id : Int) : Int :=
  (s.stores type).delta id

open Flush (held next)

/-- What the flushes hold. -/
def BatchState.detached (s : BatchState) (type : BatchUpdateType) (id : Int) : Int :=
  (s.flushes.map (held type id)).sum

/-- What a call adds. -/
def BatchEvent.delta (type : BatchUpdateType) (id : Int) : BatchEvent → Int
  | .addNewRecord type' id' value => if type' = type ∧ id' = id then value else 0
  | _ => 0

/-- The sum of all deltas added. -/
def added (es : List BatchEvent) (type : BatchUpdateType) (id : Int) : Int :=
  (es.map (BatchEvent.delta type id)).sum

section Maps
variable {stores : BatchStores} {type type' : BatchUpdateType} {id id' value : Int}

theorem delta_put (m : DeltaMap) (id value id' : Int) :
    DeltaMap.delta (m.put (id, value)) id' = if id' = id then value else m.delta id' := by
  unfold DeltaMap.delta
  rw [Table.find?_put]
  by_cases hid : id' = id
  · simp [hid]
  · simp [hid]

theorem delta_empty (id : Int) : DeltaMap.delta .empty id = 0 := rfl

/-- **`addNewRecord` adds.** -/
theorem delta_addNewRecord : (addNewRecord type id value stores type').delta id' =
      (stores type').delta id' + if type = type' ∧ id = id' then value else 0 := by
  unfold addNewRecord
  by_cases htype : type = type'
  · subst htype
    rw [update_self]
    have hput : ∀ old, (stores type).delta id = old →
        DeltaMap.delta ((stores type).put (id, old + value)) id' =
          (stores type).delta id' + if type = type ∧ id = id' then value else 0 := by
      intro old hold
      rw [delta_put]
      by_cases hid : id' = id
      · rw [if_pos hid, if_pos ⟨rfl, hid.symm⟩, hid, hold]
      · rw [if_neg hid, if_neg fun h => hid h.2.symm, add_zero]
    cases hfd : (stores type).find? id with
    | none =>
      have hz : (stores type).delta id = 0 := by
        rw [DeltaMap.delta, hfd]
        rfl
      have hadd := hput 0 hz
      rw [zero_add] at hadd
      exact hadd
    | some old =>
      refine hput old.2 ?_
      rw [DeltaMap.delta, hfd]
      rfl
  · rw [update_of_ne (Ne.symm htype), if_neg fun h => htype h.1, add_zero]

/-- The entries of a map, walked in any order. -/
theorem sum_entries {m : DeltaMap} {l : List (Int × Int)} (hpe : l.Perm m.rows) (id : Int) :
    (l.map fun e => if e.1 = id then e.2 else 0).sum = m.delta id := by
  rw [(hpe.map _).sum_eq]
  exact Table.sum_ite_key m.nodup id Prod.snd

end Maps

/-! ### The transaction -/

section Transaction
variable {m : Moment} {db db' : CounterDb} {c : BatchCounter} {id : Int}

/-- What a statement adds to the counters of a type. -/
def FlushStatement.delta (type : BatchUpdateType) (id : Int) : FlushStatement → Int
  | .token id' value => if type = .tokenQuota ∧ id' = id then value else 0
  | .channel id' value => if type = .channelUsedQuota ∧ id' = id then value else 0
  | .user id' quota usedQuota requestCount =>
      if id' = id then
        match type with
        | .userQuota => quota
        | .usedQuota => usedQuota
        | .requestCount => requestCount
        | .tokenQuota | .channelUsedQuota => 0
      else 0

theorem exec_ok_iff : m.exec db = .ok db' ↔ m.fault = none ∧ db' = db := by
  unfold Moment.exec
  cases m.fault with
  | none => simp [eq_comm]
  | some text => simp

/-- An update of one row, read in a column that it adds `x` to. -/
theorem map_updateRow {α : Type} {key : α → Int} (t : Table key) {f : α → α}
    (hf : ∀ a, key (f a) = key a) {g : α → Int} {id' x y : Int} (hg : ∀ a, g (f a) = g a + x)
    (hy : (if id' = id then x else 0) = y) :
    ((t.updateWhere (fun a => key a = id') f hf).find? id).map g =
      ((t.find? id).map g).map (· + y) := by
  rw [Table.find?_updateWhere, ← hy]
  cases hfd : t.find? id with
  | none => rfl
  | some a =>
    have hkey : key a = id := (t.find?_eq_some_iff.mp hfd).2
    by_cases hid : id' = id
    · simp [hkey, hid, hg]
    · simp [hkey, hid, Ne.symm hid]

theorem map_add_zero (o : Option Int) {x : Int} (hx : x = 0) : o = o.map (· + x) := by
  simp [hx]

open BatchCounter

/-- **What a statement does to each counter.** -/
theorem read_exec {s : FlushStatement} (h : s.exec m db = .ok db') :
    c.read db' id = (c.read db id).map (· + c.sign * s.delta c.type id) := by
  cases s with
  | token id' value =>
    obtain ⟨-, rfl⟩ := exec_ok_iff.mp h
    cases c with
    | tokenRemainQuota =>
      exact map_updateRow db.tokens (by intro; rfl) (fun _ => rfl)
        (by simp [sign, type, FlushStatement.delta])
    | tokenUsedQuota =>
      exact map_updateRow db.tokens (by intro; rfl) (fun _ => Int.sub_eq_add_neg)
        (by by_cases hid : id' = id <;>
          simp [sign, type, FlushStatement.delta, hid])
    | _ => exact map_add_zero _ (mul_zero _)
  | channel id' value =>
    obtain ⟨-, rfl⟩ := exec_ok_iff.mp h
    cases c with
    | channelUsedQuota =>
      exact map_updateRow db.channels (by intro; rfl) (fun _ => rfl)
        (by simp [sign, type, FlushStatement.delta])
    | _ => exact map_add_zero _ (mul_zero _)
  | user id' quota usedQuota requestCount =>
    simp only [FlushStatement.exec, updateUserQuotaUsedQuotaAndRequestCount] at h
    split at h
    · rename_i hz
      obtain ⟨rfl, rfl, rfl⟩ := hz
      cases h
      refine map_add_zero _ ?_
      cases c <;> simp [type, FlushStatement.delta]
    obtain ⟨-, rfl⟩ := exec_ok_iff.mp h
    cases c with
    | userQuota | userUsedQuota | userRequestCount =>
      exact map_updateRow db.users (by intro; rfl) (fun _ => rfl)
        (by simp [sign, type, FlushStatement.delta])
    | _ => exact map_add_zero _ (by simp [type, FlushStatement.delta])

/-- **What a committed transaction does to each counter.** -/
theorem read_transaction {statements : List FlushStatement} {moments : Nat → Moment}
    (h : transaction moments db statements = .ok db') : c.read db' id =
      (c.read db id).map (· + c.sign * (statements.map (·.delta c.type id)).sum) := by
  induction statements generalizing moments db with
  | nil =>
    obtain ⟨-, rfl⟩ := exec_ok_iff.mp h
    exact map_add_zero _ (mul_zero _)
  | cons s rest ih =>
    unfold transaction at h
    split at h
    · cases h
    rename_i db₁ hex
    rw [ih h, read_exec hex, Option.map_map]
    congr 1
    funext v
    rw [comp_apply, map_cons, sum_cons, mul_add, add_assoc]

end Transaction

section Walk
variable {w : Walk} {stores : BatchStores}

/-- The snapshot is of the maps. -/
theorem heldIn_pending (hw : w.Of stores) (type : BatchUpdateType) (id : Int) :
    heldIn w.pending type id = (stores type).delta id := by
  have hone : ∀ type', heldIn ((w.entries type').map fun e => ⟨type', e.1, e.2⟩) type id =
      if type' = type then (stores type).delta id else 0 := by
    intro type'
    unfold heldIn
    by_cases htype : type' = type
    · subst htype
      rw [if_pos rfl, ← sum_entries (hw.entries type') id]
      simp [comp_def]
    · simp [comp_def, htype]
  have happ : ∀ l l', heldIn (l ++ l') type id = heldIn l type id + heldIn l' type id := by
    intro l l'
    unfold heldIn
    rw [map_append, sum_append]
  simp only [Walk.pending, BatchUpdateType.all, flatMap_cons, flatMap_nil, happ, hone]
  cases type <;> simp [heldIn]

/-- A user in none of the maps has nothing to be written. -/
theorem delta_of_not_mem (hw : w.Of stores) {type : BatchUpdateType} {id : Int}
    (htype : type ≠ .tokenQuota ∧ type ≠ .channelUsedQuota) (hid : id ∉ w.userIDs) :
    (stores type).delta id = 0 := by
  rw [hw.mem_userIDs] at hid
  simp only [not_or, Option.isSome_iff_exists, not_exists] at hid
  have hno : (stores type).find? id = none := by
    rw [Option.eq_none_iff_forall_ne_some]
    intro e he
    cases type with
    | userQuota => exact hid.1 e he
    | usedQuota => exact hid.2.1 e he
    | requestCount => exact hid.2.2 e he
    | tokenQuota => exact htype.1 rfl
    | channelUsedQuota => exact htype.2 rfl
  rw [DeltaMap.delta, hno]
  rfl

/-- The statements of users, for one of their maps. -/
theorem sum_userIDs (hw : w.Of stores) (type : BatchUpdateType) (id : Int)
    (htype : type ≠ .tokenQuota ∧ type ≠ .channelUsedQuota) :
    (w.userIDs.map fun id' => if id' = id then (stores type).delta id' else 0).sum =
      (stores type).delta id := by
  have hnd : (w.userIDs.map fun id' => id').Nodup := by simpa using hw.nodup
  rw [Table.sum_ite_key hnd id fun id' => (stores type).delta id']
  by_cases hid : id ∈ w.userIDs
  · have hfd : w.userIDs.find? (fun id' => id' = id) = some id := by
      cases hf : w.userIDs.find? (fun id' => id' = id) with
      | none => exact absurd (find?_eq_none.mp hf id hid) (by simp)
      | some id' =>
        have heq : id' = id := by simpa using find?_some hf
        rw [heq]
    rw [hfd]
    rfl
  · have hfd : w.userIDs.find? (fun id' => id' = id) = none := by
      rw [find?_eq_none]
      rintro id' hmem heq
      exact hid (of_decide_eq_true heq ▸ hmem)
    rw [hfd, delta_of_not_mem hw htype hid]
    rfl

/-- **The statements write what the maps hold**, for each type. -/
theorem sum_statements (hw : w.Of stores) (type : BatchUpdateType) (id : Int) :
    ((w.statements stores).map (·.delta type id)).sum = (stores type).delta id := by
  unfold Walk.statements
  simp only [BatchUpdateType.all, flatMap_cons, flatMap_nil, Walk.storeStatements,
    nil_append, append_nil, map_append, sum_append, map_map, comp_def, FlushStatement.delta]
  cases type with
  | tokenQuota => simpa using sum_entries (hw.entries .tokenQuota) id
  | channelUsedQuota => simpa using sum_entries (hw.entries .channelUsedQuota) id
  | userQuota => simpa using sum_userIDs hw .userQuota id (by decide)
  | usedQuota => simpa using sum_userIDs hw .usedQuota id (by decide)
  | requestCount => simpa using sum_userIDs hw .requestCount id (by decide)

end Walk

/-! ### A step -/

/-- What is true of a flush on its way. -/
def Flush.Sound : Flush → Prop
  | .detaching rest taken => rest.Nodup ∧ ∀ type ∈ rest, ∀ id, (taken type).delta id = 0
  | .applying taken pending => ∀ type id, heldIn pending type id = (taken type).delta id
  | _ => True

/-- From `(db, held)` to `(db', held')`: what is not held any more has been written. -/
structure Moved (db db' : CounterDb) (held held' : BatchUpdateType → Int → Int)
    (written : BatchUpdateType → Int → Int) : Prop where
  read : ∀ c id, BatchCounter.read db' id c =
    (BatchCounter.read db id c).map (· + c.sign * written c.type id)
  held : ∀ type id, held' type id + written type id = held type id

theorem Moved.still {db : CounterDb} {held held' : BatchUpdateType → Int → Int}
    (h : ∀ type id, held' type id = held type id) : Moved db db held held' fun _ _ => 0 where
  read := fun c id => map_add_zero _ (mul_zero _)
  held := by
    intro type id
    rw [h, add_zero]

section Step
variable {w : Walk} {db db' : CounterDb} {stores stores' : BatchStores} {f f' : Flush}

/-- **A step of a flush** writes what it lets go of, and nothing else. -/
theorem Flush.next_moved (hsound : f.Sound) (hw : f.Walks w)
    (h : f.next w db stores = (db', stores', f')) : f'.Sound ∧ ∃ written, Moved db db'
      (fun type id => (stores type).delta id + f.held type id)
      (fun type id => (stores' type).delta id + f'.held type id) written := by
  cases f with
  | checking rest =>
    cases rest with
    | nil =>
      cases h
      exact ⟨trivial, _, .still fun _ _ => rfl⟩
    | cons type rest =>
      simp only [next] at h
      split at h
      · cases h
        exact ⟨⟨by decide, fun _ _ _ => rfl⟩, _, .still fun _ _ => rfl⟩
      · cases h
        exact ⟨trivial, _, .still fun _ _ => rfl⟩
  | detaching rest taken =>
    obtain ⟨hnd, hemp⟩ := hsound
    cases rest with
    | nil =>
      cases h
      exact ⟨heldIn_pending hw, _, .still fun _ _ => rfl⟩
    | cons type rest =>
      cases h
      rw [nodup_cons] at hnd
      refine ⟨⟨hnd.2, fun type' htype' id => ?_⟩, _, .still fun type' id => ?_⟩
      · have hne : type' ≠ type := by
          rintro rfl
          exact hnd.1 htype'
        rw [update_of_ne hne]
        exact hemp type' (mem_cons_of_mem _ htype') id
      · -- the map goes from memory to the flush, where there was nothing of its type
        by_cases htype : type' = type
        · subst htype
          simp only [update_self, held, delta_empty, hemp type' mem_cons_self id]
          exact add_comm _ _
        · simp only [update_of_ne htype, held]
  | applying taken pending =>
    simp only [next] at h
    split at h
    · rename_i hcom
      cases h
      refine ⟨trivial, fun type id => (taken type).delta id, fun c id => ?_, fun type id => ?_⟩
      · rw [read_transaction hcom, sum_statements hw]
      · simp only [held, add_zero]
    · cases h
      refine ⟨trivial, _, .still fun type id => ?_⟩
      simp only [held, hsound type id]
  | requeueing rest =>
    cases rest with
    | nil =>
      cases h
      exact ⟨trivial, _, .still fun _ _ => rfl⟩
    | cons d rest =>
      cases h
      refine ⟨trivial, _, .still fun type id => ?_⟩
      rw [delta_addNewRecord, add_assoc]
      rfl
  | returned =>
    cases h
    exact ⟨trivial, _, .still fun _ _ => rfl⟩

namespace BatchState
variable {s s' : BatchState} {e : BatchEvent}

/-- All flushes are sound. -/
def Sound (s : BatchState) : Prop := ∀ f ∈ s.flushes, f.Sound

/-- **What a step does**: what is added is pending, detached or written. -/
theorem step_moved (hsound : s.Sound) (hst : Step s e s') : s'.Sound ∧ ∃ written, Moved s.db s'.db
      (fun type id => s.pending type id + s.detached type id + e.delta type id)
      (fun type id => s'.pending type id + s'.detached type id) written := by
  obtain ⟨rfl, hwal⟩ := hst
  cases e with
  | addNewRecord type id value =>
    refine ⟨hsound, _, .still fun type' id' => ?_⟩
    simp only [apply, pending, detached, delta_addNewRecord, BatchEvent.delta]
    omega
  | batchUpdate =>
    refine ⟨fun f hf => ?_, _, .still fun type id => ?_⟩
    · rcases mem_append.mp hf with hold | hnew
      · exact hsound f hold
      rw [mem_singleton.mp hnew]
      trivial
    · simp [apply, pending, detached, BatchEvent.delta, held]
  | flush i w =>
    cases hi : s.flushes[i]? with
    | none =>
      have hsm : s.apply (.flush i w) = s := by
        simp only [apply, hi]
      rw [hsm]
      exact ⟨hsound, _, .still fun type id => (add_zero _).symm⟩
    | some f =>
      obtain ⟨⟨db', stores', f'⟩, hnext⟩ : ∃ r, f.next w s.db s.stores = r := ⟨_, rfl⟩
      obtain ⟨hf', written, hmov⟩ := Flush.next_moved
        (hsound f (mem_of_getElem? hi)) (hwal i w f rfl hi) hnext
      have happ : s.apply (.flush i w) = ⟨db', stores', s.flushes.set i f'⟩ := by
        simp only [apply, hi, hnext]
      rw [happ]
      refine ⟨fun g hg => ?_, written, hmov.read, fun type id => ?_⟩
      · rcases mem_or_eq_of_mem_set hg with hold | rfl
        · exact hsound g hold
        · exact hf'
      · have hsum := Table.sum_map_set hi f' (held type id)
        have hhd := hmov.held type id
        simp only [pending, detached, BatchEvent.delta]
        omega

/-- **What a run does.** -/
theorem run_moved {es : List BatchEvent} (hsound : s.Sound) (hrun : Run Step s es s') :
    ∃ written, Moved s.db s'.db
      (fun type id => s.pending type id + s.detached type id + added es type id)
      (fun type id => s'.pending type id + s'.detached type id) written := by
  induction hrun with
  | nil s => exact ⟨_, .still fun type id => (add_zero _).symm⟩
  | cons hst _ ih =>
    obtain ⟨hsound', written, hmov⟩ := step_moved hsound hst
    obtain ⟨written', hmov'⟩ := ih hsound'
    refine ⟨fun type id => written type id + written' type id, fun c id => ?_, fun type id => ?_⟩
    · rw [hmov'.read, hmov.read, Option.map_map]
      congr 1
      funext v
      rw [comp_apply, mul_add, add_assoc]
    · have hfst := hmov.held type id
      have hre := hmov'.held type id
      simp only [added, map_cons, sum_cons] at hre ⊢
      omega

/-- **No delta is lost or duplicated.**  Whatever is added and flushed in whatever order,
and whichever statements fail: a counter's value in the database, with what the maps and
the flushes hold for it, is its value at first with all that was added to it. -/
theorem conserved {db : CounterDb} {es : List BatchEvent} (hrun : Run Step (start db) es s)
    (c : BatchCounter) {id v₀ : Int} (hrow : c.read db id = some v₀) :
    ∃ v, c.read s.db id = some v ∧
      v + c.sign * (s.pending c.type id + s.detached c.type id) =
        v₀ + c.sign * added es c.type id := by
  have hsound : (start db).Sound := by
    intro f hf
    cases hf
  obtain ⟨written, hmov⟩ := run_moved hsound hrun
  refine ⟨v₀ + c.sign * written c.type id, ?_, ?_⟩
  · rw [hmov.read]
    show (c.read db id).map _ = _
    rw [hrow, Option.map_some]
  · have hhd := hmov.held c.type id
    have hstr : (start db).pending c.type id + (start db).detached c.type id = 0 := rfl
    rw [hstr, zero_add] at hhd
    rw [← hhd, mul_add _ _ (written _ _)]
    omega

/-- A user with a quota of 10 and nothing else. -/
def sampleDb : CounterDb :=
  ⟨⟨[⟨1, 10, 0, 0⟩], by decide⟩, .empty, .empty⟩

/-- Five are added and taken by a flush, and then seven are added. -/
def sampleRun : List BatchEvent :=
  [.addNewRecord .userQuota 1 5, .batchUpdate, .flush 0 ⟨fun _ => [], [], fun _ => {}⟩,
    .flush 0 ⟨fun _ => [], [], fun _ => {}⟩, .addNewRecord .userQuota 1 7]

/-- The 12 that were added are in the flush and in the map. -/
theorem conserved_sample :
    ∃ s v, Run Step (start sampleDb) sampleRun s ∧
      BatchCounter.read s.db 1 .userQuota = some v ∧
      s.pending .userQuota 1 = 7 ∧ s.detached .userQuota 1 = 5 ∧
      v + 1 * (s.pending .userQuota 1 + s.detached .userQuota 1) = 10 + 1 * 12 := by
  have hrun : Run Step (start sampleDb) sampleRun (sampleRun.foldl apply (start sampleDb)) := by
    refine .cons ⟨rfl, ?_⟩ (.cons ⟨rfl, ?_⟩ (.cons ⟨rfl, ?_⟩ (.cons ⟨rfl, ?_⟩
      (.cons ⟨rfl, ?_⟩ (.nil _)))))
    · intro i w f h
      cases h
    · intro i w f h
      cases h
    · intro i w f h hf
      cases h
      cases hf
      trivial
    · intro i w f h hf
      cases h
      cases hf
      trivial
    · intro i w f h
      cases h
  have hrow : BatchCounter.userQuota.read sampleDb 1 = some 10 := rfl
  obtain ⟨v, hv, hsum⟩ := conserved hrun .userQuota hrow
  exact ⟨_, v, hrun, hv, rfl, rfl, hsum⟩

end BatchState
end Step

end NewApi
