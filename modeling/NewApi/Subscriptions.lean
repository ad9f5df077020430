import NewApi.Accounts
import NewApi.Table

/-! # Subscription rows and the transactions on them

A subscription row counts what its holder used of `AmountTotal` (`0` means
unlimited) in the current reset period.  A request takes its estimate with
`preConsumeUserSubscription`, which also writes a record under the request's id,
and gives it back with `refundSubscriptionPreConsume`; every other change of the
counter is a delta (`postConsumeUserSubscriptionDelta`) or a reset, which puts it
back to zero.

Each function below is one database transaction: the rows it reads are locked
(`lockForUpdate`), so it runs as a whole, and when it returns an error it leaves
nothing behind.  Local midnight, next Monday and the first of next month come
from Go's `time` package in the server's zone, which is the parameter
`Calendar`.  The loop of `maybeResetUserSubscriptionWithPlanTx` may run any number
of times (and need not end, when a period is not positive); `fuel` bounds it, and
a loop that is cut off is reported as `StoreError.unfinished`, for which the code
has no counterpart. -/
namespace NewApi
open Db List

/-- `UserSubscription.Status`. -/
inductive SubscriptionStatus where
  | active
  | expired
  | cancelled
  deriving DecidableEq, Repr

/-- `SubscriptionPlan.DurationUnit`. -/
inductive DurationUnit where
  | year
  | month
  | day
  | hour
  | custom
  | other (text : String)
  deriving DecidableEq, Repr

/-- The periods of `NormalizeResetPeriod`. -/
inductive ResetPeriod where
  | never
  | daily
  | weekly
  | monthly
  | custom
  deriving DecidableEq, Repr

/-- The columns of `subscription_plans` that the modelled code reads. -/
structure SubscriptionPlan where
  id : Int
  durationUnit : DurationUnit
  durationValue : Int
  customSeconds : Int
  allowWalletOverflow : Option Bool
  maxPurchasePerUser : Int
  upgradeGroup : String
  downgradeGroup : String
  totalAmount : Int
  quotaResetPeriod : String
  quotaResetCustomSeconds : Int
  deriving DecidableEq, Repr

/-- A row of `user_subscriptions`. -/
structure UserSubscription where
  id : Int
  userId : Int
  planId : Int
  amountTotal : Int
  amountUsed : Int
  startTime : Int
  endTime : Int
  status : SubscriptionStatus
  lastResetTime : Int
  nextResetTime : Int
  upgradeGroup : String
  prevUserGroup : String
  downgradeGroup : String
  allowWalletOverflow : Bool
  deriving DecidableEq, Repr

/-- `SubscriptionPreConsumeRecord.Status`. -/
inductive RecordStatus where
  | consumed
  | refunded
  deriving DecidableEq, Repr

/-- A row of `subscription_pre_consume_records`, unique by request. -/
structure SubscriptionPreConsumeRecord where
  requestId : String
  userId : Int
  userSubscriptionId : Int
  preConsumed : Int
  status : RecordStatus
  deriving DecidableEq, Repr

/-- The tables the billing code works on. -/
structure Store where
  /-- `common.BatchUpdateEnabled`. -/
  batchUpdateEnabled : Bool
  /-- `users.quota`. -/
  users : Int → Account
  /-- `users.group`. -/
  groups : Int → String
  /-- `tokens.remain_quota`. -/
  tokens : Int → Account
  subscriptions : Table UserSubscription.id
  records : Table SubscriptionPreConsumeRecord.requestId

/-- Local-zone dates: the Unix time of the first midnight after `t`, of the first
Monday midnight after `t` and of the first midnight of the next month, and the
results of `AddDate` by years and by months. -/
structure Calendar where
  nextDay : Int → Int
  nextMonday : Int → Int
  nextMonth : Int → Int
  addYears : Int → Int → Int
  addMonths : Int → Int → Int

/-- What a subscription transaction reads from outside its tables. -/
structure SubscriptionEnv where
  now : Int
  calendar : Calendar
  /-- How many rounds of the reset loop are followed. -/
  fuel : Nat
  /-- `getSubscriptionPlanByIdTx`. -/
  plans : Int → Except StoreError SubscriptionPlan
  /-- The error a failing statement rolls the transaction back with.  The query
  for the user's subscriptions reports `noActiveSubscription` here. -/
  fault : Option StoreError

/-- A signed 64-bit value, wrapped. -/
def wrap64 (n : Int) : Int := Int.bmod n (2 ^ 64)

/-- `time.Unix(t, 0).Add(time.Duration(n) * unit).Unix()`, with `unit` in
nanoseconds: the product of the duration wraps. -/
def addDuration (t n unit : Int) : Int := t + wrap64 (n * unit) / 1000000000

/-- `time.Second` in nanoseconds. -/
def nanosPerSecond : Int := 1000000000

def normalizeResetPeriod (period : String) : ResetPeriod :=
  let p := trimSpace period
  if p = "daily" then .daily
  else if p = "weekly" then .weekly
  else if p = "monthly" then .monthly
  else if p = "custom" then .custom
  else .never

def calcNextResetTime (cal : Calendar) (base : Int) (plan : SubscriptionPlan) (endUnix : Int) :
    Int :=
  let bounded (next : Int) : Int := if 0 < endUnix ∧ endUnix < next then 0 else next
  match normalizeResetPeriod plan.quotaResetPeriod with
  | .never => 0
  | .daily => bounded (cal.nextDay base)
  | .weekly => bounded (cal.nextMonday base)
  | .monthly => bounded (cal.nextMonth base)
  | .custom =>
      if plan.quotaResetCustomSeconds ≤ 0 then 0
      else bounded (addDuration base plan.quotaResetCustomSeconds nanosPerSecond)

/-- The loop `for next > 0 && next <= now` of
`maybeResetUserSubscriptionWithPlanTx`, from `(base, next, advanced)`. -/
def advanceReset (cal : Calendar) (plan : SubscriptionPlan) (endUnix now : Int) :
    Nat → Int × Int × Bool → Option (Int × Int × Bool)
  | 0, _ => none
  | fuel + 1, (base, next, advanced) =>
      if 0 < next ∧ next ≤ now then
        advanceReset cal plan endUnix now fuel (next, calcNextResetTime cal next plan endUnix, true)
      else some (base, next, advanced)

/-- `maybeResetUserSubscriptionWithPlanTx`: the row it leaves, and whether the
period was over (`advanced`), in which case the counter is zero again. -/
def maybeResetUserSubscriptionWithPlanTx (env : SubscriptionEnv) (sub : UserSubscription)
    (plan : SubscriptionPlan) : Except StoreError (UserSubscription × Bool) :=
  if 0 < sub.nextResetTime ∧ env.now < sub.nextResetTime then .ok (sub, false)
  else if normalizeResetPeriod plan.quotaResetPeriod = .never then .ok (sub, false)
  else
    let base := if sub.lastResetTime ≤ 0 then sub.startTime else sub.lastResetTime
    match advanceReset env.calendar plan sub.endTime env.now env.fuel
        (base, calcNextResetTime env.calendar base plan sub.endTime, false) with
    | none => .error .unfinished
    | some (base, next, false) =>
        if sub.nextResetTime = 0 ∧ 0 < next then
          .ok ({ sub with nextResetTime := next, lastResetTime := base }, false)
        else .ok (sub, false)
    | some (base, next, true) =>
        .ok ({ sub with amountUsed := 0, lastResetTime := base, nextResetTime := next }, true)

def resetUserSubscriptionTx (env : SubscriptionEnv) (plan : SubscriptionPlan)
    (advanceResetTime : Bool) (sub : UserSubscription) : UserSubscription :=
  if advanceResetTime then
    let nextReset := calcNextResetTime env.calendar env.now plan sub.endTime
    { sub with amountUsed := 0, nextResetTime := nextReset,
               lastResetTime := if 0 < nextReset then env.now else 0 }
  else { sub with amountUsed := 0 }

structure SubscriptionPreConsumeResult where
  userSubscriptionId : Int
  preConsumed : Int
  amountTotal : Int
  amountUsedBefore : Int
  amountUsedAfter : Int
  deriving DecidableEq, Repr

/-- The query condition `user_id = ? AND status = 'active' AND end_time > ?`. -/
def UserSubscription.activeFor (sub : UserSubscription) (userId now : Int) : Bool :=
  decide (sub.userId = userId ∧ sub.status = .active ∧ now < sub.endTime)

/-- `Order("end_time asc, id asc")`. -/
def UserSubscription.endsBefore (a b : UserSubscription) : Prop :=
  a.endTime < b.endTime ∨ (a.endTime = b.endTime ∧ a.id ≤ b.id)

instance : DecidableRel UserSubscription.endsBefore :=
  fun _ _ => inferInstanceAs (Decidable (_ ∨ _))

/-- The active subscriptions of a user, the one that ends first in front. -/
def Store.activeSubscriptions (db : Store) (userId now : Int) : List UserSubscription :=
  (db.subscriptions.rows.filter (fun sub => sub.activeFor userId now)).insertionSort
    UserSubscription.endsBefore

/-- What the candidate loop of `PreConsumeUserSubscription` leaves: the table with
the resets it made, the rows whose period was over, and the row that pays. -/
structure Candidate where
  subscriptions : Table UserSubscription.id
  resets : List Int
  chosen : Option UserSubscription

/-- The candidate loop of `PreConsumeUserSubscription`: each candidate is reset
if its period is over, and the first with `amount` left pays. -/
def chooseSubscription (env : SubscriptionEnv) (amount : Int) :
    List UserSubscription → Table UserSubscription.id → Except StoreError Candidate
  | [], subs => .ok ⟨subs, [], none⟩
  | candidate :: rest, subs =>
      match env.plans candidate.planId with
      | .error e => .error e
      | .ok plan =>
        match maybeResetUserSubscriptionWithPlanTx env candidate plan with
        | .error e => .error e
        | .ok (sub, advanced) =>
            let reset := if advanced then [sub.id] else []
            -- a total of 0 is no limit; a reset stays also when the row cannot pay
            if 0 < sub.amountTotal ∧ sub.amountTotal - sub.amountUsed < amount then
              match chooseSubscription env amount rest (subs.save sub) with
              | .error e => .error e
              | .ok c => .ok { c with resets := reset ++ c.resets }
            else .ok ⟨subs.save sub, reset, some sub⟩

/-- What a subscription transaction did to the rows, besides the tables it left:
the rows it reset. -/
structure SubscriptionTx (α : Type) where
  store : Store
  resets : List Int
  value : α

def preConsumeUserSubscription (env : SubscriptionEnv) (requestId : String) (userId amount : Int)
    (db : Store) : Except StoreError (SubscriptionTx SubscriptionPreConsumeResult) :=
  if userId ≤ 0 then .error .invalidUserId
  else if trimSpace requestId = "" then .error .emptyRequestId
  else if amount ≤ 0 then .error .amountNotPositive
  else match env.fault with
  | some e => .error e
  | none =>
    match db.records.find? requestId with
    | some existing =>
        -- a request that is known is not charged again
        if existing.status = .refunded then .error .alreadyRefunded
        else match db.subscriptions.find? existing.userSubscriptionId with
        | none => .error .recordNotFound
        | some sub => .ok ⟨db, [], ⟨sub.id, existing.preConsumed, sub.amountTotal, sub.amountUsed,
            sub.amountUsed⟩⟩
    | none =>
        if db.activeSubscriptions userId env.now = [] then .error .noActiveSubscription
        else match chooseSubscription env amount (db.activeSubscriptions userId env.now)
            db.subscriptions with
        | .error e => .error e
        | .ok ⟨_, _, none⟩ => .error (.subscriptionQuotaInsufficient amount)
        | .ok ⟨subs, resets, some sub⟩ =>
            match db.records.create ⟨requestId, userId, sub.id, amount, .consumed⟩ with
            | none => .error .recordNotFound
            | some records =>
                let paid := { sub with amountUsed := sub.amountUsed + amount }
                .ok ⟨{ db with subscriptions := subs.save paid, records := records }, resets,
                  ⟨sub.id, amount, sub.amountTotal, sub.amountUsed, paid.amountUsed⟩⟩

/-- `if newUsed < 0 { newUsed = 0 }`. -/
def clampZero (n : Int) : Int := if n < 0 then 0 else n

def postConsumeUserSubscriptionDeltaTx (userSubscriptionId delta : Int) (db : Store) :
    Except StoreError Store :=
  match db.subscriptions.find? userSubscriptionId with
  | none => .error .recordNotFound
  | some sub =>
      let newUsed := clampZero (sub.amountUsed + delta)
      if 0 < sub.amountTotal ∧ sub.amountTotal < newUsed then
        .error (.usedExceedsTotal newUsed sub.amountTotal)
      else .ok { db with subscriptions := db.subscriptions.save { sub with amountUsed := newUsed } }

def postConsumeUserSubscriptionDelta (fault : Fault) (userSubscriptionId delta : Int) (db : Store) :
    Except StoreError Store :=
  if userSubscriptionId ≤ 0 then .error .invalidUserSubscriptionId
  else if delta = 0 then .ok db
  else match fault with
  | some text => .error (.database text)
  | none => postConsumeUserSubscriptionDeltaTx userSubscriptionId delta db

def refundSubscriptionPreConsume (fault : Fault) (requestId : String) (db : Store) :
    Except StoreError Store :=
  if trimSpace requestId = "" then .error .emptyRequestId
  else match fault with
  | some text => .error (.database text)
  | none =>
    match db.records.find? requestId with
    | none => .error .recordNotFound
    | some record =>
        if record.status = .refunded then .ok db
        else if record.preConsumed ≤ 0 then
          .ok { db with records := db.records.save { record with status := .refunded } }
        else match postConsumeUserSubscriptionDeltaTx record.userSubscriptionId
            (-record.preConsumed) db with
        | .error e => .error e
        | .ok db' =>
            .ok { db' with records := db'.records.save { record with status := .refunded } }

/-- One round of `ResetDueSubscriptions`: the transaction on the row `id`, which
is skipped when the row is no longer due. -/
def resetDueSubscription (env : SubscriptionEnv) (id : Int) (db : Store) :
    Except StoreError (SubscriptionTx Unit) :=
  match db.subscriptions.find? id with
  | none => .ok ⟨db, [], ()⟩
  | some locked =>
      if ¬ (0 < locked.nextResetTime ∧ locked.nextResetTime ≤ env.now) then .ok ⟨db, [], ()⟩
      else match env.fault with
      | some e => .error e
      | none =>
        match env.plans locked.planId with
        | .error _ => .ok ⟨db, [], ()⟩
        | .ok plan =>
          match maybeResetUserSubscriptionWithPlanTx env locked plan with
          | .error e => .error e
          | .ok (sub, advanced) =>
              .ok ⟨{ db with subscriptions := db.subscriptions.save sub },
                if advanced then [sub.id] else [], ()⟩

/-- The rows of `AdminResetUserSubscriptionsByPlan` (`userId = some u`) and of
`AdminResetPlanSubscriptions` (`userId = none`). -/
def adminResetRow (userId : Option Int) (planId now : Int) (sub : UserSubscription) : Bool :=
  decide ((∀ u ∈ userId, sub.userId = u) ∧ sub.planId = planId ∧ sub.status = .active ∧
    now < sub.endTime)

/-- `AdminResetUserSubscriptionsByPlan` and `AdminResetPlanSubscriptions`. -/
def adminReset (env : SubscriptionEnv) (userId : Option Int) (planId : Int)
    (advanceResetTime : Bool) (db : Store) : Except StoreError (SubscriptionTx Unit) :=
  match env.fault with
  | some e => .error e
  | none =>
    match env.plans planId with
    | .error e => .error e
    | .ok plan =>
        let subs := db.subscriptions.updateWhere (adminResetRow userId planId env.now)
          (resetUserSubscriptionTx env plan advanceResetTime)
          (by intro sub; unfold resetUserSubscriptionTx; split <;> rfl)
        .ok ⟨{ db with subscriptions := subs },
          (db.subscriptions.rows.filter (adminResetRow userId planId env.now)).map
            UserSubscription.id, ()⟩

/-! ## What the transactions do to the counters -/

/-- The counter of the row `id`. -/
def usedOf (subs : Table UserSubscription.id) (id : Int) : Option Int :=
  (subs.find? id).map UserSubscription.amountUsed

/-- The counters once the rows `resets` have been reset. -/
def afterResets (used : Int → Option Int) (resets : List Int) (id : Int) : Option Int :=
  if id ∈ resets then (used id).map (fun _ => 0) else used id

@[simp]
theorem afterResets_nil (used : Int → Option Int) (id : Int) : afterResets used [] id = used id :=
  if_neg not_mem_nil

theorem afterResets_append (used : Int → Option Int) (resets more : List Int) (id : Int) :
    afterResets (afterResets used resets) more id = afterResets used (resets ++ more) id := by
  simp only [afterResets, mem_append]
  by_cases hfst : id ∈ resets <;> by_cases hmo : id ∈ more <;> simp [hfst, hmo, Function.comp_def]

theorem usedOf_save (subs : Table UserSubscription.id) (sub : UserSubscription)
    {old : UserSubscription} (h : subs.find? sub.id = some old) (id : Int) :
    usedOf (subs.save sub) id = if id = sub.id then some sub.amountUsed else usedOf subs id := by
  unfold usedOf
  by_cases hid : id = sub.id
  · subst hid
    rw [subs.find?_save_self h, if_pos rfl]
    rfl
  · rw [subs.find?_save_ne (Ne.symm hid), if_neg hid]

variable {env : SubscriptionEnv}

/-- A reset keeps the row and zeroes its counter exactly when the period was
over. -/
theorem maybeReset_spec {sub sub' : UserSubscription} {plan : SubscriptionPlan} {advanced : Bool}
    (h : maybeResetUserSubscriptionWithPlanTx env sub plan = .ok (sub', advanced)) :
    sub'.id = sub.id ∧ sub'.amountTotal = sub.amountTotal ∧
      sub'.amountUsed = if advanced then 0 else sub.amountUsed := by
  unfold maybeResetUserSubscriptionWithPlanTx at h
  split at h
  · cases h; exact ⟨rfl, rfl, rfl⟩
  split at h
  · cases h; exact ⟨rfl, rfl, rfl⟩
  simp only at h
  split at h
  · cases h
  · split at h
    all_goals cases h; exact ⟨rfl, rfl, rfl⟩
  · cases h; exact ⟨rfl, rfl, rfl⟩

/-- The period of a row is over: `maybeResetUserSubscriptionWithPlanTx` advances it. -/
def resetDue (env : SubscriptionEnv) (sub : UserSubscription) : Bool :=
  match env.plans sub.planId with
  | .error _ => false
  | .ok plan =>
    match maybeResetUserSubscriptionWithPlanTx env sub plan with
    | .error _ => false
    | .ok (_, advanced) => advanced

section Reset
variable {env : SubscriptionEnv} {candidate sub : UserSubscription} {plan : SubscriptionPlan}
  {advanced : Bool}

/-- The loop reports a candidate exactly when its period was over. -/
theorem mem_reported (hpl : env.plans candidate.planId = .ok plan)
    (hres : maybeResetUserSubscriptionWithPlanTx env candidate plan = .ok (sub, advanced))
    (id : Int) : id ∈ (if advanced then [sub.id] else []) ↔
      candidate.id = id ∧ resetDue env candidate = true := by
  have hdue : resetDue env candidate = advanced := by simp [resetDue, hpl, hres]
  rw [hdue, ← (maybeReset_spec hres).1]
  cases advanced <;> simp [eq_comm]

/-- Saving a candidate changes its counter if it was reset, and no other. -/
theorem usedOf_save_reset {subs : Table UserSubscription.id}
    (hfd : subs.find? sub.id = some candidate)
    (hres : maybeResetUserSubscriptionWithPlanTx env candidate plan = .ok (sub, advanced))
    (id : Int) : usedOf (subs.save sub) id =
      afterResets (usedOf subs) (if advanced then [sub.id] else []) id := by
  have hus := (maybeReset_spec hres).2.2
  rw [usedOf_save subs sub hfd]
  by_cases he : id = sub.id
  · subst he
    have hu : usedOf subs sub.id = some candidate.amountUsed := by
      rw [usedOf, hfd]
      rfl
    cases advanced <;> simp [afterResets, hu, hus]
  · cases advanced <;> simp [afterResets, he]

end Reset

/-- The candidate loop changes counters only by the resets it reports, which are
of candidates whose period is over, and the row it chooses is a candidate, as the
table it leaves has it. -/
theorem chooseSubscription_spec {amount : Int} :
    ∀ {cs : List UserSubscription} {subs : Table UserSubscription.id} {c : Candidate},
      (∀ sub ∈ cs, subs.find? sub.id = some sub) → (cs.map UserSubscription.id).Nodup →
      chooseSubscription env amount cs subs = .ok c →
      (∀ id, usedOf c.subscriptions id = afterResets (usedOf subs) c.resets id) ∧
      (∀ id ∈ c.resets, ∃ sub ∈ cs, sub.id = id ∧ resetDue env sub = true) ∧
      ∀ sub ∈ c.chosen, c.subscriptions.find? sub.id = some sub ∧
        ∃ r ∈ cs, r.id = sub.id ∧ (r.id ∈ c.resets ↔ resetDue env r = true)
  | [], subs, c, _, _, h => by
      cases h
      exact ⟨fun id => (afterResets_nil _ id).symm, by simp, by simp⟩
  | candidate :: rest, subs, c, hmem, hnd, h => by
      unfold chooseSubscription at h
      split at h
      · cases h
      rename_i plan hpl
      split at h
      · cases h
      rename_i sub advanced hres
      have hid : sub.id = candidate.id := (maybeReset_spec hres).1
      have hrep := mem_reported hpl hres
      have hfd : subs.find? sub.id = some candidate := by
        rw [hid]
        exact hmem candidate (mem_cons_self ..)
      have hsav := usedOf_save_reset hfd hres
      have hnd' := nodup_cons.mp hnd
      simp only at h
      split at h
      · -- the candidate cannot pay: the rest of the loop runs on the saved table
        have hre : ∀ r ∈ rest, (subs.save sub).find? r.id = some r := by
          intro r hr
          have hne : sub.id ≠ r.id := by
            intro he
            exact hnd'.1 (mem_map.mpr ⟨r, hr, (hid.symm.trans he).symm⟩)
          rw [subs.find?_save_ne hne]
          exact hmem r (mem_cons_of_mem _ hr)
        split at h
        · cases h
        rename_i c' hc
        cases h
        obtain ⟨ih, ihids, ihchosen⟩ := chooseSubscription_spec hre hnd'.2 hc
        refine ⟨fun id => ?_, fun id hmm => ?_, fun paid hpa => ?_⟩
        · rw [ih id, funext hsav]
          exact afterResets_append ..
        · rcases mem_append.mp hmm with h1 | h2
          · exact ⟨candidate, mem_cons_self .., (hrep id).mp h1⟩
          obtain ⟨r, hr, hrid⟩ := ihids id h2
          exact ⟨r, mem_cons_of_mem _ hr, hrid⟩
        · obtain ⟨hrow, r, hr, hrid, hiff⟩ := ihchosen paid hpa
          refine ⟨hrow, r, mem_cons_of_mem _ hr, hrid, ?_⟩
          have hne : ¬ (candidate.id = r.id ∧ resetDue env candidate = true) := by
            rintro ⟨he, -⟩
            exact hnd'.1 (mem_map.mpr ⟨r, hr, he.symm⟩)
          rw [mem_append, hrep, hiff]
          simp [hne]
      · -- it can: the loop ends here, with at most its own reset
        cases h
        refine ⟨hsav, fun id hmm =>
          ⟨candidate, mem_cons_self .., (hrep id).mp hmm⟩, ?_⟩
        intro r hr
        cases hr
        refine ⟨subs.find?_save_self hfd, candidate, mem_cons_self .., hid.symm, ?_⟩
        rw [hrep]
        simp

/-- A row can pay: it has no total, or enough of it is left once a period that is over is reset. -/
def pays (env : SubscriptionEnv) (amount : Int) (sub : UserSubscription) : Bool :=
  sub.amountTotal ≤ 0 || amount ≤ sub.amountTotal - if resetDue env sub then 0 else sub.amountUsed

/-- The loop chooses the first row that can pay. -/
theorem chosen_pays {amount : Int} {sub : UserSubscription} :
    ∀ {cs : List UserSubscription} {subs subs' : Table UserSubscription.id} {resets : List Int},
      chooseSubscription env amount cs subs = .ok ⟨subs', resets, some sub⟩ →
      ∃ first, cs.find? (pays env amount) = some first ∧ first.id = sub.id
  | [], _, _, _, h => by cases h
  | candidate :: rest, _, _, _, h => by
      unfold chooseSubscription at h
      split at h
      · cases h
      rename_i plan hplan
      split at h
      · cases h
      rename_i row advanced hreset
      obtain ⟨hid, htotal, hused⟩ := maybeReset_spec hreset
      have hpays : pays env amount candidate =
          decide ¬ (0 < row.amountTotal ∧ row.amountTotal - row.amountUsed < amount) := by
        have hdue : resetDue env candidate = advanced := by simp [resetDue, hplan, hreset]
        rw [pays, hdue, ← hused, ← htotal, ← Bool.decide_or, decide_eq_decide]
        omega
      by_cases hshort : 0 < row.amountTotal ∧ row.amountTotal - row.amountUsed < amount
      · simp only [if_pos hshort] at h
        split at h
        · cases h
        rename_i c hc
        obtain ⟨-, -, hchosen⟩ := Candidate.mk.inj (Except.ok.inj h)
        obtain ⟨first, hfirst, heq⟩ := chosen_pays (hc.trans (by rw [← hchosen]))
        exact ⟨first, by simpa [hpays, hshort] using hfirst, heq⟩
      · simp only [if_neg hshort] at h
        cases h
        exact ⟨candidate, List.find?_cons_of_pos (hpays.trans (decide_eq_true hshort)), hid.symm⟩

theorem mem_activeSubscriptions (db : Store) {userId now : Int} {sub : UserSubscription} :
    sub ∈ db.activeSubscriptions userId now ↔
      sub ∈ db.subscriptions.rows ∧ sub.activeFor userId now = true := by
  rw [Store.activeSubscriptions, mem_insertionSort, mem_filter]

theorem nodup_activeSubscriptions (db : Store) (userId now : Int) :
    ((db.activeSubscriptions userId now).map UserSubscription.id).Nodup := by
  have hpe := (perm_insertionSort UserSubscription.endsBefore
    (db.subscriptions.rows.filter (fun sub => sub.activeFor userId now))).map UserSubscription.id
  exact hpe.nodup_iff.mpr (db.subscriptions.nodup.sublist (List.Sublist.map _ filter_sublist))

/-- The row `id`, an active one of the user, is charged `amount`, after the rows
`resets`, active ones whose period is over, have been reset.  The row that pays
is among them exactly when its own period is over. -/
structure Charges (env : SubscriptionEnv) (userId id amount : Int) (resets : List Int)
    (db db' : Store) : Prop where
  due : ∀ j ∈ resets, ∃ sub ∈ db.activeSubscriptions userId env.now,
    sub.id = j ∧ resetDue env sub = true
  payer : ∃ sub ∈ db.activeSubscriptions userId env.now,
    sub.id = id ∧ (sub.id ∈ resets ↔ resetDue env sub = true)
  used : ∃ paid, afterResets (usedOf db.subscriptions) resets id = some paid ∧
    ∀ j, usedOf db'.subscriptions j = if j = id then some (paid + amount)
      else afterResets (usedOf db.subscriptions) resets j

/-- A charge depends on the subscription rows alone. -/
theorem Charges.of_subscriptions {userId id amount : Int}
    {resets : List Int} {db₁ db db' : Store} (h : Charges env userId id amount resets db₁ db')
    (heq : db₁.subscriptions = db.subscriptions) : Charges env userId id amount resets db db' := by
  obtain ⟨hdue, hpay, hus⟩ := h
  rw [Store.activeSubscriptions, heq] at hdue hpay
  rw [heq] at hus
  exact ⟨hdue, hpay, hus⟩

/-- What the row counts when it is charged: nothing, if its period is over. -/
def usedWhenCharged (env : SubscriptionEnv) (sub : UserSubscription) : Int :=
  if resetDue env sub then 0 else sub.amountUsed

variable {db db' : Store}

theorem Charges.usedOf_payer {userId id amount : Int} {resets : List Int}
    (h : Charges env userId id amount resets db db') : ∃ sub, db.subscriptions.find? id = some sub ∧
      usedOf db'.subscriptions id = some (usedWhenCharged env sub + amount) := by
  obtain ⟨sub, hsub, rfl, hiff⟩ := h.payer
  obtain ⟨paid, hpa, hus⟩ := h.used
  have hfd : db.subscriptions.find? sub.id = some sub :=
    (Table.find?_eq_some_iff _).mpr ⟨((mem_activeSubscriptions db).mp hsub).1, rfl⟩
  have hcha : paid = usedWhenCharged env sub := by
    rw [afterResets, usedOf, hfd] at hpa
    unfold usedWhenCharged
    by_cases hdue : resetDue env sub = true
    · rw [if_pos (hiff.mpr hdue)] at hpa
      rw [if_pos hdue]
      exact (Option.some.inj hpa).symm
    · rw [if_neg (fun hmem => hdue (hiff.mp hmem))] at hpa
      rw [if_neg hdue]
      exact (Option.some.inj hpa).symm
  exact ⟨sub, hfd, by rw [hus, if_pos rfl, hcha]⟩

variable {db : Store}

/-- A successful pre-consumption either finds the request's record and changes
nothing, or writes that record and charges one row. -/
theorem preConsume_spec {requestId : String} {userId amount : Int}
    {tx : SubscriptionTx SubscriptionPreConsumeResult}
    (h : preConsumeUserSubscription env requestId userId amount db = .ok tx) :
    0 < amount ∧ trimSpace requestId ≠ "" ∧
    ((db.records.find? requestId ≠ none ∧ tx.store = db ∧ tx.resets = []) ∨ (∃ records subs,
        db.records.create ⟨requestId, userId, tx.value.userSubscriptionId, amount, .consumed⟩
          = some records ∧ tx.store = { db with subscriptions := subs, records := records } ∧
        tx.value.preConsumed = amount ∧
        Charges env userId tx.value.userSubscriptionId amount tx.resets db tx.store)) := by
  unfold preConsumeUserSubscription at h
  split at h
  · cases h
  split at h
  · cases h
  rename_i hreq
  split at h
  · cases h
  refine ⟨by omega, hreq, ?_⟩
  split at h
  · cases h
  split at h
  · -- the request is known
    rename_i existing hex
    split at h
    · cases h
    split at h
    · cases h
    cases h
    exact .inl ⟨by simp [hex], rfl, rfl⟩
  · split at h
    · cases h
    split at h
    · cases h
    · cases h
    · rename_i subs resets sub hc
      split at h
      · cases h
      rename_i records hcreate
      obtain ⟨hus, hdue, hcho⟩ := chooseSubscription_spec
        (fun _ hsub => (Table.find?_eq_some_iff _).mpr
          ⟨((mem_activeSubscriptions db).mp hsub).1, rfl⟩)
        (nodup_activeSubscriptions db userId env.now) hc
      obtain ⟨hrow, hpay⟩ := hcho sub rfl
      cases h
      refine .inr ⟨records, _, hcreate, rfl, rfl, hdue, hpay, sub.amountUsed, ?_, fun id => ?_⟩
      · show afterResets _ resets sub.id = _
        rw [← hus sub.id]
        simp [usedOf, hrow]
      · show usedOf (subs.save { sub with amountUsed := sub.amountUsed + amount }) id = _
        rw [usedOf_save subs { sub with amountUsed := sub.amountUsed + amount } hrow]
        by_cases hid : id = sub.id
        · simp [hid]
        simp only [hid, if_false]
        exact hus id

theorem clampZero_eq_max (n : Int) : clampZero n = max 0 n := by
  unfold clampZero
  split <;> omega

/-- A delta moves the counter of its own row only, and never below zero. -/
theorem postConsumeTx_spec {id delta : Int}
    (h : postConsumeUserSubscriptionDeltaTx id delta db = .ok db') :
    ∃ sub subs, db.subscriptions.find? id = some sub ∧ db' = { db with subscriptions := subs } ∧
      ∀ j, usedOf subs j = if j = id then some (max 0 (sub.amountUsed + delta))
        else usedOf db.subscriptions j := by
  unfold postConsumeUserSubscriptionDeltaTx at h
  split at h
  · cases h
  rename_i sub hfd
  have hid : sub.id = id := (db.subscriptions.find?_eq_some_iff.mp hfd).2
  simp only at h
  split at h
  · cases h
  cases h
  refine ⟨sub, _, hfd, rfl, fun j => ?_⟩
  rw [usedOf_save db.subscriptions _ (by simpa [hid] using hfd)]
  simp only [hid, clampZero_eq_max]

/-- A refund leaves a refunded record alone; a consumed one that holds something is given
back to its row and marked. -/
theorem refundPreConsume_spec {fault : Fault} {requestId : String}
    (h : refundSubscriptionPreConsume fault requestId db = .ok db') :
    ∃ record, db.records.find? requestId = some record ∧ ((record.status = .refunded ∧ db' = db) ∨
       (record.status = .consumed ∧ (0 < record.preConsumed → ∃ sub subs,
          db.subscriptions.find? record.userSubscriptionId = some sub ∧ db' = { db with
            subscriptions := subs
            records := db.records.save { record with status := .refunded } } ∧
          ∀ j, usedOf subs j = if j = record.userSubscriptionId then
            some (max 0 (sub.amountUsed - record.preConsumed))
            else usedOf db.subscriptions j))) := by
  unfold refundSubscriptionPreConsume at h
  iterate 3
    split at h
    · cases h
  rename_i record hrec
  refine ⟨record, hrec, ?_⟩
  split at h
  · rename_i href
    exact .inl ⟨href, (Except.ok.inj h).symm⟩
  rename_i hsts
  have hcon : record.status = .consumed := by
    cases hs : record.status
    · rfl
    · exact absurd hs hsts
  refine .inr ⟨hcon, fun hpos => ?_⟩
  rw [if_neg (by omega)] at h
  split at h
  · cases h
  rename_i db₁ hpo
  obtain ⟨sub, subs, hfd, rfl, hus⟩ := postConsumeTx_spec hpo
  exact ⟨sub, subs, hfd, (Except.ok.inj h).symm, hus⟩

variable {tx : SubscriptionTx Unit}

theorem resetDue_spec {id : Int} (h : resetDueSubscription env id db = .ok tx) :
    ∃ subs, tx.store = { db with subscriptions := subs } ∧
      ∀ j, usedOf subs j = afterResets (usedOf db.subscriptions) tx.resets j := by
  unfold resetDueSubscription at h
  split at h
  · cases h
    exact ⟨db.subscriptions, rfl, fun j => (afterResets_nil _ j).symm⟩
  rename_i locked hfd
  split at h
  · cases h
    exact ⟨db.subscriptions, rfl, fun j => (afterResets_nil _ j).symm⟩
  split at h
  · cases h
  split at h
  · cases h
    exact ⟨db.subscriptions, rfl, fun j => (afterResets_nil _ j).symm⟩
  split at h
  · cases h
  rename_i sub advanced hres
  have hloc : locked.id = id := (db.subscriptions.find?_eq_some_iff.mp hfd).2
  have hrow : db.subscriptions.find? sub.id = some locked := by
    rw [(maybeReset_spec hres).1, hloc, hfd]
  cases h
  exact ⟨_, rfl, usedOf_save_reset hrow hres⟩

/-- An administrator's reset. -/
theorem adminReset_spec {userId : Option Int} {planId : Int} {advance : Bool}
    (h : adminReset env userId planId advance db = .ok tx) :
    ∃ subs, tx.store = { db with subscriptions := subs } ∧
      ∀ j, usedOf subs j = afterResets (usedOf db.subscriptions) tx.resets j := by
  unfold adminReset at h
  split at h
  · cases h
  split at h
  · cases h
  rename_i plan _
  cases h
  refine ⟨_, rfl, fun j => ?_⟩
  have hz : ∀ sub, (resetUserSubscriptionTx env plan advance sub).amountUsed = 0 := by
    intro sub
    unfold resetUserSubscriptionTx
    split <;> rfl
  have hmem : j ∈ (db.subscriptions.rows.filter (adminResetRow userId planId env.now)).map
      UserSubscription.id ↔
      ∃ sub, db.subscriptions.find? j = some sub ∧ adminResetRow userId planId env.now sub := by
    simp only [mem_map, mem_filter, Table.find?_eq_some_iff]
    constructor
    · rintro ⟨sub, ⟨h1, h2⟩, h3⟩
      exact ⟨sub, ⟨h1, h3⟩, h2⟩
    · rintro ⟨sub, ⟨h1, h3⟩, h2⟩
      exact ⟨sub, ⟨h1, h2⟩, h3⟩
  unfold usedOf
  rw [Table.find?_updateWhere]
  simp only [afterResets, hmem]
  cases hfd : db.subscriptions.find? j with
  | none => simp
  | some sub =>
    by_cases hp : adminResetRow userId planId env.now sub = true
    · simp [hp, hz]
    · simp [hp]

/-! ## A small store -/

/-- A plan whose quota an administrator resets by hand. -/
def samplePlan : SubscriptionPlan where
  id := 3
  durationUnit := .month
  durationValue := 1
  customSeconds := 0
  allowWalletOverflow := none
  maxPurchasePerUser := 0
  upgradeGroup := ""
  downgradeGroup := ""
  totalAmount := 1000
  quotaResetPeriod := "never"
  quotaResetCustomSeconds := 0

/-- What the transactions on the sample store read. -/
def sampleEnv : SubscriptionEnv where
  now := 100
  calendar := ⟨id, id, id, fun t _ => t, fun t _ => t⟩
  fuel := 1
  plans := fun _ => .ok samplePlan
  fault := none

/-- User 7 owns a thousand units, as does their token 9, and has one subscription
of a thousand more. -/
def sampleStore : Store where
  batchUpdateEnabled := false
  users := fun _ => ⟨1000, 0⟩
  groups := fun _ => "default"
  tokens := fun _ => ⟨1000, 0⟩
  subscriptions := ⟨[⟨1, 7, 3, 1000, 0, 0, 500, .active, 0, 0, "", "", "", true⟩], by decide⟩
  records := Table.empty

end NewApi
