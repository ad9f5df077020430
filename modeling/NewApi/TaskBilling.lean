import NewApi.BillingConservation
import NewApi.TaskPolling

/-! # Billing a task

`RelayTask` reserves an estimate before each attempt at the upstream
(`PreConsumeBilling`), stores the task with the quota of the attempt that went
through, and only then settles the session to that quota (`SettleBilling`).  When
the task fails, `RefundTaskQuota` gives back the stored quota.

A settlement and a refund both come down to adjusting one payer by a delta
(`Payer.adjust`).  The adjustment is carried out exactly when the payer accepts it
(`Payer.adjust_iff`); it then moves all of the delta, but a subscription row is
not taken below zero (`Payer.applied_cases`). -/
namespace NewApi

/-! ## Billing a request -/

/-- `PreConsumeBilling`: open the session of a request, or reserve more on it.
`clamped` says that the estimate was saturated. -/
def preConsumeBilling (env : BillingEnv) (faults : BillingSession.Faults) (clamped : Bool)
    (preConsumedQuota : Int) (info : RelayInfo) (billing : Option BillingSession) (db : Store) :
    Except NewAPIError BillingSession × Store :=
  if clamped then (.error ⟨.modelPriceError, 400, .quotaClamp⟩, db)
  else if preConsumedQuota < 0 then
    (.error ⟨.modelPriceError, 400, .negativePreConsume preConsumedQuota⟩, db)
  else match billing with
  | some s =>
      match s.reserve faults preConsumedQuota db with
      | (some e, _, db) => (.error e, db)
      | (none, s, db) => (.ok s, db)
  | none =>
      let r := newBillingSession env info preConsumedQuota db
      (r.result, r.db)

/-- The funding half of `PostConsumeQuota`. -/
def postConsumeFunding (fault : Fault) (info : RelayInfo) (quota : Int) (db : Store) :
    Except StoreError Store :=
  if info.billingSource = some .subscription then
    if info.subscriptionId = 0 then .error .subscriptionIdMissing
    else postConsumeUserSubscriptionDelta fault info.subscriptionId quota db
  else if 0 < quota then db.decreaseUserQuota fault info.userId quota
  else db.increaseUserQuota fault info.userId (-quota)

/-- `PostConsumeQuota`: what is left when there is no session. -/
def postConsumeQuota (faults : BillingSession.Faults) (info : RelayInfo) (quota : Int)
    (db : Store) : Option StoreError × Store :=
  match postConsumeFunding faults.settleFunding info quota db with
  | .error e => (some e, db)
  | .ok db =>
      match BillingSession.settleToken faults.settleToken info quota db with
      | .error e => (some e, db)
      | .ok db => (none, db)

def settleBilling (faults : BillingSession.Faults) (actualQuota : Int) (info : RelayInfo)
    (billing : Option BillingSession) (db : Store) : Option StoreError × Store :=
  match billing with
  | some s =>
      let r := s.settle faults actualQuota db
      (r.1, r.2.2)
  | none =>
      let quotaDelta := actualQuota - info.finalPreConsumedQuota
      if quotaDelta ≠ 0 then postConsumeQuota faults info quotaDelta db else (none, db)

/-! ## Refunding a task -/

def taskIsSubscription (task : Task) : Bool :=
  decide (task.privateData.billingSource = some .subscription ∧ 0 < task.privateData.subscriptionId)

def taskAdjustFunding (fault : Fault) (task : Task) (delta : Int) (db : Store) :
    Except StoreError Store :=
  if taskIsSubscription task then
    postConsumeUserSubscriptionDelta fault task.privateData.subscriptionId delta db
  else if 0 < delta then db.decreaseUserQuota fault task.userId delta
  else db.increaseUserQuota fault task.userId (-delta)

/-- `taskAdjustTokenQuota`.  `tokenKey` is what `resolveTokenKey` finds; errors are only
logged. -/
def taskAdjustTokenQuota (tokenKey : String) (fault : Fault) (task : Task) (delta : Int)
    (db : Store) : Store :=
  if task.privateData.tokenId ≤ 0 ∨ delta = 0 then db
  else if tokenKey = "" then db
  else
    let result :=
      if 0 < delta then db.decreaseTokenQuota fault task.privateData.tokenId delta
      else db.increaseTokenQuota fault task.privateData.tokenId (-delta)
    match result with
    | .error _ => db
    | .ok db => db

/-- What a refund meets at the database. -/
structure RefundFaults where
  funding : Fault
  tokenKey : String
  token : Fault

def refundTaskQuota (faults : RefundFaults) (task : Task) (db : Store) : Store :=
  if task.quota = 0 then db
  else match taskAdjustFunding faults.funding task (-task.quota) db with
  | .error _ => db
  | .ok db => taskAdjustTokenQuota faults.tokenKey faults.token task (-task.quota) db

/-! ## Submitting a task -/

/-- One attempt of `RelayTask`, as far as billing is concerned.  Attempts that end
before `PreConsumeBilling` are of no interest here. -/
structure BillingAttempt where
  /-- `PriceData.FreeModel`. -/
  free : Bool
  clamped : Bool
  /-- `PriceData.Quota`. -/
  quota : Int
  env : BillingEnv
  faults : BillingSession.Faults
  db : Store

/-- What a request has been charged so far. -/
structure TaskCharge where
  info : RelayInfo
  ledger : Option Ledger

namespace TaskCharge

/-- `relayInfo.Billing`. -/
def session (c : TaskCharge) : Option BillingSession := c.ledger.map Ledger.session

/-- The relay info, as the session keeps it. -/
def relayInfo (c : TaskCharge) : RelayInfo :=
  match c.ledger with
  | some l => l.session.relayInfo
  | none => c.info

/-- Who pays. -/
def payer (c : TaskCharge) : Payer :=
  match c.ledger with
  | some l => l.payer
  | none => .wallet c.info.userId

/-- What has been reserved. -/
def reserved (c : TaskCharge) : Int :=
  match c.ledger with
  | some l => l.session.preConsumedQuota
  | none => 0

/-- What the payer has been debited. -/
def fundingNet (c : TaskCharge) : Int :=
  match c.ledger with
  | some l => l.fundingNet
  | none => 0

/-- The billing step of `RelayTaskSubmit`.  An error of it is local, so it is not
retried and the task is not submitted. -/
def attempt (c : TaskCharge) (a : BillingAttempt) : Option TaskCharge :=
  if a.free then some c
  else
    let info := { c.info with forcePreConsume := true }
    match preConsumeBilling a.env a.faults a.clamped a.quota info c.session a.db with
    | (.error _, _) => none
    | (.ok s, db) =>
        match c.ledger with
        | none => some ⟨info, some (.opened a.env info s a.db db)⟩
        | some l => some ⟨info, some (l.enter s a.db db none)⟩

end TaskCharge

structure TaskSubmitResult where
  upstreamTaskID : String
  taskData : List UInt8
  platform : TaskPlatform
  quota : Int

/-- The row `RelayTask` inserts: `InitTask`, with the billing data of the request. -/
def relayTaskRow (id : Int) (publicTaskID key : String) (channelId now : Int)
    (perCallBilling : Bool) (info : RelayInfo) (result : TaskSubmitResult) : Task where
  id := id
  taskID := publicTaskID
  platform := result.platform
  userId := info.userId
  channelId := channelId
  quota := result.quota
  status := .notStart
  failReason := ""
  submitTime := now
  startTime := 0
  finishTime := 0
  progress := "0%"
  privateData :=
    { key := key
      upstreamTaskID := result.upstreamTaskID
      resultURL := ""
      billingSource := info.billingSource
      subscriptionId := info.subscriptionId
      tokenId := info.tokenId
      perCallBilling := perCallBilling }
  data := result.taskData

/-! ## What an adjustment moves -/

/-- What a subscription row counts. -/
def Store.used (db : Store) (id : Int) : Int := (usedOf db.subscriptions id).getD 0

namespace Payer

/-- Take `delta` from a payer.  Settlements and refunds come down to this. -/
def adjust (fault : Fault) (delta : Int) (db : Store) : Payer → Except StoreError Store
  | .wallet id =>
      if 0 < delta then db.decreaseUserQuota fault id delta
      else db.increaseUserQuota fault id (-delta)
  | .subscription id => postConsumeUserSubscriptionDelta fault id delta db

/-- The database carries an adjustment out: its statement runs, and a row stays within
its total. -/
def Accepts (fault : Fault) (delta : Int) (db : Store) : Payer → Prop
  | .wallet _ => db.batchUpdateEnabled = true ∨ fault = none
  | .subscription id => 0 < id ∧ fault = none ∧ ∃ sub, db.subscriptions.find? id = some sub ∧
      (0 < sub.amountTotal → max 0 (sub.amountUsed + delta) ≤ sub.amountTotal)

/-- What an adjustment that is carried out takes.  Rows are not taken below zero. -/
def moved (delta : Int) (db : Store) : Payer → Int
  | .wallet _ => delta
  | .subscription id => max 0 (db.used id + delta) - db.used id

variable {fault : Fault} {delta : Int} {db : Store}

/-- A wallet column is adjusted when its statement runs, or is queued. -/
theorem onUser_adjust_iff {quota : Int} (h : 0 ≤ quota) (id delta : Int) :
    (∃ db', db.onUser id (Account.adjust db.batchUpdateEnabled fault quota delta) = .ok db') ↔
      db.batchUpdateEnabled = true ∨ fault = none := by
  unfold Store.onUser Account.adjust
  rw [if_neg (by omega)]
  cases db.batchUpdateEnabled with
  | true => simp
  | false =>
    cases fault with
    | none | some text => simp

theorem adjust_wallet_iff (id : Int) (delta : Int) :
    (∃ db', (Payer.wallet id).adjust fault delta db = .ok db') ↔
      (Payer.wallet id).Accepts fault delta db := by
  unfold adjust
  by_cases hpos : 0 < delta
  · simp only [if_pos hpos]
    exact onUser_adjust_iff (Int.le_of_lt hpos) id _
  · simp only [if_neg hpos]
    exact onUser_adjust_iff (by omega) id _

theorem adjust_subscription_iff (id : Int) (hdel : delta ≠ 0) :
    (∃ db', (Payer.subscription id).adjust fault delta db = .ok db') ↔
      (Payer.subscription id).Accepts fault delta db := by
  simp only [adjust, Accepts, postConsumeDelta_ok_iff hdel, exists_and_left]
  refine and_congr_right fun _ => and_congr_right fun _ => ?_
  unfold postConsumeUserSubscriptionDeltaTx
  cases db.subscriptions.find? id with
  | none => simp
  | some sub =>
    simp only [clampZero_eq_max, Option.some.injEq, exists_eq_left']
    constructor
    · rintro ⟨db', h⟩ htot
      split at h
      · cases h
      · omega
    · intro h
      rw [if_neg (by omega)]
      exact ⟨_, rfl⟩

/-- **An adjustment is carried out exactly when the payer accepts it.** -/
theorem adjust_iff (p : Payer) (hdel : delta ≠ 0) :
    (∃ db', p.adjust fault delta db = .ok db') ↔ p.Accepts fault delta db := by
  cases p with
  | wallet id => exact adjust_wallet_iff id delta
  | subscription id => exact adjust_subscription_iff id hdel

theorem taken_adjust (p : Payer) (hdel : delta ≠ 0) {db' : Store}
    (h : p.adjust fault delta db = .ok db') : p.taken db db' = p.moved delta db := by
  cases p with
  | wallet id =>
    simp only [adjust] at h
    split at h
    · rw [taken, (Store.decreaseUserQuota_moves h).balance, if_pos rfl, moved]
      omega
    · rw [taken, (Store.increaseUserQuota_moves h).balance, if_pos rfl, moved]
      omega
  | subscription id =>
    obtain ⟨-, -, htx⟩ := (postConsumeDelta_ok_iff hdel _ _ _).mp h
    obtain ⟨sub, subs, hrow, rfl, hus⟩ := postConsumeTx_spec htx
    have hbef : usedOf db.subscriptions id = some sub.amountUsed := by
      rw [usedOf, hrow]
      rfl
    simp only [taken, moved, Store.used, hus id, hbef, if_true, Option.getD_some]

/-- What an adjustment takes, whether or not it is carried out. -/
def applied (fault : Fault) (delta : Int) (db : Store) (p : Payer) : Int :=
  if delta = 0 then 0
  else match p.adjust fault delta db with
  | .ok db' => p.taken db db'
  | .error _ => 0

theorem applied_zero (p : Payer) : p.applied fault 0 db = 0 := rfl

theorem applied_of_accepts (p : Payer) (hdel : delta ≠ 0) (h : p.Accepts fault delta db) :
    p.applied fault delta db = p.moved delta db := by
  obtain ⟨db', hok⟩ := (p.adjust_iff hdel).mpr h
  simp only [applied, if_neg hdel, hok]
  exact p.taken_adjust hdel hok

theorem applied_of_not_accepts (p : Payer) (hdel : delta ≠ 0) (h : ¬ p.Accepts fault delta db) :
    p.applied fault delta db = 0 := by
  rw [applied, if_neg hdel]
  cases hadj : p.adjust fault delta db with
  | ok db' => exact absurd ((p.adjust_iff hdel).mp ⟨db', hadj⟩) h
  | error e => rfl

theorem taken_self (p : Payer) (db : Store) : p.taken db db = 0 := by
  cases p <;> exact Int.sub_self _

/-- What the row of a payer counts; a wallet has no row. -/
def used (db : Store) : Payer → Int
  | .wallet _ => 0
  | .subscription id => db.used id

/-- The row of a payer cannot give back all of an adjustment. -/
def Short (delta : Int) (db : Store) : Payer → Prop
  | .wallet _ => False
  | .subscription id => db.used id + delta < 0

/-- An adjustment is carried out in full. -/
def Full (fault : Fault) (delta : Int) (db : Store) (p : Payer) : Prop :=
  delta = 0 ∨ (p.Accepts fault delta db ∧ ¬ p.Short delta db)

theorem moved_of_short (p : Payer) (h : p.Short delta db) :
    p.moved delta db = -p.used db ∧ p.used db + delta < 0 := by
  cases p with
  | wallet id => exact h.elim
  | subscription id =>
    simp only [Short] at h
    simp only [moved, used]
    omega

theorem moved_of_not_short (p : Payer) (h : ¬ p.Short delta db) : p.moved delta db = delta := by
  cases p with
  | wallet id => rfl
  | subscription id =>
    simp only [Short] at h
    simp only [moved]
    omega

/-- **What an adjustment takes**: all of it, what is left in the row, or nothing. -/
theorem applied_cases (p : Payer) (fault : Fault) (delta : Int) (db : Store) :
    (p.Full fault delta db ∧ p.applied fault delta db = delta) ∨
    (delta ≠ 0 ∧ p.Accepts fault delta db ∧ p.Short delta db ∧ p.used db + delta < 0 ∧
      p.applied fault delta db = -p.used db) ∨
    (delta ≠ 0 ∧ ¬ p.Accepts fault delta db ∧ p.applied fault delta db = 0) := by
  by_cases hdel : delta = 0
  · subst hdel
    exact .inl ⟨.inl rfl, p.applied_zero⟩
  by_cases hacc : p.Accepts fault delta db
  · have happ := p.applied_of_accepts hdel hacc
    by_cases hsho : p.Short delta db
    · obtain ⟨hmov, hle⟩ := p.moved_of_short hsho
      exact .inr (.inl ⟨hdel, hacc, hsho, hle, happ.trans hmov⟩)
    · exact .inl ⟨.inr ⟨hacc, hsho⟩, happ.trans (p.moved_of_not_short hsho)⟩
  · exact .inr (.inr ⟨hdel, hacc, p.applied_of_not_accepts hdel hacc⟩)

/-- A token statement takes nothing from a payer. -/
theorem taken_token (p : Payer) {db db₁ db₂ : Store} {id d : Int}
    (h : Store.MovesToken id d db₁ db₂) : p.taken db db₂ = p.taken db db₁ := by
  rw [h.rest]
  cases p <;> rfl

end Payer

/-! ## What a settlement takes -/

variable {delta : Int} {fault : Fault}

theorem FundingSource.settle_eq_adjust (funding : FundingSource) {db : Store} (hdel : delta ≠ 0) :
    funding.settle fault delta db = funding.payer.adjust fault delta db := by
  cases funding <;> simp only [FundingSource.settle, if_neg hdel] <;> rfl

theorem taken_settleToken (p : Payer) {info : RelayInfo}
    {db db₁ db₂ : Store} (h : BillingSession.settleToken fault info delta db₁ = .ok db₂) :
    p.taken db db₂ = p.taken db db₁ := by
  unfold BillingSession.settleToken at h
  split at h
  · cases h
    rfl
  split at h
  · exact p.taken_token (Store.decreaseTokenQuota_moves h)
  · exact p.taken_token (Store.increaseTokenQuota_moves h)

open Payer (applied taken_self wallet)

/-- What `Settle` takes from the payer of a live session, whatever comes of the token. -/
theorem taken_settle {s : BillingSession} (hlv : s.settled = false ∧ s.fundingSettled = false)
    (faults : BillingSession.Faults) (actual : Int) (db : Store) :
    s.funding.payer.taken db (s.settle faults actual db).2.2 =
      s.funding.payer.applied faults.settleFunding (actual - s.preConsumedQuota) db := by
  simp only [BillingSession.settle, applied, hlv.1, hlv.2, Bool.false_eq_true, if_false]
  split
  · exact taken_self _ db
  rename_i hdel
  rw [s.funding.settle_eq_adjust hdel]
  split
  · rename_i e he
    simp only [he]
    exact taken_self _ db
  rename_i db₁ hfn
  simp only [hfn]
  split
  · rfl
  rename_i db₂ htok
  exact taken_settleToken _ htok

/-- What `PostConsumeQuota` takes from the wallet of a request without a session. -/
theorem taken_postConsumeQuota {info : RelayInfo} (hsrc : info.billingSource = none)
    (faults : BillingSession.Faults) (hdel : delta ≠ 0) (db : Store) :
    (wallet info.userId).taken db (postConsumeQuota faults info delta db).2 =
      (wallet info.userId).applied faults.settleFunding delta db := by
  have hfun : postConsumeFunding faults.settleFunding info delta db =
      (wallet info.userId).adjust faults.settleFunding delta db := by
    rw [postConsumeFunding, hsrc, if_neg (by simp)]
    rfl
  rw [postConsumeQuota, hfun, applied, if_neg hdel]
  split
  · rename_i e he
    simp only [he]
    exact taken_self _ db
  rename_i db₁ hfn
  simp only [hfn]
  split
  · rfl
  rename_i db₂ htok
  exact taken_settleToken _ htok

/-! ## What a refund gives back -/

/-- Who paid for a task. -/
def Task.payer (t : Task) : Payer :=
  if t.privateData.billingSource = some .subscription then
    .subscription t.privateData.subscriptionId
  else .wallet t.userId

theorem taken_taskAdjustTokenQuota (p : Payer) (tokenKey : String) (fault : Fault) (task : Task)
    (delta : Int) (db db₁ : Store) :
    p.taken db (taskAdjustTokenQuota tokenKey fault task delta db₁) = p.taken db db₁ := by
  unfold taskAdjustTokenQuota
  split
  · rfl
  split
  · rfl
  simp only
  split
  · rfl
  rename_i db₂ htok
  split at htok
  · exact p.taken_token (Store.decreaseTokenQuota_moves htok)
  · exact p.taken_token (Store.increaseTokenQuota_moves htok)

theorem Payer.taken_subscription_wallet {delta userId id : Int} {db db' : Store}
    (h : (wallet userId).adjust fault delta db = .ok db') :
    (Payer.subscription id).taken db db' = 0 := by
  simp only [Payer.adjust] at h
  split at h
  · rw [(Store.decreaseUserQuota_moves h).rest]
    exact Int.sub_self _
  · rw [(Store.increaseUserQuota_moves h).rest]
    exact Int.sub_self _

/-- The funding step of a refund, seen from who paid.  A task that says it was paid by
a subscription but not by which is refunded to the wallet. -/
theorem taken_taskAdjustFunding (fault : Fault) (task : Task) (hdel : delta ≠ 0) (db : Store) :
    (match taskAdjustFunding fault task delta db with
      | .ok db' => task.payer.taken db db'
      | .error _ => 0) = task.payer.applied fault delta db := by
  unfold taskAdjustFunding taskIsSubscription Task.payer
  by_cases hsub : task.privateData.billingSource = some .subscription
  · by_cases hid : 0 < task.privateData.subscriptionId
    · simp only [hsub, hid, and_self, decide_true, if_true, applied, if_neg hdel]
      rfl
    -- the wallet is credited, which the row does not see
    simp only [hsub, hid, and_false, decide_false, if_true, Bool.false_eq_true, if_false]
    have hno : ¬ (Payer.subscription task.privateData.subscriptionId).Accepts fault delta db :=
      fun h => hid h.1
    rw [Payer.applied_of_not_accepts _ hdel hno]
    split
    · rename_i db' hok
      have hwal : (wallet task.userId).adjust fault delta db = .ok db' := hok
      exact Payer.taken_subscription_wallet hwal
    · rfl
  · simp only [hsub, false_and, decide_false, if_false, applied, if_neg hdel,
      Bool.false_eq_true]
    rfl

/-- **What `RefundTaskQuota` takes from who paid**, whatever comes of the token. -/
theorem taken_refundTaskQuota (faults : RefundFaults) (task : Task) (db : Store) :
    task.payer.taken db (refundTaskQuota faults task db) =
      task.payer.applied faults.funding (-task.quota) db := by
  unfold refundTaskQuota
  split
  · rename_i hz
    rw [hz, Int.neg_zero, Payer.applied_zero]
    exact taken_self _ db
  rw [← taken_taskAdjustFunding faults.funding task (by omega) db]
  cases taskAdjustFunding faults.funding task (-task.quota) db with
  | error e => exact taken_self _ db
  | ok db₁ => exact taken_taskAdjustTokenQuota ..

end NewApi
