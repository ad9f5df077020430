import NewApi.Accounts
import NewApi.QuotaMath
import NewApi.Table

/-! # Completing a top-up

A top-up order is completed by the callback of its payment gateway or, when the
callback got lost, by an administrator (`ManualCompleteTopUp`).  Each gateway has
its own path, and each path computes the credit itself from the order's `Amount`
and `Money`.  The manual path knows two cases, Stripe and the rest.

For Epay, Waffo and Waffo Pancake the two credits are the same computation.  Creem
orders store the credit itself in `Amount`, which the manual path multiplies by
`QuotaPerUnit` all the same (`creem_credited_per_unit`); Stripe's path multiplies
floats where the manual path multiplies decimals.  `manual_credits_iff` says for
which orders the manual path credits what the gateway's path does.

Prices are `float64`.  The module is about any such type `F`, given the three
things that are done with it (`FloatArith`). -/
namespace NewApi
open Db Rounding

/-- What is done with `float64` values. -/
structure FloatArith (F : Type) where
  mul : F → F → F
  /-- The number a value stands for. -/
  value : F → ℚ
  /-- `decimal.NewFromFloat`: the shortest decimal that reads back as the value. -/
  decimal : F → ℚ

/-- `TopUp.PaymentProvider`. -/
inductive PaymentProvider where
  | epay
  | stripe
  | creem
  | waffo
  | waffoPancake
  | balance
  /-- Orders of old versions have none. -/
  | other (name : String)
  deriving DecidableEq, Repr

/-- `TopUp.Status`. -/
inductive TopUpStatus where
  | pending
  | success
  | failed
  | expired
  deriving DecidableEq, Repr

structure TopUp (F : Type) where
  id : Int
  userId : Int
  amount : Int
  money : F
  tradeNo : String
  paymentMethod : String
  paymentProvider : PaymentProvider
  completeTime : Int
  status : TopUpStatus

/-- The columns of `User` that completing an order touches.  Stripe's path adds a float
to the quota. -/
structure User where
  quota : ℚ
  email : String
  stripeCustomer : String
  deriving DecidableEq

/-- The tables. -/
structure TopUpStore (F : Type) where
  topUps : Table (TopUp.id (F := F))
  users : Int → User

/-- What a completion returns when it does not complete. -/
inductive TopUpError where
  /-- "未提供支付单号" -/
  | tradeNoMissing
  /-- "未提供订单号" -/
  | orderNoMissing
  /-- "充值订单不存在" -/
  | orderNotFound
  /-- `ErrPaymentMethodMismatch` -/
  | paymentMethodMismatch
  /-- "充值订单状态错误" -/
  | orderStatus
  /-- "订单状态不是待支付，无法补单" -/
  | notPending
  /-- "无效的充值额度" -/
  | invalidQuota
  /-- "无效的充值额度: %d" -/
  | invalidQuotaOf (quota : Int)
  /-- `*QuotaClamp` is an error. -/
  | quotaClamp (clamp : QuotaClamp)
  /-- "充值失败，请稍后重试" -/
  | rechargeFailed
  | database (text : String)
  deriving DecidableEq

/-- The statements of a completion that fail. -/
structure TopUpFaults where
  find : Fault := none
  save : Fault := none
  readUser : Fault := none
  update : Fault := none

/-- None of the statements that every path has fails. -/
def TopUpFaults.Runs (faults : TopUpFaults) : Prop :=
  faults.find = none ∧ faults.save = none ∧ faults.update = none

section Model
variable {F : Type}

def TopUpStore.getTopUpByTradeNo (db : TopUpStore F) (tradeNo : String) : Option (TopUp F) :=
  db.topUps.rows.find? (fun t => t.tradeNo = tradeNo)

/-- An order that has been paid. -/
def TopUp.complete (now : Int) (t : TopUp F) : TopUp F :=
  { t with completeTime := now, status := .success }

/-- `UPDATE users SET quota = quota + ?` with other columns. -/
def TopUpStore.credit (db : TopUpStore F) (userId : Int) (columns : User → User) (quota : ℚ) :
    TopUpStore F :=
  { db with users := fun id =>
      if id = userId then { columns (db.users id) with quota := (db.users id).quota + quota }
      else db.users id }

/-! ## The transaction the paths share -/

/-- How the completions by trade number differ. -/
structure Completion (F : Type) where
  /-- Whose orders are completed. -/
  accepts : PaymentProvider → Bool
  /-- A completed order is no error. -/
  idempotent : Bool
  /-- The error for an order that is not pending. -/
  statusError : TopUpError
  quota : TopUp F → Except TopUpError ℚ
  /-- The user is read first. -/
  readsUser : Bool
  /-- Other columns of the user. -/
  columns : User → User

/-- The transaction: the credit and the tables afterwards.  A credit of zero with the
tables unchanged stands for an order that was completed before. -/
def Completion.run (p : Completion F) (faults : TopUpFaults) (tradeNo : String) (now : Int)
    (db : TopUpStore F) : Except TopUpError (ℚ × TopUpStore F) :=
  match faults.find, db.getTopUpByTradeNo tradeNo with
  | some _, _ => .error .orderNotFound
  | none, none => .error .orderNotFound
  | none, some t =>
      if p.accepts t.paymentProvider = false then .error .paymentMethodMismatch
      else if p.idempotent ∧ t.status = .success then .ok (0, db)
      else if t.status ≠ .pending then .error p.statusError
      else match p.quota t with
      | .error e => .error e
      | .ok quota =>
          match faults.save with
          | some text => .error (.database text)
          | none =>
              match if p.readsUser then faults.readUser else none with
              | some text => .error (.database text)
              | none =>
                  match faults.update with
                  | some text => .error (.database text)
                  | none =>
                      let saved := { db with topUps := db.topUps.save (t.complete now) }
                      .ok (quota, saved.credit t.userId p.columns quota)

/-- The callbacks hide what went wrong. -/
def hideError {α : Type} (r : Except TopUpError α) : Except TopUpError α :=
  match r with
  | .ok a => .ok a
  | .error _ => .error .rechargeFailed

/-! ## The paths -/

variable (arith : FloatArith F) (quotaPerUnit : F)

/-- `QuotaFromDecimal(NewFromInt(Amount).Mul(NewFromFloat(QuotaPerUnit)))`, refused when it
is not positive. -/
def amountQuota (t : TopUp F) : Except TopUpError ℚ :=
  let quotaToAdd := quotaFromDecimal (t.amount * arith.decimal quotaPerUnit)
  if quotaToAdd ≤ 0 then .error .invalidQuota else .ok quotaToAdd

def recharge (customerId : String) (faults : TopUpFaults) (referenceId : String) (now : Int)
    (db : TopUpStore F) : Except TopUpError (ℚ × TopUpStore F) :=
  if referenceId = "" then .error .tradeNoMissing
  else hideError (Completion.run
    { accepts := fun provider => provider = .stripe
      idempotent := false
      statusError := .orderStatus
      quota := fun t => .ok (arith.value (arith.mul t.money quotaPerUnit))
      readsUser := false
      columns := fun user => { user with stripeCustomer := customerId } }
    faults referenceId now db)

def rechargeCreem (customerEmail : String) (faults : TopUpFaults) (referenceId : String)
    (now : Int) (db : TopUpStore F) : Except TopUpError (ℚ × TopUpStore F) :=
  if referenceId = "" then .error .tradeNoMissing
  else hideError (Completion.run
    { accepts := fun provider => provider = .creem
      idempotent := false
      statusError := .orderStatus
      quota := fun t => .ok t.amount
      readsUser := customerEmail ≠ ""
      columns := fun user =>
        if customerEmail ≠ "" ∧ user.email = "" then { user with email := customerEmail }
        else user }
    faults referenceId now db)

/-- `RechargeWaffo` and `RechargeWaffoPancake`, by their provider. -/
def rechargeByAmount (provider : PaymentProvider) (faults : TopUpFaults) (tradeNo : String)
    (now : Int) (db : TopUpStore F) : Except TopUpError (ℚ × TopUpStore F) :=
  if tradeNo = "" then .error .tradeNoMissing
  else hideError (Completion.run
    { accepts := fun provider' => provider' = provider
      idempotent := true
      statusError := .orderStatus
      quota := amountQuota arith quotaPerUnit
      readsUser := false
      columns := fun user => user }
    faults tradeNo now db)

def rechargeWaffo := rechargeByAmount arith quotaPerUnit .waffo

def rechargeWaffoPancake := rechargeByAmount arith quotaPerUnit .waffoPancake

/-- What the manual path credits. -/
def manualQuota (t : TopUp F) : Except TopUpError ℚ :=
  let quotaToAdd :=
    if t.paymentProvider = .stripe then
      quotaFromDecimal (arith.decimal t.money * arith.decimal quotaPerUnit)
    else quotaFromDecimal (t.amount * arith.decimal quotaPerUnit)
  if quotaToAdd ≤ 0 then .error .invalidQuota else .ok quotaToAdd

def manualCompleteTopUp (faults : TopUpFaults) (tradeNo : String) (now : Int)
    (db : TopUpStore F) : Except TopUpError (ℚ × TopUpStore F) :=
  if tradeNo = "" then .error .orderNoMissing
  else Completion.run
    { accepts := fun _ => true
      idempotent := true
      statusError := .notPending
      quota := manualQuota arith quotaPerUnit
      readsUser := false
      columns := fun user => user }
    faults tradeNo now db

/-- `settleEpayOrder`, for an order that `EpayNotify` has loaded.  A clamped credit is
refused, and the update of the order is guarded by its status. -/
def settleEpayOrder (faults : TopUpFaults) (topUp : TopUp F) (now : Int) (db : TopUpStore F) :
    Except TopUpError (ℚ × TopUpStore F) :=
  match quotaFromDecimalChecked (topUp.amount * arith.decimal quotaPerUnit) with
  | (_, some clamp) => .error (.quotaClamp clamp)
  | (quotaToAdd, none) =>
      if quotaToAdd ≤ 0 then .error (.invalidQuotaOf quotaToAdd)
      else match faults.save with
      | some text => .error (.database text)
      | none =>
          let due := fun t : TopUp F => decide (t.id = topUp.id ∧ t.status = .pending)
          if db.topUps.rows.any due = false then .ok (0, db)
          else match faults.update with
          | some text => .error (.database text)
          | none =>
              let topUps := db.topUps.updateWhere due
                (fun t => { t.complete now with paymentMethod := topUp.paymentMethod })
                (fun _ => rfl)
              let updated := { db with topUps := topUps }
              .ok (quotaToAdd, updated.credit topUp.userId (fun user => user) quotaToAdd)

end Model

/-! ## What a path credits -/

/-- A path completed the order `t` and credited its user with `quota`. -/
def Credits {F : Type} (r : Except TopUpError (ℚ × TopUpStore F)) (t : TopUp F)
    (db : TopUpStore F) (quota : ℚ) : Prop :=
  ∃ q db', r = .ok (q, db') ∧
    (∃ t', db'.topUps.find? t.id = some t' ∧ t'.status = .success) ∧
    (db'.users t.userId).quota = (db.users t.userId).quota + quota

section Credits
variable {F : Type} {arith : FloatArith F} {quotaPerUnit : F} {t : TopUp F} {db : TopUpStore F}
  {tradeNo : String} {now : Int} {faults : TopUpFaults} {quota : ℚ}

theorem credits_hideError {r : Except TopUpError (ℚ × TopUpStore F)} :
    Credits (hideError r) t db quota ↔ Credits r t db quota := by
  cases r with
  | ok x => rfl
  | error e =>
    constructor
    all_goals
      rintro ⟨q, db', h, -⟩
      cases h

/-- The order is the row of its id. -/
theorem find?_of_tradeNo (hfd : db.getTopUpByTradeNo tradeNo = some t) :
    db.topUps.find? t.id = some t :=
  db.topUps.find?_eq_some_iff.mpr ⟨List.mem_of_find?_eq_some hfd, rfl⟩

/-- When the shared transaction completes a pending order, and what it leaves. -/
theorem run_ok_iff (p : Completion F) (hfd : db.getTopUpByTradeNo tradeNo = some t)
    (hpen : t.status = .pending) {q : ℚ} {db' : TopUpStore F} :
    p.run faults tradeNo now db = .ok (q, db') ↔
      p.accepts t.paymentProvider = true ∧ p.quota t = .ok q ∧ faults.Runs ∧
      (p.readsUser = true → faults.readUser = none) ∧
      db' = ({ db with topUps := db.topUps.save (t.complete now) } : TopUpStore F).credit
        t.userId p.columns q := by
  rw [Completion.run, TopUpFaults.Runs, hfd]
  constructor
  · intro h
    split at h
    · cases h
    · rename_i hno
      cases hno
    rename_i hfound hrow
    cases hrow
    split at h
    · cases h
    rename_i hpro
    -- a pending order is neither skipped as complete nor refused for its status
    simp only [hpen, reduceCtorEq, and_false, if_false, ne_eq, not_true] at h
    split at h
    · cases h
    rename_i hquo
    split at h
    · cases h
    rename_i hsa
    split at h
    · cases h
    rename_i hre
    split at h
    · cases h
    rename_i hupd
    cases h
    refine ⟨by simpa using hpro, hquo, ⟨hfound, hsa, hupd⟩, fun hrds => ?_, rfl⟩
    rw [if_pos hrds] at hre
    exact hre
  · rintro ⟨hpro, hquo, ⟨hfound, hsa, hupd⟩, hre, rfl⟩
    have hnof : (if p.readsUser = true then faults.readUser else none) = none := by
      split
      · exact hre (by assumption)
      · rfl
    simp [hpro, hquo, hfound, hsa, hupd, hnof, hpen]

/-- **What the shared transaction credits for a pending order**: the quota of the path,
if the path is for the order's provider and its statements run. -/
theorem credits_run_iff (p : Completion F) (hfd : db.getTopUpByTradeNo tradeNo = some t)
    (hpen : t.status = .pending) : Credits (p.run faults tradeNo now db) t db quota ↔
      p.accepts t.paymentProvider = true ∧ p.quota t = .ok quota ∧ faults.Runs ∧
      (p.readsUser = true → faults.readUser = none) := by
  have hrow := find?_of_tradeNo hfd
  constructor
  · rintro ⟨q, db', hok, hcre⟩
    obtain ⟨hpro, hquo, hru, hre, rfl⟩ := (run_ok_iff p hfd hpen).mp hok
    have hq : q = quota := by
      simpa [TopUpStore.credit] using hcre.2
    exact ⟨hpro, hq ▸ hquo, hru, hre⟩
  · rintro ⟨hpro, hquo, hru, hre⟩
    refine ⟨quota, _, (run_ok_iff p hfd hpen).mpr ⟨hpro, hquo, hru, hre, rfl⟩,
      ⟨t.complete now, ?_, rfl⟩, by simp [TopUpStore.credit]⟩
    exact db.topUps.find?_save_self hrow

/-- A credit that the manual path accepts. -/
theorem positive_ok_iff {d : ℚ} :
    (if quotaFromDecimal d ≤ 0 then (.error .invalidQuota : Except TopUpError ℚ)
      else .ok (quotaFromDecimal d)) = .ok quota ↔ ∃ n : Int, quota = n ∧ RoundsToQuota d n := by
  constructor
  · intro h
    split at h
    · cases h
    cases h
    exact ⟨_, rfl, quotaFromDecimal_pos_iff.mp ⟨by omega, rfl⟩⟩
  · rintro ⟨n, rfl, hrou⟩
    obtain ⟨hpos, rfl⟩ := quotaFromDecimal_pos_iff.mpr hrou
    rw [if_neg (by omega)]

/-- **What the manual path credits for a pending order.** -/
theorem credits_manual_iff (hfd : db.getTopUpByTradeNo t.tradeNo = some t)
    (hpen : t.status = .pending) (htra : t.tradeNo ≠ "") :
    Credits (manualCompleteTopUp arith quotaPerUnit faults t.tradeNo now db) t db quota ↔
      faults.Runs ∧ manualQuota arith quotaPerUnit t = .ok quota := by
  rw [manualCompleteTopUp, if_neg htra, credits_run_iff _ hfd hpen]
  simp [and_comm]

/-- What Epay's path credits was not clamped. -/
theorem quota_of_credits_epay {paymentMethod : String}
    (hfd : db.getTopUpByTradeNo t.tradeNo = some t) (hpen : t.status = .pending)
    (h : Credits (settleEpayOrder arith quotaPerUnit faults
      { t with paymentMethod := paymentMethod } now db) t db quota) :
    ∃ n : Int, quota = n ∧ RoundsToQuota (t.amount * arith.decimal quotaPerUnit) n := by
  obtain ⟨q, db', hok, ⟨t', hrow, hdn⟩, hquo⟩ := h
  unfold settleEpayOrder at hok
  split at hok
  · cases hok
  rename_i n hche
  have hcon : quotaFromDecimal (t.amount * arith.decimal quotaPerUnit) = n :=
    congrArg Prod.fst hche
  split at hok
  · cases hok
  split at hok
  · cases hok
  simp only at hok
  split at hok
  · -- the order is not due any more, but it is
    cases hok
    rw [find?_of_tradeNo hfd] at hrow
    cases hrow
    rw [hpen] at hdn
    cases hdn
  split at hok
  · cases hok
  cases hok
  have hn : (n : ℚ) = quota := by
    simpa [TopUpStore.credit] using hquo
  exact ⟨n, hn.symm, quotaFromDecimal_pos_iff.mp ⟨by omega, hcon⟩⟩

end Credits

/-! ## The gateways and the manual path -/

/-- A gateway that completes orders. -/
inductive Gateway where
  | epay
  | stripe
  | creem
  | waffo
  | waffoPancake
  deriving DecidableEq, Repr

/-- Whose orders it completes. -/
def Gateway.provider : Gateway → PaymentProvider
  | .epay => .epay
  | .stripe => .stripe
  | .creem => .creem
  | .waffo => .waffo
  | .waffoPancake => .waffoPancake

/-- What a callback brings. -/
structure Callback where
  /-- `verifyInfo.Type` -/
  paymentMethod : String
  customerId : String
  customerEmail : String
  now : Int
  faults : TopUpFaults

namespace Gateway
variable {F : Type} (arith : FloatArith F) (quotaPerUnit : F)

/-- The gateway's own path. -/
def complete (callback : Callback) (t : TopUp F) (db : TopUpStore F) :
    Gateway → Except TopUpError (ℚ × TopUpStore F)
  | .epay => settleEpayOrder arith quotaPerUnit callback.faults
      { t with paymentMethod := callback.paymentMethod } callback.now db
  | .stripe => recharge arith quotaPerUnit callback.customerId callback.faults t.tradeNo
      callback.now db
  | .creem => rechargeCreem callback.customerEmail callback.faults t.tradeNo callback.now db
  | .waffo => rechargeWaffo arith quotaPerUnit callback.faults t.tradeNo callback.now db
  | .waffoPancake =>
      rechargeWaffoPancake arith quotaPerUnit callback.faults t.tradeNo callback.now db

/-- The orders for which both paths credit the same: all orders of a gateway that credits
by amount; a Creem order whose amount is not changed, up to rounding, by `QuotaPerUnit`;
a Stripe order whose product of floats is whole and what the product of decimals rounds
to. -/
def AgreesOn (t : TopUp F) : Gateway → Prop
  | .epay | .waffo | .waffoPancake => True
  | .creem => RoundsToQuota (t.amount * arith.decimal quotaPerUnit) t.amount
  | .stripe => ∃ n : Int, arith.value (arith.mul t.money quotaPerUnit) = n ∧
      RoundsToQuota (arith.decimal t.money * arith.decimal quotaPerUnit) n

variable {arith : FloatArith F} {quotaPerUnit : F} {t : TopUp F} {db : TopUpStore F}
  {callback : Callback} {quota : ℚ}

/-- What a gateway's own path credits. -/
theorem quota_of_credits (g : Gateway) (hfd : db.getTopUpByTradeNo t.tradeNo = some t)
    (hpen : t.status = .pending) (htra : t.tradeNo ≠ "")
    (h : Credits (g.complete arith quotaPerUnit callback t db) t db quota) : match g with
    | .creem => quota = t.amount
    | .stripe => quota = arith.value (arith.mul t.money quotaPerUnit)
    | _ => ∃ n : Int, quota = n ∧ RoundsToQuota (t.amount * arith.decimal quotaPerUnit) n := by
  cases g with
  | epay => exact quota_of_credits_epay hfd hpen h
  | stripe =>
    rw [complete, recharge, if_neg htra, credits_hideError, credits_run_iff _ hfd hpen] at h
    exact (Except.ok.inj h.2.1).symm
  | creem =>
    rw [complete, rechargeCreem, if_neg htra, credits_hideError, credits_run_iff _ hfd hpen] at h
    exact (Except.ok.inj h.2.1).symm
  | waffo =>
    rw [complete, rechargeWaffo, rechargeByAmount, if_neg htra, credits_hideError,
      credits_run_iff _ hfd hpen] at h
    exact positive_ok_iff.mp h.2.1
  | waffoPancake =>
    rw [complete, rechargeWaffoPancake, rechargeByAmount, if_neg htra, credits_hideError,
      credits_run_iff _ hfd hpen] at h
    exact positive_ok_iff.mp h.2.1

/-- **When the manual path agrees with a gateway's own path.**  If the gateway's path
credits a pending order with `quota`, the manual path on the same order in the same state
credits `quota` exactly when its statements run and the order is one the two agree on. -/
theorem manual_credits_iff (g : Gateway) (hfind : db.getTopUpByTradeNo t.tradeNo = some t)
    (hpending : t.status = .pending) (hprovider : t.paymentProvider = g.provider)
    (htrade : t.tradeNo ≠ "")
    (hown : Credits (g.complete arith quotaPerUnit callback t db) t db quota)
    (faults : TopUpFaults) (now : Int) :
    Credits (manualCompleteTopUp arith quotaPerUnit faults t.tradeNo now db) t db quota ↔
      faults.Runs ∧ g.AgreesOn arith quotaPerUnit t := by
  -- both credits are known; the manual one is positive or refused
  have hquo := quota_of_credits g hfind hpending htrade hown
  rw [credits_manual_iff hfind hpending htrade]
  refine and_congr_right fun _ => ?_
  rw [manualQuota, hprovider]
  cases g with
  | stripe =>
    simp only [provider, if_true]
    rw [positive_ok_iff, hquo]
    rfl
  | creem =>
    simp only [provider, reduceCtorEq, if_false]
    rw [positive_ok_iff, hquo]
    constructor
    · rintro ⟨n, hn, hrou⟩
      rw [Int.cast_inj] at hn
      rw [← hn] at hrou
      exact hrou
    · intro hrou
      exact ⟨_, rfl, hrou⟩
  | epay | waffo | waffoPancake => exact iff_of_true (positive_ok_iff.mpr hquo) trivial

/-! ### Two orders -/

/-- Whole numbers, on which `float64` is exact as long as the products are below `2^53`. -/
def wholeArith : FloatArith ℚ := ⟨fun x y => x * y, id, id⟩

/-- A pending Waffo order of user 7 over three units. -/
def waffoOrder : TopUp ℚ := ⟨1, 7, 3, 6, "T1", "card", .waffo, 0, .pending⟩

/-- A pending Creem order of user 7 for a thousand quota. -/
def creemOrder : TopUp ℚ := ⟨1, 7, 1000, 6, "T1", "card", .creem, 0, .pending⟩

/-- The tables with one order in them. -/
def orderStore (t : TopUp ℚ) : TopUpStore ℚ :=
  ⟨⟨[t], List.nodup_singleton _⟩, fun _ => ⟨0, "", ""⟩⟩

theorem find_orderStore (t : TopUp ℚ) : (orderStore t).getTopUpByTradeNo t.tradeNo = some t := by
  simp [TopUpStore.getTopUpByTradeNo, orderStore]

/-- A callback all of whose statements run. -/
def sampleCallback : Callback := ⟨"card", "cus", "", 100, {}⟩

/-- The Waffo order is credited with 1500000 on both paths. -/
theorem manual_credits_waffo :
    Credits (waffo.complete wholeArith 500000 sampleCallback waffoOrder (orderStore waffoOrder))
      waffoOrder (orderStore waffoOrder) 1500000 ∧
    Credits (manualCompleteTopUp wholeArith 500000 {} "T1" 200 (orderStore waffoOrder))
      waffoOrder (orderStore waffoOrder) 1500000 := by
  have hrou : RoundsToQuota (3 * 500000) 1500000 := by norm_num [RoundsToQuota, maxQuota]
  refine ⟨?own, (manual_credits_iff waffo (find_orderStore waffoOrder) rfl rfl (by decide) ?own {}
    200).mpr ⟨⟨rfl, rfl, rfl⟩, trivial⟩⟩
  rw [complete, rechargeWaffo, rechargeByAmount, if_neg (by decide), credits_hideError,
    credits_run_iff _ (find_orderStore waffoOrder) rfl]
  refine ⟨rfl, ?_, ⟨rfl, rfl, rfl⟩, fun _ => rfl⟩
  exact positive_ok_iff.mpr ⟨1500000, by norm_num, hrou⟩

/-- **A Creem order is credited per unit by hand.**  Creem's own path credits the 1000 that
the order stores; the manual path multiplies them by `QuotaPerUnit`. -/
theorem creem_credited_per_unit :
    Credits (creem.complete wholeArith 500000 sampleCallback creemOrder (orderStore creemOrder))
      creemOrder (orderStore creemOrder) 1000 ∧
    Credits (manualCompleteTopUp wholeArith 500000 {} "T1" 200 (orderStore creemOrder))
      creemOrder (orderStore creemOrder) 500000000 ∧
    ¬ Credits (manualCompleteTopUp wholeArith 500000 {} "T1" 200 (orderStore creemOrder))
      creemOrder (orderStore creemOrder) 1000 := by
  have hman : ∀ quota, Credits
      (manualCompleteTopUp wholeArith 500000 {} "T1" 200 (orderStore creemOrder))
      creemOrder (orderStore creemOrder) quota ↔
        TopUpFaults.Runs {} ∧ ∃ n : Int, quota = n ∧ RoundsToQuota (1000 * 500000) n := by
    intro quota
    rw [← positive_ok_iff]
    exact credits_manual_iff (find_orderStore creemOrder) rfl (by decide)
  have hrou : RoundsToQuota (1000 * 500000) 500000000 := by norm_num [RoundsToQuota, maxQuota]
  refine ⟨?_, ?_, fun h => ?_⟩
  · rw [complete, rechargeCreem, if_neg (by decide), credits_hideError,
      credits_run_iff _ (find_orderStore creemOrder) rfl]
    refine ⟨rfl, congrArg Except.ok ?_, ⟨rfl, rfl, rfl⟩, fun _ => rfl⟩
    norm_num [creemOrder]
  · exact (hman _).mpr ⟨⟨rfl, rfl, rfl⟩, 500000000, by norm_num, hrou⟩
  · obtain ⟨-, n, hn, -, -, -, hupp⟩ := (hman _).mp h
    have hsma : n = 1000 := by exact_mod_cast hn.symm
    subst hsma
    norm_num [maxQuota] at hupp

end Gateway

end NewApi
