import NewApi.Steps
import NewApi.SubscriptionGroups
import NewApi.TopUps

/-! # Orders for subscriptions

A subscription is bought in three ways: a payment gateway reports that an order was paid
(`CompleteSubscriptionOrder`, as often as the gateway likes), an administrator grants one
(`AdminBindSubscription`), or the user pays from the balance (`PurchaseSubscriptionWithBalance`).
An order that is not paid expires (`ExpireSubscriptionOrder`).

Each of these is a transaction, and transactions run side by side.  A statement sees what others
have committed; what a transaction writes is seen when it commits.  Where the code says
`lockForUpdate`, the row stays locked until the transaction ends, and another transaction that wants
to lock it waits: completing and expiring lock the order, a purchase from the balance locks the
user, and granting locks nothing.  Since writes are not seen before the commit, a write is modelled
together with the read before it; every read is a step of its own. -/
namespace NewApi
open Db

/-! ## Tables -/

/-- `SubscriptionOrder`, known by its trade number. -/
structure SubscriptionOrder (F : Type) where
  tradeNo : String
  userId : Int
  planId : Int
  money : F
  paymentMethod : String
  paymentProvider : PaymentProvider
  status : TopUpStatus
  createTime : Int
  completeTime : Int
  providerPayload : String

/-- The columns of `top_ups` that an order writes. -/
structure OrderTopUp (F : Type) where
  tradeNo : String
  userId : Int
  amount : Int
  money : F
  paymentMethod : String
  createTime : Int
  completeTime : Int
  status : TopUpStatus

/-- The columns of `users` that a purchase uses. -/
structure Buyer where
  quota : Int
  group : String
deriving DecidableEq, Repr

/-- A row of `subscription_plans` with the columns that only a purchase from the balance reads. -/
structure PlanRow (F : Type) where
  plan : SubscriptionPlan
  enabled : Bool
  priceAmount : F
  allowBalancePay : Option Bool

def PlanRow.id {F : Type} (row : PlanRow F) : Int := row.plan.id

/-- The tables as they are committed. -/
structure OrderDb (F : Type) where
  subscriptions : Table UserSubscription.id
  orders : Table (SubscriptionOrder.tradeNo (F := F))
  topUps : Table (OrderTopUp.tradeNo (F := F))
  users : Int → Option Buyer

/-- What the functions read that does not change. -/
structure OrderSetting (F : Type) where
  arith : FloatArith F
  isFinite : F → Bool
  /-- `common.QuotaPerUnit`. -/
  quotaPerUnit : F
  calendar : Calendar
  plans : Table (PlanRow.id (F := F))

/-- The errors of the four functions. -/
inductive OrderError where
  /-- `ErrSubscriptionOrderNotFound` -/
  | orderNotFound
  /-- `ErrPaymentMethodMismatch` -/
  | paymentMethodMismatch
  /-- `ErrSubscriptionOrderStatusInvalid` -/
  | orderStatusInvalid
  /-- `invalid plan id` -/
  | invalidPlanId
  | recordNotFound
  /-- `套餐未启用` -/
  | planDisabled
  /-- `套餐价格不能为负数` -/
  | negativePrice
  /-- `该套餐不允许使用余额兑换` -/
  | balancePayRefused
  /-- `subscription price is not finite` -/
  | priceNotFinite
  /-- `额度单位配置错误` -/
  | quotaUnit
  /-- `subscription price quota is out of range: %w` -/
  | priceOutOfRange (clamp : QuotaClamp)
  /-- `余额不足` -/
  | insufficientBalance
  | purchase (e : PurchaseError)
deriving DecidableEq

section Functions
variable {F : Type} (setting : OrderSetting F)

/-- `GetSubscriptionPlanById`, and `getSubscriptionPlanByIdTx`. -/
def OrderSetting.getSubscriptionPlanById (id : Int) : Except OrderError (PlanRow F) :=
  if id ≤ 0 then .error .invalidPlanId
  else match setting.plans.find? id with
  | none => .error .recordNotFound
  | some row => .ok row

def OrderSetting.calcSubscriptionBalanceQuota (priceAmount : F) : Except OrderError Int :=
  if setting.isFinite priceAmount = false then .error .priceNotFinite
  else if setting.arith.value priceAmount ≤ 0 then .ok 0
  else if setting.arith.value setting.quotaPerUnit ≤ 0 then .error .quotaUnit
  else
    let quota := ⌈setting.arith.decimal priceAmount * setting.arith.decimal setting.quotaPerUnit⌉
    match quotaFromDecimalChecked (quota : ℚ) with
    | (_, some clamp) => .error (.priceOutOfRange clamp)
    | (converted, none) => .ok converted

/-- How a row gets into a table. -/
inductive RowWrite (α : Type) where
  | create (row : α)
  | save (row : α)

/-- The write at commit; a key that has been taken in the meantime fails it. -/
def RowWrite.apply {κ α : Type} [DecidableEq κ] {key : α → κ} (table : Table key) :
    RowWrite α → Option (Table key)
  | .create row => table.create row
  | .save row => some (table.save row)

/-- `upsertSubscriptionTopUpTx`, for the row that is there. -/
def upsertSubscriptionTopUpTx (now : Int) (order : SubscriptionOrder F) :
    Option (OrderTopUp F) → Except OrderError (RowWrite (OrderTopUp F))
  | none =>
      .ok (.create
        { tradeNo := order.tradeNo, userId := order.userId, amount := 0, money := order.money
          paymentMethod := order.paymentMethod, createTime := order.createTime
          completeTime := now, status := .success })
  | some topUp =>
      if topUp.paymentMethod ≠ "" ∧ topUp.paymentMethod ≠ order.paymentMethod then
        .error .paymentMethodMismatch
      else
        .ok (.save { topUp with
          money := order.money
          paymentMethod :=
            if topUp.paymentMethod = "" then order.paymentMethod else topUp.paymentMethod
          createTime := if topUp.createTime = 0 then order.createTime else topUp.createTime
          completeTime := now
          status := .success })

/-! ## Transactions -/

/-- A call.  No expected provider is the empty text. -/
inductive OrderCall where
  | completeSubscriptionOrder (tradeNo providerPayload : String)
      (expectedPaymentProvider : Option PaymentProvider) (actualPaymentMethod : String)
  | expireSubscriptionOrder (tradeNo : String) (expectedPaymentProvider : Option PaymentProvider)
  | adminBindSubscription (userId planId : Int)
  | purchaseSubscriptionWithBalance (userId planId : Int)
deriving DecidableEq, Repr

/-- The checks before the transaction. -/
def OrderCall.valid : OrderCall → Bool
  | completeSubscriptionOrder tradeNo .. | expireSubscriptionOrder tradeNo _ => tradeNo ≠ ""
  | adminBindSubscription userId planId | purchaseSubscriptionWithBalance userId planId =>
      0 < userId && 0 < planId

/-- Where `CreateUserSubscriptionFromPlanTx` is: before its count, after it, or done, with the row
it inserts and the group it gives the user. -/
inductive CreationAt where
  | begun (userId : Int) (plan : SubscriptionPlan)
  | counted (userId : Int) (plan : SubscriptionPlan)
  | inserted (sub : UserSubscription) (group : Option String)
deriving DecidableEq, Repr

/-- An order that can be completed or expired. -/
abbrev PendingOrder (F : Type) := { order : SubscriptionOrder F // order.status = .pending }

/-- **An open transaction**, by what it has read and written so far. -/
inductive OrderTx (F : Type) where
  | begun (call : OrderCall)
  /-- `CompleteSubscriptionOrder` with its order, which is locked. -/
  | completes (order : PendingOrder F) (payload method : String) (creation : CreationAt)
  /-- It has written everything. -/
  | completed (order : PendingOrder F) (payload method : String) (now : Int)
      (sub : UserSubscription) (group : Option String) (topUp : RowWrite (OrderTopUp F))
  /-- `ExpireSubscriptionOrder` with its order, which is locked. -/
  | expires (order : PendingOrder F) (now : Int)
  /-- `AdminBindSubscription`. -/
  | binds (creation : CreationAt)
  /-- `PurchaseSubscriptionWithBalance`; the row of the user is locked. -/
  | buys (userId quota : Int) (price : F) (creation : CreationAt)
  /-- It has written everything. -/
  | bought (userId quota : Int) (sub : UserSubscription) (group : Option String)
      (order : SubscriptionOrder F)

/-- What a statement reads besides the tables: the clocks, the next id, and the random trade
number. -/
structure StatementEnv where
  now : Int
  subscriptionId : Int
  tradeNo : String
deriving DecidableEq, Repr

/-- What comes of a statement: the transaction goes on, or it ends without having changed
anything. -/
inductive TxResult (F : Type) where
  | next (tx : OrderTx F)
  | done (result : Except OrderError Unit)

/-- How many subscriptions of a plan a user has. -/
def OrderDb.countSubscriptions (db : OrderDb F) (userId planId : Int) : Nat :=
  db.subscriptions.rows.countP fun sub => sub.userId = userId && sub.planId = planId

/-- The next statements of `CreateUserSubscriptionFromPlanTx`. -/
def CreationAt.next (env : StatementEnv) (db : OrderDb F) :
    CreationAt → Except PurchaseError CreationAt
  | .begun userId plan =>
      if plan.id = 0 then .error .invalidPlan
      else if userId ≤ 0 then .error .invalidUserId
      else if 0 < plan.maxPurchasePerUser ∧
          plan.maxPurchasePerUser ≤ db.countSubscriptions userId plan.id then
        .error .purchaseLimit
      else .ok (.counted userId plan)
  | .counted userId plan =>
      match calcPlanEndTime setting.calendar env.now plan with
      | .error e => .error e
      | .ok endUnix =>
          let upgradeGroup := trimSpace plan.upgradeGroup
          let group := ((db.users userId).map Buyer.group).getD ""
          .ok (.inserted
            (purchasedRow ⟨env.now, setting.calendar, none⟩ userId plan endUnix env.subscriptionId
              group)
            (if upgradeGroup ≠ "" ∧ group ≠ upgradeGroup then some upgradeGroup else none))
  | .inserted sub group => .ok (.inserted sub group)

/-- The expected provider, if there is one, is not that of the order. -/
def SubscriptionOrder.mismatches (order : SubscriptionOrder F) (expected : Option PaymentProvider) :
    Bool :=
  expected.any (· ≠ order.paymentProvider)

/-- The next statements of a transaction that has not written everything. -/
def OrderTx.next (env : StatementEnv) (db : OrderDb F) : OrderTx F → Option (TxResult F)
  | .begun (.completeSubscriptionOrder tradeNo payload expected method) => some <|
      match db.orders.find? tradeNo with
      | none => .done (.error .orderNotFound)
      | some order =>
          if order.mismatches expected then .done (.error .paymentMethodMismatch)
          else if order.status = .success then .done (.ok ())
          else if h : order.status = .pending then
            match setting.getSubscriptionPlanById order.planId with
            | .error e => .done (.error e)
            | .ok row =>
                .next (.completes ⟨order, h⟩ payload method (.begun order.userId row.plan))
          else .done (.error .orderStatusInvalid)
  | .begun (.expireSubscriptionOrder tradeNo expected) => some <|
      match db.orders.find? tradeNo with
      | none => .done (.error .orderNotFound)
      | some order =>
          if order.mismatches expected then .done (.error .paymentMethodMismatch)
          else if h : order.status = .pending then .next (.expires ⟨order, h⟩ env.now)
          else .done (.ok ())
  | .begun (.adminBindSubscription userId planId) => some <|
      match setting.getSubscriptionPlanById planId with
      | .error e => .done (.error e)
      | .ok row => .next (.binds (.begun userId row.plan))
  | .begun (.purchaseSubscriptionWithBalance userId planId) => some <|
      match setting.getSubscriptionPlanById planId with
      | .error e => .done (.error e)
      | .ok row =>
          if row.enabled = false then .done (.error .planDisabled)
          else if setting.arith.value row.priceAmount < 0 then .done (.error .negativePrice)
          else if row.allowBalancePay = some false then .done (.error .balancePayRefused)
          else match setting.calcSubscriptionBalanceQuota row.priceAmount with
          | .error e => .done (.error e)
          | .ok requiredQuota =>
              match db.users userId with
              | none => .done (.error .recordNotFound)
              | some user =>
                  if 0 < requiredQuota ∧ user.quota < requiredQuota then
                    .done (.error .insufficientBalance)
                  else
                    .next (.buys userId requiredQuota row.priceAmount (.begun userId row.plan))
  | .completes order payload method (.inserted sub group) => some <|
      match upsertSubscriptionTopUpTx env.now order.val (db.topUps.find? order.val.tradeNo) with
      | .error e => .done (.error e)
      | .ok topUp => .next (.completed order payload method env.now sub group topUp)
  | .completes order payload method creation => some <|
      match creation.next setting env db with
      | .error e => .done (.error (.purchase e))
      | .ok creation => .next (.completes order payload method creation)
  | .binds (.inserted _ _) => none
  | .binds creation => some <|
      match creation.next setting env db with
      | .error e => .done (.error (.purchase e))
      | .ok creation => .next (.binds creation)
  | .buys userId quota price (.inserted sub group) => some <| .next <|
      .bought userId quota sub group
        { tradeNo := "SUBBALUSR" ++ toString userId ++ "NO" ++ env.tradeNo
          userId := userId
          planId := sub.planId
          money := price
          paymentMethod := "balance"
          paymentProvider := .balance
          status := .success
          createTime := env.now
          completeTime := env.now
          providerPayload := "charged_quota=" ++ toString quota }
  | .buys userId quota price creation => some <|
      match creation.next setting env db with
      | .error e => .done (.error (.purchase e))
      | .ok creation => .next (.buys userId quota price creation)
  | .completed .. | .expires .. | .bought .. => none

/-- The row that `CompleteSubscriptionOrder` saves. -/
def SubscriptionOrder.complete (payload method : String) (now : Int)
    (order : SubscriptionOrder F) : SubscriptionOrder F :=
  { order with
    status := .success
    completeTime := now
    providerPayload := if payload ≠ "" then payload else order.providerPayload
    paymentMethod := if method ≠ "" then method else order.paymentMethod }

/-- The row that `ExpireSubscriptionOrder` saves. -/
def SubscriptionOrder.expire (now : Int) (order : SubscriptionOrder F) : SubscriptionOrder F :=
  { order with status := .expired, completeTime := now }

/-- The user gets a group, if there is one to give, and pays. -/
def OrderDb.updateUser (userId quota : Int) (group : Option String) (db : OrderDb F) :
    Int → Option Buyer :=
  Function.update db.users userId ((db.users userId).map fun user =>
    { quota := user.quota - quota, group := group.getD user.group })

/-- The commit of a transaction that has written everything. -/
def OrderTx.commit (db : OrderDb F) : OrderTx F → Option (OrderDb F)
  | .completed order payload method now sub group topUp =>
      match db.subscriptions.create sub, topUp.apply db.topUps with
      | some subscriptions, some topUps =>
          some { users := db.updateUser sub.userId 0 group
                 subscriptions := subscriptions
                 topUps := topUps
                 orders := db.orders.save (order.val.complete payload method now) }
      | _, _ => none
  | .expires order now => some { db with orders := db.orders.save (order.val.expire now) }
  | .binds (.inserted sub group) =>
      match db.subscriptions.create sub with
      | some subscriptions =>
          some { db with
                 users := db.updateUser sub.userId 0 group
                 subscriptions := subscriptions }
      | none => none
  | .bought userId quota sub group order =>
      match db.subscriptions.create sub, db.orders.create order with
      | some subscriptions, some orders =>
          some { db with
                 users := db.updateUser userId quota group
                 subscriptions := subscriptions
                 orders := orders }
      | _, _ => none
  | _ => none

/-! ## Transactions side by side -/

/-- An open transaction and its number. -/
structure OpenTx (F : Type) where
  number : Nat
  tx : OrderTx F

/-- The committed tables, the open transactions, and the transactions that have committed. -/
structure OrderSystem (F : Type) where
  db : OrderDb F
  txs : Table (OpenTx.number (F := F)) := Table.empty
  commits : List (OrderTx F) := []

/-- The order whose row a transaction has locked, as it read it. -/
def OrderTx.order? : OrderTx F → Option (PendingOrder F)
  | .completes order .. | .completed order .. | .expires order _ => some order
  | _ => none

/-- The user whose row a transaction has locked. -/
def OrderTx.user? : OrderTx F → Option Int
  | .buys userId .. | .bought userId .. => some userId
  | _ => none

/-- The trade number of the order that a transaction locks next. -/
def OrderTx.wantsOrder? : OrderTx F → Option String
  | .begun (.completeSubscriptionOrder tradeNo ..) | .begun (.expireSubscriptionOrder tradeNo _) =>
      some tradeNo
  | _ => none

/-- The user whose row a transaction locks next. -/
def OrderTx.wantsUser? : OrderTx F → Option Int
  | .begun (.purchaseSubscriptionWithBalance userId _) => some userId
  | _ => none

namespace OrderSystem

/-- The transaction with a number. -/
def tx? (s : OrderSystem F) (n : Nat) : Option (OrderTx F) := (s.txs.find? n).map OpenTx.tx

/-- The transaction goes on. -/
def set (n : Nat) (tx : OrderTx F) (s : OrderSystem F) : OrderSystem F :=
  { s with txs := s.txs.put ⟨n, tx⟩ }

/-- The transaction ends, and its locks are gone. -/
def close (n : Nat) (s : OrderSystem F) : OrderSystem F :=
  { s with txs := s.txs.deleteWhere fun open' => open'.number = n }

/-- A transaction waits for a row that another one has locked. -/
def waits (s : OrderSystem F) (tx : OrderTx F) : Bool :=
  s.txs.rows.any fun other =>
    (other.tx.order?.any fun order => tx.wantsOrder? = some order.val.tradeNo) ||
      (other.tx.user?.any fun userId => tx.wantsUser? = some userId)

end OrderSystem

/-- What may happen. -/
inductive OrderEvent where
  | begins (number : Nat) (call : OrderCall)
  | runs (number : Nat) (env : StatementEnv)
  | commits (number : Nat)
  /-- A statement or the commit returns an error, or the process dies. -/
  | fails (number : Nat)
deriving DecidableEq, Repr

/-- One event, if it is possible. -/
def OrderSystem.apply (s : OrderSystem F) : OrderEvent → Option (OrderSystem F)
  | .begins n call =>
      match s.tx? n with
      | some _ => none
      | none => some (if call.valid then s.set n (.begun call) else s)
  | .runs n env =>
      match s.tx? n with
      | none => none
      | some tx =>
          if s.waits tx then none
          else match tx.next setting env s.db with
          | none => none
          | some (.next tx) => some (s.set n tx)
          | some (.done _) => some (s.close n)
  | .commits n =>
      match s.tx? n with
      | none => none
      | some tx =>
          match tx.commit s.db with
          | none => none
          | some db => some { s.close n with db := db, commits := s.commits ++ [tx] }
  | .fails n => some (s.close n)

/-- The steps of the system. -/
def OrderSystem.Step (s : OrderSystem F) (e : OrderEvent) (s' : OrderSystem F) : Prop :=
  s.apply setting e = some s'

/-- Runs of the system, under any interleaving. -/
abbrev OrderSystem.Runs := Steps.Run (OrderSystem.Step setting)

end Functions

end NewApi
