import NewApi.Subscriptions

/-! # The billing session of one request

A `BillingSession` takes the estimate of a request from its token and from one
funding source, the wallet or a subscription, before the request is relayed
(`preConsume`); it may take more while the request runs (`reserve`); and it ends
with `settle`, which moves both to the actual amount, or with `refund`, which
gives everything back.  `newBillingSession` chooses the funding source by the
user's billing preference and falls back from one to the other.

Every statement a session sends to the database may fail on its own: the
`Faults` of a call say which do.  An error of the code's is a `NewAPIError`; its
`cause` stands for the text, with the values that are printed in it. -/
namespace NewApi

open Account

/-- The codes of `types.ErrorCode` that billing uses. -/
inductive ErrorCode where
  | invalidRequest
  | insufficientUserQuota
  | preConsumeTokenQuotaFailed
  | updateDataError
  | queryDataError
  | modelPriceError
  deriving DecidableEq, Repr

/-- The error a `NewAPIError` wraps. -/
inductive Cause where
  /-- The error of the `model` package itself. -/
  | store (e : StoreError)
  /-- `订阅额度不足或未配置订阅: %s` -/
  | subscriptionQuota (e : StoreError)
  /-- `用户额度不足, 剩余额度: %s` -/
  | userQuotaExhausted (remain : Int)
  /-- `预扣费额度失败, 用户剩余额度: %s, 需要预扣费额度: %s` -/
  | userQuotaShort (remain need : Int)
  /-- `token quota is not enough, token remain quota: %s, need quota: %s`; the token
  cache is taken to hold what the row does. -/
  | tokenQuotaShort (remain need : Int)
  /-- `pre-consume quota cannot be negative: %d` -/
  | negativePreConsume (quota : Int)
  /-- The quota estimate was saturated (`relayInfo.QuotaClamp`). -/
  | quotaClamp
  deriving DecidableEq, Repr

/-- `types.NewAPIError`. -/
structure NewAPIError where
  errorCode : ErrorCode
  statusCode : Nat
  cause : Cause
  deriving DecidableEq, Repr

/-- `BillingSourceWallet`, `BillingSourceSubscription`. -/
inductive BillingSource where
  | wallet
  | subscription
  deriving DecidableEq, Repr

/-- The fields of `RelayInfo` that billing reads and writes. -/
structure RelayInfo where
  userId : Int
  tokenId : Int
  requestId : String
  billingPreference : String
  isPlayground : Bool
  tokenUnlimited : Bool
  forcePreConsume : Bool
  userQuota : Int
  finalPreConsumedQuota : Int
  billingSource : Option BillingSource
  subscriptionId : Int
  subscriptionPreConsumed : Int
  subscriptionPostDelta : Int
  subscriptionAmountTotal : Int
  subscriptionAmountUsedAfterPreConsume : Int
  deriving DecidableEq, Repr

structure WalletFunding where
  userId : Int
  consumed : Int
  deriving DecidableEq, Repr

structure SubscriptionFunding where
  requestId : String
  userId : Int
  amount : Int
  subscriptionId : Int
  preConsumed : Int
  amountTotal : Int
  amountUsedAfter : Int
  deriving DecidableEq, Repr

/-- `FundingSource` and its two implementations. -/
inductive FundingSource where
  | wallet (w : WalletFunding)
  | subscription (f : SubscriptionFunding)
  deriving DecidableEq, Repr

/-- `Source()`. -/
def FundingSource.source : FundingSource → BillingSource
  | .wallet _ => .wallet
  | .subscription _ => .subscription

structure BillingSession where
  relayInfo : RelayInfo
  funding : FundingSource
  preConsumedQuota : Int
  tokenConsumed : Int
  extraReserved : Int
  trusted : Bool
  trustedQuota : Int
  fundingSettled : Bool
  settled : Bool
  refunded : Bool
  deriving DecidableEq, Repr

/-! ## The statements of a session -/

namespace Store

/-- A statement on one user's balance. -/
def onUser (db : Store) (id : Int) (op : Account → Except StoreError Account) :
    Except StoreError Store :=
  match op (db.users id) with
  | .error e => .error e
  | .ok a => .ok { db with users := Function.update db.users id a }

/-- A statement on one token's balance. -/
def onToken (db : Store) (id : Int) (op : Account → Except StoreError Account) :
    Except StoreError Store :=
  match op (db.tokens id) with
  | .error e => .error e
  | .ok a => .ok { db with tokens := Function.update db.tokens id a }

/-- `model.PreConsumeUserQuota`. -/
def preConsumeUserQuota (fault : Fault) (id quota : Int) (db : Store) : Except StoreError Store :=
  db.onUser id (Account.preConsumeUserQuota fault quota)

/-- `model.IncreaseUserQuota`, with `db = false`. -/
def increaseUserQuota (fault : Fault) (id quota : Int) (db : Store) : Except StoreError Store :=
  db.onUser id (increase db.batchUpdateEnabled fault quota)

/-- `model.DecreaseUserQuota`, with `db = false`. -/
def decreaseUserQuota (fault : Fault) (id quota : Int) (db : Store) : Except StoreError Store :=
  db.onUser id (decrease db.batchUpdateEnabled fault quota)

/-- `model.PreConsumeTokenQuota`. -/
def preConsumeTokenQuota (fault : Fault) (id quota : Int) (db : Store) : Except StoreError Store :=
  db.onToken id (Account.preConsumeTokenQuota fault quota)

/-- `model.IncreaseTokenQuota`. -/
def increaseTokenQuota (fault : Fault) (id quota : Int) (db : Store) : Except StoreError Store :=
  db.onToken id (increase db.batchUpdateEnabled fault quota)

/-- `model.DecreaseTokenQuota`. -/
def decreaseTokenQuota (fault : Fault) (id quota : Int) (db : Store) : Except StoreError Store :=
  db.onToken id (decrease db.batchUpdateEnabled fault quota)

/-- `model.HasActiveUserSubscription`. -/
def hasActiveUserSubscription (fault : Fault) (userId now : Int) (db : Store) :
    Except StoreError Bool :=
  if userId ≤ 0 then .error .invalidUserId
  else match fault with
  | some text => .error (.database text)
  | none => .ok (db.subscriptions.rows.any fun sub => sub.activeFor userId now)

/-- `model.UserActiveSubscriptionsAllowWalletOverflow`. -/
def userActiveSubscriptionsAllowWalletOverflow (fault : Fault) (userId now : Int) (db : Store) :
    Except StoreError Bool :=
  if userId ≤ 0 then .error .invalidUserId
  else match fault with
  | some text => .error (.database text)
  | none => .ok (!db.subscriptions.rows.any fun sub =>
      sub.activeFor userId now && !sub.allowWalletOverflow)

end Store

/-- `PreConsumeTokenQuota` of the `service` package. -/
def preConsumeTokenQuota (fault : Fault) (info : RelayInfo) (quota : Int) (db : Store) :
    Except Cause Store :=
  if quota < 0 then .error (.store .negativeQuota)
  else if info.isPlayground then .ok db
  else if info.tokenUnlimited then
    match db.decreaseTokenQuota fault info.tokenId quota with
    | .error e => .error (.store e)
    | .ok db => .ok db
  else match db.preConsumeTokenQuota fault info.tokenId quota with
  | .ok db => .ok db
  | .error .insufficientTokenQuota =>
      .error (.tokenQuotaShort (db.tokens info.tokenId).stored quota)
  | .error e => .error (.store e)

/-- What creating a session reads from outside the tables.  Each source is tried
at most once, so the faults of an attempt are indexed by it. -/
structure BillingEnv where
  /-- `common.GetTrustQuota()`. -/
  trustQuota : Int
  /-- `c.GetInt("token_quota")`. -/
  tokenQuota : Int
  /-- `model.GetUserQuota(userId, false)`: the cached balance, or the stored one. -/
  getUserQuota : Except StoreError Int
  /-- What `PreConsumeUserSubscription` reads. -/
  subscription : SubscriptionEnv
  walletFault : Fault
  tokenFault : BillingSource → Fault
  /-- Of the token update that undoes a reservation. -/
  rollbackFault : BillingSource → Fault
  /-- Clock and fault of `HasActiveUserSubscription`. -/
  hasActiveNow : Int
  hasActiveFault : Fault
  /-- Clock and fault of `UserActiveSubscriptionsAllowWalletOverflow`. -/
  overflowNow : Int
  overflowFault : Fault

namespace FundingSource

/-- `PreConsume`.  A subscription ignores the argument and takes its own
`amount`. -/
def preConsume (env : BillingEnv) (amount : Int) (db : Store) :
    FundingSource → Except StoreError (FundingSource × Store)
  | .wallet w =>
      if amount ≤ 0 then .ok (.wallet w, db)
      else match db.preConsumeUserQuota env.walletFault w.userId amount with
      | .error e => .error e
      | .ok db => .ok (.wallet { w with consumed := amount }, db)
  | .subscription f =>
      match preConsumeUserSubscription env.subscription f.requestId f.userId f.amount db with
      | .error e => .error e
      | .ok tx => .ok (.subscription { f with
          subscriptionId := tx.value.userSubscriptionId
          preConsumed := tx.value.preConsumed
          amountTotal := tx.value.amountTotal
          amountUsedAfter := tx.value.amountUsedAfter }, tx.store)

def settle (fault : Fault) (delta : Int) (db : Store) : FundingSource → Except StoreError Store
  | .wallet w =>
      if delta = 0 then .ok db
      else if 0 < delta then db.decreaseUserQuota fault w.userId delta
      else db.increaseUserQuota fault w.userId (-delta)
  | .subscription f =>
      if delta = 0 then .ok db
      else postConsumeUserSubscriptionDelta fault f.subscriptionId delta db

/-- `refundWithRetry`: `fn` runs until an attempt succeeds, three times at most. -/
def refundWithRetry (faults : Fin 3 → Fault) (fn : Fault → Except StoreError Store) :
    Except StoreError Store :=
  match fn (faults 0) with
  | .ok db => .ok db
  | .error _ =>
    match fn (faults 1) with
    | .ok db => .ok db
    | .error _ => fn (faults 2)

/-- `Refund`.  The wallet is not retried: its update is not idempotent. -/
def refund (faults : Fin 3 → Fault) (db : Store) : FundingSource → Except StoreError Store
  | .wallet w =>
      if w.consumed ≤ 0 then .ok db else db.increaseUserQuota (faults 0) w.userId w.consumed
  | .subscription f =>
      if f.preConsumed ≤ 0 then .ok db
      else refundWithRetry faults fun fault => refundSubscriptionPreConsume fault f.requestId db

end FundingSource

namespace BillingSession

def syncRelayInfo (s : BillingSession) : BillingSession :=
  let info := { s.relayInfo with
    finalPreConsumedQuota := s.preConsumedQuota
    billingSource := some s.funding.source }
  match s.funding with
  | .subscription f =>
      { s with relayInfo := { info with
          subscriptionId := f.subscriptionId
          subscriptionPreConsumed := f.preConsumed + s.extraReserved
          subscriptionPostDelta := 0
          subscriptionAmountTotal := f.amountTotal
          subscriptionAmountUsedAfterPreConsume := f.amountUsedAfter + s.extraReserved } }
  | .wallet _ =>
      { s with relayInfo := { info with subscriptionId := 0, subscriptionPreConsumed := 0 } }

/-- Nothing but the relay info is synchronised. -/
theorem syncRelayInfo_eq (s : BillingSession) :
    s.syncRelayInfo = { s with relayInfo := s.syncRelayInfo.relayInfo } := by
  unfold syncRelayInfo
  cases s.funding <;> rfl

def shouldTrust (env : BillingEnv) (s : BillingSession) : Bool :=
  if s.relayInfo.forcePreConsume then false
  else if env.trustQuota ≤ 0 then false
  else if !(s.relayInfo.tokenUnlimited || decide (env.trustQuota < env.tokenQuota)) then false
  else match s.funding with
  | .wallet _ => decide (env.trustQuota < s.relayInfo.userQuota)
  | .subscription _ => false

/-- The error `preConsume` makes of a funding error. -/
def fundingError (e : StoreError) : NewAPIError :=
  if e = .insufficientUserQuota then ⟨.insufficientUserQuota, 403, .store e⟩
  else if contains e.message "no active subscription" ||
      contains e.message "subscription quota insufficient" then
    ⟨.insufficientUserQuota, 403, .subscriptionQuota e⟩
  else ⟨.updateDataError, 500, .store e⟩

/-- The token update that gives back what was taken; its error is only logged. -/
def returnToken (fault : Fault) (s : BillingSession) (db : Store) : Store :=
  if 0 < s.tokenConsumed ∧ s.relayInfo.isPlayground = false then
    match db.increaseTokenQuota fault s.relayInfo.tokenId s.tokenConsumed with
    | .ok db => db
    | .error _ => db
  else db

/-- The trust check of `preConsume`: what is approved is noted. -/
def trust (env : BillingEnv) (quota : Int) (s : BillingSession) : BillingSession :=
  if s.shouldTrust env then { s with trusted := true, trustedQuota := quota } else s

/-- What `preConsume` takes: nothing from a trusted user. -/
def effectiveQuota (env : BillingEnv) (quota : Int) (s : BillingSession) : Int :=
  if s.shouldTrust env then 0 else quota

/-- The token step of `preConsume`. -/
def preConsumeToken (fault : Fault) (quota : Int) (s : BillingSession) (db : Store) :
    Except Cause (BillingSession × Store) :=
  if 0 < quota then
    match preConsumeTokenQuota fault s.relayInfo quota db with
    | .error e => .error e
    | .ok db => .ok ({ s with tokenConsumed := quota }, db)
  else .ok (s, db)

/-- `preConsume`: the trust check, then the token, then the funding source. -/
def preConsume (env : BillingEnv) (quota : Int) (s : BillingSession) (db : Store) :
    Except NewAPIError BillingSession × Store :=
  let effective := s.effectiveQuota env quota
  match preConsumeToken (env.tokenFault s.funding.source) effective (s.trust env quota) db with
  | .error e => (.error ⟨.preConsumeTokenQuotaFailed, 403, e⟩, db)
  | .ok (s, db) =>
      match s.funding.preConsume env effective db with
      | .error e =>
          (.error (fundingError e), s.returnToken (env.rollbackFault s.funding.source) db)
      | .ok (funding, db) =>
          (.ok (syncRelayInfo { s with funding := funding, preConsumedQuota := effective }), db)

/-- The statements of a call on a live session that fail. -/
structure Faults where
  /-- The funding update of `Reserve`. -/
  reserveFunding : Fault := none
  /-- The token update of `Reserve`. -/
  reserveToken : Fault := none
  /-- The update that undoes the funding step of `Reserve`. -/
  rollback : Fault := none
  /-- The funding update of `Settle`. -/
  settleFunding : Fault := none
  /-- The token update of `Settle`. -/
  settleToken : Fault := none
  /-- The three attempts at the funding refund. -/
  refundFunding : Fin 3 → Fault := fun _ => none
  /-- The refund of what was reserved on top of a subscription. -/
  refundExtra : Fault := none
  /-- The token refund. -/
  refundToken : Fault := none

/-- The one attempt at a wallet's refund. -/
def Faults.refundWallet (faults : Faults) : Fault := faults.refundFunding 0

/-- The token half of `Settle`: take what is missing, or give back the rest. -/
def settleToken (fault : Fault) (info : RelayInfo) (delta : Int) (db : Store) :
    Except StoreError Store :=
  if info.isPlayground then .ok db
  else if 0 < delta then db.decreaseTokenQuota fault info.tokenId delta
  else db.increaseTokenQuota fault info.tokenId (-delta)

def settle (faults : Faults) (actualQuota : Int) (s : BillingSession) (db : Store) :
    Option StoreError × BillingSession × Store :=
  let delta := actualQuota - s.preConsumedQuota
  if s.settled then (none, s, db)
  else if delta = 0 then (none, { s with settled := true }, db)
  else
    let fundingStep :=
      if s.fundingSettled then .ok db else s.funding.settle faults.settleFunding delta db
    match fundingStep with
    | .error e => (some e, s, db)
    | .ok db =>
        let info :=
          if s.funding.source = .subscription then
            { s.relayInfo with
              subscriptionPostDelta := s.relayInfo.subscriptionPostDelta + delta }
          else s.relayInfo
        -- the session is settled from here on, also when the token update fails
        let s' := { s with fundingSettled := true, relayInfo := info, settled := true }
        match settleToken faults.settleToken s.relayInfo delta db with
        | .error e => (some e, s', db)
        | .ok db => (none, s', db)

/-- `needsRefundLocked`. -/
def needsRefund (s : BillingSession) : Bool :=
  if s.settled || s.refunded || s.fundingSettled then false
  else if 0 < s.tokenConsumed then true
  else match s.funding with
  | .subscription f => decide (0 < f.preConsumed)
  | .wallet _ => false

/-- The funding half of `Refund`.  What was reserved on top of a subscription is not
part of its record and goes back on its own.  Errors are only logged. -/
def refundFunding (faults : Faults) (s : BillingSession) (db : Store) : Store :=
  let db := match s.funding.refund faults.refundFunding db with
    | .ok db => db
    | .error _ => db
  if 0 < s.extraReserved ∧ s.funding.source = .subscription ∧ 0 < s.relayInfo.subscriptionId then
    match postConsumeUserSubscriptionDelta faults.refundExtra s.relayInfo.subscriptionId
        (-s.extraReserved) db with
    | .ok db => db
    | .error _ => db
  else db

/-- `Refund`; its updates run in a goroutine. -/
def refund (faults : Faults) (s : BillingSession) (db : Store) : BillingSession × Store :=
  if s.settled || s.refunded || !s.needsRefund then (s, db)
  else ({ s with refunded := true },
    s.returnToken faults.refundToken (s.refundFunding faults db))

def reserveFunding (fault : Fault) (delta : Int) (db : Store) :
    FundingSource → Except NewAPIError (FundingSource × Store)
  | .wallet w =>
      match db.preConsumeUserQuota fault w.userId delta with
      | .ok db => .ok (.wallet { w with consumed := w.consumed + delta }, db)
      | .error .insufficientUserQuota =>
          .error ⟨.insufficientUserQuota, 403, .store .insufficientUserQuota⟩
      | .error e => .error ⟨.updateDataError, 500, .store e⟩
  | .subscription f =>
      match postConsumeUserSubscriptionDelta fault f.subscriptionId delta db with
      | .ok db => .ok (.subscription f, db)
      | .error e => .error ⟨.insufficientUserQuota, 403, .subscriptionQuota e⟩

def rollbackFundingReserve (fault : Fault) (delta : Int) (db : Store) :
    FundingSource → FundingSource × Store
  | .wallet w =>
      match db.increaseUserQuota fault w.userId delta with
      | .ok db => (.wallet { w with consumed := w.consumed - delta }, db)
      | .error _ => (.wallet w, db)
  | .subscription f =>
      match postConsumeUserSubscriptionDelta fault f.subscriptionId (-delta) db with
      | .ok db => (.subscription f, db)
      | .error _ => (.subscription f, db)

def reserveToken (fault : Fault) (info : RelayInfo) (delta : Int) (db : Store) :
    Except NewAPIError Store :=
  if delta ≤ 0 ∨ info.isPlayground = true then .ok db
  else match preConsumeTokenQuota fault info delta db with
  | .ok db => .ok db
  | .error e => .error ⟨.preConsumeTokenQuotaFailed, 403, e⟩

def reserve (faults : Faults) (targetQuota : Int) (s : BillingSession) (db : Store) :
    Option NewAPIError × BillingSession × Store :=
  let delta := targetQuota - s.preConsumedQuota
  if s.settled ∨ s.refunded ∨ targetQuota ≤ s.preConsumedQuota ∨
      (s.trusted ∧ targetQuota ≤ s.trustedQuota) then (none, s, db)
  else match reserveFunding faults.reserveFunding delta db s.funding with
  | .error e => (some e, s, db)
  | .ok (funding, db) =>
      match reserveToken faults.reserveToken s.relayInfo delta db with
      | .error e =>
          -- the funding step is undone; the session's own counters are not touched yet
          let (funding, db) := rollbackFundingReserve faults.rollback delta db funding
          (some e, { s with funding := funding }, db)
      | .ok db =>
          (none, syncRelayInfo { s with
            funding := funding
            preConsumedQuota := s.preConsumedQuota + delta
            tokenConsumed := s.tokenConsumed + delta
            extraReserved := s.extraReserved + delta }, db)

end BillingSession

/-! ## Creating a session -/

/-- `NormalizeBillingPreference`. -/
inductive BillingPreference where
  | subscriptionFirst
  | walletFirst
  | subscriptionOnly
  | walletOnly
  deriving DecidableEq, Repr

/-- `common.NormalizeBillingPreference`. -/
def normalizeBillingPreference (pref : String) : BillingPreference :=
  let p := trimSpace pref
  if p = "wallet_first" then .walletFirst
  else if p = "subscription_only" then .subscriptionOnly
  else if p = "wallet_only" then .walletOnly
  else .subscriptionFirst

/-- The session a fresh attempt starts from. -/
def BillingSession.start (info : RelayInfo) (funding : FundingSource) : BillingSession where
  relayInfo := info
  funding := funding
  preConsumedQuota := 0
  tokenConsumed := 0
  extraReserved := 0
  trusted := false
  trustedQuota := 0
  fundingSettled := false
  settled := false
  refunded := false

/-- What an attempt at a funding source leaves: its result, the tables and the
relay info it wrote to. -/
structure Attempt where
  source : BillingSource
  result : Except NewAPIError BillingSession
  db : Store
  info : RelayInfo

def tryWallet (env : BillingEnv) (info : RelayInfo) (preConsumedQuota : Int) (db : Store) :
    Attempt :=
  match env.getUserQuota with
  | .error e => ⟨.wallet, .error ⟨.queryDataError, 500, .store e⟩, db, info⟩
  | .ok userQuota =>
      if userQuota ≤ 0 then
        ⟨.wallet, .error ⟨.insufficientUserQuota, 403, .userQuotaExhausted userQuota⟩, db, info⟩
      else if userQuota - preConsumedQuota < 0 then
        ⟨.wallet, .error ⟨.insufficientUserQuota, 403, .userQuotaShort userQuota preConsumedQuota⟩,
          db, info⟩
      else
        let info := { info with userQuota := userQuota }
        let r := (BillingSession.start info (.wallet ⟨info.userId, 0⟩)).preConsume env
          preConsumedQuota db
        ⟨.wallet, r.1, r.2, info⟩

/-- `trySubscription`.  At least one unit is taken, since a pre-consumption of
nothing is refused. -/
def trySubscription (env : BillingEnv) (info : RelayInfo) (preConsumedQuota : Int) (db : Store) :
    Attempt :=
  let subConsume := if preConsumedQuota ≤ 0 then 1 else preConsumedQuota
  let r := (BillingSession.start info (.subscription ⟨info.requestId, info.userId, subConsume, 0, 0,
    0, 0⟩)).preConsume env subConsume db
  ⟨.subscription, r.1, r.2, info⟩

/-- The result of `NewBillingSession`, the tables it leaves, and the attempts it
made, in order. -/
structure SessionOutcome where
  result : Except NewAPIError BillingSession
  db : Store
  attempts : List Attempt

/-- Return what the last attempt returned. -/
def SessionOutcome.ofAttempts (before : List Attempt) (last : Attempt) : SessionOutcome :=
  ⟨last.result, last.db, before ++ [last]⟩

def newBillingSession (env : BillingEnv) (info : RelayInfo) (preConsumedQuota : Int) (db : Store) :
    SessionOutcome :=
  match normalizeBillingPreference info.billingPreference with
  | .subscriptionOnly => .ofAttempts [] (trySubscription env info preConsumedQuota db)
  | .walletOnly => .ofAttempts [] (tryWallet env info preConsumedQuota db)
  | .walletFirst =>
      let first := tryWallet env info preConsumedQuota db
      match first.result with
      | .ok _ => .ofAttempts [] first
      | .error e =>
          if e.errorCode = .insufficientUserQuota then
            .ofAttempts [first] (trySubscription env first.info preConsumedQuota first.db)
          else .ofAttempts [] first
  | .subscriptionFirst =>
      match db.hasActiveUserSubscription env.hasActiveFault info.userId env.hasActiveNow with
      | .error e => ⟨.error ⟨.queryDataError, 500, .store e⟩, db, []⟩
      | .ok false => .ofAttempts [] (tryWallet env info preConsumedQuota db)
      | .ok true =>
          let first := trySubscription env info preConsumedQuota db
          match first.result with
          | .ok _ => .ofAttempts [] first
          | .error e =>
              if e.errorCode = .insufficientUserQuota then
                -- one active subscription that forbids the overflow keeps the wallet out
                match first.db.userActiveSubscriptionsAllowWalletOverflow env.overflowFault
                    info.userId env.overflowNow with
                | .error e => ⟨.error ⟨.queryDataError, 500, .store e⟩, first.db, [first]⟩
                | .ok true =>
                    .ofAttempts [first] (tryWallet env first.info preConsumedQuota first.db)
                | .ok false => .ofAttempts [] first
              else .ofAttempts [] first

/-! ## What the statements do to the balances -/

namespace Store

/-- What user `id` owns. -/
def userBalance (db : Store) (id : Int) : Int := (db.users id).balance

/-- What token `id` may still spend. -/
def tokenBalance (db : Store) (id : Int) : Int := (db.tokens id).balance

/-- The balance of user `id` moved by `d`, and nothing else happened. -/
structure MovesUser (id d : Int) (db db' : Store) : Prop where
  balance : ∀ j, db'.userBalance j = db.userBalance j + if j = id then d else 0
  rest : db' = { db with users := db'.users }

/-- The balance of token `id` moved by `d`, and nothing else happened. -/
structure MovesToken (id d : Int) (db db' : Store) : Prop where
  balance : ∀ j, db'.tokenBalance j = db.tokenBalance j + if j = id then d else 0
  rest : db' = { db with tokens := db'.tokens }

theorem movesToken_zero (id : Int) (db : Store) : MovesToken id 0 db db :=
  ⟨fun j => by simp, rfl⟩

variable {op : Account → Except StoreError Account}

theorem onUser_moves {db db' : Store} {id d : Int}
    (hop : ∀ a a', op a = .ok a' → a'.balance = a.balance + d) (h : db.onUser id op = .ok db') :
    MovesUser id d db db' := by
  unfold onUser at h
  split at h
  · cases h
  rename_i a ha
  cases h
  refine ⟨fun j => ?_, rfl⟩
  by_cases hj : j = id
  · subst hj
    simp [userBalance, hop _ _ ha]
  · simp [userBalance, hj]

theorem onToken_moves {db db' : Store} {id d : Int}
    (hop : ∀ a a', op a = .ok a' → a'.balance = a.balance + d) (h : db.onToken id op = .ok db') :
    MovesToken id d db db' := by
  unfold onToken at h
  split at h
  · cases h
  rename_i a ha
  cases h
  refine ⟨fun j => ?_, rfl⟩
  by_cases hj : j = id
  · subst hj
    simp [tokenBalance, hop _ _ ha]
  · simp [tokenBalance, hj]

variable {fault : Fault} {id quota : Int} {db db' : Store}

theorem preConsumeUserQuota_moves (h : db.preConsumeUserQuota fault id quota = .ok db') :
    MovesUser id (-quota) db db' :=
  onUser_moves (fun _ _ ha => balance_preConsume ha) h

theorem increaseUserQuota_moves (h : db.increaseUserQuota fault id quota = .ok db') :
    MovesUser id quota db db' :=
  onUser_moves (fun _ _ ha => balance_increase ha) h

theorem decreaseUserQuota_moves (h : db.decreaseUserQuota fault id quota = .ok db') :
    MovesUser id (-quota) db db' :=
  onUser_moves (fun _ _ ha => balance_decrease ha) h

theorem preConsumeTokenQuota_moves (h : db.preConsumeTokenQuota fault id quota = .ok db') :
    MovesToken id (-quota) db db' :=
  onToken_moves (fun _ _ ha => balance_preConsume ha) h

theorem increaseTokenQuota_moves (h : db.increaseTokenQuota fault id quota = .ok db') :
    MovesToken id quota db db' :=
  onToken_moves (fun _ _ ha => balance_increase ha) h

theorem decreaseTokenQuota_moves (h : db.decreaseTokenQuota fault id quota = .ok db') :
    MovesToken id (-quota) db db' :=
  onToken_moves (fun _ _ ha => balance_decrease ha) h

/-- Without a database error a plain update of a balance runs. -/
theorem increaseUserQuota_ok (id : Int) (db : Store) (h : 0 ≤ quota) :
    ∃ db', db.increaseUserQuota none id quota = .ok db' := by
  obtain ⟨a, ha⟩ := adjust_ok db.batchUpdateEnabled quota (db.users id) h
  exact ⟨_, by rw [increaseUserQuota, onUser, increase, ha]⟩

theorem increaseTokenQuota_ok (id : Int) (db : Store) (h : 0 ≤ quota) :
    ∃ db', db.increaseTokenQuota none id quota = .ok db' := by
  obtain ⟨a, ha⟩ := adjust_ok db.batchUpdateEnabled quota (db.tokens id) h
  exact ⟨_, by rw [increaseTokenQuota, onToken, increase, ha]⟩

theorem decreaseTokenQuota_ok (id : Int) (db : Store) (h : 0 ≤ quota) :
    ∃ db', db.decreaseTokenQuota none id quota = .ok db' := by
  obtain ⟨a, ha⟩ := adjust_ok db.batchUpdateEnabled (-quota) (db.tokens id) h
  exact ⟨_, by rw [decreaseTokenQuota, onToken, decrease, ha]⟩

end Store

/-- What a session of `info` takes from its token for `quota`: nothing, when it
is a playground one. -/
def RelayInfo.tokenShare (info : RelayInfo) (quota : Int) : Int :=
  if info.isPlayground then 0 else quota

theorem preConsumeTokenQuota_moves {fault : Fault} {info : RelayInfo} {quota : Int}
    {db db' : Store} (h : preConsumeTokenQuota fault info quota db = .ok db') :
    db.MovesToken info.tokenId (-info.tokenShare quota) db' := by
  unfold preConsumeTokenQuota at h
  split at h
  · cases h
  split at h
  · rename_i hpl
    cases h
    rw [RelayInfo.tokenShare, if_pos hpl]
    exact Store.movesToken_zero _ _
  rename_i hpl
  rw [RelayInfo.tokenShare, if_neg hpl]
  split at h
  · split at h
    · cases h
    rename_i hdec
    cases h
    exact Store.decreaseTokenQuota_moves hdec
  split at h
  · rename_i hpre
    cases h
    exact Store.preConsumeTokenQuota_moves hpre
  · cases h
  · cases h

end NewApi
