import NewApi.BillingSession

/-! # Creating a session is all or nothing

An attempt at a funding source takes from the token first and from the source
second, and undoes the first when the second is refused.  So an attempt that
fails leaves every balance as it was (`preConsume_error`), the next attempt
starts from the same balances, and in the end either nothing was taken or one
source and the token were both charged the session's `preConsumedQuota`
(`newBillingSession_all_or_nothing`).

The updates that undo a step are taken to run (`BillingEnv.RollsBack`), and the
request's id to be new to the table of records, as the ids that the middleware
gives out are. -/
namespace NewApi

open BillingSession

/-- The updates that undo a token reservation run. -/
def BillingEnv.RollsBack (env : BillingEnv) : Prop := ∀ source, env.rollbackFault source = none

namespace Store

/-- Every wallet and token balance and every subscription's counter are the same. -/
structure SameBalances (db db' : Store) : Prop where
  users : ∀ id, db'.userBalance id = db.userBalance id
  tokens : ∀ id, db'.tokenBalance id = db.tokenBalance id
  used : ∀ id, usedOf db'.subscriptions id = usedOf db.subscriptions id

/-- Balances and tables that a failed attempt leaves alone: all but the split of a
token's balance into stored and pending. -/
structure Restored (db db' : Store) : Prop where
  tokens : ∀ id, db'.tokenBalance id = db.tokenBalance id
  rest : db' = { db with tokens := db'.tokens }

theorem Restored.refl (db : Store) : Restored db db := ⟨fun _ => rfl, rfl⟩

theorem Restored.trans {db₁ db₂ db₃ : Store} (h : Restored db₁ db₂) (h' : Restored db₂ db₃) :
    Restored db₁ db₃ :=
  ⟨fun id => (h'.tokens id).trans (h.tokens id), by rw [h'.rest, h.rest]⟩

variable {db db' : Store}

section
variable (h : Restored db db')
include h

theorem Restored.userBalance (id : Int) : db'.userBalance id = db.userBalance id := by
  rw [h.rest]
  rfl

theorem Restored.records : db'.records = db.records := by
  rw [h.rest]

theorem Restored.subscriptions : db'.subscriptions = db.subscriptions := by
  rw [h.rest]

theorem Restored.sameBalances : SameBalances db db' := by
  refine ⟨h.userBalance, h.tokens, fun id => ?_⟩
  rw [h.rest]

end

end Store

/-- What a session takes when it is created: `preConsumedQuota` from the token,
and `preConsumedQuota` from one funding source. -/
structure Debited (env : BillingEnv) (info : RelayInfo) (s : BillingSession) (db db' : Store) :
    Prop where
  token : ∀ id, db'.tokenBalance id =
    db.tokenBalance id - if id = info.tokenId then info.tokenShare s.preConsumedQuota else 0
  funding : match s.funding with
    | .wallet w => w.userId = info.userId ∧
        (∀ id, db'.userBalance id =
          db.userBalance id - if id = info.userId then s.preConsumedQuota else 0) ∧
        ∀ id, usedOf db'.subscriptions id = usedOf db.subscriptions id
    | .subscription f => (∀ id, db'.userBalance id = db.userBalance id) ∧
        ∃ resets, Charges env.subscription info.userId f.subscriptionId s.preConsumedQuota resets
          db db'

namespace BillingSession
variable {env : BillingEnv} {info : RelayInfo} {quota : Int} {s s' : BillingSession}
  {db db' : Store}

@[simp] theorem trust_relayInfo : (s.trust env quota).relayInfo = s.relayInfo := by
  unfold trust
  split <;> rfl

@[simp] theorem trust_funding : (s.trust env quota).funding = s.funding := by
  unfold trust
  split <;> rfl

@[simp] theorem trust_tokenConsumed : (s.trust env quota).tokenConsumed = s.tokenConsumed := by
  unfold trust
  split <;> rfl

theorem effectiveQuota_nonneg (h : 0 ≤ quota) : 0 ≤ s.effectiveQuota env quota := by
  unfold effectiveQuota
  split
  · exact Int.le_refl 0
  · exact h

/-- The token step of a new session takes `quota` from the token and remembers it. -/
theorem preConsumeToken_spec {fault : Fault} (hq : 0 ≤ quota) (hs : s.tokenConsumed = 0)
    (h : preConsumeToken fault quota s db = .ok (s', db')) :
    db.MovesToken s.relayInfo.tokenId (-s.relayInfo.tokenShare quota) db' ∧
      s' = { s with tokenConsumed := quota } := by
  unfold preConsumeToken at h
  split at h
  · split at h
    · cases h
    rename_i hpre
    cases h
    exact ⟨preConsumeTokenQuota_moves hpre, rfl⟩
  · have hz : quota = 0 := by omega
    cases h
    subst hz
    refine ⟨?_, ?_⟩
    · rw [show -s.relayInfo.tokenShare 0 = 0 by simp [RelayInfo.tokenShare]]
      exact Store.movesToken_zero _ _
    · rw [← hs]

/-- Giving back what the token step took restores the token. -/
theorem returnToken_restored {db₁ : Store} (hq : 0 ≤ s.tokenConsumed)
    (hmov : db.MovesToken s.relayInfo.tokenId (-s.relayInfo.tokenShare s.tokenConsumed) db₁) :
    db.Restored (s.returnToken none db₁) := by
  unfold returnToken
  split
  · rename_i hgi
    obtain ⟨db₂, hinc⟩ := Store.increaseTokenQuota_ok s.relayInfo.tokenId db₁ hq
    rw [hinc]
    have hba := Store.increaseTokenQuota_moves hinc
    refine ⟨fun id => ?_, ?_⟩
    · rw [hba.balance, hmov.balance, RelayInfo.tokenShare, hgi.2]
      by_cases hid : id = s.relayInfo.tokenId
      · simp only [hid, if_true, Bool.false_eq_true, if_false]
        omega
      · simp [hid]
    · rw [hba.rest, hmov.rest]
  · rename_i hkept
    have hno : s.relayInfo.tokenShare s.tokenConsumed = 0 := by
      unfold RelayInfo.tokenShare
      split
      · rfl
      rename_i hpl
      simp only [hpl, and_true] at hkept
      omega
    rw [hno] at hmov
    exact ⟨fun id => by rw [hmov.balance]; simp, hmov.rest⟩

/-- **A failed attempt leaves nothing behind.** -/
theorem preConsume_error {e : NewAPIError} (hro : env.RollsBack) (hq : 0 ≤ quota)
    (hs : s.tokenConsumed = 0) (h : s.preConsume env quota db = (.error e, db')) :
    db.Restored db' := by
  simp only [preConsume] at h
  split at h
  · cases h
    exact Store.Restored.refl db
  rename_i s₁ db₁ htok
  obtain ⟨hmov, rfl⟩ := preConsumeToken_spec (effectiveQuota_nonneg hq)
    (by rw [trust_tokenConsumed, hs]) htok
  split at h
  · cases h
    rw [hro]
    exact returnToken_restored (effectiveQuota_nonneg hq) hmov
  · cases h

theorem returnToken_rest (fault : Fault) (s : BillingSession) (db : Store) :
    s.returnToken fault db = { db with tokens := (s.returnToken fault db).tokens } := by
  unfold returnToken
  split
  · split
    · rename_i hinc
      exact (Store.increaseTokenQuota_moves hinc).rest
    · rfl
  · rfl

/-- A failed attempt changes tokens at most, also when the token is not given back. -/
theorem preConsume_error_rest {e : NewAPIError}
    (h : s.preConsume env quota db = (.error e, db')) : db' = { db with tokens := db'.tokens } := by
  simp only [preConsume] at h
  split at h
  · cases h
    rfl
  rename_i s₁ db₁ htok
  have hre : db₁ = { db with tokens := db₁.tokens } := by
    unfold preConsumeToken at htok
    split at htok
    · split at htok
      · cases htok
      rename_i hpre
      cases htok
      exact (preConsumeTokenQuota_moves hpre).rest
    · cases htok
      rfl
  split at h
  · cases h
    rw [returnToken_rest, hre]
  · cases h

end BillingSession

variable {funding : FundingSource}

/-- A new wallet funding takes `quota` from its user's wallet and remembers it. -/
theorem FundingSource.preConsume_wallet {env : BillingEnv} {userId quota : Int}
    {db db' : Store} (hq : 0 ≤ quota)
    (h : FundingSource.preConsume env quota db (.wallet ⟨userId, 0⟩) = .ok (funding, db')) :
    funding = .wallet ⟨userId, quota⟩ ∧ db.MovesUser userId (-quota) db' := by
  simp only [FundingSource.preConsume] at h
  split at h
  · have hz : quota = 0 := by omega
    cases h
    subst hz
    exact ⟨rfl, fun j => by simp, rfl⟩
  split at h
  · cases h
  rename_i hpre
  cases h
  exact ⟨rfl, Store.preConsumeUserQuota_moves hpre⟩

/-- A new subscription funding charges one row by its own amount, writes the
request's record and remembers both. -/
theorem FundingSource.preConsume_subscription {env : BillingEnv} {f : SubscriptionFunding}
    {quota : Int} {db db' : Store} (hnew : db.records.find? f.requestId = none)
    (h : FundingSource.preConsume env quota db (.subscription f) = .ok (funding, db')) :
    ∃ f' resets records subs, funding = .subscription f' ∧ f'.requestId = f.requestId ∧
      f'.preConsumed = f.amount ∧ 0 < f.amount ∧ trimSpace f.requestId ≠ "" ∧
      db' = { db with subscriptions := subs, records := records } ∧
      db.records.create ⟨f.requestId, f.userId, f'.subscriptionId, f.amount, .consumed⟩
        = some records ∧
      Charges env.subscription f.userId f'.subscriptionId f.amount resets db db' := by
  simp only [FundingSource.preConsume] at h
  split at h
  · cases h
  rename_i tx htx
  cases h
  obtain ⟨hpos, hreq, ⟨hknown, -⟩ | ⟨records, subs, hcreate, hstore, hpre, hcha⟩⟩ :=
    NewApi.preConsume_spec htx
  · exact absurd hnew hknown
  · exact ⟨_, tx.resets, records, subs, rfl, rfl, hpre, hpos, hreq, hstore, hcreate, hcha⟩

namespace BillingSession
variable {env : BillingEnv} {info : RelayInfo} {quota : Int} {s : BillingSession}
  {funding : FundingSource} {db db' : Store}

/-- A session that has just been created for `info` and took `quota`. -/
structure Opened (info : RelayInfo) (quota : Int) (funding : FundingSource) (s : BillingSession) :
    Prop where
  funding_eq : s.funding = funding
  preConsumedQuota : s.preConsumedQuota = quota
  tokenConsumed : s.tokenConsumed = quota
  extraReserved : s.extraReserved = 0
  live : s.settled = false ∧ s.refunded = false ∧ s.fundingSettled = false
  trust : (s.trusted = true ∧ quota = 0) ∨ (s.trusted = false ∧ s.trustedQuota = 0)
  token : s.relayInfo.tokenId = info.tokenId ∧ s.relayInfo.isPlayground = info.isPlayground
  subscriptionId : ∀ f, funding = .subscription f → s.relayInfo.subscriptionId = f.subscriptionId

/-- What a session holds does not depend on the balance read for the trust check. -/
theorem Opened.of_userQuota {userQuota : Int}
    (h : Opened { info with userQuota := userQuota } quota funding s) :
    Opened info quota funding s :=
  { h with }

/-- A successful attempt, step by step. -/
theorem preConsume_ok (hq : 0 ≤ quota)
    (h : (start info funding).preConsume env quota db = (.ok s, db')) :
    ∃ q db₁ funding', q = (start info funding).effectiveQuota env quota ∧ 0 ≤ q ∧
      db.MovesToken info.tokenId (-info.tokenShare q) db₁ ∧
      funding.preConsume env q db₁ = .ok (funding', db') ∧ Opened info q funding' s := by
  simp only [preConsume] at h
  split at h
  · cases h
  rename_i s₁ db₁ htok
  obtain ⟨hmov, rfl⟩ := preConsumeToken_spec (effectiveQuota_nonneg hq) trust_tokenConsumed htok
  rw [trust_relayInfo] at hmov
  split at h
  · cases h
  rename_i funding' db₂ hfn
  cases h
  simp only [trust_funding] at hfn
  refine ⟨_, db₁, funding', rfl, effectiveQuota_nonneg hq, hmov, hfn, ?_⟩
  constructor
  all_goals unfold syncRelayInfo trust effectiveQuota start
  all_goals split_ifs <;> cases funding' <;> simp

/-- A subscription is never trusted. -/
theorem effectiveQuota_subscription (f : SubscriptionFunding) :
    (start info (.subscription f)).effectiveQuota env quota = quota := by
  have hno : (start info (.subscription f)).shouldTrust env = false := by
    simp [shouldTrust, start]
  rw [effectiveQuota, hno]
  rfl

/-- **A new wallet session** holds the same amount of the wallet and of the token. -/
theorem preConsume_wallet (hq : 0 ≤ quota)
    (h : (start info (.wallet ⟨info.userId, 0⟩)).preConsume env quota db = (.ok s, db')) :
    (∃ q, 0 ≤ q ∧ Opened info q (.wallet ⟨info.userId, q⟩) s) ∧ Debited env info s db db' := by
  obtain ⟨q, db₁, funding', -, hpos, hmov, hfn, hop⟩ := preConsume_ok hq h
  obtain ⟨rfl, hur⟩ := FundingSource.preConsume_wallet hpos hfn
  refine ⟨⟨q, hpos, hop⟩, fun id => ?_, ?_⟩
  · have htok : db'.tokenBalance id = db₁.tokenBalance id := by
      rw [hur.rest]
      rfl
    rw [htok, hmov.balance, hop.preConsumedQuota]
    split <;> omega
  · rw [hop.funding_eq, hop.preConsumedQuota]
    refine ⟨rfl, fun id => ?_, fun id => ?_⟩
    · have hwal : db₁.userBalance id = db.userBalance id := by
        rw [hmov.rest]
        rfl
      rw [hur.balance, hwal]
      split <;> omega
    · rw [hur.rest, hmov.rest]

/-- **A new subscription session** holds the same amount of one row and of the
token. -/
theorem preConsume_subscription {f : SubscriptionFunding} (hq : 0 ≤ f.amount)
    (hur : f.userId = info.userId) (hreq : f.requestId = info.requestId)
    (hnew : db.records.find? info.requestId = none)
    (h : (start info (.subscription f)).preConsume env f.amount db = (.ok s, db')) :
    (∃ f', f'.requestId = info.requestId ∧ f'.preConsumed = f.amount ∧ 0 < f.amount ∧
      trimSpace info.requestId ≠ "" ∧ Opened info f.amount (.subscription f') s) ∧
      Debited env info s db db' := by
  obtain ⟨q, db₁, funding', hquo, -, hmov, hfn, hop⟩ := preConsume_ok hq h
  rw [effectiveQuota_subscription] at hquo
  subst hquo
  have hnew₁ : db₁.records.find? f.requestId = none := by
    rw [hmov.rest, hreq]
    exact hnew
  obtain ⟨f', resets, records, subs, rfl, hreq', hpre, hpos, hrq, hstore, -, hcha⟩ :=
    FundingSource.preConsume_subscription hnew₁ hfn
  rw [hreq] at hrq
  refine ⟨⟨f', hreq'.trans hreq, hpre, hpos, hrq, hop⟩, fun id => ?_, ?_⟩
  · have htok : db'.tokenBalance id = db₁.tokenBalance id := by
      rw [hstore]
      rfl
    rw [htok, hmov.balance, hop.preConsumedQuota]
    split <;> omega
  · rw [hop.funding_eq, hop.preConsumedQuota]
    refine ⟨fun id => ?_, resets, ?_⟩
    · rw [hstore, hmov.rest]
      rfl
    · rw [hur] at hcha
      exact hcha.of_subscriptions (by rw [hmov.rest])

end BillingSession

/-! ## One attempt -/

section Attempts
variable {env : BillingEnv} {info : RelayInfo} {quota : Int} {s : BillingSession} {db : Store}

/-- An attempt at the wallet that gets to the session returns what the session's
`preConsume` does; one that does not changes nothing. -/
theorem tryWallet_cases (env : BillingEnv) (info : RelayInfo) (quota : Int) (db : Store) :
    (∃ e, (tryWallet env info quota db).result = .error e ∧ (tryWallet env info quota db).db = db) ∨
    ∃ userQuota, (start { info with userQuota := userQuota }
        (.wallet ⟨info.userId, 0⟩)).preConsume env quota db =
      ((tryWallet env info quota db).result, (tryWallet env info quota db).db) := by
  unfold tryWallet
  split
  · exact .inl ⟨_, rfl, rfl⟩
  split_ifs
  · exact .inl ⟨_, rfl, rfl⟩
  · exact .inl ⟨_, rfl, rfl⟩
  · exact .inr ⟨_, rfl⟩

theorem tryWallet_source (env : BillingEnv) (info : RelayInfo) (quota : Int) (db : Store) :
    (tryWallet env info quota db).source = .wallet := by
  unfold tryWallet
  split
  · rfl
  split_ifs <;> rfl

theorem tryWallet_info (env : BillingEnv) (info : RelayInfo) (quota : Int) (db : Store) :
    ∃ userQuota, (tryWallet env info quota db).info = { info with userQuota := userQuota } := by
  unfold tryWallet
  split
  · exact ⟨info.userQuota, rfl⟩
  split_ifs
  · exact ⟨info.userQuota, rfl⟩
  · exact ⟨info.userQuota, rfl⟩
  · exact ⟨_, rfl⟩

variable {e : NewAPIError}

theorem tryWallet_error (hro : env.RollsBack) (hq : 0 ≤ quota)
    (h : (tryWallet env info quota db).result = .error e) :
    db.Restored (tryWallet env info quota db).db := by
  rcases tryWallet_cases env info quota db with ⟨_, -, hdb⟩ | ⟨userQuota, hpre⟩
  · rw [hdb]
    exact Store.Restored.refl db
  · rw [h] at hpre
    exact preConsume_error hro hq rfl hpre

theorem tryWallet_error_rest (h : (tryWallet env info quota db).result = .error e) :
    (tryWallet env info quota db).db =
      { db with tokens := (tryWallet env info quota db).db.tokens } := by
  rcases tryWallet_cases env info quota db with ⟨_, -, hdb⟩ | ⟨userQuota, hpre⟩
  · rw [hdb]
  rw [h] at hpre
  exact preConsume_error_rest hpre

theorem tryWallet_ok (hq : 0 ≤ quota) (h : (tryWallet env info quota db).result = .ok s) :
    (∃ q, 0 ≤ q ∧ s.Opened info q (.wallet ⟨info.userId, q⟩)) ∧
      Debited env info s db (tryWallet env info quota db).db := by
  rcases tryWallet_cases env info quota db with ⟨_, he, -⟩ | ⟨userQuota, hpre⟩
  · rw [h] at he
    cases he
  · rw [h] at hpre
    obtain ⟨⟨q, hpos, hop⟩, hdeb⟩ := preConsume_wallet hq hpre
    exact ⟨⟨q, hpos, hop.of_userQuota⟩, ⟨hdeb.token, hdeb.funding⟩⟩

theorem trySubscription_ok (hnew : db.records.find? info.requestId = none)
    (h : (trySubscription env info quota db).result = .ok s) :
    (∃ q f, 0 < q ∧ f.requestId = info.requestId ∧ trimSpace info.requestId ≠ "" ∧
        f.preConsumed = q ∧ s.Opened info q (.subscription f)) ∧
      Debited env info s db (trySubscription env info quota db).db := by
  have hpos : 0 ≤ if quota ≤ 0 then 1 else quota := by
    split <;> omega
  obtain ⟨⟨f, hreq, hpre, hamo, hrq, hop⟩, hdeb⟩ :=
    preConsume_subscription hpos rfl rfl hnew (Prod.ext h rfl)
  exact ⟨⟨_, f, hamo, hreq, hrq, hpre, hop⟩, hdeb⟩

/-- A session that `NewBillingSession` returned, by its funding source. -/
def CreatedFor (info : RelayInfo) (s : BillingSession) : Prop :=
  (∃ q, 0 ≤ q ∧ s.Opened info q (.wallet ⟨info.userId, q⟩)) ∨
  ∃ q f, 0 < q ∧ f.requestId = info.requestId ∧ trimSpace info.requestId ≠ "" ∧
    f.preConsumed = q ∧ s.Opened info q (.subscription f)

/-- What an attempt made at `db` is worth: nothing is left of a failure, and a
session holds what it says. -/
structure Attempt.Sound (env : BillingEnv) (info : RelayInfo) (db : Store) (a : Attempt) :
    Prop where
  error : ∀ e, a.result = .error e → db.Restored a.db
  session : ∀ s, a.result = .ok s → CreatedFor info s ∧ s.funding.source = a.source ∧
    Debited env info s db a.db

theorem sound_tryWallet (hro : env.RollsBack) (hq : 0 ≤ quota) :
    (tryWallet env info quota db).Sound env info db := by
  refine ⟨fun e he => tryWallet_error hro hq he, fun s hs => ?_⟩
  obtain ⟨⟨q, hpos, hop⟩, hdeb⟩ := tryWallet_ok hq hs
  refine ⟨.inl ⟨q, hpos, hop⟩, ?_, hdeb⟩
  rw [hop.funding_eq, tryWallet_source]
  rfl

theorem sound_trySubscription (hro : env.RollsBack)
    (hnew : db.records.find? info.requestId = none) :
    (trySubscription env info quota db).Sound env info db := by
  have hpre : 0 ≤ if quota ≤ 0 then 1 else quota := by
    split <;> omega
  refine ⟨fun e he => preConsume_error hro hpre rfl (Prod.ext he rfl), fun s hs => ?_⟩
  obtain ⟨⟨q, f, hpos, hreq, hrq, hpre, hop⟩, hdeb⟩ := trySubscription_ok hnew hs
  refine ⟨.inr ⟨q, f, hpos, hreq, hrq, hpre, hop⟩, ?_, hdeb⟩
  rw [hop.funding_eq]
  rfl

/-- An attempt made after a failed one is as good as the first. -/
theorem Attempt.Sound.after {db₁ : Store} {a : Attempt} {userQuota : Int}
    (hba : db.Restored db₁) (h : a.Sound env { info with userQuota := userQuota } db₁) :
    a.Sound env info db := by
  refine ⟨fun e he => hba.trans (h.error e he), fun s hs => ?_⟩
  obtain ⟨hcreate, hsrc, hdeb⟩ := h.session s hs
  refine ⟨?_, hsrc, ?_⟩
  · rcases hcreate with ⟨q, hpos, hop⟩ | ⟨q, f, hpos, hreq, hrq, hpre, hop⟩
    · exact .inl ⟨q, hpos, hop.of_userQuota⟩
    · exact .inr ⟨q, f, hpos, hreq, hrq, hpre, hop.of_userQuota⟩
  · refine ⟨fun id => ?_, ?_⟩
    · rw [hdeb.token, hba.tokens]
      rfl
    have hfn := hdeb.funding
    cases hf : s.funding with
    | wallet w =>
      rw [hf] at hfn
      obtain ⟨hur, hwal, hus⟩ := hfn
      refine ⟨hur, fun id => ?_, fun id => ?_⟩
      · rw [hwal, hba.userBalance]
      · rw [hus, hba.subscriptions]
    | subscription f =>
      rw [hf] at hfn
      obtain ⟨hwal, resets, hcha⟩ := hfn
      refine ⟨fun id => ?_, resets, hcha.of_subscriptions hba.subscriptions⟩
      rw [hwal, hba.userBalance]

end Attempts

/-! ## The order of the attempts -/

/-- The attempt was refused for want of quota. -/
def Attempt.Insufficient (a : Attempt) : Prop :=
  ∃ e, a.result = .error e ∧ e.errorCode = .insufficientUserQuota

/-- Every active subscription of the user allows falling back to the wallet. -/
def OverflowAllowed (userId now : Int) (db : Store) : Prop :=
  ∀ sub ∈ db.subscriptions.rows, sub.activeFor userId now = true → sub.allowWalletOverflow = true

/-- The attempts a preference allows, in order. -/
def FallbackOrder (env : BillingEnv) (info : RelayInfo) (db : Store) :
    BillingPreference → List Attempt → Prop
  | .subscriptionOnly, attempts => attempts.map Attempt.source = [.subscription]
  | .walletOnly, attempts => attempts.map Attempt.source = [.wallet]
  | .walletFirst, attempts => attempts.map Attempt.source = [.wallet] ∨
      ∃ a b, attempts = [a, b] ∧ a.source = .wallet ∧ b.source = .subscription ∧ a.Insufficient
  | .subscriptionFirst, attempts => attempts = [] ∨
      (attempts.map Attempt.source = [.wallet] ∧
        ∀ sub ∈ db.subscriptions.rows, sub.activeFor info.userId env.hasActiveNow = false) ∨
      attempts.map Attempt.source = [.subscription] ∨
      ∃ a b, attempts = [a, b] ∧ a.source = .subscription ∧ b.source = .wallet ∧ a.Insufficient ∧
        OverflowAllowed info.userId env.overflowNow db


/-- The attempts respect the preference, the result is the last attempt's, and
that attempt is sound. -/
structure SessionOutcome.Sound (env : BillingEnv) (info : RelayInfo) (db : Store)
    (o : SessionOutcome) : Prop where
  order : FallbackOrder env info db (normalizeBillingPreference info.billingPreference) o.attempts
  error : ∀ e, o.result = .error e → db.Restored o.db
  session : ∀ s, o.result = .ok s → CreatedFor info s ∧ Debited env info s db o.db ∧
    ∃ a ∈ o.attempts.getLast?, a.result = .ok s ∧ s.funding.source = a.source

section Outcome
variable {env : BillingEnv} {info : RelayInfo} {quota : Int} {db : Store}

open SessionOutcome

theorem SessionOutcome.sound_ofAttempts {before : List Attempt} {last : Attempt}
    (hla : last.Sound env info db)
    (hord : FallbackOrder env info db (normalizeBillingPreference info.billingPreference)
      (before ++ [last])) : (ofAttempts before last).Sound env info db := by
  refine ⟨hord, hla.error, fun s hs => ?_⟩
  obtain ⟨hcreate, hsrc, hdeb⟩ := hla.session s hs
  exact ⟨hcreate, hdeb, last, by simp [ofAttempts], hs, hsrc⟩

theorem hasActive_false {fault : Fault} {userId now : Int}
    (h : db.hasActiveUserSubscription fault userId now = .ok false) :
    ∀ sub ∈ db.subscriptions.rows, sub.activeFor userId now = false := by
  unfold Store.hasActiveUserSubscription at h
  split at h
  · cases h
  split at h
  · cases h
  intro sub hsub
  have hany := Except.ok.inj h
  rw [List.any_eq_false] at hany
  simpa using hany sub hsub

theorem overflow_true {fault : Fault} {userId now : Int}
    (h : db.userActiveSubscriptionsAllowWalletOverflow fault userId now = .ok true) :
    OverflowAllowed userId now db := by
  unfold Store.userActiveSubscriptionsAllowWalletOverflow at h
  split at h
  · cases h
  split at h
  · cases h
  intro sub hsub hact
  have hany := Except.ok.inj h
  rw [Bool.not_eq_true', List.any_eq_false] at hany
  simpa [hact] using hany sub hsub

/-- With the wallet first, the subscription is tried when the wallet is short. -/
theorem newBillingSession_sound_walletFirst (hro : env.RollsBack) (hq : 0 ≤ quota)
    (hnew : db.records.find? info.requestId = none)
    (hpr : normalizeBillingPreference info.billingPreference = .walletFirst) :
    (newBillingSession env info quota db).Sound env info db := by
  have hfst : (tryWallet env info quota db).Sound env info db := sound_tryWallet hro hq
  have halo : (ofAttempts [] (tryWallet env info quota db)).Sound env info db := by
    refine sound_ofAttempts hfst ?_
    rw [hpr]
    simp [FallbackOrder, tryWallet_source]
  rw [newBillingSession, hpr]
  simp only
  split
  · exact halo
  rename_i e he
  split
  · -- the wallet is short: the subscription finds the tables as they were
    rename_i hco
    obtain ⟨userQuota, hin⟩ := tryWallet_info env info quota db
    have hba := hfst.error e he
    rw [hin]
    refine sound_ofAttempts
      (.after hba (sound_trySubscription hro (by rw [hba.records]; exact hnew))) ?_
    rw [hpr]
    exact .inr ⟨_, _, rfl, tryWallet_source .., rfl, e, he, hco⟩
  · exact halo

/-- With the subscriptions first, the wallet is tried when there is none, or when none
can pay and all of them allow it. -/
theorem newBillingSession_sound_subscriptionFirst (hro : env.RollsBack) (hq : 0 ≤ quota)
    (hnew : db.records.find? info.requestId = none)
    (hpr : normalizeBillingPreference info.billingPreference = .subscriptionFirst) :
    (newBillingSession env info quota db).Sound env info db := by
  have hfst : (trySubscription env info quota db).Sound env info db :=
    sound_trySubscription hro hnew
  have halo : (ofAttempts [] (trySubscription env info quota db)).Sound env info db := by
    refine sound_ofAttempts hfst ?_
    rw [hpr]
    exact .inr (.inr (.inl rfl))
  rw [newBillingSession, hpr]
  simp only
  split
  · -- the lookup of active subscriptions failed: nothing was tried
    refine ⟨?_, fun _ _ => Store.Restored.refl db, fun s hs => by cases hs⟩
    rw [hpr]
    exact .inl rfl
  · rename_i hact
    refine sound_ofAttempts (sound_tryWallet hro hq) ?_
    rw [hpr]
    exact .inr (.inl ⟨by simp [tryWallet_source], hasActive_false hact⟩)
  split
  · exact halo
  rename_i e he
  have hba := hfst.error e he
  split
  · -- no subscription can pay: the wallet may, if all of them allow it
    rename_i hco
    split
    · refine ⟨?_, fun _ _ => hba, fun s hs => by cases hs⟩
      rw [hpr]
      exact .inr (.inr (.inl rfl))
    · rename_i hove
      refine sound_ofAttempts (.after hba (sound_tryWallet hro hq)) ?_
      rw [hpr]
      have hall := overflow_true hove
      rw [OverflowAllowed, hba.subscriptions] at hall
      exact .inr (.inr (.inr ⟨_, _, rfl, rfl, tryWallet_source .., ⟨e, he, hco⟩, hall⟩))
    · exact halo
  · exact halo

/-- **Every outcome is sound**: by the preference, then by what each attempt
returned. -/
theorem newBillingSession_sound (hro : env.RollsBack) (hq : 0 ≤ quota)
    (hnew : db.records.find? info.requestId = none) :
    (newBillingSession env info quota db).Sound env info db := by
  cases hpr : normalizeBillingPreference info.billingPreference with
  | subscriptionOnly =>
    rw [newBillingSession, hpr]
    refine sound_ofAttempts (sound_trySubscription hro hnew) ?_
    rw [hpr]
    rfl
  | walletOnly =>
    rw [newBillingSession, hpr]
    refine sound_ofAttempts (sound_tryWallet hro hq) ?_
    rw [hpr]
    simp [FallbackOrder, tryWallet_source]
  | walletFirst => exact newBillingSession_sound_walletFirst hro hq hnew hpr
  | subscriptionFirst => exact newBillingSession_sound_subscriptionFirst hro hq hnew hpr

/-- **Creating a session is all or nothing.**  An error leaves every balance as it
was; a session took `preConsumedQuota` from its token and from exactly one funding
source; and the sources were tried in the order of the preference. -/
theorem newBillingSession_all_or_nothing (hroll : env.RollsBack) (hq : 0 ≤ quota)
    (hnew : db.records.find? info.requestId = none) :
    (∀ e, (newBillingSession env info quota db).result = .error e →
      db.SameBalances (newBillingSession env info quota db).db) ∧
    (∀ s, (newBillingSession env info quota db).result = .ok s →
      Debited env info s db (newBillingSession env info quota db).db ∧
      ∃ a ∈ (newBillingSession env info quota db).attempts.getLast?,
        a.result = .ok s ∧ s.funding.source = a.source) ∧
    FallbackOrder env info db (normalizeBillingPreference info.billingPreference)
      (newBillingSession env info quota db).attempts := by
  have hsound := newBillingSession_sound hroll hq hnew
  refine ⟨fun e he => (hsound.error e he).sameBalances, fun s hs => ?_, hsound.order⟩
  obtain ⟨-, hdeb, hla⟩ := hsound.session s hs
  exact ⟨hdeb, hla⟩

variable {s : BillingSession}

/-- A session comes from an attempt at one of the two sources, which finds all but the
tokens as they were. -/
theorem newBillingSession_attempt (h : (newBillingSession env info quota db).result = .ok s) :
    ∃ userQuota db₁ a, db₁ = { db with tokens := db₁.tokens } ∧
      (a = tryWallet env { info with userQuota := userQuota } quota db₁ ∨
        a = trySubscription env { info with userQuota := userQuota } quota db₁) ∧
      a.result = .ok s ∧ (newBillingSession env info quota db).db = a.db := by
  revert h
  unfold newBillingSession
  split
  · exact fun h => ⟨info.userQuota, db, _, rfl, .inr rfl, h, rfl⟩
  · exact fun h => ⟨info.userQuota, db, _, rfl, .inl rfl, h, rfl⟩
  · simp only
    split
    · exact fun h => ⟨info.userQuota, db, _, rfl, .inl rfl, h, rfl⟩
    rename_i e he
    split
    · obtain ⟨userQuota, hin⟩ := tryWallet_info env info quota db
      rw [hin]
      exact fun h => ⟨userQuota, _, _, tryWallet_error_rest he, .inr rfl, h, rfl⟩
    · exact fun h => ⟨info.userQuota, db, _, rfl, .inl rfl, h, rfl⟩
  · split
    · exact nofun
    · exact fun h => ⟨info.userQuota, db, _, rfl, .inl rfl, h, rfl⟩
    simp only
    split
    · exact fun h => ⟨info.userQuota, db, _, rfl, .inr rfl, h, rfl⟩
    rename_i e he
    split
    · split
      · exact nofun
      · exact fun h => ⟨info.userQuota, _, _,
          preConsume_error_rest (Prod.ext he rfl), .inl rfl, h, rfl⟩
      · exact fun h => ⟨info.userQuota, db, _, rfl, .inr rfl, h, rfl⟩
    · exact fun h => ⟨info.userQuota, db, _, rfl, .inr rfl, h, rfl⟩

/-- **A session took what it says from its payer**, also when an attempt before it left
the token short. -/
theorem newBillingSession_debited (hq : 0 ≤ quota) (hnew : db.records.find? info.requestId = none)
    (h : (newBillingSession env info quota db).result = .ok s) :
    ∃ db₁, db₁ = { db with tokens := db₁.tokens } ∧ CreatedFor info s ∧
      Debited env info s db₁ (newBillingSession env info quota db).db := by
  obtain ⟨userQuota, db₁, a, hre, rfl | rfl, hs, hdb⟩ := newBillingSession_attempt h
  · rw [hdb]
    obtain ⟨⟨q, hpos, hop⟩, hdeb⟩ := tryWallet_ok hq hs
    exact ⟨db₁, hre, .inl ⟨q, hpos, hop.of_userQuota⟩, hdeb.token, hdeb.funding⟩
  · rw [hdb]
    obtain ⟨⟨q, f, hpos, hreq, hrq, hpre, hop⟩, hdeb⟩ :=
      trySubscription_ok (by rw [hre]; exact hnew) hs
    exact ⟨db₁, hre, .inr ⟨q, f, hpos, hreq, hrq, hpre, hop.of_userQuota⟩, hdeb.token, hdeb.funding⟩

/-- What a new session holds, and whether the trust check passed. -/
theorem newBillingSession_opened (hq : 0 ≤ quota)
    (h : (newBillingSession env info quota db).result = .ok s) :
    ∃ held funding, 0 ≤ held ∧ s.Opened info held funding := by
  obtain ⟨userQuota, db', _, -, rfl | rfl, hs, -⟩ := newBillingSession_attempt h
  · obtain ⟨⟨held, hpos, hop⟩, -⟩ := tryWallet_ok hq hs
    exact ⟨held, _, hpos, hop.of_userQuota⟩
  have hpos : 0 ≤ if quota ≤ 0 then 1 else quota := by
    split <;> omega
  obtain ⟨held, _, funding, -, hhd, -, -, hop⟩ :=
    preConsume_ok hpos (Prod.ext hs rfl)
  exact ⟨held, funding, hhd, hop.of_userQuota⟩

end Outcome

/-- What the sessions of the sample store read. -/
def sampleBillingEnv : BillingEnv where
  trustQuota := 0
  tokenQuota := 1000
  getUserQuota := .ok 1000
  subscription := sampleEnv
  walletFault := none
  tokenFault := fun _ => none
  rollbackFault := fun _ => none
  hasActiveNow := 100
  hasActiveFault := none
  overflowNow := 100
  overflowFault := none

/-- A request of user 7 with token 9. -/
def sampleInfo : RelayInfo where
  userId := 7
  tokenId := 9
  requestId := "r"
  billingPreference := "subscription_first"
  isPlayground := false
  tokenUnlimited := false
  forcePreConsume := false
  userQuota := 0
  finalPreConsumedQuota := 0
  billingSource := none
  subscriptionId := 0
  subscriptionPreConsumed := 0
  subscriptionPostDelta := 0
  subscriptionAmountTotal := 0
  subscriptionAmountUsedAfterPreConsume := 0

/-- The sample request gets a session, which took what it says. -/
theorem newBillingSession_sample :
    sampleBillingEnv.RollsBack ∧ sampleStore.records.find? sampleInfo.requestId = none ∧
    ∃ s, (newBillingSession sampleBillingEnv sampleInfo 100 sampleStore).result = .ok s ∧
      Debited sampleBillingEnv sampleInfo s sampleStore
        (newBillingSession sampleBillingEnv sampleInfo 100 sampleStore).db := by
  have hro : sampleBillingEnv.RollsBack := fun _ => rfl
  have hnew : sampleStore.records.find? sampleInfo.requestId = none := rfl
  have hquo : (0 : Int) ≤ 100 := by decide
  obtain ⟨-, hses, -⟩ := newBillingSession_all_or_nothing hro hquo hnew
  have hok : (newBillingSession sampleBillingEnv sampleInfo 100 sampleStore).result.isOk
      = true := by
    decide +kernel
  refine ⟨hro, hnew, ?_⟩
  cases hres : (newBillingSession sampleBillingEnv sampleInfo 100 sampleStore).result with
  | error e =>
    rw [hres] at hok
    cases hok
  | ok s => exact ⟨s, rfl, (hses s hres).1⟩

/-- Users with more than ten units are trusted. -/
def trustedEnv : BillingEnv := { sampleBillingEnv with trustQuota := 10 }

/-- The sample request, paid by the wallet. -/
def walletInfo : RelayInfo := { sampleInfo with billingPreference := "wallet_only" }

/-- The session it gets for an estimate of 50: nothing is taken. -/
def trustedSession : BillingSession where
  relayInfo := { walletInfo with userQuota := 1000, billingSource := some .wallet }
  funding := .wallet ⟨7, 0⟩
  preConsumedQuota := 0
  tokenConsumed := 0
  extraReserved := 0
  trusted := true
  trustedQuota := 50
  fundingSettled := false
  settled := false
  refunded := false

theorem newBillingSession_trusted :
    (newBillingSession trustedEnv walletInfo 50 sampleStore).result = .ok trustedSession := by
  decide +kernel

end NewApi
