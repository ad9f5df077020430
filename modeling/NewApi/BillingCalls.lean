import NewApi.BillingAtomicity

/-! # The calls on a live session

After `NewBillingSession` a session lives through any number of `Reserve`,
`Settle` and `Refund` calls.  Other requests run in between, so every call brings
the tables as it finds them (`Invocation.db`) and which of its statements fail.

`Held` is the invariant of a live session: its counters all stand for the same
amount.  For each call there is one lemma that says what it takes from the payer
and from the token, as differences of the balances before and after, and what
session it leaves: `reserve_held`, `settle_held` and `refund_held`. -/
namespace NewApi

/-- A call on a live session. -/
inductive Call where
  | reserve (targetQuota : Int)
  | settle (actualQuota : Int)
  | refund

/-- A call, the tables it finds and the statements of it that fail. -/
structure Invocation where
  db : Store
  faults : BillingSession.Faults
  call : Call

/-- Where a session's money comes from: a wallet or a subscription row. -/
inductive Payer where
  | wallet (userId : Int)
  | subscription (id : Int)
  deriving DecidableEq

def FundingSource.payer : FundingSource → Payer
  | .wallet w => .wallet w.userId
  | .subscription f => .subscription f.subscriptionId

/-- What a call took from the payer. -/
def Payer.taken (p : Payer) (db db' : Store) : Int :=
  match p with
  | .wallet id => db.userBalance id - db'.userBalance id
  | .subscription id =>
      (usedOf db'.subscriptions id).getD 0 - (usedOf db.subscriptions id).getD 0

/-- What a call took from the token of `info`. -/
def RelayInfo.tokenTaken (info : RelayInfo) (db db' : Store) : Int :=
  db.tokenBalance info.tokenId - db'.tokenBalance info.tokenId

/-- The most a call gives back to a subscription row. -/
def Call.givesBack (s : BillingSession) : Call → Int
  | .reserve _ => 0
  | .settle actual => max 0 (s.preConsumedQuota - actual)
  | .refund => s.preConsumedQuota

/-- The row and the record of a subscription session are as the session left them:
the row has not been reset, so that it counts at least what a call gives back, and
the record is still consumed. -/
structure Invocation.RowIntact (s : BillingSession) (f : SubscriptionFunding) (i : Invocation) :
    Prop where
  attempt : ∃ k, i.faults.refundFunding k = none
  row : ∃ sub, i.db.subscriptions.find? f.subscriptionId = some sub ∧
    0 ≤ sub.amountUsed ∧ i.call.givesBack s ≤ sub.amountUsed ∧
    (0 < sub.amountTotal → sub.amountUsed ≤ sub.amountTotal)
  record : ∃ userId, i.db.records.find? f.requestId =
    some ⟨f.requestId, userId, f.subscriptionId, f.preConsumed, .consumed⟩

/-- The updates that take back or settle apply exactly their delta.  `Reserve` may
fail at either step, and `Settle` at its funding step. -/
def Invocation.Exact (s : BillingSession) (i : Invocation) : Prop :=
  s.settled = false → s.refunded = false →
    i.faults.rollback = none ∧ i.faults.settleToken = none ∧ i.faults.refundExtra = none ∧
    i.faults.refundToken = none ∧
    match s.funding with
    | .wallet _ => i.faults.refundWallet = none
    | .subscription f => i.RowIntact s f

/-! ## What a statement takes -/

/-- Going from `db` to `db'` took `x` from the payer and `y` from the token. -/
structure Takes (info : RelayInfo) (payer : Payer) (x y : Int) (db db' : Store) : Prop where
  funding : payer.taken db db' = x
  token : info.tokenTaken db db' = y

open RelayInfo Store

theorem RelayInfo.tokenShare_zero (info : RelayInfo) : info.tokenShare 0 = 0 := by
  simp [tokenShare]

namespace Takes
variable {info : RelayInfo} {payer : Payer} {x y x' y' : Int} {db db' db'' : Store}

theorem refl (info : RelayInfo) (payer : Payer) (db : Store) : Takes info payer 0 0 db db := by
  refine ⟨?_, ?_⟩
  · cases payer <;> simp [Payer.taken]
  · simp [tokenTaken]

theorem nothing (info : RelayInfo) (payer : Payer) (db : Store) :
    Takes info payer 0 (info.tokenShare 0) db db := by
  rw [info.tokenShare_zero]
  exact refl info payer db

theorem trans (h : Takes info payer x y db db') (h' : Takes info payer x' y' db' db'') :
    Takes info payer (x + x') (y + y') db db'' := by
  obtain ⟨rfl, rfl⟩ := h
  obtain ⟨rfl, rfl⟩ := h'
  refine ⟨?_, ?_⟩
  · cases payer <;> simp only [Payer.taken] <;> omega
  simp only [tokenTaken]
  omega

theorem of_movesUser (info : RelayInfo) {id d : Int} (h : Store.MovesUser id d db db') :
    Takes info (.wallet id) (-d) 0 db db' := by
  refine ⟨?_, ?_⟩
  · rw [Payer.taken, h.balance, if_pos rfl]
    omega
  · rw [tokenTaken, h.rest]
    exact Int.sub_self _

theorem of_movesToken {d : Int} (h : Store.MovesToken info.tokenId d db db') :
    Takes info payer 0 (-d) db db' := by
  refine ⟨?_, ?_⟩
  · rw [h.rest]
    cases payer <;> exact Int.sub_self _
  · rw [tokenTaken, h.balance, if_pos rfl]
    omega

end Takes

variable {id delta : Int}

/-- A delta that the row can give is applied exactly. -/
theorem postConsumeTx_takes (info : RelayInfo) {db db' : Store}
    {sub : UserSubscription} (hrow : db.subscriptions.find? id = some sub)
    (hpos : 0 ≤ sub.amountUsed + delta)
    (h : postConsumeUserSubscriptionDeltaTx id delta db = .ok db') :
    Takes info (.subscription id) delta 0 db db' ∧
      db'.subscriptions.find? id = some { sub with amountUsed := sub.amountUsed + delta } ∧
      db'.records = db.records := by
  have hid : sub.id = id := (db.subscriptions.find?_eq_some_iff.mp hrow).2
  rw [postConsumeUserSubscriptionDeltaTx, hrow] at h
  simp only at h
  split at h
  · cases h
  cases h
  have hus : clampZero (sub.amountUsed + delta) = sub.amountUsed + delta := by
    rw [clampZero_eq_max]
    omega
  have hsav : (db.subscriptions.save { sub with amountUsed := sub.amountUsed + delta }).find? id
      = some { sub with amountUsed := sub.amountUsed + delta } := by
    subst hid
    exact db.subscriptions.find?_save_self hrow
  rw [hus]
  refine ⟨⟨?_, ?_⟩, hsav, rfl⟩
  · simp only [Payer.taken, usedOf, hsav, hrow, Option.map_some, Option.getD_some]
    omega
  · exact Int.sub_self _

theorem postConsumeTx_ok {db : Store} {sub : UserSubscription}
    (hrow : db.subscriptions.find? id = some sub) (hpos : 0 ≤ sub.amountUsed + delta)
    (htot : 0 < sub.amountTotal → sub.amountUsed + delta ≤ sub.amountTotal) :
    ∃ db', postConsumeUserSubscriptionDeltaTx id delta db = .ok db' := by
  have hus : clampZero (sub.amountUsed + delta) = sub.amountUsed + delta := by
    rw [clampZero_eq_max]
    omega
  rw [postConsumeUserSubscriptionDeltaTx, hrow]
  simp only [hus]
  rw [if_neg (by omega)]
  exact ⟨_, rfl⟩

/-- The guards of `PostConsumeUserSubscriptionDelta` around the transaction. -/
theorem postConsumeDelta_ok_iff (hdel : delta ≠ 0) (fault : Fault)
    (db db' : Store) : postConsumeUserSubscriptionDelta fault id delta db = .ok db' ↔
      0 < id ∧ fault = none ∧ postConsumeUserSubscriptionDeltaTx id delta db = .ok db' := by
  unfold postConsumeUserSubscriptionDelta
  split
  · constructor
    · intro h
      cases h
    · rintro ⟨hid, -⟩
      omega
  split
  · simp
  constructor
  · intro h
    exact ⟨by omega, rfl, h⟩
  · rintro ⟨-, -, h⟩
    exact h

/-! ## A live session -/

namespace BillingSession
variable {info : RelayInfo} {payer : Payer} {s : BillingSession} {i : Invocation}

/-- **The invariant of a live session** of `info` that `payer` pays for: every
counter stands for the same amount. -/
structure Held (info : RelayInfo) (payer : Payer) (s : BillingSession) : Prop where
  payer_eq : s.funding.payer = payer
  token_eq : s.relayInfo.tokenId = info.tokenId ∧ s.relayInfo.isPlayground = info.isPlayground
  live : s.settled = false ∧ s.refunded = false ∧ s.fundingSettled = false
  nonneg : 0 ≤ s.preConsumedQuota
  tokenConsumed : s.tokenConsumed = s.preConsumedQuota
  funding : match s.funding with
    | .wallet w => w.consumed = s.preConsumedQuota
    | .subscription f => f.preConsumed + s.extraReserved = s.preConsumedQuota ∧
        0 < f.preConsumed ∧ 0 ≤ s.extraReserved ∧ trimSpace f.requestId ≠ "" ∧
        s.relayInfo.subscriptionId = f.subscriptionId ∧
        (0 < s.extraReserved → 0 < f.subscriptionId)

/-! ### Reserve -/

/-- The funding of a session after `delta` more has been reserved. -/
def grow (delta : Int) : FundingSource → FundingSource
  | .wallet w => .wallet { w with consumed := w.consumed + delta }
  | .subscription f => .subscription f

variable {delta : Int} {fault : Fault} {funding funding' : FundingSource}

open Takes

theorem reserveFunding_takes (info : RelayInfo) {db db₁ : Store} (hdel : 0 < delta)
    (hrow : ∀ f, funding = .subscription f →
      ∃ sub, db.subscriptions.find? f.subscriptionId = some sub ∧ 0 ≤ sub.amountUsed)
    (h : reserveFunding fault delta db funding = .ok (funding', db₁)) :
    funding' = grow delta funding ∧ Takes info funding.payer delta 0 db db₁ ∧
      ∀ f, funding = .subscription f → 0 < f.subscriptionId := by
  cases funding with
  | wallet w =>
    simp only [reserveFunding] at h
    split at h
    · rename_i hpre
      cases h
      have htak := of_movesUser info (preConsumeUserQuota_moves hpre)
      rw [Int.neg_neg] at htak
      exact ⟨rfl, htak, fun f hf => by cases hf⟩
    · cases h
    · cases h
  | subscription f =>
    simp only [reserveFunding] at h
    split at h
    · rename_i hpo
      cases h
      obtain ⟨hid, -, htx⟩ := (postConsumeDelta_ok_iff (by omega) _ _ _).mp hpo
      obtain ⟨sub, hsub, hus⟩ := hrow f rfl
      obtain ⟨htak, -⟩ := postConsumeTx_takes info hsub (by omega) htx
      refine ⟨rfl, htak, fun f' hf => ?_⟩
      cases hf
      exact hid
    · cases h

/-- Undoing the funding step of `Reserve` restores the payer and the session. -/
theorem rollbackFundingReserve_takes (info : RelayInfo) {db db₁ : Store} (hdel : 0 < delta)
    (hrow : ∀ f, funding = .subscription f →
      ∃ sub, db.subscriptions.find? f.subscriptionId = some sub ∧ 0 ≤ sub.amountUsed ∧
        (0 < sub.amountTotal → sub.amountUsed ≤ sub.amountTotal))
    (h : reserveFunding fault delta db funding = .ok (funding', db₁)) :
    ∃ db₂, rollbackFundingReserve none delta db₁ funding' = (funding, db₂) ∧
      Takes info funding.payer (-delta) 0 db₁ db₂ := by
  obtain ⟨rfl, -, hid⟩ := reserveFunding_takes info hdel
    (fun f hf => (hrow f hf).imp fun sub hsub => ⟨hsub.1, hsub.2.1⟩) h
  cases funding with
  | wallet w =>
    obtain ⟨db₂, hinc⟩ := increaseUserQuota_ok w.userId db₁ (Int.le_of_lt hdel)
    refine ⟨db₂, ?_, of_movesUser info (increaseUserQuota_moves hinc)⟩
    have hba : w.consumed + delta - delta = w.consumed := by omega
    simp only [grow, rollbackFundingReserve, hinc, hba]
  | subscription f =>
    simp only [reserveFunding] at h
    split at h
    · rename_i hpo
      cases h
      obtain ⟨-, -, htx⟩ := (postConsumeDelta_ok_iff (by omega) _ _ _).mp hpo
      obtain ⟨sub, hsub, hus, htot⟩ := hrow f rfl
      obtain ⟨-, hrow₁, -⟩ := postConsumeTx_takes info hsub (by omega) htx
      -- the row has just taken `delta`, so giving it back is not clamped
      obtain ⟨db₂, htx₂⟩ : ∃ db₂, postConsumeUserSubscriptionDeltaTx f.subscriptionId (-delta) db₁
          = .ok db₂ := postConsumeTx_ok hrow₁ (by simp only; omega) (by simp only; omega)
      obtain ⟨htak, -⟩ := postConsumeTx_takes info hrow₁ (by simp only; omega) htx₂
      refine ⟨db₂, ?_, htak⟩
      have hpo₂ := (postConsumeDelta_ok_iff (by omega) none _ _).mpr ⟨hid f rfl, rfl, htx₂⟩
      simp only [grow, rollbackFundingReserve, hpo₂]
    · cases h

theorem reserveToken_takes (hhd : Held info payer s)
    {db db' : Store} (hdel : 0 < delta) (h : reserveToken fault s.relayInfo delta db = .ok db') :
    Takes info payer 0 (info.tokenShare delta) db db' := by
  obtain ⟨htok, hpl⟩ := hhd.token_eq
  unfold reserveToken at h
  split at h
  · rename_i hno
    cases h
    have hsha : info.tokenShare delta = 0 := by
      rw [tokenShare, ← hpl]
      rcases hno with hle | hpl
      · omega
      rw [hpl]
      rfl
    rw [hsha]
    exact refl info payer db
  split at h
  · rename_i hpre
    cases h
    have hmov := preConsumeTokenQuota_moves hpre
    rw [htok, tokenShare, hpl] at hmov
    have htak : Takes info payer 0 _ db db' := of_movesToken hmov
    rw [Int.neg_neg] at htak
    exact htak
  · cases h

/-- A live session after `delta` more has been reserved from both sides. -/
theorem Held.grow (hhd : Held info payer s) (hdel : 0 < delta)
    (hid : ∀ f, s.funding = .subscription f → 0 < f.subscriptionId) :
    Held info payer (syncRelayInfo { s with
      funding := BillingSession.grow delta s.funding
      preConsumedQuota := s.preConsumedQuota + delta
      tokenConsumed := s.tokenConsumed + delta
      extraReserved := s.extraReserved + delta }) := by
  obtain ⟨hpay, htok, hlv, hnon, hcon, hfun⟩ := hhd
  have hnn : 0 ≤ s.preConsumedQuota + delta := by omega
  have hsm : s.tokenConsumed + delta = s.preConsumedQuota + delta := by omega
  cases hf : s.funding with
  | wallet w =>
    rw [hf] at hpay hfun
    refine ⟨hpay, htok, hlv, hnn, hsm, ?_⟩
    show w.consumed + delta = s.preConsumedQuota + delta
    rw [hfun]
  | subscription f =>
    rw [hf] at hpay hfun
    obtain ⟨hsum, hpre, hext, hreq, -, -⟩ := hfun
    refine ⟨hpay, htok, hlv, hnn, hsm, ?_, hpre, ?_, hreq, rfl, fun _ => hid f hf⟩
    · show f.preConsumed + (s.extraReserved + delta) = s.preConsumedQuota + delta
      omega
    · show 0 ≤ s.extraReserved + delta
      omega

/-- **`Reserve` keeps a live session**, and takes from both sides what it adds to
`preConsumedQuota`, also when it fails half way. -/
theorem reserve_held (hhd : Held info payer s) (hexa : i.Exact s) (target : Int) :
    ∃ err s' db' d, s.reserve i.faults target i.db = (err, s', db') ∧ Held info payer s' ∧
      s'.preConsumedQuota = s.preConsumedQuota + d ∧
      Takes info payer d (info.tokenShare d) i.db db' := by
  obtain ⟨hset, href, -⟩ := hhd.live
  obtain ⟨hrol, -, -, -, hsrc⟩ := hexa hset href
  have hrow : ∀ f, s.funding = .subscription f →
      ∃ sub, i.db.subscriptions.find? f.subscriptionId = some sub ∧ 0 ≤ sub.amountUsed ∧
        (0 < sub.amountTotal → sub.amountUsed ≤ sub.amountTotal) := by
    intro f hf
    rw [hf] at hsrc
    obtain ⟨sub, hsub, hus, -, htot⟩ := hsrc.row
    exact ⟨sub, hsub, hus, htot⟩
  simp only [reserve]
  split
  · exact ⟨_, _, _, 0, rfl, hhd, by omega, nothing info payer i.db⟩
  have hdel : 0 < target - s.preConsumedQuota := by omega
  split
  · exact ⟨_, _, _, 0, rfl, hhd, by omega, nothing info payer i.db⟩
  rename_i funding' db₁ hfn
  obtain ⟨rfl, htak, hid⟩ := reserveFunding_takes info hdel
    (fun f hf => (hrow f hf).imp fun sub hsub => ⟨hsub.1, hsub.2.1⟩) hfn
  rw [hhd.payer_eq] at htak
  split
  · -- the token refused: the funding step is undone
    obtain ⟨db₂, hba, hret⟩ := rollbackFundingReserve_takes info hdel hrow hfn
    rw [hhd.payer_eq] at hret
    have hbo := htak.trans hret
    rw [Int.add_right_neg, Int.add_zero] at hbo
    rw [hrol, hba]
    refine ⟨_, _, _, 0, rfl, hhd, by simp, ?_⟩
    rw [tokenShare_zero]
    exact hbo
  · rename_i db₂ htok
    have hbo := htak.trans (reserveToken_takes hhd hdel htok)
    rw [Int.add_zero, Int.zero_add] at hbo
    exact ⟨_, _, _, _, rfl, hhd.grow hdel hid, by rw [syncRelayInfo_eq], hbo⟩

/-! ### Settle -/

theorem settleFunding_takes (hhd : Held info payer s) {db db' : Store} (hdel : delta ≠ 0)
    (hrow : ∀ f, s.funding = .subscription f →
      ∃ sub, db.subscriptions.find? f.subscriptionId = some sub ∧ 0 ≤ sub.amountUsed + delta)
    (h : s.funding.settle fault delta db = .ok db') : Takes info payer delta 0 db db' := by
  rw [← hhd.payer_eq]
  cases hf : s.funding with
  | wallet w =>
    rw [hf] at h
    simp only [FundingSource.settle, if_neg hdel] at h
    split at h
    · have htak := of_movesUser info (decreaseUserQuota_moves h)
      rw [Int.neg_neg] at htak
      exact htak
    · have htak := of_movesUser info (increaseUserQuota_moves h)
      rw [Int.neg_neg] at htak
      exact htak
  | subscription f =>
    rw [hf] at h
    simp only [FundingSource.settle, if_neg hdel] at h
    obtain ⟨-, -, htx⟩ := (postConsumeDelta_ok_iff hdel _ _ _).mp h
    obtain ⟨sub, hsub, hpos⟩ := hrow f hf
    exact (postConsumeTx_takes info hsub hpos htx).1

/-- The token step of `Settle`, when its statement runs. -/
theorem settleToken_takes (hhd : Held info payer s) (delta : Int) (db : Store) :
    ∃ db', settleToken none s.relayInfo delta db = .ok db' ∧
      Takes info payer 0 (info.tokenShare delta) db db' := by
  obtain ⟨htok, hpl⟩ := hhd.token_eq
  rw [settleToken, hpl, htok, tokenShare]
  split
  · exact ⟨db, rfl, refl info payer db⟩
  split
  · have hpos : 0 ≤ delta := by omega
    obtain ⟨db', hdec⟩ := decreaseTokenQuota_ok info.tokenId db hpos
    have htak : Takes info payer 0 _ db db' :=
      of_movesToken (decreaseTokenQuota_moves hdec)
    rw [Int.neg_neg] at htak
    exact ⟨db', hdec, htak⟩
  · have hpos : 0 ≤ -delta := by omega
    obtain ⟨db', hinc⟩ := increaseTokenQuota_ok info.tokenId db hpos
    have htak : Takes info payer 0 _ db db' :=
      of_movesToken (increaseTokenQuota_moves hinc)
    rw [Int.neg_neg] at htak
    exact ⟨db', hinc, htak⟩

/-- **`Settle` on a live session** either is refused and changes nothing, or moves
both sides to the actual amount. -/
theorem settle_held (hhd : Held info payer s) (hexa : i.Exact s) {actual : Int}
    (hca : i.call = .settle actual) : ∃ err s' db', s.settle i.faults actual i.db = (err, s', db') ∧
      ((err ≠ none ∧ s' = s ∧ db' = i.db) ∨ (err = none ∧ s'.settled = true ∧
        Takes info payer (actual - s.preConsumedQuota)
          (info.tokenShare (actual - s.preConsumedQuota)) i.db db')) := by
  obtain ⟨hset, href, hcom⟩ := hhd.live
  obtain ⟨-, htk, -, -, hsrc⟩ := hexa hset href
  simp only [settle, hset, hcom, Bool.false_eq_true, if_false]
  split
  · rename_i hz
    rw [hz]
    exact ⟨_, _, _, rfl, .inr ⟨rfl, rfl, nothing info payer i.db⟩⟩
  rename_i hdel
  split
  · exact ⟨_, _, _, rfl, .inl ⟨by simp, rfl, rfl⟩⟩
  rename_i db₁ hfn
  have hrow : ∀ f, s.funding = .subscription f →
      ∃ sub, i.db.subscriptions.find? f.subscriptionId = some sub ∧
        0 ≤ sub.amountUsed + (actual - s.preConsumedQuota) := by
    intro f hf
    rw [hf] at hsrc
    obtain ⟨sub, hsub, -, hgiv, -⟩ := hsrc.row
    rw [hca, Call.givesBack] at hgiv
    exact ⟨sub, hsub, by omega⟩
  -- the funding step is committed; what is left is the token, whose statement runs
  have htak := settleFunding_takes hhd hdel hrow hfn
  obtain ⟨db₂, htok, htkT⟩ := settleToken_takes hhd (actual - s.preConsumedQuota) db₁
  have hbo := htak.trans htkT
  rw [Int.add_zero, Int.zero_add] at hbo
  rw [htk, htok]
  exact ⟨_, _, _, rfl, .inr ⟨rfl, rfl, hbo⟩⟩

/-! ### Refund -/

open FundingSource

/-- A refund that fails only by database errors runs at the attempt that has none. -/
theorem refundWithRetry_ok {faults : Fin 3 → Fault} {fn : Fault → Except StoreError Store}
    {db : Store} (hso : ∃ k, faults k = none) (hfn : fn none = .ok db)
    (hflt : ∀ text, ∃ e, fn (some text) = .error e) : refundWithRetry faults fn = .ok db := by
  have hca : ∀ k, fn (faults k) = .ok db ∨ ∃ e, faults k ≠ none ∧ fn (faults k) = .error e := by
    intro k
    cases hk : faults k with
    | none => exact .inl hfn
    | some text =>
      obtain ⟨e, he⟩ := hflt text
      exact .inr ⟨e, by simp, he⟩
  unfold refundWithRetry
  rcases hca 0 with h0 | ⟨e0, hne0, h0⟩
  · rw [h0]
  rcases hca 1 with h1 | ⟨e1, hne1, h1⟩
  · rw [h0, h1]
  rcases hca 2 with h2 | ⟨e2, hne2, h2⟩
  · rw [h0, h1, h2]
  obtain ⟨k, hk⟩ := hso
  match k with
  | 0 => exact absurd hk hne0
  | 1 => exact absurd hk hne1
  | 2 => exact absurd hk hne2

/-- Refunding a consumed record gives back what it holds. -/
theorem refundRecord_takes (info : RelayInfo) {requestId : String} {userId id amount : Int}
    {db : Store} {sub : UserSubscription} (hreq : trimSpace requestId ≠ "") (hpos : 0 < amount)
    (hrec : db.records.find? requestId = some ⟨requestId, userId, id, amount, .consumed⟩)
    (hrow : db.subscriptions.find? id = some sub) (hus : amount ≤ sub.amountUsed)
    (htot : 0 < sub.amountTotal → sub.amountUsed ≤ sub.amountTotal) :
    ∃ db', refundSubscriptionPreConsume none requestId db = .ok db' ∧
      Takes info (.subscription id) (-amount) 0 db db' ∧
      db'.subscriptions.find? id = some { sub with amountUsed := sub.amountUsed - amount } := by
  obtain ⟨db₁, htx⟩ : ∃ db₁, postConsumeUserSubscriptionDeltaTx id (-amount) db = .ok db₁ :=
    postConsumeTx_ok hrow (by omega) (by omega)
  obtain ⟨htak, hrow₁, -⟩ := postConsumeTx_takes info hrow (by omega) htx
  simp only [refundSubscriptionPreConsume, hreq, if_false, hrec, reduceCtorEq, htx]
  rw [if_neg (by omega)]
  exact ⟨_, rfl, ⟨htak.funding, htak.token⟩, hrow₁⟩

theorem returnToken_takes (hhd : Held info payer s) (db : Store) :
    Takes info payer 0 (-info.tokenShare s.preConsumedQuota) db (s.returnToken none db) := by
  obtain ⟨htok, hpl⟩ := hhd.token_eq
  have hnon := hhd.nonneg
  rw [returnToken, hhd.tokenConsumed, hpl, htok, tokenShare]
  by_cases hfr : info.isPlayground = true
  · rw [if_pos hfr, if_neg (by simp [hfr])]
    exact refl info payer db
  rw [if_neg hfr]
  by_cases hpos : 0 < s.preConsumedQuota
  · obtain ⟨db', hinc⟩ := increaseTokenQuota_ok info.tokenId db hnon
    rw [if_pos ⟨hpos, by simpa using hfr⟩, hinc]
    exact of_movesToken (increaseTokenQuota_moves hinc)
  · have hz : s.preConsumedQuota = 0 := by omega
    rw [if_neg (fun h => hpos h.1), hz]
    exact refl info payer db

/-- The funding half of `Refund` gives back all the session holds. -/
theorem refundFunding_takes (hhd : Held info payer s) (hexa : i.Exact s) (hca : i.call = .refund) :
    Takes info payer (-s.preConsumedQuota) 0 i.db (s.refundFunding i.faults i.db) := by
  obtain ⟨hset, hrf, -⟩ := hhd.live
  obtain ⟨-, -, hex, -, hsrc⟩ := hexa hset hrf
  have hnon := hhd.nonneg
  have hfun := hhd.funding
  rw [← hhd.payer_eq]
  unfold refundFunding
  cases hf : s.funding with
  | wallet w =>
    rw [hf] at hsrc hfun
    simp only [Faults.refundWallet] at hsrc hfun
    simp only [FundingSource.refund, source, reduceCtorEq, false_and, and_false,
      if_false, hfun, hsrc]
    by_cases hle : s.preConsumedQuota ≤ 0
    · have hz : s.preConsumedQuota = 0 := by omega
      rw [if_pos hle, hz]
      exact refl info _ i.db
    · obtain ⟨db', hinc⟩ := increaseUserQuota_ok w.userId i.db hnon
      rw [if_neg hle, hinc]
      exact of_movesUser info (increaseUserQuota_moves hinc)
  | subscription f =>
    rw [hf] at hsrc hfun
    obtain ⟨hsum, hpre, hext, hreq, hsub, hid⟩ := hfun
    obtain ⟨hatt, ⟨sub, hrow, -, hgiv, htot⟩, userId, hrec⟩ := hsrc
    rw [hca, Call.givesBack] at hgiv
    obtain ⟨db₁, href, htak, hrow₁⟩ := refundRecord_takes info hreq hpre hrec hrow (by omega) htot
    have hret : refundWithRetry i.faults.refundFunding
        (fun fault => refundSubscriptionPreConsume fault f.requestId i.db) = .ok db₁ := by
      refine refundWithRetry_ok hatt href fun text => ?_
      exact ⟨_, by rw [refundSubscriptionPreConsume, if_neg hreq]⟩
    have hgo : ¬ f.preConsumed ≤ 0 := by omega
    simp only [FundingSource.refund, source, hgo, if_false, hret, hsub, true_and]
    split
    · -- the record is given back; what was reserved on top of it follows
      rename_i hmo
      obtain ⟨db₂, htx⟩ : ∃ db₂, postConsumeUserSubscriptionDeltaTx f.subscriptionId
          (-s.extraReserved) db₁ = .ok db₂ :=
        postConsumeTx_ok hrow₁ (by simp only; omega) (by simp only; omega)
      have hpo := (postConsumeDelta_ok_iff (by omega) none _ _).mpr ⟨hmo.2, rfl, htx⟩
      obtain ⟨htak₂, -⟩ := postConsumeTx_takes info hrow₁ (by simp only; omega) htx
      have hbo := htak.trans htak₂
      rw [show -f.preConsumed + -s.extraReserved = -s.preConsumedQuota by omega,
        Int.add_zero] at hbo
      rw [hex, hpo]
      exact hbo
    · rw [show -s.preConsumedQuota = -f.preConsumed by omega]
      exact htak

/-- **`Refund` on a live session** either finds nothing to give back, or gives back
all the session holds. -/
theorem refund_held (hhd : Held info payer s) (hexa : i.Exact s) (hca : i.call = .refund) :
    ∃ s' db', s.refund i.faults i.db = (s', db') ∧ ((s' = s ∧ db' = i.db) ∨
       (s'.refunded = true ∧ s'.settled = false ∧
        Takes info payer (-s.preConsumedQuota) (-info.tokenShare s.preConsumedQuota) i.db
          db')) := by
  obtain ⟨hset, href, -⟩ := hhd.live
  obtain ⟨-, -, -, htok, -⟩ := hexa hset href
  unfold refund
  split
  · exact ⟨_, _, rfl, .inl ⟨rfl, rfl⟩⟩
  have hbo := (refundFunding_takes hhd hexa hca).trans (returnToken_takes hhd
    (s.refundFunding i.faults i.db))
  rw [Int.add_zero, Int.zero_add] at hbo
  rw [htok]
  exact ⟨_, _, rfl, .inr ⟨rfl, hset, hbo⟩⟩

end BillingSession

end NewApi
