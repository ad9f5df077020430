import NewApi.TaskBilling

/-! # What a task takes and what its refund gives back

The session of a request holds what its payer has been debited, through all
attempts of `RelayTask` (`TaskCharge.sound_step`), and the stored task names that
payer however it is polled.  What comes of the settlement, though, is logged and
forgotten: the quota a refund gives back is stored before the settlement and
regardless of it.

So a failed task gives back what it took if the settlement and the refund were
both carried out in full, and otherwise only if what is missing of one happens to
be missing of the other (`credited_eq_debited_iff`).  A settlement that the
subscription refuses is given back all the same
(`refused_settlement_given_back`). -/
namespace NewApi
open Option Steps TaskCharge

/-! ## Sessions know who pays -/

namespace BillingSession
variable {env : BillingEnv} {info : RelayInfo} {quota : Int} {s s' : BillingSession}
  {funding : FundingSource} {db db' : Store}

/-- The relay info names the payer of the session. -/
structure Bound (info : RelayInfo) (s : BillingSession) : Prop where
  userId : s.relayInfo.userId = info.userId
  source : s.relayInfo.billingSource = some s.funding.source
  wallet : ∀ w, s.funding = .wallet w → w.userId = info.userId

theorem bound_syncRelayInfo (hur : s.relayInfo.userId = info.userId)
    (hwal : ∀ w, s.funding = .wallet w → w.userId = info.userId) : s.syncRelayInfo.Bound info := by
  unfold syncRelayInfo
  cases hf : s.funding with
  | wallet w | subscription f => exact ⟨hur, rfl, fun w' hw' => hwal w' (hf.trans hw')⟩

theorem relayInfo_preConsumeToken {fault : Fault} {db₁ : Store}
    (h : s.preConsumeToken fault quota db = .ok (s', db₁)) :
    s'.relayInfo = s.relayInfo ∧ s'.funding = s.funding := by
  unfold preConsumeToken at h
  split at h
  · split at h
    · cases h
    cases h
    exact ⟨rfl, rfl⟩
  · cases h
    exact ⟨rfl, rfl⟩

variable {funding' : FundingSource}

/-- Taking from a source does not change whose it is. -/
theorem wallet_preConsume
    (h : funding.preConsume env quota db = .ok (funding', db')) {w' : WalletFunding}
    (hw' : funding' = .wallet w') : ∃ w, funding = .wallet w ∧ w'.userId = w.userId := by
  cases funding with
  | wallet w =>
    simp only [FundingSource.preConsume] at h
    split at h
    · cases h
      cases hw'
      exact ⟨_, rfl, rfl⟩
    · split at h
      · cases h
      cases h
      cases hw'
      exact ⟨_, rfl, rfl⟩
  | subscription f =>
    simp only [FundingSource.preConsume] at h
    split at h
    · cases h
    cases h
    cases hw'

theorem bound_preConsume (hwal : ∀ w, funding = .wallet w → w.userId = info.userId)
    (h : (start info funding).preConsume env quota db = (.ok s, db')) : s.Bound info := by
  simp only [preConsume] at h
  split at h
  · cases h
  rename_i s₁ db₁ htok
  obtain ⟨hin, hfun⟩ := relayInfo_preConsumeToken htok
  rw [trust_relayInfo] at hin
  rw [trust_funding] at hfun
  split at h
  · cases h
  rename_i funding' db₂ hfn
  cases h
  rw [hfun] at hfn
  refine bound_syncRelayInfo (congrArg RelayInfo.userId hin) fun w' hw' => ?_
  obtain ⟨w, hw, hsm⟩ := wallet_preConsume hfn hw'
  exact hsm.trans (hwal w hw)

theorem bound_newBillingSession (h : (newBillingSession env info quota db).result = .ok s) :
    s.Bound info := by
  obtain ⟨userQuota, db₁, _, -, rfl | rfl, hs, -⟩ := newBillingSession_attempt h
  · rcases tryWallet_cases env { info with userQuota := userQuota } quota db₁ with
      ⟨_, he, -⟩ | ⟨userQuota', hpre⟩
    · rw [hs] at he
      cases he
    rw [hs] at hpre
    obtain ⟨hur, hsrc, hwal⟩ := bound_preConsume (fun w hw => by cases hw; rfl) hpre
    exact ⟨hur, hsrc, hwal⟩
  · obtain ⟨hur, hsrc, hwal⟩ := bound_preConsume (fun w hw => by cases hw) (Prod.ext hs rfl)
    exact ⟨hur, hsrc, hwal⟩

theorem reserveFunding_row {fault : Fault} {delta : Int} {f : SubscriptionFunding}
    (hdel : 0 < delta) (h : reserveFunding fault delta db (.subscription f) = .ok (funding', db')) :
    ∃ sub, db.subscriptions.find? f.subscriptionId = some sub := by
  simp only [reserveFunding] at h
  split at h
  · rename_i hpo
    obtain ⟨-, -, htx⟩ := (postConsumeDelta_ok_iff (by omega) _ _ _).mp hpo
    obtain ⟨sub, -, hrow, -⟩ := postConsumeTx_spec htx
    exact ⟨sub, hrow⟩
  · cases h

/-- **A `Reserve` that returns `nil`** took from the payer what it added to the session. -/
theorem reserve_ok {payer : Payer} {faults : Faults} {target : Int} (hhd : Held info payer s)
    (hbd : s.Bound info) (hrows : ∀ sub ∈ db.subscriptions.rows, 0 ≤ sub.amountUsed)
    (h : s.reserve faults target db = (none, s', db')) : Held info payer s' ∧ s'.Bound info ∧
      payer.taken db db' = s'.preConsumedQuota - s.preConsumedQuota := by
  simp only [reserve] at h
  split at h
  · cases h
    exact ⟨hhd, hbd, by rw [(Takes.refl info payer db).funding, Int.sub_self]⟩
  -- past the early returns both steps ran, and the funding step took the difference
  have hdel : 0 < target - s.preConsumedQuota := by omega
  split at h
  · cases h
  rename_i funding' db₁ hfn
  have hrow : ∀ f, s.funding = .subscription f →
      ∃ sub, db.subscriptions.find? f.subscriptionId = some sub ∧ 0 ≤ sub.amountUsed := by
    intro f hf
    rw [hf] at hfn
    obtain ⟨sub, hsub⟩ := reserveFunding_row hdel hfn
    exact ⟨sub, hsub, hrows sub (db.subscriptions.find?_eq_some_iff.mp hsub).1⟩
  obtain ⟨rfl, htak, hid⟩ := reserveFunding_takes info hdel hrow hfn
  rw [hhd.payer_eq] at htak
  split at h
  · cases h
  rename_i db₂ htok
  cases h
  refine ⟨hhd.grow hdel hid, bound_syncRelayInfo hbd.userId fun w hw => ?_, ?_⟩
  · -- only the counter of a wallet grows
    cases hf : s.funding with
    | wallet w₀ =>
      rw [show grow _ s.funding = _ from congrArg (grow _) hf] at hw
      cases hw
      exact hbd.wallet w₀ hf
    | subscription f =>
      rw [show grow _ s.funding = _ from congrArg (grow _) hf] at hw
      cases hw
  · have hbo := (htak.trans (reserveToken_takes hhd hdel htok)).funding
    rw [hbo, syncRelayInfo_eq]
    simp only
    omega

end BillingSession

/-! ## What a request has been charged -/

namespace TaskCharge
variable {c c' : TaskCharge} {a : BillingAttempt}

/-- An attempt comes next.  The request id is new when the session is opened, and no
row counts below zero. -/
structure Step (c : TaskCharge) (a : BillingAttempt) (c' : TaskCharge) : Prop where
  attempt_eq : c.attempt a = some c'
  newRequest : c.ledger = none → a.db.records.find? c.info.requestId = none
  rows : ∀ sub ∈ a.db.subscriptions.rows, 0 ≤ sub.amountUsed

/-- The payer has been debited what the session holds. -/
structure Sound (c : TaskCharge) : Prop where
  fresh : c.ledger = none → c.info.billingSource = none ∧ c.info.finalPreConsumedQuota = 0
  live : ∀ l, c.ledger = some l → l.fundingNet = l.session.preConsumedQuota ∧
    l.session.Held c.info l.payer ∧ l.session.Bound c.info

theorem sound_opened {env : BillingEnv} {info : RelayInfo} {quota : Int} {db : Store}
    {s : BillingSession} (hq : 0 ≤ quota) (hnew : db.records.find? info.requestId = none)
    (hs : (newBillingSession env info quota db).result = .ok s) :
    Sound ⟨info, some (.opened env info s db (newBillingSession env info quota db).db)⟩ := by
  refine ⟨fun h => (by cases h), fun l hl => ?_⟩
  cases hl
  obtain ⟨db₁, hre, hcreate, hdeb⟩ := newBillingSession_debited hq hnew hs
  refine ⟨?_, Ledger.held_created hcreate, BillingSession.bound_newBillingSession hs⟩
  -- a failed attempt at the other source may have moved the token, but no funding
  have hsm : ∀ db' p, Ledger.openingTaken env.subscription db₁ db' p =
      Ledger.openingTaken env.subscription db db' p := by
    intro db' p
    rw [hre]
    cases p <;> rfl
  exact (hsm _ _).symm.trans (Ledger.openingTaken_debited hcreate hdeb)

/-- What an attempt that is billed does: nothing for a free model, else it opens the
session or reserves on it. -/
theorem attempt_cases (h : c.attempt a = some c') : c' = c ∨ (∃ s, c.ledger = none ∧ 0 ≤ a.quota ∧
      (newBillingSession a.env { c.info with forcePreConsume := true } a.quota a.db).result
        = .ok s ∧
      c' = ⟨{ c.info with forcePreConsume := true },
        some (.opened a.env { c.info with forcePreConsume := true } s a.db
          (newBillingSession a.env { c.info with forcePreConsume := true } a.quota a.db).db)⟩) ∨
    ∃ l s db', c.ledger = some l ∧ l.session.reserve a.faults a.quota a.db = (none, s, db') ∧
      c' = ⟨{ c.info with forcePreConsume := true }, some (l.enter s a.db db' none)⟩ := by
  unfold attempt at h
  split at h
  · cases h
    exact .inl rfl
  simp only at h
  split at h
  · cases h
  rename_i s db' hpre
  -- an estimate that was clamped or is negative is an error
  unfold preConsumeBilling at hpre
  split at hpre
  · cases hpre
  split at hpre
  · cases hpre
  cases hl : c.ledger with
  | none =>
    simp only [hl, session, map_none, Prod.mk.injEq, Option.some.injEq] at h hpre
    obtain ⟨hs, rfl⟩ := hpre
    exact .inr (.inl ⟨s, rfl, by omega, hs, h.symm⟩)
  | some l =>
    simp only [hl, session, map_some, Option.some.injEq] at h hpre
    split at hpre
    · cases hpre
    rename_i hres
    cases hpre
    exact .inr (.inr ⟨l, s, db', rfl, hres, h.symm⟩)

/-- **An attempt keeps the charge sound.** -/
theorem sound_step (hc : c.Sound) (hst : c.Step a c') : c'.Sound := by
  obtain ⟨hatt, hnew, hrows⟩ := hst
  rcases attempt_cases hatt with rfl | ⟨s, hl, hq, hs, rfl⟩ | ⟨l, s, db', hl, hres, rfl⟩
  · exact hc
  · exact sound_opened hq (hnew hl) hs
  · obtain ⟨hnet, hhd, hbd⟩ := hc.live l hl
    obtain ⟨hhd', hbd', htak⟩ := BillingSession.reserve_ok hhd hbd hrows hres
    refine ⟨fun h => (by cases h), fun l' hl' => ?_⟩
    cases hl'
    refine ⟨?_, ?_, ?_⟩
    · show l.fundingNet + l.payer.taken a.db db' = s.preConsumedQuota
      omega
    · exact { hhd' with }
    · exact { hbd' with }

theorem sound_run {as : List BillingAttempt} (hc : c.Sound) (hrun : Run Step c as c') : c'.Sound :=
  hrun.invariant (fun _ _ _ h hs => sound_step h hs) hc

theorem fundingNet_eq_reserved (hc : c.Sound) : c.fundingNet = c.reserved := by
  unfold fundingNet reserved
  cases hl : c.ledger with
  | none => rfl
  | some l => exact (hc.live l hl).1

end TaskCharge

/-! ## Polling keeps the billing of a task -/

/-- The columns that say who paid for a task, and how much. -/
structure Task.SameBilling (t t' : Task) : Prop where
  quota : t'.quota = t.quota
  userId : t'.userId = t.userId
  billingSource : t'.privateData.billingSource = t.privateData.billingSource
  subscriptionId : t'.privateData.subscriptionId = t.privateData.subscriptionId

/-- An update of a task by the poller. -/
inductive Poll where
  | sweep (timeoutMinutes now : Int)
  | suno (item : SunoDataResponse)
  | video (now : Int) (proxyURL : String → String) (body : VideoBody)

def Poll.transition (t : Task) : Poll → Transition
  | .sweep timeoutMinutes now => t.sweep timeoutMinutes now
  | .suno item => t.applySuno item
  | .video now proxyURL body => t.applyVideo now proxyURL body

/-- A poll goes from one state of a task to the next. -/
def Poll.Step (t : Task) (poll : Poll) (t' : Task) : Prop := t' = (poll.transition t).task

namespace Task
variable {t t' : Task}

theorem SameBilling.refl (t : Task) : t.SameBilling t := ⟨rfl, rfl, rfl, rfl⟩

theorem SameBilling.trans {t'' : Task} (h : t.SameBilling t') (h' : t'.SameBilling t'') :
    t.SameBilling t'' :=
  ⟨h'.quota.trans h.quota, h'.userId.trans h.userId, h'.billingSource.trans h.billingSource,
    h'.subscriptionId.trans h.subscriptionId⟩

theorem SameBilling.payer (h : t.SameBilling t') : t'.payer = t.payer := by
  unfold Task.payer
  rw [h.billingSource, h.subscriptionId, h.userId]

theorem Unpolled.poll {β : Type} {f : Task → β} (hf : Unpolled f) (poll : Poll) :
    f (poll.transition t).task = f t := by
  cases poll with
  | sweep timeoutMinutes now => exact hf.sweep timeoutMinutes now
  | suno item => exact hf.applySuno item
  | video now proxyURL body => exact hf.applyVideo now proxyURL body

theorem sameBilling_poll (poll : Poll) : t.SameBilling (poll.transition t).task where
  quota := Unpolled.poll (fun _ _ _ _ _ _ _ _ _ => rfl) poll
  userId := Unpolled.poll (fun _ _ _ _ _ _ _ _ _ => rfl) poll
  billingSource := Unpolled.poll (f := fun t => t.privateData.billingSource)
    (fun _ _ _ _ _ _ _ _ _ => rfl) poll
  subscriptionId := Unpolled.poll (f := fun t => t.privateData.subscriptionId)
    (fun _ _ _ _ _ _ _ _ _ => rfl) poll

/-- **However a task is polled, it remembers who paid for it and how much.** -/
theorem sameBilling_run {polls : List Poll} (hrun : Run Poll.Step t polls t') :
    t.SameBilling t' := by
  refine hrun.invariant (I := fun u => t.SameBilling u) (fun u poll u' h hst => ?_)
    (SameBilling.refl t)
  rw [hst]
  exact h.trans (sameBilling_poll poll)

end Task

/-! ## What is taken and what is given back -/

namespace TaskCharge
variable {c : TaskCharge}

/-- What a submitted task has taken once it is settled. -/
def debited (c : TaskCharge) (faults : BillingSession.Faults) (actualQuota : Int) (db : Store) :
    Int :=
  c.fundingNet + c.payer.taken db (settleBilling faults actualQuota c.relayInfo c.session db).2

/-- What the refund of a task gives back to a payer. -/
def credited (p : Payer) (faults : RefundFaults) (task : Task) (db : Store) : Int :=
  -p.taken db (refundTaskQuota faults task db)

theorem debited_eq (hc : c.Sound) (faults : BillingSession.Faults) (quota : Int) (db : Store) :
    c.debited faults quota db =
      c.reserved + c.payer.applied faults.settleFunding (quota - c.reserved) db := by
  rw [debited, fundingNet_eq_reserved hc]
  congr 1
  unfold settleBilling session relayInfo payer reserved
  cases hl : c.ledger with
  | none =>
    obtain ⟨hsrc, hz⟩ := hc.fresh hl
    simp only [map_none, hz, Int.sub_zero]
    split
    · rename_i hquo
      exact taken_postConsumeQuota hsrc faults hquo db
    · rw [show quota = 0 by omega, Payer.applied_zero]
      exact Payer.taken_self _ db
  | some l =>
    obtain ⟨-, hhd, -⟩ := hc.live l hl
    obtain ⟨hset, -, hcom⟩ := hhd.live
    simp only [map_some]
    rw [← hhd.payer_eq]
    exact taken_settle ⟨hset, hcom⟩ faults quota db

/-- The task is stored with the payer of the request. -/
theorem payer_relayTaskRow (hc : c.Sound) (id channelId now : Int) (publicTaskID key : String)
    (perCallBilling : Bool) (result : TaskSubmitResult) :
    (relayTaskRow id publicTaskID key channelId now perCallBilling c.relayInfo result).payer
      = c.payer := by
  unfold relayTaskRow Task.payer relayInfo payer
  cases hl : c.ledger with
  | none => simp only [(hc.fresh hl).1, reduceCtorEq, if_false]
  | some l =>
    obtain ⟨-, hhd, hbd⟩ := hc.live l hl
    have hfun := hhd.funding
    simp only [hbd.source, ← hhd.payer_eq]
    cases hf : l.session.funding with
    | wallet w =>
      rw [if_neg (by simp [FundingSource.source]), hbd.userId, ← hbd.wallet w hf]
      rfl
    | subscription f =>
      rw [hf] at hfun
      obtain ⟨-, -, -, -, hid, -⟩ := hfun
      simp only [FundingSource.source, if_true, hid]
      rfl

end TaskCharge

/-- A refused or short settlement and a refused or short refund come to the same.
`reserved` was taken before the settlement to `quota`. -/
def Payer.Offsets (reserved quota : Int) (settle refund : Fault) (db₁ db₂ : Store) (p : Payer) :
    Prop :=
  quota ≠ reserved ∧ quota ≠ 0 ∧
  ((reserved = 0 ∧ ¬ p.Accepts settle (quota - reserved) db₁ ∧ ¬ p.Accepts refund (-quota) db₂) ∨
   (p.used db₂ = reserved ∧ ¬ p.Accepts settle (quota - reserved) db₁ ∧
     p.Accepts refund (-quota) db₂ ∧ p.Short (-quota) db₂) ∨
   (p.used db₁ = reserved ∧ p.Accepts settle (quota - reserved) db₁ ∧
     p.Short (quota - reserved) db₁ ∧ ¬ p.Accepts refund (-quota) db₂))

/-- When a refund gives back what was taken: the settlement and the refund are both
carried out in full, or what is missing of one is missing of the other. -/
def Payer.GivesBack (reserved quota : Int) (settle refund : Fault) (db₁ db₂ : Store) (p : Payer) :
    Prop :=
  (p.Full settle (quota - reserved) db₁ ∧ p.Full refund (-quota) db₂) ∨
    p.Offsets reserved quota settle refund db₁ db₂

namespace Payer
variable {p : Payer} {reserved quota : Int} {settle refund : Fault} {db₁ db₂ : Store}

theorem applied_of_full {fault : Fault} {delta : Int} {db : Store} (h : p.Full fault delta db) :
    p.applied fault delta db = delta := by
  rcases p.applied_cases fault delta db with ⟨-, happ⟩ | ⟨hne, -, hsho, -⟩ | ⟨hne, hno, -⟩
  · exact happ
  · exact absurd hsho (h.resolve_left hne).2
  · exact absurd (h.resolve_left hne).1 hno

/-- Of the nine combinations of a settlement and a refund, four give back what was
taken. -/
theorem givesBack_of_eq
    (h : -p.applied refund (-quota) db₂ = reserved + p.applied settle (quota - reserved) db₁) :
    p.GivesBack reserved quota settle refund db₁ db₂ := by
  rcases p.applied_cases settle (quota - reserved) db₁ with
    ⟨hfu₁, hset⟩ | ⟨hne₁, hacc₁, hsho₁, hle₁, hset⟩ | ⟨hne₁, hno₁, hset⟩ <;>
  rcases p.applied_cases refund (-quota) db₂ with
    ⟨hfu₂, href⟩ | ⟨hne₂, hacc₂, hsho₂, hle₂, href⟩ |
    ⟨hne₂, hno₂, href⟩ <;>
  rw [hset, href] at h
  · exact .inl ⟨hfu₁, hfu₂⟩
  -- one of the two in full and the other not, or both short
  iterate 4 omega
  · exact .inr ⟨by omega, by omega, .inr (.inr ⟨by omega, hacc₁, hsho₁, hno₂⟩)⟩
  · omega
  · exact .inr ⟨by omega, by omega, .inr (.inl ⟨by omega, hno₁, hacc₂, hsho₂⟩)⟩
  · exact .inr ⟨by omega, by omega, .inl ⟨by omega, hno₁, hno₂⟩⟩

theorem eq_of_givesBack (h : p.GivesBack reserved quota settle refund db₁ db₂) :
    -p.applied refund (-quota) db₂ = reserved + p.applied settle (quota - reserved) db₁ := by
  rcases h with ⟨hfu₁, hfu₂⟩ | ⟨hres, hquo, hcas⟩
  · rw [applied_of_full hfu₁, applied_of_full hfu₂]
    omega
  have hne₁ : quota - reserved ≠ 0 := by omega
  have hne₂ : -quota ≠ 0 := by omega
  rcases hcas with ⟨hz, hno₁, hno₂⟩ | ⟨hus, hno₁, hacc₂, hsho₂⟩ | ⟨hus, hacc₁, hsho₁, hno₂⟩
  · rw [p.applied_of_not_accepts hne₁ hno₁, p.applied_of_not_accepts hne₂ hno₂]
    omega
  · rw [p.applied_of_not_accepts hne₁ hno₁, p.applied_of_accepts hne₂ hacc₂,
      (p.moved_of_short hsho₂).1]
    omega
  · rw [p.applied_of_accepts hne₁ hacc₁, (p.moved_of_short hsho₁).1,
      p.applied_of_not_accepts hne₂ hno₂]
    omega

end Payer

/-- **When a failed task gives back what it took.**  After any attempts of `RelayTask`
and any polls of the task, the refund credits the payer with what the submission took
from it exactly when the settlement at submission and the refund were both carried out
in full, or what is missing of one happens to be missing of the other. -/
theorem credited_eq_debited_iff {info : RelayInfo} {attempts : List BillingAttempt}
    {c : TaskCharge} (hsource : info.billingSource = none)
    (hzero : info.finalPreConsumedQuota = 0)
    (hrun : Run TaskCharge.Step ⟨info, none⟩ attempts c) (result : TaskSubmitResult)
    (id channelId now : Int) (publicTaskID key : String) (perCallBilling : Bool)
    {polls : List Poll} {task : Task}
    (hpolls : Run Poll.Step
      (relayTaskRow id publicTaskID key channelId now perCallBilling c.relayInfo result) polls task)
    (settle : BillingSession.Faults) (refund : RefundFaults) (db₁ db₂ : Store) :
    credited c.payer refund task db₂ = c.debited settle result.quota db₁ ↔
      c.payer.GivesBack c.reserved result.quota settle.settleFunding refund.funding db₁ db₂ := by
  have hsound : c.Sound := by
    refine sound_run ⟨fun _ => ⟨hsource, hzero⟩, fun l hl => ?_⟩ hrun
    cases hl
  -- the task that is refunded names the payer that was debited
  have hbil := Task.sameBilling_run hpolls
  have hpay : task.payer = c.payer :=
    hbil.payer.trans (payer_relayTaskRow hsound ..)
  have hquo : task.quota = result.quota := hbil.quota
  rw [debited_eq hsound, credited, ← hpay, taken_refundTaskQuota, hquo]
  exact ⟨Payer.givesBack_of_eq, Payer.eq_of_givesBack⟩

/-! ### A task of the sample subscription -/

/-- An attempt estimated at 50. -/
def sampleAttempt : BillingAttempt := ⟨false, false, 50, sampleBillingEnv, {}, sampleStore⟩

/-- The charge it leaves. -/
def sampleCharge : TaskCharge :=
  (attempt ⟨sampleInfo, none⟩ sampleAttempt).getD ⟨sampleInfo, none⟩

theorem sampleCharge_run : Run TaskCharge.Step ⟨sampleInfo, none⟩ [sampleAttempt] sampleCharge := by
  have hso : (attempt ⟨sampleInfo, none⟩ sampleAttempt).isSome = true := by
    decide +kernel
  obtain ⟨c, hc⟩ := isSome_iff_exists.mp hso
  have hst : TaskCharge.Step ⟨sampleInfo, none⟩ sampleAttempt sampleCharge :=
    ⟨by rw [sampleCharge, hc, getD_some], fun _ => rfl, by decide⟩
  exact .cons hst (.nil _)

theorem sampleCharge_payer : sampleCharge.payer = .subscription 1 := by decide +kernel

/-- The sample store once `used` of the subscription's thousand units are used. -/
def sampleUsed (used : Int) : Store :=
  { sampleStore with
    subscriptions := ⟨[⟨1, 7, 3, 1000, used, 0, 500, .active, 0, 0, "", "", "", true⟩], by simp⟩ }

/-- The upstream accepted the task, which comes to 80. -/
def sampleResult : TaskSubmitResult := ⟨"up-1", [], .video "kling", 80⟩

/-- The task as it is stored. -/
def sampleRow : Task := relayTaskRow 1 "task_a" "" 2 100 false sampleCharge.relayInfo sampleResult

/-- The upstream reports that it failed. -/
def sampleFailure : Poll := .video 200 id (answer "FAILURE")

/-- All 80 are taken and given back. -/
theorem credited_eq_debited_sample :
    Run TaskCharge.Step ⟨sampleInfo, none⟩ [sampleAttempt] sampleCharge ∧
    credited sampleCharge.payer ⟨none, "", none⟩
      (sampleFailure.transition sampleRow).task (sampleUsed 80) =
      sampleCharge.debited {} 80 (sampleUsed 50) := by
  refine ⟨sampleCharge_run, (credited_eq_debited_iff rfl rfl sampleCharge_run sampleResult 1 2 100
    "task_a" "" false (.cons rfl (.nil _)) {} ⟨none, "", none⟩ (sampleUsed 50)
    (sampleUsed 80)).mpr (.inl ⟨.inr ⟨?_, ?_⟩, .inr ⟨?_, ?_⟩⟩)⟩
  all_goals rw [sampleCharge_payer]
  · exact ⟨by decide, rfl, _, rfl, by decide⟩
  · show ¬ (sampleUsed 50).used 1 + (80 - 50) < 0
    decide
  · exact ⟨by decide, rfl, _, rfl, by decide⟩
  · show ¬ (sampleUsed 80).used 1 + -80 < 0
    decide

/-- **A refused settlement is given back all the same.**  The row has 20 units left when
the task is settled from 50 to 80, so the settlement is refused; the task took 50, and
its refund gives back 80. -/
theorem refused_settlement_given_back :
    Run TaskCharge.Step ⟨sampleInfo, none⟩ [sampleAttempt] sampleCharge ∧
    Run Poll.Step sampleRow [sampleFailure] (sampleFailure.transition sampleRow).task ∧
    (sampleFailure.transition sampleRow).billing = .refund ∧
    (settleBilling {} 80 sampleCharge.relayInfo sampleCharge.session (sampleUsed 980)).1 ≠ none ∧
    sampleCharge.debited {} 80 (sampleUsed 980) = 50 ∧
    credited sampleCharge.payer ⟨none, "", none⟩
      (sampleFailure.transition sampleRow).task (sampleUsed 980) = 80 := by
  refine ⟨sampleCharge_run, .cons rfl (.nil _), ?_, ?_, ?_, ?_⟩
  all_goals decide +kernel

end NewApi
