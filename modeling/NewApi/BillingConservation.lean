import NewApi.BillingCalls
import NewApi.Steps

/-! # A session takes what it settles for

A `Ledger` adds up what the calls on a session took from its payer and from its
token, and notes how the session ended: at the first `Settle` that returns `nil`,
or at a `Refund` that finds something to give back.  Each call keeps a live session
or ends it with the nets it should have (`sound_step`); the rest is induction
(`conserves`).  A `Refund` that finds nothing to give back does not end the
session, so a later `Reserve` still takes its amount
(`reserve_after_idle_refund`). -/
namespace NewApi
open BillingSession Steps

/-- How a session ended. -/
inductive Outcome where
  /-- `Settle(actual)` was the first to return `nil`. -/
  | settled (actual : Int)
  /-- A `Refund` found something to give back. -/
  | refunded
  deriving DecidableEq

/-- A session of the request `info` and what it took so far. -/
structure Ledger where
  info : RelayInfo
  payer : Payer
  session : BillingSession
  fundingNet : Int
  tokenNet : Int
  outcome : Option Outcome

namespace Ledger

/-- Enter a call that went from `db` to `db'` and left `s`. -/
def enter (l : Ledger) (s : BillingSession) (db db' : Store) (ended : Option Outcome) : Ledger :=
  { l with
    session := s
    fundingNet := l.fundingNet + l.payer.taken db db'
    tokenNet := l.tokenNet + l.info.tokenTaken db db'
    outcome := l.outcome.or ended }

/-- One call. -/
def apply (l : Ledger) (i : Invocation) : Ledger :=
  match i.call with
  | .reserve target =>
      let (_, s, db) := l.session.reserve i.faults target i.db
      l.enter s i.db db none
  | .settle actual =>
      let (err, s, db) := l.session.settle i.faults actual i.db
      l.enter s i.db db (if err = none then some (.settled actual) else none)
  | .refund =>
      let (s, db) := l.session.refund i.faults i.db
      l.enter s i.db db (if s.refunded then some .refunded else none)

/-- What `NewBillingSession` took from the payer.  A subscription row whose period
was over is reset before it is charged. -/
def openingTaken (env : SubscriptionEnv) (db db' : Store) : Payer → Int
  | .wallet id => db.userBalance id - db'.userBalance id
  | .subscription id => (usedOf db'.subscriptions id).getD 0 -
      ((db.subscriptions.find? id).map (usedWhenCharged env)).getD 0

/-- The ledger of a session that was created by going from `db` to `db'`. -/
def opened (env : BillingEnv) (info : RelayInfo) (s : BillingSession) (db db' : Store) :
    Ledger where
  info := info
  payer := s.funding.payer
  session := s
  fundingNet := openingTaken env.subscription db db' s.funding.payer
  tokenNet := info.tokenTaken db db'
  outcome := none

/-- A call may come next: it is exact, and no `Settle` comes after a refund. -/
def Step (l : Ledger) (i : Invocation) (l' : Ledger) : Prop :=
  i.Exact l.session ∧ (∀ actual, i.call = .settle actual → l.outcome ≠ some .refunded) ∧
    l' = l.apply i

/-- The nets are what the end of the session says, or what the session holds
while it is live. -/
def Balanced (l : Ledger) : Prop :=
  match l.outcome with
  | some (.settled actual) => l.fundingNet = actual ∧ l.tokenNet = l.info.tokenShare actual
  | some .refunded => l.fundingNet = 0 ∧ l.tokenNet = 0
  | none => l.fundingNet = l.session.preConsumedQuota ∧
      l.tokenNet = l.info.tokenShare l.session.preConsumedQuota

end Ledger

/-! ## The whole life of a session -/

theorem RelayInfo.tokenShare_add (info : RelayInfo) (x y : Int) :
    info.tokenShare (x + y) = info.tokenShare x + info.tokenShare y := by
  unfold RelayInfo.tokenShare
  split <;> simp

namespace Ledger
variable {l l' : Ledger} {i : Invocation}

/-- The session is over. -/
def Ended (l : Ledger) : Prop :=
  (∃ actual, l.outcome = some (.settled actual) ∧ l.session.settled = true) ∨
  (l.outcome = some .refunded ∧ l.session.refunded = true)

/-- The nets are right, and the session is live or over as the outcome says. -/
structure Sound (l : Ledger) : Prop where
  balanced : l.Balanced
  state : (l.outcome = none ∧ l.session.Held l.info l.payer) ∨ l.Ended

theorem enter_same {ended : Option Outcome} (db : Store) (h : l.outcome.or ended = l.outcome) :
    l.enter l.session db db ended = l := by
  obtain ⟨hfn, htok⟩ := Takes.refl l.info l.payer db
  rw [enter, hfn, htok, h, Int.add_zero, Int.add_zero]

/-- **A session that is over is not touched by any later call.** -/
theorem apply_ended (hend : l.Ended)
    (hord : ∀ actual, i.call = .settle actual → l.outcome ≠ some .refunded) : l.apply i = l := by
  have hout : ∀ o : Option Outcome, l.outcome.or o = l.outcome := by
    intro o
    rcases hend with ⟨actual, h, -⟩ | ⟨h, -⟩ <;> rw [h] <;> rfl
  -- `Reserve` and `Refund` look at both flags, `Settle` at the first only
  have hst : l.session.settled = true ∨ l.session.refunded = true := by
    rcases hend with ⟨_, -, h⟩ | ⟨-, h⟩
    · exact .inl h
    · exact .inr h
  unfold apply
  cases hca : i.call with
  | reserve target =>
    have hskip : l.session.reserve i.faults target i.db = (none, l.session, i.db) := by
      simp only [reserve]
      rw [if_pos]
      rcases hst with h | h
      · exact .inl h
      · exact .inr (.inl h)
    simp only [hskip]
    exact enter_same i.db (hout none)
  | settle actual =>
    have hset : l.session.settled = true := by
      rcases hend with ⟨_, -, h⟩ | ⟨h, -⟩
      · exact h
      · exact absurd h (hord actual hca)
    have hskip : l.session.settle i.faults actual i.db = (none, l.session, i.db) := by
      simp only [settle]
      rw [if_pos hset]
    simp only [hskip]
    exact enter_same i.db (hout _)
  | refund =>
    have hskip : l.session.refund i.faults i.db = (l.session, i.db) := by
      rw [refund, if_pos]
      rcases hst with h | h <;> simp [h]
    simp only [hskip]
    exact enter_same i.db (hout _)

variable {s : BillingSession} {db db' : Store}

/-- A call that leaves the session live. -/
theorem sound_enter_live {d : Int} (hl : l.Balanced)
    (hout : l.outcome = none) (hhd : s.Held l.info l.payer)
    (hquo : s.preConsumedQuota = l.session.preConsumedQuota + d)
    (htak : Takes l.info l.payer d (l.info.tokenShare d) db db') :
    (l.enter s db db' none).Sound := by
  rw [Balanced, hout] at hl
  obtain ⟨hfn, htok⟩ := hl
  have hno : (l.enter s db db' none).outcome = none := by
    rw [enter, hout]
    rfl
  refine ⟨?_, .inl ⟨hno, hhd⟩⟩
  rw [Balanced, hno]
  refine ⟨?_, ?_⟩
  · show l.fundingNet + l.payer.taken db db' = s.preConsumedQuota
    rw [htak.funding, hfn, hquo]
  · show l.tokenNet + l.info.tokenTaken db db' = l.info.tokenShare s.preConsumedQuota
    rw [htak.token, htok, hquo, RelayInfo.tokenShare_add]

theorem sound_enter_settled {actual : Int} (hl : l.Balanced)
    (hout : l.outcome = none) (hdn : s.settled = true)
    (htak : Takes l.info l.payer (actual - l.session.preConsumedQuota)
      (l.info.tokenShare (actual - l.session.preConsumedQuota)) db db') :
    (l.enter s db db' (some (.settled actual))).Sound := by
  rw [Balanced, hout] at hl
  obtain ⟨hfn, htok⟩ := hl
  have hnew : (l.enter s db db' (some (.settled actual))).outcome = some (.settled actual) := by
    rw [enter, hout]
    rfl
  refine ⟨?_, .inr (.inl ⟨actual, hnew, hdn⟩)⟩
  rw [Balanced, hnew]
  refine ⟨?_, ?_⟩
  · show l.fundingNet + l.payer.taken db db' = actual
    rw [htak.funding, hfn]
    omega
  · show l.tokenNet + l.info.tokenTaken db db' = l.info.tokenShare actual
    rw [htak.token, htok, ← RelayInfo.tokenShare_add]
    congr 1
    omega

/-- A call that gives back all the session holds. -/
theorem sound_enter_refunded (hl : l.Balanced) (hout : l.outcome = none) (hdn : s.refunded = true)
    (htak : Takes l.info l.payer (-l.session.preConsumedQuota)
      (-l.info.tokenShare l.session.preConsumedQuota) db db') :
    (l.enter s db db' (some .refunded)).Sound := by
  rw [Balanced, hout] at hl
  obtain ⟨hfn, htok⟩ := hl
  have hnew : (l.enter s db db' (some .refunded)).outcome = some .refunded := by
    rw [enter, hout]
    rfl
  refine ⟨?_, .inr (.inr ⟨hnew, hdn⟩)⟩
  rw [Balanced, hnew]
  refine ⟨?_, ?_⟩
  · show l.fundingNet + l.payer.taken db db' = 0
    rw [htak.funding, hfn]
    omega
  · show l.tokenNet + l.info.tokenTaken db db' = 0
    rw [htak.token, htok]
    omega

/-- **One call keeps the ledger sound.** -/
theorem sound_step (hl : l.Sound) (hst : l.Step i l') : l'.Sound := by
  obtain ⟨hexa, hord, rfl⟩ := hst
  rcases hl.state with ⟨hout, hhd⟩ | hend
  swap
  · -- nothing happens to a session that is over
    rw [apply_ended hend hord]
    exact hl
  -- a call that the session ignores or that fails leaves the ledger as it is
  have hsm : ∀ db, (l.enter l.session db db none).Sound := by
    intro db
    rw [enter_same db (by rw [hout]; rfl)]
    exact hl
  unfold apply
  cases hca : i.call with
  | reserve target =>
    obtain ⟨err, s', db', d, hres, hhd', hquo, htak⟩ :=
      reserve_held hhd hexa target
    simp only [hres]
    exact sound_enter_live hl.balanced hout hhd' hquo htak
  | settle actual =>
    obtain ⟨err, s', db', hset, ⟨herr, rfl, rfl⟩ | ⟨rfl, hdn, htak⟩⟩ :=
      settle_held hhd hexa hca
    · simp only [hset, herr, if_false]
      exact hsm i.db
    · simp only [hset, if_true]
      exact sound_enter_settled hl.balanced hout hdn htak
  | refund =>
    obtain ⟨s', db', href, ⟨rfl, rfl⟩ | ⟨hdn, -, htak⟩⟩ :=
      refund_held hhd hexa hca
    · simp only [href, hhd.live.2.1, Bool.false_eq_true, if_false]
      exact hsm i.db
    · simp only [href, hdn, if_true]
      exact sound_enter_refunded hl.balanced hout hdn htak

variable {info : RelayInfo}

/-- A new session is live. -/
theorem held_created (hcreate : CreatedFor info s) : s.Held info s.funding.payer := by
  rcases hcreate with ⟨q, hpos, hop⟩ | ⟨q, f, hpos, hreq, hrq, hpre, hop⟩
  · refine ⟨rfl, hop.token, hop.live, ?_, ?_, ?_⟩
    · rw [hop.preConsumedQuota]
      exact hpos
    · rw [hop.tokenConsumed, hop.preConsumedQuota]
    · rw [hop.funding_eq]
      exact hop.preConsumedQuota.symm
  · have hext : s.extraReserved = 0 := hop.extraReserved
    refine ⟨rfl, hop.token, hop.live, ?_, ?_, ?_⟩
    · rw [hop.preConsumedQuota]
      omega
    · rw [hop.tokenConsumed, hop.preConsumedQuota]
    · rw [hop.funding_eq]
      refine ⟨?_, by omega, by omega, by rw [hreq]; exact hrq, hop.subscriptionId f rfl,
        fun h => by omega⟩
      rw [hop.preConsumedQuota, hpre, hext, Int.add_zero]

/-- A new session took from its payer what it holds. -/
theorem openingTaken_debited {env : BillingEnv}
    (hcreate : CreatedFor info s) (hdeb : Debited env info s db db') :
    openingTaken env.subscription db db' s.funding.payer = s.preConsumedQuota := by
  have hfn := hdeb.funding
  rcases hcreate with ⟨q, -, hop⟩ | ⟨q, f, -, -, -, -, hop⟩
  · rw [hop.funding_eq] at hfn ⊢
    obtain ⟨-, hwal, -⟩ := hfn
    show db.userBalance info.userId - db'.userBalance info.userId = s.preConsumedQuota
    rw [hwal, if_pos rfl]
    omega
  · rw [hop.funding_eq] at hfn ⊢
    obtain ⟨-, resets, hcha⟩ := hfn
    obtain ⟨sub, hrow, hus⟩ := hcha.usedOf_payer
    show (usedOf db'.subscriptions f.subscriptionId).getD 0 - _ = s.preConsumedQuota
    rw [hus, hrow]
    simp only [Option.map_some, Option.getD_some]
    omega

/-- A new session's ledger is sound: it took what it says. -/
theorem sound_opened {env : BillingEnv}
    (hcreate : CreatedFor info s) (hdeb : Debited env info s db db') :
    (opened env info s db db').Sound := by
  have htok : info.tokenTaken db db' = info.tokenShare s.preConsumedQuota := by
    rw [RelayInfo.tokenTaken, hdeb.token, if_pos rfl]
    omega
  exact ⟨⟨openingTaken_debited hcreate hdeb, htok⟩, .inl ⟨rfl, held_created hcreate⟩⟩

theorem sound_run {is : List Invocation} (hl : l.Sound) (hrun : Run Step l is l') : l'.Sound :=
  hrun.invariant (fun _ _ _ h hs => sound_step h hs) hl

theorem run_ended {is : List Invocation} (hl : l.Ended) (hrun : Run Step l is l') : l' = l := by
  induction hrun with
  | nil => rfl
  | cons hst _ ih =>
    obtain ⟨-, hord, rfl⟩ := hst
    rw [apply_ended hl hord] at ih
    exact ih hl

/-- **A session conserves money.**  After any calls on a session of
`NewBillingSession`, the amounts taken from its payer and from its token are `a`
if `Settle(a)` was the first to return `nil`, nothing if a `Refund` found
something to give back, and `preConsumedQuota` otherwise; and once the session has
ended, no call changes them. -/
theorem conserves {env : BillingEnv} {info : RelayInfo} {quota : Int} {db : Store}
    {s : BillingSession} {is₁ is₂ : List Invocation} {l₁ l₂ : Ledger} (hroll : env.RollsBack)
    (hq : 0 ≤ quota) (hnew : db.records.find? info.requestId = none)
    (hs : (newBillingSession env info quota db).result = .ok s)
    (h₁ : Run Step (opened env info s db (newBillingSession env info quota db).db) is₁ l₁)
    (h₂ : Run Step l₁ is₂ l₂) :
    l₁.Balanced ∧ (l₁.outcome ≠ none → l₂.outcome = l₁.outcome ∧
      l₂.fundingNet = l₁.fundingNet ∧ l₂.tokenNet = l₁.tokenNet) := by
  obtain ⟨hcreate, hdeb, -⟩ := (newBillingSession_sound hroll hq hnew).session s hs
  have hsound := sound_run (sound_opened hcreate hdeb) h₁
  refine ⟨hsound.balanced, fun hout => ?_⟩
  have hend : l₁.Ended := by
    rcases hsound.state with ⟨hno, -⟩ | hend
    · exact absurd hno hout
    · exact hend
  obtain rfl := run_ended hend h₂
  exact ⟨rfl, rfl, rfl⟩

/-! ## A trusted session -/

/-- The ledger it starts with. -/
def trustedLedger : Ledger :=
  opened trustedEnv walletInfo trustedSession sampleStore
    (newBillingSession trustedEnv walletInfo 50 sampleStore).db

/-- A call that finds the sample store and whose statements all run. -/
def sampleCall (call : Call) : Invocation := ⟨sampleStore, {}, call⟩

theorem exact_sampleCall (hs : s.funding.source = .wallet) (call : Call) :
    (sampleCall call).Exact s := by
  intro _ _
  refine ⟨rfl, rfl, rfl, rfl, ?_⟩
  cases hf : s.funding with
  | wallet w => rfl
  | subscription f =>
    rw [hf] at hs
    cases hs

theorem step_sampleCall (l : Ledger) (call : Call) (hw : l.session.funding.source = .wallet)
    (ho : l.outcome ≠ some .refunded) : l.Step (sampleCall call) (l.apply (sampleCall call)) :=
  ⟨exact_sampleCall hw call, fun _ _ => ho, rfl⟩

/-- The ledger after the session reserved 100 and settled for 70. -/
def settledLedger : Ledger :=
  (trustedLedger.apply (sampleCall (.reserve 100))).apply (sampleCall (.settle 70))

/-- Both sides have paid 70, and a refund afterwards is without effect. -/
theorem conserves_settledLedger :
    trustedEnv.RollsBack ∧
    Run Step trustedLedger [sampleCall (.reserve 100), sampleCall (.settle 70)] settledLedger ∧
    settledLedger.outcome = some (.settled 70) ∧ settledLedger.Balanced ∧
    (settledLedger.apply (sampleCall .refund)).fundingNet = settledLedger.fundingNet := by
  have hro : trustedEnv.RollsBack := fun _ => rfl
  have hquo : (0 : Int) ≤ 50 := by decide
  have h₁ : Run Step trustedLedger [sampleCall (.reserve 100), sampleCall (.settle 70)]
      settledLedger :=
    .cons (step_sampleCall _ _ (by decide +kernel) (by decide +kernel))
      (.cons (step_sampleCall _ _ (by decide +kernel) (by decide +kernel)) (.nil _))
  have h₂ : Run Step settledLedger [sampleCall .refund]
      (settledLedger.apply (sampleCall .refund)) :=
    .cons (step_sampleCall _ _ (by decide +kernel) (by decide +kernel)) (.nil _)
  have hout : settledLedger.outcome = some (.settled 70) := by decide +kernel
  obtain ⟨hbal, hlat⟩ := conserves hro hquo rfl newBillingSession_trusted h₁ h₂
  exact ⟨hro, h₁, hout, hbal, (hlat (by rw [hout]; simp)).2.1⟩

/-- **A `Refund` with nothing to give back does not end the session**: the trusted
session took nothing, so `Refund` returns at its guard, and the `Reserve` that
follows takes 100 from the wallet and from the token. -/
theorem reserve_after_idle_refund :
    (newBillingSession trustedEnv walletInfo 50 sampleStore).result = .ok trustedSession ∧
    ∃ l, Run Step trustedLedger [sampleCall .refund, sampleCall (.reserve 100)] l ∧
      l.fundingNet = 100 ∧ l.tokenNet = 100 := by
  refine ⟨newBillingSession_trusted, (trustedLedger.apply (sampleCall .refund)).apply
    (sampleCall (.reserve 100)), ?_, by decide +kernel, by decide +kernel⟩
  exact .cons (step_sampleCall _ _ rfl (by decide +kernel))
    (.cons (step_sampleCall _ _ (by decide +kernel) (by decide +kernel)) (.nil _))

end Ledger
end NewApi
