import NewApi.Steps
import NewApi.TopUps

/-! # The life of a top-up order

Seven operations may end a pending order: the callbacks of the five gateways, the
administrator (`ManualCompleteTopUp`), and `UpdatePendingTopUpStatus`, which lets an
order fail or expire.  They come in any order and any number, for any orders, and
each is one transaction.  Epay's callback is the exception: it loads the order first
and settles its copy later, so the copy may be old by then.

The history keeps, besides the tables, what each operation did to the quota of the
user of its order.  `credited_once` says that an order is credited at most once, that
this happens exactly when the order ends as a success, and that an order that has
left `pending` stays as it is.  Stripe's and Creem's paths do not look at the credit
before they complete an order, so an order worth nothing succeeds without a credit
(`worthless_order_succeeds`). -/
namespace NewApi
open Db List Steps

/-- Why `UpdatePendingTopUpStatus` refuses. -/
inductive PendingStatusError where
  /-- "未提供支付单号" -/
  | tradeNoMissing
  /-- `ErrTopUpNotFound` -/
  | notFound
  /-- `ErrPaymentMethodMismatch` -/
  | paymentMethodMismatch
  /-- `ErrTopUpStatusInvalid` -/
  | statusInvalid
  | database (text : String)
  deriving DecidableEq

section Model
variable {F : Type}

/-- `UpdatePendingTopUpStatus`; no expected provider stands for the empty string. -/
def updatePendingTopUpStatus (faults : TopUpFaults) (tradeNo : String)
    (expectedPaymentProvider : Option PaymentProvider) (targetStatus : TopUpStatus)
    (db : TopUpStore F) : Except PendingStatusError (TopUpStore F) :=
  if tradeNo = "" then .error .tradeNoMissing
  else match faults.find, db.getTopUpByTradeNo tradeNo with
  | some _, _ => .error .notFound
  | none, none => .error .notFound
  | none, some t =>
      if expectedPaymentProvider ≠ none ∧ expectedPaymentProvider ≠ some t.paymentProvider then
        .error .paymentMethodMismatch
      else if t.status ≠ .pending then .error .statusInvalid
      else match faults.save with
      | some text => .error (.database text)
      | none => .ok { db with topUps := db.topUps.save { t with status := targetStatus } }

/-- What may happen to the orders. -/
inductive TopUpEvent where
  /-- `EpayNotify` loads an order. -/
  | epayLoad (tradeNo : String)
  /-- `settleEpayOrder` with the `i`-th order that was loaded. -/
  | epaySettle (i : Nat) (paymentMethod : String) (now : Int) (faults : TopUpFaults)
  | recharge (referenceId customerId : String) (now : Int) (faults : TopUpFaults)
  | rechargeCreem (referenceId customerEmail : String) (now : Int) (faults : TopUpFaults)
  | rechargeWaffo (tradeNo : String) (now : Int) (faults : TopUpFaults)
  | rechargeWaffoPancake (tradeNo : String) (now : Int) (faults : TopUpFaults)
  | manualComplete (tradeNo : String) (now : Int) (faults : TopUpFaults)
  | updatePending (tradeNo : String) (expectedPaymentProvider : Option PaymentProvider)
      (targetStatus : TopUpStatus) (faults : TopUpFaults)

/-- `UpdatePendingTopUpStatus` is for orders that did not succeed. -/
def TopUpEvent.Allowed : TopUpEvent → Prop
  | .updatePending _ _ targetStatus _ => targetStatus ≠ .success
  | _ => True

/-- What an operation on an order did to the quota of the order's user. -/
structure QuotaChange where
  order : Int
  user : Int
  amount : ℚ
  deriving DecidableEq

/-- The tables, the orders that Epay's callbacks hold, and what has been credited. -/
structure TopUpHistory (F : Type) where
  db : TopUpStore F
  loaded : List (TopUp F)
  changes : List QuotaChange

namespace TopUpHistory

/-- An operation on the order `t` left the tables `db`. -/
def enter (h : TopUpHistory F) (t : TopUp F) (db : TopUpStore F) : TopUpHistory F :=
  { h with
    db := db
    changes := h.changes ++
      [⟨t.id, t.userId, (db.users t.userId).quota - (h.db.users t.userId).quota⟩] }

/-- The result of an operation on an order; a transaction that fails leaves no trace. -/
def finish (h : TopUpHistory F) (order : Option (TopUp F))
    (result : Except TopUpError (ℚ × TopUpStore F)) : TopUpHistory F :=
  match order, result with
  | some t, .ok (_, db) => h.enter t db
  | _, _ => h

variable (arith : FloatArith F) (quotaPerUnit : F)

/-- One operation. -/
def apply (h : TopUpHistory F) : TopUpEvent → TopUpHistory F
  | .epayLoad tradeNo =>
      match h.db.getTopUpByTradeNo tradeNo with
      | none => h
      | some t =>
          if t.paymentProvider = .epay ∧ t.status = .pending then
            { h with loaded := h.loaded ++ [t] }
          else h
  | .epaySettle i paymentMethod now faults =>
      match h.loaded[i]? with
      | none => h
      | some t => h.finish (some t) (settleEpayOrder arith quotaPerUnit faults
          { t with paymentMethod := paymentMethod } now h.db)
  | .recharge referenceId customerId now faults =>
      h.finish (h.db.getTopUpByTradeNo referenceId)
        (recharge arith quotaPerUnit customerId faults referenceId now h.db)
  | .rechargeCreem referenceId customerEmail now faults =>
      h.finish (h.db.getTopUpByTradeNo referenceId)
        (rechargeCreem customerEmail faults referenceId now h.db)
  | .rechargeWaffo tradeNo now faults =>
      h.finish (h.db.getTopUpByTradeNo tradeNo)
        (rechargeWaffo arith quotaPerUnit faults tradeNo now h.db)
  | .rechargeWaffoPancake tradeNo now faults =>
      h.finish (h.db.getTopUpByTradeNo tradeNo)
        (rechargeWaffoPancake arith quotaPerUnit faults tradeNo now h.db)
  | .manualComplete tradeNo now faults =>
      h.finish (h.db.getTopUpByTradeNo tradeNo)
        (manualCompleteTopUp arith quotaPerUnit faults tradeNo now h.db)
  | .updatePending tradeNo expectedPaymentProvider targetStatus faults =>
      match h.db.getTopUpByTradeNo tradeNo,
        updatePendingTopUpStatus faults tradeNo expectedPaymentProvider targetStatus h.db with
      | some t, .ok db => h.enter t db
      | _, _ => h

/-- Any operation may come next. -/
def Step (h : TopUpHistory F) (e : TopUpEvent) (h' : TopUpHistory F) : Prop :=
  e.Allowed ∧ h' = h.apply arith quotaPerUnit e

/-- The increases of the user's quota that operations on the order `k` made. -/
def increases (h : TopUpHistory F) (k : Int) : List QuotaChange :=
  h.changes.filter fun c => c.order = k ∧ 0 < c.amount

/-- What the operations did to the quota of a user. -/
def gained (h : TopUpHistory F) (user : Int) : ℚ :=
  ((h.changes.filter fun c => c.user = user).map QuotaChange.amount).sum

end TopUpHistory

/-- A Stripe or Creem order is worth something.  The other paths refuse an order that is
not. -/
def TopUp.Creditable (arith : FloatArith F) (quotaPerUnit : F) (t : TopUp F) : Prop :=
  (t.paymentProvider = .stripe → 0 < arith.value (arith.mul t.money quotaPerUnit)) ∧
    (t.paymentProvider = .creem → 0 < t.amount)

end Model

/-! ## What an operation can do -/

/-- What no operation changes about an order. -/
structure TopUp.SameOrder {F : Type} (t t' : TopUp F) : Prop where
  id : t'.id = t.id
  userId : t'.userId = t.userId
  amount : t'.amount = t.amount
  money : t'.money = t.money
  paymentProvider : t'.paymentProvider = t.paymentProvider

section Effect
variable {F : Type} {arith : FloatArith F} {quotaPerUnit : F}

namespace TopUp
variable {t t' t'' : TopUp F}

theorem SameOrder.refl (t : TopUp F) : t.SameOrder t := ⟨rfl, rfl, rfl, rfl, rfl⟩

theorem SameOrder.trans (h : t.SameOrder t') (h' : t'.SameOrder t'') : t.SameOrder t'' where
  id := h'.id.trans h.id
  userId := h'.userId.trans h.userId
  amount := h'.amount.trans h.amount
  money := h'.money.trans h.money
  paymentProvider := h'.paymentProvider.trans h.paymentProvider

theorem SameOrder.creditable (h : t.SameOrder t') (hc : t.Creditable arith quotaPerUnit) :
    t'.Creditable arith quotaPerUnit := by
  rw [Creditable, h.paymentProvider, h.money, h.amount]
  exact hc

end TopUp

/-- **An operation on the order `t`** replaces its row by `t'`, adds `q` to the quota of its
user, and touches no other order and no other quota.  It does something to pending orders
only, and it credits exactly those that it completes. -/
structure TopUpEffect (arith : FloatArith F) (quotaPerUnit : F) (db db' : TopUpStore F)
    (t t' : TopUp F) (q : ℚ) : Prop where
  rows : ∀ k, db'.topUps.find? k = if k = t.id then some t' else db.topUps.find? k
  users : ∀ u, (db'.users u).quota = (db.users u).quota + if u = t.userId then q else 0
  same : t.SameOrder t'
  moves : (t' = t ∧ q = 0) ∨ (t.status = .pending ∧
    ((t'.status = .success ∧ (t.Creditable arith quotaPerUnit → 0 < q)) ∨
      (t'.status ≠ .success ∧ q = 0)))

variable {db db' : TopUpStore F} {t t' : TopUp F} {q : ℚ} {tradeNo : String} {now : Int}
  {faults : TopUpFaults}

theorem TopUpEffect.nothing (hrow : db.topUps.find? t.id = some t) :
    TopUpEffect arith quotaPerUnit db db t t 0 where
  rows := by
    intro k
    by_cases hk : k = t.id
    · rw [if_pos hk, hk, hrow]
    · rw [if_neg hk]
  users := by
    intro u
    rw [ite_self, add_zero]
  same := .refl t
  moves := .inl ⟨rfl, rfl⟩

theorem find?_save_row (hrow : db.topUps.find? t.id = some t) (hid : t'.id = t.id) (k : Int) :
    (db.topUps.save t').find? k = if k = t.id then some t' else db.topUps.find? k := by
  by_cases hk : k = t.id
  · rw [if_pos hk, hk, ← hid]
    rw [← hid] at hrow
    exact db.topUps.find?_save_self hrow
  · rw [if_neg hk]
    exact db.topUps.find?_save_ne (hid ▸ Ne.symm hk)

theorem quota_credit (db : TopUpStore F) (userId : Int) (columns : User → User) (q : ℚ) (u : Int) :
    ((db.credit userId columns q).users u).quota =
      (db.users u).quota + if u = userId then q else 0 := by
  unfold TopUpStore.credit
  by_cases hu : u = userId
  · simp only [if_pos hu]
  · simp only [if_neg hu, add_zero]

open Completion

/-- The shared transaction, for a path that credits creditable orders. -/
theorem Completion.run_effect {p : Completion F}
    (hpos : ∀ t q, p.accepts t.paymentProvider = true → p.quota t = .ok q →
      t.Creditable arith quotaPerUnit → 0 < q) (h : p.run faults tradeNo now db = .ok (q, db')) :
    ∃ t t', db.getTopUpByTradeNo tradeNo = some t ∧
      TopUpEffect arith quotaPerUnit db db' t t' q := by
  cases hfd : db.getTopUpByTradeNo tradeNo with
  | none =>
    rw [run, hfd] at h
    cases hflt : faults.find with
    | none | some text => simp [hflt] at h
  | some t =>
    have hrow := find?_of_tradeNo hfd
    refine ⟨t, ?_⟩
    by_cases hpen : t.status = .pending
    · obtain ⟨hacc, hquo, -, -, rfl⟩ := (run_ok_iff p hfd hpen).mp h
      refine ⟨t.complete now, rfl, find?_save_row hrow rfl, quota_credit _ _ _ _,
        ⟨rfl, rfl, rfl, rfl, rfl⟩, .inr ⟨hpen, .inl ⟨rfl, ?_⟩⟩⟩
      exact hpos t q hacc hquo
    · -- an order that is not pending is refused, or was completed before
      have hsm : q = 0 ∧ db' = db := by
        rw [run, hfd] at h
        split at h
        · cases h
        · cases h
        · rename_i hso
          cases hso
          split at h
          · cases h
          split at h
          · cases h
            exact ⟨rfl, rfl⟩
          · cases h
      obtain ⟨rfl, rfl⟩ := hsm
      exact ⟨t, rfl, .nothing hrow⟩

theorem hideError_ok {α : Type} {r : Except TopUpError α} {a : α} (h : hideError r = .ok a) :
    r = .ok a := by
  cases r with
  | ok a => exact h
  | error e => cases h

/-- A path that credits by amount refuses a credit that is not positive. -/
theorem positive_of_ok {d : ℚ} (h : (if quotaFromDecimal d ≤ 0 then
    (.error .invalidQuota : Except TopUpError ℚ) else .ok (quotaFromDecimal d)) = .ok q) :
    0 < q := by
  obtain ⟨n, rfl, hpos, -⟩ := positive_ok_iff.mp h
  exact Int.cast_pos.mpr hpos

theorem recharge_effect {customerId : String}
    (h : recharge arith quotaPerUnit customerId faults tradeNo now db = .ok (q, db')) :
    ∃ t t', db.getTopUpByTradeNo tradeNo = some t ∧
      TopUpEffect arith quotaPerUnit db db' t t' q := by
  unfold recharge at h
  split at h
  · cases h
  refine run_effect ?_ (hideError_ok h)
  intro t q hacc hquo hcre
  cases hquo
  exact hcre.1 (of_decide_eq_true hacc)

theorem rechargeCreem_effect {customerEmail : String}
    (h : rechargeCreem customerEmail faults tradeNo now db = .ok (q, db')) :
    ∃ t t', db.getTopUpByTradeNo tradeNo = some t ∧
      TopUpEffect arith quotaPerUnit db db' t t' q := by
  unfold rechargeCreem at h
  split at h
  · cases h
  refine run_effect ?_ (hideError_ok h)
  intro t q hacc hquo hcre
  cases hquo
  exact Int.cast_pos.mpr (hcre.2 (of_decide_eq_true hacc))

theorem rechargeByAmount_effect {provider : PaymentProvider}
    (h : rechargeByAmount arith quotaPerUnit provider faults tradeNo now db = .ok (q, db')) :
    ∃ t t', db.getTopUpByTradeNo tradeNo = some t ∧
      TopUpEffect arith quotaPerUnit db db' t t' q := by
  unfold rechargeByAmount at h
  split at h
  · cases h
  exact run_effect (fun t q _ hquo _ => positive_of_ok hquo) (hideError_ok h)

theorem manualCompleteTopUp_effect
    (h : manualCompleteTopUp arith quotaPerUnit faults tradeNo now db = .ok (q, db')) :
    ∃ t t', db.getTopUpByTradeNo tradeNo = some t ∧
      TopUpEffect arith quotaPerUnit db db' t t' q := by
  unfold manualCompleteTopUp at h
  split at h
  · cases h
  refine run_effect (fun t q _ hquo _ => ?_) h
  unfold manualQuota at hquo
  by_cases hstr : t.paymentProvider = .stripe
  · simp only [if_pos hstr] at hquo
    exact positive_of_ok hquo
  · simp only [if_neg hstr] at hquo
    exact positive_of_ok hquo

theorem updatePendingTopUpStatus_effect {expected : Option PaymentProvider}
    {target : TopUpStatus} (hne : target ≠ .success)
    (h : updatePendingTopUpStatus faults tradeNo expected target db = .ok db') :
    ∃ t t', db.getTopUpByTradeNo tradeNo = some t ∧
      TopUpEffect arith quotaPerUnit db db' t t' 0 := by
  unfold updatePendingTopUpStatus at h
  split at h
  · cases h
  split at h
  · cases h
  · cases h
  rename_i t _ hfd
  split at h
  · cases h
  split at h
  · cases h
  rename_i hpen
  split at h
  · cases h
  cases h
  refine ⟨t, { t with status := target }, hfd, find?_save_row (find?_of_tradeNo hfd) rfl,
    fun u => ?_, ⟨rfl, rfl, rfl, rfl, rfl⟩, .inr ⟨not_not.mp hpen, .inr ⟨hne, rfl⟩⟩⟩
  rw [ite_self, add_zero]

/-- Epay's path works on a copy, which may be older than the row `t`. -/
theorem settleEpayOrder_effect {copy : TopUp F} (hrow : db.topUps.find? copy.id = some t)
    (hur : t.userId = copy.userId)
    (h : settleEpayOrder arith quotaPerUnit faults copy now db = .ok (q, db')) :
    ∃ t', TopUpEffect arith quotaPerUnit db db' t t' q := by
  have hid : t.id = copy.id := (db.topUps.find?_eq_some_iff.mp hrow).2
  unfold settleEpayOrder at h
  split at h
  · cases h
  rename_i quotaToAdd hche
  split at h
  · cases h
  split at h
  · cases h
  simp only at h
  split at h
  · cases h
    exact ⟨t, .nothing (hid ▸ hrow)⟩
  rename_i hdue
  split at h
  · cases h
  cases h
  -- the row that is due is the order's own, so the update is of that row alone
  obtain ⟨row, hmem, hrw⟩ := any_eq_true.mp (Bool.not_eq_false _ ▸ hdue)
  obtain ⟨hrwI, hpen⟩ := of_decide_eq_true hrw
  obtain rfl : row = t :=
    Option.some.inj ((db.topUps.find?_eq_some_iff.mpr ⟨hmem, hrwI⟩).symm.trans hrow)
  refine ⟨{ row.complete now with paymentMethod := copy.paymentMethod }, fun k => ?_, fun u => ?_,
    ⟨rfl, rfl, rfl, rfl, rfl⟩, .inr ⟨hpen, .inl ⟨rfl, fun _ => ?_⟩⟩⟩
  · refine db.topUps.find?_updateWhere_one (fun _ => ?_) (hid ▸ hrow) hrw
      (fun other hoth => (of_decide_eq_true hoth).1.trans hid.symm) k
    rfl
  · rw [quota_credit, hur]
  · have hquo : (0 : Int) < quotaToAdd := by omega
    exact Int.cast_pos.mpr hquo

end Effect

/-! ## What a run keeps -/

namespace TopUpHistory
variable {F : Type} {arith : FloatArith F} {quotaPerUnit : F} {h h' : TopUpHistory F}
  {e : TopUpEvent} {t t' : TopUp F} {q : ℚ}

/-- A copy that Epay's callback holds is of an order that exists, for the same user. -/
def CopiesValid (h : TopUpHistory F) : Prop :=
  ∀ copy ∈ h.loaded, ∃ t, h.db.topUps.find? copy.id = some t ∧ t.userId = copy.userId

/-- The step was an operation on the order `t`, which is `t'` now. -/
structure Operates (arith : FloatArith F) (quotaPerUnit : F) (h h' : TopUpHistory F)
    (t t' : TopUp F) (q : ℚ) : Prop where
  row : h.db.topUps.find? t.id = some t
  effect : TopUpEffect arith quotaPerUnit h.db h'.db t t' q
  loaded : h'.loaded = h.loaded
  changes : h'.changes = h.changes ++ [⟨t.id, t.userId, q⟩]

/-- The ledger entry of an operation is the credit. -/
theorem operates_enter {db : TopUpStore F} {copy : TopUp F}
    (hrow : h.db.topUps.find? t.id = some t) (hid : copy.id = t.id) (hur : copy.userId = t.userId)
    (heff : TopUpEffect arith quotaPerUnit h.db db t t' q) :
    Operates arith quotaPerUnit h (h.enter copy db) t t' q where
  row := hrow
  effect := heff
  loaded := rfl
  changes := by
    have hq : (db.users t.userId).quota - (h.db.users t.userId).quota = q := by
      rw [heff.users, if_pos rfl, add_sub_cancel_left]
    simp only [enter, hid, hur, hq]

/-- An operation on the order of a trade number. -/
theorem finish_cases {tradeNo : String} {r : Except TopUpError (ℚ × TopUpStore F)}
    (heff : ∀ q db', r = .ok (q, db') → ∃ t t', h.db.getTopUpByTradeNo tradeNo = some t ∧
      TopUpEffect arith quotaPerUnit h.db db' t t' q) :
    h.finish (h.db.getTopUpByTradeNo tradeNo) r = h ∨ ∃ t t' q,
      Operates arith quotaPerUnit h (h.finish (h.db.getTopUpByTradeNo tradeNo) r) t t' q := by
  cases r with
  | error e =>
    left
    cases h.db.getTopUpByTradeNo tradeNo <;> rfl
  | ok result =>
    right
    obtain ⟨q, db'⟩ := result
    obtain ⟨t, t', hfd, heff⟩ := heff q db' rfl
    rw [hfd]
    exact ⟨t, t', q, operates_enter (find?_of_tradeNo hfd) rfl rfl heff⟩

/-- **What a step can do**: nothing, load an order, or operate on one. -/
theorem step_cases (hcop : h.CopiesValid) (hst : Step arith quotaPerUnit h e h') :
    h' = h ∨ (∃ t, h.db.topUps.find? t.id = some t ∧ h' = { h with loaded := h.loaded ++ [t] }) ∨
      ∃ t t' q, Operates arith quotaPerUnit h h' t t' q := by
  obtain ⟨hall, rfl⟩ := hst
  have hof : ∀ {g}, (g = h ∨ ∃ t t' q, Operates arith quotaPerUnit h g t t' q) →
      g = h ∨ (∃ t, h.db.topUps.find? t.id = some t ∧ g = { h with loaded := h.loaded ++ [t] }) ∨
        ∃ t t' q, Operates arith quotaPerUnit h g t t' q := by
    rintro g (hsm | hope)
    · exact .inl hsm
    · exact .inr (.inr hope)
  cases e with
  | epayLoad tradeNo =>
    simp only [apply]
    cases hfd : h.db.getTopUpByTradeNo tradeNo with
    | none => exact .inl rfl
    | some t =>
      dsimp only
      split
      · exact .inr (.inl ⟨t, find?_of_tradeNo hfd, rfl⟩)
      · exact .inl rfl
  | epaySettle i paymentMethod now faults =>
    simp only [apply]
    cases hcp : h.loaded[i]? with
    | none => exact .inl rfl
    | some copy =>
      dsimp only
      obtain ⟨t, hrow, hur⟩ := hcop copy (mem_of_getElem? hcp)
      have hid : t.id = copy.id := (h.db.topUps.find?_eq_some_iff.mp hrow).2
      let paid : TopUp F := { copy with paymentMethod := paymentMethod }
      have hpa : h.db.topUps.find? paid.id = some t := hrow
      cases hres : settleEpayOrder arith quotaPerUnit faults paid now h.db with
      | error err => exact .inl rfl
      | ok result =>
        obtain ⟨q, db'⟩ := result
        obtain ⟨t', heff⟩ := settleEpayOrder_effect hpa hur hres
        rw [← hid] at hrow
        exact .inr (.inr ⟨t, t', q, operates_enter hrow hid.symm hur.symm heff⟩)
  | recharge referenceId customerId now faults =>
    exact hof (finish_cases fun q db' => recharge_effect)
  | rechargeCreem referenceId customerEmail now faults =>
    exact hof (finish_cases fun q db' => rechargeCreem_effect)
  | rechargeWaffo tradeNo now faults | rechargeWaffoPancake tradeNo now faults =>
    exact hof (finish_cases fun q db' => rechargeByAmount_effect)
  | manualComplete tradeNo now faults =>
    exact hof (finish_cases fun q db' => manualCompleteTopUp_effect)
  | updatePending tradeNo expected target faults =>
    simp only [apply]
    cases hres : updatePendingTopUpStatus faults tradeNo expected target h.db with
    | error err =>
      left
      cases h.db.getTopUpByTradeNo tradeNo <;> rfl
    | ok db' =>
      obtain ⟨t, t', hfd, heff⟩ := updatePendingTopUpStatus_effect hall hres
      rw [hfd]
      exact .inr (.inr ⟨t, t', 0, operates_enter (find?_of_tradeNo hfd) rfl rfl heff⟩)

/-- An operation leaves every order that exists in place, for the same user. -/
theorem Operates.find?_same (ho : Operates arith quotaPerUnit h h' t t' q) {k : Int}
    {row : TopUp F} (hrow : h.db.topUps.find? k = some row) :
    ∃ row', h'.db.topUps.find? k = some row' ∧ row.SameOrder row' := by
  rw [ho.effect.rows]
  by_cases hk : k = t.id
  · rw [if_pos hk]
    rw [hk, ho.row] at hrow
    cases hrow
    exact ⟨t', rfl, ho.effect.same⟩
  · rw [if_neg hk]
    exact ⟨row, hrow, .refl row⟩

theorem copiesValid_step (hcop : h.CopiesValid) (hst : Step arith quotaPerUnit h e h') :
    h'.CopiesValid := by
  rcases step_cases hcop hst with rfl | ⟨t, hrow, rfl⟩ | ⟨t, t', q, ho⟩
  · exact hcop
  · intro copy hcp
    rcases mem_append.mp hcp with hold | hnew
    · exact hcop copy hold
    obtain rfl := mem_singleton.mp hnew
    exact ⟨copy, hrow, rfl⟩
  · intro copy hcp
    rw [ho.loaded] at hcp
    obtain ⟨row, hrow, hur⟩ := hcop copy hcp
    obtain ⟨row', hrow', hsm⟩ := ho.find?_same hrow
    exact ⟨row', hrow', hsm.userId.trans hur⟩

/-! ### One order -/

theorem increases_operates (ho : Operates arith quotaPerUnit h h' t t' q) (k : Int) :
    h'.increases k = h.increases k ++ if t.id = k ∧ 0 < q then [⟨t.id, t.userId, q⟩] else [] := by
  unfold increases
  rw [ho.changes, filter_append]
  by_cases hk : t.id = k ∧ 0 < q
  · simp [hk]
  · simp [hk]

/-- How the order that was `t₀` at first stands: an order that was not pending is as it
was, and one that was pending has been credited if it is a success now. -/
structure Stands (arith : FloatArith F) (quotaPerUnit : F) (t₀ : TopUp F) (h : TopUpHistory F)
    (t : TopUp F) : Prop where
  row : h.db.topUps.find? t₀.id = some t
  same : t₀.SameOrder t
  once : (h.increases t₀.id).length ≤ 1
  user : ∀ c ∈ h.increases t₀.id, c.user = t₀.userId
  credited : h.increases t₀.id ≠ [] → t₀.status = .pending ∧ t.status = .success
  success : t₀.status = .pending → t.status = .success → t₀.Creditable arith quotaPerUnit →
    h.increases t₀.id ≠ []
  final : t₀.status ≠ .pending → t.status = t₀.status

/-- An operation on another order. -/
theorem Stands.other {t₀ row : TopUp F} (hs : Stands arith quotaPerUnit t₀ h row)
    (ho : Operates arith quotaPerUnit h h' t t' q) (hne : t.id ≠ t₀.id) :
    Stands arith quotaPerUnit t₀ h' row := by
  have hinc : h'.increases t₀.id = h.increases t₀.id := by
    rw [increases_operates ho, if_neg fun hk => hne hk.1, append_nil]
  refine ⟨?_, hs.same, hinc ▸ hs.once, hinc ▸ hs.user, hinc ▸ hs.credited,
    hinc ▸ hs.success, hs.final⟩
  rw [ho.effect.rows, if_neg hne.symm]
  exact hs.row

variable {t₀ : TopUp F}

/-- An operation on the order itself. -/
theorem Stands.self (hs : Stands arith quotaPerUnit t₀ h t)
    (ho : Operates arith quotaPerUnit h h' t t' q) : Stands arith quotaPerUnit t₀ h' t' := by
  have hrow : h'.db.topUps.find? t₀.id = some t' := by
    rw [ho.effect.rows, if_pos hs.same.id.symm]
  have hinc := increases_operates ho t₀.id
  rw [hs.same.id] at hinc
  rcases ho.effect.moves with ⟨rfl, rfl⟩ | ⟨hpen, hend⟩
  · rw [if_neg fun hk => lt_irrefl _ hk.2, append_nil] at hinc
    exact ⟨hrow, hs.same, hinc ▸ hs.once, hinc ▸ hs.user, hinc ▸ hs.credited,
      hinc ▸ hs.success, hs.final⟩
  -- the order was pending until now, so it had not been credited
  have hfst : t₀.status = .pending := by
    by_contra hne
    exact hne ((hs.final hne).symm.trans hpen)
  have hno : h.increases t₀.id = [] := by
    by_contra hso
    have hdn := (hs.credited hso).2
    rw [hpen] at hdn
    cases hdn
  rw [hno, nil_append] at hinc
  rcases hend with ⟨hsuc, hcre⟩ | ⟨hoth, rfl⟩
  · refine ⟨hrow, hs.same.trans ho.effect.same, ?_, fun c hc => ?_, fun _ => ⟨hfst, hsuc⟩,
      fun _ _ hcr => ?_, fun hne => absurd hfst hne⟩
    · rw [hinc]
      split <;> simp
    · rw [hinc] at hc
      split at hc
      · rw [mem_singleton.mp hc]
        exact hs.same.userId
      · cases hc
    · rw [hinc, if_pos ⟨rfl, hcre (hs.same.creditable hcr)⟩]
      exact cons_ne_nil _ _
  · rw [if_neg fun hk => lt_irrefl _ hk.2] at hinc
    refine ⟨hrow, hs.same.trans ho.effect.same, by simp [hinc], by simp [hinc],
      fun hso => absurd hinc hso, fun _ hsuc => absurd hsuc hoth, fun hne => absurd hfst hne⟩

theorem stands_step (hcop : h.CopiesValid)
    (hs : ∃ t, Stands arith quotaPerUnit t₀ h t) (hst : Step arith quotaPerUnit h e h') :
    ∃ t, Stands arith quotaPerUnit t₀ h' t := by
  obtain ⟨row, hs⟩ := hs
  rcases step_cases hcop hst with rfl | ⟨t, hrow, rfl⟩ | ⟨t, t', q, ho⟩
  · exact ⟨row, hs⟩
  · exact ⟨row, { hs with }⟩
  · by_cases hid : t.id = t₀.id
    · obtain rfl : row = t := by
        have hfd := ho.row
        rw [hid, hs.row] at hfd
        exact Option.some.inj hfd
      exact ⟨t', hs.self ho⟩
    · exact ⟨row, hs.other ho hid⟩

theorem stands_start {db : TopUpStore F} (hrow : db.topUps.find? t₀.id = some t₀) :
    Stands arith quotaPerUnit t₀ ⟨db, [], []⟩ t₀ where
  row := hrow
  same := .refl t₀
  once := Nat.zero_le _
  user := by
    intro c hc
    cases hc
  credited := fun hne => absurd rfl hne
  success := by
    intro hpen hsuc
    rw [hpen] at hsuc
    cases hsuc
  final := fun _ => rfl

/-- An order that has left `pending` is not touched. -/
theorem status_step {k : Int} {row : TopUp F} (hcop : h.CopiesValid)
    (hrow : h.db.topUps.find? k = some row) (hlf : row.status ≠ .pending)
    (hst : Step arith quotaPerUnit h e h') :
    ∃ row', h'.db.topUps.find? k = some row' ∧ row'.status = row.status := by
  rcases step_cases hcop hst with rfl | ⟨t, -, rfl⟩ | ⟨t, t', q, ho⟩
  · exact ⟨row, hrow, rfl⟩
  · exact ⟨row, hrow, rfl⟩
  · rw [ho.effect.rows]
    by_cases hk : k = t.id
    · rw [hk, ho.row] at hrow
      cases hrow
      rcases ho.effect.moves with ⟨rfl, -⟩ | ⟨hpen, -⟩
      · exact ⟨t', if_pos hk, rfl⟩
      · exact absurd hpen hlf
    · exact ⟨row, (if_neg hk).trans hrow, rfl⟩

/-! ### One user -/

theorem gained_operates (ho : Operates arith quotaPerUnit h h' t t' q) (u : Int) :
    h'.gained u = h.gained u + if u = t.userId then q else 0 := by
  unfold gained
  rw [ho.changes, filter_append, map_append, sum_append]
  by_cases hu : u = t.userId
  · simp [hu]
  · simp [hu, Ne.symm hu]

theorem quota_step {quota : Int → ℚ} (hcop : h.CopiesValid)
    (hq : ∀ u, (h.db.users u).quota = quota u + h.gained u)
    (hst : Step arith quotaPerUnit h e h') (u : Int) :
    (h'.db.users u).quota = quota u + h'.gained u := by
  rcases step_cases hcop hst with rfl | ⟨t, hrow, rfl⟩ | ⟨t, t', q, ho⟩
  · exact hq u
  · exact hq u
  · rw [ho.effect.users, gained_operates ho, hq, add_assoc]

/-! ### Every run -/

variable {es : List TopUpEvent}

section
variable (hcop : h.CopiesValid)
include hcop

theorem copiesValid_run (hrun : Run (Step arith quotaPerUnit) h es h') : h'.CopiesValid :=
  hrun.invariant (I := CopiesValid) (fun _ _ _ hg hst => copiesValid_step hg hst) hcop

theorem stands_run
    (hs : ∃ t, Stands arith quotaPerUnit t₀ h t) (hrun : Run (Step arith quotaPerUnit) h es h') :
    ∃ t, Stands arith quotaPerUnit t₀ h' t :=
  (hrun.invariant (I := fun g => g.CopiesValid ∧ ∃ t, Stands arith quotaPerUnit t₀ g t)
    (fun _ _ _ hg hst => ⟨copiesValid_step hg.1 hst, stands_step hg.1 hg.2 hst⟩)
    ⟨hcop, hs⟩).2

theorem status_run {k : Int} {row : TopUp F}
    (hrow : h.db.topUps.find? k = some row) (hlf : row.status ≠ .pending)
    (hrun : Run (Step arith quotaPerUnit) h es h') :
    ∃ row', h'.db.topUps.find? k = some row' ∧ row'.status = row.status := by
  refine (hrun.invariant (I := fun g => g.CopiesValid ∧
    ∃ row', g.db.topUps.find? k = some row' ∧ row'.status = row.status) ?_ ⟨hcop, row, hrow, rfl⟩).2
  rintro g e g' ⟨hval, row', hrow', hsts⟩ hst
  obtain ⟨row'', hrow'', hsm⟩ := status_step hval hrow' (hsts ▸ hlf) hst
  exact ⟨copiesValid_step hval hst, row'', hrow'', hsm.trans hsts⟩

theorem quota_run {quota : Int → ℚ} (hq : ∀ u, (h.db.users u).quota = quota u + h.gained u)
    (hrun : Run (Step arith quotaPerUnit) h es h') (u : Int) :
    (h'.db.users u).quota = quota u + h'.gained u :=
  (hrun.invariant
    (I := fun g => g.CopiesValid ∧ ∀ u, (g.db.users u).quota = quota u + g.gained u)
    (fun _ _ _ hg hst => ⟨copiesValid_step hg.1 hst, quota_step hg.1 hg.2 hst⟩)
    ⟨hcop, hq⟩).2 u

end

/-- **An order is credited at most once.**  After any operations on any orders, the order
that was `t` at first has been credited at most once, to its own user.  If it was pending
and is worth something, it has been credited exactly when it is a success now.  If it is
not pending now, whatever follows leaves its status alone.  And each user's quota is what
it was plus what the ledger says. -/
theorem credited_once {db : TopUpStore F} {es : List TopUpEvent}
    (hrow : db.topUps.find? t.id = some t)
    (hrun : Run (Step arith quotaPerUnit) ⟨db, [], []⟩ es h) :
    ∃ t', h.db.topUps.find? t.id = some t' ∧
      (h.increases t.id).length ≤ 1 ∧
      (∀ c ∈ h.increases t.id, c.user = t.userId) ∧
      (h.increases t.id ≠ [] → t'.status = .success) ∧
      (t.status = .pending → t.Creditable arith quotaPerUnit →
        (h.increases t.id ≠ [] ↔ t'.status = .success)) ∧
      (t'.status ≠ .pending → ∀ es' h', Run (Step arith quotaPerUnit) h es' h' →
        ∃ t'', h'.db.topUps.find? t.id = some t'' ∧ t''.status = t'.status) ∧
      ∀ u, (h.db.users u).quota = (db.users u).quota + h.gained u := by
  have hno : CopiesValid (⟨db, [], []⟩ : TopUpHistory F) := by
    intro copy hcp
    cases hcp
  obtain ⟨t', hs⟩ := stands_run hno ⟨t, stands_start hrow⟩ hrun
  refine ⟨t', hs.row, hs.once, hs.user, fun hso => (hs.credited hso).2,
    fun hpen hcre => ⟨fun hso => (hs.credited hso).2, fun hsuc =>
      hs.success hpen hsuc hcre⟩, fun hlf es' h' hrun' => ?_, fun u => ?_⟩
  · exact status_run (copiesValid_run hno hrun) hs.row hlf hrun'
  have hstr : ∀ u, (db.users u).quota = (db.users u).quota + gained ⟨db, [], []⟩ u :=
    fun u => (add_zero _).symm
  exact quota_run hno hstr hrun u

open Gateway

/-- The Waffo order: its callback, the callback again, and an administrator. -/
def sampleEvents : List TopUpEvent :=
  [.rechargeWaffo "T1" 100 {}, .rechargeWaffo "T1" 101 {}, .manualComplete "T1" 200 {}]

theorem run_apply (arith : FloatArith F) (quotaPerUnit : F) (h : TopUpHistory F)
    (es : List TopUpEvent) (hall : ∀ e ∈ es, e.Allowed) :
    Run (Step arith quotaPerUnit) h es (es.foldl (apply arith quotaPerUnit) h) := by
  induction es generalizing h with
  | nil => exact .nil h
  | cons e es ih =>
    rw [forall_mem_cons] at hall
    exact .cons ⟨hall.1, rfl⟩ (ih _ hall.2)

/-- The Waffo order ends as a success and has been credited once. -/
theorem credited_once_waffo :
    ∃ h t', Run (Step wholeArith 500000) ⟨orderStore waffoOrder, [], []⟩ sampleEvents h ∧
      h.db.topUps.find? 1 = some t' ∧ t'.status = .success ∧ (h.increases 1).length = 1 := by
  have hrun := run_apply wholeArith 500000
    ⟨orderStore waffoOrder, [], []⟩ sampleEvents (by simp [sampleEvents, TopUpEvent.Allowed])
  obtain ⟨t', hrow, hon, -, -, hiff, -⟩ :=
    credited_once (find?_of_tradeNo (find_orderStore waffoOrder)) hrun
  have hcre : waffoOrder.Creditable wholeArith 500000 := by
    simp [TopUp.Creditable, waffoOrder]
  have hsuc : t'.status = .success := by
    have hsts : ((sampleEvents.foldl (apply wholeArith 500000)
        ⟨orderStore waffoOrder, [], []⟩).db.topUps.find? 1).map TopUp.status = some .success := by
      decide +kernel
    rw [show (1 : Int) = waffoOrder.id from rfl, hrow] at hsts
    exact Option.some.inj hsts
  have hso := length_pos_iff.mpr ((hiff rfl hcre).mpr hsuc)
  exact ⟨_, t', hrun, hrow, hsuc, Nat.le_antisymm hon hso⟩

/-- A Creem order for a product without quota. -/
def worthlessOrder : TopUp ℚ := { creemOrder with amount := 0 }

/-- **An order can succeed without a credit.**  Creem's callback completes an order worth
nothing, and no operation has increased the quota of its user. -/
theorem worthless_order_succeeds :
    ∃ h t', Run (Step wholeArith 500000) ⟨orderStore worthlessOrder, [], []⟩
        [.rechargeCreem "T1" "" 100 {}] h ∧
      h.db.topUps.find? 1 = some t' ∧ t'.status = .success ∧ h.increases 1 = [] := by
  refine ⟨_, worthlessOrder.complete 100, .cons ⟨trivial, rfl⟩ (.nil _), ?_, rfl, ?_⟩
  · rfl
  · decide +kernel

end TopUpHistory

end NewApi
