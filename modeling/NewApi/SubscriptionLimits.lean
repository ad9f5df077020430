import NewApi.SubscriptionOrders

/-! # One subscription per paid order, and the limit of a plan

The row of an order is locked from the read of its status to the commit, so whatever runs beside it,
an order is completed or expired at most once, and completing it creates one subscription.

The limit of a plan is checked by a count, and the count locks nothing.  Two completions of two
orders of a user lock two orders, and a grant locks nothing: both count before either has committed,
and the user gets one subscription too many (`orders_exceed_limit`).  Only purchases from the
balance keep out of each other's way, by the lock on the user.  `orders_once_and_limits` says what
holds: everything about orders, and the limit as long as no two purchases that are not both from the
balance are between count and commit at once (`Spaced`). -/
namespace NewApi
open Db List
variable {F : Type} {setting : OrderSetting F} {s s' : OrderSystem F} {e : OrderEvent}

/-! ## What a transaction is about -/

/-- The creation that a transaction is at. -/
def OrderTx.creation? : OrderTx F → Option CreationAt
  | .completes _ _ _ creation | .binds creation | .buys _ _ _ creation => some creation
  | .completed _ _ _ _ sub group _ | .bought _ _ sub group _ => some (.inserted sub group)
  | .begun _ | .expires _ _ => none

/-- The plan that a creation has read. -/
def CreationAt.plan? : CreationAt → Option SubscriptionPlan
  | .begun _ plan | .counted _ plan => some plan
  | .inserted _ _ => none

/-- The user and the plan of a creation that counts next. -/
def CreationAt.counting? : CreationAt → Option (Int × Int)
  | .begun userId plan => some (userId, plan.id)
  | _ => none

/-- The user and the plan of a creation that has passed its count. -/
def CreationAt.passed? : CreationAt → Option (Int × Int)
  | .begun _ _ => none
  | .counted userId plan => some (userId, plan.id)
  | .inserted sub _ => some (sub.userId, sub.planId)

/-- The user and the plan of a creation. -/
def CreationAt.owner : CreationAt → Int × Int
  | .begun userId plan | .counted userId plan => (userId, plan.id)
  | .inserted sub _ => (sub.userId, sub.planId)

/-- The row that is inserted. -/
def CreationAt.sub? : CreationAt → Option UserSubscription
  | .inserted sub _ => some sub
  | _ => none

/-- **What the next statements of a creation do**: it passes its count if there is room, then it
inserts the row, and then it is done. -/
theorem CreationAt.next_cases {env : StatementEnv} {db : OrderDb F} {c c' : CreationAt}
    (h : c.next setting env db = .ok c') :
    (∃ userId plan, c = .begun userId plan ∧ c' = .counted userId plan ∧
      ¬ (0 < plan.maxPurchasePerUser ∧
        plan.maxPurchasePerUser ≤ db.countSubscriptions userId plan.id)) ∨
    (∃ userId plan sub group, c = .counted userId plan ∧ c' = .inserted sub group ∧
      (sub.userId, sub.planId) = (userId, plan.id)) ∨
    ∃ sub group, c = .inserted sub group ∧ c' = .inserted sub group := by
  rcases c with ⟨userId, plan⟩ | ⟨userId, plan⟩ | ⟨sub, group⟩
  · simp only [CreationAt.next] at h
    iterate 3
      split at h
      · cases h
    rename_i hrm
    cases h
    exact .inl ⟨userId, plan, rfl, rfl, hrm⟩
  · simp only [CreationAt.next] at h
    split at h
    · cases h
    cases h
    exact .inr (.inl ⟨userId, plan, _, _, rfl, rfl, rfl⟩)
  · cases h
    exact .inr (.inr ⟨sub, group, rfl, rfl⟩)

namespace OrderTx

/-- The user and the plan for which a transaction counts next. -/
def counting? (tx : OrderTx F) : Option (Int × Int) := tx.creation?.bind CreationAt.counting?

/-- The user and the plan for which a transaction has passed its count. -/
def passed? (tx : OrderTx F) : Option (Int × Int) := tx.creation?.bind CreationAt.passed?

/-- The subscription that a transaction creates. -/
def sub? (tx : OrderTx F) : Option UserSubscription := tx.creation?.bind CreationAt.sub?

/-- The transaction completes the order with this number. -/
def createsFor (tradeNo : String) : OrderTx F → Bool
  | .completed order .. => order.val.tradeNo = tradeNo
  | _ => false

/-- **What a statement does to a transaction.**  The first one may lock a row, which it reads, and
choose a plan; the others go on with the creation. -/
inductive Advances (setting : OrderSetting F) (env : StatementEnv) (db : OrderDb F) :
    OrderTx F → OrderTx F → Prop
  | starts {call : OrderCall} {tx' : OrderTx F}
      (horder : ∀ order, tx'.order? = some order →
        (begun call : OrderTx F).wantsOrder? = some order.val.tradeNo ∧
          db.orders.find? order.val.tradeNo = some order.val)
      (huser : ∀ userId, tx'.user? = some userId →
        (begun call : OrderTx F).wantsUser? = some userId)
      (hcreation : ∀ creation, tx'.creation? = some creation → ∃ userId row,
        creation = .begun userId row.plan ∧ setting.plans.find? row.plan.id = some row ∧
          ∀ order, tx'.order? = some order →
            (userId, row.plan.id) = (order.val.userId, order.val.planId)) :
      Advances setting env db (begun call) tx'
  | creates {tx tx' : OrderTx F} {c c' : CreationAt} (hc : tx.creation? = some c)
      (hc' : tx'.creation? = some c') (hnext : c.next setting env db = .ok c')
      (horder : tx'.order? = tx.order?) (huser : tx'.user? = tx.user?) :
      Advances setting env db tx tx'

theorem getSubscriptionPlanById_ok {id : Int} {row : PlanRow F}
    (h : setting.getSubscriptionPlanById id = .ok row) :
    setting.plans.find? row.plan.id = some row ∧ row.plan.id = id := by
  simp only [OrderSetting.getSubscriptionPlanById] at h
  split at h
  · cases h
  split at h
  · cases h
  rename_i found hfd
  cases h
  have hid : row.plan.id = id := (setting.plans.find?_eq_some_iff.mp hfd).2
  rw [hid]
  exact ⟨hfd, rfl⟩

variable {env : StatementEnv} {db : OrderDb F}

/-- The first statement of a transaction. -/
theorem advances_begun {call : OrderCall} {tx' : OrderTx F}
    (h : (begun call : OrderTx F).next setting env db = some (.next tx')) :
    Advances setting env db (begun call) tx' := by
  rcases call with ⟨tradeNo, payload, expected, method⟩ | ⟨tradeNo, expected⟩ | ⟨userId, planId⟩ |
    ⟨userId, planId⟩
  · simp only [next, Option.some.injEq] at h
    split at h
    · cases h
    rename_i order hfd
    have htra : order.tradeNo = tradeNo := (db.orders.find?_eq_some_iff.mp hfd).2
    subst htra
    split at h
    · cases h
    split at h
    · cases h
    split at h
    · split at h
      · cases h
      rename_i row hrow
      cases h
      refine .starts ?_ ?_ ?_
      · rintro _ ⟨⟩
        exact ⟨rfl, hfd⟩
      · rintro _ ⟨⟩
      · rintro _ ⟨⟩
        obtain ⟨hpl, hid⟩ := getSubscriptionPlanById_ok hrow
        refine ⟨_, row, rfl, hpl, ?_⟩
        rintro _ ⟨⟩
        exact congrArg (Prod.mk _) hid
    · cases h
  · simp only [next, Option.some.injEq] at h
    split at h
    · cases h
    rename_i order hfd
    have htra : order.tradeNo = tradeNo := (db.orders.find?_eq_some_iff.mp hfd).2
    subst htra
    split at h
    · cases h
    split at h
    · cases h
      refine .starts ?_ ?_ ?_
      · rintro _ ⟨⟩
        exact ⟨rfl, hfd⟩
      all_goals rintro _ ⟨⟩
    · cases h
  · simp only [next, Option.some.injEq] at h
    split at h
    · cases h
    rename_i row hrow
    cases h
    refine .starts ?_ ?_ ?_
    · rintro _ ⟨⟩
    · rintro _ ⟨⟩
    · rintro _ ⟨⟩
      refine ⟨_, row, rfl, (getSubscriptionPlanById_ok hrow).1, ?_⟩
      rintro _ ⟨⟩
  · simp only [next, Option.some.injEq] at h
    split at h
    · cases h
    rename_i row hrow
    -- the checks on the plan, its price, and the balance
    iterate 6
      split at h
      · cases h
    cases h
    refine .starts ?_ ?_ ?_
    · rintro _ ⟨⟩
    · rintro _ ⟨⟩
      rfl
    · rintro _ ⟨⟩
      refine ⟨_, row, rfl, (getSubscriptionPlanById_ok hrow).1, ?_⟩
      rintro _ ⟨⟩

theorem advances_creation {tx tx' : OrderTx F}
    {c : CreationAt} (hc : tx.creation? = some c) (wrap : CreationAt → OrderTx F)
    (hwr : ∀ c, (wrap c).creation? = some c ∧ (wrap c).order? = tx.order? ∧
      (wrap c).user? = tx.user?) (h : (match c.next setting env db with
      | .error e => TxResult.done (.error (.purchase e))
      | .ok c' => .next (wrap c')) = .next tx') : Advances setting env db tx tx' := by
  split at h
  · cases h
  rename_i c' hnext
  cases h
  exact .creates hc (hwr c').1 hnext (hwr c').2.1 (hwr c').2.2

theorem advances {tx tx' : OrderTx F}
    (h : tx.next setting env db = some (.next tx')) : Advances setting env db tx tx' := by
  rcases tx with call | ⟨order, payload, method, c⟩ | _ | _ | c | ⟨buyer, quota, price, c⟩ | _
  · exact advances_begun h
  · cases c with
    | begun | counted =>
      simp only [next, Option.some.injEq] at h
      exact advances_creation rfl (completes order payload method) (fun _ => ⟨rfl, rfl, rfl⟩) h
    | inserted =>
      simp only [next, Option.some.injEq] at h
      split at h
      · cases h
      cases h
      exact .creates rfl rfl rfl rfl rfl
  · cases h
  · cases h
  · cases c with
    | begun | counted =>
      simp only [next, Option.some.injEq] at h
      exact advances_creation rfl binds (fun _ => ⟨rfl, rfl, rfl⟩) h
    | inserted => cases h
  · cases c with
    | begun | counted =>
      simp only [next, Option.some.injEq] at h
      exact advances_creation rfl (buys buyer quota price) (fun _ => ⟨rfl, rfl, rfl⟩) h
    | inserted =>
      cases h
      exact .creates rfl rfl rfl rfl rfl
  · cases h

/-! ## What a commit does -/

/-- A commit adds the subscription of the transaction, if it has one. -/
theorem rows_commit {db db' : OrderDb F} {tx : OrderTx F} (h : tx.commit db = some db') :
    db'.subscriptions.rows = db.subscriptions.rows ++ tx.sub?.toList := by
  rcases tx with _ | _ | ⟨order, payload, method, now, sub, group, topUp⟩ | _ |
    (_ | _ | ⟨sub, group⟩) | _ | ⟨userId, quota, sub, group, order⟩
  all_goals simp only [commit] at h
  · cases h
  · cases h
  · split at h
    · rename_i subscriptions topUps hsu _
      cases h
      exact (db.subscriptions.rows_create hsu).1
    · cases h
  · cases h
    exact (append_nil _).symm
  · cases h
  · cases h
  · split at h
    · rename_i subscriptions hsu
      cases h
      exact (db.subscriptions.rows_create hsu).1
    · cases h
  · cases h
  · split at h
    · rename_i subscriptions orders hsu _
      cases h
      exact (db.subscriptions.rows_create hsu).1
    · cases h

theorem find?_save_read {orders : Table (SubscriptionOrder.tradeNo (F := F))}
    {order o : SubscriptionOrder F} (hre : orders.find? order.tradeNo = some order)
    {saved : SubscriptionOrder F} (hkey : saved.tradeNo = order.tradeNo) {tradeNo : String}
    (ho : orders.find? tradeNo = some o) :
    (order.tradeNo ≠ tradeNo ∧ (orders.save saved).find? tradeNo = some o) ∨
      (order.tradeNo = tradeNo ∧ order = o ∧ (orders.save saved).find? tradeNo = some saved) := by
  by_cases hsm : order.tradeNo = tradeNo
  · subst hsm
    rw [hre] at ho
    refine .inr ⟨rfl, Option.some.inj ho, ?_⟩
    rw [← hkey] at hre ⊢
    exact orders.find?_save_self hre
  · refine .inl ⟨hsm, ?_⟩
    rw [orders.find?_save_ne (hkey ▸ hsm), ho]

/-- **A commit changes the order that the transaction has locked, and no other.** -/
theorem order_commit {db db' : OrderDb F} {tx : OrderTx F} (h : tx.commit db = some db')
    (hre : ∀ order, tx.order? = some order → db.orders.find? order.val.tradeNo = some order.val)
    {tradeNo : String} {o : SubscriptionOrder F} (ho : db.orders.find? tradeNo = some o) :
    (db'.orders.find? tradeNo = some o ∧ tx.createsFor tradeNo = false) ∨
      o.status = .pending ∧ (∃ order, tx.order? = some order ∧ order.val.tradeNo = tradeNo) ∧
        ∃ o', db'.orders.find? tradeNo = some o' ∧ (o'.userId, o'.planId) = (o.userId, o.planId) ∧
          (o'.status = .success ∧ tx.createsFor tradeNo = true ∨
            o'.status = .expired ∧ tx.createsFor tradeNo = false) := by
  rcases tx with _ | _ | ⟨order, payload, method, now, sub, group, topUp⟩ | ⟨order, now⟩ |
    (_ | _ | ⟨sub, group⟩) | _ | ⟨userId, quota, sub, group, order⟩
  all_goals simp only [commit] at h
  · cases h
  · cases h
  · split at h
    · cases h
      have hkey : (order.val.complete payload method now).tradeNo = order.val.tradeNo := rfl
      rcases find?_save_read (hre order rfl) hkey ho with ⟨hne, hsm⟩ | ⟨heq, rfl, hsav⟩
      · exact .inl ⟨hsm, decide_eq_false hne⟩
      exact .inr ⟨order.2, ⟨order, rfl, heq⟩, _, hsav, rfl, .inl ⟨rfl, decide_eq_true heq⟩⟩
    · cases h
  · cases h
    have hkey : (order.val.expire now).tradeNo = order.val.tradeNo := rfl
    rcases find?_save_read (hre order rfl) hkey ho with ⟨-, hsm⟩ | ⟨heq, rfl, hsav⟩
    · exact .inl ⟨hsm, rfl⟩
    · exact .inr ⟨order.2, ⟨order, rfl, heq⟩, _, hsav, rfl, .inr ⟨rfl, rfl⟩⟩
  · cases h
  · cases h
  · split at h
    · cases h
      exact .inl ⟨ho, rfl⟩
    · cases h
  · cases h
  · split at h
    · rename_i subscriptions orders _ hord
      cases h
      refine .inl ⟨?_, rfl⟩
      have hne : tradeNo ≠ order.tradeNo := by
        rintro rfl
        rw [(db.orders.rows_create hord).2] at ho
        cases ho
      show orders.find? tradeNo = some o
      rw [db.orders.find?_create hord, if_neg hne, ho]
    · cases h

end OrderTx

/-! ## What a step does -/

namespace OrderSystem

theorem tx?_set (s : OrderSystem F) (n : Nat) (tx : OrderTx F) (m : Nat) :
    (s.set n tx).tx? m = if m = n then some tx else s.tx? m := by
  simp only [tx?, set, Table.find?_put]
  split <;> rfl

theorem tx?_close (s : OrderSystem F) (n m : Nat) :
    (s.close n).tx? m = if m = n then none else s.tx? m := by
  simp only [tx?, close, Table.find?_deleteWhere]
  cases hfd : s.txs.find? m with
  | none => simp
  | some found =>
    have hnum : found.number = m := (s.txs.find?_eq_some_iff.mp hfd).2
    by_cases hm : m = n
    · simp [hnum, hm]
    · simp [hnum, hm]

variable {tx : OrderTx F}

/-- A transaction that is still open after another has ended. -/
theorem of_tx?_close {n m : Nat} (h : (s.close n).tx? m = some tx) : m ≠ n ∧ s.tx? m = some tx := by
  rw [tx?_close] at h
  split at h
  · cases h
  rename_i hne
  exact ⟨hne, h⟩

/-- **What a step does**: a transaction is opened, goes on, ends without a trace, or commits. -/
inductive Moves (setting : OrderSetting F) (s : OrderSystem F) :
    OrderEvent → OrderSystem F → Prop
  | ignores (n : Nat) (call : OrderCall) : Moves setting s (.begins n call) s
  | opens {n : Nat} (call : OrderCall) (hnew : s.tx? n = none) :
      Moves setting s (.begins n call) (s.set n (.begun call))
  | advances {n : Nat} {env : StatementEnv} {tx tx' : OrderTx F} (htx : s.tx? n = some tx)
      (hfree : s.waits tx = false) (h : tx.Advances setting env s.db tx') :
      Moves setting s (.runs n env) (s.set n tx')
  | ends (n : Nat) (e : OrderEvent) : Moves setting s e (s.close n)
  | commits {n : Nat} {tx : OrderTx F} {db : OrderDb F} (htx : s.tx? n = some tx)
      (h : tx.commit s.db = some db) :
      Moves setting s (.commits n) { s.close n with db := db, commits := s.commits ++ [tx] }

open OrderTx

theorem moves (h : Step setting s e s') : Moves setting s e s' := by
  rcases e with ⟨n, call⟩ | ⟨n, env⟩ | n | n
  · simp only [Step, apply] at h
    split at h
    · cases h
    rename_i hnew
    cases h
    split
    · exact .opens call hnew
    · exact .ignores n call
  · simp only [Step, apply] at h
    split at h
    · cases h
    rename_i tx htx
    split at h
    · cases h
    rename_i hfr
    split at h
    · cases h
    · rename_i tx' hnext
      cases h
      exact .advances htx (Bool.not_eq_true _ ▸ hfr) (advances hnext)
    · cases h
      exact .ends n _
  · simp only [Step, apply] at h
    split at h
    · cases h
    rename_i tx htx
    split at h
    · cases h
    rename_i db hcom
    cases h
    exact .commits htx hcom
  · cases h
    exact .ends n _

/-! ## Locks -/

/-- No transaction that is open has locked what `tx` is about to lock. -/
theorem unlocked_of_waits {tx other : OrderTx F} (h : s.waits tx = false) {n : Nat}
    (hoth : s.tx? n = some other) :
    (∀ order, other.order? = some order → tx.wantsOrder? ≠ some order.val.tradeNo) ∧
      ∀ userId, other.user? = some userId → tx.wantsUser? ≠ some userId := by
  obtain ⟨found, hfound, rfl⟩ := Option.map_eq_some_iff.mp hoth
  have hrow := (s.txs.find?_eq_some_iff.mp hfound).1
  simp only [waits, any_eq_false, Bool.or_eq_true, not_or, Bool.not_eq_true] at h
  obtain ⟨hord, hur⟩ := h found hrow
  refine ⟨fun order ho hwan => ?_, fun userId hu hwan => ?_⟩
  · rw [ho, Option.any_some, decide_eq_false_iff_not] at hord
    exact hord hwan
  · rw [hu, Option.any_some, decide_eq_false_iff_not] at hur
    exact hur hwan

/-- **What the locks give**: an order or a user is locked by one transaction, the order is as it was
read, and the plan of a creation is the one in the table. -/
structure Locked (setting : OrderSetting F) (s : OrderSystem F) : Prop where
  order_alone : ∀ n m tx tx' order order', s.tx? n = some tx → s.tx? m = some tx' →
    tx.order? = some order → tx'.order? = some order' →
    order.val.tradeNo = order'.val.tradeNo → n = m
  user_alone : ∀ n m tx tx' userId, s.tx? n = some tx → s.tx? m = some tx' →
    tx.user? = some userId → tx'.user? = some userId → n = m
  order_read : ∀ n tx order, s.tx? n = some tx → tx.order? = some order →
    s.db.orders.find? order.val.tradeNo = some order.val
  plan_read : ∀ n tx c plan, s.tx? n = some tx → tx.creation? = some c → c.plan? = some plan →
    ∃ row, setting.plans.find? plan.id = some row ∧ row.plan = plan
  order_owner : ∀ n tx order c, s.tx? n = some tx → tx.order? = some order →
    tx.creation? = some c → c.owner = (order.val.userId, order.val.planId)

/-- Ending a transaction keeps the locks of the others. -/
theorem Locked.close (h : Locked setting s) (n : Nat) : Locked setting (s.close n) where
  order_alone m k tx tx' order order' htx htx' :=
    h.order_alone m k tx tx' order order' (of_tx?_close htx).2 (of_tx?_close htx').2
  user_alone m k tx tx' userId htx htx' :=
    h.user_alone m k tx tx' userId (of_tx?_close htx).2 (of_tx?_close htx').2
  order_read m tx order htx := h.order_read m tx order (of_tx?_close htx).2
  plan_read m tx c plan htx := h.plan_read m tx c plan (of_tx?_close htx).2
  order_owner m tx order c htx := h.order_owner m tx order c (of_tx?_close htx).2

/-- A transaction may be as it is, if what it holds is held by no other and is as it was read. -/
theorem Locked.set (h : Locked setting s) {n : Nat} (hord : ∀ order, tx.order? = some order →
      s.db.orders.find? order.val.tradeNo = some order.val ∧
        ∀ m other order', m ≠ n → s.tx? m = some other → other.order? = some order' →
          order.val.tradeNo ≠ order'.val.tradeNo) (hur : ∀ userId, tx.user? = some userId →
      ∀ m other, m ≠ n → s.tx? m = some other → other.user? ≠ some userId)
    (hpl : ∀ c plan, tx.creation? = some c → c.plan? = some plan →
      ∃ row, setting.plans.find? plan.id = some row ∧ row.plan = plan)
    (hown : ∀ order c, tx.order? = some order → tx.creation? = some c →
      c.owner = (order.val.userId, order.val.planId)) : Locked setting (s.set n tx) := by
  refine ⟨?_, ?_, ?_, ?_, ?_⟩
  · intro m k tx₁ tx₂ order order' h₁ h₂ ho ho' hsm
    rw [tx?_set] at h₁ h₂
    split at h₁ <;> split at h₂
    · omega
    · rename_i hm hk
      cases h₁
      exact absurd hsm ((hord order ho).2 k tx₂ order' hk h₂ ho')
    · rename_i hm hk
      cases h₂
      exact absurd hsm.symm ((hord order' ho').2 m tx₁ order hm h₁ ho)
    · exact h.order_alone m k tx₁ tx₂ order order' h₁ h₂ ho ho' hsm
  · intro m k tx₁ tx₂ userId h₁ h₂ hu hu'
    rw [tx?_set] at h₁ h₂
    split at h₁ <;> split at h₂
    · omega
    · rename_i hm hk
      cases h₁
      exact absurd hu' (hur userId hu k tx₂ hk h₂)
    · rename_i hm hk
      cases h₂
      exact absurd hu (hur userId hu' m tx₁ hm h₁)
    · exact h.user_alone m k tx₁ tx₂ userId h₁ h₂ hu hu'
  · intro m tx₁ order h₁ ho
    rw [tx?_set] at h₁
    split at h₁
    · cases h₁
      exact (hord order ho).1
    · exact h.order_read m tx₁ order h₁ ho
  · intro m tx₁ c plan h₁ hc hp
    rw [tx?_set] at h₁
    split at h₁
    · cases h₁
      exact hpl c plan hc hp
    · exact h.plan_read m tx₁ c plan h₁ hc hp
  · intro m tx₁ order c h₁ ho hc
    rw [tx?_set] at h₁
    split at h₁
    · cases h₁
      exact hown order c ho hc
    · exact h.order_owner m tx₁ order c h₁ ho hc

variable {env : StatementEnv}

theorem plan?_next {db : OrderDb F} {c c' : CreationAt}
    (h : c.next setting env db = .ok c') {plan : SubscriptionPlan} (hpl : c'.plan? = some plan) :
    c.plan? = some plan := by
  rcases CreationAt.next_cases h with ⟨_, _, rfl, rfl, -⟩ | ⟨_, _, _, _, rfl, rfl, -⟩ |
    ⟨_, _, rfl, rfl⟩
  · exact hpl
  · cases hpl
  · cases hpl

/-- A creation stays with its user and its plan. -/
theorem owner_next {db : OrderDb F} {c c' : CreationAt}
    (h : c.next setting env db = .ok c') : c'.owner = c.owner := by
  rcases CreationAt.next_cases h with ⟨_, _, rfl, rfl, -⟩ | ⟨_, _, _, _, rfl, rfl, hde⟩ |
    ⟨_, _, rfl, rfl⟩
  · rfl
  · exact hde
  · rfl

theorem locked_step (h : Locked setting s) (hst : Step setting s e s') : Locked setting s' := by
  cases moves hst with
  | ignores => exact h
  | opens call hnew =>
    refine h.set ?_ ?_ ?_ ?_
    · rintro order ⟨⟩
    · rintro userId ⟨⟩
    · rintro c plan ⟨⟩
    · rintro order c ⟨⟩
  | @advances n env tx tx' htx hfr hadv =>
    cases hadv with
    | starts hord hur hcre =>
      refine h.set (fun order ho => ⟨(hord order ho).2, ?_⟩) ?_ ?_ ?_
      · intro m other order' _ hoth ho' hsm
        have hwan := (hord order ho).1
        rw [hsm] at hwan
        exact (unlocked_of_waits hfr hoth).1 order' ho' hwan
      · intro userId hu m other _ hoth hu'
        exact (unlocked_of_waits hfr hoth).2 userId hu' (hur userId hu)
      · intro c plan hc hpl
        obtain ⟨userId, row, rfl, hrow, -⟩ := hcre c hc
        cases hpl
        exact ⟨row, hrow, rfl⟩
      · intro order c ho hc
        obtain ⟨userId, row, rfl, -, hown⟩ := hcre c hc
        exact hown order ho
    | creates hc hc' hnext hord hur =>
      refine h.set (fun order ho => ?_) ?_ ?_ ?_
      · rw [hord] at ho
        refine ⟨h.order_read n tx order htx ho, fun m other order' hm hoth ho' hsm => ?_⟩
        exact hm (h.order_alone n m tx other order order' htx hoth ho ho' hsm).symm
      · intro userId hu m other hm hoth hu'
        rw [hur] at hu
        exact hm (h.user_alone n m tx other userId htx hoth hu hu').symm
      · intro c plan hcre hpl
        rw [hc'] at hcre
        cases hcre
        exact h.plan_read n tx _ plan htx hc (plan?_next hnext hpl)
      · intro order c ho hcre
        rw [hc'] at hcre
        cases hcre
        rw [hord] at ho
        exact (owner_next hnext).trans (h.order_owner n tx order _ htx ho hc)
  | ends n => exact h.close n
  | @commits n tx db htx hcom =>
    have hcl := h.close n
    refine { hcl with order_read := ?_ }
    -- the commit changes the order it has locked, which is nobody else's
    intro m tx' order htx' ho
    obtain ⟨hm, hop⟩ := of_tx?_close htx'
    have hre := h.order_read m tx' order hop ho
    rcases order_commit hcom (fun o ho => h.order_read n tx o htx ho) hre with
      ⟨hsm, -⟩ | ⟨-, ⟨order', ho', heq⟩, -⟩
    · exact hsm
    · exact absurd (h.order_alone m n tx' tx order order' hop htx ho ho' heq.symm) hm

/-! ## Orders -/

/-- The subscriptions that were created for an order. -/
def createdFor (s : OrderSystem F) (tradeNo : String) : List UserSubscription :=
  (s.commits.filter (createsFor tradeNo)).filterMap sub?

/-- Nothing is open, and nothing has been committed yet. -/
def Quiet (s : OrderSystem F) : Prop := s.txs.rows = [] ∧ s.commits = []

theorem tx?_quiet (h : s.Quiet) (n : Nat) (tx : OrderTx F) : s.tx? n ≠ some tx := by
  intro htx
  obtain ⟨found, hfound, -⟩ := Option.map_eq_some_iff.mp htx
  have hmem := (s.txs.find?_eq_some_iff.mp hfound).1
  rw [h.1] at hmem
  cases hmem

theorem locked_quiet (h : s.Quiet) : Locked setting s where
  order_alone n _ tx _ _ _ htx := absurd htx (tx?_quiet h n tx)
  user_alone n _ tx _ _ htx := absurd htx (tx?_quiet h n tx)
  order_read n tx _ htx := absurd htx (tx?_quiet h n tx)
  plan_read n tx _ _ htx := absurd htx (tx?_quiet h n tx)
  order_owner n tx _ _ htx := absurd htx (tx?_quiet h n tx)

variable {es : List OrderEvent}

theorem locked_run (h : Locked setting s) (hrun : Runs setting s es s') : Locked setting s' :=
  hrun.invariant (fun _ _ _ h hst => locked_step h hst) h

variable {tradeNo : String}

/-- A transaction that completes an order creates the subscription of the order. -/
theorem sub?_of_createsFor
    (h : tx.createsFor tradeNo = true) : ∃ order sub group, tx.order? = some order ∧
      order.val.tradeNo = tradeNo ∧ tx.creation? = some (.inserted sub group) := by
  rcases tx with _ | _ | ⟨order, payload, method, now, sub, group, topUp⟩ | _ | _ | _ | _
  · cases h
  · cases h
  · exact ⟨order, sub, group, rfl, of_decide_eq_true h, rfl⟩
  all_goals cases h

variable {o : SubscriptionOrder F}

/-- **What a step does to an order**: nothing, unless it is pending; then it may be completed, which
creates its subscription, or expired. -/
theorem order_step (hloc : Locked setting s) (hst : Step setting s e s')
    (ho : s.db.orders.find? tradeNo = some o) :
    (s'.db.orders.find? tradeNo = some o ∧ s'.createdFor tradeNo = s.createdFor tradeNo) ∨
      o.status = .pending ∧ ∃ o', s'.db.orders.find? tradeNo = some o' ∧
        (o'.userId, o'.planId) = (o.userId, o.planId) ∧
        ((o'.status = .expired ∧ s'.createdFor tradeNo = s.createdFor tradeNo) ∨
          o'.status = .success ∧ ∃ sub, (sub.userId, sub.planId) = (o.userId, o.planId) ∧
            s'.createdFor tradeNo = s.createdFor tradeNo ++ [sub]) := by
  cases moves hst with
  | ignores | opens | advances | ends => exact .inl ⟨ho, rfl⟩
  | @commits n tx db htx hcom =>
    have had : createdFor { s.close n with db := db, commits := s.commits ++ [tx] } tradeNo =
        s.createdFor tradeNo ++ (if tx.createsFor tradeNo then [tx] else []).filterMap sub? := by
      simp only [createdFor, filter_append, filterMap_append]
      congr 2
      cases hcre : tx.createsFor tradeNo <;> simp [hcre]
    rcases order_commit hcom (fun o ho => hloc.order_read n tx o htx ho) ho with
      ⟨hsm, hnot⟩ | ⟨hpen, -, o', ho', hde, hsts⟩
    · refine .inl ⟨hsm, ?_⟩
      rw [had, hnot]
      exact append_nil _
    · refine .inr ⟨hpen, o', ho', hde, ?_⟩
      rcases hsts with ⟨hsuc, hcre⟩ | ⟨hexp, hnot⟩
      · obtain ⟨order, sub, group, hord, htra, hcr⟩ := sub?_of_createsFor hcre
        have hown := hloc.order_owner n tx order _ htx hord hcr
        have hre := hloc.order_read n tx order htx hord
        rw [htra, ho] at hre
        cases hre
        refine .inr ⟨hsuc, sub, hown, ?_⟩
        rw [had, hcre]
        simp [sub?, hcr, CreationAt.sub?]
      · refine .inl ⟨hexp, ?_⟩
        rw [had, hnot]
        exact append_nil _

theorem settled_run (hloc : Locked setting s) (hrun : Runs setting s es s')
    (ho : s.db.orders.find? tradeNo = some o) (hset : o.status ≠ .pending) :
    s'.db.orders.find? tradeNo = some o := by
  have hbo := hrun.invariant (I := fun s => Locked setting s ∧ s.db.orders.find? tradeNo = some o)
    (fun s e s' h hst => by
      refine ⟨locked_step h.1 hst, ?_⟩
      rcases order_step h.1 hst h.2 with ⟨hsm, -⟩ | ⟨hpen, -⟩
      · exact hsm
      · exact absurd hpen hset) ⟨hloc, ho⟩
  exact hbo.2

/-- **An order that was pending has its subscription exactly if it is completed.** -/
structure Settles (order : SubscriptionOrder F) (s : OrderSystem F) (o : SubscriptionOrder F) :
    Prop where
  found : s.db.orders.find? order.tradeNo = some o
  deal : (o.userId, o.planId) = (order.userId, order.planId)
  completed : o.status = .success →
    ∃ sub, s.createdFor order.tradeNo = [sub] ∧
      (sub.userId, sub.planId) = (order.userId, order.planId)
  other : o.status ≠ .success → s.createdFor order.tradeNo = []

theorem settles_run (hloc : Locked setting s)
    (hrun : Runs setting s es s') {order o : SubscriptionOrder F} (h : Settles order s o) :
    ∃ o', Settles order s' o' := by
  have hbo := hrun.invariant (I := fun s => Locked setting s ∧ ∃ o, Settles order s o)
    (fun s e s' h hst => by
      obtain ⟨hloc, o, h⟩ := h
      refine ⟨locked_step hloc hst, ?_⟩
      rcases order_step hloc hst h.found with
        ⟨hsm, hcreate⟩ | ⟨hpen, o', ho', hde, hsts⟩
      · refine ⟨o, hsm, h.deal, ?_, ?_⟩
        · rw [hcreate]
          exact h.completed
        · rw [hcreate]
          exact h.other
      · have hno := h.other (by rw [hpen]; decide)
        rcases hsts with ⟨hexp, hcreate⟩ | ⟨hsuc, sub, hsub, hcreate⟩
        · refine ⟨o', ho', hde.trans h.deal, fun hs => ?_, fun _ => hcreate.trans hno⟩
          rw [hexp] at hs
          cases hs
        · refine ⟨o', ho', hde.trans h.deal, fun _ => ⟨sub, ?_, hsub.trans h.deal⟩, ?_⟩
          · rw [hcreate, hno, nil_append]
          · exact fun hs => absurd hsuc hs) ⟨hloc, o, h⟩
  exact hbo.2

/-- The rows of the table are those of the start, and one for each commit that creates. -/
theorem rows_run (hrun : Runs setting s es s') {rows : List UserSubscription}
    (h : s.db.subscriptions.rows = rows ++ s.commits.filterMap sub?) :
    s'.db.subscriptions.rows = rows ++ s'.commits.filterMap sub? := by
  refine hrun.invariant (I := fun s => s.db.subscriptions.rows = rows ++ s.commits.filterMap sub?)
    (fun s e s' h hst => ?_) h
  cases moves hst with
  | ignores | opens | advances | ends => exact h
  | @commits n tx db htx hcom =>
    show db.subscriptions.rows = rows ++ (s.commits ++ [tx]).filterMap sub?
    rw [rows_commit hcom, h, filterMap_append, append_assoc]
    rfl

/-! ## The limit of a plan -/

/-- No transaction counts for the user and the plan while another is between its count and its
commit, unless both have locked the row of the user. -/
def spaced (userId planId : Int) (s : OrderSystem F) : OrderEvent → Bool
  | .runs n _ =>
      (s.tx? n).all fun tx => tx.counting? ≠ some (userId, planId) ||
        s.txs.rows.all fun other => other.number = n ||
          other.tx.passed? ≠ some (userId, planId) ||
            (tx.user? = some userId && other.tx.user? = some userId)
  | _ => true

/-- The steps at which purchases of the user and the plan do not cross. -/
def SpacedStep (setting : OrderSetting F) (userId planId : Int) (s : OrderSystem F)
    (e : OrderEvent) (s' : OrderSystem F) : Prop :=
  Step setting s e s' ∧ s.spaced userId planId e = true

theorem of_spaced {userId planId : Int} {n : Nat}
    (h : s.spaced userId planId (.runs n env) = true) (htx : s.tx? n = some tx)
    (hcou : tx.counting? = some (userId, planId)) {m : Nat} {other : OrderTx F} (hm : m ≠ n)
    (hoth : s.tx? m = some other) (hpas : other.passed? = some (userId, planId)) :
    tx.user? = some userId ∧ other.user? = some userId := by
  obtain ⟨found, hfound, rfl⟩ := Option.map_eq_some_iff.mp hoth
  obtain ⟨hrow, hnum⟩ := s.txs.find?_eq_some_iff.mp hfound
  simp only [spaced, htx, Option.all_some, Bool.or_eq_true, decide_eq_true_eq, ne_eq,
    all_eq_true, Bool.and_eq_true] at h
  rcases h with hnot | hall
  · exact absurd hcou hnot
  rcases hall found hrow with (hsm | hnot) | hbo
  · exact absurd (hnum.symm.trans hsm) hm
  · exact absurd hpas hnot
  · exact hbo

/-- **The limit is kept**: while a purchase is past its count there is room for it, and there is no
other. -/
structure Limited (userId planId limit : Int) (s : OrderSystem F) : Prop where
  count_le : (s.db.countSubscriptions userId planId : Int) ≤ limit
  room : ∀ n tx, s.tx? n = some tx → tx.passed? = some (userId, planId) →
    (s.db.countSubscriptions userId planId : Int) < limit
  alone : ∀ n m tx tx', s.tx? n = some tx → s.tx? m = some tx' →
    tx.passed? = some (userId, planId) → tx'.passed? = some (userId, planId) → n = m

section Limits
variable {userId planId limit : Int}

theorem Limited.close (h : Limited userId planId limit s) (n : Nat) :
    Limited userId planId limit (s.close n) where
  count_le := h.count_le
  room m tx htx := h.room m tx (of_tx?_close htx).2
  alone m k tx tx' htx htx' := h.alone m k tx tx' (of_tx?_close htx).2 (of_tx?_close htx').2

/-- A transaction may be as it is, if it has not passed a count, or there is room and no other
has. -/
theorem Limited.set (h : Limited userId planId limit s) {n : Nat} {tx : OrderTx F}
    (hpas : tx.passed? = some (userId, planId) →
      (s.db.countSubscriptions userId planId : Int) < limit ∧
        ∀ m other, m ≠ n → s.tx? m = some other → other.passed? ≠ some (userId, planId)) :
    Limited userId planId limit (s.set n tx) := by
  refine ⟨h.count_le, ?_, ?_⟩
  · intro m tx₁ h₁ hp
    rw [tx?_set] at h₁
    split at h₁
    · cases h₁
      exact (hpas hp).1
    · exact h.room m tx₁ h₁ hp
  · intro m k tx₁ tx₂ h₁ h₂ hp hp'
    rw [tx?_set] at h₁ h₂
    split at h₁ <;> split at h₂
    · omega
    · rename_i hm hk
      cases h₁
      exact absurd hp' ((hpas hp).2 k tx₂ hk h₂)
    · rename_i hm hk
      cases h₂
      exact absurd hp ((hpas hp').2 m tx₁ hm h₁)
    · exact h.alone m k tx₁ tx₂ h₁ h₂ hp hp'

/-- **A creation passes its count only if there is room**, and before that it had passed already or
was about to count. -/
theorem passed?_next {env : StatementEnv} {db : OrderDb F} {c c' : CreationAt}
    (h : c.next setting env db = .ok c') {deal : Int × Int} (hpas : c'.passed? = some deal) :
    c.passed? = some deal ∨ ∃ plan, c.plan? = some plan ∧ c.counting? = some deal ∧
      deal.2 = plan.id ∧ ¬ (0 < plan.maxPurchasePerUser ∧
        plan.maxPurchasePerUser ≤ db.countSubscriptions deal.1 deal.2) := by
  rcases CreationAt.next_cases h with ⟨userId, plan, rfl, rfl, hrm⟩ |
    ⟨userId, plan, sub, group, rfl, rfl, hsub⟩ | ⟨sub, group, rfl, rfl⟩
  · cases hpas
    exact .inr ⟨plan, rfl, rfl, rfl, hrm⟩
  · refine .inl ?_
    rw [← hpas]
    exact congrArg some hsub.symm
  · exact .inl hpas

theorem count_commit {db db' : OrderDb F} {tx : OrderTx F} (h : tx.commit db = some db')
    (userId planId : Int) :
    db'.countSubscriptions userId planId = db.countSubscriptions userId planId ∨
      (tx.passed? = some (userId, planId) ∧
        db'.countSubscriptions userId planId = db.countSubscriptions userId planId + 1) := by
  have hrows := rows_commit h
  simp only [OrderDb.countSubscriptions, hrows, countP_append]
  rcases hc : tx.creation? with _ | (_ | _ | ⟨sub, group⟩)
  · simp [sub?, hc]
  · simp [sub?, hc, CreationAt.sub?]
  · simp [sub?, hc, CreationAt.sub?]
  · by_cases hde : sub.userId = userId ∧ sub.planId = planId
    · obtain ⟨rfl, rfl⟩ := hde
      simp [sub?, passed?, hc, CreationAt.sub?, CreationAt.passed?]
    · simp [sub?, hc, CreationAt.sub?, hde]

theorem limited_step (hloc : Locked setting s) {row : PlanRow F}
    (hrow : setting.plans.find? planId = some row)
    (hlim : row.plan.maxPurchasePerUser = limit) (hpos : 0 < limit)
    (h : Limited userId planId limit s) (hst : SpacedStep setting userId planId s e s') :
    Limited userId planId limit s' := by
  obtain ⟨hst, hspa⟩ := hst
  cases moves hst with
  | ignores => exact h
  | opens call hnew =>
    exact h.set nofun
  | @advances n env tx tx' htx hfr hadv =>
    cases hadv with
    | starts _ _ hcre =>
      refine h.set fun hpas => ?_
      -- it has not counted yet
      obtain ⟨c, hc, hp⟩ := Option.bind_eq_some_iff.mp hpas
      obtain ⟨_, _, rfl, -⟩ := hcre c hc
      cases hp
    | @creates _ _ c c' hc hc' hnext _ _ =>
      refine h.set fun hpas => ?_
      obtain ⟨c₁, hc₁, hp⟩ := Option.bind_eq_some_iff.mp hpas
      rw [hc'] at hc₁
      cases hc₁
      rcases passed?_next hnext hp with hbef | ⟨plan, hpl, hcou, hid, hrm⟩
      · have hpas' : tx.passed? = some (userId, planId) := by
          simp [passed?, hc, hbef]
        refine ⟨h.room n tx htx hpas', fun m other hm hoth hp' => ?_⟩
        exact hm (h.alone n m tx other htx hoth hpas' hp').symm
      · -- the count: the plan is the one in the table, and no other has passed
        obtain ⟨row', hrow', hpl'⟩ := hloc.plan_read n tx c plan htx hc hpl
        dsimp only at hid hrm
        rw [← hid, hrow] at hrow'
        cases hrow'
        rw [← hpl', hlim] at hrm
        refine ⟨by omega, fun m other hm hoth hp' => ?_⟩
        have hcou' : tx.counting? = some (userId, planId) := by
          simp [counting?, hc, hcou]
        obtain ⟨hu, hu'⟩ := of_spaced hspa htx hcou' hm hoth hp'
        exact hm (hloc.user_alone n m tx other userId htx hoth hu hu').symm
  | ends n => exact h.close n
  | @commits n tx db htx hcom =>
    have hcl := h.close n
    rcases count_commit hcom userId planId with hsm | ⟨hp, hmo⟩
    · refine ⟨?_, ?_, hcl.alone⟩
      · show (db.countSubscriptions userId planId : Int) ≤ limit
        rw [hsm]
        exact h.count_le
      · intro m tx' htx' hp'
        show (db.countSubscriptions userId planId : Int) < limit
        rw [hsm]
        exact hcl.room m tx' htx' hp'
    · have hrm := h.room n tx htx hp
      refine ⟨?_, ?_, hcl.alone⟩
      · show (db.countSubscriptions userId planId : Int) ≤ limit
        omega
      · intro m tx' htx' hp'
        -- it was alone
        obtain ⟨hm, hop⟩ := of_tx?_close htx'
        exact absurd (h.alone m n tx' tx hop htx hp' hp) hm

theorem limited_run (hloc : Locked setting s) {row : PlanRow F}
    (hrow : setting.plans.find? planId = some row)
    (hlim : row.plan.maxPurchasePerUser = limit) (hpos : 0 < limit)
    (h : Limited userId planId limit s) {es : List OrderEvent}
    (hrun : Steps.Run (SpacedStep setting userId planId) s es s') :
    Limited userId planId limit s' := by
  have hbo := hrun.invariant (I := fun s => Locked setting s ∧ Limited userId planId limit s)
    (fun _ _ _ h hst => ⟨locked_step h.1 hst.1, limited_step h.1 hrow hlim hpos h.2 hst⟩) ⟨hloc, h⟩
  exact hbo.2

end Limits

/-- **Orders are completed once, and plans keep their limits.**  Whatever transactions run side by
side: an order that was pending has one subscription, of its user and its plan, if it is completed,
and none otherwise; its status changes at most once; the rows of the table are those of the start
and the ones that were created.  A user has at most as many subscriptions of a plan as it allows, if
purchases of the user and the plan that have not both locked the user do not cross. -/
theorem orders_once_and_limits {s₀ : OrderSystem F} (hquiet : s₀.Quiet) {es : List OrderEvent}
    (hrun : Runs setting s₀ es s) :
    (∀ order, s₀.db.orders.find? order.tradeNo = some order → order.status = .pending →
      ∃ o, s.db.orders.find? order.tradeNo = some o ∧
        (o.status = .success → ∃ sub, s.createdFor order.tradeNo = [sub] ∧
          (sub.userId, sub.planId) = (order.userId, order.planId)) ∧
        (o.status ≠ .success → s.createdFor order.tradeNo = [])) ∧
    (∀ tradeNo es₁ es₂ s₁ o₀ o₁, es = es₁ ++ es₂ → Runs setting s₀ es₁ s₁ → Runs setting s₁ es₂ s →
      s₀.db.orders.find? tradeNo = some o₀ → s₁.db.orders.find? tradeNo = some o₁ →
      o₁.status ≠ o₀.status →
        ∃ o, s.db.orders.find? tradeNo = some o ∧ o.status = o₁.status) ∧
    s.db.subscriptions.rows = s₀.db.subscriptions.rows ++ s.commits.filterMap sub? ∧
    ∀ userId row, setting.plans.find? row.plan.id = some row → 0 < row.plan.maxPurchasePerUser →
      (s₀.db.countSubscriptions userId row.plan.id : Int) ≤ row.plan.maxPurchasePerUser →
      Steps.Run (SpacedStep setting userId row.plan.id) s₀ es s →
      (s.db.countSubscriptions userId row.plan.id : Int) ≤ row.plan.maxPurchasePerUser := by
  have hloc : Locked setting s₀ := locked_quiet hquiet
  refine ⟨?_, ?_, ?_, ?_⟩
  · intro order hfound hpen
    have hstr : Settles order s₀ order := by
      refine ⟨hfound, rfl, fun hs => ?_, fun _ => ?_⟩
      · rw [hpen] at hs
        cases hs
      · simp [createdFor, hquiet.2]
    obtain ⟨o, ho⟩ := settles_run hloc hrun hstr
    exact ⟨o, ho.found, ho.completed, ho.other⟩
  · intro tradeNo es₁ es₂ s₁ o₀ o₁ _ hrun₁ hrun₂ ho₀ ho₁ hcha
    have hset : o₁.status ≠ .pending := by
      intro hpen
      -- it was pending at the start, since an order that is not stays as it is
      by_cases hstr : o₀.status = .pending
      · exact hcha (hpen.trans hstr.symm)
      have hsm := settled_run hloc hrun₁ ho₀ hstr
      rw [ho₁] at hsm
      cases hsm
      exact hcha rfl
    exact ⟨o₁, settled_run (locked_run hloc hrun₁) hrun₂ ho₁ hset, rfl⟩
  · refine rows_run hrun ?_
    rw [hquiet.2]
    exact (append_nil _).symm
  · intro userId row hrow hpos hcnt hspa
    have hstr : Limited userId row.plan.id row.plan.maxPurchasePerUser s₀ :=
      ⟨hcnt, fun n tx htx => absurd htx (tx?_quiet hquiet n tx),
        fun n _ tx _ htx => absurd htx (tx?_quiet hquiet n tx)⟩
    exact (limited_run hloc hrow rfl hpos hstr hspa).count_le

/-- One plan that a user may buy once, for a day at a time. -/
def oncePlan : PlanRow Int where
  plan := { id := 1, durationUnit := .day, durationValue := 1, customSeconds := 0
            allowWalletOverflow := none, maxPurchasePerUser := 1, upgradeGroup := ""
            downgradeGroup := "", totalAmount := 0, quotaResetPeriod := "never"
            quotaResetCustomSeconds := 0 }
  enabled := true
  priceAmount := 0
  allowBalancePay := none

/-- The plan is all there is; prices are whole numbers. -/
def onceSetting : OrderSetting Int where
  arith := ⟨(· * ·), fun n => n, fun n => n⟩
  isFinite _ := true
  quotaPerUnit := 1
  calendar := ⟨id, id, id, fun t _ => t, fun t _ => t⟩
  plans := ⟨[oncePlan], by decide⟩

/-- An order of user 1 for the plan. -/
def onceOrder (tradeNo : String) : SubscriptionOrder Int :=
  { tradeNo := tradeNo, userId := 1, planId := 1, money := 0, paymentMethod := "stripe"
    paymentProvider := .stripe, status := .pending, createTime := 0, completeTime := 0
    providerPayload := "" }

/-- Two orders of user 1 for the plan. -/
def twoOrders : OrderSystem Int where
  db := { subscriptions := .empty
          orders := ⟨[onceOrder "a", onceOrder "b"], by decide⟩
          topUps := .empty
          users := fun _ => some ⟨0, "default"⟩ }

/-- A call that completes an order. -/
def completion (tradeNo : String) : OrderCall := .completeSubscriptionOrder tradeNo "" none ""

/-- A step with its condition. -/
def applySpaced (userId planId : Int) (s : OrderSystem Int) (e : OrderEvent) :
    Option (OrderSystem Int) :=
  if s.spaced userId planId e then s.apply onceSetting e else none

/-- The first order is reported as paid twice, and the second after that. -/
theorem orders_once_and_limits_retry :
    ∃ es s, Runs onceSetting twoOrders es s ∧
      Steps.Run (SpacedStep onceSetting 1 1) twoOrders es s ∧
      (∃ o, s.db.orders.find? "a" = some o ∧
        (o.status = .success → ∃ sub, s.createdFor "a" = [sub] ∧
          (sub.userId, sub.planId) = (1, 1)) ∧
        (o.status ≠ .success → s.createdFor "a" = [])) ∧
      0 < s.db.countSubscriptions 1 1 ∧ (s.db.countSubscriptions 1 1 : Int) ≤ 1 := by
  let env : StatementEnv := ⟨0, 7, "x"⟩
  let es : List OrderEvent :=
    [.begins 0 (completion "a"), .begins 1 (completion "a"), .runs 0 env, .runs 0 env,
      .runs 0 env, .runs 0 env, .commits 0, .runs 1 env, .begins 2 (completion "b"), .runs 2 env,
      .runs 2 env]
  have hview : (es.foldlM (applySpaced 1 1) twoOrders).map
      (fun s => s.db.countSubscriptions 1 1) = some 1 := by decide +kernel
  obtain ⟨s, hs, hcnt⟩ := Option.map_eq_some_iff.mp hview
  have hspa : Steps.Run (SpacedStep onceSetting 1 1) twoOrders es s := by
    refine Steps.Run.foldlM (fun s e s' h => ?_) hs
    simp only [applySpaced] at h
    split at h
    · rename_i hok
      exact ⟨h, hok⟩
    · cases h
  have hrun : Runs onceSetting twoOrders es s := hspa.mono fun _ _ _ h => h.1
  have hma := orders_once_and_limits ⟨rfl, rfl⟩ hrun
  exact ⟨es, s, hrun, hspa, hma.1 (onceOrder "a") rfl rfl, by omega,
    hma.2.2.2 1 oncePlan rfl (by decide) (by decide) hspa⟩

/-- **Two orders exceed the limit.**  Both orders are reported as paid at the same time: each
completion locks its own order, both count none, and the user gets two subscriptions of a plan that
allows one. -/
theorem orders_exceed_limit :
    ∃ es s, twoOrders.Quiet ∧ Runs onceSetting twoOrders es s ∧
      oncePlan.plan.maxPurchasePerUser = 1 ∧ twoOrders.db.countSubscriptions 1 1 = 0 ∧
      s.db.countSubscriptions 1 1 = 2 := by
  let env : Int → StatementEnv := fun id => ⟨0, id, "x"⟩
  let es : List OrderEvent :=
    [.begins 0 (completion "a"), .begins 1 (completion "b"), .runs 0 (env 7), .runs 1 (env 8),
      .runs 0 (env 7), .runs 1 (env 8), .runs 0 (env 7), .runs 1 (env 8), .runs 0 (env 7),
      .runs 1 (env 8), .commits 0, .commits 1]
  refine ⟨es, _, ⟨rfl, rfl⟩, Steps.Run.foldlM (fun _ _ _ h => h) rfl, rfl, rfl, ?_⟩
  decide +kernel

end OrderSystem

end NewApi
