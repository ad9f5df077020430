import NewApi.Steps
import NewApi.Subscriptions

/-! # Refunds and resets of a subscription

Every transaction on the subscription tables is one `Event`, and a history is
what any interleaving of them leaves.  A reset puts the counter back to zero
without touching the records of the requests it had counted, so the history also
keeps which records were written after the last reset of their subscription
(`sinceReset`): those are the ones the counter still stands for.

`Covered` is the accounting law: the counter is at least what those records
hold.  It survives every transaction but one.  `RefundSubscriptionPreConsume`
subtracts a record's amount whether or not a reset came in between, so refunding
a request that straddles a reset takes the amount from requests of the new period
(`refund_across_reset`).  As long as no refund does that, the law holds for ever
(`covered_of_fresh_refunds`). -/
namespace NewApi.SubscriptionHistory
open Db List Steps

/-- A transaction on the subscription tables, with all it reads. -/
inductive Event where
  | preConsume (env : SubscriptionEnv) (requestId : String) (userId amount : Int)
  | postConsume (fault : Fault) (userSubscriptionId delta : Int)
  | refund (fault : Fault) (requestId : String)
  | resetDue (env : SubscriptionEnv) (id : Int)
  | adminReset (env : SubscriptionEnv) (userId : Option Int) (planId : Int) (advance : Bool)

/-- The deltas of a history are positive. -/
def Event.Allowed : Event → Prop
  | .postConsume _ _ delta => 0 < delta
  | _ => True

/-- The tables, and the requests whose record was written after the last reset of
its subscription. -/
structure History where
  db : Store
  sinceReset : List String

namespace History

/-- The requests that stay once the rows `resets` have been reset. -/
def forget (h : History) (resets : List Int) : List String :=
  h.sinceReset.filter fun q =>
    match h.db.records.find? q with
    | some record => decide (record.userSubscriptionId ∉ resets)
    | none => true

/-- One transaction.  A transaction that returns an error leaves nothing behind. -/
def apply (h : History) : Event → History
  | .preConsume env requestId userId amount =>
      match preConsumeUserSubscription env requestId userId amount h.db with
      | .error _ => h
      | .ok tx =>
          ⟨tx.store, h.forget tx.resets ++
            if h.db.records.find? requestId = none then [requestId] else []⟩
  | .postConsume fault id delta =>
      match postConsumeUserSubscriptionDelta fault id delta h.db with
      | .error _ => h
      | .ok db => ⟨db, h.sinceReset⟩
  | .refund fault requestId =>
      match refundSubscriptionPreConsume fault requestId h.db with
      | .error _ => h
      | .ok db => ⟨db, h.sinceReset⟩
  | .resetDue env id =>
      match resetDueSubscription env id h.db with
      | .error _ => h
      | .ok tx => ⟨tx.store, h.forget tx.resets⟩
  | .adminReset env userId planId advance =>
      match NewApi.adminReset env userId planId advance h.db with
      | .error _ => h
      | .ok tx => ⟨tx.store, h.forget tx.resets⟩

/-- What a record holds of the row `id`: its amount, while it is consumed and was
written after the row's last reset. -/
def held (sinceReset : List String) (id : Int) (record : SubscriptionPreConsumeRecord) : Int :=
  if record.userSubscriptionId = id ∧ record.status = .consumed ∧ record.requestId ∈ sinceReset then
    record.preConsumed
  else 0

/-- What the records of the row `id` hold together. -/
def outstanding (h : History) (id : Int) : Int :=
  (h.db.records.rows.map (held h.sinceReset id)).sum

/-- **The accounting law**: every counter is at least what the records of the
current period hold. -/
def Covered (h : History) : Prop :=
  ∀ sub ∈ h.db.subscriptions.rows, h.outstanding sub.id ≤ sub.amountUsed

instance (h : History) : Decidable h.Covered :=
  inferInstanceAs (Decidable (∀ sub ∈ h.db.subscriptions.rows, _ ≤ _))

/-- A refund of this event is of a record written after the last reset. -/
def RefundsFresh (h : History) : Event → Prop
  | .refund _ requestId => ∀ record ∈ h.db.records.find? requestId,
      record.status = .consumed → requestId ∈ h.sinceReset
  | _ => True

/-- The tables before any request: no records, and no counter below zero. -/
def Initial (h : History) : Prop :=
  h.db.records.rows = [] ∧ h.sinceReset = [] ∧ ∀ sub ∈ h.db.subscriptions.rows, 0 ≤ sub.amountUsed

/-- Any transaction may come next. -/
def Step (h : History) (e : Event) (h' : History) : Prop := e.Allowed ∧ h' = h.apply e

/-- Any transaction may come next, except a refund across a reset. -/
def FreshStep (h : History) (e : Event) (h' : History) : Prop := h.RefundsFresh e ∧ h.Step e h'

theorem covered_iff (h : History) :
    h.Covered ↔ ∀ id used, usedOf h.db.subscriptions id = some used → h.outstanding id ≤ used := by
  constructor
  · intro hc id used hu
    obtain ⟨sub, hfd, rfl⟩ := Option.map_eq_some_iff.mp hu
    obtain ⟨hmem, rfl⟩ := (Table.find?_eq_some_iff _).mp hfd
    exact hc sub hmem
  · intro hc sub hmem
    have hfd : h.db.subscriptions.find? sub.id = some sub :=
      (Table.find?_eq_some_iff _).mpr ⟨hmem, rfl⟩
    exact hc sub.id sub.amountUsed (by simp [usedOf, hfd])

/-- Resetting rows drops exactly what their records held. -/
theorem sum_held_forget (h : History) (resets : List Int) (id : Int) :
    (h.db.records.rows.map (held (h.forget resets) id)).sum =
      if id ∈ resets then 0 else h.outstanding id := by
  have hrow : ∀ record ∈ h.db.records.rows, held (h.forget resets) id record =
      if id ∈ resets then 0 else held h.sinceReset id record := by
    intro record hmem
    have hfd : h.db.records.find? record.requestId = some record :=
      (Table.find?_eq_some_iff _).mpr ⟨hmem, rfl⟩
    by_cases hid : record.userSubscriptionId = id
    · subst hid
      by_cases hr : record.userSubscriptionId ∈ resets
      all_goals simp [held, forget, hfd, hr]
    · simp [held, hid]
  rw [map_congr_left hrow]
  split
  · simp
  · rfl

/-- No reset of some ids keeps the requests of the current periods. -/
theorem forget_nil (h : History) : h.forget [] = h.sinceReset := by
  rw [forget, filter_eq_self]
  intro q _
  cases h.db.records.find? q <;> simp

variable {h : History}

/-- After resets a counter still covers what is left to hold. -/
theorem outstanding_le_afterResets (hc : h.Covered) {resets : List Int}
    {id used : Int} (hus : afterResets (usedOf h.db.subscriptions) resets id = some used) :
    (if id ∈ resets then 0 else h.outstanding id) ≤ used := by
  unfold afterResets at hus
  split at hus
  · rename_i hid
    obtain ⟨_, -, rfl⟩ := Option.map_eq_some_iff.mp hus
    rw [if_pos hid]
  · rename_i hid
    rw [if_neg hid]
    exact (covered_iff h).mp hc id used hus

/-- A new record adds what it holds to its own row. -/
theorem sum_held_create (h : History) {requestId : String} {userId paidId amount : Int}
    {records : Table SubscriptionPreConsumeRecord.requestId} (resets : List Int) (id : Int)
    (hcreate : h.db.records.create ⟨requestId, userId, paidId, amount, .consumed⟩ = some records) :
    (records.rows.map (held (h.forget resets ++ [requestId]) id)).sum =
      (if id ∈ resets then 0 else h.outstanding id) + if paidId = id then amount else 0 := by
  obtain ⟨hrows, hfresh⟩ := h.db.records.rows_create hcreate
  -- the request was not there before, so noting it changes nothing for older records
  have holder : ∀ record ∈ h.db.records.rows,
      held (h.forget resets ++ [requestId]) id record = held (h.forget resets) id record := by
    intro record hmem
    have hne : record.requestId ≠ requestId :=
      h.db.records.find?_eq_none_iff.mp hfresh record hmem
    simp [held, hne]
  rw [hrows, map_append, sum_append, map_congr_left holder, sum_held_forget]
  simp [held]

theorem covered_resets (hc : h.Covered) {resets : List Int} {subs : Table UserSubscription.id}
    (hu : ∀ id, usedOf subs id = afterResets (usedOf h.db.subscriptions) resets id) :
    Covered ⟨{ h.db with subscriptions := subs }, h.forget resets⟩ := by
  rw [covered_iff]
  intro id used hus
  rw [show usedOf subs id = _ from hu id] at hus
  show (h.db.records.rows.map (held (h.forget resets) id)).sum ≤ used
  rw [sum_held_forget]
  exact outstanding_le_afterResets hc hus

/-- The law, and that a record always holds a positive amount. -/
structure Valid (h : History) : Prop where
  covered : h.Covered
  positive : ∀ record ∈ h.db.records.rows, 0 < record.preConsumed

theorem valid_initial (hi : h.Initial) : h.Valid := by
  obtain ⟨hrec, -, hus⟩ := hi
  refine ⟨fun sub hsub => ?_, by simp [hrec]⟩
  simpa [outstanding, hrec] using hus sub hsub

theorem valid_preConsume (hv : h.Valid) (env : SubscriptionEnv) (requestId : String)
    (userId amount : Int) : (h.apply (.preConsume env requestId userId amount)).Valid := by
  simp only [apply]
  split
  · exact hv
  rename_i tx htx
  obtain ⟨hpos, -, ⟨hknown, hstore, hres⟩ | hnew⟩ := preConsume_spec htx
  · -- the request had its record already: nothing is charged
    rw [if_neg hknown, hres, hstore, forget_nil, append_nil]
    exact hv
  obtain ⟨records, subs, hcreate, hstore, -, hcha⟩ := hnew
  obtain ⟨paid, hpa, hus⟩ := hcha.used
  rw [hstore] at hus
  obtain ⟨hrows, hfresh⟩ := h.db.records.rows_create hcreate
  rw [if_pos hfresh, hstore]
  refine ⟨?_, ?_⟩
  · rw [covered_iff]
    intro id used hu
    rw [show usedOf subs id = _ from hus id] at hu
    show (records.rows.map (held (h.forget tx.resets ++ [requestId]) id)).sum ≤ used
    rw [sum_held_create h tx.resets id hcreate]
    by_cases hid : id = tx.value.userSubscriptionId
    · -- the row that pays: charge and new record are the same amount
      subst hid
      rw [if_pos rfl] at hu
      cases hu
      have := outstanding_le_afterResets hv.covered hpa
      omega
    · rw [if_neg hid] at hu
      have := outstanding_le_afterResets hv.covered hu
      omega
  · intro record hmem
    rw [show ({ h.db with subscriptions := subs, records := records } : Store).records.rows = _
      from hrows] at hmem
    rcases mem_append.mp hmem with hold | hnew
    · exact hv.positive record hold
    rw [mem_singleton.mp hnew]
    exact hpos

theorem valid_postConsume (hv : h.Valid) (fault : Fault) (id : Int) {delta : Int}
    (hdel : 0 < delta) : (h.apply (.postConsume fault id delta)).Valid := by
  simp only [apply]
  split
  · exact hv
  rename_i db hpo
  unfold postConsumeUserSubscriptionDelta at hpo
  split at hpo
  · cases hpo
  split at hpo
  · omega
  split at hpo
  · cases hpo
  obtain ⟨sub, subs, hfd, rfl, hus⟩ := postConsumeTx_spec hpo
  refine ⟨?_, hv.positive⟩
  rw [covered_iff]
  intro j used hu
  rw [show usedOf subs j = _ from hus j] at hu
  -- a positive delta only raises the counter, and the records stay
  show h.outstanding j ≤ used
  by_cases hj : j = id
  · subst hj
    rw [if_pos rfl] at hu
    cases hu
    have := (covered_iff h).mp hv.covered j sub.amountUsed (by simp [usedOf, hfd])
    omega
  · rw [if_neg hj] at hu
    exact (covered_iff h).mp hv.covered j used hu

/-- A refund of a record of the current period gives back what that record held. -/
theorem valid_refund (hv : h.Valid) (fault : Fault) {requestId : String}
    (hfresh : h.RefundsFresh (.refund fault requestId)) :
    (h.apply (.refund fault requestId)).Valid := by
  simp only [apply]
  split
  · exact hv
  rename_i db href
  obtain ⟨record, hrec, ⟨-, rfl⟩ | ⟨hcon, hgiv⟩⟩ := refundPreConsume_spec href
  · exact hv
  obtain ⟨hmem, hkey⟩ := h.db.records.find?_eq_some_iff.mp hrec
  have hpos := hv.positive record hmem
  obtain ⟨sub, subs, hfd, rfl, hus⟩ := hgiv hpos
  have hrow : h.db.records.find? ({ record with status := .refunded } :
      SubscriptionPreConsumeRecord).requestId = some record := by
    rw [show ({ record with status := .refunded } : SubscriptionPreConsumeRecord).requestId
      = requestId from hkey]
    exact hrec
  have hsin : record.requestId ∈ h.sinceReset := by
    rw [hkey]
    exact hfresh record hrec hcon
  refine ⟨?_, ?_⟩
  · rw [covered_iff]
    intro j used hu
    rw [show usedOf subs j = _ from hus j] at hu
    show ((h.db.records.save { record with status := .refunded }).rows.map
      (held h.sinceReset j)).sum ≤ used
    rw [h.db.records.sum_save (held h.sinceReset j) hrow]
    show h.outstanding j - held h.sinceReset j record + _ ≤ used
    by_cases hj : j = record.userSubscriptionId
    · -- the record was held since the last reset, so the row still covers it
      subst hj
      rw [if_pos rfl] at hu
      cases hu
      have := (covered_iff h).mp hv.covered record.userSubscriptionId sub.amountUsed
        (by simp [usedOf, hfd])
      simp only [held, hcon, hsin, and_self, if_true, reduceCtorEq, false_and, and_false, if_false]
      omega
    · rw [if_neg hj] at hu
      have := (covered_iff h).mp hv.covered j used hu
      simp only [held, Ne.symm hj, false_and, if_false]
      omega
  · intro r hr
    rcases h.db.records.mem_save.mp hr with ⟨hold, -⟩ | ⟨rfl, -⟩
    · exact hv.positive r hold
    · exact hpos

/-- Every transaction but a refund across a reset keeps the law. -/
theorem valid_step {h h' : History} {e : Event} (hv : h.Valid) (hs : h.FreshStep e h') :
    h'.Valid := by
  obtain ⟨hfresh, hall, rfl⟩ := hs
  cases e with
  | preConsume env requestId userId amount => exact valid_preConsume hv env requestId userId amount
  | postConsume fault id delta => exact valid_postConsume hv fault id hall
  | refund fault requestId => exact valid_refund hv fault hfresh
  | resetDue env id =>
    simp only [apply]
    split
    · exact hv
    rename_i tx htx
    obtain ⟨subs, hstore, hus⟩ := resetDue_spec htx
    rw [hstore]
    exact ⟨covered_resets hv.covered hus, hv.positive⟩
  | adminReset env userId planId advance =>
    simp only [apply]
    split
    · exact hv
    rename_i tx htx
    obtain ⟨subs, hstore, hus⟩ := adminReset_spec htx
    rw [hstore]
    exact ⟨covered_resets hv.covered hus, hv.positive⟩

/-- **The counter covers the consumed records of the current period** in every
state of every history in which no refund is of a record that a reset of its
subscription has already wiped. -/
theorem covered_of_fresh_refunds {h h' : History} {es : List Event} (hi : h.Initial)
    (hrun : Run FreshStep h es h') : h'.Covered :=
  (hrun.invariant (fun _ _ _ hv hs => valid_step hv hs) (valid_initial hi)).covered

/-! ## A refund across a reset -/

/-- The sample store, before any request. -/
def sampleHistory : History := ⟨sampleStore, []⟩

theorem initial_sampleHistory : sampleHistory.Initial :=
  ⟨rfl, rfl, by decide⟩

/-- A request of the new period is refunded: the law holds. -/
theorem covered_sampleHistory :
    sampleHistory.Initial ∧
      (((sampleHistory.apply (.adminReset sampleEnv none 3 false)).apply
        (.preConsume sampleEnv "b" 7 50)).apply (.refund none "b")).Covered := by
  refine ⟨initial_sampleHistory, @covered_of_fresh_refunds sampleHistory _
    [.adminReset sampleEnv none 3 false, .preConsume sampleEnv "b" 7 50, .refund none "b"]
    initial_sampleHistory ?_⟩
  refine .cons ⟨trivial, trivial, rfl⟩ (.cons ⟨trivial, trivial, rfl⟩
    (.cons ⟨fun _ _ _ => ?_, trivial, rfl⟩ (.nil _)))
  decide +kernel

/-- **Refunding a request that straddles a reset gives back another request's
consumption**: request `a` takes 100, the quota is reset, request `b` takes 50,
and refunding `a` leaves the counter at zero while `b` still holds 50. -/
theorem refund_across_reset :
    sampleHistory.Initial ∧
      ∃ h, Run Step sampleHistory [.preConsume sampleEnv "a" 7 100,
        .adminReset sampleEnv none 3 false, .preConsume sampleEnv "b" 7 50, .refund none "a"] h ∧
        ¬ h.Covered := by
  refine ⟨initial_sampleHistory, _, .cons ⟨trivial, rfl⟩ (.cons ⟨trivial, rfl⟩
    (.cons ⟨trivial, rfl⟩ (.cons ⟨trivial, rfl⟩ (.nil _)))), ?_⟩
  decide +kernel

end History
end NewApi.SubscriptionHistory
