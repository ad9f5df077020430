import NewApi.Steps
import NewApi.Subscriptions

/-! # Pre-consumption of one request by several calls

`PreConsumeUserSubscription` looks for the record of its request before it locks the rows of
the user, so that two calls for one request may both miss it.  The second one meets the
record when it inserts its own: it charges nothing, but reports the row it had come to, the first
one that can still pay, which need not be the one that was charged (`duplicate_reports_other`).
A transaction is two steps here, the look and all that follows it under the locks. -/
namespace NewApi.PreConsume
open Db Function Steps

/-- What a call does next. -/
inductive Pc where
  | look
  | work
  | done (result : Except StoreError SubscriptionPreConsumeResult)

structure Call where
  requestId : String
  amount : Int
  pc : Pc

structure State where
  db : Store
  calls : Nat → Call
  /-- The charges that were made: request, row and amount. -/
  charges : List (String × Int × Int)

section
variable (env : SubscriptionEnv) (userId : Int)

/-- The loop over the candidates, when the insert of the record fails because of `dup`. -/
def duplicate (dup : SubscriptionPreConsumeRecord) (amount : Int) (db : Store) :
    Except StoreError (SubscriptionTx SubscriptionPreConsumeResult) :=
  if db.activeSubscriptions userId env.now = [] then .error .noActiveSubscription
  else match chooseSubscription env amount (db.activeSubscriptions userId env.now)
      db.subscriptions with
  | .error e => .error e
  | .ok ⟨_, _, none⟩ => .error (.subscriptionQuotaInsufficient amount)
  | .ok ⟨subs, resets, some sub⟩ =>
      if dup.status = .refunded then .error .alreadyRefunded
      else .ok ⟨{ db with subscriptions := subs }, resets,
        ⟨sub.id, dup.preConsumed, sub.amountTotal, sub.amountUsed, sub.amountUsed⟩⟩

/-- What follows the look, for a request that had no record then. -/
def underLocks (requestId : String) (amount : Int) (db : Store) :
    Except StoreError (SubscriptionTx SubscriptionPreConsumeResult) :=
  match db.records.find? requestId with
  | none => preConsumeUserSubscription env requestId userId amount db
  | some dup =>
      match env.fault with
      | some e => .error e
      | none => duplicate env userId dup amount db

/-- One step of the call `i`.  A look that finds the record, or arguments that are refused,
ends the call. -/
def step (s : State) (i : Nat) : State :=
  let c := s.calls i
  let goOn (pc : Pc) : Nat → Call := update s.calls i { c with pc := pc }
  match c.pc with
  | .done _ => s
  | .look =>
      if (s.db.records.find? c.requestId).isSome ∨ userId ≤ 0 ∨ trimSpace c.requestId = "" ∨
          c.amount ≤ 0 then
        { s with calls := goOn (.done ((preConsumeUserSubscription env c.requestId userId c.amount
          s.db).map SubscriptionTx.value)) }
      else { s with calls := goOn .work }
  | .work =>
      match underLocks env userId c.requestId c.amount s.db with
      | .error e => { s with calls := goOn (.done (.error e)) }
      | .ok tx => ⟨tx.store, goOn (.done (.ok tx.value)),
          if (s.db.records.find? c.requestId).isNone
          then s.charges ++ [(c.requestId, tx.value.userSubscriptionId, c.amount)]
          else s.charges⟩

/-- When a call meets the record of its request, the first of the user's rows that can pay the
amount is the one that was charged. -/
def Meets (s : State) (i : Nat) : Prop :=
  (s.calls i).pc = .work → ∀ dup ∈ s.db.records.find? (s.calls i).requestId,
    ∀ sub ∈ (s.db.activeSubscriptions userId env.now).find? (pays env (s.calls i).amount),
      sub.id = dup.userSubscriptionId

end

/-- What is charged for a request with the record `record`. -/
def chargesOf (requestId : String) (record : Option SubscriptionPreConsumeRecord) :
    List (String × Int × Int) :=
  (record.map fun r => (requestId, r.userSubscriptionId, r.preConsumed)).toList

/-- The call reports what the record of its request says. -/
def Call.Reports (c : Call) (record : Option SubscriptionPreConsumeRecord) : Prop :=
  ∀ result, c.pc = .done (.ok result) → ∃ r, record = some r ∧
    result.preConsumed = r.preConsumed ∧ result.userSubscriptionId = r.userSubscriptionId

/-- What is charged for the request `r`, and what its calls report, is what its record says. -/
structure Consistent (r : String) (s : State) : Prop where
  charges : s.charges.filter (fun c => c.1 = r) = chargesOf r (s.db.records.find? r)
  reports : ∀ i, (s.calls i).requestId = r → (s.calls i).Reports (s.db.records.find? r)

section
variable {env : SubscriptionEnv} {userId : Int} {s : State}

variable {tx : SubscriptionTx SubscriptionPreConsumeResult} {db : Store}

/-- A duplicate leaves the records, charges nothing and reports the recorded amount, and the
first row that can pay. -/
theorem duplicate_spec {dup : SubscriptionPreConsumeRecord} {amount : Int}
    (h : duplicate env userId dup amount db = .ok tx) :
    tx.store.records = db.records ∧ tx.value.preConsumed = dup.preConsumed ∧
      (∀ id, usedOf tx.store.subscriptions id =
        afterResets (usedOf db.subscriptions) tx.resets id) ∧
      ∃ sub, (db.activeSubscriptions userId env.now).find? (pays env amount) = some sub ∧
        tx.value.userSubscriptionId = sub.id := by
  unfold duplicate at h
  split at h
  · cases h
  split at h
  · cases h
  · cases h
  rename_i hchoose
  have hused := (chooseSubscription_spec (fun _ hsub => (Table.find?_eq_some_iff _).mpr
    ⟨((mem_activeSubscriptions db).mp hsub).1, rfl⟩)
    (nodup_activeSubscriptions db userId env.now) hchoose).1
  obtain ⟨first, hfirst, hid⟩ := chosen_pays hchoose
  split at h
  · cases h
  · cases h
    exact ⟨rfl, rfl, hused, first, hfirst, hid.symm⟩

/-- A pre-consumption that found the record reports it. -/
theorem known_reports {requestId : String} {amount : Int}
    {r : SubscriptionPreConsumeRecord} (hr : db.records.find? requestId = some r)
    (h : preConsumeUserSubscription env requestId userId amount db = .ok tx) :
    tx.value.preConsumed = r.preConsumed ∧ tx.value.userSubscriptionId = r.userSubscriptionId := by
  unfold preConsumeUserSubscription at h
  iterate 3 (split at h; · cases h)
  split at h
  · cases h
  simp only [hr] at h
  split at h
  · cases h
  split at h
  · cases h
  rename_i sub hsub
  cases h
  exact ⟨rfl, (db.subscriptions.find?_eq_some_iff.mp hsub).2⟩

/-- A call goes on, and the record of the request stays if it was there. -/
theorem Consistent.next {r : String} (h : Consistent r s) {i : Nat} {pc : Pc}
    {charges : List (String × Int × Int)}
    (hcharges : charges.filter (fun c => c.1 = r) = chargesOf r (db.records.find? r))
    (hrec : ∀ x, s.db.records.find? r = some x → db.records.find? r = some x)
    (hpc : (s.calls i).requestId = r → { s.calls i with pc := pc }.Reports (db.records.find? r)) :
    Consistent r ⟨db, update s.calls i { s.calls i with pc := pc }, charges⟩ := by
  refine ⟨hcharges, fun j hj => ?_⟩
  by_cases hij : j = i
  · subst hij
    simp only [update_self] at hj ⊢
    exact hpc hj
  · simp only [update_of_ne hij] at hj ⊢
    intro result hres
    obtain ⟨x, hx, hsay⟩ := h.reports j hj result hres
    exact ⟨x, hrec x hx, hsay⟩

theorem Consistent.step {r : String} (h : Consistent r s) (i : Nat)
    (hm : (s.calls i).requestId = r → Meets env userId s i) :
    Consistent r (step env userId s i) := by
  dsimp only [PreConsume.step]
  cases hpc : (s.calls i).pc with
  | done => exact h
  | look =>
    dsimp only
    split
    · rename_i hcon
      refine h.next h.charges (fun _ => id) fun hr result hres => ?_
      subst hr
      cases hpre : preConsumeUserSubscription env (s.calls i).requestId userId (s.calls i).amount
          s.db with
      | error e =>
        rw [hpre] at hres
        cases hres
      | ok tx =>
        rw [hpre] at hres
        cases hres
        obtain ⟨hpos, hnam, -⟩ := preConsume_spec hpre
        have hid : ¬ userId ≤ 0 := fun hu => by simp [preConsumeUserSubscription, hu] at hpre
        obtain ⟨x, hx⟩ := Option.isSome_iff_exists.mp
          (hcon.resolve_right (by rintro (h | h | h) <;> first | omega | exact hnam h))
        exact ⟨x, hx, known_reports hx hpre⟩
    · exact h.next h.charges (fun _ => id) fun _ _ hres => by cases hres
  | work =>
    cases hul : underLocks env userId (s.calls i).requestId (s.calls i).amount s.db with
    | error e => exact h.next h.charges (fun _ => id) fun _ _ hres => by cases hres
    | ok tx =>
      unfold underLocks at hul
      cases hrec : s.db.records.find? (s.calls i).requestId with
      | none =>
        -- the record is written, and its row is charged
        rw [hrec] at hul
        obtain ⟨-, -, ⟨hsom, -⟩ | ⟨records, subs, hcre, hstore, hpre, -⟩⟩ := preConsume_spec hul
        · exact absurd hrec hsom
        have hfn := s.db.records.find?_create hcre r
        rw [show records = tx.store.records by rw [hstore]] at hfn
        have hch := h.charges
        refine h.next ?_ (fun x hx => ?_) fun hr result hres => ?_
        · by_cases hr : (s.calls i).requestId = r
          · subst hr
            rw [hrec] at hch
            simp [hch, hfn, chargesOf]
          · simp [hr, hfn, hch, Ne.symm hr]
        · rw [hfn, if_neg (by rintro rfl; simp [hrec] at hx)]
          exact hx
        · cases hres
          exact ⟨_, hfn.trans (if_pos hr.symm), hpre, rfl⟩
      | some dup =>
        rw [hrec] at hul
        dsimp only at hul
        split at hul
        · cases hul
        obtain ⟨hrc, hpre, -, sub, hsub, hid⟩ := duplicate_spec hul
        refine h.next (by rw [hrc]; exact h.charges) (fun x => by rw [hrc]; exact id) ?_
        rintro hr result ⟨⟩
        rw [hrc, ← hr]
        exact ⟨dup, hrec, hpre, hid.trans (hm hr hpc dup hrec sub hsub)⟩

/-- **Pre-consumption is idempotent for each request**, when a call that meets the record of
its request finds the row that was charged the first that can pay: the request is charged as
its one record says, and every call for it that succeeds reports that row and that amount.  A
call charges the row it reports when it writes the record, and none when it meets it. -/
theorem preConsume_idempotent {r : String} {s' : State} {events : List (SubscriptionEnv × Nat)}
    (hnew : s.db.records.find? r = none) (hcharges : s.charges = [])
    (hlook : ∀ i, (s.calls i).pc = .look)
    (hrun : Run (fun s e s' => s' = step e.1 userId s e.2 ∧
      ((s.calls e.2).requestId = r → Meets e.1 userId s e.2)) s events s') :
    Consistent r s' ∧ ∀ env amount tx, underLocks env userId r amount s'.db = .ok tx →
      if s'.db.records.find? r = none
      then Charges env userId tx.value.userSubscriptionId amount tx.resets s'.db tx.store
      else ∀ id, usedOf tx.store.subscriptions id =
        afterResets (usedOf s'.db.subscriptions) tx.resets id := by
  have hsta : Consistent r s :=
    ⟨by rw [hcharges, hnew]; rfl, fun i _ _ hres => by rw [hlook i] at hres; cases hres⟩
  refine ⟨hrun.invariant (fun s e s' h hst => ?_) hsta, fun env amount tx htx => ?_⟩
  · rw [hst.1]
    exact h.step e.2 hst.2
  · unfold underLocks at htx
    cases hrec : s'.db.records.find? r with
    | none =>
      rw [hrec] at htx
      obtain ⟨-, -, ⟨hsom, -⟩ | ⟨_, _, _, _, _, hch⟩⟩ := preConsume_spec htx
      · exact absurd hrec hsom
      · exact hch
    | some dup =>
      rw [hrec] at htx
      dsimp only at htx
      split at htx
      · cases htx
      · exact (duplicate_spec htx).2.2.1

end

/-- User 7 has two subscriptions, the second of a thousand, and two calls for the request `r` want
a hundred. -/
def sampleState (total : Int) : State where
  db := { sampleStore with
    subscriptions := ⟨[⟨1, 7, 3, total, 0, 0, 500, .active, 0, 0, "", "", "", true⟩,
      ⟨2, 7, 3, 1000, 0, 0, 900, .active, 0, 0, "", "", "", true⟩], by simp⟩ }
  calls := fun _ => ⟨"r", 100, .look⟩
  charges := []

/-- Both calls miss the record, and the first subscription can pay twice. -/
theorem preConsume_idempotent_twice : ∃ s' result, Run (fun s e s' => s' = step e.1 7 s e.2 ∧
      ((s.calls e.2).requestId = "r" → Meets e.1 7 s e.2)) (sampleState 200)
      [(sampleEnv, 0), (sampleEnv, 1), (sampleEnv, 0), (sampleEnv, 1)] s' ∧
    (s'.calls 1).pc = .done (.ok result) ∧ result.userSubscriptionId = 1 ∧ Consistent "r" s' := by
  have hrun : Run (fun s e s' => s' = step e.1 7 s e.2 ∧
      ((s.calls e.2).requestId = "r" → Meets e.1 7 s e.2)) (sampleState 200)
      [(sampleEnv, 0), (sampleEnv, 1), (sampleEnv, 0), (sampleEnv, 1)] _ :=
    .cons ⟨rfl, fun _ (h : Pc.look = .work) => by cases h⟩ <|
      .cons ⟨rfl, fun _ (h : Pc.look = .work) => by cases h⟩ <|
      .cons ⟨rfl, fun _ _ _ (h : _ ∈ none) => by cases h⟩ <|
      .cons ⟨rfl, fun _ _ => by decide +kernel⟩ <| .nil _
  exact ⟨_, _, hrun, rfl, rfl, (preConsume_idempotent rfl rfl (fun _ => rfl) hrun).1⟩

/-- Both calls miss the record; the first charges row 1, and the second reports row 2. -/
theorem duplicate_reports_other :
    let s := [0, 1, 0, 1].foldl (step sampleEnv 7) (sampleState 100)
    s.charges = [("r", 1, 100)] ∧ ∃ record result,
      s.db.records.find? "r" = some record ∧ record.userSubscriptionId = 1 ∧
      (s.calls 1).pc = .done (.ok result) ∧ result.userSubscriptionId = 2 :=
  ⟨by decide +kernel, _, _, rfl, rfl, rfl, rfl⟩

end NewApi.PreConsume
