import NewApi.Steps
import NewApi.Subscriptions

/-! # Group upgrades and their undoing

A plan may put its buyer into a group.  The purchase notes in the row which group
the user was in, or nothing if it was that group already; the run that expires the
last upgraded row of a user puts the user back into the group noted in the row
that ended last, provided the user is still in that row's group.

Each user's rows are a world of their own, so the argument is about one user's rows
(`Undoable`): while upgraded rows are active, the one that ends last is the row the
next revert will consult, and it must note the user's own group.  A purchase keeps
that if it is made from the user's own group and ends last, or if it buys the
group the user is in and does not end last (`Nested`).  Buying the same plan twice
is neither: the second row ends last and notes nothing, and the user keeps the
group for good (`second_purchase_keeps_group`). -/
namespace NewApi
open Db Function List Steps

/-! ## Purchases -/

/-- The errors of `CreateUserSubscriptionFromPlanTx`. -/
inductive PurchaseError where
  /-- `invalid plan` -/
  | invalidPlan
  /-- `invalid user id` -/
  | invalidUserId
  /-- `已达到该套餐购买上限` -/
  | purchaseLimit
  /-- `duration_value must be > 0` -/
  | durationValue
  /-- `custom_seconds must be > 0` -/
  | customSeconds
  /-- `invalid duration_unit: %s` -/
  | durationUnit (text : String)
  | database (text : String)
  deriving DecidableEq, Repr

def calcPlanEndTime (cal : Calendar) (start : Int) (plan : SubscriptionPlan) :
    Except PurchaseError Int :=
  if plan.durationValue ≤ 0 ∧ plan.durationUnit ≠ .custom then .error .durationValue
  else match plan.durationUnit with
  | .year => .ok (cal.addYears start plan.durationValue)
  | .month => .ok (cal.addMonths start plan.durationValue)
  | .day => .ok (addDuration start plan.durationValue (24 * 3600 * nanosPerSecond))
  | .hour => .ok (addDuration start plan.durationValue (3600 * nanosPerSecond))
  | .custom =>
      if plan.customSeconds ≤ 0 then .error .customSeconds
      else .ok (addDuration start plan.customSeconds nanosPerSecond)
  | .other text => .error (.durationUnit text)

/-- The rows of a user. -/
def Store.subscriptionsOf (db : Store) (userId : Int) : List UserSubscription :=
  db.subscriptions.rows.filter fun sub => sub.userId = userId

/-- The next value of the auto-increment key. -/
def nextId (rows : List UserSubscription) : Int :=
  rows.foldr (fun sub next => max (sub.id + 1) next) 1

variable {sub : UserSubscription} {rows : List UserSubscription}

theorem lt_nextId (h : sub ∈ rows) : sub.id < nextId rows := by
  induction rows with
  | nil => cases h
  | cons row rows ih =>
    show sub.id < max (row.id + 1) (nextId rows)
    rcases mem_cons.mp h with rfl | h
    · omega
    have := ih h
    omega

/-- What a purchase reads from outside the tables. -/
structure PurchaseEnv where
  now : Int
  calendar : Calendar
  /-- A failing statement of the transaction. -/
  fault : Fault

/-- The row `CreateUserSubscriptionFromPlanTx` inserts for a user in `group`. -/
def purchasedRow (env : PurchaseEnv) (userId : Int) (plan : SubscriptionPlan) (endUnix id : Int)
    (group : String) : UserSubscription :=
  let nextReset := calcNextResetTime env.calendar env.now plan endUnix
  let upgradeGroup := trimSpace plan.upgradeGroup
  { id := id
    userId := userId
    planId := plan.id
    amountTotal := plan.totalAmount
    amountUsed := 0
    startTime := env.now
    endTime := endUnix
    status := .active
    lastResetTime := if 0 < nextReset then env.now else 0
    nextResetTime := nextReset
    upgradeGroup := upgradeGroup
    prevUserGroup := if upgradeGroup ≠ "" ∧ group ≠ upgradeGroup then group else ""
    downgradeGroup := trimSpace plan.downgradeGroup
    allowWalletOverflow := plan.allowWalletOverflow.getD true }

def createUserSubscriptionFromPlanTx (env : PurchaseEnv) (userId : Int) (plan : SubscriptionPlan)
    (db : Store) : Except PurchaseError Store :=
  if plan.id = 0 then .error .invalidPlan
  else if userId ≤ 0 then .error .invalidUserId
  else if 0 < plan.maxPurchasePerUser ∧ plan.maxPurchasePerUser ≤
      (db.subscriptionsOf userId).countP (fun sub => sub.planId = plan.id) then
    .error .purchaseLimit
  else match calcPlanEndTime env.calendar env.now plan with
  | .error e => .error e
  | .ok endUnix =>
    match env.fault with
    | some text => .error (.database text)
    | none =>
      let upgradeGroup := trimSpace plan.upgradeGroup
      let group := db.groups userId
      let groups :=
        if upgradeGroup ≠ "" ∧ group ≠ upgradeGroup then
          Function.update db.groups userId upgradeGroup
        else db.groups
      match db.subscriptions.create
          (purchasedRow env userId plan endUnix (nextId db.subscriptions.rows) group) with
      | none => .error (.database "duplicate key")
      | some subscriptions => .ok { db with groups := groups, subscriptions := subscriptions }

/-! ## Expiry -/

/-- `Order("end_time desc, id desc")`. -/
def UserSubscription.endsAfter (a b : UserSubscription) : Prop := b.endsBefore a

open UserSubscription

instance : DecidableRel endsAfter :=
  fun a b => inferInstanceAs (Decidable (b.endsBefore a))

instance : Std.Total endsAfter where
  total a b := by
    unfold endsAfter endsBefore
    omega

instance : IsTrans UserSubscription endsAfter where
  trans a b c := by
    unfold endsAfter endsBefore
    omega

/-- `status = 'active' AND end_time > 0 AND end_time <= ?`. -/
def UserSubscription.due (sub : UserSubscription) (now : Int) : Bool :=
  decide (sub.status = .active ∧ 0 < sub.endTime ∧ sub.endTime ≤ now)

/-- `status = 'active' AND end_time > ? AND upgrade_group <> ''`. -/
def UserSubscription.upgrading (sub : UserSubscription) (now : Int) : Bool :=
  decide (sub.status = .active ∧ now < sub.endTime ∧ sub.upgradeGroup ≠ "")

/-- `status = 'expired' AND (downgrade_group <> '' OR upgrade_group <> '')`. -/
def UserSubscription.transition (sub : UserSubscription) : Bool :=
  decide (sub.status = .expired ∧ (sub.downgradeGroup ≠ "" ∨ sub.upgradeGroup ≠ ""))

/-- The group that follows from the row that expired last. -/
def revertGroup (lastExpired : UserSubscription) (currentGroup : String) : String :=
  let target := trimSpace lastExpired.downgradeGroup
  if target ≠ "" then target
  else
    let upgradeGroup := trimSpace lastExpired.upgradeGroup
    let prevGroup := trimSpace lastExpired.prevUserGroup
    if upgradeGroup = "" ∨ prevGroup = "" then currentGroup
    else if currentGroup ≠ upgradeGroup then currentGroup
    else prevGroup

/-- What can go wrong in the transaction of one user.  Errors of the two lookups are
not returned: the first counts as "no active row", the second ends the
transaction. -/
inductive ExpireFault where
  | none
  | rollback (text : String)
  | activeQuery
  | expiredQuery
  deriving DecidableEq, Repr

/-- The group of a user whose rows, with the due ones marked, are `rows`. -/
def groupAfterExpiry (now : Int) (fault : ExpireFault) (rows : List UserSubscription)
    (currentGroup : String) : String :=
  if fault ≠ .activeQuery ∧ rows.any (fun sub => sub.upgrading now) = true then currentGroup
  else if fault = .expiredQuery then currentGroup
  else match firstBy endsAfter (rows.filter transition) with
  | none => currentGroup
  | some lastExpired => revertGroup lastExpired currentGroup

/-- Mark a row as expired. -/
def UserSubscription.expire (sub : UserSubscription) : UserSubscription :=
  { sub with status := .expired }

/-- The transaction of `ExpireDueSubscriptions` for one user. -/
def expireUserTx (now userId : Int) (fault : ExpireFault) (db : Store) : Except String Store :=
  match fault with
  | .rollback text => .error text
  | fault =>
      let subscriptions := db.subscriptions.updateWhere
        (fun sub => decide (sub.userId = userId) && sub.due now) UserSubscription.expire
        (fun _ => rfl)
      let marked := { db with subscriptions := subscriptions }
      .ok { marked with
        groups := Function.update db.groups userId
          (groupAfterExpiry now fault (marked.subscriptionsOf userId) (db.groups userId)) }

/-- The loop of `ExpireDueSubscriptions` over the users.  An error ends it. -/
def expireUsers (now : Int) (fault : Int → ExpireFault) : List Int → Store → Store
  | [], db => db
  | userId :: rest, db =>
      match expireUserTx now userId (fault userId) db with
      | .error _ => db
      | .ok db => expireUsers now fault rest db

/-- `ExpireDueSubscriptions`.  `mapOrder` is the order in which the map of users is
walked. -/
def expireDueSubscriptions (limit now : Int) (mapOrder : List Int → List Int)
    (fault : Int → ExpireFault) (db : Store) : Store :=
  let limit := if limit ≤ 0 then 200 else limit
  let subs := ((db.subscriptions.rows.filter (fun sub => sub.due now)).insertionSort
    endsBefore).take limit.toNat
  let userIds := ((subs.map userId).filter (fun id => 0 < id)).dedup
  expireUsers now fault (mapOrder userIds) db

/-! ## One user's rows -/

/-- A group name that a revert can write back: not empty, and without blanks
around it. -/
def ProperGroup (group : String) : Prop := group ≠ "" ∧ trimSpace group = group

/-- The row upgrades its holder, and is not yet marked as expired. -/
def UserSubscription.ActiveUpgrade (sub : UserSubscription) : Prop :=
  sub.status = .active ∧ sub.upgradeGroup ≠ ""

instance (sub : UserSubscription) : Decidable sub.ActiveUpgrade :=
  inferInstanceAs (Decidable (sub.status = .active ∧ sub.upgradeGroup ≠ ""))

/-- What holds of every row of a user whose own group is `own`, at time `clock`. -/
structure RowOk (own : String) (clock : Int) (sub : UserSubscription) : Prop where
  plain : sub.downgradeGroup = ""
  trimmed : trimSpace sub.upgradeGroup = sub.upgradeGroup
  ends : sub.upgradeGroup ≠ "" → 0 < sub.endTime
  past : sub.upgradeGroup ≠ "" → sub.status ≠ .active → sub.endTime ≤ clock
  noted : sub.prevUserGroup = "" ∨
    (sub.prevUserGroup = own ∧ sub.upgradeGroup ≠ own ∧ ProperGroup own)

/-- Of the upgraded rows, `last` ends last, and it is active. -/
structure LastUpgrade (rows : List UserSubscription) (last : UserSubscription) : Prop where
  mem : last ∈ rows
  active : last.ActiveUpgrade
  ends : ∀ sub ∈ rows, sub.upgradeGroup ≠ "" → sub.endsBefore last

/-- **The upgrades of a user can be undone**: without active ones the user is in
their own group, and otherwise the row that the revert will consult leads there. -/
structure Undoable (own : String) (clock : Int) (rows : List UserSubscription) (group : String) :
    Prop where
  rows_ok : ∀ sub ∈ rows, RowOk own clock sub
  state : ((∀ sub ∈ rows, ¬ sub.ActiveUpgrade) ∧ group = own) ∨
    ∃ last, LastUpgrade rows last ∧
      ((group = own ∧ last.prevUserGroup = "") ∨
       (group = last.upgradeGroup ∧ last.prevUserGroup = own ∧ ProperGroup own))

theorem RowOk.mono {own : String} {clock now : Int}
    (h : RowOk own clock sub) (hle : clock ≤ now) : RowOk own now sub :=
  { h with past := fun hu hs => (h.past hu hs).trans hle }

theorem Undoable.mono {own : String} {clock now : Int}
    {group : String} (h : Undoable own clock rows group) (hle : clock ≤ now) :
    Undoable own now rows group :=
  ⟨fun sub hsub => (h.rows_ok sub hsub).mono hle, h.state⟩

/-- **The purchases that can be undone.**  A row that ends last is bought from the
user's own group, and any other row upgrades to the group the user is in. -/
def Nested (own : String) (rows : List UserSubscription) (group upgradeGroup : String)
    (endTime : Int) : Prop :=
  (group = own ∧ ∀ old ∈ rows, old.ActiveUpgrade → old.endTime ≤ endTime) ∨
  (upgradeGroup = group ∧ ∃ old ∈ rows, old.ActiveUpgrade ∧ endTime < old.endTime)

section Rows
variable {own group : String} {clock now : Int} {rows : List UserSubscription}

variable {sub : UserSubscription}

theorem lastUpgrade_purchase (hrows : ∀ old ∈ rows, RowOk own clock old)
    (hle : clock ≤ now) (hsub : sub.ActiveUpgrade) (hend : now < sub.endTime)
    (hid : ∀ old ∈ rows, old.id < sub.id)
    (hla : ∀ old ∈ rows, old.ActiveUpgrade → old.endTime ≤ sub.endTime) :
    LastUpgrade (rows ++ [sub]) sub := by
  refine ⟨by simp, hsub, fun old hold hup => ?_⟩
  rcases mem_append.mp hold with hold | hold
  · have hids := hid old hold
    have hen : old.endTime ≤ sub.endTime := by
      by_cases hact : old.status = .active
      · exact hla old hold ⟨hact, hup⟩
      have := (hrows old hold).past hup hact
      omega
    unfold endsBefore
    omega
  · obtain rfl := mem_singleton.mp hold
    exact .inr ⟨rfl, Int.le_refl _⟩

variable {last sub : UserSubscription}

/-- A new row that does not end last leaves the last one in place. -/
theorem LastUpgrade.append (h : LastUpgrade rows last)
    (hsub : sub.upgradeGroup ≠ "" → sub.endsBefore last) : LastUpgrade (rows ++ [sub]) last := by
  refine ⟨mem_append_left _ h.mem, h.active, fun old hold hup => ?_⟩
  rcases mem_append.mp hold with hold | hold
  · exact h.ends old hold hup
  obtain rfl := mem_singleton.mp hold
  exact hsub hup

/-- **A nested purchase keeps the upgrades undoable.** -/
theorem undoable_purchase {upgradeGroup : String}
    (h : Undoable own clock rows group) (hle : clock ≤ now) (hact : sub.status = .active)
    (hok : RowOk own now sub) (hid : ∀ old ∈ rows, old.id < sub.id)
    (hupg : sub.upgradeGroup = upgradeGroup) (hpv : sub.prevUserGroup =
      if upgradeGroup ≠ "" ∧ group ≠ upgradeGroup then group else "")
    (hnes : upgradeGroup ≠ "" → ProperGroup own ∧ now < sub.endTime ∧
      Nested own rows group upgradeGroup sub.endTime) : Undoable own now (rows ++ [sub])
      (if upgradeGroup ≠ "" ∧ group ≠ upgradeGroup then upgradeGroup else group) := by
  subst hupg
  refine ⟨fun old hold => ?_, ?_⟩
  · rcases mem_append.mp hold with hold | hold
    · exact (h.rows_ok old hold).mono hle
    obtain rfl := mem_singleton.mp hold
    exact hok
  by_cases hup : sub.upgradeGroup = ""
  · -- a plan without a group changes nothing
    rw [if_neg (fun hc => hc.1 hup)]
    rcases h.state with ⟨hno, hgroup⟩ | ⟨last, hla, hgroup⟩
    · refine .inl ⟨fun old hold => ?_, hgroup⟩
      rcases mem_append.mp hold with hold | hold
      · exact hno old hold
      obtain rfl := mem_singleton.mp hold
      exact fun hc => hc.2 hup
    · exact .inr ⟨last, hla.append (fun hne => absurd hup hne), hgroup⟩
  obtain ⟨hown, hend, ⟨hgroup, hla⟩ | ⟨hsm, old, hold, hac, hlat⟩⟩ := hnes hup
  · refine .inr ⟨sub, lastUpgrade_purchase h.rows_ok hle ⟨hact, hup⟩ hend hid hla, ?_⟩
    by_cases hchg : group ≠ sub.upgradeGroup
    · rw [if_pos ⟨hup, hchg⟩] at hpv ⊢
      exact .inr ⟨rfl, hpv.trans hgroup, hown⟩
    · rw [if_neg (fun hc => hchg hc.2)] at hpv ⊢
      exact .inl ⟨hgroup, hpv⟩
  · rw [if_neg (fun hc => hc.2 hsm.symm)]
    rcases h.state with ⟨hno, -⟩ | ⟨last, hla, hgroup⟩
    · exact absurd hac (hno old hold)
    refine .inr ⟨last, hla.append (fun _ => ?_), hgroup⟩
    have := hla.ends old hold hac.2
    unfold endsBefore at this ⊢
    omega

/-- The rows once the due ones are marked. -/
def markDue (now : Int) (rows : List UserSubscription) : List UserSubscription :=
  rows.map fun sub => if sub.due now then sub.expire else sub

/-- A marked row is a row, possibly with another status. -/
theorem mem_markDue (h : sub ∈ markDue now rows) :
    ∃ old ∈ rows, (sub = old ∧ old.due now = false) ∨ (sub = old.expire ∧ old.due now = true) := by
  obtain ⟨old, hold, rfl⟩ := mem_map.mp h
  refine ⟨old, hold, ?_⟩
  cases hdue : old.due now
  · exact .inl ⟨by simp, rfl⟩
  · exact .inr ⟨by simp, rfl⟩

theorem rowOk_markDue (h : ∀ sub ∈ rows, RowOk own clock sub) (hle : clock ≤ now) :
    ∀ sub ∈ markDue now rows, RowOk own now sub := by
  intro sub hsub
  obtain ⟨old, hold, ⟨rfl, -⟩ | ⟨rfl, hdue⟩⟩ := mem_markDue hsub
  · exact (h sub hold).mono hle
  have hok := h old hold
  have hpa : old.endTime ≤ now := (of_decide_eq_true hdue).2.2
  exact { hok with past := fun _ _ => hpa }

/-- The revert leaves a user alone who is in their own group. -/
theorem revertGroup_own (h : RowOk own clock sub) : revertGroup sub own = own := by
  simp only [revertGroup, h.plain, h.trimmed]
  rw [if_neg (by decide)]
  rcases h.noted with hno | ⟨-, hne, -⟩
  · rw [if_pos (.inr (by rw [hno]; decide))]
  split
  · rfl
  · rw [if_pos (Ne.symm hne)]

/-- The revert puts a user back who is still in the group of the row. -/
theorem revertGroup_upgraded (h : RowOk own clock sub)
    (hup : sub.upgradeGroup ≠ "") (hpv : sub.prevUserGroup = own) (hown : ProperGroup own) :
    revertGroup sub sub.upgradeGroup = own := by
  simp only [revertGroup, h.plain, h.trimmed, hpv, hown.2]
  rw [if_neg (by decide), if_neg (fun hc => hc.elim hup hown.1), if_neg (by simp)]

theorem upgrading_of_active (h : ∀ sub ∈ rows, RowOk own clock sub)
    (hsub : sub ∈ markDue now rows) (hact : sub.ActiveUpgrade) : sub.upgrading now = true := by
  obtain ⟨old, hold, ⟨rfl, hdue⟩ | ⟨rfl, -⟩⟩ := mem_markDue hsub
  · have hpos := (h sub hold).ends hact.2
    have hnot : ¬ (sub.status = .active ∧ 0 < sub.endTime ∧ sub.endTime ≤ now) :=
      of_decide_eq_false hdue
    refine decide_eq_true ⟨hact.1, ?_, hact.2⟩
    by_contra hle
    exact hnot ⟨hact.1, hpos, by omega⟩
  · cases hact.1

/-- The last row stays where it is, as long as it is not due. -/
theorem LastUpgrade.markDue {last : UserSubscription} (h : LastUpgrade rows last)
    (hnow : now < last.endTime) : LastUpgrade (markDue now rows) last := by
  refine ⟨mem_map.mpr ⟨last, h.mem, ?_⟩, h.active, fun sub hsub hup => ?_⟩
  · have hnot : last.due now = false := decide_eq_false fun hc => absurd hc.2.2 (by omega)
    simp [hnot]
  · obtain ⟨old, hold, ⟨rfl, -⟩ | ⟨rfl, -⟩⟩ := mem_markDue hsub
    · exact h.ends sub hold hup
    · exact h.ends old hold hup

theorem firstBy_transition (hkey : ∀ a ∈ rows, ∀ b ∈ rows, a.id = b.id → a = b)
    (hrows : ∀ sub ∈ rows, RowOk own clock sub) (hla : LastUpgrade rows last)
    (hdue : last.due now = true) (h : firstBy endsAfter ((markDue now rows).filter transition)
      = some sub) : sub = last.expire := by
  obtain ⟨hmem, hfst⟩ := firstBy_eq_some _ h
  obtain ⟨hsub, htra⟩ := mem_filter.mp hmem
  have hlas : last.expire ∈ (markDue now rows).filter transition := by
    refine mem_filter.mpr ⟨mem_map.mpr ⟨last, hla.mem, by simp [hdue]⟩, ?_⟩
    exact decide_eq_true ⟨rfl, .inr hla.active.2⟩
  have haft : last.endsBefore sub := hfst last.expire hlas
  obtain ⟨hsts, hdef⟩ := of_decide_eq_true htra
  -- the two are the same row, because each ends after the other
  have hsm : ∀ old ∈ rows, old.id = sub.id → old.endTime = sub.endTime →
      old.upgradeGroup ≠ "" → old = last := by
    intro old hold hid hend hup
    have hbef := hla.ends old hold hup
    unfold endsBefore at haft hbef
    exact hkey old hold last hla.mem (by omega)
  obtain ⟨old, hold, ⟨rfl, hnot⟩ | ⟨rfl, -⟩⟩ := mem_markDue hsub
  · have hup : sub.upgradeGroup ≠ "" :=
      hdef.elim (fun hd => absurd (hrows sub hold).plain hd) id
    rw [hsm sub hold rfl rfl hup] at hnot
    rw [hnot] at hdue
    cases hdue
  · have hup : old.upgradeGroup ≠ "" :=
      hdef.elim (fun hd => absurd (hrows old hold).plain hd) id
    rw [hsm old hold rfl rfl hup]

/-- **An expiry run keeps the upgrades undoable**, and undoes them when it marks
the last one. -/
theorem undoable_expiry (h : Undoable own clock rows group) (hle : clock ≤ now)
    (hkey : ∀ a ∈ rows, ∀ b ∈ rows, a.id = b.id → a = b) : Undoable own now (markDue now rows)
      (groupAfterExpiry now .none (markDue now rows) group) := by
  have hrows := rowOk_markDue h.rows_ok hle
  refine ⟨hrows, ?_⟩
  unfold groupAfterExpiry
  by_cases hany : (markDue now rows).any (fun sub => sub.upgrading now) = true
  · -- an upgrade is still running, so the last one is
    rw [if_pos ⟨by decide, hany⟩]
    obtain ⟨sub, hsub, hupg⟩ := any_eq_true.mp hany
    obtain ⟨hact, hend, hup⟩ := of_decide_eq_true hupg
    obtain ⟨old, hold, ⟨rfl, -⟩ | ⟨rfl, -⟩⟩ := mem_markDue hsub
    · rcases h.state with ⟨hno, -⟩ | ⟨last, hla, hgroup⟩
      · exact absurd ⟨hact, hup⟩ (hno sub hold)
      refine .inr ⟨last, hla.markDue ?_, hgroup⟩
      have := hla.ends sub hold hup
      unfold endsBefore at this
      omega
    · cases hact
  · rw [if_neg (fun hc => hany hc.2), if_neg (by decide)]
    -- no upgrade is left, so the run goes back by the one that ended last
    have hno : ∀ sub ∈ markDue now rows, ¬ sub.ActiveUpgrade := by
      intro sub hsub hact
      exact hany (any_eq_true.mpr ⟨sub, hsub, upgrading_of_active h.rows_ok hsub hact⟩)
    refine .inl ⟨hno, ?_⟩
    rcases h.state with ⟨-, rfl⟩ | ⟨last, hla, hgroup⟩
    · split
      · rfl
      rename_i sub hsub
      exact revertGroup_own (hrows sub (mem_filter.mp (firstBy_eq_some _ hsub).1).1)
    · have hdue : last.due now = true := by
        by_contra hnot
        refine hno last (mem_map.mpr ⟨last, hla.mem, by simp [hnot]⟩) hla.active
      split
      · rename_i hemp
        have hnil := firstBy_eq_none _ hemp
        have hmem : last.expire ∈ (markDue now rows).filter transition :=
          mem_filter.mpr ⟨mem_map.mpr ⟨last, hla.mem, by simp [hdue]⟩,
            decide_eq_true ⟨rfl, .inr hla.active.2⟩⟩
        rw [hnil] at hmem
        cases hmem
      · rename_i sub hsub
        obtain rfl := firstBy_transition hkey h.rows_ok hla hdue hsub
        have hok : RowOk own now last.expire :=
          hrows _ (mem_filter.mp (firstBy_eq_some _ hsub).1).1
        rcases hgroup with ⟨rfl, -⟩ | ⟨rfl, hpv, hown⟩
        · exact revertGroup_own hok
        · exact revertGroup_upgraded hok hla.active.2 hpv hown

end Rows

/-! ## The store

Each transaction acts on the rows of one user as the section above describes, and
leaves those of the others alone. -/

variable {db db' : Store}

/-- **The purchase of a user, seen by its rows.** -/
theorem createUserSubscriptionFromPlanTx_spec {env : PurchaseEnv} {userId : Int}
    {plan : SubscriptionPlan} (h : createUserSubscriptionFromPlanTx env userId plan db = .ok db') :
    ∃ endUnix, calcPlanEndTime env.calendar env.now plan = .ok endUnix ∧
      db'.subscriptions.rows = db.subscriptions.rows ++ [purchasedRow env userId plan endUnix
        (nextId db.subscriptions.rows) (db.groups userId)] ∧
      db'.groups = Function.update db.groups userId
        (if trimSpace plan.upgradeGroup ≠ "" ∧ db.groups userId ≠ trimSpace plan.upgradeGroup then
          trimSpace plan.upgradeGroup else db.groups userId) := by
  simp only [createUserSubscriptionFromPlanTx] at h
  iterate 4
    split at h
    · cases h
  rename_i endUnix hend
  refine ⟨endUnix, hend, ?_⟩
  split at h
  · cases h
  split at h
  · cases h
  rename_i subscriptions hcreate
  cases h
  refine ⟨(db.subscriptions.rows_create hcreate).1, ?_⟩
  by_cases hchg : trimSpace plan.upgradeGroup ≠ "" ∧ db.groups userId ≠ trimSpace plan.upgradeGroup
  · simp only [if_pos hchg]
  · simp only [if_neg hchg, update_eq_self]

theorem subscriptionsOf_append
    (h : db'.subscriptions.rows = db.subscriptions.rows ++ [sub]) (userId : Int) :
    db'.subscriptionsOf userId = if sub.userId = userId then db.subscriptionsOf userId ++ [sub]
      else db.subscriptionsOf userId := by
  unfold Store.subscriptionsOf
  rw [h, filter_append]
  by_cases hu : sub.userId = userId
  · simp [hu]
  · simp [hu]

/-- **The expiry of a user, seen by its rows.** -/
theorem expireUserTx_spec {now userId : Int} (h : expireUserTx now userId .none db = .ok db') :
    db'.subscriptionsOf userId = markDue now (db.subscriptionsOf userId) ∧
    (∀ other, other ≠ userId → db'.subscriptionsOf other = db.subscriptionsOf other) ∧
    db'.groups = Function.update db.groups userId
      (groupAfterExpiry now .none (markDue now (db.subscriptionsOf userId))
        (db.groups userId)) := by
  cases h
  -- marking does not change whose row it is, so it can be pulled out of the filter
  have hrows : ∀ other, ((db.subscriptions.rows.map fun sub =>
      if (decide (sub.userId = userId) && sub.due now) = true then sub.expire else sub).filter
        fun sub => sub.userId = other) =
      if other = userId then markDue now (db.subscriptionsOf userId)
      else db.subscriptionsOf other := by
    intro other
    have hur : ((fun sub : UserSubscription => decide (sub.userId = other)) ∘ fun sub =>
        if (decide (sub.userId = userId) && sub.due now) = true then sub.expire else sub) =
        fun sub => decide (sub.userId = other) := by
      funext sub
      simp only [comp_apply]
      split <;> rfl
    rw [filter_map, hur]
    by_cases hoth : other = userId
    · subst hoth
      rw [if_pos rfl]
      refine map_congr_left fun sub hsub => ?_
      have : sub.userId = other := of_decide_eq_true (mem_filter.mp hsub).2
      simp [this]
    · rw [if_neg hoth]
      conv_rhs => rw [← map_id (db.subscriptionsOf other)]
      refine map_congr_left fun sub hsub => ?_
      have : sub.userId = other := of_decide_eq_true (mem_filter.mp hsub).2
      simp [this, hoth]
  have hse := hrows userId
  rw [if_pos rfl] at hse
  refine ⟨hse, fun other hne => ?_, ?_⟩
  · have := hrows other
    rwa [if_neg hne] at this
  · show Function.update db.groups userId (groupAfterExpiry now .none (List.filter _ _) _) = _
    rw [← hse]
    rfl

/-- Every user's upgrades can be undone. -/
def Store.Undoable (own : Int → String) (clock : Int) (db : Store) : Prop :=
  ∀ userId, NewApi.Undoable (own userId) clock (db.subscriptionsOf userId) (db.groups userId)

namespace Store.Undoable
variable {own : Int → String} {clock now : Int} {db db' : Store}

theorem mono (h : db.Undoable own clock) (hle : clock ≤ now) : db.Undoable own now :=
  fun userId => (h userId).mono hle

variable {userId : Int}

/-- A change to one user's rows and group needs an argument about that user only. -/
theorem of_user (h : db.Undoable own now)
    (hrows : ∀ other, other ≠ userId → db'.subscriptionsOf other = db.subscriptionsOf other)
    (hgroup : ∀ other, other ≠ userId → db'.groups other = db.groups other)
    (hur : NewApi.Undoable (own userId) now (db'.subscriptionsOf userId) (db'.groups userId)) :
    db'.Undoable own now := by
  intro other
  by_cases hoth : other = userId
  · subst hoth
    exact hur
  · rw [hrows other hoth, hgroup other hoth]
    exact h other

theorem expireUser (h : db.Undoable own now)
    (hdb : expireUserTx now userId .none db = .ok db') : db'.Undoable own now := by
  obtain ⟨hrows, hoth, hgroup⟩ := expireUserTx_spec hdb
  refine h.of_user hoth (fun other hne => ?_) ?_
  · rw [hgroup, update_of_ne hne]
  rw [hrows, hgroup, update_self]
  refine undoable_expiry (h userId) (Int.le_refl now) fun a ha b hb hid => ?_
  exact db.subscriptions.eq_of_key_eq (mem_filter.mp ha).1 (mem_filter.mp hb).1 hid

/-- The loop over the users, in whatever order the map is walked. -/
theorem expireUsers {fault : Int → ExpireFault} {userIds : List Int} (h : db.Undoable own now)
    (hflt : ∀ userId, fault userId = .none ∨ ∃ text, fault userId = .rollback text) :
    (expireUsers now fault userIds db).Undoable own now := by
  induction userIds generalizing db with
  | nil => exact h
  | cons userId rest ih =>
    simp only [NewApi.expireUsers]
    split
    · exact h
    rename_i db' hdb
    rcases hflt userId with hno | ⟨text, htx⟩
    · rw [hno] at hdb
      exact ih (h.expireUser hdb)
    · rw [htx] at hdb
      cases hdb

theorem purchase {env : PurchaseEnv} {plan : SubscriptionPlan}
    (h : db.Undoable own clock) (hclock : 0 ≤ clock) (hle : clock ≤ env.now)
    (hpl : trimSpace plan.downgradeGroup = "")
    (hns : ∀ endUnix, calcPlanEndTime env.calendar env.now plan = .ok endUnix →
      trimSpace plan.upgradeGroup ≠ "" → ProperGroup (own userId) ∧ env.now < endUnix ∧
        Nested (own userId) (db.subscriptionsOf userId) (db.groups userId)
          (trimSpace plan.upgradeGroup) endUnix)
    (hdb : createUserSubscriptionFromPlanTx env userId plan db = .ok db') :
    db'.Undoable own env.now := by
  obtain ⟨endUnix, hend, hrows, hgr⟩ := createUserSubscriptionFromPlanTx_spec hdb
  have hnes := hns endUnix hend
  have hoth : ∀ other, other ≠ userId → db'.subscriptionsOf other = db.subscriptionsOf other := by
    intro other hne
    rw [subscriptionsOf_append hrows, if_neg (fun hc => hne hc.symm)]
  refine (h.mono hle).of_user hoth (fun other hne => ?_) ?_
  · rw [hgr, update_of_ne hne]
  rw [subscriptionsOf_append hrows, if_pos (by rfl), hgr, update_self]
  have hpv : (purchasedRow env userId plan endUnix (nextId db.subscriptions.rows)
      (db.groups userId)).prevUserGroup = if trimSpace plan.upgradeGroup ≠ "" ∧
        db.groups userId ≠ trimSpace plan.upgradeGroup then db.groups userId else "" := by
    rw [purchasedRow]
  refine undoable_purchase (h userId) hle rfl ⟨hpl, trimSpace_trimSpace _, ?_, ?_, ?_⟩
    (fun old hold => lt_nextId (mem_filter.mp hold).1) rfl hpv hnes
  · intro hup
    have := (hnes hup).2.1
    show 0 < endUnix
    omega
  · exact fun _ hsts => absurd rfl hsts
  · rw [hpv]
    by_cases hchg : trimSpace plan.upgradeGroup ≠ "" ∧
        db.groups userId ≠ trimSpace plan.upgradeGroup
    · -- a purchase that changes the group notes the user's own group
      obtain ⟨hown, -, ⟨hgroup, -⟩ | ⟨hsm, -⟩⟩ := hnes hchg.1
      · refine .inr ⟨(if_pos hchg).trans hgroup, fun hc => hchg.2 ?_, hown⟩
        exact hgroup.trans hc.symm
      · exact absurd hsm.symm hchg.2
    · exact .inl (if_neg hchg)

end Store.Undoable

/-! ## Runs -/

/-- The calls that write a user's group. -/
inductive GroupCall where
  | purchase (env : PurchaseEnv) (userId : Int) (plan : SubscriptionPlan)
  | expire (limit now : Int) (mapOrder : List Int → List Int) (fault : Int → ExpireFault)

namespace GroupCall

/-- When the call is made. -/
def time : GroupCall → Int
  | .purchase env _ _ => env.now
  | .expire _ now _ _ => now

/-- The store after the call.  A failed purchase is rolled back. -/
def apply : GroupCall → Store → Store
  | .purchase env userId plan, db =>
      match createUserSubscriptionFromPlanTx env userId plan db with
      | .error _ => db
      | .ok db' => db'
  | .expire limit now mapOrder fault, db => expireDueSubscriptions limit now mapOrder fault db

/-- No plan names a group to go to at the end. -/
def Plain : GroupCall → Prop
  | .purchase _ _ plan => trimSpace plan.downgradeGroup = ""
  | .expire _ _ _ _ => True

/-- **The calls that keep every upgrade undoable**: upgrades nest, and the two
lookups of an expiry run are answered. -/
def Nests (own : Int → String) (db : Store) : GroupCall → Prop
  | .purchase env userId plan =>
      ∀ endUnix, calcPlanEndTime env.calendar env.now plan = .ok endUnix →
        trimSpace plan.upgradeGroup ≠ "" → ProperGroup (own userId) ∧ env.now < endUnix ∧
          Nested (own userId) (db.subscriptionsOf userId) (db.groups userId)
            (trimSpace plan.upgradeGroup) endUnix
  | .expire _ _ _ fault =>
      ∀ userId, fault userId = .none ∨ ∃ text, fault userId = .rollback text

end GroupCall

/-- The store, and the time of the last call. -/
structure GroupState where
  db : Store
  clock : Int

/-- A call is made, not earlier than the one before. -/
structure GroupStep (s : GroupState) (call : GroupCall) (s' : GroupState) : Prop where
  clock : s.clock ≤ call.time
  plain : call.Plain
  result : s' = ⟨call.apply s.db, call.time⟩

/-- Nobody has been upgraded yet: every user is in their own group. -/
structure GroupState.Initial (own : Int → String) (s : GroupState) : Prop where
  clock : 0 ≤ s.clock
  groups : s.db.groups = own
  rows : ∀ sub ∈ s.db.subscriptions.rows,
    sub.upgradeGroup = "" ∧ sub.prevUserGroup = "" ∧ sub.downgradeGroup = ""

/-- A user without an active upgrade is in their own group. -/
def Store.Undone (own : Int → String) (db : Store) : Prop :=
  ∀ userId, (∀ sub ∈ db.subscriptionsOf userId, ¬ sub.ActiveUpgrade) → db.groups userId = own userId

/-- A call whose time has come can be made. -/
theorem GroupStep.of_time {s : GroupState} {call : GroupCall} (hclock : s.clock ≤ call.time)
    (hpl : call.Plain) : GroupStep s call ⟨call.apply s.db, call.time⟩ :=
  ⟨hclock, hpl, rfl⟩

section Runs
variable {own : Int → String} {s s' : GroupState} {calls : List GroupCall}

theorem GroupState.Initial.undoable (h : s.Initial own) : s.db.Undoable own s.clock := by
  intro userId
  have hpl : ∀ sub ∈ s.db.subscriptionsOf userId,
      sub.upgradeGroup = "" ∧ sub.prevUserGroup = "" ∧ sub.downgradeGroup = "" :=
    fun sub hsub => h.rows sub (mem_filter.mp hsub).1
  refine ⟨fun sub hsub => ?_, .inl ⟨fun sub hsub hc => hc.2 (hpl sub hsub).1, ?_⟩⟩
  · obtain ⟨hup, hpv, hdo⟩ := hpl sub hsub
    exact ⟨hdo, by rw [hup]; decide, fun hc => absurd hup hc, fun hc => absurd hup hc, .inl hpv⟩
  · rw [h.groups]

theorem Store.Undoable.undone {db : Store} {clock : Int} (h : db.Undoable own clock) :
    db.Undone own := by
  intro userId hno
  rcases (h userId).state with ⟨-, hgroup⟩ | ⟨last, hla, -⟩
  · exact hgroup
  · exact absurd hla.active (hno last hla.mem)

/-- What one call keeps. -/
theorem undoable_step {call : GroupCall} (h : 0 ≤ s.clock ∧ s.db.Undoable own s.clock)
    (hst : GroupStep s call s' ∧ call.Nests own s.db) :
    0 ≤ s'.clock ∧ s'.db.Undoable own s'.clock := by
  obtain ⟨⟨hclock, hpl, rfl⟩, hnes⟩ := hst
  refine ⟨h.1.trans hclock, ?_⟩
  cases call with
  | purchase env userId plan =>
    simp only [GroupCall.apply]
    split
    · exact h.2.mono hclock
    rename_i db' hdb
    exact h.2.purchase h.1 hclock hpl hnes hdb
  | expire limit now mapOrder fault => exact (h.2.mono hclock).expireUsers hnes

/-- **Group upgrades are undone**: if upgrades nest, then whenever no upgraded
subscription of a user is active any more, the user is back in the group they
started in. -/
theorem upgrades_undone (hinit : s.Initial own)
    (hrun : Run (fun s call s' => GroupStep s call s' ∧ call.Nests own s.db) s calls s') :
    s'.db.Undone own := by
  have hkept : 0 ≤ s'.clock ∧ s'.db.Undoable own s'.clock :=
    hrun.invariant (fun _ _ _ h hst => undoable_step h hst) ⟨hinit.clock, hinit.undoable⟩
  exact hkept.2.undone

end Runs

/-- Thirty days in the group `vip`. -/
def vipPlan : SubscriptionPlan :=
  { samplePlan with durationUnit := .day, durationValue := 30, upgradeGroup := "vip" }

/-- User 7 buys the plan. -/
def buyVip (now : Int) : GroupCall := .purchase ⟨now, sampleEnv.calendar, none⟩ 7 vipPlan

/-- User 7 buys seven days of the same group. -/
def buyWeek (now : Int) : GroupCall :=
  .purchase ⟨now, sampleEnv.calendar, none⟩ 7 { vipPlan with durationValue := 7 }

/-- An expiry run in which nothing fails. -/
def expireAt (now : Int) : GroupCall := .expire 200 now id fun _ => .none

theorem plain_buyVip (now : Int) : (buyVip now).Plain := by
  have hgroup : vipPlan.downgradeGroup = "" := rfl
  rw [buyVip, GroupCall.Plain, hgroup]
  decide

theorem initial_sampleStore : GroupState.Initial (fun _ => "default") ⟨sampleStore, 0⟩ :=
  ⟨by decide, rfl, by decide⟩

/-- Two purchases, of which the second ends first, and their expiry. -/
theorem upgrades_undone_sample :
    let bought := (buyWeek 200).apply ((buyVip 100).apply sampleStore)
    ((expireAt 1000000).apply bought).groups 7 = "vip" ∧
      ((expireAt 3000000).apply ((expireAt 1000000).apply bought)).groups 7 = "default" ∧
      ((expireAt 3000000).apply ((expireAt 1000000).apply bought)).Undone (fun _ => "default") := by
  intro bought
  refine ⟨by decide +kernel, by decide +kernel, @upgrades_undone (fun _ => "default")
    ⟨sampleStore, 0⟩ ⟨(expireAt 3000000).apply ((expireAt 1000000).apply bought), 3000000⟩
    [buyVip 100, buyWeek 200, expireAt 1000000, expireAt 3000000] initial_sampleStore ?_⟩
  refine .cons ⟨.of_time (by decide) (plain_buyVip _), ?_⟩
    (.cons ⟨.of_time (by decide) (plain_buyVip 200), ?_⟩
      (.cons ⟨.of_time (by decide) trivial, fun _ => .inl rfl⟩
        (.cons ⟨.of_time (by decide) trivial, fun _ => .inl rfl⟩ (.nil _))))
  · intro endUnix hend _
    obtain rfl : 2592100 = endUnix := Except.ok.inj ((by decide +kernel : _ = _).trans hend)
    exact ⟨⟨by decide, by decide⟩, by decide, .inl ⟨rfl, by decide +kernel⟩⟩
  · intro endUnix hend _
    obtain rfl : 605000 = endUnix := Except.ok.inj ((by decide +kernel : _ = _).trans hend)
    exact ⟨⟨by decide, by decide⟩, by decide, .inr ⟨by decide +kernel, by decide +kernel⟩⟩

/-- The same plan bought twice: the second row ends last and notes no group, so the
user keeps `vip` when both have expired. -/
theorem second_purchase_keeps_group :
    GroupState.Initial (fun _ => "default") ⟨sampleStore, 0⟩ ∧
      ∃ s, Run GroupStep ⟨sampleStore, 0⟩ [buyVip 100, buyVip 200, expireAt 3000000] s ∧
        (∀ sub ∈ s.db.subscriptionsOf 7, sub.status = .expired) ∧ s.db.groups 7 = "vip" ∧
        ¬ s.db.Undone (fun _ => "default") := by
  refine ⟨initial_sampleStore, _, .cons (.of_time (by decide) (plain_buyVip _))
    (.cons (.of_time (by decide) (plain_buyVip _))
      (.cons (.of_time (by decide) trivial) (.nil _))), ?_⟩
  have hexp : ∀ sub ∈ ((expireAt 3000000).apply ((buyVip 200).apply
      ((buyVip 100).apply sampleStore))).subscriptionsOf 7, sub.status = .expired := by
    decide +kernel
  have hgroup : ((expireAt 3000000).apply ((buyVip 200).apply
      ((buyVip 100).apply sampleStore))).groups 7 = "vip" := by
    decide +kernel
  refine ⟨hexp, hgroup, fun hund => ?_⟩
  have hba := hund 7 fun sub hsub hact => by
    have := (hexp sub hsub).symm.trans hact.1
    cases this
  rw [hgroup] at hba
  exact absurd hba (by decide)

end NewApi
