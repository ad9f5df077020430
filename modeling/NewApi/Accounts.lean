import Mathlib.Data.List.DropRight
import Mathlib.Data.List.Infix

/-! # Balances and the statements that move them

`users.quota` and `tokens.remain_quota` are integer columns.  Two kinds of
statement move them.  A *reservation* (`PreConsumeUserQuota`,
`PreConsumeTokenQuota`) carries its balance guard in the `UPDATE` and never goes
through the batch updater.  A plain adjustment (`IncreaseUserQuota`,
`DecreaseUserQuota`, `IncreaseTokenQuota`, `DecreaseTokenQuota`) has no guard
and, when batch updates are on, is only recorded as a pending delta.  An account
therefore is the stored value together with the pending one, and its balance is
their sum. -/
namespace NewApi

/-- The errors of the `model` package that the billing code looks at. -/
inductive StoreError where
  | negativeQuota
  | database (text : String)
  | insufficientUserQuota
  | insufficientTokenQuota
  | invalidUserId
  | invalidUserSubscriptionId
  | subscriptionIdMissing
  | emptyRequestId
  | amountNotPositive
  | alreadyRefunded
  | noActiveSubscription
  | subscriptionQuotaInsufficient (need : Int)
  | usedExceedsTotal (used total : Int)
  | recordNotFound
  /-- Not an error of the code: the reset loop was cut off before it finished. -/
  | unfinished
  deriving DecidableEq, Repr

/-- `err.Error()`. -/
def StoreError.message : StoreError → String
  | .negativeQuota => "quota 不能为负数！"
  | .database text => text
  | .insufficientUserQuota => "用户额度不足"
  | .insufficientTokenQuota => "令牌额度不足"
  | .invalidUserId => "invalid userId"
  | .invalidUserSubscriptionId => "invalid userSubscriptionId"
  | .subscriptionIdMissing => "subscription id is missing"
  | .emptyRequestId => "requestId is empty"
  | .amountNotPositive => "amount must be > 0"
  | .alreadyRefunded => "subscription pre-consume already refunded"
  | .noActiveSubscription => "no active subscription"
  | .subscriptionQuotaInsufficient need => "subscription quota insufficient, need=" ++ toString need
  | .usedExceedsTotal used total =>
      "subscription used exceeds total, used=" ++ toString used ++ " total=" ++ toString total
  | .recordNotFound => "record not found"
  | .unfinished => ""

/-- `strings.Contains`. -/
def contains (s sub : String) : Bool := decide (sub.toList <:+: s.toList)

/-- `unicode.IsSpace`. -/
def isSpace (c : Char) : Bool :=
  let n := c.toNat
  (9 ≤ n && n ≤ 13) || n == 0x20 || n == 0x85 || n == 0xA0 || n == 0x1680 ||
    (0x2000 ≤ n && n ≤ 0x200a) || n == 0x2028 || n == 0x2029 || n == 0x202f || n == 0x205f ||
    n == 0x3000

/-- `strings.TrimSpace`. -/
def trimSpace (s : String) : String :=
  String.ofList ((s.toList.dropWhile isSpace).reverse.dropWhile isSpace).reverse

/-- A trimmed text has no blanks left at its ends. -/
theorem trimSpace_trimSpace (s : String) : trimSpace (trimSpace s) = trimSpace s := by
  let front := s.toList.dropWhile isSpace
  have hfro : (front.rdropWhile isSpace).dropWhile isSpace = front.rdropWhile isSpace := by
    refine List.dropWhile_eq_self_iff.mpr fun hpos => ?_
    have hpre := List.rdropWhile_prefix isSpace front
    have hlen : 0 < front.length := lt_of_lt_of_le hpos hpre.length_le
    rw [hpre.getElem hpos]
    exact List.dropWhile_get_zero_not isSpace s.toList hlen
  show String.ofList (((String.ofList (front.rdropWhile isSpace)).toList.dropWhile
    isSpace).rdropWhile isSpace) = String.ofList (front.rdropWhile isSpace)
  rw [String.toList_ofList, hfro, List.rdropWhile_idempotent]

/-- A database error raised by a statement, with its text; `none` when the
statement runs. -/
abbrev Fault := Option String

/-- A balance column: what the row stores, and what the batch updater holds for
it. -/
structure Account where
  stored : Int
  pending : Int
  deriving DecidableEq, Repr

namespace Account

/-- What the column will hold once the batch updater has flushed. -/
def balance (a : Account) : Int := a.stored + a.pending

/-- The shared body of the four plain adjustments: refuse a negative amount,
hand the delta to the batch updater when it is on, else write it. -/
def adjust (batch : Bool) (fault : Fault) (quota delta : Int) (a : Account) :
    Except StoreError Account :=
  if quota < 0 then .error .negativeQuota
  else if batch then .ok { a with pending := a.pending + delta }
  else match fault with
    | some text => .error (.database text)
    | none => .ok { a with stored := a.stored + delta }

/-- `IncreaseUserQuota`, `IncreaseTokenQuota`. -/
def increase (batch : Bool) (fault : Fault) (quota : Int) (a : Account) :
    Except StoreError Account := a.adjust batch fault quota quota

/-- `DecreaseUserQuota`, `DecreaseTokenQuota`. -/
def decrease (batch : Bool) (fault : Fault) (quota : Int) (a : Account) :
    Except StoreError Account := a.adjust batch fault quota (-quota)

/-- The shared body of the two reservations: `short` is the error of a balance
below the amount. -/
def preConsume (short : StoreError) (fault : Fault) (quota : Int) (a : Account) :
    Except StoreError Account :=
  if quota < 0 then .error .negativeQuota
  else if quota = 0 then .ok a
  else match fault with
    | some text => .error (.database text)
    | none => if a.stored < quota then .error short else .ok { a with stored := a.stored - quota }

def preConsumeUserQuota : Fault → Int → Account → Except StoreError Account :=
  preConsume .insufficientUserQuota

/-- `PreConsumeTokenQuota` of the `model` package. -/
def preConsumeTokenQuota : Fault → Int → Account → Except StoreError Account :=
  preConsume .insufficientTokenQuota

variable {a a' : Account} {fault : Fault} {batch : Bool}

theorem balance_adjust {quota delta : Int}
    (h : a.adjust batch fault quota delta = .ok a') : a'.balance = a.balance + delta := by
  unfold adjust at h
  split at h
  · cases h
  split at h
  · cases h
    simp only [balance]
    omega
  split at h
  · cases h
  cases h
  simp only [balance]
  omega

variable {quota : Int}

theorem balance_increase
    (h : a.increase batch fault quota = .ok a') : a'.balance = a.balance + quota :=
  balance_adjust h

theorem balance_decrease
    (h : a.decrease batch fault quota = .ok a') : a'.balance = a.balance - quota := by
  rw [balance_adjust h]
  omega

theorem balance_preConsume {short : StoreError}
    (h : a.preConsume short fault quota = .ok a') : a'.balance = a.balance - quota := by
  unfold preConsume at h
  split at h
  · cases h
  split at h
  · cases h
    omega
  split at h
  · cases h
  split at h
  · cases h
  cases h
  simp only [balance]
  omega

/-- Without a database error, a plain adjustment of a non-negative amount runs. -/
theorem adjust_ok (batch : Bool) (delta : Int) (a : Account) (h : 0 ≤ quota) :
    ∃ a', a.adjust batch none quota delta = .ok a' := by
  rw [adjust, if_neg (by omega)]
  split
  · exact ⟨_, rfl⟩
  · exact ⟨_, rfl⟩

end Account
end NewApi
