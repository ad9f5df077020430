import Mathlib.Data.List.Basic

/-! # Channels and their status

A channel is a way to an upstream: a row with one key or several, the groups and models
it serves, and how it is ranked among others.  This module has the row and the one
function that changes the status of a channel by its id, `UpdateChannelStatus`, up to
the row it saves.

The status of a channel with several keys follows from its keys: disabling one of them
disables the channel when no other is left, and enabling one enables the channel
(`handlerMultiKeyUpdate`).  An empty key stands for the channel itself, unless the channel
has an empty key.

Comma-separated columns (`Group`, `Models`) are lists of their parts, the empty string being
`[""]`, and `Key` is the list that `GetKeys` returns. -/
namespace NewApi

/-- The `ChannelStatus…` constants. -/
inductive ChannelStatus where
  | unknown
  | enabled
  | manuallyDisabled
  | autoDisabled
  /-- A number without a name. -/
  | other (code : Int)
  deriving DecidableEq, Repr

/-- `MultiKeyMode`: how a request gets one of several keys. -/
inductive MultiKeyMode where
  | random
  | polling
  /-- Another text, which may be empty. -/
  | other (name : String)
  deriving DecidableEq, Repr

/-- `ChannelInfo`; the maps are by the index of a key. -/
structure ChannelInfo where
  isMultiKey : Bool := false
  multiKeySize : Nat := 0
  multiKeyStatusList : List (Nat × ChannelStatus) := []
  multiKeyDisabledReason : List (Nat × String) := []
  multiKeyDisabledTime : List (Nat × Int) := []
  multiKeyPollingIndex : Int := 0
  multiKeyMode : MultiKeyMode := .other ""
  multiKeyOriginFingerprint : String := ""
  deriving DecidableEq, Repr

/-- What `Update` stores for a channel with `size` keys: the state of keys beyond is forgotten. -/
def ChannelInfo.recount (info : ChannelInfo) (size : Nat) : ChannelInfo :=
  if info.isMultiKey then
    { info with
      multiKeySize := size
      multiKeyStatusList := info.multiKeyStatusList.filter fun e => e.1 < size }
  else info

/-- What a status change notes in `OtherInfo`. -/
structure StatusInfo where
  statusReason : Option String := none
  statusTime : Option Int := none
  deriving DecidableEq, Repr

structure Channel where
  id : Int
  type : Int := 0
  /-- `GetKeys` -/
  keys : List String := []
  status : ChannelStatus := .unknown
  weight : Option Nat := none
  models : List String := [""]
  group : List String := [""]
  modelMapping : Option String := none
  priority : Option Int := none
  effectivePriority : Option Int := none
  effectiveWeight : Option Nat := none
  maxConcurrency : Option Int := none
  autoBan : Option Int := none
  otherInfo : StatusInfo := {}
  tag : Option String := none
  paramOverride : Option String := none
  headerOverride : Option String := none
  channelInfo : ChannelInfo := {}
  otherSettings : String := ""
  deriving DecidableEq, Repr

/-- `m[k] = v` on a map that is a list of entries. -/
def putEntry {α : Type} (k : Nat) (v : α) (m : List (Nat × α)) : List (Nat × α) :=
  m.filter (fun e => e.1 ≠ k) ++ [(k, v)]

/-- `delete(m, k)`. -/
def deleteEntry {α : Type} (k : Nat) (m : List (Nat × α)) : List (Nat × α) :=
  m.filter fun e => e.1 ≠ k

def hasEnabledMultiKey (keys : List String) (statusList : List (Nat × ChannelStatus)) : Bool :=
  (List.range keys.length).any fun i =>
    match statusList.lookup i with
    | none => true
    | some status => status = .enabled

namespace Channel

def getPriority (ch : Channel) : Int := ch.priority.getD 0

def saturatingUintToInt (value : Nat) : Nat := min value 9223372036854775807

def getWeight (ch : Channel) : Nat :=
  match ch.weight with
  | none => 0
  | some weight => saturatingUintToInt weight

def getMaxConcurrency (ch : Channel) : Int :=
  match ch.maxConcurrency with
  | none => 0
  | some limit => if limit < 0 then 0 else limit

def handlerMultiKeyUpdate (ch : Channel) (usingKey : String) (status : ChannelStatus)
    (reason : String) (now : Int) : Channel :=
  if ch.keys = [] then { ch with status := status }
  else match ch.keys.idxOf? usingKey with
  | none =>
      if usingKey ≠ "" then ch
      else { ch with status := status, otherInfo := ⟨some reason, some now⟩ }
  | some keyIndex =>
      let info := ch.channelInfo
      let info :=
        if status = .enabled then
          { info with multiKeyStatusList := deleteEntry keyIndex info.multiKeyStatusList }
        else
          { info with
            multiKeyStatusList := putEntry keyIndex status info.multiKeyStatusList
            multiKeyDisabledReason := putEntry keyIndex reason info.multiKeyDisabledReason
            multiKeyDisabledTime := putEntry keyIndex now info.multiKeyDisabledTime }
      if hasEnabledMultiKey ch.keys info.multiKeyStatusList = false then
        { ch with
          channelInfo := info
          status := .autoDisabled
          otherInfo := ⟨some "All keys are disabled", some now⟩ }
      else if status = .enabled then { ch with channelInfo := info, status := .enabled }
      else { ch with channelInfo := info }

/-- An enabled channel that is to be enabled: its key has been disabled. -/
def restoresKey (ch : Channel) (usingKey : String) : Bool :=
  match ch.keys.idxOf? usingKey with
  | none => false
  | some index =>
      match ch.channelInfo.multiKeyStatusList.lookup index with
      | none => false
      | some status => status ≠ .enabled

/-- `UpdateChannelStatus`, from the row that it reads to the row that it saves.  It saves
nothing when there is nothing to change. -/
def updateStatus (ch : Channel) (usingKey : String) (status : ChannelStatus) (reason : String)
    (now : Int) : Option Channel :=
  if ch.status = status ∧
      ¬ (ch.channelInfo.isMultiKey = true ∧ status = .enabled ∧ ch.restoresKey usingKey = true) then
    none
  else
    let saved :=
      if ch.channelInfo.isMultiKey then ch.handlerMultiKeyUpdate usingKey status reason now
      else { ch with otherInfo := ⟨some reason, some now⟩, status := status }
    if ch.status ≠ saved.status then
      some { saved with effectivePriority := none, effectiveWeight := none }
    else some saved

/-! ## What a status change can do -/

section Update
variable {ch ch' : Channel} {usingKey : String} {status : ChannelStatus} {reason : String}
  {now : Int}

/-- What is read of a channel besides its status. -/
structure Route where
  id : Int
  type : Int
  keys : List String
  models : List String
  group : List String
  weight : Option Nat
  priority : Option Int
  maxConcurrency : Option Int
  tag : Option String
  otherSettings : String
  isMultiKey : Bool

/-- What is read of `ch` besides its status. -/
def route (ch : Channel) : Route where
  id := ch.id
  type := ch.type
  keys := ch.keys
  models := ch.models
  group := ch.group
  weight := ch.weight
  priority := ch.priority
  maxConcurrency := ch.maxConcurrency
  tag := ch.tag
  otherSettings := ch.otherSettings
  isMultiKey := ch.channelInfo.isMultiKey

theorem route_handlerMultiKeyUpdate :
    (ch.handlerMultiKeyUpdate usingKey status reason now).route = ch.route := by
  unfold handlerMultiKeyUpdate
  by_cases hks : ch.keys = []
  · rw [if_pos hks]
    rfl
  rw [if_neg hks]
  cases ch.keys.idxOf? usingKey with
  | none =>
    dsimp only
    split <;> rfl
  | some keyIndex =>
    by_cases hsts : status = .enabled
    · simp only [if_pos hsts]
      split <;> rfl
    · simp only [if_neg hsts]
      split <;> rfl

/-- **A status change touches nothing else that is read.** -/
theorem route_updateStatus (h : ch.updateStatus usingKey status reason now = some ch') :
    ch'.route = ch.route := by
  have hhdl : (ch.handlerMultiKeyUpdate usingKey status reason now).route = ch.route :=
    route_handlerMultiKeyUpdate
  unfold updateStatus at h
  split at h
  · cases h
  by_cases hmul : ch.channelInfo.isMultiKey = true
  · simp only [if_pos hmul] at h
    split at h
    all_goals
      cases h
      exact hhdl
  · simp only [if_neg hmul] at h
    split at h
    · cases h
      rfl
    · cases h
      rfl

end Update
end Channel

end NewApi
