import NewApi.Abilities
import NewApi.Entries

/-! # The keys of a channel

The keys of a channel are one text column.  `GetKeys` reads it: a text that is a JSON array has
its elements for keys, as they are written, and any other text its lines, without the empty
lines at its ends.  Whether a key is enabled is kept apart from the text, in maps by the
position of the key (`ChannelInfo`).

This module has the text, the row with it, and what administrators do to the keys: adding a
channel with several keys (`AddChannel`), appending to its keys or replacing them
(`UpdateChannel`), and managing single keys (`ManageMultiKeys`).  They all write the keys back
as lines, through `Update`, which writes the fields of its record that are not zero: an empty
text leaves the column as it is.

What the JSON decoder makes of a text is a parameter. -/
namespace NewApi

open Entries

/-! ## The text -/

/-- `strings.Split(s, "\n")`. -/
def splitLines (s : String) : List String := (s.toList.splitOn '\n').map String.ofList

/-- `strings.Join(lines, "\n")`. -/
def joinLines (lines : List String) : String :=
  String.ofList (['\n'].intercalate (lines.map String.toList))

/-- `strings.Trim(s, "\n")`. -/
def trimNewlines (s : String) : String :=
  String.ofList ((s.toList.dropWhile (· = '\n')).rdropWhile (· = '\n'))

/-- `strings.HasPrefix(strings.TrimSpace(s), "[")`. -/
def startsArray (s : String) : Bool := (trimSpace s).toList.head? = some '['

/-- `strings.HasPrefix(strings.TrimSpace(s), …)` for an opening brace. -/
def startsObject (s : String) : Bool := (trimSpace s).toList.head? = some '\x7b'

/-- An element of a decoded array: a string, or another value by its encoding. -/
inductive JsonElem where
  | text (s : String)
  | value (encoded : String)
  deriving DecidableEq, Repr

/-- `common.Unmarshal`, for the two types that keys are decoded to. -/
structure KeyCodec where
  /-- Into `[]json.RawMessage`. -/
  rawArray : String → Option (List String)
  /-- Into `[]interface{}`; an error has a text. -/
  elems : String → Except String (List JsonElem)

namespace KeyCodec
variable (codec : KeyCodec)

/-- The lines of a key text. -/
def keyLines (key : String) : List String := splitLines (trimNewlines key)

/-- `GetKeys`, of a row. -/
def getKeys (key : String) : List String :=
  if key = "" then []
  else if startsArray key then (codec.rawArray (trimSpace key)).getD (keyLines key)
  else keyLines key

/-- The list whose length `Update` stores, where an empty array falls back to lines. -/
def sizedKeys (key : String) : List String :=
  if key = "" then []
  else if startsArray key then
    match codec.rawArray (trimSpace key) with
    | some (k :: ks) => k :: ks
    | _ => keyLines key
  else keyLines key

def getVertexArrayKeys (keys : String) : Except String (List String) :=
  if keys = "" then .ok []
  else match codec.elems keys with
  | .error e =>
      .error ("批量添加 Vertex AI 必须使用标准的JsonArray格式，例如[\x7bkey1\x7d, \x7bkey2\x7d...]，" ++
        "请检查输入: " ++ e)
  | .ok elems =>
      let cleanKeys := (elems.map fun
        | .text s => trimSpace s
        | .value encoded => encoded).filter (· ≠ "")
      if cleanKeys = [] then .error "批量添加 Vertex AI 的 keys 不能为空" else .ok cleanKeys

end KeyCodec

/-! ## The row -/

/-- `keyStatus`: a key without a status is enabled. -/
def ChannelInfo.keyStatus (info : ChannelInfo) (i : Nat) : ChannelStatus :=
  (info.multiKeyStatusList.lookup i).getD .enabled

/-- A row of `channels` with its key text, whose keys are those that `GetKeys` reads. -/
structure KeyedChannel (codec : KeyCodec) extends Channel where
  key : String
  keys_eq : keys = codec.getKeys key

namespace KeyedChannel
variable {codec : KeyCodec}

/-- The row with these columns and this key text. -/
def mk' (ch : Channel) (key : String) : KeyedChannel codec where
  toChannel := { ch with keys := codec.getKeys key }
  key := key
  keys_eq := rfl

/-- `Update` with the record `patch` whose key is `key`. -/
def update (row : KeyedChannel codec) (patch : Channel) (key : String) : KeyedChannel codec :=
  let stored := if key = "" then row.key else key
  let info := patch.channelInfo.recount (codec.sizedKeys stored).length
  mk' (({ patch with channelInfo := info }).updates row.toChannel) stored

/-- `UpdateChannelStatus`, whose `SaveWithoutKey` leaves the key text. -/
def updateStatus (row : KeyedChannel codec) (usingKey : String) (status : ChannelStatus)
    (reason : String) (now : Int) : Option (KeyedChannel codec) :=
  (row.toChannel.updateStatus usingKey status reason now).map fun ch => mk' ch row.key

/-! ## `ManageMultiKeys` -/

/-- The actions that change keys or their status. -/
inductive KeyAction where
  | disableKey (keyIndex : Option Int)
  | enableKey (keyIndex : Option Int)
  | enableAllKeys
  | disableAllKeys
  | deleteKey (keyIndex : Option Int)
  | deleteDisabledKeys
  deriving DecidableEq, Repr

/-- `multiKeyActionRequiresSensitiveWrite`. -/
def KeyAction.requiresSensitiveWrite : KeyAction → Bool
  | .deleteKey _ | .deleteDisabledKeys => true
  | _ => false

/-- The check of a key index; `missing` is what is said without one. -/
def checkKeyIndex (info : ChannelInfo) (keyIndex : Option Int) (missing : String) :
    Except String Nat :=
  match keyIndex with
  | none => .error missing
  | some i =>
      if i < 0 ∨ (info.multiKeySize : Int) ≤ i then .error "密钥索引超出范围" else .ok i.toNat

/-- The keys and the state of the keys after some of them are deleted.  A position that is not
enabled takes its status along; `noted` says which positions take reason and time along. -/
def withoutKeys (row : KeyedChannel codec) (stays noted : Nat → Bool) :
    List String × ChannelInfo :=
  let kept := keep stays row.keys.length
  let info := row.channelInfo
  let moved (p : Nat → Bool) : List (Option Nat) := kept.map fun i => if p i then some i else none
  let remainingKeys := pick stays row.keys
  (remainingKeys,
    { info with
      multiKeySize := remainingKeys.length
      multiKeyStatusList :=
        reindex (moved fun i => info.keyStatus i ≠ .enabled) info.multiKeyStatusList
      multiKeyDisabledTime := reindex (moved noted) info.multiKeyDisabledTime
      multiKeyDisabledReason := reindex (moved noted) info.multiKeyDisabledReason })

/-- `channel.Update()` after a change of the keys' state only. -/
def updateInfo (row : KeyedChannel codec) (info : ChannelInfo) : KeyedChannel codec :=
  row.update { row.toChannel with channelInfo := info } row.key

/-- `channel.Update()` after some keys were deleted. -/
def updateKeys (row : KeyedChannel codec) (remaining : List String × ChannelInfo) :
    KeyedChannel codec :=
  row.update { row.toChannel with channelInfo := remaining.2 } (joinLines remaining.1)

/-- One action, on a channel with several keys: the row that it stores, and what it says. -/
def act (row : KeyedChannel codec) : KeyAction → Except String (KeyedChannel codec × String)
  | .disableKey keyIndex =>
      match checkKeyIndex row.channelInfo keyIndex "未指定要禁用的密钥索引" with
      | .error e => .error e
      | .ok i =>
          let info := row.channelInfo
          .ok (row.updateInfo { info with
            multiKeyStatusList := putEntry i .manuallyDisabled info.multiKeyStatusList },
            "密钥已禁用")
  | .enableKey keyIndex =>
      match checkKeyIndex row.channelInfo keyIndex "未指定要启用的密钥索引" with
      | .error e => .error e
      | .ok i =>
          let info := row.channelInfo
          .ok (row.updateInfo { info with
            multiKeyStatusList := deleteEntry i info.multiKeyStatusList
            multiKeyDisabledTime := deleteEntry i info.multiKeyDisabledTime
            multiKeyDisabledReason := deleteEntry i info.multiKeyDisabledReason },
            "密钥已启用")
  | .enableAllKeys =>
      let info := row.channelInfo
      .ok (row.updateInfo { info with
        multiKeyStatusList := []
        multiKeyDisabledTime := []
        multiKeyDisabledReason := [] },
        "已启用 " ++ toString info.multiKeyStatusList.length ++ " 个密钥")
  | .disableAllKeys =>
      let info := row.channelInfo
      let targets := (List.range info.multiKeySize).filter fun i => info.keyStatus i = .enabled
      if targets = [] then .error "没有可禁用的密钥"
      else
        .ok (row.updateInfo { info with
          multiKeyStatusList :=
            targets.foldl (fun m i => putEntry i .manuallyDisabled m) info.multiKeyStatusList },
          "已禁用 " ++ toString targets.length ++ " 个密钥")
  | .deleteKey keyIndex =>
      match checkKeyIndex row.channelInfo keyIndex "未指定要删除的密钥索引" with
      | .error e => .error e
      | .ok i =>
          let remaining := row.withoutKeys (fun j => decide (j ≠ i)) (fun _ => true)
          if remaining.1 = [] then .error "不能删除最后一个密钥"
          else .ok (row.updateKeys remaining, "密钥已删除")
  | .deleteDisabledKeys =>
      let info := row.channelInfo
      let stays (i : Nat) : Bool := info.keyStatus i ≠ .autoDisabled
      let remaining := row.withoutKeys stays fun i => info.keyStatus i ≠ .enabled
      let deletedCount := ((List.range row.keys.length).filter fun i => !stays i).length
      if deletedCount = 0 then .error "没有需要删除的自动禁用密钥"
      else
        .ok (row.updateKeys remaining, "已删除 " ++ toString deletedCount ++ " 个自动禁用的密钥")

/-- `ManageMultiKeys`; `sensitiveWrite` is the permission for sensitive changes. -/
def manageMultiKeys (row : KeyedChannel codec) (sensitiveWrite : Bool) (action : KeyAction) :
    Except String (KeyedChannel codec × String) :=
  if row.channelInfo.isMultiKey = false then .error "该渠道不是多密钥模式"
  else if action.requiresSensitiveWrite = true ∧ sensitiveWrite = false then
    .error "auth.insufficient_privilege"
  else row.act action

/-! ## `UpdateChannel` -/

inductive KeyMode where
  | append
  | replace
  | other (name : String)
  deriving DecidableEq, Repr

def channelTypeVertexAi : Int := 41

def channelTypeCodex : Int := 57

/-- `PatchChannel`, as `UpdateChannel` decodes it. -/
structure PatchChannel where
  channel : Channel
  key : String
  keyMode : Option KeyMode := none
  multiKeyMode : Option MultiKeyMode := none
  /-- `VertexKeyType` of its settings is `api_key`. -/
  vertexApiKey : Bool := false

/-- The keys are JSON keys of Vertex. -/
def PatchChannel.vertexJson (patch : PatchChannel) : Bool :=
  patch.channel.type = channelTypeVertexAi && !patch.vertexApiKey

/-- The keys that an append finds in the column. -/
def existingKeys (codec : KeyCodec) (key : String) : List String :=
  if startsArray key then (codec.rawArray (trimSpace key)).getD []
  else KeyCodec.keyLines key

/-- The keys that an append brings. -/
def submittedKeys (codec : KeyCodec) (patch : PatchChannel) : Except String (List String) :=
  if patch.vertexJson then
    if startsArray patch.key then
      match codec.getVertexArrayKeys patch.key with
      | .error e => .error ("追加密钥解析失败: " ++ e)
      | .ok array => .ok array
    else .ok [patch.key]
  else .ok (((splitLines patch.key).map trimSpace).filter (· ≠ ""))

/-- The loop that leaves out the keys that are blank or have been seen. -/
def dedupedKeys (seen : List String) : List String → List String
  | [] => []
  | key :: rest =>
      let normalized := trimSpace key
      if normalized = "" ∨ normalized ∈ seen then dedupedKeys seen rest
      else normalized :: dedupedKeys (normalized :: seen) rest

/-- What is in `seen` at first. -/
def seenKeys (existing : List String) : List String :=
  (existing.map trimSpace).filter (· ≠ "")

/-- `key_mode: "append"` for a channel with several keys: the new key text. -/
def appendKeys (origin : KeyedChannel codec) (patch : PatchChannel) : Except String String :=
  if origin.key = "" then .ok patch.key
  else
    let existing := existingKeys codec origin.key
    match submittedKeys codec patch with
    | .error e => .error e
    | .ok newKeys => .ok (joinLines (existing ++ dedupedKeys (seenKeys existing) newKeys))

/-- The keys of a replacement with JSON keys; without any the text stays as it is. -/
def replacementKeys (codec : KeyCodec) (key : String) : Except String (List String) :=
  if startsArray key then
    match codec.getVertexArrayKeys (trimSpace key) with
    | .error e => .error ("覆盖密钥解析失败: " ++ e)
    | .ok array => .ok array
  else if startsObject key then
    match codec.getVertexArrayKeys ("[" ++ trimSpace key ++ "]") with
    | .error _ => .ok []
    | .ok array => .ok array
  else .ok []

/-- `originals`: how the channel's keys are written, by what they decode to. -/
def originals (origin : KeyedChannel codec) : List (String × String) :=
  origin.keys.foldl (fun m key =>
    let original := trimSpace key
    match codec.getVertexArrayKeys ("[" ++ original ++ "]") with
    | .ok [canonical] =>
        if '\n' ∈ original.toList then m else (canonical, original) :: m
    | _ => m) []

/-- `key_mode: "replace"`: the new key text. -/
def replaceKeys (origin : KeyedChannel codec) (patch : PatchChannel) : Except String String :=
  if patch.vertexJson = true ∧ patch.key ≠ "" then
    match replacementKeys codec patch.key with
    | .error e => .error e
    | .ok newKeys =>
        if newKeys = [] then .ok patch.key
        else .ok (joinLines (newKeys.map fun key => (origin.originals.lookup key).getD key))
  else .ok patch.key

/-- The loop over the keys of a channel with one key that gets more. -/
def distinctKeys (seen : List String) : List String → List String
  | [] => []
  | key :: rest =>
      let key := trimSpace key
      if key = "" ∨ key ∈ seen then distinctKeys seen rest
      else key :: distinctKeys (key :: seen) rest

/-- The channel's `ChannelInfo` with the mode that the request asks for. -/
def patchedInfo (info : ChannelInfo) : Option MultiKeyMode → ChannelInfo
  | none | some (.other "") => info
  | some mode => { info with multiKeyMode := mode }

/-- The `ChannelInfo` of a channel that gets a second key: its key keeps its identity. -/
def convertedInfo (info : ChannelInfo) (fingerprint : String) : ChannelInfo :=
  { info with
    isMultiKey := true
    multiKeyOriginFingerprint := fingerprint
    multiKeyMode := if info.multiKeyMode = .other "" then .random else info.multiKeyMode }

/-- The key text and the `ChannelInfo` after `key_mode` is handled; `fingerprint` is
`KeyFingerprint`. -/
def editKeys (fingerprint : String → String) (origin : KeyedChannel codec)
    (patch : PatchChannel) : Except String (String × ChannelInfo) :=
  let info := patchedInfo origin.channelInfo patch.multiKeyMode
  match patch.keyMode, info.isMultiKey with
  | some .append, true => (origin.appendKeys patch).map fun key => (key, info)
  | some .replace, true => (origin.replaceKeys patch).map fun key => (key, info)
  | some .append, false =>
      if patch.key = "" then .ok (patch.key, info)
      else
        let channelType := if patch.channel.type = 0 then origin.type else patch.channel.type
        if channelType = channelTypeCodex ∨ channelType = channelTypeVertexAi then
          .error "该渠道类型不支持追加密钥转为多密钥"
        else
          let originKey := trimSpace origin.key
          let keys := distinctKeys [] (originKey :: splitLines patch.key)
          if keys.length < 2 then .ok ("", info)
          else .ok (joinLines keys, convertedInfo info (fingerprint originKey))
  | _, _ => .ok (patch.key, info)

/-- `oldIndexes`: the positions of each key, without the blanks around it. -/
def oldIndexes (keys : List String) (key : String) : List Nat :=
  (List.range keys.length).filter fun i => keys[i]?.map trimSpace = some key

/-- The loop that gives each new key the old position of the same key, one by one. -/
def takeIndexes (indexes : String → List Nat) : List String → List (Option Nat)
  | [] => []
  | key :: rest =>
      match indexes (trimSpace key) with
      | [] => none :: takeIndexes indexes rest
      | old :: more =>
          some old :: takeIndexes (Function.update indexes (trimSpace key) more) rest

/-- The state of the keys of a list that replaces the channel's: what is noted of a key by its
position follows the key. -/
def carryState (origin : KeyedChannel codec) (info : ChannelInfo) (keys : List String) :
    ChannelInfo :=
  let olds := takeIndexes (oldIndexes origin.keys) keys
  let old := origin.channelInfo
  { info with
    multiKeyStatusList := reindex olds old.multiKeyStatusList
    multiKeyDisabledTime := reindex olds old.multiKeyDisabledTime
    multiKeyDisabledReason := reindex olds old.multiKeyDisabledReason }

/-- `UpdateChannel`.  The checks on the other columns and on permissions come before the keys,
`refused` being what they say; `envConflict` is the check of the keys' own environments. -/
def updateChannel (fingerprint : String → String) (envConflict : List String → Option String)
    (refused : Option String) (origin : KeyedChannel codec) (patch : PatchChannel) :
    Except String (KeyedChannel codec) :=
  match refused with
  | some e => .error e
  | none =>
      match origin.editKeys fingerprint patch with
      | .error e => .error e
      | .ok (key, info) =>
          let keys := if key = "" then origin.keys else codec.getKeys key
          let info :=
            if origin.channelInfo.isMultiKey = true ∧ key ≠ "" ∧ patch.keyMode ≠ some .append then
              origin.carryState info keys
            else info
          match envConflict keys with
          | some e => .error ("有密钥的独立环境与新的渠道设置冲突，请先在多密钥管理中修改：" ++ e)
          | none =>
              -- a request with a status is refused before
              .ok (origin.update { patch.channel with
                status := .unknown
                channelInfo := info } key)

/-! ## `AddChannel` -/

/-- The key text of a channel that is added with several keys (`multi_to_single`), and their
number. -/
def multiToSingle (codec : KeyCodec) (patch : PatchChannel) : Except String (String × Nat) :=
  if patch.vertexJson then
    match codec.getVertexArrayKeys patch.key with
    | .error e => .error e
    | .ok array => .ok (joinLines array, array.length)
  else
    let cleanKeys := ((splitLines patch.key).filter (· ≠ "")).map trimSpace
    .ok (joinLines cleanKeys, cleanKeys.length)

/-- `AddChannel` in the mode `multi_to_single`; without a key no channel is added. -/
def addMultiKey (mode : MultiKeyMode) (patch : PatchChannel) :
    Except String (Option (KeyedChannel codec)) :=
  if patch.key = "" then .error "channel cannot be empty"
  else match multiToSingle codec patch with
  | .error e => .error e
  | .ok (key, size) =>
      if key = "" then .ok none
      else
        .ok (some (mk' ({ patch.channel with
          channelInfo := { patch.channel.channelInfo with
            isMultiKey := true
            multiKeyMode := mode
            multiKeySize := size
            multiKeyOriginFingerprint := "" } }).withDefaults key))

end KeyedChannel

end NewApi
