import UpdateService.FirmwareStore
import UpdateService.InnerApi
import UpdateService.StringUtils

/-!
# The text of an event (`json_builder.h`, `BaseCallbackUtils`)

The numbers are written as `std::to_string` does. `atoi` has no defined result beyond an `int`; here it wraps.
-/

namespace UpdateService

structure JsonBuilder where
  builder : List Char := []
  isFirstItem : Bool := true
deriving DecidableEq

namespace JsonBuilder

def append (b : JsonBuilder) (qualifier : List Char) : JsonBuilder := { b with builder := b.builder ++ qualifier }

def appendComma (b : JsonBuilder) : JsonBuilder :=
  if b.isFirstItem then { b with isFirstItem := false } else b.append ",".toList

/-- The key and the text of its value, as all the overloads with a key write them. -/
def appendItem (b : JsonBuilder) (key : String) (text : List Char) : JsonBuilder :=
  b.appendComma.append ('"' :: (key.toList ++ '"' :: ':' :: text))

def appendNum (b : JsonBuilder) (key : String) (value : Int) : JsonBuilder := b.appendItem key (toString value).toList

def appendString (b : JsonBuilder) (key value : String) :
    JsonBuilder := b.appendItem key ('"' :: (value.toList ++ ['"']))

/-- `Append` with `isJsonString`. -/
def appendJsonString (b : JsonBuilder) (key value : String) : JsonBuilder := b.appendItem key value.toList

def toJson (b : JsonBuilder) : List Char := b.builder

def appendBuilder (b : JsonBuilder) (key : String) (jsonBuilder : JsonBuilder) : JsonBuilder :=
  b.appendItem key jsonBuilder.toJson

/-- The loop over the elements, with a comma behind all but the last. -/
def appendValues (jsonArray : JsonBuilder) : List JsonBuilder → JsonBuilder
  | [] => jsonArray
  | [value] => jsonArray.append value.toJson
  | value :: valueList => appendValues ((jsonArray.append value.toJson).append ",".toList) valueList

def appendList (b : JsonBuilder) (key : String) (valueList : List JsonBuilder) : JsonBuilder :=
  if valueList = [] then b
  else b.appendBuilder key ((appendValues (append {} "[".toList) valueList).append "]".toList)

end JsonBuilder

namespace InnerApi

def VersionDigestInfo.getJsonBuilder (v : VersionDigestInfo) : JsonBuilder :=
  JsonBuilder.append {} ['{']
    |>.appendString "versionDigest" v.versionDigest
    |>.append ['}']

def ErrorMessage.getJsonBuilder (e : ErrorMessage) : JsonBuilder :=
  JsonBuilder.append {} ['{']
    |>.appendNum "errorCode" e.errorCode.toInt
    |>.appendString "errorMessage" e.errorMessage
    |>.append ['}']

def DescriptionInfo.getJsonBuilder (d : DescriptionInfo) : JsonBuilder :=
  JsonBuilder.append {} ['{']
    |>.appendNum "descriptionType" d.descriptionType.toInt
    |>.appendString "content" d.content
    |>.append ['}']

def VersionComponent.getJsonBuilder (c : VersionComponent) : JsonBuilder :=
  JsonBuilder.append {} ['{']
    |>.appendString "componentId" c.componentId
    |>.appendNum "componentType" c.componentType.toInt
    |>.appendString "upgradeAction" c.upgradeAction
    |>.appendString "displayVersion" c.displayVersion
    |>.appendString "innerVersion" c.innerVersion
    |>.appendNum "size" c.size.toInt64.toInt
    |>.appendNum "effectiveMode" c.effectiveMode.toUInt32.toInt32.toInt
    |>.appendNum "otaMode" c.otaMode.toUInt32.toInt32.toInt
    |>.appendBuilder "descriptionInfo" c.descriptionInfo.getJsonBuilder
    |>.appendJsonString "componentExtra" c.componentExtra
    |>.append ['}']

inductive EventId
  | eventTaskBase | eventTaskReceive | eventTaskCancel
  | eventDownloadWait | eventDownloadStart | eventDownloadUpdate | eventDownloadPause | eventDownloadResume
  | eventDownloadSuccess | eventDownloadFail
  | eventUpgradeWait | eventUpgradeStart | eventUpgradeUpdate
  | eventApplyWait | eventApplyStart
  | eventUpgradeSuccess | eventUpgradeFail | eventUpgradePause
  | eventAuthStart | eventAuthSuccess
  | eventDownloadCancel | eventTaskChange | eventVersionInfoChange
  | eventTransferWait | eventTransferStart | eventTransfering | eventTransferSuccess | eventTransferFail
  | systemBase | systemBootComplete
  | commandBase | eventInitialize
deriving DecidableEq, Repr

namespace EventId

/-- The number of an enumerator; the first of a class has the number of the class. -/
def number : EventId → Int32
  | eventTaskBase => 0x01000000
  | eventTaskReceive => 0x01000001
  | eventTaskCancel => 0x01000002
  | eventDownloadWait => 0x01000003
  | eventDownloadStart => 0x01000004
  | eventDownloadUpdate => 0x01000005
  | eventDownloadPause => 0x01000006
  | eventDownloadResume => 0x01000007
  | eventDownloadSuccess => 0x01000008
  | eventDownloadFail => 0x01000009
  | eventUpgradeWait => 0x0100000a
  | eventUpgradeStart => 0x0100000b
  | eventUpgradeUpdate => 0x0100000c
  | eventApplyWait => 0x0100000d
  | eventApplyStart => 0x0100000e
  | eventUpgradeSuccess => 0x0100000f
  | eventUpgradeFail => 0x01000010
  | eventUpgradePause => 0x01000011
  | eventAuthStart => 0x01000012
  | eventAuthSuccess => 0x01000013
  | eventDownloadCancel => 0x01000014
  | eventTaskChange => 0x01000015
  | eventVersionInfoChange => 0x01000016
  | eventTransferWait => 0x01000017
  | eventTransferStart => 0x01000018
  | eventTransfering => 0x01000019
  | eventTransferSuccess => 0x0100001a
  | eventTransferFail => 0x0100001b
  | systemBase => 0x02000000
  | systemBootComplete => 0x02000001
  | commandBase => 0x04000000
  | eventInitialize => 0x04000001

end EventId

namespace TaskBodyMemberMask

def versionDigestInfo : UInt32 := 0x00000001
def upgradeStatus : UInt32 := 0x00000010
def subStatus : UInt32 := 0x00000100
def progress : UInt32 := 0x00001000
def installMode : UInt32 := 0x00010000
def errorMessage : UInt32 := 0x00100000
def versionComponent : UInt32 := 0x01000000

end TaskBodyMemberMask

open TaskBodyMemberMask in
def taskBodyTemplateMap : List (EventId × UInt32) :=
  [(.eventTaskReceive, versionDigestInfo),
    (.eventTaskChange, versionDigestInfo ||| upgradeStatus ||| progress),
    (.eventTaskCancel, versionDigestInfo),
    (.eventVersionInfoChange, versionDigestInfo ||| upgradeStatus),
    (.eventDownloadWait, versionDigestInfo ||| upgradeStatus ||| installMode),
    (.eventDownloadStart, versionDigestInfo ||| installMode),
    (.eventDownloadUpdate, versionDigestInfo ||| upgradeStatus ||| progress ||| installMode ||| subStatus),
    (.eventDownloadPause, versionDigestInfo ||| upgradeStatus ||| progress ||| installMode ||| errorMessage),
    (.eventDownloadResume, versionDigestInfo ||| upgradeStatus ||| progress ||| installMode),
    (.eventDownloadSuccess, versionDigestInfo ||| installMode ||| subStatus),
    (.eventDownloadCancel, versionDigestInfo ||| upgradeStatus),
    (.eventDownloadFail, versionDigestInfo ||| installMode ||| errorMessage ||| subStatus),
    (.eventTransferWait, versionDigestInfo ||| upgradeStatus ||| installMode ||| subStatus),
    (.eventTransferStart, versionDigestInfo ||| installMode),
    (.eventTransfering, versionDigestInfo ||| upgradeStatus ||| progress ||| installMode ||| subStatus),
    (.eventTransferSuccess, versionDigestInfo ||| installMode),
    (.eventTransferFail, versionDigestInfo ||| errorMessage ||| installMode),
    (.eventUpgradeWait, versionDigestInfo ||| upgradeStatus ||| installMode ||| errorMessage ||| subStatus),
    (.eventUpgradeStart, versionDigestInfo ||| upgradeStatus ||| installMode),
    (.eventUpgradeUpdate, versionDigestInfo ||| upgradeStatus ||| progress ||| installMode),
    (.eventApplyWait, versionDigestInfo ||| upgradeStatus ||| errorMessage),
    (.eventApplyStart, versionDigestInfo),
    (.eventUpgradeSuccess, versionDigestInfo ||| versionComponent ||| subStatus),
    (.eventUpgradeFail, versionDigestInfo ||| versionComponent ||| errorMessage),
    (.eventUpgradePause, versionDigestInfo ||| upgradeStatus ||| progress ||| errorMessage),
    (.eventAuthStart, versionDigestInfo ||| versionComponent ||| upgradeStatus),
    (.eventAuthSuccess, versionDigestInfo ||| versionComponent ||| upgradeStatus),
    (.eventInitialize, upgradeStatus)]

/-- `g_taskBodyTemplateMap.find`. -/
def findTaskBodyTemplate (eventId : Int32) : Option UInt32 :=
  (taskBodyTemplateMap.find? fun e => e.1.number = eventId).map Prod.snd

def TaskBody.getJsonBuilder (t : TaskBody) (eventId : Int32) : JsonBuilder :=
  match findTaskBodyTemplate eventId with
  | none => {}
  | some taskBodyTemplate =>
    let b := JsonBuilder.append {} ['{']
    let b := if taskBodyTemplate &&& TaskBodyMemberMask.versionDigestInfo ≠ 0 then
      b.appendBuilder "versionDigestInfo" t.versionDigestInfo.getJsonBuilder else b
    let b := if taskBodyTemplate &&& TaskBodyMemberMask.upgradeStatus ≠ 0 then b.appendNum "status" t.status.toInt else b
    let b := if taskBodyTemplate &&& TaskBodyMemberMask.subStatus ≠ 0 then b.appendNum "subStatus" t.subStatus.toInt else b
    let b := if taskBodyTemplate &&& TaskBodyMemberMask.progress ≠ 0 then b.appendNum "progress" t.progress.toInt else b
    let b := if taskBodyTemplate &&& TaskBodyMemberMask.installMode ≠ 0 then
      b.appendNum "installMode" t.installMode.toInt else b
    let b := if taskBodyTemplate &&& TaskBodyMemberMask.errorMessage ≠ 0 then
      b.appendList "errorMessages" (t.errorMessages.map (·.getJsonBuilder)) else b
    let b := if taskBodyTemplate &&& TaskBodyMemberMask.versionComponent ≠ 0 then
      b.appendList "versionComponents" (t.versionComponents.map (·.getJsonBuilder)) else b
    b.append ['}']

def EventInfo.getJsonBuilder (e : EventInfo) : JsonBuilder :=
  JsonBuilder.append {} ['{']
    |>.appendNum "eventId" e.eventId.toInt
    |>.appendBuilder "taskBody" (e.taskBody.getJsonBuilder e.eventId)
    |>.append ['}']

def EventInfo.toJson (e : EventInfo) : List Char := e.getJsonBuilder.toJson

end InnerApi

def UpgradeStatus.number : UpgradeStatus → Int32
  | error => -1
  | init => 0
  | checkingVersion => 10
  | checkVersionFail => 11
  | checkVersionSuccess => 12
  | downloading => 20
  | downloadPause => 21
  | downloadCancel => 22
  | downloadFail => 23
  | downloadSuccess => 24
  | verifying => 30
  | verifyFail => 31
  | verifySuccess => 32
  | authing => 60
  | authFail => 61
  | authSuccess => 62
  | waitTransfer => 68
  | transferStart => 69
  | packageTransing => 70
  | packageTransFail => 71
  | packageTransSuccess => 72
  | installing => 80
  | installFail => 81
  | installSuccess => 82
  | installPause => 83
  | updating => 90
  | updateFail => 91
  | updateSuccess => 92
  | upgradeReboot => 93
  | upgradeCountDown => 100
  | upgradeCancel => 101

def atoi (s : List Char) : Int32 :=
  let digits (s : List Char) : Nat := (s.takeWhile Char.isDigit).foldl (fun n c => n * 10 + (c.toNat - 48)) 0
  match StringUtils.lTrim s with
  | '-' :: s => .ofInt (-(digits s : Int))
  | '+' :: s => .ofNat (digits s)
  | s => .ofNat (digits s)

/-- `UpdateServiceUtil::BuildTaskBody`. -/
def buildTaskBody (progress : Progress) (taskBody : InnerApi.TaskBody) : InnerApi.TaskBody :=
  let errorCode := atoi progress.endReason.toList
  { taskBody with
    status := progress.status.number
    progress := .ofInt progress.percent
    errorMessages :=
      if errorCode ≠ 0 then taskBody.errorMessages ++ [{ errorCode, errorMessage := progress.endReason }]
      else taskBody.errorMessages }

namespace BaseCallbackUtils

def notifyEvent (versionDigestInfo : String) (eventId : InnerApi.EventId) (status : UpgradeStatus)
    (errorMessage : InnerApi.ErrorMessage) (versionComponents : List InnerApi.VersionComponent) (progress : Int32) :
    InnerApi.EventInfo where
  eventId := eventId.number
  taskBody := {
    versionDigestInfo := { versionDigest := versionDigestInfo }
    status := status.number
    progress
    errorMessages := [errorMessage]
    versionComponents }

def statusMap : List (UpgradeStatus × InnerApi.EventId) :=
  [(.downloading, .eventDownloadUpdate),
    (.downloadPause, .eventDownloadPause),
    (.downloadCancel, .eventDownloadCancel),
    (.downloadFail, .eventDownloadFail),
    (.verifyFail, .eventDownloadFail),
    (.downloadSuccess, .eventDownloadSuccess),
    (.installing, .eventUpgradeUpdate),
    (.installFail, .eventUpgradeFail),
    (.installSuccess, .eventApplyWait),
    (.installPause, .eventUpgradePause),
    (.updating, .eventUpgradeUpdate),
    (.updateFail, .eventUpgradeFail),
    (.updateSuccess, .eventUpgradeSuccess)]

/-- The loop over the map. -/
def findEventId (status : UpgradeStatus) : InnerApi.EventId :=
  ((statusMap.find? fun e => e.1 = status).map Prod.snd).getD .eventTaskBase

def progressCallback (versionDigestInfo : String) (progress : Progress) : InnerApi.EventInfo where
  eventId := (findEventId progress.status).number
  taskBody := buildTaskBody progress { versionDigestInfo := { versionDigest := versionDigestInfo } }

end BaseCallbackUtils

end UpdateService
