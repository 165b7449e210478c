import Mathlib.Data.UInt
import UpdateService.Lib.KeyedList

/-!
# Records of the download component (`download_common.h`, `network_type.h`)

Sizes and times are `int64_t` in the source and `Int` here; enumerators keep the source's names in
lower camel case and `toInt` is their `CAST_INT`.
-/

namespace UpdateService

/-- `CAST_INT`. -/
def castInt32 (x : Int) : Int := x.bmod (2 ^ 32)

/-- `CAST_UINT`. -/
def castUint32 (x : Int) : Int := x % 2 ^ 32

inductive NetType
  | noNet | cellular | meteredWifi | cellularAndMeteredWifi | notMeteredWifi | cellularAndNotMeteredWifi
  | wifi | cellularAndWifi
deriving DecidableEq, Repr

def NetType.mask : NetType → Nat
  | noNet => 0
  | cellular => 1
  | meteredWifi => 2
  | cellularAndMeteredWifi => 3
  | notMeteredWifi => 4
  | cellularAndNotMeteredWifi => 5
  | wifi => 6
  | cellularAndWifi => 7

def NetType.toInt (t : NetType) : Int := t.mask

/-- `NetManager::IsNetAvailable`, where `cur` is the current network. -/
def NetType.isNetAvailable (cur netType : NetType) : Bool := 0 < cur.mask &&& netType.mask

inductive RequestMethod
  | get | post
deriving DecidableEq, Repr

inductive DownloadEndReason
  | init | success | downloading | fail | verifyFail | ioException | redirect | serverTimeout | pause
  | cancel | noEnoughMemory | netNotAvailiable | downloadInfoEmpty | curlError | systemBusy
  | initPackageFail | netChange | sizeError | finishSizeError
deriving DecidableEq, Repr

inductive DownloadStatus
  | init | downloading | pause | cancel | fail | success | verifying | autoPause
deriving DecidableEq, Repr

inductive DownloadDirType
  | unEncryptDir | encryptDir
deriving DecidableEq, Repr

inductive DownloadCallResult
  | success | fail
deriving DecidableEq, Repr

inductive DownloadResult
  | success | fail
deriving DecidableEq, Repr

def DownloadEndReason.toInt : DownloadEndReason → Int
  | init => 0
  | success => 1
  | downloading => 2
  | fail => 3
  | verifyFail => 4
  | ioException => 5
  | redirect => 6
  | serverTimeout => 7
  | pause => 8
  | cancel => 9
  | noEnoughMemory => 10
  | netNotAvailiable => 11
  | downloadInfoEmpty => 12
  | curlError => 13
  | systemBusy => 14
  | initPackageFail => 15
  | netChange => 16
  | sizeError => 17
  | finishSizeError => 18

def DownloadStatus.toInt : DownloadStatus → Int
  | init => 0
  | downloading => 20
  | pause => 21
  | cancel => 22
  | fail => 23
  | success => 24
  | verifying => 25
  | autoPause => 26

def DownloadDirType.toInt : DownloadDirType → Int
  | unEncryptDir => 0
  | encryptDir => 1

def RequestMethod.toInt : RequestMethod → Int
  | post => 0
  | get => 1

structure DownloadError where
  endReason : DownloadEndReason := .init
  errorNum : DownloadCallResult := .success
deriving DecidableEq, Repr

structure DownloadErrorInfo where
  curlErrorCode : Int := 0
  httpErrorCode : Int := 0
  header : List String := []
  errorInfo : String := ""
deriving DecidableEq, Repr

structure DownloadCallbackInfo where
  downloadId : String := ""
  downloadedSize : Int := 0
  startTime : Int := 0
  endTime : Int := 0
  effectiveTime : Int := 0
  status : DownloadStatus := .downloading
  endReason : DownloadEndReason := .init
  resetRetryTimes : Bool := false
  downloadErrorInfo : DownloadErrorInfo := {}
  verifiedSize : Int := 0
deriving DecidableEq, Repr

abbrev StringMap := KeyedList (Prod.fst : String × String → String)

structure DownloadInfo where
  downloadId : String := ""
  versionId : String := ""
  taskId : String := ""
  url : String := ""
  reserveUrl : String := ""
  path : String := ""
  verifyInfo : String := ""
  header : StringMap := ∅
  requestBody : String := ""
  sha256StrategyKey : String := ""
  endReason : DownloadEndReason := .init
  status : DownloadStatus := .init
  dirType : DownloadDirType := .unEncryptDir
  netType : NetType := .notMeteredWifi
  method : RequestMethod := .get
  retryTimes : Int := 0
  packageSize : Int := 0
  downloadedSize : Int := 0
  startTime : Int := 0
  endTime : Int := 0
  effectiveTime : Int := 0
  isNeedAutoResume : Bool := false
  downloadErrorInfo : DownloadErrorInfo := {}
  isConcurrentLimited : Bool := false
  isCombineVerifyProgress : Bool := false
  verifiedSize : Int := 0
  isIgnoredFail : Bool := false
  reportInterval : Int := 0
deriving DecidableEq, Repr

namespace DownloadInfo

def updateDownloadInfo (info : DownloadCallbackInfo) (d : DownloadInfo) : DownloadInfo :=
  { d with
    status := info.status
    endReason := info.endReason
    downloadedSize := info.downloadedSize
    startTime := info.startTime
    endTime := info.endTime
    downloadErrorInfo := info.downloadErrorInfo
    effectiveTime := info.effectiveTime
    verifiedSize := info.verifiedSize
    retryTimes := if info.resetRetryTimes then 0 else d.retryTimes }

def isCompleted (d : DownloadInfo) : Bool := d.status = .success || d.status = .fail

def isNeedVerify (d : DownloadInfo) : Bool :=
  (!d.isCompleted && d.packageSize = d.downloadedSize) || d.status = .verifying

def isManualPaused (d : DownloadInfo) : Bool := d.status = .pause

def isPaused (d : DownloadInfo) : Bool := d.status = .pause || d.status = .autoPause

def getTaskStatus (d : DownloadInfo) : DownloadStatus :=
  if d.status = .fail && d.isIgnoredFail then .success else d.status

def isRetryAble (d : DownloadInfo) (maxRetryTimes : Int := 3) : Bool := d.retryTimes < maxRetryTimes

@[simp] theorem updateDownloadInfo_downloadId (info : DownloadCallbackInfo) (d : DownloadInfo) :
    (d.updateDownloadInfo info).downloadId = d.downloadId := rfl

@[simp] theorem updateDownloadInfo_taskId (info : DownloadCallbackInfo) (d : DownloadInfo) :
    (d.updateDownloadInfo info).taskId = d.taskId := rfl

@[simp] theorem updateDownloadInfo_status (info : DownloadCallbackInfo) (d : DownloadInfo) :
    (d.updateDownloadInfo info).status = info.status := rfl

theorem isCompleted_of_success {d : DownloadInfo} (h : d.status = .success) : d.isCompleted = true := by
  simp [isCompleted, h]

end DownloadInfo

/-- The `std::map` from download ids to `DownloadInfo` records. -/
abbrev DownloadInfoMap := KeyedList DownloadInfo.downloadId

end UpdateService
