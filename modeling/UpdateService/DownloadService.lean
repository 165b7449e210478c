import UpdateService.DownloadInfoTable
import UpdateService.DownloadThread
import Mathlib.Logic.Function.Basic

/-!
# `DownloadService`

The functions of the service on its members (`DownloadService`) and on what it shares with the rest
of the process (`Outside`): the download table, the package files, the clock, the current network
and the trace of statements and callbacks. The thread objects the service has made are kept in the
order it made them; `threadMap` holds their positions.

Each section that holds `downloadServiceMutex_` is a function of its own. A report runs its sections
one after the other in `updateDownloadProgress`; `ServiceSystem` lets other steps come between them.
-/

namespace UpdateService

abbrev ThreadMap := KeyedList (Prod.fst : String × Nat → String)

structure DownloadService where
  taskId : String
  infoMap : DownloadInfoMap := ∅
  threadMap : ThreadMap := ∅
  threads : List DownloadThread := []
  isStopCallback : Bool := false
  onDownloadCallback : Bool := false

/-- A statement on the table, or a report passed on to the task with the records it then reads. -/
inductive ServiceEvent
  | db (op : DbOp)
  | progress (info : DownloadCallbackInfo) (infos : DownloadInfoMap)

structure Outside where
  table : List DownloadRow := []
  fileSize : String → Int := fun _ => 0
  now : Int := 0
  netType : NetType := .noNet
  trace : List ServiceEvent := []

structure ServiceState extends DownloadService, Outside

namespace DownloadInfo

def withNetType (netType : NetType) (d : DownloadInfo) : DownloadInfo := { d with netType }

@[simp] theorem withNetType_downloadId (netType : NetType) (d : DownloadInfo) :
    (d.withNetType netType).downloadId = d.downloadId := rfl

def resumed (d : DownloadInfo) : DownloadInfo :=
  { d with
    status := if d.isPaused then .downloading else d.status
    retryTimes := 0 }

@[simp] theorem resumed_downloadId (d : DownloadInfo) : d.resumed.downloadId = d.downloadId := rfl

/-- The change `HandleRetry` makes before it starts a thread: the counter, then the url. -/
def countRetry (d : DownloadInfo) : DownloadInfo := { d with retryTimes := d.retryTimes + 1 }

@[simp] theorem countRetry_downloadId (d : DownloadInfo) : d.countRetry.downloadId = d.downloadId := rfl

def switchUrl (endReason : DownloadEndReason) (d : DownloadInfo) : DownloadInfo :=
  if endReason = .redirect ∨ endReason = .sizeError then
    { d with
      url := if d.reserveUrl = "" then d.url else d.reserveUrl
      reserveUrl := d.url }
  else d

@[simp] theorem switchUrl_downloadId (r : DownloadEndReason) (d : DownloadInfo) :
    (d.switchUrl r).downloadId = d.downloadId := by unfold switchUrl; split <;> rfl

theorem switchUrl_eq_self {r : DownloadEndReason} {d : DownloadInfo}
    (h : r = .redirect ∨ r = .sizeError → d.reserveUrl = d.url) : d.switchUrl r = d := by
  unfold switchUrl
  split
  · rename_i hr
    cases d
    simp_all
  · rfl

/-- The reports that the service makes itself. -/
def cancelReport (now : Int) (d : DownloadInfo) : DownloadCallbackInfo where
  downloadId := d.downloadId
  downloadedSize := d.downloadedSize
  endTime := now
  status := .cancel
  endReason := .cancel
  verifiedSize := d.verifiedSize

def pauseReport (d : DownloadInfo) : DownloadCallbackInfo where
  downloadId := d.downloadId
  downloadedSize := d.downloadedSize
  status := .pause
  endReason := .pause
  verifiedSize := d.verifiedSize

def recoverReport (d : DownloadInfo) : DownloadCallbackInfo where
  downloadId := d.downloadId
  downloadedSize := d.downloadedSize
  status := .autoPause
  endReason := .init
  verifiedSize := d.verifiedSize

end DownloadInfo

namespace ServiceState

/-! ### Sections -/

def exec (op : DbOp) (s : ServiceState) : ServiceState :=
  { s with table := op.apply s.table, trace := s.trace ++ [.db op] }

def modifyInfo (downloadId : String) (f : DownloadInfo → DownloadInfo)
    (hf : ∀ d, (f d).downloadId = d.downloadId) (s : ServiceState) : ServiceState :=
  { s with infoMap := s.infoMap.modify downloadId f hf }

def hasThread (downloadId : String) (s : ServiceState) : Bool := (s.threadMap.find? downloadId).isSome

def registered (s : ServiceState) : List Nat := s.threadMap.entries.map Prod.snd

def startDownloadThread (downloadInfo : DownloadInfo) (s : ServiceState) : ServiceState :=
  { s with
    threads := s.threads ++ [.ofInfo downloadInfo (s.fileSize downloadInfo.path) s.now]
    threadMap := s.threadMap.insert (downloadInfo.downloadId, s.threads.length) }

def removeThread (downloadId : String) (s : ServiceState) : ServiceState :=
  { s with threadMap := s.threadMap.erase downloadId }

def updateDownloadInfo (info : DownloadCallbackInfo) (s : ServiceState) : ServiceState :=
  match s.infoMap.find? info.downloadId with
  | none => s
  | some d =>
    if info.status = .downloading ∧ s.isStopCallback then s
    else
      let s := s.modifyInfo info.downloadId (·.updateDownloadInfo info) (DownloadInfo.updateDownloadInfo_downloadId info)
      if info.status ≠ .cancel then s.exec (.update .progress (d.updateDownloadInfo info)) else s

def callbackDownloadProgress (info : DownloadCallbackInfo) (s : ServiceState) : ServiceState :=
  if s.onDownloadCallback then { s with trace := s.trace ++ [.progress info s.infoMap] } else s

def clearPackage (path : String) (s : ServiceState) : ServiceState :=
  { s with fileSize := Function.update s.fileSize path 0 }

def handleRetry (downloadId : String) (endReason : DownloadEndReason) (s : ServiceState) :
    DownloadResult × ServiceState :=
  match s.infoMap.find? downloadId with
  | none => (.fail, s)
  | some d =>
    let s := s.modifyInfo downloadId (·.countRetry) DownloadInfo.countRetry_downloadId
    let s := s.exec (.update .retryTimes d.countRetry)
    let s := s.modifyInfo downloadId (·.switchUrl endReason) (DownloadInfo.switchUrl_downloadId endReason)
    (.success, s.startDownloadThread (d.countRetry.switchUrl endReason))

/-! ### Reports -/

/-- What follows the removal of the thread, by the download's record as it is then. -/
def finishReport (info : DownloadCallbackInfo) (s : ServiceState) : ServiceState :=
  (s.updateDownloadInfo info).callbackDownloadProgress info

def updateDownloadProgress (info : DownloadCallbackInfo) (s : ServiceState) : ServiceState :=
  let s := if info.status ≠ .downloading ∧ info.status ≠ .verifying then s.removeThread info.downloadId else s
  if info.status ≠ .fail then s.finishReport info
  else
    match s.infoMap.find? info.downloadId with
    | none => s
    | some d =>
      if info.endReason = .ioException ∨ info.endReason = .verifyFail then
        (s.clearPackage d.path).finishReport info
      else if !d.isRetryAble then s.finishReport info
      else
        match s.handleRetry info.downloadId info.endReason with
        | (.success, s) => s
        | (.fail, s) => s.finishReport info

def callbackUpdateDownloadProgress (info : DownloadCallbackInfo) (s : ServiceState) : ServiceState :=
  if s.isStopCallback then s else s.updateDownloadProgress info

/-! ### Operations -/

/-- The loops over `serviceDownloadInfoMap_`, in key order. -/
def forEachInfo (f : DownloadInfo → ServiceState → ServiceState) (s : ServiceState) : ServiceState :=
  s.infoMap.keys.foldl
    (fun s downloadId => match s.infoMap.find? downloadId with
      | none => s
      | some d => f d s) s

def isNetSatisfied (s : ServiceState) : Bool :=
  match s.infoMap.entries with
  | [] => false
  | d :: _ => s.netType.isNetAvailable d.netType

def startInfo (d : DownloadInfo) (s : ServiceState) : ServiceState :=
  if s.hasThread d.downloadId then s
  else if d.isCompleted then s
  else (s.exec (.insert d)).startDownloadThread d

def start (error : DownloadError) (s : ServiceState) : DownloadError × ServiceState :=
  if s.infoMap.entries = [] then (⟨.downloadInfoEmpty, .fail⟩, s)
  else if !s.isNetSatisfied then (⟨.netNotAvailiable, .fail⟩, s)
  else (error, forEachInfo startInfo { s with onDownloadCallback := true, isStopCallback := false })

/-- `Stop` of every registered thread; `ended` says which of them are over within the bounded wait. -/
def stopThreads (ended : Nat → Bool) (s : ServiceState) : ServiceState :=
  { s with
    threads := s.threads.mapIdx fun i th => if i ∈ s.registered then th.stop (ended i) else th
    threadMap := ∅ }

def stopAllDownloadThread (ended : Nat → Bool) (s : ServiceState) : ServiceState :=
  stopThreads ended { s with isStopCallback := true }

def notifyPauseCompleted (s : ServiceState) : ServiceState :=
  s.forEachInfo fun d => updateDownloadProgress d.pauseReport

def pause (ended : Nat → Bool) (s : ServiceState) : DownloadError × ServiceState :=
  (⟨.success, .success⟩, (s.stopAllDownloadThread ended).notifyPauseCompleted)

def updateDownloadNetType (netType : NetType) (s : ServiceState) : ServiceState :=
  s.forEachInfo fun d s =>
    if netType = d.netType then s
    else
      (s.modifyInfo d.downloadId (·.withNetType netType) (DownloadInfo.withNetType_downloadId netType)).exec
        (.update .netType (d.withNetType netType))

def resumeInfo (d : DownloadInfo) (s : ServiceState) : ServiceState :=
  if s.hasThread d.downloadId then s
  else if d.isCompleted then s
  else (s.modifyInfo d.downloadId (·.resumed) DownloadInfo.resumed_downloadId).startDownloadThread d.resumed

def resume (netType : NetType) (s : ServiceState) : DownloadError × ServiceState :=
  if s.infoMap.entries = [] then (⟨.downloadInfoEmpty, .fail⟩, s)
  else
    let s := updateDownloadNetType netType { s with isStopCallback := false }
    if !s.isNetSatisfied then (⟨.netNotAvailiable, .fail⟩, s)
    else (⟨.success, .success⟩, s.forEachInfo resumeInfo)

def deleteDownloadedFiles (s : ServiceState) : ServiceState := s.forEachInfo fun d => clearPackage d.path

def notifyCancelCompleted (s : ServiceState) : ServiceState :=
  (s.forEachInfo fun d s => s.updateDownloadProgress (d.cancelReport s.now)).exec (.deleteByTaskId s.taskId)

def cancel (ended : Nat → Bool) (isDeleteFiles : Bool) (s : ServiceState) : ServiceState :=
  let s := s.stopAllDownloadThread ended
  let s := if isDeleteFiles then s.deleteDownloadedFiles else s
  s.notifyCancelCompleted

def notifyRecoverCompleted (s : ServiceState) : ServiceState :=
  s.forEachInfo fun d s =>
    if d.isCompleted then s
    else if d.isManualPaused then s
    else s.updateDownloadProgress d.recoverReport

def recover (s : ServiceState) : ServiceState :=
  if s.infoMap.entries = [] then s else notifyRecoverCompleted { s with onDownloadCallback := true }

def removeDownloadTask (s : ServiceState) : ServiceState :=
  { s with onDownloadCallback := false, infoMap := ∅ }

/-- One round of the loop of `NetChangeToPause`. -/
def pauseThread (i : Nat) (s : ServiceState) : ServiceState :=
  match s.threads[i]? with
  | none => s
  | some th =>
    let s' := { s with threads := s.threads.set i (th.netChangeToPause s.now).1 }
    match (th.netChangeToPause s.now).2 with
    | none => s'
    | some info => s'.callbackUpdateDownloadProgress info

/-- The source's loop runs over `threadMap_` itself although a report removes the current element. -/
def netChangeToPause (s : ServiceState) : ServiceState :=
  s.registered.foldl (fun s i => s.pauseThread i) s

def netChangeToStart (s : ServiceState) : ServiceState :=
  s.forEachInfo fun d s =>
    if d.status ≠ .autoPause ∨ d.isNeedAutoResume = false then s
    else if s.hasThread d.downloadId then s
    else s.startDownloadThread d

end ServiceState

end UpdateService
