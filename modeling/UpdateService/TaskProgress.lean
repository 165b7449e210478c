import UpdateService.DownloadCommon

/-!
# The progress of a task (`DownloadTaskProgressProcessor`, `ProgressInfo`)

The processor keeps totals and the last status. The records it shares with the task are passed to
every call, in the order of its vector.
-/

namespace UpdateService

def downloadMaxPercent : Int := 100

structure DownloadProgress where
  id : String
  percent : Int := 0
  startTime : Int := 0
  endTime : Int := 0
  effectiveTime : Int := 0
  status : DownloadStatus := .init
  reason : DownloadEndReason := .init
  downloadErrorInfo : DownloadErrorInfo := {}
  downloadUrl : String := ""
  packageSize : Int := 0
  downloadedSize : Int := 0
  verifiedSize : Int := 0
  isCombineVerifyProgress : Bool := false
deriving DecidableEq, Repr

/-- The constructor; `percent` is an unsigned 32-bit number. -/
def DownloadProgress.ofInfo (info : DownloadInfo) : DownloadProgress where
  id := info.versionId
  percent :=
    if info.packageSize = 0 then 0
    else (info.downloadedSize * downloadMaxPercent).tdiv info.packageSize % 2 ^ 32
  status := info.status
  reason := info.endReason
  startTime := info.startTime
  endTime := info.endTime
  effectiveTime := info.effectiveTime
  downloadErrorInfo := info.downloadErrorInfo
  downloadUrl := info.url
  packageSize := info.packageSize
  downloadedSize := info.downloadedSize
  verifiedSize := info.verifiedSize
  isCombineVerifyProgress := info.isCombineVerifyProgress

structure ProgressInfo where
  taskProgress : Int := 0
  taskStatus : DownloadStatus := .init
  reason : DownloadEndReason := .init
  progresses : List DownloadProgress := []
  packageSize : Int := 0
  downloadedSize : Int := 0
  verifiedSize : Int := 0
deriving DecidableEq, Repr

namespace ProgressInfo

def isTaskCompleted (p : ProgressInfo) : Bool :=
  p.taskStatus = .success || p.taskStatus = .fail || p.taskStatus = .cancel || p.taskStatus = .autoPause ||
    p.taskStatus = .pause

def isSyncCallback (p : ProgressInfo) : Bool := p.taskStatus = .cancel || p.taskStatus = .pause

end ProgressInfo

structure DownloadTaskProgressProcessor where
  totalInfoSize : Nat := 0
  packageSize : Int := 0
  downloadedSize : Int := 0
  verifiedSize : Int := 0
  status : DownloadStatus := .init
  endReason : DownloadEndReason := .init
deriving DecidableEq, Repr

namespace DownloadTaskProgressProcessor

def ofInfos (downloadInfos : List DownloadInfo) : DownloadTaskProgressProcessor where
  totalInfoSize := downloadInfos.length
  packageSize := (downloadInfos.map (·.packageSize)).sum
  downloadedSize := (downloadInfos.map (·.downloadedSize)).sum

def getStatusCount (infos : List DownloadInfo) (status : DownloadStatus) : Nat :=
  infos.countP fun d => d.getTaskStatus = status

/-- The entry of `endReasonMap`, which the last record of a status writes; `INIT` is the default. -/
def lastEndReason (infos : List DownloadInfo) (status : DownloadStatus) : DownloadEndReason :=
  ((infos.filter fun d => d.getTaskStatus = status).getLast?.map (·.endReason)).getD .init

def calcDownloadTaskStatus (infos : List DownloadInfo) (p : DownloadTaskProgressProcessor) : DownloadStatus :=
  if getStatusCount infos .success = p.totalInfoSize then .success
  else if getStatusCount infos .downloading ≠ 0 ∨ getStatusCount infos .verifying ≠ 0 then .downloading
  else if getStatusCount infos .pause ≠ 0 then .pause
  else if getStatusCount infos .autoPause ≠ 0 then .autoPause
  else if getStatusCount infos .cancel ≠ 0 then .cancel
  else if getStatusCount infos .fail ≠ 0 then .fail
  else .downloading

def update (infos : List DownloadInfo) (p : DownloadTaskProgressProcessor) : DownloadTaskProgressProcessor :=
  let p := { p with
    downloadedSize := (infos.map (·.downloadedSize)).sum
    verifiedSize := (infos.map (·.verifiedSize)).sum }
  -- nothing has started: the status stays what it was
  if getStatusCount infos .init = p.totalInfoSize then p
  else
    let status := p.calcDownloadTaskStatus infos
    { p with
      status
      endReason := if status = .success then .success else lastEndReason infos status }

def calcDownloadProgress (p : DownloadTaskProgressProcessor) : Int :=
  if p.packageSize ≤ 0 then 0
  else if p.downloadedSize > p.packageSize then downloadMaxPercent
  else (p.downloadedSize * downloadMaxPercent).tdiv p.packageSize

def getTaskProgress (infos : List DownloadInfo) (p : DownloadTaskProgressProcessor) :
    DownloadTaskProgressProcessor × ProgressInfo :=
  let p := p.update infos
  (p, {
    packageSize := p.packageSize
    downloadedSize := p.downloadedSize
    verifiedSize := p.verifiedSize
    taskProgress := p.calcDownloadProgress
    taskStatus := p.status
    reason := p.endReason
    progresses := infos.map .ofInfo })

variable {infos : List DownloadInfo} {p : DownloadTaskProgressProcessor} {status : DownloadStatus}

theorem getStatusCount_ne_zero : getStatusCount infos status ≠ 0 ↔ ∃ d ∈ infos, d.getTaskStatus = status := by
  simp [getStatusCount]

theorem getStatusCount_eq_length : getStatusCount infos status = infos.length ↔
    ∀ d ∈ infos, d.getTaskStatus = status := by
  simp [getStatusCount, List.countP_eq_length]

@[simp] theorem totalInfoSize_update : (p.update infos).totalInfoSize = p.totalInfoSize := by
  unfold update
  dsimp only
  split <;> rfl

/-- The order of the statuses: success of all, then the statuses that something can still follow. -/
theorem status_update (h : p.totalInfoSize = infos.length) : (p.update infos).status =
    if ∀ d ∈ infos, d.getTaskStatus = .init then p.status
    else if ∀ d ∈ infos, d.getTaskStatus = .success then .success
    else if ∃ d ∈ infos, d.getTaskStatus = .downloading ∨ d.getTaskStatus = .verifying then .downloading
    else if ∃ d ∈ infos, d.getTaskStatus = .pause then .pause
    else if ∃ d ∈ infos, d.getTaskStatus = .autoPause then .autoPause
    else if ∃ d ∈ infos, d.getTaskStatus = .cancel then .cancel
    else if ∃ d ∈ infos, d.getTaskStatus = .fail then .fail
    else .downloading := by
  unfold update calcDownloadTaskStatus
  simp only [h, getStatusCount_ne_zero, getStatusCount_eq_length, ← exists_or, ← and_or_left]
  split <;> rfl

end DownloadTaskProgressProcessor

end UpdateService
