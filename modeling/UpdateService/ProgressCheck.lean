import UpdateService.SpaceCheck

/-!
# The percentages of a task (`DownloadTaskProgressProcessor`, `DownloadProgress`)

The sums and the products of the sizes are made in `int64_t`: a step without room for its result has no value here.
-/

namespace UpdateService

namespace DownloadProgress

def percent? (info : DownloadInfo) : Option Int :=
  if info.packageSize = 0 then some 0
  else (int64? (info.downloadedSize * downloadMaxPercent)).map fun product => product.tdiv info.packageSize % 2 ^ 32

/-- The constructor. -/
def ofInfo? (info : DownloadInfo) : Option DownloadProgress :=
  (percent? info).map fun percent => { ofInfo info with percent }

end DownloadProgress

namespace DownloadTaskProgressProcessor
open DownloadTask

def ofInfos? (downloadInfos : List DownloadInfo) : Option DownloadTaskProgressProcessor := do
  let packageSize ← totalOf (·.packageSize) downloadInfos
  let downloadedSize ← totalOf (·.downloadedSize) downloadInfos
  return { totalInfoSize := downloadInfos.length, packageSize, downloadedSize }

def update? (infos : List DownloadInfo) (p : DownloadTaskProgressProcessor) : Option DownloadTaskProgressProcessor := do
  let downloadedSize ← totalOf (·.downloadedSize) infos
  let verifiedSize ← totalOf (·.verifiedSize) infos
  return { p.update infos with downloadedSize, verifiedSize }

def calcDownloadProgress? (p : DownloadTaskProgressProcessor) : Option Int :=
  if p.packageSize ≤ 0 then some 0
  else if p.downloadedSize > p.packageSize then some downloadMaxPercent
  else (int64? (p.downloadedSize * downloadMaxPercent)).map fun product => product.tdiv p.packageSize

/-- `GetTaskProgress` of a processor made of these records, as `InitDownloadInfo` calls it. -/
def initTaskProgress? (infos : List DownloadInfo) : Option ProgressInfo := do
  let p ← ofInfos? infos
  let p ← p.update? infos
  let taskProgress ← p.calcDownloadProgress?
  let progresses ← infos.mapM DownloadProgress.ofInfo?
  return {
    packageSize := p.packageSize
    downloadedSize := p.downloadedSize
    verifiedSize := p.verifiedSize
    taskProgress
    taskStatus := p.status
    reason := p.endReason
    progresses }

end DownloadTaskProgressProcessor

end UpdateService
