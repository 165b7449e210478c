import UpdateService.DownloadCommon
import Mathlib.Data.String.Basic

/-!
# The download table (`DownloadInfoTable`, `DownloadInfoOperator`)

The table is the list of its rows in the order of their primary key, which is the order `QueryAll`
returns them in. `DbOp` is one statement of the operator; statements are taken to succeed.
-/

namespace UpdateService

/-- `static_cast` of a column to an enumeration with the given codes. -/
def ofCode {α : Type*} (toInt : α → Int) (all : List α) (dflt : α) (n : Int) : α :=
  (all.find? fun a => toInt a = n).getD dflt

def DownloadEndReason.ofInt : Int → DownloadEndReason :=
  ofCode toInt [.init, .success, .downloading, .fail, .verifyFail, .ioException, .redirect, .serverTimeout,
    .pause, .cancel, .noEnoughMemory, .netNotAvailiable, .downloadInfoEmpty, .curlError, .systemBusy,
    .initPackageFail, .netChange, .sizeError, .finishSizeError] .init

def DownloadStatus.ofInt : Int → DownloadStatus :=
  ofCode toInt [.init, .downloading, .pause, .cancel, .fail, .success, .verifying, .autoPause] .downloading

def DownloadDirType.ofInt : Int → DownloadDirType := ofCode toInt [.unEncryptDir, .encryptDir] .unEncryptDir

def NetType.ofInt : Int → NetType :=
  ofCode toInt [.noNet, .cellular, .meteredWifi, .cellularAndMeteredWifi, .notMeteredWifi,
    .cellularAndNotMeteredWifi, .wifi, .cellularAndWifi] .noNet

def RequestMethod.ofInt : Int → RequestMethod := ofCode toInt [.get, .post] .get

@[simp] theorem DownloadEndReason.ofInt_toInt (r : DownloadEndReason) : ofInt r.toInt = r := by cases r <;> rfl

@[simp] theorem DownloadStatus.ofInt_toInt (s : DownloadStatus) : ofInt s.toInt = s := by cases s <;> rfl

@[simp] theorem DownloadDirType.ofInt_toInt (t : DownloadDirType) : ofInt t.toInt = t := by cases t <;> rfl

@[simp] theorem NetType.ofInt_toInt (t : NetType) : ofInt t.toInt = t := by cases t <;> rfl

@[simp] theorem RequestMethod.ofInt_toInt (m : RequestMethod) : ofInt m.toInt = m := by cases m <;> rfl

structure DownloadRow where
  downloadId : String
  versionId : String
  taskId : String
  url : String
  reserveUrl : String
  path : String
  verifyInfo : String
  header : String
  requestBody : String
  endReason : Int
  status : Int
  dirType : Int
  netType : Int
  method : Int
  retryTimes : Int
  packageSize : Int
  downloadedSize : Int
  isNeedAutoResume : Int
  startTime : Int
  endTime : Int
  effectiveTime : Int
  isCombineVerifyProgress : Int
  verifiedSize : Int
  extends1 : Int
deriving DecidableEq, Repr

def DownloadRow.key (row : DownloadRow) : String × String := (row.taskId, row.downloadId)

namespace DownloadInfoTable

def concatenate (inputMap : StringMap) : String :=
  inputMap.entries.foldl (fun str (key, value) => str ++ key ++ ":" ++ value ++ "|") ""

/-- The pair an element between two bars stands for, if it has a colon. -/
def splitElement (element : List Char) : Option (String × String) :=
  match element.span (· ≠ ':') with
  | (_, []) => none
  | (key, _ :: value) => some (String.ofList key, String.ofList value)

/-- `Split2Map`; `std::map::insert` keeps the value of a key that is there already. -/
def split2Map (str : String) : StringMap :=
  ((str.toList.splitOn '|').filterMap splitElement).foldl
    (fun m kv => if (m.find? kv.1).isSome then m else m.insert kv) ∅

def boolColumn (b : Bool) : Int := if b then 1 else 0

def buildDbValue (value : DownloadInfo) : DownloadRow where
  downloadId := value.downloadId
  versionId := value.versionId
  taskId := value.taskId
  url := value.url
  reserveUrl := value.reserveUrl
  path := value.path
  verifyInfo := value.verifyInfo
  header := concatenate value.header
  requestBody := value.requestBody
  endReason := value.endReason.toInt
  status := value.status.toInt
  dirType := value.dirType.toInt
  netType := value.netType.toInt
  method := value.method.toInt
  retryTimes := value.retryTimes
  packageSize := value.packageSize
  downloadedSize := value.downloadedSize
  isNeedAutoResume := boolColumn value.isNeedAutoResume
  startTime := value.startTime
  endTime := value.endTime
  effectiveTime := value.effectiveTime
  isCombineVerifyProgress := boolColumn value.isCombineVerifyProgress
  verifiedSize := value.verifiedSize
  extends1 := boolColumn value.isIgnoredFail

/-- The fields without a column keep their defaults. -/
def parseDbValue (row : DownloadRow) : DownloadInfo where
  downloadId := row.downloadId
  versionId := row.versionId
  taskId := row.taskId
  url := row.url
  reserveUrl := row.reserveUrl
  path := row.path
  verifyInfo := row.verifyInfo
  header := split2Map row.header
  requestBody := row.requestBody
  endReason := .ofInt row.endReason
  status := .ofInt row.status
  dirType := .ofInt row.dirType
  netType := .ofInt row.netType
  method := .ofInt row.method
  retryTimes := row.retryTimes
  packageSize := row.packageSize
  downloadedSize := row.downloadedSize
  isNeedAutoResume := row.isNeedAutoResume ≠ 0
  startTime := row.startTime
  endTime := row.endTime
  effectiveTime := row.effectiveTime
  isCombineVerifyProgress := row.isCombineVerifyProgress ≠ 0
  verifiedSize := row.verifiedSize
  isIgnoredFail := row.extends1 ≠ 0

end DownloadInfoTable

/-- The `Update…ById` statements of `DownloadInfoOperator`. -/
inductive ByIdUpdate
  | progress | status | retryTimes | netType
deriving DecidableEq, Repr

def ByIdUpdate.set (downloadInfo : DownloadInfo) (row : DownloadRow) : ByIdUpdate → DownloadRow
  | progress =>
    { row with
      endReason := downloadInfo.endReason.toInt
      status := downloadInfo.status.toInt
      downloadedSize := downloadInfo.downloadedSize
      startTime := downloadInfo.startTime
      endTime := downloadInfo.endTime
      effectiveTime := downloadInfo.effectiveTime
      verifiedSize := downloadInfo.verifiedSize }
  | status => { row with status := downloadInfo.status.toInt }
  | retryTimes => { row with retryTimes := downloadInfo.retryTimes }
  | netType => { row with netType := downloadInfo.netType.toInt }

namespace DownloadInfoOperator

def updateById (u : ByIdUpdate) (downloadInfo : DownloadInfo) (table : List DownloadRow) : List DownloadRow :=
  table.updateWhere (fun row => row.downloadId = downloadInfo.downloadId) (fun row => u.set downloadInfo row)

def updateProgressById := updateById .progress

def updateStatusById := updateById .status

def updateRetryTimesById := updateById .retryTimes

def updateNetTypeById := updateById .netType

def insert (downloadInfo : DownloadInfo) (table : List DownloadRow) : List DownloadRow :=
  table ++ [DownloadInfoTable.buildDbValue downloadInfo]

def deleteByTaskId (taskId : String) (table : List DownloadRow) : List DownloadRow :=
  table.deleteWhere fun row => row.taskId = taskId

def queryAll (table : List DownloadRow) : List DownloadInfo := table.map DownloadInfoTable.parseDbValue

end DownloadInfoOperator

inductive DbOp
  | insert (downloadInfo : DownloadInfo)
  | update (u : ByIdUpdate) (downloadInfo : DownloadInfo)
  | deleteByTaskId (taskId : String)
deriving DecidableEq

open DownloadInfoOperator in
def DbOp.apply (table : List DownloadRow) : DbOp → List DownloadRow
  | insert d => DownloadInfoOperator.insert d table
  | update u d => updateById u d table
  | deleteByTaskId taskId => DownloadInfoOperator.deleteByTaskId taskId table

namespace ByIdUpdate
variable {u : ByIdUpdate} {d : DownloadInfo} {row : DownloadRow}

@[simp] theorem set_downloadId : (u.set d row).downloadId = row.downloadId := by cases u <;> rfl

@[simp] theorem set_taskId : (u.set d row).taskId = row.taskId := by cases u <;> rfl

@[simp] theorem set_key : (u.set d row).key = row.key := by simp [DownloadRow.key]

end ByIdUpdate

namespace DownloadInfoOperator
variable {u : ByIdUpdate} {d : DownloadInfo} {table : List DownloadRow} {id : String}

@[simp] theorem map_key_updateById : (updateById u d table).map DownloadRow.key = table.map DownloadRow.key :=
  List.map_updateWhere fun _ => ByIdUpdate.set_key

theorem updateById_eq (u : ByIdUpdate) (table : List DownloadRow) (h : d.downloadId = id) :
    updateById u d table = table.updateWhere (fun row => row.downloadId = id) fun row => u.set d row := by
  subst h; rfl

end DownloadInfoOperator

end UpdateService
