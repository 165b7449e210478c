import UpdateService.CJson
import UpdateService.FirmwareStore

/-!
# The search for a new version (`FirmwareCheckAnalyzeUtils`, `FirmwareCheckDataProcessor`)

The analysis of the server's answer, and the tables after it. The error codes of an answer are added up,
so that one that is not `ERR_OK` makes the sum positive.
-/

namespace UpdateService

namespace Firmware

def packagePath : String := "/data/update/ota_package/firmware/versions"

end Firmware

/-- `BlType::HOTA_TYPE`. -/
def hotaType : Int := 1

def combinationHota : Nat := 1

namespace FirmwareCheckAnalyzeUtils
open UpdateServiceJsonUtils

def maxFileNameLength : Nat := 255

def statusSystemError : Int := -1

def statusNewVersionAvailable : Int := 0

def statusNewVersionNotAvailable : Int := 1

def isLegalStatus (status : Int) : Bool :=
  status = statusNewVersionAvailable || status = statusNewVersionNotAvailable

def isValidFileName (fileName : String) : Bool :=
  fileName ≠ "" && fileName.length ≤ maxFileNameLength &&
    ["..", "/", "\\"].all fun pattern => !decide (pattern.toList <:+: fileName.toList)

/-- What `AnalyzeBlVersionCheckResults` adds up for an element; the response it fills is not used. -/
def analyzeBlVersionCheckResult (p : JsonPlatform) (item : Json) : Int :=
  (getValueAndSetTo checkString item "descriptPackageId" "").1 +
    (getValueAndSetTo (checkInteger p .int32) item "packageType" 0).1 +
    (getValueAndSetTo checkString item "versionName" "").1 + (getValueAndSetTo checkString item "versionName" "").1 +
    (getValueAndSetTo checkString item "versionCode" "").1 + (getValueAndSetTo checkString item "url" "").1

/-- `searchStatus`, read by two functions. -/
def searchStatus (p : JsonPlatform) (root : Json) : Int :=
  (getValueAndSetTo (checkInteger p .int32) root "searchStatus" statusSystemError).2

def analyzeBlVersionCheckResults (p : JsonPlatform) (root : Json) : Int :=
  match root.getObjectItem "checkResults" with
  | none => JsonParseError.missingProp.toInt
  | some itemCheckResults =>
    if searchStatus p root = statusNewVersionAvailable then
      (itemCheckResults.children.map (analyzeBlVersionCheckResult p)).sum
    else JsonParseError.errOk.toInt

/-- The body of the loop of `ProcessCheckResults`: an element with an illegal size or file name is left
out, and the fields after them are not read. -/
def processCheckResult (p : JsonPlatform) (itemResult : Json) : Int × Option FirmwareComponent :=
  let descriptPackageId := getValueAndSetTo checkString itemResult "descriptPackageId" ""
  let url := getValueAndSetTo checkString itemResult "url" ""
  let size := getValueAndSetTo (checkInteger p .int64) itemResult "size" 0
  let ret := descriptPackageId.1 + url.1 + size.1
  let fileName := String.ofList (StringUtils.getLastSplitString url.2.toList ['/'])
  if size.2 ≤ 0 then (ret, none)
  else if !isValidFileName fileName then (ret, none)
  else
    let verifyInfo := getValueAndSetTo checkString itemResult "verifyInfo" ""
    let versionNumber := getValueAndSetTo checkString itemResult "versionCode" ""
    let targetBlVersionNumber := getValueAndSetTo checkString itemResult "versionName" ""
    let versionPackageType := getValueAndSetTo (checkInteger p .int32) itemResult "packageType" 0
    let otaType := getValueAndSetTo (checkInteger p .int32) itemResult "otaType" 0
    (ret + verifyInfo.1 + versionNumber.1 + targetBlVersionNumber.1 + versionPackageType.1 + otaType.1,
      some {
        descriptPackageId := descriptPackageId.2
        url := url.2
        size := size.2
        fileName
        verifyInfo := verifyInfo.2
        versionNumber := versionNumber.2
        targetBlVersionNumber := targetBlVersionNumber.2
        versionPackageType := versionPackageType.2
        otaType := otaType.2
        targetBlDisplayVersionNumber := targetBlVersionNumber.2
        blVersionType := 1
        componentId := descriptPackageId.2 })

def processCheckResults (p : JsonPlatform) (checkResults : Json) : Int × List FirmwareComponent :=
  let results := checkResults.children.map (processCheckResult p)
  ((results.map Prod.fst).sum, results.filterMap Prod.snd)

/-- The entry of `ProcessDescriptInfo` for an element: its error, type and content. -/
def processDescript (p : JsonPlatform) (itemInfo : Json) : Int × Int × String :=
  let descriptInfoType := getValueAndSetTo (checkInteger p .int32) itemInfo "descriptionType" p.indeterminate
  let descContent := getValueAndSetTo checkString itemInfo "content" ""
  (descriptInfoType.1 + descContent.1, descriptInfoType.2, descContent.2)

def processDescriptInfo (p : JsonPlatform) (descriptInfo : Json) : Int × List (Int × String) :=
  let results := descriptInfo.children.map (processDescript p)
  ((results.map Prod.fst).sum, results.map Prod.snd)

def totalSize (components : List FirmwareComponent) : Option Int :=
  components.foldlM (fun total c => if 2 ^ 63 - 1 - c.size < total then none else some (total + c.size)) 0

def analyzeComponents (p : JsonPlatform) (root : Json) : Int × List FirmwareComponent × List (Int × String) :=
  match root.getObjectItem "checkResults" with
  | none => (JsonParseError.missingProp.toInt, [], [])
  | some itemCheckResults =>
    let (ret, components) := processCheckResults p itemCheckResults
    if totalSize components = none then (JsonParseError.missingProp.toInt, components, [])
    else
      match root.getObjectItem "descriptInfo" with
      | none => (JsonParseError.missingProp.toInt, components, [])
      | some itemDescriptInfo =>
        let (ret', descripts) := processDescriptInfo p itemDescriptInfo
        (ret + ret', components, descripts)

/-- `DoAnalyze` with the list and the response status it is given. -/
def doAnalyze (p : JsonPlatform) (rawJson : String) (components : List FirmwareComponent) (responseStatus : String) :
    List FirmwareComponent × String :=
  match p.parse rawJson with
  | none => (components, responseStatus)
  | some root =>
    let status := searchStatus p root
    if !isLegalStatus status then (components, toString status)
    else if status = statusNewVersionAvailable then
      let (ret, components_, _) := analyzeComponents p root
      if analyzeBlVersionCheckResults p root + ret = JsonParseError.errOk.toInt then (components_, toString status)
      else (components, toString status)
    else ([], toString status)

end FirmwareCheckAnalyzeUtils

inductive CheckStatus
  | checkSuccess | checkFail | fileListRequestSuccess | fileListRequestFail | changelogRequestSuccess
  | changelogRequestFail
deriving DecidableEq, Repr

namespace FirmwareFileUtils

def deleteDownloadFiles (s : Firmware) : Firmware :=
  { s with
    downloads := { s.downloads with
      outside := { s.downloads.outside with
        fileSize := fun path =>
          if (Firmware.packagePath ++ "/").toList <+: path.toList then 0 else s.downloads.outside.fileSize path } } }

end FirmwareFileUtils

namespace FirmwareUpdateHelper

def clearFirmwareInfo (s : Firmware) : Firmware :=
  FirmwareFileUtils.deleteDownloadFiles
    { taskTable := []
      componentTable := []
      downloads := (s.downloads.removeTask (FirmwareTaskOperator.queryTask s.taskTable).downloadTaskId).2 }

end FirmwareUpdateHelper

namespace FirmwareCheckDataProcessor
open FirmwareComponentOperator FirmwareTaskOperator

def isCheckFailed (status : CheckStatus) : Bool :=
  status = .checkFail || status = .fileListRequestFail || status = .changelogRequestFail

def hasUndoneTask (s : Firmware) : Bool :=
  let task := queryTask s.taskTable
  task.isExistTask && (task.status = .downloading || task.status = .downloadPause || task.status = .verifying ||
    task.status = .installing || task.status = .updating)

/-- Every component of the answer looks like the first row with its version id. -/
def isVersionSameWithDb (componentList dbComponentList : List FirmwareComponent) : Bool :=
  dbComponentList.length = componentList.length && componentList.all fun c =>
    match queryByVersionId c.versionId dbComponentList with
    | none => false
    | some db => db.size = c.size && db.verifyInfo = c.verifyInfo && db.url = c.url && db.otaType = c.otaType

def updateFirmwareComponent (componentList : List FirmwareComponent) (s : Firmware) : Firmware :=
  let task := queryTask s.taskTable
  if !task.isExistTask then s
  else if task.status ≠ .checkVersionSuccess then s
  else { s with
    componentTable := componentList.foldl (fun table c => updateUrlByVersionId c.versionId c.url table) s.componentTable }

def buildComponentSPath (componentList : List FirmwareComponent) : List FirmwareComponent :=
  componentList.map fun c => { c with spath := Firmware.packagePath ++ "/" ++ c.fileName }

def getCombinationType (componentList : List FirmwareComponent) : Nat :=
  componentList.foldl (fun type c => if c.blVersionType = hotaType then type ||| combinationHota else type) 0

def handleNewVersion (calculateHashCode : String → String) (componentList : List FirmwareComponent) (s : Firmware) :
    Firmware :=
  if isVersionSameWithDb componentList s.componentTable then updateFirmwareComponent componentList s
  else
    let s := FirmwareUpdateHelper.clearFirmwareInfo s
    let componentList := buildComponentSPath componentList
    { s with
      componentTable := s.componentTable ++ componentList
      taskTable := s.taskTable ++ [{
        taskId := FirmwareUpdateHelper.buildTaskId calculateHashCode componentList
        status := .checkVersionSuccess
        isStreamUpgrade := FirmwareUpdateHelper.isStreamUpgrade componentList
        combinationType := getCombinationType componentList }] }

/-- `SetCheckResult` with `HandleCheckResult`. -/
def handleCheckResult (calculateHashCode : String → String) (status : CheckStatus)
    (componentList : List FirmwareComponent) (s : Firmware) : Firmware :=
  if isCheckFailed status then s
  else if hasUndoneTask s then s
  else if componentList ≠ [] then handleNewVersion calculateHashCode componentList s
  else FirmwareUpdateHelper.clearFirmwareInfo s

end FirmwareCheckDataProcessor

end UpdateService
