import UpdateService.FirmwareCheck
import Mathlib.Logic.Function.Basic

/-!
# The changelog files (`ProcessDescriptInfo`, `GetNewVersionDescription`)

The analysis of an answer saves each description as `type|content` under the id of the last component. The
reader looks for a file under the id of each component. A file system knows which file a path names.
-/

namespace UpdateService

namespace Firmware

def changelogPath : String := "/data/service/el1/public/update/dupdate_engine/files/firmware/changelogs"

def changelogFilePath (componentId : String) : String := changelogPath ++ "/" ++ componentId ++ ".xml"

end Firmware

/-- The path and the data of a call of `SaveDataToFile`. -/
structure SavedFile where
  filePath : String
  data : List Char
deriving DecidableEq, Repr

namespace FirmwareCheckAnalyzeUtils

def processedContent (content : String) : List Char :=
  StringUtils.replaceStringAll "quota".toList "\"".toList 0 content.toList

def changelogData (descript : Int × String) : List Char :=
  (toString descript.1).toList ++ '|' :: processedContent descript.2

/-- The id of the last component that was kept. -/
def changelogId (components_ : List FirmwareComponent) : String :=
  match components_.getLast? with
  | none => ""
  | some c => c.descriptPackageId

/-- The calls of `SaveDataToFile` that `ProcessDescriptInfo` makes. -/
def changelogFiles (components_ : List FirmwareComponent) (descripts : List (Int × String)) : List SavedFile :=
  descripts.map fun d => { filePath := Firmware.changelogFilePath (changelogId components_), data := changelogData d }

/-- The calls that `DoAnalyze` makes, whether or not the answer is then taken. -/
def savedChangelogs (p : JsonPlatform) (rawJson : String) : List SavedFile :=
  match p.parse rawJson with
  | none => []
  | some root =>
    if searchStatus p root = statusNewVersionAvailable then
      let (_, components_, descripts) := analyzeComponents p root
      changelogFiles components_ descripts
    else []

end FirmwareCheckAnalyzeUtils

namespace UpdateServiceImplFirmware

def isValidComponentId (componentId : String) : Bool :=
  componentId ≠ "" && componentId.toList.all fun c =>
    ('a' ≤ c && c ≤ 'z') || ('A' ≤ c && c ≤ 'Z') || c.isDigit || c = '_' || c = '-'

end UpdateServiceImplFirmware

/-- `resolve` gives the file that a path names; the changelog directory is one without links. -/
structure FileSystem where
  resolve : String → String
  canOpen : String → Bool
  content : String → Option (List Char)
  resolve_changelog : ∀ componentId, UpdateServiceImplFirmware.isValidComponentId componentId = true →
    resolve (Firmware.changelogFilePath componentId) = Firmware.changelogFilePath componentId

namespace FileUtils

def saveDataToFile (fs : FileSystem) (file : SavedFile) : FileSystem :=
  if fs.canOpen file.filePath then
    { fs with content := Function.update fs.content (fs.resolve file.filePath) (some file.data) }
  else fs

def isFileExist (fs : FileSystem) (filePath : String) : Bool := (fs.content (fs.resolve filePath)).isSome

def readDataFromFile (fs : FileSystem) (filePath : String) : List Char := (fs.content (fs.resolve filePath)).getD []

end FileUtils

namespace UpdateServiceImplFirmware

def isCoverBasePath (fs : FileSystem) (fullPath : String) : Bool :=
  fullPath ≠ "" && FileUtils.isFileExist fs fullPath &&
    decide (Firmware.changelogPath.toList <+: (fs.resolve fullPath).toList)

def checkFilePathValid (fs : FileSystem) (changelogFilePath : String) : Bool :=
  FileUtils.isFileExist fs changelogFilePath && isCoverBasePath fs changelogFilePath

/-- What the loop of `GetNewVersionDescription` finds for a component: its type, and its content before the
language is filtered. -/
def findDescription (fs : FileSystem) (componentId : String) : Option (Int × List Char) :=
  let changelogFilePath := Firmware.changelogFilePath componentId
  if !isValidComponentId componentId then none
  else if !checkFilePathValid fs changelogFilePath then none
  else
    let dataXml := FileUtils.readDataFromFile fs changelogFilePath
    match dataXml.findIdx? (· = '|') with
    | none => none
    | some startIndex =>
      if dataXml.length ≤ startIndex + 1 then none
      else some ((StringUtils.stringToNumberInner (-2 ^ 31) (2 ^ 31) (dataXml.take startIndex) 0).2, dataXml.drop (startIndex + 1))

def languageChinese : String := "<language name=\"zh-cn\" code=\"2052\">"

def languageEnglish : String := "<language name=\"en-us\" code=\"1033\">"

def languageEnd : String := "</language>"

def getChangelogContent (dataXml : List Char) (language : String) : List Char :=
  let languageStart := if language ≠ "zh-cn" then languageChinese else languageEnglish
  StringUtils.stringRemove languageStart.toList languageEnd.toList dataXml

structure ComponentDescription where
  componentId : String
  descriptionType : Int
  content : List Char
deriving DecidableEq, Repr

/-- The descriptions of the components up to the first that has none, and whether that ends the call. -/
def describe (fs : FileSystem) (language : String) : List FirmwareComponent → Bool × List ComponentDescription
  | [] => (true, [])
  | component :: components =>
    match findDescription fs component.componentId with
    | none => (false, [])
    | some (descType, dataXml) =>
      let (isSuccess, descriptions) := describe fs language components
      (isSuccess,
        { componentId := component.componentId
          descriptionType := descType
          content := getChangelogContent dataXml language } :: descriptions)

def getNewVersionDescription (fs : FileSystem) (language : String) (components : List FirmwareComponent) :
    Bool × List ComponentDescription :=
  if components = [] then (false, []) else describe fs language components

end UpdateServiceImplFirmware

end UpdateService
