import UpdateService.FirmwareDownload
import UpdateService.Lib.Checked

/-!
# The space checks (`FirmwareDownloadDataProcessor::IsSpaceEnough`, `DownloadTask::Start`)

The sizes are added up in `int64_t`: a step without room for its result has no value here. `statfs` is the answer of
the file system for a path, after `Start` has created a root directory that was missing.
-/

namespace UpdateService

def int32? (x : Int) : Option Int := Checked.fit (-2 ^ 31) (2 ^ 31 - 1) x

def int64? (x : Int) : Option Int := Checked.fit (-2 ^ 63) (2 ^ 63 - 1) x

def dupdateEngineEncryptedRootPath : String := "/data/service/el1/public/update/dupdate_engine"

def dupdateEnginePackageRootPath : String := "/data/update/ota_package"

/-- The members of `struct statfs` that are read. -/
structure Statfs where
  f_bsize : Nat
  f_bavail : Nat

namespace FileUtils
variable (statfs : String → Option Statfs)

def freeSpace (filePath : String) : Int :=
  match statfs filePath with
  | none => 0
  | some diskStatfs => (diskStatfs.f_bsize * diskStatfs.f_bavail : Nat) % 2 ^ 64

/-- The required space is cast to a `uint64_t`. -/
def isSpaceEnough (filePath : String) (requiredSpace : Int) : Bool := requiredSpace % 2 ^ 64 ≤ freeSpace statfs filePath

end FileUtils

namespace FirmwareDownloadDataProcessor

def oneHundred : Int := 100

/-- What the loop of `IsSpaceEnough` adds for a component. -/
def requireSize (component : FirmwareComponent) : Option Int := do
  let rest ← int32? (oneHundred - component.progress)
  let product ← int64? (rest * component.size)
  return product.tdiv oneHundred

/-- The total that `IsSpaceEnough` gives back, and its answer. -/
def isSpaceEnough (statfs : String → Option Statfs) (componentTable : List FirmwareComponent)
    (requireTotalSize : Int) : Option (Int × Bool) := do
  let requireTotalSize ← Checked.sumFit (-2 ^ 63) (2 ^ 63 - 1) requireSize componentTable requireTotalSize
  return (requireTotalSize, FileUtils.isSpaceEnough statfs dupdateEnginePackageRootPath requireTotalSize)

end FirmwareDownloadDataProcessor

namespace DownloadTask

def downloadMinPathLen : Nat := 3

def getRootPath (t : DownloadTask) : String :=
  match t.service.infoMap.entries with
  | [] => ""
  | d :: _ => if d.dirType = .encryptDir then dupdateEngineEncryptedRootPath else dupdateEnginePackageRootPath

def isMemoryEnough (statfs : String → Option Statfs) (size : Int) (t : DownloadTask) : Bool :=
  if t.getRootPath.length < downloadMinPathLen then false else FileUtils.isSpaceEnough statfs t.getRootPath size

/-- A sum of the constructor of `DownloadTaskProgressProcessor`; `Update` makes the same sum of the sizes on disk. -/
def totalOf (size : DownloadInfo → Int) (infos : List DownloadInfo) : Option Int :=
  Checked.sumFit (-2 ^ 63) (2 ^ 63 - 1) (fun d => some (size d)) infos 0

/-- The argument of `IsMemoryEnough` in the `Start` of a task made of these records. -/
def requiredSpace (taskId : String) (downloadInfos : List DownloadInfo) (fileSize : String → Int) : Option Int := do
  let infos := downloadInfos.map (initInfo taskId fileSize)
  let packageSize ← totalOf (·.packageSize) infos
  let downloadedSize ← totalOf (·.downloadedSize) infos
  int64? (packageSize - downloadedSize)

/-- Whether `Start` refuses such a task for want of space; a task without records does not come to the check. -/
def refusesStart (statfs : String → Option Statfs) (taskId : String) (downloadInfos : List DownloadInfo)
    (fileSize : String → Int) : Option Bool := do
  let t := ofInfos taskId downloadInfos fileSize
  let size ← requiredSpace taskId downloadInfos fileSize
  return decide (t.service.infoMap.entries ≠ []) && !t.isMemoryEnough statfs size

end DownloadTask

end UpdateService
