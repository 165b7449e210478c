import UpdateService.FirmwareCheck
import UpdateService.FirmwareDownload
import UpdateService.FirmwareInstall
import UpdateService.FirmwareManager

/-!
# The firmware tables over a whole run

Every operation that writes the two tables, with the download manager beside them. What a run keeps is
`PackageRows`: the rows come from answers of the server, which leave the version id empty.
-/

namespace UpdateService

/-- An operation on the tables. The objects that live only for a request (a data processor, an executor)
are whatever they may be. -/
inductive FirmwareOp
  | check (status : CheckStatus) (rawJson : String)
  | download (allowNetwork : NetType) (isMemoryEnough : Bool) (ended : Nat → Bool)
      (components : List FirmwareComponent) (processor : FirmwareDownloadDataProcessor)
  | downloadCallback (callbackInfo : FirmwareDownloadCallbackInfo) (processor : FirmwareDownloadDataProcessor)
  | downloadEvent (downloadTaskId : String) (eventId : EventId) (processor : FirmwareDownloadDataProcessor)
  | cancel (ended : Nat → Bool)
  | doInstall (e : InstallExecution)
  | installProgress (component : FirmwareComponent) (e : InstallExecution)
  | installResult (result : Bool) (errMsg : ErrorMessage) (status : UpgradeStatus) (e : InstallExecution)
  | manager (op : ManagerOp)

namespace Firmware

def withExecution (f : InstallExecution → InstallExecution) (e : InstallExecution) (s : Firmware) : Firmware :=
  let e := f { e with taskTable := s.taskTable, componentTable := s.componentTable }
  { s with taskTable := e.taskTable, componentTable := e.componentTable }

def step (p : JsonPlatform) (calculateHashCode : String → String) (s : Firmware) : FirmwareOp → Option Firmware
  | .check status rawJson =>
    some (FirmwareCheckDataProcessor.handleCheckResult calculateHashCode status
      (FirmwareCheckAnalyzeUtils.doAnalyze p rawJson [] "").1 s)
  | .download allowNetwork isMemoryEnough ended components processor =>
    some (FirmwareDownloadExecutor.performDownload calculateHashCode allowNetwork isMemoryEnough ended components
      (processor, s)).2
  | .downloadCallback callbackInfo processor =>
    some (FirmwareDownloadDataProcessor.setDownloadCallbackInfo callbackInfo (processor, s)).2
  | .downloadEvent downloadTaskId eventId processor =>
    some (FirmwareDownloadDataProcessor.setDownloadEvent downloadTaskId eventId (processor, s)).2
  | .cancel ended => some (UpdateServiceImplFirmware.cancel ended s).2
  | .doInstall e => some (s.withExecution (fun e => (FirmwareInstallExecutor.doInstall e).1) e)
  | .installProgress component e => some (s.withExecution (FirmwareInstallExecutor.handleInstallProgress component) e)
  | .installResult result errMsg status e =>
    some (s.withExecution (FirmwareInstallExecutor.handleInstallResult result errMsg status) e)
  | .manager op => (DownloadTaskManager.step calculateHashCode s.downloads op).map fun downloads => { s with downloads }

def lts (p : JsonPlatform) (calculateHashCode : String → String) : Lts Firmware FirmwareOp :=
  .ofPartial (step p calculateHashCode)

end Firmware

/-! ### What an answer leaves in a component -/

namespace FirmwareCheckAnalyzeUtils
variable {p : JsonPlatform} {c : FirmwareComponent}

/-- The version id is not filled. -/
structure Parsed (c : FirmwareComponent) : Prop where
  versionId : c.versionId = ""
  fileName : c.fileName = String.ofList (StringUtils.getLastSplitString c.url.toList ['/'])

theorem parsed_processCheckResult {item : Json} (h : (processCheckResult p item).2 = some c) : Parsed c := by
  unfold processCheckResult at h
  dsimp only at h
  split at h
  · cases h
  · split at h
    · cases h
    · obtain rfl := Option.some.inj h
      exact ⟨rfl, rfl⟩

theorem parsed_analyzeComponents {root : Json} (h : c ∈ (analyzeComponents p root).2.1) : Parsed c := by
  have hall : ∀ results : Json, c ∈ (processCheckResults p results).2 → Parsed c := by
    intro results hc
    obtain ⟨r, hr, hc⟩ := List.mem_filterMap.1 hc
    obtain ⟨item, -, rfl⟩ := List.mem_map.1 hr
    exact parsed_processCheckResult hc
  unfold analyzeComponents at h
  split at h
  · cases h
  · rename_i results _
    dsimp only at h
    split at h
    · exact hall results h
    · split at h <;> exact hall results h

theorem parsed_doAnalyze {rawJson responseStatus : String} (h : c ∈ (doAnalyze p rawJson [] responseStatus).1) :
    Parsed c := by
  unfold doAnalyze at h
  split at h
  · cases h
  · dsimp only at h
    split at h
    · cases h
    · split at h
      · split at h
        · exact parsed_analyzeComponents h
        · cases h
      · cases h

end FirmwareCheckAnalyzeUtils

/-! ### The rows -/

def FirmwareComponent.package (c : FirmwareComponent) : String × String × String := (c.versionId, c.url, c.spath)

/-- No row has a version id, and the first one has the path of its url. -/
structure PackageRows (table : List FirmwareComponent) : Prop where
  versionId : ∀ row ∈ table, row.versionId = ""
  spath : ∀ row ∈ table.head?,
    row.spath = Firmware.packagePath ++ "/" ++ String.ofList (StringUtils.getLastSplitString row.url.toList ['/'])

namespace PackageRows
variable {table table' : List FirmwareComponent}

theorem nil : PackageRows [] := ⟨by simp, by simp⟩

theorem of_package (h : PackageRows table) (heq : table'.map (·.package) = table.map (·.package)) :
    PackageRows table' where
  versionId row hrow := by
    have hmem : row.package ∈ table.map (·.package) := heq ▸ List.mem_map_of_mem hrow
    obtain ⟨row₀, hrow₀, he⟩ := List.mem_map.1 hmem
    exact (congrArg Prod.fst he).symm.trans (h.versionId row₀ hrow₀)
  spath row hrow := by
    have hhead : table.head?.map (·.package) = some row.package := by
      rw [← List.head?_map, ← heq, List.head?_map, hrow, Option.map_some]
    obtain ⟨row₀, hrow₀, he⟩ := Option.map_eq_some_iff.1 hhead
    simp only [FirmwareComponent.package, Prod.mk.injEq] at he
    rw [← he.2.2, ← he.2.1]
    exact h.spath row₀ hrow₀

theorem updateWhere (h : PackageRows table) {q : FirmwareComponent → Bool} {f : FirmwareComponent → FirmwareComponent}
    (hf : ∀ c, (f c).package = c.package) : PackageRows (table.updateWhere q f) :=
  h.of_package (List.map_updateWhere hf)

theorem foldl {α : Type*} {f : List FirmwareComponent → α → List FirmwareComponent} (h : PackageRows table) (l : List α)
    (hf : ∀ table a, PackageRows table → PackageRows (f table a)) : PackageRows (l.foldl f table) :=
  List.foldlRecOn (motive := PackageRows) l f h fun table ht a _ => hf table a ht

theorem updateProgressByVersionId (h : PackageRows table) (versionId : String)
    (status : UpgradeStatus) (progress : Int) :
    PackageRows (FirmwareComponentOperator.updateProgressByVersionId versionId status progress table) :=
  h.updateWhere fun _ => rfl

theorem updateProgressByUrl (h : PackageRows table) (url : String) (status : UpgradeStatus) (progress : Int) :
    PackageRows (FirmwareComponentOperator.updateProgressByUrl url status progress table) :=
  h.updateWhere fun _ => rfl

theorem queryByVersionId_empty (h : PackageRows table) :
    FirmwareComponentOperator.queryByVersionId "" table = table.head? := by
  cases table with
  | nil => rfl
  | cons row rows => exact List.find?_cons_of_pos (decide_eq_true (h.versionId row List.mem_cons_self))

theorem updateUrl_head (h : PackageRows table) {url : String} (hurl : ∀ row ∈ table.head?, row.url = url) :
    PackageRows (FirmwareComponentOperator.updateUrlByVersionId "" url table) ∧
      ∀ row ∈ (FirmwareComponentOperator.updateUrlByVersionId "" url table).head?, row.url = url := by
  have hall : FirmwareComponentOperator.updateUrlByVersionId "" url table = table.map fun c => { c with url } :=
    List.map_congr_left fun c hc => by rw [if_pos (decide_eq_true (h.versionId c hc))]
  rw [hall]
  refine ⟨⟨fun row hrow => ?_, fun row hrow => ?_⟩, fun row hrow => ?_⟩
  · obtain ⟨row₀, hrow₀, rfl⟩ := List.mem_map.1 hrow
    exact h.versionId row₀ hrow₀
  · rw [List.head?_map] at hrow
    obtain ⟨row₀, hrow₀, rfl⟩ := Option.map_eq_some_iff.1 hrow
    rw [← hurl row₀ hrow₀]
    exact h.spath row₀ hrow₀
  · rw [List.head?_map] at hrow
    obtain ⟨row₀, -, rfl⟩ := Option.map_eq_some_iff.1 hrow
    rfl

theorem buildComponentSPath {components : List FirmwareComponent}
    (hp : ∀ c ∈ components, FirmwareCheckAnalyzeUtils.Parsed c) :
    PackageRows (FirmwareCheckDataProcessor.buildComponentSPath components) where
  versionId row hrow := by
    obtain ⟨c, hc, rfl⟩ := List.mem_map.1 hrow
    exact (hp c hc).versionId
  spath row hrow := by
    obtain ⟨c, hc, rfl⟩ := List.mem_map.1 (List.mem_of_mem_head? hrow)
    simp only [(hp c hc).fileName]

end PackageRows

namespace Firmware
open FirmwareCheckDataProcessor
variable {s : Firmware} {components : List FirmwareComponent}

theorem url_of_isVersionSameWithDb (h : PackageRows s.componentTable)
    (hp : ∀ c ∈ components, FirmwareCheckAnalyzeUtils.Parsed c)
    (hsame : isVersionSameWithDb components s.componentTable = true) :
    s.componentTable.length = components.length ∧ ∀ c ∈ components, ∃ row ∈ s.componentTable.head?,
      row.size = c.size ∧ row.verifyInfo = c.verifyInfo ∧ row.url = c.url := by
  unfold isVersionSameWithDb at hsame
  rw [Bool.and_eq_true, List.all_eq_true] at hsame
  refine ⟨of_decide_eq_true hsame.1, fun c hc => ?_⟩
  have := hsame.2 c hc
  rw [(hp c hc).versionId, h.queryByVersionId_empty] at this
  split at this
  · cases this
  · rename_i row hrow
    simp only [Bool.and_eq_true, decide_eq_true_eq] at this
    exact ⟨row, hrow, this.1.1.1, this.1.1.2, this.1.2⟩

theorem packageRows_updateFirmwareComponent (h : PackageRows s.componentTable)
    (hp : ∀ c ∈ components, FirmwareCheckAnalyzeUtils.Parsed c)
    (hurl : ∀ c ∈ components, ∀ row ∈ s.componentTable.head?, row.url = c.url) :
    PackageRows (updateFirmwareComponent components s).componentTable := by
  unfold updateFirmwareComponent
  dsimp only
  split
  · exact h
  split
  · exact h
  generalize s.componentTable = table at h hurl
  -- every component writes the url that the first row has already
  induction components generalizing table with
  | nil => exact h
  | cons c components ih =>
    have hc := h.updateUrl_head fun row hrow => hurl c List.mem_cons_self row hrow
    rw [List.foldl_cons, (hp c List.mem_cons_self).versionId]
    refine ih (fun c' hc' => hp c' (List.mem_cons_of_mem c hc')) _ hc.1 fun c' hc' row hrow => ?_
    obtain ⟨row₀, hrow₀⟩ : ∃ row₀, row₀ ∈ table.head? := by
      rw [FirmwareComponentOperator.updateUrlByVersionId, List.updateWhere, List.head?_map] at hrow
      obtain ⟨row₀, hrow₀, -⟩ := Option.map_eq_some_iff.1 hrow
      exact ⟨row₀, hrow₀⟩
    rw [hc.2 row hrow, ← hurl c List.mem_cons_self row₀ hrow₀]
    exact hurl c' (List.mem_cons_of_mem c hc') row₀ hrow₀

theorem componentTable_clear (s : Firmware) : (FirmwareUpdateHelper.clearFirmwareInfo s).componentTable = [] := rfl

theorem packageRows_handleNewVersion (h : PackageRows s.componentTable) (calculateHashCode : String → String)
    (hp : ∀ c ∈ components, FirmwareCheckAnalyzeUtils.Parsed c) :
    PackageRows (handleNewVersion calculateHashCode components s).componentTable := by
  unfold handleNewVersion
  split
  · rename_i hsame
    have hurl := (url_of_isVersionSameWithDb h hp hsame).2
    refine packageRows_updateFirmwareComponent h hp fun c hc row hrow => ?_
    obtain ⟨row', hrow', -, -, he⟩ := hurl c hc
    rwa [Option.mem_unique hrow hrow']
  · dsimp only
    rw [componentTable_clear, List.nil_append]
    exact .buildComponentSPath hp

theorem packageRows_handleCheckResult (h : PackageRows s.componentTable) (calculateHashCode : String → String)
    (status : CheckStatus) (hp : ∀ c ∈ components, FirmwareCheckAnalyzeUtils.Parsed c) :
    PackageRows (handleCheckResult calculateHashCode status components s).componentTable := by
  unfold handleCheckResult
  split
  · exact h
  split
  · exact h
  split
  exacts [packageRows_handleNewVersion h calculateHashCode hp, .nil]

theorem packageRows_setDownloadCallbackInfo (h : PackageRows s.componentTable)
    (callbackInfo : FirmwareDownloadCallbackInfo) (processor : FirmwareDownloadDataProcessor) :
    PackageRows (FirmwareDownloadDataProcessor.setDownloadCallbackInfo callbackInfo (processor, s)).2.componentTable :=
  h.foldl callbackInfo.progressList fun _ p ht => ht.updateProgressByVersionId p.versionId _ _

theorem packageRows_resetTask (h : PackageRows s.componentTable) (task : FirmwareTask) :
    PackageRows (FirmwareManager.resetTask task s).componentTable :=
  h.foldl s.componentTable fun _ c ht => ht.updateProgressByVersionId c.versionId _ _

theorem packageRows_cancel (h : PackageRows s.componentTable) (ended : Nat → Bool) :
    PackageRows (UpdateServiceImplFirmware.cancel ended s).2.componentTable := by
  have hdo : PackageRows (FirmwareManager.doCancel ended {} s).2.componentTable := by
    unfold FirmwareManager.doCancel
    dsimp only
    split
    · exact h
    split
    · exact h
    split <;> exact packageRows_resetTask (by exact h) _
  unfold UpdateServiceImplFirmware.cancel
  dsimp only
  split <;> split <;> first | exact h | exact hdo

theorem packageRows_doInstall (h : PackageRows s.componentTable) (e : InstallExecution) :
    PackageRows (s.withExecution (fun e => (FirmwareInstallExecutor.doInstall e).1) e).componentTable := by
  unfold withExecution FirmwareInstallExecutor.doInstall
  dsimp only
  split
  · exact h
  · exact h.foldl s.componentTable fun _ c ht => ht.updateProgressByUrl c.url _ _

theorem packageRows_installProgress (h : PackageRows s.componentTable) (component : FirmwareComponent)
    (e : InstallExecution) :
    PackageRows (s.withExecution (FirmwareInstallExecutor.handleInstallProgress component) e).componentTable := by
  have hp := h.updateProgressByUrl component.url component.status component.progress
  unfold withExecution FirmwareInstallExecutor.handleInstallProgress FirmwareInstallExecutor.installCallback
  dsimp only
  split
  exacts [hp.updateWhere fun _ => rfl, hp]

theorem packageRows_preserved (p : JsonPlatform) (calculateHashCode : String → String) :
    (lts p calculateHashCode).Preserved fun s => PackageRows s.componentTable := by
  intro s op s' hs h
  cases op with
  | check status rawJson =>
    obtain rfl := Option.some.inj hs
    exact packageRows_handleCheckResult h calculateHashCode status fun c hc =>
      FirmwareCheckAnalyzeUtils.parsed_doAnalyze hc
  | download allowNetwork isMemoryEnough ended components processor =>
    obtain rfl := Option.some.inj hs
    unfold FirmwareDownloadExecutor.performDownload
    dsimp only
    split
    · exact h
    split
    · exact packageRows_setDownloadCallbackInfo (by exact h) _ _
    · exact h
  | downloadCallback callbackInfo processor =>
    obtain rfl := Option.some.inj hs
    exact packageRows_setDownloadCallbackInfo h callbackInfo processor
  | downloadEvent downloadTaskId eventId processor =>
    obtain rfl := Option.some.inj hs
    exact h
  | cancel ended =>
    obtain rfl := Option.some.inj hs
    exact packageRows_cancel h ended
  | doInstall e =>
    obtain rfl := Option.some.inj hs
    exact packageRows_doInstall h e
  | installProgress component e =>
    obtain rfl := Option.some.inj hs
    exact packageRows_installProgress h component e
  | installResult result errMsg status e =>
    obtain rfl := Option.some.inj hs
    exact h
  | manager op =>
    obtain ⟨downloads, -, rfl⟩ := Option.map_eq_some_iff.1 hs
    exact h

end Firmware

end UpdateService
