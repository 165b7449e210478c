import UpdateService.FirmwareSystem
import UpdateService.ManagerRun

/-!
# From the packages of an answer to the downloads

The way from the rows to the sub-downloads and back goes over the version id alone. It is the right one for
rows with different version ids (`EveryPackageDownloaded.of_nodup`), but the analysis of the answer leaves the
version id of every row empty.
-/

namespace UpdateService

namespace DownloadTaskManager
variable {calculateHashCode : String → String} {downloadInfos : List DownloadInfo} {m : DownloadTaskManager}

/-- The task object that `Start` makes. -/
def startedTask (calculateHashCode : String → String) (downloadInfos : List DownloadInfo) (fileSize : String → Int) :
    DownloadTask :=
  .ofInfos (getTaskId calculateHashCode (removeDuplicateVersionId downloadInfos)) (removeDuplicateVersionId downloadInfos)
    fileSize

/-- Behind the tasks there were stands the one for the same downloads, unless starting it has failed. -/
theorem task_of_start {business isMemoryEnough : Bool} {ended : Nat → Bool} {t : DownloadTask}
    (hne : downloadInfos ≠ [])
    (ht : (m.start calculateHashCode downloadInfos business isMemoryEnough ended).2.task?
      (m.removeDirtyTask (getTaskId calculateHashCode (removeDuplicateVersionId downloadInfos)) ended).tasks.length = some t) :
    SameTask (startedTask calculateHashCode downloadInfos
      (m.removeDirtyTask (getTaskId calculateHashCode (removeDuplicateVersionId downloadInfos)) ended).outside.fileSize) t := by
  obtain ⟨error, he⟩ := start_eq calculateHashCode business isMemoryEnough ended hne m
  rw [he] at ht
  obtain ⟨t₀, ht₀, hsame⟩ := task_of_startTask ht
  rw [task?_newTask, if_pos rfl] at ht₀
  rwa [← Option.some.inj ht₀] at hsame

theorem removeDuplicateVersionId_of_nodup {l : List DownloadInfo} (h : (l.map (·.versionId)).Nodup) :
    removeDuplicateVersionId l = l := by
  have hfold : ∀ l infos : List DownloadInfo, ((infos ++ l).map (·.versionId)).Nodup → l.foldl
      (fun infos d => if infos.any fun d' => d'.versionId = d.versionId then infos else infos ++ [d]) infos = infos ++ l := by
    intro l
    induction l with
    | nil => exact fun infos _ => (List.append_nil infos).symm
    | cons a l ih =>
      intro infos hn
      have ha : (infos.any fun d' => d'.versionId = a.versionId) = false := by
        rw [List.any_eq_false]
        intro d hd he
        rw [List.map_append, List.nodup_append] at hn
        exact hn.2.2 d.versionId (List.mem_map_of_mem hd) a.versionId (by simp) (by simpa using he)
      rw [List.foldl_cons, ha, if_neg Bool.false_ne_true, ih _ (by rwa [List.append_assoc]), List.append_assoc]
      rfl
  exact hfold l [] h

end DownloadTaskManager

namespace FirmwareDownloadExecutor
open DownloadTaskManager

/-- The row of a component the server has sent. -/
structure StoredAs (c row : FirmwareComponent) : Prop where
  url : row.url = c.url
  spath : row.spath = Firmware.packagePath ++ "/" ++ c.fileName
  size : row.size = c.size
  verifyInfo : row.verifyInfo = c.verifyInfo

/-- The request for a component the server has sent. -/
structure Requests (c : FirmwareComponent) (d : DownloadInfo) : Prop where
  url : d.url = c.url
  path : d.path = Firmware.packagePath ++ "/" ++ c.fileName
  packageSize : d.packageSize = c.size
  verifyInfo : d.verifyInfo = c.verifyInfo

/-- The task `t`, started for the rows of `table`, downloads the packages of `components`. -/
structure EveryPackageDownloaded (components table : List FirmwareComponent) (t : DownloadTask) : Prop where
  rows : List.Forall₂ StoredAs components table
  ids : t.downloadIds.Nodup
  only : ∀ d ∈ t.service.infoMap.entries, d.downloadId ∈ t.downloadIds
  packages : List.Forall₂ (fun c id => ∃ d, t.service.infoMap.find? id = some d ∧ Requests c d) components t.downloadIds
  /-- A report on one sub-download changes its row and no other. -/
  writeBack : ∀ i id d, t.downloadIds[i]? = some id → t.service.infoMap.find? id = some d →
    ∀ (p : DownloadProgress) (info : ProgressInfo), p.id = (DownloadProgress.ofInfo d).id → info.progresses = [p] →
    ∀ (taskId : String) (processor : FirmwareDownloadDataProcessor) (s : Firmware), s.componentTable = table →
      (FirmwareDownloadDataProcessor.setDownloadCallbackInfo (callbackProgress taskId info) (processor, s)).2.componentTable =
        table.modify i fun c => { c with status := upgradeStatus p.status, progress := castInt32 p.percent }

variable {calculateHashCode : String → String} {allowNetwork : NetType} {fileSize : String → Int}
  {components table : List FirmwareComponent}

theorem versionId_buildDownloadInfos (allowNetwork : NetType) (table : List FirmwareComponent) :
    (buildDownloadInfos allowNetwork table).map (·.versionId) = table.map (·.versionId) := by
  rw [buildDownloadInfos, List.map_map]
  rfl

theorem downloadIds_startedTask (downloadInfos : List DownloadInfo) :
    (startedTask calculateHashCode downloadInfos fileSize).downloadIds =
      (removeDuplicateVersionId downloadInfos).map (·.versionId) := by
  unfold startedTask DownloadTask.ofInfos
  simp only [List.map_map]
  rfl

theorem downloadId_of_mem_startedTask {downloadInfos : List DownloadInfo} {d : DownloadInfo}
    (hd : d ∈ (startedTask calculateHashCode downloadInfos fileSize).service.infoMap.entries) :
    d.downloadId ∈ (startedTask calculateHashCode downloadInfos fileSize).downloadIds := by
  have hkeys : (((removeDuplicateVersionId downloadInfos).map (DownloadTask.initInfo
      (getTaskId calculateHashCode (removeDuplicateVersionId downloadInfos)) fileSize)).map (·.downloadId)).Nodup := by
    rw [List.map_map]
    exact nodup_removeDuplicateVersionId downloadInfos
  exact List.mem_map_of_mem ((KeyedList.mem_ofList hkeys).1 hd)

variable (calculateHashCode) (allowNetwork) (fileSize) in
theorem find?_startedTask (hnodup : (table.map (·.versionId)).Nodup) {row : FirmwareComponent} (hrow : row ∈ table) :
    ∃ d, (startedTask calculateHashCode (buildDownloadInfos allowNetwork table) fileSize).service.infoMap.find? row.versionId =
        some d ∧ d.versionId = row.versionId ∧ d.url = row.url ∧ d.path = row.spath ∧ d.packageSize = row.size ∧
      d.verifyInfo = row.verifyInfo := by
  have hinfos := removeDuplicateVersionId_of_nodup
    (l := buildDownloadInfos allowNetwork table) (by rwa [versionId_buildDownloadInfos])
  unfold startedTask DownloadTask.ofInfos
  rw [hinfos]
  set infos := (buildDownloadInfos allowNetwork table).map
    (DownloadTask.initInfo (getTaskId calculateHashCode (buildDownloadInfos allowNetwork table)) fileSize) with hdef
  have hkeys : (infos.map (·.downloadId)).Nodup := by
    rw [hdef, buildDownloadInfos, List.map_map, List.map_map]
    exact hnodup
  refine ⟨_, KeyedList.find?_eq_some.2 ⟨(KeyedList.mem_ofList hkeys).2
    (List.mem_map_of_mem (List.mem_map_of_mem hrow)), rfl⟩, rfl, rfl, rfl, rfl, rfl⟩

theorem EveryPackageDownloaded.of_nodup (hrows : List.Forall₂ StoredAs components table)
    (hnodup : (table.map (·.versionId)).Nodup) :
    EveryPackageDownloaded components table
      (startedTask calculateHashCode (buildDownloadInfos allowNetwork table) fileSize) := by
  have hids : (startedTask calculateHashCode (buildDownloadInfos allowNetwork table) fileSize).downloadIds =
      table.map (·.versionId) := by
    rw [downloadIds_startedTask, removeDuplicateVersionId_of_nodup (by rwa [versionId_buildDownloadInfos]),
      versionId_buildDownloadInfos]
  refine ⟨hrows, by rwa [hids], fun d hd => downloadId_of_mem_startedTask hd, ?_,
    fun i id d hi hd p info hp hinfo taskId processor s hs => ?_⟩
  · rw [hids, List.forall₂_map_right_iff, List.forall₂_iff_zip]
    refine ⟨hrows.length_eq, fun {c row} hcr => ?_⟩
    have hstored := (List.forall₂_iff_zip.1 hrows).2 hcr
    obtain ⟨d, hd, -, hurl, hpath, hsize, hverify⟩ :=
      find?_startedTask calculateHashCode allowNetwork fileSize hnodup (List.of_mem_zip hcr).2
    exact ⟨d, hd, hurl.trans hstored.url, hpath.trans hstored.spath, hsize.trans hstored.size,
      hverify.trans hstored.verifyInfo⟩
  · rw [hids, List.getElem?_map] at hi
    obtain ⟨row, hrow, rfl⟩ := Option.map_eq_some_iff.1 hi
    obtain ⟨d', hd', hversion, -⟩ := find?_startedTask calculateHashCode allowNetwork fileSize hnodup (List.mem_of_getElem? hrow)
    obtain rfl := Option.some.inj (hd.symm.trans hd')
    have hid : p.id = row.versionId := hp.trans hversion
    simp only [FirmwareDownloadDataProcessor.setDownloadCallbackInfo, callbackProgress, hinfo, List.map_singleton,
      List.foldl_cons, List.foldl_nil, hs]
    rw [← List.updateWhere_key hnodup hrow, ← hid]
    rfl

theorem length_downloadIds_le (h : PackageRows table) :
    (startedTask calculateHashCode (buildDownloadInfos allowNetwork table) fileSize).downloadIds.length ≤ 1 := by
  rw [downloadIds_startedTask]
  have hnodup := nodup_removeDuplicateVersionId (buildDownloadInfos allowNetwork table)
  have hempty : ∀ id ∈ (removeDuplicateVersionId (buildDownloadInfos allowNetwork table)).map (·.versionId), id = "" := by
    intro id hid
    obtain ⟨d, hd, rfl⟩ := List.mem_map.1 hid
    obtain ⟨row, hrow, rfl⟩ := List.mem_map.1 (mem_of_mem_removeDuplicateVersionId hd)
    exact h.versionId row hrow
  rw [List.eq_replicate_of_mem hempty, List.nodup_replicate] at hnodup
  exact hnodup

end FirmwareDownloadExecutor

namespace FirmwareCheckDataProcessor
open FirmwareDownloadExecutor
variable {calculateHashCode : String → String} {components : List FirmwareComponent} {s : Firmware}

theorem storedAs_buildComponentSPath (components : List FirmwareComponent) :
    List.Forall₂ StoredAs components (buildComponentSPath components) := by
  rw [buildComponentSPath, List.forall₂_map_right_iff, List.forall₂_same]
  exact fun c _ => ⟨rfl, rfl, rfl, rfl⟩

theorem storedAs_updateFirmwareComponent (h : PackageRows s.componentTable)
    (hp : ∀ c ∈ components, FirmwareCheckAnalyzeUtils.Parsed c) (hlen : components.length ≤ 1)
    (hsame : isVersionSameWithDb components s.componentTable = true) :
    List.Forall₂ StoredAs components (updateFirmwareComponent components s).componentTable := by
  obtain ⟨hlength, hrow⟩ := Firmware.url_of_isVersionSameWithDb h hp hsame
  rcases components with - | ⟨c, - | ⟨c', cs⟩⟩
  · have hnil : (updateFirmwareComponent [] s).componentTable = s.componentTable := by
      unfold updateFirmwareComponent
      dsimp only
      split
      · rfl
      split <;> rfl
    rw [hnil, List.length_eq_zero_iff.1 hlength]
    exact .nil
  · obtain ⟨row, hhead, hsize, hverify, hurl⟩ := hrow c List.mem_cons_self
    obtain ⟨row', htable⟩ := List.length_eq_one_iff.1 hlength
    rw [htable] at hhead h
    obtain rfl : row' = row := Option.some.inj hhead
    have hspath : row'.spath = Firmware.packagePath ++ "/" ++ c.fileName := by
      rw [h.spath row' rfl, hurl, (hp c List.mem_cons_self).fileName]
    have hold : List.Forall₂ StoredAs [c] s.componentTable := by
      rw [htable]
      exact .cons ⟨hurl, hspath, hsize, hverify⟩ .nil
    unfold updateFirmwareComponent
    dsimp only
    split
    · exact hold
    split
    · exact hold
    · rw [List.foldl_cons, List.foldl_nil, htable, FirmwareComponentOperator.updateUrlByVersionId, List.updateWhere,
        List.map_singleton, h.versionId row' List.mem_cons_self, (hp c List.mem_cons_self).versionId]
      exact .cons ⟨rfl, hspath, hsize, hverify⟩ .nil
  · exact absurd hlen (by simp)

theorem storedAs_handleNewVersion (h : PackageRows s.componentTable)
    (hp : ∀ c ∈ components, FirmwareCheckAnalyzeUtils.Parsed c) (hlen : components.length ≤ 1) :
    List.Forall₂ StoredAs components (handleNewVersion calculateHashCode components s).componentTable := by
  unfold handleNewVersion
  split
  · rename_i hsame
    exact storedAs_updateFirmwareComponent h hp hlen hsame
  · exact storedAs_buildComponentSPath components

/-- An element of `checkResults`. -/
def samplePackageJson (name verifyInfo : String) (size : Rat) : Json :=
  .object [("descriptPackageId", .string "d"), ("url", .string ("http://s/" ++ name)), ("size", .number (.finite size)),
    ("verifyInfo", .string verifyInfo), ("versionCode", .string "2"), ("versionName", .string "v2"),
    ("packageType", .number (.finite 1)), ("otaType", .number (.finite 0))]

/-- A platform on which every text is an answer with these packages. -/
def sampleAnswer (packages : List Json) : JsonPlatform where
  parse _ := some (.object [("searchStatus", .number (.finite 0)), ("checkResults", .array packages),
    ("descriptInfo", .array [])])
  convert _ _ := 0
  indeterminate := 0

end FirmwareCheckDataProcessor

end UpdateService
