import UpdateService.SpaceCheck
import UpdateService.Proofs.CheckResult
import Mathlib.Algebra.Order.Group.Int

/-!
# What the space checks ask for

The sum of the sizes fits, as the analysis of an answer has seen to. `isSpaceEnough_eq_some_iff`: the check before a
download asks for what it should where no product with a percentage overflows. `refusesStart_eq_some_iff`: the check
of `Start` does so where the files on disk are not longer than the packages; the difference below zero is cast to the
largest of numbers.
-/

namespace UpdateService

theorem FileUtils.isSpaceEnough_eq {statfs : String → Option Statfs} {filePath : String} {x : Int} (h₀ : 0 ≤ x)
    (h : x ≤ 2 ^ 63 - 1) :
    isSpaceEnough statfs filePath x = decide (x ≤ freeSpace statfs filePath) := by
  unfold isSpaceEnough
  rw [Int.emod_eq_of_lt h₀ (by omega)]

theorem FileUtils.freeSpace_nonneg (statfs : String → Option Statfs) (filePath : String) :
    0 ≤ freeSpace statfs filePath := by
  unfold freeSpace
  split <;> omega

namespace FirmwareDownloadDataProcessor

/-- The summand of a component, without a range. -/
def required (c : FirmwareComponent) : Int := ((oneHundred - c.progress) * c.size).tdiv oneHundred

variable {c : FirmwareComponent} {rows : List FirmwareComponent} {statfs : String → Option Statfs}

theorem product_nonneg (hp : c.progress ≤ 100) (hs : 0 < c.size) : 0 ≤ (oneHundred - c.progress) * c.size := by
  have hrest : 0 ≤ oneHundred - c.progress := by unfold oneHundred; omega
  exact Int.mul_nonneg hrest hs.le

theorem required_nonneg (hp : c.progress ≤ 100) (hs : 0 < c.size) : 0 ≤ required c :=
  Int.tdiv_nonneg (product_nonneg hp hs) (by decide)

theorem required_le (hp : 0 ≤ c.progress ∧ c.progress ≤ 100) (hs : 0 < c.size) : required c ≤ c.size := by
  have hle : (oneHundred - c.progress) * c.size ≤ c.size * oneHundred := by
    rw [mul_comm c.size]
    exact Int.mul_le_mul_of_nonneg_right (by omega) hs.le
  unfold required
  rw [Int.tdiv_eq_ediv_of_nonneg (product_nonneg hp.2 hs)]
  exact Int.ediv_le_of_le_mul (by decide) hle

theorem requireSize_eq (hp : 0 ≤ c.progress ∧ c.progress ≤ 100) (hs : 0 < c.size) :
    requireSize c = if (oneHundred - c.progress) * c.size ≤ 2 ^ 63 - 1 then some (required c) else none := by
  have hrest : int32? (oneHundred - c.progress) = some (oneHundred - c.progress) := by
    refine Checked.fit_eq_some ?_ ?_ <;> unfold oneHundred <;> omega
  have hproduct := product_nonneg hp.2 hs
  unfold requireSize
  rw [hrest, Option.bind_eq_bind, Option.bind_some]
  split
  · rename_i hfit
    rw [int64?, Checked.fit_eq_some (by omega) hfit]
    rfl
  · rename_i hbig
    rw [int64?, Checked.fit, if_neg fun h => hbig h.2]
    rfl

theorem isSpaceEnough_eq_some_iff (statfs : String → Option Statfs)
    (hprogress : ∀ c ∈ rows, 0 ≤ c.progress ∧ c.progress ≤ 100)
    (hsize : ∀ c ∈ rows, 0 < c.size) (hsum : (rows.map (·.size)).sum ≤ 2 ^ 63 - 1) {x : Int × Bool} :
    isSpaceEnough statfs rows 0 = some x ↔ (∀ c ∈ rows, (oneHundred - c.progress) * c.size ≤ 2 ^ 63 - 1) ∧
      ((rows.map required).sum,
        decide ((rows.map required).sum ≤ FileUtils.freeSpace statfs dupdateEnginePackageRootPath)) = x := by
  have hle : (rows.map required).sum ≤ 2 ^ 63 - 1 :=
    (List.sum_le_sum fun c hc => required_le (hprogress c hc) (hsize c hc)).trans hsum
  have hnonneg : 0 ≤ (rows.map required).sum :=
    List.sum_map_nonneg fun c hc => required_nonneg (hprogress c hc).2 (hsize c hc)
  have hfits : (∀ c ∈ rows, requireSize c = some (required c)) ↔ ∀ c ∈ rows, (oneHundred - c.progress)
    * c.size ≤ 2 ^ 63 - 1 := by
    refine forall₂_congr fun c hc => ?_
    rw [requireSize_eq (hprogress c hc) (hsize c hc), Option.ite_none_right_eq_some, and_iff_left rfl]
  have hloop : ∀ t, Checked.sumFit (-2 ^ 63) (2 ^ 63 - 1) requireSize rows 0 = some t ↔
      ((∀ c ∈ rows, requireSize c = some (required c)) ∧ 0 + (rows.map required).sum ≤ 2 ^ 63 - 1) ∧
        0 + (rows.map required).sum = t := fun t => Checked.sumFit_eq_some_iff (by decide)
    (fun c hc a (ha : requireSize c = some a) => by
      rw [requireSize_eq (hprogress c hc) (hsize c hc), Option.ite_none_right_eq_some] at ha
      exact (Option.some.inj ha.2).symm)
    (fun c hc => required_nonneg (hprogress c hc).2 (hsize c hc)) le_rfl (by decide : (0 : Int) ≤ 2 ^ 63 - 1)
  unfold isSpaceEnough
  rw [Option.bind_eq_bind, Option.bind_eq_some_iff]
  simp only [hloop, hfits, zero_add, hle, and_true, and_assoc, exists_and_left, exists_eq_left']
  rw [FileUtils.isSpaceEnough_eq hnonneg hle]
  simp

end FirmwareDownloadDataProcessor

namespace DownloadTaskManager

theorem removeDuplicateVersionId_sublist (l : List DownloadInfo) : (removeDuplicateVersionId l).Sublist l := by
  have hfold : ∀ infos : List DownloadInfo, (l.foldl (fun infos d =>
      if infos.any fun d' => d'.versionId = d.versionId then infos else infos ++ [d]) infos).Sublist (infos ++ l) := by
    induction l with
    | nil => intro infos; simp
    | cons a l ih =>
      intro infos
      rw [List.foldl_cons]
      split
      · exact (ih infos).trans (List.sublist_cons_self a l |>.append_left infos)
      · simpa using ih (infos ++ [a])
  exact hfold []

end DownloadTaskManager

namespace DownloadTask

variable {taskId : String} {downloadInfos : List DownloadInfo} {fileSize : String → Int}
  {statfs : String → Option Statfs}

def totalPackageSize (downloadInfos : List DownloadInfo) : Int := (downloadInfos.map (·.packageSize)).sum

def totalFileSize (fileSize : String → Int) (downloadInfos : List DownloadInfo) : Int :=
  (downloadInfos.map fun d => fileSize d.path).sum

theorem totalOf_eq_some_iff {size : DownloadInfo → Int} (h : ∀ d ∈ downloadInfos, 0 ≤ size d) {t : Int} :
    totalOf size downloadInfos = some t ↔
      (downloadInfos.map size).sum ≤ 2 ^ 63 - 1 ∧ (downloadInfos.map size).sum = t := by
  unfold totalOf
  rw [Checked.sumFit_eq_some_iff (by decide) (fun d _ a ha => (Option.some.inj ha).symm) h le_rfl (by decide)]
  simp only [zero_add, implies_true, true_and]

theorem requiredSpace_eq_some_iff (hsize : ∀ d ∈ downloadInfos, 0 ≤ d.packageSize)
    (hsum : totalPackageSize downloadInfos ≤ 2 ^ 63 - 1) (hfile : ∀ path, 0 ≤ fileSize path) {size : Int} :
    requiredSpace taskId downloadInfos fileSize = some size ↔ totalFileSize fileSize downloadInfos ≤ 2 ^ 63 - 1 ∧
      totalPackageSize downloadInfos - totalFileSize fileSize downloadInfos = size := by
  have hp : ∀ t, totalOf (·.packageSize) (downloadInfos.map (initInfo taskId fileSize)) = some t ↔
      totalPackageSize downloadInfos = t := fun t => by
    rw [totalOf_eq_some_iff (by simpa [initInfo] using hsize), List.map_map]
    exact and_iff_right hsum
  have hd : ∀ t, totalOf (·.downloadedSize) (downloadInfos.map (initInfo taskId fileSize)) = some t ↔
      totalFileSize fileSize downloadInfos ≤ 2 ^ 63 - 1 ∧ totalFileSize fileSize downloadInfos = t := fun t => by
    rw [totalOf_eq_some_iff (by simpa [initInfo] using fun (d : DownloadInfo) _ => hfile d.path), List.map_map]
    exact Iff.rfl
  have hp₀ : 0 ≤ totalPackageSize downloadInfos := List.sum_map_nonneg hsize
  have hd₀ : 0 ≤ totalFileSize fileSize downloadInfos := List.sum_map_nonneg fun d _ => hfile d.path
  unfold requiredSpace
  simp only [Option.bind_eq_bind, Option.bind_eq_some_iff, hp, hd, exists_eq_left', and_assoc, exists_and_left]
  refine and_congr_right fun hfit => ?_
  rw [int64?, Checked.fit_eq_some_iff, and_iff_right ⟨by omega, by omega⟩]

theorem entries_ofInfos_eq_nil_iff (taskId : String) (fileSize : String → Int)
    (h : (downloadInfos.map (·.versionId)).Nodup) :
    (ofInfos taskId downloadInfos fileSize).service.infoMap.entries = [] ↔ downloadInfos = [] := by
  have hmem : ∀ d, d ∈ (ofInfos taskId downloadInfos fileSize).service.infoMap.entries ↔
      d ∈ downloadInfos.map (initInfo taskId fileSize) := fun d => KeyedList.mem_ofList (by rwa [List.map_map])
  rw [List.eq_nil_iff_forall_not_mem, ← List.map_eq_nil_iff (f := initInfo taskId fileSize),
    List.eq_nil_iff_forall_not_mem]
  exact forall_congr' fun d => not_congr (hmem d)

theorem getRootPath_ofInfos (taskId : String) (fileSize : String → Int)
    (h : ∀ d ∈ downloadInfos, d.dirType = .unEncryptDir) :
    (ofInfos taskId downloadInfos fileSize).service.infoMap.entries = [] ∨
      (ofInfos taskId downloadInfos fileSize).getRootPath = dupdateEnginePackageRootPath := by
  unfold getRootPath
  split
  · rename_i hnil
    exact .inl hnil
  · rename_i d rest hentries
    have hd : d ∈ (ofInfos taskId downloadInfos fileSize).service.infoMap.entries := hentries ▸ List.mem_cons_self
    obtain ⟨d', hd', rfl⟩ := List.mem_map.1 (KeyedList.mem_of_mem_ofList hd)
    exact .inr (if_neg (by rw [initInfo, h d' hd']; decide))

/-- The records of a task for packages whose sizes have been checked. -/
structure IsPackages (downloadInfos : List DownloadInfo) : Prop where
  nodup : (downloadInfos.map (·.versionId)).Nodup
  dirType : ∀ d ∈ downloadInfos, d.dirType = .unEncryptDir
  packageSize : ∀ d ∈ downloadInfos, 0 ≤ d.packageSize
  sum : totalPackageSize downloadInfos ≤ 2 ^ 63 - 1

/-- A difference below zero becomes a number of the upper half of the `uint64_t`. -/
theorem refusesStart_eq (h : IsPackages downloadInfos) (hfile : ∀ path, 0 ≤ fileSize path)
    (hfit : totalFileSize fileSize downloadInfos ≤ 2 ^ 63 - 1) :
    refusesStart statfs taskId downloadInfos fileSize = some (decide (downloadInfos ≠ [] ∧
      FileUtils.freeSpace statfs dupdateEnginePackageRootPath <
        (totalPackageSize downloadInfos - totalFileSize fileSize downloadInfos) % 2 ^ 64)) := by
  have hrequired : requiredSpace taskId downloadInfos fileSize =
      some (totalPackageSize downloadInfos - totalFileSize fileSize downloadInfos) :=
    (requiredSpace_eq_some_iff h.packageSize h.sum hfile).2 ⟨hfit, rfl⟩
  have hentries := entries_ofInfos_eq_nil_iff taskId fileSize h.nodup
  unfold refusesStart
  rw [hrequired, Option.bind_eq_bind, Option.bind_some]
  rcases getRootPath_ofInfos taskId fileSize h.dirType with hnil | hroot
  · rw [hnil, decide_eq_false fun hn => hn rfl, decide_eq_false fun hn => hn.1 (hentries.1 hnil), Bool.false_and]
    rfl
  · have hlong : ¬ dupdateEnginePackageRootPath.length < downloadMinPathLen := by decide
    rw [isMemoryEnough, hroot, if_neg hlong, FileUtils.isSpaceEnough]
    simp only [← decide_not, not_le, ← Bool.decide_and, ne_eq, hentries]
    rfl

/-- The check is the one by which `start` refuses. -/
theorem start_of_refusesStart {business : Bool} {error : DownloadError} {s : TaskState} {size : Int}
    (ht : s.task = ofInfos taskId downloadInfos fileSize)
    (hsize : requiredSpace taskId downloadInfos fileSize = some size)
    (h : refusesStart statfs taskId downloadInfos fileSize = some true) :
    s.start business (s.task.isMemoryEnough statfs size) error =
      (⟨.noEnoughMemory, .fail⟩, s.setCallback (some business)) := by
  unfold refusesStart at h
  rw [hsize, ← ht] at h
  obtain ⟨hentries, hm⟩ : s.task.service.infoMap.entries ≠ [] ∧ s.task.isMemoryEnough statfs size = false := by
    simpa using h
  rw [TaskState.start, if_neg hentries, hm]
  rfl

/-- For `Start` alone: the answer is exact, whatever is free, unless the files are longer than the packages. -/
theorem refusesStart_exact_iff (taskId : String) (h : IsPackages downloadInfos) (hfile : ∀ path, 0 ≤ fileSize path) :
    (∀ statfs, refusesStart statfs taskId downloadInfos fileSize = some (decide
      (FileUtils.freeSpace statfs dupdateEnginePackageRootPath <
        max 0 (totalPackageSize downloadInfos - totalFileSize fileSize downloadInfos)))) ↔
      totalFileSize fileSize downloadInfos ≤ totalPackageSize downloadInfos := by
  have hsum := h.sum
  have hpackage₀ : 0 ≤ totalPackageSize downloadInfos := List.sum_map_nonneg h.packageSize
  have hfile₀ : 0 ≤ totalFileSize fileSize downloadInfos := List.sum_map_nonneg fun d _ => hfile d.path
  have hnil : downloadInfos = [] → totalPackageSize downloadInfos = 0 ∧ totalFileSize fileSize downloadInfos = 0 := by
    rintro rfl
    exact ⟨rfl, rfl⟩
  constructor
  · intro hexact
    -- where nothing is free, a start that asks for less than nothing is to pass
    have hstart := hexact fun _ => none
    obtain ⟨size, hsize⟩ : ∃ size, requiredSpace taskId downloadInfos fileSize = some size := by
      unfold refusesStart at hstart
      rw [Option.bind_eq_bind, Option.bind_eq_some_iff] at hstart
      obtain ⟨size, hsize, -⟩ := hstart
      exact ⟨size, hsize⟩
    have hfit := ((requiredSpace_eq_some_iff h.packageSize hsum hfile).1 hsize).1
    rw [refusesStart_eq h hfile hfit, Option.some.injEq, decide_eq_decide] at hstart
    simp only [FileUtils.freeSpace] at hstart
    by_contra hlong
    have hrefused := hstart.1 ⟨fun he => by have := hnil he; omega, by omega⟩
    omega
  · intro hfiles statfs
    have hfree := FileUtils.freeSpace_nonneg statfs dupdateEnginePackageRootPath
    rw [refusesStart_eq h hfile (hfiles.trans hsum), Option.some.injEq, decide_eq_decide,
      Int.emod_eq_of_lt (by omega) (by omega), max_eq_right (by omega), and_iff_right_iff_imp]
    intro hlt he
    have := hnil he
    omega

end DownloadTask

/-! ### Both checks of a list -/

namespace FirmwareDownloadExecutor
open FirmwareDownloadDataProcessor DownloadTask FirmwareCheckAnalyzeUtils

/-- The records of the task that `PerformDownload` starts. -/
def startedInfos (allowNetwork : NetType) (rows : List FirmwareComponent) : List DownloadInfo :=
  DownloadTaskManager.removeDuplicateVersionId (buildDownloadInfos allowNetwork rows)

/-- Whatever space is free, both checks come to an answer, the one of the formulas in unbounded integers. -/
structure SpacesExact (allowNetwork : NetType) (taskId : String) (fileSize : String → Int)
    (rows : List FirmwareComponent) : Prop where
  download (statfs : String → Option Statfs) : isSpaceEnough statfs rows 0 =
    some ((rows.map required).sum,
      !decide (FileUtils.freeSpace statfs dupdateEnginePackageRootPath < max 0 (rows.map required).sum))
  start (statfs : String → Option Statfs) : refusesStart statfs taskId (startedInfos allowNetwork rows) fileSize =
    some (decide (FileUtils.freeSpace statfs dupdateEnginePackageRootPath <
      max 0 (totalPackageSize (startedInfos allowNetwork rows) -
        totalFileSize fileSize (startedInfos allowNetwork rows))))

variable {allowNetwork : NetType} {rows : List FirmwareComponent}

theorem totalPackageSize_startedInfos_le (hsize : ∀ c ∈ rows, 0 < c.size) :
    totalPackageSize (startedInfos allowNetwork rows) ≤ (rows.map (·.size)).sum := by
  have hsub := (DownloadTaskManager.removeDuplicateVersionId_sublist
    (buildDownloadInfos allowNetwork rows)).map (·.packageSize)
  have hall : (buildDownloadInfos allowNetwork rows).map (·.packageSize) = rows.map (·.size) := List.map_map
  refine (hsub.sum_le_sum fun x hx => ?_).trans_eq (congrArg List.sum hall)
  rw [hall] at hx
  obtain ⟨c, hc, rfl⟩ := List.mem_map.1 hx
  exact (hsize c hc).le

theorem isPackages_startedInfos (allowNetwork : NetType) (hsize : ∀ c ∈ rows, 0 < c.size)
    (hsum : (rows.map (·.size)).sum ≤ 2 ^ 63 - 1) :
    IsPackages (startedInfos allowNetwork rows) := by
  have hmem : ∀ d ∈ startedInfos allowNetwork rows, ∃ c ∈ rows, c.size = d.packageSize ∧ d.dirType = .unEncryptDir := by
    intro d hd
    have hd' := DownloadTaskManager.mem_of_mem_removeDuplicateVersionId hd
    obtain ⟨c, hc, rfl⟩ := List.mem_map.1 hd'
    exact ⟨c, hc, rfl, rfl⟩
  refine ⟨DownloadTaskManager.nodup_removeDuplicateVersionId _, fun d hd => ?_, fun d hd => ?_,
    (totalPackageSize_startedInfos_le hsize).trans hsum⟩
  · obtain ⟨c, -, -, hdir⟩ := hmem d hd
    exact hdir
  · obtain ⟨c, hc, he, -⟩ := hmem d hd
    exact he ▸ (hsize c hc).le

/-- For the rows of a list that the analysis has handed out, with any progress and any files. -/
theorem spacesExact_iff (p : JsonPlatform) (rawJson responseStatus taskId : String) (allowNetwork : NetType)
    (fileSize : String → Int) (rows : List FirmwareComponent)
    (hrows : rows.map (·.size) = (doAnalyze p rawJson [] responseStatus).1.map (·.size))
    (hprogress : ∀ c ∈ rows, 0 ≤ c.progress ∧ c.progress ≤ 100) (hfile : ∀ path, 0 ≤ fileSize path) :
    SpacesExact allowNetwork taskId fileSize rows ↔
      (∀ c ∈ rows, (100 - c.progress) * c.size ≤ 2 ^ 63 - 1) ∧
        totalFileSize fileSize (startedInfos allowNetwork rows) ≤
          totalPackageSize (startedInfos allowNetwork rows) := by
  have hsum : (rows.map (·.size)).sum ≤ 2 ^ 63 - 1 := hrows ▸ sum_size_doAnalyze p rawJson _
  have hsize : ∀ c ∈ rows, 0 < c.size := by
    intro c hc
    have hmem := hrows ▸ List.mem_map_of_mem (f := FirmwareComponent.size) hc
    obtain ⟨c', hc', he⟩ := List.mem_map.1 hmem
    obtain ⟨item, hitem⟩ := mem_doAnalyze hc'
    exact he ▸ size_pos_of_processCheckResult hitem
  have hnonneg : 0 ≤ (rows.map required).sum :=
    List.sum_map_nonneg fun c hc => required_nonneg (hprogress c hc).2 (hsize c hc)
  have hstart := refusesStart_exact_iff taskId (isPackages_startedInfos allowNetwork hsize hsum) hfile
  have hdownload := fun statfs => isSpaceEnough_eq_some_iff statfs hprogress hsize hsum
    (x := ((rows.map required).sum,
      !decide (FileUtils.freeSpace statfs dupdateEnginePackageRootPath < max 0 (rows.map required).sum)))
  constructor
  · intro h
    exact ⟨((hdownload fun _ => none).1 (h.download _)).1, hstart.1 h.start⟩
  · rintro ⟨hproducts, hfiles⟩
    refine ⟨fun statfs => (hdownload statfs).2 ⟨hproducts, ?_⟩, hstart.2 hfiles⟩
    simp only [max_eq_right hnonneg, ← decide_not, not_lt]

theorem spacesExact_one_byte : SpacesExact .cellular "task" (fun _ => 0) (handedOut [package "base" 1]) :=
  (spacesExact_iff _ "" "" "task" .cellular (fun _ => 0) _ rfl (by decide +kernel) fun _ => le_rfl).2
    (by decide +kernel)

/-- A disk with four TiB free. -/
def roomy (_ : String) : Option Statfs := some ⟨4096, 2 ^ 30⟩

/-- A package of `2 ^ 62` bytes of which nothing has been downloaded: the product overflows. A package of one byte with
a file of two: `Start` asks for all but one of `2 ^ 64` bytes. -/
theorem not_spacesExact :
    isSpaceEnough roomy (handedOut [package "base" (2 ^ 62)]) 0 = none ∧
      ¬ SpacesExact .cellular "task" (fun _ => 0) (handedOut [package "base" (2 ^ 62)]) ∧
      refusesStart roomy "task" (startedInfos .cellular (handedOut [package "base" 1])) (fun _ => 2) = some true ∧
      ¬ SpacesExact .cellular "task" (fun _ => 2) (handedOut [package "base" 1]) := by
  have hnone : isSpaceEnough roomy (handedOut [package "base" (2 ^ 62)]) 0 = none := by decide +kernel
  have hrefused : refusesStart roomy "task" (startedInfos .cellular (handedOut [package "base" 1])) (fun _ => 2) =
      some true := by decide +kernel
  refine ⟨hnone, fun h => ?_, hrefused, fun h => ?_⟩
  · exact absurd (hnone.symm.trans (h.download roomy)) (by simp)
  · exact absurd (hrefused.symm.trans (h.start roomy)) (by decide +kernel)

end FirmwareDownloadExecutor

end UpdateService
