import UpdateService.Proofs.PackageDownload

/-!
# Task ids

`getTaskId` hashes the sorted version ids with nothing between them. So an empty version id leaves no trace, a version
id that occurs twice leaves two, and two sets of version ids that cut the same string have the same id.
-/

namespace UpdateService

/-- `pieces`, one after the other, are `text`. -/
inductive Cut : String → List String → Prop
  | nil : Cut "" []
  | cons (piece : String) {text : String} {pieces : List String} : Cut text pieces → Cut (piece ++ text) (piece :: pieces)

namespace Cut
variable {text piece : String} {pieces pieces' : List String}

theorem cons_iff : Cut text (piece :: pieces) ↔ ∃ rest, text = piece ++ rest ∧ Cut rest pieces := by
  constructor
  · rintro ⟨⟩
    exact ⟨_, rfl, by assumption⟩
  · rintro ⟨rest, rfl, h⟩
    exact .cons piece h

theorem iff_join : Cut text pieces ↔ String.join pieces = text := by
  induction pieces generalizing text with
  | nil =>
    constructor
    · rintro ⟨⟩
      rfl
    · rintro rfl
      exact .nil
  | cons piece pieces ih =>
    rw [cons_iff, String.join_cons]
    constructor
    · rintro ⟨rest, rfl, h⟩
      rw [ih.1 h]
    · rintro rfl
      exact ⟨_, rfl, ih.2 rfl⟩

/-- A string is cut into pieces of one length in one way. -/
theorem eq_of_length {n : Nat} (hn : 0 < n) (h : Cut text pieces) (h' : Cut text pieces')
    (hlen : ∀ p ∈ pieces, p.length = n) (hlen' : ∀ p ∈ pieces', p.length = n) : pieces = pieces' := by
  have hempty : ∀ {p : String} {ps : List String}, p.length = n → ¬ Cut "" (p :: ps) := by
    intro p ps hp hcut
    obtain ⟨rest, heq, -⟩ := cons_iff.1 hcut
    have hlength := congrArg String.length heq
    rw [String.length_append, String.length_empty, hp] at hlength
    omega
  induction h generalizing pieces' with
  | nil =>
    cases pieces' with
    | nil => rfl
    | cons piece pieces' => exact absurd h' (hempty (hlen' piece List.mem_cons_self))
  | @cons piece text pieces hcut ih =>
    cases pieces' with
    | nil =>
      have hnil : piece ++ text = "" := (iff_join.1 h').symm
      exact absurd (hnil ▸ hcut.cons piece) (hempty (hlen piece List.mem_cons_self))
    | cons piece' pieces' =>
      obtain ⟨rest, heq, hrest⟩ := cons_iff.1 h'
      rw [← String.toList_inj, String.toList_append, String.toList_append] at heq
      obtain ⟨hpiece, htext⟩ := List.append_inj heq (by
        rw [String.length_toList, String.length_toList, hlen piece List.mem_cons_self, hlen' piece' List.mem_cons_self])
      rw [String.toList_inj] at hpiece htext
      rw [hpiece, ih (htext ▸ hrest) (fun p hp => hlen p (List.mem_cons_of_mem _ hp))
        fun p hp => hlen' p (List.mem_cons_of_mem _ hp)]

end Cut

/-! ### Sorted version ids -/

namespace DownloadTaskManager
variable {ids ids' : List String}

def sorted (ids : List String) : List String := ids.insertionSort (· ≤ ·)

theorem getTaskId_eq (calculateHashCode : String → String) (downloadInfos : List DownloadInfo) :
    getTaskId calculateHashCode downloadInfos = calculateHashCode (String.join (sorted (downloadInfos.map (·.versionId)))) := rfl

theorem sorted_eq_of_perm (h : ids.Perm ids') : sorted ids = sorted ids' :=
  ((List.perm_insertionSort _ ids).trans (h.trans (List.perm_insertionSort _ ids').symm)).eq_of_sortedLE
    List.sortedLE_insertionSort List.sortedLE_insertionSort

theorem sorted_eq_iff (h : ids.Nodup) (h' : ids'.Nodup) : sorted ids = sorted ids' ↔ ∀ v, v ∈ ids ↔ v ∈ ids' := by
  constructor
  · intro heq v
    rw [← List.mem_insertionSort (· ≤ ·) (l := ids), ← List.mem_insertionSort (· ≤ ·) (l := ids')]
    show v ∈ sorted ids ↔ v ∈ sorted ids'
    rw [heq]
  · intro hmem
    exact sorted_eq_of_perm ((List.perm_ext_iff_of_nodup h h').2 hmem)

/-- An empty version id leaves no trace. -/
theorem join_filter (ids : List String) : String.join (ids.filter (· ≠ "")) = String.join ids := by
  induction ids with
  | nil => rfl
  | cons v ids ih =>
    rw [List.filter_cons]
    split
    · rw [String.join_cons, String.join_cons, ih]
    · rename_i hv
      rw [String.join_cons, ih, show v = "" by simpa using hv, String.empty_append]

theorem filter_sorted (p : String → Bool) (ids : List String) : (sorted ids).filter p = sorted (ids.filter p) :=
  (((List.perm_insertionSort _ ids).filter p).trans (List.perm_insertionSort _ (ids.filter p)).symm).eq_of_sortedLE
    (List.sortedLE_insertionSort.pairwise.filter p).sortedLE List.sortedLE_insertionSort

theorem length_join_sorted (ids : List String) : (String.join (sorted ids)).length = (ids.map String.length).sum := by
  rw [String.length_join]
  exact ((List.perm_insertionSort _ ids).map _).sum_nat

/-- The copies of a version id can be left out exactly if they are empty. -/
theorem join_sorted_dedup_iff : String.join (sorted ids) = String.join (sorted ids.dedup) ↔
    ∀ v, v ≠ "" → ids.count v ≤ 1 := by
  constructor
  · intro heq v hv
    by_contra hcount
    have hle : ∀ x ∈ v :: ids.dedup, (v :: ids.dedup).count x ≤ ids.count x := by
      intro x _
      rw [List.count_cons]
      split
      · rename_i hx
        have hone := List.nodup_iff_count_le_one.1 (List.nodup_dedup ids) x
        rw [← beq_iff_eq.1 hx] at hone ⊢
        omega
      · exact (List.dedup_sublist ids).count_le x
    have hsum := ((List.subperm_append_diff_self_of_count_le hle).map String.length).sum_nat
    have hlength := congrArg String.length heq
    rw [length_join_sorted, length_join_sorted] at hlength
    rw [List.map_append, List.sum_append, List.map_cons, List.sum_cons] at hsum
    exact hv (String.length_eq_zero_iff.1 (by omega))
  · intro hcount
    rw [← join_filter (sorted ids), ← join_filter (sorted ids.dedup), filter_sorted, filter_sorted]
    congr 1
    refine (sorted_eq_iff ?_ ((List.nodup_dedup ids).filter _)).2 fun v => ?_
    · refine List.nodup_iff_count_le_one.2 fun v => ?_
      by_cases hv : v = ""
      · rw [List.count_eq_zero.2 (by simp [hv])]
        exact Nat.zero_le 1
      · rw [List.count_filter (by simpa using hv)]
        exact hcount v hv
    · rw [List.mem_filter, List.mem_filter, List.mem_dedup]

/-! ### One id for a set of version ids -/

/-- The ids of two sets of version ids are the same exactly if both cut the same string. -/
theorem getTaskId_eq_iff {calculateHashCode : String → String} (hinj : Function.Injective calculateHashCode)
    {a b : List DownloadInfo} : getTaskId calculateHashCode a = getTaskId calculateHashCode b ↔
      ∃ text, Cut text (sorted (a.map (·.versionId))) ∧ Cut text (sorted (b.map (·.versionId))) := by
  rw [getTaskId_eq, getTaskId_eq, hinj.eq_iff]
  simp only [Cut.iff_join]
  constructor
  · intro heq
    exact ⟨_, heq, rfl⟩
  · rintro ⟨text, ha, hb⟩
    rw [ha, hb]

/-- So it does where all version ids have one length. -/
theorem identifies_of_length {calculateHashCode : String → String} (hinj : Function.Injective calculateHashCode)
    {a b : List DownloadInfo} {n : Nat} (hn : 0 < n) (hlena : ∀ d ∈ a, d.versionId.length = n)
    (hlenb : ∀ d ∈ b, d.versionId.length = n) (heq : getTaskId calculateHashCode a = getTaskId calculateHashCode b) :
    ∀ v, v ∈ a.map (·.versionId) ↔ v ∈ b.map (·.versionId) := by
  have hlen : ∀ {l : List DownloadInfo}, (∀ d ∈ l, d.versionId.length = n) →
      ∀ p ∈ sorted (l.map (·.versionId)), p.length = n := by
    intro l hl p hp
    rw [sorted, List.mem_insertionSort] at hp
    obtain ⟨d, hd, rfl⟩ := List.mem_map.1 hp
    exact hl d hd
  obtain ⟨text, ha, hb⟩ := (getTaskId_eq_iff hinj).1 heq
  intro v
  rw [← List.mem_insertionSort (· ≤ ·) (l := a.map _), ← List.mem_insertionSort (· ≤ ·) (l := b.map _)]
  show v ∈ sorted _ ↔ v ∈ sorted _
  rw [Cut.eq_of_length hn ha hb (hlen hlena) (hlen hlenb)]

/-! ### One task for a task id -/

theorem mem_versionId_foldl {v : String} (l infos : List DownloadInfo)
    (h : v ∈ infos.map (·.versionId) ∨ v ∈ l.map (·.versionId)) :
    v ∈ (l.foldl (fun infos d => if infos.any fun d' => d'.versionId = d.versionId then infos else infos ++ [d]) infos).map
      (·.versionId) := by
  induction l generalizing infos with
  | nil => exact h.resolve_right (by simp)
  | cons a l ih =>
    rw [List.foldl_cons]
    rw [List.map_cons, List.mem_cons] at h
    split
    · rename_i ha
      refine ih infos ?_
      rcases h with h | rfl | h
      · exact .inl h
      · obtain ⟨d, hd, he⟩ := List.any_eq_true.1 ha
        exact .inl (List.mem_map.2 ⟨d, hd, by simpa using he⟩)
      · exact .inr h
    · refine ih _ ?_
      rcases h with h | rfl | h
      · exact .inl (by rw [List.map_append]; exact List.mem_append_left _ h)
      · exact .inl (by rw [List.map_append]; exact List.mem_append_right _ List.mem_cons_self)
      · exact .inr h

theorem mem_versionId_removeDuplicateVersionId {v : String} {l : List DownloadInfo} :
    v ∈ (removeDuplicateVersionId l).map (·.versionId) ↔ v ∈ l.map (·.versionId) := by
  constructor
  · intro h
    obtain ⟨d, hd, rfl⟩ := List.mem_map.1 h
    exact List.mem_map_of_mem (mem_of_mem_removeDuplicateVersionId hd)
  · intro h
    exact mem_versionId_foldl l [] (.inr h)

/-- The id of a list is the one that `Start` gives its task exactly if no version id that is not empty is repeated. -/
theorem getTaskId_removeDuplicate_iff {calculateHashCode : String → String}
    (hinj : Function.Injective calculateHashCode)
    {l : List DownloadInfo} : getTaskId calculateHashCode l = getTaskId calculateHashCode (removeDuplicateVersionId l) ↔
      ∀ v, v ≠ "" → (l.map (·.versionId)).count v ≤ 1 := by
  have hdedup : sorted ((removeDuplicateVersionId l).map (·.versionId)) = sorted (l.map (·.versionId)).dedup := by
    refine (sorted_eq_iff (nodup_removeDuplicateVersionId l) (List.nodup_dedup _)).2 fun v => ?_
    rw [mem_versionId_removeDuplicateVersionId, List.mem_dedup]
  rw [getTaskId_eq, getTaskId_eq, hinj.eq_iff, hdedup]
  exact join_sorted_dedup_iff

/-- The task made last is stored under the id, and so are the records from which its rows are written. -/
structure Names (taskId : String) (m : DownloadTaskManager) : Prop where
  map : m.find? taskId = some (m.tasks.length - 1)
  task : ∃ t, m.task? (m.tasks.length - 1) = some t ∧ t.taskId = taskId ∧
    ∀ id d, t.service.infoMap.find? id = some d → d.taskId = taskId

theorem Names.unique {taskId taskId' : String} {m : DownloadTaskManager} (h : Names taskId m) (h' : Names taskId' m) :
    taskId = taskId' := by
  obtain ⟨t, ht, rfl, -⟩ := h.task
  obtain ⟨t', ht', rfl, -⟩ := h'.task
  rw [Option.some.inj (ht.symm.trans ht')]

theorem names_startTask {m : DownloadTaskManager} {i : Nat} {t : DownloadTask} {business isMemoryEnough : Bool}
    {error : DownloadError} (ht : m.task? i = some t) (hlast : m.tasks.length - 1 = i) (htask : TaskOk t)
    (hok : (m.startTask t.taskId business isMemoryEnough error i).1.errorNum = .success) :
    Names t.taskId (m.startTask t.taskId business isMemoryEnough error i).2 := by
  have hsame := (TaskState.inserts_start (s := ⟨t, m.outside, []⟩) business isMemoryEnough error).sameTask
  have hlength := congrArg List.length (withTask_eq (fun s => (s.start business isMemoryEnough error).2) ht).1
  rw [List.length_set] at hlength
  rw [startTask] at hok ⊢
  dsimp only at hok ⊢
  rw [if_neg (not_not.2 hok)]
  have hi : (ensureInsert t.taskId i (m.withTask i fun s => (s.start business isMemoryEnough error).2)).tasks.length - 1 = i :=
    (congrArg (· - 1) hlength).trans hlast
  refine ⟨?_, ?_⟩
  · rw [hi, find?_ensureInsert, if_pos rfl]
  · rw [hi]
    refine ⟨_, (task?_withTask _ ht).trans (if_pos rfl), hsame.taskId, fun id d hd => ?_⟩
    exact ((htask.of_same hsame).records id d hd).1.trans hsame.taskId

/-- A `Start` that succeeds stores the task under the id of the list without its repetitions. -/
theorem names_start {calculateHashCode : String → String} {downloadInfos : List DownloadInfo}
    {business isMemoryEnough : Bool}
    {ended : Nat → Bool} {m : DownloadTaskManager} (hne : downloadInfos ≠ [])
    (hok : (m.start calculateHashCode downloadInfos business isMemoryEnough ended).1.errorNum = .success) :
    Names (getTaskId calculateHashCode (removeDuplicateVersionId downloadInfos))
      (m.start calculateHashCode downloadInfos business isMemoryEnough ended).2 := by
  obtain ⟨error, he⟩ := start_eq calculateHashCode business isMemoryEnough ended hne m
  rw [he] at hok ⊢
  generalize getTaskId calculateHashCode (removeDuplicateVersionId downloadInfos) = taskId at hok ⊢
  refine names_startTask (t := .ofInfos taskId _ _) ((task?_newTask _ _ _).trans (if_pos rfl)) ?_ ?_ hok
  · rw [newTask, List.length_append]
    rfl
  · exact .ofInfos taskId _ (removeDuplicateVersionId_ne_nil hne) (nodup_removeDuplicateVersionId downloadInfos)

end DownloadTaskManager

/-! ### The persisted id -/

namespace FirmwareDownloadExecutor
open DownloadTaskManager FirmwareTaskOperator

variable {calculateHashCode : String → String} {allowNetwork : NetType} {isMemoryEnough : Bool} {ended : Nat → Bool}
  {components : List FirmwareComponent} {processor : FirmwareDownloadDataProcessor} {s : Firmware}

theorem downloadTaskId_setDownloadEvent (downloadTaskId : String) (hrow : s.taskTable ≠ []) :
    (queryTask (FirmwareDownloadDataProcessor.setDownloadEvent downloadTaskId .eventDownloadStart
      (processor, s)).2.taskTable).downloadTaskId = downloadTaskId := by
  rw [FirmwareDownloadDataProcessor.setDownloadEvent]
  cases htable : s.taskTable with
  | nil => exact absurd htable hrow
  | cons task tasks =>
    simp [queryTask, updateStatusByTaskId, updateDownloadTaskIdByTaskId, updateByTaskId, List.updateWhere]

/-- What is left of a download that could be started: the persisted id, and the manager. -/
theorem performDownload_of_success (hne : buildDownloadInfos allowNetwork components ≠ [])
    (hok : (s.downloads.start calculateHashCode (buildDownloadInfos allowNetwork components) true isMemoryEnough
      ended).1.errorNum = .success) :
    (performDownload calculateHashCode allowNetwork isMemoryEnough ended components (processor, s)).2 =
      { (FirmwareDownloadDataProcessor.setDownloadEvent
          (getTaskId calculateHashCode (buildDownloadInfos allowNetwork components)) .eventDownloadStart (processor, s)).2 with
        downloads := (s.downloads.start calculateHashCode (buildDownloadInfos allowNetwork components) true isMemoryEnough
          ended).2 } := by
  rw [performDownload, if_neg hne]
  dsimp only
  have hsame : ∀ id, (FirmwareDownloadDataProcessor.setDownloadEvent id .eventDownloadStart (processor,
    s)).2.downloads =
      s.downloads := fun _ => rfl
  rw [hsame, if_neg (not_not.2 hok)]

/-- The id that is persisted names the task that is started exactly if no version id that is not empty is repeated. -/
theorem persisted_names_iff (hinj : Function.Injective calculateHashCode) (hcomponents : components ≠ [])
    (hrow : s.taskTable ≠ [])
    (hok : (s.downloads.start calculateHashCode (buildDownloadInfos allowNetwork components) true isMemoryEnough
      ended).1.errorNum = .success) :
    Names (queryTask (performDownload calculateHashCode allowNetwork isMemoryEnough ended components
        (processor, s)).2.taskTable).downloadTaskId
      (performDownload calculateHashCode allowNetwork isMemoryEnough ended components (processor, s)).2.downloads ↔
    ∀ v, v ≠ "" → (components.map (·.versionId)).count v ≤ 1 := by
  have hne : buildDownloadInfos allowNetwork components ≠ [] := by
    rw [buildDownloadInfos, ne_eq, List.map_eq_nil_iff]
    exact hcomponents
  have hnames := names_start hne hok
  rw [performDownload_of_success hne hok]
  dsimp only
  rw [downloadTaskId_setDownloadEvent _ hrow, ← versionId_buildDownloadInfos allowNetwork,
    ← getTaskId_removeDuplicate_iff hinj]
  constructor
  · intro h
    exact h.unique hnames
  · intro h
    rw [h]
    exact hnames

/-- SHA-256 of `1`, and one-to-one. -/
def sha256OfOne : Equiv.Perm String := .swap "1" "6b86b273ff34fce19d6b804eff5a3f5747ada4eaa22f1d49c01e52ddb7875b4b"

def oneTask : Firmware :=
  { taskTable := [{ taskId := "t" }], downloads := { outside := { netType := .wifi } } }

theorem persisted_names_one :
    Names (queryTask (performDownload sha256OfOne .wifi true (fun _ => true) [{ versionId := "1", size := 7 }]
        (⟨{}, {}⟩, oneTask)).2.taskTable).downloadTaskId
      (performDownload sha256OfOne .wifi true (fun _ => true) [{ versionId := "1", size := 7 }]
        (⟨{}, {}⟩, oneTask)).2.downloads := by
  refine (persisted_names_iff sha256OfOne.injective (by decide) (by decide) (by rfl)).2 fun v _ => ?_
  exact List.nodup_iff_count_le_one.1 (List.nodup_singleton _) v

/-- SHA-256 of `aa` and of `a`. -/
def sha256OfA (s : String) : String :=
  if s = "aa" then "961b6dd3ede3cb8ecbaacbd68de040cd78eb2ed5889130cceb4c49268ea4d506"
  else if s = "a" then "ca978112ca1bbdcafac231b39a23dc4da786eff8147c4e72b9807785afee48bb"
  else s

/-- Two packages with one version id: the id that is persisted is that of no task. -/
theorem not_persisted_names : ∃ s' : Firmware,
    s' = (performDownload sha256OfA .wifi true (fun _ => true)
      [{ versionId := "a", size := 7 }, { versionId := "a", size := 9 }] (⟨{}, {}⟩, oneTask)).2 ∧
    (queryTask s'.taskTable).downloadTaskId = "961b6dd3ede3cb8ecbaacbd68de040cd78eb2ed5889130cceb4c49268ea4d506" ∧
    s'.downloads.find? "961b6dd3ede3cb8ecbaacbd68de040cd78eb2ed5889130cceb4c49268ea4d506" = none ∧
    s'.downloads.find? "ca978112ca1bbdcafac231b39a23dc4da786eff8147c4e72b9807785afee48bb" = some 0 := by
  refine ⟨_, rfl, ?_, ?_, ?_⟩ <;> decide

end FirmwareDownloadExecutor

end UpdateService
