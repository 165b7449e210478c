import UpdateService.Lib.FirstMatch
import UpdateService.FirmwareSystem
import UpdateService.Proofs.CheckResult

/-!
# The same version as in the database

`IsVersionSameWithDb` looks up every component of an answer by its version id. `comparesMultisets_iff` and
`keepsRepeated_iff` say for which lists that is the comparison of the answer with the table, and for which ones a check
that is repeated keeps the files. `nodup_versionId_doAnalyze_iff`: a list that `DoAnalyze` hands out has no version ids,
so of those it is the comparison only where there is one component.
-/

namespace UpdateService

namespace FirmwareCheckAnalyzeUtils

theorem nodup_versionId_doAnalyze_iff (p : JsonPlatform) (rawJson responseStatus : String) :
    ((doAnalyze p rawJson [] responseStatus).1.map (·.versionId)).Nodup ↔
      (doAnalyze p rawJson [] responseStatus).1.length ≤ 1 := by
  have hids : (doAnalyze p rawJson [] responseStatus).1.map (·.versionId) =
      List.replicate (doAnalyze p rawJson [] responseStatus).1.length "" := by
    refine List.eq_replicate_iff.2 ⟨List.length_map _, fun versionId hid => ?_⟩
    obtain ⟨c, hc, rfl⟩ := List.mem_map.1 hid
    exact (parsed_doAnalyze hc).versionId
  rw [hids, List.nodup_replicate]

end FirmwareCheckAnalyzeUtils

namespace FirmwareCheckDataProcessor
open FirstMatch FirmwareComponentOperator

/-- What is compared of a component and of the row with its version id. -/
def compared (c : FirmwareComponent) : Int × String × String × Int := (c.size, c.verifyInfo, c.url, c.otaType)

def identity (c : FirmwareComponent) : String × Int × String × String × Int := (c.versionId, compared c)

variable {componentList table : List FirmwareComponent} {s : Firmware} {calculateHashCode : String → String}

theorem isVersionSameWithDb_iff : isVersionSameWithDb componentList table = true ↔
    MatchesFirst (·.versionId) compared componentList table := by
  unfold isVersionSameWithDb MatchesFirst queryByVersionId
  rw [Bool.and_eq_true, decide_eq_true_iff, List.all_eq_true]
  refine and_congr_right fun _ => forall₂_congr fun c _ => ?_
  cases table.find? fun db => db.versionId = c.versionId with
  | none => simp
  | some db => simp [compared, and_assoc]

theorem componentTable_handleNewVersion (h : isVersionSameWithDb componentList s.componentTable = false) :
    (handleNewVersion calculateHashCode componentList s).componentTable = buildComponentSPath componentList := by
  unfold handleNewVersion
  rw [if_neg (by rw [h]; decide)]
  rfl

theorem downloads_handleNewVersion (h : isVersionSameWithDb componentList s.componentTable = true) :
    (handleNewVersion calculateHashCode componentList s).downloads = s.downloads := by
  unfold handleNewVersion updateFirmwareComponent
  rw [if_pos h]
  dsimp only
  split
  · rfl
  split <;> rfl

theorem map_identity_buildComponentSPath (componentList : List FirmwareComponent) :
    (buildComponentSPath componentList).map identity = componentList.map identity := List.map_map

/-- The test compares the list with every table as multisets. -/
def ComparesMultisets (componentList : List FirmwareComponent) : Prop :=
  ∀ table, isVersionSameWithDb componentList table = true ↔ (componentList.map identity).Perm (table.map identity)

/-- Once the list has been stored, it is found to be the same, however far it has been downloaded, and the downloads are
left alone. -/
def KeepsRepeated (componentList : List FirmwareComponent) : Prop :=
  ∀ (calculateHashCode : String → String) (s s' : Firmware),
    isVersionSameWithDb componentList s.componentTable = false →
    s'.componentTable.map identity = (handleNewVersion calculateHashCode componentList s).componentTable.map identity →
      isVersionSameWithDb componentList s'.componentTable = true ∧
        (handleNewVersion calculateHashCode componentList s').downloads = s'.downloads

theorem comparesMultisets_iff : ComparesMultisets componentList ↔ (componentList.map (·.versionId)).Nodup := by
  unfold ComparesMultisets
  simp only [isVersionSameWithDb_iff]
  refine forall_matchesFirst_iff fun c => ⟨{ c with size := c.size + 1 }, rfl, fun h => ?_⟩
  have hsize : c.size + 1 = c.size := congrArg Prod.fst h
  omega

theorem keepsRepeated_iff : KeepsRepeated componentList ↔ Consistent (·.versionId) compared componentList := by
  constructor
  · intro h
    -- a table with a row more is not the same
    have hother : isVersionSameWithDb componentList ({} :: componentList) = false := by
      rw [isVersionSameWithDb, List.length_cons, decide_eq_false (Nat.succ_ne_self _), Bool.false_and]
    have hsame := (h id { componentTable := {} :: componentList } _ hother rfl).1
    rw [isVersionSameWithDb_iff, componentTable_handleNewVersion hother] at hsame
    exact (matchesFirst_self_iff (map_identity_buildComponentSPath componentList)).1 hsame
  · intro h calculateHashCode s s' hother hrows
    rw [componentTable_handleNewVersion hother, map_identity_buildComponentSPath] at hrows
    have hsame : isVersionSameWithDb componentList s'.componentTable = true :=
      isVersionSameWithDb_iff.2 ((matchesFirst_self_iff hrows).2 h)
    exact ⟨hsame, downloads_handleNewVersion hsame⟩

theorem sameVersion_iff (componentList : List FirmwareComponent) :
    (ComparesMultisets componentList ↔ (componentList.map (·.versionId)).Nodup) ∧
      (KeepsRepeated componentList ↔ ∀ c ∈ componentList, ∀ c' ∈ componentList, c.versionId = c'.versionId →
        c.size = c'.size ∧ c.verifyInfo = c'.verifyInfo ∧ c.url = c'.url ∧ c.otaType = c'.otaType) := by
  refine ⟨comparesMultisets_iff, keepsRepeated_iff.trans ?_⟩
  unfold Consistent compared
  simp only [Prod.mk.injEq]

/-- The packages of the list that has been stored are on disk. -/
def downloaded (s : Firmware) : Firmware :=
  { s with
    taskTable := s.taskTable.map fun task => { task with status := .downloadSuccess }
    downloads := { s.downloads with outside := { s.downloads.outside with fileSize := fun _ => 1 } } }

/-- The answer that has been checked, stored and downloaded is checked once more. -/
def checkedAgain (componentList : List FirmwareComponent) : Firmware :=
  handleCheckResult id .checkSuccess componentList
    (downloaded (handleCheckResult id .checkSuccess componentList {}))

open FirmwareCheckAnalyzeUtils in
/-- An answer with two packages is not the same as itself, and the file that it names is deleted; an answer with one
package twice is the same as the answer with two. -/
theorem not_sameVersion :
    ((checkedAgain (handedOut [package "base" 1, package "cust" 2])).downloads.outside.fileSize
        (Firmware.packagePath ++ "/update.zip") = 0 ∧
      ¬ KeepsRepeated (handedOut [package "base" 1, package "cust" 2])) ∧
    isVersionSameWithDb (handedOut [package "base" 1, package "base" 1])
        (handedOut [package "base" 1, package "cust" 2]) = true ∧
      ¬ ComparesMultisets (handedOut [package "base" 1, package "base" 1]) := by
  refine ⟨⟨by decide +kernel, fun h => ?_⟩, by decide +kernel, fun h => ?_⟩
  · have hsame := h id {} (handleNewVersion id _ {}) (by decide +kernel) rfl
    exact absurd hsame.1 (by decide +kernel)
  · have hsame := (h (handedOut [package "base" 1, package "cust" 2])).1 (by decide +kernel)
    exact absurd hsame (by decide +kernel)

end FirmwareCheckDataProcessor

end UpdateService
