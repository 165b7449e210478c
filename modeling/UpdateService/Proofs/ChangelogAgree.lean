import UpdateService.Proofs.CheckResult
import UpdateService.Proofs.NumberText
import UpdateService.Lib.Separated

/-!
# The changelog that is read is the changelog that was saved

All descriptions of an answer are saved under one path, so that the last one is left. What the reader then finds
for a component is that description if the component has the id it was saved under, and else whatever an earlier
answer has left for it.
-/

namespace UpdateService

namespace StringUtils

theorem replaceStringAll_ne_nil {subString newString s : List Char} (hnew : newString ≠ []) (hs : s ≠ []) :
    replaceStringAll subString newString 0 s ≠ [] := by
  cases s with
  | nil => exact absurd rfl hs
  | cons c s =>
    rw [replaceStringAll]
    split
    · exact List.append_ne_nil_of_left_ne_nil hnew _
    · exact List.cons_ne_nil _ _

end StringUtils

namespace Firmware

theorem changelogFilePath_injective : Function.Injective changelogFilePath := by
  intro a b h
  have hlist := congrArg String.toList h
  simp only [changelogFilePath, String.toList_append, List.append_cancel_right_eq, List.append_cancel_left_eq] at hlist
  exact String.toList_injective hlist

end Firmware

namespace FileUtils

theorem foldl_saveDataToFile (filePath : String) (l : List (List Char)) (fs : FileSystem) :
    (l.map fun data => SavedFile.mk filePath data).foldl saveDataToFile fs =
      match l.getLast? with
      | none => fs
      | some data => saveDataToFile fs ⟨filePath, data⟩ := by
  induction l generalizing fs with
  | nil => rfl
  | cons data l ih =>
    rw [List.map_cons, List.foldl_cons, ih, List.getLast?_cons]
    cases l.getLast? with
    | none => rfl
    | some last =>
      show saveDataToFile (saveDataToFile fs ⟨filePath, data⟩) ⟨filePath, last⟩ = saveDataToFile fs ⟨filePath, last⟩
      unfold saveDataToFile
      dsimp only
      by_cases ho : fs.canOpen filePath = true
      · simp only [ho, if_true, Function.update_idem]
      · simp only [ho, Bool.false_eq_true, if_false]

variable {fs : FileSystem} {file : SavedFile} {filePath : String}

theorem resolve_saveDataToFile : (saveDataToFile fs file).resolve = fs.resolve := by
  rw [saveDataToFile]
  split <;> rfl

theorem content_saveDataToFile : (saveDataToFile fs file).content filePath =
    if filePath = fs.resolve file.filePath ∧ fs.canOpen file.filePath = true then some file.data else fs.content filePath := by
  rw [saveDataToFile]
  split
  · rename_i hopen
    by_cases hpath : filePath = fs.resolve file.filePath
    · rw [if_pos ⟨hpath, hopen⟩, hpath]
      exact Function.update_self ..
    · rw [if_neg fun h => hpath h.1]
      exact Function.update_of_ne hpath ..
  · rename_i hopen
    rw [if_neg fun h => hopen h.2]

end FileUtils

namespace FirmwareCheckAnalyzeUtils
variable {descript : Int × String}

theorem findIdx?_changelogData : (changelogData descript).findIdx? (· = '|') = some (toString descript.1).toList.length := by
  have hbar : '|' ∉ (toString descript.1).toList := by
    intro h
    rcases StringUtils.mem_toString h with h | h
    · exact absurd h (by decide)
    · exact absurd h (by decide)
  rw [changelogData, List.findIdx?_eq_append_cons hbar]

theorem drop_changelogData :
    (changelogData descript).drop ((toString descript.1).toList.length + 1) = processedContent descript.2 := by
  rw [changelogData, ← List.drop_drop, List.drop_left]; rfl

theorem processedContent_eq_nil_iff {content : String} : processedContent content = [] ↔ content = "" := by
  constructor
  · intro h
    by_contra hne
    exact StringUtils.replaceStringAll_ne_nil (by decide) (fun hnil => hne (String.toList_injective hnil)) h
  · rintro rfl
    rfl

end FirmwareCheckAnalyzeUtils

namespace UpdateServiceImplFirmware
open FirmwareCheckAnalyzeUtils FileUtils
variable {fs fs' : FileSystem} {componentId : String} {descript : Int × String}

theorem prefix_changelogFilePath (componentId : String) :
    Firmware.changelogPath.toList <+: (Firmware.changelogFilePath componentId).toList := by
  simp only [Firmware.changelogFilePath, String.toList_append, List.append_assoc]
  exact List.prefix_append _ _

/-- The reader depends on the file of the id alone. -/
theorem findDescription_congr (hresolve : fs'.resolve = fs.resolve)
    (hcontent : isValidComponentId componentId = true →
      fs'.content (Firmware.changelogFilePath componentId) = fs.content (Firmware.changelogFilePath componentId)) :
    findDescription fs' componentId = findDescription fs componentId := by
  unfold findDescription checkFilePathValid isCoverBasePath isFileExist readDataFromFile
  dsimp only
  by_cases hvalid : isValidComponentId componentId = true
  · rw [hresolve, fs.resolve_changelog _ hvalid, hcontent hvalid]
  · simp [hvalid]

theorem findDescription_changelogData (hvalid : isValidComponentId componentId = true)
    (hcontent : fs.content (Firmware.changelogFilePath componentId) = some (changelogData descript))
    (hmin : -2 ^ 31 ≤ descript.1) (hmax : descript.1 < 2 ^ 31) :
    findDescription fs componentId =
      if descript.2 = "" then none else some (descript.1, processedContent descript.2) := by
  have hpath : checkFilePathValid fs (Firmware.changelogFilePath componentId) = true := by
    have hne : Firmware.changelogFilePath componentId ≠ "" :=
      fun h => absurd (h ▸ prefix_changelogFilePath componentId) (by decide)
    simp [checkFilePathValid, isCoverBasePath, isFileExist, fs.resolve_changelog _ hvalid, hcontent, hne,
      prefix_changelogFilePath]
  have hread : readDataFromFile fs (Firmware.changelogFilePath componentId) = changelogData descript := by
    rw [readDataFromFile, fs.resolve_changelog _ hvalid, hcontent, Option.getD_some]
  unfold findDescription
  dsimp only
  rw [hvalid, hpath, hread, findIdx?_changelogData, if_neg (by decide), if_neg (by decide)]
  dsimp only
  have htake : (changelogData descript).take (toString descript.1).toList.length = (toString descript.1).toList :=
    List.take_left
  have hlen : (changelogData descript).length ≤ (toString descript.1).toList.length + 1 ↔ descript.2 = "" := by
    rw [← processedContent_eq_nil_iff, ← List.length_eq_zero_iff, changelogData, List.length_append, List.length_cons]
    omega
  rw [htake, drop_changelogData, StringUtils.stringToNumberInner_toString hmin hmax]
  simp only [hlen]

/-- What the reader finds has a text. -/
theorem content_ne_nil_of_findDescription {type : Int} {content : List Char}
    (h : findDescription fs componentId = some (type, content)) :
    isValidComponentId componentId = true ∧ content ≠ [] := by
  unfold findDescription at h
  dsimp only at h
  split at h
  · cases h
  split at h
  · cases h
  split at h
  · cases h
  split at h
  · cases h
  rename_i hvalid _ _ startIndex _ hlen
  obtain ⟨-, rfl⟩ := Prod.mk.inj (Option.some.inj h)
  refine ⟨by simpa using hvalid, fun hnil => hlen ?_⟩
  rw [List.drop_eq_nil_iff] at hnil
  exact hnil

theorem describe_fst (fs : FileSystem) (language : String) (components : List FirmwareComponent) :
    (describe fs language components).1 = components.all fun c => (findDescription fs c.componentId).isSome := by
  induction components with
  | nil => rfl
  | cons c components ih =>
    rw [describe, List.all_cons, ← ih]
    cases findDescription fs c.componentId with
    | none => rfl
    | some d => exact (Bool.true_and _).symm

/-- A component reads the description that was saved last, or what its file has held before. -/
theorem findDescription_save_iff {id : String} (hid : isValidComponentId id = true) (hmin : -2 ^ 31 ≤ descript.1)
    (hmax : descript.1 < 2 ^ 31) :
    findDescription (saveDataToFile fs ⟨Firmware.changelogFilePath id, changelogData descript⟩) componentId =
        some (descript.1, processedContent descript.2) ↔
      descript.2 ≠ "" ∧ (componentId = id ∧ fs.canOpen (Firmware.changelogFilePath componentId) = true ∨
        findDescription fs componentId = some (descript.1, processedContent descript.2)) := by
  by_cases hsaved : componentId = id ∧ fs.canOpen (Firmware.changelogFilePath componentId) = true
  · obtain ⟨rfl, hopen⟩ := hsaved
    have hcontent : (saveDataToFile fs ⟨Firmware.changelogFilePath componentId, changelogData descript⟩).content
        (Firmware.changelogFilePath componentId) = some (changelogData descript) := by
      rw [content_saveDataToFile]
      exact if_pos ⟨(fs.resolve_changelog _ hid).symm, hopen⟩
    rw [findDescription_changelogData hid hcontent hmin hmax]
    by_cases hempty : descript.2 = "" <;> simp [hempty, hopen]
  · have hsame : findDescription (saveDataToFile fs ⟨Firmware.changelogFilePath id,
      changelogData descript⟩) componentId =
        findDescription fs componentId := by
      refine findDescription_congr resolve_saveDataToFile fun hvalid => ?_
      rw [content_saveDataToFile, if_neg]
      rintro ⟨hpath, hopen⟩
      rw [fs.resolve_changelog _ hid] at hpath
      obtain rfl := Firmware.changelogFilePath_injective hpath
      exact hsaved ⟨rfl, hopen⟩
    rw [hsame]
    constructor
    · intro h
      refine ⟨fun hempty => (content_ne_nil_of_findDescription h).2 ?_, .inr h⟩
      rw [hempty]; rfl
    · rintro ⟨-, h | h⟩
      · exact absurd h hsaved
      · exact h

end UpdateServiceImplFirmware

namespace FirmwareCheckAnalyzeUtils
open UpdateServiceJsonUtils UpdateServiceImplFirmware FileUtils
variable {p : JsonPlatform} {rawJson : String}

def descripts (p : JsonPlatform) (rawJson : String) : List (Int × String) :=
  match p.parse rawJson with
  | none => []
  | some root => (analyzeComponents p root).2.2

/-- Every changelog is saved under an id that the reader allows, and if the answer has a description with a text,
the reader ends well and finds for each component what was saved last. -/
def ChangelogsAgree (p : JsonPlatform) (rawJson : String) (fs : FileSystem) (language : String) : Prop :=
  let components := (doAnalyze p rawJson [] "").1
  let fs' := (savedChangelogs p rawJson).foldl saveDataToFile fs
  (∀ file ∈ savedChangelogs p rawJson, ∃ componentId, isValidComponentId componentId = true ∧
    file.filePath = Firmware.changelogFilePath componentId) ∧
  ∀ d ∈ (descripts p rawJson).getLast?, (∃ d' ∈ descripts p rawJson, d'.2 ≠ "") → components ≠ [] →
    (getNewVersionDescription fs' language (FirmwareCheckDataProcessor.buildComponentSPath components)).1 = true ∧
    ∀ c ∈ components, findDescription fs' c.componentId = some (d.1, processedContent d.2)

/-- The id of the last component is one that the reader allows; and if a description has a text, the last one has,
and every component has that id, with a file that can be opened, or its file has held the description before. -/
def SavedForAll (fs : FileSystem) (components : List FirmwareComponent) (descripts : List (Int × String)) : Prop :=
  (descripts ≠ [] → isValidComponentId (changelogId components) = true) ∧
  ∀ d ∈ descripts.getLast?, (∃ d' ∈ descripts, d'.2 ≠ "") → ∀ c ∈ components,
    d.2 ≠ "" ∧ (c.componentId = changelogId components ∧ fs.canOpen (Firmware.changelogFilePath c.componentId) = true ∨
      findDescription fs c.componentId = some (d.1, processedContent d.2))

theorem int32_of_hasInteger {item : Json} {key : String} {v : Int} (h : HasInteger p .int32 item key v) :
    -2 ^ 31 ≤ v ∧ v < 2 ^ 31 := by
  obtain ⟨j, -, hj⟩ := h
  unfold checkInteger at hj
  split at hj
  · rename_i q
    split at hj
    · cases hj
    rename_i hden
    split at hj
    · cases hj
    rename_i hrange
    have hq : (q.num : Rat) = q := Rat.den_eq_one_iff q |>.1 (not_not.1 hden)
    rw [not_or, Rat.not_lt, Rat.not_lt] at hrange
    have hmax : q ≤ IntType.int32.max := le_of_le_of_eq hrange.2 (by decide +kernel)
    rw [if_pos hmax] at hj
    obtain rfl : q.num = v := (Prod.mk.inj hj).2
    rw [← hq] at hrange hmax
    have h₁ : -2 ^ 31 ≤ q.num := Rat.intCast_le_intCast.1 hrange.1
    have h₂ : q.num ≤ 2 ^ 31 - 1 := Rat.intCast_le_intCast.1 hmax
    omega
  · cases hj

/-- What an accepted answer comes to. -/
theorem of_isAccepted (h : IsAccepted p rawJson) : ∃ components descripts',
    (doAnalyze p rawJson [] "").1 = components ∧ descripts p rawJson = descripts' ∧
      savedChangelogs p rawJson = changelogFiles components descripts' ∧
      ∀ d ∈ descripts', -2 ^ 31 ≤ d.1 ∧ d.1 < 2 ^ 31 := by
  obtain ⟨root, hroot, hnew, hzero⟩ := h
  obtain ⟨itemCheckResults, itemDescriptInfo, hr, hd, -, hinfo, hfit⟩ := (analyzeRet_eq_zero_iff hnew).1 hzero
  refine ⟨(analyzeComponents p root).2.1, (analyzeComponents p root).2.2, ?_, ?_, ?_, fun d hmem => ?_⟩
  · rw [doAnalyze_available hroot hnew, if_pos hzero]
  · rw [descripts, hroot]
  · rw [savedChangelogs, hroot]
    exact if_pos hnew
  · have hdescripts : (analyzeComponents p root).2.2 = (processDescriptInfo p itemDescriptInfo).2 := by
      unfold analyzeComponents
      rw [hr, hd]
      dsimp only
      rw [if_neg ((totalSize_processCheckResults p itemCheckResults).2 hfit)]
    rw [hdescripts, processDescriptInfo] at hmem
    dsimp only at hmem
    rw [List.map_map] at hmem
    obtain ⟨itemInfo, hitem, rfl⟩ := List.mem_map.1 hmem
    obtain ⟨⟨v, hv⟩, -⟩ := hinfo itemInfo hitem
    show -2 ^ 31 ≤ (getValueAndSetTo (checkInteger p .int32) itemInfo "descriptionType" p.indeterminate).2 ∧
      (getValueAndSetTo (checkInteger p .int32) itemInfo "descriptionType" p.indeterminate).2 < 2 ^ 31
    rw [(getValueAndSetTo_checkInteger (by decide) p.indeterminate).2 v hv]
    exact int32_of_hasInteger hv

section Saved
variable {components : List FirmwareComponent} {descripts : List (Int × String)} {d : Int × String}

/-- All files are saved under one id. -/
theorem validPaths_iff :
    (∀ file ∈ changelogFiles components descripts, ∃ componentId, isValidComponentId componentId = true ∧
      file.filePath = Firmware.changelogFilePath componentId) ↔
    (descripts ≠ [] → isValidComponentId (changelogId components) = true) := by
  constructor
  · intro hall hne
    obtain ⟨d, hd⟩ := List.exists_mem_of_ne_nil _ hne
    obtain ⟨componentId, hvalid, hpath⟩ := hall _ (List.mem_map_of_mem hd)
    rw [← Firmware.changelogFilePath_injective hpath] at hvalid
    exact hvalid
  · intro hvalid file hfile
    obtain ⟨d, hd, rfl⟩ := List.mem_map.1 hfile
    exact ⟨changelogId components, hvalid (List.ne_nil_of_mem hd), rfl⟩

/-- Of all files that are saved the last one is left. -/
theorem foldl_changelogFiles (hd : descripts.getLast? = some d) (fs : FileSystem) :
    (changelogFiles components descripts).foldl saveDataToFile fs =
      saveDataToFile fs ⟨Firmware.changelogFilePath (changelogId components), changelogData d⟩ := by
  have hmap : changelogFiles components descripts = (descripts.map changelogData).map fun data =>
      SavedFile.mk (Firmware.changelogFilePath (changelogId components)) data := by
    rw [changelogFiles, List.map_map]; rfl
  rw [hmap, foldl_saveDataToFile, List.getLast?_map, hd]
  rfl

/-- The reader ends well where it finds a description for every component. -/
theorem getNewVersionDescription_of_found {fs : FileSystem} (language : String) (hne : components ≠ [])
    (hfound : ∀ c ∈ components, ∃ description, findDescription fs c.componentId = some description) :
    (getNewVersionDescription fs language (FirmwareCheckDataProcessor.buildComponentSPath components)).1 = true := by
  have hspath : FirmwareCheckDataProcessor.buildComponentSPath components ≠ [] :=
    fun h => hne (List.map_eq_nil_iff.1 h)
  rw [getNewVersionDescription, if_neg hspath, describe_fst, List.all_eq_true]
  intro c hc
  obtain ⟨c₀, hc₀, rfl⟩ := List.mem_map.1 hc
  exact Option.isSome_iff_exists.2 (hfound c₀ hc₀)

end Saved

def emptyFileSystem : FileSystem where
  resolve := id
  canOpen _ := true
  content _ := none
  resolve_changelog _ _ := rfl

def descriptOf (content : String) : Json :=
  .object [("descriptionType", .number (.finite 0)), ("content", .string content)]

def pathAnswer : JsonPlatform := platformOf (answer [package "../base" 1] [descriptOf "new"])

def twoPackages : JsonPlatform := platformOf (answer [package "base" 1, package "cust" 1] [descriptOf "new"])

end FirmwareCheckAnalyzeUtils

end UpdateService
