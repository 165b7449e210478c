import UpdateService.Changelog
import Mathlib.Data.List.Forall2
import Mathlib.Algebra.Order.BigOperators.Group.List

/-!
# All or nothing: the result of the analysis of an answer

An element of `checkResults` is listed, or it is dropped for its size or file name without an error, or it has
an error. `IsReadable` is an answer in which nothing has an error, which is when the components are handed out.
A dropped element is missing from them then; in the other answers the changelogs are saved all the same.
-/

namespace UpdateService

namespace List
variable {α : Type*} {l : List α}

theorem sum_map_nonneg {g : α → Int} (hg : ∀ a ∈ l, 0 ≤ g a) : 0 ≤ (l.map g).sum := by
  refine List.sum_nonneg fun x hx => ?_
  obtain ⟨a, ha, rfl⟩ := List.mem_map.1 hx
  exact hg a ha

theorem sum_map_eq_zero_iff {g : α → Int} (hg : ∀ a ∈ l, 0 ≤ g a) : (l.map g).sum = 0 ↔ ∀ a ∈ l, g a = 0 := by
  induction l with
  | nil => simp
  | cons a l ih =>
    have ha := hg a (by simp)
    have hl : 0 ≤ (l.map g).sum := sum_map_nonneg fun b hb => hg b (List.mem_cons_of_mem _ hb)
    rw [List.map_cons, List.sum_cons, List.forall_mem_cons, ← ih fun b hb => hg b (List.mem_cons_of_mem _ hb)]
    omega

end List

namespace UpdateServiceJsonUtils

def HasString (item : Json) (key value : String) : Prop := item.getObjectItem key = some (.string value)

def HasInteger (p : JsonPlatform) (t : IntType) (item : Json) (key : String) (value : Int) : Prop :=
  ∃ j, item.getObjectItem key = some j ∧ checkInteger p t j 0 = (true, value)

variable {p : JsonPlatform} {t : IntType} {item : Json} {key : String}

theorem getValueAndSetTo_nonneg {α : Type*} (check : Json → α → Bool × α) (item : Json) (key : String) (value : α) :
    0 ≤ (getValueAndSetTo check item key value).1 := by
  unfold getValueAndSetTo
  split
  · exact Int.natCast_nonneg 2
  split
  · exact Int.natCast_nonneg 2
  split
  exacts [Int.natCast_nonneg 3, le_refl 0]

theorem getValueAndSetTo_checkString (hkey : key ≠ "") (d : String) :
    ((getValueAndSetTo checkString item key d).1 = 0 ↔ ∃ v, HasString item key v) ∧
      ∀ v, HasString item key v → getValueAndSetTo checkString item key d = (0, v) := by
  unfold getValueAndSetTo HasString
  rw [if_neg hkey]
  cases item.getObjectItem key with
  | none => simp [JsonParseError.toInt]
  | some j => cases j <;> simp [checkString, JsonParseError.toInt]

theorem getValueAndSetTo_checkInteger (hkey : key ≠ "") (d : Int) :
    ((getValueAndSetTo (checkInteger p t) item key d).1 = 0 ↔ ∃ v, HasInteger p t item key v) ∧
      ∀ v, HasInteger p t item key v → getValueAndSetTo (checkInteger p t) item key d = (0, v) := by
  have hcheck : ∀ j v, checkInteger p t j 0 = (true, v) ↔ checkInteger p t j d = (true, v) := by
    intro j v
    unfold checkInteger
    split
    · split
      · simp
      · split <;> simp
    · simp
  unfold getValueAndSetTo HasInteger
  rw [if_neg hkey]
  cases item.getObjectItem key with
  | none => simp [JsonParseError.toInt]
  | some j =>
    simp only [Option.some.injEq, exists_eq_left', hcheck]
    generalize checkInteger p t j d = r
    rcases r with ⟨⟨⟩ | ⟨⟩, v⟩ <;> simp [JsonParseError.toInt]

/-- What is read without an error is what the item has. -/
theorem hasString_of_eq_zero (hkey : key ≠ "") {d : String} (h : (getValueAndSetTo checkString item key d).1 = 0) :
    HasString item key (getValueAndSetTo checkString item key d).2 := by
  obtain ⟨v, hv⟩ := (getValueAndSetTo_checkString hkey d).1.1 h
  rwa [(getValueAndSetTo_checkString hkey d).2 v hv]

theorem hasInteger_of_eq_zero (hkey : key ≠ "") {d : Int} (h : (getValueAndSetTo (checkInteger p t) item key d).1 = 0) :
    HasInteger p t item key (getValueAndSetTo (checkInteger p t) item key d).2 := by
  obtain ⟨v, hv⟩ := (getValueAndSetTo_checkInteger hkey d).1.1 h
  rwa [(getValueAndSetTo_checkInteger hkey d).2 v hv]

end UpdateServiceJsonUtils

namespace FirmwareCheckAnalyzeUtils
open UpdateServiceJsonUtils

def fileNameOf (url : String) : String := String.ofList (StringUtils.getLastSplitString url.toList ['/'])

/-- The component has what the element says, and what it says is allowed. -/
structure IsComponentOf (p : JsonPlatform) (item : Json) (c : FirmwareComponent) : Prop where
  descriptPackageId : HasString item "descriptPackageId" c.descriptPackageId
  url : HasString item "url" c.url
  size : HasInteger p .int64 item "size" c.size
  verifyInfo : HasString item "verifyInfo" c.verifyInfo
  versionNumber : HasString item "versionCode" c.versionNumber
  targetBlVersionNumber : HasString item "versionName" c.targetBlVersionNumber
  versionPackageType : HasInteger p .int32 item "packageType" c.versionPackageType
  otaType : HasInteger p .int32 item "otaType" c.otaType
  size_pos : 0 < c.size
  fileName : c.fileName = fileNameOf c.url
  isValidFileName : isValidFileName c.fileName = true

/-- The element has the fields that are read of it, and a size or a file name that is not allowed. -/
def IsDropped (p : JsonPlatform) (item : Json) : Prop :=
  (∃ v, HasString item "descriptPackageId" v) ∧ (∃ v, HasInteger p .int32 item "packageType" v) ∧
    (∃ v, HasString item "versionName" v) ∧ (∃ v, HasString item "versionCode" v) ∧
    ∃ url size, HasString item "url" url ∧ HasInteger p .int64 item "size" size ∧
      (size ≤ 0 ∨ isValidFileName (fileNameOf url) = false)

def IsDescript (p : JsonPlatform) (itemInfo : Json) : Prop :=
  (∃ v, HasInteger p .int32 itemInfo "descriptionType" v) ∧ ∃ v, HasString itemInfo "content" v

/-- The size of an element that is not left out. -/
def keptSize (p : JsonPlatform) (item : Json) : Option Int :=
  let size := (getValueAndSetTo (checkInteger p .int64) item "size" 0).2
  if 0 < size ∧ isValidFileName (fileNameOf (getValueAndSetTo checkString item "url" "").2) then some size else none

def SizesFit (p : JsonPlatform) (items : List Json) : Prop := (items.filterMap (keptSize p)).sum ≤ 2 ^ 63 - 1

variable {p : JsonPlatform} {item : Json} {items : List Json} {c : FirmwareComponent}

/-! ### One element -/

theorem IsComponentOf.not_isDropped (h : IsComponentOf p item c) : ¬ IsDropped p item := by
  rintro ⟨-, -, -, -, url, size, hurl, ⟨j, hj, hsize⟩, hill⟩
  obtain rfl : c.url = url := Json.string.inj (Option.some.inj (h.url.symm.trans hurl))
  obtain ⟨j', hj', hsize'⟩ := h.size
  obtain rfl : j' = j := Option.some.inj (hj'.symm.trans hj)
  obtain rfl : c.size = size := (Prod.mk.inj (hsize'.symm.trans hsize)).2
  rcases hill with hill | hill
  · exact absurd h.size_pos (not_lt.2 hill)
  · rw [← h.fileName, h.isValidFileName] at hill
    cases hill

/-- No field of an element has a negative error code. -/
theorem fields_nonneg (p : JsonPlatform) (item : Json) :
    0 ≤ (getValueAndSetTo checkString item "descriptPackageId" "").1 ∧
    0 ≤ (getValueAndSetTo checkString item "url" "").1 ∧
      0 ≤ (getValueAndSetTo (checkInteger p .int64) item "size" 0).1 ∧
      0 ≤ (getValueAndSetTo checkString item "verifyInfo" "").1 ∧
      0 ≤ (getValueAndSetTo checkString item "versionCode" "").1 ∧
      0 ≤ (getValueAndSetTo checkString item "versionName" "").1 ∧
      0 ≤ (getValueAndSetTo (checkInteger p .int32) item "packageType" 0).1 ∧
      0 ≤ (getValueAndSetTo (checkInteger p .int32) item "otaType" 0).1 :=
  have hs := fun key => getValueAndSetTo_nonneg checkString item key ""
  have hi := fun t key => getValueAndSetTo_nonneg (checkInteger p t) item key 0
  ⟨hs _, hs _, hi _ _, hs _, hs _, hs _, hi _ _, hi _ _⟩

theorem analyzeBlVersionCheckResult_nonneg (p : JsonPlatform) (item : Json) :
    0 ≤ analyzeBlVersionCheckResult p item := by
  obtain ⟨h₁, h₂, -, -, h₃, h₄, h₅, -⟩ := fields_nonneg p item
  unfold analyzeBlVersionCheckResult
  omega

theorem processCheckResult_nonneg (p : JsonPlatform) (item : Json) : 0 ≤ (processCheckResult p item).1 := by
  obtain ⟨h₁, h₂, h₃, h₄, h₅, h₆, h₇, h₈⟩ := fields_nonneg p item
  unfold processCheckResult
  dsimp only
  split
  · dsimp only; omega
  split <;> dsimp only <;> omega

theorem map_size_processCheckResult (p : JsonPlatform) (item : Json) :
    (processCheckResult p item).2.map (·.size) = keptSize p item := by
  unfold processCheckResult keptSize
  dsimp only
  split
  · rw [if_neg fun h => by omega]; rfl
  rename_i hsize
  split
  · rename_i hname
    have hinvalid : isValidFileName (fileNameOf (getValueAndSetTo checkString item "url" "").2) = false := by
      simpa [fileNameOf] using hname
    rw [hinvalid, if_neg fun h => Bool.false_ne_true h.2]; rfl
  · rename_i hname
    rw [if_pos ⟨by omega, by simpa [fileNameOf] using hname⟩]; rfl

/-- A component and no error: only if the element has all that it is to have. -/
theorem isComponentOf_processCheckResult (hc : (processCheckResult p item).2 = some c)
    (h : (processCheckResult p item).1 = 0) :
    IsComponentOf p item c := by
  obtain ⟨h₁, h₂, h₃, h₄, h₅, h₆, h₇, h₈⟩ := fields_nonneg p item
  unfold processCheckResult at hc h
  dsimp only at hc h
  split at hc
  · cases hc
  rename_i hsize
  split at hc
  · cases hc
  rename_i hname
  rw [if_neg hsize, if_neg hname] at h
  obtain rfl := Option.some.inj hc
  exact {
    descriptPackageId := hasString_of_eq_zero (by decide) (by omega)
    url := hasString_of_eq_zero (by decide) (by omega)
    size := hasInteger_of_eq_zero (by decide) (by omega)
    verifyInfo := hasString_of_eq_zero (by decide) (by omega)
    versionNumber := hasString_of_eq_zero (by decide) (by omega)
    targetBlVersionNumber := hasString_of_eq_zero (by decide) (by omega)
    versionPackageType := hasInteger_of_eq_zero (by decide) (by omega)
    otaType := hasInteger_of_eq_zero (by decide) (by omega)
    size_pos := by dsimp only; omega
    fileName := rfl
    isValidFileName := by simpa using hname }

theorem IsComponentOf.processCheckResult (h : IsComponentOf p item c) :
    ∃ c', processCheckResult p item = (0, some c') ∧ IsComponentOf p item c' := by
  have hret : (FirmwareCheckAnalyzeUtils.processCheckResult p item).1 = 0 ∧
      (FirmwareCheckAnalyzeUtils.processCheckResult p item).2.isSome = true := by
    unfold FirmwareCheckAnalyzeUtils.processCheckResult
    rw [(getValueAndSetTo_checkString (by decide) "").2 _ h.descriptPackageId,
      (getValueAndSetTo_checkString (by decide) "").2 _ h.url, (getValueAndSetTo_checkInteger (by decide) 0).2 _ h.size]
    dsimp only
    rw [if_neg (not_le.2 h.size_pos), ← fileNameOf, ← h.fileName, h.isValidFileName, if_neg (by decide),
      (getValueAndSetTo_checkString (by decide) "").2 _ h.verifyInfo,
      (getValueAndSetTo_checkString (by decide) "").2 _ h.versionNumber,
      (getValueAndSetTo_checkString (by decide) "").2 _ h.targetBlVersionNumber,
      (getValueAndSetTo_checkInteger (by decide) 0).2 _ h.versionPackageType,
      (getValueAndSetTo_checkInteger (by decide) 0).2 _ h.otaType]
    exact ⟨rfl, rfl⟩
  obtain ⟨c', hc'⟩ := Option.isSome_iff_exists.1 hret.2
  exact ⟨c', Prod.ext hret.1 hc', isComponentOf_processCheckResult hc' hret.1⟩

theorem IsDropped.processCheckResult (h : IsDropped p item) : processCheckResult p item = (0, none) := by
  obtain ⟨⟨id, hid⟩, -, -, -, url, size, hurl, hsize, hill⟩ := h
  unfold FirmwareCheckAnalyzeUtils.processCheckResult
  rw [(getValueAndSetTo_checkString (by decide) "").2 _ hid, (getValueAndSetTo_checkString (by decide) "").2 _ hurl,
    (getValueAndSetTo_checkInteger (by decide) 0).2 _ hsize]
  dsimp only
  split
  · rfl
  · rename_i hpos
    rcases hill with hill | hill
    · exact absurd hill hpos
    · rw [← fileNameOf, hill, Bool.not_false, if_pos rfl]; rfl

theorem analyzeBlVersionCheckResult_eq_zero_iff : analyzeBlVersionCheckResult p item = 0 ↔
    (∃ v, HasString item "descriptPackageId" v) ∧ (∃ v, HasInteger p .int32 item "packageType" v) ∧
      (∃ v, HasString item "versionName" v) ∧ (∃ v, HasString item "versionCode" v) ∧ ∃ v, HasString item "url" v := by
  obtain ⟨h₁, h₂, -, -, h₃, h₄, h₅, -⟩ := fields_nonneg p item
  rw [← (getValueAndSetTo_checkString (by decide) "").1, ← (getValueAndSetTo_checkInteger (by decide) 0).1,
    ← (getValueAndSetTo_checkString (by decide) "").1, ← (getValueAndSetTo_checkString (by decide) "").1,
    ← (getValueAndSetTo_checkString (by decide) "").1]
  unfold analyzeBlVersionCheckResult
  omega

/-- Both passes take an element without an error if it is listed or dropped. -/
theorem element_eq_zero_iff : analyzeBlVersionCheckResult p item = 0 ∧ (processCheckResult p item).1 = 0 ↔
    (∃ c, IsComponentOf p item c) ∨ IsDropped p item := by
  constructor
  · rintro ⟨hbl, hret⟩
    cases hc : (FirmwareCheckAnalyzeUtils.processCheckResult p item).2 with
    | some c => exact .inl ⟨c, isComponentOf_processCheckResult hc hret⟩
    | none =>
      obtain ⟨hid, htype, hname, hcode, url, hurl⟩ := analyzeBlVersionCheckResult_eq_zero_iff.1 hbl
      refine .inr ⟨hid, htype, hname, hcode, url, ?_⟩
      obtain ⟨h₁, h₂, h₃, -⟩ := fields_nonneg p item
      unfold FirmwareCheckAnalyzeUtils.processCheckResult at hc hret
      dsimp only at hc hret
      rw [(getValueAndSetTo_checkString (by decide) "").2 _ hurl] at hc hret h₂
      split at hc
      · rename_i hsize
        rw [if_pos hsize] at hret
        obtain ⟨size, hsz⟩ := (getValueAndSetTo_checkInteger (by decide) 0).1.1
          (show (getValueAndSetTo (checkInteger p .int64) item "size" 0).1 = 0 by dsimp only at hret; omega)
        rw [(getValueAndSetTo_checkInteger (by decide) 0).2 _ hsz] at hsize
        exact ⟨size, hurl, hsz, .inl hsize⟩
      rename_i hsize
      split at hc
      · rename_i hfile
        rw [if_neg hsize, if_pos hfile] at hret
        obtain ⟨size, hsz⟩ := (getValueAndSetTo_checkInteger (by decide) 0).1.1
          (show (getValueAndSetTo (checkInteger p .int64) item "size" 0).1 = 0 by dsimp only at hret; omega)
        exact ⟨size, hurl, hsz, .inr (by simpa [fileNameOf] using hfile)⟩
      · cases hc
  · rintro (⟨c, hc⟩ | hd)
    · obtain ⟨c', hc', -⟩ := hc.processCheckResult
      refine ⟨analyzeBlVersionCheckResult_eq_zero_iff.2 ⟨⟨_, hc.descriptPackageId⟩, ⟨_, hc.versionPackageType⟩,
        ⟨_, hc.targetBlVersionNumber⟩, ⟨_, hc.versionNumber⟩, _, hc.url⟩, by rw [hc']⟩
    · refine ⟨?_, by rw [hd.processCheckResult]⟩
      obtain ⟨hid, htype, hname, hcode, url, -, hurl, -⟩ := hd
      exact analyzeBlVersionCheckResult_eq_zero_iff.2 ⟨hid, htype, hname, hcode, url, hurl⟩

/-! ### The answer -/

/-- Exactly one component for each element, in order, with a sum of the sizes that does not overflow. -/
def IsComplete (p : JsonPlatform) (items : List Json) (components : List FirmwareComponent) : Prop :=
  List.Forall₂ (IsComponentOf p) items components ∧ (components.map (·.size)).sum ≤ 2 ^ 63 - 1

theorem map_size_processCheckResults (p : JsonPlatform) (checkResults : Json) :
    (processCheckResults p checkResults).2.map (·.size) = checkResults.children.filterMap (keptSize p) := by
  unfold processCheckResults
  dsimp only
  rw [List.filterMap_map, List.map_filterMap]
  exact List.filterMap_congr fun item _ => map_size_processCheckResult p item

theorem totalSize_ne_none_iff {components : List FirmwareComponent} (h : ∀ c ∈ components, 0 ≤ c.size) :
    totalSize components ≠ none ↔ (components.map (·.size)).sum ≤ 2 ^ 63 - 1 := by
  have hfold : ∀ total : Int, total ≤ 2 ^ 63 - 1 →
      (components.foldlM (fun total c => if 2 ^ 63 - 1 - c.size < total then none else some (total + c.size)) total ≠ none ↔
        total + (components.map (·.size)).sum ≤ 2 ^ 63 - 1) := by
    induction components with
    | nil => intro total htotal; simpa using htotal
    | cons c components ih =>
      intro total htotal
      have hrest : 0 ≤ (components.map (·.size)).sum := List.sum_map_nonneg fun b hb => h b (List.mem_cons_of_mem _ hb)
      rw [List.foldlM_cons, List.map_cons, List.sum_cons]
      by_cases hc : 2 ^ 63 - 1 - c.size < total
      · rw [if_pos hc]
        refine iff_of_false (fun hn => hn rfl) ?_
        omega
      · rw [if_neg hc, ← add_assoc]
        exact ih (fun b hb => h b (List.mem_cons_of_mem _ hb)) (total + c.size) (by omega)
  have h₀ := hfold 0 (by decide)
  rwa [zero_add] at h₀

theorem totalSize_processCheckResults (p : JsonPlatform) (checkResults : Json) :
    totalSize (processCheckResults p checkResults).2 ≠ none ↔ SizesFit p checkResults.children := by
  rw [SizesFit, ← map_size_processCheckResults]
  refine totalSize_ne_none_iff fun c hc => ?_
  have hmem : c.size ∈ checkResults.children.filterMap (keptSize p) :=
    map_size_processCheckResults p checkResults ▸ List.mem_map_of_mem hc
  obtain ⟨item, -, hitem⟩ := List.mem_filterMap.1 hmem
  unfold keptSize at hitem
  dsimp only at hitem
  split at hitem
  · rename_i hpos
    obtain hsize := Option.some.inj hitem
    omega
  · cases hitem

theorem processDescript_eq_zero_iff {itemInfo : Json} : (processDescript p itemInfo).1 = 0 ↔ IsDescript p itemInfo := by
  have h₁ := getValueAndSetTo_nonneg (checkInteger p .int32) itemInfo "descriptionType" p.indeterminate
  have h₂ := getValueAndSetTo_nonneg checkString itemInfo "content" ""
  rw [IsDescript, ← (getValueAndSetTo_checkInteger (by decide) p.indeterminate).1,
    ← (getValueAndSetTo_checkString (by decide) "").1]
  unfold processDescript
  dsimp only
  omega

theorem processDescript_nonneg (p : JsonPlatform) (itemInfo : Json) : 0 ≤ (processDescript p itemInfo).1 :=
  Int.add_nonneg (getValueAndSetTo_nonneg _ _ _ _) (getValueAndSetTo_nonneg _ _ _ _)

/-- The elements of `checkResults`. -/
def elements (root : Json) : List Json :=
  match root.getObjectItem "checkResults" with
  | none => []
  | some itemCheckResults => itemCheckResults.children

/-- Every field that is read is there, and the sizes fit. -/
def IsReadable (p : JsonPlatform) (root : Json) : Prop :=
  ∃ itemCheckResults itemDescriptInfo, root.getObjectItem "checkResults" = some itemCheckResults ∧
    root.getObjectItem "descriptInfo" = some itemDescriptInfo ∧
    (∀ item ∈ itemCheckResults.children, (∃ c, IsComponentOf p item c) ∨ IsDropped p item) ∧
    (∀ itemInfo ∈ itemDescriptInfo.children, IsDescript p itemInfo) ∧ SizesFit p itemCheckResults.children

/-- The analysis comes to a description. -/
def ReachesDescript (p : JsonPlatform) (root : Json) : Prop :=
  ∃ itemCheckResults itemDescriptInfo, root.getObjectItem "checkResults" = some itemCheckResults ∧
    root.getObjectItem "descriptInfo" = some itemDescriptInfo ∧ SizesFit p itemCheckResults.children ∧
    itemDescriptInfo.children ≠ []

/-- The sum of the errors by which `DoAnalyze` decides. -/
def analyzeRet (p : JsonPlatform) (root : Json) : Int := analyzeBlVersionCheckResults p root + (analyzeComponents p root).1

/-- No error code is negative, so the sum comes to nothing if each of them does. -/
theorem sum_errors_eq_zero_iff {itemCheckResults itemDescriptInfo : Json} :
    (itemCheckResults.children.map (analyzeBlVersionCheckResult p)).sum +
        ((processCheckResults p itemCheckResults).1 + (processDescriptInfo p itemDescriptInfo).1) = 0 ↔
      (∀ item ∈ itemCheckResults.children, (∃ c, IsComponentOf p item c) ∨ IsDropped p item) ∧
        ∀ itemInfo ∈ itemDescriptInfo.children, IsDescript p itemInfo := by
  have hret : (processCheckResults p itemCheckResults).1 =
      (itemCheckResults.children.map fun item => (processCheckResult p item).1).sum := by
    rw [processCheckResults, List.map_map]; rfl
  have hret' : (processDescriptInfo p itemDescriptInfo).1 =
      (itemDescriptInfo.children.map fun itemInfo => (processDescript p itemInfo).1).sum := by
    rw [processDescriptInfo, List.map_map]; rfl
  have hbl := List.sum_map_nonneg fun item (_ : item ∈ itemCheckResults.children) => analyzeBlVersionCheckResult_nonneg p item
  have hn := List.sum_map_nonneg fun item (_ : item ∈ itemCheckResults.children) => processCheckResult_nonneg p item
  have hn' := List.sum_map_nonneg fun itemInfo (_ : itemInfo ∈ itemDescriptInfo.children) => processDescript_nonneg p itemInfo
  rw [hret, hret']
  trans (itemCheckResults.children.map (analyzeBlVersionCheckResult p)).sum = 0 ∧
    (itemCheckResults.children.map fun item => (processCheckResult p item).1).sum = 0 ∧
    (itemDescriptInfo.children.map fun itemInfo => (processDescript p itemInfo).1).sum = 0
  · omega
  rw [List.sum_map_eq_zero_iff fun item _ => analyzeBlVersionCheckResult_nonneg p item,
    List.sum_map_eq_zero_iff fun item _ => processCheckResult_nonneg p item,
    List.sum_map_eq_zero_iff fun itemInfo _ => processDescript_nonneg p itemInfo]
  constructor
  · rintro ⟨h₁, h₂, h₃⟩
    exact ⟨fun item hitem => element_eq_zero_iff.1 ⟨h₁ item hitem, h₂ item hitem⟩,
      fun itemInfo hitem => processDescript_eq_zero_iff.1 (h₃ itemInfo hitem)⟩
  · rintro ⟨hitems, hinfos⟩
    exact ⟨fun item hitem => (element_eq_zero_iff.2 (hitems item hitem)).1,
      fun item hitem => (element_eq_zero_iff.2 (hitems item hitem)).2,
      fun itemInfo hitem => processDescript_eq_zero_iff.2 (hinfos itemInfo hitem)⟩

theorem analyzeRet_eq_zero_iff {root : Json} (hstatus : searchStatus p root = statusNewVersionAvailable) :
    analyzeRet p root = 0 ↔ IsReadable p root := by
  have hmissing : (0 : Int) < JsonParseError.missingProp.toInt := by decide
  unfold analyzeRet analyzeBlVersionCheckResults analyzeComponents IsReadable
  cases hr : root.getObjectItem "checkResults" with
  | none =>
    dsimp only
    refine iff_of_false (by omega) ?_
    rintro ⟨_, _, h, -⟩
    cases h
  | some itemCheckResults =>
    have hbl := List.sum_map_nonneg fun item (_ : item ∈ itemCheckResults.children) => analyzeBlVersionCheckResult_nonneg p item
    have hfit := totalSize_processCheckResults p itemCheckResults
    dsimp only
    rw [if_pos hstatus]
    split
    · rename_i hnone
      dsimp only
      refine iff_of_false (by omega) ?_
      rintro ⟨_, _, h, -, -, -, hsizes⟩
      obtain rfl := Option.some.inj h
      exact hfit.2 hsizes hnone
    rename_i hsome
    cases hd : root.getObjectItem "descriptInfo" with
    | none =>
      dsimp only
      refine iff_of_false (by omega) ?_
      rintro ⟨_, _, -, h, -⟩
      cases h
    | some itemDescriptInfo =>
      dsimp only
      rw [sum_errors_eq_zero_iff]
      constructor
      · rintro ⟨hitems, hinfos⟩
        exact ⟨itemCheckResults, itemDescriptInfo, rfl, rfl, hitems, hinfos, hfit.1 hsome⟩
      · rintro ⟨_, _, hres, hdes, hitems, hinfos, -⟩
        obtain rfl := Option.some.inj hres
        obtain rfl := Option.some.inj hdes
        exact ⟨hitems, hinfos⟩

theorem savedChangelogs_eq_nil_iff {rawJson : String} {root : Json} (hroot : p.parse rawJson = some root)
    (hstatus : searchStatus p root = statusNewVersionAvailable) :
    savedChangelogs p rawJson = [] ↔ ¬ ReachesDescript p root := by
  unfold savedChangelogs analyzeComponents ReachesDescript changelogFiles
  rw [hroot]
  dsimp only
  rw [if_pos hstatus]
  cases hr : root.getObjectItem "checkResults" with
  | none => simp
  | some itemCheckResults =>
    have hfit := totalSize_processCheckResults p itemCheckResults
    dsimp only
    split
    · rename_i hnone
      refine iff_of_true rfl ?_
      rintro ⟨_, _, h, -, hsizes, -⟩
      obtain rfl := Option.some.inj h
      exact hfit.2 hsizes hnone
    rename_i hsome
    cases hd : root.getObjectItem "descriptInfo" with
    | none => simp
    | some itemDescriptInfo => simp [processDescriptInfo, hfit.1 hsome]

theorem not_isDropped_of_forall₂ {components : List FirmwareComponent}
    (h : List.Forall₂ (IsComponentOf p) items components) :
    ∀ item ∈ items, ¬ IsDropped p item := by
  induction h with
  | nil => exact fun item hitem => absurd hitem List.not_mem_nil
  | cons hof _ ih => exact List.forall_mem_cons.2 ⟨hof.not_isDropped, ih⟩

theorem forall₂_filterMap (hitems : ∀ item ∈ items, ∃ c, IsComponentOf p item c) :
    List.Forall₂ (IsComponentOf p) items (items.filterMap fun item => (processCheckResult p item).2) := by
  induction items with
  | nil => exact .nil
  | cons item items ih =>
    obtain ⟨⟨c, hc⟩, hitems⟩ := List.forall_mem_cons.1 hitems
    obtain ⟨c', hc', hof⟩ := hc.processCheckResult
    rw [List.filterMap_cons, hc']
    exact .cons hof (ih hitems)

/-- Where nothing has an error, the components are complete unless an element was dropped. -/
theorem isComplete_iff {itemCheckResults : Json}
    (hitems : ∀ item ∈ itemCheckResults.children, (∃ c, IsComponentOf p item c) ∨ IsDropped p item)
    (hfit : SizesFit p itemCheckResults.children) :
    IsComplete p itemCheckResults.children (processCheckResults p itemCheckResults).2 ↔
      ∀ item ∈ itemCheckResults.children, ¬ IsDropped p item := by
  have hsum : ((processCheckResults p itemCheckResults).2.map (·.size)).sum ≤ 2 ^ 63 - 1 := by
    rw [map_size_processCheckResults]; exact hfit
  have hcomponents : (processCheckResults p itemCheckResults).2 =
      itemCheckResults.children.filterMap fun item => (processCheckResult p item).2 := by
    rw [processCheckResults, List.filterMap_map]; rfl
  rw [IsComplete, and_iff_left hsum, hcomponents]
  exact ⟨not_isDropped_of_forall₂, fun hnone =>
    forall₂_filterMap fun item hitem => (hitems item hitem).resolve_right (hnone item hitem)⟩

theorem isComplete_nil_iff : IsComplete p items [] ↔ items = [] := by
  constructor
  · rintro ⟨h, -⟩
    exact List.forall₂_nil_right_iff.1 h
  · rintro rfl
    exact ⟨.nil, by decide⟩

/-! ### All or nothing -/

/-- The error codes of an answer with a new version come to nothing, so its components are handed out. -/
def IsAccepted (p : JsonPlatform) (rawJson : String) : Prop :=
  ∃ root, p.parse rawJson = some root ∧ searchStatus p root = statusNewVersionAvailable ∧ analyzeRet p root = 0

/-- The list is left as it was and no file is saved, or it has exactly the elements of the answer; and it has them
if the answer is accepted. -/
def AllOrNothing (p : JsonPlatform) (rawJson : String) (components : List FirmwareComponent)
    (responseStatus : String) : Prop :=
  let result := (doAnalyze p rawJson components responseStatus).1
  let items := ((p.parse rawJson).map elements).getD []
  (result = components ∧ savedChangelogs p rawJson = [] ∨ IsComplete p items result) ∧
    (IsAccepted p rawJson → IsComplete p items result)

/-- Where there is a new version: no element is dropped of an answer that has no error, and an answer with an error
has no description that is come to. Where there is none, the answer has no elements to leave out. -/
def KeepsAll (p : JsonPlatform) (root : Json) (components : List FirmwareComponent) : Prop :=
  (searchStatus p root = statusNewVersionAvailable →
    (IsReadable p root → ∀ item ∈ elements root, ¬ IsDropped p item) ∧
    (¬ IsReadable p root → ReachesDescript p root → IsComplete p (elements root) components)) ∧
  (searchStatus p root = statusNewVersionNotAvailable → components = [] ∨ elements root = [])

section
variable {rawJson : String} {root : Json} {components : List FirmwareComponent} {responseStatus : String}

theorem doAnalyze_available (hroot : p.parse rawJson = some root)
    (hnew : searchStatus p root = statusNewVersionAvailable) :
    (doAnalyze p rawJson components responseStatus).1 =
      if analyzeRet p root = 0 then (analyzeComponents p root).2.1 else components := by
  unfold doAnalyze analyzeRet
  rw [hroot]
  dsimp only
  rw [if_neg (by rw [isLegalStatus, hnew]; decide), if_pos hnew]
  by_cases h : analyzeBlVersionCheckResults p root + (analyzeComponents p root).1 = 0
  · rw [if_pos h, if_pos (show _ = JsonParseError.errOk.toInt from h)]
  · rw [if_neg h, if_neg (show ¬ _ = JsonParseError.errOk.toInt from h)]

theorem doAnalyze_notAvailable (hroot : p.parse rawJson = some root)
    (hstatus : searchStatus p root ≠ statusNewVersionAvailable) :
    (doAnalyze p rawJson components responseStatus).1 =
      if searchStatus p root = statusNewVersionNotAvailable then [] else components := by
  unfold doAnalyze isLegalStatus
  rw [hroot]
  dsimp only
  rw [decide_eq_false hstatus, Bool.false_or]
  by_cases hnot : searchStatus p root = statusNewVersionNotAvailable
  · rw [decide_eq_true hnot, Bool.not_true, if_neg Bool.false_ne_true, if_neg hstatus, if_pos hnot]
  · rw [decide_eq_false hnot, Bool.not_false, if_pos rfl, if_neg hnot]

theorem components_analyzeComponents {itemCheckResults itemDescriptInfo : Json}
    (hr : root.getObjectItem "checkResults" = some itemCheckResults)
    (hd : root.getObjectItem "descriptInfo" = some itemDescriptInfo) :
    (analyzeComponents p root).2.1 = (processCheckResults p itemCheckResults).2 := by
  unfold analyzeComponents
  rw [hr, hd]
  dsimp only
  split <;> rfl

theorem isComplete_analyzeComponents (h : IsReadable p root) :
    IsComplete p (elements root) (analyzeComponents p root).2.1 ↔ ∀ item ∈ elements root, ¬ IsDropped p item := by
  obtain ⟨itemCheckResults, _, hr, hd, hitems, -, hfit⟩ := h
  rw [components_analyzeComponents hr hd, elements, hr]
  exact isComplete_iff hitems hfit

/-! ### The components that are handed out -/

theorem size_pos_of_processCheckResult (h : (processCheckResult p item).2 = some c) : 0 < c.size := by
  have hsize := map_size_processCheckResult p item
  rw [h, Option.map_some, eq_comm, keptSize] at hsize
  split at hsize
  · rename_i hkept
    obtain hc := Option.some.inj hsize
    omega
  · cases hsize

theorem mem_doAnalyze (hc : c ∈ (doAnalyze p rawJson [] responseStatus).1) :
    ∃ item, (processCheckResult p item).2 = some c := by
  cases hroot : p.parse rawJson with
  | none => simp [doAnalyze, hroot] at hc
  | some root =>
    by_cases hnew : searchStatus p root = statusNewVersionAvailable
    · rw [doAnalyze_available hroot hnew] at hc
      split at hc
      · rename_i hzero
        obtain ⟨itemCheckResults, itemDescriptInfo, hr, hd, -⟩ := (analyzeRet_eq_zero_iff hnew).1 hzero
        rw [components_analyzeComponents hr hd, processCheckResults, List.filterMap_map] at hc
        obtain ⟨item, -, hitem⟩ := List.mem_filterMap.1 hc
        exact ⟨item, hitem⟩
      · cases hc
    · rw [doAnalyze_notAvailable hroot hnew, ite_self] at hc
      cases hc

theorem sum_size_doAnalyze (p : JsonPlatform) (rawJson responseStatus : String) :
    ((doAnalyze p rawJson [] responseStatus).1.map (·.size)).sum ≤ 2 ^ 63 - 1 := by
  cases hroot : p.parse rawJson with
  | none => simp [doAnalyze, hroot]
  | some root =>
    by_cases hnew : searchStatus p root = statusNewVersionAvailable
    · rw [doAnalyze_available hroot hnew]
      split
      · rename_i hzero
        obtain ⟨itemCheckResults, itemDescriptInfo, hr, hd, -, -, hfit⟩ := (analyzeRet_eq_zero_iff hnew).1 hzero
        rw [components_analyzeComponents hr hd, map_size_processCheckResults]
        exact hfit
      · decide
    · rw [doAnalyze_notAvailable hroot hnew, ite_self]
      decide

end

def package (descriptPackageId : String) (size : Rat) : Json :=
  .object [("descriptPackageId", .string descriptPackageId), ("url", .string "https://host/update.zip"), ("size", .number (.finite size)),
    ("verifyInfo", .string "0f"), ("versionCode", .string "2.0"), ("versionName", .string "2.0"),
    ("packageType", .number (.finite 1)), ("otaType", .number (.finite 1))]

def answer (checkResults descriptInfo : List Json) : Json :=
  .object [("searchStatus", .number (.finite 0)), ("checkResults", .array checkResults), ("descriptInfo", .array descriptInfo)]

def platformOf (root : Json) : JsonPlatform where
  parse _ := some root
  convert _ _ := 0
  indeterminate := 0

/-- The list that an answer with a new version hands out. -/
def handedOut (checkResults : List Json) : List FirmwareComponent :=
  (doAnalyze (platformOf (answer checkResults [])) "" [] "").1

end FirmwareCheckAnalyzeUtils

end UpdateService
