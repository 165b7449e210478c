import UpdateService.Proofs.UpdaterRecord

/-!
# When an upgrade is reported as done

`GetUpdaterResult` puts one result for each path into a map: the first record of the file, else the comparison of a
version. So where two components share a path of which the file says nothing, the version of the first one decides
for both.
-/

namespace UpdateService

namespace FirmwareResultProcess
open StringUtils
variable {line path : List Char} {r : UpdateResult} {resultMap : ResultMap} {v : String} {file : Option (List Char)}
  {components : List FirmwareComponent} {component : FirmwareComponent} {taskTable : List FirmwareTask} {n : Nat}

/-! ### What a file says -/

def pathOf (line : List Char) : List Char := trim ((line.getlines '|').getD 0 [])

/-- The field behind the path as far as its first colon. -/
def resultOf (line : List Char) : List Char := trim (((line.getlines '|').getD 1 []).takeWhile (· ≠ ':'))

/-- The result in the first record of `path`. -/
def recorded (path : List Char) (text : List Char) : Option (List Char) :=
  ((text.splitOn '\n').find? fun line => line ≠ [] ∧ pathOf line = path).map resultOf

/-- The component has the success word in its record or, without one, the version the device shows. -/
def PassedAlone (v : String) (file : Option (List Char)) (component : FirmwareComponent) : Prop :=
  match file.bind (recorded component.spath.toList) with
  | some result => result = updaterResultSuccess
  | none => component.versionNumber = v

/-- As `PassedAlone`, but without a record the version is that of the first component with the path. -/
def Passed (v : String) (file : Option (List Char)) (components : List FirmwareComponent)
    (component : FirmwareComponent) : Prop :=
  match file.bind (recorded component.spath.toList) with
  | some result => result = updaterResultSuccess
  | none => ∃ c, components.find? (fun c => c.spath.toList = component.spath.toList) = some c ∧ c.versionNumber = v

theorem colon_mem_trim_iff (s : List Char) : ':' ∈ trim s ↔ ':' ∈ s := by
  rw [← List.count_pos_iff, count_trim (by decide), List.count_pos_iff]

theorem parseResult_eq (results : List (List Char)) (index : Nat) :
    parseResult results [] index = trim (results.getD index []) := by
  rw [parseResult, List.getD]
  cases results[index]? <;> rfl

/-- What the parser makes of a line, but for the reason. -/
theorem updateResultOf_eq_some (h : updateResultOf line = some r) :
    r.spath = pathOf line ∧ r.result = resultOf line := by
  have hpath : trim (parseResult (line.getlines '|') [] pkgPathIndex) = pathOf line := by
    rw [parseResult_eq, trim_trim]
    rfl
  by_cases hcolon : ':' ∈ (line.getlines '|').getD resultIndex []
  · cases htoken : (line.getlines '|')[resultIndex]? with
    | none =>
      rw [List.getD, htoken] at hcolon
      cases hcolon
    | some token =>
      rw [List.getD, htoken, Option.getD_some] at hcolon
      obtain ⟨k, w, rfl, hk⟩ := List.eq_append_cons_of_mem hcolon
      have hk' : ':' ∉ lTrim k := fun hmem => hk ((lTrim_suffix k).mem hmem)
      rw [updateResultOf_of_colon rfl htoken (trim_append_cons (by decide)) hk'] at h
      obtain rfl := Option.some.inj h
      refine ⟨hpath, ?_⟩
      rw [resultOf, List.getD, show (line.getlines '|')[1]? = some (k ++ ':' :: w) from htoken, Option.getD_some,
        List.takeWhile_ne_append_cons hk, trim_lTrim]
  · have htrim : ':' ∉ parseResult (line.getlines '|') [] resultIndex := by rwa [parseResult_eq, colon_mem_trim_iff]
    rw [updateResultOf_of_not_mem rfl htrim] at h
    obtain rfl := Option.some.inj h
    refine ⟨hpath, ?_⟩
    have hcolon : ':' ∉ (line.getlines '|').getD 1 [] := hcolon
    show trim (parseResult (line.getlines '|') [] 1) = resultOf line
    rw [resultOf, List.takeWhile_ne_of_not_mem hcolon, parseResult_eq, trim_trim]

/-! ### The map and the flags -/

def resultAt (resultMap : ResultMap) (path : List Char) : Option (List Char) :=
  (resultMap.find? path).map fun e => e.2.result

theorem resultAt_emplace : resultAt (resultMap.emplace (r.spath, r)) path =
    (resultAt resultMap path).or (if path = r.spath then some r.result else none) := by
  rw [resultAt, KeyedList.find?_emplace, Option.map_or]
  split <;> rfl

/-- The lines one after another put their records into the map, of those with one path the first. -/
theorem foldlM_parseUpdaterResultRecord (lines : List (List Char)) (resultMap : ResultMap) : ∃ m : ResultMap,
    lines.foldlM (fun resultMap buffer => parseUpdaterResultRecord buffer resultMap) resultMap = some m ∧
      ∀ path, resultAt m path = (resultAt resultMap path).or
        ((lines.find? fun line => line ≠ [] ∧ pathOf line = path).map resultOf) := by
  induction lines generalizing resultMap with
  | nil => exact ⟨resultMap, rfl, fun path => by simp⟩
  | cons line lines ih =>
    rcases eq_or_ne line [] with rfl | hline
    · obtain ⟨m, hm, hfind⟩ := ih resultMap
      refine ⟨m, ?_, fun path => ?_⟩
      · rw [List.foldlM_cons, parseUpdaterResultRecord, if_pos rfl]
        exact hm
      · rw [hfind, List.find?_cons_of_neg (by simp)]
    · obtain ⟨r, hr⟩ := Option.isSome_iff_exists.1 (isSome_updateResultOf line)
      obtain ⟨hpath, hresult⟩ := updateResultOf_eq_some hr
      obtain ⟨m, hm, hfind⟩ := ih (resultMap.emplace (r.spath, r))
      refine ⟨m, ?_, fun path => ?_⟩
      · rw [List.foldlM_cons, parseUpdaterResultRecord, if_neg hline, hr]
        exact hm
      · rw [hfind, resultAt_emplace, List.find?_cons, hpath, hresult, Option.or_assoc]
        by_cases hp : path = pathOf line
        · simp [hp, hline]
        · simp [hp, Ne.symm hp]

theorem compareVersion_spath : (compareVersion v component).spath = component.spath.toList := by
  unfold compareVersion
  split <;> rfl

theorem resultAt_foldl_emplaceCompared (components : List FirmwareComponent) (resultMap : ResultMap) :
    resultAt (components.foldl (emplaceCompared v) resultMap) path = (resultAt resultMap path).or
      ((components.find? fun c => c.spath.toList = path).map fun c => (compareVersion v c).result) := by
  let entry (c : FirmwareComponent) := ((compareVersion v c).spath, compareVersion v c)
  have hfold : components.foldl (emplaceCompared v) resultMap =
      (components.map entry).foldl KeyedList.emplace resultMap := by
    rw [List.foldl_map]
    rfl
  have hfind : (components.map entry).find? (fun e => e.1 = path) =
      (components.find? fun c => c.spath.toList = path).map entry := by
    rw [List.find?_map]
    congr 2
    ext c
    simp [entry, compareVersion_spath]
  rw [resultAt, hfold, KeyedList.find?_foldl_emplace, hfind, Option.map_or, Option.map_map]
  rfl

/-- A component is put in if its path is not there, and its flag is that of what is there then. -/
theorem handleComponent_eq (v : String) (s : Nat × ResultMap) (component : FirmwareComponent) :
    ∃ status, resultAt (emplaceCompared v s.2 component) component.spath.toList = some status ∧
      handleComponent v s component = (s.1 ||| resultFlag status, emplaceCompared v s.2 component) := by
  have hat : resultAt (emplaceCompared v s.2 component) component.spath.toList =
      (resultAt s.2 component.spath.toList).or
        (([component].find? fun c => c.spath.toList = component.spath.toList).map fun c => (compareVersion v c).result) :=
    resultAt_foldl_emplaceCompared [component] s.2
  unfold handleComponent
  cases hfind : s.2.find? component.spath.toList with
  | none =>
    refine ⟨(compareVersion v component).result, ?_, rfl⟩
    rw [hat, resultAt, hfind]
    simp
  | some e =>
    refine ⟨e.2.result, ?_, ?_⟩
    · rw [hat, resultAt, hfind]
      rfl
    · rw [emplaceCompared, KeyedList.emplace, compareVersion_spath, hfind]
      rfl

theorem foldl_handleComponent (v : String) (components : List FirmwareComponent) (n : Nat) (resultMap : ResultMap) :
    components.foldl (handleComponent v) (n, resultMap) =
      (components.foldl (fun n c => n ||| resultFlag
        ((resultAt (components.foldl (emplaceCompared v) resultMap) c.spath.toList).getD [])) n,
       components.foldl (emplaceCompared v) resultMap) := by
  induction components generalizing n resultMap with
  | nil => rfl
  | cons c components ih =>
    obtain ⟨status, hstatus, heq⟩ := handleComponent_eq v (n, resultMap) c
    rw [List.foldl_cons, heq, ih]
    simp only [List.foldl_cons]
    rw [resultAt_foldl_emplaceCompared, hstatus]
    rfl

/-- The flags are those of a success alone when every result is one. -/
theorem foldl_resultFlag_eq_iff (statuses : List (List Char)) (hn : n = 0 ∨ n = 1 ∨ n = 2 ∨ n = 3) :
    statuses.foldl (fun n status => n ||| resultFlag status) n = updateSuccessed ↔
      (n = 1 ∨ n = 0 ∧ statuses ≠ []) ∧ ∀ status ∈ statuses, status = updaterResultSuccess := by
  induction statuses generalizing n with
  | nil => simp [updateSuccessed]
  | cons status statuses ih =>
    rw [List.foldl_cons, resultFlag]
    split
    · rename_i hs
      rw [ih (by rcases hn with rfl | rfl | rfl | rfl <;> decide)]
      rcases hn with rfl | rfl | rfl | rfl <;> simp [updateSuccessed, hs]
    · rename_i hs
      rw [ih (by rcases hn with rfl | rfl | rfl | rfl <;> decide)]
      rcases hn with rfl | rfl | rfl | rfl <;> simp [updateFailed, hs]

/-! ### The verdict -/

theorem compareVersion_result_iff : (compareVersion v component).result = updaterResultSuccess ↔
    component.versionNumber = v := by
  unfold compareVersion
  split
  · rename_i h
    exact iff_of_true rfl h
  · rename_i h
    exact iff_of_false (show updaterResultFailure ≠ updaterResultSuccess by decide) h

theorem find?_spath_of_mem (h : component ∈ components) :
    ∃ c, components.find? (fun c => c.spath.toList = component.spath.toList) = some c := by
  rw [← Option.isSome_iff_exists, List.find?_isSome]
  exact ⟨component, h, by simp⟩

/-- After the loop over the components: every one has its result in the map, and it is what `Passed` speaks of. -/
theorem resultAt_of_mem (hat : ∀ path, resultAt resultMap path = file.bind (recorded path))
    (h : component ∈ components) :
    ∃ status, resultAt (components.foldl (emplaceCompared v) resultMap) component.spath.toList = some status ∧
      (status = updaterResultSuccess ↔ Passed v file components component) := by
  obtain ⟨c, hc⟩ := find?_spath_of_mem h
  rw [resultAt_foldl_emplaceCompared, hat, hc]
  cases hrec : file.bind (recorded component.spath.toList) with
  | some result => exact ⟨result, rfl, by simp only [Passed, hrec]⟩
  | none =>
    refine ⟨(compareVersion v c).result, rfl, ?_⟩
    simp only [Passed, hrec, hc, Option.some.injEq, exists_eq_left', compareVersion_result_iff]

/-- With a task the verdict is that of the flags, whatever the combination type. -/
theorem handleFileResults_cons (task : FirmwareTask) (tasks : List FirmwareTask) :
    handleFileResults (task :: tasks) v resultMap components =
      (if components.foldl (fun n c => n ||| resultFlag
          ((resultAt (components.foldl (emplaceCompared v) resultMap) c.spath.toList).getD [])) 0 = updateSuccessed
        then .success else .failure,
       components.foldl (emplaceCompared v) resultMap) := by
  have htask : FirmwareTaskOperator.queryTask (task :: tasks) = { task with isExistTask := true } := rfl
  unfold handleFileResults
  rw [foldl_handleComponent, htask]
  by_cases hhota : task.combinationType = combinationTypeHota
  · simp [hhota]
  · simp only [hhota, if_false, ite_not, Bool.not_true, Bool.false_eq_true]
    split <;> rfl

theorem handleFileResults_spec (taskTable : List FirmwareTask) (hcomponents : components ≠ [])
    (hat : ∀ component ∈ components, ∃ status,
      resultAt (components.foldl (emplaceCompared v) resultMap) component.spath.toList = some status ∧
        (status = updaterResultSuccess ↔ Passed v file components component)) :
    ((handleFileResults taskTable v resultMap components).1 = .success ↔
      taskTable ≠ [] ∧ ∀ component ∈ components, Passed v file components component) ∧
    (taskTable ≠ [] → ∀ component ∈ components,
      ((handleFileResults taskTable v resultMap components).2.find? component.spath.toList).isSome) := by
  cases taskTable with
  | nil => exact ⟨iff_of_false (fun h : UpdateResultCode.failure = .success => by cases h) (fun h => h.1 rfl),
      fun h => absurd rfl h⟩
  | cons task tasks =>
    rw [handleFileResults_cons]
    refine ⟨?_, fun _ component hmem => ?_⟩
    · have hflags := foldl_resultFlag_eq_iff (n := 0) (components.map fun c =>
        (resultAt (components.foldl (emplaceCompared v) resultMap) c.spath.toList).getD []) (.inl rfl)
      rw [List.foldl_map, List.forall_mem_map] at hflags
      have hall : (∀ c ∈ components, (resultAt (components.foldl (emplaceCompared v) resultMap) c.spath.toList).getD [] =
          updaterResultSuccess) ↔ ∀ c ∈ components, Passed v file components c := by
        refine forall₂_congr fun c hc => ?_
        obtain ⟨status, hstatus, hpassed⟩ := hat c hc
        rw [hstatus, Option.getD_some, hpassed]
      rw [hall] at hflags
      split
      · rename_i h
        exact iff_of_true rfl ⟨List.cons_ne_nil task tasks, (hflags.1 h).2⟩
      · rename_i h
        refine iff_of_false (fun he => by cases he) fun hpassed => h (hflags.2 ⟨.inr ⟨rfl, ?_⟩, hpassed.2⟩)
        simpa using hcomponents
    · obtain ⟨status, hstatus, -⟩ := hat component hmem
      rw [resultAt] at hstatus
      rw [← Option.isSome_map, hstatus]
      rfl

/-- The map that the loop over the components starts from. -/
def startMap (v : String) (components : List FirmwareComponent) : Option (List Char) → Option ResultMap
  | none => some (handleFileError v components)
  | some text => (text.splitOn '\n').foldlM (fun resultMap buffer => parseUpdaterResultRecord buffer resultMap) ∅

/-- An upgrade is reported as done exactly when a task exists and every component of a list that is not empty has
passed, and the map has an entry for each of them. -/
theorem getUpdaterResult_spec (taskTable : List FirmwareTask) (v : String) (file : Option (List Char))
    (components : List FirmwareComponent) (resultMap : ResultMap) : ∃ code m,
    getUpdaterResult taskTable v file components resultMap = some (code, m) ∧
      (code = .success ↔
        components ≠ [] ∧ taskTable ≠ [] ∧ ∀ component ∈ components, Passed v file components component) ∧
      (components ≠ [] → taskTable ≠ [] → ∀ component ∈ components, (m.find? component.spath.toList).isSome) := by
  unfold getUpdaterResult
  split
  · rename_i hcomponents
    exact ⟨.failure, resultMap, rfl, by simp [hcomponents], fun h => absurd hcomponents h⟩
  rename_i hcomponents
  -- the loop over the components starts from a map that says what the file says, or all that it would put in itself
  obtain ⟨m, hm, hat⟩ : ∃ m, startMap v components file = some m ∧ ∀ component ∈ components, ∃ status,
          resultAt (components.foldl (emplaceCompared v) m) component.spath.toList = some status ∧
            (status = updaterResultSuccess ↔ Passed v file components component) := by
    cases file with
    | none =>
      refine ⟨_, rfl, fun component hmem => ?_⟩
      obtain ⟨status, hstatus, hpassed⟩ : ∃ status,
          resultAt (components.foldl (emplaceCompared v) ∅) component.spath.toList = some status ∧
            (status = updaterResultSuccess ↔ Passed v none components component) :=
        resultAt_of_mem (fun path => rfl) hmem
      refine ⟨status, ?_, hpassed⟩
      rw [resultAt_foldl_emplaceCompared, handleFileError, hstatus]
      rfl
    | some text =>
      obtain ⟨m, hm, hfind⟩ := foldlM_parseUpdaterResultRecord (text.splitOn '\n') ∅
      exact ⟨m, hm, fun component hmem => resultAt_of_mem (fun path => (hfind path).trans (by simp [recorded, resultAt])) hmem⟩
  obtain ⟨hcode, hmap⟩ := handleFileResults_spec taskTable hcomponents hat
  refine ⟨(handleFileResults taskTable v m components).1, (handleFileResults taskTable v m components).2, ?_,
    hcode.trans (by simp [hcomponents]), fun _ => hmap⟩
  cases file with
  | none =>
    obtain rfl := Option.some.inj hm
    rfl
  | some text =>
    simp only [startMap] at hm
    simp only [hm]
    rfl

/-- Two components of one path: the version of the first is that of the device, the one of the second is not. -/
theorem getUpdaterResult_shared_path : ¬∀ taskTable v file components resultMap code m,
    getUpdaterResult taskTable v file components resultMap = some (code, m) →
      (code = .success ↔ components ≠ [] ∧ taskTable ≠ [] ∧
      ∀ component ∈ components, PassedAlone v file component) := by
  intro h
  have hcode : (getUpdaterResult [{}] "2" none
      [{ spath := "updater.zip", versionNumber := "2" }, { spath := "updater.zip", versionNumber := "1" }] ∅).map
      Prod.fst = some .success := by decide
  obtain ⟨⟨code, m⟩, hdone, rfl⟩ := Option.map_eq_some_iff.1 hcode
  have hpassed := ((h _ _ _ _ _ _ _ hdone).1 rfl).2.2 { spath := "updater.zip", versionNumber := "1" } (by simp)
  exact absurd (show "1" = "2" from hpassed) (by decide)

end FirmwareResultProcess

end UpdateService
