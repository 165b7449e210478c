import UpdateService.DownloadInfoTable
import UpdateService.Lib.Separated

/-!
# What a row of the download table gives back

All columns but one hold their field as it is. The header is one text in which a colon ends a name and a bar ends
a value; `Split2Map` finds the entries again exactly when no name holds either of the two and no value a bar.
-/

namespace UpdateService
open DownloadInfoTable

/-- The fields with a column of their own; the others, and the header, at their defaults. -/
def DownloadInfo.columns (d : DownloadInfo) : DownloadInfo :=
  { d with
    header := ∅
    sha256StrategyKey := ""
    downloadErrorInfo := {}
    isConcurrentLimited := false
    reportInterval := 0 }

/-- Every field of `d` that a row holds is that of `d'`; the headers are the same map. -/
structure DownloadInfo.SameStored (d d' : DownloadInfo) : Prop where
  columns : d.columns = d'.columns
  header : ∀ key, d.header.find? key = d'.header.find? key

/-- The name holds no separator, the value no bar. -/
def DownloadInfoTable.Separable (kv : String × String) : Prop :=
  ':' ∉ kv.1.toList ∧ '|' ∉ kv.1.toList ∧ '|' ∉ kv.2.toList

namespace DownloadInfoTable
variable {m : StringMap} {d : DownloadInfo} {element : List Char} {kv : String × String}

theorem columns_parseDbValue_buildDbValue (d : DownloadInfo) :
    (parseDbValue (buildDbValue d)).columns = d.columns := by
  simp [DownloadInfo.columns, parseDbValue, buildDbValue, boolColumn]

/-! ### One element -/

def elementOf (kv : String × String) : List Char := kv.1.toList ++ ':' :: kv.2.toList

theorem splitElement_eq (element : List Char) :
    splitElement element = (element.cutAt ':').map fun kv => (String.ofList kv.1, String.ofList kv.2) := by
  have hp : (fun c : Char => decide (c ≠ ':')) = (· != ':') := by
    funext c
    by_cases hc : c = ':' <;> simp [hc]
  unfold splitElement List.cutAt
  rw [hp]
  rcases element.span (· != ':') with ⟨key, _ | ⟨c, value⟩⟩ <;> rfl

theorem splitElement_elementOf (h : ':' ∉ kv.1.toList) : splitElement (elementOf kv) = some kv := by
  rw [splitElement_eq, elementOf, List.cutAt_append_cons h, Option.map_some, String.ofList_toList,
    String.ofList_toList]

theorem eq_elementOf_of_splitElement (h : splitElement element = some kv) :
    element = elementOf kv ∧ ':' ∉ kv.1.toList := by
  rw [splitElement_eq, Option.map_eq_some_iff] at h
  obtain ⟨⟨key, value⟩, hcut, rfl⟩ := h
  obtain ⟨rfl, hkey⟩ := List.cutAt_eq_some_iff.1 hcut
  simp [elementOf, hkey]

/-! ### The whole text -/

theorem toList_concatenate (m : StringMap) :
    (concatenate m).toList = m.entries.flatMap fun kv => elementOf kv ++ ['|'] := by
  have hfold : ∀ (l : List (String × String)) (str : String),
      (l.foldl (fun str (kv : String × String) => str ++ kv.1 ++ ":" ++ kv.2 ++ "|") str).toList
        = str.toList ++ l.flatMap fun kv => elementOf kv ++ ['|'] := by
    intro l
    induction l with
    | nil => intro str; simp
    | cons kv l ih => intro str; simp [ih, elementOf]
  have h := hfold m.entries ""
  rwa [String.toList_empty, List.nil_append] at h

/-- `std::map::insert` leaves a name alone that is there already. -/
theorem split2Map_eq (str : String) :
    split2Map str = ((str.toList.splitOn '|').filterMap splitElement).foldl KeyedList.emplace ∅ := rfl

theorem mem_split2Map_concatenate (h : ∀ kv ∈ m.entries, Separable kv) :
    kv ∈ (split2Map (concatenate m)).entries ↔ kv ∈ m.entries := by
  have hbar : ∀ kv ∈ m.entries, '|' ∉ elementOf kv := by
    intro kv hkv hmem
    obtain ⟨-, hkey, hvalue⟩ := h kv hkv
    rcases List.mem_append.1 hmem with hmem | hmem
    · exact hkey hmem
    · rcases List.mem_cons.1 hmem with hmem | hmem
      · cases hmem
      · exact hvalue hmem
  have hpieces : ((concatenate m).toList.splitOn '|').filterMap splitElement = m.entries := by
    rw [toList_concatenate, List.splitOn_flatMap hbar, List.filterMap_append, List.filterMap_map]
    have hall : m.entries.filterMap (splitElement ∘ elementOf) = m.entries := by
      refine (List.filterMap_congr fun kv hkv => ?_).trans List.filterMap_some
      exact splitElement_elementOf (h kv hkv).1
    rw [hall]
    exact List.append_nil _
  rw [split2Map_eq, hpieces]
  exact KeyedList.mem_foldl_emplace m.nodup

theorem separable_of_mem_pieces {str : List Char} (h : kv ∈ (str.splitOn '|').filterMap splitElement) :
    Separable kv := by
  obtain ⟨element, helement, hsplit⟩ := List.mem_filterMap.1 h
  obtain ⟨rfl, hcolon⟩ := eq_elementOf_of_splitElement hsplit
  have hbar := List.not_mem_of_mem_splitOn helement
  exact ⟨hcolon, fun hb => hbar (List.mem_append_left _ hb),
    fun hb => hbar (List.mem_append_right _ (List.mem_cons_of_mem _ hb))⟩

/-- What `Split2Map` finds in any text was cut at the separators. -/
theorem separable_of_mem_split2Map {str : String} (h : kv ∈ (split2Map str).entries) : Separable kv := by
  rw [split2Map_eq] at h
  exact separable_of_mem_pieces (KeyedList.mem_of_mem_foldl_emplace h)

/-- A row gives back all it holds exactly when the header can be cut again. -/
theorem sameStored_parseDbValue_buildDbValue_iff (d : DownloadInfo) :
    (parseDbValue (buildDbValue d)).SameStored d ↔ ∀ kv ∈ d.header.entries, Separable kv := by
  constructor
  · rintro ⟨-, hheader⟩ kv hkv
    exact separable_of_mem_split2Map ((KeyedList.find?_congr_iff.1 hheader kv).2 hkv)
  · intro h
    exact ⟨columns_parseDbValue_buildDbValue d, KeyedList.find?_congr_iff.2 fun _ => mem_split2Map_concatenate h⟩

/-- Of a value with a bar only what stands before it comes back. -/
theorem header_bar_lost :
    ¬∀ d : DownloadInfo, (parseDbValue (buildDbValue d)).SameStored d := by
  intro h
  have hheader := (h { header := KeyedList.insert ∅ ("Cookie", "a|b") }).header "Cookie"
  revert hheader
  decide

end DownloadInfoTable

end UpdateService
