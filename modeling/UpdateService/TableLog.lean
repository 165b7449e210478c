import UpdateService.DownloadInfoTable

/-!
# The rows last written

`lastWritten ops key` reads the row of a download off the statements that were made, one key at a
time and without a table. `Faithful` says that a table holds these rows, each of them once; it is kept
by every statement that does not insert a row again and changes no row of another task (`Apart`).
-/

namespace UpdateService

def DbOp.taskId : DbOp → String
  | insert d => d.taskId
  | update _ d => d.taskId
  | deleteByTaskId taskId => taskId

def DbOp.write (key : String × String) (row : Option DownloadRow) : DbOp → Option DownloadRow
  | insert d => if (d.taskId, d.downloadId) = key then some (DownloadInfoTable.buildDbValue d) else row
  | update u d => if (d.taskId, d.downloadId) = key then row.map fun row => u.set d row else row
  | deleteByTaskId taskId => if taskId = key.1 then none else row

def lastWritten (ops : List DbOp) (key : String × String) : Option DownloadRow := ops.foldl (DbOp.write key) none

theorem lastWritten_append (ops ops' : List DbOp) (key : String × String) :
    lastWritten (ops ++ ops') key = ops'.foldl (DbOp.write key) (lastWritten ops key) := List.foldl_append

/-- The columns that no update writes. -/
structure SameRow (row row' : DownloadRow) : Prop where
  downloadId : row'.downloadId = row.downloadId
  versionId : row'.versionId = row.versionId
  taskId : row'.taskId = row.taskId
  path : row'.path = row.path

namespace SameRow
variable {row row' row'' : DownloadRow}

theorem refl (row : DownloadRow) : SameRow row row := ⟨rfl, rfl, rfl, rfl⟩

theorem trans (h : SameRow row row') (h' : SameRow row' row'') : SameRow row row'' :=
  ⟨h'.downloadId.trans h.downloadId, h'.versionId.trans h.versionId, h'.taskId.trans h.taskId, h'.path.trans h.path⟩

theorem set (u : ByIdUpdate) (d : DownloadInfo) (row : DownloadRow) : SameRow row (u.set d row) := by
  cases u <;> exact ⟨rfl, rfl, rfl, rfl⟩

end SameRow

/-- The statement inserts no row, and the rows it updates are of its own task. -/
def DbOp.Apart (table : List DownloadRow) : DbOp → Prop
  | insert _ => False
  | update _ d => ∀ row ∈ table, row.downloadId = d.downloadId → row.taskId = d.taskId
  | deleteByTaskId _ => True

/-- The rows of the table have different keys and are those last written. -/
structure Faithful (ops : List DbOp) (table : List DownloadRow) : Prop where
  nodup : (table.map DownloadRow.key).Nodup
  lastWritten : ∀ key row, lastWritten ops key = some row ↔ row ∈ table ∧ row.key = key

section Statement
variable {ops ops' : List DbOp} {table : List DownloadRow} {op : DbOp} {d : DownloadInfo} {taskId : String}

theorem sameRow_of_mem_apply (hop : ∀ d, op ≠ .insert d) {row : DownloadRow} (h : row ∈ op.apply table) :
    ∃ row₀ ∈ table, SameRow row₀ row := by
  cases op with
  | insert d => exact absurd rfl (hop d)
  | update u d =>
    obtain ⟨row₀, hrow₀, rfl⟩ := List.mem_updateWhere.1 h
    refine ⟨row₀, hrow₀, ?_⟩
    split
    exacts [.set u d row₀, .refl row₀]
  | deleteByTaskId taskId => exact ⟨row, (List.mem_deleteWhere.1 h).1, .refl row⟩

theorem sameRow_of_mem_foldl (hops : ∀ op ∈ ops, ∀ d, op ≠ .insert d) {row : DownloadRow}
    (h : row ∈ ops.foldl DbOp.apply table) : ∃ row₀ ∈ table, SameRow row₀ row := by
  induction ops generalizing table with
  | nil => exact ⟨row, h, .refl row⟩
  | cons op ops ih =>
    obtain ⟨row₁, hrow₁, hs₁⟩ := ih (fun op hop => hops op (List.mem_cons_of_mem _ hop)) h
    obtain ⟨row₀, hrow₀, hs₀⟩ := sameRow_of_mem_apply (hops op List.mem_cons_self) hrow₁
    exact ⟨row₀, hrow₀, hs₀.trans hs₁⟩

theorem DbOp.Apart.ne_insert (h : op.Apart table) (d : DownloadInfo) : op ≠ .insert d := by
  rintro rfl
  exact h

theorem DbOp.Apart.mono {table' : List DownloadRow} (h : op.Apart table)
    (hrows : ∀ row ∈ table', ∃ row₀ ∈ table, SameRow row₀ row) : op.Apart table' := by
  cases op with
  | insert d => exact h
  | update u d =>
    intro row hrow hid
    obtain ⟨row₀, hrow₀, hs⟩ := hrows row hrow
    rw [hs.taskId]
    exact h row₀ hrow₀ (hs.downloadId ▸ hid)
  | deleteByTaskId taskId => trivial

theorem foldl_apply_insert (l : List DownloadInfo) (table : List DownloadRow) :
    (l.map DbOp.insert).foldl DbOp.apply table = table ++ l.map DownloadInfoTable.buildDbValue := by
  induction l generalizing table with
  | nil => simp
  | cons d l ih =>
    rw [List.map_cons, List.foldl_cons, ih, List.map_cons, List.append_cons]
    rfl

namespace Faithful

theorem nil : Faithful [] [] := ⟨List.nodup_nil, fun key row => by simp [UpdateService.lastWritten]⟩

theorem snoc (hnodup : ((op.apply table).map DownloadRow.key).Nodup)
    (hw : ∀ key row, op.write key (UpdateService.lastWritten ops key) = some row ↔
    row ∈ op.apply table ∧ row.key = key) :
    Faithful (ops ++ [op]) (op.apply table) :=
  ⟨hnodup, fun key row => by rw [lastWritten_append]; exact hw key row⟩

theorem insert (h : Faithful ops table) (hnew : ∀ row ∈ table, row.key ≠ (d.taskId, d.downloadId)) :
    Faithful (ops ++ [.insert d]) (DbOp.apply table (.insert d)) := by
  have hmem : ∀ row, row ∈ DbOp.apply table (.insert d) ↔ row ∈ table ∨ row = DownloadInfoTable.buildDbValue d :=
    fun row => by
    simp [DbOp.apply, DownloadInfoOperator.insert]
  refine snoc ?_ fun key row => ?_
  · rw [DbOp.apply, DownloadInfoOperator.insert, List.map_append, List.nodup_append]
    refine ⟨h.nodup, List.nodup_singleton _, fun key hkey key' hkey' => ?_⟩
    obtain ⟨row, hrow, rfl⟩ := List.mem_map.1 hkey
    rw [List.map_singleton, List.mem_singleton] at hkey'
    exact hkey' ▸ hnew row hrow
  · rw [hmem, DbOp.write]
    split
    · rename_i hkey
      subst hkey
      constructor
      · intro he
        exact ⟨.inr (Option.some.inj he).symm, (Option.some.inj he).symm ▸ rfl⟩
      · rintro ⟨hrow | rfl, hrk⟩
        exacts [absurd hrk (hnew row hrow), rfl]
    · rename_i hkey
      rw [h.lastWritten]
      constructor
      · rintro ⟨hrow, hrk⟩
        exact ⟨.inl hrow, hrk⟩
      · rintro ⟨hrow | rfl, hrk⟩
        exacts [⟨hrow, hrk⟩, absurd hrk hkey]

theorem update (u : ByIdUpdate) (h : Faithful ops table) (hd : DbOp.Apart table (.update u d)) :
    Faithful (ops ++ [.update u d]) (DbOp.apply table (.update u d)) := by
  refine snoc ?_ fun key row => ?_
  · rw [DbOp.apply, DownloadInfoOperator.map_key_updateById]
    exact h.nodup
  have hkey : ∀ row ∈ table, row.downloadId = d.downloadId ↔ row.key = (d.taskId, d.downloadId) := fun row hrow => by
    rw [DownloadRow.key, Prod.mk.injEq]
    exact ⟨fun hid => ⟨hd row hrow hid, hid⟩, fun h => h.2⟩
  have hmem : row ∈ DbOp.apply table (.update u d) ↔
      ∃ row₀ ∈ table, row = if row₀.key = (d.taskId, d.downloadId) then u.set d row₀ else row₀ := by
    refine List.mem_updateWhere.trans ?_
    constructor <;> rintro ⟨row₀, hrow₀, rfl⟩ <;> exact ⟨row₀, hrow₀, by simp [hkey row₀ hrow₀]⟩
  rw [hmem, DbOp.write]
  split
  · rename_i hk
    subst hk
    rw [Option.map_eq_some_iff]
    simp only [h.lastWritten]
    constructor
    · rintro ⟨row₀, ⟨hrow₀, hk₀⟩, rfl⟩
      exact ⟨⟨row₀, hrow₀, (if_pos hk₀).symm⟩, ByIdUpdate.set_key.trans hk₀⟩
    · rintro ⟨⟨row₀, hrow₀, rfl⟩, hk₀⟩
      split at hk₀
      · rename_i hk₁
        exact ⟨row₀, ⟨hrow₀, hk₁⟩, (if_pos hk₁).symm⟩
      · rename_i hk₁
        exact absurd hk₀ hk₁
  · rename_i hk
    rw [h.lastWritten]
    constructor
    · rintro ⟨hrow, rfl⟩
      exact ⟨⟨row, hrow, (if_neg fun he => hk he.symm).symm⟩, rfl⟩
    · rintro ⟨⟨row₀, hrow₀, rfl⟩, hk₀⟩
      split at hk₀
      · rename_i hk₁
        exact absurd (hk₁.symm.trans (ByIdUpdate.set_key.symm.trans hk₀)) hk
      · rename_i hk₁
        rw [if_neg hk₁]
        exact ⟨hrow₀, hk₀⟩

theorem deleteByTaskId (taskId : String) (h : Faithful ops table) :
    Faithful (ops ++ [.deleteByTaskId taskId]) (DbOp.apply table (.deleteByTaskId taskId)) := by
  refine snoc (h.nodup.sublist (List.filter_sublist.map _)) fun key row => ?_
  have hmem : row ∈ DbOp.apply table (.deleteByTaskId taskId) ↔ row ∈ table ∧ row.taskId ≠ taskId := by
    refine List.mem_deleteWhere.trans ?_
    simp
  rw [hmem, DbOp.write]
  split
  · rename_i hk
    refine iff_of_false (by simp) ?_
    rintro ⟨⟨-, hne⟩, rfl⟩
    exact hne hk.symm
  · rename_i hk
    rw [h.lastWritten]
    constructor
    · rintro ⟨hrow, rfl⟩
      exact ⟨⟨hrow, fun he => hk he.symm⟩, rfl⟩
    · rintro ⟨⟨hrow, -⟩, rfl⟩
      exact ⟨hrow, rfl⟩

theorem apart (h : Faithful ops table) (hop : op.Apart table) : Faithful (ops ++ [op]) (op.apply table) := by
  cases op with
  | insert d => exact hop.elim
  | update u d => exact h.update u hop
  | deleteByTaskId taskId => exact h.deleteByTaskId taskId

theorem foldl (h : Faithful ops table) (hops : ∀ op ∈ ops', op.Apart table) :
    Faithful (ops ++ ops') (ops'.foldl DbOp.apply table) := by
  induction ops' generalizing ops table with
  | nil => rw [List.append_nil]; exact h
  | cons op ops' ih =>
    have hop := hops op List.mem_cons_self
    rw [List.append_cons]
    refine ih (h.apart hop) fun op' hop' => ?_
    exact (hops op' (List.mem_cons_of_mem _ hop')).mono fun row hrow => sameRow_of_mem_apply hop.ne_insert hrow

theorem inserts {l : List DownloadInfo} (h : Faithful ops table) (hl : (l.map (·.downloadId)).Nodup)
    (htask : ∀ d ∈ l, d.taskId = taskId) (hnew : ∀ row ∈ table, row.taskId = taskId →
    row.downloadId ∉ l.map (·.downloadId)) :
    Faithful (ops ++ l.map .insert) ((l.map DbOp.insert).foldl DbOp.apply table) := by
  induction l generalizing ops table with
  | nil => rw [List.map_nil, List.append_nil]; exact h
  | cons d l ih =>
    obtain ⟨hd, hl⟩ := List.nodup_cons.1 hl
    rw [List.map_cons, List.append_cons]
    refine ih (h.insert fun row hrow he => ?_) hl (fun d hd => htask d (List.mem_cons_of_mem _ hd))
      fun row hrow hid => ?_
    · obtain ⟨ht, hdown⟩ := Prod.mk.inj he
      refine hnew row hrow (ht.trans (htask d List.mem_cons_self)) ?_
      rw [hdown]
      exact List.mem_cons_self
    · rcases List.mem_append.1 hrow with hrow | hrow
      · exact fun hin => hnew row hrow hid (List.mem_cons_of_mem _ hin)
      · rw [List.mem_singleton.1 hrow]
        exact hd

end Faithful

theorem DbOp.write_of_ne {key : String × String} {row : Option DownloadRow} (hop : op.taskId ≠ key.1) :
    op.write key row = row := by
  cases op with
  | insert d => exact if_neg fun he => hop (congrArg Prod.fst he)
  | update u d => exact if_neg fun he => hop (congrArg Prod.fst he)
  | deleteByTaskId taskId => exact if_neg hop

end Statement
end UpdateService
