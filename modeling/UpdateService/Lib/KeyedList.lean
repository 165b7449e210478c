import Mathlib.Data.List.Sort
import Mathlib.Data.List.Nodup

/-!
# Lists of records found by a key

`KeyedList key` is a list of records in which no two have the same key: a map whose values carry
their own key. `find?_modify` says what every lookup gives after one record has been changed. The
second half is about plain lists of records, as a database table: `updateWhere` and `deleteWhere`
change the rows a predicate selects, and the frame lemmas say which rows they leave alone.
-/

@[ext] structure KeyedList {α κ : Type*} (key : α → κ) where
  entries : List α
  nodup : (entries.map key).Nodup

namespace KeyedList
variable {α κ : Type*} {key : α → κ}

def keys (m : KeyedList key) : List κ := m.entries.map key

instance : EmptyCollection (KeyedList key) := ⟨⟨[], List.nodup_nil⟩⟩

@[simp] theorem entries_empty : (∅ : KeyedList key).entries = [] := rfl

@[simp] theorem keys_empty : (∅ : KeyedList key).keys = [] := rfl

instance [DecidableEq α] : DecidableEq (KeyedList key) := fun m m' =>
  decidable_of_iff (m.entries = m'.entries) ⟨fun h => by cases m; cases m'; cases h; rfl, fun h => h ▸ rfl⟩

instance [Repr α] : Repr (KeyedList key) := ⟨fun m => reprPrec m.entries⟩

variable [DecidableEq κ]

def find? (m : KeyedList key) (k : κ) : Option α := m.entries.find? fun a => key a = k

/-- Change the record under `k` by `f`, which keeps its key. -/
def modify (m : KeyedList key) (k : κ) (f : α → α) (hf : ∀ a, key (f a) = key a) : KeyedList key where
  entries := m.entries.map fun a => if key a = k then f a else a
  nodup := by
    have h : (m.entries.map fun a => if key a = k then f a else a).map key = m.entries.map key := by
      rw [List.map_map]
      refine List.map_congr_left fun a _ => ?_
      by_cases ha : key a = k <;> simp [ha, hf]
    exact h ▸ m.nodup

variable {m : KeyedList key} {k k' : κ} {a b : α} {f : α → α} {hf : ∀ a, key (f a) = key a}

theorem find?_eq_some : m.find? k = some a ↔ a ∈ m.entries ∧ key a = k := by
  constructor
  · intro h
    exact ⟨List.mem_of_find?_eq_some h, by simpa using List.find?_some h⟩
  · rintro ⟨ha, rfl⟩
    obtain ⟨b, hb⟩ : ∃ b, m.find? (key a) = some b := by
      rw [← Option.isSome_iff_exists, find?, List.find?_isSome]
      exact ⟨a, ha, by simp⟩
    have hbm := List.mem_of_find?_eq_some hb
    have hbk : key b = key a := by simpa using List.find?_some hb
    rw [hb, List.inj_on_of_nodup_map m.nodup hbm ha hbk]

theorem key_of_find? (h : m.find? k = some a) : key a = k := (find?_eq_some.1 h).2

theorem mem_of_find? (h : m.find? k = some a) : a ∈ m.entries := (find?_eq_some.1 h).1

theorem find?_of_mem (h : a ∈ m.entries) : m.find? (key a) = some a := find?_eq_some.2 ⟨h, rfl⟩

theorem find?_eq_none : m.find? k = none ↔ k ∉ m.keys := by
  simp [find?, keys, List.find?_eq_none]

@[simp] theorem find?_empty : (∅ : KeyedList key).find? k = none := rfl

theorem find?_congr_iff {m' : KeyedList key} :
    (∀ k, m.find? k = m'.find? k) ↔ ∀ a, a ∈ m.entries ↔ a ∈ m'.entries := by
  constructor
  · intro h a
    constructor <;> intro ha
    · exact mem_of_find? ((h _).symm.trans (find?_of_mem ha))
    · exact mem_of_find? ((h _).trans (find?_of_mem ha))
  · intro h k
    refine Option.ext fun a => ?_
    rw [find?_eq_some, find?_eq_some, h a]

@[simp] theorem keys_modify : (m.modify k f hf).keys = m.keys := by
  unfold keys modify
  rw [List.map_map]
  refine List.map_congr_left fun a _ => ?_
  by_cases ha : key a = k <;> simp [ha, hf]

/-- Every lookup after a change: the record under `k` is changed, the others are as they were. -/
theorem find?_modify :
    (m.modify k f hf).find? k' = (m.find? k').map fun a => if k' = k then f a else a := by
  cases h : m.find? k' with
  | none =>
    rw [find?_eq_none] at h
    rw [Option.map_none, find?_eq_none, keys_modify]; exact h
  | some a =>
    obtain ⟨ha, rfl⟩ := find?_eq_some.1 h
    rw [Option.map_some, find?_eq_some]
    refine ⟨List.mem_map.2 ⟨a, ha, rfl⟩, ?_⟩
    by_cases hk : key a = k <;> simp [hk, hf]

theorem modify_modify {g : α → α} (hf : ∀ a, key (f a) = key a) (hg : ∀ a, key (g a) = key a) :
    (m.modify k f hf).modify k g hg = m.modify k (fun a => g (f a)) (fun a => (hg (f a)).trans (hf a)) := by
  ext1
  simp only [modify, List.map_map]
  refine List.map_congr_left fun a _ => ?_
  by_cases ha : key a = k <;> simp [ha, hf]

theorem mem_modify : b ∈ (m.modify k f hf).entries ↔
    ∃ a ∈ m.entries, b = if key a = k then f a else a := by
  simp [modify, eq_comm]

def erase (m : KeyedList key) (k : κ) : KeyedList key where
  entries := m.entries.filter fun a => key a ≠ k
  nodup := m.nodup.sublist (List.filter_sublist.map key)

theorem mem_erase : b ∈ (m.erase k).entries ↔ b ∈ m.entries ∧ key b ≠ k := by simp [erase]

theorem find?_erase : (m.erase k).find? k' = if k' = k then none else m.find? k' := by
  split
  · rename_i h
    rw [find?_eq_none]
    simp [keys, mem_erase, h]
  · rename_i h
    cases hm : m.find? k' with
    | none =>
      rw [find?_eq_none] at hm ⊢
      intro hk
      obtain ⟨b, hb, rfl⟩ := List.mem_map.1 hk
      exact hm (List.mem_map_of_mem (mem_erase.1 hb).1)
    | some a =>
      obtain ⟨ha, rfl⟩ := find?_eq_some.1 hm
      exact find?_of_mem (mem_erase.2 ⟨ha, h⟩)

/-- Put `a` in key order, in place of the record that has its key. -/
def insert [LinearOrder κ] (m : KeyedList key) (a : α) : KeyedList key where
  entries := (m.entries.filter fun b => key b ≠ key a).orderedInsert (fun x y => key x ≤ key y) a
  nodup := by
    have hp := (List.perm_orderedInsert (fun x y => key x ≤ key y) a
      (m.entries.filter fun b => key b ≠ key a)).map key
    refine hp.nodup_iff.2 (List.nodup_cons.2 ⟨?_, m.nodup.sublist (List.filter_sublist.map key)⟩)
    simp

/-- The map built from a list by inserting its records in turn. -/
def ofList [LinearOrder κ] (l : List α) : KeyedList key := l.foldl insert ∅

theorem mem_insert [LinearOrder κ] : b ∈ (m.insert a).entries ↔ b = a ∨ b ∈ m.entries ∧ key b ≠ key a := by
  simp [insert, List.mem_orderedInsert]

theorem find?_insert [LinearOrder κ] : (m.insert a).find? k = if k = key a then some a else m.find? k := by
  split
  · rename_i h
    exact find?_eq_some.2 ⟨mem_insert.2 (.inl rfl), h.symm⟩
  · rename_i h
    cases hm : m.find? k with
    | none =>
      rw [find?_eq_none] at hm ⊢
      intro hk
      obtain ⟨b, hb, rfl⟩ := List.mem_map.1 hk
      rcases mem_insert.1 hb with rfl | ⟨hb, -⟩
      exacts [h rfl, hm (List.mem_map_of_mem hb)]
    | some b =>
      obtain ⟨hb, rfl⟩ := find?_eq_some.1 hm
      exact find?_of_mem (mem_insert.2 (.inr ⟨hb, h⟩))

/-- The records stand in the order of their keys. -/
def Ordered [LinearOrder κ] (m : KeyedList key) : Prop := m.keys.Pairwise (· < ·)

omit [DecidableEq κ] in
theorem ordered_empty [LinearOrder κ] : (∅ : KeyedList key).Ordered := .nil

theorem Ordered.erase [LinearOrder κ] (h : m.Ordered) (k : κ) : (m.erase k).Ordered :=
  h.sublist (List.filter_sublist.map key)

theorem Ordered.insert [LinearOrder κ] (h : m.Ordered) (a : α) : (m.insert a).Ordered := by
  have : Std.Total fun x y : α => key x ≤ key y := ⟨fun x y => le_total (key x) (key y)⟩
  have : IsTrans α fun x y => key x ≤ key y := ⟨fun _ _ _ => le_trans⟩
  have hle : (m.insert a).entries.Pairwise fun x y => key x ≤ key y := by
    refine List.Pairwise.orderedInsert _ _ (List.Pairwise.filter _ ?_)
    exact (List.pairwise_map.1 h).imp le_of_lt
  have hne : (m.insert a).entries.Pairwise fun x y => key x ≠ key y := List.pairwise_map.1 (m.insert a).nodup
  exact List.pairwise_map.2 (hle.imp₂ (fun _ _ hle hne => lt_of_le_of_ne hle hne) hne)

/-- Put `a` in, unless there is a record with its key. -/
def emplace [LinearOrder κ] (m : KeyedList key) (a : α) : KeyedList key :=
  if (m.find? (key a)).isSome then m else m.insert a

theorem find?_emplace [LinearOrder κ] :
    (m.emplace a).find? k = (m.find? k).or (if k = key a then some a else none) := by
  unfold emplace
  split
  · rename_i h
    cases hm : m.find? k with
    | some b => rfl
    | none =>
      rw [Option.none_or, if_neg]
      rintro rfl
      rw [hm] at h
      cases h
  · rename_i h
    rw [find?_insert]
    split
    · rename_i hk
      subst hk
      rw [Option.not_isSome_iff_eq_none.1 h, Option.none_or]
    · rw [Option.or_none]

/-- Of records with one key the first one stays. -/
theorem find?_foldl_emplace [LinearOrder κ] (l : List α) (m : KeyedList key) :
    (l.foldl emplace m).find? k = (m.find? k).or (l.find? fun a => key a = k) := by
  induction l generalizing m with
  | nil => rw [List.foldl_nil, List.find?_nil, Option.or_none]
  | cons a l ih =>
    rw [List.foldl_cons, ih, find?_emplace, List.find?_cons, Option.or_assoc]
    by_cases h : k = key a
    · simp [h]
    · simp [h, Ne.symm h]

theorem mem_of_mem_foldl_emplace [LinearOrder κ] {l : List α} (h : a ∈ (l.foldl emplace (∅ : KeyedList key)).entries) :
    a ∈ l := by
  have hfind := find?_of_mem h
  rw [find?_foldl_emplace, find?_empty, Option.none_or] at hfind
  exact List.mem_of_find?_eq_some hfind

/-- Where no key comes twice all of them stay. -/
theorem mem_foldl_emplace [LinearOrder κ] {l : List α} (hl : (l.map key).Nodup) :
    a ∈ (l.foldl emplace (∅ : KeyedList key)).entries ↔ a ∈ l := by
  refine ⟨mem_of_mem_foldl_emplace, fun h => ?_⟩
  have hl : l.find? (fun b => key b = key a) = some a := find?_of_mem (m := ⟨l, hl⟩) h
  have hfind : (l.foldl emplace (∅ : KeyedList key)).find? (key a) = some a := by
    rw [find?_foldl_emplace, find?_empty, Option.none_or, hl]
  exact mem_of_find? hfind

theorem mem_ofList_foldl [LinearOrder κ] (l : List α) (hl : (l.map key).Nodup) (m : KeyedList key)
    (hm : ∀ a ∈ l, ∀ b ∈ m.entries, key b ≠ key a) :
    b ∈ (l.foldl insert m).entries ↔ b ∈ m.entries ∨ b ∈ l := by
  induction l generalizing m with
  | nil => simp
  | cons a l ih =>
    obtain ⟨ha, hl⟩ := List.nodup_cons.1 hl
    have hal : ∀ x ∈ l, key x ≠ key a := fun x hx he => ha (he ▸ List.mem_map_of_mem hx)
    rw [List.foldl_cons, ih hl, mem_insert, List.mem_cons]
    · constructor
      · rintro ((rfl | ⟨hb, -⟩) | hb)
        exacts [.inr (.inl rfl), .inl hb, .inr (.inr hb)]
      · rintro (hb | rfl | hb)
        exacts [.inl (.inr ⟨hb, hm a (by simp) b hb⟩), .inl (.inl rfl), .inr hb]
    · intro x hx b hb
      rcases mem_insert.1 hb with rfl | ⟨hb, -⟩
      · exact (hal x hx).symm
      · exact hm x (by simp [hx]) b hb

theorem mem_ofList [LinearOrder κ] {l : List α} (hl : (l.map key).Nodup) :
    b ∈ (ofList l : KeyedList key).entries ↔ b ∈ l := by
  rw [ofList, mem_ofList_foldl l hl ∅ (by simp)]; simp

theorem mem_of_mem_ofList [LinearOrder κ] {l : List α} (h : b ∈ (ofList l : KeyedList key).entries) : b ∈ l := by
  have hfold : ∀ m : KeyedList key, b ∈ (l.foldl insert m).entries → b ∈ m.entries ∨ b ∈ l := by
    clear h
    induction l with
    | nil => exact fun m hb => .inl hb
    | cons a l ih =>
      intro m hb
      rcases ih (m.insert a) hb with hb | hb
      · rcases mem_insert.1 hb with rfl | ⟨hb, -⟩
        · exact .inr List.mem_cons_self
        · exact .inl hb
      · exact .inr (List.mem_cons_of_mem a hb)
  exact (hfold ∅ h).resolve_left (by simp)

end KeyedList

namespace List
variable {ρ : Type*} {p q : ρ → Bool} {f : ρ → ρ} {l : List ρ} {r : ρ}

def updateWhere (p : ρ → Bool) (f : ρ → ρ) (l : List ρ) : List ρ := l.map fun r => if p r then f r else r

def deleteWhere (p : ρ → Bool) (l : List ρ) : List ρ := l.filter fun r => !p r

theorem mem_updateWhere : r ∈ l.updateWhere p f ↔ ∃ r₀ ∈ l, r = if p r₀ then f r₀ else r₀ := by
  simp only [updateWhere, mem_map, eq_comm (b := r)]

theorem mem_deleteWhere : r ∈ l.deleteWhere p ↔ r ∈ l ∧ p r = false := by
  simp [deleteWhere]

theorem map_updateWhere {β : Type*} {g : ρ → β} (hg : ∀ r, g (f r) = g r) :
    (l.updateWhere p f).map g = l.map g := by
  unfold updateWhere
  rw [map_map]
  refine map_congr_left fun r _ => ?_
  by_cases hr : p r <;> simp [hr, hg]

theorem filter_updateWhere (hq : ∀ r, q (f r) = q r) :
    (l.updateWhere p f).filter q = (l.filter q).updateWhere p f := by
  induction l with
  | nil => rfl
  | cons r l ih =>
    simp only [updateWhere, map_cons, filter_cons] at ih ⊢
    have : q (if p r then f r else r) = q r := by by_cases hr : p r <;> simp [hr, hq]
    rw [this]
    split <;> simp [ih]

/-- Among rows without repeated keys the key of a row selects this row alone. -/
theorem updateWhere_key {κ : Type*} [DecidableEq κ] {key : ρ → κ} {i : Nat} {a : ρ} (h : (l.map key).Nodup)
    (ha : l[i]? = some a) : (l.updateWhere (fun r => key r = key a) f) = l.modify i f := by
  refine ext_getElem? fun j => ?_
  rw [updateWhere, getElem?_map, getElem?_modify]
  cases hj : l[j]? with
  | none => rfl
  | some b =>
    have hi : (l.map key)[i]? = some (key a) := by rw [getElem?_map, ha, Option.map_some]
    have hj' : (l.map key)[j]? = some (key b) := by rw [getElem?_map, hj, Option.map_some]
    have hij : key b = key a ↔ i = j := by
      constructor
      · intro he
        exact (List.getElem?_inj (getElem?_eq_some_iff.1 hi).1 h).1 (hi.trans (he ▸ hj'.symm))
      · rintro rfl
        exact Option.some.inj (hj'.symm.trans hi)
    simp only [Option.map_some, decide_eq_true_eq, hij, Option.map_eq_map]

theorem updateWhere_eq_self_iff : l.updateWhere p f = l ↔ ∀ r ∈ l, p r → f r = r := by
  induction l with
  | nil => simp [updateWhere]
  | cons r l ih =>
    simp only [updateWhere, map_cons, cons.injEq, forall_mem_cons] at ih ⊢
    rw [ih]
    by_cases hr : p r <;> simp [hr]

/-- The rows of `q` are left alone exactly when each of them that `p` selects holds its new values
already. -/
theorem filter_updateWhere_eq_iff (hq : ∀ r, q (f r) = q r) :
    (l.updateWhere p f).filter q = l.filter q ↔ ∀ r ∈ l, q r → p r → f r = r := by
  rw [filter_updateWhere hq, updateWhere_eq_self_iff]
  simp only [mem_filter, and_imp]

end List
