import Mathlib.Data.List.Nodup
import Mathlib.Data.Multiset.Basic

/-!
# Comparing a list with a table by lookups

`MatchesFirst key val l table` is the test that looks up every element of `l` in a table of the same length and compares
it with the first record under its key. `forall_matchesFirst_iff`: it is the comparison of the two as multisets,
whatever the table, exactly for lists without a repeated key. `matchesFirst_self_iff`: a list passes against its own records if
what has one key has one value.
-/

namespace FirstMatch
variable {α κ ν : Type*} {key : α → κ} {val : α → ν} {l p q table : List α} {a b c : α}

def record (key : α → κ) (val : α → ν) (a : α) : κ × ν := (key a, val a)

/-- What has one key has one value. -/
def Consistent (key : α → κ) (val : α → ν) (l : List α) : Prop := ∀ a ∈ l, ∀ b ∈ l, key a = key b → val a = val b

theorem consistent_of_nodup (h : (l.map key).Nodup) : Consistent key val l := by
  intro a ha b hb he
  rw [List.inj_on_of_nodup_map h ha hb he]

theorem Consistent.of_map_record_eq (h : Consistent key val l)
    (he : table.map (record key val) = l.map (record key val)) :
    Consistent key val table := by
  intro a ha b hb hab
  have hmem : ∀ c ∈ table, ∃ c' ∈ l, key c' = key c ∧ val c' = val c := by
    intro c hc
    obtain ⟨c', hc', hr⟩ := List.mem_map.1 (he ▸ List.mem_map_of_mem hc : record key val c ∈ l.map (record key val))
    exact ⟨c', hc', Prod.mk.inj hr⟩
  obtain ⟨a', ha', hak, hav⟩ := hmem a ha
  obtain ⟨b', hb', hbk, hbv⟩ := hmem b hb
  rw [← hav, ← hbv]
  exact h a' ha' b' hb' (hak.trans (hab.trans hbk.symm))

theorem exists_repeated (h : ¬ (l.map key).Nodup) : ∃ p a q, l = p ++ a :: q ∧ ∃ b ∈ p, key b = key a := by
  induction l with
  | nil => exact absurd List.nodup_nil h
  | cons c l ih =>
    by_cases hc : key c ∈ l.map key
    · obtain ⟨a, ha, he⟩ := List.mem_map.1 hc
      obtain ⟨p, q, rfl⟩ := List.append_of_mem ha
      exact ⟨c :: p, a, q, rfl, c, List.mem_cons_self, he.symm⟩
    · have hl : ¬ (l.map key).Nodup := fun hn => h (by simpa using ⟨by simpa using hc, hn⟩)
      obtain ⟨p, a, q, rfl, b, hb, he⟩ := ih hl
      exact ⟨c :: p, a, q, rfl, b, List.mem_cons_of_mem c hb, he⟩

section
variable [DecidableEq κ]

def MatchesFirst (key : α → κ) (val : α → ν) (l table : List α) : Prop :=
  table.length = l.length ∧ ∀ a ∈ l, ∃ b, table.find? (fun b => key b = key a) = some b ∧ val b = val a

theorem exists_find?_of_mem (key : α → κ) (ha : a ∈ l) :
    ∃ b ∈ l, l.find? (fun b => key b = key a) = some b ∧ key b = key a := by
  obtain ⟨b, hb⟩ : ∃ b, l.find? (fun b => key b = key a) = some b := by
    rw [← Option.isSome_iff_exists, List.find?_isSome]
    exact ⟨a, ha, by simp⟩
  exact ⟨b, List.mem_of_find?_eq_some hb, hb, by simpa using List.find?_some hb⟩

theorem Consistent.matchesFirst (h : Consistent key val table) (hlength : table.length = l.length)
    (hmem : ∀ a ∈ l, record key val a ∈ table.map (record key val)) : MatchesFirst key val l table := by
  refine ⟨hlength, fun a ha => ?_⟩
  obtain ⟨b, hb, he⟩ := List.mem_map.1 (hmem a ha)
  obtain ⟨hkey, hval⟩ := Prod.mk.inj he
  obtain ⟨c, hc, hfind, hck⟩ := exists_find?_of_mem key hb
  rw [hkey] at hfind
  exact ⟨c, hfind, (h c hc b hb hck).trans hval⟩

theorem MatchesFirst.record_mem (h : MatchesFirst key val l table) (ha : a ∈ l) :
    record key val a ∈ table.map (record key val) := by
  obtain ⟨b, hb, hval⟩ := h.2 a ha
  have hkey : key b = key a := by simpa using List.find?_some hb
  exact List.mem_map.2 ⟨b, List.mem_of_find?_eq_some hb, by rw [record, record, hkey, hval]⟩

/-- Against a table with the same records in the same order. -/
theorem matchesFirst_self_iff (he : table.map (record key val) = l.map (record key val)) :
    MatchesFirst key val l table ↔ Consistent key val l := by
  have hlength : table.length = l.length := by simpa using congrArg List.length he
  constructor
  · intro h a ha b hb hab
    obtain ⟨c, hc, hca⟩ := h.2 a ha
    obtain ⟨d, hd, hdb⟩ := h.2 b hb
    rw [hab, hd] at hc
    rw [← hca, ← hdb, Option.some.inj hc]
  · intro h
    exact (h.of_map_record_eq he).matchesFirst hlength fun a ha => he ▸ List.mem_map_of_mem ha

theorem matchesFirst_iff_perm (h : (l.map key).Nodup) :
    MatchesFirst key val l table ↔ (l.map (record key val)).Perm (table.map (record key val)) := by
  have hkeys : ∀ l : List α, (l.map (record key val)).map Prod.fst = l.map key := fun l => List.map_map
  constructor
  · intro hm
    have hnodup : (l.map (record key val)).Nodup := List.Nodup.of_map Prod.fst (by rwa [hkeys])
    refine (hnodup.subperm fun r hr => ?_).perm_of_length_le (by simp [hm.1])
    obtain ⟨a, ha, rfl⟩ := List.mem_map.1 hr
    exact hm.record_mem ha
  · intro hp
    have htable : (table.map key).Nodup := by
      have hperm := hp.map Prod.fst
      rw [hkeys, hkeys] at hperm
      exact hperm.nodup_iff.1 h
    exact (consistent_of_nodup htable).matchesFirst (by simpa using hp.length_eq.symm)
      fun a ha => hp.subset (List.mem_map_of_mem ha)

/-- The second of two records under one key is never looked at. -/
theorem find?_replace (hb : b ∈ p) (he : key b = key a) (hc : key c = key a) (k : κ) :
    (p ++ c :: q).find? (fun x => key x = k) = (p ++ a :: q).find? fun x => key x = k := by
  rw [List.find?_append, List.find?_append]
  by_cases hk : key a = k
  · obtain ⟨d, -, hd, -⟩ := exists_find?_of_mem key hb
    rw [he, hk] at hd
    rw [hd, Option.some_or, Option.some_or]
  · rw [List.find?_cons_of_neg (by simpa [hc] using hk), List.find?_cons_of_neg (by simpa using hk)]

/-- `hfree`: under the key of a record there is one with another value. -/
theorem forall_matchesFirst_iff (hfree : ∀ a : α, ∃ b, key b = key a ∧ val b ≠ val a) :
    (∀ table, MatchesFirst key val l table ↔ (l.map (record key val)).Perm (table.map (record key val))) ↔
      (l.map key).Nodup := by
  refine ⟨fun h => ?_, fun h table => matchesFirst_iff_perm h⟩
  by_contra hrepeated
  have hself : MatchesFirst key val l l := (h l).2 (.refl _)
  obtain ⟨p, a, q, rfl, b, hb, he⟩ := exists_repeated hrepeated
  obtain ⟨c, hc, hne⟩ := hfree a
  have hm : MatchesFirst key val (p ++ a :: q) (p ++ c :: q) := by
    refine ⟨by simp, fun d hd => ?_⟩
    rw [find?_replace hb he hc]
    exact hself.2 d hd
  have hperm := (h (p ++ c :: q)).1 hm
  simp only [List.map_append, List.map_cons, List.perm_append_left_iff] at hperm
  have hcons : record key val a ::ₘ (q.map (record key val) : Multiset (κ × ν)) =
      record key val c ::ₘ q.map (record key val) := Multiset.coe_eq_coe.2 hperm
  exact hne (Prod.mk.inj ((Multiset.cons_inj_left _).1 hcons)).2.symm

end

end FirstMatch
