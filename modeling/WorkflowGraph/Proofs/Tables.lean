import Mathlib.Data.List.Basic
import WorkflowGraph.Table

/-!
# What a table says

A table is read with `Table.get?`.  The equations below say what every change of a table does to
that reading, and that two tables with the same reading list the same keys and the same values,
in some order.  Sorting forgets the order: lists that are permutations of each other have the
same sorted form (`sortTexts_eq_of_perm`).
-/

namespace WorkflowGraph

namespace Table

variable {α : Type} (table : Table α)

theorem nodup_keys : table.keys.Nodup := table.nodup

/-- A key has at most one entry. -/
theorem eq_of_mem_entries {key : String} {a b : α} (ha : (key, a) ∈ table.entries)
    (hb : (key, b) ∈ table.entries) : a = b := by
  have hpair := table.nodup
  generalize table.entries = entries at ha hb hpair
  induction entries with
  | nil => cases ha
  | cons entry rest ih =>
      rw [List.map_cons, List.nodup_cons] at hpair
      have hkeys : ∀ c, (key, c) ∈ rest → key ∈ rest.map Prod.fst :=
        fun c hc => List.mem_map_of_mem (f := Prod.fst) hc
      rcases List.mem_cons.mp ha with rfl | hra
      · rcases List.mem_cons.mp hb with heq | hrb
        · exact (Prod.mk.inj heq).2.symm
        · exact absurd (hkeys b hrb) hpair.1
      · rcases List.mem_cons.mp hb with rfl | hrb
        · exact absurd (hkeys a hra) hpair.1
        · exact ih hra hrb hpair.2

/-- Reading a key gives exactly the value of its entry. -/
theorem get?_eq_some_iff {key : String} {a : α} :
    table.get? key = some a ↔ (key, a) ∈ table.entries := by
  constructor
  · intro h
    obtain ⟨entry, hfind, rfl⟩ := Option.map_eq_some_iff.mp h
    have hkey : entry.1 = key := by simpa using List.find?_some hfind
    rw [← hkey]
    exact List.mem_of_find?_eq_some hfind
  · intro h
    have hsome : (table.entries.find? fun entry => entry.1 == key).isSome := by
      rw [List.find?_isSome]
      exact ⟨(key, a), h, by simp⟩
    obtain ⟨entry, hfind⟩ := Option.isSome_iff_exists.mp hsome
    have hkey : entry.1 = key := by simpa using List.find?_some hfind
    have hmem : (key, entry.2) ∈ table.entries := by
      rw [← hkey]
      exact List.mem_of_find?_eq_some hfind
    rw [get?, hfind, Option.map_some, table.eq_of_mem_entries hmem h]

theorem contains_iff_mem_keys {key : String} : table.contains key = true ↔ key ∈ table.keys := by
  simp [contains]

theorem mem_keys_iff {key : String} : key ∈ table.keys ↔ ∃ a, table.get? key = some a := by
  simp only [keys, get?_eq_some_iff, List.mem_map, Prod.exists, exists_and_right,
    exists_eq_right]

/-- A key is there when it can be read. -/
theorem contains_eq_isSome (key : String) : table.contains key = (table.get? key).isSome := by
  rw [Bool.eq_iff_iff, contains_iff_mem_keys, mem_keys_iff, Option.isSome_iff_exists]

@[simp] theorem get?_empty (key : String) : (empty : Table α).get? key = none := rfl

/-- A change of one value is read at its key alone. -/
theorem get?_modify (key name : String) (change : α → α) :
    (table.modify key change).get? name =
      if name = key then (table.get? name).map change else table.get? name := by
  have hsame : ((fun entry : String × α => entry.1 == name) ∘ fun entry =>
      if entry.1 == key then (entry.1, change entry.2) else entry) =
      fun entry => entry.1 == name := by
    funext entry
    simp only [Function.comp]
    split <;> rfl
  simp only [get?, modify, List.find?_map, hsame]
  cases hfind : table.entries.find? fun entry => entry.1 == name with
  | none => simp
  | some entry =>
      have hname : entry.1 = name := by simpa using List.find?_some hfind
      by_cases hkey : name = key
      · simp [hname, hkey]
      · simp [hname, hkey]

@[simp] theorem keys_modify (key : String) (change : α → α) :
    (table.modify key change).keys = table.keys := by
  simp only [keys, modify, List.map_map]
  apply List.map_congr_left
  intro entry _
  simp only [Function.comp]
  split <;> rfl

/-- The new value is read at its key, and any other key reads as before. -/
theorem get?_insert (key name : String) (value : α) :
    (table.insert key value).get? name = if name = key then some value else table.get? name := by
  unfold insert
  split
  · next hkey =>
      rw [get?_modify]
      by_cases hname : name = key
      · obtain ⟨a, ha⟩ := table.mem_keys_iff.mp (table.contains_iff_mem_keys.mp hkey)
        simp [hname, ha]
      · simp [hname]
  · next hkey =>
      have habsent : table.get? key = none := by
        rw [contains_eq_isSome] at hkey
        simpa using hkey
      by_cases hname : name = key
      · subst hname
        have hfind : table.entries.find? (fun entry => entry.1 == name) = none := by
          simpa [get?] using habsent
        simp [get?, List.find?_append, hfind]
      · have hother : ¬key = name := fun h => hname h.symm
        simp [get?, List.find?_append, hname, hother]

/-- A value for a key that has none is read there, and everything that was there stays. -/
theorem get?_insertNew (key name : String) (value : α) :
    (table.insertNew key value).get? name =
      (table.get? name).or (if name = key then some value else none) := by
  unfold insertNew
  split
  · next hkey =>
      by_cases hname : name = key
      · obtain ⟨a, ha⟩ := table.mem_keys_iff.mp (table.contains_iff_mem_keys.mp hkey)
        simp [hname, ha]
      · simp [hname]
  · next hkey =>
      rw [contains_eq_isSome] at hkey
      rw [get?_insert]
      by_cases hname : name = key
      · have habsent : table.get? key = none := by simpa using hkey
        simp [hname, habsent]
      · simp [hname]

theorem contains_insertNew {key name : String} {value : α} :
    (table.insertNew key value).contains name = true ↔
      table.contains name = true ∨ name = key := by
  rw [contains_eq_isSome, contains_eq_isSome, get?_insertNew]
  by_cases hname : name = key
  · simp [hname]
  · simp [hname]

/-- The values are what the keys read, key by key. -/
theorem values_eq_filterMap : table.values = table.keys.filterMap table.get? := by
  rw [keys, List.filterMap_map, values, eq_comm, List.filterMap_eq_map_iff_forall_eq_some]
  intro entry hentry
  exact table.get?_eq_some_iff.mpr hentry

theorem mem_values_iff {a : α} : a ∈ table.values ↔ ∃ key, table.get? key = some a := by
  rw [values_eq_filterMap, List.mem_filterMap]
  constructor
  · rintro ⟨key, _, hkey⟩
    exact ⟨key, hkey⟩
  · rintro ⟨key, hkey⟩
    exact ⟨key, table.mem_keys_iff.mpr ⟨a, hkey⟩, hkey⟩

/-- Tables that have the same keys list them in some order. -/
theorem keys_perm {β : Type} {table : Table α} {other : Table β}
    (h : ∀ name, (table.get? name).isSome = (other.get? name).isSome) :
    table.keys.Perm other.keys := by
  rw [List.perm_ext_iff_of_nodup table.nodup_keys other.nodup_keys]
  intro name
  rw [← contains_iff_mem_keys, ← contains_iff_mem_keys, contains_eq_isSome, contains_eq_isSome,
    h name]

theorem eq_of_entries_eq {table other : Table α} (h : table.entries = other.entries) :
    table = other := by
  cases table
  cases other
  cases h
  rfl

theorem entries_insert_of_not_mem {key : String} (h : key ∉ table.keys) (value : α) :
    (table.insert key value).entries = table.entries ++ [(key, value)] := by
  have habsent : ¬table.contains key = true := fun hkey => h (table.contains_iff_mem_keys.mp hkey)
  rw [insert, dif_neg habsent]

/-- New keys go to the end, one after the other. -/
theorem entries_foldl_insert (entries : List (String × α))
    (hnodup : ((table.entries ++ entries).map Prod.fst).Nodup) :
    (entries.foldl (fun table entry => table.insert entry.1 entry.2) table).entries =
      table.entries ++ entries := by
  induction entries generalizing table with
  | nil => rw [List.foldl_nil, List.append_nil]
  | cons entry entries ih =>
      have hnew : entry.1 ∉ table.keys := by
        rw [List.map_append, List.nodup_append] at hnodup
        exact fun hmem => hnodup.2.2 _ hmem _ (by simp) rfl
      have hentries := table.entries_insert_of_not_mem hnew entry.2
      rw [List.foldl_cons, ih, hentries, List.append_assoc, List.singleton_append]
      rw [hentries, List.append_assoc, List.singleton_append]
      exact hnodup

/-- The entries of a table make the table. -/
theorem ofList_entries : ofList table.entries = table :=
  eq_of_entries_eq (empty.entries_foldl_insert table.entries table.nodup)

end Table

theorem precedes_iff {a b : String} : precedes a b = true ↔ a ≤ b := by
  simp only [precedes, Bool.not_eq_true', decide_eq_false_iff_not, String.not_lt]

theorem precedes_trans (a b c : String) (hab : precedes a b) (hbc : precedes b c) :
    precedes a c :=
  precedes_iff.mpr (String.le_trans (precedes_iff.mp hab) (precedes_iff.mp hbc))

theorem precedes_total (a b : String) : precedes a b || precedes b a := by
  rw [Bool.or_eq_true, precedes_iff, precedes_iff]
  exact String.le_total a b

theorem precedes_antisymm {a b : String} (hab : precedes a b) (hba : precedes b a) : a = b :=
  String.le_antisymm (precedes_iff.mp hab) (precedes_iff.mp hba)

theorem pairwise_sortTexts (texts : List String) :
    (sortTexts texts).Pairwise fun a b => precedes a b :=
  List.pairwise_mergeSort precedes_trans precedes_total texts

/-- The sorted form of a list depends on its members only, each as often as it occurs. -/
theorem sortTexts_eq_of_perm {texts others : List String} (h : texts.Perm others) :
    sortTexts texts = sortTexts others := by
  have hanti : ∀ a b : String, a ∈ sortTexts texts → b ∈ sortTexts others →
      precedes a b → precedes b a → a = b := fun _ _ _ _ hab hba => precedes_antisymm hab hba
  exact List.Perm.eq_of_pairwise hanti (pairwise_sortTexts texts) (pairwise_sortTexts others)
    (((List.mergeSort_perm texts _).trans h).trans (List.mergeSort_perm others _).symm)

theorem sortTexts_perm (texts : List String) : (sortTexts texts).Perm texts :=
  List.mergeSort_perm texts precedes

@[simp] theorem mem_sortTexts {text : String} {texts : List String} :
    text ∈ sortTexts texts ↔ text ∈ texts :=
  (sortTexts_perm texts).mem_iff

end WorkflowGraph
