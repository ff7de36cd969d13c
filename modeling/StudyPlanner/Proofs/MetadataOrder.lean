import StudyPlanner.Remote.Metadata
import Mathlib.Data.List.Induction
/-!
# Metadata is an insertion-ordered map

Inserting a key that is present replaces its value where it stands, and a new key goes to the
end. Whatever keys are inserted, in whatever order, into empty metadata:

* no key is held twice (`nodup_keys_insert` for one insert, `nodup_keys_ofInserts` for a run);
* a key reads as the value it was last given, and as nothing if it was never inserted
  (`get?_insert`, `get?_ofInserts`);
* the entries hold each inserted key once, in the order of its first insertion
  (`keys_insert`, `keys_ofInserts`), each with its latest value (`get?_of_mem`).

Reading a key changes nothing, so a run of inserts and reads holds what its inserts alone build.
-/

namespace StudyPlanner.Remote.Metadata

/-- The keys of the entries, in order. -/
def keys (m : Metadata) : List String := m.entries.map Prod.fst

/-- The metadata that a run of inserts builds from empty metadata. -/
def ofInserts (kvs : List (String × String)) : Metadata :=
  kvs.foldl (fun m kv => m.insert kv.1 kv.2) {}

/-! ### One insert -/

theorem map_fst_insertEntry (key value : String) (es : List (String × String)) :
    (insertEntry key value es).map Prod.fst =
      if key ∈ es.map Prod.fst then es.map Prod.fst else es.map Prod.fst ++ [key] := by
  induction es with
  | nil => rfl
  | cons e rest ih =>
    obtain ⟨k, v⟩ := e
    by_cases hk : k = key
    · simp [insertEntry, hk]
    · -- the head stays, and the key is looked for in the rest
      have hmem : key ∈ ((k, v) :: rest).map Prod.fst ↔ key ∈ rest.map Prod.fst := by
        simp [Ne.symm hk]
      rw [if_congr hmem rfl rfl]
      simp only [insertEntry, hk, if_false, List.map_cons, ih]
      split <;> rfl

/-- An insert keeps the keys where they stand and appends a key that is new. -/
theorem keys_insert (m : Metadata) (key value : String) :
    (m.insert key value).keys = if key ∈ m.keys then m.keys else m.keys ++ [key] :=
  map_fst_insertEntry key value m.entries

theorem nodup_keys_insert {m : Metadata} (h : m.keys.Nodup) (key value : String) :
    (m.insert key value).keys.Nodup := by
  rw [keys_insert]
  split
  · exact h
  · next hnew =>
    refine List.nodup_append.mpr ⟨h, by simp, fun k hk k' hk' hkk => ?_⟩
    rw [List.mem_singleton] at hk'
    subst hkk hk'
    exact hnew hk

theorem get?_insertEntry (key value k : String) (es : List (String × String)) :
    ({ entries := insertEntry key value es } : Metadata).get? k =
      if k = key then some value else ({ entries := es } : Metadata).get? k := by
  induction es with
  | nil =>
    by_cases hk : k = key
    · simp [insertEntry, get?, hk]
    · simp [insertEntry, get?, hk, Ne.symm hk]
  | cons e rest ih =>
    obtain ⟨k', v⟩ := e
    simp only [get?] at ih ⊢
    by_cases hk' : k' = key
    · -- the entry of the key is replaced where it stands
      subst hk'
      by_cases hk : k = k'
      · simp [insertEntry, hk]
      · simp [insertEntry, hk, Ne.symm hk]
    · by_cases hk : k' = k
      · subst hk
        simp [insertEntry, hk']
      · simp [insertEntry, hk', hk, ih]

/-- After an insert the key reads as its new value, and every other key as before. -/
@[simp] theorem get?_insert (m : Metadata) (key value k : String) :
    (m.insert key value).get? k = if k = key then some value else m.get? k :=
  get?_insertEntry key value k m.entries

/-- With no key held twice, every entry is what its key reads as. -/
theorem get?_of_mem {m : Metadata} (h : m.keys.Nodup) {e : String × String}
    (he : e ∈ m.entries) : m.get? e.1 = some e.2 := by
  obtain ⟨es⟩ := m
  simp only [keys] at h
  simp only [get?]
  induction es with
  | nil => cases he
  | cons a rest ih =>
    simp only [List.map_cons, List.nodup_cons] at h
    rcases List.mem_cons.mp he with rfl | hrest
    · simp
    · -- the head's key is not `e`'s, since `e`'s key appears again in the rest
      have hne : a.1 ≠ e.1 := fun heq => h.1 (heq ▸ List.mem_map_of_mem hrest)
      simp [hne, ih h.2 hrest]

/-! ### A run of inserts -/

@[simp] theorem ofInserts_nil : ofInserts [] = {} := rfl

theorem ofInserts_append_singleton (kvs : List (String × String)) (kv : String × String) :
    ofInserts (kvs ++ [kv]) = (ofInserts kvs).insert kv.1 kv.2 := by
  simp [ofInserts, List.foldl_append]

theorem nodup_keys_ofInserts (kvs : List (String × String)) : (ofInserts kvs).keys.Nodup := by
  induction kvs using List.reverseRecOn with
  | nil => exact List.nodup_nil
  | append_singleton kvs kv ih =>
    rw [ofInserts_append_singleton]
    exact nodup_keys_insert ih kv.1 kv.2

/-- A key reads as the value of its last insert, or as nothing if it was never inserted. -/
theorem get?_ofInserts (kvs : List (String × String)) (k : String) :
    (ofInserts kvs).get? k = kvs.reverse.lookup k := by
  induction kvs using List.reverseRecOn with
  | nil => rfl
  | append_singleton kvs kv ih =>
    obtain ⟨key, value⟩ := kv
    rw [ofInserts_append_singleton, get?_insert, ih]
    have hbeq : (k == key) = decide (k = key) := rfl
    by_cases hk : k = key <;> simp [List.lookup_cons, hbeq, hk]

/-- The keys are the inserted ones, each once, in the order of its first insertion. -/
theorem keys_ofInserts (kvs : List (String × String)) :
    (ofInserts kvs).keys = (kvs.map Prod.fst).eraseDups := by
  induction kvs using List.reverseRecOn with
  | nil => rfl
  | append_singleton kvs kv ih =>
    rw [ofInserts_append_singleton, keys_insert, ih, List.map_append, List.eraseDups_append]
    -- a key inserted before adds nothing to the order; a new one comes last
    by_cases hk : kv.1 ∈ kvs.map Prod.fst
    · simp [hk, List.removeAll]
    · simp [hk, List.removeAll, List.eraseDups_cons]

/-- Metadata built by any run of inserts from empty metadata is an insertion-ordered map: no
key is held twice, a key reads as the value of its last insert (nothing if never inserted),
and the entries hold each inserted key once, in the order of its first insertion, paired with
its latest value. -/
theorem metadata_keeps_insertion_order (kvs : List (String × String)) :
    (ofInserts kvs).keys.Nodup ∧
      (∀ k, (ofInserts kvs).get? k = kvs.reverse.lookup k) ∧
      (ofInserts kvs).keys = (kvs.map Prod.fst).eraseDups ∧
      ∀ e ∈ (ofInserts kvs).entries, kvs.reverse.lookup e.1 = some e.2 := by
  refine ⟨nodup_keys_ofInserts kvs, get?_ofInserts kvs, keys_ofInserts kvs, fun e he => ?_⟩
  rw [← get?_ofInserts]
  exact get?_of_mem (nodup_keys_ofInserts kvs) he

example : (ofInserts [("token", "a"), ("device", "d"), ("token", "b")]).entries =
    [("token", "b"), ("device", "d")] := by decide

end StudyPlanner.Remote.Metadata
