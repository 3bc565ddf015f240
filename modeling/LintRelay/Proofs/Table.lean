import LintRelay.Table

/-!
# What tables hold

Keys, values and entries of a table in terms of looking up (`get?`). Since keys ascend, an entry is
found exactly at its key, so that a table is its lookup function: later proofs use these lemmas and
never open an entry list. `tabulate` is known by its lookup function too. In whatever order its keys
are visited, the values of a table are the same (`valuesIn_perm`).
-/

namespace LintRelay.Table

variable {α β : Type}

/-! ## Entries, keys and values -/

/-- What is found at a key is an entry. -/
theorem mem_of_find? {key : String} {value : α} {l : List (String × α)}
    (h : find? key l = some value) : (key, value) ∈ l := by
  induction l with
  | nil => simp [find?] at h
  | cons e rest ih =>
    obtain ⟨k, v⟩ := e
    unfold find? at h
    split at h
    · next hk =>
      obtain rfl : v = value := Option.some.inj h
      rw [hk]
      exact List.mem_cons_self
    · exact List.mem_cons_of_mem _ (ih h)

/-- In an ascending list an entry is found at its key: no other entry has the key. -/
theorem find?_of_mem {key : String} {value : α} {l : List (String × α)}
    (hl : l.Pairwise fun a b => a.1 < b.1) (h : (key, value) ∈ l) : find? key l = some value := by
  induction l with
  | nil => simp at h
  | cons e rest ih =>
    obtain ⟨k, v⟩ := e
    obtain ⟨hk, hrest⟩ := List.pairwise_cons.1 hl
    unfold find?
    rcases List.mem_cons.1 h with heq | hmem
    · obtain ⟨rfl, rfl⟩ := Prod.mk.inj heq
      rw [if_pos rfl]
    · have hlt : k < key := hk _ hmem
      have hne : k ≠ key := fun heq => String.lt_irrefl k (by rw [← heq] at hlt; exact hlt)
      rw [if_neg hne, ih hrest hmem]

/-- The entries of a table are what is found at its keys. -/
theorem mem_entries {t : Table α} {key : String} {value : α} :
    (key, value) ∈ t.entries ↔ t.get? key = some value :=
  ⟨find?_of_mem t.ascending, mem_of_find?⟩

/-- A key is one at which something is found. -/
theorem mem_keys {t : Table α} {key : String} :
    key ∈ t.keys ↔ ∃ value, t.get? key = some value := by
  unfold keys
  rw [List.mem_map]
  constructor
  · rintro ⟨⟨k, v⟩, hmem, rfl⟩
    exact ⟨v, mem_entries.1 hmem⟩
  · rintro ⟨value, h⟩
    exact ⟨(key, value), mem_entries.2 h, rfl⟩

/-- A value is what is found at some key. -/
theorem mem_values {t : Table α} {value : α} :
    value ∈ t.values ↔ ∃ key, t.get? key = some value := by
  unfold values
  rw [List.mem_map]
  constructor
  · rintro ⟨⟨k, v⟩, hmem, rfl⟩
    exact ⟨k, mem_entries.1 hmem⟩
  · rintro ⟨key, h⟩
    exact ⟨(key, value), mem_entries.2 h, rfl⟩

/-- Keys ascend. -/
theorem keys_ascending (t : Table α) : t.keys.Pairwise (· < ·) := List.pairwise_map.2 t.ascending

/-- Tables in which the same is found at every key are equal. -/
theorem eq_of_get? {t t' : Table α} (h : ∀ key, t.get? key = t'.get? key) : t = t' := by
  have hnodup : ∀ t : Table α, t.entries.Nodup := by
    intro t
    refine t.ascending.imp fun hlt heq => ?_
    rw [heq] at hlt
    exact String.lt_irrefl _ hlt
  have hmem : ∀ entry, entry ∈ t.entries ↔ entry ∈ t'.entries := by
    rintro ⟨key, value⟩
    rw [mem_entries, mem_entries, h key]
  have hperm : t.entries.Perm t'.entries :=
    (List.perm_ext_iff_of_nodup (hnodup t) (hnodup t')).2 hmem
  have hentries : t.entries = t'.entries :=
    hperm.eq_of_pairwise (fun _ _ _ _ hlt hgt => absurd (String.lt_trans hlt hgt)
      (String.lt_irrefl _)) t.ascending t'.ascending
  cases t
  cases t'
  subst hentries
  rfl

/-- What is found at a key stands there. -/
theorem getD_of_get? {t : Table α} {key : String} {value : α} (h : t.get? key = some value)
    (default : α) : t.getD key default = value := by
  unfold getD
  rw [h]
  rfl

/-- At a key that a table does not have, the default stands. -/
theorem getD_of_not_mem_keys {t : Table α} {key : String} (h : key ∉ t.keys) (default : α) :
    t.getD key default = default := by
  unfold getD
  cases hget : t.get? key with
  | none => rfl
  | some value => exact absurd (mem_keys.2 ⟨value, hget⟩) h

/-- What stands at a key after another was set. -/
@[simp] theorem getD_insert (t : Table α) (key other : String) (value default : α) :
    (t.insert key value).getD other default =
      if key = other then value else t.getD other default := by
  unfold getD
  rw [get?_insert]
  split <;> rfl

/-- What stands at a key after one was erased. -/
@[simp] theorem getD_erase (t : Table α) (key other : String) (default : α) :
    (t.erase key).getD other default = if key = other then default else t.getD other default := by
  unfold getD
  rw [get?_erase]
  split <;> rfl

/-! ## Visiting orders -/

/-- The values stand at the keys. -/
theorem filterMap_keys (t : Table α) : t.keys.filterMap t.get? = t.values := by
  have hget : ∀ e ∈ t.entries, t.get? e.1 = some e.2 := fun e he => mem_entries.1 he
  unfold keys values
  generalize t.entries = entries at hget
  induction entries with
  | nil => rfl
  | cons e rest ih =>
    obtain ⟨he, hrest⟩ := List.forall_mem_cons.1 hget
    rw [List.map_cons, List.filterMap_cons_some he, ih hrest, List.map_cons]

/-- In every visiting order the values are the same. -/
theorem valuesIn_perm (t : Table α) (v : Visiting) : (t.valuesIn v).Perm t.values := by
  rw [← filterMap_keys]
  exact (v.perm t.keys).filterMap t.get?

/-- A value that is visited is what is found at some key. -/
theorem mem_valuesIn {t : Table α} {v : Visiting} {value : α} :
    value ∈ t.valuesIn v ↔ ∃ key, t.get? key = some value :=
  (t.valuesIn_perm v).mem_iff.trans mem_values

/-! ## Tables from functions -/

/-- With `f` applied to all values, `f` of what was there before is found. -/
@[simp] theorem get?_map (f : β → α) (t : Table β) (key : String) :
    (t.map f).get? key = (t.get? key).map f := by
  change find? key (t.entries.map fun e => (e.1, f e.2)) = (find? key t.entries).map f
  induction t.entries with
  | nil => rfl
  | cons e rest ih =>
    obtain ⟨k, v⟩ := e
    by_cases hk : k = key
    · simp [find?, hk]
    · simp [find?, hk, ih]

/-- With the values computed from the keys, those are found where something was before. -/
theorem get?_mapKeys (t : Table β) (f : String → α) (key : String) :
    (t.mapKeys f).get? key = (t.get? key).map fun _ => f key := by
  change find? key (t.entries.map fun e => (e.1, f e.1)) = (find? key t.entries).map fun _ => f key
  induction t.entries with
  | nil => rfl
  | cons e rest ih =>
    obtain ⟨k, v⟩ := e
    by_cases hk : k = key
    · simp [find?, hk]
    · simp [find?, hk, ih]

/-- The table of keys that `tabulate` builds up: those it began with, and the keys added. -/
theorem get?_foldl_insert_unit (keys : List String) (t : Table Unit) (key : String) :
    (keys.foldl (fun t key => t.insert key ()) t).get? key =
      if key ∈ keys then some () else t.get? key := by
  induction keys generalizing t with
  | nil => simp
  | cons k rest ih =>
    rw [List.foldl_cons, ih, get?_insert]
    by_cases hrest : key ∈ rest
    · simp [hrest]
    · by_cases hk : k = key
      · simp [hk]
      · simp [hrest, hk, Ne.symm hk]

/-- A tabulated function is found at the given keys, and nothing elsewhere. -/
theorem get?_tabulate (keys : List String) (f : String → α) (key : String) :
    (tabulate keys f).get? key = if key ∈ keys then some (f key) else none := by
  unfold tabulate
  rw [get?_mapKeys, get?_foldl_insert_unit, get?_empty]
  split <;> rfl

/-- The keys of a tabulated function are the given ones. -/
theorem mem_keys_tabulate {keys : List String} {f : String → α} {key : String} :
    key ∈ (tabulate keys f).keys ↔ key ∈ keys := by
  rw [mem_keys]
  simp only [get?_tabulate]
  by_cases h : key ∈ keys <;> simp [h]

/-! ## Tables from entries -/

/-- After entries of a table were set, their keys have what the table has there. -/
theorem get?_foldl_insert {t : Table α} {entries : List (String × α)}
    (h : ∀ e ∈ entries, t.get? e.1 = some e.2) (start : Table α) (key : String) :
    (entries.foldl (fun t e => t.insert e.1 e.2) start).get? key =
      if key ∈ entries.map Prod.fst then t.get? key else start.get? key := by
  induction entries generalizing start with
  | nil => simp
  | cons e rest ih =>
    rw [List.foldl_cons, ih (fun e' he' => h e' (List.mem_cons_of_mem _ he')), get?_insert]
    by_cases hrest : key ∈ rest.map Prod.fst
    · rw [if_pos hrest, if_pos (by simp only [List.map_cons]; exact List.mem_cons_of_mem _ hrest)]
    · rw [if_neg hrest]
      by_cases hkey : e.1 = key
      · rw [if_pos hkey, if_pos (by simp [hkey]), ← h e List.mem_cons_self, hkey]
      · rw [if_neg hkey, if_neg]
        simp only [List.map_cons, List.mem_cons, not_or]
        exact ⟨Ne.symm hkey, hrest⟩

/-- Entries of a table that have all its keys make up the table, in any order. -/
theorem ofList_eq {t : Table α} {entries : List (String × α)}
    (h : ∀ e ∈ entries, t.get? e.1 = some e.2)
    (hkeys : ∀ key ∈ t.keys, key ∈ entries.map Prod.fst) : ofList entries = t := by
  refine eq_of_get? fun key => ?_
  unfold ofList
  rw [get?_foldl_insert h]
  split
  · rfl
  · next hkey =>
    rw [get?_empty]
    cases hget : t.get? key with
    | none => rfl
    | some value => exact absurd (hkeys key (mem_keys.2 ⟨value, hget⟩)) hkey

end LintRelay.Table
