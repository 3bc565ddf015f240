/-!
# Tables

A finite map from text keys to values, kept as a list of entries in strictly ascending key order.
The order is part of the type, so a table has one representation for what it holds, and every
listing of keys or entries is ascending.
-/

namespace LintRelay

/-- A finite map with text keys, listed in strictly ascending key order. -/
structure Table (α : Type) where
  /-- The keys and their values. -/
  entries : List (String × α)
  /-- Keys ascend, so no key is listed twice. -/
  ascending : entries.Pairwise fun a b => a.1 < b.1

namespace Table

variable {α : Type}

/-- The table that holds nothing. -/
def empty : Table α := ⟨[], .nil⟩

instance : EmptyCollection (Table α) := ⟨empty⟩

instance : Inhabited (Table α) := ⟨empty⟩

/-- The keys, ascending. -/
def keys (t : Table α) : List String := t.entries.map Prod.fst

/-- The values, in the order of their keys. -/
def values (t : Table α) : List α := t.entries.map Prod.snd

/-- The value at a key of an entry list. -/
def find? (key : String) : List (String × α) → Option α
  | [] => none
  | (k, v) :: rest => if k = key then some v else find? key rest

/-- The value at `key`, if there is one. -/
def get? (t : Table α) (key : String) : Option α := find? key t.entries

/-- The value at `key`, or else `default`. -/
def getD (t : Table α) (key : String) (default : α) : α := (t.get? key).getD default

/-- Sets the value at `key` in an ascending entry list. -/
def place (key : String) (value : α) : List (String × α) → List (String × α)
  | [] => [(key, value)]
  | (k, v) :: rest =>
    if k < key then (k, v) :: place key value rest
    else if k = key then (key, value) :: rest
    else (key, value) :: (k, v) :: rest

/-- A bound below all keys and below the new key is a bound below the new list. -/
theorem lt_of_mem_place {bound key : String} {value : α} {l : List (String × α)}
    (hkey : bound < key) (hl : ∀ e ∈ l, bound < e.1) : ∀ e ∈ place key value l, bound < e.1 := by
  induction l with
  | nil => simpa [place] using hkey
  | cons e rest ih =>
    obtain ⟨k, v⟩ := e
    have hrest : ∀ e ∈ rest, bound < e.1 := fun e he => hl e (List.mem_cons_of_mem _ he)
    have hk : bound < k := hl (k, v) List.mem_cons_self
    unfold place
    split
    · intro e he
      rcases List.mem_cons.1 he with rfl | he
      · exact hk
      · exact ih hrest e he
    · split
      · intro e he
        rcases List.mem_cons.1 he with rfl | he
        · exact hkey
        · exact hrest e he
      · intro e he
        rcases List.mem_cons.1 he with rfl | he
        · exact hkey
        · exact hl e he

/-- Setting a value keeps the key order. -/
theorem place_ascending (key : String) (value : α) {l : List (String × α)}
    (h : l.Pairwise fun a b => a.1 < b.1) :
    (place key value l).Pairwise fun a b => a.1 < b.1 := by
  induction l with
  | nil => exact List.pairwise_singleton _ _
  | cons e rest ih =>
    obtain ⟨k, v⟩ := e
    obtain ⟨hk, hrest⟩ := List.pairwise_cons.1 h
    unfold place
    split
    · next hlt => exact List.pairwise_cons.2 ⟨lt_of_mem_place hlt hk, ih hrest⟩
    · split
      · next heq => exact List.pairwise_cons.2 ⟨by simpa [heq] using hk, hrest⟩
      · next hnlt hne =>
        have hlt : key < k := Std.lt_of_le_of_ne (String.not_lt.1 hnlt) (Ne.symm hne)
        refine List.pairwise_cons.2 ⟨fun e he => ?_, h⟩
        rcases List.mem_cons.1 he with rfl | he
        · exact hlt
        · exact String.lt_trans hlt (hk e he)

/-- The table with `value` at `key`, and all else unchanged. -/
def insert (t : Table α) (key : String) (value : α) : Table α :=
  ⟨place key value t.entries, place_ascending key value t.ascending⟩

/-- The table without `key`. -/
def erase (t : Table α) (key : String) : Table α :=
  ⟨t.entries.filter fun e => e.1 ≠ key, t.ascending.filter _⟩

/-! ### Looking up -/

/-- Nothing is found in the empty table. -/
@[simp] theorem get?_empty (key : String) : (∅ : Table α).get? key = none := rfl

/-- In a list with a value set, that value is found at its key, and all else is as before. -/
theorem find?_place (key other : String) (value : α) (l : List (String × α)) :
    find? other (place key value l) = if key = other then some value else find? other l := by
  induction l with
  | nil => rfl
  | cons e rest ih =>
    obtain ⟨k, v⟩ := e
    unfold place
    split
    · next hlt =>
      by_cases hk : k = other
      · have hne : key ≠ other := fun h => String.lt_irrefl k (by rw [hk, ← h] at hlt ⊢; exact hlt)
        simp [find?, hk, hne]
      · simp [find?, hk, ih]
    · split
      · next heq => by_cases hk : key = other <;> simp [find?, heq, hk]
      · rfl

/-- In a list without a key nothing is found at it, and all else is as before. -/
theorem find?_filter (key other : String) (l : List (String × α)) :
    find? other (l.filter fun e => e.1 ≠ key) = if key = other then none else find? other l := by
  induction l with
  | nil => simp [find?]
  | cons e rest ih =>
    obtain ⟨k, v⟩ := e
    by_cases hk : k = key
    · by_cases ho : key = other <;> simp_all [find?]
    · by_cases ho : k = other
      · have hne : key ≠ other := fun h => hk (ho.trans h.symm)
        simp_all [find?]
      · simp_all [find?]

/-- The value at a key after another was set. -/
@[simp] theorem get?_insert (t : Table α) (key other : String) (value : α) :
    (t.insert key value).get? other = if key = other then some value else t.get? other :=
  find?_place key other value t.entries

/-- The value at a key after one was erased. -/
@[simp] theorem get?_erase (t : Table α) (key other : String) :
    (t.erase key).get? other = if key = other then none else t.get? other :=
  find?_filter key other t.entries

/-- The table with `f` applied to all values. -/
def map {β : Type} (f : β → α) (t : Table β) : Table α :=
  ⟨t.entries.map fun e => (e.1, f e.2), List.pairwise_map.2 t.ascending⟩

/-- The table with the same keys and the value of `f` at each. -/
def mapKeys {β : Type} (t : Table β) (f : String → α) : Table α :=
  ⟨t.entries.map fun e => (e.1, f e.1), List.pairwise_map.2 t.ascending⟩

/-- The table with the given keys and the value of `f` at each. -/
def tabulate (keys : List String) (f : String → α) : Table α :=
  (keys.foldl (fun (t : Table Unit) key => t.insert key ()) ∅).mapKeys f

/-- The table of a list of entries; of two values at one key the later stays. -/
def ofList (entries : List (String × α)) : Table α :=
  entries.foldl (fun t e => t.insert e.1 e.2) ∅

end Table

/-! ## Visiting orders -/

/-- An order in which a table that is kept by hashes goes through its keys: some arrangement of
them. -/
structure Visiting where
  /-- The keys as they are gone through. -/
  order : List String → List String
  /-- Each is gone through once, and nothing else. -/
  perm : ∀ keys, (order keys).Perm keys

namespace Visiting

/-- The ascending order. -/
def ascending : Visiting := ⟨fun keys => keys, fun _ => .refl _⟩

/-- The descending order. -/
def descending : Visiting := ⟨List.reverse, List.reverse_perm⟩

end Visiting

/-- The values, in the order in which their keys are visited. -/
def Table.valuesIn {α : Type} (t : Table α) (v : Visiting) : List α :=
  (v.order t.keys).filterMap t.get?

end LintRelay
