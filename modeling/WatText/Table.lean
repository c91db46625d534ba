/-!
# Tables in order of first insertion

A table holds one value per key. Putting a value under a key that is present replaces the value and
keeps the position; a new key goes to the end. `keys_put` and `get?_put` say what `put` does to the
two views of a table, its keys in order and its values by key.
-/

namespace WatText

/-- Entries in order of first insertion. -/
structure Table (κ α : Type) where
  entries : List (κ × α) := []
  deriving DecidableEq

namespace Table

variable {κ α : Type}

instance : Inhabited (Table κ α) := ⟨⟨[]⟩⟩

/-- The keys in order. -/
def keys (t : Table κ α) : List κ :=
  t.entries.map Prod.fst

/-- The values in order. -/
def values (t : Table κ α) : List α :=
  t.entries.map Prod.snd

/-- The number of entries. -/
def size (t : Table κ α) : Nat :=
  t.entries.length

variable [DecidableEq κ]

/-- The first value stored under a key. -/
def find? (key : κ) : List (κ × α) → Option α
  | [] => none
  | (k, a) :: rest => if k = key then some a else find? key rest

/-- Replaces the first value under a key, or adds an entry at the end. -/
def replace (key : κ) (value : α) : List (κ × α) → List (κ × α)
  | [] => [(key, value)]
  | (k, a) :: rest => if k = key then (k, value) :: rest else (k, a) :: replace key value rest

/-- The value of a key. -/
def get? (t : Table κ α) (key : κ) : Option α :=
  find? key t.entries

/-- Stores a value under a key. -/
def put (t : Table κ α) (key : κ) (value : α) : Table κ α :=
  ⟨replace key value t.entries⟩

/-! ## What `put` does to the views -/

theorem keys_put (t : Table κ α) (key : κ) (value : α) :
    (t.put key value).keys = if key ∈ t.keys then t.keys else t.keys ++ [key] := by
  obtain ⟨entries⟩ := t
  simp only [put, keys]
  induction entries with
  | nil => rfl
  | cons e rest ih =>
    obtain ⟨k, a⟩ := e
    by_cases h : k = key
    · simp [replace, h]
    · have h' : key ≠ k := fun e => h e.symm
      simp only [replace, h, if_false, List.map_cons, ih, List.mem_cons, h', false_or]
      by_cases hk : key ∈ rest.map Prod.fst <;> simp [hk]

theorem get?_put (t : Table κ α) (key k : κ) (value : α) :
    (t.put key value).get? k = if k = key then some value else t.get? k := by
  obtain ⟨entries⟩ := t
  simp only [put, get?]
  induction entries with
  | nil =>
    by_cases h : k = key
    · simp [replace, find?, h]
    · have h' : key ≠ k := fun e => h e.symm
      simp [replace, find?, h, h']
  | cons e rest ih =>
    obtain ⟨k', a⟩ := e
    by_cases h : k' = key
    · subst h
      by_cases hk : k = k'
      · simp [replace, find?, hk]
      · have h' : k' ≠ k := fun e => hk e.symm
        simp [replace, find?, hk, h']
    · by_cases hk : k' = k
      · subst hk
        simp [replace, find?, h]
      · simp [replace, find?, h, hk, ih]

theorem nodup_keys_put {t : Table κ α} (h : t.keys.Nodup) (key : κ) (value : α) :
    (t.put key value).keys.Nodup := by
  rw [keys_put]
  split
  · exact h
  · next hk =>
    rw [List.nodup_append]
    refine ⟨h, by simp, fun a ha b hb e => hk ?_⟩
    rw [← List.mem_singleton.1 hb, ← e]
    exact ha

end Table

end WatText
