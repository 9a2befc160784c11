/-!
# Dictionaries

Two ways to keep values under keys. A `Dict` is a list of entries in the order of its keys: equal
dictionaries are equal lists, and whoever walks one meets the keys in order. An `Assoc` keeps its
entries in no particular order and only needs keys that can be compared for equality.
-/

namespace Covenant

/-- Entries in ascending order of their keys, one for each key. -/
abbrev Dict (κ α : Type) :=
  List (κ × α)

namespace Dict

variable {κ α : Type}

/-- The value under a key. -/
def find? [DecidableEq κ] (key : κ) : Dict κ α → Option α
  | [] => none
  | (k, v) :: rest => if k = key then some v else find? key rest

/-- Puts a value under a key, in place of the one that is there. -/
def insert [Ord κ] (key : κ) (value : α) : Dict κ α → Dict κ α
  | [] => [(key, value)]
  | (k, v) :: rest =>
    match compare key k with
    | .lt => (key, value) :: (k, v) :: rest
    | .eq => (key, value) :: rest
    | .gt => (k, v) :: insert key value rest

/-- Takes away the value under a key. -/
def erase [DecidableEq κ] (key : κ) (entries : Dict κ α) : Dict κ α :=
  entries.filter fun entry => entry.1 ≠ key

/-- The keys, in order. -/
def keys (entries : Dict κ α) : List κ :=
  entries.map Prod.fst

/-- A key has a value. -/
def has [DecidableEq κ] (key : κ) (entries : Dict κ α) : Bool :=
  (find? key entries).isSome

/-- Puts in all entries of a list, later ones over earlier ones. -/
def insertAll [Ord κ] (new : List (κ × α)) (entries : Dict κ α) : Dict κ α :=
  new.foldl (fun entries entry => insert entry.1 entry.2 entries) entries

/-- The dictionary of a list of entries, of which the last one under a key counts. -/
def ofList [Ord κ] (entries : List (κ × α)) : Dict κ α :=
  insertAll entries []

/-- A sorted list without repetition, as a set. -/
def insertKey [Ord κ] (key : κ) : List κ → List κ
  | [] => [key]
  | k :: rest =>
    match compare key k with
    | .lt => key :: k :: rest
    | .eq => k :: rest
    | .gt => k :: insertKey key rest

/-- A value that is put in is found under its key, and nothing changes under other keys. -/
theorem find?_insert [DecidableEq κ] [Ord κ] [Std.LawfulEqOrd κ] (key other : κ) (value : α)
    (entries : Dict κ α) :
    find? other (insert key value entries) =
      if key = other then some value else find? other entries := by
  induction entries with
  | nil => simp [insert, find?]
  | cons entry rest ih =>
    obtain ⟨k, v⟩ := entry
    cases horder : compare key k with
    | lt => simp [insert, find?, horder]
    | eq =>
      obtain rfl := Std.LawfulEqOrd.eq_of_compare horder
      by_cases hkey : key = other <;> simp [insert, find?, hkey]
    | gt =>
      have hne : key ≠ k := by
        rintro rfl
        simp [Std.ReflOrd.compare_self] at horder
      by_cases hk : k = other
      · subst hk
        simp [insert, find?, horder, hne]
      · simp [insert, find?, horder, hk, ih]

/-- A key under which there is a value is one of the keys. -/
theorem mem_keys_of_find? [DecidableEq κ] {key : κ} {value : α} {entries : Dict κ α}
    (h : find? key entries = some value) : key ∈ keys entries := by
  induction entries with
  | nil => simp [find?] at h
  | cons entry rest ih =>
    obtain ⟨k, v⟩ := entry
    by_cases hk : k = key
    · simp [keys, hk]
    · have hrest : key ∈ keys rest := ih (by simpa [find?, hk] using h)
      exact List.mem_cons_of_mem _ hrest

/-- There is a value under each of the keys. -/
theorem exists_find?_of_mem_keys [DecidableEq κ] {key : κ} {entries : Dict κ α}
    (h : key ∈ keys entries) : ∃ value, find? key entries = some value := by
  induction entries with
  | nil => cases h
  | cons entry rest ih =>
    obtain ⟨k, v⟩ := entry
    by_cases hk : k = key
    · exact ⟨v, by simp [find?, hk]⟩
    · obtain ⟨value, hvalue⟩ := ih ((List.mem_cons.mp h).resolve_left (Ne.symm hk))
      exact ⟨value, by simpa [find?, hk] using hvalue⟩

end Dict

/-- Entries in the order of their first insertion, one for each key. -/
abbrev Assoc (κ α : Type) :=
  List (κ × α)

namespace Assoc

variable {κ α : Type} [DecidableEq κ]

/-- The value under a key. -/
def find? (key : κ) (entries : Assoc κ α) : Option α :=
  Dict.find? key entries

/-- Puts a value under a key, in place of the one that is there. -/
def insert (key : κ) (value : α) : Assoc κ α → Assoc κ α
  | [] => [(key, value)]
  | (k, v) :: rest => if k = key then (key, value) :: rest else (k, v) :: insert key value rest

/-- Takes away the value under a key. -/
def erase (key : κ) (entries : Assoc κ α) : Assoc κ α :=
  entries.filter fun entry => entry.1 ≠ key

@[simp]
theorem find?_insert_self (key : κ) (value : α) (entries : Assoc κ α) :
    find? key (insert key value entries) = some value := by
  induction entries with
  | nil => simp [insert, find?, Dict.find?]
  | cons entry rest ih =>
    obtain ⟨k, v⟩ := entry
    by_cases h : k = key
    · simp [insert, find?, Dict.find?, h]
    · simpa [insert, find?, Dict.find?, h] using ih

theorem find?_insert_of_ne {key other : κ} (hne : other ≠ key) (value : α) (entries : Assoc κ α) :
    find? other (insert key value entries) = find? other entries := by
  induction entries with
  | nil => simp [insert, find?, Dict.find?, hne.symm]
  | cons entry rest ih =>
    obtain ⟨k, v⟩ := entry
    by_cases h : k = key
    · subst h
      simp [insert, find?, Dict.find?, hne.symm]
    · by_cases ho : k = other
      · simp [insert, find?, Dict.find?, ho, hne]
      · simpa [insert, find?, Dict.find?, h, ho] using ih

end Assoc

end Covenant
