import Covenant.Dict

/-!
# Dictionaries in order

The entries of a dictionary are in the order of their keys, and stay so when values are put in or
entries taken out. So a dictionary is the one that its own list of entries gives.
-/

namespace Covenant.Dict

variable {κ α : Type} [Ord κ] {key : κ} {value : α} {entries : Dict κ α}

/-- The keys go up. -/
def Ascending (entries : Dict κ α) : Prop :=
  entries.keys.Pairwise fun a b => compare a b = .lt

/-- A key that is put in joins those that were there before. -/
theorem mem_insertKey [Std.LawfulEqOrd κ] {other : κ} {keys : List κ} :
    other ∈ insertKey key keys ↔ other = key ∨ other ∈ keys := by
  induction keys with
  | nil => exact List.mem_singleton.trans (or_iff_left List.not_mem_nil).symm
  | cons k rest ih =>
    cases horder : compare key k with
    | lt => rw [insertKey, horder, List.mem_cons]
    | eq =>
      obtain rfl := Std.LawfulEqOrd.eq_of_compare horder
      rw [insertKey, horder, List.mem_cons, or_self_left]
    | gt => rw [insertKey, horder, List.mem_cons, List.mem_cons, ih, or_left_comm]

/-- Sorted keys stay so with one more. -/
theorem pairwise_insertKey [Std.TransOrd κ] [Std.LawfulEqOrd κ] {keys : List κ}
    (h : keys.Pairwise fun a b => compare a b = .lt) (key : κ) :
    (insertKey key keys).Pairwise fun a b => compare a b = .lt := by
  induction keys with
  | nil => exact List.pairwise_singleton _ _
  | cons k rest ih =>
    obtain ⟨hk, hrest⟩ := List.pairwise_cons.mp h
    cases horder : compare key k with
    | lt =>
      rw [insertKey, horder]
      refine List.pairwise_cons.mpr ⟨List.forall_mem_cons.mpr ⟨horder, fun b hb => ?_⟩, h⟩
      exact Std.TransCmp.lt_trans horder (hk b hb)
    | eq =>
      rw [insertKey, horder]
      exact h
    | gt =>
      rw [insertKey, horder]
      refine List.pairwise_cons.mpr ⟨fun b hb => ?_, ih hrest⟩
      rcases mem_insertKey.mp hb with rfl | hb
      · exact Std.OrientedCmp.lt_of_gt horder
      · exact hk b hb

/-- The value that is put in last counts. -/
theorem insert_insert [Std.ReflOrd κ] (key : κ) (value other : α) (entries : Dict κ α) :
    insert key value (insert key other entries) = insert key value entries := by
  induction entries with
  | nil => simp [insert]
  | cons entry rest ih =>
    obtain ⟨k, v⟩ := entry
    cases horder : compare key k with
    | lt => simp [insert, horder]
    | eq => simp [insert, horder]
    | gt => simp [insert, horder, ih]

/-- A key above all others comes last. -/
theorem insert_of_lt [Std.OrientedOrd κ] (h : ∀ k ∈ entries.keys, compare k key = .lt) :
    insert key value entries = entries ++ [(key, value)] := by
  induction entries with
  | nil => rfl
  | cons entry rest ih =>
    obtain ⟨k, v⟩ := entry
    have hgt : compare key k = .gt := Std.OrientedCmp.gt_of_lt (h k List.mem_cons_self)
    simp only [insert, hgt]
    rw [ih fun k' hk' => h k' (List.mem_cons_of_mem _ hk'), List.cons_append]

/-- An entry is the one that was put in, or was there before. -/
theorem mem_insert {entry : κ × α} (h : entry ∈ insert key value entries) :
    entry = (key, value) ∨ entry ∈ entries := by
  induction entries with
  | nil => exact .inl (List.mem_singleton.mp h)
  | cons other rest ih =>
    obtain ⟨k, v⟩ := other
    cases horder : compare key k with
    | lt =>
      simp only [insert, horder] at h
      exact List.mem_cons.mp h
    | eq =>
      simp only [insert, horder] at h
      exact (List.mem_cons.mp h).imp_right (List.mem_cons_of_mem _)
    | gt =>
      simp only [insert, horder] at h
      rcases List.mem_cons.mp h with rfl | h
      · exact .inr List.mem_cons_self
      · exact (ih h).imp_right (List.mem_cons_of_mem _)

theorem mem_insertAll {entry : κ × α} {new : List (κ × α)} (h : entry ∈ insertAll new entries) :
    entry ∈ new ∨ entry ∈ entries := by
  unfold insertAll at h
  induction new generalizing entries with
  | nil => exact .inr h
  | cons first rest ih =>
    rcases ih h with hrest | hinserted
    · exact .inl (List.mem_cons_of_mem _ hrest)
    · rcases mem_insert hinserted with rfl | hentry
      · exact .inl List.mem_cons_self
      · exact .inr hentry

theorem mem_keys_insert {k : κ} (h : k ∈ (insert key value entries).keys) :
    k = key ∨ k ∈ entries.keys := by
  obtain ⟨entry, hentry, rfl⟩ := List.mem_map.mp h
  rcases mem_insert hentry with rfl | hentry
  · exact .inl rfl
  · exact .inr (List.mem_map_of_mem hentry)

theorem ascending_nil : Ascending ([] : Dict κ α) :=
  List.Pairwise.nil

/-- A value that is put in has its place among the others. -/
theorem Ascending.insert [Std.TransOrd κ] [Std.LawfulEqOrd κ] (h : Ascending entries) (key : κ)
    (value : α) : Ascending (insert key value entries) := by
  induction entries with
  | nil => exact List.pairwise_singleton _ _
  | cons entry rest ih =>
    obtain ⟨k, v⟩ := entry
    obtain ⟨hbelow, hrest⟩ := List.pairwise_cons.mp h
    unfold Ascending
    cases horder : compare key k with
    | lt =>
      simp only [Dict.insert, horder]
      refine List.pairwise_cons.mpr ⟨fun other hother => ?_, h⟩
      rcases List.mem_cons.mp hother with rfl | hother
      · exact horder
      · exact Std.TransCmp.lt_trans horder (hbelow other hother)
    | eq =>
      obtain rfl := Std.LawfulEqOrd.eq_of_compare horder
      simp only [Dict.insert, horder]
      exact h
    | gt =>
      simp only [Dict.insert, horder]
      refine List.pairwise_cons.mpr ⟨fun other hother => ?_, ih hrest⟩
      rcases mem_keys_insert hother with rfl | hother
      · exact Std.OrientedCmp.lt_of_gt horder
      · exact hbelow other hother

theorem Ascending.insertAll [Std.TransOrd κ] [Std.LawfulEqOrd κ] (h : Ascending entries)
    (new : List (κ × α)) : Ascending (insertAll new entries) := by
  unfold Dict.insertAll
  induction new generalizing entries with
  | nil => exact h
  | cons entry rest ih => exact ih (h.insert entry.1 entry.2)

/-- Entries with the keys of a dictionary, in the same order, are one. -/
theorem Ascending.of_keys {β : Type} {others : List (κ × β)} (h : Ascending entries)
    (hkeys : keys others = keys entries) : Ascending others := by
  unfold Ascending
  rw [hkeys]
  exact h

theorem Ascending.filter (h : Ascending entries) (p : κ × α → Bool) :
    Ascending (entries.filter p) :=
  List.Pairwise.sublist (List.filter_sublist.map Prod.fst) h

/-- Entries that come in the order of their keys, and behind all others, are put in as they are. -/
theorem insertAll_of_ascending [Std.OrientedOrd κ] {new : List (κ × α)}
    (h : Ascending (entries ++ new)) : insertAll new entries = entries ++ new := by
  unfold insertAll
  induction new generalizing entries with
  | nil => exact (List.append_nil entries).symm
  | cons entry rest ih =>
    have hlt : ∀ k ∈ entries.keys, compare k entry.1 = .lt := by
      intro k hk
      unfold Ascending keys at h
      rw [List.map_append] at h
      exact (List.pairwise_append.mp h).2.2 k hk entry.1 List.mem_cons_self
    rw [List.foldl_cons, insert_of_lt hlt, ih (by rwa [List.append_assoc]), List.append_assoc]
    rfl

/-- The dictionary of entries in order is the list of them. -/
theorem ofList_of_ascending [Std.OrientedOrd κ] (h : Ascending entries) : ofList entries = entries :=
  insertAll_of_ascending h

omit [Ord κ] in
/-- A value that is taken out is not found, and nothing changes under other keys. -/
theorem find?_erase [DecidableEq κ] (key other : κ) (entries : Dict κ α) :
    find? other (erase key entries) = if key = other then none else find? other entries := by
  induction entries with
  | nil => simp [erase, find?]
  | cons entry rest ih =>
    obtain ⟨k, v⟩ := entry
    unfold erase at ih ⊢
    by_cases hk : k = key
    · subst hk
      rw [List.filter_cons_of_neg (by simp), ih]
      by_cases hother : k = other
      · simp [hother]
      · simp [find?, hother]
    · rw [List.filter_cons_of_pos (by simpa using hk), find?, find?, ih]
      by_cases hother : k = other
      · subst hother
        simp [Ne.symm hk]
      · simp [hother]

omit [Ord κ] in
/-- What is found is one of the entries. -/
theorem mem_of_find? [DecidableEq κ] (h : find? key entries = some value) :
    (key, value) ∈ entries := by
  induction entries with
  | nil => cases h
  | cons entry rest ih =>
    obtain ⟨k, v⟩ := entry
    unfold find? at h
    split at h
    next hk =>
      obtain rfl := hk
      obtain rfl := Option.some.inj h
      exact List.mem_cons_self
    next => exact List.mem_cons_of_mem _ (ih h)

end Covenant.Dict
