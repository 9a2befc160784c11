import Covenant.Proofs.Json.Records
import Covenant.Proofs.Value

/-!
# Values that come back from their JSON forms

The JSON form does not mark the kinds of values, and lists and bytes are written alike: a list of
numbers from 0 to 255 is read as bytes, and so is the empty list. A value therefore comes back if and
only if there is no such list in it at any depth and it does not nest too deep to be read. A row comes
back if its cells do.
-/

namespace Covenant

namespace Value

/-! ## Lists that are taken for bytes -/

/-- The value is written like a byte. -/
def IsByte : Value → Prop
  | .int n => 0 ≤ n ∧ n ≤ 255
  | _ => False

mutual

/-- No list in the value is taken for bytes: at every depth, each of them has an item that is not
written like a byte. -/
def IsUnmistakable : Value → Prop
  | .null | .bool _ | .int _ | .text _ | .bytes _ => True
  | .list items => (∃ item ∈ items, ¬ item.IsByte) ∧ AreUnmistakable items
  | .map entries => EntriesUnmistakable entries

/-- All items are unmistakable. -/
def AreUnmistakable : List Value → Prop
  | [] => True
  | v :: rest => IsUnmistakable v ∧ AreUnmistakable rest

/-- The values of all entries are unmistakable. -/
def EntriesUnmistakable : List (String × Value) → Prop
  | [] => True
  | (_, v) :: rest => IsUnmistakable v ∧ EntriesUnmistakable rest

end

variable {v : Value} {items : List Value} {row : Row}

theorem isSome_byte?_toJson (v : Value) : (byte? v.toJson).isSome = true ↔ v.IsByte := by
  cases v with
  | int n =>
    change (if 0 ≤ n ∧ n ≤ 255 then some (UInt8.ofNat n.toNat) else none).isSome = true ↔ _
    split
    next h => exact iff_of_true rfl h
    next h => exact iff_of_false nofun h
  | _ => exact iff_of_false nofun id

/-- A list is not taken for bytes if and only if one of its items is not written like a byte. -/
theorem mapM_byte?_toJsonList_eq_none :
    (toJsonList items).mapM byte? = none ↔ ∃ item ∈ items, ¬ item.IsByte := by
  induction items with
  | nil => exact iff_of_false nofun nofun
  | cons v rest ih =>
    rw [toJsonList, List.mapM_cons, List.exists_mem_cons_iff, ← ih, ← isSome_byte?_toJson]
    cases byte? v.toJson with
    | none => simp
    | some b => cases (toJsonList rest).mapM byte? <;> simp

mutual

/-- The JSON form of a value stands for the value itself if and only if no list in it is taken for
bytes. -/
theorem ofJson?_toJson_iff : ∀ {v : Value}, v.IsProper →
    (ofJson? v.toJson = some v ↔ v.IsUnmistakable)
  | .null, _ | .bool _, _ | .text _, _ => iff_of_true rfl trivial
  | .int _, h => iff_of_true (if_pos h) trivial
  | .bytes raw, _ => by
    refine iff_of_true ?_ trivial
    change ofJson? (.array (byteItems raw)) = _
    rw [ofJson?, mapM_byte?_byteItems]
  | .list items, h => by
    rw [toJson, ofJson?, IsUnmistakable, ← mapM_byte?_toJsonList_eq_none,
      ← ofJsonList?_toJsonList_iff h]
    cases (toJsonList items).mapM byte? with
    | some raw => simp
    | none => simp
  | .map entries, h => by
    obtain ⟨entries', hread, hsame⟩ := ofJsonEntries?_toJsonEntries h.2
    rw [toJson, ofJson?, IsUnmistakable, ← ofJsonEntries?_toJsonEntries_iff h.2, hread,
      Option.map_some, Dict.ofList_of_ascending (h.1.of_keys (keys_of_toJsonEntries hsame))]
    simp

theorem ofJsonList?_toJsonList_iff : ∀ {items : List Value}, AreProper items →
    (ofJsonList? (toJsonList items) = some items ↔ AreUnmistakable items)
  | [], _ => iff_of_true rfl trivial
  | v :: rest, h => by
    obtain ⟨v', hv, -⟩ := ofJson?_toJson h.1
    obtain ⟨rest', hrest, -⟩ := ofJsonList?_toJsonList h.2
    rw [AreUnmistakable, ← ofJson?_toJson_iff h.1, ← ofJsonList?_toJsonList_iff h.2, toJsonList,
      ofJsonList?, hv, hrest]
    simp

theorem ofJsonEntries?_toJsonEntries_iff : ∀ {entries : List (String × Value)},
    EntriesProper entries →
    (ofJsonEntries? (toJsonEntries entries) = some entries ↔ EntriesUnmistakable entries)
  | [], _ => iff_of_true rfl trivial
  | (key, v) :: rest, h => by
    obtain ⟨v', hv, -⟩ := ofJson?_toJson h.1
    obtain ⟨rest', hrest, -⟩ := ofJsonEntries?_toJsonEntries h.2
    rw [EntriesUnmistakable, ← ofJson?_toJson_iff h.1, ← ofJsonEntries?_toJsonEntries_iff h.2,
      toJsonEntries, ofJsonEntries?, hv, hrest]
    simp

end

/-- The value comes back from its text inside so many lists and objects. -/
def Returns (outer : Nat) (v : Value) : Prop :=
  v.nesting ≤ nestingLimit - outer ∧ v.IsUnmistakable

/-- A value is read back if and only if its text is not too deep and no list in it is taken for
bytes. -/
theorem read_toJson_iff (h : v.IsProper) (outer : Nat) :
    read outer v.toJson = .ok v ↔ v.Returns outer := by
  obtain ⟨v', hread, -⟩ := ofJson?_toJson h
  rw [Returns, ← isReadable_toJson h, ← ofJson?_toJson_iff h, read, hread]
  cases isReadable (nestingLimit - outer) v.toJson <;> simp

theorem ofJsonText_jsonText_iff (h : v.IsProper) :
    ofJsonText v.jsonText = .ok v ↔ v.Returns 0 := by
  rw [ofJsonText, jsonText, Json.decode_render (toJson_isPlain h), read_toJson_iff h]

/-! ## Rows -/

/-- An entry of an object, with its value read. -/
def readEntry (outer : Nat) (entry : String × Json) : Except Misfit (String × Value) :=
  (read outer entry.2).map fun v => (entry.1, v)

theorem keys_mapM_readEntry {outer : Nat} {members : List (String × Json)}
    {entries : List (String × Value)} (h : members.mapM (readEntry outer) = .ok entries) :
    Dict.keys entries = members.map Prod.fst := by
  induction members generalizing entries with
  | nil =>
    obtain rfl : [] = entries := Except.ok.inj h
    rfl
  | cons member rest ih =>
    rw [List.mapM_cons] at h
    obtain ⟨entry, hentry, h⟩ := bind_eq_ok.mp h
    obtain ⟨more, hmore, h⟩ := bind_eq_ok.mp h
    obtain ⟨v, -, rfl⟩ := map_eq_ok.mp hentry
    obtain rfl : (member.1, v) :: more = entries := Except.ok.inj h
    exact congrArg (member.1 :: ·) (ih hmore)

theorem mapM_readEntry_iff {outer : Nat} {entries : List (String × Value)} :
    (toJsonEntries entries).mapM (readEntry outer) = .ok entries ↔
      ∀ entry ∈ entries, read outer entry.2.toJson = .ok entry.2 := by
  induction entries with
  | nil => exact iff_of_true rfl nofun
  | cons entry rest ih =>
    obtain ⟨key, v⟩ := entry
    rw [toJsonEntries, List.mapM_cons, List.forall_mem_cons, ← ih, readEntry]
    cases read outer v.toJson with
    | error misfit => exact iff_of_false nofun nofun
    | ok v' =>
      rw [Except.map, ok_bind]
      cases (toJsonEntries rest).mapM (readEntry outer) with
      | error misfit => exact iff_of_false nofun nofun
      | ok rest' => simp [ok_bind, pure, Except.pure]

/-- A row is read back if and only if each of its cells is. -/
theorem readDict_toJson_iff (h : (Value.map row).IsProper) (outer : Nat) :
    Json.readDict (read outer) (Value.map row).toJson = .ok row ↔
      ∀ cell ∈ row, cell.2.Returns outer := by
  obtain ⟨hascending, hcells⟩ := map_isProper_iff.mp h
  have hread : (∀ cell ∈ row, cell.2.Returns outer) ↔
      (toJsonEntries row).mapM (readEntry outer) = .ok row := by
    rw [mapM_readEntry_iff]
    exact forall₂_congr fun cell hcell => (read_toJson_iff (hcells cell hcell) outer).symm
  rw [hread]
  change ((toJsonEntries row).mapM (readEntry outer)).map Dict.ofList = .ok row ↔ _
  cases hentries : (toJsonEntries row).mapM (readEntry outer) with
  | error misfit => exact iff_of_false nofun nofun
  | ok entries =>
    have hkeys : Dict.keys entries = Dict.keys row := by
      rw [keys_mapM_readEntry hentries, keys_toJsonEntries]
    rw [Except.map, Dict.ofList_of_ascending (hascending.of_keys hkeys)]

end Value

end Covenant
