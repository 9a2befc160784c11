import Covenant.Proofs.Dict
import Covenant.Proofs.Json.RoundTrip
import Covenant.Value

/-!
# Values as JSON texts

A value is written as a JSON text, and a text is read back as a value, but for two things. The kinds
of values are not marked, so a list of small quantities comes back as bytes; what comes back has the
same JSON form. And the reader gives up where a text nests lists and objects too deep, which the
writer does not mind.
-/

namespace Covenant

namespace Binary64

theorem scaleFor_le (num den : Nat) : scaleFor num den ≤ Nat.log2 num - Nat.log2 den - 53 + 2 := by
  unfold scaleFor
  dsimp only
  split
  · omega
  · split <;> omega

theorem log2_mul_pow_lt {n bits : Nat} (h : n < Nat.pow 2 bits) (hbits : 0 < bits) (k : Nat) :
    Nat.log2 (n * Nat.pow 2 k) < bits + k := by
  have hpow : 0 < Nat.pow 2 k := Nat.pow_pos (by decide)
  rcases Nat.eq_zero_or_pos n with rfl | hpos
  · rw [Nat.zero_mul]
    exact Nat.add_pos_left hbits k
  · refine (Nat.log2_lt (Nat.ne_of_gt (Nat.mul_pos hpos hpow))).mpr ?_
    rw [Nat.pow_add]
    exact Nat.mul_lt_mul_of_pos_right h hpow

/-- A number of 64 bits is not too large for a floating-point number. -/
theorem ofNat?_isSome {n : Nat} (h : n < 18446744073709551616) : (ofNat? n).isSome = true := by
  have hbits : n < Nat.pow 2 64 := h
  have hscale : ∀ k, scaleFor (n * Nat.pow 2 k) 1 < k + 14 := by
    intro k
    have hle := scaleFor_le (n * Nat.pow 2 k) 1
    have hlog := log2_mul_pow_lt hbits (by decide) k
    omega
  have hrounded : ∀ scale mantissa : Nat, scale < 1088 → (if (mantissa == Nat.pow 2 53) = true then
      (⟨Nat.pow 2 52, scale + 1⟩ : Binary64) else ⟨mantissa, scale⟩).scale ≤ 2045 := by
    intro scale mantissa hscale
    split
    · exact Nat.le_trans (Nat.succ_le_of_lt hscale) (by decide)
    · exact Nat.le_trans (Nat.le_of_lt hscale) (by decide)
  rw [ofNat?, ofRatio?, if_pos (hrounded _ _ (hscale 1074))]
  rfl

end Binary64

theorem Numeral.magnitude?_isSome {n : Int} (h : Json.IsWord n) :
    (Numeral.integer n).magnitude?.isSome = true := by
  refine Binary64.ofNat?_isSome ?_
  obtain ⟨hlow, hhigh⟩ := h
  omega

namespace Value

/-! ## Values as they occur -/

mutual

/-- The quantities in the value are in range, and its maps are in order. -/
def IsProper : Value → Prop
  | .null | .bool _ | .text _ | .bytes _ => True
  | .int n => Quantity.InRange n
  | .list items => AreProper items
  | .map entries => Dict.Ascending entries ∧ EntriesProper entries

/-- All items are proper. -/
def AreProper : List Value → Prop
  | [] => True
  | v :: rest => IsProper v ∧ AreProper rest

/-- The values of all entries are proper. -/
def EntriesProper : List (String × Value) → Prop
  | [] => True
  | (_, v) :: rest => IsProper v ∧ EntriesProper rest

end

mutual

/-- How deep the JSON form of the value nests lists and objects. -/
def nesting : Value → Nat
  | .null | .bool _ | .int _ | .text _ => 0
  | .bytes _ => 1
  | .list items => itemsNesting items + 1
  | .map entries => entriesNesting entries + 1

/-- How deep the deepest item nests. -/
def itemsNesting : List Value → Nat
  | [] => 0
  | v :: rest => max (nesting v) (itemsNesting rest)

/-- How deep the value of the deepest entry nests. -/
def entriesNesting : List (String × Value) → Nat
  | [] => 0
  | (_, v) :: rest => max (nesting v) (entriesNesting rest)

end

theorem entriesProper_iff {entries : List (String × Value)} :
    EntriesProper entries ↔ ∀ entry ∈ entries, entry.2.IsProper := by
  induction entries with
  | nil => simp [EntriesProper]
  | cons entry rest ih =>
    obtain ⟨key, v⟩ := entry
    simp [EntriesProper, ih]

theorem areProper_iff {items : List Value} : AreProper items ↔ ∀ v ∈ items, v.IsProper := by
  induction items with
  | nil => simp [AreProper]
  | cons v rest ih => simp [AreProper, ih]

section Rows

variable {row : Row}

theorem map_isProper_iff :
    (Value.map row).IsProper ↔ Dict.Ascending row ∧ ∀ cell ∈ row, cell.2.IsProper := by
  rw [IsProper, entriesProper_iff]

/-- Cells that are put over those of a row leave it proper. -/
theorem map_insertAll_isProper (h : (Value.map row).IsProper) {cells : List (String × Value)}
    (hcells : ∀ cell ∈ cells, cell.2.IsProper) : (Value.map (Dict.insertAll cells row)).IsProper := by
  obtain ⟨hascending, hrow⟩ := map_isProper_iff.mp h
  refine map_isProper_iff.mpr ⟨hascending.insertAll cells, fun cell hcell => ?_⟩
  rcases Dict.mem_insertAll hcell with hcell | hcell
  · exact hcells cell hcell
  · exact hrow cell hcell

theorem map_ofList_isProper {cells : List (String × Value)}
    (hcells : ∀ cell ∈ cells, cell.2.IsProper) : (Value.map (Dict.ofList cells)).IsProper :=
  map_insertAll_isProper ⟨Dict.ascending_nil, trivial⟩ hcells

/-- Some of the cells of a row are a row. -/
theorem map_filter_isProper (h : (Value.map row).IsProper) (p : String × Value → Bool) :
    (Value.map (row.filter p)).IsProper := by
  obtain ⟨hascending, hrow⟩ := map_isProper_iff.mp h
  exact map_isProper_iff.mpr ⟨hascending.filter p, fun cell hcell =>
    hrow cell (List.mem_filter.mp hcell).1⟩

end Rows

/-- A proper value counts as an integer only if that is in range. -/
theorem asInt?_inRange {v : Value} (h : v.IsProper) {n : Int} (hint : v.asInt? = some n) :
    Quantity.InRange n := by
  cases v with
  | int m =>
    obtain rfl := Option.some.inj hint
    exact h
  | text s =>
    change (Text.readSigned? (Text.trim s.toList)).filter _ = some n at hint
    exact of_decide_eq_true (Option.filter_eq_some_iff.mp hint).2
  | bool b =>
    obtain rfl := Option.some.inj hint
    cases b <;> decide
  | _ => cases hint

/-- The keys of an object are those of the map that it stands for. -/
theorem keys_toJsonEntries (entries : List (String × Value)) :
    (toJsonEntries entries).map Prod.fst = Dict.keys entries := by
  induction entries with
  | nil => rfl
  | cons entry rest ih => exact congrArg (entry.1 :: ·) ih

theorem keys_of_toJsonEntries {entries others : List (String × Value)}
    (h : toJsonEntries others = toJsonEntries entries) : Dict.keys others = Dict.keys entries := by
  rw [← keys_toJsonEntries, h, keys_toJsonEntries]

/-! ## Bytes -/

/-- The items of the list that bytes are written as. -/
def byteItems (raw : List UInt8) : List Json :=
  raw.map fun b => Json.nat b.toNat

theorem byte?_nat (b : UInt8) : byte? (Json.nat b.toNat) = some b := by
  have hlt : b.toNat < 256 := b.toNat_lt
  have hrange : (0 : Int) ≤ (b.toNat : Int) ∧ (b.toNat : Int) ≤ 255 := by omega
  change (if (0 : Int) ≤ (b.toNat : Int) ∧ (b.toNat : Int) ≤ 255 then
    some (UInt8.ofNat (b.toNat : Int).toNat) else none) = _
  rw [if_pos hrange, Int.toNat_natCast, UInt8.ofNat_toNat]

/-- A byte is written as the numeral that it was read from. -/
theorem eq_nat_of_byte? {j : Json} {b : UInt8} (h : byte? j = some b) : j = Json.nat b.toNat := by
  cases j with
  | number n =>
    cases n with
    | integer n =>
      change (if 0 ≤ n ∧ n ≤ 255 then some (UInt8.ofNat n.toNat) else none) = some b at h
      split at h
      next hrange =>
        obtain rfl := Option.some.inj h
        have hvalue : (UInt8.ofNat n.toNat).toNat = n.toNat :=
          UInt8.toNat_ofNat_of_lt' (by change n.toNat < 256; omega)
        rw [hvalue, Json.nat, Int.toNat_of_nonneg hrange.1]
      next => cases h
    | decimal => cases h
  | _ => cases h

theorem mapM_byte?_byteItems (raw : List UInt8) : (byteItems raw).mapM byte? = some raw := by
  induction raw with
  | nil => rfl
  | cons b raw ih =>
    rw [byteItems, List.map_cons, List.mapM_cons, byte?_nat]
    change ((byteItems raw).mapM byte? >>= fun more => some (b :: more)) = _
    rw [ih]
    rfl

theorem eq_byteItems_of_mapM_byte? {items : List Json} {raw : List UInt8}
    (h : items.mapM byte? = some raw) : items = byteItems raw := by
  induction items generalizing raw with
  | nil =>
    obtain rfl : [] = raw := Option.some.inj h
    rfl
  | cons j items ih =>
    rw [List.mapM_cons] at h
    obtain ⟨b, hb, h⟩ := Option.bind_eq_some_iff.mp h
    obtain ⟨more, hmore, h⟩ := Option.bind_eq_some_iff.mp h
    obtain rfl : b :: more = raw := Option.some.inj h
    rw [eq_nat_of_byte? hb, ih hmore]
    rfl

theorem arePlain_byteItems (raw : List UInt8) : Json.ArePlain (byteItems raw) := by
  induction raw with
  | nil => trivial
  | cons b raw ih =>
    have hlt : b.toNat < 256 := b.toNat_lt
    exact ⟨⟨by omega, by omega⟩, ih⟩

theorem areReadable_of_byteItems (depth : Nat) (raw : List UInt8) :
    areReadable depth (byteItems raw) = true := by
  induction raw with
  | nil => rfl
  | cons b raw ih =>
    have hlt : b.toNat < 256 := b.toNat_lt
    change ((Numeral.integer (b.toNat : Int)).magnitude?.isSome && areReadable depth _) = true
    rw [Numeral.magnitude?_isSome ⟨by omega, by omega⟩, Bool.true_and]
    exact ih

/-! ## Writing and reading values -/

theorem isWord_of_inRange {n : Int} (h : Quantity.InRange n) : Json.IsWord n := by
  unfold Quantity.InRange Quantity.least Quantity.greatest at h
  unfold Json.IsWord
  omega

mutual

/-- The JSON form of a value can be written without loss. -/
theorem toJson_isPlain : ∀ {v : Value}, v.IsProper → v.toJson.IsPlain
  | .null, _ | .bool _, _ | .text _, _ => trivial
  | .int _, h => isWord_of_inRange h
  | .bytes raw, _ => arePlain_byteItems raw
  | .list _, h => toJsonList_arePlain h
  | .map _, h => toJsonEntries_membersPlain h.2

theorem toJsonList_arePlain : ∀ {items : List Value},
    AreProper items → Json.ArePlain (toJsonList items)
  | [], _ => trivial
  | _ :: _, h => ⟨toJson_isPlain h.1, toJsonList_arePlain h.2⟩

theorem toJsonEntries_membersPlain : ∀ {entries : List (String × Value)},
    EntriesProper entries → Json.MembersPlain (toJsonEntries entries)
  | [], _ => trivial
  | (_, _) :: _, h => ⟨toJson_isPlain h.1, toJsonEntries_membersPlain h.2⟩

end

theorem readable_succ_iff {depth nesting : Nat} {inner : Bool}
    (h : inner = true ↔ nesting ≤ depth - 1) :
    (depth != 0 && inner) = true ↔ nesting + 1 ≤ depth := by
  rw [Bool.and_eq_true, h, bne_iff_ne]
  omega

mutual

/-- The JSON form of a value is readable if it nests no deeper than is allowed. -/
theorem isReadable_toJson : ∀ {v : Value}, v.IsProper → ∀ depth : Nat,
    isReadable depth v.toJson = true ↔ v.nesting ≤ depth
  | .null, _, depth | .bool _, _, depth | .text _, _, depth =>
    iff_of_true rfl (Nat.zero_le depth)
  | .int _, h, depth =>
    iff_of_true (Numeral.magnitude?_isSome (isWord_of_inRange h)) (Nat.zero_le depth)
  | .bytes raw, _, _ =>
    readable_succ_iff (iff_of_true (areReadable_of_byteItems _ raw) (Nat.zero_le _))
  | .list _, h, _ => readable_succ_iff (areReadable_toJsonList h _)
  | .map _, h, _ => readable_succ_iff (membersReadable_toJsonEntries h.2 _)

theorem areReadable_toJsonList : ∀ {items : List Value}, AreProper items → ∀ depth : Nat,
    areReadable depth (toJsonList items) = true ↔ itemsNesting items ≤ depth
  | [], _, depth => iff_of_true rfl (Nat.zero_le depth)
  | v :: rest, h, depth => by
    rw [toJsonList, areReadable, Bool.and_eq_true, isReadable_toJson h.1,
      areReadable_toJsonList h.2, itemsNesting, Nat.max_le]

theorem membersReadable_toJsonEntries : ∀ {entries : List (String × Value)},
    EntriesProper entries → ∀ depth : Nat,
    membersReadable depth (toJsonEntries entries) = true ↔ entriesNesting entries ≤ depth
  | [], _, depth => iff_of_true rfl (Nat.zero_le depth)
  | (key, v) :: rest, h, depth => by
    rw [toJsonEntries, membersReadable, Bool.and_eq_true, isReadable_toJson h.1,
      membersReadable_toJsonEntries h.2, entriesNesting, Nat.max_le]

end

mutual

/-- The JSON form of a value stands for a value with the same JSON form. -/
theorem ofJson?_toJson : ∀ {v : Value}, v.IsProper →
    ∃ v', ofJson? v.toJson = some v' ∧ v'.toJson = v.toJson
  | .null, _ | .bool _, _ | .text _, _ => ⟨_, rfl, rfl⟩
  | .int n, h => ⟨.int n, if_pos h, rfl⟩
  | .bytes raw, _ => by
    refine ⟨.bytes raw, ?_, rfl⟩
    change ofJson? (.array (byteItems raw)) = _
    rw [ofJson?, mapM_byte?_byteItems]
  | .list items, h => by
    rw [toJson, ofJson?]
    cases hraw : (toJsonList items).mapM byte? with
    | some raw =>
      exact ⟨.bytes raw, rfl, congrArg Json.array (eq_byteItems_of_mapM_byte? hraw).symm⟩
    | none =>
      obtain ⟨items', hread, hsame⟩ := ofJsonList?_toJsonList h
      exact ⟨.list items', by rw [hread]; rfl, congrArg Json.array hsame⟩
  | .map entries, h => by
    obtain ⟨entries', hread, hsame⟩ := ofJsonEntries?_toJsonEntries h.2
    refine ⟨.map entries', ?_, congrArg Json.object hsame⟩
    rw [toJson, ofJson?, hread, Option.map_some,
      Dict.ofList_of_ascending (h.1.of_keys (keys_of_toJsonEntries hsame))]

theorem ofJsonList?_toJsonList : ∀ {items : List Value}, AreProper items →
    ∃ items', ofJsonList? (toJsonList items) = some items' ∧
      toJsonList items' = toJsonList items
  | [], _ => ⟨[], rfl, rfl⟩
  | v :: rest, h => by
    obtain ⟨v', hv, hsame⟩ := ofJson?_toJson h.1
    obtain ⟨rest', hrest, hmore⟩ := ofJsonList?_toJsonList h.2
    refine ⟨v' :: rest', ?_, ?_⟩
    · rw [toJsonList, ofJsonList?, hv, hrest]
    · rw [toJsonList, toJsonList, hsame, hmore]

theorem ofJsonEntries?_toJsonEntries : ∀ {entries : List (String × Value)},
    EntriesProper entries → ∃ entries', ofJsonEntries? (toJsonEntries entries) = some entries' ∧
      toJsonEntries entries' = toJsonEntries entries
  | [], _ => ⟨[], rfl, rfl⟩
  | (key, v) :: rest, h => by
    obtain ⟨v', hv, hsame⟩ := ofJson?_toJson h.1
    obtain ⟨rest', hrest, hmore⟩ := ofJsonEntries?_toJsonEntries h.2
    refine ⟨(key, v') :: rest', ?_, ?_⟩
    · rw [toJsonEntries, ofJsonEntries?, hv, hrest]
    · rw [toJsonEntries, toJsonEntries, hsame, hmore]

end

variable {v : Value}

/-- The text of a value that does not nest too deep stands for a value with the same JSON form. -/
theorem ofJsonText_jsonText (h : v.IsProper) (hnesting : v.nesting ≤ nestingLimit) :
    ∃ v', ofJsonText v.jsonText = .ok v' ∧ v'.toJson = v.toJson := by
  obtain ⟨v', hread, hsame⟩ := ofJson?_toJson h
  have hreadable := (isReadable_toJson h nestingLimit).mpr hnesting
  refine ⟨v', ?_, hsame⟩
  rw [ofJsonText, Json.decode, jsonText, Json.readValue_render (toJson_isPlain h)]
  simp only [read, Nat.sub_zero, hreadable, hread, Bool.not_true, Bool.false_eq_true, if_false]
  rfl

/-- The text of a value that nests too deep is refused. -/
theorem ofJsonText_jsonText_of_deep (h : v.IsProper) (hnesting : nestingLimit < v.nesting) :
    ofJsonText v.jsonText = .error .syntaxFault := by
  have hunreadable : isReadable nestingLimit v.toJson = false := by
    rw [← Bool.not_eq_true, isReadable_toJson h]
    exact Nat.not_le.mpr hnesting
  rw [ofJsonText, Json.decode, jsonText, Json.readValue_render (toJson_isPlain h)]
  simp only [read, Nat.sub_zero, hunreadable, Bool.not_false, if_true]

/-- The text of a row stands for a row with the same JSON form, if the row does not nest too deep. -/
theorem ofJsonText_row {row : Row} (h : (Value.map row).IsProper)
    (hnesting : (Value.map row).nesting ≤ nestingLimit) :
    ∃ cells : Row, ofJsonText (Value.map row).jsonText = .ok (.map cells) ∧
      (Value.map cells).jsonText = (Value.map row).jsonText := by
  obtain ⟨v', hread, hsame⟩ := ofJsonText_jsonText h hnesting
  cases v' with
  | map cells => exact ⟨cells, hread, congrArg Json.render hsame⟩
  | _ => cases hsame

/-- The text of a row is not empty. -/
theorem jsonText_row_ne_empty (row : Row) : (Value.map row).jsonText ≠ "" := by
  intro h
  have hchars := congrArg String.toList h
  rw [jsonText, Json.render, String.toList_ofList] at hchars
  cases hchars

end Value

end Covenant
