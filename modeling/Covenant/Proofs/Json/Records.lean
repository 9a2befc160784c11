import Covenant.Proofs.Dict
import Covenant.Proofs.Json.RoundTrip
import Covenant.Proofs.Result
import Covenant.Proofs.Text.Hex
import Covenant.Transaction
import Mathlib.Data.List.Nodup

/-!
# Records as JSON objects

A record is written as an object with all of its fields, each under a key of its own. Such an object is
collected if every field accepts what stands under its key, and what is collected is what stands there.
What integers, texts, bytes, hashes and options are written as is read back.
-/

namespace Covenant

namespace Json

variable {α : Type} {fields : List Field} {field : Field} {members : List (String × Json)}
  {found all : Assoc String Json} {name : String} {read : Reader α} {a : α} {j : Json}

/-- What is decoded from a written tree is what is read of the tree. -/
theorem decode_render (h : j.IsPlain) : decode read j.render = read j := by
  rw [decode, readValue_render h]
  dsimp only
  cases read j <;> rfl

/-! ## Members of an object -/

/-- There is one member for each field, in order, and the field accepts it. -/
def Fits (fields : List Field) (members : List (String × Json)) : Prop :=
  List.Forall₂ (fun field member => member.1 = field.name ∧ field.check member.2 = .ok ()) fields
    members

namespace Fits

theorem nil : Fits [] [] :=
  List.Forall₂.nil

/-- A field that must be there accepts what is read. -/
theorem needed (h : read j = .ok a) (hrest : Fits fields members) :
    Fits (.needed name read :: fields) ((name, j) :: members) :=
  .cons ⟨rfl, map_eq_ok.mpr ⟨a, h, rfl⟩⟩ hrest

theorem maybe {o : Option α} (h : readOption read j = .ok o) (hrest : Fits fields members) :
    Fits (.maybe name read :: fields) ((name, j) :: members) :=
  .cons ⟨rfl, map_eq_ok.mpr ⟨o, h, rfl⟩⟩ hrest

theorem defaulted (h : read j = .ok a) (hrest : Fits fields members) :
    Fits (.defaulted name read :: fields) ((name, j) :: members) :=
  .cons ⟨rfl, map_eq_ok.mpr ⟨a, h, rfl⟩⟩ hrest

end Fits

/-- A field is found by its name if no field before it has that name. -/
theorem find?_field {before rest : List Field} (h : field.name ∉ before.map Field.name) :
    (before ++ field :: rest).find? (·.name == field.name) = some field := by
  have hnone : before.find? (·.name == field.name) = none := by
    rw [List.find?_eq_none]
    intro other hother heq
    exact h (List.mem_map.mpr ⟨other, hother, eq_of_beq heq⟩)
  rw [List.find?_append, hnone, List.find?_cons]
  simp

/-- A key that is none of the members' has no value. -/
theorem find?_eq_none_of_notMem (h : name ∉ found.map Prod.fst) : Assoc.find? name found = none := by
  cases hfind : Assoc.find? name found with
  | none => rfl
  | some j => exact absurd (Dict.mem_keys_of_find? hfind) h

/-- Members that fit the fields that are left are collected behind those that have been. -/
theorem collectMembers_of_fits {before rest : List Field}
    (hnames : ((before ++ rest).map Field.name).Nodup)
    (hfound : found.map Prod.fst = before.map Field.name) (hfits : Fits rest members) :
    collectMembers (before ++ rest) found members = .ok (found ++ members) := by
  induction hfits generalizing before found with
  | nil => rw [collectMembers, List.append_nil]
  | @cons field member rest members hmember _ ih =>
    obtain ⟨key, j⟩ := member
    obtain ⟨hkey, hcheck⟩ := hmember
    obtain rfl : key = field.name := hkey
    have hnew : field.name ∉ before.map Field.name := by
      rw [List.map_append, List.map_cons] at hnames
      exact fun hmem => List.disjoint_of_nodup_append hnames hmem List.mem_cons_self
    have hnone : Assoc.find? field.name found = none :=
      find?_eq_none_of_notMem (by rwa [hfound])
    have hrest : collectMembers (before ++ [field] ++ rest) (found ++ [(field.name, j)]) members =
        .ok (found ++ [(field.name, j)] ++ members) :=
      ih (by simpa using hnames) (by simp [hfound])
    rw [List.append_assoc, List.singleton_append, List.append_assoc, List.singleton_append] at hrest
    rw [collectMembers, find?_field hnew]
    simp only [hnone, Option.isSome_none, Bool.false_eq_true, if_false, hcheck]
    exact hrest

/-- An object that fits a record is collected as it is. -/
theorem collect_of_fits (hnames : (fields.map Field.name).Nodup) (hfits : Fits fields members) :
    collect fields (.object members) = .ok members := by
  have hcollected : collectMembers ([] ++ fields) [] members = .ok ([] ++ members) :=
    collectMembers_of_fits hnames rfl hfits
  have hkeys : Dict.keys members = fields.map Field.name := by
    refine List.forall₂_eq_eq_eq ▸ ?_
    rw [Dict.keys, List.forall₂_map_left_iff, List.forall₂_map_right_iff]
    exact hfits.flip.imp fun _ _ h => h.1
  have hthere : fields.all (fun field => field.absence != .refused ||
      (Assoc.find? field.name members).isSome) = true := by
    rw [List.all_eq_true]
    intro field hfield
    obtain ⟨j, hj⟩ := Dict.exists_find?_of_mem_keys (hkeys ▸ List.mem_map_of_mem hfield)
    rw [Assoc.find?, hj, Option.isSome_some, Bool.or_true]
  rw [collect, show collectMembers fields [] members = _ from hcollected]
  simp only [List.nil_append, hthere, if_true]

/-- Nothing is collected that is not a member. -/
theorem mem_of_collectMembers (h : collectMembers fields found members = .ok all)
    (hmem : (name, j) ∈ all) : (name, j) ∈ found ∨ (name, j) ∈ members := by
  induction members generalizing found with
  | nil =>
    obtain rfl : found = all := Except.ok.inj h
    exact .inl hmem
  | cons member rest ih =>
    obtain ⟨key, value⟩ := member
    rw [collectMembers] at h
    split at h
    next field _ =>
      split at h
      next => cases h
      next =>
        split at h
        next => cases h
        next =>
          rcases ih h with hfound | hrest
          · rcases List.mem_append.mp hfound with hfound | hnew
            · exact .inl hfound
            · exact .inr (List.mem_singleton.mp hnew ▸ List.mem_cons_self)
          · exact .inr (List.mem_cons_of_mem _ hrest)
    next =>
      split at h
      next => exact (ih h).imp_right (List.mem_cons_of_mem _)
      next => cases h

/-- What is read of a collected object is read of one of its members. -/
theorem exists_member_of_fieldOf (h : collect fields (.object members) = .ok found)
    (hread : fieldOf found name read = .ok a) : ∃ j, (name, j) ∈ members ∧ read j = .ok a := by
  unfold fieldOf at hread
  split at hread
  next j hj =>
    rw [collect] at h
    split at h
    next => cases h
    next hcollected =>
      split at h
      next =>
        obtain rfl := Except.ok.inj h
        exact ⟨j, (mem_of_collectMembers hcollected (Dict.mem_of_find? hj)).resolve_left nofun, hread⟩
      next => cases h
  next => cases hread

/-! ## Values of fields -/

theorem readInt_int {n : Int} (h : Quantity.InRange n) : readInt (.int n) = .ok n :=
  if_pos h

theorem readHex_hexOfBytes (bytes : List UInt8) :
    readHex (.string (Text.hexOfBytes bytes)) = .ok bytes := by
  rw [readHex, Text.bytesOfHex_hexOfBytes]

/-- An option is plain if what it holds is. -/
theorem ofOption_isPlain {write : α → Json} {o : Option α} (h : ∀ a ∈ o, (write a).IsPlain) :
    (ofOption write o).IsPlain := by
  cases o with
  | none => trivial
  | some a => exact h a rfl

/-- What may be null is read back if it is not written as null itself. -/
theorem readOption_ofOption {write : α → Json} (hne : ∀ a, write a ≠ .null) {o : Option α}
    (h : ∀ a ∈ o, read (write a) = .ok a) : readOption read (ofOption write o) = .ok o := by
  cases o with
  | none => rfl
  | some a =>
    unfold ofOption readOption
    split
    next hnull => exact absurd hnull (hne a)
    next => rw [h a rfl]; rfl

end Json

namespace Hash

theorem readByte_nat (b : UInt8) : Json.readByte (.nat b.toNat) = .ok b := by
  have hlt : b.toNat < 256 := b.toNat_lt
  have hrange : (0 : Int) ≤ (b.toNat : Int) ∧ (b.toNat : Int) ≤ 255 := by omega
  rw [Json.readByte, Json.nat, Json.readBetween, if_pos hrange]
  change Except.ok (UInt8.ofNat (b.toNat : Int).toNat) = _
  rw [Int.toNat_natCast, UInt8.ofNat_toNat]

theorem readBytes_nat (bytes : List UInt8) :
    readBytes bytes.length (bytes.map fun b => .nat b.toNat) = .ok bytes := by
  induction bytes with
  | nil => rfl
  | cons b rest ih =>
    rw [List.length_cons, List.map_cons, readBytes, readByte_nat, ok_bind, ih]
    rfl

theorem read_toJson (hash : Hash) : read hash.toJson = .ok hash := by
  obtain ⟨bytes, hlength⟩ := hash
  have hbytes := readBytes_nat bytes
  rw [hlength] at hbytes
  rw [toJson, read, hbytes, ok_bind, ofBytes?, dif_pos hlength]

end Hash

end Covenant
