import Covenant.Dict
import Covenant.Error.Execution
import Covenant.Proofs.Json.RoundTrip

/-!
# What clients see of errors

Clients get a JSON object for an error of a run: the words of the error if these are one already, and
otherwise an object that holds the words. Whether the words are an object is told from their first
character alone, so this is right exactly where the words begin with a brace if and only if they are an
object. Only contract code, and the name of a table, can put anything but a letter first.
-/

namespace Covenant

namespace Json

variable {fuel : Nat} {text rest : List Char} {entries : List (String × Json)}

/-! ## Objects as texts -/

/-- The value is an object. -/
def isObject : Json → Bool
  | .object _ => true
  | _ => false

/-- The text is that of a JSON object. -/
def IsObjectText (text : String) : Prop :=
  ∃ members, parse? text = some (.object members)

theorem isObjectText_iff {text : String} :
    IsObjectText text ↔ (parse? text).any isObject = true := by
  rw [Option.any_eq_true]
  constructor
  · rintro ⟨members, h⟩
    exact ⟨_, h, rfl⟩
  · rintro ⟨j, hparse, hj⟩
    cases j with
    | object members => exact ⟨members, hparse⟩
    | _ => cases hj

instance (text : String) : Decidable (IsObjectText text) :=
  decidable_of_iff _ isObjectText_iff.symm

/-- A written tree is the value of its text, which holds nothing else. -/
theorem parse?_render {j : Json} (h : IsPlain j) : parse? (render j) = some j := by
  rw [parse?, readValue_render h]
  rfl

private theorem leaf_ne_object {α : Type} {f : α → Json} {read : Except JsonFailure (α × List Char)}
    (hf : ∀ a, f a ≠ .object entries) : leaf f read ≠ (.object entries, some rest) := by
  cases read with
  | error failure => simp [leaf]
  | ok read => exact fun h => hf _ (Prod.mk.inj h).1

private theorem wordLeaf_ne_object {j : Json} {read : Except JsonFailure (List Char)}
    (hj : j ≠ .object entries) : wordLeaf j read ≠ (.object entries, some rest) := by
  cases read with
  | error failure => simp [wordLeaf]
  | ok read => exact fun h => hj (Prod.mk.inj h).1

/-- Only what begins with a brace is read as an object. -/
theorem head?_of_value (h : value fuel text = (.object entries, some rest)) :
    (skipSpace text).head? = some '\x7b' := by
  cases fuel with
  | zero => cases h
  | succ fuel =>
    unfold value at h
    split at h
    next => cases h
    next c more htext =>
      rw [htext, List.head?_cons]
      split at h
      next => exact absurd h (leaf_ne_object fun read => by cases read <;> simp [ofString])
      next => cases h
      next => rfl
      next => exact absurd h (wordLeaf_ne_object (by simp))
      next => exact absurd h (wordLeaf_ne_object (by simp))
      next => exact absurd h (wordLeaf_ne_object (by simp))
      next =>
        split at h
        · exact absurd h (leaf_ne_object (by simp))
        · cases h

theorem IsObjectText.head? {text : String} (h : IsObjectText text) :
    (skipSpace text.toList).head? = some '\x7b' := by
  obtain ⟨members, hparse⟩ := h
  unfold parse? at hparse
  split at hparse
  next j rest hread =>
    split at hparse
    · obtain rfl := Option.some.inj hparse
      exact head?_of_value hread
    · cases hparse
  next => cases hparse

end Json

/-! ## First characters of messages -/

/-- The text begins with a brace. -/
def BeginsWithBrace (text : String) : Prop :=
  text.toList.head? = some '\x7b'

instance (text : String) : Decidable (BeginsWithBrace text) :=
  inferInstanceAs (Decidable (_ = _))

/-- The text begins with a small letter. -/
def BeginsWithLetter (text : String) : Prop :=
  text.toList.head?.any Char.isLower = true

instance (text : String) : Decidable (BeginsWithLetter text) :=
  inferInstanceAs (Decidable (_ = true))

namespace BeginsWithLetter

variable {text : String}

theorem append (h : BeginsWithLetter text) (more : String) : BeginsWithLetter (text ++ more) := by
  unfold BeginsWithLetter at *
  rw [String.toList_append, List.head?_append]
  cases hhead : text.toList.head? with
  | none =>
    rw [hhead] at h
    cases h
  | some c => rwa [hhead] at h

theorem exists_cons (h : BeginsWithLetter text) :
    ∃ c rest, text.toList = c :: rest ∧ c.isLower = true := by
  unfold BeginsWithLetter at h
  cases htext : text.toList with
  | nil =>
    rw [htext] at h
    cases h
  | cons c rest =>
    rw [htext] at h
    exact ⟨c, rest, rfl, h⟩

theorem not_beginsWithBrace (h : BeginsWithLetter text) : ¬ BeginsWithBrace text := by
  obtain ⟨c, rest, htext, hletter⟩ := h.exists_cons
  rw [BeginsWithBrace, htext, List.head?_cons]
  rintro ⟨⟩
  cases hletter

/-- A text that begins with a letter is no object. -/
theorem not_isObjectText (h : BeginsWithLetter text) : ¬ Json.IsObjectText text := by
  intro hobject
  obtain ⟨c, rest, htext, hletter⟩ := h.exists_cons
  have hspace : Json.isSpace c = false := by
    simp only [Json.isSpace, Bool.or_eq_false_iff, beq_eq_false_iff_ne]
    refine ⟨⟨⟨?_, ?_⟩, ?_⟩, ?_⟩
    all_goals
      rintro rfl
      cases hletter
  have hhead := hobject.head?
  rw [htext, Json.skipSpace_cons hspace, ← htext] at hhead
  exact h.not_beginsWithBrace hhead

end BeginsWithLetter

theorem StorageError.beginsWithLetter (error : StorageError) : BeginsWithLetter error.message := by
  cases error with
  | savepointNotFound name => exact .append (by decide) _
  | rowNotFound table id => exact .append (.append (.append (by decide) _) _) _
  | corrupted table reason => exact .append (.append (.append (by decide) _) _) _
  | unavailable => decide
  | other text => exact .append (by decide) _
  | overflow operation => exact .append (.append (by decide) _) _

theorem PaymentError.beginsWithLetter (error : PaymentError) : BeginsWithLetter error.message := by
  cases error with
  | insufficientFunds required available =>
    exact .append (.append (.append (by decide) _) _) _
  | payerNotFound payer => exact .append (.append (by decide) _) _
  | storage cause => exact cause.beginsWithLetter

theorem AccessError.beginsWithLetter {error : AccessError}
    (h : ∀ table, error ≠ .notCustomTable table) : BeginsWithLetter error.message := by
  cases error with
  | accessDenied scope =>
    have hscope : BeginsWithLetter scope.name := by cases scope <;> decide
    exact hscope.append _
  | notCustomTable table => exact absurd rfl (h table)
  | tableNotFound table => exact .append (.append (by decide) _) _
  | missingCondition param => exact .append (.append (by decide) _) _
  | invalidPermissions column reason => exact .append (.append (.append (by decide) _) _) _
  | evaluation cause => exact .append (by decide) _
  | storage cause => exact cause.beginsWithLetter

namespace RuntimeError

variable {error : RuntimeError}

/-- Words that are not those of contract code begin with a letter, unless they begin with the name of a
table. -/
theorem beginsWithLetter (hdomain : ∀ text, error ≠ .domain text)
    (htable : ∀ table, error ≠ .access (.notCustomTable table)) :
    BeginsWithLetter error.message := by
  cases error with
  | domain text => exact absurd rfl (hdomain text)
  | resourceExhausted spent limit => exact .append (.append (.append (by decide) _) _) _
  | timeout elapsed limit =>
    exact .append (.append (.append (.append (by decide) _) _) _) _
  | contractLoop name => exact .append (.append (by decide) _) _
  | unknownContract name => exact .append (by decide) _
  | notText => decide
  | access cause => exact AccessError.beginsWithLetter fun table h => htable table (h ▸ rfl)
  | evaluation cause => exact .append (by decide) _
  | payment cause => exact cause.beginsWithLetter
  | storage cause => exact cause.beginsWithLetter

/-! ## Messages for clients -/

/-- The object that holds the words of an error. -/
def panic (words : String) : Json :=
  .object [("error", .string words), ("type", .string "panic")]

theorem panic_isPlain (words : String) : (panic words).IsPlain :=
  ⟨trivial, trivial, trivial⟩

theorem beginsWithBrace_panic (words : String) : BeginsWithBrace (panic words).render := by
  rw [BeginsWithBrace, Json.render, String.toList_ofList]
  rfl

/-- The words of the error are shown as they are. -/
def KeepsWords (error : RuntimeError) : Prop :=
  BeginsWithBrace error.message ∨ error.isTimeout = true

instance (error : RuntimeError) : Decidable error.KeepsWords :=
  inferInstanceAs (Decidable (_ ∨ _))

theorem clientMessage_of_keepsWords (h : error.KeepsWords) :
    error.clientMessage = error.message := by
  have hcond : (error.message.toList.head? == some '\x7b' || error.isTimeout) = true :=
    Bool.or_eq_true_iff.mpr (h.imp_left beq_iff_eq.mpr)
  rw [clientMessage, if_pos hcond]

theorem clientMessage_of_not_keepsWords (h : ¬ error.KeepsWords) :
    error.clientMessage = (panic error.message).render := by
  have hcond : ¬ (error.message.toList.head? == some '\x7b' || error.isTimeout) = true :=
    fun hcond => h ((Bool.or_eq_true_iff.mp hcond).imp_left beq_iff_eq.mp)
  rw [clientMessage, if_neg hcond]
  rfl

theorem keepsWords_iff (htimeout : error.isTimeout = false) :
    error.KeepsWords ↔ BeginsWithBrace error.message := by
  rw [KeepsWords, htimeout]
  exact or_iff_left Bool.false_ne_true

end RuntimeError

/-- What clients see of an error with these words is an object: the words themselves if they are one, and
otherwise an object of the type `panic` that holds the words as its error. -/
structure IsPresented (words shown : String) : Prop where
  object : Json.IsObjectText shown
  kept : Json.IsObjectText words → shown = words
  held : ¬ Json.IsObjectText words → ∃ members, Json.parse? shown = some (.object members) ∧
    Assoc.find? "type" members = some (.string "panic") ∧
    Assoc.find? "error" members = some (.string words)

namespace RuntimeError

variable {error : RuntimeError}

/-- Words that are told from objects rightly are presented. -/
theorem isPresented_iff (htimeout : error.isTimeout = false) :
    IsPresented error.message error.clientMessage ↔
      (BeginsWithBrace error.message ↔ Json.IsObjectText error.message) := by
  rw [← keepsWords_iff htimeout]
  by_cases hkeeps : error.KeepsWords
  · rw [clientMessage_of_keepsWords hkeeps]
    constructor
    · exact fun h => iff_of_true hkeeps h.object
    · intro h
      have hobject := h.mp hkeeps
      exact ⟨hobject, fun _ => rfl, fun hnot => absurd hobject hnot⟩
  · have hparse := Json.parse?_render (panic_isPlain error.message)
    rw [clientMessage_of_not_keepsWords hkeeps]
    constructor
    · intro h
      -- What is shown begins with a brace, so it cannot be words that begin otherwise.
      refine iff_of_false hkeeps fun hobject => hkeeps (.inl ?_)
      rw [← h.kept hobject]
      exact beginsWithBrace_panic error.message
    · intro h
      exact ⟨⟨_, hparse⟩, fun hobject => absurd (h.mpr hobject) hkeeps,
        fun _ => ⟨_, hparse, rfl, rfl⟩⟩

/-- What clients see of an error is right exactly where its words begin with a brace if and only if they
are an object. Only the words of contract code and the name of a table can make a difference. -/
theorem clientMessage_presents_iff (error : RuntimeError) (htimeout : error.isTimeout = false) :
    (IsPresented error.message error.clientMessage ↔
      (BeginsWithBrace error.message ↔ Json.IsObjectText error.message)) ∧
    ((∀ text, error ≠ .domain text) → (∀ table, error ≠ .access (.notCustomTable table)) →
      IsPresented error.message error.clientMessage) := by
  refine ⟨isPresented_iff htimeout, fun hdomain htable => ?_⟩
  have hletter := beginsWithLetter hdomain htable
  rw [isPresented_iff htimeout]
  exact iff_of_false hletter.not_beginsWithBrace hletter.not_isObjectText

/-- Words of storage that hold a brace are held by an object, and words of contract code that are an
object are shown as they are. -/
theorem clientMessage_presents_iff_sample :
    IsPresented "storage error: \x7b"
      (RuntimeError.access (.storage (.other "\x7b"))).clientMessage ∧
    IsPresented "\x7b\"type\":\"warning\"\x7d"
      (RuntimeError.domain "\x7b\"type\":\"warning\"\x7d").clientMessage := by
  have hobject : Json.IsObjectText "\x7b\"type\":\"warning\"\x7d" := by
    have hplain : (Json.object [("type", .string "warning")]).IsPlain := ⟨trivial, trivial⟩
    have hrender : (Json.object [("type", .string "warning")]).render =
        "\x7b\"type\":\"warning\"\x7d" := by decide
    rw [← hrender]
    exact ⟨_, Json.parse?_render hplain⟩
  have hbrace : BeginsWithBrace "\x7b\"type\":\"warning\"\x7d" := by decide
  exact ⟨(clientMessage_presents_iff (.access (.storage (.other "\x7b"))) rfl).2 nofun nofun,
    (clientMessage_presents_iff (.domain "\x7b\"type\":\"warning\"\x7d") rfl).1.mpr
      (iff_of_true hbrace hobject)⟩

/-- A brace is not yet an object, but words that begin with one are shown as they are. -/
theorem not_clientMessage_presents :
    ¬ ∀ error : RuntimeError, error.isTimeout = false →
      IsPresented error.message error.clientMessage := by
  intro hclaim
  have hwords : BeginsWithBrace "\x7boops" ∧ ¬ Json.IsObjectText "\x7boops" := by decide
  have hright := (isPresented_iff rfl).mp (hclaim (.domain "\x7boops") rfl)
  exact hwords.2 (hright.mp hwords.1)

end RuntimeError

end Covenant
