import Covenant.Proofs.Storage.Calls

/-!
# Whose key verifies a signature

Finding out who must have signed and verifying that they did look at the public key of a transaction
independently of each other. Payers who sign for themselves are held to a key of their own. Where the
transaction names a signer, its public key is compared with nobody's; so the signature is bound to
the signer by the key record alone, and not at all while that record has no key.
-/

namespace Covenant.Auth

open Stage Storing

variable {crypto : KeyCrypto} {params : SystemParameters} {tx : Transaction} {contract : String}
  {signer : Int} {key : KeyRecord} {publicKey : List UInt8} {c c' d : Connection}

/-! ## The signer -/

/-- The transaction names its signer. -/
def IsDelegated (tx : Transaction) (signer : Int) : Prop :=
  tx.signedBy = some signer ∧ signer ≠ 0

/-- Payers sign for themselves, and with no other key than their own. -/
theorem ownSigner_eq_ok (h : ownSigner crypto tx = .ok signer) :
    hasPublicKey tx.publicKey = true → crypto.keyId tx.publicKey = .ok signer := by
  intro hkey
  unfold ownSigner at h
  rw [if_pos hkey] at h
  split at h
  next => cases h
  next id hid =>
    split at h
    next hown =>
      obtain rfl := Except.ok.inj h
      rw [hid, hown]
    next => cases h

/-- A signer that the transaction names is the only one that there can be. -/
theorem resolveSigner_of_signedBy {named : Int} (hnamed : tx.signedBy.filter (· != 0) = some named)
    (h : (resolveSigner crypto params tx contract).run c = (.ok signer, c')) : signer = named := by
  have hpure : ∀ {d d' : Connection},
      (pure named : Storing AuthError Int).run d = (.ok signer, d') → signer = named :=
    fun hrun => (Except.ok.inj (Prod.mk.inj hrun).1).symm
  unfold resolveSigner at h
  rw [hnamed] at h
  dsimp only at h
  split at h
  next => exact hpure h
  next =>
    obtain ⟨delayed, d, -, h⟩ := run_bind_eq_ok h
    split at h
    next => cases h
    next =>
      split at h
      next => exact hpure h
      next =>
        split at h
        · cases h
        · exact hpure h
        · cases h

/-- Unless the signer is named by the transaction, a public key of the transaction is theirs. -/
theorem keyId_of_resolveSigner
    (h : (resolveSigner crypto params tx contract).run c = (.ok signer, c'))
    (hown : ¬IsDelegated tx signer) (hkey : hasPublicKey tx.publicKey = true) :
    crypto.keyId tx.publicKey = .ok signer := by
  cases hnamed : tx.signedBy.filter (· != 0) with
  | none =>
    unfold resolveSigner at h
    rw [hnamed] at h
    cases hsigner : ownSigner crypto tx with
    | error e =>
      rw [hsigner] at h
      cases h
    | ok id =>
      rw [hsigner] at h
      obtain rfl := Except.ok.inj (Prod.mk.inj h).1
      exact ownSigner_eq_ok hsigner hkey
  | some named =>
    obtain rfl := resolveSigner_of_signedBy hnamed h
    obtain ⟨hsigned, hne⟩ := Option.filter_eq_some_iff.mp hnamed
    exact absurd ⟨hsigned, by simpa using hne⟩ hown

/-- The signer is the payer or the one that the transaction names. -/
theorem resolveSigner_eq_ok
    (h : (resolveSigner crypto params tx contract).run c = (.ok signer, c')) :
    signer = tx.keyId ∨ tx.signedBy = some signer := by
  cases hnamed : tx.signedBy.filter (· != 0) with
  | none =>
    unfold resolveSigner at h
    rw [hnamed] at h
    dsimp only at h
    rw [run_ofExcept] at h
    have hown := (Prod.mk.inj h).1
    unfold ownSigner at hown
    split at hown
    next =>
      split at hown
      next => cases hown
      next =>
        split at hown
        next => exact .inl (Except.ok.inj hown).symm
        next => cases hown
    next => exact .inl (Except.ok.inj hown).symm
  | some named =>
    obtain rfl := resolveSigner_of_signedBy hnamed h
    exact .inr (Option.filter_eq_some_iff.mp hnamed).1

/-! ## The key -/

/-- What it takes for a signature to be accepted. -/
theorem verifySignature_eq_ok_iff :
    (verifySignature crypto tx signer).run c = (.ok key, d) ↔
      ((Storing.key tx.ecosystemId signer).mapError AuthError.storage).run c =
        (.ok (some key), d) ∧ key.disabled = false ∧
      ∃ publicKey, publicKeyFor? key tx = some publicKey ∧
        crypto.verify publicKey tx.hash tx.signature = .ok true := by
  constructor
  · intro h
    obtain ⟨found, d', hfound, h⟩ := run_bind_eq_ok h
    cases found with
    | none => cases h
    | some record =>
      dsimp only at h
      split at h
      next => cases h
      next henabled =>
        split at h
        next => cases h
        next publicKey hchosen =>
          split at h
          next => cases h
          next => cases h
          next hverify =>
            obtain ⟨hkey, rfl⟩ := Prod.mk.inj h
            obtain rfl := Except.ok.inj hkey
            exact ⟨hfound, by simpa using henabled, publicKey, hchosen, hverify⟩
  · rintro ⟨hfound, henabled, publicKey, hchosen, hverify⟩
    unfold verifySignature
    rw [run_bind_of_ok hfound]
    simp only [henabled, hchosen, hverify]
    rfl

/-- The signature is verified against this public key and no other: whatever the signatures of a
crypto may be, the transaction is accepted if and only if it carries one of this key. -/
def VerifiedAgainst (tx : Transaction) (signer : Int) (c : Connection)
    (publicKey : List UInt8) : Prop :=
  ∀ crypto : KeyCrypto, (∃ key d, (verifySignature crypto tx signer).run c = (.ok key, d)) ↔
    crypto.verify publicKey tx.hash tx.signature = .ok true

/-- The key that counts is chosen before the signature is looked at. -/
theorem verifiedAgainst_of_found
    (hfound : ((Storing.key tx.ecosystemId signer).mapError AuthError.storage).run c =
      (.ok (some key), d))
    (henabled : key.disabled = false) (hchosen : publicKeyFor? key tx = some publicKey) :
    VerifiedAgainst tx signer c publicKey := by
  intro crypto
  constructor
  · rintro ⟨other, d', hverified⟩
    obtain ⟨hother, -, chosen, hchosen', hverify⟩ := verifySignature_eq_ok_iff.mp hverified
    rw [hfound] at hother
    obtain ⟨hsame, -⟩ := Prod.mk.inj hother
    obtain rfl := Option.some.inj (Except.ok.inj hsame)
    rw [hchosen] at hchosen'
    obtain rfl := Option.some.inj hchosen'
    exact hverify
  · intro hverify
    exact ⟨key, d, verifySignature_eq_ok_iff.mpr ⟨hfound, henabled, publicKey, hchosen, hverify⟩⟩

/-- The public key is bound to the signer: it is the one that the signer's record holds, or one of
the transaction's from which the signer's id derives. -/
def IsBound (crypto : KeyCrypto) (tx : Transaction) (signer : Int) (key : KeyRecord)
    (publicKey : List UInt8) : Prop :=
  publicKey = key.publicKey ∧ publicKey ≠ [] ∨
    publicKey = tx.publicKey ∧ crypto.keyId publicKey = .ok signer

/-- The transaction names a signer whose record holds no key, and brings a key which is not
theirs. -/
def BringsStrangeKey (crypto : KeyCrypto) (tx : Transaction) (signer : Int)
    (key : KeyRecord) : Prop :=
  IsDelegated tx signer ∧ key.publicKey = [] ∧ crypto.keyId tx.publicKey ≠ .ok signer

theorem hasPublicKey_nil : hasPublicKey [] = false := rfl

/-- A record with a key decides alone. -/
theorem publicKeyFor?_of_bound (hbound : key.publicKey ≠ []) :
    publicKeyFor? key tx = some key.publicKey := by
  unfold publicKeyFor?
  simp [hbound]

/-- Without a key in the record, only the transaction's can be chosen. -/
theorem publicKeyFor?_of_unbound (hunbound : key.publicKey = [])
    (h : publicKeyFor? key tx = some publicKey) :
    publicKey = tx.publicKey ∧ hasPublicKey tx.publicKey = true := by
  unfold publicKeyFor? at h
  rw [hunbound] at h
  simp only [List.isEmpty_nil, Bool.not_true, Bool.false_eq_true, if_false] at h
  split at h
  next hkey => exact ⟨(Option.some.inj h).symm, hkey⟩
  next => cases h

/-- Who is found to be the signer and whose signature is accepted has signed with a key that is bound
to them, with one exception: a named signer whose record holds no key. -/
theorem signature_bound_iff
    (hresolved : (resolveSigner crypto params tx contract).run c = (.ok signer, c'))
    (hverified : (verifySignature crypto tx signer).run c' = (.ok key, d)) :
    c.session.working.key? tx.ecosystemId signer = .ok (some key) ∧
      ∃ publicKey, VerifiedAgainst tx signer c' publicKey ∧
        crypto.verify publicKey tx.hash tx.signature = .ok true ∧
        (IsBound crypto tx signer key publicKey ↔ ¬BringsStrangeKey crypto tx signer key) := by
  obtain ⟨hfound, henabled, publicKey, hchosen, hverify⟩ := verifySignature_eq_ok_iff.mp hverified
  have hsame : Connection.Moves Eq c c' :=
    (resolveSigner_looks crypto params tx contract).keeps.run hresolved
  have hstored := (run_look_eq_ok (run_mapError_eq_ok hfound)).1
  rw [← hsame.session] at hstored
  refine ⟨hstored, publicKey, verifiedAgainst_of_found hfound henabled hchosen, hverify, ?_⟩
  by_cases hunbound : key.publicKey = []
  · obtain ⟨rfl, hkey⟩ := publicKeyFor?_of_unbound hunbound hchosen
    have hne : tx.publicKey ≠ [] := by
      intro hempty
      rw [hempty, hasPublicKey_nil] at hkey
      cases hkey
    constructor
    · rintro (⟨hrecord, -⟩ | ⟨-, hid⟩) ⟨-, -, hstrange⟩
      · exact hne (hrecord.trans hunbound)
      · exact hstrange hid
    · intro hknown
      refine .inr ⟨rfl, ?_⟩
      by_cases hnamed : IsDelegated tx signer
      · exact Classical.byContradiction fun hstrange => hknown ⟨hnamed, hunbound, hstrange⟩
      · exact keyId_of_resolveSigner hresolved hnamed hkey
  · rw [publicKeyFor?_of_bound hunbound] at hchosen
    obtain rfl := Option.some.inj hchosen
    constructor
    · rintro - ⟨-, hempty, -⟩
      exact hunbound hempty
    · intro _
      exact .inl ⟨rfl, hunbound⟩

/-! ## A signer without a key -/

namespace Sample

/-- The id of a key is its length, and its signature is the key itself. -/
def lengths : KeyCrypto :=
  ⟨fun key => .ok key.length, fun key _ signature => .ok (key == signature)⟩

/-- Anyone may sign for others. -/
def openNetwork : SystemParameters :=
  { SystemParameters.default with candidateNodeMode := true }

/-- Keys 2 and 42 are known, and neither has a public key yet. -/
def connection : Connection :=
  let database := (Database.empty.putKey ⟨2, 1, "", [], 0, false⟩).putKey ⟨42, 1, "", [], 0, false⟩
  ⟨.begin database, .none⟩

/-- A transaction of payer 2, which brings the payer's key and carries its signature. -/
def transaction (signedBy : Option Int) : Transaction :=
  { contractId := 1, ecosystemId := 1, keyId := 2, signedBy, publicKey := [5, 5],
    signature := [5, 5], maxSum := none, hash := Hash.zero, time := 0, size := 0, fields := [] }

end Sample

/-- Payer 2 signs, and the key that verifies the signature is the payer's. -/
theorem signature_bound_sample :
    ∃ key d, (verifySignature Sample.lengths (Sample.transaction none) 2).run Sample.connection =
        (.ok key, d) ∧
      ∃ publicKey, VerifiedAgainst (Sample.transaction none) 2 Sample.connection publicKey ∧
        IsBound Sample.lengths (Sample.transaction none) 2 key publicKey := by
  have hverified : (verifySignature Sample.lengths (Sample.transaction none) 2).run
      Sample.connection = (.ok ⟨2, 1, "", [], 0, false⟩, _) :=
    run_of_toOption (by decide +kernel)
  have hresolved : (resolveSigner Sample.lengths .default (Sample.transaction none) "").run
      Sample.connection = (.ok 2, Sample.connection) := rfl
  obtain ⟨-, publicKey, hagainst, -, hbound⟩ := signature_bound_iff hresolved hverified
  exact ⟨_, _, hverified, publicKey, hagainst, hbound.mpr fun hstrange => by cases hstrange.1.1⟩

/-- A signature may be accepted as that of a signer to whom the key does not belong. -/
theorem not_signature_bound :
    ¬ ∀ (crypto : KeyCrypto) (params : SystemParameters) (tx : Transaction) (contract : String)
        (signer : Int) (key : KeyRecord) (c c' d : Connection),
      (resolveSigner crypto params tx contract).run c = (.ok signer, c') →
        (verifySignature crypto tx signer).run c' = (.ok key, d) →
          ∀ publicKey, VerifiedAgainst tx signer c' publicKey →
            IsBound crypto tx signer key publicKey := by
  intro hclaim
  have hresolved : (resolveSigner Sample.lengths Sample.openNetwork (Sample.transaction (some 42))
      "").run Sample.connection = (.ok 42, Sample.connection) := rfl
  have hverified : (verifySignature Sample.lengths (Sample.transaction (some 42)) 42).run
      Sample.connection = (.ok ⟨42, 1, "", [], 0, false⟩, _) :=
    run_of_toOption (by decide +kernel)
  obtain ⟨hfound, henabled, publicKey, hchosen, -⟩ := verifySignature_eq_ok_iff.mp hverified
  obtain ⟨rfl, -⟩ := publicKeyFor?_of_unbound rfl hchosen
  rcases hclaim _ _ _ _ _ _ _ _ _ hresolved hverified _
      (verifiedAgainst_of_found hfound henabled hchosen) with ⟨hrecord, -⟩ | ⟨-, hid⟩
  · cases hrecord
  · cases hid

end Covenant.Auth
