import Covenant.Proofs.Auth
import Mathlib.Data.List.Basic

/-!
# Signers among the nodes of a network

A signer that a transaction names has to be one of the nodes which the parameters list. The search
through the list ends with the first node that is the signer, and it ends as well with the first key
that does not decode. Whichever of these nodes stands first in the list gives the answer; so the order
of the list does not matter exactly where all of them give the same answer.
-/

namespace Covenant.Auth

open Stage Storing

variable {crypto : KeyCrypto} {params : SystemParameters} {tx : Transaction} {contract : String}
  {signer : Int} {node : HonorNode} {nodes : List HonorNode} {c : Connection}

/-! ## The search through the nodes -/

/-- The answer with which a node ends the search, unless it lets the search go on. -/
def verdict? (crypto : KeyCrypto) (signer : Int) (node : HonorNode) :
    Option (Except CryptoError Bool) :=
  match crypto.keyId node.publicKey with
  | .error e => some (.error e)
  | .ok id => if id = signer then some (.ok true) else none

/-- The search ends with the first node that has an answer, and without success if there is none. -/
theorem isAmongNodes_eq_findSome? (nodes : List HonorNode) :
    isAmongNodes crypto signer nodes =
      (nodes.findSome? (verdict? crypto signer)).getD (.ok false) := by
  induction nodes with
  | nil => simp [isAmongNodes]
  | cons node rest ih =>
    unfold isAmongNodes
    rw [List.findSome?_cons]
    unfold verdict?
    cases hid : crypto.keyId node.publicKey with
    | error e => simp
    | ok id =>
      by_cases hsigner : id = signer
      · simp [hsigner]
      · simp only [if_neg hsigner]
        exact ih

/-- Every key decodes; or else the signer is none of the nodes, and the keys that do not decode all
fail in the same way. -/
def OrderFree (crypto : KeyCrypto) (signer : Int) (nodes : List HonorNode) : Prop :=
  (∀ node ∈ nodes, ∃ id, crypto.keyId node.publicKey = .ok id) ∨
    (∀ node ∈ nodes, crypto.keyId node.publicKey ≠ .ok signer) ∧
      ∃ e, ∀ node ∈ nodes, ∀ e', crypto.keyId node.publicKey = .error e' → e' = e

theorem verdict?_of_error {e : CryptoError} (h : crypto.keyId node.publicKey = .error e) :
    verdict? crypto signer node = some (.error e) := by
  simp [verdict?, h]

theorem verdict?_of_signer (h : crypto.keyId node.publicKey = .ok signer) :
    verdict? crypto signer node = some (.ok true) := by
  simp [verdict?, h]

/-- A node has an answer if it is the signer or its key does not decode. -/
theorem verdict?_eq_some {answer : Except CryptoError Bool}
    (h : verdict? crypto signer node = some answer) :
    crypto.keyId node.publicKey = .ok signer ∧ answer = .ok true ∨
      ∃ e, crypto.keyId node.publicKey = .error e ∧ answer = .error e := by
  unfold verdict? at h
  cases hid : crypto.keyId node.publicKey with
  | error e =>
    rw [hid] at h
    exact .inr ⟨e, rfl, (Option.some.inj h).symm⟩
  | ok id =>
    rw [hid] at h
    by_cases hsigner : id = signer
    · subst hsigner
      simp only [if_true, Option.some.injEq] at h
      exact .inl ⟨rfl, h.symm⟩
    · simp [hsigner] at h

/-- The nodes give one answer at most. -/
def Unanimous (crypto : KeyCrypto) (signer : Int) (nodes : List HonorNode) : Prop :=
  ∀ node ∈ nodes, ∀ other ∈ nodes, ∀ answer answer',
    verdict? crypto signer node = some answer → verdict? crypto signer other = some answer' →
      answer = answer'

/-- What it means for the keys of the nodes that their answers agree. -/
theorem unanimous_iff_orderFree :
    Unanimous crypto signer nodes ↔ OrderFree crypto signer nodes := by
  constructor
  · intro hagree
    by_cases hdecode : ∀ node ∈ nodes, ∃ id, crypto.keyId node.publicKey = .ok id
    · exact .inl hdecode
    · push Not at hdecode
      obtain ⟨broken, hmem, hbroken⟩ := hdecode
      obtain ⟨e, he⟩ : ∃ e, crypto.keyId broken.publicKey = .error e := by
        cases hid : crypto.keyId broken.publicKey with
        | error e => exact ⟨e, rfl⟩
        | ok id => exact absurd hid (hbroken id)
      refine .inr ⟨?_, e, ?_⟩
      · intro node hnode hsigner
        have hsame := hagree node hnode broken hmem _ _ (verdict?_of_signer hsigner)
          (verdict?_of_error he)
        cases hsame
      · intro node hnode e' he'
        have hsame := hagree node hnode broken hmem _ _ (verdict?_of_error he')
          (verdict?_of_error he)
        exact Except.error.inj hsame
  · rintro (hdecode | ⟨hstrange, e, halike⟩) node hnode other hother answer answer' h h'
    · have haccepts : ∀ node ∈ nodes, ∀ answer, verdict? crypto signer node = some answer →
          answer = .ok true := by
        intro node hnode answer h
        obtain ⟨id, hid⟩ := hdecode node hnode
        rcases verdict?_eq_some h with ⟨-, hanswer⟩ | ⟨e, he, -⟩
        · exact hanswer
        · rw [hid] at he
          cases he
      rw [haccepts node hnode answer h, haccepts other hother answer' h']
    · have hfails : ∀ node ∈ nodes, ∀ answer, verdict? crypto signer node = some answer →
          answer = .error e := by
        intro node hnode answer h
        rcases verdict?_eq_some h with ⟨hsigner, -⟩ | ⟨e', he', hanswer⟩
        · exact absurd hsigner (hstrange node hnode)
        · rw [hanswer, halike node hnode e' he']
      rw [hfails node hnode answer h, hfails other hother answer' h']

/-- If a node has an answer, the search ends with it in some order of the nodes. -/
theorem exists_perm_isAmongNodes {answer : Except CryptoError Bool} (hnode : node ∈ nodes)
    (h : verdict? crypto signer node = some answer) :
    ∃ order, order.Perm nodes ∧ isAmongNodes crypto signer order = answer := by
  refine ⟨node :: nodes.erase node, (List.perm_cons_erase hnode).symm, ?_⟩
  rw [isAmongNodes_eq_findSome?, List.findSome?_cons, h]
  rfl

/-- Unanimous nodes give their answer in every order. -/
theorem Unanimous.isAmongNodes_eq (hagree : Unanimous crypto signer nodes) {order : List HonorNode}
    (hperm : order.Perm nodes) :
    isAmongNodes crypto signer order = isAmongNodes crypto signer nodes := by
  rw [isAmongNodes_eq_findSome?, isAmongNodes_eq_findSome?]
  cases horder : order.findSome? (verdict? crypto signer) with
  | none =>
    have hsilent : nodes.findSome? (verdict? crypto signer) = none := by
      rw [List.findSome?_eq_none_iff] at horder ⊢
      intro node hnode
      exact horder node (hperm.mem_iff.mpr hnode)
    rw [hsilent]
  | some answer =>
    obtain ⟨node, hnode, hanswer⟩ := List.exists_of_findSome?_eq_some horder
    cases hnodes : nodes.findSome? (verdict? crypto signer) with
    | none =>
      rw [List.findSome?_eq_none_iff] at hnodes
      rw [hnodes node (hperm.mem_iff.mp hnode)] at hanswer
      cases hanswer
    | some answer' =>
      obtain ⟨other, hother, hanswer'⟩ := List.exists_of_findSome?_eq_some hnodes
      rw [hagree node (hperm.mem_iff.mp hnode) other hother answer answer' hanswer hanswer']

/-- The order of the nodes does not matter to a search if and only if their answers agree. -/
theorem isAmongNodes_perm_iff :
    (∀ order : List HonorNode, order.Perm nodes →
        isAmongNodes crypto signer order = isAmongNodes crypto signer nodes) ↔
      OrderFree crypto signer nodes := by
  rw [← unanimous_iff_orderFree]
  constructor
  · intro hsame node hnode other hother answer answer' h h'
    obtain ⟨order, hperm, horder⟩ := exists_perm_isAmongNodes hnode h
    obtain ⟨order', hperm', horder'⟩ := exists_perm_isAmongNodes hother h'
    rw [← horder, ← horder', hsame order hperm, hsame order' hperm']
  · intro hagree order hperm
    exact hagree.isAmongNodes_eq hperm

/-! ## The signer of a transaction -/

/-- Whether the named signer may sign is up to the nodes of the network. -/
structure AsksNodes (params : SystemParameters) (tx : Transaction) (contract : String)
    (c : Connection) (signer : Int) : Prop where
  named : IsDelegated tx signer
  closed : params.candidateNodeMode = false
  delayed : ∃ d, (isDelayed contract).run c = (.ok true, d)
  strangers : contract ≠ newUserContract

/-- The signer that the answer of the nodes leaves. -/
def signerOf (signer : Int) : Except CryptoError Bool → Except AuthError Int
  | .error e => .error (.crypto e)
  | .ok true => .ok signer
  | .ok false => .error .delayedContract

theorem signerOf_injective (signer : Int) : Function.Injective (signerOf signer) := by
  rintro (e | _ | _) (e' | _ | _) h
  all_goals simp_all [signerOf]

/-- Only a signer whom the nodes know is accepted. -/
theorem signerOf_eq_ok_iff {answer : Except CryptoError Bool} :
    signerOf signer answer = .ok signer ↔ answer = .ok true := by
  have haccepted : signerOf signer (.ok true) = .ok signer := rfl
  rw [← haccepted, (signerOf_injective signer).eq_iff]

/-- Where the nodes are asked, the result is theirs, and they are asked only after storage has told
whether the contract is delayed. -/
theorem AsksNodes.exists_run (h : AsksNodes params tx contract c signer) (crypto : KeyCrypto) :
    ∃ d, ∀ nodes, (resolveSigner crypto { params with honorNodes := nodes } tx contract).run c =
      (signerOf signer (isNodeSigner crypto { params with honorNodes := nodes } signer), d) := by
  obtain ⟨d, hdelayed⟩ := h.delayed
  refine ⟨d, fun nodes => ?_⟩
  have hnamed : tx.signedBy.filter (· != 0) = some signer := by
    rw [h.named.1]
    simp [h.named.2]
  have hclosed : ¬params.candidateNodeMode = true := by simp [h.closed]
  unfold resolveSigner
  rw [hnamed]
  dsimp only
  rw [if_neg hclosed, run_bind_of_ok hdelayed]
  simp only [Bool.not_true, Bool.false_eq_true, if_false, beq_iff_eq, h.strangers]
  rcases isNodeSigner crypto { params with honorNodes := nodes } signer with e | _ | _ <;> rfl

/-- Where the nodes are not asked, it does not matter who they are. -/
theorem resolveSigner_of_not_asksNodes (h : ∀ signer, ¬AsksNodes params tx contract c signer)
    (nodes : List HonorNode) :
    (resolveSigner crypto { params with honorNodes := nodes } tx contract).run c =
      (resolveSigner crypto params tx contract).run c := by
  unfold resolveSigner
  cases hnamed : tx.signedBy.filter (· != 0) with
  | none => rfl
  | some signer =>
    by_cases hopen : params.candidateNodeMode = true
    · simp only [hopen, if_true]
    · simp only [hopen, Bool.false_eq_true, if_false]
      apply run_bind_congr
      intro delayed d hdelayed
      cases delayed with
      | false => rfl
      | true =>
        by_cases hnew : contract = newUserContract
        · simp only [Bool.not_true, Bool.false_eq_true, if_false, hnew, beq_self_eq_true, if_true]
        · obtain ⟨hsigned, hne⟩ := Option.filter_eq_some_iff.mp hnamed
          have hasked : AsksNodes params tx contract c signer :=
            ⟨⟨hsigned, by simpa using hne⟩, by simpa using hopen, ⟨d, hdelayed⟩, hnew⟩
          exact absurd hasked (h signer)

/-- A network that names nodes asks no others. -/
theorem isNodeSigner_of_ne_nil (hnodes : nodes ≠ []) :
    isNodeSigner crypto { params with honorNodes := nodes } signer =
      isAmongNodes crypto signer nodes := by
  unfold isNodeSigner
  rw [if_neg (by simpa using hnodes)]

/-- The order of the nodes matters to the question whether a signer is one of them exactly as much as
it does to the search. -/
theorem isNodeSigner_perm_iff :
    (∀ order : List HonorNode, order.Perm params.honorNodes →
        isNodeSigner crypto { params with honorNodes := order } signer =
          isNodeSigner crypto params signer) ↔
      OrderFree crypto signer params.honorNodes := by
  by_cases hnodes : params.honorNodes = []
  · constructor
    · intro _
      exact .inl (by simp [hnodes])
    · intro _ order hperm
      have hempty : order = params.honorNodes := by
        rw [hnodes] at hperm ⊢
        exact hperm.eq_nil
      rw [hempty]
  · rw [← isAmongNodes_perm_iff]
    have hnamed : isNodeSigner crypto params signer =
        isAmongNodes crypto signer params.honorNodes := isNodeSigner_of_ne_nil hnodes
    constructor
    all_goals
      intro hsame order hperm
      have horder : order ≠ [] := by
        rintro rfl
        exact hnodes hperm.symm.eq_nil
      have hstep := hsame order hperm
    · rwa [isNodeSigner_of_ne_nil horder, hnamed] at hstep
    · rwa [isNodeSigner_of_ne_nil horder, hnamed]

/-- A signer who is a node is found in every order of the nodes if and only if all keys decode. -/
theorem isAmongNodes_eq_true_iff (hnode : node ∈ nodes)
    (hsigner : crypto.keyId node.publicKey = .ok signer) :
    (∀ order : List HonorNode, order.Perm nodes → isAmongNodes crypto signer order = .ok true) ↔
      ∀ node ∈ nodes, ∃ id, crypto.keyId node.publicKey = .ok id := by
  constructor
  · intro hfound other hother
    cases hid : crypto.keyId other.publicKey with
    | ok id => exact ⟨id, rfl⟩
    | error e =>
      obtain ⟨order, hperm, hfails⟩ := exists_perm_isAmongNodes hother (verdict?_of_error hid)
      rw [hfound order hperm] at hfails
      cases hfails
  · intro hdecode order hperm
    have hagree : Unanimous crypto signer nodes := unanimous_iff_orderFree.mpr (.inl hdecode)
    obtain ⟨first, hfirst, hfound⟩ :=
      exists_perm_isAmongNodes hnode (verdict?_of_signer hsigner)
    rw [hagree.isAmongNodes_eq hperm, ← hagree.isAmongNodes_eq hfirst, hfound]

/-- The order of the nodes does not matter to who must have signed, unless the nodes are asked and the
answer hangs on which of them is asked first. -/
theorem resolveSigner_unordered_iff :
    (∀ order : List HonorNode, order.Perm params.honorNodes →
        (resolveSigner crypto { params with honorNodes := order } tx contract).run c =
          (resolveSigner crypto params tx contract).run c) ↔
      ∀ signer, AsksNodes params tx contract c signer →
        OrderFree crypto signer params.honorNodes := by
  constructor
  · intro hsame signer hasks
    obtain ⟨d, hrun⟩ := hasks.exists_run crypto
    rw [← isNodeSigner_perm_iff]
    intro order hperm
    have hresult := (hrun order).symm.trans ((hsame order hperm).trans (hrun params.honorNodes))
    exact signerOf_injective signer (Prod.mk.inj hresult).1
  · intro hfree order hperm
    by_cases hasked : ∃ signer, AsksNodes params tx contract c signer
    · obtain ⟨signer, hasks⟩ := hasked
      obtain ⟨d, hrun⟩ := hasks.exists_run crypto
      have hsame := isNodeSigner_perm_iff.mpr (hfree signer hasks) order hperm
      rw [hrun order, hsame]
      exact (hrun params.honorNodes).symm
    · exact resolveSigner_of_not_asksNodes (fun signer hasks => hasked ⟨signer, hasks⟩) order

/-- A named signer who is a node is accepted in every order of the nodes if and only if the keys of
all of them decode. -/
theorem AsksNodes.accepted_unordered_iff (h : AsksNodes params tx contract c signer)
    (hnode : node ∈ params.honorNodes) (hsigner : crypto.keyId node.publicKey = .ok signer) :
    (∀ order : List HonorNode, order.Perm params.honorNodes → ∃ d,
        (resolveSigner crypto { params with honorNodes := order } tx contract).run c =
          (.ok signer, d)) ↔
      ∀ node ∈ params.honorNodes, ∃ id, crypto.keyId node.publicKey = .ok id := by
  obtain ⟨d, hrun⟩ := h.exists_run crypto
  have hnonempty : ∀ order : List HonorNode, order.Perm params.honorNodes → order ≠ [] := by
    rintro _ hperm rfl
    exact List.not_mem_nil (hperm.mem_iff.mpr hnode)
  rw [← isAmongNodes_eq_true_iff hnode hsigner]
  constructor
  · intro haccepted order hperm
    obtain ⟨d', hok⟩ := haccepted order hperm
    rw [hrun order, isNodeSigner_of_ne_nil (hnonempty order hperm)] at hok
    exact signerOf_eq_ok_iff.mp (Prod.mk.inj hok).1
  · intro hfound order hperm
    have haccepts : signerOf signer (isAmongNodes crypto signer order) = .ok signer :=
      signerOf_eq_ok_iff.mpr (hfound order hperm)
    refine ⟨d, ?_⟩
    rw [hrun order, isNodeSigner_of_ne_nil (hnonempty order hperm), haccepts]

/-- Who must have signed does not hang on the order of the nodes exactly where their answers agree,
and a signer who is one of them is accepted in every order exactly where the keys of all decode. -/
theorem resolveSigner_perm_iff (crypto : KeyCrypto) (params : SystemParameters) (tx : Transaction)
    (contract : String) (c : Connection) :
    ((∀ order : List HonorNode, order.Perm params.honorNodes →
        (resolveSigner crypto { params with honorNodes := order } tx contract).run c =
          (resolveSigner crypto params tx contract).run c) ↔
      ∀ signer, AsksNodes params tx contract c signer →
        OrderFree crypto signer params.honorNodes) ∧
    ∀ signer, AsksNodes params tx contract c signer →
      (∃ node ∈ params.honorNodes, crypto.keyId node.publicKey = .ok signer) →
        ((∀ order : List HonorNode, order.Perm params.honorNodes → ∃ d,
            (resolveSigner crypto { params with honorNodes := order } tx contract).run c =
              (.ok signer, d)) ↔
          ∀ node ∈ params.honorNodes, ∃ id, crypto.keyId node.publicKey = .ok id) := by
  constructor
  · exact resolveSigner_unordered_iff
  · rintro signer hasks ⟨node, hnode, hsigner⟩
    exact hasks.accepted_unordered_iff hnode hsigner

/-! ## A key that does not decode -/

namespace Sample

/-- A node of the network. -/
def knownNode : HonorNode :=
  ⟨[0x02, 0x56, 0xb3, 0x28, 0xb3, 0x0c, 0x8b, 0xf5, 0x83, 0x9e, 0x24, 0x05, 0x87, 0x47, 0x87, 0x94,
    0x08, 0xbd, 0xb3, 0x62, 0x41, 0xdc, 0x9c, 0x2e, 0x7c, 0x61, 0x9f, 0xaa, 0x12, 0xb2, 0x92, 0x09,
    0x67]⟩

/-- The id of its key. -/
def knownId : Int := 4332169363572247099

/-- Another node. -/
def otherNode : HonorNode :=
  ⟨[0x03, 0x5b, 0xe5, 0xe9, 0x47, 0x82, 0x09, 0x67, 0x4a, 0x96, 0xe6, 0x0f, 0x1f, 0x03, 0x7f, 0x61,
    0x76, 0x54, 0x0f, 0xd0, 0x01, 0xfa, 0x1d, 0x64, 0x69, 0x47, 0x70, 0xc5, 0x6a, 0x77, 0x09, 0xc4,
    0x2c]⟩

/-- A node whose key is none. -/
def brokenNode : HonorNode :=
  ⟨[1, 2, 3]⟩

/-- A network of these nodes. -/
def networkOf (nodes : List HonorNode) : SystemParameters :=
  { SystemParameters.default with honorNodes := nodes }

/-- A delayed contract. -/
def delayedContract : String := "@1CallDelayedContract"

end Sample

/-- A node that signs for others is asked about as such. -/
theorem asksNodes_sample (nodes : List HonorNode) :
    AsksNodes (Sample.networkOf nodes) (Sample.transaction (some Sample.knownId))
      Sample.delayedContract Sample.connection Sample.knownId where
  named := ⟨rfl, by decide⟩
  closed := rfl
  delayed := ⟨Sample.connection, rfl⟩
  strangers := by decide

theorem keyId_knownNode :
    KeyCrypto.secp256k1.keyId Sample.knownNode.publicKey = .ok Sample.knownId := by
  decide +kernel

theorem keyId_brokenNode :
    KeyCrypto.secp256k1.keyId Sample.brokenNode.publicKey = .error .invalidPublicKey := by
  simp [KeyCrypto.secp256k1, Secp256k1.pointOfKey?, Sample.brokenNode]

theorem keyId_otherNode :
    KeyCrypto.secp256k1.keyId Sample.otherNode.publicKey = .ok (-194182490774743050) := by
  decide +kernel

/-- A network whose nodes all have keys accepts them wherever they stand in the list. -/
theorem resolveSigner_perm_sample :
    ∃ d, (resolveSigner KeyCrypto.secp256k1
        (Sample.networkOf [Sample.otherNode, Sample.knownNode])
        (Sample.transaction (some Sample.knownId)) Sample.delayedContract).run Sample.connection =
      (.ok Sample.knownId, d) := by
  have hdecode : ∀ node ∈ [Sample.knownNode, Sample.otherNode],
      ∃ id, KeyCrypto.secp256k1.keyId node.publicKey = .ok id := by
    intro node hnode
    rcases List.mem_pair.mp hnode with rfl | rfl
    · exact ⟨_, keyId_knownNode⟩
    · exact ⟨_, keyId_otherNode⟩
  have haccepted := ((resolveSigner_perm_iff KeyCrypto.secp256k1
    (Sample.networkOf [Sample.knownNode, Sample.otherNode])
    (Sample.transaction (some Sample.knownId)) Sample.delayedContract Sample.connection).2 _
      (asksNodes_sample _) ⟨_, List.mem_cons_self, keyId_knownNode⟩).mpr hdecode
  exact haccepted [Sample.otherNode, Sample.knownNode] (.swap _ _ _)

/-- The parameters of a network may be in order and a node that signs for others be accepted in one
order of the nodes and not in another. -/
theorem not_resolveSigner_perm :
    ¬ ∀ (crypto : KeyCrypto) (params : SystemParameters) (tx : Transaction) (contract : String)
        (c : Connection), params.validate = .ok () →
      ∀ order : List HonorNode, order.Perm params.honorNodes →
        (resolveSigner crypto { params with honorNodes := order } tx contract).run c =
          (resolveSigner crypto params tx contract).run c := by
  intro hclaim
  have hsame := hclaim KeyCrypto.secp256k1 (Sample.networkOf [Sample.knownNode, Sample.brokenNode])
    (Sample.transaction (some Sample.knownId)) Sample.delayedContract Sample.connection rfl
  have hfree := resolveSigner_unordered_iff.mp hsame _ (asksNodes_sample _)
  rcases hfree with hdecode | ⟨hstrange, -⟩
  · obtain ⟨id, hid⟩ := hdecode Sample.brokenNode (by simp [Sample.networkOf])
    rw [keyId_brokenNode] at hid
    cases hid
  · exact hstrange Sample.knownNode (by simp [Sample.networkOf]) keyId_knownNode

end Covenant.Auth
