import EvDashboard.Failures

/-!
# Which spellings of a DID reach a stored key

A message may spell the DID of an asset with the network segment or without it, as the
messages in the server's documentation do, and its address in any letter case. A
callback takes the fourth segment as it is and looks up the DID that ends in it. Without
the network segment there is no fourth one; and the store compares texts with the
checksummed spelling it generated. One spelling reaches the key, out of all of them.
-/

namespace EvDashboard.Spellings

open Async JavaScript Listener Failures

/-- A spelling of a DID: with the network segment or without, and the case of each digit
of the address. -/
structure Spelling where
  network : Bool
  upper : Nat → Bool

namespace Spelling

/-- The address as it is spelled. -/
def address (spelling : Spelling) (denoted : Address) : String :=
  Ethers.spelling denoted spelling.upper

/-- The DID as it is spelled. -/
def did (spelling : Spelling) (denoted : Address) : String :=
  (if spelling.network then "did:ethr:volta:" else "did:ethr:") ++ spelling.address denoted

end Spelling

/-- The callback of a message reaches the key of a wallet: it finds a stored key at the
wallet's address, and unless one of its own calls fails it performs what the message
asks for with this key, and nothing else. -/
def Reaches (ethers : Ethers) (table : KeyManager.Table) (client : PrequalificationClient)
    (oracle : Oracle) (message : Message) (decoded : Decoded) (wallet : Wallet) : Prop :=
  ∃ found, KeyManager.getSignerForDID table (Did.assetDID decoded.voltaAssetDID) = some found ∧
    ethers.computeAddress found.privateKey = ethers.computeAddress wallet.privateKey ∧
    (((client.handle message).trace oracle).any (failed oracle) = false →
      ∃ action, asks oracle client message.subject found.privateKey decoded.issuedToken =
          some action ∧
        ((client.handle message).trace oracle).filter (performs oracle) = [action])

variable {ethers : Ethers} {table : KeyManager.Table} {client : PrequalificationClient}
  {oracle : Oracle} {message : Message} {decoded : Decoded}

/-- A call of a program that fails nowhere succeeds, and the rest fails nowhere. -/
theorem unfailing_await {α : Type} {call : Call} {resume : call.Answer → Awaiting α}
    (unfailing : ((Program.await call resume).trace oracle).any (failed oracle) = false) :
    failed oracle call = false ∧ ∃ answer, oracle call = .ok answer ∧
      ((resume answer).trace oracle).any (failed oracle) = false := by
  rw [Program.trace, List.any_cons, Bool.or_eq_false_iff] at unfailing
  cases outcome : oracle call with
  | error exception =>
    rw [failed_error outcome] at unfailing
    exact absurd unfailing.1.symm Bool.false_ne_true
  | ok answer =>
    rw [outcome] at unfailing
    exact ⟨unfailing.1, answer, rfl, unfailing.2⟩

/-- An asset whose work fails nowhere is asked for an action: the role of a request is
known. -/
theorem asks_some {subject : Subject} {asset : Asset} {issuedToken : Option Json}
    (unfailing : ((serve client subject asset issuedToken).trace oracle).any (failed oracle) =
      false) :
    ∃ action, asks oracle client subject asset.wallet.privateKey issuedToken = some action := by
  cases subject with
  | claimExchange => exact ⟨_, rfl⟩
  | prequalificationExchange =>
    obtain ⟨_, _, _, afterSigner⟩ := unfailing_await unfailing
    obtain ⟨_, _, _, afterCache⟩ := unfailing_await afterSigner
    obtain ⟨_, _, _, afterRegistry⟩ := unfailing_await afterCache
    obtain ⟨known, definition, outcome, _⟩ := unfailing_await afterRegistry
    cases definition with
    | none =>
      simp only [failed, outcome, Bool.true_eq_false] at known
    | some roleDef =>
      refine ⟨.createClaimRequest asset.wallet.privateKey
        ⟨client.prequalificationRole.roleName, roleDef.version⟩ [.offChain], ?_⟩
      simp only [asks, claimRequest, outcome]

/-- What is left of a callback once it has found a stored key fails nowhere if the
callback does not. -/
theorem serve_unfailing (read : decode message = .ok (some decoded))
    (truthful : ∀ did, Truthful table (.getSignerForDID did) (oracle (.getSignerForDID did)))
    (unfailing : ((client.handle message).trace oracle).any (failed oracle) = false)
    {found : Wallet}
    (located : KeyManager.getSignerForDID table (Did.assetDID decoded.voltaAssetDID) =
      some found) :
    ((serve client message.subject
      ⟨Did.assetDID decoded.voltaAssetDID, found, client.iamClientLibFactory⟩
      decoded.issuedToken).trace oracle).any (failed oracle) = false := by
  rw [handle_eq, read] at unfailing
  obtain ⟨_, answer, outcome, rest⟩ := unfailing_await unfailing
  have answered := truthful (Did.assetDID decoded.voltaAssetDID)
  rw [outcome] at answered
  have same : answer = some found := Eq.trans answered located
  subst same
  exact rest

/-- A callback reaches a wallet's key when it finds a stored key at the wallet's
address. -/
theorem reaches_of_found (read : decode message = .ok (some decoded))
    (truthful : ∀ did, Truthful table (.getSignerForDID did) (oracle (.getSignerForDID did)))
    {found wallet : Wallet}
    (located : KeyManager.getSignerForDID table (Did.assetDID decoded.voltaAssetDID) =
      some found)
    (same : ethers.computeAddress found.privateKey = ethers.computeAddress wallet.privateKey) :
    Reaches ethers table client oracle message decoded wallet := by
  refine ⟨found, located, same, fun unfailing => ?_⟩
  obtain ⟨action, asked⟩ := asks_some (serve_unfailing read truthful unfailing located)
  have performed := (handle_fulfils truthful client read).performed
  rw [unfailing] at performed
  have ordering : ordered table oracle client message = some action := by
    simp only [ordered, read, located]
    exact asked
  rw [ordering] at performed
  exact ⟨action, asked, performed⟩

/-- The fourth segment of a spelled DID is the spelled address, if there is one. -/
theorem fourthSegment_did (spelling : Spelling) (denoted : Address) :
    Did.fourthSegment (spelling.did denoted) =
      if spelling.network then spelling.address denoted else "undefined" := by
  have free := Ethers.spelling_no_colon denoted spelling.upper
  unfold Spelling.did
  cases spelling.network with
  | true => exact Did.fourthSegment_network free
  | false => exact Did.fourthSegment_plain free

/-- A stored key is found under a spelled DID of its address only if the spelling has
the network segment and the checksummed digits. -/
theorem found_spelling (agree : KeyManager.RowsAgree ethers table) {spelling : Spelling}
    {denoted : Address} {found : Wallet}
    (located : KeyManager.getSignerForDID table (Did.assetDID (spelling.did denoted)) =
      some found) :
    spelling.network = true ∧
      spelling.address denoted = ethers.getChecksumAddress denoted := by
  have segment : found.address ethers = Did.fourthSegment (spelling.did denoted) :=
    (Did.keyPairDID_eq_iff ethers found _).mp (agree.getSignerForDID ethers located).2
  rw [fourthSegment_did] at segment
  cases network : spelling.network with
  | false =>
    rw [network] at segment
    exact absurd segment (ethers.checksum_not_undefined _)
  | true =>
    rw [network] at segment
    have spelled : spelling.address denoted =
        ethers.getChecksumAddress (ethers.computeAddress found.privateKey) := segment.symm
    have same : denoted = ethers.computeAddress found.privateKey :=
      ethers.spelling_checksum spelled
    exact ⟨rfl, spelled.trans (congrArg ethers.getChecksumAddress same.symm)⟩

/-- For every key store, every key generated for it and every message that spells the
DID of the key's address in one of the documented ways: the message reaches the key
exactly when the spelling has the network segment and the checksummed digits. -/
theorem spelling_reaches_iff {history : KeyManager.History}
    (reached : KeyManager.Reached ethers (some table) history)
    (truthful : ∀ did, Truthful table (.getSignerForDID did) (oracle (.getSignerForDID did)))
    {entry : String × Wallet} (generated : entry ∈ history)
    (read : decode message = .ok (some decoded)) {spelling : Spelling}
    (spelled : decoded.voltaAssetDID =
      spelling.did (ethers.computeAddress entry.2.privateKey)) :
    Reaches ethers table client oracle message decoded entry.2 ↔
      spelling.network = true ∧
        spelling.address (ethers.computeAddress entry.2.privateKey) =
          entry.2.address ethers := by
  have records : KeyManager.Records ethers table history := reached.records
  have agree : KeyManager.RowsAgree ethers table := records.rowsAgree
  constructor
  · rintro ⟨found, located, _⟩
    rw [spelled] at located
    exact found_spelling agree located
  · rintro ⟨network, checksummed⟩
    have stored : entry.2 ∈ KeyManager.getAllSigners table := by
      rw [records.getAllSigners]
      exact List.mem_map_of_mem generated
    obtain ⟨found, located, _, same⟩ := agree.finds ethers stored
    have asset : Did.assetDID decoded.voltaAssetDID = Did.keyPairDID ethers entry.2 := by
      rw [Did.assetDID, spelled, fourthSegment_did, if_pos network, checksummed]
      rfl
    rw [← asset] at located
    exact reaches_of_found read truthful located same

/-- The DID with the network segment and the digits as they are stored reaches the key
`a`, and no call made for it fails. -/
theorem network_spelling_reaches :
    ((PrequalificationClient.sample.handle requestForA).trace
        (neverFailing KeyManager.twoKeys)).any (failed (neverFailing KeyManager.twoKeys)) = false ∧
      Reaches .sample KeyManager.twoKeys PrequalificationClient.sample
        (neverFailing KeyManager.twoKeys) requestForA ⟨didOfA, none⟩ ⟨"a"⟩ := by
  have reached : KeyManager.Reached .sample (some KeyManager.twoKeys)
      [(Did.keyPairDID .sample ⟨"a"⟩, ⟨"a"⟩), (Did.keyPairDID .sample ⟨"ab"⟩, ⟨"ab"⟩)] :=
    .generated _ _ ⟨"ab"⟩ (.opened _ _ (.generated _ _ ⟨"a"⟩ (.opened _ _ .fresh)))
  have truthful (did : String) : Truthful KeyManager.twoKeys (.getSignerForDID did)
      (neverFailing KeyManager.twoKeys (.getSignerForDID did)) := rfl
  have spelled : didOfA =
      Spelling.did ⟨true, fun _ => false⟩ (Ethers.sample.computeAddress "a") := by decide
  refine ⟨requestForA_unfailing, ?_⟩
  exact (spelling_reaches_iff reached truthful List.mem_cons_self requestForA_decoded
    spelled).mpr ⟨rfl, by decide⟩

/-- A request that spells the DID of the key `a` as the documentation does, without the
network segment. -/
def plainRequestForA : Message :=
  ⟨0, .prequalificationExchange,
    "\x7b\"did\":\"did:ethr:0x1111111111111111111111111111111111111111\"\x7d"⟩

/-- No call made for this request fails, and it does not reach the key. -/
theorem plain_spelling_missed : ∃ decoded,
    decode plainRequestForA = .ok (some decoded) ∧
      decoded.voltaAssetDID =
        Spelling.did ⟨false, fun _ => false⟩ (Ethers.sample.computeAddress "a") ∧
      ((PrequalificationClient.sample.handle plainRequestForA).trace
        (neverFailing KeyManager.twoKeys)).any (failed (neverFailing KeyManager.twoKeys)) =
          false ∧
      ¬ Reaches .sample KeyManager.twoKeys PrequalificationClient.sample
        (neverFailing KeyManager.twoKeys) plainRequestForA decoded ⟨"a"⟩ := by
  have read : decode plainRequestForA =
      .ok (some ⟨"did:ethr:0x1111111111111111111111111111111111111111", none⟩) := rfl
  have absent : KeyManager.getSignerForDID KeyManager.twoKeys
      (Did.assetDID "did:ethr:0x1111111111111111111111111111111111111111") = none := by decide
  refine ⟨_, read, by decide, ?_, ?_⟩
  · rw [handle_eq, read]
    have answered : neverFailing KeyManager.twoKeys (.getSignerForDID
        (Did.assetDID "did:ethr:0x1111111111111111111111111111111111111111")) = .ok none :=
      congrArg Except.ok absent
    simp only [sync, Program.ofExcept_ok, Program.done_bind, proceed, await, Program.call_bind,
      Program.trace, answered, List.any_cons, failed]
    rfl
  · rintro ⟨found, located, _⟩
    rw [absent] at located
    cases located

end EvDashboard.Spellings
