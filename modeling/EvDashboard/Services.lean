import EvDashboard.Documents

/-!
# What the external services answer

The signer provider answers from the stored keys, the cache server from the roles and the
accepted claims, and the DID registry from the documents. A publication appends one service
entry to the document of the key it is made with; no other call touches a document.

All models of the service share this relation. Each of them takes the records from its own
state, as closely as its results need them, and says itself which calls may fail and what is
noted of them.
-/

namespace EvDashboard

open JavaScript

/-- An entry that is appended to the document of a DID. -/
structure Addition where
  did : String
  entry : ServiceEntry

/-- The documents with what a call has added to them. -/
def Documents.after (documents : Documents) : Option Addition → Documents
  | none => documents
  | some addition => documents.append addition.did addition.entry

/-- What the services answer from: the stored signers, what may be found for a DID and for
the name of a role, the lists in which the accepted claims of a DID may come, the ids that a
token published with a key may lead to, and the documents. -/
structure Records where
  signers : List Wallet
  signerForDID : String → Option Wallet → Prop
  roleDefinition : String → Option RoleDefinition → Prop
  claims : String → List IssuedClaim → Prop
  entryId : String → Option Json → String → Prop
  documents : Documents

namespace Records

/-- How a call is answered that adds nothing to a document. -/
def Reads (records : Records) : (call : Call) → call.Answer → Prop
  | .getAllSigners, wallets => wallets = records.signers
  | .getSignerForDID did, found => records.signerForDID did found
  | .getRoleDefinition _ role, definition => records.roleDefinition role definition
  | .getClaimsBySubject _ did isAccepted, claims => isAccepted = true → records.claims did claims
  | .getDidDocument _ did _, document => document = records.documents did
  | _, _ => True

/-- How a call is answered that takes effect, and what it adds. -/
def Answers (records : Records) (ethers : Ethers) :
    (call : Call) → call.Answer → Option Addition → Prop
  | .publishPublicClaim key token, _, added => ∃ id endpoint, records.entryId key token id ∧
    added = some ⟨Did.sweepDID ethers ⟨key⟩, ⟨id, endpoint⟩⟩
  | call, answer, added => records.Reads call answer ∧ added = none

/-- Whatever is asked for can be answered. -/
structure Total (records : Records) : Prop where
  signerForDID : ∀ did, ∃ found, records.signerForDID did found
  roleDefinition : ∀ role, ∃ definition, records.roleDefinition role definition
  claims : ∀ did, ∃ claims, records.claims did claims
  entryId : ∀ key token, ∃ id, records.entryId key token id

variable {records : Records} {ethers : Ethers}

/-- Then no call is left open. -/
theorem Total.answered (total : records.Total) (call : Call) :
    ∃ answer added, records.Answers ethers call answer added := by
  cases call with
  | getAllSigners => exact ⟨_, _, rfl, rfl⟩
  | getSignerForDID did =>
    obtain ⟨found, known⟩ := total.signerForDID did
    exact ⟨found, _, known, rfl⟩
  | getRoleDefinition key role =>
    obtain ⟨definition, known⟩ := total.roleDefinition role
    exact ⟨definition, _, known, rfl⟩
  | getClaimsBySubject key did isAccepted =>
    obtain ⟨claims, listed⟩ := total.claims did
    exact ⟨claims, _, fun _ => listed, rfl⟩
  | getDidDocument key did includeClaims => exact ⟨_, _, rfl, rfl⟩
  | publishPublicClaim key token =>
    obtain ⟨id, leads⟩ := total.entryId key token
    exact ⟨none, _, id, "", leads, rfl⟩
  | initWithPrivateKeySigner key rpcUrl => exact ⟨(), _, trivial, rfl⟩
  | connectToCacheServer key messaging cache => exact ⟨(), _, trivial, rfl⟩
  | connectToDidRegistry key => exact ⟨(), _, trivial, rfl⟩
  | createClaimRequest key claim registrationTypes => exact ⟨(), _, trivial, rfl⟩

end Records

end EvDashboard
