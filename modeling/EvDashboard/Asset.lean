import EvDashboard.Iam

/-!
# Assets

An asset is a DID together with the wallet that acts for it. It requests its
prequalification, publishes one claim, or publishes the accepted claims that its
DID document lacks. Each of the three first creates its own library clients.
-/

namespace EvDashboard

open Async JavaScript

/-- `IPrequalificationRole`; the name of the issuer's role is not read. -/
structure PrequalificationRole where
  roleName : String

/-- `Asset`. -/
structure Asset where
  did : String
  wallet : Wallet
  iamClientLibFactory : IamClientLibFactory

namespace Asset

/-- The error thrown for a role without definition. -/
def unknownRole (role : PrequalificationRole) : Exception :=
  .error ("role " ++ role.roleName ++ " not known to cache server")

def requestPrequalification (asset : Asset) (role : PrequalificationRole) : Awaiting Unit := do
  let clients ← asset.iamClientLibFactory.create asset.wallet.privateKey
  match ← await (.getRoleDefinition clients.privateKey role.roleName) with
  | none => sync (.error (unknownRole role))
  | some roleDef =>
    await (.createClaimRequest clients.privateKey ⟨role.roleName, roleDef.version⟩ [.offChain])

/-- An absent or empty address is replaced by a remark. -/
def ipfsUrlOrRemark (ipfsUrl : Option String) : String :=
  match ipfsUrl with
  | some url => if url = "" then "No IPFS URL returned" else url
  | none => "No IPFS URL returned"

def publishPublicClaim (asset : Asset) (token : Option Json) : Awaiting String := do
  let clients ← asset.iamClientLibFactory.create asset.wallet.privateKey
  let ipfsUrl ← await (.publishPublicClaim clients.privateKey token)
  pure (ipfsUrlOrRemark ipfsUrl)

/-- `didDoc.service.filter((s) => s.id === issuedClaim.id).length < 1`. -/
def missing (didDoc : DidDocument) (issuedClaim : IssuedClaim) : Bool :=
  (didDoc.service.filter (fun s => s.id = issuedClaim.id)).length < 1

/-- The token argument with which the sweep publishes a claim. -/
def claimToken (issuedClaim : IssuedClaim) : Option Json := issuedClaim.issuedToken.map Json.string

/-- One iteration of the publishing loop, against the document read before it. -/
def publishMissing (clients : IamClients) (didDoc : DidDocument) (issuedClaim : IssuedClaim) :
    Awaiting PUnit :=
  if missing didDoc issuedClaim then do
    let _ ← await (.publishPublicClaim clients.privateKey (claimToken issuedClaim))
    pure ⟨⟩
  else pure ⟨⟩

def checkForClaimsToPublish (asset : Asset) : Awaiting PUnit := do
  let clients ← asset.iamClientLibFactory.create asset.wallet.privateKey
  let issuedClaims ← await (.getClaimsBySubject clients.privateKey asset.did true)
  let didDoc ← await (.getDidDocument clients.privateKey asset.did true)
  issuedClaims.forM (publishMissing clients didDoc)

/-- A claim is missing when no service entry carries its id. -/
theorem missing_iff (didDoc : DidDocument) (issuedClaim : IssuedClaim) :
    missing didDoc issuedClaim = true ↔ ∀ entry ∈ didDoc.service, entry.id ≠ issuedClaim.id := by
  simp only [missing, decide_eq_true_eq, Nat.lt_one_iff, List.length_eq_zero_iff,
    List.filter_eq_nil_iff]

end Asset

end EvDashboard
