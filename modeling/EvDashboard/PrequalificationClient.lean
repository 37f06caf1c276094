import EvDashboard.Asset

/-!
# The prequalification client

Starting the client starts the NATS connection, without awaiting it, and then
checks every stored asset for claims to publish. Each message that later arrives
on one of the two subscribed subjects is handled by its own asynchronous callback.
The startup check spells an asset's DID with a network segment; the callbacks
take the address from the fourth segment and look up the spelling without it.
-/

namespace EvDashboard

open Async JavaScript

/-- `PrequalificationClient` together with the argument of `init` its callbacks use. -/
structure PrequalificationClient where
  iamClientLibFactory : IamClientLibFactory
  prequalificationRole : PrequalificationRole

/-- The two subscriptions. -/
inductive Subject where
  | prequalificationExchange
  | claimExchange
deriving DecidableEq

/-- A delivered message; the number tells equal payloads apart. -/
structure Message where
  number : Nat
  subject : Subject
  data : String
deriving DecidableEq

namespace PrequalificationClient

/-- A small client for concrete runs. -/
def sample : PrequalificationClient := ⟨⟨"rpc"⟩, ⟨"role"⟩⟩

/-- The asset DID a callback derives from the field `key` of a parsed message. -/
def assetDIDOf (json : Json) (key : String) : Except Exception String := do
  let voltaAssetDID ← property json key
  let segments ← split voltaAssetDID ':'
  pure ("did:ethr:" ++ element segments 3)

/-- The callback for prequalification requests. -/
def onPrequalificationRequest (client : PrequalificationClient) (data : String) :
    Awaiting Unit := do
  let json ← sync (parseJson data)
  let assetDID ← sync (assetDIDOf json "did")
  match ← await (.getSignerForDID assetDID) with
  | none => pure ()
  | some wallet =>
    let asset : Asset := ⟨assetDID, wallet, client.iamClientLibFactory⟩
    asset.requestPrequalification client.prequalificationRole

/-- The callback for issued claims. The token is tested before the requester is
read, so a message without a token is dropped whatever its requester. -/
def onClaimExchange (client : PrequalificationClient) (data : String) : Awaiting Unit := do
  let message ← sync (parseJson data)
  let issuedToken ← sync (property message "issuedToken")
  if Json.truthy issuedToken then
    let assetDID ← sync (assetDIDOf message "requester")
    match ← await (.getSignerForDID assetDID) with
    | none => pure ()
    | some signer =>
      let asset : Asset := ⟨assetDID, signer, client.iamClientLibFactory⟩
      let _ ← asset.publishPublicClaim issuedToken
      pure ()
  else pure ()

/-- The callback subscribed for a message's subject. -/
def handle (client : PrequalificationClient) (message : Message) : Awaiting Unit :=
  match message.subject with
  | .prequalificationExchange => client.onPrequalificationRequest message.data
  | .claimExchange => client.onClaimExchange message.data

/-- One iteration of the startup check. -/
def checkWallet (client : PrequalificationClient) (ethers : Ethers) (wallet : Wallet) :
    Awaiting PUnit :=
  let asset : Asset := ⟨Did.sweepDID ethers wallet, wallet, client.iamClientLibFactory⟩
  asset.checkForClaimsToPublish

/-- `init` from its first await on. Before it, the connection object was created
and `_connect` called. -/
def init (client : PrequalificationClient) (ethers : Ethers) : Awaiting PUnit := do
  let wallets ← await .getAllSigners
  wallets.forM (client.checkWallet ethers)

end PrequalificationClient

end EvDashboard
