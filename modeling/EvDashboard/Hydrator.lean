import EvDashboard.Async.Solo
import EvDashboard.Did
import EvDashboard.JavaScript.ParseFloat

/-!
# Creating DID documents and adding claims to them

A `DID` acts for two parties: the device, whose key comes from the signer provider, and
the operator, whose key it holds. Creating a document first transfers an amount from the
operator to the device. Adding a claim lets the device request a token, the operator
issue it, the store keep it, and the device's document point to it, in this order.

Every external step is a call that may fail, and nothing is caught. The amount of a
transfer is a JavaScript number until the wallet library turns it into wei.
-/

namespace EvDashboard

open Async JavaScript

/-- `RegistrySettings`; its method and ABI are the same everywhere. -/
structure RegistrySettings where
  address : String
deriving DecidableEq

/-- A wallet connected to a provider. -/
structure Identity where
  privateKey : String
  providerUrl : String
deriving DecidableEq

/-- `DIDDocumentFull`: a DID, and the operator that acts on its document. -/
structure DIDDocumentFull where
  did : String
  identity : Identity
  settings : RegistrySettings
deriving DecidableEq

/-- `IDidStore`, by where it is reached. -/
structure DidStore where
  url : String
deriving DecidableEq

/-- The value of a service point. -/
structure ServicePoint where
  id : String
  serviceEndpoint : String
  hash : String
  hashAlg : String
deriving DecidableEq

/-- The external steps. A claim is created or issued for the document that stands behind
the requesting or the issuing party. -/
inductive DidCall where
  | getSignerForDID (did : String)
  | sendTransaction (identity : Identity) (recipient : String) (value : Nat)
  | wait (hash : String)
  | getBalance (identity : Identity)
  | create (document : DIDDocumentFull)
  | createPublicClaim (document : DIDDocumentFull) (claimData : Json)
  | issuePublicClaim (document : DIDDocumentFull) (token : String)
  | save (store : DidStore) (claim : String)
  | uuid
  | updateServicePoint (document : DIDDocumentFull) (value : ServicePoint)

/-- What each step resolves with. -/
abbrev DidCall.Answer : DidCall → Type
  | getSignerForDID _ => Option Wallet
  | sendTransaction _ _ _ => String
  | wait _ => Unit
  | getBalance _ => Nat
  | create _ => Unit
  | createPublicClaim _ _ => String
  | issuePublicClaim _ _ => String
  | save _ _ => String
  | uuid => String
  | updateServicePoint _ _ => Unit

/-- Asynchronous code of the document library. -/
abbrev Hydrating (α : Type) := Program DidCall DidCall.Answer Exception α

/-- Await an external step. -/
def awaitDid (call : DidCall) : Hydrating call.Answer := Program.call call

/-- The parts of the DID and wallet libraries that are not modelled: the address in a
DID, the hash of a token, and what is thrown for a number that is no value. -/
structure DidLibrary where
  ethers : Ethers
  addressOf : String → Except Exception String
  sha256 : String → String
  numericFault : Exception

/-- A small stand-in for concrete runs: the address stands behind the method of a DID, and
the hash is that of the one token issued there. -/
def DidLibrary.sample : DidLibrary where
  ethers := .sample
  addressOf := fun did => .ok (element (splitText did ':') 2)
  sha256 := fun _ => "c91a3cc769f870fddc83082ba1274ed09441626dfe257c2c434684373a72e4ad"
  numericFault := .error "overflow"

/-- A number as the value of a transaction: an integer from zero to below `2 ^ 53`. -/
def DidLibrary.bigNumberify (library : DidLibrary) : Number → Except Exception Nat
  | .finite value =>
    if value.den = 1 ∧ 0 ≤ value.num ∧ value.num < 2 ^ 53 then .ok value.num.toNat
    else .error library.numericFault
  | _ => .error library.numericFault

def VOLTA_DID_REGISTRY : String := "0xd7CeF70Ba7efc2035256d828d5287e2D285CD1ac"

structure DID where
  resolverSettings : RegistrySettings
  operatorKey : String
  providerUrl : String
  didStore : Option DidStore
deriving DecidableEq

namespace DID

/-- `new DID({ … })`. -/
def new (operatorKey providerUrl : String) (didStore : Option DidStore)
    (didRegistryAddress : Option String) : DID where
  resolverSettings := ⟨didRegistryAddress.getD VOLTA_DID_REGISTRY⟩
  operatorKey := operatorKey
  providerUrl := providerUrl
  didStore := didStore

/-- The operator's wallet, connected. -/
def operator (self : DID) : Identity := ⟨self.operatorKey, self.providerUrl⟩

def instantiateSigner (did : String) : Hydrating Wallet := do
  match ← awaitDid (.getSignerForDID did) with
  | some signer => pure signer
  | none =>
    .rejected (.error "Unable to create DID Document as unable to retrieve signer")

/-- The document of a DID, acted on with the key of its signer. -/
def documentOf (self : DID) (did : String) (signer : Wallet) : DIDDocumentFull :=
  ⟨did, ⟨signer.privateKey, self.providerUrl⟩, self.resolverSettings⟩

/-- The operator's own document. -/
def issuingDocument (self : DID) (ethers : Ethers) : DIDDocumentFull :=
  ⟨Did.keyPairDID ethers ⟨self.operatorKey⟩, self.operator, self.resolverSettings⟩

def addClaim (library : DidLibrary) (self : DID) (did : String) (claimData : Json) :
    Hydrating Unit := do
  match self.didStore with
  | none => .rejected (.error "Unable to create claim as didStore/claimsStore not provided")
  | some store =>
    let signer ← instantiateSigner did
    let requestingDocument := self.documentOf did signer
    let token ← awaitDid (.createPublicClaim requestingDocument claimData)
    let issuedToken ←
      awaitDid (.issuePublicClaim (self.issuingDocument library.ethers) token)
    let url ← awaitDid (.save store issuedToken)
    let id ← awaitDid .uuid
    awaitDid (.updateServicePoint requestingDocument
      ⟨id, url, library.sha256 issuedToken, "SHA256"⟩)

/-- `wallet.sendTransaction({ to, value })`: the value is converted first. -/
def sendTransaction (library : DidLibrary) (identity : Identity) (recipient : String)
    (value : Number) : Hydrating String := do
  let wei ← Program.ofExcept (library.bigNumberify value)
  awaitDid (.sendTransaction identity recipient wei)

/-- `_mint`. -/
def mint (library : DidLibrary) (self : DID) (assetAddress : String) (valueInEther : Number) :
    Hydrating Unit := do
  let hash ← sendTransaction library self.operator assetAddress (valueInEther.times (10 ^ 18))
  awaitDid (.wait hash)
  let _ ← awaitDid (.getBalance self.operator)
  pure ()

def createDocument (library : DidLibrary) (self : DID) (did : String)
    (mintAmount : Option Number) : Hydrating Unit := do
  let signer ← instantiateSigner did
  let document := self.documentOf did signer
  let address ← Program.ofExcept (library.addressOf did)
  self.mint library address (mintAmount.getD (.finite (1 / 1000)))
  awaitDid (.create document)

/-- The operator pays for its own document. -/
def createDocumentForOperator (library : DidLibrary) (self : DID) : Hydrating Unit :=
  awaitDid (.create (self.issuingDocument library.ethers))

end DID

/-- The options of the command line that `create-document` reads. -/
structure Arguments where
  deviceDID : Option String
  transferAmount : Option String
  didRegistryAddress : Option String
  operatorKey : Option String
  providerUrl : Option String
deriving DecidableEq

/-- An option that is missing or empty ends the process with a message. -/
def checkForArg (property : String) (value : Option String) : Except Exception String :=
  match value with
  | none => .error (.error (property ++ " needs to be provided"))
  | some "" => .error (.error (property ++ " needs to be provided"))
  | some text => .ok text

def createDID (arguments : Arguments) : Except Exception DID := do
  let didRegistryAddress ← checkForArg "did-registry-address" arguments.didRegistryAddress
  let operatorKey ← checkForArg "operator-key" arguments.operatorKey
  let providerUrl ← checkForArg "provider-url" arguments.providerUrl
  let ipfsStore : DidStore := ⟨"https://ipfs.infura.io:5001/api/v0/"⟩
  pure (DID.new operatorKey providerUrl (some ipfsStore) (some didRegistryAddress))

/-- The `create-document` command. -/
def createDocumentCommand (library : DidLibrary) (arguments : Arguments) : Hydrating Unit := do
  let deviceDID ← Program.ofExcept (checkForArg "device-did" arguments.deviceDID)
  let transferAmount ← Program.ofExcept (checkForArg "transfer-amount" arguments.transferAmount)
  let did ← Program.ofExcept (createDID arguments)
  did.createDocument library deviceDID (some (parseFloat transferAmount))

end EvDashboard
