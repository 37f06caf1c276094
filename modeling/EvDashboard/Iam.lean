import EvDashboard.Async.Execution
import EvDashboard.Did
import EvDashboard.JavaScript.Runtime

/-!
# External calls of the prequalification client

The client awaits calls of two kinds: lookups in the signer provider, and calls
of the identity library, which reach the cache server, the DID registry and the
claim exchange. Each call of the library is made on behalf of one private key.

Creating the library's clients is itself three awaited calls. Between the first
and the second one the messaging and cache settings are written, always for the
same chain and to the same addresses; they travel here with the second call.
-/

namespace EvDashboard

open Async JavaScript

/-- An accepted claim as the cache server lists it. -/
structure IssuedClaim where
  id : String
  issuedToken : Option String
deriving DecidableEq

/-- A service entry of a DID document. -/
structure ServiceEntry where
  id : String
  serviceEndpoint : String
deriving DecidableEq

/-- A DID document; only its service entries are read. -/
structure DidDocument where
  service : List ServiceEntry
deriving DecidableEq

/-- A role as the cache server defines it. -/
structure RoleDefinition where
  version : Nat
deriving DecidableEq

/-- The claim type and version a request is made for. -/
structure ClaimData where
  claimType : String
  claimTypeVersion : Nat
deriving DecidableEq

inductive RegistrationType where
  | offChain
  | onChain
deriving DecidableEq

/-- The argument of `setMessagingConfig`; the messaging method is always NATS. -/
structure MessagingConfig where
  chainId : Nat
  natsServerUrl : String
deriving DecidableEq

/-- The argument of `setCacheConfig`. -/
structure CacheConfig where
  chainId : Nat
  url : String
  cacheServerSupportsAuth : Bool
deriving DecidableEq

/-- The awaited calls. A call of the identity library carries the private key it
is made with. -/
inductive Call where
  | getAllSigners
  | getSignerForDID (did : String)
  | initWithPrivateKeySigner (privateKey rpcUrl : String)
  | connectToCacheServer (privateKey : String) (messaging : MessagingConfig) (cache : CacheConfig)
  | connectToDidRegistry (privateKey : String)
  | getRoleDefinition (privateKey roleName : String)
  | createClaimRequest (privateKey : String) (claim : ClaimData)
      (registrationTypes : List RegistrationType)
  | publishPublicClaim (privateKey : String) (token : Option Json)
  | getClaimsBySubject (privateKey did : String) (isAccepted : Bool)
  | getDidDocument (privateKey did : String) (includeClaims : Bool)

/-- What each call resolves with. -/
abbrev Call.Answer : Call → Type
  | getAllSigners => List Wallet
  | getSignerForDID _ => Option Wallet
  | initWithPrivateKeySigner _ _ => Unit
  | connectToCacheServer _ _ _ => Unit
  | connectToDidRegistry _ => Unit
  | getRoleDefinition _ _ => Option RoleDefinition
  | createClaimRequest _ _ _ => Unit
  | publishPublicClaim _ _ => Option String
  | getClaimsBySubject _ _ _ => List IssuedClaim
  | getDidDocument _ _ _ => DidDocument

/-- The key a call is made with; lookups in the signer provider use none. -/
def Call.privateKey : Call → Option String
  | getAllSigners => none
  | getSignerForDID _ => none
  | initWithPrivateKeySigner key _ => some key
  | connectToCacheServer key _ _ => some key
  | connectToDidRegistry key => some key
  | getRoleDefinition key _ => some key
  | createClaimRequest key _ _ => some key
  | publishPublicClaim key _ => some key
  | getClaimsBySubject key _ _ => some key
  | getDidDocument key _ _ => some key

/-- The claim requests and claim publications. -/
def Call.isAction : Call → Bool
  | createClaimRequest _ _ _ => true
  | publishPublicClaim _ _ => true
  | _ => false

/-- Asynchronous code of the prequalification client. -/
abbrev Awaiting (α : Type) := Program Call Call.Answer Exception α

/-- Await one of the calls. -/
def await (call : Call) : Awaiting call.Answer := Program.call call

/-- Synchronous code that may throw. -/
def sync {α : Type} (outcome : Except Exception α) : Awaiting α := Program.ofExcept outcome

/-- `IamClientLibFactory` with the one parameter `create` reads. -/
structure IamClientLibFactory where
  rpcUrl : String

/-- The services returned by `create`; both make their calls with one key. -/
structure IamClients where
  privateKey : String
deriving DecidableEq

/-- The settings `create` writes. The chain and both addresses are constants. -/
def messagingConfig : MessagingConfig := ⟨73799, "http://localhost:9222"⟩

def cacheConfig : CacheConfig := ⟨73799, "http://localhost:3000/v1", true⟩

/-- `IamClientLibFactory.create`. -/
def IamClientLibFactory.create (factory : IamClientLibFactory) (privateKey : String) :
    Awaiting IamClients := do
  await (.initWithPrivateKeySigner privateKey factory.rpcUrl)
  await (.connectToCacheServer privateKey messagingConfig cacheConfig)
  await (.connectToDidRegistry privateKey)
  pure ⟨privateKey⟩

end EvDashboard
