import EvDashboard.EvDashboardRegistry
import EvDashboard.Transition

/-!
# The OCN registry contract

The contract lists node operators with their domains, and parties with the operator
each of them uses. A domain belongs to one operator, a combination of country code and
party id to one party. Every listing can be changed by its own account or by anybody
who presents that account's signature; the owner of the contract can delete listings.

An external function first finds out for whom it acts, and then does one of six
things. The first part is `authorise`, the second `Action.perform`. A failed requirement
reverts both, so that the accepted calls alone determine what is stored. Strings are
sequences of bytes here, as they are for the contract.
-/

namespace EvDashboard.Registry

open EvDashboardRegistry (assign assign_same assign_other require require_then messageDigest)

abbrev Bytes := List UInt8

/-- `bytes2`. -/
structure CountryCode where
  first : UInt8
  second : UInt8
deriving DecidableEq

/-- `bytes3`. -/
structure PartyId where
  first : UInt8
  second : UInt8
  third : UInt8
deriving DecidableEq

def CountryCode.zero : CountryCode := ⟨0, 0⟩

def PartyId.zero : PartyId := ⟨0, 0, 0⟩

def CountryCode.bytes (code : CountryCode) : Bytes := [code.first, code.second]

def PartyId.bytes (id : PartyId) : Bytes := [id.first, id.second, id.third]

inductive Role where
  | CPO
  | EMSP
  | HUB
  | NAP
  | NSP
  | OTHER
  | SCSP
deriving DecidableEq

inductive Module where
  | cdrs
  | chargingprofiles
  | commands
  | locations
  | sessions
  | tariffs
  | tokens
deriving DecidableEq

def Role.index : Role → UInt8
  | CPO => 0
  | EMSP => 1
  | HUB => 2
  | NAP => 3
  | NSP => 4
  | OTHER => 5
  | SCSP => 6

def Module.index : Module → UInt8
  | cdrs => 0
  | chargingprofiles => 1
  | commands => 2
  | locations => 3
  | sessions => 4
  | tariffs => 5
  | tokens => 6

/-- An element of an array, packed: arrays pad their elements to 32 bytes. -/
def word (index : UInt8) : Bytes := List.replicate 31 0 ++ [index]

structure PartyModules where
  sender : List Module
  receiver : List Module
deriving DecidableEq

structure PartyDetails where
  countryCode : CountryCode
  partyId : PartyId
  roles : List Role
  modules : PartyModules
deriving DecidableEq

/-- The details of an address that is no party. -/
def PartyDetails.empty : PartyDetails := ⟨.zero, .zero, [], ⟨[], []⟩⟩

/-- A country code with a party id, as parties are looked up by. -/
abbrev Combination := CountryCode × PartyId

/-- The combination a party is listed under. -/
def PartyDetails.combination (details : PartyDetails) : Combination :=
  (details.countryCode, details.partyId)

/-- The storage of the contract, with the owner that `Ownable` keeps. -/
structure Storage where
  owner : Address
  nodeOf : Address → Bytes
  uniqueDomains : Bytes → Bool
  uniqueOperators : Address → Bool
  operators : List Address
  uniqueParties : Combination → Address
  uniquePartyAddresses : Address → Bool
  partyOf : Address → PartyDetails
  operatorOf : Address → Address
  parties : List Address

/-- The storage of a freshly deployed contract. -/
def deployed (owner : Address) : Storage :=
  ⟨owner, fun _ => [], fun _ => false, fun _ => false, [], fun _ => .zero, fun _ => false,
    fun _ => .empty, fun _ => .zero, []⟩

inductive Event where
  | OperatorUpdate (operator : Address) (domain : Bytes)
  | PartyUpdate (countryCode : CountryCode) (partyId : PartyId) (partyAddress : Address)
      (roles : List Role) (modulesSender modulesReceiver : List Module)
      (operatorAddress : Address)
  | OwnershipTransferred (previousOwner newOwner : Address)
deriving DecidableEq

/-- A private function of the contract, with the listing it acts on, or a change of its
owner. -/
inductive Action where
  | setNode (operator : Address) (domain : Bytes)
  | deleteNode (operator : Address)
  | setParty (party : Address) (countryCode : CountryCode) (partyId : PartyId)
      (roles : List Role) (operator : Address)
  | setPartyModules (party : Address) (sender receiver : List Module)
  | deleteParty (party : Address)
  | transferOwnership (newOwner : Address)
deriving DecidableEq

def setNode (operator : Address) (domain : Bytes) (storage : Storage) :
    Except String (Storage × Event) := do
  require (domain.length ≠ 0) "Cannot set empty domain name. Use deleteNode method instead."
  require (storage.uniqueDomains domain = false) "Domain name already registered."
  pure ({ storage with
    uniqueDomains := assign storage.uniqueDomains domain true
    operators :=
      if storage.uniqueOperators operator = false then storage.operators ++ [operator]
      else storage.operators
    uniqueOperators := assign storage.uniqueOperators operator true
    nodeOf := assign storage.nodeOf operator domain }, .OperatorUpdate operator domain)

def deleteNode (operator : Address) (storage : Storage) : Except String (Storage × Event) := do
  let domain := storage.nodeOf operator
  require (domain.length > 0) "Cannot delete node that does not exist."
  pure ({ storage with
    uniqueDomains := assign storage.uniqueDomains domain false
    nodeOf := assign storage.nodeOf operator [] }, .OperatorUpdate operator [])

def setParty (party : Address) (countryCode : CountryCode) (partyId : PartyId)
    (roles : List Role) (operator : Address) (storage : Storage) :
    Except String (Storage × Event) := do
  require (countryCode ≠ .zero) "Cannot set empty country_code. Use deleteParty method instead."
  require (partyId ≠ .zero) "Cannot set empty party_id. Use deleteParty method instead."
  require (roles.length > 0) "No roles provided."
  require (operator ≠ .zero) "Cannot set empty operator. Use deleteParty method instead."
  let registeredParty := storage.uniqueParties (countryCode, partyId)
  require (registeredParty = .zero ∨ registeredParty = party)
    "Party with country_code/party_id already registered under different address."
  require ((storage.nodeOf operator).length ≠ 0) "Provided operator not registered."
  pure ({ storage with
    uniqueParties := assign storage.uniqueParties (countryCode, partyId) party
    parties :=
      if storage.uniquePartyAddresses party = false then storage.parties ++ [party]
      else storage.parties
    uniquePartyAddresses := assign storage.uniquePartyAddresses party true
    partyOf := assign storage.partyOf party ⟨countryCode, partyId, roles, ⟨[], []⟩⟩
    operatorOf := assign storage.operatorOf party operator },
    .PartyUpdate countryCode partyId party roles [] [] operator)

def setPartyModules (party : Address) (sender receiver : List Module) (storage : Storage) :
    Except String (Storage × Event) := do
  let operator := storage.operatorOf party
  require (operator ≠ .zero) "Party not registered. Use setParty method first."
  let details := { storage.partyOf party with modules := ⟨sender, receiver⟩ }
  pure ({ storage with partyOf := assign storage.partyOf party details },
    .PartyUpdate details.countryCode details.partyId party details.roles sender receiver operator)

def deleteParty (party : Address) (storage : Storage) : Except String (Storage × Event) := do
  require (storage.operatorOf party ≠ .zero)
    "Cannot delete party that does not exist. No operator found for given party."
  let details := storage.partyOf party
  pure ({ storage with
    operatorOf := assign storage.operatorOf party .zero
    uniqueParties := assign storage.uniqueParties (details.countryCode, details.partyId) .zero
    partyOf := assign storage.partyOf party .empty },
    .PartyUpdate details.countryCode details.partyId party [] [] [] .zero)

/-- `Ownable` keeps the owner and says so. -/
def transferOwnership (newOwner : Address) (storage : Storage) :
    Except String (Storage × Event) :=
  pure ({ storage with owner := newOwner }, .OwnershipTransferred storage.owner newOwner)

def Action.perform : Action → Storage → Except String (Storage × Event)
  | .setNode operator domain => Registry.setNode operator domain
  | .deleteNode operator => Registry.deleteNode operator
  | .setParty party countryCode partyId roles operator =>
    Registry.setParty party countryCode partyId roles operator
  | .setPartyModules party sender receiver => Registry.setPartyModules party sender receiver
  | .deleteParty party => Registry.deleteParty party
  | .transferOwnership newOwner => Registry.transferOwnership newOwner

/-- A call of an external function. -/
inductive Call where
  | adminDeleteOperator (operator : Address)
  | adminDeleteParty (countryCode : CountryCode) (partyId : PartyId)
  | setNode (domain : Bytes)
  | setNodeRaw (operator : Address) (domain : Bytes) (signature : Signature)
  | deleteNode
  | deleteNodeRaw (operator : Address) (signature : Signature)
  | setParty (countryCode : CountryCode) (partyId : PartyId) (roles : List Role)
      (operator : Address)
  | setPartyRaw (party : Address) (countryCode : CountryCode) (partyId : PartyId)
      (roles : List Role) (operator : Address) (signature : Signature)
  | setPartyModules (sender receiver : List Module)
  | setPartyModulesRaw (party : Address) (sender receiver : List Module) (signature : Signature)
  | deleteParty
  | deletePartyRaw (party : Address) (signature : Signature)
  | transferOwnership (newOwner : Address)
  | renounceOwnership
deriving DecidableEq

/-- The call asks for a listing of `address(0)`. -/
def Call.ListsZero : Call → Prop
  | .setPartyRaw party _ _ _ _ _ => party = .zero
  | _ => False

/-- `abi.encodePacked(party, countryCode, partyId, roles, operator)`. -/
def packParty (party : Address) (countryCode : CountryCode) (partyId : PartyId)
    (roles : List Role) (operator : Address) : Bytes :=
  party.bytes ++ countryCode.bytes ++ partyId.bytes ++
    roles.flatMap (fun role => word role.index) ++ operator.bytes

/-- `abi.encodePacked(party, sender, receiver)`. -/
def packModules (party : Address) (sender receiver : List Module) : Bytes :=
  party.bytes ++ sender.flatMap (fun module => word module.index) ++
    receiver.flatMap (fun module => word module.index)

/-- The signer that is recovered for packed parameters. An invalid signature recovers
`address(0)`. -/
def recover (crypto : Crypto) (packed : Bytes) (signature : Signature) : Address :=
  crypto.ecrecover (messageDigest crypto (crypto.ethers.keccak256 packed)) signature

def onlyOwner (sender : Address) (storage : Storage) : Except String Unit :=
  require (sender = storage.owner) "Ownable: caller is not the owner"

/-- The part of an external function that stands before the private one: for whom the
call acts, if it may. Only the raw functions for parties compare the signer with the
address they are given. -/
def authorise (crypto : Crypto) (sender : Address) (storage : Storage) :
    Call → Except String Action
  | .adminDeleteOperator operator => do
    onlyOwner sender storage
    pure (.deleteNode operator)
  | .adminDeleteParty countryCode partyId => do
    onlyOwner sender storage
    pure (.deleteParty (storage.uniqueParties (countryCode, partyId)))
  | .setNode domain => pure (.setNode sender domain)
  | .setNodeRaw operator domain signature =>
    pure (.setNode (recover crypto (operator.bytes ++ domain) signature) domain)
  | .deleteNode => pure (.deleteNode sender)
  | .deleteNodeRaw operator signature =>
    pure (.deleteNode (recover crypto operator.bytes signature))
  | .setParty countryCode partyId roles operator =>
    pure (.setParty sender countryCode partyId roles operator)
  | .setPartyRaw party countryCode partyId roles operator signature => do
    let signer := recover crypto (packParty party countryCode partyId roles operator) signature
    require (signer = party) "Signer and provided party address different."
    pure (.setParty signer countryCode partyId roles operator)
  | .setPartyModules sender' receiver => pure (.setPartyModules sender sender' receiver)
  | .setPartyModulesRaw party sender' receiver signature => do
    let signer := recover crypto (packModules party sender' receiver) signature
    require (signer = party) "Signer and provided party address different."
    pure (.setPartyModules signer sender' receiver)
  | .deleteParty => pure (.deleteParty sender)
  | .deletePartyRaw party signature => do
    let signer := recover crypto party.bytes signature
    require (signer = party) "Signer and provided party address different."
    pure (.deleteParty signer)
  | .transferOwnership newOwner => do
    onlyOwner sender storage
    require (newOwner ≠ .zero) "Ownable: new owner is the zero address"
    pure (.transferOwnership newOwner)
  | .renounceOwnership => do
    onlyOwner sender storage
    pure (.transferOwnership .zero)

/-- Execute a call of an account. -/
def execute (crypto : Crypto) (sender : Address) (call : Call) (storage : Storage) :
    Except String (Storage × Event) := do
  let action ← authorise crypto sender storage call
  action.perform storage

def getNode (storage : Storage) (operator : Address) : Bytes := storage.nodeOf operator

def getNodeOperators (storage : Storage) : List Address := storage.operators

/-- The operator of a party and its domain. -/
def getOperatorByAddress (storage : Storage) (party : Address) : Address × Bytes :=
  let operator := storage.operatorOf party
  (operator, storage.nodeOf operator)

def getOperatorByOcpi (storage : Storage) (countryCode : CountryCode) (partyId : PartyId) :
    Address × Bytes :=
  getOperatorByAddress storage (storage.uniqueParties (countryCode, partyId))

/-- What is known of a party: its details, its operator and the operator's domain. -/
def getPartyDetailsByAddress (storage : Storage) (partyAddress : Address) :
    PartyDetails × Address × Bytes :=
  (storage.partyOf partyAddress, getOperatorByAddress storage partyAddress)

/-- The party behind a combination, and what is known of it. -/
def getPartyDetailsByOcpi (storage : Storage) (countryCode : CountryCode) (partyId : PartyId) :
    Address × PartyDetails × Address × Bytes :=
  let partyAddress := storage.uniqueParties (countryCode, partyId)
  (partyAddress, getPartyDetailsByAddress storage partyAddress)

def getParties (storage : Storage) : List Address := storage.parties

variable {crypto : Crypto} {storage next : Storage} {event : Event}

/-- When a domain is linked, and what is written then. -/
theorem setNode_ok_iff {operator : Address} {domain : Bytes} :
    setNode operator domain storage = .ok (next, event) ↔
      domain ≠ [] ∧ storage.uniqueDomains domain = false ∧
      next = { storage with
        uniqueDomains := assign storage.uniqueDomains domain true
        operators :=
          if storage.uniqueOperators operator = false then storage.operators ++ [operator]
          else storage.operators
        uniqueOperators := assign storage.uniqueOperators operator true
        nodeOf := assign storage.nodeOf operator domain } ∧
      event = .OperatorUpdate operator domain := by
  simp only [setNode, require_then, decide_eq_true_eq, ne_eq, List.length_eq_zero_iff]
  constructor
  · rintro ⟨nonempty, fresh, same⟩
    cases same
    exact ⟨nonempty, fresh, rfl, rfl⟩
  · rintro ⟨nonempty, fresh, rfl, rfl⟩
    exact ⟨nonempty, fresh, rfl⟩

/-- When a domain is unlinked, and what is written then. -/
theorem deleteNode_ok_iff {operator : Address} :
    deleteNode operator storage = .ok (next, event) ↔
      storage.nodeOf operator ≠ [] ∧
      next = { storage with
        uniqueDomains := assign storage.uniqueDomains (storage.nodeOf operator) false
        nodeOf := assign storage.nodeOf operator [] } ∧
      event = .OperatorUpdate operator [] := by
  simp only [deleteNode, require_then, decide_eq_true_eq, ne_eq, List.length_pos_iff]
  constructor
  · rintro ⟨nonempty, same⟩
    cases same
    exact ⟨nonempty, rfl, rfl⟩
  · rintro ⟨nonempty, rfl, rfl⟩
    exact ⟨nonempty, rfl⟩

/-- When a party is listed, and what is written then. -/
theorem setParty_ok_iff {party operator : Address} {countryCode : CountryCode}
    {partyId : PartyId} {roles : List Role} :
    setParty party countryCode partyId roles operator storage = .ok (next, event) ↔
      (countryCode ≠ .zero ∧ partyId ≠ .zero ∧ roles ≠ [] ∧ operator ≠ .zero ∧
        (storage.uniqueParties (countryCode, partyId) = .zero ∨
          storage.uniqueParties (countryCode, partyId) = party) ∧
        storage.nodeOf operator ≠ []) ∧
      next = { storage with
        uniqueParties := assign storage.uniqueParties (countryCode, partyId) party
        parties :=
          if storage.uniquePartyAddresses party = false then storage.parties ++ [party]
          else storage.parties
        uniquePartyAddresses := assign storage.uniquePartyAddresses party true
        partyOf := assign storage.partyOf party ⟨countryCode, partyId, roles, ⟨[], []⟩⟩
        operatorOf := assign storage.operatorOf party operator } ∧
      event = .PartyUpdate countryCode partyId party roles [] [] operator := by
  simp only [setParty, require_then, decide_eq_true_eq, ne_eq, List.length_eq_zero_iff,
    gt_iff_lt, List.length_pos_iff]
  constructor
  · rintro ⟨country, id, filled, operating, free, known, same⟩
    cases same
    exact ⟨⟨country, id, filled, operating, free, known⟩, rfl, rfl⟩
  · rintro ⟨⟨country, id, filled, operating, free, known⟩, rfl, rfl⟩
    exact ⟨country, id, filled, operating, free, known, rfl⟩

/-- When the modules of a party are set, and what is written then. -/
theorem setPartyModules_ok_iff {party : Address} {sender receiver : List Module} :
    setPartyModules party sender receiver storage = .ok (next, event) ↔
      storage.operatorOf party ≠ .zero ∧
      next = { storage with
        partyOf := assign storage.partyOf party
          { storage.partyOf party with modules := ⟨sender, receiver⟩ } } ∧
      event = .PartyUpdate (storage.partyOf party).countryCode (storage.partyOf party).partyId
        party (storage.partyOf party).roles sender receiver (storage.operatorOf party) := by
  simp only [setPartyModules, require_then, decide_eq_true_eq, ne_eq]
  constructor
  · rintro ⟨listed, same⟩
    cases same
    exact ⟨listed, rfl, rfl⟩
  · rintro ⟨listed, rfl, rfl⟩
    exact ⟨listed, rfl⟩

/-- When a party is deleted, and what is written then. -/
theorem deleteParty_ok_iff {party : Address} :
    deleteParty party storage = .ok (next, event) ↔
      storage.operatorOf party ≠ .zero ∧
      next = { storage with
        operatorOf := assign storage.operatorOf party .zero
        uniqueParties := assign storage.uniqueParties (storage.partyOf party).combination .zero
        partyOf := assign storage.partyOf party .empty } ∧
      event = .PartyUpdate (storage.partyOf party).countryCode (storage.partyOf party).partyId
        party [] [] [] .zero := by
  simp only [deleteParty, require_then, decide_eq_true_eq, ne_eq]
  constructor
  · rintro ⟨listed, same⟩
    cases same
    exact ⟨listed, rfl, rfl⟩
  · rintro ⟨listed, rfl, rfl⟩
    exact ⟨listed, rfl⟩

/-- An account that can send a transaction: nobody has a key of `address(0)`. -/
abbrev Account := { address : Address // address ≠ .zero }

/-- A call with its sender. -/
structure Message where
  sender : Account
  call : Call

/-- Accept a call; a refused one has no successor. -/
def step (crypto : Crypto) (storage : Storage) (message : Message) : Option Storage :=
  match execute crypto message.sender message.call storage with
  | .ok (next, _) => some next
  | .error _ => none

/-- An executed call was authorised, and its action was performed. -/
theorem execute_ok_iff {sender : Address} {call : Call} {outcome : Storage × Event} :
    execute crypto sender call storage = .ok outcome ↔
      ∃ action, authorise crypto sender storage call = .ok action ∧
        action.perform storage = .ok outcome := by
  unfold execute
  cases authorise crypto sender storage call with
  | error message =>
    constructor
    · intro ran
      cases ran
    · rintro ⟨_, same, _⟩
      cases same
  | ok action =>
    constructor
    · intro ran
      exact ⟨action, rfl, ran⟩
    · rintro ⟨_, same, ran⟩
      cases same
      exact ran

/-- An accepted call was authorised, and its action was performed. -/
theorem step_iff {message : Message} :
    step crypto storage message = some next ↔
      ∃ action event, authorise crypto message.sender storage message.call = .ok action ∧
        action.perform storage = .ok (next, event) := by
  unfold step
  constructor
  · intro stepped
    split at stepped
    · rename_i executed
      obtain rfl := Option.some.inj stepped
      obtain ⟨action, authorised, performed⟩ := execute_ok_iff.mp executed
      exact ⟨action, _, authorised, performed⟩
    · cases stepped
  · rintro ⟨action, event, authorised, performed⟩
    rw [execute_ok_iff.mpr ⟨action, authorised, performed⟩]

end EvDashboard.Registry
