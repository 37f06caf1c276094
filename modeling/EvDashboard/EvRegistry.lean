import EvDashboard.Async.Solo
import EvDashboard.EvDashboardRegistry
import EvDashboard.JavaScript.Runtime

/-!
# The registry client

The client reads the contract's lists and sends transactions to it, in the name of
one operator key. A read is answered from the contract's current storage, with
addresses in checksummed form. A transaction is sent with an explicit gas limit and
therefore without an estimate of its execution: the call resolves as soon as the
node has taken the transaction, and neither function awaits that it is mined.

Against one fixed storage each function has an outcome lemma: how the call settles
and which transactions it sends.
-/

namespace EvDashboard

open Async JavaScript EvDashboardRegistry

/-- An awaited call of the contract object. -/
inductive ChainCall where
  | getAllUserAddresses
  | getAllDeviceAddresses
  | getDeviceFromIdentifier (identifier : String)
  | send (transaction : Transaction)

/-- What each call resolves with; a sent transaction is pending from then on. -/
abbrev ChainCall.Answer : ChainCall → Type
  | getAllUserAddresses => List String
  | getAllDeviceAddresses => List String
  | getDeviceFromIdentifier _ => String × String
  | send _ => Unit

/-- The transaction a call sends. -/
def ChainCall.transaction : ChainCall → Option Transaction
  | send transaction => some transaction
  | _ => none

/-- Asynchronous code of the registry client. -/
abbrev OnChain (α : Type) := Program ChainCall ChainCall.Answer Exception α

/-- Await a call of the contract object. -/
def awaitChain (call : ChainCall) : OnChain call.Answer := Program.call call

/-- An argument of `soliditySha3`: a text, whose type is guessed, or a buffer. -/
inductive Param where
  | text (value : String)
  | buffer (bytes : List UInt8)

/-- The bytes an argument contributes. -/
def Param.packed (crypto : Crypto) : Param → List UInt8
  | text value => crypto.packText value
  | buffer bytes => crypto.packBuffer bytes

def soliditySha3 (crypto : Crypto) (params : List Param) : List UInt8 :=
  crypto.ethers.keccak256 (params.flatMap (Param.packed crypto))

/-- The digest `signMessage` signs: the message behind a prefix that counts its bytes. -/
def hashMessage (crypto : Crypto) (message : List UInt8) : List UInt8 :=
  crypto.ethers.keccak256
    (utf8 ("\u0019Ethereum Signed Message:\n" ++ toString message.length) ++ message)

/-- The address an address argument of a contract call denotes. A text that is no
spelling of an address is taken for a name, which the chain does not support. -/
def resolveName (crypto : Crypto) (text : String) : Except Exception Address :=
  match crypto.ethers.getAddress text with
  | some address => .ok address
  | none => .error (.error "network does not support ENS")

/-- `EvRegistry` with the private key its contract object signs with. -/
structure EvRegistry where
  operatorKey : String
deriving DecidableEq

/-- A device with its user, as `getRegisteredDevice` returns it. -/
structure RegisteredDevice where
  deviceAddress : String
  userAddress : String
deriving DecidableEq

namespace EvRegistry

variable (registry : EvRegistry) (crypto : Crypto)

/-- The operator's address. -/
def operator : Address := crypto.ethers.computeAddress registry.operatorKey

/-- `signer.getAddress()`. -/
def signerAddress : String := crypto.ethers.getChecksumAddress (registry.operator crypto)

def userExists : OnChain Bool := do
  let user := registry.signerAddress crypto
  let listed : List String ← awaitChain .getAllUserAddresses
  pure (listed.contains user)

def deviceExists (address : String) : OnChain Bool := do
  let listed : List String ← awaitChain .getAllDeviceAddresses
  pure (listed.contains address)

def getRegisteredDevice (uid : String) : OnChain (Option RegisteredDevice) :=
  if uid = "" then pure none
  else do
    let deviceAddresses : String × String ← awaitChain (.getDeviceFromIdentifier uid)
    pure (some ⟨deviceAddresses.1, deviceAddresses.2⟩)

/-- `_getSignature`: sign the hash of the packed parameters. -/
def getSignature (params : List Param) : Signature :=
  crypto.signDigest registry.operatorKey (hashMessage crypto (soliditySha3 crypto params))

/-- The signature `addUser` sends. -/
def userSignature : Signature :=
  registry.getSignature crypto [.text (registry.signerAddress crypto)]

/-- The signature `addDevice` sends. The uid goes in as a buffer, so that it is not
parsed as an integer. -/
def deviceSignature (address uid : String) : Signature :=
  registry.getSignature crypto
    [.text address, .buffer (utf8 uid), .text (registry.signerAddress crypto)]

def addUser : OnChain Unit := do
  if ← registry.userExists crypto then pure ()
  else
    let user ← Program.ofExcept (resolveName crypto (registry.signerAddress crypto))
    awaitChain (.send (.addUser user (registry.userSignature crypto)))

def addDevice (address uid : String) : OnChain Unit := do
  if ← deviceExists address then pure ()
  else
    let signature := registry.deviceSignature crypto address uid
    let device ← Program.ofExcept (resolveName crypto address)
    let user ← Program.ofExcept (resolveName crypto (registry.signerAddress crypto))
    awaitChain (.send (.addDevice device uid user signature))

/-- A call of one of the public functions. -/
inductive Request where
  | userExists
  | deviceExists (address : String)
  | getRegisteredDevice (uid : String)
  | addUser
  | addDevice (address uid : String)

/-- Make one call; what a query returns is left to its caller. -/
def perform : Request → OnChain Unit
  | .userExists => do
    let _ ← registry.userExists crypto
    pure ()
  | .deviceExists address => do
    let _ ← deviceExists address
    pure ()
  | .getRegisteredDevice uid => do
    let _ ← getRegisteredDevice uid
    pure ()
  | .addUser => registry.addUser crypto
  | .addDevice address uid => registry.addDevice crypto address uid

end EvRegistry

/-- The answer of a call while the contract's storage is given. -/
def answer (crypto : Crypto) (storage : Storage) : (call : ChainCall) → call.Answer
  | .getAllUserAddresses =>
    (getAllUserAddresses storage).map crypto.ethers.getChecksumAddress
  | .getAllDeviceAddresses =>
    (getAllDeviceAddresses storage).map crypto.ethers.getChecksumAddress
  | .getDeviceFromIdentifier identifier =>
    let found := EvDashboardRegistry.getDeviceFromIdentifier storage identifier
    (crypto.ethers.getChecksumAddress found.1, crypto.ethers.getChecksumAddress found.2)
  | .send _ => ()

/-- Calls answered from one storage; each of them resolves. -/
def oracle (crypto : Crypto) (storage : Storage) (call : ChainCall) :
    Except Exception call.Answer := .ok (answer crypto storage call)

/-- The transactions a call sends when it reads from one storage. -/
def submitted (crypto : Crypto) (storage : Storage) (call : OnChain Unit) : List Transaction :=
  (call.trace (oracle crypto storage)).filterMap ChainCall.transaction

/-- What the libraries promise: the hash has 32 bytes; a signature verifies for the
signed digest only; a text in address form, which `getAddress` accepts, is packed as
the bytes of the address, and a buffer as its own bytes; and no key has `address(0)`. -/
structure Crypto.Lawful (crypto : Crypto) : Prop where
  hashSize : ∀ bytes, (crypto.ethers.keccak256 bytes).length = 32
  verifies : ∀ key digest signed,
    crypto.ecrecover digest (crypto.signDigest key signed) = crypto.ethers.computeAddress key ↔
      digest = signed
  packsAddress : ∀ text address, Ethers.readDigits (Ethers.withoutPrefix text) = some address →
    crypto.ethers.getAddress text = some address → crypto.packText text = address.bytes
  packsBuffer : ∀ bytes, crypto.packBuffer bytes = bytes
  nonzero : ∀ key, crypto.ethers.computeAddress key ≠ .zero

/-- Small stand-ins for concrete runs: the hash keeps the last 32 bytes, the key `a`
has one address and every other key a second one, and a signature holds the signed
digest and the signer. -/
def Crypto.sample : Crypto where
  ethers :=
    { keccak256 := fun bytes => (List.replicate 32 0 ++ bytes).drop bytes.length
      computeAddress := fun key => .repeated (if key = "a" then 1 else 2) }
  signDigest := fun key digest => ⟨[if key = "a" then 1 else 2], digest, 27⟩
  ecrecover := fun digest signature =>
    if digest = signature.s then .repeated (if signature.r = [1] then 1 else 2) else .zero
  packText := fun text =>
    match Ethers.readDigits (Ethers.withoutPrefix text) with
    | some address => address.bytes
    | none => utf8 text
  packBuffer := id

/-- No stand-in key has `address(0)`. -/
theorem Crypto.sample_nonzero (key : String) :
    Crypto.sample.ethers.computeAddress key ≠ .zero := by
  by_cases first : key = "a"
  · simp only [Crypto.sample, first, if_true]
    decide
  · simp only [Crypto.sample, first, if_false]
    decide

/-- A stand-in signature names its signer. -/
theorem Crypto.sample_recovers (key : String) (digest : List UInt8) :
    Crypto.sample.ecrecover digest (Crypto.sample.signDigest key digest) =
      Crypto.sample.ethers.computeAddress key := by
  by_cases first : key = "a"
  · simp only [Crypto.sample, first, if_true]
  · simp only [Crypto.sample, first, if_true, if_false]
    rfl

theorem Crypto.sample_lawful : Crypto.sample.Lawful where
  hashSize := fun bytes => by
    simp only [Crypto.sample, List.length_drop, List.length_append, List.length_replicate]
    omega
  verifies := fun key digest signed => by
    constructor
    · intro recovered
      by_cases same : digest = signed
      · exact same
      · have absent :
            Crypto.sample.ecrecover digest (Crypto.sample.signDigest key signed) = .zero := by
          simp only [Crypto.sample, same, if_false]
        exact absurd (recovered.symm.trans absent) (Crypto.sample_nonzero key)
    · rintro rfl
      exact Crypto.sample_recovers key digest
  packsAddress := fun text address read _ => by simp only [Crypto.sample, read]
  packsBuffer := fun _ => rfl
  nonzero := Crypto.sample_nonzero

/-- Two devices for concrete runs: addresses whose spelling has no letters. -/
def firstSpelling : String := "0x5555555555555555555555555555555555555555"

def secondSpelling : String := "0x6666666666666666666666666666666666666666"

variable {crypto : Crypto} (registry : EvRegistry) (storage : Storage)

/-- The own address, spelled out by the wallet, resolves to itself. -/
theorem resolveName_checksum (address : Address) :
    resolveName crypto (crypto.ethers.getChecksumAddress address) = .ok address := by
  unfold resolveName
  rw [Ethers.getAddress_checksum]

/-- A checksummed text occurs in a checksummed list when its address is listed. -/
theorem contains_checksum (addresses : List Address) (address : Address) :
    (addresses.map crypto.ethers.getChecksumAddress).contains
      (crypto.ethers.getChecksumAddress address) = true ↔ address ∈ addresses := by
  rw [List.contains_iff_mem, List.mem_map]
  constructor
  · rintro ⟨listed, member, same⟩
    exact crypto.ethers.checksum_injective same ▸ member
  · intro member
    exact ⟨address, member, rfl⟩

/-- Another spelling of an address never occurs in a checksummed list. -/
theorem contains_spelling (addresses : List Address) {text : String} {address : Address}
    (read : crypto.ethers.getAddress text = some address) :
    (addresses.map crypto.ethers.getChecksumAddress).contains text = true ↔
      text = crypto.ethers.getChecksumAddress address ∧ address ∈ addresses := by
  constructor
  · intro present
    obtain ⟨listed, member, rfl⟩ := List.mem_map.mp (List.contains_iff_mem.mp present)
    rw [Ethers.getAddress_checksum] at read
    cases read
    exact ⟨rfl, member⟩
  · rintro ⟨rfl, member⟩
    exact (contains_checksum _ address).mpr member

/-- The digest of the client and the one of the contract have the same prefix. -/
theorem Crypto.Lawful.hashMessage_eq (lawful : crypto.Lawful) (bytes : List UInt8) :
    hashMessage crypto (crypto.ethers.keccak256 bytes) =
      messageDigest crypto (crypto.ethers.keccak256 bytes) := by
  rw [hashMessage, messageDigest, lawful.hashSize]
  rfl

/-- The operator's own address is packed as its bytes. -/
theorem Crypto.Lawful.packs_checksum (lawful : crypto.Lawful) (address : Address) :
    crypto.packText (crypto.ethers.getChecksumAddress address) = address.bytes := by
  apply lawful.packsAddress
  · rw [Ethers.withoutPrefix_checksum, Ethers.readDigits_checksum]
  · exact Ethers.getAddress_checksum _ address

/-- The contract recovers the operator from the signature of `addUser`. -/
theorem Crypto.Lawful.userSignature_verifies (lawful : crypto.Lawful) :
    crypto.ecrecover (messageDigest crypto (userHash crypto (registry.operator crypto)))
      (registry.userSignature crypto) = registry.operator crypto := by
  apply (lawful.verifies _ _ _).mpr
  simp only [soliditySha3, List.flatMap_cons, List.flatMap_nil, List.append_nil, Param.packed,
    EvRegistry.signerAddress, lawful.packs_checksum]
  rw [lawful.hashMessage_eq, userHash]

/-- The contract recovers the operator from the signature of `addDevice` when the
address argument is packed into a digest that is the contract's own. -/
theorem Crypto.Lawful.deviceSignature_verifies (lawful : crypto.Lawful) (device : Address)
    (address uid : String) :
    crypto.ecrecover
        (messageDigest crypto (deviceHash crypto device uid (registry.operator crypto)))
        (registry.deviceSignature crypto address uid) = registry.operator crypto ↔
      messageDigest crypto (deviceHash crypto device uid (registry.operator crypto)) =
        hashMessage crypto (soliditySha3 crypto
          [.text address, .buffer (utf8 uid), .text (registry.signerAddress crypto)]) :=
  lawful.verifies _ _ _

/-- A text in address form is packed into the contract's own digest, whatever the
uid is. -/
theorem Crypto.Lawful.deviceDigest_eq (lawful : crypto.Lawful) {address : String}
    {device : Address} (uid : String)
    (form : Ethers.readDigits (Ethers.withoutPrefix address) = some device)
    (read : crypto.ethers.getAddress address = some device) :
    messageDigest crypto (deviceHash crypto device uid (registry.operator crypto)) =
      hashMessage crypto (soliditySha3 crypto
        [.text address, .buffer (utf8 uid), .text (registry.signerAddress crypto)]) := by
  have packed : crypto.packText address = device.bytes :=
    lawful.packsAddress address device form read
  simp only [soliditySha3, List.flatMap_cons, List.flatMap_nil, List.append_nil, Param.packed,
    EvRegistry.signerAddress, lawful.packs_checksum, packed, lawful.packsBuffer]
  rw [lawful.hashMessage_eq, deviceHash, List.append_assoc]

/-- The contract accepts the transaction of `addUser` from an operator that the OCN
registry lists and that is not added yet. -/
theorem Crypto.Lawful.addUser_accepted (lawful : crypto.Lawful) {withinGas : GasBound}
    {ocn : OcnRegistry}
    (enough : withinGas storage (.addUser (registry.operator crypto)
      (registry.userSignature crypto)) = true)
    (operatorListed : ocn (registry.operator crypto) ≠ .zero)
    (fresh : storage.users (registry.operator crypto) = false) :
    accepted crypto withinGas ocn storage
        (.addUser (registry.operator crypto) (registry.userSignature crypto)) =
      some { storage with
        users := assign storage.users (registry.operator crypto) true
        userAddressList := storage.userAddressList ++ [registry.operator crypto] } := by
  apply accepted_iff.mpr
  refine ⟨enough, addUser_ok_iff.mpr ⟨?_, operatorListed, fresh, rfl⟩⟩
  exact lawful.userSignature_verifies registry

/-- The contract accepts the transaction of `addDevice`, for an address in address
form, from an operator that is listed and added, when the device has no owner yet. -/
theorem Crypto.Lawful.addDevice_accepted (lawful : crypto.Lawful) {withinGas : GasBound}
    {ocn : OcnRegistry} {address : String} {device : Address} (uid : String)
    (form : Ethers.readDigits (Ethers.withoutPrefix address) = some device)
    (read : crypto.ethers.getAddress address = some device)
    (enough : withinGas storage (.addDevice device uid (registry.operator crypto)
      (registry.deviceSignature crypto address uid)) = true)
    (operatorListed : ocn (registry.operator crypto) ≠ .zero)
    (added : storage.users (registry.operator crypto) = true)
    (fresh : (storage.devices device).user = .zero) :
    accepted crypto withinGas ocn storage (.addDevice device uid (registry.operator crypto)
        (registry.deviceSignature crypto address uid)) =
      some { storage with
        devices := assign storage.devices device ⟨registry.operator crypto, uid⟩
        identifiers := assign storage.identifiers uid device
        deviceAddressList := storage.deviceAddressList ++ [device] } := by
  apply accepted_iff.mpr
  refine ⟨enough, addDevice_ok_iff.mpr ⟨?_, operatorListed, added, fresh, rfl⟩⟩
  exact (lawful.deviceSignature_verifies registry device address uid).mpr
    (lawful.deviceDigest_eq registry uid form read)

/-- `addUser` written out: one read, and one transaction unless the operator's text
was read. -/
theorem addUser_eq : registry.addUser crypto =
    .await .getAllUserAddresses (fun listed =>
      if listed.contains (registry.signerAddress crypto) then .done ()
      else .await (.send (.addUser (registry.operator crypto) (registry.userSignature crypto)))
        .done) := by
  simp only [EvRegistry.addUser, EvRegistry.userExists, awaitChain, Program.call_bind,
    Program.await_bind, Program.pure_eq, Program.done_bind]
  congr 1
  funext listed
  split
  · rfl
  · rw [EvRegistry.signerAddress, resolveName_checksum]
    simp [Program.call]

/-- `addDevice` written out: one read, and one transaction unless the text was read
or is no spelling of an address. -/
theorem addDevice_eq (address uid : String) : registry.addDevice crypto address uid =
    .await .getAllDeviceAddresses (fun listed =>
      if listed.contains address then .done ()
      else match crypto.ethers.getAddress address with
        | none => .rejected (.error "network does not support ENS")
        | some device =>
          .await (.send (.addDevice device uid (registry.operator crypto)
            (registry.deviceSignature crypto address uid))) .done) := by
  simp only [EvRegistry.addDevice, EvRegistry.deviceExists, awaitChain, Program.call_bind,
    Program.await_bind, Program.pure_eq, Program.done_bind]
  congr 1
  funext listed
  split
  · rfl
  · cases read : crypto.ethers.getAddress address with
    | none => simp [resolveName, read]
    | some device =>
      rw [EvRegistry.signerAddress, resolveName_checksum]
      simp [resolveName, read, Program.call]

/-- `addUser` resolves against every storage. It sends one transaction unless the
operator is listed. -/
theorem addUser_outcome :
    (registry.addUser crypto).result (oracle crypto storage) = .ok () ∧
      submitted crypto storage (registry.addUser crypto) =
        if registry.operator crypto ∈ storage.userAddressList then []
        else [.addUser (registry.operator crypto) (registry.userSignature crypto)] := by
  have found := @contains_checksum crypto storage.userAddressList
    (registry.operator crypto)
  rw [addUser_eq]
  simp only [submitted, Program.result, Program.trace, oracle, answer, getAllUserAddresses,
    EvRegistry.signerAddress, found]
  by_cases listed : registry.operator crypto ∈ storage.userAddressList
  · simp only [listed, if_true]
    exact ⟨rfl, rfl⟩
  · simp only [listed, if_false]
    exact ⟨rfl, rfl⟩

/-- `addDevice` rejects a text that denotes no address, and sends nothing. -/
theorem addDevice_refused {address : String} (uid : String)
    (unread : crypto.ethers.getAddress address = none) :
    (registry.addDevice crypto address uid).result (oracle crypto storage) ≠ .ok () ∧
      submitted crypto storage (registry.addDevice crypto address uid) = [] := by
  have absent : ((storage.deviceAddressList.map crypto.ethers.getChecksumAddress).contains
      address) = false := by
    apply Bool.eq_false_iff.mpr
    intro present
    obtain ⟨device, _, rfl⟩ := List.mem_map.mp (List.contains_iff_mem.mp present)
    rw [Ethers.getAddress_checksum] at unread
    cases unread
  rw [addDevice_eq]
  simp only [submitted, Program.result, Program.trace, oracle, answer, getAllDeviceAddresses,
    absent, unread]
  exact ⟨fun resolved => (by cases resolved), rfl⟩

/-- `addDevice` resolves for every spelling of an address. It sends one transaction
unless the spelling is the checksummed one and the device is listed. -/
theorem addDevice_outcome {address : String} (uid : String) {device : Address}
    (read : crypto.ethers.getAddress address = some device) :
    (registry.addDevice crypto address uid).result (oracle crypto storage) = .ok () ∧
      submitted crypto storage (registry.addDevice crypto address uid) =
        if address = crypto.ethers.getChecksumAddress device ∧
            device ∈ storage.deviceAddressList then []
        else [.addDevice device uid (registry.operator crypto)
          (registry.deviceSignature crypto address uid)] := by
  have found := contains_spelling storage.deviceAddressList read
  rw [addDevice_eq]
  simp only [submitted, Program.result, Program.trace, oracle, answer, getAllDeviceAddresses,
    found, read]
  by_cases listed : address = crypto.ethers.getChecksumAddress device ∧
      device ∈ storage.deviceAddressList
  · simp only [listed, and_self, if_true]
    exact ⟨rfl, rfl⟩
  · simp only [listed, if_false]
    exact ⟨rfl, rfl⟩

/-- A query sends nothing. -/
theorem getRegisteredDevice_silent (uid : String) :
    submitted crypto storage (registry.perform crypto (.getRegisteredDevice uid)) = [] := by
  simp only [submitted, EvRegistry.perform, EvRegistry.getRegisteredDevice]
  split
  · rfl
  · rfl

/-- A transaction that a call sends is one of the operator's own. -/
def OwnTransaction (crypto : Crypto) (registry : EvRegistry) (call : ChainCall) : Prop :=
  ∀ transaction, call.transaction = some transaction →
    transaction.user = registry.operator crypto

/-- Whatever its reads answer, a client sends the operator's own transactions only. -/
theorem perform_obeys (request : EvRegistry.Request) :
    (registry.perform crypto request).Obeys (fun _ _ => True) (OwnTransaction crypto registry)
      (fun _ => True) := by
  cases request with
  | userExists => exact ⟨fun _ sent => (by cases sent), fun _ _ => trivial⟩
  | deviceExists address => exact ⟨fun _ sent => (by cases sent), fun _ _ => trivial⟩
  | getRegisteredDevice uid =>
    simp only [EvRegistry.perform, EvRegistry.getRegisteredDevice]
    split
    · trivial
    · exact ⟨fun _ sent => (by cases sent), fun _ _ => trivial⟩
  | addUser =>
    simp only [EvRegistry.perform, addUser_eq]
    refine ⟨fun _ sent => (by cases sent), fun listed _ => ?_⟩
    dsimp only
    split
    · trivial
    · exact ⟨fun _ sent => (by cases sent; rfl), fun _ _ => trivial⟩
  | addDevice address uid =>
    simp only [EvRegistry.perform, addDevice_eq]
    refine ⟨fun _ sent => (by cases sent), fun listed _ => ?_⟩
    dsimp only
    split
    · trivial
    · cases crypto.ethers.getAddress address with
      | none => trivial
      | some device => exact ⟨fun _ sent => (by cases sent; rfl), fun _ _ => trivial⟩

/-- What a call submits is the operator's own. -/
theorem submitted_own (request : EvRegistry.Request) {transaction : Transaction}
    (member : transaction ∈ submitted crypto storage (registry.perform crypto request)) :
    transaction.user = registry.operator crypto := by
  obtain ⟨call, made, sent⟩ := List.mem_filterMap.mp member
  exact (perform_obeys registry request).trace (fun _ _ _ => trivial) call made transaction sent

/-- `getRegisteredDevice` reads the two maps, for every uid but the empty one. -/
theorem getRegisteredDevice_outcome {uid : String} (named : uid ≠ "") :
    (EvRegistry.getRegisteredDevice uid).result (oracle crypto storage) =
      .ok (some ⟨crypto.ethers.getChecksumAddress (storage.identifiers uid),
        crypto.ethers.getChecksumAddress (storage.devices (storage.identifiers uid)).user⟩) := by
  simp only [EvRegistry.getRegisteredDevice, if_neg named]
  rfl

end EvDashboard
