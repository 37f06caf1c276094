import EvDashboard.EvRegistry

/-!
# What a registration signature stands for

Client and contract compute the signed bytes apart from each other: the client with
a hash function that guesses the type of each argument, the contract with the packed
encoding of its own arguments. The packed encoding has no lengths. It is nevertheless
unambiguous here, because the only field of variable width stands between two
addresses: the bytes are those of exactly one registration.

The client sends a text for the device. In address form, which both the checksummed
and the lower-case spelling have, it is packed as the contract packs the address, and
the uid is packed as the contract packs it because it goes in as a buffer.
-/

namespace EvDashboard.Signatures

open EvDashboardRegistry

/-- The registration a signature is given for. -/
inductive Approval where
  | addUser (user : Address)
  | addDevice (device : Address) (identifier : String) (user : Address)
deriving DecidableEq

namespace Approval

/-- `abi.encodePacked` of the arguments, as the contract packs them. -/
def packed : Approval → List UInt8
  | addUser user => user.bytes
  | addDevice device identifier user => device.bytes ++ utf8 identifier ++ user.bytes

/-- The packed arguments' hash behind the prefix of a signed message. -/
def message (crypto : Crypto) (approval : Approval) : List UInt8 :=
  utf8 "\u0019Ethereum Signed Message:\n32" ++ crypto.ethers.keccak256 approval.packed

/-- The digest the contract recovers a signer from. -/
def digest (crypto : Crypto) (approval : Approval) : List UInt8 :=
  crypto.ethers.keccak256 (approval.message crypto)

/-- The packed bytes are those of one registration: an address has twenty of them, so
a user's registration is shorter than any device's, and in a device's the identifier
is what the two addresses leave. -/
theorem packed_injective {left right : Approval} (same : left.packed = right.packed) :
    left = right := by
  cases left with
  | addUser leftUser =>
    cases right with
    | addUser rightUser => rw [Address.bytes_injective same]
    | addDevice device identifier user =>
      have lengths := congrArg List.length same
      simp only [packed, List.length_append, Address.bytes_length] at lengths
      omega
  | addDevice leftDevice leftIdentifier leftUser =>
    cases right with
    | addUser user =>
      have lengths := congrArg List.length same
      simp only [packed, List.length_append, Address.bytes_length] at lengths
      omega
    | addDevice rightDevice rightIdentifier rightUser =>
      have widths : leftUser.bytes.length = rightUser.bytes.length := by
        rw [Address.bytes_length, Address.bytes_length]
      obtain ⟨fronts, users⟩ := List.append_inj' same widths
      obtain ⟨devices, identifiers⟩ := List.append_inj fronts
        (by rw [Address.bytes_length, Address.bytes_length])
      rw [Address.bytes_injective devices, utf8_injective identifiers,
        Address.bytes_injective users]

end Approval

/-- The hash does not collide on two given inputs. -/
def Separates (crypto : Crypto) (left right : List UInt8) : Prop :=
  crypto.ethers.keccak256 left = crypto.ethers.keccak256 right → left = right

/-- The hash does not collide on what is hashed for two registrations. -/
structure CollisionFree (crypto : Crypto) (left right : Approval) : Prop where
  packed : Separates crypto left.packed right.packed
  message : Separates crypto (left.message crypto) (right.message crypto)

/-- A call of the client that signs. -/
inductive Call where
  | addUser (registry : EvRegistry)
  | addDevice (registry : EvRegistry) (address uid : String)

namespace Call

/-- The operator whose key signs. -/
def registry : Call → EvRegistry
  | addUser registry => registry
  | addDevice registry _ _ => registry

/-- The arguments of `_getSignature`. -/
def params (crypto : Crypto) : Call → List Param
  | addUser registry => [.text (registry.signerAddress crypto)]
  | addDevice registry address uid =>
    [.text address, .buffer (utf8 uid), .text (registry.signerAddress crypto)]

/-- The bytes that are hashed. -/
def hashed (crypto : Crypto) (call : Call) : List UInt8 :=
  (call.params crypto).flatMap (Param.packed crypto)

/-- The digest that is signed. -/
def signed (crypto : Crypto) (call : Call) : List UInt8 :=
  hashMessage crypto (soliditySha3 crypto (call.params crypto))

def signature (crypto : Crypto) (call : Call) : Signature :=
  call.registry.getSignature crypto (call.params crypto)

/-- The call itself. -/
def program (crypto : Crypto) : Call → OnChain Unit
  | addUser registry => registry.addUser crypto
  | addDevice registry address uid => registry.addDevice crypto address uid

/-- The registration a call is for; a device is given by a text in address form. -/
inductive Asks (crypto : Crypto) : Call → Approval → Prop where
  | addUser (registry : EvRegistry) :
      Asks crypto (.addUser registry) (.addUser (registry.operator crypto))
  | addDevice (registry : EvRegistry) (address uid : String) (device : Address)
      (form : Ethers.readDigits (Ethers.withoutPrefix address) = some device)
      (read : crypto.ethers.getAddress address = some device) :
      Asks crypto (.addDevice registry address uid)
        (.addDevice device uid (registry.operator crypto))

end Call

/-- What a transaction asks the contract for. -/
def approvalOf : Transaction → Approval
  | .addUser user _ => .addUser user
  | .addDevice device identifier user _ => .addDevice device identifier user

/-- The signature a transaction carries. -/
def carried : Transaction → Signature
  | .addUser _ signature => signature
  | .addDevice _ _ _ signature => signature

/-- A call's signature verifies for the signed digest only: if the contract recovers
the user of a transaction from it, then the digest of the transaction was signed. -/
def VerifiesOnly (crypto : Crypto) (call : Call) (transaction : Transaction) : Prop :=
  crypto.ecrecover ((approvalOf transaction).digest crypto) (call.signature crypto) =
      transaction.user →
    (approvalOf transaction).digest crypto = call.signed crypto

variable {crypto : Crypto}

/-- Registrations with one digest are the same, unless the hash collides on them. -/
theorem CollisionFree.digest_injective {left right : Approval}
    (free : CollisionFree crypto left right)
    (same : left.digest crypto = right.digest crypto) : left = right := by
  have messages : left.message crypto = right.message crypto := free.message same
  have hashes : crypto.ethers.keccak256 left.packed = crypto.ethers.keccak256 right.packed :=
    List.append_cancel_left messages
  exact Approval.packed_injective (free.packed hashes)

/-- The client hashes the bytes that the contract packs. -/
theorem Call.Asks.hashed_eq (lawful : crypto.Lawful) {call : Call} {approval : Approval}
    (asks : call.Asks crypto approval) : call.hashed crypto = approval.packed := by
  cases asks with
  | addUser registry =>
    simp only [Call.hashed, Call.params, List.flatMap_cons, List.flatMap_nil, List.append_nil,
      Param.packed, EvRegistry.signerAddress, lawful.packs_checksum, Approval.packed]
  | addDevice registry address uid device form read =>
    have packs : crypto.packText address = device.bytes :=
      lawful.packsAddress address device form read
    simp only [Call.hashed, Call.params, List.flatMap_cons, List.flatMap_nil, List.append_nil,
      Param.packed, EvRegistry.signerAddress, lawful.packs_checksum, packs, lawful.packsBuffer,
      Approval.packed, List.append_assoc]

/-- The client signs the digest that the contract recovers a signer from. -/
theorem Call.Asks.signed_eq (lawful : crypto.Lawful) {call : Call} {approval : Approval}
    (asks : call.Asks crypto approval) : call.signed crypto = approval.digest crypto := by
  have hashed : (call.params crypto).flatMap (Param.packed crypto) = approval.packed :=
    asks.hashed_eq lawful
  rw [Call.signed, soliditySha3, hashed, lawful.hashMessage_eq]
  rfl

/-- An accepted transaction carries a signature from which its user is recovered. -/
theorem accepted_verified {withinGas : GasBound} {ocn : OcnRegistry} {storage next : Storage}
    {transaction : Transaction}
    (taken : accepted crypto withinGas ocn storage transaction = some next) :
    crypto.ecrecover ((approvalOf transaction).digest crypto) (carried transaction) =
      transaction.user := by
  rcases accepted_cases taken with ⟨_, _, rfl, added⟩ | ⟨_, _, _, _, rfl, added⟩
  · exact (addUser_ok_iff.mp added).1
  · exact (addDevice_ok_iff.mp added).1

/-- The transaction accepted with the signature of a call is the one the call is for. -/
theorem relayed_approval (lawful : crypto.Lawful) {call : Call} {asked : Approval}
    (asks : call.Asks crypto asked) {withinGas : GasBound} {ocn : OcnRegistry}
    {storage next : Storage} {transaction : Transaction}
    (relayed : carried transaction = call.signature crypto)
    (free : CollisionFree crypto (approvalOf transaction) asked)
    (verifiesOnly : VerifiesOnly crypto call transaction)
    (taken : accepted crypto withinGas ocn storage transaction = some next) :
    approvalOf transaction = asked := by
  have verified := accepted_verified taken
  rw [relayed] at verified
  have signed : (approvalOf transaction).digest crypto = call.signed crypto := verifiesOnly verified
  exact free.digest_injective (signed.trans (asks.signed_eq lawful))

/-- Whatever it reads, a call sends only the transaction it is for, with its signature. -/
theorem Call.Asks.submits {call : Call} {asked : Approval} (asks : call.Asks crypto asked)
    {storage : Storage} {transaction : Transaction}
    (member : transaction ∈ submitted crypto storage (call.program crypto)) :
    approvalOf transaction = asked ∧ carried transaction = call.signature crypto := by
  cases asks with
  | addUser registry =>
    rw [Call.program, (@addUser_outcome crypto registry storage).2] at member
    split at member
    · cases member
    · cases List.mem_singleton.mp member
      exact ⟨rfl, rfl⟩
  | addDevice registry address uid device form read =>
    rw [Call.program, (addDevice_outcome registry storage uid read).2] at member
    split at member
    · cases member
    · cases List.mem_singleton.mp member
      exact ⟨rfl, rfl⟩

/-- The bytes that a registration call hashes and signs determine the registration,
and the signature it submits is accepted by the contract, in whatever storage and under
whatever OCN registry, for that registration only. -/
theorem signature_authorises_one (lawful : crypto.Lawful) {call : Call} {asked : Approval}
    (asks : call.Asks crypto asked) :
    (∀ other otherAsked, Call.Asks crypto other otherAsked →
      (call.hashed crypto = other.hashed crypto → asked = otherAsked) ∧
      (CollisionFree crypto asked otherAsked → call.signed crypto = other.signed crypto →
        asked = otherAsked)) ∧
    (∀ storage, ∀ transaction ∈ submitted crypto storage (call.program crypto),
      approvalOf transaction = asked ∧ carried transaction = call.signature crypto) ∧
    ∀ withinGas ocn storage next transaction, carried transaction = call.signature crypto →
      CollisionFree crypto (approvalOf transaction) asked → VerifiesOnly crypto call transaction →
      accepted crypto withinGas ocn storage transaction = some next →
      approvalOf transaction = asked := by
  refine ⟨?bytes, ?sends, ?relayed⟩
  case bytes =>
    intro other otherAsked otherAsks
    constructor
    · intro same
      rw [asks.hashed_eq lawful, otherAsks.hashed_eq lawful] at same
      exact Approval.packed_injective same
    · intro free same
      rw [asks.signed_eq lawful, otherAsks.signed_eq lawful] at same
      exact free.digest_injective same
  case sends =>
    intro storage transaction member
    exact asks.submits member
  case relayed =>
    intro withinGas ocn storage next transaction relayed free verifiesOnly taken
    exact relayed_approval lawful asks relayed free verifiesOnly taken

/-- A fresh contract with one added user. -/
def withUser (user : Address) : Storage :=
  { deployed with
    users := assign deployed.users user true
    userAddressList := deployed.userAddressList ++ [user] }

/-- The stand-in hash pads what is short. -/
theorem sample_short {bytes : List UInt8} (short : bytes.length ≤ 32) :
    Crypto.sample.ethers.keccak256 bytes = List.replicate (32 - bytes.length) 0 ++ bytes := by
  simp only [Crypto.sample]
  rw [List.drop_append_of_le_length (by rw [List.length_replicate]; exact short),
    List.drop_replicate]

/-- Of what is long it keeps the end. -/
theorem sample_long (front : List UInt8) {bytes : List UInt8} (whole : bytes.length = 32) :
    Crypto.sample.ethers.keccak256 (front ++ bytes) = bytes := by
  simp only [Crypto.sample]
  rw [← List.append_assoc]
  apply List.drop_left'
  simp [whole]

/-- It does not collide on the registrations of two users. -/
theorem sample_collisionFree (left right : Address) :
    CollisionFree Crypto.sample (.addUser left) (.addUser right) := by
  constructor
  · intro same
    simp only [Approval.packed] at same ⊢
    rw [sample_short (by rw [Address.bytes_length]; decide),
      sample_short (by rw [Address.bytes_length]; decide), Address.bytes_length,
      Address.bytes_length] at same
    exact List.append_cancel_left same
  · intro same
    simp only [Approval.message] at same ⊢
    rw [sample_long _ (Crypto.sample_lawful.hashSize _),
      sample_long _ (Crypto.sample_lawful.hashSize _)] at same
    rw [same]

/-- The operator with the key `a` adds itself. The contract accepts its signature, in a
transaction for the operator only, and no registration of a device hashes the same bytes. -/
theorem operator_approves_itself :
    accepted Crypto.sample (fun _ _ => true) id deployed
        (.addUser (.repeated 1) (EvRegistry.userSignature ⟨"a"⟩ Crypto.sample)) =
        some (withUser (.repeated 1)) ∧
      (∀ user, (accepted Crypto.sample (fun _ _ => true) id deployed
        (.addUser user (EvRegistry.userSignature ⟨"a"⟩ Crypto.sample))).isSome →
          user = .repeated 1) ∧
      (Call.addUser ⟨"a"⟩).hashed Crypto.sample ≠
        (Call.addDevice ⟨"a"⟩ firstSpelling "").hashed Crypto.sample := by
  have asks : Call.Asks Crypto.sample (.addUser ⟨"a"⟩) (.addUser (.repeated 1)) := .addUser ⟨"a"⟩
  have asksDevice : Call.Asks Crypto.sample (.addDevice ⟨"a"⟩ firstSpelling "")
      (.addDevice (.repeated 5) "" (.repeated 1)) :=
    .addDevice ⟨"a"⟩ firstSpelling "" (.repeated 5) (by decide) (by decide)
  have taken : accepted Crypto.sample (fun _ _ => true) id deployed
      (.addUser (.repeated 1) (EvRegistry.userSignature ⟨"a"⟩ Crypto.sample)) =
        some (withUser (.repeated 1)) :=
    Crypto.sample_lawful.addUser_accepted ⟨"a"⟩ deployed rfl (by decide) rfl
  obtain ⟨bytes, _, relayed⟩ := signature_authorises_one Crypto.sample_lawful asks
  refine ⟨taken, ?_, fun same => absurd ((bytes _ _ asksDevice).1 same) nofun⟩
  intro user accepts
  obtain ⟨_, _, listed, _⟩ := accepted_addUser_iff.mp accepts
  obtain ⟨next, other⟩ := Option.isSome_iff_exists.mp accepts
  have verifiesOnly : VerifiesOnly Crypto.sample (.addUser ⟨"a"⟩)
      (.addUser user (EvRegistry.userSignature ⟨"a"⟩ Crypto.sample)) := by
    intro recovered
    refine Classical.byContradiction fun different => ?_
    have nobody : Crypto.sample.ecrecover ((Approval.addUser user).digest Crypto.sample)
        ((Call.addUser ⟨"a"⟩).signature Crypto.sample) = .zero := if_neg different
    exact listed (recovered.symm.trans nobody)
  have same : Approval.addUser user = .addUser (.repeated 1) :=
    relayed _ id deployed next (.addUser user _) rfl (sample_collisionFree user _) verifiesOnly
      other
  exact (Approval.addUser.injEq _ _).mp same

/-- The checksummed or the lower-case spelling of an address. -/
def Spells (crypto : Crypto) (address : String) (device : Address) : Prop :=
  address = crypto.ethers.getChecksumAddress device ∨ address = Ethers.lowerSpelling device

/-- Both spellings are in address form, and the wallet library reads them. -/
theorem Spells.read {address : String} {device : Address} (spells : Spells crypto address device) :
    Ethers.readDigits (Ethers.withoutPrefix address) = some device ∧
      crypto.ethers.getAddress address = some device := by
  rcases spells with rfl | rfl
  · rw [Ethers.withoutPrefix_checksum]
    exact ⟨Ethers.readDigits_checksum _ device, Ethers.getAddress_checksum _ device⟩
  · rw [Ethers.withoutPrefix_lower]
    exact ⟨Ethers.readDigits_lower device, Ethers.getAddress_lower _ device⟩

/-- The operator's transactions. -/
def userTransaction (crypto : Crypto) (registry : EvRegistry) : Transaction :=
  .addUser (registry.operator crypto) (registry.userSignature crypto)

def deviceTransaction (crypto : Crypto) (registry : EvRegistry) (device : Address)
    (address uid : String) : Transaction :=
  .addDevice device uid (registry.operator crypto) (registry.deviceSignature crypto address uid)

/-- Client and contract agree on the operator's own registration: on what is hashed,
on what is signed, and on the outcome wherever the operator is not added yet. -/
structure UserAgrees (crypto : Crypto) (registry : EvRegistry) : Prop where
  hashes : soliditySha3 crypto [.text (registry.signerAddress crypto)] =
    userHash crypto (registry.operator crypto)
  signs : (Call.addUser registry).signed crypto =
    messageDigest crypto (userHash crypto (registry.operator crypto))
  registers : ∀ (checked mined : Storage) (withinGas : GasBound) (ocn : OcnRegistry),
    registry.operator crypto ∉ checked.userAddressList →
    withinGas mined (userTransaction crypto registry) = true →
    ocn (registry.operator crypto) ≠ .zero → mined.users (registry.operator crypto) = false →
    submitted crypto checked (registry.addUser crypto) = [userTransaction crypto registry] ∧
      accepted crypto withinGas ocn mined (userTransaction crypto registry) =
        some { mined with
          users := assign mined.users (registry.operator crypto) true
          userAddressList := mined.userAddressList ++ [registry.operator crypto] }

/-- Client and contract agree on the registration of a device under a uid, in the same
way. The client reads from one storage and its transaction is mined in another. -/
structure DeviceAgrees (crypto : Crypto) (registry : EvRegistry) (address : String)
    (device : Address) (uid : String) : Prop where
  hashes : soliditySha3 crypto
      [.text address, .buffer (utf8 uid), .text (registry.signerAddress crypto)] =
    deviceHash crypto device uid (registry.operator crypto)
  signs : (Call.addDevice registry address uid).signed crypto =
    messageDigest crypto (deviceHash crypto device uid (registry.operator crypto))
  registers : ∀ (checked mined : Storage) (withinGas : GasBound) (ocn : OcnRegistry),
    device ∉ checked.deviceAddressList →
    withinGas mined (deviceTransaction crypto registry device address uid) = true →
    ocn (registry.operator crypto) ≠ .zero → mined.users (registry.operator crypto) = true →
    (mined.devices device).user = .zero →
    submitted crypto checked (registry.addDevice crypto address uid) =
        [deviceTransaction crypto registry device address uid] ∧
      accepted crypto withinGas ocn mined
          (deviceTransaction crypto registry device address uid) =
        some { mined with
          devices := assign mined.devices device ⟨registry.operator crypto, uid⟩
          identifiers := assign mined.identifiers uid device
          deviceAddressList := mined.deviceAddressList ++ [device] }

theorem addUser_agrees (lawful : crypto.Lawful) (registry : EvRegistry) :
    UserAgrees crypto registry := by
  have asks : Call.Asks crypto (.addUser registry) (.addUser (registry.operator crypto)) :=
    .addUser registry
  constructor
  · exact congrArg crypto.ethers.keccak256 (asks.hashed_eq lawful)
  · exact asks.signed_eq lawful
  · intro checked mined withinGas ocn unlisted enough operatorListed fresh
    constructor
    · exact (@addUser_outcome crypto registry checked).2.trans (if_neg unlisted)
    · exact lawful.addUser_accepted registry mined enough operatorListed fresh

theorem addDevice_agrees (lawful : crypto.Lawful) (registry : EvRegistry) {address : String}
    {device : Address} (spells : Spells crypto address device) (uid : String) :
    DeviceAgrees crypto registry address device uid := by
  obtain ⟨form, read⟩ := spells.read
  have asks : Call.Asks crypto (.addDevice registry address uid)
      (.addDevice device uid (registry.operator crypto)) :=
    .addDevice registry address uid device form read
  constructor
  · exact congrArg crypto.ethers.keccak256 (asks.hashed_eq lawful)
  · exact asks.signed_eq lawful
  · intro checked mined withinGas ocn unlisted enough operatorListed added fresh
    constructor
    · exact (addDevice_outcome registry checked uid read).2.trans
        (if_neg (fun present => unlisted present.2))
    · exact lawful.addDevice_accepted registry mined uid form read enough operatorListed added
        fresh

/-- For every operator, every device in checksummed or lower-case spelling and every
uid, the client hashes and signs what the contract recomputes from the arguments. The
transaction it submits is therefore accepted wherever the contract's requirements hold,
and records the device with the uid and the operator; the same of `addUser`. -/
theorem client_contract_agree (lawful : crypto.Lawful) (registry : EvRegistry) :
    UserAgrees crypto registry ∧
      ∀ address device uid, Spells crypto address device →
        DeviceAgrees crypto registry address device uid := by
  constructor
  · exact addUser_agrees lawful registry
  · intro address device uid spells
    exact addDevice_agrees lawful registry spells uid

/-- The operator with the key `a`, once added, registers a device that is spelled in
lower case under a uid of decimal digits. -/
theorem lower_case_device_registered :
    submitted Crypto.sample (withUser (.repeated 1))
        (EvRegistry.addDevice ⟨"a"⟩ Crypto.sample (Ethers.lowerSpelling (.repeated 10))
          "72583848") =
      [deviceTransaction Crypto.sample ⟨"a"⟩ (.repeated 10) (Ethers.lowerSpelling (.repeated 10))
        "72583848"] ∧
    accepted Crypto.sample (fun _ _ => true) id (withUser (.repeated 1))
        (deviceTransaction Crypto.sample ⟨"a"⟩ (.repeated 10)
          (Ethers.lowerSpelling (.repeated 10)) "72583848") =
      some { withUser (.repeated 1) with
        devices := assign deployed.devices (.repeated 10) ⟨.repeated 1, "72583848"⟩
        identifiers := assign deployed.identifiers "72583848" (.repeated 10)
        deviceAddressList := [.repeated 10] } :=
  ((client_contract_agree Crypto.sample_lawful ⟨"a"⟩).2 _ _ "72583848" (Or.inr rfl)).registers
    (withUser (.repeated 1)) (withUser (.repeated 1)) _ id (fun listed => nomatch listed) rfl
    (by decide) rfl rfl

end EvDashboard.Signatures
