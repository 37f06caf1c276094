import EvDashboard.Ethers

/-!
# The registry contract

The contract keeps a list and a map of users, and a list and two maps of devices:
from a device to its owner and identifier, and from an identifier to a device.
Both writing functions recompute the signed bytes from their arguments, compare
the signer with the user, and ask the OCN registry about it; a failed requirement
reverts the call with a message and leaves the storage unchanged.

Each writing function has one lemma that says when it succeeds and what it then
writes. Every later fact about transactions starts from these two.
-/

namespace EvDashboard

/-- `{ r, s, v }` of a signature. -/
structure Signature where
  r : List UInt8
  s : List UInt8
  v : Nat
deriving DecidableEq

/-- The libraries and the machine around the contract: the wallet library, signing
and recovering a signer from a digest, and the packing of a text or a buffer by
`soliditySha3`. -/
structure Crypto where
  ethers : Ethers
  signDigest : String → List UInt8 → Signature
  ecrecover : List UInt8 → Signature → Address
  packText : String → List UInt8
  packBuffer : List UInt8 → List UInt8

namespace EvDashboardRegistry

/-- `struct Device`. -/
structure Device where
  user : Address
  identifier : String
deriving DecidableEq

/-- The storage of the contract. -/
structure Storage where
  users : Address → Bool
  userAddressList : List Address
  devices : Address → Device
  identifiers : String → Address
  deviceAddressList : List Address

/-- The storage of a freshly deployed contract. -/
def deployed : Storage :=
  ⟨fun _ => false, [], fun _ => ⟨.zero, ""⟩, fun _ => .zero, []⟩

/-- Assign one key of a mapping. -/
def assign {Key Value : Type} [DecidableEq Key] (mapping : Key → Value) (key : Key)
    (value : Value) : Key → Value :=
  fun other => if other = key then value else mapping other

/-- `getOperatorByAddress` of the OCN registry, which answers `address(0)` for a
user it does not list. -/
abbrev OcnRegistry := Address → Address

/-- The UTF-8 bytes of a text. -/
def utf8 (text : String) : List UInt8 := text.toUTF8.data.toList

/-- Distinct texts have distinct UTF-8 bytes. -/
theorem utf8_injective {left right : String} (same : utf8 left = utf8 right) : left = right :=
  String.toByteArray_inj.mp (ByteArray.ext (Array.toList_inj.mp same))

/-- `require(condition, message)`. -/
def require (condition : Bool) (message : String) : Except String Unit :=
  if condition then .ok () else .error message

/-- The digest whose signer is recovered, for the hash of the packed parameters. -/
def messageDigest (crypto : Crypto) (paramHash : List UInt8) : List UInt8 :=
  crypto.ethers.keccak256 (utf8 "\u0019Ethereum Signed Message:\n32" ++ paramHash)

/-- `keccak256(abi.encodePacked(user))`. -/
def userHash (crypto : Crypto) (user : Address) : List UInt8 :=
  crypto.ethers.keccak256 user.bytes

/-- `keccak256(abi.encodePacked(device, identifier, user))`. -/
def deviceHash (crypto : Crypto) (device : Address) (identifier : String) (user : Address) :
    List UInt8 :=
  crypto.ethers.keccak256 (device.bytes ++ utf8 identifier ++ user.bytes)

def validateRegistered (ocn : OcnRegistry) (user : Address) : Except String Unit :=
  require (ocn user ≠ .zero) "User not listed in OCN Registry"

def addUser (crypto : Crypto) (ocn : OcnRegistry) (user : Address) (signature : Signature)
    (storage : Storage) : Except String Storage := do
  let signer := crypto.ecrecover (messageDigest crypto (userHash crypto user)) signature
  require (user = signer) "Expected and actual user differ"
  validateRegistered ocn signer
  require (storage.users signer = false) "User already added"
  pure { storage with
    users := assign storage.users signer true
    userAddressList := storage.userAddressList ++ [signer] }

def addDevice (crypto : Crypto) (ocn : OcnRegistry) (device : Address) (identifier : String)
    (user : Address) (signature : Signature) (storage : Storage) : Except String Storage := do
  let signer :=
    crypto.ecrecover (messageDigest crypto (deviceHash crypto device identifier user)) signature
  require (user = signer) "Expected and actual user differ"
  validateRegistered ocn signer
  require (storage.users signer = true) "User not added yet"
  require ((storage.devices device).user = .zero) "Device already added"
  pure { storage with
    devices := assign storage.devices device ⟨user, identifier⟩
    identifiers := assign storage.identifiers identifier device
    deviceAddressList := storage.deviceAddressList ++ [device] }

def getAllUserAddresses (storage : Storage) : List Address := storage.userAddressList

def getAllDeviceAddresses (storage : Storage) : List Address := storage.deviceAddressList

/-- `getDeviceFromIdentifier`: the device and its user. -/
def getDeviceFromIdentifier (storage : Storage) (identifier : String) : Address × Address :=
  let addr := storage.identifiers identifier
  (addr, (storage.devices addr).user)

/-- A call of a writing function. -/
inductive Transaction where
  | addUser (user : Address) (signature : Signature)
  | addDevice (device : Address) (identifier : String) (user : Address) (signature : Signature)
deriving DecidableEq

/-- The user argument of a transaction. -/
def Transaction.user : Transaction → Address
  | .addUser user _ => user
  | .addDevice _ _ user _ => user

def execute (crypto : Crypto) (ocn : OcnRegistry) (storage : Storage) :
    Transaction → Except String Storage
  | .addUser user signature => addUser crypto ocn user signature storage
  | .addDevice device identifier user signature =>
    addDevice crypto ocn device identifier user signature storage

/-- Whether a transaction runs within its gas limit. -/
abbrev GasBound := Storage → Transaction → Bool

/-- The storage a transaction leaves if it runs within its gas and no requirement
reverts it, and none otherwise. -/
def accepted (crypto : Crypto) (withinGas : GasBound) (ocn : OcnRegistry) (storage : Storage)
    (transaction : Transaction) : Option Storage :=
  if withinGas storage transaction then
    match execute crypto ocn storage transaction with
    | .ok next => some next
    | .error _ => none
  else none

/-- The storage after a transaction was mined; a refused one changes nothing. -/
def mine (crypto : Crypto) (withinGas : GasBound) (ocn : OcnRegistry) (storage : Storage)
    (transaction : Transaction) : Storage :=
  (accepted crypto withinGas ocn storage transaction).getD storage

variable {crypto : Crypto} {ocn : OcnRegistry} {withinGas : GasBound} {storage next : Storage}

/-- A requirement in front of a computation has to hold for it to succeed. -/
theorem require_then {condition : Bool} {message : String} {α : Type}
    {rest : Unit → Except String α} {value : α} :
    (require condition message >>= rest) = .ok value ↔ condition = true ∧ rest () = .ok value := by
  cases condition with
  | true => exact ⟨fun ran => ⟨rfl, ran⟩, fun both => both.2⟩
  | false => exact ⟨fun ran => (by cases ran), fun both => (by cases both.1)⟩

/-- When `addUser` succeeds, and what it writes. -/
theorem addUser_ok_iff {user : Address} {signature : Signature} :
    addUser crypto ocn user signature storage = .ok next ↔
      crypto.ecrecover (messageDigest crypto (userHash crypto user)) signature = user ∧
      ocn user ≠ .zero ∧ storage.users user = false ∧
      next = { storage with
        users := assign storage.users user true
        userAddressList := storage.userAddressList ++ [user] } := by
  simp only [addUser, validateRegistered, require_then, decide_eq_true_eq, ne_eq]
  constructor
  · rintro ⟨verified, listed, fresh, same⟩
    rw [← verified] at listed fresh same
    cases same
    exact ⟨verified.symm, listed, fresh, rfl⟩
  · rintro ⟨verified, listed, fresh, rfl⟩
    rw [verified]
    exact ⟨rfl, listed, fresh, rfl⟩

/-- When `addDevice` succeeds, and what it writes. -/
theorem addDevice_ok_iff {device user : Address} {identifier : String} {signature : Signature} :
    addDevice crypto ocn device identifier user signature storage = .ok next ↔
      crypto.ecrecover (messageDigest crypto (deviceHash crypto device identifier user)) signature =
        user ∧
      ocn user ≠ .zero ∧ storage.users user = true ∧ (storage.devices device).user = .zero ∧
      next = { storage with
        devices := assign storage.devices device ⟨user, identifier⟩
        identifiers := assign storage.identifiers identifier device
        deviceAddressList := storage.deviceAddressList ++ [device] } := by
  simp only [addDevice, validateRegistered, require_then, decide_eq_true_eq, ne_eq]
  constructor
  · rintro ⟨verified, listed, added, fresh, same⟩
    rw [← verified] at listed added
    cases same
    exact ⟨verified.symm, listed, added, fresh, rfl⟩
  · rintro ⟨verified, listed, added, fresh, rfl⟩
    rw [verified]
    exact ⟨rfl, listed, added, fresh, rfl⟩

/-- An accepted transaction ran within its gas and succeeded. -/
theorem accepted_iff {transaction : Transaction} :
    accepted crypto withinGas ocn storage transaction = some next ↔
      withinGas storage transaction = true ∧
        execute crypto ocn storage transaction = .ok next := by
  unfold accepted
  split
  · rename_i enough
    cases executed : execute crypto ocn storage transaction with
    | ok result =>
      simp only [enough, Option.some.injEq, Except.ok.injEq, true_and]
    | error message => simp only [reduceCtorEq, and_false]
  · rename_i exceeded
    simp only [exceeded, reduceCtorEq, false_and]

/-- Every accepted transaction is one of the two writes. -/
theorem accepted_cases {transaction : Transaction}
    (taken : accepted crypto withinGas ocn storage transaction = some next) :
    (∃ user signature, transaction = .addUser user signature ∧
      addUser crypto ocn user signature storage = .ok next) ∨
    (∃ device identifier user signature,
      transaction = .addDevice device identifier user signature ∧
      addDevice crypto ocn device identifier user signature storage = .ok next) := by
  have executed := (accepted_iff.mp taken).2
  cases transaction with
  | addUser user signature => exact Or.inl ⟨user, signature, rfl, executed⟩
  | addDevice device identifier user signature =>
    exact Or.inr ⟨device, identifier, user, signature, rfl, executed⟩

/-- When a mined `addUser` is accepted. -/
theorem accepted_addUser_iff {user : Address} {signature : Signature} :
    (accepted crypto withinGas ocn storage (.addUser user signature)).isSome ↔
      withinGas storage (.addUser user signature) = true ∧
      crypto.ecrecover (messageDigest crypto (userHash crypto user)) signature = user ∧
      ocn user ≠ .zero ∧ storage.users user = false := by
  simp only [Option.isSome_iff_exists, accepted_iff, execute, addUser_ok_iff]
  constructor
  · rintro ⟨next, enough, verified, listed, fresh, _⟩
    exact ⟨enough, verified, listed, fresh⟩
  · rintro ⟨enough, verified, listed, fresh⟩
    exact ⟨_, enough, verified, listed, fresh, rfl⟩

/-- When a mined `addDevice` is accepted. -/
theorem accepted_addDevice_iff {device user : Address} {identifier : String}
    {signature : Signature} :
    (accepted crypto withinGas ocn storage
        (.addDevice device identifier user signature)).isSome ↔
      withinGas storage (.addDevice device identifier user signature) = true ∧
      crypto.ecrecover (messageDigest crypto (deviceHash crypto device identifier user)) signature =
        user ∧
      ocn user ≠ .zero ∧ storage.users user = true ∧ (storage.devices device).user = .zero := by
  simp only [Option.isSome_iff_exists, accepted_iff, execute, addDevice_ok_iff]
  constructor
  · rintro ⟨next, enough, verified, listed, added, fresh, _⟩
    exact ⟨enough, verified, listed, added, fresh⟩
  · rintro ⟨enough, verified, listed, added, fresh⟩
    exact ⟨_, enough, verified, listed, added, fresh, rfl⟩

/-- After a mined `addUser` its user is listed if it was before or if the transaction
was accepted. -/
theorem mine_addUser_listed {user : Address} {signature : Signature} :
    user ∈ (mine crypto withinGas ocn storage (.addUser user signature)).userAddressList ↔
      user ∈ storage.userAddressList ∨
        (accepted crypto withinGas ocn storage (.addUser user signature)).isSome := by
  unfold mine
  cases taken : accepted crypto withinGas ocn storage (.addUser user signature) with
  | none => simp only [Option.getD_none, Option.isSome_none, Bool.false_eq_true, or_false]
  | some next =>
    obtain ⟨_, _, _, rfl⟩ := addUser_ok_iff.mp (accepted_iff.mp taken).2
    simp only [Option.getD_some, List.mem_append, List.mem_singleton, or_true, Option.isSome_some]

/-- After a mined `addDevice` its device is listed if it was before or if the
transaction was accepted. -/
theorem mine_addDevice_listed {device user : Address} {identifier : String}
    {signature : Signature} :
    device ∈ (mine crypto withinGas ocn storage
        (.addDevice device identifier user signature)).deviceAddressList ↔
      device ∈ storage.deviceAddressList ∨
        (accepted crypto withinGas ocn storage
          (.addDevice device identifier user signature)).isSome := by
  unfold mine
  cases taken : accepted crypto withinGas ocn storage
      (.addDevice device identifier user signature) with
  | none => simp only [Option.getD_none, Option.isSome_none, Bool.false_eq_true, or_false]
  | some next =>
    obtain ⟨_, _, _, _, rfl⟩ := addDevice_ok_iff.mp (accepted_iff.mp taken).2
    simp only [Option.getD_some, List.mem_append, List.mem_singleton, or_true, Option.isSome_some]

/-- A listed user stays listed. -/
theorem accepted_keeps_users {transaction : Transaction} {user : Address}
    (taken : accepted crypto withinGas ocn storage transaction = some next)
    (listed : user ∈ storage.userAddressList) : user ∈ next.userAddressList := by
  rcases accepted_cases taken with ⟨_, _, _, added⟩ | ⟨_, _, _, _, _, added⟩
  · obtain ⟨_, _, _, rfl⟩ := addUser_ok_iff.mp added
    exact List.mem_append_left _ listed
  · obtain ⟨_, _, _, _, rfl⟩ := addDevice_ok_iff.mp added
    exact listed

/-- A listed device stays listed. -/
theorem accepted_keeps_devices {transaction : Transaction} {device : Address}
    (taken : accepted crypto withinGas ocn storage transaction = some next)
    (listed : device ∈ storage.deviceAddressList) : device ∈ next.deviceAddressList := by
  rcases accepted_cases taken with ⟨_, _, _, added⟩ | ⟨_, _, _, _, _, added⟩
  · obtain ⟨_, _, _, rfl⟩ := addUser_ok_iff.mp added
    exact listed
  · obtain ⟨_, _, _, _, rfl⟩ := addDevice_ok_iff.mp added
    exact List.mem_append_left _ listed

/-- What accepted transactions preserve, mined ones preserve: a refused one changes
nothing. -/
theorem mine_preserves {transaction : Transaction} (kept : Storage → Prop) (holds : kept storage)
    (preserved : ∀ next, accepted crypto withinGas ocn storage transaction = some next →
      kept next) : kept (mine crypto withinGas ocn storage transaction) := by
  unfold mine
  cases taken : accepted crypto withinGas ocn storage transaction with
  | none => exact holds
  | some next => exact preserved next taken

/-- The two lists and the two maps agree: no list repeats an address, the users are
the listed ones, the devices with an owner are the listed ones, and every owner is a
user. -/
structure Coherent (storage : Storage) : Prop where
  usersDistinct : storage.userAddressList.Nodup
  devicesDistinct : storage.deviceAddressList.Nodup
  userListed : ∀ user, storage.users user = true ↔ user ∈ storage.userAddressList
  deviceListed : ∀ device, (storage.devices device).user ≠ .zero ↔
    device ∈ storage.deviceAddressList
  ownerListed : ∀ device, device ∈ storage.deviceAddressList →
    (storage.devices device).user ∈ storage.userAddressList

theorem deployed_coherent : Coherent deployed where
  usersDistinct := List.nodup_nil
  devicesDistinct := List.nodup_nil
  userListed := fun user => by simp [deployed]
  deviceListed := fun device => by simp [deployed]
  ownerListed := fun device listed => by cases listed

@[simp] theorem assign_same {Key Value : Type} [DecidableEq Key] (mapping : Key → Value) (key : Key)
    (value : Value) : assign mapping key value key = value := if_pos rfl

theorem assign_other {Key Value : Type} [DecidableEq Key] (mapping : Key → Value)
    {key other : Key} (value : Value) (different : other ≠ key) :
    assign mapping key value other = mapping other := if_neg different

/-- Appending an address that is not listed keeps a list free of repetitions. -/
theorem nodup_push {addresses : List Address} {address : Address} (distinct : addresses.Nodup)
    (fresh : address ∉ addresses) : (addresses ++ [address]).Nodup := by
  apply List.nodup_append.mpr
  refine ⟨distinct, List.pairwise_singleton _ _, ?_⟩
  intro listed member added last same
  rw [List.mem_singleton.mp last] at same
  exact fresh (same ▸ member)

theorem Coherent.addUser {user : Address} {signature : Signature} (coherent : Coherent storage)
    (added : addUser crypto ocn user signature storage = .ok next) : Coherent next := by
  obtain ⟨_, _, fresh, rfl⟩ := addUser_ok_iff.mp added
  have unlisted : user ∉ storage.userAddressList := by
    intro listed
    rw [(coherent.userListed user).mpr listed] at fresh
    cases fresh
  constructor
  · exact nodup_push coherent.usersDistinct unlisted
  · exact coherent.devicesDistinct
  · intro other
    by_cases same : other = user
    · simp [same, assign_same]
    · simp [assign_other _ _ same, coherent.userListed, same]
  · exact coherent.deviceListed
  · intro device listed
    exact List.mem_append_left _ (coherent.ownerListed device listed)

/-- A device without an owner is registered, by a user that is not `address(0)`. -/
theorem Coherent.addDevice {device user : Address} {identifier : String} {signature : Signature}
    (coherent : Coherent storage) (nonzero : user ≠ .zero)
    (added : addDevice crypto ocn device identifier user signature storage = .ok next) :
    Coherent next := by
  obtain ⟨_, _, member, fresh, rfl⟩ := addDevice_ok_iff.mp added
  have unlisted : device ∉ storage.deviceAddressList :=
    fun listed => (coherent.deviceListed device).mpr listed fresh
  constructor
  · exact coherent.usersDistinct
  · exact nodup_push coherent.devicesDistinct unlisted
  · exact coherent.userListed
  · intro other
    by_cases same : other = device
    · simp [same, assign_same, nonzero]
    · simp [assign_other _ _ same, ← coherent.deviceListed, same]
  · intro other listed
    by_cases same : other = device
    · simp only [same, assign_same]
      exact (coherent.userListed user).mp member
    · simp only [assign_other _ _ same]
      simp only [List.mem_append, List.mem_singleton, same, or_false] at listed
      exact coherent.ownerListed other listed

/-- An accepted transaction of a user that is not `address(0)` keeps the storage
coherent. -/
theorem Coherent.accepted {transaction : Transaction} (coherent : Coherent storage)
    (nonzero : transaction.user ≠ .zero)
    (taken : accepted crypto withinGas ocn storage transaction = some next) : Coherent next := by
  rcases accepted_cases taken with ⟨_, _, rfl, added⟩ | ⟨_, _, _, _, rfl, added⟩
  · exact coherent.addUser added
  · exact coherent.addDevice nonzero added

/-- The owner and the identifier of a listed device are final: no accepted
transaction assigns them again. -/
theorem Coherent.device_final {transaction : Transaction} {device : Address}
    (coherent : Coherent storage) (listed : device ∈ storage.deviceAddressList)
    (taken : EvDashboardRegistry.accepted crypto withinGas ocn storage transaction = some next) :
    next.devices device = storage.devices device := by
  rcases accepted_cases taken with ⟨_, _, _, added⟩ | ⟨registered, _, _, _, _, added⟩
  · obtain ⟨_, _, _, rfl⟩ := addUser_ok_iff.mp added
    rfl
  · obtain ⟨_, _, _, fresh, rfl⟩ := addDevice_ok_iff.mp added
    have different : device ≠ registered := by
      rintro rfl
      exact (coherent.deviceListed device).mpr listed fresh
    exact assign_other _ _ different

end EvDashboardRegistry

end EvDashboard
