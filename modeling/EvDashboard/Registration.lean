import EvDashboard.EvRegistry

/-!
# Registration calls that resolve

A caller takes a registration call that resolves for a registration. The call has
only sent its transaction by then: the contract decides when the transaction is
mined, in a storage that other parties may have changed since the existence check,
and a refusal reaches nobody. The result below is the exact condition on that later
storage under which a resolved call did register.
-/

namespace EvDashboard.Registration

open JavaScript EvDashboardRegistry

variable (crypto : Crypto) (withinGas : GasBound)

/-- The storages reached from one storage by transactions of any parties, each mined
under the OCN registry of its time. -/
inductive Evolves (start : Storage) : Storage → Prop where
  | unchanged : Evolves start start
  | mined (storage : Storage) (ocn : OcnRegistry) (transaction : Transaction)
      (earlier : Evolves start storage) :
      Evolves start (mine crypto withinGas ocn storage transaction)

/-- Mine transactions one after the other. -/
def settle (ocn : OcnRegistry) (storage : Storage) (transactions : List Transaction) : Storage :=
  transactions.foldl (mine crypto withinGas ocn) storage

/-- A registration call did register if it resolves: with its reads answered from
the storage `checked`, and what it sent mined in the storage `mined`, the entry is
present in every later storage. -/
def Registers (checked : Storage) (ocn : OcnRegistry) (mined : Storage) (call : OnChain Unit)
    (present : Storage → Prop) : Prop :=
  call.result (oracle crypto checked) = .ok () →
    ∀ final, Evolves crypto withinGas
      (settle crypto withinGas ocn mined (submitted crypto checked call)) final → present final

/-- The operator's address is in the user list. -/
def UserPresent (registry : EvRegistry) (storage : Storage) : Prop :=
  registry.operator crypto ∈ getAllUserAddresses storage

/-- The address that a text denotes is in the device list. -/
def DevicePresent (address : String) (storage : Storage) : Prop :=
  ∃ device, crypto.ethers.getAddress address = some device ∧
    device ∈ getAllDeviceAddresses storage

/-- The operator is listed already, or no requirement of `addUser` and not the gas
limit stops its transaction. -/
def UserAdmitted (registry : EvRegistry) (ocn : OcnRegistry) (mined : Storage) : Prop :=
  registry.operator crypto ∈ mined.userAddressList ∨
    (withinGas mined (.addUser (registry.operator crypto) (registry.userSignature crypto)) = true ∧
      ocn (registry.operator crypto) ≠ .zero ∧ mined.users (registry.operator crypto) = false)

/-- The text denotes no address, or it denotes a device that is listed already or
whose transaction neither a requirement of `addDevice` nor the gas limit stops. The
signatures match when the text is packed into the contract's own digest. -/
def DeviceAdmitted (registry : EvRegistry) (ocn : OcnRegistry) (mined : Storage)
    (address uid : String) : Prop :=
  ∀ device, crypto.ethers.getAddress address = some device →
    device ∈ mined.deviceAddressList ∨
      (withinGas mined (.addDevice device uid (registry.operator crypto)
          (registry.deviceSignature crypto address uid)) = true ∧
        messageDigest crypto (deviceHash crypto device uid (registry.operator crypto)) =
          hashMessage crypto (soliditySha3 crypto
            [.text address, .buffer (utf8 uid), .text (registry.signerAddress crypto)]) ∧
        ocn (registry.operator crypto) ≠ .zero ∧
        mined.users (registry.operator crypto) = true ∧
        (mined.devices device).user = .zero)

variable {crypto : Crypto} {withinGas : GasBound} {start final checked mined : Storage}
  {ocn : OcnRegistry}

/-- What every mined transaction keeps, an evolution keeps. -/
theorem Evolves.keeps (kept : Storage → Prop)
    (preserved : ∀ storage next ocn transaction, kept storage →
      accepted crypto withinGas ocn storage transaction = some next → kept next)
    (evolved : Evolves crypto withinGas start final) (holds : kept start) : kept final := by
  induction evolved with
  | unchanged => exact holds
  | mined storage ocn transaction earlier inductionHypothesis =>
    exact mine_preserves kept inductionHypothesis
      (fun next taken => preserved storage next ocn transaction inductionHypothesis taken)

/-- Listed users stay listed while other parties act. -/
theorem Evolves.keeps_user {user : Address} (evolved : Evolves crypto withinGas start final)
    (listed : user ∈ start.userAddressList) : user ∈ final.userAddressList :=
  evolved.keeps (fun storage => user ∈ storage.userAddressList)
    (fun _ _ _ _ earlier taken => accepted_keeps_users taken earlier) listed

/-- Listed devices stay listed while other parties act. -/
theorem Evolves.keeps_device {device : Address} (evolved : Evolves crypto withinGas start final)
    (listed : device ∈ start.deviceAddressList) : device ∈ final.deviceAddressList :=
  evolved.keeps (fun storage => device ∈ storage.deviceAddressList)
    (fun _ _ _ _ earlier taken => accepted_keeps_devices taken earlier) listed

/-- An entry that other parties cannot remove is present for good exactly when it is
present once the call's own transactions were mined. -/
theorem registers_iff {call : OnChain Unit} {present : Storage → Prop}
    (resolved : call.result (oracle crypto checked) = .ok ())
    (stays : ∀ start final, Evolves crypto withinGas start final → present start →
      present final) :
    Registers crypto withinGas checked ocn mined call present ↔
      present (settle crypto withinGas ocn mined (submitted crypto checked call)) := by
  constructor
  · intro registers
    exact registers resolved _ .unchanged
  · intro settled _ final evolved
    exact stays _ final evolved settled

/-- A resolved `addUser` did register exactly when the operator is admitted. -/
theorem addUser_registers_iff (lawful : crypto.Lawful) (registry : EvRegistry)
    (evolved : Evolves crypto withinGas checked mined) :
    Registers crypto withinGas checked ocn mined (registry.addUser crypto)
        (UserPresent crypto registry) ↔
      UserAdmitted crypto withinGas registry ocn mined := by
  obtain ⟨resolved, sent⟩ := @addUser_outcome crypto registry checked
  have stays (start final : Storage) (later : Evolves crypto withinGas start final)
      (listed : UserPresent crypto registry start) : UserPresent crypto registry final :=
    later.keeps_user listed
  rw [registers_iff resolved stays, sent]
  by_cases listed : registry.operator crypto ∈ checked.userAddressList
  · have still : registry.operator crypto ∈ mined.userAddressList := evolved.keeps_user listed
    simp only [listed, if_true, settle, List.foldl_nil, UserPresent, UserAdmitted,
      getAllUserAddresses, still, true_or]
  · simp only [listed, if_false, settle, List.foldl_cons, List.foldl_nil, UserPresent,
      UserAdmitted, getAllUserAddresses, mine_addUser_listed, accepted_addUser_iff,
      lawful.userSignature_verifies, true_and]

/-- A resolved `addDevice` did register exactly when the device is admitted. -/
theorem addDevice_registers_iff (lawful : crypto.Lawful) (registry : EvRegistry)
    (evolved : Evolves crypto withinGas checked mined) (address uid : String) :
    Registers crypto withinGas checked ocn mined (registry.addDevice crypto address uid)
        (DevicePresent crypto address) ↔
      DeviceAdmitted crypto withinGas registry ocn mined address uid := by
  cases read : crypto.ethers.getAddress address with
  | none =>
    have rejects := (addDevice_refused registry checked uid read).1
    simp only [Registers, rejects, false_implies, DeviceAdmitted, read, reduceCtorEq,
      implies_true]
  | some device =>
    obtain ⟨resolved, sent⟩ := addDevice_outcome registry checked uid read
    have present (storage : Storage) : DevicePresent crypto address storage ↔
        device ∈ storage.deviceAddressList := by
      simp only [DevicePresent, read, Option.some.injEq, exists_eq_left', getAllDeviceAddresses]
    have stays (start final : Storage) (later : Evolves crypto withinGas start final)
        (listed : DevicePresent crypto address start) : DevicePresent crypto address final :=
      (present final).mpr (later.keeps_device ((present start).mp listed))
    rw [registers_iff resolved stays, present, sent]
    simp only [DeviceAdmitted, read, Option.some.injEq, forall_eq']
    by_cases listed : address = crypto.ethers.getChecksumAddress device ∧
        device ∈ checked.deviceAddressList
    · have still : device ∈ mined.deviceAddressList := evolved.keeps_device listed.2
      simp only [listed, and_self, if_true, settle, List.foldl_nil, still, true_or]
    · simp only [listed, if_false, settle, List.foldl_cons, List.foldl_nil,
        mine_addDevice_listed, accepted_addDevice_iff, lawful.deviceSignature_verifies]

/-- For every operator key, every text and uid and everything other parties may do
between the check and the mining: a resolved `addUser` did register exactly when the
operator is admitted, and a resolved `addDevice` exactly when the device is. -/
theorem resolved_call_registers (lawful : crypto.Lawful) (registry : EvRegistry)
    (evolved : Evolves crypto withinGas checked mined) (ocn : OcnRegistry) :
    (Registers crypto withinGas checked ocn mined (registry.addUser crypto)
        (UserPresent crypto registry) ↔
      UserAdmitted crypto withinGas registry ocn mined) ∧
    ∀ address uid,
      Registers crypto withinGas checked ocn mined (registry.addDevice crypto address uid)
          (DevicePresent crypto address) ↔
        DeviceAdmitted crypto withinGas registry ocn mined address uid := by
  constructor
  · exact addUser_registers_iff lawful registry evolved
  · intro address uid
    exact addDevice_registers_iff lawful registry evolved address uid

/-- The operator with the key `a`, once the OCN registry lists every address: its
`addUser` on a fresh contract did register if it resolves. -/
theorem listed_operator_registers :
    Registers Crypto.sample (fun _ _ => true) deployed id deployed
      ((EvRegistry.mk "a").addUser Crypto.sample) (UserPresent Crypto.sample ⟨"a"⟩) :=
  (resolved_call_registers Crypto.sample_lawful ⟨"a"⟩ .unchanged id).1.mpr
    (Or.inr ⟨rfl, by decide, rfl⟩)

/-- An operator that the OCN registry does not list: on a fresh contract both its
calls resolve, and neither registers anything. -/
theorem unlisted_operator_unregistered :
    ¬ Registers Crypto.sample (fun _ _ => true) deployed (fun _ => .zero) deployed
      ((EvRegistry.mk "a").addUser Crypto.sample) (UserPresent Crypto.sample ⟨"a"⟩) ∧
    ¬ Registers Crypto.sample (fun _ _ => true) deployed (fun _ => .zero) deployed
      ((EvRegistry.mk "a").addDevice Crypto.sample "0x1c540b7c970f37917650e744d3627a64ac7dcc48"
        "72583848")
      (DevicePresent Crypto.sample "0x1c540b7c970f37917650e744d3627a64ac7dcc48") := by
  constructor
  · intro registers
    have admitted := (addUser_registers_iff Crypto.sample_lawful ⟨"a"⟩ .unchanged).mp registers
    rcases admitted with listed | ⟨_, listed, _⟩
    · cases listed
    · exact listed rfl
  · intro registers
    have admitted :=
      (addDevice_registers_iff Crypto.sample_lawful ⟨"a"⟩ .unchanged _ _).mp registers
    have read : Crypto.sample.ethers.getAddress "0x1c540b7c970f37917650e744d3627a64ac7dcc48" =
        some ⟨[1, 12, 5, 4, 0, 11, 7, 12, 9, 7, 0, 15, 3, 7, 9, 1, 7, 6, 5, 0, 14, 7, 4, 4, 13, 3,
          6, 2, 7, 10, 6, 4, 10, 12, 7, 13, 12, 12, 4, 8], rfl⟩ := by decide
    rcases admitted _ read with listed | ⟨_, _, listed, _⟩
    · cases listed
    · exact listed rfl

end EvDashboard.Registration
