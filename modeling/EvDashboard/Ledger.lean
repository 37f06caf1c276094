import EvDashboard.EvDashboardRegistry

/-!
# The contract and the transactions it accepted

A ledger keeps the accepted transactions beside the storage, so that statements can
speak of registrations that happened. Mining transactions of users other than
`address(0)` keeps the two in agreement: the device list is the sequence of accepted
registrations, and each of them is still what its device records.
-/

namespace EvDashboard

open EvDashboardRegistry

/-- The device a transaction registers. -/
def EvDashboardRegistry.Transaction.device : Transaction → Option Address
  | .addUser _ _ => none
  | .addDevice device _ _ _ => some device

structure Ledger where
  storage : Storage
  accepted : List Transaction

namespace Ledger

/-- A freshly deployed contract. -/
def fresh : Ledger := ⟨deployed, []⟩

/-- Mine one transaction, and record it if the contract accepts it. -/
def mine (crypto : Crypto) (withinGas : GasBound) (ocn : OcnRegistry) (ledger : Ledger)
    (transaction : Transaction) : Ledger :=
  match EvDashboardRegistry.accepted crypto withinGas ocn ledger.storage transaction with
  | some next => ⟨next, ledger.accepted ++ [transaction]⟩
  | none => ledger

/-- The devices of the accepted registrations, in order. -/
def registrations (ledger : Ledger) : List Address :=
  ledger.accepted.filterMap Transaction.device

variable {crypto : Crypto} {withinGas : GasBound} {ocn : OcnRegistry} {ledger : Ledger}
  {transaction : Transaction}

theorem mine_accepted {next : Storage}
    (taken : EvDashboardRegistry.accepted crypto withinGas ocn ledger.storage transaction =
      some next) :
    ledger.mine crypto withinGas ocn transaction = ⟨next, ledger.accepted ++ [transaction]⟩ := by
  rw [mine, taken]

theorem mine_refused
    (refused : EvDashboardRegistry.accepted crypto withinGas ocn ledger.storage transaction =
      none) : ledger.mine crypto withinGas ocn transaction = ledger := by
  rw [mine, refused]

/-- The storage of a ledger changes as the contract's does. -/
theorem mine_storage : (ledger.mine crypto withinGas ocn transaction).storage =
    EvDashboardRegistry.mine crypto withinGas ocn ledger.storage transaction := by
  cases taken : EvDashboardRegistry.accepted crypto withinGas ocn ledger.storage transaction with
  | none => rw [mine_refused taken, EvDashboardRegistry.mine, taken, Option.getD_none]
  | some next => rw [mine_accepted taken, EvDashboardRegistry.mine, taken, Option.getD_some]

/-- The storage is coherent, and it holds the accepted registrations. -/
structure Sound (ledger : Ledger) : Prop where
  coherent : Coherent ledger.storage
  registered : ledger.registrations = ledger.storage.deviceAddressList
  recorded : ∀ device identifier user signature,
    .addDevice device identifier user signature ∈ ledger.accepted →
      ledger.storage.devices device = ⟨user, identifier⟩

theorem fresh_sound : fresh.Sound where
  coherent := deployed_coherent
  registered := rfl
  recorded := fun _ _ _ _ member => by cases member

/-- The device of an accepted registration is listed. -/
theorem Sound.listed (sound : ledger.Sound) {device user : Address} {identifier : String}
    {signature : Signature}
    (member : .addDevice device identifier user signature ∈ ledger.accepted) :
    device ∈ ledger.storage.deviceAddressList := by
  rw [← sound.registered]
  exact List.mem_filterMap.mpr ⟨_, member, rfl⟩

/-- A listed device was registered, as it is recorded. -/
theorem Sound.accepted_of_listed (sound : ledger.Sound) {device : Address}
    (listed : device ∈ ledger.storage.deviceAddressList) :
    ∃ signature, .addDevice device (ledger.storage.devices device).identifier
      (ledger.storage.devices device).user signature ∈ ledger.accepted := by
  rw [← sound.registered] at listed
  obtain ⟨transaction, member, found⟩ := List.mem_filterMap.mp listed
  cases transaction with
  | addUser user signature => cases found
  | addDevice registered identifier user signature =>
    cases found
    rw [sound.recorded _ _ _ _ member]
    exact ⟨signature, member⟩

/-- No device is registered twice. -/
theorem Sound.registered_once (sound : ledger.Sound) (device : Address) :
    ledger.registrations.count device ≤ 1 := by
  rw [sound.registered]
  exact List.nodup_iff_count.mp sound.coherent.devicesDistinct device

/-- A listed device was registered exactly once. -/
theorem Sound.registered_listed (sound : ledger.Sound) {device : Address}
    (listed : device ∈ ledger.storage.deviceAddressList) :
    ledger.registrations.count device = 1 := by
  have some : 0 < ledger.registrations.count device := by
    rw [sound.registered]
    exact List.count_pos_iff.mpr listed
  have once : ledger.registrations.count device ≤ 1 := sound.registered_once device
  omega

/-- Mining a transaction of a user that is not `address(0)` keeps a ledger sound. -/
theorem Sound.mine (sound : ledger.Sound) (nonzero : transaction.user ≠ .zero) :
    (ledger.mine crypto withinGas ocn transaction).Sound := by
  cases taken : EvDashboardRegistry.accepted crypto withinGas ocn ledger.storage transaction with
  | none =>
    rw [mine_refused taken]
    exact sound
  | some next =>
    rw [mine_accepted taken]
    have coherent : Coherent next := sound.coherent.accepted nonzero taken
    have registered : (ledger.accepted ++ [transaction]).filterMap Transaction.device =
        next.deviceAddressList := by
      rw [List.filterMap_append]
      have earlier : ledger.accepted.filterMap Transaction.device =
          ledger.storage.deviceAddressList := sound.registered
      rw [earlier]
      rcases accepted_cases taken with ⟨_, _, rfl, added⟩ | ⟨_, _, _, _, rfl, added⟩
      · obtain ⟨_, _, _, rfl⟩ := addUser_ok_iff.mp added
        exact List.append_nil _
      · obtain ⟨_, _, _, _, rfl⟩ := addDevice_ok_iff.mp added
        rfl
    refine ⟨coherent, registered, ?_⟩
    intro device identifier user signature member
    rcases List.mem_append.mp member with earlier | last
    · rw [sound.coherent.device_final (sound.listed earlier) taken]
      exact sound.recorded _ _ _ _ earlier
    · rw [List.mem_singleton] at last
      subst last
      obtain ⟨_, _, _, _, rfl⟩ := addDevice_ok_iff.mp (accepted_iff.mp taken).2
      exact assign_same _ device _

/-- What was registered in the earlier ledger is registered in the later one, with the
same owner and identifier. -/
def Extends (earlier later : Ledger) : Prop :=
  ∀ device ∈ earlier.storage.deviceAddressList,
    device ∈ later.storage.deviceAddressList ∧
      later.storage.devices device = earlier.storage.devices device

theorem Extends.refl (ledger : Ledger) : Extends ledger ledger :=
  fun _ listed => ⟨listed, rfl⟩

theorem Extends.trans {earlier middle later : Ledger} (first : Extends earlier middle)
    (second : Extends middle later) : Extends earlier later := by
  intro device listed
  obtain ⟨still, same⟩ := first device listed
  obtain ⟨after, unchanged⟩ := second device still
  exact ⟨after, unchanged.trans same⟩

/-- Mining changes no registered device. -/
theorem Sound.mine_extends (sound : ledger.Sound) :
    Extends ledger (ledger.mine crypto withinGas ocn transaction) := by
  cases taken : EvDashboardRegistry.accepted crypto withinGas ocn ledger.storage transaction with
  | none =>
    rw [mine_refused taken]
    exact .refl ledger
  | some next =>
    rw [mine_accepted taken]
    intro device listed
    exact ⟨accepted_keeps_devices taken listed, sound.coherent.device_final listed taken⟩

end Ledger

end EvDashboard
