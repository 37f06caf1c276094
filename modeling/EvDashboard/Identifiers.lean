import EvDashboard.EvRegistry
import EvDashboard.Ledger
import EvDashboard.Transition

/-!
# What an identifier resolves to

The contract guards a registration by the device alone. The map from identifiers is
assigned without a look at what it holds, so a second device registered under an
identifier takes it over, whoever registers it, while the first device still records
the identifier as its own.

Calls follow each other here, each mined before the next one starts. The identifiers
resolve as registered in every state of a run exactly when no accepted registration
reuses one.
-/

namespace EvDashboard.Identifiers

open JavaScript EvDashboardRegistry Transition

variable (crypto : Crypto) (withinGas : GasBound)

/-- A call of one client, with the OCN registry as it stands when the call's
transaction is mined. -/
structure Event where
  registry : EvRegistry
  request : EvRegistry.Request
  ocn : OcnRegistry

/-- Make the call, and mine what it submitted. -/
def step (ledger : Ledger) (event : Event) : Option Ledger :=
  some ((submitted crypto ledger.storage (event.registry.perform crypto event.request)).foldl
    (Ledger.mine crypto withinGas event.ocn) ledger)

/-- Every accepted registration with an identifier is what the client returns for the
identifier. -/
def Resolves (ledger : Ledger) : Prop :=
  ∀ device identifier user signature,
    .addDevice device identifier user signature ∈ ledger.accepted → identifier ≠ "" →
      (EvRegistry.getRegisteredDevice identifier).result (oracle crypto ledger.storage) =
        .ok (some ⟨crypto.ethers.getChecksumAddress device,
          crypto.ethers.getChecksumAddress user⟩)

/-- A registration that the contract would accept has no identifier, or one that no
registered device has. -/
def Unclaimed (ledger : Ledger) (event : Event) : Prop :=
  ∀ address uid device, event.request = .addDevice address uid → uid ≠ "" →
    crypto.ethers.getAddress address = some device →
    (accepted crypto withinGas event.ocn ledger.storage
      (.addDevice device uid (event.registry.operator crypto)
        (event.registry.deviceSignature crypto address uid))).isSome →
    ∀ other ∈ ledger.storage.deviceAddressList,
      (ledger.storage.devices other).identifier ≠ uid

variable {crypto : Crypto} {withinGas : GasBound} {ocn : OcnRegistry} {ledger next : Ledger}

/-- A sound ledger resolves when the map from identifiers agrees with the accepted
registrations. -/
theorem resolves_iff (sound : ledger.Sound) : Resolves crypto ledger ↔
    ∀ device identifier user signature,
      .addDevice device identifier user signature ∈ ledger.accepted → identifier ≠ "" →
        ledger.storage.identifiers identifier = device := by
  constructor
  · intro resolves device identifier user signature member named
    have found := resolves device identifier user signature member named
    rw [getRegisteredDevice_outcome ledger.storage named] at found
    simp only [Except.ok.injEq, Option.some.injEq, RegisteredDevice.mk.injEq] at found
    exact crypto.ethers.checksum_injective found.1
  · intro agrees device identifier user signature member named
    rw [getRegisteredDevice_outcome ledger.storage named,
      agrees device identifier user signature member named,
      sound.recorded device identifier user signature member]

/-- A ledger in which one more user is added resolves as before. -/
theorem addUser_resolves_iff (sound : ledger.Sound) {storage : Storage} {user : Address}
    {signature : Signature} (taken : accepted crypto withinGas ocn ledger.storage
      (.addUser user signature) = some storage) (nonzero : user ≠ .zero) :
    Resolves crypto ⟨storage, ledger.accepted ++ [.addUser user signature]⟩ ↔
      Resolves crypto ledger := by
  have still : (Ledger.mk storage (ledger.accepted ++ [.addUser user signature])).Sound :=
    Ledger.mine_accepted taken ▸ sound.mine nonzero
  rw [resolves_iff still, resolves_iff sound]
  obtain ⟨_, _, _, rfl⟩ := addUser_ok_iff.mp (accepted_iff.mp taken).2
  constructor
  · intro agrees device identifier registrar other member named
    exact agrees device identifier registrar other (List.mem_append_left _ member) named
  · intro agrees device identifier registrar other member named
    rcases List.mem_append.mp member with earlier | last
    · exact agrees device identifier registrar other earlier named
    · cases List.mem_singleton.mp last

/-- A ledger in which one more device is registered resolves exactly when the device
has no identifier or a new one. -/
theorem addDevice_resolves_iff (sound : ledger.Sound) (resolves : Resolves crypto ledger)
    {storage : Storage} {device user : Address} {identifier : String} {signature : Signature}
    (taken : accepted crypto withinGas ocn ledger.storage
      (.addDevice device identifier user signature) = some storage) (nonzero : user ≠ .zero) :
    Resolves crypto
        ⟨storage, ledger.accepted ++ [.addDevice device identifier user signature]⟩ ↔
      (identifier ≠ "" → ∀ other ∈ ledger.storage.deviceAddressList,
        (ledger.storage.devices other).identifier ≠ identifier) := by
  have agrees := (resolves_iff sound).mp resolves
  have still : (Ledger.mk storage
      (ledger.accepted ++ [.addDevice device identifier user signature])).Sound :=
    Ledger.mine_accepted taken ▸ sound.mine nonzero
  rw [resolves_iff still]
  obtain ⟨_, _, _, fresh, rfl⟩ := addDevice_ok_iff.mp (accepted_iff.mp taken).2
  have unlisted : device ∉ ledger.storage.deviceAddressList :=
    fun listed => (sound.coherent.deviceListed device).mpr listed fresh
  constructor
  · intro after named other listed used
    obtain ⟨otherSignature, member⟩ := sound.accepted_of_listed listed
    rw [used] at member
    have kept := after other identifier _ otherSignature (List.mem_append_left _ member) named
    simp only [assign_same] at kept
    exact unlisted (kept ▸ listed)
  · intro unused registered uid operator signed member named
    rcases List.mem_append.mp member with earlier | last
    · have different : uid ≠ identifier := by
        rintro rfl
        apply unused named registered (sound.listed earlier)
        rw [sound.recorded registered uid operator signed earlier]
      simp only [assign_other _ _ different]
      exact agrees registered uid operator signed earlier named
    · cases List.mem_singleton.mp last
      exact assign_same _ identifier device

/-- A transaction that registers nothing, or is refused, changes no identifier; one
that registers a device keeps the identifiers exactly when it has none or a new one. -/
theorem mine_resolves_iff {transaction : Transaction} (sound : ledger.Sound)
    (nonzero : transaction.user ≠ .zero) (resolves : Resolves crypto ledger) :
    Resolves crypto (ledger.mine crypto withinGas ocn transaction) ↔
      ∀ device identifier user signature,
        transaction = .addDevice device identifier user signature → identifier ≠ "" →
        (accepted crypto withinGas ocn ledger.storage transaction).isSome →
        ∀ other ∈ ledger.storage.deviceAddressList,
          (ledger.storage.devices other).identifier ≠ identifier := by
  cases taken : accepted crypto withinGas ocn ledger.storage transaction with
  | none =>
    rw [Ledger.mine_refused taken]
    exact ⟨fun _ _ _ _ _ _ _ some => (by cases some), fun _ => resolves⟩
  | some storage =>
    rw [Ledger.mine_accepted taken]
    cases transaction with
    | addUser user signature =>
      rw [addUser_resolves_iff sound taken nonzero]
      exact ⟨fun _ _ _ _ _ same => (by cases same), fun _ => resolves⟩
    | addDevice device identifier user signature =>
      rw [addDevice_resolves_iff sound resolves taken nonzero]
      constructor
      · intro unused registered uid operator signed same named _
        cases same
        exact unused named
      · exact fun unused named => unused device identifier user signature rfl named rfl

/-- The transactions of one call keep a ledger sound. -/
theorem step_sound (nonzero : ∀ key, crypto.ethers.computeAddress key ≠ .zero) {event : Event}
    (sound : ledger.Sound) (stepped : step crypto withinGas ledger event = some next) :
    next.Sound := by
  have mined (transactions : List Transaction) (before : Ledger) (start : before.Sound)
      (own : ∀ transaction ∈ transactions, transaction.user ≠ .zero) :
      (transactions.foldl (Ledger.mine crypto withinGas event.ocn) before).Sound := by
    induction transactions generalizing before with
    | nil => exact start
    | cons transaction rest inductionHypothesis =>
      apply inductionHypothesis
      · exact start.mine (own transaction List.mem_cons_self)
      · exact fun later member => own later (List.mem_cons_of_mem _ member)
  cases stepped
  apply mined _ _ sound
  intro transaction member
  rw [submitted_own event.registry ledger.storage event.request member]
  exact nonzero _

/-- A call that submits nothing leaves the ledger as it is. -/
theorem step_silent {event : Event} (nothing : submitted crypto ledger.storage
      (event.registry.perform crypto event.request) = [])
    (stepped : step crypto withinGas ledger event = some next) : next = ledger := by
  simp only [step, nothing, List.foldl_nil, Option.some.injEq] at stepped
  exact stepped.symm

/-- A call that submits one transaction has it mined. -/
theorem step_single {event : Event} {transaction : Transaction}
    (sent : submitted crypto ledger.storage (event.registry.perform crypto event.request) =
      [transaction]) (stepped : step crypto withinGas ledger event = some next) :
    next = ledger.mine crypto withinGas event.ocn transaction := by
  simp only [step, sent, List.foldl_cons, List.foldl_nil, Option.some.injEq] at stepped
  exact stepped.symm

/-- A call that registers no device reuses no identifier. -/
theorem unclaimed_of_other {event : Event}
    (other : ∀ address uid, event.request ≠ .addDevice address uid) :
    Unclaimed crypto withinGas ledger event :=
  fun address uid _ same => absurd same (other address uid)

/-- Adding a user changes no identifier. -/
theorem step_addUser_resolves (nonzero : ∀ key, crypto.ethers.computeAddress key ≠ .zero)
    {registry : EvRegistry} (sound : ledger.Sound) (resolves : Resolves crypto ledger)
    (stepped : step crypto withinGas ledger ⟨registry, .addUser, ocn⟩ = some next) :
    Resolves crypto next := by
  have sent := (@addUser_outcome crypto registry ledger.storage).2
  by_cases listed : registry.operator crypto ∈ ledger.storage.userAddressList
  · rw [step_silent (sent.trans (if_pos listed)) stepped]
    exact resolves
  · have own : (Transaction.addUser (registry.operator crypto)
        (registry.userSignature crypto)).user ≠ .zero := nonzero registry.operatorKey
    rw [step_single (sent.trans (if_neg listed)) stepped]
    exact (mine_resolves_iff sound own resolves).mpr (fun _ _ _ _ same => nomatch same)

/-- Registering a device changes no identifier exactly when the registration reuses
none. The client's own check stops only devices that the contract would refuse. -/
theorem step_addDevice_resolves_iff (nonzero : ∀ key, crypto.ethers.computeAddress key ≠ .zero)
    {registry : EvRegistry} {address uid : String} (sound : ledger.Sound)
    (resolves : Resolves crypto ledger)
    (stepped : step crypto withinGas ledger ⟨registry, .addDevice address uid, ocn⟩ = some next) :
    Resolves crypto next ↔
      Unclaimed crypto withinGas ledger ⟨registry, .addDevice address uid, ocn⟩ := by
  cases read : crypto.ethers.getAddress address with
  | none =>
    rw [step_silent (addDevice_refused registry ledger.storage uid read).2 stepped]
    refine ⟨fun _ spelled _ device same _ found => ?_, fun _ => resolves⟩
    cases same
    rw [read] at found
    cases found
  | some device =>
    have sent := (addDevice_outcome registry ledger.storage uid read).2
    by_cases listed : address = crypto.ethers.getChecksumAddress device ∧
        device ∈ ledger.storage.deviceAddressList
    · rw [step_silent (sent.trans (if_pos listed)) stepped]
      refine ⟨fun _ spelled _ other same _ found taken => ?_, fun _ => resolves⟩
      cases same
      rw [read] at found
      cases found
      have unowned := (accepted_addDevice_iff.mp taken).2.2.2.2
      exact absurd unowned ((sound.coherent.deviceListed device).mpr listed.2)
    · have own : (Transaction.addDevice device uid (registry.operator crypto)
          (registry.deviceSignature crypto address uid)).user ≠ .zero :=
        nonzero registry.operatorKey
      rw [step_single (sent.trans (if_neg listed)) stepped, mine_resolves_iff sound own resolves]
      constructor
      · intro unused spelled name other same named found taken
        cases same
        rw [read] at found
        cases found
        exact unused _ _ _ _ rfl named taken
      · intro unclaimed other identifier user signature same named taken
        cases same
        exact unclaimed address uid device rfl named read taken

/-- A call keeps the identifiers resolving exactly when its registration reuses none. -/
theorem step_resolves_iff (nonzero : ∀ key, crypto.ethers.computeAddress key ≠ .zero)
    {event : Event} (sound : ledger.Sound) (resolves : Resolves crypto ledger)
    (stepped : step crypto withinGas ledger event = some next) :
    Resolves crypto next ↔ Unclaimed crypto withinGas ledger event := by
  obtain ⟨registry, request, ocn⟩ := event
  cases request with
  | userExists =>
    rw [step_silent rfl stepped]
    exact ⟨fun _ => unclaimed_of_other (fun _ _ => nofun), fun _ => resolves⟩
  | deviceExists address =>
    rw [step_silent rfl stepped]
    exact ⟨fun _ => unclaimed_of_other (fun _ _ => nofun), fun _ => resolves⟩
  | getRegisteredDevice uid =>
    rw [step_silent (getRegisteredDevice_silent registry ledger.storage uid) stepped]
    exact ⟨fun _ => unclaimed_of_other (fun _ _ => nofun), fun _ => resolves⟩
  | addUser =>
    have still := step_addUser_resolves nonzero sound resolves stepped
    exact ⟨fun _ => unclaimed_of_other (fun _ _ => nofun), fun _ => still⟩
  | addDevice address uid => exact step_addDevice_resolves_iff nonzero sound resolves stepped

/-- An operator that the OCN registry lists and that is not added yet adds itself. -/
theorem step_addUser (lawful : crypto.Lawful) {registry : EvRegistry} {ocn : OcnRegistry}
    (enough : ∀ storage transaction, withinGas storage transaction = true)
    (operatorListed : ocn (registry.operator crypto) ≠ .zero)
    (unlisted : registry.operator crypto ∉ ledger.storage.userAddressList)
    (fresh : ledger.storage.users (registry.operator crypto) = false) :
    step crypto withinGas ledger ⟨registry, .addUser, ocn⟩ = some
      ⟨{ ledger.storage with
          users := assign ledger.storage.users (registry.operator crypto) true
          userAddressList := ledger.storage.userAddressList ++ [registry.operator crypto] },
        ledger.accepted ++
          [.addUser (registry.operator crypto) (registry.userSignature crypto)]⟩ := by
  have sent := (@addUser_outcome crypto registry ledger.storage).2
  rw [if_neg unlisted] at sent
  simp only [step, EvRegistry.perform, sent, List.foldl_cons, List.foldl_nil, Option.some.injEq]
  exact Ledger.mine_accepted
    (lawful.addUser_accepted registry ledger.storage (enough _ _) operatorListed fresh)

/-- An added operator registers a device that is not registered yet. -/
theorem step_addDevice (lawful : crypto.Lawful) {registry : EvRegistry} {ocn : OcnRegistry}
    {address : String} {device : Address} (uid : String)
    (enough : ∀ storage transaction, withinGas storage transaction = true)
    (form : Ethers.readDigits (Ethers.withoutPrefix address) = some device)
    (read : crypto.ethers.getAddress address = some device)
    (operatorListed : ocn (registry.operator crypto) ≠ .zero)
    (added : ledger.storage.users (registry.operator crypto) = true)
    (unlisted : device ∉ ledger.storage.deviceAddressList)
    (fresh : (ledger.storage.devices device).user = .zero) :
    step crypto withinGas ledger ⟨registry, .addDevice address uid, ocn⟩ = some
      ⟨{ ledger.storage with
          devices := assign ledger.storage.devices device ⟨registry.operator crypto, uid⟩
          identifiers := assign ledger.storage.identifiers uid device
          deviceAddressList := ledger.storage.deviceAddressList ++ [device] },
        ledger.accepted ++ [.addDevice device uid (registry.operator crypto)
          (registry.deviceSignature crypto address uid)]⟩ := by
  have sent := (addDevice_outcome registry ledger.storage uid read).2
  rw [if_neg (fun present => unlisted present.2)] at sent
  simp only [step, EvRegistry.perform, sent, List.foldl_cons, List.foldl_nil, Option.some.injEq]
  exact Ledger.mine_accepted (lawful.addDevice_accepted registry ledger.storage uid form read
    (enough _ _) operatorListed added fresh)

theorem fresh_resolves : Resolves crypto Ledger.fresh :=
  fun _ _ _ _ member => by cases member

/-- For every sequence of calls of any operators on a fresh contract, each mined
before the next: in every state the calls reach, each accepted registration is what
its identifier resolves to, exactly when no accepted registration reuses one. -/
theorem registered_uid_resolves (nonzero : ∀ key, crypto.ethers.computeAddress key ≠ .zero)
    (events : List Event) :
    Meets (step crypto withinGas) (Unclaimed crypto withinGas) Ledger.fresh events ↔
      ∀ taken ledger, taken <+: events →
        run (step crypto withinGas) Ledger.fresh taken = some ledger → Resolves crypto ledger :=
  meets_iff (fun _ _ _ _ => ⟨_, rfl⟩) (fun _ _ _ sound stepped => step_sound nonzero sound stepped)
    (fun _ _ _ sound resolves stepped => step_resolves_iff nonzero sound resolves stepped)
    Ledger.fresh_sound fresh_resolves events

/-- The operator with the key `a` is added and registers two devices. -/
def twoDevices (firstUid secondUid : String) : List Event :=
  [⟨⟨"a"⟩, .addUser, id⟩, ⟨⟨"a"⟩, .addDevice firstSpelling firstUid, id⟩,
    ⟨⟨"a"⟩, .addDevice secondSpelling secondUid, id⟩]

/-- The ledger once the operator is added. -/
def operatorAdded : Ledger :=
  ⟨{ deployed with
      users := assign deployed.users (Address.repeated 1) true
      userAddressList := [Address.repeated 1] },
    [.addUser (Address.repeated 1) (EvRegistry.userSignature ⟨"a"⟩ Crypto.sample)]⟩

/-- The ledger once one more device is registered. -/
def withDevice (ledger : Ledger) (digit : Nat) (spelling uid : String) : Ledger :=
  ⟨{ ledger.storage with
      devices := assign ledger.storage.devices (.repeated digit) ⟨Address.repeated 1, uid⟩
      identifiers := assign ledger.storage.identifiers uid (.repeated digit)
      deviceAddressList := ledger.storage.deviceAddressList ++ [.repeated digit] },
    ledger.accepted ++ [.addDevice (.repeated digit) uid (Address.repeated 1)
      (EvRegistry.deviceSignature ⟨"a"⟩ Crypto.sample spelling uid)]⟩

/-- The last registered device is what its identifier resolves to. -/
theorem withDevice_identifier (ledger : Ledger) (digit : Nat) (spelling uid : String) :
    (withDevice ledger digit spelling uid).storage.identifiers uid = .repeated digit := by
  simp only [withDevice, assign_same]

theorem operator_step : step Crypto.sample (fun _ _ => true) Ledger.fresh
    ⟨⟨"a"⟩, .addUser, id⟩ = some operatorAdded :=
  step_addUser Crypto.sample_lawful (fun _ _ => rfl) (by decide) (by decide) rfl

theorem first_step (uid : String) : step Crypto.sample (fun _ _ => true) operatorAdded
    ⟨⟨"a"⟩, .addDevice firstSpelling uid, id⟩ =
      some (withDevice operatorAdded 5 firstSpelling uid) := by
  have form : Ethers.readDigits (Ethers.withoutPrefix firstSpelling) =
      some (Address.repeated 5) := by decide
  have read : Crypto.sample.ethers.getAddress firstSpelling = some (Address.repeated 5) := by decide
  exact step_addDevice Crypto.sample_lawful uid (fun _ _ => rfl) form read (by decide) rfl
    (by decide) rfl

theorem second_step (firstUid secondUid : String) : step Crypto.sample (fun _ _ => true)
    (withDevice operatorAdded 5 firstSpelling firstUid)
    ⟨⟨"a"⟩, .addDevice secondSpelling secondUid, id⟩ =
      some (withDevice (withDevice operatorAdded 5 firstSpelling firstUid) 6 secondSpelling
        secondUid) := by
  have form : Ethers.readDigits (Ethers.withoutPrefix secondSpelling) =
      some (Address.repeated 6) := by decide
  have read : Crypto.sample.ethers.getAddress secondSpelling = some (Address.repeated 6) := by
    decide
  have fresh : Address.repeated 6 ∉ ([] ++ [Address.repeated 5] : List Address) := by decide
  exact step_addDevice Crypto.sample_lawful secondUid (fun _ _ => rfl) form read (by decide) rfl
    fresh rfl

theorem twoDevices_run (firstUid secondUid : String) :
    run (step Crypto.sample (fun _ _ => true)) Ledger.fresh (twoDevices firstUid secondUid) =
      some (withDevice (withDevice operatorAdded 5 firstSpelling firstUid) 6 secondSpelling
        secondUid) :=
  run_step operator_step (run_step (first_step firstUid) (run_step (second_step _ secondUid) rfl))

/-- Under two identifiers both devices are what their identifiers resolve to. -/
theorem two_identifiers_resolve : Resolves Crypto.sample
    (withDevice (withDevice operatorAdded 5 firstSpelling "1") 6 secondSpelling "2") := by
  have meets : Meets (step Crypto.sample (fun _ _ => true)) (Unclaimed Crypto.sample
      (fun _ _ => true)) Ledger.fresh (twoDevices "1" "2") := by
    constructor
    · exact fun _ _ _ same => nomatch same
    · intro next stepped
      cases operator_step.symm.trans stepped
      constructor
      · exact fun _ _ _ _ _ _ _ other listed => nomatch listed
      · intro next stepped
        cases (first_step "1").symm.trans stepped
        constructor
        · intro address uid device same _ _ _ other listed used
          cases same
          cases List.mem_singleton.mp listed
          revert used
          decide
        · exact fun _ _ => trivial
  exact (registered_uid_resolves Crypto.sample_lawful.nonzero _).mp meets _ _ List.prefix_rfl
    (twoDevices_run "1" "2")

/-- Under one identifier the second device takes over: the first one is registered
and no longer what its identifier resolves to. -/
theorem identifier_taken_over :
    ∃ ledger, run (step Crypto.sample (fun _ _ => true)) Ledger.fresh
        (twoDevices "72583848" "72583848") = some ledger ∧ ¬ Resolves Crypto.sample ledger := by
  refine ⟨_, twoDevices_run "72583848" "72583848", ?_⟩
  intro resolves
  have named : "72583848" ≠ "" := by decide
  have registered : .addDevice (Address.repeated 5) "72583848" (Address.repeated 1)
      (EvRegistry.deviceSignature ⟨"a"⟩ Crypto.sample firstSpelling "72583848") ∈
      (withDevice operatorAdded 5 firstSpelling "72583848").accepted :=
    List.mem_append_right _ List.mem_cons_self
  have found := resolves _ _ _ _ (List.mem_append_left _ registered) named
  rw [getRegisteredDevice_outcome _ named, withDevice_identifier] at found
  simp only [Except.ok.injEq, Option.some.injEq, RegisteredDevice.mk.injEq] at found
  have same : Address.repeated 6 = Address.repeated 5 :=
    Crypto.sample.ethers.checksum_injective found.1
  revert same
  decide

end EvDashboard.Identifiers
