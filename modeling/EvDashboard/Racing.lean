import EvDashboard.Async.Pool
import EvDashboard.EvRegistry
import EvDashboard.Ledger

/-!
# Racing registrations

Any number of clients, some of them perhaps with one key, call the registry at the
same time. A read is answered from the storage of its moment and may be stale when
the client acts on it. A sent transaction stays pending until it is mined, in any
order, under the OCN registry of that moment.

The clients' own checks play no part in safety. It comes from the contract, which
guards every write, and from each client sending only its own operator's
transactions, whose address is not `address(0)`.
-/

namespace EvDashboard.Racing

open Async Async.Pool JavaScript EvDashboardRegistry

/-- The contract, the OCN registry, and the transactions sent and not yet mined. -/
structure World where
  ledger : Ledger
  ocn : OcnRegistry
  pending : List Transaction

/-- A call reaches the node: a sent transaction becomes pending. -/
def World.receive (world : World) (call : ChainCall) : World :=
  { world with pending := world.pending ++ call.transaction.toList }

/-- Mine one pending transaction; the remaining ones are given. -/
def World.mine (crypto : Crypto) (withinGas : GasBound) (world : World)
    (transaction : Transaction) (remaining : List Transaction) : World :=
  { world with
    ledger := world.ledger.mine crypto withinGas world.ocn transaction
    pending := remaining }

/-- A call is answered from the current storage. Any call may fail, before or after
it reached the node. -/
def service (crypto : Crypto) (_ : EvRegistry) :
    Service ChainCall ChainCall.Answer Exception World :=
  fun world call outcome next => match outcome with
    | .ok reply => reply = answer crypto world.ledger.storage call ∧ next = world.receive call
    | .error _ => next = world ∨ next = world.receive call

/-- What happens without a client: a pending transaction is mined, whichever it is, or
the OCN registry changes. -/
inductive Moves (crypto : Crypto) (withinGas : GasBound) : World → World → Prop where
  | mined (world : World) (before after : List Transaction) (transaction : Transaction)
      (waiting : world.pending = before ++ transaction :: after) :
      Moves crypto withinGas world (world.mine crypto withinGas transaction (before ++ after))
  | listed (world : World) (ocn : OcnRegistry) :
      Moves crypto withinGas world { world with ocn := ocn }

/-- The programs of the clients' calls. -/
def calls (crypto : Crypto) (clients : List (EvRegistry × EvRegistry.Request)) :
    Tasks ChainCall ChainCall.Answer Exception EvRegistry Unit :=
  clients.map (fun client => (client.1, client.1.perform crypto client.2))

/-- A fresh contract, before any call. -/
def World.start (ocn : OcnRegistry) : World := ⟨.fresh, ocn, []⟩

/-- A storage as the callers may rely on it: no list repeats an address, the users are
the listed ones, the owners of listed devices are users, and no device was registered
twice. -/
structure Safe (world : World) : Prop where
  usersDistinct : (getAllUserAddresses world.ledger.storage).Nodup
  devicesDistinct : (getAllDeviceAddresses world.ledger.storage).Nodup
  userChecked : ∀ user, user ∈ getAllUserAddresses world.ledger.storage ↔
    world.ledger.storage.users user = true
  ownerListed : ∀ device ∈ getAllDeviceAddresses world.ledger.storage,
    (world.ledger.storage.devices device).user ∈ getAllUserAddresses world.ledger.storage
  registeredOnce : ∀ device, world.ledger.registrations.count device ≤ 1

/-- A transaction that registers the device unless the device is registered already:
it runs within its gas, its signature verifies, and its operator is listed in the OCN
registry and added. -/
def Eligible (crypto : Crypto) (withinGas : GasBound) (world : World) (device : Address)
    (transaction : Transaction) : Prop :=
  ∃ identifier user signature, transaction = .addDevice device identifier user signature ∧
    withinGas world.ledger.storage transaction = true ∧
    crypto.ecrecover (messageDigest crypto (deviceHash crypto device identifier user)) signature =
      user ∧
    world.ocn user ≠ .zero ∧ world.ledger.storage.users user = true

variable {crypto : Crypto} {withinGas : GasBound}

/-- The ledger is sound, and no pending transaction is one of `address(0)`. -/
structure Invariant (world : World) : Prop where
  sound : world.ledger.Sound
  nonzero : ∀ transaction ∈ world.pending, transaction.user ≠ .zero

theorem start_invariant (ocn : OcnRegistry) : Invariant (World.start ocn) where
  sound := Ledger.fresh_sound
  nonzero := fun _ member => by cases member

/-- A client's own call keeps the invariant. -/
theorem Invariant.receive {world : World} (invariant : Invariant world) {registry : EvRegistry}
    {call : ChainCall} (nonzero : registry.operator crypto ≠ .zero)
    (own : OwnTransaction crypto registry call) : Invariant (world.receive call) := by
  constructor
  · exact invariant.sound
  · intro transaction member
    rcases List.mem_append.mp member with earlier | sent
    · exact invariant.nonzero transaction earlier
    · rw [own transaction (Option.mem_toList.mp sent)]
      exact nonzero

/-- A move keeps the invariant and every registered device. -/
theorem Invariant.moves {world next : World} (invariant : Invariant world)
    (move : Moves crypto withinGas world next) :
    Invariant next ∧ Ledger.Extends world.ledger next.ledger := by
  cases move with
  | mined before after transaction waiting =>
    have present : transaction ∈ world.pending := by
      rw [waiting]
      exact List.mem_append_right _ List.mem_cons_self
    refine ⟨⟨invariant.sound.mine (invariant.nonzero transaction present), ?_⟩,
      invariant.sound.mine_extends⟩
    intro other member
    apply invariant.nonzero other
    rw [waiting]
    rcases List.mem_append.mp member with early | late
    · exact List.mem_append_left _ early
    · exact List.mem_append_right _ (List.mem_cons_of_mem _ late)
  | listed ocn => exact ⟨⟨invariant.sound, invariant.nonzero⟩, .refl world.ledger⟩

/-- Along every run of clients sending their own transactions the invariant holds, and
what was registered stays as it is. -/
theorem run_keeps (nonzero : ∀ key, crypto.ethers.computeAddress key ≠ .zero)
    {tasks final : Tasks ChainCall ChainCall.Answer Exception EvRegistry Unit}
    {world later : World}
    (run : Run (service crypto) (Moves crypto withinGas) tasks world final later)
    (guarded : Guarded (fun _ _ _ => True) (OwnTransaction crypto) tasks)
    (invariant : Invariant world) :
    (Invariant later ∧ Ledger.Extends world.ledger later.ledger) ∧
      Guarded (fun _ _ _ => True) (OwnTransaction crypto) final := by
  apply run.guarded (fun other => Invariant other ∧ Ledger.Extends world.ledger other.ledger)
    ?_ ?_ ⟨invariant, .refl world.ledger⟩ guarded
  · rintro registry before call outcome following ⟨holds, extended⟩ own served
    refine ⟨?_, fun _ _ => trivial⟩
    have received : Invariant (before.receive call) := holds.receive (nonzero _) own
    cases outcome with
    | ok reply =>
      obtain ⟨_, rfl⟩ := served
      exact ⟨received, extended⟩
    | error error =>
      rcases served with rfl | rfl
      · exact ⟨holds, extended⟩
      · exact ⟨received, extended⟩
  · rintro before following ⟨holds, extended⟩ move
    obtain ⟨kept, further⟩ := holds.moves move
    exact ⟨kept, extended.trans further⟩

theorem calls_guarded (clients : List (EvRegistry × EvRegistry.Request)) :
    Guarded (fun _ _ _ => True) (OwnTransaction crypto) (calls crypto clients) := by
  intro task member
  obtain ⟨client, _, rfl⟩ := List.mem_map.mp member
  exact perform_obeys client.1 client.2

theorem Invariant.safe {world : World} (invariant : Invariant world) : Safe world where
  usersDistinct := invariant.sound.coherent.usersDistinct
  devicesDistinct := invariant.sound.coherent.devicesDistinct
  userChecked := fun user => (invariant.sound.coherent.userListed user).symm
  ownerListed := invariant.sound.coherent.ownerListed
  registeredOnce := invariant.sound.registered_once

/-- Mining an eligible transaction leaves its device registered, by it or by an
earlier one. -/
theorem Invariant.eligible_listed {world : World} (invariant : Invariant world)
    {device : Address} {transaction : Transaction} (remaining : List Transaction)
    (eligible : Eligible crypto withinGas world device transaction) :
    device ∈
      (world.mine crypto withinGas transaction remaining).ledger.storage.deviceAddressList := by
  obtain ⟨identifier, user, signature, rfl, enough, verified, operatorListed, added⟩ := eligible
  simp only [World.mine, Ledger.mine_storage, mine_addDevice_listed, accepted_addDevice_iff]
  by_cases fresh : (world.ledger.storage.devices device).user = .zero
  · exact Or.inr ⟨enough, verified, operatorListed, added, fresh⟩
  · exact Or.inl ((invariant.sound.coherent.deviceListed device).mp fresh)

/-- Before any device is registered, `addDevice` of the first device reads an empty
list and sends one transaction. -/
theorem sample_addDevice (registry : EvRegistry) (uid : String) : ∃ resume,
    registry.addDevice Crypto.sample firstSpelling uid = .await .getAllDeviceAddresses resume ∧
      resume [] = .await (.send (.addDevice (.repeated 5) uid (registry.operator Crypto.sample)
        (registry.deviceSignature Crypto.sample firstSpelling uid))) .done := by
  have read : Crypto.sample.ethers.getAddress firstSpelling = some (.repeated 5) := by decide
  refine ⟨_, addDevice_eq registry firstSpelling uid, ?_⟩
  simp only [read]
  rfl

/-- Before any user is added, `addUser` reads an empty list and sends one transaction. -/
theorem sample_addUser (registry : EvRegistry) : ∃ resume,
    registry.addUser Crypto.sample = .await .getAllUserAddresses resume ∧
      resume [] = .await (.send (.addUser (registry.operator Crypto.sample)
        (registry.userSignature Crypto.sample))) .done :=
  ⟨_, addUser_eq registry, rfl⟩

/-- For any clients and any interleaving of their reads, their transactions and the
mining: every reached storage is safe, what is registered keeps its owner and
identifier in every later storage, and once an eligible transaction for a device was
mined the device is registered exactly once for good. -/
theorem racing_registrations_safe (nonzero : ∀ key, crypto.ethers.computeAddress key ≠ .zero)
    (clients : List (EvRegistry × EvRegistry.Request)) (ocn : OcnRegistry)
    {tasks : Tasks ChainCall ChainCall.Answer Exception EvRegistry Unit} {world : World}
    (run : Run (service crypto) (Moves crypto withinGas) (calls crypto clients)
      (World.start ocn) tasks world) :
    Safe world ∧
    (∀ final later, Run (service crypto) (Moves crypto withinGas) tasks world final later →
      Ledger.Extends world.ledger later.ledger) ∧
    ∀ before after transaction device, world.pending = before ++ transaction :: after →
      Eligible crypto withinGas world device transaction →
      ∀ final later, Run (service crypto) (Moves crypto withinGas) tasks
          (world.mine crypto withinGas transaction (before ++ after)) final later →
        later.ledger.registrations.count device = 1 := by
  obtain ⟨⟨invariant, _⟩, guarded⟩ :=
    run_keeps nonzero run (calls_guarded clients) (start_invariant ocn)
  refine ⟨invariant.safe, ?_, ?_⟩
  · intro final later onward
    exact (run_keeps nonzero onward guarded invariant).1.2
  · intro before after transaction device waiting eligible final later onward
    have mined : Invariant (world.mine crypto withinGas transaction (before ++ after)) :=
      (invariant.moves (.mined world before after transaction waiting)).1
    obtain ⟨⟨kept, extended⟩, _⟩ := run_keeps nonzero onward guarded mined
    have listed := invariant.eligible_listed (before ++ after) eligible
    exact kept.sound.registered_listed (extended device listed).1

/-- One operator adds itself, and then two of its clients register one device. -/
def sharedKey : List (EvRegistry × EvRegistry.Request) :=
  [(⟨"a"⟩, .addUser), (⟨"a"⟩, .addDevice firstSpelling "1"), (⟨"a"⟩, .addDevice firstSpelling "2")]

/-- The transaction of one of them. -/
def sharedDevice (uid : String) : Transaction :=
  .addDevice (.repeated 5) uid (EvRegistry.operator ⟨"a"⟩ Crypto.sample)
    (EvRegistry.deviceSignature ⟨"a"⟩ Crypto.sample firstSpelling uid)

/-- Both clients read the device list before either transaction is mined, so both
transactions are pending. -/
theorem sharedKey_run : ∃ world, Run (service Crypto.sample) (Moves Crypto.sample (fun _ _ => true))
      (calls Crypto.sample sharedKey) (World.start id)
      [(⟨"a"⟩, .done ()), (⟨"a"⟩, .done ()), (⟨"a"⟩, .done ())] world ∧
    world.pending = [sharedDevice "1", sharedDevice "2"] ∧
    Eligible Crypto.sample (fun _ _ => true) world (.repeated 5) (sharedDevice "1") := by
  obtain ⟨adds, addsShape, addsSends⟩ := sample_addUser ⟨"a"⟩
  obtain ⟨first, firstShape, firstSends⟩ := sample_addDevice ⟨"a"⟩ "1"
  obtain ⟨second, secondShape, secondSends⟩ := sample_addDevice ⟨"a"⟩ "2"
  have lawful := Crypto.sample_lawful
  have operatorListed : id (EvRegistry.operator ⟨"a"⟩ Crypto.sample) ≠ Address.zero := by decide
  have added := Ledger.mine_accepted (@Crypto.Lawful.addUser_accepted Crypto.sample ⟨"a"⟩
    Ledger.fresh.storage lawful (fun _ _ => true) id rfl operatorListed rfl)
  refine ⟨?world, ?run, ?waiting, ?eligible⟩
  case run =>
    simp only [calls, sharedKey, List.map_cons, List.map_nil, EvRegistry.perform, addsShape,
      firstShape, secondShape]
    refine .step (.answered [] _ _ _ _ [] _ _ ⟨rfl, rfl⟩) ?_
    rw [addsSends]
    refine .step (.answered [] _ _ _ _ () _ _ ⟨rfl, rfl⟩) ?_
    refine .step (.moved _ _ _ (.mined _ [] [] _ rfl)) ?_
    simp only [World.mine, World.receive, World.start, added]
    refine .step (.answered [_] _ _ _ _ [] _ _ ⟨rfl, rfl⟩) ?_
    rw [firstSends]
    refine .step (.answered [_, _] [] _ _ _ [] _ _ ⟨rfl, rfl⟩) ?_
    rw [secondSends]
    refine .step (.answered [_] _ _ _ _ () _ _ ⟨rfl, rfl⟩) ?_
    refine .step (.answered [_, _] [] _ _ _ () _ _ ⟨rfl, rfl⟩) ?_
    exact .done _ _
  case waiting => rfl
  case eligible =>
    have form : Ethers.readDigits (Ethers.withoutPrefix firstSpelling) = some (.repeated 5) := by
      decide
    have read : Crypto.sample.ethers.getAddress firstSpelling = some (.repeated 5) := by decide
    refine ⟨"1", _, _, rfl, rfl, ?_, operatorListed, rfl⟩
    exact (lawful.deviceSignature_verifies ⟨"a"⟩ _ _ _).mpr
      (lawful.deviceDigest_eq ⟨"a"⟩ "1" form read)

/-- However the second client's transaction fares, the device is registered once. -/
theorem two_clients_register_once :
    ∃ tasks world, Run (service Crypto.sample) (Moves Crypto.sample (fun _ _ => true))
        (calls Crypto.sample sharedKey) (World.start id) tasks world ∧
      (∀ task ∈ tasks, task.2.settled = some (.ok ())) ∧ world.pending = [] ∧
      world.ledger.registrations.count (.repeated 5) = 1 := by
  obtain ⟨world, run, waiting, eligible⟩ := sharedKey_run
  have mined : Run (service Crypto.sample) (Moves Crypto.sample (fun _ _ => true))
      [(⟨"a"⟩, .done ()), (⟨"a"⟩, .done ()), (⟨"a"⟩, .done ())] world _ _ :=
    .step (.moved _ _ _ (.mined world [] [sharedDevice "2"] _ waiting)) (.done _ _)
  have onward : Run (service Crypto.sample) (Moves Crypto.sample (fun _ _ => true))
      [(⟨"a"⟩, .done ()), (⟨"a"⟩, .done ()), (⟨"a"⟩, .done ())]
      (world.mine Crypto.sample (fun _ _ => true) (sharedDevice "1") [sharedDevice "2"]) _ _ :=
    .step (.moved _ _ _ (.mined _ [] [] _ rfl)) (.done _ _)
  refine ⟨_, _, run.append (mined.append onward), ?_, rfl, ?_⟩
  · intro task member
    simp only [List.mem_cons, List.not_mem_nil, or_false, or_self] at member
    cases member
    rfl
  · exact (racing_registrations_safe Crypto.sample_lawful.nonzero sharedKey id run).2.2 []
      [sharedDevice "2"] _ _ waiting eligible _ _ onward

/-- Two operators that were never added call `addDevice` for one device at the same
time. Both calls resolve, both transactions are mined, and the device is not
registered. -/
theorem unadded_operators_register_nothing :
    ∃ tasks world, Run (service Crypto.sample) (Moves Crypto.sample (fun _ _ => true))
        (calls Crypto.sample
          [(⟨"a"⟩, .addDevice firstSpelling "1"), (⟨"b"⟩, .addDevice firstSpelling "2")])
        (World.start id) tasks world ∧
      (∀ task ∈ tasks, task.2.settled = some (.ok ())) ∧ world.pending = [] ∧
      world.ledger.registrations.count (.repeated 5) ≠ 1 := by
  obtain ⟨first, firstShape, firstSends⟩ := sample_addDevice ⟨"a"⟩ "1"
  obtain ⟨second, secondShape, secondSends⟩ := sample_addDevice ⟨"b"⟩ "2"
  have refused (uid : String) (registry : EvRegistry) :
      Ledger.mine Crypto.sample (fun _ _ => true) id Ledger.fresh
        (.addDevice (.repeated 5) uid (registry.operator Crypto.sample)
          (registry.deviceSignature Crypto.sample firstSpelling uid)) = Ledger.fresh := by
    apply Ledger.mine_refused
    apply Option.not_isSome_iff_eq_none.mp
    intro taken
    exact absurd (accepted_addDevice_iff.mp taken).2.2.2.1 Bool.false_ne_true
  refine ⟨[(⟨"a"⟩, .done ()), (⟨"b"⟩, .done ())], ⟨Ledger.fresh, id, []⟩, ?_, ?_, rfl, ?_⟩
  · simp only [calls, List.map_cons, List.map_nil, EvRegistry.perform, firstShape, secondShape]
    refine .step (.answered [] _ _ _ _ [] _ _ ⟨rfl, rfl⟩) ?_
    rw [firstSends]
    refine .step (.answered [_] [] _ _ _ [] _ _ ⟨rfl, rfl⟩) ?_
    rw [secondSends]
    refine .step (.answered [] _ _ _ _ () _ _ ⟨rfl, rfl⟩) ?_
    refine .step (.answered [_] [] _ _ _ () _ _ ⟨rfl, rfl⟩) ?_
    refine .step (.moved _ _ _ (.mined _ [] _ _ rfl)) ?_
    refine .step (.moved _ _ _ (.mined _ [] [] _ rfl)) ?_
    simp only [World.mine, World.receive, World.start, refused]
    exact .done _ _
  · intro task member
    simp only [List.mem_cons, List.not_mem_nil, or_false] at member
    rcases member with rfl | rfl
    · rfl
    · rfl
  · decide

end EvDashboard.Racing
