import EvDashboard.Identifiers
import EvDashboard.Racing
import EvDashboard.Signatures

/-!
# What the queries of the registry client say

The three queries read three structures of the contract: the two address lists and
the map from identifiers. Whatever calls of any clients led to a storage, the three
agree on what was registered.

Two comparisons are made in the client, on texts, and both miss. The existence check
looks for the caller's spelling in a checksummed list, so a registered device exists
under one spelling only. And the contract answers `address(0)` for an identifier it
does not know, where the client returns a record all the same.
-/

namespace EvDashboard.Queries

open Async Async.Pool JavaScript EvDashboardRegistry Transition

variable {crypto : Crypto} {withinGas : GasBound}

/-- The worlds that calls of any clients lead to, in any interleaving of their reads,
their transactions and the mining. -/
def Reached (crypto : Crypto) (withinGas : GasBound) (world : Racing.World) : Prop :=
  ∃ clients ocn tasks, Run (Racing.service crypto) (Racing.Moves crypto withinGas)
    (Racing.calls crypto clients) (Racing.World.start ocn) tasks world

section Sequential

/-- A call that is alone at work reads from one storage throughout, and leaves what it
submits pending. -/
theorem run_alone (before after : Tasks ChainCall ChainCall.Answer Exception EvRegistry Unit)
    (registry : EvRegistry) (program : OnChain Unit) (world : Racing.World) :
    ∃ settled, Run (Racing.service crypto) (Racing.Moves crypto withinGas)
      (before ++ (registry, program) :: after) world (before ++ (registry, settled) :: after)
      { world with pending := world.pending ++ submitted crypto world.ledger.storage program } := by
  induction program generalizing world with
  | done value =>
    refine ⟨.done value, ?_⟩
    simp only [submitted, Program.trace, List.filterMap_nil, List.append_nil]
    exact .done _ _
  | rejected error =>
    refine ⟨.rejected error, ?_⟩
    simp only [submitted, Program.trace, List.filterMap_nil, List.append_nil]
    exact .done _ _
  | await call resume inductionHypothesis =>
    obtain ⟨settled, rest⟩ := inductionHypothesis (answer crypto world.ledger.storage call)
      (world.receive call)
    refine ⟨settled, .step (.answered before after registry call resume _ world _ ⟨rfl, rfl⟩) ?_⟩
    have pending : (world.receive call).pending ++
          submitted crypto world.ledger.storage (resume (answer crypto world.ledger.storage call)) =
        world.pending ++ submitted crypto world.ledger.storage (.await call resume) := by
      simp only [submitted, Program.trace, oracle, Racing.World.receive, List.append_assoc]
      cases sent : call.transaction with
      | none => simp only [Option.toList_none, List.nil_append, List.filterMap_cons, sent]
      | some transaction =>
        simp only [Option.toList_some, List.singleton_append, List.filterMap_cons, sent]
    rw [← pending]
    exact rest

/-- Transactions that wait in a row are mined in that order. -/
theorem run_mining (tasks : Tasks ChainCall ChainCall.Answer Exception EvRegistry Unit)
    (ledger : Ledger) (ocn : OcnRegistry) (transactions : List Transaction) :
    Run (Racing.service crypto) (Racing.Moves crypto withinGas) tasks ⟨ledger, ocn, transactions⟩
      tasks ⟨transactions.foldl (Ledger.mine crypto withinGas ocn) ledger, ocn, []⟩ := by
  induction transactions generalizing ledger with
  | nil => exact .done _ _
  | cons transaction rest inductionHypothesis =>
    exact .step (.moved _ _ _ (.mined _ [] rest transaction rfl))
      (inductionHypothesis (ledger.mine crypto withinGas ocn transaction))

/-- Calls that follow each other, each mined before the next, are one interleaving of
the same calls. -/
theorem run_events (before : Tasks ChainCall ChainCall.Answer Exception EvRegistry Unit)
    {events : List Identifiers.Event} {ledger final : Ledger} (ocn : OcnRegistry)
    (ran : run (Identifiers.step crypto withinGas) ledger events = some final) :
    ∃ lastOcn tasks, Run (Racing.service crypto) (Racing.Moves crypto withinGas)
      (before ++ Racing.calls crypto (events.map (fun event => (event.registry, event.request))))
      ⟨ledger, ocn, []⟩ tasks ⟨final, lastOcn, []⟩ := by
  induction events generalizing before ledger ocn with
  | nil =>
    cases ran
    exact ⟨ocn, _, .done _ _⟩
  | cons event events inductionHypothesis =>
    obtain ⟨next, stepped, rest⟩ := run_cons ran
    cases stepped
    obtain ⟨settled, called⟩ := @run_alone crypto withinGas before
      (Racing.calls crypto (events.map (fun event => (event.registry, event.request))))
      event.registry (event.registry.perform crypto event.request) ⟨ledger, event.ocn, []⟩
    obtain ⟨lastOcn, tasks, onward⟩ :=
      inductionHypothesis (before ++ [(event.registry, settled)]) event.ocn rest
    rw [List.append_assoc] at onward
    exact ⟨lastOcn, tasks, .step (.moved _ _ _ (.listed _ event.ocn))
      (called.append ((run_mining _ _ _ _).append onward))⟩

/-- What calls lead to one after another, they lead to in some interleaving. -/
theorem reached_of_run {events : List Identifiers.Event} {ledger : Ledger}
    (ran : run (Identifiers.step crypto withinGas) Ledger.fresh events = some ledger) :
    ∃ world, Reached crypto withinGas world ∧ world.ledger = ledger := by
  obtain ⟨lastOcn, tasks, onward⟩ := run_events [] (fun _ => Address.zero) ran
  exact ⟨_, ⟨_, _, tasks, onward⟩, rfl⟩

end Sequential

/-- Some accepted registration used the identifier. -/
def Used (ledger : Ledger) (uid : String) : Prop :=
  ∃ device user signature, .addDevice device uid user signature ∈ ledger.accepted

/-- A used identifier resolves to a device that was registered with it. -/
def Mapped (ledger : Ledger) : Prop :=
  ∀ uid, Used ledger uid →
    ∃ user signature, .addDevice (ledger.storage.identifiers uid) uid user signature ∈
      ledger.accepted

/-- The device is registered on chain: it has an owner. -/
def Registered (storage : Storage) (device : Address) : Prop :=
  (storage.devices device).user ≠ .zero

theorem fresh_mapped : Mapped Ledger.fresh := by
  rintro uid ⟨_, _, _, member⟩
  cases member

/-- A mined transaction keeps used identifiers mapped: it appends to what was accepted,
and an accepted registration assigns its own identifier only. -/
theorem Mapped.mine {ledger : Ledger} (mapped : Mapped ledger) (ocn : OcnRegistry)
    (transaction : Transaction) : Mapped (ledger.mine crypto withinGas ocn transaction) := by
  cases taken : accepted crypto withinGas ocn ledger.storage transaction with
  | none =>
    rw [Ledger.mine_refused taken]
    exact mapped
  | some next =>
    rw [Ledger.mine_accepted taken]
    rintro uid ⟨device, user, signature, member⟩
    rcases accepted_cases taken with
      ⟨_, _, rfl, added⟩ | ⟨registered, identifier, registrar, signing, rfl, added⟩
    · obtain ⟨_, _, _, rfl⟩ := addUser_ok_iff.mp added
      rcases List.mem_append.mp member with earlier | last
      · obtain ⟨owner, signed, found⟩ := mapped uid ⟨device, user, signature, earlier⟩
        exact ⟨owner, signed, List.mem_append_left _ found⟩
      · cases List.mem_singleton.mp last
    · obtain ⟨_, _, _, _, rfl⟩ := addDevice_ok_iff.mp added
      by_cases same : uid = identifier
      · subst same
        refine ⟨registrar, signing, List.mem_append_right _ ?_⟩
        simp only [assign_same, List.mem_singleton]
      · simp only [assign_other _ _ same]
        rcases List.mem_append.mp member with earlier | last
        · obtain ⟨owner, signed, found⟩ := mapped uid ⟨device, user, signature, earlier⟩
          exact ⟨owner, signed, List.mem_append_left _ found⟩
        · cases List.mem_singleton.mp last
          exact absurd rfl same

/-- A reached ledger is sound and maps the used identifiers. -/
theorem Reached.keeps (nonzero : ∀ key, crypto.ethers.computeAddress key ≠ .zero)
    {world : Racing.World} (reached : Reached crypto withinGas world) :
    world.ledger.Sound ∧ Mapped world.ledger := by
  obtain ⟨clients, ocn, tasks, run⟩ := reached
  constructor
  · exact (Racing.run_keeps nonzero run (Racing.calls_guarded clients)
      (Racing.start_invariant ocn)).1.1.sound
  · refine (run.guarded (fun world => Mapped world.ledger) ?_ ?_ fresh_mapped
      (Racing.calls_guarded clients)).1
    · intro registry before call outcome following mapped _ served
      refine ⟨?_, fun _ _ => trivial⟩
      cases outcome with
      | ok reply =>
        obtain ⟨_, rfl⟩ := served
        exact mapped
      | error error =>
        rcases served with rfl | rfl
        · exact mapped
        · exact mapped
    · intro before following mapped move
      cases move with
      | mined _ _ transaction _ => exact mapped.mine before.ocn transaction
      | listed ocn => exact mapped

/-- The existence check compares texts. -/
theorem deviceExists_outcome (storage : Storage) (address : String) :
    (EvRegistry.deviceExists address).result (oracle crypto storage) = .ok
      ((storage.deviceAddressList.map crypto.ethers.getChecksumAddress).contains address) := rfl

/-- A device exists, for a spelling of its address, exactly when it is registered and
the spelling is the checksummed one. -/
theorem deviceExists_iff {storage : Storage} (coherent : Coherent storage) {address : String}
    {device : Address} (read : crypto.ethers.getAddress address = some device) :
    (EvRegistry.deviceExists address).result (oracle crypto storage) = .ok true ↔
      Registered storage device ∧ address = crypto.ethers.getChecksumAddress device := by
  rw [deviceExists_outcome, Except.ok.injEq, contains_spelling storage.deviceAddressList read,
    Registered, coherent.deviceListed, and_comm]

/-- Registration of a device is idempotent for two spellings of its address: the
existence check answers both alike, and truly, and once the device is registered a call
with the second spelling submits nothing and changes nothing. -/
structure Idempotent (crypto : Crypto) (withinGas : GasBound) (storage : Storage)
    (device : Address) (first second : String) : Prop where
  alike : (EvRegistry.deviceExists first).result (oracle crypto storage) =
    (EvRegistry.deviceExists second).result (oracle crypto storage)
  truthful : (EvRegistry.deviceExists first).result (oracle crypto storage) = .ok true ↔
    Registered storage device
  silent : Registered storage device → ∀ (registry : EvRegistry) uid,
    submitted crypto storage (registry.addDevice crypto second uid) = []
  unchanged : Registered storage device → ∀ (registry : EvRegistry) uid ocn,
    (submitted crypto storage (registry.addDevice crypto second uid)).foldl
      (mine crypto withinGas ocn) storage = storage

/-- A device that is not registered exists under no spelling. -/
theorem unregistered_absent {storage : Storage} (coherent : Coherent storage) {address : String}
    {device : Address} (read : crypto.ethers.getAddress address = some device)
    (unregistered : ¬ Registered storage device) :
    (EvRegistry.deviceExists address).result (oracle crypto storage) = .ok false := by
  have absent : (EvRegistry.deviceExists address).result (oracle crypto storage) ≠ .ok true :=
    fun exists_ => unregistered ((deviceExists_iff coherent read).mp exists_).1
  rw [deviceExists_outcome] at absent ⊢
  rw [Ne, Except.ok.injEq, Bool.not_eq_true] at absent
  rw [absent]

/-- In every state that calls of any operators lead to, and for every two spellings of
a device's address that the wallet library reads, registration is idempotent exactly
when the device is not registered yet or both spellings are the checksummed one. -/
theorem idempotent_iff (nonzero : ∀ key, crypto.ethers.computeAddress key ≠ .zero)
    {world : Racing.World} (reached : Reached crypto withinGas world) {device : Address}
    {first second : String} (readFirst : crypto.ethers.getAddress first = some device)
    (readSecond : crypto.ethers.getAddress second = some device) :
    Idempotent crypto withinGas world.ledger.storage device first second ↔
      (Registered world.ledger.storage device →
        first = crypto.ethers.getChecksumAddress device ∧
          second = crypto.ethers.getChecksumAddress device) := by
  have coherent : Coherent world.ledger.storage := (reached.keeps nonzero).1.coherent
  constructor
  · intro idempotent registered
    have present : (EvRegistry.deviceExists first).result
        (oracle crypto world.ledger.storage) = .ok true := idempotent.truthful.mpr registered
    constructor
    · exact ((deviceExists_iff coherent readFirst).mp present).2
    · rw [idempotent.alike] at present
      exact ((deviceExists_iff coherent readSecond).mp present).2
  · intro checksummed
    by_cases registered : Registered world.ledger.storage device
    · obtain ⟨rfl, rfl⟩ := checksummed registered
      have silent (registry : EvRegistry) (uid : String) :
          submitted crypto world.ledger.storage
            (registry.addDevice crypto (crypto.ethers.getChecksumAddress device) uid) = [] :=
        (addDevice_outcome registry world.ledger.storage uid readSecond).2.trans
          (if_pos ⟨rfl, (coherent.deviceListed device).mp registered⟩)
      constructor
      · rfl
      · rw [deviceExists_iff coherent readFirst]
        exact and_iff_left rfl
      · exact fun _ => silent
      · intro _ registry uid ocn
        rw [silent, List.foldl_nil]
    · have absentFirst := unregistered_absent coherent readFirst registered
      have absentSecond := unregistered_absent coherent readSecond registered
      constructor
      · rw [absentFirst, absentSecond]
      · rw [absentFirst]
        constructor
        · intro found
          cases found
        · intro present
          exact absurd present registered
      · exact fun present => absurd present registered
      · exact fun present => absurd present registered

/-- A device whose spelling has letters, written in lower case. -/
def letteredDevice : Address :=
  (Ethers.readDigits "aa88888888888888888888888888888888888888".toList).getD .zero

/-- The operator with the key `a` adds itself and registers the device under its
lower-case spelling. -/
def registersLowerCase : List Identifiers.Event :=
  [⟨⟨"a"⟩, .addUser, id⟩,
    ⟨⟨"a"⟩, .addDevice (Ethers.lowerSpelling letteredDevice) "72583848", id⟩]

/-- The state these calls lead to has the device registered, with its uid. -/
theorem registersLowerCase_reached : ∃ world, Reached Crypto.sample (fun _ _ => true) world ∧
    Registered world.ledger.storage letteredDevice ∧ Used world.ledger "72583848" := by
  have spells : Signatures.Spells Crypto.sample (Ethers.lowerSpelling letteredDevice)
      letteredDevice := Or.inr rfl
  obtain ⟨form, read⟩ := spells.read
  have fresh : letteredDevice ∉ ([] : List Address) := List.not_mem_nil
  have registers := @Identifiers.step_addDevice Crypto.sample (fun _ _ => true)
    Identifiers.operatorAdded Crypto.sample_lawful ⟨"a"⟩ id _ _ "72583848" (fun _ _ => rfl)
    form read (by decide) rfl fresh rfl
  have ran : run (Identifiers.step Crypto.sample (fun _ _ => true)) Ledger.fresh
      registersLowerCase = some _ := run_step Identifiers.operator_step (run_step registers rfl)
  obtain ⟨world, reached, same⟩ := reached_of_run ran
  refine ⟨world, reached, ?_, ?_⟩
  · rw [same, Registered]
    simp only [assign_same]
    decide
  · rw [same]
    exact ⟨_, _, _, List.mem_append_right _ List.mem_cons_self⟩

/-- Under the checksummed spelling the registered device exists, and registering it
again submits nothing. -/
theorem checksummed_spelling_idempotent : ∃ world,
    Reached Crypto.sample (fun _ _ => true) world ∧
      Registered world.ledger.storage letteredDevice ∧
      Idempotent Crypto.sample (fun _ _ => true) world.ledger.storage letteredDevice
        (Crypto.sample.ethers.getChecksumAddress letteredDevice)
        (Crypto.sample.ethers.getChecksumAddress letteredDevice) := by
  obtain ⟨world, reached, registered, _⟩ := registersLowerCase_reached
  have read := Crypto.sample.ethers.getAddress_checksum letteredDevice
  refine ⟨world, reached, registered, ?_⟩
  exact (idempotent_iff Crypto.sample_lawful.nonzero reached read read).mpr
    (fun _ => ⟨rfl, rfl⟩)

/-- Under the lower-case spelling, by which it was registered, the same device does not
exist, although the wallet library reads both spellings. -/
theorem lower_case_spelling_missed : ∃ world,
    Reached Crypto.sample (fun _ _ => true) world ∧
      ¬ Idempotent Crypto.sample (fun _ _ => true) world.ledger.storage letteredDevice
        (Ethers.lowerSpelling letteredDevice)
        (Crypto.sample.ethers.getChecksumAddress letteredDevice) := by
  obtain ⟨world, reached, registered, _⟩ := registersLowerCase_reached
  have coherent := (reached.keeps Crypto.sample_lawful.nonzero).1.coherent
  have read := Crypto.sample.ethers.getAddress_lower letteredDevice
  have different : Ethers.lowerSpelling letteredDevice ≠
      Crypto.sample.ethers.getChecksumAddress letteredDevice := by decide +kernel
  refine ⟨world, reached, fun idempotent => ?_⟩
  have present := idempotent.truthful.mpr registered
  exact different ((deviceExists_iff coherent read).mp present).2

/-- The answer for an identifier is consistent: a returned device exists, is recorded
with the identifier, and belongs to a listed user; and nothing is returned for an
identifier that no accepted registration used. -/
structure Consistent (crypto : Crypto) (ledger : Ledger) (uid : String) : Prop where
  known : ∀ found, (EvRegistry.getRegisteredDevice uid).result (oracle crypto ledger.storage) =
      .ok (some found) →
    (EvRegistry.deviceExists found.deviceAddress).result (oracle crypto ledger.storage) =
        .ok true ∧
      (∃ device, found.deviceAddress = crypto.ethers.getChecksumAddress device ∧
        Registered ledger.storage device ∧ (ledger.storage.devices device).identifier = uid) ∧
      found.userAddress ∈ answer crypto ledger.storage .getAllUserAddresses
  unknown : ¬ Used ledger uid →
    (EvRegistry.getRegisteredDevice uid).result (oracle crypto ledger.storage) = .ok none

/-- What a used identifier resolves to is registered with it, by a listed user. -/
theorem used_consistent {ledger : Ledger} (sound : ledger.Sound) (mapped : Mapped ledger)
    {uid : String} (named : uid ≠ "") (used : Used ledger uid) : Consistent crypto ledger uid := by
  obtain ⟨user, signature, member⟩ := mapped uid used
  have listed := sound.listed member
  have recorded := sound.recorded _ _ _ _ member
  constructor
  · intro found returned
    rw [getRegisteredDevice_outcome ledger.storage named, recorded] at returned
    cases returned
    refine ⟨?_, ⟨_, rfl, (sound.coherent.deviceListed _).mpr listed, ?_⟩, ?_⟩
    · rw [deviceExists_iff sound.coherent (Ethers.getAddress_checksum _ _)]
      exact ⟨(sound.coherent.deviceListed _).mpr listed, rfl⟩
    · rw [recorded]
    · have owner := sound.coherent.ownerListed _ listed
      rw [recorded] at owner
      exact List.mem_map_of_mem owner
  · exact fun unused => absurd used unused

/-- In every state that calls of any operators lead to, the queries are consistent at a
uid exactly when it is empty or some accepted registration used it. -/
theorem consistent_iff (nonzero : ∀ key, crypto.ethers.computeAddress key ≠ .zero)
    {world : Racing.World} (reached : Reached crypto withinGas world) (uid : String) :
    Consistent crypto world.ledger uid ↔ uid = "" ∨ Used world.ledger uid := by
  obtain ⟨sound, mapped⟩ := reached.keeps nonzero
  by_cases named : uid = ""
  · subst named
    have nothing : (EvRegistry.getRegisteredDevice "").result (oracle crypto world.ledger.storage) =
        .ok none := rfl
    constructor
    · exact fun _ => Or.inl rfl
    · intro _
      constructor
      · intro found returned
        rw [nothing] at returned
        cases returned
      · exact fun _ => nothing
  · constructor
    · intro consistent
      by_cases used : Used world.ledger uid
      · exact Or.inr used
      · have returned := consistent.unknown used
        rw [getRegisteredDevice_outcome world.ledger.storage named] at returned
        cases returned
    · rintro (empty | used)
      · exact absurd empty named
      · exact used_consistent sound mapped named used

/-- The uid of a registered device is answered consistently. -/
theorem registered_uid_consistent : ∃ world, Reached Crypto.sample (fun _ _ => true) world ∧
    Used world.ledger "72583848" ∧ Consistent Crypto.sample world.ledger "72583848" := by
  obtain ⟨world, reached, _, used⟩ := registersLowerCase_reached
  refine ⟨world, reached, used, ?_⟩
  exact (consistent_iff Crypto.sample_lawful.nonzero reached "72583848").mpr (Or.inr used)

/-- On a fresh contract, no device was registered with any uid, and a record of two zero
addresses is returned. -/
theorem unknown_uid_answered : ∃ world, Reached Crypto.sample (fun _ _ => true) world ∧
    (EvRegistry.getRegisteredDevice "72583848").result (oracle Crypto.sample world.ledger.storage) =
      .ok (some ⟨Crypto.sample.ethers.getChecksumAddress .zero,
        Crypto.sample.ethers.getChecksumAddress .zero⟩) ∧
    ¬ Consistent Crypto.sample world.ledger "72583848" := by
  refine ⟨Racing.World.start id, ⟨[], id, [], .done _ _⟩, rfl, fun consistent => ?_⟩
  have unused : ¬ Used (Racing.World.start id).ledger "72583848" := by
    rintro ⟨_, _, _, member⟩
    cases member
  exact nomatch consistent.unknown unused

end EvDashboard.Queries
