import EvDashboard.Async.Courses
import EvDashboard.Chain
import EvDashboard.Commands
import Mathlib.Data.List.Perm.Subperm

/-!
# The clients and the contracts together

Clients of any operators, as libraries and as commands, call the dashboard's contract,
while anybody calls the OCN registry. Reads may be stale when they are acted on; sent
transactions wait, are mined in any order, or are dropped.

Seen from the chain, all this is a run of the two contracts. Seen from the clients, every
registration has a call of its own that asked for it: none is made up, and no call makes
two.
-/

namespace EvDashboard.Platform

open Async Async.Pool JavaScript EvDashboardRegistry

/-- The chain, with the transactions sent to the dashboard's contract and not yet mined. -/
structure World where
  chain : Chain
  pending : List Transaction

namespace World

def storage (world : World) : Storage := world.chain.ledger.storage

/-- The transactions that were accepted or may be. -/
def transactions (world : World) : List Transaction :=
  world.chain.ledger.accepted ++ world.pending

/-- A call reaches the node: a sent transaction becomes pending. -/
def receive (world : World) (call : ChainCall) : World :=
  { world with pending := world.pending ++ call.transaction.toList }

end World

/-- A call is answered from the current storage. Any call may fail, before or after it
reached the node. -/
def service (crypto : Crypto) : Service ChainCall ChainCall.Answer Exception World :=
  fun world call outcome next => match outcome with
    | .ok reply => reply = answer crypto world.storage call ∧ next = world.receive call
    | .error _ => next = world ∨ next = world.receive call

/-- What happens without a client: a pending transaction is mined and accepted, or it is
dropped, because it was refused, ran out of gas or got lost; or the OCN registry accepts a
call. -/
inductive Moves (crypto : Crypto) : World → World → Prop where
  | mined (world : World) (before after : List Transaction) (transaction : Transaction)
      (waiting : world.pending = before ++ transaction :: after) (chain : Chain)
      (accepts : Chain.step crypto world.chain (.toDashboard transaction) = some chain) :
      Moves crypto world ⟨chain, before ++ after⟩
  | dropped (world : World) (before after : List Transaction) (transaction : Transaction)
      (waiting : world.pending = before ++ transaction :: after) :
      Moves crypto world { world with pending := before ++ after }
  | called (world : World) (message : Registry.Message) (chain : Chain)
      (accepts : Chain.step crypto world.chain (.toRegistry message) = some chain) :
      Moves crypto world { world with chain := chain }

/-- A call of the library, as a route of the server makes it, or of the command line. -/
inductive Client where
  | route (registry : EvRegistry) (request : EvRegistry.Request)
  | addUserCommand (options : Options)
  | addDeviceCommand (options : Options)

def Client.perform (crypto : Crypto) : Client → OnChain Unit
  | route registry request => registry.perform crypto request
  | addUserCommand options => EvDashboard.addUserCommand crypto options
  | addDeviceCommand options => EvDashboard.addDeviceCommand crypto options

/-- The programs of the clients' calls. -/
def calls (crypto : Crypto) (clients : List Client) :
    Tasks ChainCall ChainCall.Answer Exception Client Unit :=
  clients.map (fun client => (client, client.perform crypto))

/-- Both contracts as deployed, and nothing sent. -/
def World.start (owner : Address) : World := ⟨Chain.deployed owner, []⟩

/-- A call that adds the operator sends the one transaction for that, or none; if it
resolved without it, the operator is a user. -/
def AddsUser (crypto : Crypto) (world : World) (registry : EvRegistry)
    (sent : List Transaction) (ended : Option (Except Exception Unit)) : Prop :=
  (sent = [] ∧ (ended = some (.ok ()) →
    registry.operator crypto ∈ getAllUserAddresses world.storage)) ∨
  sent = [.addUser (registry.operator crypto) (registry.userSignature crypto)]

/-- A call that registers a device sends the one transaction for that, or none; if it
resolved without it, the device is registered. -/
def AddsDevice (crypto : Crypto) (world : World) (registry : EvRegistry) (address uid : String)
    (sent : List Transaction) (ended : Option (Except Exception Unit)) : Prop :=
  (sent = [] ∧ (ended = some (.ok ()) → ∃ device ∈ getAllDeviceAddresses world.storage,
    crypto.ethers.getChecksumAddress device = address)) ∨
  ∃ device, crypto.ethers.getAddress address = some device ∧
    sent = [.addDevice device uid (registry.operator crypto)
      (registry.deviceSignature crypto address uid)]

/-- What a client sends: what it was asked for. -/
def Sends (crypto : Crypto) (world : World) :
    Client → List Transaction → Option (Except Exception Unit) → Prop
  | .route registry .addUser, sent, ended => AddsUser crypto world registry sent ended
  | .route registry (.addDevice address uid), sent, ended =>
    AddsDevice crypto world registry address uid sent ended
  | .route _ _, sent, _ => sent = []
  | .addUserCommand options, sent, ended => (sent = [] ∧ ended ≠ some (.ok ())) ∨
    ∃ operator, options.operatorKey = some operator ∧
      AddsUser crypto world ⟨operator⟩ sent ended
  | .addDeviceCommand options, sent, ended => (sent = [] ∧ ended ≠ some (.ok ())) ∨
    ∃ operator address uid, options.operatorKey = some operator ∧
      options.deviceAddress = some address ∧ options.deviceUID = some uid ∧
      AddsDevice crypto world ⟨operator⟩ address uid sent ended

/-- What is noted of a call. -/
def Noted (crypto : Crypto) (world : World)
    (entry : Entry ChainCall ChainCall.Answer Exception Transaction) : Prop :=
  match entry with
  | ⟨.getAllUserAddresses, .ok listed, sent⟩ => sent = [] ∧ ∀ text ∈ listed,
    ∃ user ∈ getAllUserAddresses world.storage, crypto.ethers.getChecksumAddress user = text
  | ⟨.getAllDeviceAddresses, .ok listed, sent⟩ => sent = [] ∧ ∀ text ∈ listed,
    ∃ device ∈ getAllDeviceAddresses world.storage, crypto.ethers.getChecksumAddress device = text
  | ⟨.send transaction, .ok _, sent⟩ => sent = [transaction]
  | ⟨.send transaction, .error _, sent⟩ => sent = [] ∨ sent = [transaction]
  | ⟨_, _, sent⟩ => sent = []

variable {crypto : Crypto} {world next : World}

theorem addUser_leaves (registry : EvRegistry) :
    (registry.addUser crypto).Leaves (Noted crypto world) (AddsUser crypto world registry) := by
  rw [addUser_eq]
  refine ⟨Or.inl ⟨rfl, fun same => by cases same⟩, ?_,
    fun error sent quiet => Or.inl ⟨quiet, fun same => by cases same⟩⟩
  rintro listed _ ⟨rfl, shown⟩
  dsimp only
  split
  · rename_i present
    refine Or.inl ⟨rfl, fun _ => ?_⟩
    obtain ⟨user, member, same⟩ := shown _ (List.contains_iff_mem.mp present)
    exact crypto.ethers.checksum_injective same ▸ member
  · refine ⟨Or.inl ⟨rfl, fun same => by cases same⟩, ?_, ?_⟩
    · rintro _ _ rfl
      exact Or.inr rfl
    · rintro error _ (rfl | rfl)
      · exact Or.inl ⟨rfl, fun same => by cases same⟩
      · exact Or.inr rfl

theorem addDevice_leaves (registry : EvRegistry) (address uid : String) :
    (registry.addDevice crypto address uid).Leaves (Noted crypto world)
      (AddsDevice crypto world registry address uid) := by
  rw [addDevice_eq]
  refine ⟨Or.inl ⟨rfl, fun same => by cases same⟩, ?_,
    fun error sent quiet => Or.inl ⟨quiet, fun same => by cases same⟩⟩
  rintro listed _ ⟨rfl, shown⟩
  dsimp only
  split
  · rename_i present
    exact Or.inl ⟨rfl, fun _ => shown _ (List.contains_iff_mem.mp present)⟩
  · cases read : crypto.ethers.getAddress address with
    | none => exact Or.inl ⟨rfl, fun same => by cases same⟩
    | some device =>
      refine ⟨Or.inl ⟨rfl, fun same => by cases same⟩, ?_, ?_⟩
      · rintro _ _ rfl
        exact Or.inr ⟨device, read, rfl⟩
      · rintro error _ (rfl | rfl)
        · exact Or.inl ⟨rfl, fun same => by cases same⟩
        · exact Or.inr ⟨device, read, rfl⟩

/-- Every client sends what it was asked for. -/
theorem perform_leaves (client : Client) :
    (client.perform crypto).Leaves (Noted crypto world) (Sends crypto world client) := by
  cases client with
  | route registry request =>
    cases request with
    | userExists =>
      refine ⟨rfl, ?_, fun error sent quiet => quiet⟩
      rintro listed _ ⟨rfl, _⟩
      rfl
    | deviceExists address =>
      refine ⟨rfl, ?_, fun error sent quiet => quiet⟩
      rintro listed _ ⟨rfl, _⟩
      rfl
    | getRegisteredDevice uid =>
      simp only [Client.perform, EvRegistry.perform, EvRegistry.getRegisteredDevice]
      split
      · exact rfl
      · refine ⟨rfl, ?_, fun error sent quiet => quiet⟩
        rintro found _ rfl
        rfl
    | addUser => exact addUser_leaves registry
    | addDevice address uid => exact addDevice_leaves registry address uid
  | addUserCommand options =>
    rcases Commands.addUser_cases crypto options with
      ⟨error, refused⟩ | ⟨operator, operatorIs, goes⟩
    · simp only [Client.perform, refused]
      exact Or.inl ⟨rfl, fun same => by cases same⟩
    · simp only [Client.perform, goes]
      refine (addUser_leaves ⟨operator⟩).weaken ?_
      intro sent ended adds
      exact Or.inr ⟨operator, operatorIs, adds⟩
  | addDeviceCommand options =>
    rcases Commands.addDevice_cases crypto options with
      ⟨error, refused⟩ | ⟨operator, address, uid, operatorIs, addressIs, uidIs, goes⟩
    · simp only [Client.perform, refused]
      exact Or.inl ⟨rfl, fun same => by cases same⟩
    · simp only [Client.perform, goes]
      refine (addDevice_leaves ⟨operator⟩ address uid).weaken ?_
      intro sent ended adds
      exact Or.inr ⟨operator, address, uid, operatorIs, addressIs, uidIs, adds⟩

/-- Whoever is listed in one world is listed in the other. -/
structure Grown (world next : World) : Prop where
  users : world.storage.userAddressList ⊆ next.storage.userAddressList
  devices : world.storage.deviceAddressList ⊆ next.storage.deviceAddressList

theorem Grown.same (storage : next.storage = world.storage) : Grown world next :=
  ⟨storage ▸ List.Subset.refl _, storage ▸ List.Subset.refl _⟩

/-- What is noted stays noted. -/
theorem Grown.noted (grown : Grown world next)
    {entry : Entry ChainCall ChainCall.Answer Exception Transaction}
    (holds : Noted crypto world entry) : Noted crypto next entry := by
  obtain ⟨call, outcome, sent⟩ := entry
  cases outcome with
  | error error => cases call <;> exact holds
  | ok answer =>
    cases call with
    | getAllUserAddresses =>
      refine ⟨holds.1, fun text member => ?_⟩
      obtain ⟨user, listed, spelled⟩ := holds.2 text member
      exact ⟨user, grown.users listed, spelled⟩
    | getAllDeviceAddresses =>
      refine ⟨holds.1, fun text member => ?_⟩
      obtain ⟨device, listed, spelled⟩ := holds.2 text member
      exact ⟨device, grown.devices listed, spelled⟩
    | _ => exact holds

theorem moves_grown (move : Moves crypto world next) : Grown world next := by
  cases move with
  | mined before after transaction waiting chain accepts =>
    refine ⟨fun user member => Chain.step_users accepts member, ?_⟩
    intro device member
    obtain ⟨storage, taken, rfl⟩ := Chain.step_toDashboard.mp accepts
    simp only [World.storage, Ledger.mine_accepted taken]
    exact accepted_keeps_devices taken member
  | dropped before after transaction waiting => exact Grown.same rfl
  | called message chain accepts =>
    obtain ⟨registry, _, rfl⟩ := Chain.step_toRegistry.mp accepts
    exact Grown.same rfl

/-- The contracts took a run of their own, and all transactions that were accepted or wait
were sent by the calls, each at most as often. -/
structure Accounted (crypto : Crypto) (owner : Address) (world : World)
    (sent : List Transaction) : Prop where
  ran : ∃ messages, Transition.run (Chain.step crypto) (Chain.deployed owner) messages =
    some world.chain
  covered : world.transactions.Subperm sent

theorem Accounted.start (owner : Address) : Accounted crypto owner (World.start owner) [] :=
  ⟨⟨[], rfl⟩, List.Subperm.refl _⟩

/-- Every call is noted with what it sent. -/
theorem service_accounted {owner : Address} {call : ChainCall}
    {outcome : Except Exception call.Answer} {sent : List Transaction}
    (accounted : Accounted crypto owner world sent)
    (served : service crypto world call outcome next) :
    ∃ left, Noted crypto next ⟨call, outcome, left⟩ ∧
      Accounted crypto owner next (sent ++ left) := by
  have received :
      Accounted crypto owner (world.receive call) (sent ++ call.transaction.toList) := by
    refine ⟨accounted.ran, ?_⟩
    have whole : (world.receive call).transactions =
        world.transactions ++ call.transaction.toList := (List.append_assoc _ _ _).symm
    rw [whole]
    exact (List.subperm_append_right _).mpr accounted.covered
  have quiet : Accounted crypto owner world (sent ++ []) := by
    rw [List.append_nil]
    exact accounted
  cases outcome with
  | error error =>
    rcases served with rfl | rfl
    · refine ⟨[], ?_, quiet⟩
      cases call with
      | send transaction => exact Or.inl rfl
      | _ => rfl
    · refine ⟨_, ?_, received⟩
      cases call with
      | send transaction => exact Or.inr rfl
      | _ => rfl
  | ok reply =>
    obtain ⟨rfl, rfl⟩ := served
    refine ⟨_, ?_, received⟩
    cases call with
    | getAllUserAddresses =>
      refine ⟨rfl, fun text member => ?_⟩
      obtain ⟨user, listed, spelled⟩ := List.mem_map.mp member
      exact ⟨user, listed, spelled⟩
    | getAllDeviceAddresses =>
      refine ⟨rfl, fun text member => ?_⟩
      obtain ⟨device, listed, spelled⟩ := List.mem_map.mp member
      exact ⟨device, listed, spelled⟩
    | _ => rfl

/-- A move sends nothing. -/
theorem moves_accounted {owner : Address} {sent : List Transaction}
    (accounted : Accounted crypto owner world sent) (move : Moves crypto world next) :
    Accounted crypto owner next sent := by
  obtain ⟨messages, ran⟩ := accounted.ran
  cases move with
  | mined before after transaction waiting chain accepts =>
    refine ⟨⟨_, Transition.run_snoc ran accepts⟩, ?_⟩
    obtain ⟨storage, taken, rfl⟩ := Chain.step_toDashboard.mp accepts
    simp only [World.transactions, Ledger.mine_accepted taken, List.append_assoc]
    have moved : (transaction :: (before ++ after)).Perm world.pending :=
      waiting ▸ List.perm_middle.symm
    exact (moved.append_left _).subperm.trans accounted.covered
  | dropped before after transaction waiting =>
    refine ⟨⟨messages, ran⟩, ?_⟩
    have fewer : (before ++ after).Sublist world.pending :=
      waiting ▸ (List.sublist_cons_self transaction after).append_left before
    exact (fewer.append_left _).subperm.trans accounted.covered
  | called message chain accepts =>
    refine ⟨⟨_, Transition.run_snoc ran accepts⟩, ?_⟩
    obtain ⟨registry, _, rfl⟩ := Chain.step_toRegistry.mp accepts
    exact accounted.covered

/-- The books of the platform are kept call by call. -/
theorem tallied (crypto : Crypto) (owner : Address) :
    Tallied (fun _ : Client => service crypto) (Moves crypto)
      (fun world _ => Noted crypto world) (Accounted crypto owner) where
  shuffled := fun _ _ _ shuffled accounted =>
    ⟨accounted.ran, accounted.covered.trans shuffled.subperm⟩
  served := fun _ _ _ _ _ _ accounted served => service_accounted accounted served
  kept := by
    intro _ world call outcome next served _ entry holds
    apply (Grown.same _).noted holds
    cases outcome with
    | error error => rcases served with rfl | rfl <;> rfl
    | ok reply =>
      obtain ⟨_, rfl⟩ := served
      rfl
  moved := fun _ _ _ move accounted => moves_accounted accounted move
  stays := fun _ _ move _ _ holds => (moves_grown move).noted holds

/-- A client sends transactions of operators only. -/
theorem Sends.operator {client : Client} {sent : List Transaction}
    {ended : Option (Except Exception Unit)} (sends : Sends crypto world client sent ended)
    {transaction : Transaction} (member : transaction ∈ sent) :
    ∃ registry : EvRegistry, transaction.user = registry.operator crypto := by
  have user {registry : EvRegistry} (adds : AddsUser crypto world registry sent ended) :
      transaction.user = registry.operator crypto := by
    rcases adds with ⟨rfl, _⟩ | rfl
    · cases member
    · rw [List.mem_singleton.mp member]
      rfl
  have device {registry : EvRegistry} {address uid : String}
      (adds : AddsDevice crypto world registry address uid sent ended) :
      transaction.user = registry.operator crypto := by
    rcases adds with ⟨rfl, _⟩ | ⟨device, _, rfl⟩
    · cases member
    · rw [List.mem_singleton.mp member]
      rfl
  cases client with
  | route registry request =>
    cases request with
    | addUser => exact ⟨registry, user sends⟩
    | addDevice address uid => exact ⟨registry, device sends⟩
    | _ =>
      obtain rfl : sent = [] := sends
      cases member
  | addUserCommand options =>
    rcases sends with ⟨rfl, _⟩ | ⟨operator, _, adds⟩
    · cases member
    · exact ⟨⟨operator⟩, user adds⟩
  | addDeviceCommand options =>
    rcases sends with ⟨rfl, _⟩ | ⟨operator, address, uid, _, _, _, adds⟩
    · cases member
    · exact ⟨⟨operator⟩, device adds⟩

/-- Whatever the interleaving, and whatever is called on the OCN registry: the chain took
a run of the two contracts; each client's call has a course of its own, and sends what it
was asked for, once at most; all transactions that were accepted or still wait are among
those of the courses, each as often at most; and the lists and maps of the dashboard's
contract agree, even if `address(0)` should be listed in the OCN registry. -/
theorem registrations_traced (crypto : Crypto)
    (nonzero : ∀ key, crypto.ethers.computeAddress key ≠ .zero) (owner : Address)
    (clients : List Client) (world : World)
    (tasks : Tasks ChainCall ChainCall.Answer Exception Client Unit)
    (run : Run (fun _ => service crypto) (Moves crypto) (calls crypto clients)
      (World.start owner) tasks world) :
    (∃ messages, Transition.run (Chain.step crypto) (Chain.deployed owner) messages =
      some world.chain) ∧
    (∃ courses : List (Course ChainCall ChainCall.Answer Exception Client Transaction Unit),
      courses.map Course.begun = calls crypto clients ∧ courses.map Course.now = tasks ∧
      (∀ course ∈ courses, Sends crypto world course.party course.marks course.left.settled) ∧
      (world.chain.ledger.accepted ++ world.pending).Subperm (courses.flatMap Course.marks)) ∧
    Coherent world.chain.ledger.storage := by
  obtain ⟨courses, begun, now, sends, accounted⟩ :=
    run.leaves (tallied crypto owner) (Accounted.start owner) (by
      intro task member
      obtain ⟨client, _, rfl⟩ := List.mem_map.mp member
      exact perform_leaves client)
  obtain ⟨messages, ran⟩ := accounted.ran
  refine ⟨⟨messages, ran⟩, ⟨courses, begun, now, sends, accounted.covered⟩, ?_⟩
  have judged : world.chain.Judged :=
    Transition.run_invariant Chain.Judged (fun _ _ _ judged stepped => judged.step stepped)
      (Or.inl ⟨deployed_coherent, fun _ member => by cases member⟩) ran
  rcases judged with ⟨coherent, _⟩ | ⟨_, transaction, member, zero⟩
  · exact coherent
  · have sent : transaction ∈ courses.flatMap Course.marks :=
      accounted.covered.subset (List.mem_append_left _ member)
    obtain ⟨course, among, marked⟩ := List.mem_flatMap.mp sent
    obtain ⟨registry, own⟩ := (sends course among).operator marked
    cases transaction with
    | addUser user signature => cases zero
    | addDevice device identifier user signature =>
      obtain rfl : user = .zero := zero
      exact absurd own.symm (nonzero registry.operatorKey)

/-- A party joins the OCN registry, and its client adds it to the dashboard. -/
theorem joined_party_added : ∃ tasks world,
    Run (fun _ => service .sample) (Moves .sample) (calls .sample [.route ⟨"b"⟩ .addUser])
      (World.start .zero) tasks world ∧
    getAllUserAddresses world.storage = [.repeated 2] ∧ Coherent world.storage := by
  obtain ⟨tasks, world, run, users⟩ : ∃ tasks world,
      Run (fun _ => service .sample) (Moves .sample) (calls .sample [.route ⟨"b"⟩ .addUser])
        (World.start .zero) tasks world ∧
      getAllUserAddresses world.storage = [.repeated 2] := by
    refine ⟨?tasks, ?world, ?run, ?users⟩
    case run =>
      simp only [calls, Client.perform, EvRegistry.perform, addUser_eq, List.map_cons,
        List.map_nil]
      refine .step (.moved _ _ _
        (.called _ ⟨Registry.Nodes.firstAccount, .setNode [97]⟩ _ rfl)) ?_
      refine .step (.moved _ _ _ (.called _ ⟨Registry.Nodes.secondAccount,
        .setParty ⟨68, 69⟩ ⟨69, 86, 49⟩ [.CPO] (.repeated 1)⟩ _ rfl)) ?_
      refine .step (.answered [] [] _ _ _ [] _ _ ⟨rfl, rfl⟩) ?_
      refine .step (.answered [] [] _ _ _ () _ _ ⟨rfl, rfl⟩) ?_
      refine .step (.moved _ _ _ (.mined _ [] [] _ rfl _ rfl)) ?_
      exact .done _ _
    case users => decide
  obtain ⟨_, _, coherent⟩ := registrations_traced .sample Crypto.sample_lawful.nonzero .zero _ world
    tasks run
  exact ⟨tasks, world, run, users, coherent⟩

end EvDashboard.Platform
