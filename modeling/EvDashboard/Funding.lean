import EvDashboard.Async.Courses
import EvDashboard.Commands

/-!
# Who pays for DID documents

A device needs funds before it can create its document, and the operator transfers them.
Any number of these calls run at the same time, of any operators, from the library or
the command line, while keys are generated and transactions get confirmed. Every call may
fail at every step, and a step that failed for its caller may have succeeded all the same.

The books balance nevertheless. Each call has its own transfer, one at most, to the
address of a generated key, and creates its document only after that transfer was
confirmed; and nothing is transferred or created but by these calls.
-/

namespace EvDashboard.Funding

open Async Async.Pool JavaScript
open Transfer (Transaction Setting)

/-- A transaction with its hash. -/
structure Payment where
  hash : String
  transaction : Transaction
deriving DecidableEq

inductive Deed where
  | paid (payment : Payment)
  | created (document : DIDDocumentFull)
deriving DecidableEq

def Deed.hash : Deed → Option String
  | paid payment => some payment.hash
  | created _ => none

/-- The key store, what was done so far, and the transactions that were confirmed. -/
structure World where
  table : KeyManager.Table
  deeds : List Deed
  confirmed : List String

namespace World

/-- The hashes of all transactions. -/
def hashes (world : World) : List String := world.deeds.filterMap Deed.hash

def add (world : World) (deeds : List Deed) : World :=
  { world with deeds := world.deeds ++ deeds }

end World

/-- How a step ends. What fails may have been done; a transaction gets a new hash. -/
def served : Service DidCall DidCall.Answer Exception World :=
  fun world call outcome next => match call, outcome with
    | .getSignerForDID did, .ok found =>
      found = KeyManager.getSignerForDID world.table did ∧ next = world
    | .sendTransaction sender recipient value, .ok hash =>
      hash ∉ world.hashes ∧ next = world.add [.paid ⟨hash, sender, recipient, value⟩]
    | .sendTransaction sender recipient value, .error _ => next = world ∨
      ∃ hash, hash ∉ world.hashes ∧ next = world.add [.paid ⟨hash, sender, recipient, value⟩]
    | .wait hash, .ok _ => hash ∈ world.confirmed ∧ next = world
    | .create document, .ok _ => next = world.add [.created document]
    | .create document, .error _ => next = world ∨ next = world.add [.created document]
    | _, _ => next = world

/-- What happens without a call: a key is generated, or a transaction is confirmed. -/
inductive Moves (ethers : Ethers) : World → World → Prop where
  | generated (world : World) (wallet : Wallet) :
      Moves ethers world
        { world with table := (KeyManager.generateKeyPair ethers wallet world.table).2 }
  | confirmed (world : World) (hash : String) (known : hash ∈ world.hashes) :
      Moves ethers world { world with confirmed := world.confirmed ++ [hash] }

/-- A call of the library, or of the command line. -/
inductive Request where
  | createDocument (hydrator : DID) (did : String) (mintAmount : Option Number)
  | createDocumentForOperator (hydrator : DID)
  | createDocumentCommand (arguments : Arguments)

def Request.perform (library : DidLibrary) : Request → Hydrating Unit
  | createDocument hydrator did mintAmount => hydrator.createDocument library did mintAmount
  | createDocumentForOperator hydrator => hydrator.createDocumentForOperator library
  | createDocumentCommand arguments => EvDashboard.createDocumentCommand library arguments

/-- The programs of the calls. -/
def calls (library : DidLibrary) (requests : List Request) :
    Tasks DidCall DidCall.Answer Exception Request Unit :=
  requests.map (fun request => (request, request.perform library))

/-- The deeds of one call for a device. It has done nothing; or the operator has paid an
amount of ether that was asked for, to the wei, to the address of the device's key; or it has
paid, the payment was confirmed, and the document of the device was created with its key.
Only in the last case may the call have resolved. -/
def Funded (library : DidLibrary) (world : World) (hydrator : DID) (did : String)
    (asked : ℚ → Prop) (deeds : List Deed) (ended : Option (Except Exception Unit)) : Prop :=
  (deeds = [] ∧ ended ≠ some (.ok ())) ∨
  ∃ payment signer amount,
    signer ∈ KeyManager.getAllSigners world.table ∧
    Did.keyPairDID library.ethers signer = did ∧
    payment.transaction.sender = hydrator.operator ∧
    payment.transaction.recipient = signer.address library.ethers ∧
    asked amount ∧ (payment.transaction.value : ℚ) = amount * 10 ^ 18 ∧
    ((deeds = [.paid payment] ∧ ended ≠ some (.ok ())) ∨
      (deeds = [.paid payment, .created (hydrator.documentOf did signer)] ∧
        payment.hash ∈ world.confirmed))

/-- The deeds of one call. The library is asked for a number of ether, by default a
thousandth. A command acts only if it is given all of its options; it is asked for the amount
that its text begins with. -/
def Fair (library : DidLibrary) (world : World) :
    Request → List Deed → Option (Except Exception Unit) → Prop
  | .createDocument hydrator did mintAmount, deeds, ended =>
    Funded library world hydrator did
      (fun amount => mintAmount.getD (.finite (1 / 1000)) = .finite amount) deeds ended
  | .createDocumentForOperator hydrator, deeds, ended =>
    (deeds = [] ∧ ended ≠ some (.ok ())) ∨
      deeds = [.created (hydrator.issuingDocument library.ethers)]
  | .createDocumentCommand arguments, deeds, ended =>
    (deeds = [] ∧ ended ≠ some (.ok ())) ∨
      ∃ setting text, arguments = Setting.arguments setting text ∧ text ≠ "" ∧
        Funded library world setting.did setting.deviceDID
          (fun amount => Leads (trimStart text) (.finite amount)) deeds ended

/-- What is noted of a call. -/
def Noted (ethers : Ethers) (world : World) (entry : Entry DidCall DidCall.Answer Exception Deed) :
    Prop :=
  match entry with
  | ⟨.getSignerForDID did, .ok found, deeds⟩ => deeds = [] ∧ ∀ signer, found = some signer →
    signer ∈ KeyManager.getAllSigners world.table ∧ Did.keyPairDID ethers signer = did
  | ⟨.sendTransaction sender recipient value, .ok hash, deeds⟩ =>
    deeds = [.paid ⟨hash, sender, recipient, value⟩]
  | ⟨.sendTransaction sender recipient value, .error _, deeds⟩ =>
    deeds = [] ∨ ∃ hash, deeds = [.paid ⟨hash, sender, recipient, value⟩]
  | ⟨.wait hash, .ok _, deeds⟩ => deeds = [] ∧ hash ∈ world.confirmed
  | ⟨.create document, .ok _, deeds⟩ => deeds = [.created document]
  | ⟨.create document, .error _, deeds⟩ => deeds = [] ∨ deeds = [.created document]
  | ⟨_, _, deeds⟩ => deeds = []

variable {library : DidLibrary} {world next : World}

/-- A signer that is found is stored under the DID asked for. -/
theorem instantiateSigner_leaves (did : String) :
    (DID.instantiateSigner did).Leaves (Noted library.ethers world) (fun deeds ended =>
      deeds = [] ∧ ∀ signer, ended = some (.ok signer) →
        signer ∈ KeyManager.getAllSigners world.table ∧
          Did.keyPairDID library.ethers signer = did) := by
  refine ⟨⟨rfl, fun signer same => by cases same⟩, ?_, ?_⟩
  · rintro found deeds ⟨rfl, known⟩
    cases found with
    | none => exact ⟨rfl, fun signer same => by cases same⟩
    | some found =>
      refine ⟨rfl, ?_⟩
      intro signer same
      cases same
      exact known found rfl
  · intro error deeds quiet
    exact ⟨quiet, fun signer same => by cases same⟩

/-- An amount that the wallet library takes is a number of ether that makes whole wei. -/
theorem taken_exact {amount : Number} {wei : Nat}
    (taken : library.bigNumberify (amount.times (10 ^ 18)) = .ok wei) :
    ∃ ether, amount = .finite ether ∧ (wei : ℚ) = ether * 10 ^ 18 := by
  cases amount with
  | nan => cases taken
  | infinite negative => cases taken
  | finite ether => exact ⟨ether, rfl, (Transfer.bigNumberify_iff.mp taken).1.symm⟩

/-- A transfer pays the amount at most once, and resolves when the payment is confirmed. -/
theorem mint_leaves (hydrator : DID) (recipient : String) (amount : Number) :
    (hydrator.mint library recipient amount).Leaves (Noted library.ethers world)
      (fun deeds ended => (deeds = [] ∧ ended ≠ some (.ok ())) ∨
        ∃ payment ether, payment.transaction.sender = hydrator.operator ∧
          payment.transaction.recipient = recipient ∧ amount = .finite ether ∧
          (payment.transaction.value : ℚ) = ether * 10 ^ 18 ∧
          deeds = [.paid payment] ∧ (ended = some (.ok ()) → payment.hash ∈ world.confirmed)) := by
  unfold DID.mint DID.sendTransaction
  cases taken : library.bigNumberify (amount.times (10 ^ 18)) with
  | error error => exact Or.inl ⟨rfl, fun same => by cases same⟩
  | ok wei =>
    obtain ⟨ether, finite, exactly⟩ := taken_exact taken
    refine ⟨Or.inl ⟨rfl, fun same => by cases same⟩, ?_, ?_⟩
    · rintro hash deeds rfl
      refine ⟨Or.inr ⟨_, ether, rfl, rfl, finite, exactly, rfl, fun same => by cases same⟩, ?_, ?_⟩
      · rintro _ deeds ⟨rfl, known⟩
        refine ⟨Or.inr ⟨_, ether, rfl, rfl, finite, exactly, rfl, fun same => by cases same⟩,
          ?_, ?_⟩
        · rintro balance deeds rfl
          exact Or.inr ⟨_, ether, rfl, rfl, finite, exactly, rfl, fun _ => known⟩
        · rintro error deeds rfl
          exact Or.inr ⟨_, ether, rfl, rfl, finite, exactly, rfl, fun same => by cases same⟩
      · rintro error deeds rfl
        exact Or.inr ⟨_, ether, rfl, rfl, finite, exactly, rfl, fun same => by cases same⟩
    · rintro error deeds (rfl | ⟨hash, rfl⟩)
      · exact Or.inl ⟨rfl, fun same => by cases same⟩
      · exact Or.inr ⟨_, ether, rfl, rfl, finite, exactly, rfl, fun same => by cases same⟩

/-- A call that was asked for some amounts is also asked for more. -/
theorem Funded.widen {hydrator : DID} {did : String} {asked wider : ℚ → Prop}
    {deeds : List Deed} {ended : Option (Except Exception Unit)}
    (funded : Funded library world hydrator did asked deeds ended)
    (implied : ∀ amount, asked amount → wider amount) :
    Funded library world hydrator did wider deeds ended := by
  rcases funded with idle | ⟨payment, signer, amount, stored, key, sender, recipient, known, rest⟩
  · exact Or.inl idle
  · exact Or.inr ⟨payment, signer, amount, stored, key, sender, recipient, implied amount known,
      rest⟩

section Located

variable (located : ∀ wallet, library.addressOf (Did.keyPairDID library.ethers wallet) =
  .ok (wallet.address library.ethers))

include located

theorem createDocument_leaves (hydrator : DID) (did : String) (mintAmount : Option Number) :
    (hydrator.createDocument library did mintAmount).Leaves (Noted library.ethers world)
      (Funded library world hydrator did
        (fun amount => mintAmount.getD (.finite (1 / 1000)) = .finite amount)) := by
  unfold DID.createDocument
  apply Program.Leaves.bind
  refine (instantiateSigner_leaves did).weaken ?_
  rintro _ ended ⟨rfl, known⟩
  rcases ended with _ | error | signer
  · exact Or.inl ⟨rfl, fun same => by cases same⟩
  · exact Or.inl ⟨rfl, fun same => by cases same⟩
  · obtain ⟨stored, rfl⟩ := known signer rfl
    simp only [located, Program.ofExcept_ok, Program.done_bind]
    apply Program.Leaves.bind
    refine (mint_leaves hydrator (signer.address library.ethers) _).weaken ?_
    rintro deeds ended (⟨rfl, unpaid⟩ |
      ⟨payment, ether, sender, recipient, asked, exactly, rfl, confirmed⟩)
    · rcases ended with _ | error | _
      · exact Or.inl ⟨rfl, unpaid⟩
      · exact Or.inl ⟨rfl, fun same => by cases same⟩
      · exact absurd rfl unpaid
    · have paid (ended : Option (Except Exception Unit)) (unresolved : ended ≠ some (.ok ())) :
          Funded library world hydrator (Did.keyPairDID library.ethers signer)
            (fun amount => mintAmount.getD (.finite (1 / 1000)) = .finite amount)
            [.paid payment] ended :=
        Or.inr ⟨payment, signer, ether, stored, rfl, sender, recipient, asked, exactly,
          Or.inl ⟨rfl, unresolved⟩⟩
      rcases ended with _ | error | _
      · exact paid _ (fun same => by cases same)
      · exact paid _ (fun same => by cases same)
      · have created (ended : Option (Except Exception Unit)) :
            Funded library world hydrator (Did.keyPairDID library.ethers signer)
              (fun amount => mintAmount.getD (.finite (1 / 1000)) = .finite amount)
              [.paid payment, .created (hydrator.documentOf _ signer)] ended :=
          Or.inr ⟨payment, signer, ether, stored, rfl, sender, recipient, asked, exactly,
            Or.inr ⟨rfl, confirmed rfl⟩⟩
        refine ⟨paid _ (fun same => by cases same), ?_, ?_⟩
        · rintro _ deeds rfl
          exact created _
        · rintro error deeds (rfl | rfl)
          · exact paid _ (fun same => by cases same)
          · exact created _

/-- Every call does what it may. -/
theorem perform_leaves (request : Request) :
    (request.perform library).Leaves (Noted library.ethers world) (Fair library world request) := by
  cases request with
  | createDocument hydrator did mintAmount =>
    exact createDocument_leaves located hydrator did mintAmount
  | createDocumentForOperator hydrator =>
    refine ⟨Or.inl ⟨rfl, fun same => by cases same⟩, ?_, ?_⟩
    · rintro _ deeds rfl
      exact Or.inr rfl
    · rintro error deeds (rfl | rfl)
      · exact Or.inl ⟨rfl, fun same => by cases same⟩
      · exact Or.inr rfl
  | createDocumentCommand arguments =>
    rcases Commands.createDocument_cases library arguments with
      ⟨error, refused⟩ | ⟨setting, text, given, rfl⟩
    · simp only [Request.perform, refused]
      exact Or.inl ⟨rfl, fun same => by cases same⟩
    · have same : (Request.createDocumentCommand (setting.arguments text)).perform library = _ :=
        Transfer.command_given given
      rw [same]
      refine (createDocument_leaves located _ _ _).weaken ?_
      intro deeds ended funded
      exact Or.inr ⟨setting, text, rfl, given,
        funded.widen (fun _ same => parseFloat_finite_iff.mp same)⟩

end Located

theorem hashes_add (deeds : List Deed) :
    (world.add deeds).hashes = world.hashes ++ deeds.filterMap Deed.hash := by
  rw [World.hashes, World.add, List.filterMap_append]
  rfl

/-- Deeds are done behind the others; the keys and the confirmations stay. -/
def Added (world next : World) (deeds : List Deed) : Prop :=
  next = world.add deeds ∧ next.hashes.Nodup

/-- A step that ends is noted with what was done in it. -/
theorem served_noted {call : DidCall} {outcome : Except Exception call.Answer}
    (agree : KeyManager.RowsAgree library.ethers world.table) (distinct : world.hashes.Nodup)
    (step : served world call outcome next) :
    ∃ deeds, Noted library.ethers next ⟨call, outcome, deeds⟩ ∧ Added world next deeds := by
  have nothing : Added world world [] := by
    refine ⟨?_, distinct⟩
    rw [World.add, List.append_nil]
  have creation (document : DIDDocumentFull) :
      Added world (world.add [.created document]) [.created document] := by
    refine ⟨rfl, ?_⟩
    rw [hashes_add]
    exact (List.append_nil world.hashes).symm ▸ distinct
  have payment (hash : String) (sender : Identity) (recipient : String) (value : Nat)
      (fresh : hash ∉ world.hashes) :
      Added world (world.add [.paid ⟨hash, sender, recipient, value⟩])
        [.paid ⟨hash, sender, recipient, value⟩] := by
    refine ⟨rfl, ?_⟩
    rw [hashes_add]
    refine List.nodup_append.mpr ⟨distinct, List.nodup_cons.mpr ⟨List.not_mem_nil, .nil⟩, ?_⟩
    rintro other member last among rfl
    have same : other = hash := List.mem_singleton.mp among
    exact fresh (same ▸ member)
  cases call with
  | getSignerForDID did =>
    cases outcome with
    | error error =>
      obtain rfl := step
      exact ⟨[], rfl, nothing⟩
    | ok found =>
      obtain ⟨located, rfl⟩ := step
      refine ⟨[], ⟨rfl, ?_⟩, nothing⟩
      rintro signer rfl
      exact agree.getSignerForDID library.ethers located.symm
  | sendTransaction sender recipient value =>
    cases outcome with
    | error error =>
      rcases step with rfl | ⟨hash, fresh, rfl⟩
      · exact ⟨[], Or.inl rfl, nothing⟩
      · exact ⟨_, Or.inr ⟨hash, rfl⟩, payment hash sender recipient value fresh⟩
    | ok hash =>
      obtain ⟨fresh, rfl⟩ := step
      exact ⟨_, rfl, payment hash sender recipient value fresh⟩
  | wait hash =>
    cases outcome with
    | error error =>
      obtain rfl := step
      exact ⟨[], rfl, nothing⟩
    | ok answer =>
      obtain ⟨confirmed, rfl⟩ := step
      exact ⟨[], ⟨rfl, confirmed⟩, nothing⟩
  | create document =>
    cases outcome with
    | error error =>
      rcases step with rfl | rfl
      · exact ⟨[], Or.inl rfl, nothing⟩
      · exact ⟨_, Or.inr rfl, creation document⟩
    | ok answer =>
      obtain rfl := step
      exact ⟨_, rfl, creation document⟩
  | _ =>
    obtain rfl : next = world := by cases outcome <;> exact step
    exact ⟨[], by cases outcome <;> rfl, nothing⟩

/-- The keys and the confirmations of one world are there in the other. -/
structure Grown (world next : World) : Prop where
  stored : KeyManager.getAllSigners world.table ⊆ KeyManager.getAllSigners next.table
  confirmed : world.confirmed ⊆ next.confirmed

/-- What is noted stays noted. -/
theorem Grown.noted (grown : Grown world next)
    {entry : Entry DidCall DidCall.Answer Exception Deed}
    (holds : Noted library.ethers world entry) : Noted library.ethers next entry := by
  obtain ⟨call, outcome, deeds⟩ := entry
  cases call with
  | getSignerForDID did =>
    cases outcome with
    | error error => exact holds
    | ok found =>
      refine ⟨holds.1, ?_⟩
      intro signer same
      obtain ⟨stored, spelled⟩ := holds.2 signer same
      exact ⟨grown.stored stored, spelled⟩
  | wait hash =>
    cases outcome with
    | error error => exact holds
    | ok answer => exact ⟨holds.1, grown.confirmed holds.2⟩
  | _ => cases outcome <;> exact holds

/-- The deeds are those at the start and the marks of the calls, and no two transactions
have one hash. -/
def Balanced (ethers : Ethers) (world : World) (marks : List Deed) : Prop :=
  world.deeds.Perm marks ∧ world.hashes.Nodup ∧ KeyManager.RowsAgree ethers world.table

/-- No step touches the keys or the confirmations. -/
theorem served_grown {call : DidCall} {outcome : Except Exception call.Answer}
    (step : served world call outcome next) : Grown world next := by
  have same : Grown world world := ⟨List.Subset.refl _, List.Subset.refl _⟩
  have added (deeds : List Deed) : Grown world (world.add deeds) :=
    ⟨List.Subset.refl _, List.Subset.refl _⟩
  cases call with
  | getSignerForDID did =>
    cases outcome with
    | error error => exact step ▸ same
    | ok found => exact step.2 ▸ same
  | sendTransaction sender recipient value =>
    cases outcome with
    | error error =>
      rcases step with rfl | ⟨hash, _, rfl⟩
      · exact same
      · exact added _
    | ok hash => exact step.2 ▸ added _
  | wait hash =>
    cases outcome with
    | error error => exact step ▸ same
    | ok answer => exact step.2 ▸ same
  | create document =>
    cases outcome with
    | error error =>
      rcases step with rfl | rfl
      · exact same
      · exact added _
    | ok answer => exact step ▸ added _
  | _ => cases outcome <;> exact step ▸ same

/-- A generated key is stored in addition. -/
theorem moves_grown {ethers : Ethers} (move : Moves ethers world next) : Grown world next := by
  cases move with
  | generated wallet =>
    refine ⟨?_, List.Subset.refl _⟩
    intro signer member
    simp only [KeyManager.getAllSigners, KeyManager.getAllKeyPairs, KeyManager.generateKeyPair,
      KeyManager.setKeyPair, List.map_append]
    exact List.mem_append_left _ member
  | confirmed hash known => exact ⟨List.Subset.refl _, List.subset_append_left _ _⟩

/-- It is stored under its own DID. -/
theorem generated_agree {ethers : Ethers} (wallet : Wallet)
    (agree : KeyManager.RowsAgree ethers world.table) :
    KeyManager.RowsAgree ethers (KeyManager.generateKeyPair ethers wallet world.table).2 := by
  intro row member
  rcases List.mem_append.mp member with earlier | new
  · exact agree row earlier
  · obtain rfl := List.mem_singleton.mp new
    rfl

/-- The books are kept call by call. -/
theorem tallied (library : DidLibrary) :
    Tallied (fun _ : Request => served) (Moves library.ethers)
      (fun world _ => Noted library.ethers world) (Balanced library.ethers) where
  shuffled := fun world marks other shuffle balanced =>
    ⟨balanced.1.trans shuffle, balanced.2⟩
  served := by
    rintro _ world call outcome next marks ⟨deeds, distinct, agree⟩ step
    obtain ⟨more, noted, rfl, distinct⟩ := served_noted agree distinct step
    exact ⟨more, noted, deeds.append_right more, distinct, agree⟩
  kept := by
    intro _ world call outcome next step _ entry holds
    exact (served_grown step).noted holds
  moved := by
    rintro world next marks move ⟨deeds, distinct, agree⟩
    cases move with
    | generated wallet => exact ⟨deeds, distinct, generated_agree wallet agree⟩
    | confirmed hash known => exact ⟨deeds, distinct, agree⟩
  stays := fun world next move _ entry holds => (moves_grown move).noted holds

/-- The books balance, however the calls interleave and whatever fails. From any deeds and
keys at the start, each call has a course of its own: it goes from the call's program to
what is left of it, with deeds that are fair. All deeds together are those at the start
and those of the courses; and no two transactions have one hash, so that no transfer
serves two calls. -/
theorem books_balance (library : DidLibrary)
    (located : ∀ wallet, library.addressOf (Did.keyPairDID library.ethers wallet) =
      .ok (wallet.address library.ethers))
    (requests : List Request) (start world : World)
    (tasks : Tasks DidCall DidCall.Answer Exception Request Unit)
    (agree : KeyManager.RowsAgree library.ethers start.table) (distinct : start.hashes.Nodup)
    (run : Run (fun _ => served) (Moves library.ethers) (calls library requests) start tasks
      world) :
    ∃ courses : List (Course DidCall DidCall.Answer Exception Request Deed Unit),
      courses.map Course.begun = calls library requests ∧ courses.map Course.now = tasks ∧
      (∀ course ∈ courses, Fair library world course.party course.marks course.left.settled) ∧
      world.deeds.Perm (start.deeds ++ courses.flatMap Course.marks) ∧ world.hashes.Nodup := by
  have balanced : Balanced library.ethers start start.deeds :=
    ⟨List.Perm.refl _, distinct, agree⟩
  obtain ⟨courses, begun, now, fair, deeds, different, _⟩ := run.leaves (tallied library) balanced
    (by
      intro task member
      obtain ⟨request, _, rfl⟩ := List.mem_map.mp member
      exact perform_leaves located request)
  exact ⟨courses, begun, now, fair, deeds, different⟩

section Sample

/-- The stand-in finds the address behind a stored DID. -/
theorem sample_located (wallet : Wallet) :
    DidLibrary.sample.addressOf (Did.keyPairDID .sample wallet) = .ok (wallet.address .sample) := by
  have spelled : Did.keyPairDID .sample wallet = "did" ++ (String.singleton ':' ++
      ("ethr" ++ (String.singleton ':' ++ wallet.address .sample))) := by
    simp only [Did.keyPairDID, ← String.append_assoc]
    rfl
  have free : ':' ∉ (wallet.address .sample).toList := Ethers.sample.checksum_no_colon _
  simp only [DidLibrary.sample, spelled, splitText_cons _ _ _ (by decide : ':' ∉ "did".toList),
    splitText_cons _ _ _ (by decide : ':' ∉ "ethr".toList), splitText_single _ _ free]
  rfl

/-- The server's operator. -/
def sampleOperator : DID := .new "ab" "http://localhost:8544" none none

/-- A key was generated. -/
def sampleStart : World := ⟨(KeyManager.generateKeyPair .sample ⟨"a"⟩ []).2, [], []⟩

def samplePayment : Payment :=
  ⟨"0x1", sampleOperator.operator, Wallet.address .sample ⟨"a"⟩, 10 ^ 15⟩

def sampleDevice : String := Did.keyPairDID .sample ⟨"a"⟩

def sampleDocument : DIDDocumentFull := sampleOperator.documentOf sampleDevice ⟨"a"⟩

/-- Once the signer is found, the default amount is paid and the document is created. -/
theorem sample_createDocument : ∃ resume,
    sampleOperator.createDocument .sample sampleDevice none =
        .await (.getSignerForDID sampleDevice) resume ∧
      resume (some ⟨"a"⟩) = .await (.sendTransaction sampleOperator.operator
          (Wallet.address .sample ⟨"a"⟩) (10 ^ 15)) (fun hash => .await (.wait hash) (fun _ =>
        .await (.getBalance sampleOperator.operator) (fun _ =>
          .await (.create sampleDocument) .done))) := by
  have amount : DidLibrary.sample.bigNumberify (Number.times (.finite (1 / 1000)) (10 ^ 18)) =
      .ok (10 ^ 15) := Transfer.bigNumberify_iff.mpr ⟨by norm_num, by norm_num⟩
  have recipient : DidLibrary.sample.addressOf sampleDevice = .ok _ := sample_located ⟨"a"⟩
  refine ⟨_, rfl, ?_⟩
  simp only [recipient, DID.mint, DID.sendTransaction, Option.getD_none, amount,
    Program.ofExcept_ok]
  rfl

/-- The device's document is created once the payment is confirmed. -/
theorem device_funded : ∃ tasks world,
    Run (fun _ => served) (Moves .sample)
      (calls .sample [.createDocument sampleOperator sampleDevice none]) sampleStart tasks world ∧
    world.deeds = [.paid samplePayment, .created sampleDocument] ∧ world.hashes.Nodup := by
  obtain ⟨resume, form, found⟩ := sample_createDocument
  obtain ⟨tasks, world, run, deeds⟩ : ∃ tasks world, Run (fun _ => served) (Moves .sample)
      (calls .sample [.createDocument sampleOperator sampleDevice none]) sampleStart tasks world ∧
      world.deeds = [.paid samplePayment, .created sampleDocument] := by
    refine ⟨?tasks, ?world, ?run, ?deeds⟩
    case run =>
      simp only [calls, Request.perform, form, List.map_cons, List.map_nil]
      refine .step (.answered [] [] _ _ _ (some ⟨"a"⟩) _ _ ⟨by decide, rfl⟩) ?_
      rw [found]
      refine .step (.answered [] [] _ _ _ "0x1" _ _ ⟨List.not_mem_nil, rfl⟩) ?_
      refine .step (.moved _ _ _ (.confirmed _ "0x1" (List.mem_singleton_self _))) ?_
      refine .step (.answered [] [] _ _ _ () _ _ ⟨List.mem_singleton_self _, rfl⟩) ?_
      refine .step (.answered [] [] _ _ _ 0 _ _ rfl) ?_
      refine .step (.answered [] [] _ _ _ () _ _ rfl) ?_
      exact .done _ _
    case deeds => rfl
  have agree : KeyManager.RowsAgree .sample sampleStart.table := by
    have empty : KeyManager.RowsAgree .sample (World.mk [] [] []).table :=
      fun row member => absurd member List.not_mem_nil
    exact generated_agree ⟨"a"⟩ empty
  obtain ⟨_, _, _, _, _, distinct⟩ := books_balance .sample sample_located _ sampleStart world tasks
    agree .nil run
  exact ⟨tasks, world, run, deeds, distinct⟩

end Sample

end EvDashboard.Funding
