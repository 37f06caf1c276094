import EvDashboard.Async.Courses
import EvDashboard.Exchange
import EvDashboard.Listener
import EvDashboard.Services
import Mathlib.Data.List.Forall2
import Mathlib.Data.List.Nodup

/-!
# What the service does, and on whose account

Several processes of the service may share one key store: each runs its startup sweep and
a handler for every message it receives. All of these run interleaved, keys are generated
and claims accepted meanwhile, other programs write to the documents, and any call may
fail, with or without having taken effect. A process that dies takes no further step, and
one that is started again is another process.

Still every claim request and every publication belongs to one message or to one sweep. A
message leads to one of them at most, made with the key of the asset it names. A sweep
publishes accepted claims only, none twice and none that was published before; and a sweep
that resolves leaves no claim behind that was there when it began.
-/

namespace EvDashboard.Actions

open Async Async.Pool JavaScript Exchange

/-- What a claim request is sent with. -/
structure ClaimRequest where
  privateKey : String
  claim : ClaimData
  registrationTypes : List RegistrationType
deriving DecidableEq

/-- The wallet library, the id of the entry that a published token leads to, and the roles
that the cache server knows. -/
structure Setting where
  ethers : Ethers
  entryId : Option Json → String
  roles : String → Option RoleDefinition

/-- The key store, the accepted claims, the documents, what other programs have added to
them, and the claim requests sent. -/
structure World where
  table : KeyManager.Table
  accepted : List Issue
  documents : Documents
  foreign : String → List ServiceEntry
  requests : List ClaimRequest

/-- A claim request that was sent, or a publication that appended an entry. -/
inductive Mark where
  | requested (request : ClaimRequest)
  | published (privateKey : String) (token : Option Json) (serviceEndpoint : String)

def Mark.request : Mark → Option ClaimRequest
  | requested request => some request
  | published _ _ _ => none

namespace World

def signers (world : World) : List Wallet := KeyManager.getAllSigners world.table

def send (world : World) (request : ClaimRequest) : World :=
  { world with requests := world.requests ++ [request] }

end World

variable (setting : Setting)

/-- The entry that a publication appends, if it is to the document of the DID. -/
def Setting.entryOf (did : String) : Mark → Option ServiceEntry
  | .requested _ => none
  | .published key token endpoint =>
    if did = Did.sweepDID setting.ethers ⟨key⟩ then some ⟨setting.entryId token, endpoint⟩ else none

/-- A publication goes to the document of the key's own DID. -/
def Setting.publish (world : World) (key : String) (token : Option Json) (endpoint : String) :
    World :=
  { world with
    documents := world.documents.append (Did.sweepDID setting.ethers ⟨key⟩)
      ⟨setting.entryId token, endpoint⟩ }

/-- What the services answer from. -/
def Setting.records (world : World) : Records where
  signers := world.signers
  signerForDID := fun did found => found = KeyManager.getSignerForDID world.table did
  roleDefinition := fun role definition => definition = setting.roles role
  claims := fun did claims => claims.Perm (claimsOf world.accepted did)
  entryId := fun _ token id => id = setting.entryId token
  documents := world.documents

/-- A call has taken effect; the claim requests are noted. -/
def World.after (world : World) (call : Call) (added : Option Addition) : World :=
  match call with
  | .createClaimRequest key claim types => world.send ⟨key, claim, types⟩
  | _ => { world with documents := world.documents.after added }

/-- How a call ends. What fails may have taken effect. -/
def served : Service Call Call.Answer Exception World := fun world call outcome next =>
  match outcome with
  | .ok answer => ∃ added, (setting.records world).Answers setting.ethers call answer added ∧
    next = world.after call added
  | .error _ => next = world ∨ ∃ answer added,
    (setting.records world).Answers setting.ethers call answer added ∧ next = world.after call added

/-- A publication of the claim adds an entry with its id. -/
def Setting.Identified (issue : Issue) : Prop :=
  setting.entryId (Asset.claimToken issue.claim) = issue.id

/-- What happens without a call: a key with a new address is generated, a claim is
accepted, or another program adds an entry to a document. -/
inductive Moves : World → World → Prop where
  | generated (world : World) (wallet : Wallet)
      (fresh : ∀ other ∈ world.signers,
        other.address setting.ethers ≠ wallet.address setting.ethers) :
      Moves world
        { world with table := (KeyManager.generateKeyPair setting.ethers wallet world.table).2 }
  | accepted (world : World) (issue : Issue) (identified : setting.Identified issue)
      (fresh : issue ∉ world.accepted) :
      Moves world { world with accepted := world.accepted ++ [issue] }
  | extended (world : World) (did : String) (entry : ServiceEntry) :
      Moves world { world with
        documents := world.documents.append did entry
        foreign := fun other =>
          if other = did then world.foreign other ++ [entry] else world.foreign other }

/-- A startup sweep of some process, or a message that some process has received. -/
inductive Request where
  | init (client : PrequalificationClient)
  | message (client : PrequalificationClient) (message : Message)

def Request.perform : Request → Awaiting Unit
  | init client => client.init setting.ethers
  | message client received => client.handle received

/-- The store agrees with its keys, which have different addresses; the claims are
different, and each leads to an entry with its id. -/
structure Sound (world : World) : Prop where
  agree : KeyManager.RowsAgree setting.ethers world.table
  separate : (world.signers.map (Wallet.address setting.ethers)).Nodup
  distinct : world.accepted.Nodup
  identified : ∀ issue ∈ world.accepted, setting.Identified issue

/-- A mark that a message may leave: a request for the client's role with the version that
the cache server knows, or a publication of the token in the message. -/
def Served (client : PrequalificationClient) (subject : Subject) (token : Option Json)
    (wallet : Wallet) (mark : Mark) : Prop :=
  match subject with
  | .prequalificationExchange => ∃ definition,
    setting.roles client.prequalificationRole.roleName = some definition ∧
    mark = .requested ⟨wallet.privateKey,
      ⟨client.prequalificationRole.roleName, definition.version⟩, [.offChain]⟩
  | .claimExchange => ∃ endpoint, mark = .published wallet.privateKey token endpoint

/-- What a handler leaves: at most one mark, made with a stored key whose address the message
names. One that resolves without a mark had nothing to serve, or named the address of no key
that was stored at the start. -/
def Handled (start world : World) (client : PrequalificationClient) (message : Message)
    (marks : List Mark) (ended : Option (Except Exception Unit)) : Prop :=
  (marks = [] ∧ (ended = some (.ok ()) → Listener.decode message = .ok none ∨
    ∀ wallet ∈ start.signers,
      Listener.addressNamed message ≠ some (wallet.address setting.ethers))) ∨
  ∃ decoded wallet mark, Listener.decode message = .ok (some decoded) ∧
    wallet ∈ world.signers ∧
    Listener.addressNamed message = some (wallet.address setting.ethers) ∧
    marks = [mark] ∧ Served setting client message.subject decoded.issuedToken wallet mark

/-- A publication of an accepted claim that was not in the document at the start. -/
def Due (start world : World) (issue : Issue) (mark : Mark) : Prop :=
  (∃ wallet endpoint, wallet ∈ world.signers ∧
    issue.subject = Did.sweepDID setting.ethers wallet ∧
    mark = .published wallet.privateKey (Asset.claimToken issue.claim) endpoint) ∧
  issue ∈ world.accepted ∧ start.documents.holds issue.subject issue.id = false

/-- What a sweep leaves: publications that were due, each of another claim. If it resolves,
every claim that was accepted at the start for a key stored then is in its document. -/
def Swept (start world : World) (marks : List Mark) (ended : Option (Except Exception Unit)) :
    Prop :=
  ∃ issues : List Issue, issues.Nodup ∧ List.Forall₂ (Due setting start world) issues marks ∧
    (ended = some (.ok ()) → ∀ wallet ∈ start.signers, ∀ issue ∈ start.accepted,
      issue.subject = Did.sweepDID setting.ethers wallet →
        world.documents.holds issue.subject issue.id = true)

/-- What one program leaves. -/
def Traced (start world : World) :
    Request → List Mark → Option (Except Exception Unit) → Prop
  | .init _, marks, ended => Swept setting start world marks ended
  | .message client message, marks, ended =>
    Handled setting start world client message marks ended

/-- What is noted of a call. -/
def Noted (start world : World) (entry : Entry Call Call.Answer Exception Mark) : Prop :=
  match entry with
  | ⟨.getAllSigners, .ok wallets, marks⟩ => marks = [] ∧
    (wallets.map (Wallet.address setting.ethers)).Nodup ∧
    (∀ wallet ∈ wallets, wallet ∈ world.signers) ∧ ∀ wallet ∈ start.signers, wallet ∈ wallets
  | ⟨.getSignerForDID did, .ok found, marks⟩ => marks = [] ∧
    (∀ wallet, found = some wallet →
      wallet ∈ world.signers ∧ Did.keyPairDID setting.ethers wallet = did) ∧
    (found = none → ∀ wallet ∈ start.signers, Did.keyPairDID setting.ethers wallet ≠ did)
  | ⟨.getRoleDefinition _ role, .ok definition, marks⟩ =>
    marks = [] ∧ definition = setting.roles role
  | ⟨.getClaimsBySubject _ did isAccepted, .ok claims, marks⟩ => marks = [] ∧
    (isAccepted = true → claims.Nodup ∧
      (∀ claim ∈ claims, ⟨did, claim⟩ ∈ world.accepted ∧ setting.Identified ⟨did, claim⟩) ∧
      ∀ claim, ⟨did, claim⟩ ∈ start.accepted → claim ∈ claims)
  | ⟨.getDidDocument _ did _, .ok document, marks⟩ => marks = [] ∧
    (∀ entry ∈ (start.documents did).service, entry ∈ document.service) ∧
    ∀ entry ∈ document.service, entry ∈ (world.documents did).service
  | ⟨.createClaimRequest key claim types, .ok _, marks⟩ => marks = [.requested ⟨key, claim, types⟩]
  | ⟨.createClaimRequest key claim types, .error _, marks⟩ =>
    marks = [] ∨ marks = [.requested ⟨key, claim, types⟩]
  | ⟨.publishPublicClaim key token, .ok _, marks⟩ => ∃ endpoint,
    marks = [.published key token endpoint] ∧
    ⟨setting.entryId token, endpoint⟩ ∈
      (world.documents (Did.sweepDID setting.ethers ⟨key⟩)).service
  | ⟨.publishPublicClaim key token, .error _, marks⟩ =>
    marks = [] ∨ ∃ endpoint, marks = [.published key token endpoint]
  | ⟨_, _, marks⟩ => marks = []

variable {setting} {start world next : World}

/-- Creating the library's clients leaves nothing. -/
theorem create_leaves (factory : IamClientLibFactory) (key : String) :
    (factory.create key).Leaves (Noted setting start world) (fun marks ended =>
      marks = [] ∧ ∀ clients, ended = some (.ok clients) → clients = ⟨key⟩) := by
  refine ⟨⟨rfl, fun _ same => by cases same⟩, ?_, fun error marks quiet =>
    ⟨quiet, fun _ same => by cases same⟩⟩
  rintro _ _ rfl
  refine ⟨⟨rfl, fun _ same => by cases same⟩, ?_, fun error marks quiet =>
    ⟨quiet, fun _ same => by cases same⟩⟩
  rintro _ _ rfl
  refine ⟨⟨rfl, fun _ same => by cases same⟩, ?_, fun error marks quiet =>
    ⟨quiet, fun _ same => by cases same⟩⟩
  rintro _ _ rfl
  exact ⟨rfl, fun _ same => by cases same; rfl⟩

/-- What begins with the creation of clients leaves what follows leaves, if nothing left and
not resolved is admitted. -/
theorem create_then {α : Type} (factory : IamClientLibFactory) (key : String)
    {next : IamClients → Awaiting α} {post : List Mark → Option (Except Exception α) → Prop}
    (pending : ∀ ended, (∀ value, ended ≠ some (.ok value)) → post [] ended)
    (leaves : (next ⟨key⟩).Leaves (Noted setting start world) post) :
    (factory.create key >>= next).Leaves (Noted setting start world) post := by
  apply Program.Leaves.bind
  refine (create_leaves factory key).weaken ?_
  rintro marks ended ⟨rfl, own⟩
  rcases ended with _ | error | clients
  · exact pending none (fun _ same => by cases same)
  · exact pending _ (fun _ same => by cases same)
  · obtain rfl := own clients rfl
    exact leaves

/-- The work of an asset for a message leaves its one mark, if it resolves. -/
theorem serve_leaves (client : PrequalificationClient) (subject : Subject) (asset : Asset)
    (token : Option Json) :
    (Listener.serve client subject asset token).Leaves (Noted setting start world)
      (fun marks ended => (marks = [] ∧ ended ≠ some (.ok ())) ∨
        ∃ mark, marks = [mark] ∧ Served setting client subject token asset.wallet mark) := by
  have pending (ended : Option (Except Exception Unit)) (unresolved : ∀ value,
      ended ≠ some (.ok value)) : ([] : List Mark) = [] ∧ ended ≠ some (.ok ()) :=
    ⟨rfl, unresolved ()⟩
  cases subject with
  | prequalificationExchange =>
    refine create_then asset.iamClientLibFactory asset.wallet.privateKey
      (fun ended unresolved => Or.inl (pending ended unresolved)) ?_
    refine ⟨Or.inl (pending _ (fun _ same => by cases same)), ?_, fun error marks quiet =>
      Or.inl ⟨quiet, fun same => by cases same⟩⟩
    rintro found _ ⟨rfl, known⟩
    cases found with
    | none => exact Or.inl (pending _ (fun _ same => by cases same))
    | some definition =>
      refine ⟨Or.inl (pending _ (fun _ same => by cases same)), ?_, ?_⟩
      · rintro _ _ rfl
        exact Or.inr ⟨_, rfl, definition, known.symm, rfl⟩
      · rintro error marks (rfl | rfl)
        · exact Or.inl (pending _ (fun _ same => by cases same))
        · exact Or.inr ⟨_, rfl, definition, known.symm, rfl⟩
  | claimExchange =>
    have published : (asset.publishPublicClaim token).Leaves (Noted setting start world)
        (fun marks ended => (marks = [] ∧ ∀ value, ended ≠ some (.ok value)) ∨
          ∃ endpoint, marks = [.published asset.wallet.privateKey token endpoint]) := by
      refine create_then asset.iamClientLibFactory asset.wallet.privateKey
        (fun ended unresolved => Or.inl ⟨rfl, unresolved⟩) ?_
      refine ⟨Or.inl ⟨rfl, fun _ same => by cases same⟩, ?_, ?_⟩
      · rintro url marks ⟨endpoint, rfl, _⟩
        exact Or.inr ⟨endpoint, rfl⟩
      · rintro error marks (rfl | ⟨endpoint, rfl⟩)
        · exact Or.inl ⟨rfl, fun _ same => by cases same⟩
        · exact Or.inr ⟨endpoint, rfl⟩
    apply Program.Leaves.bind
    refine published.weaken ?_
    rintro marks ended (⟨rfl, unresolved⟩ | ⟨endpoint, rfl⟩)
    · rcases ended with _ | error | url
      · exact Or.inl (pending _ (fun _ same => by cases same))
      · exact Or.inl (pending _ (fun _ same => by cases same))
      · exact absurd rfl (unresolved url)
    · rcases ended with _ | error | url
      · exact Or.inr ⟨_, rfl, endpoint, rfl⟩
      · exact Or.inr ⟨_, rfl, endpoint, rfl⟩
      · exact Or.inr ⟨_, rfl, endpoint, rfl⟩

/-- A wallet whose DID is made from a text is at the address in the text's fourth segment. -/
theorem segment_of_spelled {ethers : Ethers} {wallet : Wallet} {text : String}
    (spelled : Did.keyPairDID ethers wallet = Did.assetDID text) :
    (splitText text ':')[3]? = some (wallet.address ethers) := by
  have segment : wallet.address ethers = Did.fourthSegment text :=
    (Did.keyPairDID_eq_iff ethers wallet _).mp spelled
  cases located : (splitText text ':')[3]? with
  | some fourth =>
    rw [segment, Did.fourthSegment, element, located]
    rfl
  | none =>
    rw [Did.fourthSegment, element, located] at segment
    exact absurd segment (ethers.checksum_not_undefined _)

/-- A handler leaves what it may. -/
theorem handle_leaves (client : PrequalificationClient) (message : Message) :
    (client.handle message).Leaves (Noted setting start world)
      (Handled setting start world client message) := by
  have pending {ended : Option (Except Exception Unit)} (unresolved : ended ≠ some (.ok ())) :
      Handled setting start world client message [] ended :=
    Or.inl ⟨rfl, fun resolved => absurd resolved unresolved⟩
  rw [Listener.handle_eq]
  cases read : Listener.decode message with
  | error error => exact pending (fun same => by cases same)
  | ok content =>
    cases content with
    | none => exact Or.inl ⟨rfl, fun _ => Or.inl read⟩
    | some decoded =>
      have named := Listener.decode_names read
      refine ⟨pending (fun same => by cases same), ?_, ?_⟩
      · rintro found _ ⟨rfl, stored, absent⟩
        cases found with
        | none =>
          refine Or.inl ⟨rfl, fun _ => Or.inr fun wallet member same => ?_⟩
          refine absent rfl wallet member ((Did.keyPairDID_eq_iff _ _ _).mpr ?_)
          rw [named] at same
          rw [Did.fourthSegment, element, same]
          rfl
        | some wallet =>
          obtain ⟨known, spelled⟩ := stored wallet rfl
          have address := named.trans (segment_of_spelled spelled)
          refine (serve_leaves client message.subject _ decoded.issuedToken).weaken ?_
          rintro marks ended (⟨rfl, unresolved⟩ | ⟨mark, rfl, does⟩)
          · exact pending unresolved
          · exact Or.inr ⟨decoded, wallet, mark, read, known, address, rfl, does⟩
      · rintro error _ rfl
        exact pending (fun same => by cases same)

/-- What one iteration of the publishing loop leaves: a publication of a missing claim, which
is in the document if the iteration returns; or nothing, and it returns only for a claim that
is not missing. -/
def Attempted (setting : Setting) (world : World) (wallet : Wallet) (document : DidDocument)
    (claim : IssuedClaim) (marks : List Mark) (ended : Option (Except Exception PUnit)) : Prop :=
  (marks = [] ∧ (ended = some (.ok ⟨⟩) → Asset.missing document claim = false)) ∨
  ∃ endpoint, marks = [.published wallet.privateKey (Asset.claimToken claim) endpoint] ∧
    Asset.missing document claim = true ∧
    (ended = some (.ok ⟨⟩) → ⟨setting.entryId (Asset.claimToken claim), endpoint⟩ ∈
      (world.documents (Did.sweepDID setting.ethers wallet)).service)

theorem publishMissing_leaves (wallet : Wallet) (document : DidDocument) (claim : IssuedClaim) :
    (Asset.publishMissing ⟨wallet.privateKey⟩ document claim).Leaves (Noted setting start world)
      (Attempted setting world wallet document claim) := by
  unfold Asset.publishMissing
  by_cases missing : Asset.missing document claim = true
  · rw [if_pos missing]
    refine ⟨Or.inl ⟨rfl, fun same => by cases same⟩, ?_, ?_⟩
    · rintro url _ ⟨endpoint, rfl, held⟩
      exact Or.inr ⟨endpoint, rfl, missing, fun _ => held⟩
    · rintro error _ (rfl | ⟨endpoint, rfl⟩)
      · exact Or.inl ⟨rfl, fun same => by cases same⟩
      · exact Or.inr ⟨endpoint, rfl, missing, fun same => by cases same⟩
  · rw [if_neg missing]
    exact Or.inl ⟨rfl, fun _ => Bool.eq_false_iff.mpr missing⟩

/-- What the publishing loop leaves: publications of some of the claims, in their order, all
of them missing; and if it returns, every claim was in the document that was read or is in
the document now. The induction is on the claims. -/
theorem publishing_leaves {wallet : Wallet} {document : DidDocument} {claims : List IssuedClaim}
    {marks : List Mark} {ended : Option (Except Exception PUnit)}
    (looped : Program.Looped (Attempted setting world wallet document) claims marks ended) :
    ∃ done : List IssuedClaim, done.Sublist claims ∧
      List.Forall₂ (fun claim mark => Asset.missing document claim = true ∧ ∃ endpoint,
        mark = .published wallet.privateKey (Asset.claimToken claim) endpoint) done marks ∧
      (ended = some (.ok ⟨⟩) → ∀ claim ∈ claims, Asset.missing document claim = false ∨
        ∃ endpoint, ⟨setting.entryId (Asset.claimToken claim), endpoint⟩ ∈
          (world.documents (Did.sweepDID setting.ethers wallet)).service) := by
  induction claims generalizing marks with
  | nil =>
    obtain ⟨rfl, _⟩ := looped
    exact ⟨[], .slnil, .nil, fun _ _ member => absurd member List.not_mem_nil⟩
  | cons claim claims inductionHypothesis =>
    rcases looped with ⟨only, unresolved⟩ | ⟨first, more, rfl, attempted, rest⟩
    · rcases only with ⟨rfl, _⟩ | ⟨endpoint, rfl, missing, _⟩
      · exact ⟨[], List.nil_sublist _, .nil, fun resolved => absurd resolved unresolved⟩
      · exact ⟨[claim], List.singleton_sublist.mpr List.mem_cons_self,
          .cons ⟨missing, endpoint, rfl⟩ .nil, fun resolved => absurd resolved unresolved⟩
    · obtain ⟨done, among, published, complete⟩ := inductionHypothesis rest
      rcases attempted with ⟨rfl, present⟩ | ⟨endpoint, rfl, missing, held⟩
      · refine ⟨done, among.cons _, published, fun resolved other member => ?_⟩
        rcases List.mem_cons.mp member with rfl | later
        · exact Or.inl (present rfl)
        · exact complete resolved other later
      · refine ⟨claim :: done, among.cons_cons _, .cons ⟨missing, endpoint, rfl⟩ published,
          fun resolved other member => ?_⟩
        rcases List.mem_cons.mp member with rfl | later
        · exact Or.inr ⟨endpoint, held rfl⟩
        · exact complete resolved other later

/-- What the check of one asset leaves. -/
def Checked (setting : Setting) (start world : World) (wallet : Wallet) (marks : List Mark)
    (ended : Option (Except Exception PUnit)) : Prop :=
  ∃ issues : List Issue, issues.Nodup ∧
    (∀ issue ∈ issues, issue.subject = Did.sweepDID setting.ethers wallet) ∧
    List.Forall₂ (Due setting start world) issues marks ∧
    (ended = some (.ok ⟨⟩) → ∀ issue ∈ start.accepted,
      issue.subject = Did.sweepDID setting.ethers wallet →
        world.documents.holds issue.subject issue.id = true)

/-- An entry of a document holds its id. -/
theorem holds_of_entry {documents : Documents} {did : String} {entry : ServiceEntry}
    (member : entry ∈ (documents did).service) : documents.holds did entry.id = true :=
  List.any_eq_true.mpr ⟨entry, member, decide_eq_true rfl⟩

/-- The check of an asset leaves what it may: the claims come from the cache server, and what
is missing from the document that was read was not in the document at the start. -/
theorem checkWallet_leaves (client : PrequalificationClient) {wallet : Wallet}
    (known : wallet ∈ world.signers) :
    (client.checkWallet setting.ethers wallet).Leaves (Noted setting start world)
      (Checked setting start world wallet) := by
  have pending {ended : Option (Except Exception PUnit)} (unresolved : ∀ value,
      ended ≠ some (.ok value)) : Checked setting start world wallet [] ended :=
    ⟨[], .nil, fun _ member => absurd member List.not_mem_nil, .nil,
      fun resolved => absurd resolved (unresolved ⟨⟩)⟩
  refine create_then client.iamClientLibFactory wallet.privateKey (fun _ => pending) ?_
  refine ⟨pending (fun _ same => by cases same), ?_, ?_⟩
  swap
  · rintro error _ rfl
    exact pending (fun _ same => by cases same)
  rintro claims _ ⟨rfl, listed⟩
  obtain ⟨distinct, accepted, complete⟩ := listed rfl
  refine ⟨pending (fun _ same => by cases same), ?_, ?_⟩
  swap
  · rintro error _ rfl
    exact pending (fun _ same => by cases same)
  rintro document _ ⟨rfl, contains, current⟩
  refine (Program.Leaves.forM claims _
    (fun claim _ => publishMissing_leaves wallet document claim)).weaken ?_
  intro marks ended looped
  obtain ⟨done, among, published, finished⟩ := publishing_leaves looped
  refine ⟨done.map (Issue.mk (Did.sweepDID setting.ethers wallet)), ?_, ?_, ?_, ?_⟩
  · refine List.Nodup.map (fun _ _ same => ?_) (among.nodup distinct)
    exact congrArg Issue.claim same
  · intro issue member
    obtain ⟨claim, _, rfl⟩ := List.mem_map.mp member
    rfl
  · refine List.forall₂_map_left_iff.mpr ?_
    refine ((List.forall₂_and_left _ _).mpr
      ⟨fun claim member => among.subset member, published⟩).imp ?_
    rintro claim mark ⟨member, missing, endpoint, rfl⟩
    refine ⟨⟨wallet, endpoint, known, rfl, rfl⟩, (accepted claim member).1, ?_⟩
    refine Bool.eq_false_iff.mpr fun held => ?_
    obtain ⟨entry, present, same⟩ := List.any_eq_true.mp held
    exact (Asset.missing_iff _ _).mp missing entry (contains entry present)
      (of_decide_eq_true same)
  · rintro resolved ⟨did, claim⟩ member rfl
    have listed : claim ∈ claims := complete claim member
    rcases finished resolved claim listed with present | ⟨endpoint, entered⟩
    · have found : ¬ ∀ entry ∈ document.service, entry.id ≠ claim.id := fun none =>
        absurd ((Asset.missing_iff _ _).mpr none) (Bool.eq_false_iff.mp present)
      simp only [not_forall, Decidable.not_not] at found
      obtain ⟨entry, inside, same⟩ := found
      have held := holds_of_entry (current entry inside)
      rw [same] at held
      exact held
    · have identified : setting.entryId (Asset.claimToken claim) = claim.id :=
        (accepted claim listed).2
      rw [identified] at entered
      exact holds_of_entry entered

/-- What the loop over the assets leaves. The wallets have different addresses, so that the
claims published for one of them are not those published for another. The induction is on
the wallets. -/
theorem sweeping_leaves {wallets : List Wallet} {marks : List Mark}
    {ended : Option (Except Exception PUnit)}
    (separate : (wallets.map (Wallet.address setting.ethers)).Nodup)
    (looped : Program.Looped (Checked setting start world) wallets marks ended) :
    ∃ issues : List Issue, issues.Nodup ∧
      (∀ issue ∈ issues, ∃ wallet ∈ wallets,
        issue.subject = Did.sweepDID setting.ethers wallet) ∧
      List.Forall₂ (Due setting start world) issues marks ∧
      (ended = some (.ok ⟨⟩) → ∀ wallet ∈ wallets, ∀ issue ∈ start.accepted,
        issue.subject = Did.sweepDID setting.ethers wallet →
          world.documents.holds issue.subject issue.id = true) := by
  induction wallets generalizing marks with
  | nil =>
    obtain ⟨rfl, _⟩ := looped
    exact ⟨[], .nil, fun _ member => absurd member List.not_mem_nil, .nil,
      fun _ _ member => absurd member List.not_mem_nil⟩
  | cons wallet wallets inductionHypothesis =>
    obtain ⟨alone, others⟩ := List.nodup_cons.mp separate
    rcases looped with ⟨⟨issues, distinct, own, due, _⟩, unresolved⟩ |
      ⟨first, more, rfl, ⟨issues, distinct, own, due, complete⟩, rest⟩
    · exact ⟨issues, distinct, fun issue member => ⟨wallet, List.mem_cons_self, own issue member⟩,
        due, fun resolved => absurd resolved unresolved⟩
    · obtain ⟨later, further, owned, published, finished⟩ := inductionHypothesis others rest
      refine ⟨issues ++ later, List.nodup_append.mpr ⟨distinct, further, ?_⟩, ?_,
        List.rel_append due published, ?_⟩
      · rintro issue early _ late rfl
        obtain ⟨other, among, same⟩ := owned issue late
        refine alone (List.mem_map.mpr ⟨other, among, ?_⟩)
        exact (String.append_right_inj _).mp (same.symm.trans (own issue early))
      · intro issue member
        rcases List.mem_append.mp member with early | late
        · exact ⟨wallet, List.mem_cons_self, own issue early⟩
        · obtain ⟨other, among, same⟩ := owned issue late
          exact ⟨other, List.mem_cons_of_mem _ among, same⟩
      · intro resolved other member issue accepted subject
        rcases List.mem_cons.mp member with rfl | among
        · exact complete rfl issue accepted subject
        · exact finished resolved other among issue accepted subject

/-- A sweep leaves what it may. -/
theorem init_leaves (client : PrequalificationClient) :
    (client.init setting.ethers).Leaves (Noted setting start world)
      (Swept setting start world) := by
  have pending {ended : Option (Except Exception Unit)} (unresolved : ended ≠ some (.ok ())) :
      Swept setting start world [] ended :=
    ⟨[], .nil, .nil, fun resolved => absurd resolved unresolved⟩
  refine ⟨pending (fun same => by cases same), ?_, ?_⟩
  · rintro wallets _ ⟨rfl, separate, known, complete⟩
    refine (Program.Leaves.forM wallets _
      (fun wallet member => checkWallet_leaves client (known wallet member))).weaken ?_
    intro marks ended looped
    obtain ⟨issues, distinct, _, due, finished⟩ := sweeping_leaves separate looped
    exact ⟨issues, distinct, due, fun resolved wallet stored =>
      finished resolved wallet (complete wallet stored)⟩
  · rintro error _ rfl
    exact pending (fun same => by cases same)

/-- Every program leaves what it may. -/
theorem perform_leaves (request : Request) :
    (request.perform setting).Leaves (Noted setting start world)
      (Traced setting start world request) := by
  cases request with
  | init client => exact init_leaves client
  | message client message => exact handle_leaves client message

/-- Keys and claims stay, and documents are only extended. -/
structure Grown (world next : World) : Prop where
  signers : ∀ wallet ∈ world.signers, wallet ∈ next.signers
  accepted : ∀ issue ∈ world.accepted, issue ∈ next.accepted
  documents : Documents.Extends world.documents next.documents

theorem Grown.refl (world : World) : Grown world world :=
  ⟨fun _ => id, fun _ => id, Documents.Extends.refl _⟩

theorem Grown.trans {last : World} (early : Grown world next) (late : Grown next last) :
    Grown world last where
  signers := fun wallet stored => late.signers wallet (early.signers wallet stored)
  accepted := fun issue known => late.accepted issue (early.accepted issue known)
  documents := early.documents.trans late.documents

/-- An entry of a document stays in it. -/
theorem Grown.entry (grown : Grown world next) {did : String} {entry : ServiceEntry}
    (member : entry ∈ (world.documents did).service) :
    entry ∈ (next.documents did).service := by
  obtain ⟨added, same⟩ := grown.documents did
  rw [same]
  exact List.mem_append_left _ member

/-- What a call can do to the world: nothing, or one effect with its mark. -/
inductive Effect (setting : Setting) (world : World) : World → List Mark → Prop where
  | none : Effect setting world world []
  | sent (request : ClaimRequest) :
      Effect setting world (world.send request) [.requested request]
  | published (key : String) (token : Option Json) (endpoint : String) :
      Effect setting world (setting.publish world key token endpoint)
        [.published key token endpoint]

theorem Effect.grown {marks : List Mark} (effect : Effect setting world next marks) :
    Grown world next := by
  cases effect with
  | none => exact Grown.refl world
  | sent request => exact ⟨fun _ => id, fun _ => id, Documents.Extends.refl _⟩
  | published key token endpoint =>
    exact ⟨fun _ => id, fun _ => id, Documents.append_extends _ _ _⟩

/-- What was noted stays noted. -/
theorem noted_grown (grown : Grown world next)
    {entry : Entry Call Call.Answer Exception Mark} (holds : Noted setting start world entry) :
    Noted setting start next entry := by
  obtain ⟨call, outcome, marks⟩ := entry
  cases outcome with
  | error error => cases call <;> exact holds
  | ok answer =>
    cases call with
    | getAllSigners =>
      obtain ⟨quiet, separate, known, complete⟩ := holds
      exact ⟨quiet, separate, fun wallet member => grown.signers wallet (known wallet member),
        complete⟩
    | getSignerForDID did =>
      obtain ⟨quiet, stored, absent⟩ := holds
      exact ⟨quiet, fun wallet found => (stored wallet found).imp_left (grown.signers wallet),
        absent⟩
    | getClaimsBySubject key did isAccepted =>
      refine ⟨holds.1, fun asked => ?_⟩
      obtain ⟨distinct, accepted, complete⟩ := holds.2 asked
      exact ⟨distinct, fun claim member => (accepted claim member).imp_left (grown.accepted _),
        complete⟩
    | getDidDocument key did includeClaims =>
      obtain ⟨quiet, contains, current⟩ := holds
      exact ⟨quiet, contains, fun entry member => grown.entry (current entry member)⟩
    | publishPublicClaim key token =>
      obtain ⟨endpoint, left, held⟩ := holds
      exact ⟨endpoint, left, grown.entry held⟩
    | _ => exact holds

/-- Every call has an effect, and is noted with the marks that this leaves. -/
theorem served_effect {call : Call} {outcome : Except Exception call.Answer}
    (step : served setting world call outcome next) :
    ∃ marks, Effect setting world next marks ∧ ∀ start, Sound setting world → Grown start world →
      Noted setting start next ⟨call, outcome, marks⟩ := by
  cases outcome with
  | error error =>
    cases call with
    | createClaimRequest key claim types =>
      rcases step with rfl | ⟨_, _, _, rfl⟩
      · exact ⟨[], .none, fun _ _ _ => Or.inl rfl⟩
      · exact ⟨_, .sent _, fun _ _ _ => Or.inr rfl⟩
    | publishPublicClaim key token =>
      rcases step with rfl | ⟨_, _, ⟨_, endpoint, rfl, rfl⟩, rfl⟩
      · exact ⟨[], .none, fun _ _ _ => Or.inl rfl⟩
      · exact ⟨_, .published key token endpoint, fun _ _ _ => Or.inr ⟨endpoint, rfl⟩⟩
    | _ =>
      obtain rfl : next = world := by
        rcases step with same | ⟨_, _, ⟨_, rfl⟩, same⟩ <;> exact same
      exact ⟨[], .none, fun _ _ _ => rfl⟩
  | ok answer =>
    cases call with
    | getAllSigners =>
      obtain ⟨_, ⟨rfl, rfl⟩, rfl⟩ := step
      exact ⟨[], .none, fun _ sound grown => ⟨rfl, sound.separate, fun _ => id, grown.signers⟩⟩
    | getSignerForDID did =>
      obtain ⟨_, ⟨rfl, rfl⟩, rfl⟩ := step
      refine ⟨[], .none, fun start sound grown =>
        ⟨rfl, fun wallet found => sound.agree.getSignerForDID _ found, ?_⟩⟩
      rintro absent wallet stored rfl
      obtain ⟨other, found, _⟩ := sound.agree.finds _ (grown.signers wallet stored)
      rw [absent] at found
      cases found
    | getRoleDefinition key role =>
      obtain ⟨_, ⟨rfl, rfl⟩, rfl⟩ := step
      exact ⟨[], .none, fun _ _ _ => ⟨rfl, rfl⟩⟩
    | getClaimsBySubject key did isAccepted =>
      obtain ⟨_, ⟨listed, rfl⟩, rfl⟩ := step
      refine ⟨[], .none, fun start sound grown => ⟨rfl, fun asked => ⟨?_, ?_, ?_⟩⟩⟩
      · exact (listed asked).nodup_iff.mpr (claimsOf_nodup sound.distinct did)
      · intro claim member
        have known := mem_claimsOf.mp ((listed asked).mem_iff.mp member)
        exact ⟨known, sound.identified _ known⟩
      · intro claim known
        exact (listed asked).mem_iff.mpr (mem_claimsOf.mpr (grown.accepted _ known))
    | getDidDocument key did includeClaims =>
      obtain ⟨_, ⟨rfl, rfl⟩, rfl⟩ := step
      exact ⟨[], .none, fun _ _ grown => ⟨rfl, fun entry member => grown.entry member, fun _ => id⟩⟩
    | createClaimRequest key claim types =>
      obtain ⟨_, _, rfl⟩ := step
      exact ⟨_, .sent _, fun _ _ _ => rfl⟩
    | publishPublicClaim key token =>
      obtain ⟨_, ⟨_, endpoint, rfl, rfl⟩, rfl⟩ := step
      refine ⟨_, .published key token endpoint, fun _ _ _ => ⟨endpoint, rfl, ?_⟩⟩
      show _ ∈ ((setting.publish world key token endpoint).documents _).service
      simp only [Setting.publish, Documents.append, if_true, List.mem_append, List.mem_singleton,
        or_true]
    | _ =>
      obtain ⟨_, ⟨_, rfl⟩, same⟩ := step
      obtain rfl : next = world := same
      exact ⟨[], .none, fun _ _ _ => rfl⟩

/-- The world is that of the start with what others did and the marks of the programs. -/
structure Accounted (setting : Setting) (start world : World) (marks : List Mark) : Prop where
  sound : Sound setting world
  grown : Grown start world
  documents : ∀ did, ∃ added, world.foreign did = start.foreign did ++ added ∧
    (world.documents did).service.Perm
      ((start.documents did).service ++ added ++ marks.filterMap (setting.entryOf did))
  requests : world.requests.Perm (start.requests ++ marks.filterMap Mark.request)

theorem Accounted.initial (sound : Sound setting start) : Accounted setting start start [] where
  sound := sound
  grown := Grown.refl _
  documents := fun did => ⟨[], (List.append_nil _).symm, by
    simp only [List.filterMap_nil, List.append_nil, List.Perm.refl]⟩
  requests := by rw [List.filterMap_nil, List.append_nil]

theorem Accounted.shuffle {marks other : List Mark}
    (accounted : Accounted setting start world marks) (shuffled : marks.Perm other) :
    Accounted setting start world other :=
  { accounted with
    documents := fun did => by
      obtain ⟨added, same, entries⟩ := accounted.documents did
      exact ⟨added, same, entries.trans
        ((shuffled.filterMap (setting.entryOf did)).append_left _)⟩
    requests := accounted.requests.trans ((shuffled.filterMap Mark.request).append_left _) }

/-- An effect is accounted for by its mark. -/
theorem Accounted.effect {marks left : List Mark} (accounted : Accounted setting start world marks)
    (effect : Effect setting world next left) : Accounted setting start next (marks ++ left) := by
  have grown := accounted.grown.trans effect.grown
  cases effect with
  | none => exact (List.append_nil marks).symm ▸ accounted
  | sent request =>
    refine ⟨⟨accounted.sound.agree, accounted.sound.separate, accounted.sound.distinct,
      accounted.sound.identified⟩, grown, fun did => ?_, ?_⟩
    · rw [List.filterMap_append]
      exact (List.append_nil (marks.filterMap (setting.entryOf did))).symm ▸
        accounted.documents did
    · rw [List.filterMap_append, ← List.append_assoc]
      exact accounted.requests.append_right [request]
  | published key token endpoint =>
    refine ⟨⟨accounted.sound.agree, accounted.sound.separate, accounted.sound.distinct,
      accounted.sound.identified⟩, grown, fun did => ?_, ?_⟩
    · obtain ⟨added, same, entries⟩ := accounted.documents did
      refine ⟨added, same, ?_⟩
      rw [List.filterMap_append, ← List.append_assoc]
      by_cases own : did = Did.sweepDID setting.ethers ⟨key⟩
      · have new : [Mark.published key token endpoint].filterMap (setting.entryOf did) =
            [⟨setting.entryId token, endpoint⟩] := by
          simp only [List.filterMap_cons, Setting.entryOf, if_pos own, List.filterMap_nil]
        simp only [Setting.publish, Documents.append, if_pos own, new]
        exact own ▸ entries.append_right _
      · have new : [Mark.published key token endpoint].filterMap (setting.entryOf did) = [] := by
          simp only [List.filterMap_cons, Setting.entryOf, if_neg own, List.filterMap_nil]
        simp only [Setting.publish, Documents.append, if_neg own, new, List.append_nil]
        exact entries
    · rw [List.filterMap_append]
      exact (List.append_nil (marks.filterMap Mark.request)).symm ▸ accounted.requests

/-- A new key is added behind the stored ones. -/
theorem generated_signers (world : World) (wallet : Wallet) :
    KeyManager.getAllSigners (KeyManager.generateKeyPair setting.ethers wallet world.table).2 =
      world.signers ++ [wallet] := by
  simp only [KeyManager.getAllSigners, KeyManager.getAllKeyPairs, KeyManager.generateKeyPair,
    KeyManager.setKeyPair, World.signers, List.map_append, List.map_cons, List.map_nil]

/-- What happens without a call only lets the world grow. -/
theorem Moves.grown (move : Moves setting world next) : Grown world next := by
  cases move with
  | generated wallet fresh =>
    refine ⟨fun other stored => ?_, fun _ => id, Documents.Extends.refl _⟩
    rw [World.signers, generated_signers]
    exact List.mem_append_left _ stored
  | accepted issue identified fresh =>
    exact ⟨fun _ => id, fun _ known => List.mem_append_left _ known, Documents.Extends.refl _⟩
  | extended did entry => exact ⟨fun _ => id, fun _ => id, Documents.append_extends _ _ _⟩

/-- What happens without a call keeps the world sound. -/
theorem Moves.sound (move : Moves setting world next) (sound : Sound setting world) :
    Sound setting next := by
  cases move with
  | generated wallet fresh =>
    refine ⟨?_, ?_, sound.distinct, sound.identified⟩
    · intro row member
      rcases List.mem_append.mp member with earlier | last
      · exact sound.agree row earlier
      · obtain rfl := List.mem_singleton.mp last
        rfl
    · rw [World.signers, generated_signers, List.map_append]
      refine List.nodup_append.mpr ⟨sound.separate, List.nodup_singleton _, ?_⟩
      rintro address earlier last new rfl
      obtain ⟨other, stored, same⟩ := List.mem_map.mp earlier
      exact fresh other stored (same.trans (List.mem_singleton.mp new))
  | accepted issue identified fresh =>
    refine ⟨sound.agree, sound.separate, ?_, ?_⟩
    · refine List.nodup_append.mpr ⟨sound.distinct, List.nodup_singleton _, ?_⟩
      rintro other earlier last new rfl
      exact fresh (List.mem_singleton.mp new ▸ earlier)
    · intro other member
      rcases List.mem_append.mp member with earlier | last
      · exact sound.identified other earlier
      · exact List.mem_singleton.mp last ▸ identified
  | extended did entry =>
    exact ⟨sound.agree, sound.separate, sound.distinct, sound.identified⟩

/-- What happens without a call is not the programs' doing. -/
theorem Accounted.move {marks : List Mark} (accounted : Accounted setting start world marks)
    (move : Moves setting world next) : Accounted setting start next marks := by
  refine ⟨move.sound accounted.sound, accounted.grown.trans move.grown, ?_, ?_⟩
  · intro did
    cases move with
    | generated wallet fresh => exact accounted.documents did
    | accepted issue identified fresh => exact accounted.documents did
    | extended other entry =>
      obtain ⟨added, same, entries⟩ := accounted.documents did
      by_cases own : did = other
      · subst own
        refine ⟨added ++ [entry], ?_, ?_⟩
        · simp only [if_true, same, List.append_assoc]
        · simp only [Documents.append, if_true]
          refine (entries.append_right [entry]).trans ?_
          simp only [List.append_assoc]
          exact List.Perm.append_left _ (List.Perm.append_left _ List.perm_append_comm)
      · refine ⟨added, ?_, ?_⟩
        · simp only [if_neg own, same]
        · simp only [Documents.append, if_neg own]
          exact entries
  · cases move <;> exact accounted.requests

/-- The service is kept account of program by program. -/
theorem tallied (setting : Setting) (start : World) :
    Tallied (fun _ : Request => served setting) (Moves setting)
      (fun world _ => Noted setting start world) (Accounted setting start) where
  shuffled := fun _ _ _ shuffled accounted => accounted.shuffle shuffled
  served := fun _ _ _ _ _ _ accounted step => by
    obtain ⟨left, effect, noted⟩ := served_effect step
    exact ⟨left, noted start accounted.sound accounted.grown, accounted.effect effect⟩
  kept := fun _ _ _ _ _ step _ _ holds => by
    obtain ⟨left, effect, _⟩ := served_effect step
    exact noted_grown effect.grown holds
  moved := fun _ _ _ move accounted => accounted.move move
  stays := fun _ _ move _ _ holds => noted_grown move.grown holds

/-- From any sound world and any programs in progress, however they interleave and whatever
fails: each program that begins now leaves what it may. A handler leaves one request or
publication, made with the key of the asset that its message names; a sweep leaves the
publications that were due, each of another claim, and no claim behind if it resolves. The
requests sent are those of the programs, and every document is that of the start with what
others added and what the programs published. -/
theorem actions_traced (setting : Setting) (start world : World) (sound : Sound setting start)
    (tasks left : Tasks Call Call.Answer Exception Request Unit)
    (run : Run (fun _ => served setting) (Moves setting) tasks start left world) :
    ∃ courses : List (Course Call Call.Answer Exception Request Mark Unit),
      courses.map Course.begun = tasks ∧ courses.map Course.now = left ∧
      (∀ course ∈ courses, course.program = course.party.perform setting →
        Traced setting start world course.party course.marks course.left.settled) ∧
      world.requests.Perm
        (start.requests ++ (courses.flatMap Course.marks).filterMap Mark.request) ∧
      ∀ did, ∃ added, world.foreign did = start.foreign did ++ added ∧
        (world.documents did).service.Perm ((start.documents did).service ++ added ++
          (courses.flatMap Course.marks).filterMap (setting.entryOf did)) := by
  obtain ⟨courses, begun, now, all, accounted⟩ :=
    run.courses (tallied setting start) (Accounted.initial sound)
  rw [List.nil_append] at accounted
  refine ⟨courses, begun, now, ?_, accounted.requests, accounted.documents⟩
  intro course member fresh
  have leaves : (course.party.perform setting).Leaves (Noted setting start world)
      (Traced setting start world course.party) := perform_leaves course.party
  rw [← fresh] at leaves
  exact leaves.sound course.follows (all course member)

section Sample

/-- Every token leads to an entry with one id. -/
def sampleSetting : Setting := ⟨.sample, fun _ => "claim", fun _ => none⟩

/-- One stored key. -/
def sampleTable : KeyManager.Table := (KeyManager.generateKeyPair .sample ⟨"a"⟩ []).2

def sampleDID : String := Did.sweepDID .sample ⟨"a"⟩

def sampleClaim : IssuedClaim := ⟨"claim", some "token"⟩

/-- One accepted claim, which the document lacks. -/
def claimAccepted : World :=
  ⟨sampleTable, [⟨sampleDID, sampleClaim⟩], fun _ => ⟨[]⟩, fun _ => [], []⟩

/-- The sweep of a process that has just been started. -/
def sampleSweep : Tasks Call Call.Answer Exception Request Unit :=
  [(.init .sample, (Request.init .sample).perform sampleSetting)]

/-- The same world once the claim was published. -/
def claimPublished : World :=
  sampleSetting.publish claimAccepted "a" (Asset.claimToken sampleClaim) "url"

theorem claimAccepted_sound : Sound sampleSetting claimAccepted where
  agree := by
    intro row member
    obtain rfl := List.mem_singleton.mp member
    rfl
  separate := List.nodup_singleton _
  distinct := List.nodup_singleton _
  identified := by
    intro issue member
    obtain rfl := List.mem_singleton.mp member
    rfl

/-- The sweep creates clients, reads the claims and the document, and publishes. -/
theorem sample_init : ∃ (resume : List Wallet → Awaiting Unit)
    (loop : List IssuedClaim → DidDocument → Awaiting Unit),
    PrequalificationClient.sample.init .sample = .await .getAllSigners resume ∧
      resume [⟨"a"⟩] = .await (.initWithPrivateKeySigner "a" "rpc") (fun _ =>
        .await (.connectToCacheServer "a" messagingConfig cacheConfig) (fun _ =>
          .await (.connectToDidRegistry "a") (fun _ =>
            .await (.getClaimsBySubject "a" sampleDID true) (fun claims =>
              .await (.getDidDocument "a" sampleDID true) (fun document =>
                loop claims document))))) ∧
      loop [sampleClaim] ⟨[]⟩ =
        .await (.publishPublicClaim "a" (Asset.claimToken sampleClaim)) (fun _ => .done ()) :=
  ⟨_, _, rfl, rfl, rfl⟩

/-- The sweep of the only process publishes the claim, and nothing else is written. -/
theorem only_claim_published : ∃ left,
    Run (fun _ => served sampleSetting) (Moves sampleSetting) sampleSweep claimAccepted left
      claimPublished ∧
    ∃ courses : List (Course Call Call.Answer Exception Request Mark Unit),
      courses.map Course.now = left ∧
      (courses.flatMap Course.marks).filterMap (sampleSetting.entryOf sampleDID) =
        [⟨"claim", "url"⟩] := by
  obtain ⟨resume, loop, form, checks, publishes⟩ := sample_init
  obtain ⟨left, run⟩ : ∃ left, Run (fun _ => served sampleSetting) (Moves sampleSetting)
      sampleSweep claimAccepted left claimPublished := by
    refine ⟨?left, ?run⟩
    case run =>
      have goes : (Request.init .sample).perform sampleSetting =
          .await .getAllSigners resume := form
      rw [sampleSweep, goes]
      refine .step (.answered [] [] _ _ _ [⟨"a"⟩] _ claimAccepted
        ⟨none, by exact ⟨rfl, rfl⟩, rfl⟩) ?_
      rw [checks]
      refine .step (.answered [] [] _ _ _ () _ claimAccepted ⟨none, ⟨trivial, rfl⟩, rfl⟩) ?_
      refine .step (.answered [] [] _ _ _ () _ claimAccepted ⟨none, ⟨trivial, rfl⟩, rfl⟩) ?_
      refine .step (.answered [] [] _ _ _ () _ claimAccepted ⟨none, ⟨trivial, rfl⟩, rfl⟩) ?_
      refine .step (.answered [] [] _ _ _ [sampleClaim] _ claimAccepted
        ⟨none, by exact ⟨fun _ => .refl _, rfl⟩, rfl⟩) ?_
      refine .step (.answered [] [] _ _ _ ⟨[]⟩ _ claimAccepted
        ⟨none, by exact ⟨rfl, rfl⟩, rfl⟩) ?_
      rw [publishes]
      refine .step (.answered [] [] _ _ _ none _ _
        ⟨_, ⟨"claim", "url", rfl, rfl⟩, rfl⟩) ?_
      exact .done _ _
  obtain ⟨courses, _, now, _, _, entries⟩ := actions_traced sampleSetting claimAccepted
    claimPublished claimAccepted_sound sampleSweep left run
  refine ⟨left, run, courses, now, ?_⟩
  obtain ⟨added, same, exactly⟩ := entries sampleDID
  obtain rfl : added = [] := same.symm
  exact List.perm_singleton.mp exactly.symm

end Sample

end EvDashboard.Actions
