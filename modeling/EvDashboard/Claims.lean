import EvDashboard.Async.Courses
import EvDashboard.Commands
import EvDashboard.Issuance

/-!
# Claims of many callers

Calls that add claims may run at the same time, for one device or for several, of one
operator or of several. The steps of one call fall between those of others, and any of
them may fail.

Still every entry can be traced to its call. A call adds one entry if it resolves and none
if it does not; the entry stands for what this very call requested, issued and saved before;
and nothing else is requested, issued, saved or added. The ids of the entries are all
different, and new.
-/

namespace EvDashboard.Claims

open Async Async.Pool JavaScript
open Issuance (World Unused Extends appendTo served served_extends served_error)

/-- What a call has done: it requested a token, issued one, saved one under the URL that the
store returned, drew an id, or added an entry to a document. -/
inductive Mark where
  | requested (request : Issuance.Request)
  | issued (issue : Issuance.Issue)
  | saved (url issuedToken : String)
  | drawn (id : String)
  | added (did : String) (entry : ServicePoint)

def Mark.request : Mark → Option Issuance.Request
  | requested request => some request
  | _ => none

def Mark.issue : Mark → Option Issuance.Issue
  | issued issue => some issue
  | _ => none

def Mark.url : Mark → Option String
  | saved url _ => some url
  | _ => none

def Mark.id : Mark → Option String
  | drawn id => some id
  | _ => none

/-- The entry, if it was added to the document of the DID. -/
def Mark.entryOf (did : String) : Mark → Option ServicePoint
  | added other entry => if did = other then some entry else none
  | _ => none

/-- A call of the library, or of the command line. -/
inductive Request where
  | addClaim (hydrator : DID) (did : String) (claimData : Json)
  | addClaimCommand (options : Options)

def Request.perform (library : DidLibrary) : Request → Hydrating Unit
  | addClaim hydrator did claimData => hydrator.addClaim library did claimData
  | addClaimCommand options => EvDashboard.addClaimCommand library options

/-- The programs of the calls. -/
def calls (library : DidLibrary) (requests : List Request) :
    Tasks DidCall DidCall.Answer Exception Request Unit :=
  requests.map (fun request => (request, request.perform library))

/-- All that one call for a device does, in this order: it requests a token with the key of
the device, issues it with the operator's, saves the issued token, draws an id and adds the
entry with the token's hash to the device's document. -/
def whole (library : DidLibrary) (hydrator : DID) (did : String) (claimData : Json)
    (signer : Wallet) (token issuedToken url id : String) : List Mark :=
  [.requested ⟨hydrator.documentOf did signer, claimData, token⟩,
    .issued ⟨hydrator.issuingDocument library.ethers, token, issuedToken⟩,
    .saved url issuedToken, .drawn id, .added did ⟨id, url, library.sha256 issuedToken, "SHA256"⟩]

/-- What one call for a device has done. It has not begun; or its own signer is the key of
the device, and it has done all of the above if it has resolved, and otherwise a part from
the front; what it saved is in the store. -/
def Endorsed (library : DidLibrary) (world : World) (hydrator : DID) (did : String)
    (claimData : Json) (marks : List Mark) (ended : Option (Except Exception Unit)) : Prop :=
  (marks = [] ∧ ended ≠ some (.ok ())) ∨
  ∃ signer token issuedToken url id,
    Did.keyPairDID library.ethers signer = did ∧
    marks <+: whole library hydrator did claimData signer token issuedToken url id ∧
    (ended = some (.ok ()) ↔
      marks = whole library hydrator did claimData signer token issuedToken url id) ∧
    (.saved url issuedToken ∈ marks → world.store url = some issuedToken)

/-- What one call leaves. A command acts only if it is given all of its options. -/
def Traced (library : DidLibrary) (world : World) :
    Request → List Mark → Option (Except Exception Unit) → Prop
  | .addClaim hydrator did claimData, marks, ended =>
    Endorsed library world hydrator did claimData marks ended
  | .addClaimCommand options, marks, ended =>
    (marks = [] ∧ ended ≠ some (.ok ())) ∨
      ∃ hydrator device endpoint, options.deviceDID = some device ∧
        options.dataEndpoint = some endpoint ∧
        some (DID.operatorKey hydrator) = options.operatorKey ∧
        Endorsed library world hydrator device (endpointClaim endpoint) marks ended

/-- What is noted of a call. -/
def Noted (table : KeyManager.Table) (world : World)
    (entry : Entry DidCall DidCall.Answer Exception Mark) : Prop :=
  match entry with
  | ⟨.getSignerForDID did, .ok found, marks⟩ =>
    marks = [] ∧ found = KeyManager.getSignerForDID table did
  | ⟨.createPublicClaim document claimData, .ok token, marks⟩ =>
    marks = [.requested ⟨document, claimData, token⟩]
  | ⟨.issuePublicClaim document token, .ok issuedToken, marks⟩ =>
    marks = [.issued ⟨document, token, issuedToken⟩]
  | ⟨.save _ claim, .ok url, marks⟩ =>
    marks = [.saved url claim] ∧ url ∈ world.returned ∧ world.store url = some claim
  | ⟨.uuid, .ok id, marks⟩ => marks = [.drawn id]
  | ⟨.updateServicePoint document value, .ok _, marks⟩ => marks = [.added document.did value]
  | ⟨_, _, marks⟩ => marks = []

variable {library : DidLibrary} {table : KeyManager.Table} {start world next : World}

/-- A call that has not come to the end of its steps has not resolved. -/
theorem Endorsed.pending {hydrator : DID} {did : String} {claimData : Json} {signer : Wallet}
    {token issuedToken url id : String} {marks : List Mark}
    {ended : Option (Except Exception Unit)} (key : Did.keyPairDID library.ethers signer = did)
    (begun : marks <+: whole library hydrator did claimData signer token issuedToken url id)
    (short : marks.length < 5) (unresolved : ended ≠ some (.ok ()))
    (stored : .saved url issuedToken ∈ marks → world.store url = some issuedToken) :
    Endorsed library world hydrator did claimData marks ended := by
  refine Or.inr ⟨signer, token, issuedToken, url, id, key, begun, ?_, stored⟩
  constructor
  · intro resolved
    exact absurd resolved unresolved
  · rintro rfl
    exact absurd short (by decide : ¬ 5 < 5)

/-- A step that fails leaves nothing. -/
theorem awaited {call : DidCall} {resume : call.Answer → Hydrating Unit}
    {post : List Mark → Option (Except Exception Unit) → Prop}
    (waits : ∀ ended, ended ≠ some (.ok ()) → post [] ended)
    (goes : ∀ answer marks, Noted table world ⟨call, .ok answer, marks⟩ →
      (resume answer).Leaves (Noted table world) (fun more ended => post (marks ++ more) ended)) :
    (Program.await call resume).Leaves (Noted table world) post := by
  refine ⟨waits none nofun, goes, ?_⟩
  intro error marks noted
  obtain rfl : marks = [] := by cases call <;> exact noted
  exact waits _ nofun

/-- Wherever one call stops, it has done what it may. -/
theorem addClaim_leaves (agree : KeyManager.RowsAgree library.ethers table) (hydrator : DID)
    (did : String) (claimData : Json) :
    (hydrator.addClaim library did claimData).Leaves (Noted table world)
      (Endorsed library world hydrator did claimData) := by
  unfold DID.addClaim
  cases hydrator.didStore with
  | none => exact Or.inl ⟨rfl, nofun⟩
  | some target =>
    refine awaited (fun ended unresolved => Or.inl ⟨rfl, unresolved⟩) ?_
    rintro found _ ⟨rfl, located⟩
    cases found with
    | none => exact Or.inl ⟨rfl, nofun⟩
    | some signer =>
      have key : Did.keyPairDID library.ethers signer = did :=
        (agree.getSignerForDID library.ethers located.symm).2
      have part (count : Nat) (few : count < 5) (token issuedToken url id : String)
          (held : .saved url issuedToken ∈
              (whole library hydrator did claimData signer token issuedToken url id).take count →
            world.store url = some issuedToken)
          (ended : Option (Except Exception Unit)) (unresolved : ended ≠ some (.ok ())) :
          Endorsed library world hydrator did claimData
            ((whole library hydrator did claimData signer token issuedToken url id).take count)
            ended :=
        .pending key (List.take_prefix count _) ((List.length_take_le count _).trans_lt few)
          unresolved held
      refine awaited (fun ended unresolved => Or.inl ⟨rfl, unresolved⟩) ?_
      rintro token _ rfl
      refine awaited (part 1 (by decide) token "" "" ""
        (fun member => by simp [whole] at member)) ?_
      rintro issuedToken _ rfl
      refine awaited (part 2 (by decide) token issuedToken "" ""
        (fun member => by simp [whole] at member)) ?_
      rintro url _ ⟨rfl, _, held⟩
      refine awaited (part 3 (by decide) token issuedToken url "" (fun _ => held)) ?_
      rintro id _ rfl
      refine awaited (part 4 (by decide) token issuedToken url id (fun _ => held)) ?_
      rintro _ _ rfl
      exact Or.inr ⟨signer, token, issuedToken, url, id, key, List.prefix_refl _,
        iff_of_true rfl rfl, fun _ => held⟩

/-- Every call leaves what it may. -/
theorem perform_leaves (agree : KeyManager.RowsAgree library.ethers table) (request : Request) :
    (request.perform library).Leaves (Noted table world) (Traced library world request) := by
  cases request with
  | addClaim hydrator did claimData => exact addClaim_leaves agree hydrator did claimData
  | addClaimCommand options =>
    rcases Commands.addClaim_cases library options with
      ⟨error, refused⟩ | ⟨hydrator, device, endpoint, deviceIs, endpointIs, operatorIs, goes⟩
    · simp only [Request.perform, refused]
      exact Or.inl ⟨rfl, fun same => by cases same⟩
    · simp only [Request.perform, goes]
      refine (addClaim_leaves agree hydrator device (endpointClaim endpoint)).weaken ?_
      intro marks ended endorsed
      exact Or.inr ⟨hydrator, device, endpoint, deviceIs, endpointIs, operatorIs, endorsed⟩

/-- What is noted stays noted. -/
theorem noted_extends (grown : Extends world next)
    {entry : Entry DidCall DidCall.Answer Exception Mark} (holds : Noted table world entry) :
    Noted table next entry := by
  obtain ⟨call, outcome, marks⟩ := entry
  cases outcome with
  | error error => cases call <;> exact holds
  | ok answer =>
    cases call with
    | save target claim =>
      exact ⟨holds.1, grown.returned.subset holds.2.1,
        (grown.stored _ holds.2.1).trans holds.2.2⟩
    | _ => exact holds

/-- The world is that of the start with the marks of the calls. -/
structure Accounted (start world : World) (marks : List Mark) : Prop where
  documents : ∀ did, (world.documents did).Perm
    (start.documents did ++ marks.filterMap (Mark.entryOf did))
  requested : world.requested.Perm (start.requested ++ marks.filterMap Mark.request)
  issued : world.issued.Perm (start.issued ++ marks.filterMap Mark.issue)
  returned : world.returned.Perm (start.returned ++ marks.filterMap Mark.url)
  used : world.used.Perm (start.used ++ marks.filterMap Mark.id)
  distinct : (marks.filterMap Mark.id).Nodup
  fresh : ∀ id ∈ marks.filterMap Mark.id, Unused start id

theorem Accounted.initial (start : World) : Accounted start start [] where
  documents := fun did => by rw [List.filterMap_nil, List.append_nil]
  requested := by rw [List.filterMap_nil, List.append_nil]
  issued := by rw [List.filterMap_nil, List.append_nil]
  returned := by rw [List.filterMap_nil, List.append_nil]
  used := by rw [List.filterMap_nil, List.append_nil]
  distinct := List.nodup_nil
  fresh := fun id member => by cases member

theorem Accounted.shuffle {marks other : List Mark} (accounted : Accounted start world marks)
    (shuffled : marks.Perm other) : Accounted start world other where
  documents := fun did =>
    (accounted.documents did).trans ((shuffled.filterMap (Mark.entryOf did)).append_left _)
  requested := accounted.requested.trans ((shuffled.filterMap Mark.request).append_left _)
  issued := accounted.issued.trans ((shuffled.filterMap Mark.issue).append_left _)
  returned := accounted.returned.trans ((shuffled.filterMap Mark.url).append_left _)
  used := accounted.used.trans ((shuffled.filterMap Mark.id).append_left _)
  distinct := (shuffled.filterMap Mark.id).nodup_iff.mp accounted.distinct
  fresh := fun id member => accounted.fresh id ((shuffled.filterMap Mark.id).mem_iff.mpr member)

/-- A record that grows by what some marks stand for has grown by them. -/
theorem recorded {α : Type} {before after added : List α} {marks new : List Mark}
    {stands : Mark → Option α} (known : before.Perm (added ++ marks.filterMap stands))
    (grown : after = before ++ new.filterMap stands) :
    after.Perm (added ++ (marks ++ new).filterMap stands) := by
  rw [grown, List.filterMap_append, ← List.append_assoc]
  exact known.append_right _

/-- What a step adds to the world, it leaves as marks; the ids are unused before. -/
theorem Accounted.grow {marks new : List Mark} (accounted : Accounted start world marks)
    (documents : ∀ did, next.documents did =
      world.documents did ++ new.filterMap (Mark.entryOf did))
    (requested : next.requested = world.requested ++ new.filterMap Mark.request)
    (issued : next.issued = world.issued ++ new.filterMap Mark.issue)
    (returned : next.returned = world.returned ++ new.filterMap Mark.url)
    (used : next.used = world.used ++ new.filterMap Mark.id)
    (distinct : (new.filterMap Mark.id).Nodup)
    (unused : ∀ id ∈ new.filterMap Mark.id, Unused world id) :
    Accounted start next (marks ++ new) where
  documents := fun did => recorded (accounted.documents did) (documents did)
  requested := recorded accounted.requested requested
  issued := recorded accounted.issued issued
  returned := recorded accounted.returned returned
  used := recorded accounted.used used
  distinct := by
    rw [List.filterMap_append]
    refine List.nodup_append.mpr ⟨accounted.distinct, distinct, ?_⟩
    rintro id earlier _ among rfl
    exact (unused id among).1
      (accounted.used.mem_iff.mpr (List.mem_append_right _ earlier))
  fresh := by
    intro id member
    rw [List.filterMap_append] at member
    rcases List.mem_append.mp member with old | among
    · exact accounted.fresh id old
    · obtain ⟨unknown, absent⟩ := unused id among
      exact ⟨fun before => unknown (accounted.used.mem_iff.mpr (List.mem_append_left _ before)),
        fun did entry before => absent did entry
          ((accounted.documents did).mem_iff.mpr (List.mem_append_left _ before))⟩

/-- A step that leaves all records as they are leaves no mark. -/
theorem Accounted.quiet {marks : List Mark} (accounted : Accounted start world marks)
    (store : String → Option String) :
    Accounted start { world with store := store } (marks ++ []) :=
  accounted.grow (fun _ => (List.append_nil _).symm) (List.append_nil _).symm
    (List.append_nil _).symm (List.append_nil _).symm (List.append_nil _).symm List.nodup_nil nofun

/-- An entry at the end of one document, as a mark. -/
theorem appendTo_marked (documents : String → List ServicePoint) (did other : String)
    (entry : ServicePoint) : appendTo documents did entry other =
      documents other ++ [Mark.added did entry].filterMap (Mark.entryOf other) := by
  by_cases own : other = did
  · subst own
    simp [appendTo, Mark.entryOf]
  · simp [appendTo, Mark.entryOf, own]

/-- Every step is noted with the marks it leaves. -/
theorem served_accounted {call : DidCall} {outcome : Except Exception call.Answer}
    {marks : List Mark} (accounted : Accounted start world marks)
    (step : served table world call outcome next) :
    ∃ left, Noted table next ⟨call, outcome, left⟩ ∧ Accounted start next (marks ++ left) := by
  cases outcome with
  | error error =>
    obtain ⟨store, _, rfl⟩ := served_error step
    exact ⟨[], by cases call <;> rfl, accounted.quiet store⟩
  | ok answer =>
    obtain ⟨store, stored, effect⟩ := step
    cases call with
    | getSignerForDID did =>
      obtain ⟨found, rfl⟩ := effect
      exact ⟨[], ⟨rfl, found⟩, accounted.quiet store⟩
    | createPublicClaim document claimData =>
      obtain rfl := effect
      exact ⟨_, rfl, accounted.grow (fun _ => (List.append_nil _).symm) rfl
        (List.append_nil _).symm (List.append_nil _).symm (List.append_nil _).symm .nil nofun⟩
    | issuePublicClaim document token =>
      obtain rfl := effect
      exact ⟨_, rfl, accounted.grow (fun _ => (List.append_nil _).symm) (List.append_nil _).symm
        rfl (List.append_nil _).symm (List.append_nil _).symm .nil nofun⟩
    | save target claim =>
      obtain ⟨held, rfl⟩ := effect
      exact ⟨_, ⟨rfl, List.mem_append_right _ (List.mem_singleton_self _), held⟩,
        accounted.grow (fun _ => (List.append_nil _).symm) (List.append_nil _).symm
        (List.append_nil _).symm rfl (List.append_nil _).symm .nil nofun⟩
    | uuid =>
      obtain ⟨unused, rfl⟩ := effect
      refine ⟨_, rfl, accounted.grow (fun _ => (List.append_nil _).symm) (List.append_nil _).symm
        (List.append_nil _).symm (List.append_nil _).symm rfl (List.pairwise_singleton _ _) ?_⟩
      intro id among
      exact List.mem_singleton.mp among ▸ unused
    | updateServicePoint document value =>
      obtain rfl := effect
      exact ⟨_, rfl, accounted.grow (appendTo_marked _ _ · _) (List.append_nil _).symm
        (List.append_nil _).symm (List.append_nil _).symm (List.append_nil _).symm .nil nofun⟩
    | _ =>
      obtain rfl : next = { world with store := store } := effect
      exact ⟨[], rfl, accounted.quiet store⟩

/-- Claims are kept account of call by call. -/
theorem tallied (table : KeyManager.Table) (start : World) :
    Tallied (fun _ : Request => served table) (fun _ _ => False)
      (fun world _ => Noted table world) (Accounted start) where
  shuffled := fun _ _ _ shuffled accounted => accounted.shuffle shuffled
  served := fun _ _ _ _ _ _ accounted step => served_accounted accounted step
  kept := fun _ _ _ _ _ step _ _ holds => noted_extends (served_extends step) holds
  moved := fun _ _ _ move => move.elim
  stays := fun _ _ move => move.elim

section Sample

open Issuance (sampleHydrator sampleDevice sampleTable sampleEntry emptyWorld claimedWorld)

/-- Once the signer is found, the five other steps follow. -/
theorem sample_addClaim : ∃ resume,
    sampleHydrator.addClaim .sample sampleDevice .null =
        .await (.getSignerForDID sampleDevice) resume ∧
      resume (some ⟨"a"⟩) = .await (.createPublicClaim
        (sampleHydrator.documentOf sampleDevice ⟨"a"⟩) .null) (fun token =>
          .await (.issuePublicClaim (sampleHydrator.issuingDocument .sample) token) (fun issued =>
            .await (.save ⟨"https://ipfs.infura.io:5001/api/v0/"⟩ issued) (fun url =>
              .await .uuid (fun id =>
                .await (.updateServicePoint (sampleHydrator.documentOf sampleDevice ⟨"a"⟩)
                  ⟨id, url, DidLibrary.sample.sha256 issued, "SHA256"⟩) .done)))) :=
  ⟨_, rfl, rfl⟩

end Sample

end EvDashboard.Claims
