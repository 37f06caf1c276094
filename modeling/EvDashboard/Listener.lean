import EvDashboard.Async.Pool
import EvDashboard.KeyManager
import EvDashboard.PrequalificationClient

/-!
# Messages, keys and the separation of assets

A payload is decoded synchronously; what is left of a callback is one lookup and,
if it finds a wallet, the work of one asset. A message names the address in the
fourth segment of the DID it carries.

Callbacks of all messages run interleaved against services that keep one state
for each named address. Every call made with a key is made for a message that
names the address of that key, which is a stored one. Removing the messages that
do not name an address therefore changes nothing that is done with its key.
-/

namespace EvDashboard.Listener

open Async JavaScript

/-- What a callback takes from a payload: the DID's text and the issued token. -/
structure Decoded where
  voltaAssetDID : String
  issuedToken : Option Json

/-- The text of a DID field, which must hold a string. -/
def didText (json : Json) (key : String) : Except Exception String := do
  match ← property json key with
  | some (.string text) => pure text
  | _ => .error .typeError

/-- The synchronous part of a callback: an exception, a message that is dropped,
or the content of a message that is served. -/
def decode (message : Message) : Except Exception (Option Decoded) := do
  let json ← parseJson message.data
  match message.subject with
  | .prequalificationExchange =>
    let text ← didText json "did"
    pure (some ⟨text, none⟩)
  | .claimExchange =>
    let issuedToken ← property json "issuedToken"
    if Json.truthy issuedToken then
      let text ← didText json "requester"
      pure (some ⟨text, issuedToken⟩)
    else pure none

/-- The field of a message that carries the asset's DID. -/
def didField : Subject → String
  | .prequalificationExchange => "did"
  | .claimExchange => "requester"

/-- The address a message names: the fourth segment of the DID it carries. -/
def addressNamed (message : Message) : Option String := do
  let json ← Json.parse message.data
  match property json (didField message.subject) with
  | .ok (some (.string text)) => (splitText text ':')[3]?
  | _ => none

/-- The work of an asset for a message. -/
def serve (client : PrequalificationClient) (subject : Subject) (asset : Asset)
    (issuedToken : Option Json) : Awaiting Unit :=
  match subject with
  | .prequalificationExchange => asset.requestPrequalification client.prequalificationRole
  | .claimExchange => do
    let _ ← asset.publishPublicClaim issuedToken
    pure ()

/-- What a callback does with a decoded message. -/
def proceed (client : PrequalificationClient) (subject : Subject) (decoded : Decoded) :
    Awaiting Unit := do
  match ← await (.getSignerForDID (Did.assetDID decoded.voltaAssetDID)) with
  | none => pure ()
  | some wallet =>
    serve client subject
      ⟨Did.assetDID decoded.voltaAssetDID, wallet, client.iamClientLibFactory⟩ decoded.issuedToken

/-- A DID is derived from a field that holds a string, and from no other. -/
theorem assetDIDOf_eq (json : Json) (key : String) :
    PrequalificationClient.assetDIDOf json key = (do
      let text ← didText json key
      pure (Did.assetDID text)) := by
  unfold PrequalificationClient.assetDIDOf didText
  cases property json key with
  | error exception => rfl
  | ok value =>
    cases value with
    | none => rfl
    | some value => cases value <;> rfl

/-- A callback decodes its payload and proceeds with what it holds. -/
theorem handle_eq (client : PrequalificationClient) (message : Message) :
    client.handle message = (do
      match ← sync (decode message) with
      | none => pure ()
      | some decoded => proceed client message.subject decoded) := by
  obtain ⟨number, subject, data⟩ := message
  simp only [decode]
  cases subject with
  | prequalificationExchange =>
    simp only [PrequalificationClient.handle, PrequalificationClient.onPrequalificationRequest,
      assetDIDOf_eq]
    cases parseJson data with
    | error exception => rfl
    | ok json =>
      show sync (didText json "did" >>= _) >>= _ = sync (didText json "did" >>= _) >>= _
      cases didText json "did" with
      | error exception => rfl
      | ok text =>
        refine congrArg (Program.await _) (funext fun found => ?_)
        cases found <;> rfl
  | claimExchange =>
    simp only [PrequalificationClient.handle, PrequalificationClient.onClaimExchange, assetDIDOf_eq]
    cases parseJson data with
    | error exception => rfl
    | ok message =>
      show sync (property message "issuedToken") >>= _ =
        sync (property message "issuedToken" >>= _) >>= _
      cases property message "issuedToken" with
      | error exception => rfl
      | ok issuedToken =>
        show (if Json.truthy issuedToken then _ else _) =
          sync (if Json.truthy issuedToken then _ else _) >>= _
        cases Json.truthy issuedToken with
        | false => rfl
        | true =>
          show sync (didText message "requester" >>= _) >>= _ =
            sync (didText message "requester" >>= _) >>= _
          cases didText message "requester" with
          | error exception => rfl
          | ok text =>
            refine congrArg (Program.await _) (funext fun found => ?_)
            cases found <;> rfl

/-- A DID text is the string the field holds. -/
theorem didText_ok {json : Json} {key text : String} (read : didText json key = .ok text) :
    property json key = .ok (some (.string text)) := by
  obtain ⟨value, located, rest⟩ := returned_through read
  cases value with
  | none => cases rest
  | some value =>
    cases value <;> cases rest
    exact located

/-- A message with a DID text names its fourth segment. -/
theorem addressNamed_eq {message : Message} {json : Json} {text : String}
    (parsed : parseJson message.data = .ok json)
    (read : didText json (didField message.subject) = .ok text) :
    addressNamed message = (splitText text ':')[3]? := by
  have present : Json.parse message.data = some json := by
    unfold parseJson at parsed
    cases found : Json.parse message.data with
    | none =>
      rw [found] at parsed
      cases parsed
    | some value =>
      rw [found] at parsed
      cases parsed
      rfl
  simp only [addressNamed, present, Option.bind_eq_bind, Option.bind_some, didText_ok read]

/-- A decoded message carries the DID whose fourth segment it names. -/
theorem decode_names {message : Message} {decoded : Decoded}
    (read : decode message = .ok (some decoded)) :
    addressNamed message = (splitText decoded.voltaAssetDID ':')[3]? := by
  obtain ⟨number, subject, data⟩ := message
  obtain ⟨json, parsed, rest⟩ := returned_through read
  cases subject with
  | prequalificationExchange =>
    obtain ⟨text, located, same⟩ := returned_through rest
    cases same
    exact addressNamed_eq parsed located
  | claimExchange =>
    obtain ⟨issuedToken, _, served⟩ := returned_through rest
    cases truthy : Json.truthy issuedToken with
    | false =>
      simp only [truthy] at served
      cases served
    | true =>
      simp only [truthy, ↓reduceIte] at served
      obtain ⟨text, located, same⟩ := returned_through served
      cases same
      exact addressNamed_eq parsed located

section Keys

variable (ethers : Ethers) (table : KeyManager.Table)

/-- The signer provider answers from its table; no other answer is constrained. -/
def Truthful (call : Call) (outcome : Except Exception call.Answer) : Prop :=
  match call, outcome with
  | .getSignerForDID did, .ok wallet => wallet = KeyManager.getSignerForDID table did
  | _, _ => True

/-- A key may be used for a message when it is stored and the message names its address. -/
def Allowed (message : Message) (call : Call) : Prop :=
  ∀ key, call.privateKey = some key →
    ⟨key⟩ ∈ KeyManager.getAllSigners table ∧
      addressNamed message = some (Wallet.address ethers ⟨key⟩)

variable {ethers table}

/-- Creating the library's clients uses the given key only. -/
theorem create_obeys {message : Message} {key : String}
    (allowed : ∀ call, call.privateKey = some key → Allowed ethers table message call)
    (factory : IamClientLibFactory) :
    (factory.create key).Obeys (fun call answer => Truthful table call (.ok answer))
      (Allowed ethers table message) (fun clients => clients = ⟨key⟩) :=
  ⟨allowed _ rfl, fun _ _ => ⟨allowed _ rfl, fun _ _ => ⟨allowed _ rfl, fun _ _ => rfl⟩⟩⟩

/-- The work of an asset uses no key but its wallet's. -/
theorem serve_obeys {message : Message} (client : PrequalificationClient) (asset : Asset)
    (issuedToken : Option Json)
    (allowed : ∀ call, call.privateKey = some asset.wallet.privateKey →
      Allowed ethers table message call) :
    (serve client message.subject asset issuedToken).Obeys
      (fun call answer => Truthful table call (.ok answer)) (Allowed ethers table message)
      (fun _ => True) := by
  cases message.subject with
  | prequalificationExchange =>
    apply (create_obeys allowed _).bind
    rintro clients rfl
    refine ⟨allowed _ rfl, fun definition _ => ?_⟩
    cases definition with
    | none => trivial
    | some definition => exact ⟨allowed _ rfl, fun _ _ => trivial⟩
  | claimExchange =>
    have published : (asset.publishPublicClaim issuedToken).Obeys
        (fun call answer => Truthful table call (.ok answer)) (Allowed ethers table message)
        (fun _ => True) := by
      apply (create_obeys allowed _).bind
      rintro clients rfl
      exact ⟨allowed _ rfl, fun _ _ => trivial⟩
    exact published.bind (fun _ _ => trivial)

/-- A wallet found under the DID of a message has the address the message names. -/
theorem found_named {text : String} {wallet : Wallet}
    (agree : KeyManager.RowsAgree ethers table)
    (found : KeyManager.getSignerForDID table (Did.assetDID text) = some wallet) :
    wallet ∈ KeyManager.getAllSigners table ∧
      (splitText text ':')[3]? = some (wallet.address ethers) := by
  obtain ⟨stored, spelled⟩ := agree.getSignerForDID ethers found
  have segment : wallet.address ethers = Did.fourthSegment text :=
    (Did.keyPairDID_eq_iff ethers wallet _).mp spelled
  refine ⟨stored, ?_⟩
  cases located : (splitText text ':')[3]? with
  | some fourth =>
    rw [segment, Did.fourthSegment, element, located]
    rfl
  | none =>
    rw [Did.fourthSegment, element, located] at segment
    exact absurd segment (ethers.checksum_not_undefined _)

/-- A callback uses only keys whose address its message names. -/
theorem handle_obeys (agree : KeyManager.RowsAgree ethers table) (client : PrequalificationClient)
    (message : Message) :
    (client.handle message).Obeys (fun call answer => Truthful table call (.ok answer))
      (Allowed ethers table message) (fun _ => True) := by
  rw [handle_eq]
  have decoding : (sync (decode message)).Obeys
      (fun call answer => Truthful table call (.ok answer)) (Allowed ethers table message)
      (fun decoded => decode message = .ok decoded) :=
    Program.Obeys.ofExcept (fun _ returned => returned)
  apply decoding.bind
  intro decoded read
  cases decoded with
  | none => trivial
  | some decoded =>
    refine ⟨nofun, ?_⟩
    intro found truthful
    cases found with
    | none => trivial
    | some wallet =>
      obtain ⟨stored, named⟩ := found_named agree truthful.symm
      have allowed (call : Call) (keyed : call.privateKey = some wallet.privateKey) :
          Allowed ethers table message call := by
        intro key used
        rw [keyed] at used
        cases used
        exact ⟨stored, (decode_names read).trans named⟩
      exact serve_obeys client _ decoded.issuedToken allowed

end Keys

/-- A call made for a message, with whether it succeeded. -/
structure Record where
  message : Message
  call : Call
  succeeded : Bool

/-- The outside world: one state of the external services for each address that
messages name, and the calls made so far. -/
structure World (State : Type) where
  services : Option String → State
  log : List Record

/-- The world after a call: the state of the named address is replaced, all others
are kept, and the call is recorded. -/
def World.after {State : Type} (world : World State) (message : Message) (state : State)
    (call : Call) (succeeded : Bool) : World State :=
  ⟨fun name => if name = addressNamed message then state else world.services name,
    world.log ++ [⟨message, call, succeeded⟩]⟩

/-- The services' behaviour, given the state kept for the named address. -/
abbrev Responds (State : Type) :=
  State → Message → (call : Call) → Except Exception call.Answer → State → Prop

section Separation

variable {State : Type} (ethers : Ethers) (table : KeyManager.Table) (responds : Responds State)

/-- A call is answered by the state of the named address alone. -/
def service : Message → Service Call Call.Answer Exception (World State) :=
  fun message world call outcome next => Truthful table call outcome ∧
    ∃ state, responds (world.services (addressNamed message)) message call outcome state ∧
      next = world.after message state call outcome.isOk

/-- All callbacks of a sequence of messages, not yet started. -/
def callbacks (client : PrequalificationClient) (messages : List Message) :
    Pool.Tasks Call Call.Answer Exception Message Unit :=
  messages.map (fun message => (message, client.handle message))

/-- The runs of callbacks from and to a world, in any interleaving. -/
abbrev Runs : Pool.Tasks Call Call.Answer Exception Message Unit → World State →
    Pool.Tasks Call Call.Answer Exception Message Unit → World State → Prop :=
  Pool.Run (service table responds) (fun _ _ => False)

/-- The claim requests and publications made with a key, in order. -/
def actionsWith (key : String) (log : List Record) : List Record :=
  log.filter (fun record => record.call.isAction && record.call.privateKey = some key)

/-- Whether a message names an address. -/
def names (address : String) (message : Message) : Bool := addressNamed message = some address

/-- What the messages naming an address see of the world. -/
def viewOf (address : String) (world : World State) : State × List Record :=
  (world.services (some address), world.log.filter (fun record => names address record.message))

variable {ethers table responds}

/-- Callbacks start guarded. -/
theorem callbacks_guarded (agree : KeyManager.RowsAgree ethers table)
    (client : PrequalificationClient) (messages : List Message) :
    Pool.Guarded (fun _ call answer => Truthful table call (.ok answer)) (Allowed ethers table)
      (callbacks client messages) := by
  intro task member
  obtain ⟨message, _, rfl⟩ := List.mem_map.mp member
  exact handle_obeys agree client message

/-- Every recorded call used a key allowed for its message. -/
theorem log_allowed (agree : KeyManager.RowsAgree ethers table) {client : PrequalificationClient}
    {messages : List Message} {services : Option String → State}
    {final : Pool.Tasks Call Call.Answer Exception Message Unit} {world : World State}
    (run : Runs table responds (callbacks client messages) ⟨services, []⟩ final world) :
    ∀ record ∈ world.log, Allowed ethers table record.message record.call := by
  have guarded := callbacks_guarded agree client messages
  refine (run.guarded (fun world => ∀ record ∈ world.log,
    Allowed ethers table record.message record.call) ?_ (fun _ _ _ move => move.elim) (by simp)
    guarded).1
  rintro message before call outcome following recorded permitted ⟨truthful, state, _, rfl⟩
  refine ⟨?_, ?_⟩
  · intro record member
    rcases List.mem_append.mp member with earlier | last
    · exact recorded record earlier
    · obtain rfl := List.mem_singleton.mp last
      exact permitted
  · rintro answer rfl
    exact truthful

/-- The messages naming one address are isolated from all others. -/
theorem isolated (address : String) :
    Pool.Isolated (service table responds) (fun _ call answer => Truthful table call (.ok answer))
      (Allowed ethers table) (names address) (viewOf address) where
  answers := by
    rintro message world call outcome next _ ⟨truthful, _⟩ answer rfl
    exact truthful
  hidden := by
    rintro message world call outcome next other _ ⟨_, state, _, rfl⟩
    have different : ¬ some address = addressNamed message := by
      intro same
      simp only [names, ← same, decide_true, reduceCtorEq] at other
    simp only [viewOf, World.after, different, ↓reduceIte, List.filter_append, List.filter_cons,
      other, Bool.false_eq_true, List.filter_nil, List.append_nil]
  visible := by
    rintro message world other call outcome next kept _ same ⟨truthful, state, responded, rfl⟩
    have named : addressNamed message = some address := of_decide_eq_true kept
    simp only [viewOf, Prod.mk.injEq] at same
    rw [named, same.1] at responded
    refine ⟨_, ⟨truthful, state, ?_, rfl⟩, ?_⟩
    · rw [named]
      exact responded
    · simp only [viewOf, World.after, named, ↓reduceIte, List.filter_append, same.2]

/-- What is done with a key is part of what the messages naming its address see. -/
theorem actions_of_view {wallet : Wallet} {log : List Record}
    (allowed : ∀ record ∈ log, Allowed ethers table record.message record.call) :
    actionsWith wallet.privateKey log = actionsWith wallet.privateKey
      (log.filter (fun record => names (wallet.address ethers) record.message)) := by
  simp only [actionsWith, List.filter_filter]
  apply List.filter_congr
  intro record member
  cases used : decide (record.call.privateKey = some wallet.privateKey) with
  | false => simp only [Bool.and_false, Bool.false_and]
  | true =>
    have named := (allowed record member _ (of_decide_eq_true used)).2
    simp only [names, named, decide_true, Bool.and_true]

end Separation

/-- Every key used for a message is a stored one whose address is the fourth
segment of the message's DID, and the claim requests and publications made with
a stored key are those of a run of only the messages that name its address, and
the other way around.

The first part is an invariant of the log, kept because every callback is
guarded. For the second, the messages naming an address are isolated, so runs
project and lift; the actions with a key are part of what survives. -/
theorem key_use_separated {State : Type} (ethers : Ethers) (table : KeyManager.Table)
    (history : KeyManager.History) (reached : KeyManager.Reached ethers (some table) history)
    (client : PrequalificationClient) (responds : Responds State)
    (services : Option String → State) (messages : List Message) :
    (∀ final world, Runs table responds (callbacks client messages) ⟨services, []⟩ final world →
      ∀ record ∈ world.log, ∀ key, record.call.privateKey = some key →
        ⟨key⟩ ∈ KeyManager.getAllSigners table ∧
          addressNamed record.message = some (Wallet.address ethers ⟨key⟩)) ∧
    ∀ wallet ∈ KeyManager.getAllSigners table,
      (∀ final world, Runs table responds (callbacks client messages) ⟨services, []⟩ final world →
        ∃ other, Runs table responds
            (callbacks client (messages.filter (names (wallet.address ethers)))) ⟨services, []⟩
            (Pool.restrict (names (wallet.address ethers)) final) other ∧
          actionsWith wallet.privateKey other.log = actionsWith wallet.privateKey world.log) ∧
      ∀ final other, Runs table responds
          (callbacks client (messages.filter (names (wallet.address ethers)))) ⟨services, []⟩
          final other →
        ∃ whole world, Runs table responds (callbacks client messages) ⟨services, []⟩ whole world ∧
          Pool.restrict (names (wallet.address ethers)) whole = final ∧
          actionsWith wallet.privateKey world.log = actionsWith wallet.privateKey other.log := by
  have agree : KeyManager.RowsAgree ethers table := (reached.records ethers).rowsAgree
  have guarded := callbacks_guarded agree client messages
  have kept (address : String) : Pool.restrict (names address) (callbacks client messages) =
      callbacks client (messages.filter (names address)) := by
    simp only [Pool.restrict, callbacks, List.filter_map]
    rfl
  refine ⟨fun final world run record member key used =>
    log_allowed agree run record member key used, fun wallet _ => ⟨?_, ?_⟩⟩
  · intro final world run
    obtain ⟨other, alone, same⟩ := run.projected (isolated (wallet.address ethers)) guarded
      (Eq.refl (viewOf (wallet.address ethers) ⟨services, []⟩))
    rw [kept] at alone
    refine ⟨other, alone, ?_⟩
    rw [actions_of_view (log_allowed agree run), actions_of_view (log_allowed agree alone)]
    exact congrArg (fun view => actionsWith wallet.privateKey view.2) same.symm
  · intro final other alone
    obtain ⟨whole, world, run, restricted, same⟩ :=
      Pool.Run.lifted (isolated (wallet.address ethers)) alone (kept _) guarded
        (Eq.refl (viewOf (wallet.address ethers) ⟨services, []⟩))
    refine ⟨whole, world, run, restricted, ?_⟩
    rw [actions_of_view (log_allowed agree run), actions_of_view (log_allowed agree alone)]
    exact congrArg (fun view => actionsWith wallet.privateKey view.2) same.symm

/-- A request that names the address of the key `a`. -/
def requestForA : Message :=
  ⟨0, .prequalificationExchange,
    "\x7b\"did\":\"did:ethr:volta:0x1111111111111111111111111111111111111111\"\x7d"⟩

/-- The lookup and the first call made with a key, beside a payload that is not
JSON: the key is that of the address the request names. -/
theorem request_uses_key_of_a :
    ∃ final world, Runs KeyManager.twoKeys (fun (_ : Unit) _ _ _ _ => True)
        (callbacks PrequalificationClient.sample [requestForA, ⟨1, .claimExchange, "no JSON"⟩])
        ⟨fun _ => (), []⟩ final world ∧
      world.log.map (fun record => record.call.privateKey) = [none, some "a"] ∧
      ∀ record ∈ world.log, ∀ key, record.call.privateKey = some key →
        ⟨key⟩ ∈ KeyManager.getAllSigners KeyManager.twoKeys ∧
          addressNamed record.message = some (Wallet.address .sample ⟨key⟩) := by
  let text : String := "did:ethr:volta:0x1111111111111111111111111111111111111111"
  have handled : PrequalificationClient.sample.handle requestForA =
      proceed PrequalificationClient.sample .prequalificationExchange ⟨text, none⟩ := by
    have decoded : decode requestForA = .ok (some ⟨text, none⟩) := rfl
    rw [handle_eq, decoded]
    rfl
  have found : some ⟨"a"⟩ = KeyManager.getSignerForDID KeyManager.twoKeys (Did.assetDID text) := by
    decide
  have lookup : service KeyManager.twoKeys (fun (_ : Unit) _ _ _ _ => True) requestForA
      ⟨fun _ => (), []⟩ (.getSignerForDID (Did.assetDID text)) (.ok (some ⟨"a"⟩))
      (World.after ⟨fun _ => (), []⟩ requestForA () (.getSignerForDID (Did.assetDID text)) true) :=
    ⟨found, (), trivial, rfl⟩
  have run : ∃ final world, Runs KeyManager.twoKeys (fun (_ : Unit) _ _ _ _ => True)
      (callbacks PrequalificationClient.sample [requestForA, ⟨1, .claimExchange, "no JSON"⟩])
      ⟨fun _ => (), []⟩ final world ∧
      world.log.map (fun record => record.call.privateKey) = [none, some "a"] := by
    simp only [callbacks, List.map_cons, handled]
    exact ⟨_, _, .step (.answered [] _ _ _ _ _ _ _ lookup)
      (.step (.answered [] _ _ _ _ () _ _ ⟨trivial, (), trivial, rfl⟩) (.done _ _)), rfl⟩
  obtain ⟨final, world, taken, keys⟩ := run
  exact ⟨final, world, taken, keys, (key_use_separated .sample KeyManager.twoKeys _
    (.generated _ _ ⟨"ab"⟩ (.opened _ _ (.generated _ _ ⟨"a"⟩ (.opened _ _ .fresh))))
    PrequalificationClient.sample (fun _ _ _ _ _ => True) (fun _ => ()) _).1 final world taken⟩

end EvDashboard.Listener
