import EvDashboard.Listener

/-!
# Failures of single messages

No callback catches an exception. A callback therefore rejects exactly when its
payload is malformed or one of its own calls fails, where an unknown role counts
as a failed lookup. It performs its one claim request or publication exactly
when the payload is well formed, the asset is stored and none of its calls fail.

Both facts are composed along the calls of a callback, each of which either ends
it or lets it go on, and are carried to any interleaving of any messages by the
accounting of the pool: nothing that happens to one message reaches another.
-/

namespace EvDashboard.Failures

open Async JavaScript Listener

/-- One predetermined outcome for each call. -/
abbrev Oracle := (call : Call) → Except Exception call.Answer

/-- A call fails when it rejects; a role lookup also when the role is unknown. -/
def failed (oracle : Oracle) : Call → Bool
  | .getRoleDefinition key role =>
    match oracle (.getRoleDefinition key role) with
    | .ok (some _) => false
    | _ => true
  | call => !(oracle call).isOk

/-- A claim request or publication that succeeds. -/
def performs (oracle : Oracle) (call : Call) : Bool := call.isAction && !failed oracle call

/-- A program performs one given action if no call of it fails, and otherwise
none; and it rejects exactly if a call fails. -/
structure Fulfils {α : Type} (oracle : Oracle) (program : Awaiting α) (action : Option Call) :
    Prop where
  performed : (program.trace oracle).filter (performs oracle) =
    if (program.trace oracle).any (failed oracle) then [] else action.toList
  rejects : (∃ exception, program.result oracle = .error exception) ↔
    (program.trace oracle).any (failed oracle) = true

section Composition

variable {α : Type} {oracle : Oracle} {action : Option Call}

/-- A finished program performs nothing and does not reject. -/
theorem Fulfils.done (value : α) : Fulfils oracle (.done value) none :=
  ⟨rfl, by simp [Program.result, Program.trace]⟩

theorem failed_error {call : Call} {exception : Exception}
    (outcome : oracle call = .error exception) : failed oracle call = true := by
  cases call <;> simp only [failed, outcome, Except.isOk, Except.toBool, Bool.not_false]

/-- A call that is no action either fails and ends the program, or lets it go on.
A failure that is an answer must make the program reject at once. -/
theorem Fulfils.await {call : Call} {resume : call.Answer → Awaiting α}
    (other : call.isAction = false)
    (continues : ∀ answer, oracle call = .ok answer → failed oracle call = false →
      Fulfils oracle (resume answer) action)
    (ends : ∀ answer, oracle call = .ok answer → failed oracle call = true →
      ∃ exception, resume answer = .rejected exception) :
    Fulfils oracle (.await call resume) action := by
  have idle : performs oracle call = false := by
    simp only [performs, other, Bool.false_and]
  cases outcome : oracle call with
  | error exception =>
    have fails : failed oracle call = true := failed_error outcome
    constructor
    · simp only [Program.trace, outcome, List.filter_cons, idle, Bool.false_eq_true, ↓reduceIte,
        List.filter_nil, List.any_cons, fails, Bool.true_or]
    · simp only [Program.trace, Program.result, outcome, List.any_cons, fails, Bool.true_or,
        Except.error.injEq, exists_eq']
  | ok answer =>
    cases fails : failed oracle call with
    | false =>
      have rest := continues answer outcome fails
      constructor
      · simp only [Program.trace, outcome, List.filter_cons, idle, Bool.false_eq_true, ↓reduceIte,
          List.any_cons, fails, Bool.false_or, rest.performed]
      · simp only [Program.trace, Program.result, outcome, List.any_cons, fails, Bool.false_or,
          rest.rejects]
    | true =>
      obtain ⟨exception, rejected⟩ := ends answer outcome fails
      constructor
      · simp only [Program.trace, outcome, rejected, List.filter_cons, idle, Bool.false_eq_true,
          ↓reduceIte, List.filter_nil, List.any_cons, fails, Bool.true_or]
      · simp only [Program.trace, Program.result, outcome, rejected, List.any_cons, fails,
          Bool.true_or, Except.error.injEq, exists_eq']

/-- The action at the end of a program fails or is performed. -/
theorem Fulfils.last {call : Call} {resume : call.Answer → Awaiting α}
    (acts : call.isAction = true) (finishes : ∀ answer, ∃ value, resume answer = .done value) :
    Fulfils oracle (.await call resume) (some call) := by
  cases outcome : oracle call with
  | error exception =>
    have fails : failed oracle call = true := failed_error outcome
    constructor
    · simp only [Program.trace, outcome, List.filter_cons, performs, acts, fails, Bool.not_true,
        Bool.and_false, Bool.false_eq_true, ↓reduceIte, List.filter_nil, List.any_cons,
        Bool.true_or]
    · simp only [Program.trace, Program.result, outcome, List.any_cons, fails, Bool.true_or,
        Except.error.injEq, exists_eq']
  | ok answer =>
    have succeeds : failed oracle call = false := by
      cases call <;> simp only [Call.isAction, Bool.false_eq_true] at acts <;>
        simp only [failed, outcome, Except.isOk, Except.toBool, Bool.not_true]
    obtain ⟨value, finished⟩ := finishes answer
    constructor
    · simp only [Program.trace, outcome, finished, List.filter_cons, performs, acts, succeeds,
        Bool.not_false, Bool.and_true, ↓reduceIte, List.filter_nil, List.any_cons, List.any_nil,
        Bool.or_false, Bool.false_eq_true, Option.toList_some]
    · simp only [Program.trace, Program.result, outcome, finished, List.any_cons, List.any_nil,
        succeeds, Bool.or_false, Bool.false_eq_true, reduceCtorEq, exists_false]

/-- A call whose every answer is a success only matters for what follows it. -/
theorem Fulfils.step {call : Call} {resume : call.Answer → Awaiting α}
    (other : call.isAction = false) (plain : ∀ answer, oracle call = .ok answer →
      failed oracle call = false)
    (continues : ∀ answer, oracle call = .ok answer → Fulfils oracle (resume answer) action) :
    Fulfils oracle (.await call resume) action := by
  refine .await other (fun answer outcome _ => continues answer outcome) ?_
  intro answer outcome fails
  rw [plain answer outcome] at fails
  cases fails

/-- Creating the library's clients precedes the work of an asset. -/
theorem Fulfils.create (factory : IamClientLibFactory) (key : String)
    {next : IamClients → Awaiting α} (rest : Fulfils oracle (next ⟨key⟩) action) :
    Fulfils oracle (factory.create key >>= next) action := by
  refine .step rfl ?_ (fun _ _ => .step rfl ?_ (fun _ _ => .step rfl ?_ (fun _ _ => rest)))
  all_goals
    intro answer outcome
    simp only [failed, outcome, Except.isOk, Except.toBool, Bool.not_true]

end Composition

/-- The claim request made for a known role. -/
def claimRequest (oracle : Oracle) (client : PrequalificationClient) (key : String) : Option Call :=
  let roleName := client.prequalificationRole.roleName
  match oracle (.getRoleDefinition key roleName) with
  | .ok (some roleDef) => some (.createClaimRequest key ⟨roleName, roleDef.version⟩ [.offChain])
  | _ => none

/-- What a message asks to be done with a key. -/
def asks (oracle : Oracle) (client : PrequalificationClient) (subject : Subject) (key : String)
    (issuedToken : Option Json) : Option Call :=
  match subject with
  | .prequalificationExchange => claimRequest oracle client key
  | .claimExchange => some (.publishPublicClaim key issuedToken)

/-- What a well-formed message for a stored asset asks for; other messages ask for
nothing. -/
def ordered (table : KeyManager.Table) (oracle : Oracle) (client : PrequalificationClient)
    (message : Message) : Option Call :=
  match decode message with
  | .ok (some decoded) =>
    match KeyManager.getSignerForDID table (Did.assetDID decoded.voltaAssetDID) with
    | some wallet => asks oracle client message.subject wallet.privateKey decoded.issuedToken
    | none => none
  | _ => none

/-- The work of an asset fulfils what is asked of it. -/
theorem serve_fulfils (oracle : Oracle) (client : PrequalificationClient) (subject : Subject)
    (asset : Asset) (issuedToken : Option Json) :
    Fulfils oracle (serve client subject asset issuedToken)
      (asks oracle client subject asset.wallet.privateKey issuedToken) := by
  cases subject with
  | prequalificationExchange =>
    refine Fulfils.create _ _ (Fulfils.await rfl ?_ ?_)
    · intro definition outcome known
      cases definition with
      | none =>
        simp only [failed, outcome, Bool.true_eq_false] at known
      | some roleDef =>
        simp only [asks, claimRequest, outcome]
        exact .last rfl (fun answer => ⟨answer, rfl⟩)
    · intro definition outcome unknown
      cases definition with
      | none => exact ⟨_, rfl⟩
      | some roleDef =>
        simp only [failed, outcome, Bool.false_eq_true] at unknown
  | claimExchange =>
    show Fulfils oracle (asset.iamClientLibFactory.create asset.wallet.privateKey >>= fun clients =>
      .await (.publishPublicClaim clients.privateKey issuedToken) (fun _ => .done ())) _
    exact Fulfils.create _ _ (Fulfils.last rfl (fun _ => ⟨(), rfl⟩))

/-- A callback whose payload is not malformed fulfils what the message asks for. -/
theorem handle_fulfils {table : KeyManager.Table} {oracle : Oracle}
    (truthful : ∀ did, Truthful table (.getSignerForDID did) (oracle (.getSignerForDID did)))
    (client : PrequalificationClient) {message : Message} {content : Option Decoded}
    (read : decode message = .ok content) :
    Fulfils oracle (client.handle message) (ordered table oracle client message) := by
  rw [handle_eq]
  simp only [ordered, read]
  cases content with
  | none => exact .done ()
  | some decoded =>
    show Fulfils oracle (proceed client message.subject decoded)
      (match KeyManager.getSignerForDID table (Did.assetDID decoded.voltaAssetDID) with
        | some wallet => asks oracle client message.subject wallet.privateKey decoded.issuedToken
        | none => none)
    refine Fulfils.step rfl ?_ ?_
    · intro found outcome
      simp only [failed, outcome, Except.isOk, Except.toBool, Bool.not_true]
    · intro found outcome
      have answered := truthful (Did.assetDID decoded.voltaAssetDID)
      rw [outcome] at answered
      have same : found = KeyManager.getSignerForDID table (Did.assetDID decoded.voltaAssetDID) :=
        answered
      subst same
      cases KeyManager.getSignerForDID table (Did.assetDID decoded.voltaAssetDID) with
      | none => exact .done ()
      | some wallet => exact serve_fulfils oracle client _ _ _

/-- A payload is malformed when it is not JSON, is the JSON `null`, or, unless it is
an issued-claim message without a token, holds no text where the DID belongs. -/
def Malformed (message : Message) : Prop :=
  ∀ json, Json.parse message.data = some json → json = .null ∨
    (message.subject = .claimExchange →
      ∃ issuedToken, property json "issuedToken" = .ok issuedToken ∧ Json.truthy issuedToken) ∧
    ∀ text, property json (didField message.subject) ≠ .ok (some (.string text))

/-- Reading a text fails when the field holds none. -/
theorem didText_error_iff (json : Json) (key : String) :
    (∃ exception, didText json key = .error exception) ↔
      ∀ text, property json key ≠ .ok (some (.string text)) := by
  constructor
  · rintro ⟨exception, threw⟩ text located
    rw [didText, located] at threw
    cases threw
  · intro absent
    cases read : didText json key with
    | error exception => exact ⟨exception, rfl⟩
    | ok text => exact absurd (didText_ok read) (absent text)

/-- Keeping what was read neither throws nor catches. -/
theorem kept_error_iff {α β : Type} (outcome : Except Exception α) (keep : α → β) :
    (∃ exception, (outcome >>= fun value => pure (keep value)) = .error exception) ↔
      ∃ exception, outcome = .error exception := by
  cases outcome with
  | error exception => exact ⟨fun _ => ⟨exception, rfl⟩, fun _ => ⟨exception, rfl⟩⟩
  | ok value => exact ⟨fun ⟨_, threw⟩ => (by cases threw), fun ⟨_, threw⟩ => (by cases threw)⟩

/-- Decoding throws exactly on the malformed payloads. -/
theorem decode_error_iff (message : Message) :
    (∃ exception, decode message = .error exception) ↔ Malformed message := by
  obtain ⟨number, subject, data⟩ := message
  simp only [decode, Malformed, parseJson]
  cases Json.parse data with
  | none => exact ⟨fun _ json parsed => (by cases parsed), fun _ => ⟨.syntaxError, rfl⟩⟩
  | some json =>
    simp only [Option.some.injEq, forall_eq']
    cases subject with
    | prequalificationExchange =>
      refine ((kept_error_iff _ _).trans (didText_error_iff json "did")).trans ?_
      constructor
      · exact fun absent => Or.inr ⟨fun other => (by cases other), absent⟩
      · rintro (rfl | ⟨_, absent⟩) text
        · exact fun located => (by cases located)
        · exact absent text
    | claimExchange =>
      show (∃ exception, (property json "issuedToken" >>= _) = .error exception) ↔ _
      cases token : property json "issuedToken" with
      | error exception =>
        have null : json = .null := by
          cases json <;> simp only [property, reduceCtorEq] at token
          rfl
        exact ⟨fun _ => Or.inl null, fun _ => ⟨exception, rfl⟩⟩
      | ok issuedToken =>
        have object : json ≠ .null := by
          rintro rfl
          cases token
        show (∃ exception, (if Json.truthy issuedToken then _ else _) = _) ↔ _
        cases present : Json.truthy issuedToken with
        | false =>
          simp only [Bool.false_eq_true, ↓reduceIte]
          constructor
          · rintro ⟨exception, threw⟩
            cases threw
          · rintro (null | ⟨served, _⟩)
            · exact absurd null object
            · obtain ⟨other, located, truthy⟩ := served trivial
              cases located
              rw [present] at truthy
              cases truthy
        | true =>
          simp only [↓reduceIte]
          refine ((kept_error_iff _ _).trans (didText_error_iff json "requester")).trans ?_
          constructor
          · exact fun absent => Or.inr ⟨fun _ => ⟨issuedToken, rfl, present⟩, absent⟩
          · rintro (null | ⟨_, absent⟩)
            · exact absurd null object
            · exact absent

/-- The action a message gets performed: what it asks for, if no call made for it
fails. -/
def fulfilled (table : KeyManager.Table) (oracle : Message → Oracle)
    (client : PrequalificationClient) (message : Message) : Option (Message × Call) :=
  if ((client.handle message).trace (oracle message)).any (failed (oracle message)) then none
  else (ordered table (oracle message) client message).map (Prod.mk message)

section Messages

variable {table : KeyManager.Table} {oracle : Message → Oracle} {client : PrequalificationClient}

/-- The actions performed in a callback's own calls are the one it fulfils. -/
theorem handle_performs
    (truthful : ∀ message did,
      Truthful table (.getSignerForDID did) (oracle message (.getSignerForDID did)))
    (message : Message) :
    (((client.handle message).trace (oracle message)).map (Prod.mk message)).filter
        (fun entry => performs (oracle entry.1) entry.2) =
      (fulfilled table oracle client message).toList := by
  rw [List.filter_map]
  show (((client.handle message).trace (oracle message)).filter
    (performs (oracle message))).map (Prod.mk message) = _
  unfold fulfilled
  cases read : decode message with
  | error exception =>
    rw [handle_eq, read]
    simp only [ordered, read]
    rfl
  | ok content =>
    rw [(handle_fulfils (truthful message) client read).performed]
    split
    · rfl
    · cases ordered table (oracle message) client message <;> rfl

/-- A callback rejects exactly for a malformed payload or a failed call. -/
theorem handle_rejects
    (truthful : ∀ message did,
      Truthful table (.getSignerForDID did) (oracle message (.getSignerForDID did)))
    (message : Message) :
    (∃ exception, (client.handle message).result (oracle message) = .error exception) ↔
      Malformed message ∨ ∃ call ∈ (client.handle message).trace (oracle message),
        failed (oracle message) call = true := by
  rw [← decode_error_iff]
  cases read : decode message with
  | error exception =>
    rw [handle_eq, read]
    exact ⟨fun _ => Or.inl ⟨exception, rfl⟩, fun _ => ⟨exception, rfl⟩⟩
  | ok content =>
    rw [(handle_fulfils (truthful message) client read).rejects, List.any_eq_true]
    exact ⟨Or.inr, fun either => either.elim (fun ⟨_, threw⟩ => (by cases threw)) id⟩

/-- The calls of all callbacks perform the actions of the messages that get theirs. -/
theorem callbacks_perform
    (truthful : ∀ message did,
      Truthful table (.getSignerForDID did) (oracle message (.getSignerForDID did)))
    (messages : List Message) :
    (Pool.remaining oracle (callbacks client messages)).filter
        (fun entry => performs (oracle entry.1) entry.2) =
      messages.filterMap (fulfilled table oracle client) := by
  induction messages with
  | nil => rfl
  | cons message messages inductionHypothesis =>
    have first := @handle_performs table oracle client truthful message
    simp only [Pool.remaining, callbacks, List.map_cons, List.flatMap_cons, List.filter_append]
      at inductionHypothesis ⊢
    rw [first, inductionHypothesis, List.filterMap_cons]
    cases fulfilled table oracle client message <;> rfl

/-- The calls that remain of a message are those of its callback. -/
theorem callback_calls {messages : List Message} {message : Message} (member : message ∈ messages)
    (call : Call) :
    (message, call) ∈ Pool.remaining oracle (callbacks client messages) ↔
      call ∈ (client.handle message).trace (oracle message) := by
  simp only [Pool.remaining, callbacks, List.mem_flatMap, List.mem_map]
  constructor
  · rintro ⟨_, ⟨other, _, rfl⟩, made, present, same⟩
    cases same
    exact present
  · exact fun present => ⟨_, ⟨message, member, rfl⟩, call, present, rfl⟩

end Messages

/-- Whatever payloads arrive and whichever calls fail, the callbacks of all
messages settle; a callback rejects exactly if its payload is malformed or one of
its own calls failed; and the claim requests and publications performed are, up
to order, those asked for by the well-formed messages for stored assets none of
whose own calls failed.

Each callback's solo behaviour is composed along its calls, and the accounting of
the pool makes any interleaving a permutation of solo behaviours. -/
theorem failures_stay_local (table : KeyManager.Table) (client : PrequalificationClient)
    (oracle : Message → Oracle)
    (truthful : ∀ message did,
      Truthful table (.getSignerForDID did) (oracle message (.getSignerForDID did)))
    (messages : List Message)
    (final : Pool.Tasks Call Call.Answer Exception Message Unit) (log : List (Message × Call))
    (run : Pool.Run (Pool.recorded oracle) (fun _ _ => False) (callbacks client messages) []
      final log) :
    (∃ last entries, Pool.Run (Pool.recorded oracle) (fun _ _ => False) final log last entries ∧
      ∀ task ∈ last, task.2.settled ≠ none) ∧
    ((∀ task ∈ final, task.2.settled ≠ none) →
      final.map Prod.fst = messages ∧
      (∀ task ∈ final, (∃ exception, task.2.settled = some (.error exception)) ↔
        Malformed task.1 ∨ ∃ call, (task.1, call) ∈ log ∧ failed (oracle task.1) call = true) ∧
      (log.filter (fun entry => performs (oracle entry.1) entry.2)).Perm
        (messages.filterMap (fulfilled table oracle client))) := by
  refine ⟨Pool.settles oracle final log, fun settled => ?_⟩
  obtain ⟨accounted, same⟩ := run.settled oracle settled
  have parties : final.map Prod.fst = messages := by
    have names := congrArg (List.map Prod.fst) same
    simp only [Pool.results, callbacks, List.map_map] at names
    refine (names.symm.trans ?_ : List.map Prod.fst final = messages)
    exact List.map_id messages
  refine ⟨parties, ?_, ?_⟩
  · intro task member
    have known : task.1 ∈ messages := parties ▸ List.mem_map_of_mem member
    have result : task.2.result (oracle task.1) =
        (client.handle task.1).result (oracle task.1) := by
      have listed : (task.1, task.2.result (oracle task.1)) ∈ Pool.results oracle final :=
        List.mem_map.mpr ⟨task, member, rfl⟩
      rw [← same] at listed
      simp only [Pool.results, callbacks, List.map_map] at listed
      obtain ⟨message, _, equal⟩ := List.mem_map.mp listed
      simp only [Function.comp_apply, Prod.mk.injEq] at equal
      obtain ⟨rfl, equal⟩ := equal
      exact equal.symm
    rw [Program.settled_result (oracle task.1) (settled task member), result]
    simp only [Option.some.injEq, handle_rejects truthful, accounted.mem_iff, callback_calls known]
  · rw [← callbacks_perform truthful]
    exact accounted.filter _

/-- Services that never fail, with one version of every role. -/
def neverFailing (table : KeyManager.Table) : Oracle
  | .getAllSigners => .ok (KeyManager.getAllSigners table)
  | .getSignerForDID did => .ok (KeyManager.getSignerForDID table did)
  | .initWithPrivateKeySigner _ _ => .ok ()
  | .connectToCacheServer _ _ _ => .ok ()
  | .connectToDidRegistry _ => .ok ()
  | .getRoleDefinition _ _ => .ok (some ⟨1⟩)
  | .createClaimRequest _ _ _ => .ok ()
  | .publishPublicClaim _ _ => .ok (some "url")
  | .getClaimsBySubject _ _ _ => .ok []
  | .getDidDocument _ _ _ => .ok ⟨[]⟩

/-- The address of the key `a` in a DID with the network segment. -/
def didOfA : String := "did:ethr:volta:0x1111111111111111111111111111111111111111"

theorem requestForA_decoded : decode requestForA = .ok (some ⟨didOfA, none⟩) := by
  have decoded : decode requestForA = .ok (some ⟨didOfA, none⟩) := rfl
  exact decoded

theorem didOfA_found : KeyManager.getSignerForDID KeyManager.twoKeys (Did.assetDID didOfA) =
    some ⟨"a"⟩ := by
  have named : didOfA = Did.sweepDID .sample ⟨"a"⟩ := by decide
  rw [named, Did.assetDID_sweepDID]
  decide

/-- Services that never fail answer every call made for the request. -/
theorem requestForA_unfailing : ((PrequalificationClient.sample.handle requestForA).trace
    (neverFailing KeyManager.twoKeys)).any (failed (neverFailing KeyManager.twoKeys)) = false := by
  have handled : PrequalificationClient.sample.handle requestForA =
      proceed PrequalificationClient.sample .prequalificationExchange ⟨didOfA, none⟩ := by
    rw [handle_eq, requestForA_decoded]
    rfl
  have answered : neverFailing KeyManager.twoKeys (.getSignerForDID (Did.assetDID didOfA)) =
      .ok (some ⟨"a"⟩) := congrArg Except.ok didOfA_found
  have calls : (PrequalificationClient.sample.handle requestForA).trace
        (neverFailing KeyManager.twoKeys) =
      [.getSignerForDID (Did.assetDID didOfA), .initWithPrivateKeySigner "a" "rpc",
        .connectToCacheServer "a" messagingConfig cacheConfig, .connectToDidRegistry "a",
        .getRoleDefinition "a" "role", .createClaimRequest "a" ⟨"role", 1⟩ [.offChain]] := by
    rw [handled]
    simp only [proceed, await, Program.call_bind, Program.trace, answered]
    rfl
  rw [calls]
  simp only [List.any_cons, failed, answered]
  rfl

/-- The request for the key `a` is fulfilled by services that never fail. -/
theorem requestForA_fulfilled :
    fulfilled KeyManager.twoKeys (fun _ => neverFailing KeyManager.twoKeys)
        PrequalificationClient.sample requestForA =
      some (requestForA, .createClaimRequest "a" ⟨"role", 1⟩ [.offChain]) := by
  simp only [fulfilled, requestForA_unfailing, ordered, requestForA_decoded, didOfA_found]
  rfl

/-- The truthful services never fail, a claim message that is not JSON arrives with
a request for the key `a`, and exactly that request is performed. -/
theorem request_survives_malformed :
    ∃ final log, Pool.Run (Pool.recorded (fun _ => neverFailing KeyManager.twoKeys))
        (fun _ _ => False)
        (callbacks PrequalificationClient.sample [⟨1, .claimExchange, "no JSON"⟩, requestForA]) []
        final log ∧
      (log.filter (fun entry => performs (neverFailing KeyManager.twoKeys) entry.2)).Perm
        [(requestForA, .createClaimRequest "a" ⟨"role", 1⟩ [.offChain])] := by
  obtain ⟨final, log, run, settled⟩ := Pool.settles (fun _ => neverFailing KeyManager.twoKeys)
    (callbacks PrequalificationClient.sample [⟨1, .claimExchange, "no JSON"⟩, requestForA]) []
  have stayedLocal := failures_stay_local KeyManager.twoKeys PrequalificationClient.sample
    (fun _ => neverFailing KeyManager.twoKeys) (fun _ _ => rfl) _ final log run
  have malformed : fulfilled KeyManager.twoKeys (fun _ => neverFailing KeyManager.twoKeys)
      PrequalificationClient.sample ⟨1, .claimExchange, "no JSON"⟩ = none := rfl
  have performed := (stayedLocal.2 settled).2.2
  simp only [List.filterMap_cons, malformed, requestForA_fulfilled, List.filterMap_nil] at performed
  exact ⟨final, log, run, performed⟩

/-- The callback of an empty payload ends in an uncaught rejection, although no
call fails. -/
theorem empty_payload_rejects :
    ¬ ∀ final log, Pool.Run (Pool.recorded (fun _ => neverFailing KeyManager.twoKeys))
        (fun _ _ => False)
        (callbacks PrequalificationClient.sample [⟨0, .prequalificationExchange, ""⟩]) []
        final log →
      (∀ task ∈ final, task.2.settled ≠ none) →
      ∀ task ∈ final, task.2.settled = some (.ok ()) := by
  intro claimed
  have rejected : PrequalificationClient.sample.handle ⟨0, .prequalificationExchange, ""⟩ =
      .rejected .syntaxError := rfl
  have started : callbacks PrequalificationClient.sample [⟨0, .prequalificationExchange, ""⟩] =
      [(⟨0, .prequalificationExchange, ""⟩, .rejected .syntaxError)] := by
    simp only [callbacks, List.map_cons, List.map_nil, rejected]
  rw [started] at claimed
  have ended := claimed _ [] (.done _ _) (by simp [Program.settled])
    (⟨0, .prequalificationExchange, ""⟩, .rejected .syntaxError) (List.mem_singleton.mpr rfl)
  cases ended

end EvDashboard.Failures
