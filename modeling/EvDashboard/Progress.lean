import EvDashboard.Operation

/-!
# Claims that are heard

A claim is heard if its message is sent while a client listens, or if it is accepted before the
sweep has come to it. From then on the document holds it, a message that carries it is in
flight, or there is a program that owes its publication: in the one case the handler of such a
message, and in the other the sweep. When the process is at rest, only the first is left, unless
that program was rejected.

What a program owes is read off its code: whatever answers it can still get for an accepted claim
of a stored asset whose document lacks it, it makes the publication before it returns. Nothing
has to be said about the places where the code may stand.
-/

namespace EvDashboard.Operation

open Async JavaScript Exchange
open Async.Pool (Tasks)
open Actions (Setting Request World served Moves Sound Grown)

variable (setting : Setting) (issue : Issue)

/-- The message carries the claim: it names the address of the claim's subject, and its token
leads to an entry with the claim's id. -/
def Announces (message : Message) : Prop :=
  message.subject = .claimExchange ∧ ∃ decoded wallet,
    Listener.decode message = .ok (some decoded) ∧
    issue.subject = Did.sweepDID setting.ethers wallet ∧
    Listener.addressNamed message = some (wallet.address setting.ethers) ∧
    setting.entryId decoded.issuedToken = issue.id

/-- The subject of the claim is a stored asset. -/
def Stored (world : World) : Prop :=
  ∃ wallet ∈ world.signers, Did.sweepDID setting.ethers wallet = issue.subject

/-- The answers that a call can get once the claim is accepted for a stored asset, as long as
the document lacks it. -/
def Admits : (call : Call) → call.Answer → Prop
  | .getAllSigners, wallets =>
    ∃ wallet ∈ wallets, Did.sweepDID setting.ethers wallet = issue.subject
  | .getSignerForDID did, found => did = Did.assetDID issue.subject →
    ∃ wallet, found = some wallet ∧ Did.sweepDID setting.ethers wallet = issue.subject
  | .getClaimsBySubject _ did isAccepted, claims =>
    did = issue.subject → isAccepted = true → issue.claim ∈ claims
  | .getDidDocument _ did _, document =>
    did = issue.subject → Asset.missing document issue.claim = true
  | _, _ => True

/-- The call publishes the claim. -/
def Publishes (call : Call) : Prop :=
  ∃ key token, call = .publishPublicClaim key token ∧
    Did.sweepDID setting.ethers ⟨key⟩ = issue.subject ∧ setting.entryId token = issue.id

/-- The program publishes the claim before it returns. -/
def Owes {α : Type} (program : Awaiting α) : Prop :=
  program.Owes (Admits setting issue) (Publishes setting issue)

/-- How a claim comes to its document. -/
inductive Way where
  | sweep
  | message

/-- A program that is to see to the claim: the sweep, or the handler of a message that carries
the claim. -/
def Responsible : Way → Request → Prop
  | .sweep, .init _ => True
  | .message, .message _ message => Announces setting issue message
  | _, _ => False

/-- The document holds the claim, a message that carries it is in flight, or a program that is
to see to it owes its publication. -/
def Attended (way : Way) (state : State) : Prop :=
  state.world.documents.holds issue.subject issue.id = true ∨
  (way = .message ∧ ∃ envelope ∈ state.flying, Announces setting issue envelope.message) ∨
  ∃ task ∈ state.tasks, Responsible setting issue way task.1 ∧ Owes setting issue task.2

/-- The claim is accepted for a stored asset, and attended to. -/
structure Followed (way : Way) (state : State) : Prop where
  sound : Sound setting state.world
  accepted : issue ∈ state.world.accepted
  stored : Stored setting issue state.world
  attended : Attended setting issue way state

/-- The states in which an accepted claim of a stored asset has been heard. It was accepted
before the process was started, or when the sweep still had to come to it; or its message was
sent while a client was listening, and if a message that carries it was lost since, then there
was another one, or a handler, or the document held the claim. -/
inductive Heard (client : PrequalificationClient) (world : World) : Way → State → Prop where
  | started (accepted : issue ∈ world.accepted) (stored : Stored setting issue world) :
      Heard client world .sweep (State.started setting client world)
  | unread (state : State)
      (reached : Reached setting client (State.started setting client world) state)
      (accepted : issue ∈ state.world.accepted) (stored : Stored setting issue state.world)
      (sweep : Awaiting Unit) (present : (.init client, sweep) ∈ state.tasks)
      (owes : Owes setting issue sweep) : Heard client world .sweep state
  | sent (state : State) (message : Message)
      (reached : Reached setting client (State.started setting client world) state)
      (accepted : issue ∈ state.world.accepted) (stored : Stored setting issue state.world)
      (listening : (NatsConnection.receiver state.nats).isSome)
      (announces : Announces setting issue message) :
      Heard client world .message (state.send message)
  | step (way : Way) (state next : State) (event : Event) (earlier : Heard client world way state)
      (stepped : Step setting client state event next)
      (spared : ∀ envelope, event = .lost envelope → Announces setting issue envelope.message →
        way = .message → Attended setting issue way next) : Heard client world way next

variable {setting issue} {client : PrequalificationClient} {world : World} {state next : State}
  {way : Way}

/-- The handler of a message that carries the claim looks up the signer of its subject, and
publishes with the key that is found. -/
theorem handle_owes {message : Message} (announces : Announces setting issue message) :
    Owes setting issue (client.handle message) := by
  obtain ⟨subject, decoded, wallet, read, own, named, leads⟩ := announces
  have located := Listener.decode_names read
  rw [named] at located
  have same : Did.assetDID decoded.voltaAssetDID = Did.assetDID issue.subject := by
    rw [own, Did.assetDID_sweepDID]
    refine ((Did.keyPairDID_eq_iff _ _ _).mpr ?_).symm
    rw [Did.fourthSegment, element, ← located]
    rfl
  rw [Listener.handle_eq, read, subject]
  refine Or.inr fun found admitted => ?_
  obtain ⟨signer, rfl, stored⟩ := admitted same
  refine Or.inr fun _ _ => Or.inr fun _ _ => Or.inr fun _ _ => Or.inl ?_
  exact ⟨_, _, rfl, stored, leads⟩

/-- The sweep comes to every stored asset, and publishes the accepted claims that its document
lacks. -/
theorem init_owes (identified : setting.Identified issue) :
    Owes setting issue (client.init setting.ethers) := by
  refine Or.inr ?_
  rintro wallets ⟨wallet, listed, own⟩
  refine Program.Owes.forM listed ?_
  refine Or.inr fun _ _ => Or.inr fun _ _ => Or.inr fun _ _ => Or.inr fun claims known => ?_
  refine Or.inr fun document lacks => ?_
  refine Program.Owes.forM (known own rfl) ?_
  unfold Asset.publishMissing
  rw [if_pos (lacks own)]
  exact Or.inl ⟨_, _, rfl, own, identified⟩

/-- Of an accepted claim of a stored asset, the services give the answers that are admitted, as
long as the document lacks it. -/
theorem served_admits {call : Call} {answer : call.Answer} {world next : World}
    (sound : Sound setting world) (accepted : issue ∈ world.accepted)
    (stored : Stored setting issue world)
    (lacking : world.documents.holds issue.subject issue.id = false)
    (answered : served setting world call (.ok answer) next) :
    Admits setting issue call answer := by
  obtain ⟨wallet, listed, own⟩ := stored
  cases call with
  | getAllSigners =>
    obtain ⟨_, ⟨rfl, rfl⟩, _⟩ := answered
    exact ⟨wallet, listed, own⟩
  | getSignerForDID did =>
    obtain ⟨_, ⟨looked, rfl⟩, _⟩ := answered
    rintro rfl
    obtain ⟨other, found, _, same⟩ := sound.agree.finds _ listed
    refine ⟨other, ?_, ?_⟩
    · rw [looked, ← own, Did.assetDID_sweepDID]
      exact found
    · rw [← own, Did.sweepDID, Did.sweepDID, Wallet.address, Wallet.address, same]
  | getClaimsBySubject key did isAccepted =>
    obtain ⟨_, ⟨known, rfl⟩, _⟩ := answered
    rintro rfl asked
    exact (known asked).mem_iff.mpr (mem_claimsOf.mpr accepted)
  | getDidDocument key did includeClaims =>
    obtain ⟨_, ⟨rfl, rfl⟩, _⟩ := answered
    rintro rfl
    show Asset.missing (world.documents issue.subject) issue.claim = true
    rw [Documents.missing_eq]
    exact Bool.not_eq_true' _ ▸ lacking
  | _ => trivial

/-- A publication of the claim that succeeds puts it into the document. -/
theorem served_publishes {call : Call} {answer : call.Answer} {world next : World}
    (publishes : Publishes setting issue call)
    (answered : served setting world call (.ok answer) next) :
    next.documents.holds issue.subject issue.id = true := by
  obtain ⟨key, token, rfl, own, leads⟩ := publishes
  obtain ⟨_, ⟨_, endpoint, rfl, rfl⟩, rfl⟩ := answered
  rw [← own, ← leads]
  exact Documents.holds_appended world.documents _ ⟨setting.entryId token, endpoint⟩

/-- No call undoes anything, whether it fails or not. -/
theorem served_grown {call : Call} {outcome : Except Exception call.Answer} {world next : World}
    (step : served setting world call outcome next) : Grown world next := by
  obtain ⟨_, effect, _⟩ := Actions.served_effect step
  exact effect.grown

/-- A call keeps the keys and the claims sound. -/
theorem served_sound {call : Call} {outcome : Except Exception call.Answer} {world next : World}
    (sound : Sound setting world) (step : served setting world call outcome next) :
    Sound setting next := by
  obtain ⟨_, effect, _⟩ := Actions.served_effect step
  exact ((Actions.Accounted.initial sound).effect effect).sound

/-- So does every step of a program. -/
theorem programs_sound {tasks left : Tasks Call Call.Answer Exception Request Unit}
    {world next : World} (sound : Sound setting world)
    (step : Pool.Step (fun _ => served setting) (fun _ _ => False) tasks world left next) :
    Sound setting next := by
  cases step with
  | answered before later request call resume answer world next answered =>
    exact served_sound sound answered
  | refused before later request call resume error world next refused =>
    exact served_sound sound refused
  | moved tasks world next move => exact move.elim

/-- A program that owes the claim has published it when its call is answered, or goes on owing
it. -/
theorem answered_owes {call : Call} {resume : call.Answer → Awaiting Unit}
    {answer : call.Answer} {world next : World} (sound : Sound setting world)
    (accepted : issue ∈ world.accepted) (stored : Stored setting issue world)
    (owes : Owes setting issue (.await call resume))
    (answered : served setting world call (.ok answer) next) :
    next.documents.holds issue.subject issue.id = true ∨ Owes setting issue (resume answer) := by
  cases held : world.documents.holds issue.subject issue.id with
  | true => exact Or.inl ((served_grown answered).documents.holds held)
  | false =>
    rcases owes with publishes | later
    · exact Or.inl (served_publishes publishes answered)
    · exact Or.inr (later answer (served_admits sound accepted stored held answered))

/-- A claim stays attended to when one program goes on, if this program goes on owing it. -/
theorem Attended.replaced {nats : NatsConnection.Connection} {world next : World}
    {flying : List Envelope} {before after : Tasks Call Call.Answer Exception Request Unit}
    {request : Request} {program code : Awaiting Unit}
    (attended : Attended setting issue way
      ⟨nats, world, flying, before ++ (request, program) :: after⟩)
    (grown : Grown world next) (goes : Owes setting issue program →
      next.documents.holds issue.subject issue.id = true ∨ Owes setting issue code) :
    Attended setting issue way ⟨nats, next, flying, before ++ (request, code) :: after⟩ := by
  rcases attended with held | flies | ⟨task, member, responsible, owes⟩
  · exact Or.inl (grown.documents.holds held)
  · exact Or.inr (Or.inl flies)
  · rcases List.mem_append.mp member with early | rest
    · exact Or.inr (Or.inr ⟨task, List.mem_append_left _ early, responsible, owes⟩)
    · rcases List.mem_cons.mp rest with rfl | late
      · rcases goes owes with held | still
        · exact Or.inl held
        · exact Or.inr (Or.inr
            ⟨_, List.mem_append_right _ List.mem_cons_self, responsible, still⟩)
      · exact Or.inr (Or.inr
          ⟨task, List.mem_append_right _ (List.mem_cons_of_mem _ late), responsible, owes⟩)

/-- In a world that has grown, a claim is still accepted for a stored asset. -/
theorem Followed.grown (followed : Followed setting issue way state)
    (grown : Grown state.world next.world) (sound : Sound setting next.world)
    (attended : Attended setting issue way next) : Followed setting issue way next := by
  obtain ⟨wallet, listed, own⟩ := followed.stored
  exact ⟨sound, grown.accepted issue followed.accepted,
    ⟨wallet, grown.signers wallet listed, own⟩, attended⟩

/-- A step of the programs keeps the claim attended to. A program that owes it and fails is
rejected, and owes nothing further. -/
theorem Followed.served (followed : Followed setting issue way state)
    {tasks : Tasks Call Call.Answer Exception Request Unit} {after : World}
    (step : Pool.Step (fun _ => served setting) (fun _ _ => False) state.tasks state.world tasks
      after) : Followed setting issue way { state with world := after, tasks := tasks } := by
  obtain ⟨nats, world, flying, all⟩ := state
  cases step with
  | answered before later request call resume answer world next answered =>
    refine followed.grown (served_grown answered) (served_sound followed.sound answered) ?_
    exact followed.attended.replaced (served_grown answered)
      (fun owes => answered_owes followed.sound followed.accepted followed.stored owes answered)
  | refused before later request call resume error world next refused =>
    refine followed.grown (served_grown refused) (served_sound followed.sound refused) ?_
    exact followed.attended.replaced (served_grown refused) (fun _ => Or.inr trivial)
  | moved tasks world next move => exact move.elim

/-- When one message is taken away, the others stay in flight. -/
theorem flies_on {flying : List Envelope} {position : Nat} {envelope other : Envelope}
    (located : flying[position]? = some envelope) (flies : other ∈ flying)
    (different : other ≠ envelope) : other ∈ flying.eraseIdx position := by
  obtain ⟨place, there⟩ := List.mem_iff_getElem?.mp flies
  refine List.mem_eraseIdx_iff_getElem?.mpr ⟨place, ?_, there⟩
  rintro rfl
  exact different (Option.some.inj (there.symm.trans located))

/-- A message that is delivered is followed by its handler, which owes the claim it carries. -/
theorem Attended.delivered {position : Nat} {envelope : Envelope}
    (located : state.flying[position]? = some envelope)
    (attended : Attended setting issue way state) :
    Attended setting issue way { state with
      flying := state.flying.eraseIdx position
      tasks := state.tasks ++ [begin setting (.message client envelope.message)] } := by
  rcases attended with held | ⟨rfl, other, flies, announces⟩ | ⟨task, member, owing⟩
  · exact Or.inl held
  · by_cases same : other = envelope
    · subst same
      exact Or.inr (Or.inr ⟨_, List.mem_append_right _ (List.mem_singleton_self _), announces,
        handle_owes announces⟩)
    · exact Or.inr (Or.inl ⟨rfl, other, flies_on located flies same, announces⟩)
  · exact Or.inr (Or.inr ⟨task, List.mem_append_left _ member, owing⟩)

/-- A message that is sent adds to those in flight, if anything. -/
theorem Attended.send (attended : Attended setting issue way state) (message : Message) :
    Attended setting issue way (state.send message) := by
  unfold State.send
  split
  · rcases attended with held | ⟨same, envelope, flies, announces⟩ | owing
    · exact Or.inl held
    · exact Or.inr (Or.inl ⟨same, envelope, List.mem_append_left _ flies, announces⟩)
    · exact Or.inr (Or.inr owing)
  · exact attended

/-- Every step keeps the claim attended to, but for the loss of a message that carries it. -/
theorem Followed.step {event : Event} (followed : Followed setting issue way state)
    (stepped : Step setting client state event next)
    (spared : ∀ envelope, event = .lost envelope → Announces setting issue envelope.message →
      way = .message → Attended setting issue way next) :
    Followed setting issue way next := by
  cases stepped with
  | nats event nats stepped =>
    exact followed.grown (.refl _) followed.sound followed.attended
  | outside world move =>
    refine followed.grown move.grown (move.sound followed.sound) ?_
    rcases followed.attended with held | elsewhere
    · exact Or.inl (move.grown.documents.holds held)
    · exact Or.inr elsewhere
  | sent message =>
    have same := send_world state message
    exact followed.grown (same ▸ .refl _) (same ▸ followed.sound)
      (followed.attended.send message)
  | delivered position envelope located live =>
    exact followed.grown (.refl _) followed.sound (followed.attended.delivered located)
  | lost position envelope located closed =>
    refine followed.grown (.refl _) followed.sound ?_
    rcases followed.attended with held | ⟨rfl, other, flies, carries⟩ | owing
    · exact Or.inl held
    · by_cases announces : Announces setting issue envelope.message
      · exact spared envelope rfl announces rfl
      · have different : other ≠ envelope := by
          rintro rfl
          exact announces carries
        exact Or.inr (Or.inl ⟨rfl, other, flies_on located flies different, carries⟩)
    · exact Or.inr (Or.inr owing)
  | served tasks world step => exact followed.served step

/-- The world is sound in every state that the process comes to. -/
theorem Reached.sound (sound : Sound setting world)
    (reached : Reached setting client (State.started setting client world) state) :
    Sound setting state.world := by
  induction reached with
  | start => exact sound
  | step state next event earlier stepped inductionHypothesis =>
    cases stepped with
    | outside world move => exact move.sound inductionHypothesis
    | sent message => exact (send_world state message).symm ▸ inductionHypothesis
    | served tasks world step => exact programs_sound inductionHypothesis step
    | _ => exact inductionHypothesis

/-- A claim that has been heard is attended to. -/
theorem Heard.followed (sound : Sound setting world)
    (heard : Heard setting issue client world way state) : Followed setting issue way state := by
  induction heard with
  | started accepted stored =>
    refine ⟨sound, accepted, stored, Or.inr (Or.inr ⟨_, List.mem_singleton_self _, trivial, ?_⟩)⟩
    exact init_owes (sound.identified issue accepted)
  | unread state reached accepted stored sweep present owes =>
    exact ⟨reached.sound sound, accepted, stored, Or.inr (Or.inr ⟨_, present, trivial, owes⟩)⟩
  | sent state message reached accepted stored listening announces =>
    have same := send_world state message
    refine ⟨same ▸ reached.sound sound, same ▸ accepted, same ▸ stored,
      Or.inr (Or.inl ⟨rfl, ?_⟩)⟩
    obtain ⟨listener, receives⟩ := Option.isSome_iff_exists.mp listening
    refine ⟨⟨listener, message⟩, ?_, announces⟩
    unfold State.send
    rw [receives]
    exact List.mem_append_right _ (List.mem_singleton_self _)
  | step way state next event earlier stepped spared inductionHypothesis =>
    exact inductionHypothesis.step stepped spared

/-- At rest the document holds the claim, or a program that was to see to it was rejected. -/
theorem Followed.rested (followed : Followed setting issue way state) (rested : Rested state) :
    state.world.documents.holds issue.subject issue.id = true ∨
      ∃ task ∈ state.tasks, Responsible setting issue way task.1 ∧
        ∃ error, task.2.settled = some (.error error) := by
  obtain ⟨silent, settled⟩ := rested
  rcases followed.attended with
    held | ⟨_, envelope, flies, _⟩ | ⟨⟨request, program⟩, member, responsible, owes⟩
  · exact Or.inl held
  · rw [silent] at flies
    cases flies
  · refine Or.inr ⟨_, member, responsible, ?_⟩
    cases program with
    | done value => exact owes.elim
    | rejected error => exact ⟨error, rfl⟩
    | await call resume => exact absurd rfl (settled _ member)

/-- The messages in flight that carry the claim are with open clients. -/
def Safe (setting : Setting) (issue : Issue) (state : State) : Prop :=
  ∀ envelope ∈ state.flying, Announces setting issue envelope.message →
    Delivery.isOpen state.nats envelope.client = true

/-- No step of the process itself puts a message in flight. -/
theorem Safe.own (safe : Safe setting issue state) (own : Own setting client state next) :
    Safe setting issue next := by
  intro envelope flies
  obtain ⟨position, other, located, taken, same⟩ | ⟨tasks, world, step, rfl⟩ := own_cases own
  · rw [same]
    exact safe envelope (List.mem_of_mem_eraseIdx (taken ▸ flies))
  · exact safe envelope flies

/-- So the process loses none of them, and keeps the claim attended to. -/
theorem Followed.own (followed : Followed setting issue way state)
    (safe : way = .message → Safe setting issue state) (own : Own setting client state next) :
    Followed setting issue way next := by
  obtain ⟨event, mine, stepped⟩ := own
  refine followed.step stepped ?_
  rintro envelope rfl announces same
  cases stepped with
  | lost position other located closed =>
    rw [safe same envelope (List.mem_of_getElem? located) announces] at closed
    cases closed

/-- A run of the programs is one of the process. -/
theorem run_own {nats : NatsConnection.Connection} {flying : List Envelope} {last : World}
    {tasks left : Tasks Call Call.Answer Exception Request Unit}
    (run : Pool.Run (fun _ => served setting) (fun _ _ => False) tasks world left last) :
    Relation.ReflTransGen (Own setting client) ⟨nats, world, flying, tasks⟩
      ⟨nats, last, flying, left⟩ := by
  induction run with
  | done tasks world => exact .refl
  | step first rest inductionHypothesis =>
    exact .head ⟨_, rfl, .served _ _ _ first⟩ inductionHypothesis

section Sample

open Actions (sampleSetting sampleTable sampleDID sampleClaim)

/-- One stored key and no claim. -/
def nothingAccepted : World := ⟨sampleTable, [], fun _ => ⟨[]⟩, fun _ => [], []⟩

theorem nothingAccepted_sound : Sound sampleSetting nothingAccepted :=
  ⟨Actions.claimAccepted_sound.agree, Actions.claimAccepted_sound.separate, .nil, nofun⟩

/-- The message of the claim. -/
def announcement : Message := ⟨0, .claimExchange,
  "\x7b\"requester\":\"" ++ sampleDID ++ "\",\"issuedToken\":\"token\"\x7d"⟩

theorem announcement_decoded : Listener.decode announcement =
    .ok (some ⟨sampleDID, some (.string "token")⟩) := rfl

theorem announcement_announces : Announces sampleSetting ⟨sampleDID, sampleClaim⟩ announcement := by
  refine ⟨rfl, _, ⟨"a"⟩, announcement_decoded, rfl, ?_, rfl⟩
  rw [Listener.decode_names announcement_decoded]
  decide

/-- Its handler looks up the key, creates clients and publishes. -/
theorem sample_handle : ∃ resume : Option Wallet → Awaiting Unit,
    PrequalificationClient.sample.handle announcement =
        .await (.getSignerForDID (Did.assetDID sampleDID)) resume ∧
      resume (some ⟨"a"⟩) = .await (.initWithPrivateKeySigner "a" "rpc") (fun _ =>
        .await (.connectToCacheServer "a" messagingConfig cacheConfig) (fun _ =>
          .await (.connectToDidRegistry "a") (fun _ =>
            .await (.publishPublicClaim "a" (some (.string "token"))) (fun _ => .done ())))) := by
  rw [Listener.handle_eq, announcement_decoded]
  exact ⟨_, rfl, rfl⟩

end Sample

end EvDashboard.Operation
