import EvDashboard.Exchange

/-!
# When no claim is published twice

The sweep looks at the document once for each asset and the handlers never do, so
a claim is published twice when a handler runs for it while the sweep has not
seen its publication. Two conditions exclude this: no message is delivered for a
claim that the sweep has selected, and no handler is still running for a claim
that the sweep is about to select.

The ledger part of the invariant separates the claims the sweep selects from
those handlers run for; the sweeping part relates the records to the loop the
sweep is in.
-/

namespace EvDashboard.Exchange

open Documents

/-- What relates messages, handlers and the record of invocations: each claim has
one message; what was invoked was selected, or is the claim of a handler that has
come to its publication; and no handler's claim was selected. -/
structure Ledger (stored : List String) (state : State) : Prop where
  accepted : state.accepted.Nodup
  known : ∀ issue ∈ state.announced, issue ∈ state.accepted
  sent : ∀ issue ∈ state.messages, issue ∈ state.announced
  single : state.messages.Nodup
  calls : state.calls.Nodup
  origin : ∀ issue ∈ state.calls, issue ∈ state.selected ∨
    ∃ handler ∈ state.handlers, handler.issue = issue ∧ handler.state.called = true
  chosen : ∀ issue ∈ state.selected, issue ∈ state.accepted
  apart : ∀ handler ∈ state.handlers, handler.issue ∉ state.selected
  answered : ∀ handler ∈ state.handlers, handler.state = .finished →
    handler.issue.subject ∈ stored →
      state.documents.holds handler.issue.subject handler.issue.id = true

/-- What relates the loop the sweep is in to the records: claims to come were not
invoked, selected claims are pending or published, and what was read is accepted. -/
structure Sweeping (stored : List String) (state : State) : Prop where
  upcoming : ∀ issue ∈ state.sweep.upcoming, issue ∉ state.calls
  settled : ∀ issue ∈ state.selected, issue ∈ state.sweep.pending ∨
    state.documents.holds issue.subject issue.id = true
  pending : ∀ issue ∈ state.sweep.pending, issue ∈ state.selected
  distinct : state.sweep.pending.Nodup
  ahead : ∀ did ∈ state.sweep.ahead, did ∈ stored
  read : ∀ did rest claims, state.sweep = .readingDocument did rest claims →
    claims.Nodup ∧ ∀ claim ∈ claims, Issue.mk did claim ∈ state.accepted

/-- The condition on steps: a delivered message is for a claim not selected, and
when the document is read no handler runs for a claim that will be selected. A claim
counts as selected from the answer of the document read on, which is one step here. -/
def Separate (state : State) : Event → Prop
  | .deliver position => ∀ letter, state.bus[position]? = some letter →
      letter.issue ∉ state.selected
  | .sweep => ∀ did rest claims, state.sweep = .readingDocument did rest claims →
      ∀ handler ∈ state.handlers, handler.state ≠ .finished →
        handler.issue ∉ (state.lacking did claims).map (Issue.mk did)
  | _ => True

variable {stored : List String} {state : State}

/-- The claim of a handler that has not come to its publication was not invoked:
the sweep did not select it, and no other handler has the same claim. -/
theorem Ledger.early (ledger : Ledger stored state) {before after : List Handler}
    {handler : Handler} (located : state.handlers = before ++ handler :: after)
    (waits : handler.state.called = false) : handler.issue ∉ state.calls := by
  intro invoked
  have member : handler ∈ state.handlers := by
    rw [located]
    exact List.mem_append_right _ List.mem_cons_self
  rcases ledger.origin _ invoked with selected | ⟨other, present, same, called⟩
  · exact ledger.apart handler member selected
  · have distinct : (state.handlers.map Handler.issue).Nodup :=
      (List.nodup_append.mp ledger.single).2.1
    rw [located, List.map_append, List.map_cons] at distinct
    obtain ⟨_, late, early⟩ := List.nodup_append.mp distinct
    rw [located] at present
    rcases List.mem_append.mp present with first | rest
    · exact early _ (List.mem_map_of_mem first) _ List.mem_cons_self same
    · rcases List.mem_cons.mp rest with rfl | last
      · rw [waits] at called
        cases called
      · exact (List.nodup_cons.mp late).1 (same ▸ List.mem_map_of_mem last)

/-- Documents that only grow keep the ledger. -/
theorem Ledger.grow (ledger : Ledger stored state) {documents : Documents}
    (grown : Extends state.documents documents) :
    Ledger stored { state with documents := documents } :=
  { ledger with
    answered := fun handler member ended known =>
      grown.holds (ledger.answered handler member ended known) }

/-- A handler that moves on keeps the ledger, if it loses no invocation and ends
only with its claim published or without a signer. -/
theorem Ledger.rehandle (ledger : Ledger stored state) {before after : List Handler}
    {handler : Handler} (located : state.handlers = before ++ handler :: after)
    (next : HandlerState) (kept : handler.state.called = true → next.called = true)
    (ends : next = .finished → handler.issue.subject ∈ stored →
      state.documents.holds handler.issue.subject handler.issue.id = true) :
    Ledger stored
      { state with handlers := before ++ { handler with state := next } :: after } := by
  have issues : (before ++ { handler with state := next } :: after).map Handler.issue =
      state.handlers.map Handler.issue := by
    rw [located, List.map_append, List.map_append, List.map_cons, List.map_cons]
  have old (other : Handler) (member : other ∈ before ++ after) : other ∈ state.handlers := by
    rw [located]
    rcases List.mem_append.mp member with first | last
    · exact List.mem_append_left _ first
    · exact List.mem_append_right _ (List.mem_cons_of_mem _ last)
  have moved : handler ∈ state.handlers := by
    rw [located]
    exact List.mem_append_right _ List.mem_cons_self
  have cases (other : Handler)
      (member : other ∈ before ++ { handler with state := next } :: after) :
      other = { handler with state := next } ∨ other ∈ state.handlers := by
    rcases List.mem_append.mp member with first | rest
    · exact Or.inr (old other (List.mem_append_left _ first))
    · rcases List.mem_cons.mp rest with same | last
      · exact Or.inl same
      · exact Or.inr (old other (List.mem_append_right _ last))
  refine { ledger with
    sent := ?_, single := ?_, origin := ?_, apart := ?_, answered := ?_ }
  · simp only [State.messages, issues]
    exact ledger.sent
  · simp only [State.messages, issues]
    exact ledger.single
  · intro issue invoked
    rcases ledger.origin issue invoked with selected | ⟨other, present, same, called⟩
    · exact Or.inl selected
    · right
      rw [located] at present
      rcases List.mem_append.mp present with first | rest
      · exact ⟨other, List.mem_append_left _ first, same, called⟩
      · rcases List.mem_cons.mp rest with rfl | last
        · exact ⟨_, List.mem_append_right _ List.mem_cons_self, same, kept called⟩
        · exact ⟨other, List.mem_append_right _ (List.mem_cons_of_mem _ last), same, called⟩
  · intro other member
    rcases cases other member with rfl | present
    · exact ledger.apart handler moved
    · exact ledger.apart other present
  · intro other member ended known
    rcases cases other member with rfl | present
    · exact ends ended known
    · exact ledger.answered other present ended known

/-- Both parts of the invariant. -/
structure Once (stored : List String) (state : State) : Prop where
  ledger : Ledger stored state
  sweeping : Sweeping stored state

/-- What is neither the sweep's nor a new invocation keeps the sweeping part, if
documents and accepted claims only grow. -/
theorem Sweeping.frame (sweeping : Sweeping stored state) {next : State}
    (sweep : next.sweep = state.sweep) (selected : next.selected = state.selected)
    (calls : next.calls = state.calls) (grown : Extends state.documents next.documents)
    (kept : ∀ issue ∈ state.accepted, issue ∈ next.accepted) : Sweeping stored next where
  upcoming := by
    rw [sweep, calls]
    exact sweeping.upcoming
  settled := by
    rw [sweep, selected]
    exact fun issue member =>
      (sweeping.settled issue member).imp id (fun published => grown.holds published)
  pending := by
    rw [sweep, selected]
    exact sweeping.pending
  distinct := by
    rw [sweep]
    exact sweeping.distinct
  ahead := by
    rw [sweep]
    exact sweeping.ahead
  read := by
    rw [sweep]
    intro did rest claims reading
    obtain ⟨distinct, listed⟩ := sweeping.read did rest claims reading
    exact ⟨distinct, fun claim member => kept _ (listed claim member)⟩

/-- Going on with a list of selected claims, none of them invoked yet, keeps the
invariant: the first one is invoked, the others are to come. -/
theorem Ledger.goOn (ledger : Ledger stored state) {did : String} {rest : List String}
    {claims : List IssuedClaim} (known : ∀ other ∈ did :: rest, other ∈ stored)
    (distinct : (claims.map (Issue.mk did)).Nodup)
    (selected : ∀ issue ∈ claims.map (Issue.mk did), issue ∈ state.selected)
    (fresh : ∀ issue ∈ claims.map (Issue.mk did), issue ∉ state.calls)
    (settled : ∀ issue ∈ state.selected, issue ∈ claims.map (Issue.mk did) ∨
      state.documents.holds issue.subject issue.id = true) :
    Once stored { state with
      sweep := nextClaim did rest claims
      calls := state.calls ++ invoked did claims } := by
  cases claims with
  | nil =>
    refine ⟨{ ledger with calls := ?_, origin := ?_ }, ?_, ?_, ?_, ?_, ?_, ?_⟩
    · simpa only [invoked, List.append_nil] using ledger.calls
    · simpa only [invoked, List.append_nil] using ledger.origin
    · simp [nextClaim]
    · simp only [nextClaim, nextAsset_pending]
      exact settled
    · simp [nextClaim]
    · simp [nextClaim]
    · simp only [nextClaim, nextAsset_ahead]
      exact fun other member => known other (List.mem_cons_of_mem _ member)
    · intro _ _ _ reading
      simp only [nextClaim] at reading
      cases rest <;> cases reading
  | cons claim more =>
    have first : Issue.mk did claim ∉ state.calls := fresh _ List.mem_cons_self
    obtain ⟨apart, later⟩ := List.nodup_cons.mp distinct
    refine ⟨{ ledger with calls := ?_, origin := ?_ }, ?_, settled, selected, distinct, known,
      nofun⟩
    · refine List.nodup_append.mpr ⟨ledger.calls, by simp [invoked], ?_⟩
      rintro earlier member last present rfl
      obtain rfl := List.mem_singleton.mp present
      exact first member
    · intro issue member
      rcases List.mem_append.mp member with earlier | last
      · exact ledger.origin issue earlier
      · obtain rfl := List.mem_singleton.mp last
        exact Or.inl (selected _ List.mem_cons_self)
    · intro issue member invoked
      rcases List.mem_append.mp invoked with earlier | last
      · exact fresh issue (List.mem_cons_of_mem _ member) earlier
      · obtain rfl := List.mem_singleton.mp last
        exact apart member

/-- Claims that no handler runs for may be selected. -/
theorem Ledger.selecting (ledger : Ledger stored state) {issues : List Issue}
    (accepted : ∀ issue ∈ issues, issue ∈ state.accepted)
    (unhandled : ∀ issue ∈ issues, ∀ handler ∈ state.handlers, handler.issue ≠ issue) :
    Ledger stored { state with selected := state.selected ++ issues } :=
  { ledger with
    origin := fun issue invoked =>
      (ledger.origin issue invoked).imp (List.mem_append_left _) id
    chosen := by
      intro issue member
      rcases List.mem_append.mp member with earlier | new
      · exact ledger.chosen issue earlier
      · exact accepted issue new
    apart := by
      intro handler present member
      rcases List.mem_append.mp member with earlier | new
      · exact ledger.apart handler present earlier
      · exact unhandled _ new handler present rfl }

/-- A claim that the sweep selects was read and is missing from the document. -/
theorem lacking_missing {did : String} {claims : List IssuedClaim} {issue : Issue}
    (member : issue ∈ (state.lacking did claims).map (Issue.mk did)) :
    issue.subject = did ∧ issue.claim ∈ claims ∧
      state.documents.holds issue.subject issue.id = false := by
  obtain ⟨claim, present, rfl⟩ := List.mem_map.mp member
  obtain ⟨listed, missing⟩ := List.mem_filter.mp present
  exact ⟨rfl, listed, by simpa [Issue.id] using missing⟩

/-- The sweep reads the document. A claim it selects is missing from the document,
so it was not selected before, and no handler has finished with it; by the
condition none is running for it either. -/
theorem Once.select (once : Once stored state) {did : String} {rest : List String}
    {claims : List IssuedClaim} (reading : state.sweep = .readingDocument did rest claims)
    (separate : ∀ handler ∈ state.handlers, handler.state ≠ .finished →
      handler.issue ∉ (state.lacking did claims).map (Issue.mk did)) :
    Once stored (Exchange.select did rest claims state) := by
  obtain ⟨distinct, accepted⟩ := once.sweeping.read did rest claims reading
  have known : ∀ other ∈ did :: rest, other ∈ stored := by
    have ahead := once.sweeping.ahead
    rw [reading] at ahead
    exact ahead
  have idle : state.sweep.pending = [] := by rw [reading]; rfl
  have unselected (issue : Issue)
      (member : issue ∈ (state.lacking did claims).map (Issue.mk did)) :
      issue ∉ state.selected := by
    intro selected
    have published := once.sweeping.settled issue selected
    simp only [idle, List.not_mem_nil, false_or, (lacking_missing member).2.2] at published
    cases published
  have unhandled (issue : Issue)
      (member : issue ∈ (state.lacking did claims).map (Issue.mk did)) :
      ∀ handler ∈ state.handlers, handler.issue ≠ issue := by
    rintro handler present rfl
    obtain ⟨subject, _, missing⟩ := lacking_missing member
    by_cases ended : handler.state = .finished
    · have published := once.ledger.answered handler present ended
        (subject ▸ known did List.mem_cons_self)
      rw [missing] at published
      cases published
    · exact separate handler present ended member
  have listed (issue : Issue)
      (member : issue ∈ (state.lacking did claims).map (Issue.mk did)) :
      issue ∈ state.accepted := by
    obtain ⟨rfl, read, _⟩ := lacking_missing member
    exact accepted issue.claim read
  have selecting := once.ledger.selecting listed unhandled
  apply selecting.goOn known
  · refine List.Pairwise.map (Issue.mk did) ?_ (distinct.filter _)
    intro left right different same
    exact different (congrArg Issue.claim same)
  · exact fun issue member => List.mem_append_right _ member
  · intro issue member invoked
    rcases once.ledger.origin issue invoked with selected | ⟨handler, present, same, _⟩
    · exact unselected issue member selected
    · exact unhandled issue member handler present same
  · intro issue member
    rcases List.mem_append.mp member with earlier | new
    · have published := once.sweeping.settled issue earlier
      rw [idle] at published
      exact published.imp (fun none => (by cases none)) id
    · exact Or.inl new

/-- A publication of the sweep succeeds: its claim is held from now on, and the
loop goes on with the others. -/
theorem Once.published (once : Once stored state) {did : String} {rest : List String}
    {claim : IssuedClaim} {more : List IssuedClaim} (endpoint : String)
    (running : state.sweep = .publishing did rest claim more) :
    Once stored (Exchange.published endpoint did rest claim more state) := by
  have sweeping := once.sweeping
  have grown : Extends state.documents (state.documents.append did ⟨claim.id, endpoint⟩) :=
    append_extends _ _ _
  have selected := sweeping.pending
  have distinct := sweeping.distinct
  have ahead := sweeping.ahead
  have upcoming := sweeping.upcoming
  have settled := sweeping.settled
  rw [running] at selected distinct ahead upcoming settled
  apply (once.ledger.grow grown).goOn ahead (List.nodup_cons.mp distinct).2
  · exact fun issue member => selected issue (List.mem_cons_of_mem _ member)
  · exact upcoming
  · intro issue member
    rcases settled issue member with pending | published
    · rcases List.mem_cons.mp pending with rfl | later
      · exact Or.inr (holds_appended _ _ _)
      · exact Or.inl later
    · exact Or.inr (grown.holds published)

/-- The sweep moves between awaits at which nothing selected is pending. -/
theorem Once.resweep (once : Once stored state) (idle : state.sweep.pending = [])
    {next : SweepState} (nothing : next.pending = []) (quiet : next.upcoming = [])
    (ahead : ∀ did ∈ next.ahead, did ∈ stored)
    (read : ∀ did rest claims, next = .readingDocument did rest claims →
      claims.Nodup ∧ ∀ claim ∈ claims, Issue.mk did claim ∈ state.accepted) :
    Once stored { state with sweep := next } := by
  refine ⟨{ once.ledger with }, ?_, ?_, ?_, ?_, ahead, read⟩
  · rw [quiet]
    exact fun _ member => (by cases member)
  · intro issue selected
    have published := once.sweeping.settled issue selected
    rw [idle] at published
    exact published.imp (fun none => (by cases none)) id
  · rw [nothing]
    exact fun _ member => (by cases member)
  · rw [nothing]
    exact List.nodup_nil

/-- A message is delivered for a claim that the sweep has not selected. -/
theorem Ledger.deliver (ledger : Ledger stored state) {position : Nat} {letter : Letter}
    (located : state.bus[position]? = some letter) (separate : letter.issue ∉ state.selected) :
    Ledger stored (Exchange.deliver position letter state) := by
  obtain ⟨before, after, whole, erased, _⟩ := Transition.located_split located
  have same : (Exchange.deliver position letter state).messages.Perm state.messages := by
    simp only [Exchange.deliver, State.messages, erased]
    rw [whole]
    simp only [List.map_append, List.map_cons, List.map_nil, List.append_assoc, List.cons_append]
    refine List.Perm.append_left _ ?_
    rw [← List.append_assoc]
    exact List.perm_append_singleton _ _
  refine { ledger with
    sent := fun issue member => ledger.sent issue (same.mem_iff.mp member)
    single := same.nodup_iff.mpr ledger.single
    origin := ?_, apart := ?_, answered := ?_ }
  · intro issue invoked
    refine (ledger.origin issue invoked).imp id ?_
    rintro ⟨handler, present, found⟩
    exact ⟨handler, List.mem_append_left _ present, found⟩
  · intro handler member
    rcases List.mem_append.mp member with earlier | new
    · exact ledger.apart handler earlier
    · obtain rfl := List.mem_singleton.mp new
      exact separate
  · intro handler member ended known
    rcases List.mem_append.mp member with earlier | new
    · exact ledger.answered handler earlier ended known
    · obtain rfl := List.mem_singleton.mp new
      cases ended

/-- A handler invokes its publication, which nothing has invoked before. -/
theorem Once.startPublishing (once : Once stored state) {position : Nat} {handler : Handler}
    (located : state.handlers[position]? = some handler) (waits : handler.state.called = false) :
    Once stored (Exchange.startPublishing position handler.issue state) := by
  obtain ⟨before, after, whole, _, changed⟩ := Transition.located_split located
  have moved := once.ledger.rehandle whole .publishing (fun _ => rfl) nofun
  have fresh : handler.issue ∉ state.calls := once.ledger.early whole waits
  have member : handler ∈ state.handlers := List.mem_of_getElem? located
  simp only [Exchange.startPublishing, move, changed]
  refine ⟨{ moved with calls := ?_, origin := ?_ }, ?_, once.sweeping.settled,
    once.sweeping.pending, once.sweeping.distinct, once.sweeping.ahead, once.sweeping.read⟩
  · refine List.nodup_append.mpr ⟨once.ledger.calls, by simp, ?_⟩
    rintro earlier present last new rfl
    obtain rfl := List.mem_singleton.mp new
    exact fresh present
  · intro issue invoked
    rcases List.mem_append.mp invoked with earlier | last
    · exact moved.origin issue earlier
    · obtain rfl := List.mem_singleton.mp last
      exact Or.inr ⟨_, List.mem_append_right _ List.mem_cons_self, rfl, rfl⟩
  · intro issue upcoming invoked
    rcases List.mem_append.mp invoked with earlier | last
    · exact once.sweeping.upcoming issue upcoming earlier
    · obtain rfl := List.mem_singleton.mp last
      exact once.ledger.apart handler member
        (once.sweeping.pending _ (upcoming_pending upcoming))

/-- A handler moves between awaits before its publication, or ends without one. -/
theorem Once.move (once : Once stored state) {position : Nat} {handler : Handler}
    (located : state.handlers[position]? = some handler) (next : HandlerState)
    (waits : handler.state.called = false)
    (ends : next = .finished → handler.issue.subject ∉ stored) :
    Once stored (Exchange.move position next state) := by
  obtain ⟨before, after, whole, _, changed⟩ := Transition.located_split located
  have moved := once.ledger.rehandle whole next
    (fun called => by rw [waits] at called; cases called)
    (fun ended known => absurd known (ends ended))
  simp only [Exchange.move, changed]
  exact ⟨moved, once.sweeping.frame rfl rfl rfl (Extends.refl _) (fun _ member => member)⟩

/-- The publication of a handler succeeds: its claim is held from now on. -/
theorem Once.handled (once : Once stored state) {position : Nat} {handler : Handler}
    (endpoint : String) (located : state.handlers[position]? = some handler) :
    Once stored (Exchange.handled endpoint position handler.issue state) := by
  obtain ⟨before, after, whole, _, changed⟩ := Transition.located_split located
  have grown : Extends state.documents
      (state.documents.append handler.issue.subject ⟨handler.issue.id, endpoint⟩) :=
    append_extends _ _ _
  have moved := (once.ledger.grow grown).rehandle whole .finished (fun _ => rfl)
    (fun _ _ => holds_appended _ _ _)
  simp only [Exchange.handled, Exchange.move, changed]
  exact ⟨moved, once.sweeping.frame rfl rfl rfl grown (fun _ member => member)⟩

/-- A claim is accepted that was not accepted before. -/
theorem Once.accept (once : Once stored state) {issue : Issue}
    (fresh : issue ∉ state.accepted) : Once stored (Exchange.accept issue state) where
  ledger :=
    { once.ledger with
      accepted := by
        refine List.nodup_append.mpr ⟨once.ledger.accepted, by simp, ?_⟩
        rintro earlier member last present rfl
        obtain rfl := List.mem_singleton.mp present
        exact fresh member
      known := fun other member => List.mem_append_left _ (once.ledger.known other member)
      chosen := fun other member => List.mem_append_left _ (once.ledger.chosen other member) }
  sweeping := once.sweeping.frame rfl rfl rfl (Extends.refl _)
    (fun _ member => List.mem_append_left _ member)

/-- The one message of an accepted claim is sent. -/
theorem Once.announce (once : Once stored state) (client : Nat) {issue : Issue}
    (known : issue ∈ state.accepted) (unsent : issue ∉ state.announced) :
    Once stored (Exchange.announce client issue state) := by
  have ledger := once.ledger
  have same : (Exchange.announce client issue state).messages.Perm (issue :: state.messages) := by
    simp only [State.messages, Exchange.announce, List.map_append, List.map_cons, List.map_nil,
      List.append_assoc, List.cons_append, List.nil_append]
    exact List.perm_middle
  refine ⟨{ ledger with known := ?_, sent := ?_, single := ?_ },
    once.sweeping.frame rfl rfl rfl (Extends.refl _) (fun _ member => member)⟩
  · intro other member
    rcases List.mem_append.mp member with earlier | last
    · exact ledger.known other earlier
    · obtain rfl := List.mem_singleton.mp last
      exact known
  · intro other member
    rcases List.mem_cons.mp (same.mem_iff.mp member) with rfl | earlier
    · exact List.mem_append_right _ List.mem_cons_self
    · exact List.mem_append_left _ (ledger.sent other earlier)
  · exact same.nodup_iff.mpr (List.nodup_cons.mpr
      ⟨fun member => unsent (ledger.sent issue member), ledger.single⟩)

/-- A message in flight is lost. -/
theorem Once.lose (once : Once stored state) (position : Nat) :
    Once stored (Exchange.lose position state) := by
  have fewer : (Exchange.lose position state).messages.Sublist state.messages :=
    ((List.eraseIdx_sublist _ _).map _).append_right _
  exact ⟨{ once.ledger with
      sent := fun other member => once.ledger.sent other (fewer.subset member)
      single := once.ledger.single.sublist fewer },
    once.sweeping.frame rfl rfl rfl (Extends.refl _) (fun _ member => member)⟩

/-- A message in flight is delivered for a claim that the sweep has not selected. -/
theorem Once.deliver (once : Once stored state) {position : Nat} {letter : Letter}
    (located : state.bus[position]? = some letter) (separate : letter.issue ∉ state.selected) :
    Once stored (Exchange.deliver position letter state) :=
  ⟨once.ledger.deliver located separate,
    once.sweeping.frame rfl rfl rfl (Extends.refl _) (fun _ member => member)⟩

/-- The cache server lists the accepted claims of an asset. -/
theorem Once.readClaims (once : Once stored state) {did : String} {rest : List String}
    {claims : List IssuedClaim} (reading : state.sweep = .readingClaims did rest)
    (listed : claims.Perm (state.claimsOf did)) :
    Once stored { state with sweep := .readingDocument did rest claims } := by
  have ahead := once.sweeping.ahead
  rw [reading] at ahead
  refine once.resweep (by rw [reading]; rfl) rfl rfl ahead ?_
  rintro _ _ _ ⟨⟩
  exact ⟨listed.nodup_iff.mpr (claimsOf_nodup once.ledger.accepted did),
    fun claim member => mem_claimsOf.mp (listed.mem_iff.mp member)⟩

/-- Every event that meets the condition keeps the invariant. -/
theorem step_once (state : State) (event : Event) (next : State) (once : Once stored state)
    (separate : Separate state event) (stepped : step stored state event = some next) :
    Once stored next := by
  have ahead := once.sweeping.ahead
  cases step_effect stepped with
  | accepted issue fresh => exact once.accept fresh
  | announced client issue known unsent => exact once.announce client known unsent
  | lost position inside => exact once.lose position
  | delivered position letter located => exact once.deliver located (separate letter located)
  | signersRead reached =>
    refine once.resweep (by rw [reached]; rfl) (nextAsset_pending _) (nextAsset_upcoming _) ?_ ?_
    · rw [nextAsset_ahead]
      exact fun _ member => member
    · intro _ _ _ reading
      cases stored <;> cases reading
  | sweepStage stage later did rest reached following =>
    rw [reached] at ahead
    exact once.resweep (by rw [reached]; rfl) rfl rfl ahead nofun
  | sweepCreated stage did rest reached following =>
    rw [reached] at ahead
    exact once.resweep (by rw [reached]; rfl) rfl rfl ahead nofun
  | claimsRead did rest claims reached listed => exact once.readClaims reached listed
  | documentRead did rest claims reached =>
    exact once.select reached (separate did rest claims reached)
  | sweepPublished endpoint did rest claim more reached => exact once.published endpoint reached
  | signerFound position handler located reached known =>
    exact once.move located _ (by rw [reached]; rfl) nofun
  | signerAbsent position handler located reached unknown =>
    exact once.move located _ (by rw [reached]; rfl) (fun _ => unknown)
  | handlerStage position handler stage later located reached following =>
    exact once.move located _ (by rw [reached]; rfl) nofun
  | handlerCreated position handler stage located reached following =>
    exact once.startPublishing located (by rw [reached]; rfl)
  | handlerPublished position endpoint handler located reached =>
    exact once.handled endpoint located

/-- A process that has just started has called and selected nothing. -/
theorem started_once {accepted : List Issue} (distinct : accepted.Nodup) (documents : Documents) :
    Once stored (State.started accepted documents) := by
  refine ⟨⟨distinct, ?_, ?_, List.nodup_nil, List.nodup_nil, ?_, ?_, ?_, ?_⟩, ?_, ?_, ?_,
    List.nodup_nil, ?_, nofun⟩ <;>
    exact fun _ member => (by cases member)

/-- An accepted claim stays accepted: no event removes one. -/
theorem step_accepted (state : State) (event : Event) (next : State)
    (stepped : step stored state event = some next) : state.accepted.Sublist next.accepted := by
  cases step_effect stepped with
  | accepted issue fresh => exact List.sublist_append_left _ _
  | _ => exact List.Sublist.refl _

/-- What was invoked is accepted. -/
theorem Ledger.invoked_accepted (ledger : Ledger stored state) {issue : Issue}
    (invoked : issue ∈ state.calls) : issue ∈ state.accepted := by
  rcases ledger.origin issue invoked with selected | ⟨handler, present, rfl, _⟩
  · exact ledger.chosen issue selected
  · exact ledger.known _ (ledger.sent _ (List.mem_append_right _ (List.mem_map_of_mem present)))

/-- If no message is delivered for a claim the sweep has selected, and the sweep
reads no document while a handler runs for a claim it is about to select, then
`publishPublicClaim` is called at most once for each issued claim, in every
reachable state.

Each step keeps the invariant; the invocations are then distinct accepted claims,
and accepted claims have distinct ids. -/
theorem published_once (stored : List String) (accepted : List Issue) (documents : Documents)
    (events : List Event) (final : State)
    (ran : Transition.run (step stored) (State.started accepted documents) events = some final)
    (distinct : (final.accepted.map Issue.id).Nodup)
    (separate : Transition.Meets (step stored) Separate (State.started accepted documents) events) :
    (final.calls.map Issue.id).Nodup := by
  have earlier : accepted.Sublist final.accepted :=
    Transition.run_invariant (fun state => accepted.Sublist state.accepted)
      (fun state event next kept stepped => kept.trans (step_accepted state event next stepped))
      (List.Sublist.refl _) ran
  have different : (final.accepted).Nodup :=
    (List.pairwise_map.mp distinct).imp (fun ids same => ids (congrArg Issue.id same))
  have once : Once stored final :=
    separate.invariant (Once stored) step_once
      (started_once (different.sublist earlier) documents) ran
  have apart : final.accepted.Pairwise (fun left right => left.id ≠ right.id) :=
    List.pairwise_map.mp distinct
  have ids : ∀ left ∈ final.accepted, ∀ right ∈ final.accepted, left.id = right.id → left = right :=
    List.Pairwise.forall_of_forall_of_flip (fun _ _ _ => rfl)
      (apart.imp (fun unequal same => absurd same unequal))
      (apart.imp (fun unequal same => absurd same.symm unequal))
  exact List.pairwise_map.mpr (once.ledger.calls.imp_of_mem
    (fun left right unequal same => unequal (ids _ (once.ledger.invoked_accepted left) _
      (once.ledger.invoked_accepted right) same)))

/-- A message is delivered before the sweep has read anything, and its handler
comes to its publication. -/
def earlyEvents : List Event :=
  [.accept ⟨"did", "id", some "token"⟩, .announce 0 ⟨"did", "id", some "token"⟩, .deliver 0,
    .handler 0, .handler 0, .handler 0, .handler 0, .sweep]

/-- In this run the claim is published once, by the handler. -/
theorem early_message_published_once :
    ∃ final, Transition.run (step ["did"]) (State.started [] (fun _ => ⟨[]⟩)) earlyEvents =
        some final ∧
      final.calls = [⟨"did", "id", some "token"⟩] ∧ (final.calls.map Issue.id).Nodup := by
  refine ⟨_, rfl, by decide,
    published_once ["did"] [] (fun _ => ⟨[]⟩) earlyEvents _ rfl (by decide) ?_⟩
  refine ⟨trivial, ?_⟩
  rintro _ ⟨⟩
  refine ⟨trivial, ?_⟩
  rintro _ ⟨⟩
  refine ⟨?_, ?_⟩
  · rintro _ ⟨⟩ selected
    cases selected
  · rintro _ ⟨⟩
    refine ⟨trivial, ?_⟩
    rintro _ ⟨⟩
    refine ⟨trivial, ?_⟩
    rintro _ ⟨⟩
    refine ⟨trivial, ?_⟩
    rintro _ ⟨⟩
    refine ⟨trivial, ?_⟩
    rintro _ ⟨⟩
    exact ⟨nofun, fun _ _ => trivial⟩

/-- The sweep has read the accepted claim when the claim's message is delivered;
it then selects the claim that the handler is about to publish too. -/
def overlappingEvents : List Event :=
  [.accept ⟨"did", "id", some "token"⟩, .sweep, .sweep, .sweep, .sweep,
    .sweepClaims [⟨"id", some "token"⟩], .announce 0 ⟨"did", "id", some "token"⟩, .deliver 0,
    .sweep, .handler 0, .handler 0, .handler 0, .handler 0]

/-- In this run the one claim is published by the sweep and by its handler. -/
theorem claim_published_twice :
    ¬ ∀ final, Transition.run (step ["did"]) (State.started [] (fun _ => ⟨[]⟩)) overlappingEvents =
        some final → (final.accepted.map Issue.id).Nodup → (final.calls.map Issue.id).Nodup := by
  intro claimed
  have twice := claimed _ rfl (by decide)
  exact absurd twice (by decide)

end EvDashboard.Exchange
