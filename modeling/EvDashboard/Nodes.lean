import EvDashboard.EvRegistry
import EvDashboard.Naming
import EvDashboard.Registry

/-!
# Domains of node operators

An operator holds the domain it is linked to. Linking a domain closes it to everybody,
and unlinking opens it again. An operator that is linked to another domain without being
unlinked first leaves its old domain closed for good: only a holder can release a name,
and nobody can become the holder of a closed one.
-/

namespace EvDashboard.Registry.Nodes

open Naming Transition
open EvDashboardRegistry (assign assign_same assign_other nodup_push)

/-- The domains as exclusive names. -/
def names (storage : Storage) : Names Address Bytes where
  holds := fun operator =>
    if storage.nodeOf operator = [] then none else some (storage.nodeOf operator)
  closed := fun domain _ => storage.uniqueDomains domain = true

/-- What an action does to the domains. -/
def naming (storage : Storage) : Action → Naming.Event Address Bytes
  | .setNode operator domain => .claim operator domain
  | .deleteNode operator => .release operator (storage.nodeOf operator)
  | _ => .idle

/-- The operators are listed once each, and those with a domain are listed. -/
structure Listed (storage : Storage) : Prop where
  distinct : storage.operators.Nodup
  unique : ∀ operator, storage.uniqueOperators operator = true ↔ operator ∈ storage.operators
  linked : ∀ operator, storage.nodeOf operator ≠ [] → operator ∈ storage.operators

variable {crypto : Crypto} {storage next : Storage} {event : Registry.Event}

theorem holds_iff {operator : Address} {domain : Bytes} :
    (names storage).holds operator = some domain ↔
      domain ≠ [] ∧ storage.nodeOf operator = domain := by
  simp only [names]
  split
  · rename_i none
    rw [none]
    exact iff_of_false nofun (fun both => both.1 both.2.symm)
  · rename_i some
    constructor
    · intro same
      cases same
      exact ⟨some, rfl⟩
    · rintro ⟨_, rfl⟩
      rfl

/-- Other actions leave the operators alone. -/
theorem perform_other {action : Action} (performed : action.perform storage = .ok (next, event))
    (setting : ∀ operator domain, action ≠ .setNode operator domain)
    (deleting : ∀ operator, action ≠ .deleteNode operator) :
    next.nodeOf = storage.nodeOf ∧ next.uniqueDomains = storage.uniqueDomains ∧
      next.operators = storage.operators ∧ next.uniqueOperators = storage.uniqueOperators := by
  cases action with
  | setNode operator domain => exact absurd rfl (setting operator domain)
  | deleteNode operator => exact absurd rfl (deleting operator)
  | setParty party countryCode partyId roles operator =>
    obtain ⟨_, rfl, _⟩ := setParty_ok_iff.mp performed
    exact ⟨rfl, rfl, rfl, rfl⟩
  | setPartyModules party sender receiver =>
    obtain ⟨_, rfl, _⟩ := setPartyModules_ok_iff.mp performed
    exact ⟨rfl, rfl, rfl, rfl⟩
  | deleteParty party =>
    obtain ⟨_, rfl, _⟩ := deleteParty_ok_iff.mp performed
    exact ⟨rfl, rfl, rfl, rfl⟩
  | transferOwnership newOwner =>
    cases performed
    exact ⟨rfl, rfl, rfl, rfl⟩

/-- A linked domain is claimed. -/
theorem setNode_names {operator : Address} {domain : Bytes}
    (performed : setNode operator domain storage = .ok (next, event)) :
    Naming.Step (fun _ _ => True) (names storage) (.claim operator domain) (names next) := by
  obtain ⟨nonempty, fresh, rfl, _⟩ := setNode_ok_iff.mp performed
  apply Naming.Step.claim operator domain
  · simp only [names, fresh, Bool.false_eq_true, not_false_eq_true]
  · exact holds_iff.mpr ⟨nonempty, assign_same _ _ _⟩
  · intro other _
    exact assign_same _ _ _
  · intro other different
    simp only [names, assign_other _ _ different]
  · intro other different third
    simp only [names, assign_other _ _ different]

/-- An unlinked domain is released. -/
theorem deleteNode_names {operator : Address}
    (performed : deleteNode operator storage = .ok (next, event)) :
    Naming.Step (fun _ _ => True) (names storage) (.release operator (storage.nodeOf operator))
      (names next) := by
  obtain ⟨nonempty, rfl, _⟩ := deleteNode_ok_iff.mp performed
  apply Naming.Step.release operator (storage.nodeOf operator)
  · exact holds_iff.mpr ⟨nonempty, rfl⟩
  · simp only [names, assign_same, if_true]
  · intro other
    simp only [names, assign_same, Bool.false_eq_true, not_false_eq_true]
  · intro other different
    simp only [names, assign_other _ _ different]
  · intro other different third
    simp only [names, assign_other _ _ different]

/-- Every action is a step of the exclusive names. -/
theorem perform_names {action : Action} (performed : action.perform storage = .ok (next, event)) :
    Naming.Step (fun _ _ => True) (names storage) (naming storage action) (names next) := by
  have unchanged (setting : ∀ operator domain, action ≠ .setNode operator domain)
      (deleting : ∀ operator, action ≠ .deleteNode operator) : names next = names storage := by
    obtain ⟨nodes, domains, _, _⟩ := perform_other performed setting deleting
    simp only [names, nodes, domains]
  cases action with
  | setNode operator domain => exact setNode_names performed
  | deleteNode operator => exact deleteNode_names performed
  | _ =>
    rw [unchanged (fun _ _ => Action.noConfusion) (fun _ => Action.noConfusion)]
    exact .idle

/-- A list that takes in its unlisted addresses has no repetitions. -/
theorem nodup_enlist {addresses : List Address} {unique : Address → Bool} {address : Address}
    (distinct : addresses.Nodup) (listed : ∀ other, unique other = true ↔ other ∈ addresses) :
    (if unique address = false then addresses ++ [address] else addresses).Nodup := by
  split
  · rename_i fresh
    apply nodup_push distinct
    intro member
    rw [(listed address).mpr member] at fresh
    cases fresh
  · exact distinct

/-- Its flags stay in step with it. -/
theorem mem_enlist {addresses : List Address} {unique : Address → Bool} {address : Address}
    (listed : ∀ other, unique other = true ↔ other ∈ addresses) (other : Address) :
    assign unique address true other = true ↔
      other ∈ if unique address = false then addresses ++ [address] else addresses := by
  by_cases same : other = address
  · subst same
    simp only [assign_same, true_iff]
    split
    · exact List.mem_append_right _ (List.mem_singleton_self _)
    · rename_i present
      exact (listed other).mp (eq_true_of_ne_false present)
  · rw [assign_other _ _ same, listed other]
    split
    · simp only [List.mem_append, List.mem_singleton, same, or_false]
    · exact Iff.rfl

/-- Every action keeps the operators listed. -/
theorem Listed.perform {action : Action} (listed : Listed storage)
    (performed : action.perform storage = .ok (next, event)) : Listed next := by
  by_cases setting : ∃ operator domain, action = .setNode operator domain
  · obtain ⟨operator, domain, rfl⟩ := setting
    obtain ⟨_, _, rfl, _⟩ := setNode_ok_iff.mp performed
    refine ⟨nodup_enlist listed.distinct listed.unique, mem_enlist listed.unique, ?_⟩
    intro other linked
    apply (mem_enlist listed.unique other).mp
    by_cases same : other = operator
    · rw [same, assign_same]
    · simp only [assign_other _ _ same] at linked ⊢
      exact (listed.unique other).mpr (listed.linked other linked)
  · by_cases deleting : ∃ operator, action = .deleteNode operator
    · obtain ⟨operator, rfl⟩ := deleting
      obtain ⟨_, rfl, _⟩ := deleteNode_ok_iff.mp performed
      refine ⟨listed.distinct, listed.unique, ?_⟩
      intro other linked
      by_cases same : other = operator
      · simp only [same, assign_same, ne_eq, not_true_eq_false] at linked
      · simp only [assign_other _ _ same] at linked
        exact listed.linked other linked
    · obtain ⟨nodes, _, operators, unique⟩ := perform_other performed
        (fun operator domain same => setting ⟨operator, domain, same⟩)
        (fun operator same => deleting ⟨operator, same⟩)
      exact ⟨operators ▸ listed.distinct, by rw [unique, operators]; exact listed.unique,
        by rw [nodes, operators]; exact listed.linked⟩

/-- The domain that a call takes from its operator without opening it. -/
def abandoned (crypto : Crypto) (storage : Storage) (message : Message) : List Bytes :=
  match authorise crypto message.sender storage message.call with
  | .ok action => (naming storage action).strands (names storage)
  | .error _ => []

/-- The domains that were abandoned in a run. -/
def lost (crypto : Crypto) : Storage → List Message → List Bytes
  | _, [] => []
  | storage, message :: messages =>
    abandoned crypto storage message ++
      match step crypto storage message with
      | some next => lost crypto next messages
      | none => []

/-- What holds of the operators and their domains after a run that lost some. -/
structure Sound (storage : Storage) (lost : List Bytes) : Prop where
  listed : Listed storage
  exclusive : Exclusive (fun _ _ => True) (names storage)
  accounted : Accounted (names storage) lost

theorem deployed_sound (owner : Address) : Sound (deployed owner) [] := by
  have vacant (operator : Address) (domain : Bytes) :
      (names (deployed owner)).holds operator ≠ some domain := fun has =>
    (holds_iff.mp has).1 (holds_iff.mp has).2.symm
  have unclosed (domain : Bytes) (other : Address) :
      ¬(names (deployed owner)).closed domain other := by
    simp only [names, deployed, Bool.false_eq_true, not_false_eq_true]
  refine ⟨⟨List.nodup_nil, fun operator => ?_, fun operator linked => absurd rfl linked⟩,
    ⟨fun operator domain has => absurd has (vacant operator domain),
      fun operator domain has => absurd has (vacant operator domain)⟩,
    ⟨fun domain other => ?_, fun domain member => by cases member⟩⟩
  · simp only [deployed, Bool.false_eq_true, List.not_mem_nil]
  · refine iff_of_false (unclosed domain other) ?_
    rintro (⟨operator, has⟩ | member)
    · exact vacant operator domain has
    · cases member

/-- An accepted call keeps the operators sound; what it abandons is lost. -/
theorem Sound.accept {lost : List Bytes} {message : Message} (sound : Sound storage lost)
    (stepped : step crypto storage message = some next) :
    Sound next (lost ++ abandoned crypto storage message) := by
  obtain ⟨action, event, authorised, performed⟩ := step_iff.mp stepped
  have named := perform_names performed
  have strands : abandoned crypto storage message =
      (naming storage action).strands (names storage) := by
    rw [abandoned, authorised]
  rw [strands]
  exact ⟨sound.listed.perform performed,
    named.exclusive (fun _ _ _ => trivial) sound.exclusive,
    named.accounted (fun _ _ => trivial) sound.exclusive sound.accounted⟩

/-- So does a run. -/
theorem Sound.through {earlier : List Bytes} {messages : List Message} {final : Storage}
    (sound : Sound storage earlier) (ran : run (step crypto) storage messages = some final) :
    Sound final (earlier ++ lost crypto storage messages) := by
  induction messages generalizing storage earlier with
  | nil =>
    obtain rfl := Option.some.inj ran
    rw [lost, List.append_nil]
    exact sound
  | cons message messages inductionHypothesis =>
    obtain ⟨next, stepped, rest⟩ := run_cons ran
    rw [lost, stepped, ← List.append_assoc]
    exact inductionHypothesis (sound.accept stepped) rest

/-- No two operators ever have one domain, whoever calls what. The list of operators
repeats none, and every operator with a domain is on it. -/
theorem domains_exclusive (crypto : Crypto) (owner : Address) (messages : List Message)
    (storage : Storage) (ran : run (step crypto) (deployed owner) messages = some storage) :
    (getNodeOperators storage).Nodup ∧
      ∀ operator, getNode storage operator ≠ [] →
        operator ∈ getNodeOperators storage ∧
          ∀ other, getNode storage other = getNode storage operator → other = operator := by
  have sound := (deployed_sound owner).through ran
  refine ⟨sound.listed.distinct, ?_⟩
  intro operator linked
  refine ⟨sound.listed.linked operator linked, ?_⟩
  intro other same
  by_cases equal : other = operator
  · exact equal
  · exact absurd (holds_iff.mpr ⟨linked, same⟩)
      (sound.exclusive.sole operator _ (holds_iff.mpr ⟨linked, rfl⟩) other equal)

/-- Two accounts for concrete runs. -/
def firstAccount : Account := ⟨.repeated 1, by decide⟩

def secondAccount : Account := ⟨.repeated 2, by decide⟩

/-- An operator is linked to one domain, and to another after it. -/
def moved : List Message := [⟨firstAccount, .setNode [97]⟩, ⟨firstAccount, .setNode [98]⟩]

/-- The operator that is linked twice is listed once. -/
theorem moved_operator_listed_once : ∃ storage,
    run (step .sample) (deployed .zero) moved = some storage ∧
      (getNodeOperators storage).Nodup ∧ getNodeOperators storage = [.repeated 1] :=
  ⟨_, rfl, (domains_exclusive .sample .zero moved _ rfl).1, rfl⟩

/-- When a domain is refused. -/
theorem Sound.refused_iff {lost : List Bytes} {message : Message} {operator : Address}
    {domain : Bytes} (sound : Sound storage lost)
    (authorised : authorise crypto message.sender storage message.call =
      .ok (.setNode operator domain)) :
    step crypto storage message = none ↔
      domain = [] ∨ (∃ other, getNode storage other = domain) ∨ domain ∈ lost := by
  have accepts : step crypto storage message ≠ none ↔
      domain ≠ [] ∧ storage.uniqueDomains domain = false := by
    rw [Option.ne_none_iff_exists']
    constructor
    · rintro ⟨next, stepped⟩
      obtain ⟨action, event, same, performed⟩ := step_iff.mp stepped
      cases authorised.symm.trans same
      obtain ⟨nonempty, fresh, _⟩ := setNode_ok_iff.mp performed
      exact ⟨nonempty, fresh⟩
    · rintro ⟨nonempty, fresh⟩
      exact ⟨_, step_iff.mpr ⟨_, _, authorised, setNode_ok_iff.mpr ⟨nonempty, fresh, rfl, rfl⟩⟩⟩
  have refused : step crypto storage message = none ↔
      domain = [] ∨ storage.uniqueDomains domain = true := by
    rw [← @Classical.not_not (step crypto storage message = none), ← ne_eq, accepts,
      Classical.not_and_iff_not_or_not, Classical.not_not, Bool.not_eq_false]
  rw [refused]
  by_cases empty : domain = []
  · exact iff_of_true (Or.inl empty) (Or.inl empty)
  · have holders : (∃ holder, (names storage).holds holder = some domain) ↔
        ∃ other, getNode storage other = domain := by
      simp only [holds_iff, ne_eq, empty, not_false_eq_true, true_and, getNode]
    have closed : storage.uniqueDomains domain = true ↔ _ :=
      sound.accounted.closed domain operator
    rw [or_iff_right empty, or_iff_right empty, closed, holders]

/-- A call that would link a domain is refused exactly if the domain is empty, if an
operator has it, or if an operator was moved from it to another domain earlier on. The
last is for good, and for the operator that had it as well: nothing ever takes a domain
off that list. -/
theorem domain_refused_iff (crypto : Crypto) (owner : Address) (messages : List Message)
    (storage : Storage) (ran : run (step crypto) (deployed owner) messages = some storage)
    (message : Message) (operator : Address) (domain : Bytes)
    (authorised : authorise crypto message.sender storage message.call =
      .ok (.setNode operator domain)) :
    step crypto storage message = none ↔
      domain = [] ∨ (∃ other, getNode storage other = domain) ∨
        domain ∈ lost crypto (deployed owner) messages := by
  have sound : Sound storage ([] ++ lost crypto (deployed owner) messages) :=
    (deployed_sound owner).through ran
  exact sound.refused_iff authorised

/-- Nobody gets the domain that the operator was moved from. -/
theorem moved_domain_refused : ∃ storage,
    run (step .sample) (deployed .zero) moved = some storage ∧
      step .sample storage ⟨secondAccount, .setNode [97]⟩ = none :=
  ⟨_, rfl, (domain_refused_iff .sample .zero moved _ rfl ⟨secondAccount, .setNode [97]⟩
    (.repeated 2) [97] rfl).mpr (Or.inr (Or.inr (by decide)))⟩

end EvDashboard.Registry.Nodes
