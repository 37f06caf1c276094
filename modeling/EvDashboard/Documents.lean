import EvDashboard.Asset

/-!
# DID documents of several subjects

All documents together are a function from DIDs. Publications only ever append a
service entry to one of them, so documents grow: an entry stays where it is, and
an id once held is held from then on.
-/

namespace EvDashboard

/-- The document of each DID. -/
abbrev Documents := String → DidDocument

namespace Documents

/-- Whether a document has an entry with an id. -/
def holds (documents : Documents) (did id : String) : Bool :=
  (documents did).service.any (fun entry => entry.id = id)

/-- A service entry is appended to one document. -/
def append (documents : Documents) (did : String) (entry : ServiceEntry) : Documents :=
  fun other => if other = did then ⟨(documents did).service ++ [entry]⟩ else documents other

/-- Each earlier entry is still there, at its place; entries are only appended. -/
def Extends (earlier later : Documents) : Prop :=
  ∀ did, ∃ added, (later did).service = (earlier did).service ++ added

theorem Extends.refl (documents : Documents) : Extends documents documents :=
  fun _ => ⟨[], (List.append_nil _).symm⟩

theorem Extends.trans {first second third : Documents} (early : Extends first second)
    (late : Extends second third) : Extends first third := by
  intro did
  obtain ⟨before, same⟩ := early did
  obtain ⟨after, further⟩ := late did
  exact ⟨before ++ after, by rw [further, same, List.append_assoc]⟩

/-- An id in a document stays in it. -/
theorem Extends.holds {earlier later : Documents} (grown : Extends earlier later)
    {did id : String} (present : earlier.holds did id = true) : later.holds did id = true := by
  obtain ⟨added, same⟩ := grown did
  simp only [Documents.holds, same, List.any_append, Bool.or_eq_true]
  exact Or.inl present

theorem append_extends (documents : Documents) (did : String) (entry : ServiceEntry) :
    Extends documents (documents.append did entry) := by
  intro other
  by_cases same : other = did
  · subst same
    exact ⟨[entry], by simp only [append, ↓reduceIte]⟩
  · exact ⟨[], by simp only [append, same, ↓reduceIte, List.append_nil]⟩

/-- What appending an entry adds to the ids held. -/
theorem holds_append (documents : Documents) (did other : String) (entry : ServiceEntry)
    (id : String) :
    (documents.append did entry).holds other id =
      (documents.holds other id || (decide (other = did) && decide (entry.id = id))) := by
  by_cases same : other = did
  · subst same
    simp only [holds, append, ↓reduceIte, List.any_append, List.any_cons, List.any_nil,
      Bool.or_false, decide_true, Bool.true_and]
  · simp only [holds, append, same, ↓reduceIte, decide_false, Bool.false_and, Bool.or_false]

/-- The appended id is held. -/
@[simp] theorem holds_appended (documents : Documents) (did : String) (entry : ServiceEntry) :
    (documents.append did entry).holds did entry.id = true := by
  rw [holds_append]
  simp only [decide_true, Bool.and_self, Bool.or_true]

/-- A claim is missing from a document exactly if the document does not hold its id. -/
theorem missing_eq (documents : Documents) (did : String) (claim : IssuedClaim) :
    Asset.missing (documents did) claim = !documents.holds did claim.id := by
  rw [Bool.eq_iff_iff, Asset.missing_iff]
  simp only [holds, Bool.not_eq_true', List.any_eq_false, decide_eq_true_eq, ne_eq]

end Documents

end EvDashboard
