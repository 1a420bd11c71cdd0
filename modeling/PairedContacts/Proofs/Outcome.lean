import PairedContacts.Run

/-!
# Outcomes

The outcome of a run is that of its parts, one after another; what happened on the way does not
change it.  A loop succeeds if all of its turns do, and fails if one of them does.
-/

set_option autoImplicit false

namespace PairedContacts

variable {α β σ : Type}

/-! ## What is made of a result -/

section Results

variable {ε : Type} {ended : Except ε α} {make : α -> β}

theorem map_eq_ok_iff {result : β} :
    ended.map make = .ok result ↔ ∃ value, ended = .ok value ∧ make value = result := by
  cases ended <;> simp [Except.map]

theorem map_eq_error_iff {fault : ε} : ended.map make = .error fault ↔ ended = .error fault := by
  cases ended <;> simp [Except.map]

end Results

/-! ## Loops that may fail -/

section Loops

variable {ε : Type} {act : α -> Except ε β}

theorem mapM_eq_ok {result : α -> β} {items : List α}
    (acts : ∀ item ∈ items, act item = .ok (result item)) :
    items.mapM act = .ok (items.map result) := by
  induction items with
  | nil => rfl
  | cons item rest ih =>
      rw [List.mapM_cons, acts item (by simp), ih fun other member => acts other (by simp [member])]
      rfl

theorem mapM_eq_error {items : List α} {item : α} {fault : ε} (member : item ∈ items)
    (fails : act item = .error fault) : ∃ first, items.mapM act = .error first := by
  induction items with
  | nil => cases member
  | cons other rest ih =>
      rw [List.mapM_cons]
      cases acts : act other with
      | error first => exact ⟨first, rfl⟩
      | ok value =>
          rcases List.mem_cons.mp member with rfl | later
          · rw [fails] at acts
            cases acts
          · obtain ⟨first, failed⟩ := ih later
            exact ⟨first, by rw [failed]; rfl⟩

theorem exists_of_mapM_eq_error {items : List α} {fault : ε}
    (failed : items.mapM act = .error fault) : ∃ item ∈ items, act item = .error fault := by
  induction items with
  | nil => cases failed
  | cons first rest ih =>
      rw [List.mapM_cons] at failed
      cases acts : act first with
      | error own =>
          rw [acts] at failed
          obtain rfl := Except.error.inj failed
          exact ⟨first, by simp, acts⟩
      | ok value =>
          cases others : rest.mapM act with
          | error later =>
              rw [acts, others] at failed
              obtain rfl := Except.error.inj failed
              obtain ⟨item, among, acted⟩ := ih others
              exact ⟨item, List.mem_cons_of_mem _ among, acted⟩
          | ok values =>
              rw [acts, others] at failed
              cases failed

/-- A loop that succeeds has its first result from its first turn. -/
theorem exists_of_mapM_cons {first : α} {rest : List α} {results : List β}
    (done : (first :: rest).mapM act = .ok results) :
    ∃ value values, act first = .ok value ∧ rest.mapM act = .ok values ∧
      results = value :: values := by
  rw [List.mapM_cons] at done
  cases acts : act first with
  | error fault =>
      rw [acts] at done
      cases done
  | ok value =>
      cases others : rest.mapM act with
      | error fault =>
          rw [acts, others] at done
          cases done
      | ok values =>
          rw [acts, others] at done
          exact ⟨value, values, rfl, rfl, (Except.ok.inj done).symm⟩

theorem exists_of_mem_mapM {items : List α} {results : List β} {result : β}
    (done : items.mapM act = .ok results) (member : result ∈ results) :
    ∃ item ∈ items, act item = .ok result := by
  induction items generalizing results with
  | nil =>
      cases done
      cases member
  | cons first rest ih =>
      obtain ⟨value, values, acts, others, rfl⟩ := exists_of_mapM_cons done
      rcases List.mem_cons.mp member with rfl | later
      · exact ⟨first, by simp, acts⟩
      · obtain ⟨item, among, acted⟩ := ih others later
        exact ⟨item, List.mem_cons_of_mem _ among, acted⟩

/-- What is read off the results of a loop is what is read off the single acts. -/
theorem filterMap_of_mapM {γ : Type} {read : β -> Option γ} {items : List α} {results : List β}
    (done : items.mapM act = .ok results) :
    results.filterMap read = items.filterMap fun item => (act item).toOption.bind read := by
  induction items generalizing results with
  | nil =>
      cases done
      rfl
  | cons first rest ih =>
      obtain ⟨value, values, acts, others, rfl⟩ := exists_of_mapM_cons done
      rw [List.filterMap_cons, List.filterMap_cons, ih others, acts]
      rfl

end Loops

/-! ## Runs -/

namespace Run

theorem outcome_bind (run : Run α) (next : α -> Run β) :
    (run >>= next).outcome = run.outcome >>= fun result => (next result).outcome := by
  cases ended : run.outcome with
  | error failure =>
      rw [bind_error ended]
      rfl
  | ok result =>
      rw [bind_ok ended]
      rfl

theorem outcome_bind_ok {run : Run α} {result : α} (done : run.outcome = .ok result)
    (next : α -> Run β) : (run >>= next).outcome = (next result).outcome := by
  rw [bind_ok done]

theorem outcome_note_bind (notice : Notice) (next : Unit -> Run β) :
    (Run.note notice >>= next).outcome = (next ()).outcome :=
  outcome_bind_ok rfl next

theorem outcome_mapM_ok {act : α -> Run β} {result : α -> β} {items : List α}
    (acts : ∀ item ∈ items, (act item).outcome = .ok (result item)) :
    (items.mapM act).outcome = .ok (items.map result) := by
  induction items with
  | nil => rfl
  | cons item rest ih =>
      have later := ih fun other member => acts other (by simp [member])
      rw [List.mapM_cons, outcome_bind_ok (acts item (by simp)), outcome_bind_ok later]
      rfl

variable {visit : σ -> α -> Run σ} {turn : σ -> α -> σ}

theorem foldlM_pure {items : List α} (start : σ)
    (turns : ∀ state, ∀ item ∈ items, visit state item = Pure.pure (turn state item)) :
    items.foldlM visit start = Pure.pure (items.foldl turn start) := by
  induction items generalizing start with
  | nil => rfl
  | cons item rest ih =>
      rw [List.foldlM_cons, List.foldl_cons, turns start item (by simp), pure_bind]
      exact ih _ fun state other member => turns state other (by simp [member])

/-- A loop ends with the first failure among its turns, if whether a turn fails depends only on its
item. -/
theorem outcome_foldlM {failure? : α -> Option Failure} {items : List α} (start : σ)
    (turns : ∀ state, ∀ item ∈ items,
      (visit state item).outcome = (failure? item).elim (.ok (turn state item)) .error) :
    (items.foldlM visit start).outcome =
      (items.findSome? failure?).elim (.ok (items.foldl turn start)) .error := by
  induction items generalizing start with
  | nil => rfl
  | cons item rest ih =>
      have first := turns start item (by simp)
      rw [List.foldlM_cons, List.foldl_cons, List.findSome?_cons]
      cases failing : failure? item with
      | some failure =>
          rw [failing] at first
          rw [bind_error first]
          rfl
      | none =>
          rw [failing] at first
          rw [outcome_bind_ok first]
          exact ih _ fun state other member => turns state other (by simp [member])

theorem outcome_foldlM_ok {items : List α} (start : σ)
    (turns : ∀ state, ∀ item ∈ items, (visit state item).outcome = .ok (turn state item)) :
    (items.foldlM visit start).outcome = .ok (items.foldl turn start) := by
  have never : (items.findSome? fun _ => (none : Option Failure)) = none := by simp
  have whole : (items.foldlM visit start).outcome = (items.findSome? fun _ => none).elim _ _ :=
    outcome_foldlM start turns
  rwa [never] at whole

/-- What every visit of a loop keeps holds at its end, if it comes to one. -/
theorem holds_of_foldlM {holds : σ -> Prop} {items : List α} {start result : σ}
    (keeps : ∀ state item next, item ∈ items -> holds state ->
      (visit state item).outcome = .ok next -> holds next)
    (initial : holds start) (done : (items.foldlM visit start).outcome = .ok result) :
    holds result := by
  induction items generalizing start with
  | nil =>
      cases done
      exact initial
  | cons item rest ih =>
      rw [List.foldlM_cons] at done
      cases first : (visit start item).outcome with
      | error failure =>
          rw [bind_error first] at done
          cases done
      | ok next =>
          rw [outcome_bind_ok first] at done
          have later := keeps start item next List.mem_cons_self initial first
          exact ih (fun state other next member => keeps state other next
            (List.mem_cons_of_mem _ member)) later done

end Run

end PairedContacts
