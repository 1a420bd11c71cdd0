import PairedContacts.Proofs.Contacts.Manifest
import PairedContacts.Proofs.VCard.Footer

/-!
# What a collection holds

Over typed rows, by a sender whose device can stand in a footer, a collection gives every wanted
contact the vCard that its merge group has, and leaves out those whose group has none.
-/

set_option autoImplicit false

namespace PairedContacts.Cards

def stepText (layout : Layout) (findings : Findings) (uid : Uid) (record : Record) : Findings :=
  ((KeyedList.get? record layout.card).bind ColumnValue.text?).elim findings fun text =>
    { findings with texts := findings.texts.put uid text }

def step (layout : Layout) (findings : Findings) (uid : Uid) (record : Record) : Findings :=
  takeTimestamp layout (stepText layout findings uid record) uid record

def findingsOf (layout : Layout) (uids : List Uid) (rows : List Row) : Findings :=
  rows.foldl (Projection.turn (selection layout uids) (step layout)) ⟨[], []⟩

theorem outcome_visit (layout : Layout) (findings : Findings) (uid : Uid) (record : Record) :
    (visit layout findings uid record).outcome = .ok (step layout findings uid record) := by
  have taken : (takeText layout findings uid record).outcome =
      .ok (stepText layout findings uid record) := by
    rw [takeText, stepText]
    cases KeyedList.get? record layout.card with
    | none => rfl
    | some value => cases value <;> rfl
  rw [visit, Run.outcome_bind_ok taken]
  rfl

section Views

variable {layout : Layout} {uids : List Uid} {uid : Uid}

theorem wants_selection (wanted : uid ∈ uids) : (selection layout uids).wants uid = true := by
  simpa [Selection.wants, selection] using wanted

theorem foldl_last (texts : List String) :
    texts.foldl (fun _ text => some text) none = texts.getLast? := by
  rcases List.eq_nil_or_concat texts with rfl | ⟨front, last, rfl⟩
  · rfl
  · simp

theorem timestamps_step (findings : Findings) (uid : Uid) (record : Record) :
    (step layout findings uid record).timestamps =
      Manifest.step layout findings.timestamps uid record := by
  have kept : (stepText layout findings uid record).timestamps = findings.timestamps := by
    rw [stepText]
    cases (KeyedList.get? record layout.card).bind ColumnValue.text? <;> rfl
  rw [step, takeTimestamp, Manifest.step]
  cases Manifest.timestampOf layout record with
  | none => exact kept
  | some timestamp =>
      rw [kept]
      rfl

theorem texts_step (findings : Findings) (uid : Uid) (record : Record) :
    (step layout findings uid record).texts =
      ((KeyedList.get? record layout.card).bind ColumnValue.text?).elim findings.texts
        (findings.texts.put uid) := by
  have kept : (step layout findings uid record).texts =
      (stepText layout findings uid record).texts := by
    rw [step, takeTimestamp]
    cases Manifest.timestampOf layout record <;> rfl
  rw [kept, stepText]
  cases (KeyedList.get? record layout.card).bind ColumnValue.text? <;> rfl

theorem get?_texts_findingsOf (wanted : uid ∈ uids) (rows : List Row) :
    KeyedList.get? (findingsOf layout uids rows).texts uid =
      MergeGroup.lastText layout rows uid := by
  have own : ∀ (findings : Findings) (row : Row),
      KeyedList.get? (step layout findings uid
        (Projection.recordOf row (selection layout uids).columns)).texts uid =
      (MergeGroup.textIn layout row).elim (KeyedList.get? findings.texts uid)
        (fun text => some text) := by
    intro findings row
    rw [texts_step, Projection.get?_recordOf, if_pos (by simp [selection]), MergeGroup.textIn]
    cases (row.cell? layout.card).bind ColumnValue.text? with
    | none => rfl
    | some text => simp [KeyedList.get?_put_self]
  have frame : ∀ (findings : Findings) (other : Uid) (record : Record), other ≠ uid ->
      KeyedList.get? (step layout findings other record).texts uid =
        KeyedList.get? findings.texts uid := by
    intro findings other record different
    rw [texts_step]
    cases (KeyedList.get? record layout.card).bind ColumnValue.text? with
    | none => rfl
    | some text => exact KeyedList.get?_put_of_ne _ text (Ne.symm different)
  rw [findingsOf, Projection.view_foldl_turn
    (fun (found : Findings) => KeyedList.get? found.texts uid) (fun _ text => some text) own frame
    (wants_selection wanted)]
  exact foldl_last _

theorem get?_timestamps_findingsOf (wanted : uid ∈ uids) (rows : List Row) :
    KeyedList.get? (findingsOf layout uids rows).timestamps uid =
      MergeGroup.newest layout rows uid := by
  have own : ∀ (findings : Findings) (row : Row),
      KeyedList.get? (step layout findings uid
        (Projection.recordOf row (selection layout uids).columns)).timestamps uid =
      (MergeGroup.timestampIn layout row).elim (KeyedList.get? findings.timestamps uid)
        (higher (KeyedList.get? findings.timestamps uid)) := by
    intro findings row
    rw [timestamps_step]
    exact Manifest.get?_step_self (by simp [selection]) findings.timestamps uid row
  have frame : ∀ (findings : Findings) (other : Uid) (record : Record), other ≠ uid ->
      KeyedList.get? (step layout findings other record).timestamps uid =
        KeyedList.get? findings.timestamps uid := by
    intro findings other record different
    rw [timestamps_step]
    exact Manifest.get?_step_of_ne layout findings.timestamps record different
  rw [findingsOf, Projection.view_foldl_turn
    (fun (found : Findings) => KeyedList.get? found.timestamps uid) higher own frame
    (wants_selection wanted)]
  exact foldl_higher _

end Views

/-! ## Finishing -/

def add (card : Uid -> Option String) (cards : KeyedList Uid String) (uid : Uid) :
    KeyedList Uid String :=
  (card uid).elim cards (cards.put uid)

/-- The failure that finishing a vCard ends with: its record has a place for the footer, but its
timestamp has too many digits to be written there. -/
def failure? (layout : Layout) (rows : List Row) (uid : Uid) : Option Failure :=
  (MergeGroup.lastText layout rows uid).bind fun text =>
    (MergeGroup.newest layout rows uid).bind fun timestamp =>
      if (VCard.contentLines text.toList).toBool && Numeral.isTooLong timestamp then
        some (.footer .longTimestamp)
      else none

theorem failure?_of_short {layout : Layout} {rows : List Row}
    (typed : ∀ row ∈ rows, row.isTyped = true) (short : ∀ row ∈ rows, row.isShort = true)
    (uid : Uid) : failure? layout rows uid = none := by
  rw [failure?]
  cases MergeGroup.lastText layout rows uid with
  | none => rfl
  | some text =>
      cases found : MergeGroup.newest layout rows uid with
      | none => rfl
      | some timestamp => simp [MergeGroup.short_of_newest typed short found]

theorem outcome_finish {layout : Layout} {sender : Sender} {uids : List Uid} {rows : List Row}
    {uid : Uid} (admitted : VCard.admitsDevice sender.deviceId.toList = true)
    (wanted : uid ∈ uids) (cards : KeyedList Uid String) :
    (finish layout sender (findingsOf layout uids rows) cards uid).outcome =
      (failure? layout rows uid).elim
        (.ok (add (MergeGroup.card layout sender rows) cards uid)) .error := by
  rw [finish, get?_texts_findingsOf wanted, get?_timestamps_findingsOf wanted, add, MergeGroup.card,
    failure?]
  cases MergeGroup.lastText layout rows uid with
  | none => cases MergeGroup.newest layout rows uid <;> rfl
  | some text =>
      cases MergeGroup.newest layout rows uid with
      | none => rfl
      | some timestamp =>
          simp only [Option.bind_some]
          cases content : VCard.contentLines text.toList with
          | error fault =>
              have refused : VCard.finalize sender.space text ⟨sender.deviceId, uid, timestamp⟩ =
                  .error (.record fault) :=
                VCard.finalize_of_fault admitted content
              rw [refused]
              simp only [Except.toBool, Bool.false_and, Bool.false_eq_true, if_false]
              rfl
          | ok lines =>
              simp only [Except.toBool, Bool.true_and]
              cases long : Numeral.isTooLong timestamp with
              | true =>
                  have unwritten : Numeral.writeInt? timestamp = none := by
                    rw [Numeral.writeInt?, if_pos long]
                  have refused : VCard.finalize sender.space text
                      ⟨sender.deviceId, uid, timestamp⟩ = .error .longTimestamp :=
                    VCard.finalize_of_unwritten admitted content unwritten
                  rw [refused, if_pos rfl]
                  rfl
              | false =>
                  obtain ⟨card, done⟩ : ∃ card, VCard.finalize sender.space text
                      ⟨sender.deviceId, uid, timestamp⟩ = .ok card :=
                    ⟨_, VCard.finalize_eq_ok_iff.mpr
                      ⟨admitted, lines, _, content, Numeral.writeInt?_of_short long, rfl⟩⟩
                  rw [done, if_neg Bool.false_ne_true]
                  rfl

/-- Collecting gives the vCards that the merge groups of the wanted contacts have, unless reading a
row or finishing a vCard fails. -/
theorem outcome_collect_any {source : Source} {layout : Layout} {sender : Sender} {rows : List Row}
    {access : Option Access} (opens : Access.opens access = true) (gives : source.Gives rows)
    (admitted : VCard.admitsDevice sender.deviceId.toList = true) (uids : List Uid) :
    (collect source access layout sender uids).outcome =
      ((rows.findSome? (Projection.failure? (selection layout uids))).or
        (uids.findSome? (failure? layout rows))).elim
          (.ok (uids.foldl (add (MergeGroup.card layout sender rows)) [])) .error := by
  rw [collect, Access.demand_of_opens opens, Run.outcome_bind_ok rfl]
  cases uids with
  | nil =>
      have unread : rows.findSome? (Projection.failure? (selection layout [])) = none := by
        rw [List.findSome?_eq_none_iff]
        intro row member
        rw [Projection.failure?]
        cases row.identity (selection layout []).lookupColumn <;> rfl
      rw [unread]
      rfl
  | cons first rest =>
      simp only [List.isEmpty_cons, Bool.false_eq_true, if_false]
      have found : (Projection.visitRows source access (selection layout (first :: rest))
          (visit layout) ⟨[], []⟩).outcome =
            (rows.findSome? (Projection.failure? (selection layout (first :: rest)))).elim
              (.ok (findingsOf layout (first :: rest) rows)) .error :=
        Projection.outcome_visitRows_any opens gives (outcome_visit layout) ⟨[], []⟩
      cases failing : rows.findSome? (Projection.failure? (selection layout (first :: rest))) with
      | some failure =>
          rw [failing] at found
          rw [Run.bind_error found]
          rfl
      | none =>
          rw [failing] at found
          rw [Run.outcome_bind_ok found, Option.none_or]
          exact Run.outcome_foldlM [] fun cards uid wanted => outcome_finish admitted wanted cards

theorem outcome_collect {layout : Layout} {sender : Sender} {rows : List Row}
    {access : Option Access} (opens : Access.opens access = true)
    (admitted : VCard.admitsDevice sender.deviceId.toList = true)
    (typed : ∀ row ∈ rows, row.isTyped = true) (short : ∀ row ∈ rows, row.isShort = true)
    (uids : List Uid) :
    (collect (Source.ofRows rows) access layout sender uids).outcome =
      .ok (uids.foldl (add (MergeGroup.card layout sender rows)) []) := by
  have readable : rows.findSome? (Projection.failure? (selection layout uids)) = none :=
    Projection.findSome?_failure?_of_isTyped (selection layout uids) typed
  have writable : uids.findSome? (failure? layout rows) = none := by
    rw [List.findSome?_eq_none_iff]
    intro uid member
    exact failure?_of_short typed short uid
  rw [outcome_collect_any opens (Source.ofRows_gives rows) admitted, readable, writable]
  rfl

theorem get?_foldl_add (card : Uid -> Option String) (uids : List Uid)
    (cards : KeyedList Uid String) (uid : Uid) :
    KeyedList.get? (uids.foldl (add card) cards) uid =
      (if uid ∈ uids then card uid else none).or (KeyedList.get? cards uid) := by
  induction uids generalizing cards with
  | nil => simp
  | cons first rest ih =>
      rw [List.foldl_cons, ih, add]
      by_cases same : uid = first
      · subst same
        by_cases later : uid ∈ rest <;> cases card uid <;> simp [later, KeyedList.get?_put_self]
      · cases card first <;> simp [same, KeyedList.get?_put]

theorem get?_collected {card : Uid -> Option String} {uids : List Uid} {uid : Uid}
    (wanted : uid ∈ uids) : KeyedList.get? (uids.foldl (add card) []) uid = card uid := by
  rw [get?_foldl_add, if_pos wanted]
  exact Option.or_none

theorem foldl_add_of_nodup {card : Uid -> Option String} {uids : List Uid} (once : uids.Nodup)
    {cards : KeyedList Uid String} (fresh : ∀ uid ∈ uids, uid ∉ cards.keys) :
    uids.foldl (add card) cards =
      cards ++ uids.filterMap fun uid => (card uid).map fun text => (uid, text) :=
  KeyedList.foldl_enter_of_nodup once fresh

end PairedContacts.Cards
