import PairedContacts.Proofs.Contacts.Delivery
import PairedContacts.Proofs.Contacts.Response
import PairedContacts.Proofs.VCard.Identity

/-!
# Judging any response

Judging never fails, whatever a response holds.  What is accepted was asked for, and its metadata
names the contact that it is filed under together with the timestamp that is kept with it.
-/

set_option autoImplicit false

namespace PairedContacts.Requester

variable {session : Session} {packet : Packet}

/-- How a requester judges an entry of a response. -/
def judgementOf (session : Session) (entry : Uid × String) : Judgement :=
  if session.requested.contains entry.1 then
    match VCard.parseFinalized session.space entry.2 with
    | .error _ => .malformed
    | .ok finalized =>
        if finalized.metadata.uid = entry.1 then .accepted finalized.metadata.timestamp
        else .malformed
  else .unexpected

def judgedBy (session : Session) (entry : Uid × String) : JudgedCard :=
  ⟨entry.1, entry.2, judgementOf session entry⟩

theorem outcome_judge (session : Session) (entry : Uid × String) :
    (judge session entry).outcome = .ok (judgedBy session entry) := by
  obtain ⟨uid, card⟩ := entry
  rw [judge, judgedBy, judgementOf]
  by_cases asked : session.requested.contains uid = true
  · simp only [if_pos asked]
    cases VCard.parseFinalized session.space card with
    | error fault => rfl
    | ok finalized => by_cases own : finalized.metadata.uid = uid <;> simp only [own] <;> rfl
  · simp only [if_neg asked]
    rfl

theorem outcome_judgeAll (session : Session) (packet : Packet) :
    (judgeAll session packet).outcome =
      (Message.readCards packet).outcome.map (List.map (judgedBy session)) := by
  rw [judgeAll, Run.outcome_bind]
  cases (Message.readCards packet).outcome with
  | error failure => rfl
  | ok cards => exact Run.outcome_mapM_ok fun entry _ => outcome_judge session entry

theorem exists_request_of_judgeAll {failure : Failure}
    (failed : (judgeAll session packet).outcome = .error failure) :
    ∃ fault, failure = .request fault := by
  rw [outcome_judgeAll, map_eq_error_iff] at failed
  exact Message.exists_request_of_readCards failed

/-! ## What is accepted -/

theorem judgementOf_eq_accepted_iff {entry : Uid × String} {timestamp : Int} :
    judgementOf session entry = .accepted timestamp ↔
      entry.1 ∈ session.requested ∧
        VCard.IsCardOf session.space entry.2 entry.1 timestamp := by
  rw [judgementOf, VCard.IsCardOf]
  by_cases asked : session.requested.contains entry.1 = true
  · have member : entry.1 ∈ session.requested := List.contains_iff_mem.mp asked
    rw [if_pos asked]
    cases VCard.parseFinalized session.space entry.2 with
    | error fault => simp
    | ok finalized => by_cases own : finalized.metadata.uid = entry.1 <;> simp [own, member]
  · simp only [if_neg asked, reduceCtorEq, false_iff]
    rintro ⟨here, -⟩
    exact asked (List.contains_iff_mem.mpr here)

theorem accepted?_judgedBy_eq_some_iff {entry : Uid × String} {accepted : Uid × String × Int} :
    (judgedBy session entry).accepted? = some accepted ↔
      entry = (accepted.1, accepted.2.1) ∧ judgementOf session entry = .accepted accepted.2.2 := by
  obtain ⟨uid, card⟩ := entry
  obtain ⟨other, text, timestamp⟩ := accepted
  rw [JudgedCard.accepted?, judgedBy]
  cases judgementOf session (uid, card) with
  | accepted dated => simp [and_assoc]
  | _ => simp

theorem mem_accepted_iff {cards : KeyedList Uid String} {accepted : Uid × String × Int} :
    accepted ∈ (cards.map (judgedBy session)).filterMap JudgedCard.accepted? ↔
      (accepted.1, accepted.2.1) ∈ cards ∧ accepted.1 ∈ session.requested ∧
        VCard.IsCardOf session.space accepted.2.1 accepted.1 accepted.2.2 := by
  rw [List.mem_filterMap]
  constructor
  · rintro ⟨judged, among, taken⟩
    obtain ⟨entry, held, rfl⟩ := List.mem_map.mp among
    obtain ⟨rfl, judgement⟩ := accepted?_judgedBy_eq_some_iff.mp taken
    exact ⟨held, judgementOf_eq_accepted_iff.mp judgement⟩
  · rintro ⟨held, sound⟩
    exact ⟨_, List.mem_map_of_mem held,
      accepted?_judgedBy_eq_some_iff.mpr ⟨rfl, judgementOf_eq_accepted_iff.mpr sound⟩⟩

theorem nodup_accepted {cards : KeyedList Uid String} (once : cards.keys.Nodup) :
    (((cards.map (judgedBy session)).filterMap JudgedCard.accepted?).map Prod.fst).Nodup := by
  refine once.sublist ?_
  clear once
  induction cards with
  | nil => exact List.Sublist.refl _
  | cons entry rest ih =>
      rw [List.map_cons, List.filterMap_cons]
      cases taken : (judgedBy session entry).accepted? with
      | none => exact ih.cons entry.1
      | some accepted =>
          obtain ⟨rfl, -⟩ := accepted?_judgedBy_eq_some_iff.mp taken
          exact ih.cons_cons accepted.1

/-- What a requester takes out of a response, as uIDs with their vCards and timestamps. -/
structure AreSound (session : Session) (packet : Packet) (accepted : List (Uid × String × Int)) :
    Prop where
  once : (accepted.map Prod.fst).Nodup
  requested : ∀ entry ∈ accepted, entry.1 ∈ session.requested
  told : ∀ entry ∈ accepted, packet.get? entry.1.text = some (.text entry.2.1)
  cards : ∀ entry ∈ accepted, VCard.IsCardOf session.space entry.2.1 entry.1 entry.2.2

theorem areSound_of_judgeAll {judged : List JudgedCard}
    (done : (judgeAll session packet).outcome = .ok judged) :
    AreSound session packet (judged.filterMap JudgedCard.accepted?) := by
  rw [outcome_judgeAll, map_eq_ok_iff] at done
  obtain ⟨cards, read, rfl⟩ := done
  exact ⟨nodup_accepted (Message.nodup_keys_of_readCards read),
    fun entry member => (mem_accepted_iff.mp member).2.1,
    fun entry member => Message.get?_of_readCards read (mem_accepted_iff.mp member).1,
    fun entry member => (mem_accepted_iff.mp member).2.2⟩

end PairedContacts.Requester
