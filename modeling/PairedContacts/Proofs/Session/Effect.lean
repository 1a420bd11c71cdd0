import PairedContacts.Proofs.Session
import PairedContacts.Proofs.Session.Judging

/-!
# What a call of a session does

A session can be called in four ways, in any phase and with any packet.  A call is refused, for its
order or for its packet, and then changes nothing, or it is taken in its phase and has one effect.
What the calls keep, and what they ask for, is read off their effects.
-/

set_option autoImplicit false

namespace PairedContacts

inductive SessionCall where
  | requestManifest (now : Int)
  | receiveManifest (packet : Packet)
  | requestFetch (now : Int)
  | receiveCards (packet : Packet)

/-- What a call of a session gives. -/
inductive Answer where
  | asked (request : Packet)
  | planned (plan : FetchPlan)
  | fetching (request : Option Packet)
  | received (result : FetchResult)

def SessionCall.take : SessionCall -> Step Answer
  | requestManifest now => Answer.asked <$> Requester.requestManifest now
  | receiveManifest packet => Answer.planned <$> Requester.receiveManifest packet
  | requestFetch now => Answer.fetching <$> Requester.requestFetch now
  | receiveCards packet => Answer.received <$> Requester.receiveCards packet

def SessionCall.step : SessionCall -> SessionStep
  | requestManifest _ => .requestManifest
  | receiveManifest _ => .receiveManifest
  | requestFetch _ => .requestFetch
  | receiveCards _ => .receiveCards

namespace Step

variable {α β : Type} {step : Step α}

theorem outcome_map (result : α -> β) (step : Step α) (requester : Requester) :
    ((result <$> step) requester).1.outcome = (step requester).1.outcome.map result := by
  show (andThen step _ requester).1.outcome = _
  cases ended : (step requester).1.outcome with
  | error failure =>
      simp only [andThen, ended]
      rfl
  | ok value =>
      simp only [andThen, ended]
      rfl

theorem after_map (result : α -> β) (step : Step α) (requester : Requester) :
    ((result <$> step) requester).2 = (step requester).2 := by
  show (andThen step _ requester).2 = _
  cases ended : (step requester).1.outcome with
  | error failure => simp only [andThen, ended]
  | ok value =>
      simp only [andThen, ended]
      rfl

theorem Takes.map {before after : Requester} {result : α} (taken : step.Takes before result after)
    (use : α -> β) : Takes (use <$> step) before (use result) after := by
  constructor
  · rw [outcome_map, taken.outcome]
    rfl
  · rw [after_map, taken.after_eq]

end Step

namespace SessionCall

/-- What a call of a requester can do: which outcome it has, and where it leaves the requester. -/
inductive Effect : SessionCall -> Requester -> Except Failure Answer -> Requester -> Prop
  | outOfOrder {call requester} (early : requester.session.phase ≠ call.step.phase) :
      Effect call requester (.error (.outOfOrder ⟨call.step, requester.session.phase⟩)) requester
  | rejected {call requester fault} (ready : requester.session.phase = call.step.phase) :
      Effect call requester (.error (.request fault)) requester
  | asked {now requester} (ready : requester.session.phase = .idle) :
      Effect (.requestManifest now) requester (.ok (.asked (Message.requestManifest now)))
        { requester with session := { requester.session with phase := .manifestRequested } }
  | planned {packet requester remote} (ready : requester.session.phase = .manifestRequested)
      (read : (Message.readManifest packet).outcome = .ok remote) :
      Effect (.receiveManifest packet) requester
        (.ok (.planned (FetchPlan.compute requester.cache.timestamps remote)))
        (requester.planned remote)
  | upToDate {now requester} (ready : requester.session.phase = .manifestReceived)
      (nothing : requester.session.plan.toFetch = []) :
      Effect (.requestFetch now) requester (.ok (.fetching none))
        { requester with session := { requester.session with phase := .complete } }
  | fetching {now requester} (ready : requester.session.phase = .manifestReceived)
      (wanted : requester.session.plan.toFetch ≠ []) :
      Effect (.requestFetch now) requester
        (.ok (.fetching (some (Message.requestCards now requester.session.plan.toFetch))))
        requester.fetching
  | received {packet requester judged} (ready : requester.session.phase = .fetchRequested)
      (judges : (Requester.judgeAll requester.session packet).outcome = .ok judged) :
      Effect (.receiveCards packet) requester
        (.ok (.received (Requester.resultOf requester.session.requested judged)))
        ⟨{ requester.session with phase := .complete },
          Requester.store requester.cache (judged.filterMap JudgedCard.accepted?)⟩

variable {call : SessionCall} {requester : Requester}

theorem Effect.of_takes {answer : Answer} {after : Requester}
    (taken : call.take.Takes requester answer after)
    (effect : Effect call requester (.ok answer) after) :
    Effect call requester (call.take requester).1.outcome (call.take requester).2 := by
  rw [taken.outcome, taken.after_eq]
  exact effect

/-- Every call goes through the phase that its step belongs to. -/
theorem exists_inPhase (call : SessionCall) :
    ∃ (α : Type) (use : α -> Answer) (take : Step α),
      call.take = use <$> Requester.inPhase call.step take := by
  cases call with
  | requestManifest now => exact ⟨_, _, _, rfl⟩
  | receiveManifest packet => exact ⟨_, _, _, rfl⟩
  | requestFetch now => exact ⟨_, _, _, rfl⟩
  | receiveCards packet => exact ⟨_, _, _, rfl⟩

theorem effect_of_early (early : requester.session.phase ≠ call.step.phase) :
    Effect call requester (call.take requester).1.outcome (call.take requester).2 := by
  obtain ⟨α, use, take, phased⟩ := call.exists_inPhase
  rw [phased, Step.outcome_map, Step.after_map, Requester.inPhase, if_neg early]
  exact .outOfOrder early

theorem effect_take (call : SessionCall) (requester : Requester) :
    Effect call requester (call.take requester).1.outcome (call.take requester).2 := by
  by_cases ready : requester.session.phase = call.step.phase
  · cases call with
    | requestManifest now =>
        exact .of_takes ((Requester.takes_requestManifest now ready).map Answer.asked)
          (.asked ready)
    | receiveManifest packet =>
        cases read : (Message.readManifest packet).outcome with
        | error failure =>
            obtain ⟨fault, rfl⟩ := Message.exists_request_of_readManifest read
            have here : requester.session.phase = SessionStep.receiveManifest.phase := ready
            rw [take, Step.outcome_map, Step.after_map, Requester.receiveManifest,
              Requester.inPhase, if_pos here]
            simp only [read]
            exact .rejected ready
        | ok remote =>
            exact .of_takes ((Requester.takes_receiveManifest ready read).map Answer.planned)
              (.planned ready read)
    | requestFetch now =>
        by_cases nothing : requester.session.plan.toFetch = []
        · exact .of_takes
            ((Requester.takes_requestFetch_none now ready nothing).map Answer.fetching)
            (.upToDate ready nothing)
        · exact .of_takes
            ((Requester.takes_requestFetch_some now ready nothing).map Answer.fetching)
            (.fetching ready nothing)
    | receiveCards packet =>
        cases judges : (Requester.judgeAll requester.session packet).outcome with
        | error failure =>
            obtain ⟨fault, rfl⟩ := Requester.exists_request_of_judgeAll judges
            have here : requester.session.phase = SessionStep.receiveCards.phase := ready
            rw [take, Step.outcome_map, Step.after_map, Requester.receiveCards,
              Requester.inPhase, if_pos here]
            simp only [judges]
            exact .rejected ready
        | ok judged =>
            exact .of_takes ((Requester.takes_receiveCards ready judges).map Answer.received)
              (.received ready judges)
  · exact effect_of_early ready

/-- The effect of a call as one of the step behind it. -/
theorem effect_of_take {α : Type} {use : α -> Answer} {step : Step α} (call : SessionCall)
    (requester : Requester) (taken : call.take = use <$> step) :
    Effect call requester ((step requester).1.outcome.map use) (step requester).2 := by
  rw [← Step.outcome_map, ← Step.after_map use, ← taken]
  exact call.effect_take requester

theorem effect_of_ok {α : Type} {use : α -> Answer} {step : Step α} {result : α}
    (call : SessionCall) (taken : call.take = use <$> step)
    (done : (step requester).1.outcome = .ok result) :
    Effect call requester (.ok (use result)) (step requester).2 := by
  have effect := effect_of_take call requester taken
  rw [done] at effect
  exact effect

end SessionCall

namespace Requester

variable {requester : Requester}

/-! ## What stays -/

structure Keeps (before after : Requester) : Prop where
  cache : after.cache = before.cache
  space : after.session.space = before.session.space

theorem Keeps.trans {before middle after : Requester} (first : before.Keeps middle)
    (second : middle.Keeps after) : before.Keeps after :=
  ⟨second.cache.trans first.cache, second.space.trans first.space⟩

/-- Only vCards that are received change the cache, and nothing changes the namespace. -/
theorem keeps_of_effect {call : SessionCall} {outcome : Except Failure Answer} {after : Requester}
    (effect : call.Effect requester outcome after) (other : call.step ≠ .receiveCards) :
    requester.Keeps after := by
  cases effect with
  | outOfOrder early => exact ⟨rfl, rfl⟩
  | rejected ready => exact ⟨rfl, rfl⟩
  | asked ready => exact ⟨rfl, rfl⟩
  | planned ready read => exact ⟨rfl, rfl⟩
  | upToDate ready nothing => exact ⟨rfl, rfl⟩
  | fetching ready wanted => exact ⟨rfl, rfl⟩
  | received ready judges => exact absurd rfl other

theorem keeps_requestManifest (now : Int) (requester : Requester) :
    requester.Keeps (requestManifest now requester).2 :=
  keeps_of_effect (SessionCall.effect_of_take (.requestManifest now) requester rfl)
    (by simp [SessionCall.step])

theorem keeps_receiveManifest (packet : Packet) (requester : Requester) :
    requester.Keeps (receiveManifest packet requester).2 :=
  keeps_of_effect (SessionCall.effect_of_take (.receiveManifest packet) requester rfl)
    (by simp [SessionCall.step])

theorem keeps_requestFetch (now : Int) (requester : Requester) :
    requester.Keeps (requestFetch now requester).2 :=
  keeps_of_effect (SessionCall.effect_of_take (.requestFetch now) requester rfl)
    (by simp [SessionCall.step])

theorem receiveCards_cases (packet : Packet) (requester : Requester) :
    (∃ judged, (judgeAll requester.session packet).outcome = .ok judged ∧
        (receiveCards packet requester).2 =
          ⟨{ requester.session with phase := .complete },
            store requester.cache (judged.filterMap JudgedCard.accepted?)⟩) ∨
      (receiveCards packet requester).2 = requester := by
  have effect := SessionCall.effect_of_take (.receiveCards packet) requester rfl
  generalize (receiveCards packet requester).2 = after at effect ⊢
  generalize Except.map _ _ = outcome at effect
  cases effect with
  | outOfOrder early => exact .inr rfl
  | rejected ready => exact .inr rfl
  | received ready judges => exact .inl ⟨_, judges, rfl⟩

theorem exists_judged_of_receiveCards {packet : Packet} {result : FetchResult}
    (received : (receiveCards packet requester).1.outcome = .ok result) :
    ∃ judged, (judgeAll requester.session packet).outcome = .ok judged ∧
      result = resultOf requester.session.requested judged ∧
      (receiveCards packet requester).2.cache =
        store requester.cache (judged.filterMap JudgedCard.accepted?) := by
  have effect := SessionCall.effect_of_ok (.receiveCards packet) rfl received
  generalize (receiveCards packet requester).2 = after at effect ⊢
  cases effect with
  | received ready judges => exact ⟨_, judges, rfl, rfl⟩

/-! ## What is asked -/

theorem asked_of_requestManifest {now : Int} {packet : Packet}
    (emitted : (requestManifest now requester).1.outcome = .ok packet) :
    packet = Message.requestManifest now := by
  have effect := SessionCall.effect_of_ok (.requestManifest now) rfl emitted
  generalize (requestManifest now requester).2 = after at effect
  cases effect with
  | asked ready => rfl

theorem asked_of_requestFetch {now : Int} {packet : Packet}
    (emitted : (requestFetch now requester).1.outcome = .ok (some packet)) :
    packet = Message.requestCards now requester.session.plan.toFetch := by
  have effect := SessionCall.effect_of_ok (.requestFetch now) rfl emitted
  generalize (requestFetch now requester).2 = after at effect
  cases effect with
  | fetching ready wanted => rfl

end Requester

end PairedContacts
