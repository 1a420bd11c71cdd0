import PairedContacts.Session

/-!
# Steps of a session

What a step gives and where it leaves the requester, for each step that is taken in its phase and
for one step after another.
-/

set_option autoImplicit false

namespace PairedContacts

namespace Step

variable {α β : Type}

/-- A step succeeds with a result and leaves the requester in a state. -/
structure Takes (step : Step α) (before : Requester) (result : α) (after : Requester) : Prop where
  outcome : (step before).1.outcome = .ok result
  after_eq : (step before).2 = after

theorem Takes.bind {first : Step α} {next : α -> Step β} {before middle after : Requester}
    {result : α} {final : β} (taken : first.Takes before result middle)
    (rest : (next result).Takes middle final after) :
    Takes (first >>= next) before final after := by
  have whole : (first >>= next) before =
      (⟨(first before).1.events ++ (next result middle).1.events,
        (next result middle).1.outcome⟩, (next result middle).2) := by
    show andThen first next before = _
    simp only [andThen, taken.outcome, taken.after_eq]
  constructor
  · rw [whole]
    exact rest.outcome
  · rw [whole]
    exact rest.after_eq

theorem takes_pure (requester : Requester) (result : α) :
    Takes (pure result) requester result requester :=
  ⟨rfl, rfl⟩

theorem takes_ofRun {run : Run α} {result : α} (done : run.outcome = .ok result)
    (requester : Requester) : (ofRun run).Takes requester result requester :=
  ⟨done, rfl⟩

end Step

namespace Requester

variable {requester : Requester}

theorem takes_inPhase {α : Type} {step : SessionStep} {take : Step α} {result : α}
    {after : Requester} (phase : requester.session.phase = step.phase)
    (taken : take.Takes requester result after) :
    (inPhase step take).Takes requester result after := by
  have same : inPhase step take requester = take requester := by
    rw [inPhase, if_pos phase]
  exact ⟨by rw [same]; exact taken.outcome, by rw [same]; exact taken.after_eq⟩

theorem takes_requestManifest (now : Int) (phase : requester.session.phase = .idle) :
    (requestManifest now).Takes requester (Message.requestManifest now)
      { requester with session := { requester.session with phase := .manifestRequested } } :=
  takes_inPhase phase ⟨rfl, rfl⟩

def planned (requester : Requester) (remote : Manifest) : Requester :=
  { requester with session :=
      { requester.session with
        phase := .manifestReceived
        remote := remote
        plan := FetchPlan.compute requester.cache.timestamps remote } }

theorem takes_receiveManifest {packet : Packet} {remote : Manifest}
    (phase : requester.session.phase = .manifestRequested)
    (read : (Message.readManifest packet).outcome = .ok remote) :
    (receiveManifest packet).Takes requester
      (FetchPlan.compute requester.cache.timestamps remote) (requester.planned remote) := by
  refine takes_inPhase phase ⟨?_, ?_⟩
  · simp only [read]
  · simp only [read]
    rfl

theorem takes_requestFetch_none (now : Int)
    (phase : requester.session.phase = .manifestReceived)
    (nothing : requester.session.plan.toFetch = []) :
    (requestFetch now).Takes requester none
      { requester with session := { requester.session with phase := .complete } } := by
  refine takes_inPhase phase ⟨?_, ?_⟩
  · simp only [nothing]
    rfl
  · simp only [nothing]
    rfl

def fetching (requester : Requester) : Requester :=
  { requester with session :=
      { requester.session with
        phase := .fetchRequested
        requested := requester.session.plan.toFetch } }

theorem takes_requestFetch_some (now : Int)
    (phase : requester.session.phase = .manifestReceived)
    (wanted : requester.session.plan.toFetch ≠ []) :
    (requestFetch now).Takes requester
      (some (Message.requestCards now requester.session.plan.toFetch)) requester.fetching := by
  have full : requester.session.plan.toFetch.isEmpty = false := by
    simpa using wanted
  refine takes_inPhase phase ⟨?_, ?_⟩
  · simp only [full]
    rfl
  · simp only [full]
    rfl

theorem takes_receiveCards {packet : Packet} {judged : List JudgedCard}
    (phase : requester.session.phase = .fetchRequested)
    (judges : (judgeAll requester.session packet).outcome = .ok judged) :
    (receiveCards packet).Takes requester (resultOf requester.session.requested judged)
      ⟨{ requester.session with phase := .complete },
        store requester.cache (judged.filterMap JudgedCard.accepted?)⟩ := by
  refine takes_inPhase phase ⟨?_, ?_⟩
  · simp only [judges]
  · simp only [judges]

end Requester

end PairedContacts
