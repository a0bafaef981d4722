import SurveyDispatch.Proofs.Batch.Accounting
import SurveyDispatch.Proofs.Rule.Policies

/-!
# Where published messages come from

In a session objects are put, overwritten, synced and processed in any order.  Its history is the
list of the moments at which a key was processed, each with the store of that moment.  A batch has
one moment for each key it gets to, the one that fails included.

`Pipeline.Contributes` says what a moment adds to the messages.  A submission that is admitted adds
one message, and everything else adds none.  A step keeps this, so a batch, an action and a whole
session do, and `Session.history_accounts` reads all messages off the history.
-/

namespace SurveyDispatch

/-- A key that is processed, with the store at that moment. -/
structure Moment (σ : Type) where
  store : σ
  key : String

namespace Pipeline

variable {σ : Type} [ObjectStore σ] {p : Pipeline} {store : σ}

/-- At a moment, a key holds a submission that no exclusion takes, with a topic and a place. -/
structure Admits (p : Pipeline) (moment : Moment σ) (topic : String) (x : Submission)
    (point : Coordinates) : Prop extends
    Publishable p moment.store moment.key topic x point where
  unexcluded : ∀ s ∈ p.engine.exclusions, s.passes x.record = false
  named : topic ≠ ""

/-- What a moment adds to the messages: one message of the submission that is admitted, or none if
there is no such submission. -/
inductive Contributes (p : Pipeline) (moment : Moment σ) : List Published → Prop where
  | published {topic : String} {x : Submission} {point : Coordinates} (id time : String) :
      p.Admits moment topic x point →
      Contributes p moment [⟨id, topic,
        (Message.mk (x.geoJson p.settings point) moment.key topic time).toBytes⟩]
  | held : (∀ topic x point, ¬ p.Admits moment topic x point) → Contributes p moment []

/-! ## A step -/

/-- A publishable key is ready, with the GeoJSON of its submission. -/
theorem Publishable.settle_eq {key topic : String} {x : Submission} {point : Coordinates}
    (h : p.Publishable store key topic x point) :
    p.settle store key = .ok (.inr ⟨topic, x.geoJson p.settings point⟩) := by
  obtain ⟨bytes, stored, read⟩ := h.stored
  obtain ⟨address, parsed, located⟩ := h.located
  simp only [settle, stored, prepare, read, h.screened, h.routed, parsed, located,
    Bool.false_eq_true, if_false]

/-- Processing a key adds what the moment of the key contributes. -/
theorem Step.contributes {publisher publisher' : Publisher} {key : String}
    {result : Except DispatchFault Outcome}
    (h : Step p store publisher key result publisher') :
    ∃ added, p.Contributes ⟨store, key⟩ added ∧
      publisher'.messages = publisher.messages ++ added := by
  cases h with
  | failed fault settled =>
    refine ⟨[], .held fun topic x point admitted => ?_, by simp⟩
    cases settled.symm.trans admitted.settle_eq
  | held outcome settled _ =>
    refine ⟨[], .held fun topic x point admitted => ?_, by simp⟩
    cases settled.symm.trans admitted.settle_eq
  | refused ready settled empty =>
    refine ⟨[], .held fun topic x point admitted => ?_, by simp⟩
    cases settled.symm.trans admitted.settle_eq
    exact admitted.named (String.isEmpty_iff.mp empty)
  | published ready settled named =>
    obtain ⟨x, point, publishable, survey⟩ := settle_ready settled
    have admitted : p.Admits ⟨store, key⟩ ready.topic x point :=
      ⟨publishable, RuleSet.firstMatch_matched_eq_false_iff.mp publishable.screened,
        fun empty => by simp [empty] at named⟩
    refine ⟨_, .published (toString (publisher.lastId + 1)) (p.clock (publisher.lastId + 1))
      admitted, ?_⟩
    rw [message, survey]

/-! ## A batch -/

/-- The keys that a batch gets to: all of them, or those up to the first one that fails. -/
def attempted (p : Pipeline) (store : σ) : Publisher → List String → List String
  | _, [] => []
  | publisher, key :: rest =>
    match p.process store publisher key with
    | (.error _, _) => [key]
    | (.ok _, publisher) => key :: p.attempted store publisher rest

/-- A batch processes the keys that it gets to, one after the other, and does nothing else. -/
theorem processAll_publisher (publisher : Publisher) (report : Report) (keys : List String) :
    (p.processAll store publisher report keys).2 =
      (p.attempted store publisher keys).foldl (fun q key => (p.process store q key).2)
        publisher := by
  induction keys generalizing publisher report with
  | nil => rfl
  | cons key rest ih =>
    cases hp : p.process store publisher key with
    | mk result next =>
      cases result with
      | error fault => simp [processAll, attempted, hp]
      | ok outcome => simp [processAll, attempted, hp, ih]

/-- Keys that are processed one after the other contribute one after the other. -/
theorem foldl_process_contributes (p : Pipeline) (store : σ) (publisher : Publisher)
    (keys : List String) :
    ∃ added, List.Forall₂ p.Contributes (keys.map (Moment.mk store)) added ∧
      (keys.foldl (fun q key => (p.process store q key).2) publisher).messages =
        publisher.messages ++ added.flatten := by
  induction keys generalizing publisher with
  | nil => exact ⟨[], .nil, by simp⟩
  | cons key rest ih =>
    obtain ⟨first, contributes, messages⟩ := (process_step p store publisher key).contributes
    obtain ⟨later, contribute, messages'⟩ := ih (p.process store publisher key).2
    refine ⟨first :: later, .cons contributes contribute, ?_⟩
    rw [List.foldl_cons, messages', messages, List.flatten_cons, List.append_assoc]

end Pipeline

/-! ## A session -/

namespace Session

variable {σ : Type} [ObjectStore σ] [AttachmentSource σ] {p : Pipeline}

/-- The moments of an action at which a key is processed. -/
def moments (p : Pipeline) (s : Session σ) : Action → List (Moment σ)
  | .process key => [⟨s.store, key⟩]
  | .run entryPrefix suffix =>
    match SurveyDispatch.listSubmissions s.store entryPrefix suffix with
    | .error _ => []
    | .ok keys => (p.attempted s.store s.publisher keys).map (Moment.mk s.store)
  | _ => []

/-- The moments of a sequence of actions. -/
def history (p : Pipeline) : Session σ → List Action → List (Moment σ)
  | _, [] => []
  | s, action :: rest => s.moments p action ++ history p (s.perform p action).2 rest

/-- An action adds what its moments contribute, one after the other. -/
theorem perform_contributes (s : Session σ) (action : Action) :
    ∃ added, List.Forall₂ p.Contributes (s.moments p action) added ∧
      (s.perform p action).2.publisher.messages = s.publisher.messages ++ added.flatten := by
  cases action with
  | process key =>
    obtain ⟨added, contribute, messages⟩ :=
      p.foldl_process_contributes s.store s.publisher [key]
    exact ⟨added, contribute, messages⟩
  | run entryPrefix suffix =>
    cases listed : SurveyDispatch.listSubmissions s.store entryPrefix suffix with
    | error fault =>
      refine ⟨[], ?_, ?_⟩
      · simp [moments, listed]
      · simp [perform, run, Pipeline.run, listed]
    | ok keys =>
      obtain ⟨added, contribute, messages⟩ := p.foldl_process_contributes
        s.store s.publisher (p.attempted s.store s.publisher keys)
      refine ⟨added, ?_, ?_⟩
      · simpa only [moments, listed] using contribute
      · simp only [perform, run, Pipeline.run, listed, Pipeline.processAll_publisher, messages]
  | _ => exact ⟨[], .nil, by simp [perform]⟩

/-- A sequence of actions adds what the moments of its history contribute. -/
theorem after_contributes (s : Session σ) (actions : List Action) :
    ∃ added, List.Forall₂ p.Contributes (s.history p actions) added ∧
      (s.after p actions).publisher.messages = s.publisher.messages ++ added.flatten := by
  induction actions generalizing s with
  | nil => exact ⟨[], .nil, by simp [after]⟩
  | cons action rest ih =>
    obtain ⟨first, contributes, messages⟩ := s.perform_contributes (p := p) action
    obtain ⟨later, contribute, messages'⟩ := ih (s.perform p action).2
    refine ⟨first ++ later, List.rel_append contributes contribute, ?_⟩
    have step : s.after p (action :: rest) = (s.perform p action).2.after p rest := rfl
    rw [step, messages', messages, List.flatten_append, List.append_assoc]

/-- All messages of a session come from the moments of its history, in order: each moment at which
a submission was admitted added one message, and no other moment added any. -/
theorem history_accounts (p : Pipeline) (store : σ) (actions : List Action) :
    ∃ added, List.Forall₂ p.Contributes ((Session.mk store .empty).history p actions) added ∧
      ((Session.mk store .empty).after p actions).publisher.messages = added.flatten := by
  obtain ⟨added, contribute, messages⟩ :=
    (Session.mk store .empty).after_contributes (p := p) actions
  exact ⟨added, contribute, messages⟩

end Session

end SurveyDispatch
