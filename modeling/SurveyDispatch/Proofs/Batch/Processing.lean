import SurveyDispatch.Dispatch.Pipeline

/-!
# Processing key by key

Before anything is published, processing a key reads its bytes, screens, routes and locates.
`Pipeline.settle` is that part.  It does not see the publisher.

`Pipeline.Step` lists the four ways in which processing a key can end, and `Pipeline.process_step`
says that there are no others.  Only one of them touches the publisher.  All later statements about
a single key are case splits on a step.

`Pipeline.Processed` is a run of steps that do not fail.  A batch either is such a run over all its
keys (`processAll_ok_iff`), or such a run up to a key that fails (`processAll_error_iff`).
-/

namespace SurveyDispatch

namespace Pipeline

variable {σ : Type} [ObjectStore σ] {p : Pipeline} {store : σ}

/-! ## Before publishing -/

/-- What a key comes to before anything is published: an outcome, or a submission that is ready. -/
def settle (p : Pipeline) (store : σ) (key : String) : Except DispatchFault (Outcome ⊕ Ready) :=
  match ObjectStore.get store key with
  | .error fault => .error (.store fault)
  | .ok bytes => p.prepare bytes

/-- A key holds a submission whose address has coordinates. -/
structure Locates (p : Pipeline) (store : σ) (key : String) (x : Submission)
    (point : Coordinates) : Prop where
  /-- The bytes of the key are the submission. -/
  stored : ∃ bytes, ObjectStore.get store key = .ok bytes ∧
    Submission.ofBytes p.settings bytes = .ok x
  /-- The lookup knows the address of the submission. -/
  located : ∃ address, p.addresses.parse x.record = .ok address ∧
    p.locate address = .ok (some point)

/-- A key holds a submission that passes the exclusions, is routed to a topic and is located. -/
structure Publishable (p : Pipeline) (store : σ) (key topic : String) (x : Submission)
    (point : Coordinates) : Prop extends Locates p store key x point where
  /-- No exclusion passes. -/
  screened : (p.engine.screen x.record).matched = false
  /-- The routes name the topic. -/
  routed : p.engine.routeTopic x.record = some topic

/-- An outcome that is settled before publishing is not that of a published submission. -/
theorem prepare_ne_published {bytes : Bytes} {outcome : Outcome}
    (h : p.prepare bytes = .ok (.inl outcome)) (topic id : String) :
    outcome ≠ .published topic id := by
  rintro rfl
  unfold prepare at h
  split at h
  · cases h
  · dsimp only at h
    split at h
    · cases h
    · split at h
      · cases h
      · split at h
        · cases h
        · split at h <;> cases h

/-- A ready submission was read from the key, screened, routed and located. -/
theorem settle_ready {key : String} {ready : Ready} (h : p.settle store key = .ok (.inr ready)) :
    ∃ x point, p.Publishable store key ready.topic x point ∧
      ready.survey = x.geoJson p.settings point := by
  unfold settle at h
  split at h
  · cases h
  next bytes stored =>
    unfold prepare at h
    split at h
    · cases h
    next x read =>
      dsimp only at h
      split at h
      · cases h
      next screened =>
        split at h
        · cases h
        next topic routed =>
          split at h
          · cases h
          next address parsed =>
            split at h
            · cases h
            · cases h
            next point located =>
              cases h
              exact ⟨x, point, ⟨⟨⟨bytes, stored, read⟩, ⟨address, parsed, located⟩⟩,
                Bool.eq_false_iff.mpr screened, routed⟩, rfl⟩

/-! ## Steps -/

/-- The message that a ready submission is published as. -/
def message (p : Pipeline) (publisher : Publisher) (key : String) (ready : Ready) : Message :=
  ⟨ready.survey, key, ready.topic, p.clock (publisher.lastId + 1)⟩

/-- The ways in which processing a key can end. -/
inductive Step (p : Pipeline) (store : σ) (publisher : Publisher) (key : String) :
    Except DispatchFault Outcome → Publisher → Prop where
  /-- A collaborator fails before publishing. -/
  | failed (fault : DispatchFault) : p.settle store key = .error fault →
      Step p store publisher key (.error fault) publisher
  /-- The submission is held back. -/
  | held (outcome : Outcome) : p.settle store key = .ok (.inl outcome) →
      (∀ topic id, outcome ≠ .published topic id) →
      Step p store publisher key (.ok outcome) publisher
  /-- The publisher refuses the empty topic. -/
  | refused (ready : Ready) : p.settle store key = .ok (.inr ready) → ready.topic.isEmpty = true →
      Step p store publisher key (.error .emptyTopic) publisher
  /-- The submission is published. -/
  | published (ready : Ready) : p.settle store key = .ok (.inr ready) →
      ready.topic.isEmpty = false →
      Step p store publisher key
        (.ok (.published ready.topic (toString (publisher.lastId + 1))))
        ⟨publisher.messages ++ [⟨toString (publisher.lastId + 1), ready.topic,
          (p.message publisher key ready).toBytes⟩], publisher.lastId + 1⟩

/-- Only a submission that is ready gets to the publisher. -/
theorem process_eq_settle (publisher : Publisher) (key : String) :
    p.process store publisher key =
      match p.settle store key with
      | .error fault => (.error fault, publisher)
      | .ok (.inl outcome) => (.ok outcome, publisher)
      | .ok (.inr ready) => p.publish publisher key ready := by
  unfold process settle
  cases ObjectStore.get store key with
  | error fault => rfl
  | ok bytes => rfl

/-- Processing a key is a step. -/
theorem process_step (p : Pipeline) (store : σ) (publisher : Publisher) (key : String) :
    Step p store publisher key (p.process store publisher key).1
      (p.process store publisher key).2 := by
  rw [process_eq_settle]
  cases h : p.settle store key with
  | error fault => exact .failed fault h
  | ok settled =>
    cases settled with
    | inl outcome =>
      refine .held outcome h fun topic id => ?_
      unfold settle at h
      split at h
      · cases h
      · exact prepare_ne_published h topic id
    | inr ready =>
      cases empty : ready.topic.isEmpty with
      | true =>
        simp only [publish, Publisher.publish, empty, if_true]
        exact .refused ready h empty
      | false =>
        simp only [publish, Publisher.publish, empty, Bool.false_eq_true, if_false]
        exact .published ready h empty

theorem step_of_process {publisher publisher' : Publisher} {key : String}
    {result : Except DispatchFault Outcome}
    (h : p.process store publisher key = (result, publisher')) :
    Step p store publisher key result publisher' := by
  have step := process_step p store publisher key
  rwa [h] at step

/-- A step that publishes nothing leaves the publisher as it was. -/
theorem Step.publisher_eq {publisher publisher' : Publisher} {key : String}
    {result : Except DispatchFault Outcome} (h : Step p store publisher key result publisher')
    (hresult : ∀ topic id, result ≠ .ok (.published topic id)) : publisher' = publisher := by
  cases h with
  | failed _ _ => rfl
  | held _ _ _ => rfl
  | refused _ _ _ => rfl
  | published _ _ _ => exact absurd rfl (hresult _ _)

/-- Whether and how a key fails does not depend on what was published before. -/
theorem process_error_congr {publisher : Publisher} {key : String} {fault : DispatchFault}
    (h : (p.process store publisher key).1 = .error fault) (other : Publisher) :
    (p.process store other key).1 = .error fault := by
  have here := process_step p store publisher key
  have there := process_step p store other key
  rw [h] at here
  generalize (p.process store other key).1 = result at there
  generalize (p.process store other key).2 = last at there
  generalize (p.process store publisher key).2 = last' at here
  cases here with
  | failed _ settled =>
    cases there with
    | failed _ settled' => rw [settled] at settled'; cases settled'; rfl
    | held _ settled' _ => rw [settled] at settled'; cases settled'
    | refused _ settled' _ => rw [settled] at settled'; cases settled'
    | published _ settled' _ => rw [settled] at settled'; cases settled'
  | refused ready settled empty =>
    cases there with
    | failed _ settled' => rw [settled] at settled'; cases settled'
    | held _ settled' _ => rw [settled] at settled'; cases settled'
    | refused _ _ _ => rfl
    | published _ settled' empty' =>
      rw [settled] at settled'
      cases settled'
      rw [empty] at empty'
      cases empty'

/-! ## Runs of steps -/

/-- The outcomes of keys that are processed one after the other without a fault. -/
inductive Processed (p : Pipeline) (store : σ) :
    Publisher → List (String × Outcome) → Publisher → Prop where
  | nil (publisher : Publisher) : Processed p store publisher [] publisher
  | cons {publisher next last : Publisher} {key : String} {outcome : Outcome}
      {outcomes : List (String × Outcome)} :
      p.process store publisher key = (.ok outcome, next) → Processed p store next outcomes last →
      Processed p store publisher ((key, outcome) :: outcomes) last

end Pipeline

/-- Adds outcomes one after the other. -/
def Report.addAll (r : Report) (outcomes : List (String × Outcome)) : Report :=
  outcomes.foldl (fun r o => r.add o.1 o.2) r

/-- Outcomes are added at the end, in order. -/
theorem Report.outcomes_addAll (r : Report) (outcomes : List (String × Outcome)) :
    (r.addAll outcomes).outcomes = r.outcomes ++ outcomes := by
  induction outcomes generalizing r with
  | nil => simp [addAll]
  | cons o rest ih =>
    have step : r.addAll (o :: rest) = (r.add o.1 o.2).addAll rest := rfl
    rw [step, ih]
    simp [add]

namespace Pipeline

variable {σ : Type} [ObjectStore σ] {p : Pipeline} {store : σ}

/-- A batch that ends well is a run of steps over all its keys. -/
theorem processAll_ok_iff {publisher publisher' : Publisher} {report report' : Report}
    {keys : List String} :
    p.processAll store publisher report keys = (.ok report', publisher') ↔
      ∃ outcomes, outcomes.map Prod.fst = keys ∧ Processed p store publisher outcomes publisher' ∧
        report' = report.addAll outcomes := by
  induction keys generalizing publisher report with
  | nil =>
    constructor
    · intro h
      cases h
      exact ⟨[], rfl, .nil _, rfl⟩
    · rintro ⟨outcomes, keys, run, rfl⟩
      cases List.map_eq_nil_iff.mp keys
      cases run
      rfl
  | cons key rest ih =>
    cases hp : p.process store publisher key with
    | mk result next =>
      simp only [processAll, hp]
      cases result with
      | error fault =>
        constructor
        · intro h
          cases h
        · rintro ⟨outcomes, keys, run, rfl⟩
          cases run with
          | nil => cases keys
          | cons first _ =>
            cases keys
            rw [hp] at first
            cases first
      | ok outcome =>
        rw [ih]
        constructor
        · rintro ⟨outcomes, rfl, run, rfl⟩
          exact ⟨(key, outcome) :: outcomes, rfl, .cons hp run, rfl⟩
        · rintro ⟨outcomes, keys, run, rfl⟩
          cases run with
          | nil => cases keys
          | cons first run =>
            cases keys
            rw [hp] at first
            cases first
            exact ⟨_, rfl, run, rfl⟩

/-- A batch that fails is a run of steps up to a key that fails.  The fault is that of the key, and
the publisher is left as the run leaves it. -/
theorem processAll_error_iff {publisher publisher' : Publisher} {report : Report}
    {keys : List String} {fault : DispatchFault} :
    p.processAll store publisher report keys = (.error fault, publisher') ↔
      ∃ outcomes key after, keys = outcomes.map Prod.fst ++ key :: after ∧
        Processed p store publisher outcomes publisher' ∧
        p.process store publisher' key = (.error fault, publisher') := by
  induction keys generalizing publisher report with
  | nil =>
    constructor
    · intro h
      cases h
    · rintro ⟨outcomes, key, after, keys, -⟩
      simp at keys
  | cons key rest ih =>
    cases hp : p.process store publisher key with
    | mk result next =>
      simp only [processAll, hp]
      cases result with
      | error fault' =>
        have same : next = publisher := (step_of_process hp).publisher_eq fun _ _ => nofun
        subst same
        constructor
        · intro h
          cases h
          exact ⟨[], key, rest, rfl, .nil _, hp⟩
        · rintro ⟨outcomes, key', after, keys, run, failing⟩
          cases run with
          | nil =>
            cases keys
            rw [hp] at failing
            cases failing
            rfl
          | cons first _ =>
            cases keys
            rw [hp] at first
            cases first
      | ok outcome =>
        rw [ih]
        constructor
        · rintro ⟨outcomes, key', after, rfl, run, failing⟩
          exact ⟨(key, outcome) :: outcomes, key', after, rfl, .cons hp run, failing⟩
        · rintro ⟨outcomes, key', after, keys, run, failing⟩
          cases run with
          | nil =>
            cases keys
            rw [hp] at failing
            cases failing
          | cons first run =>
            cases keys
            rw [hp] at first
            cases first
            exact ⟨_, key', after, rfl, run, failing⟩

/-- No key of a run of steps fails, whatever was published before. -/
theorem Processed.process_ok {publisher publisher' : Publisher}
    {outcomes : List (String × Outcome)} (h : Processed p store publisher outcomes publisher')
    {key : String} (mem : key ∈ outcomes.map Prod.fst) (other : Publisher)
    (fault : DispatchFault) : (p.process store other key).1 ≠ .error fault := by
  intro failing
  induction h with
  | nil _ => cases mem
  | @cons start _ _ _ _ _ first _ ih =>
    cases mem with
    | head =>
      have here := process_error_congr failing start
      rw [first] at here
      cases here
    | tail _ mem => exact ih mem

end Pipeline

end SurveyDispatch
