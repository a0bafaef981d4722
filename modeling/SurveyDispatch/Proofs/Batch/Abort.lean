import SurveyDispatch.Proofs.Batch.Accounting

/-!
# A batch that fails

A batch fails exactly when one of its keys fails, and the first key that fails decides with which
fault.  The keys before it are processed as if there were no other, and what they published stays.
The keys after it have no influence: the batch ends the same way whatever they are.

A key that is not published leaves a session as it was, also where a collaborator fails in the
middle.  `Session.run_aborts` states both.
-/

namespace SurveyDispatch

namespace Pipeline

variable {σ : Type} [ObjectStore σ] {p : Pipeline} {store : σ}

/-- A batch over keys that stops at the first key that fails. -/
structure StopsAt (p : Pipeline) (store : σ) (publisher : Publisher)
    (outcomes : List (String × Outcome)) (key : String) (fault : DispatchFault)
    (publisher' : Publisher) : Prop where
  /-- No key before it fails, whatever was published. -/
  before : ∀ k ∈ outcomes.map Prod.fst, ∀ q f, (p.process store q k).1 ≠ .error f
  /-- The key fails with the fault, whatever was published. -/
  fails : ∀ q, (p.process store q key).1 = .error fault
  /-- The keys before it are processed one after the other, with these outcomes. -/
  processed : Processed p store publisher outcomes publisher'
  /-- The keys after it do not matter. -/
  others : ∀ after, p.processAll store publisher .empty (outcomes.map Prod.fst ++ key :: after) =
    (.error fault, publisher')
  /-- One message was added for each outcome before it that was published, and no other. -/
  messages : ∃ added, publisher'.messages = publisher.messages ++ added ∧
    List.Forall₂ (p.Delivers store) (deliveries outcomes) added

/-- A batch that fails stops at the first key that fails. -/
theorem stopsAt_of_processAll {publisher publisher' : Publisher} {keys : List String}
    {fault : DispatchFault}
    (h : p.processAll store publisher .empty keys = (.error fault, publisher')) :
    ∃ outcomes key after, keys = outcomes.map Prod.fst ++ key :: after ∧
      StopsAt p store publisher outcomes key fault publisher' := by
  obtain ⟨outcomes, key, after, rfl, processed, failing⟩ := processAll_error_iff.mp h
  refine ⟨outcomes, key, after, rfl, ?_⟩
  exact {
    before := fun k mem q f => processed.process_ok mem q f
    fails := fun q => process_error_congr (congrArg Prod.fst failing) q
    processed := processed
    others := fun after =>
      processAll_error_iff.mpr ⟨outcomes, key, after, rfl, processed, failing⟩
    messages := processed.messages }

/-- A batch fails exactly when one of its keys fails. -/
theorem processAll_fails_iff {publisher : Publisher} {keys : List String} :
    (∃ fault, (p.processAll store publisher .empty keys).1 = .error fault) ↔
      ∃ key ∈ keys, ∃ fault, (p.process store publisher key).1 = .error fault := by
  constructor
  · rintro ⟨fault, h⟩
    obtain ⟨outcomes, key, after, rfl, stops⟩ :=
      stopsAt_of_processAll (Prod.ext h (Eq.refl (p.processAll store publisher .empty keys).2))
    exact ⟨key, by simp, fault, stops.fails publisher⟩
  · rintro ⟨key, mem, fault, failing⟩
    cases hall : p.processAll store publisher .empty keys with
    | mk result publisher' =>
      cases result with
      | error fault' => exact ⟨fault', rfl⟩
      | ok report =>
        obtain ⟨outcomes, rfl, processed, -⟩ := processAll_ok_iff.mp hall
        exact absurd failing (processed.process_ok mem publisher fault)

end Pipeline

/-- A batch fails exactly when some listed key fails.  It then stops at the first such key with the
fault of that key, and keeps what was published before it.  A key that is not published leaves the
session as it was. -/
theorem Session.run_aborts (p : Pipeline) (s : Session MemoryStore) (entryPrefix suffix : String) :
    (∃ keys, listSubmissions s.store entryPrefix suffix = .ok keys ∧
      ((∃ fault, (s.run p entryPrefix suffix).1 = .error fault) ↔
        ∃ key ∈ keys, ∃ fault, (s.process p key).1 = .error fault) ∧
      ∀ fault s', s.run p entryPrefix suffix = (.error fault, s') →
        s'.store = s.store ∧
        ∃ outcomes key after, keys = outcomes.map Prod.fst ++ key :: after ∧
          p.StopsAt s.store s.publisher outcomes key fault s'.publisher) ∧
    ∀ key, (∀ topic id, (s.process p key).1 ≠ .ok (.published topic id)) →
      (s.process p key).2 = s := by
  constructor
  · obtain ⟨keys, listed⟩ := listSubmissions_memory s.store entryPrefix suffix
    have run : p.run s.store s.publisher entryPrefix suffix =
        p.processAll s.store s.publisher .empty keys := by
      rw [Pipeline.run, listed]
    refine ⟨keys, listed, ?_, ?_⟩
    · simp only [Session.run, Session.process, run]
      exact Pipeline.processAll_fails_iff
    · intro fault s' h
      cases hall : p.processAll s.store s.publisher .empty keys with
      | mk result publisher' =>
        simp only [Session.run, run, hall, Prod.mk.injEq] at h
        obtain ⟨rfl, rfl⟩ := h
        exact ⟨rfl, Pipeline.stopsAt_of_processAll hall⟩
  · intro key unpublished
    have step := Pipeline.process_step p s.store s.publisher key
    simp only [Session.process] at unpublished ⊢
    rw [step.publisher_eq unpublished]

/-! ## A batch that is cut short

The objects of the small batch, of which the first one is published, and two submissions after them.
The address of the first of these cannot be looked up, so that the other one is not reached. -/

/-- The store of the batch that is cut short. -/
def MemoryStore.cutShort : MemoryStore :=
  let content := Utf8.encode "\x7b\"p\":\"P\",\"s\":2,\"f\":\"F\",\"k\":\"13\",\"a\":\x7b\x7d\x7d"
  (MemoryStore.small.set "e/3" content).set "e/4" content

/-- The session of the batch that is cut short. -/
def Session.cutShort : Session MemoryStore := ⟨.cutShort, Session.small.publisher⟩

/-- The pipeline of the small batch for two house numbers, with a lookup that does not answer for
the second one. -/
def Pipeline.halfLocating : Pipeline :=
  { small with
    addresses := ⟨(Pattern.seq (.group 1 (.char (.single '1')))
      (.group 2 (.char (.range '2' '3')))).program, "k", "k"⟩
    locate := fun a => if a.houseNumber = "3" then .error (.lookup "down") else small.locate a }

theorem Session.run_aborts_small :
    (Session.cutShort.run .halfLocating "e/" "").1 = .error (.lookup "down") ∧
      ∃ outcomes key, (deliveries outcomes).length = 1 ∧
        Pipeline.halfLocating.StopsAt MemoryStore.cutShort Session.cutShort.publisher
          outcomes key (.lookup "down")
          (Session.cutShort.run .halfLocating "e/" "").2.publisher := by
  have ends : (Session.cutShort.run .halfLocating "e/" "").1 = .error (.lookup "down") := by
    decide +kernel
  have run : Session.cutShort.run .halfLocating "e/" "" =
      (.error (.lookup "down"), (Session.cutShort.run .halfLocating "e/" "").2) := by
    rw [← ends]
  obtain ⟨⟨keys, -, -, stops⟩, -⟩ := Session.run_aborts .halfLocating .cutShort "e/" ""
  obtain ⟨-, outcomes, key, -, -, stopsAt⟩ := stops _ _ run
  -- One message was there before, and there are two in the end.
  obtain ⟨added, kept, sent⟩ := stopsAt.messages
  have before : Session.cutShort.publisher.messages.length = 1 := by decide +kernel
  have after : (Session.cutShort.run .halfLocating "e/" "").2.publisher.messages.length = 2 := by
    decide +kernel
  have published : (deliveries outcomes).length = 1 := by
    have lengths := congrArg List.length kept
    rw [List.length_append, before, after] at lengths
    rw [sent.length_eq]
    omega
  exact ⟨ends, outcomes, key, published, stopsAt⟩

end SurveyDispatch
