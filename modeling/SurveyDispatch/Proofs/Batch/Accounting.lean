import SurveyDispatch.Proofs.Batch.Processing
import SurveyDispatch.Proofs.Batch.Listing
import SurveyDispatch.Dispatch.Session
import Mathlib.Data.List.Forall2

/-!
# A batch accounts for what it did

The report of a batch and the messages of the publisher tell the same story.  Three invariants say
so, and each is kept by a single step.

* `Report.Balanced`: every counter of the summary is the number of outcomes of its kind.
* `Publisher.Numbered`: the ids of all messages are the numbers from one on, in order.
* `Pipeline.Delivers`: the messages added by a run are those of its published outcomes, one for each
  and in the same order, and each carries the submission of its key.

`Session.run_accounts` puts them together.
-/

namespace SurveyDispatch

/-! ## Counters -/

/-- The kinds of outcomes. -/
inductive OutcomeKind where
  /-- The bytes are no submission. -/
  | invalid
  /-- An exclusion passed. -/
  | excluded
  /-- No route names a topic. -/
  | unrouted
  /-- The address or its coordinates are missing. -/
  | unlocated
  /-- The submission was published. -/
  | published
  deriving DecidableEq, Repr

/-- The kind of an outcome. -/
def Outcome.kind : Outcome → OutcomeKind
  | .invalid _ => .invalid
  | .excluded _ => .excluded
  | .unrouted => .unrouted
  | .unlocated _ => .unlocated
  | .published _ _ => .published

/-- The counter of a kind. -/
def Summary.ofKind (s : Summary) : OutcomeKind → Nat
  | .invalid => s.invalid
  | .excluded => s.excluded
  | .unrouted => s.unrouted
  | .unlocated => s.unlocated
  | .published => s.published

/-- Counting an outcome adds one to the counter of its kind and to no other. -/
theorem Summary.ofKind_count (s : Summary) (outcome : Outcome) (kind : OutcomeKind) :
    (s.count outcome).ofKind kind = s.ofKind kind + if outcome.kind = kind then 1 else 0 := by
  cases outcome <;> cases kind <;> simp [count, ofKind, Outcome.kind]

/-- The summary of a report counts its outcomes. -/
structure Report.Balanced (r : Report) : Prop where
  /-- Each counter is the number of outcomes of its kind. -/
  byKind : ∀ kind, r.summary.ofKind kind = r.outcomes.countP fun o => o.2.kind = kind
  /-- The total is the sum of the other counters. -/
  total : r.summary.total = r.summary.invalid + r.summary.excluded + r.summary.unrouted +
    r.summary.unlocated + r.summary.published

theorem Report.balanced_empty : Report.empty.Balanced :=
  ⟨fun kind => by cases kind <;> rfl, rfl⟩

/-- Adding an outcome keeps a report balanced. -/
theorem Report.Balanced.add {r : Report} (h : r.Balanced) (key : String) (outcome : Outcome) :
    (r.add key outcome).Balanced := by
  constructor
  · intro kind
    simp only [Report.add, Summary.ofKind_count, h.byKind, List.countP_append,
      List.countP_singleton, decide_eq_true_eq]
  · have total := h.total
    cases outcome <;> simp only [Report.add, Summary.count] <;> omega

/-- A balanced report stays balanced, whatever outcomes are added. -/
theorem Report.Balanced.addAll {r : Report} (h : r.Balanced) (outcomes : List (String × Outcome)) :
    (r.addAll outcomes).Balanced := by
  induction outcomes generalizing r with
  | nil => exact h
  | cons o _ ih => exact ih (h.add o.1 o.2)

/-! ## Message ids -/

/-- A publisher that was given messages, each with its topic. -/
def Publisher.ofHistory (history : List (String × Bytes)) : Publisher :=
  history.foldl (fun p m => (p.publish m.1 m.2).2) .empty

/-- The ids of the messages are the numbers from one on, and the last one is known. -/
structure Publisher.Numbered (p : Publisher) : Prop where
  /-- The ids count from one on. -/
  ids : p.messages.map Published.id =
    (List.range p.messages.length).map fun i => toString (i + 1)
  /-- The number of the last message is the number of messages. -/
  last : p.lastId = p.messages.length

theorem Publisher.numbered_empty : Publisher.empty.Numbered := ⟨rfl, rfl⟩

/-- The next number goes to the next message. -/
theorem Publisher.Numbered.append {p : Publisher} (h : p.Numbered) (topic : String)
    (payload : Bytes) :
    (⟨p.messages ++ [⟨toString (p.lastId + 1), topic, payload⟩], p.lastId + 1⟩ :
      Publisher).Numbered := by
  constructor
  · simp only [List.map_append, List.map_cons, List.map_nil, List.length_append,
      List.length_cons, List.length_nil, List.range_succ, h.ids, h.last]
  · simp only [List.length_append, List.length_cons, List.length_nil, h.last]

/-- Publishing keeps the numbering, also where the topic is refused. -/
theorem Publisher.Numbered.publish {p : Publisher} (h : p.Numbered) (topic : String)
    (payload : Bytes) : (p.publish topic payload).2.Numbered := by
  unfold Publisher.publish
  split
  · exact h
  · exact h.append topic payload

/-- Whatever was published, the messages are numbered. -/
theorem Publisher.numbered_ofHistory (history : List (String × Bytes)) :
    (Publisher.ofHistory history).Numbered := by
  suffices ∀ p : Publisher, p.Numbered →
      (history.foldl (fun p m => (p.publish m.1 m.2).2) p).Numbered from this _ numbered_empty
  induction history with
  | nil => exact fun _ h => h
  | cons m _ ih => exact fun p h => ih _ (h.publish m.1 m.2)

/-! ## Published outcomes and their messages -/

/-- An outcome of a published submission. -/
structure Delivery where
  /-- The key of the submission. -/
  key : String
  /-- The topic it was published on. -/
  topic : String
  /-- The id of its message. -/
  messageId : String
  deriving DecidableEq, Repr

/-- The delivery that an outcome stands for. -/
def Delivery.ofOutcome? : String × Outcome → Option Delivery
  | (key, .published topic messageId) => some ⟨key, topic, messageId⟩
  | _ => none

/-- The published outcomes, in order. -/
def deliveries (outcomes : List (String × Outcome)) : List Delivery :=
  outcomes.filterMap Delivery.ofOutcome?

theorem deliveries_cons (key : String) (outcome : Outcome) (rest : List (String × Outcome)) :
    deliveries ((key, outcome) :: rest) =
      (Delivery.ofOutcome? (key, outcome)).toList ++ deliveries rest := by
  unfold deliveries
  rw [List.filterMap_cons]
  cases Delivery.ofOutcome? (key, outcome) <;> rfl

namespace Pipeline

variable {σ : Type} [ObjectStore σ] {p : Pipeline} {store : σ}

/-- A message delivers the submission of a key. -/
structure Delivers (p : Pipeline) (store : σ) (d : Delivery) (m : Published) : Prop where
  /-- The message has the id of the outcome. -/
  id : m.id = d.messageId
  /-- It was published on the topic of the outcome. -/
  topic : m.topic = d.topic
  /-- It is written from the submission of the key at the coordinates of its address. -/
  payload : ∃ x point time, p.Publishable store d.key d.topic x point ∧
    m.payload = (Message.mk (x.geoJson p.settings point) d.key d.topic time).toBytes

/-- What a step adds to the messages is what its outcome stands for. -/
theorem Step.messages {publisher publisher' : Publisher} {key : String} {outcome : Outcome}
    (h : Step p store publisher key (.ok outcome) publisher') :
    ∃ added, publisher'.messages = publisher.messages ++ added ∧
      List.Forall₂ (p.Delivers store) (Delivery.ofOutcome? (key, outcome)).toList added := by
  cases h with
  | held _ _ unpublished =>
    refine ⟨[], by simp, ?_⟩
    cases outcome with
    | published topic id => exact absurd rfl (unpublished topic id)
    | invalid _ => exact .nil
    | excluded _ => exact .nil
    | unrouted => exact .nil
    | unlocated _ => exact .nil
  | published ready settled _ =>
    obtain ⟨x, point, publishable, survey⟩ := settle_ready settled
    have payload : p.message publisher key ready =
        ⟨x.geoJson p.settings point, key, ready.topic, p.clock (publisher.lastId + 1)⟩ := by
      rw [message, survey]
    exact ⟨_, rfl, .cons ⟨rfl, rfl, x, point, _, publishable, by rw [payload]⟩ .nil⟩

/-- Processing a key keeps the numbering of the messages. -/
theorem Step.numbered {publisher publisher' : Publisher} {key : String}
    {result : Except DispatchFault Outcome} (h : Step p store publisher key result publisher')
    (numbered : publisher.Numbered) : publisher'.Numbered := by
  cases h with
  | failed _ _ => exact numbered
  | held _ _ _ => exact numbered
  | refused _ _ _ => exact numbered
  | published _ _ _ => exact numbered.append _ _

/-- A run adds one message for each of its published outcomes, in order. -/
theorem Processed.messages {publisher publisher' : Publisher}
    {outcomes : List (String × Outcome)} (h : Processed p store publisher outcomes publisher') :
    ∃ added, publisher'.messages = publisher.messages ++ added ∧
      List.Forall₂ (p.Delivers store) (deliveries outcomes) added := by
  induction h with
  | nil _ => exact ⟨[], by simp, .nil⟩
  | cons first _ ih =>
    obtain ⟨before, messages, delivered⟩ := (step_of_process first).messages
    obtain ⟨after, messages', delivered'⟩ := ih
    refine ⟨before ++ after, ?_, ?_⟩
    · rw [messages', messages, List.append_assoc]
    · rw [deliveries_cons]
      exact List.rel_append delivered delivered'

/-- A run over keys keeps the numbering of the messages. -/
theorem Processed.numbered {publisher publisher' : Publisher}
    {outcomes : List (String × Outcome)} (h : Processed p store publisher outcomes publisher')
    (numbered : publisher.Numbered) : publisher'.Numbered := by
  induction h with
  | nil _ => exact numbered
  | cons first _ ih => exact ih ((step_of_process first).numbered numbered)

/-- A batch that ends well is a run over the listed keys. -/
theorem run_eq_ok {publisher publisher' : Publisher} {entryPrefix suffix : String}
    {report : Report} (h : p.run store publisher entryPrefix suffix = (.ok report, publisher')) :
    listSubmissions store entryPrefix suffix = .ok (report.outcomes.map Prod.fst) ∧
      Processed p store publisher report.outcomes publisher' ∧ report.Balanced := by
  unfold run at h
  split at h
  · cases h
  next keys listed =>
    obtain ⟨outcomes, rfl, processed, rfl⟩ := processAll_ok_iff.mp h
    have same : (Report.empty.addAll outcomes).outcomes = outcomes :=
      Report.outcomes_addAll _ outcomes
    exact ⟨by rw [same, listed], by rwa [same], Report.balanced_empty.addAll outcomes⟩

end Pipeline

/-- A batch that ends well reports every listed key once and in order, counts the outcomes, and adds
to the messages exactly those of the published outcomes.  All messages ever published are numbered
from one on, and the store is as it was. -/
theorem Session.run_accounts (p : Pipeline) (store : MemoryStore)
    (history : List (String × Bytes)) (entryPrefix suffix : String) (report : Report)
    (s : Session MemoryStore)
    (h : (Session.mk store (.ofHistory history)).run p entryPrefix suffix = (.ok report, s)) :
    listSubmissions store entryPrefix suffix = .ok (report.outcomes.map Prod.fst) ∧
      (report.outcomes.map Prod.fst).Nodup ∧
      (∀ kind, report.summary.ofKind kind =
        report.outcomes.countP fun o => o.2.kind = kind) ∧
      report.summary.total = report.summary.invalid + report.summary.excluded +
        report.summary.unrouted + report.summary.unlocated + report.summary.published ∧
      (∃ added, s.publisher.messages = (Publisher.ofHistory history).messages ++ added ∧
        List.Forall₂ (p.Delivers store) (deliveries report.outcomes) added) ∧
      s.publisher.messages.map Published.id =
        (List.range s.publisher.messages.length).map (fun i => toString (i + 1)) ∧
      s.store = store := by
  cases hrun : p.run store (.ofHistory history) entryPrefix suffix with
  | mk result publisher =>
    simp only [Session.run, hrun, Prod.mk.injEq] at h
    obtain ⟨rfl, rfl⟩ := h
    obtain ⟨listed, processed, balanced⟩ := Pipeline.run_eq_ok hrun
    have numbered := processed.numbered (Publisher.numbered_ofHistory history)
    exact ⟨listed, nodup_listSubmissions listed, balanced.byKind, balanced.total,
      processed.messages, numbered.ids, rfl⟩

/-! ## A small batch

One submission is published and one object is no submission.  A message was published before, and
an earlier one was refused. -/

/-- Where the records of the small batch keep what. -/
def SubmissionSettings.small : SubmissionSettings :=
  { providerIdPath := "p", submissionIdPath := "s", formCodePath := "f", answersPath := "a" }

/-- A pipeline that publishes whatever has the address key `12`.  The reader says of the letter `x`
that it is no value. -/
def Pipeline.small : Pipeline where
  engine := ⟨[], [], some (.text "surveys")⟩
  settings := .small
  addresses := ⟨(Pattern.seq (.group 1 (.char (.single '1')))
    (.group 2 (.char (.single '2')))).program, "k", "k"⟩
  locate := fun _ => .ok (some ⟨.finite (.zero false), .finite (.zero false)⟩)
  clock := fun _ => "now"
  reader := ⟨fun _ => some "expected value at line 1 column 1"⟩

/-- The store of the small batch. -/
def MemoryStore.small : MemoryStore :=
  .ofList [("e/1", Utf8.encode ("\x7b\"p\":\"P\",\"s\":1,\"f\":\"F\",\"k\":\"12\"," ++
    "\"a\":\x7b\"q\":\x7b\"i\":\"i.png\"\x7d\x7d\x7d")), ("e/2", Utf8.encode "x")]

/-- The session of the small batch. -/
def Session.small : Session MemoryStore := ⟨.small, .ofHistory [("", []), ("t", [])]⟩

/-- The report of the small batch. -/
def Report.small : Report :=
  ⟨[("e/1", .published "surveys" "2"),
    ("e/2", .invalid "invalid submission JSON: expected value at line 1 column 1")],
    { total := 2, invalid := 1, published := 1 }⟩

theorem Session.run_accounts_small :
    (Session.small.run .small "e/" "").1 = .ok .small ∧
      ∃ added, (Session.small.run .small "e/" "").2.publisher.messages =
          (Publisher.ofHistory [("", []), ("t", [])]).messages ++ added ∧
        List.Forall₂ (Pipeline.small.Delivers MemoryStore.small)
          (deliveries Report.small.outcomes) added := by
  have ends : (Session.small.run .small "e/" "").1 = .ok .small := by decide +kernel
  have run : Session.small.run .small "e/" "" =
      (.ok .small, (Session.small.run .small "e/" "").2) := by
    rw [← ends]
  exact ⟨ends, (Session.run_accounts .small .small [("", []), ("t", [])] "e/" "" .small
    (Session.small.run .small "e/" "").2 run).2.2.2.2.1⟩

end SurveyDispatch
