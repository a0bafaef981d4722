import SurveyDispatch.Dispatch.Listing
import SurveyDispatch.Dispatch.Message
import SurveyDispatch.Dispatch.Publisher
import SurveyDispatch.Dispatch.Fault
import SurveyDispatch.Location.Lookup

/-!
# The pipeline

A submission is read from the store, screened by the exclusions, routed to a topic, located by its
address and published.  What happens to it is its outcome.  A submission that is invalid, excluded,
unrouted or unlocated is not published.

A batch processes the listed submissions one after the other.  It ends with the first fault of a
collaborator.  The messages published until then stay published.
-/

namespace SurveyDispatch

/-- What happened to a submission. -/
inductive Outcome where
  /-- The bytes are no submission. -/
  | invalid (reason : String)
  /-- An exclusion passed. -/
  | excluded (message : Option String)
  /-- No route names a topic. -/
  | unrouted
  /-- The address or its coordinates are missing. -/
  | unlocated (reason : String)
  /-- The submission was published. -/
  | published (topic messageId : String)
  deriving DecidableEq, Repr

/-- How many submissions had which outcome. -/
structure Summary where
  /-- All submissions. -/
  total : Nat := 0
  /-- The invalid ones. -/
  invalid : Nat := 0
  /-- The excluded ones. -/
  excluded : Nat := 0
  /-- The unrouted ones. -/
  unrouted : Nat := 0
  /-- The published ones. -/
  published : Nat := 0
  /-- The unlocated ones. -/
  unlocated : Nat := 0
  deriving DecidableEq, Repr

/-- Counts one more outcome. -/
def Summary.count (s : Summary) : Outcome → Summary
  | .invalid _ => { s with total := s.total + 1, invalid := s.invalid + 1 }
  | .excluded _ => { s with total := s.total + 1, excluded := s.excluded + 1 }
  | .unrouted => { s with total := s.total + 1, unrouted := s.unrouted + 1 }
  | .unlocated _ => { s with total := s.total + 1, unlocated := s.unlocated + 1 }
  | .published _ _ => { s with total := s.total + 1, published := s.published + 1 }

/-- The outcomes of a batch. -/
structure Report where
  /-- The outcome of each key, in the order of processing. -/
  outcomes : List (String × Outcome)
  /-- How many submissions had which outcome. -/
  summary : Summary
  deriving DecidableEq, Repr

namespace Report

/-- Nothing processed. -/
def empty : Report := ⟨[], {}⟩

/-- Adds an outcome. -/
def add (r : Report) (key : String) (outcome : Outcome) : Report :=
  ⟨r.outcomes ++ [(key, outcome)], r.summary.count outcome⟩

end Report

/-- How submissions are processed. -/
structure Pipeline where
  /-- Screens and routes. -/
  engine : Engine
  /-- Where submissions keep what. -/
  settings : SubmissionSettings
  /-- Splits address keys. -/
  addresses : AddressParser
  /-- Locates addresses.  It may fail, which is not the same as knowing no coordinates. -/
  locate : Address → Except DispatchFault (Option Coordinates)
  /-- The time at which the message of a number is published, in writing.  The clock is taken never
  to fail: only a year of more than four digits could not be written. -/
  clock : Nat → String
  /-- What the reader says about submissions that it cannot read. -/
  [reader : ReaderWording]

namespace Pipeline

/-- A submission that is ready to be published. -/
structure Ready where
  /-- The topic to publish on. -/
  topic : String
  /-- The GeoJSON of the submission. -/
  survey : Document

/-- Screens, routes and locates the submission that bytes hold.  Either it is ready, or the outcome
is settled. -/
def prepare (p : Pipeline) (bytes : Bytes) : Except DispatchFault (Outcome ⊕ Ready) :=
  match Submission.ofBytes p.settings bytes with
  | .error fault => .ok (.inl (.invalid (fault.message (p.reader.refusal? bytes))))
  | .ok submission =>
    let verdict := p.engine.screen submission.record
    if verdict.matched then .ok (.inl (.excluded verdict.message))
    else match p.engine.routeTopic submission.record with
    | none => .ok (.inl .unrouted)
    | some topic =>
      match p.addresses.parse submission.record with
      | .error fault => .ok (.inl (.unlocated fault.message))
      | .ok address =>
        match p.locate address with
        | .error fault => .error fault
        | .ok none => .ok (.inl (.unlocated
            s!"no coordinates for {address.postcode} {address.houseNumber}"))
        | .ok (some point) => .ok (.inr ⟨topic, submission.geoJson p.settings point⟩)

/-- Publishes the submission of a key that is ready. -/
def publish (p : Pipeline) (publisher : Publisher) (key : String) (ready : Ready) :
    Except DispatchFault Outcome × Publisher :=
  let message : Message :=
    ⟨ready.survey, key, ready.topic, p.clock (publisher.lastId + 1)⟩
  match publisher.publish ready.topic message.toBytes with
  | (some id, publisher) => (.ok (.published ready.topic id), publisher)
  | (none, publisher) => (.error .emptyTopic, publisher)

variable {σ : Type} [ObjectStore σ]

/-- Processes the submission of a key. -/
def process (p : Pipeline) (store : σ) (publisher : Publisher) (key : String) :
    Except DispatchFault Outcome × Publisher :=
  match ObjectStore.get store key with
  | .error fault => (.error (.store fault), publisher)
  | .ok bytes =>
    match p.prepare bytes with
    | .error fault => (.error fault, publisher)
    | .ok (.inl outcome) => (.ok outcome, publisher)
    | .ok (.inr ready) => p.publish publisher key ready

/-- Processes the submissions of keys, after those of a report. -/
def processAll (p : Pipeline) (store : σ) :
    Publisher → Report → List String → Except DispatchFault Report × Publisher
  | publisher, report, [] => (.ok report, publisher)
  | publisher, report, key :: rest =>
    match p.process store publisher key with
    | (.error fault, publisher) => (.error fault, publisher)
    | (.ok outcome, publisher) => processAll p store publisher (report.add key outcome) rest

/-- Processes the submissions under an entry prefix and a suffix. -/
def run (p : Pipeline) (store : σ) (publisher : Publisher) (entryPrefix suffix : String) :
    Except DispatchFault Report × Publisher :=
  match listSubmissions store entryPrefix suffix with
  | .error fault => (.error (.store fault), publisher)
  | .ok keys => p.processAll store publisher .empty keys

end Pipeline

end SurveyDispatch
