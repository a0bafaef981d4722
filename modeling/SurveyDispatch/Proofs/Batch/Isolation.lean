import SurveyDispatch.Proofs.Message.Published

/-!
# Submissions do not influence each other

What happens to a key is settled by its bytes before the publisher is touched, so the outcome of a
key is the same in every batch up to the id of its message (`Pipeline.process_withoutId`).  Other
objects, earlier messages and the position in the listing do not matter.

`Session.run_isolates` compares two batches that list the same key.  Ids differ between the two, and
so may the times in the messages.
-/

namespace SurveyDispatch

/-- The outcome without the id of its message. -/
def Outcome.withoutId : Outcome → Outcome
  | .published topic _ => .published topic ""
  | outcome => outcome

/-- An outcome without a message stays as it is without its id. -/
theorem Outcome.withoutId_of_unpublished {outcome : Outcome}
    (h : ∀ topic id, outcome ≠ .published topic id) : outcome.withoutId = outcome := by
  cases outcome with
  | published topic id => exact absurd rfl (h topic id)
  | invalid reason => rfl
  | excluded message => rfl
  | unrouted => rfl
  | unlocated reason => rfl

/-- An outcome that is a published one but for its id was published as well. -/
theorem Outcome.exists_published {topic id : String} {outcome : Outcome}
    (h : (published topic id).withoutId = outcome.withoutId) :
    ∃ id', outcome = .published topic id' := by
  cases outcome with
  | published topic' id' =>
    cases h
    exact ⟨id', rfl⟩
  | invalid reason => cases h
  | excluded message => cases h
  | unrouted => cases h
  | unlocated reason => cases h

/-! ## The message of an id -/

/-- A number is read back from its text. -/
theorem toString_nat_inj {m n : Nat} (h : toString m = toString n) : m = n := by
  have texts : m.repr = n.repr := h
  rw [Nat.repr_eq_ofList_toDigits, Nat.repr_eq_ofList_toDigits] at texts
  have digits : Nat.toDigits 10 m = Nat.toDigits 10 n := String.ofList_injective texts
  rw [← Nat.ofDigitChars_ten_toDigits (n := m), digits, Nat.ofDigitChars_ten_toDigits]

namespace Publisher

/-- Messages that are numbered one by one have distinct ids. -/
theorem Numbered.nodup_ids {p : Publisher} (h : p.Numbered) :
    (p.messages.map Published.id).Nodup := by
  rw [h.ids]
  refine List.Nodup.map ?_ List.nodup_range
  intro i j same
  exact Nat.succ.inj (toString_nat_inj same)

/-- The messages with an id. -/
def withId (p : Publisher) (id : String) : List Published := p.messages.filter (·.id = id)

/-- No two messages have the same id. -/
theorem Numbered.withId_eq {p : Publisher} (h : p.Numbered) {m : Published}
    (mem : m ∈ p.messages) : p.withId m.id = [m] := by
  have distinct := h.nodup_ids
  have found : m ∈ p.withId m.id := List.mem_filter.mpr ⟨mem, decide_eq_true rfl⟩
  have only : ∀ sent ∈ p.withId m.id, sent = m := by
    intro sent other
    obtain ⟨other, same⟩ := List.mem_filter.mp other
    exact List.inj_on_of_nodup_map distinct other mem (of_decide_eq_true same)
  have once : (p.withId m.id).Nodup := (List.Nodup.of_map _ distinct).filter _
  exact List.perm_singleton.mp ((List.perm_ext_iff_of_nodup once (List.nodup_singleton m)).mpr
    fun sent => ⟨fun mem => List.mem_singleton.mpr (only sent mem),
      fun mem => List.mem_singleton.mp mem ▸ found⟩)

end Publisher

namespace Pipeline

variable {σ τ : Type} [ObjectStore σ] [ObjectStore τ] {p : Pipeline} {store : σ} {store' : τ}
  {key : String}

/-- What a key comes to depends on its bytes alone, and not on the clock. -/
theorem settle_congr (same : ObjectStore.get store key = ObjectStore.get store' key)
    (clock : Nat → String) :
    ({ p with clock } : Pipeline).settle store' key = p.settle store key := by
  unfold settle
  rw [same]
  rfl

/-- What a key holds is read off its bytes, whatever the clock says. -/
theorem Locates.congr {clock : Nat → String} {x : Submission} {point : Coordinates}
    (h : Locates { p with clock } store' key x point)
    (same : ObjectStore.get store key = ObjectStore.get store' key) :
    Locates p store key x point := by
  obtain ⟨bytes, stored, read⟩ := h.stored
  exact ⟨⟨bytes, same.trans stored, read⟩, h.located⟩

/-- Up to the id of the message, the outcome of a key is settled without the publisher. -/
theorem process_withoutId (p : Pipeline) (store : σ) (publisher : Publisher) (key : String) :
    (p.process store publisher key).1.map Outcome.withoutId =
      match p.settle store key with
      | .error fault => .error fault
      | .ok (.inl outcome) => .ok outcome
      | .ok (.inr ready) =>
        if ready.topic.isEmpty then .error .emptyTopic else .ok (.published ready.topic "") := by
  have step := process_step p store publisher key
  generalize (p.process store publisher key).1 = result at step ⊢
  generalize (p.process store publisher key).2 = publisher' at step
  cases step with
  | failed fault settled => rw [settled]; rfl
  | held outcome settled unpublished =>
    rw [settled]
    exact congrArg Except.ok (Outcome.withoutId_of_unpublished unpublished)
  | refused ready settled empty => simp only [settled, empty, if_true]; rfl
  | published ready settled named =>
    simp only [settled, named, Bool.false_eq_true, if_false]
    rfl

/-- Keys with the same bytes have the same outcome up to the ids. -/
theorem process_congr (same : ObjectStore.get store key = ObjectStore.get store' key)
    (clock : Nat → String) (publisher publisher' : Publisher) :
    (({ p with clock } : Pipeline).process store' publisher' key).1.map Outcome.withoutId =
      (p.process store publisher key).1.map Outcome.withoutId := by
  rw [process_withoutId, process_withoutId, settle_congr same]

/-- Every outcome of a run is that of processing its key at some time. -/
theorem Processed.of_mem {publisher publisher' : Publisher} {outcomes : List (String × Outcome)}
    (h : Processed p store publisher outcomes publisher') {outcome : Outcome}
    (mem : (key, outcome) ∈ outcomes) :
    ∃ before, (p.process store before key).1 = .ok outcome := by
  induction h with
  | nil _ => cases mem
  | @cons start _ _ _ _ _ first _ ih =>
    cases mem with
    | head => exact ⟨start, by rw [first]⟩
    | tail _ mem => exact ih mem

theorem exists_of_mem_forall₂ {α β : Type} {r : α → β → Prop} {l : List α} {l' : List β}
    (h : List.Forall₂ r l l') {a : α} (mem : a ∈ l) : ∃ b ∈ l', r a b := by
  induction h with
  | nil => cases mem
  | @cons _ b _ _ related _ ih =>
    cases mem with
    | head => exact ⟨b, List.mem_cons_self, related⟩
    | tail _ mem =>
      obtain ⟨c, mem', related'⟩ := ih mem
      exact ⟨c, List.mem_cons_of_mem b mem', related'⟩

/-- The message of a published outcome is found by its id. -/
theorem Processed.withId_eq {publisher publisher' : Publisher}
    {outcomes : List (String × Outcome)} (h : Processed p store publisher outcomes publisher')
    (numbered : publisher.Numbered) {topic id : String}
    (mem : (key, .published topic id) ∈ outcomes) :
    ∃ x point time, p.Publishable store key topic x point ∧
      publisher'.withId id =
        [⟨id, topic, (Message.mk (x.geoJson p.settings point) key topic time).toBytes⟩] := by
  obtain ⟨added, messages, delivered⟩ := h.messages
  have delivery : Delivery.mk key topic id ∈ deliveries outcomes :=
    List.mem_filterMap.mpr ⟨_, mem, rfl⟩
  obtain ⟨m, sent, delivers⟩ := exists_of_mem_forall₂ delivered delivery
  obtain ⟨x, point, time, publishable, payload⟩ := delivers.payload
  refine ⟨x, point, time, publishable, ?_⟩
  have mem' : m ∈ publisher'.messages := messages ▸ List.mem_append_right _ sent
  have found := (h.numbered numbered).withId_eq mem'
  obtain ⟨id', topic', payload'⟩ := m
  obtain rfl : id' = id := delivers.id
  obtain rfl : topic' = topic := delivers.topic
  rw [found, ← payload]

end Pipeline

/-- What a batch records for a key: the outcome that the key has on its own and, if it was
published, the message of its id. -/
theorem Pipeline.run_records {p : Pipeline} {store : MemoryStore} {history : List (String × Bytes)}
    {entryPrefix suffix key : String} {keys : List String} {report : Report}
    {s : Session MemoryStore}
    (listed : listSubmissions store entryPrefix suffix = .ok keys) (mem : key ∈ keys)
    (h : (Session.mk store (.ofHistory history)).run p entryPrefix suffix = (.ok report, s)) :
    ∃ outcome, report.outcomes.lookup key = some outcome ∧
      (∃ before, (p.process store before key).1 = .ok outcome) ∧
      ∀ topic id, outcome = .published topic id →
        ∃ x point time, p.Publishable store key topic x point ∧
          s.publisher.withId id =
            [⟨id, topic, (Message.mk (x.geoJson p.settings point) key topic time).toBytes⟩] := by
  cases hrun : p.run store (.ofHistory history) entryPrefix suffix with
  | mk result publisher =>
    simp only [Session.run, hrun, Prod.mk.injEq] at h
    obtain ⟨rfl, rfl⟩ := h
    obtain ⟨listed', processed, -⟩ := Pipeline.run_eq_ok hrun
    cases listed.symm.trans listed'
    cases found : report.outcomes.lookup key with
    | none =>
      obtain ⟨o, recorded, rfl⟩ := List.mem_map.mp mem
      have other := List.lookup_eq_none_iff.mp found o recorded
      exact absurd other (by simp)
    | some outcome =>
      obtain ⟨earlier, later, split, -⟩ := List.lookup_eq_some_iff.mp found
      have recorded : (key, outcome) ∈ report.outcomes := by
        rw [split]
        exact List.mem_append_right earlier List.mem_cons_self
      refine ⟨outcome, rfl, processed.of_mem recorded, ?_⟩
      rintro topic id rfl
      exact processed.withId_eq (Publisher.numbered_ofHistory history) recorded

/-- Two batches that list the same key with the same bytes, over stores, histories and selections
that may differ in everything else. -/
theorem Session.run_isolates (p : Pipeline) (clock : Nat → String) {store store' : MemoryStore}
    {history history' : List (String × Bytes)}
    {entryPrefix suffix entryPrefix' suffix' key : String} {bytes : Bytes}
    {keys keys' : List String} {report report' : Report} {s s' : Session MemoryStore}
    (held : store.objects.get? key = some bytes) (held' : store'.objects.get? key = some bytes)
    (listed : listSubmissions store entryPrefix suffix = .ok keys) (mem : key ∈ keys)
    (listed' : listSubmissions store' entryPrefix' suffix' = .ok keys') (mem' : key ∈ keys')
    (run : (Session.mk store (.ofHistory history)).run p entryPrefix suffix = (.ok report, s))
    (run' : (Session.mk store' (.ofHistory history')).run { p with clock } entryPrefix' suffix' =
      (.ok report', s')) :
    ∃ outcome outcome', report.outcomes.lookup key = some outcome ∧
      report'.outcomes.lookup key = some outcome' ∧
      outcome.withoutId = outcome'.withoutId ∧
      (∀ publisher, (p.process store publisher key).1.map Outcome.withoutId =
        .ok outcome.withoutId) ∧
      ∀ topic id, outcome = .published topic id →
        ∃ id' survey time time', outcome' = .published topic id' ∧
          s.publisher.withId id = [⟨id, topic, (Message.mk survey key topic time).toBytes⟩] ∧
          s'.publisher.withId id' =
            [⟨id', topic, (Message.mk survey key topic time').toBytes⟩] := by
  have same : ObjectStore.get store key = ObjectStore.get store' key := by
    change MemoryStore.get store key = MemoryStore.get store' key
    rw [MemoryStore.get, MemoryStore.get, held, held']
  obtain ⟨outcome, found, ⟨before, ends⟩, sent⟩ := Pipeline.run_records listed mem run
  obtain ⟨outcome', found', ⟨before', ends'⟩, sent'⟩ := Pipeline.run_records listed' mem' run'
  have alone : ∀ publisher, (p.process store publisher key).1.map Outcome.withoutId =
      .ok outcome.withoutId := by
    intro publisher
    rw [Pipeline.process_congr rfl p.clock before publisher, ends]
    rfl
  have agree : outcome.withoutId = outcome'.withoutId := by
    have both := Pipeline.process_congr (p := p) same clock before before'
    rw [ends, ends'] at both
    exact (Except.ok.inj both).symm
  refine ⟨outcome, outcome', found, found', agree, alone, ?_⟩
  rintro topic id rfl
  obtain ⟨id', rfl⟩ := Outcome.exists_published agree
  obtain ⟨x, point, time, publishable, message⟩ := sent topic id rfl
  obtain ⟨y, point', time', publishable', message'⟩ := sent' topic id' rfl
  obtain ⟨rfl, rfl⟩ := publishable.toLocates.unique (publishable'.toLocates.congr same)
  exact ⟨id', x.geoJson p.settings point, time, time', rfl, message, message'⟩

/-! ## A crowded batch

The store of the small batch with a copy of its submission in front, after two other messages. -/

/-- The store of the crowded batch. -/
def MemoryStore.crowded : MemoryStore :=
  .set .small "e/0" ((MemoryStore.small.objects.get? "e/1").getD [])

/-- The session of the crowded batch. -/
def Session.crowded : Session MemoryStore := ⟨.crowded, .ofHistory [("t", []), ("u", [])]⟩

/-- The pipeline of the small batch at another time. -/
def Pipeline.later : Pipeline := { Pipeline.small with clock := fun _ => "later" }

/-- The report of the crowded batch. -/
def Report.crowded : Report :=
  ⟨[("e/0", .published "surveys" "3"), ("e/1", .published "surveys" "4"),
    ("e/2", .invalid "invalid submission JSON: expected value at line 1 column 1")],
    { total := 3, invalid := 1, published := 2 }⟩

theorem Session.run_isolates_crowded :
    ∃ survey time time',
      (Session.small.run .small "e/" "").2.publisher.withId "2" =
        [⟨"2", "surveys", (Message.mk survey "e/1" "surveys" time).toBytes⟩] ∧
      (Session.crowded.run .later "e" "/").2.publisher.withId "4" =
        [⟨"4", "surveys", (Message.mk survey "e/1" "surveys" time').toBytes⟩] := by
  have ends : (Session.small.run .small "e/" "").1 = .ok .small := by decide +kernel
  have ends' : (Session.crowded.run .later "e" "/").1 = .ok .crowded := by decide +kernel
  have run : Session.small.run .small "e/" "" =
      (.ok .small, (Session.small.run .small "e/" "").2) := by
    rw [← ends]
  have run' : Session.crowded.run .later "e" "/" =
      (.ok .crowded, (Session.crowded.run .later "e" "/").2) := by
    rw [← ends']
  have listed : listSubmissions MemoryStore.small "e/" "" = .ok ["e/1", "e/2"] := by
    decide +kernel
  have listed' : listSubmissions MemoryStore.crowded "e" "/" = .ok ["e/0", "e/1", "e/2"] := by
    decide +kernel
  have contained : MemoryStore.small.objects.contains "e/1" = true := by decide +kernel
  obtain ⟨bytes, held⟩ := Dictionary.contains_eq_true_iff.mp contained
  have held' : MemoryStore.crowded.objects.get? "e/1" = some bytes :=
    (MemoryStore.get?_set_of_ne (by decide)).trans held
  obtain ⟨outcome, outcome', found, found', -, -, sent⟩ := Session.run_isolates .small
    (fun _ => "later") held held' listed (by simp) listed' (by simp) run run'
  cases found
  obtain ⟨id', survey, time, time', same, message, message'⟩ := sent _ _ rfl
  cases found'
  cases same
  exact ⟨survey, time, time', message, message'⟩

end SurveyDispatch
