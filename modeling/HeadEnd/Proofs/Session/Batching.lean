import HeadEnd.Proofs.Session.History
import HeadEnd.Proofs.Session.Operation

/-! # Reads put together

A meter that answers requests for several attributes answers them as it would answer a request for
each of them, one after the other. With such a meter an operation cannot tell whether its reads are
put together: what it can end with, and what it can leave behind, is the same either way.
-/

namespace HeadEnd

/-! ## Records -/

/-- The records differ in nothing but whether reads are put together. -/
def Device.AgreesUpToBatching (device device' : Device) : Prop :=
  ∃ batched, device' = { device with supportsBatchedRead := batched }

namespace Device.AgreesUpToBatching

variable {d d' : Device}

theorem identification_eq (h : d.AgreesUpToBatching d') : d'.identification = d.identification := by
  obtain ⟨batched, rfl⟩ := h
  rfl

theorem addNewKey (h : d.AgreesUpToBatching d') (kind : KeyKind) (material : String)
    (now : Instant) :
    (d.addNewKey kind material now).AgreesUpToBatching (d'.addNewKey kind material now) := by
  obtain ⟨batched, rfl⟩ := h
  exact ⟨batched, rfl⟩

/-- A key is promoted in both records or in neither. -/
theorem promoteNewKey (h : d.AgreesUpToBatching d') (kind : KeyKind) (now : Instant) :
    (∃ promoted promoted', d.promoteNewKey kind now = .ok promoted ∧
      d'.promoteNewKey kind now = .ok promoted' ∧ promoted.AgreesUpToBatching promoted') ∨
    ∃ fault, d.promoteNewKey kind now = .error fault ∧ d'.promoteNewKey kind now = .error fault := by
  obtain ⟨batched, rfl⟩ := h
  unfold Device.promoteNewKey
  dsimp only
  cases beginNewKey? kind now (endValidKeys kind now d.keys) with
  | some keys => exact .inl ⟨_, _, rfl, rfl, batched, rfl⟩
  | none => exact .inr ⟨_, rfl, rfl⟩

end Device.AgreesUpToBatching

/-! ## Worlds -/

section Worlds

variable {σ : Type} {rules : Rules Answer σ}

variable (rules) in
/-- What a meter may answer to requests for the attributes, one after the other, and the state that
it is left in. The first request that fails is the last. -/
inductive AnswersEach : List AttributeAddress → σ → Outcome (List GetResult) → σ → Prop where
  | none {s} : AnswersEach [] s (.ok []) s
  | lost {address rest s failure t} : rules (.read address) s (.error failure) t →
      AnswersEach (address :: rest) s (.error failure) t
  | next {address rest s result s' outcome t} : rules (.read address) s (.ok result) s' →
      AnswersEach rest s' outcome t →
      AnswersEach (address :: rest) s (outcome.map (result :: ·)) t

/-- The results that a turn brings. -/
def Turn.results : Turn Answer → List GetResult
  | ⟨.read _, .ok result⟩ => [result]
  | ⟨.readBatch _, .ok results⟩ => results
  | _ => []

/-- The history of requests for each of the attributes holds their results, and no request for
several attributes. -/
theorem AnswersEach.exists_own {fair : Turn Answer → Prop} {addresses : List AttributeAddress}
    {before history : List (Turn Answer)} {outcome : Outcome (List GetResult)}
    (h : AnswersEach (recording fair) addresses before outcome history) :
    ∃ own, history = before ++ own ∧
      (∀ results, outcome = .ok results → own.flatMap Turn.results = results) ∧
      ∀ asked answer, ⟨.readBatch asked, answer⟩ ∉ own := by
  induction h with
  | none => exact ⟨[], by simp, by simp, by simp⟩
  | @lost address _ before failure _ hlost =>
      exact ⟨[⟨.read address, .error failure⟩], hlost.2, by simp, by simp⟩
  | @next address _ before result _ outcome _ hread _ ih =>
      obtain ⟨own, rfl, hresults, hsingle⟩ := ih
      refine ⟨⟨.read address, .ok result⟩ :: own, by simp [hread.2], ?_, by simpa using hsingle⟩
      intro results hok
      cases outcome with
      | error failure => cases hok
      | ok rest =>
          cases hok
          simp [Turn.results, hresults rest rfl]

/-- A request for several attributes is answered as requests for each of them are. -/
def BatchesFaithfully (rules : Rules Answer σ) : Prop :=
  ∀ addresses s outcome t,
    rules (.readBatch addresses) s outcome t ↔ AnswersEach rules addresses s outcome t

/-- Whether reads are put together makes no difference to the store. -/
structure StoresAlike (rules : Rules Answer σ) : Prop where
  stored : ∀ {d d' s stored t}, d.AgreesUpToBatching d' → rules (.save d) s (.ok stored) t →
    ∃ stored', stored.AgreesUpToBatching stored' ∧ rules (.save d') s (.ok stored') t
  failed : ∀ {d d' s failure t}, d.AgreesUpToBatching d' → rules (.save d) s (.error failure) t →
    rules (.save d') s (.error failure) t

/-! ### Keeping a log -/

/-- What a turn does besides reading. In a record that is stored it does not count whether reads are
put together. -/
def Turn.effect? : Turn Answer → Option (Turn Answer)
  | ⟨.read _, _⟩ => none
  | ⟨.readBatch _, _⟩ => none
  | ⟨.save device, outcome⟩ =>
    some ⟨.save { device with supportsBatchedRead := false },
      (outcome : Outcome Device).map fun stored => { stored with supportsBatchedRead := false }⟩
  | turn => some turn

/-- The rules of a world that logs all that is asked and answered besides reads. -/
def logging (rules : Rules Answer σ) : Rules Answer (σ × List (Turn Answer)) :=
  fun question s answer t =>
    rules question s.1 answer t.1 ∧ t.2 = s.2 ++ (Turn.effect? ⟨question, answer⟩).toList

theorem answersEach_logging_iff {addresses : List AttributeAddress}
    {s t : σ × List (Turn Answer)} {outcome : Outcome (List GetResult)} :
    AnswersEach (logging rules) addresses s outcome t ↔
      AnswersEach rules addresses s.1 outcome t.1 ∧ t.2 = s.2 := by
  constructor
  · intro h
    induction h with
    | none => exact ⟨.none, rfl⟩
    | lost hlost => exact ⟨.lost hlost.1, by simpa [Turn.effect?] using hlost.2⟩
    | next hread _ ih =>
        refine ⟨.next hread.1 ih.1, ih.2.trans ?_⟩
        simpa [Turn.effect?] using hread.2
  · rintro ⟨h, hlog⟩
    obtain ⟨s, log⟩ := s
    obtain ⟨t, _⟩ := t
    cases hlog
    dsimp only at h
    induction h with
    | none => exact .none
    | lost hlost => exact .lost ⟨hlost, by simp [Turn.effect?]⟩
    | next hread _ ih =>
        refine .next ?_ ih
        exact ⟨hread, by simp [Turn.effect?]⟩

theorem BatchesFaithfully.logging (h : BatchesFaithfully rules) :
    BatchesFaithfully (logging rules) := by
  intro addresses s outcome t
  rw [answersEach_logging_iff, ← h]
  simp [HeadEnd.logging, Turn.effect?]

theorem StoresAlike.logging (h : StoresAlike rules) : StoresAlike (logging rules) where
  stored := by
    rintro d _ s stored t ⟨batched, rfl⟩ ⟨hsave, hlog⟩
    obtain ⟨_, ⟨batched', rfl⟩, hsave'⟩ := h.stored ⟨batched, rfl⟩ hsave
    exact ⟨_, ⟨batched', rfl⟩, hsave', hlog⟩
  failed := by
    rintro d _ s failure t ⟨batched, rfl⟩ ⟨hsave, hlog⟩
    exact ⟨h.failed ⟨batched, rfl⟩ hsave, hlog⟩

/-- A log can be kept of every run. -/
theorem exists_log {α : Type} {session : Session α} {s t : σ} {a : α}
    (h : Dialogue.Runs rules session s a t) (log : List (Turn Answer)) :
    ∃ log', Dialogue.Runs (logging rules) session (s, log) a (t, log') := by
  induction h generalizing log with
  | done a s => exact ⟨log, .done a (s, log)⟩
  | ask hrules _ ih =>
      obtain ⟨log', hnext⟩ := ih (log ++ _)
      exact ⟨log', .ask ⟨hrules, rfl⟩ hnext⟩

/-! ### One request after the other -/

/-- The answers of a world to requests for each of the attributes, up to the first that fails. -/
def answerEach (world : (question : Question) → σ → Answer question × σ) :
    List AttributeAddress → σ → Outcome (List GetResult) × σ
  | [], s => (.ok [], s)
  | address :: rest, s =>
    match world (.read address) s with
    | (.error failure, s) => (.error failure, s)
    | (.ok result, s) =>
      let (outcome, s) := answerEach world rest s
      (outcome.map (result :: ·), s)

/-- The world with answers to requests for several attributes made of those for one. -/
def withBatches (world : (question : Question) → σ → Answer question × σ) :
    (question : Question) → σ → Answer question × σ
  | .readBatch addresses, s => answerEach world addresses s
  | question, s => world question s

/-- Every world has one that answers requests for several attributes faithfully. -/
theorem batchesFaithfully_withBatches (world : (question : Question) → σ → Answer question × σ) :
    BatchesFaithfully fun question s answer t => withBatches world question s = (answer, t) := by
  intro addresses s outcome t
  change answerEach world addresses s = (outcome, t) ↔ _
  constructor
  · intro h
    induction addresses generalizing s with
    | nil =>
        cases h
        exact .none
    | cons address rest ih =>
        unfold answerEach at h
        split at h
        · rename_i hread
          cases h
          exact .lost hread
        · rename_i result s' hread
          cases h
          exact .next hread (ih _ _ rfl)
  · intro h
    induction h with
    | none => rfl
    | lost hlost =>
        change world _ _ = _ at hlost
        rw [answerEach, hlost]
    | next hread _ ih =>
        change world _ _ = _ at hread
        rw [answerEach, hread]
        dsimp only
        rw [ih]

end Worlds

/-! ## What cannot be told apart -/

variable {α β σ : Type} {rules : Rules Answer σ} {d d' : Device} {s t : σ}

/-- What the one session can end with the other can end with as well, and leave the same state of the
world, on records that agree up to batching. -/
def Simulates (rules : Rules Answer σ) (x y : Session (α × Device)) : Prop :=
  ∀ s a d t, Dialogue.Runs rules x s (a, d) t →
    ∃ d', d.AgreesUpToBatching d' ∧ Dialogue.Runs rules y s (a, d') t

namespace Operation

/-- On records that agree up to batching the second operation can do what the first can. -/
def Simulates (rules : Rules Answer σ) (x y : Operation α) : Prop :=
  ∀ d d' : Device, d.AgreesUpToBatching d' →
    HeadEnd.Simulates rules (x.run.run d) (y.run.run d')

/-- The operation cannot tell whether reads are put together. -/
abbrev IgnoresBatching (rules : Rules Answer σ) (x : Operation α) : Prop :=
  Simulates rules x x

/-! ### Pieces of operations -/

/-- An operation that is over at once, with the record that it was given. -/
theorem ignoresBatching_of_run {x : Operation α} {outcome : Outcome α}
    (hx : ∀ d, x.run.run d = .done (outcome, d)) : IgnoresBatching rules x := by
  intro d d' h s r e t hruns
  rw [hx] at hruns
  obtain ⟨hr, rfl⟩ := Dialogue.runs_done_iff.mp hruns
  cases hr
  refine ⟨d', h, ?_⟩
  rw [hx]
  exact .done _ _

theorem ignoresBatching_pure (a : α) : IgnoresBatching rules (pure a) :=
  ignoresBatching_of_run fun _ => rfl

theorem ignoresBatching_throw (failure : Failure) :
    IgnoresBatching rules (throw failure : Operation α) :=
  ignoresBatching_of_run fun _ => rfl

theorem ignoresBatching_lift (outcome : Outcome α) :
    IgnoresBatching rules (liftM outcome : Operation α) :=
  ignoresBatching_of_run fun _ => rfl

theorem ignoresBatching_ofOutcome (outcome : Outcome α) :
    IgnoresBatching rules (ofOutcome outcome) :=
  ignoresBatching_of_run fun _ => rfl

/-- The same question has the same answers. -/
theorem ignoresBatching_ask (question : Question) : IgnoresBatching rules (ask question) := by
  intro d d' h s r e t hruns
  obtain ⟨answer, s', hrules, hdone⟩ := Dialogue.runs_ask_iff.mp hruns
  obtain ⟨hr, rfl⟩ := Dialogue.runs_done_iff.mp hdone
  cases hr
  exact ⟨d', h, .ask hrules (.done _ _)⟩

theorem simulates_set (h : d.AgreesUpToBatching d') :
    Simulates rules (set d : Operation PUnit) (set d') := by
  intro _ _ _ s r e t hruns
  obtain ⟨hr, rfl⟩ := Dialogue.runs_done_iff.mp hruns
  cases hr
  exact ⟨d', h, .done _ _⟩

theorem ignoresBatching_modify {f : Device → Device}
    (hf : ∀ d d', d.AgreesUpToBatching d' → (f d).AgreesUpToBatching (f d')) :
    IgnoresBatching rules (modify f : Operation PUnit) := by
  intro d d' h s r e t hruns
  obtain ⟨hr, rfl⟩ := Dialogue.runs_done_iff.mp hruns
  cases hr
  exact ⟨f d', hf d d' h, .done _ _⟩

theorem Simulates.bind {x y : Operation α} {f g : α → Operation β} (hxy : Simulates rules x y)
    (hfg : ∀ a, Simulates rules (f a) (g a)) : Simulates rules (x >>= f) (y >>= g) := by
  intro d d' h s r e t hruns
  obtain ⟨outcome, e₁, s₁, hx, hrest⟩ := Task.runs_bind_iff.mp hruns
  obtain ⟨e₁', he₁, hy⟩ := hxy d d' h s outcome e₁ s₁ hx
  cases outcome with
  | ok a =>
      obtain ⟨e', he, hrest'⟩ := hfg a e₁ e₁' he₁ s₁ r e t hrest
      exact ⟨e', he, Task.runs_bind_iff.mpr ⟨_, _, _, hy, hrest'⟩⟩
  | error failure =>
      obtain ⟨hr, rfl⟩ := hrest
      cases hr
      exact ⟨e₁', he₁, Task.runs_bind_iff.mpr ⟨_, _, _, hy, rfl, rfl⟩⟩

/-- An operation that goes on with its record. -/
theorem simulates_get_bind {f g : Device → Operation α}
    (h : ∀ d d', d.AgreesUpToBatching d' → Simulates rules (f d) (g d')) :
    Simulates rules (get >>= f) (get >>= g) :=
  fun d d' hd => h d d' hd d d' hd

/-! ### Questions -/

theorem ignoresBatching_now : IgnoresBatching rules now :=
  ignoresBatching_ask .clock

theorem ignoresBatching_describe (text : String) : IgnoresBatching rules (describe text) :=
  ignoresBatching_ask (.describe text)

theorem ignoresBatching_readAttribute (address : AttributeAddress) :
    IgnoresBatching rules (readAttribute address) :=
  (ignoresBatching_ask (.read address)).bind ignoresBatching_ofOutcome

theorem ignoresBatching_writeAttribute (address : AttributeAddress) (value : Value) :
    IgnoresBatching rules (writeAttribute address value) :=
  (ignoresBatching_ask (.write ⟨address, value⟩)).bind ignoresBatching_ofOutcome

theorem ignoresBatching_callMethod (method : MethodCall) :
    IgnoresBatching rules (callMethod method) :=
  (ignoresBatching_ask (.call method)).bind ignoresBatching_ofOutcome

theorem ignoresBatching_adoptKey (kind : KeyKind) (key : List UInt8) :
    IgnoresBatching rules (adoptKey kind key) :=
  (ignoresBatching_ask (.adoptKey kind key)).bind ignoresBatching_ofOutcome

theorem ignoresBatching_decrypt (data : List UInt8) : IgnoresBatching rules (decrypt data) :=
  (ignoresBatching_ask (.decrypt data)).bind ignoresBatching_ofOutcome

theorem ignoresBatching_saveDevice (hstore : StoresAlike rules) :
    IgnoresBatching rules saveDevice := by
  intro d d' h s r e t hruns
  obtain ⟨answer, s', hsave, hdone⟩ := Dialogue.runs_ask_iff.mp hruns
  cases answer with
  | ok stored =>
      obtain ⟨hr, rfl⟩ := Dialogue.runs_done_iff.mp hdone
      cases hr
      obtain ⟨stored', hstored, hsave'⟩ := hstore.stored h hsave
      exact ⟨stored', hstored, .ask hsave' (.done _ _)⟩
  | error failure =>
      obtain ⟨hr, rfl⟩ := Dialogue.runs_done_iff.mp hdone
      cases hr
      exact ⟨d', h, .ask (hstore.failed h hsave) (.done _ _)⟩

/-! ### Reading several attributes -/

/-- A request is answered with what the operation goes on with. -/
theorem runs_request_iff {question : Question} (outcome : Answer question → Outcome α)
    {r : Outcome α × Device} :
    Dialogue.Runs rules ((ask question >>= fun answer => ofOutcome (outcome answer)).run.run d) s r
        t ↔ ∃ answer, r = (outcome answer, d) ∧ rules question s answer t := by
  change Dialogue.Runs rules (.ask question fun answer => .done (outcome answer, d)) s r t ↔ _
  simp only [Dialogue.runs_ask_iff, Dialogue.runs_done_iff]
  constructor
  · rintro ⟨answer, s', hanswer, rfl, rfl⟩
    exact ⟨answer, rfl, hanswer⟩
  · rintro ⟨answer, rfl, hanswer⟩
    exact ⟨answer, t, hanswer, rfl, rfl⟩

theorem runs_readAttribute_iff {address : AttributeAddress} {r : Outcome GetResult × Device} :
    Dialogue.Runs rules ((readAttribute address).run.run d) s r t ↔
      ∃ outcome, r = (outcome, d) ∧ rules (.read address) s outcome t :=
  runs_request_iff fun outcome : Answer (.read address) => outcome

theorem runs_readBatch_iff {addresses : List AttributeAddress}
    {r : Outcome (List GetResult) × Device} :
    Dialogue.Runs rules ((readBatch addresses).run.run d) s r t ↔
      ∃ outcome, r = (outcome, d) ∧ rules (.readBatch addresses) s outcome t :=
  runs_request_iff fun outcome : Answer (.readBatch addresses) => outcome

/-- Reading one attribute after the other is answered one request after the other. -/
theorem runs_mapM_readAttribute_iff {addresses : List AttributeAddress}
    {r : Outcome (List GetResult) × Device} :
    Dialogue.Runs rules ((addresses.mapM readAttribute).run.run d) s r t ↔
      ∃ outcome, r = (outcome, d) ∧ AnswersEach rules addresses s outcome t := by
  induction addresses generalizing s r t with
  | nil =>
      change Dialogue.Runs rules (.done (.ok [], d)) s r t ↔ _
      rw [Dialogue.runs_done_iff]
      constructor
      · rintro ⟨rfl, rfl⟩
        exact ⟨_, rfl, .none⟩
      · rintro ⟨_, rfl, ⟨⟩⟩
        exact ⟨rfl, rfl⟩
  | cons address rest ih =>
      rw [List.mapM_cons, Task.runs_bind_iff]
      simp only [runs_readAttribute_iff]
      constructor
      · rintro ⟨outcome, e, s', ⟨_, ⟨⟩, hread⟩, hrest⟩
        cases outcome with
        | error failure =>
            obtain ⟨rfl, rfl⟩ := hrest
            exact ⟨_, rfl, .lost hread⟩
        | ok result =>
            obtain ⟨outcome, e, s'', hrest, hdone⟩ := Task.runs_bind_iff.mp hrest
            obtain ⟨_, ⟨⟩, heach⟩ := ih.mp hrest
            refine ⟨outcome.map (result :: ·), ?_, ?_⟩
            · cases outcome with
              | error failure => exact hdone.1
              | ok results => exact (Dialogue.runs_done_iff.mp hdone).1
            · obtain rfl : t = s'' := by
                cases outcome with
                | error failure => exact hdone.2
                | ok results => exact (Dialogue.runs_done_iff.mp hdone).2
              exact .next hread heach
      · rintro ⟨_, rfl, hread⟩
        cases hread with
        | lost hlost => exact ⟨_, _, _, ⟨_, rfl, hlost⟩, rfl, rfl⟩
        | @next _ _ _ result s' outcome _ hread hrest =>
            refine ⟨_, _, _, ⟨_, rfl, hread⟩, Task.runs_bind_iff.mpr ⟨outcome, d, t, ?_, ?_⟩⟩
            · exact ih.mpr ⟨outcome, rfl, hrest⟩
            · cases outcome with
              | error failure => exact ⟨rfl, rfl⟩
              | ok results => exact .done _ _

/-- The results of a request, of which there must be one for each address. -/
def counted (addresses : List AttributeAddress) (results : List GetResult) :
    Outcome { results : List GetResult // results.length = addresses.length } :=
  if h : results.length = addresses.length then .ok ⟨results, h⟩
  else .error (.protocol (.resultCount addresses.length results.length))

/-- Several attributes are read, by whichever means, and then counted. -/
theorem readAll_eq (addresses : List AttributeAddress) :
    readAll addresses = get >>= fun device =>
      (if device.supportsBatchedRead then readBatch addresses
        else addresses.mapM readAttribute) >>= fun results =>
      liftM (counted addresses results) := by
  have hcounted : ∀ results : List GetResult, (if h : results.length = addresses.length then
      pure ⟨results, h⟩ else throw (.protocol (.resultCount addresses.length results.length)) :
      Operation { results : List GetResult // results.length = addresses.length }) =
        liftM (counted addresses results) := by
    intro results
    unfold counted
    split <;> rfl
  unfold readAll
  simp only [hcounted]
  refine congrArg (get >>= ·) (funext fun device => ?_)
  split <;> rfl

/-- However several attributes are read, the record stays as it is, and the results are counted. -/
theorem runs_readAll_iff {addresses : List AttributeAddress}
    {r : Outcome { results : List GetResult // results.length = addresses.length } × Device} :
    Dialogue.Runs rules ((readAll addresses).run.run d) s r t ↔
      ∃ outcome : Outcome (List GetResult), r = (outcome.bind (counted addresses), d) ∧
        if d.supportsBatchedRead then rules (.readBatch addresses) s outcome t
        else AnswersEach rules addresses s outcome t := by
  have hread : ∀ {e s'}, Dialogue.Runs rules ((if d.supportsBatchedRead then readBatch addresses
      else addresses.mapM readAttribute : Operation (List GetResult)).run.run d) s e s' ↔
      ∃ outcome, e = (outcome, d) ∧
        if d.supportsBatchedRead then rules (.readBatch addresses) s outcome s'
        else AnswersEach rules addresses s outcome s' := by
    intro e s'
    split
    · exact runs_readBatch_iff
    · exact runs_mapM_readAttribute_iff
  rw [readAll_eq]
  change Dialogue.Runs rules (((if d.supportsBatchedRead then readBatch addresses
    else addresses.mapM readAttribute) >>= fun results =>
      liftM (counted addresses results) : Operation _).run.run d) s r t ↔ _
  rw [Task.runs_bind_iff]
  simp only [hread]
  constructor
  · rintro ⟨outcome, _, s', ⟨_, ⟨⟩, hanswer⟩, hrest⟩
    cases outcome with
    | ok results =>
        obtain ⟨rfl, rfl⟩ := Dialogue.runs_done_iff.mp hrest
        exact ⟨_, rfl, hanswer⟩
    | error failure =>
        obtain ⟨rfl, rfl⟩ := hrest
        exact ⟨_, rfl, hanswer⟩
  · rintro ⟨outcome, rfl, hanswer⟩
    refine ⟨outcome, d, t, ⟨_, rfl, hanswer⟩, ?_⟩
    cases outcome with
    | ok results => exact .done _ _
    | error failure => exact ⟨rfl, rfl⟩

/-- What is returned of several attributes is what the meter answered, one result for each of them.
A request for several attributes that is answered with any other number of results is a fault of the
protocol. -/
theorem results_of_runs_readAll {fair : Turn Answer → Prop} {addresses : List AttributeAddress}
    {r : Outcome { results : List GetResult // results.length = addresses.length }}
    {history : List (Turn Answer)}
    (hruns : Dialogue.Runs (recording fair) ((readAll addresses).run.run d) [] (r, d') history) :
    (∀ results, r = .ok results →
      results.val.length = addresses.length ∧ history.flatMap Turn.results = results.val) ∧
    ∀ asked results, ⟨.readBatch asked, .ok results⟩ ∈ history → results.length ≠ asked.length →
      r = .error (.protocol (.resultCount asked.length results.length)) := by
  obtain ⟨outcome, hr, hanswer⟩ := runs_readAll_iff.mp hruns
  obtain ⟨rfl, rfl⟩ := Prod.mk.inj hr
  have hok : ∀ results : { results : List GetResult // results.length = addresses.length },
      outcome.bind (counted addresses) = .ok results → outcome = .ok results.val := by
    intro results hcounted
    cases outcome with
    | error failure => cases hcounted
    | ok results' =>
        change counted addresses results' = _ at hcounted
        unfold counted at hcounted
        split at hcounted
        · cases hcounted
          rfl
        · cases hcounted
  split at hanswer
  · obtain ⟨_, rfl⟩ := hanswer
    constructor
    · intro results hresults
      obtain rfl := hok results hresults
      exact ⟨results.property, by simp [Turn.results]⟩
    · intro asked results hmem hlength
      cases List.mem_singleton.mp hmem
      change counted addresses results = _
      rw [counted, dif_neg hlength]
  · obtain ⟨own, rfl, hresults, hsingle⟩ := hanswer.exists_own
    constructor
    · intro results heq
      exact ⟨results.property, hresults _ (hok results heq)⟩
    · intro asked results hmem _
      exact absurd hmem (hsingle asked _)

/-- With a meter that answers faithfully, reading several attributes comes to the same either way. -/
theorem ignoresBatching_readAll (h : BatchesFaithfully rules) (addresses : List AttributeAddress) :
    IgnoresBatching rules (readAll addresses) := by
  -- Whichever way the record says to read, the answers are those of one request after the other.
  have hanswered : ∀ {d : Device} {s outcome t},
      (if d.supportsBatchedRead then rules (.readBatch addresses) s outcome t
        else AnswersEach rules addresses s outcome t) ↔ AnswersEach rules addresses s outcome t := by
    intro d s outcome t
    split
    · exact h addresses s outcome t
    · exact Iff.rfl
  intro d d' hd s r e t hruns
  obtain ⟨outcome, hr, hanswer⟩ := runs_readAll_iff.mp hruns
  cases hr
  refine ⟨d', hd, runs_readAll_iff.mpr ⟨outcome, rfl, ?_⟩⟩
  exact hanswered.mpr (hanswered.mp hanswer)

end Operation

end HeadEnd
