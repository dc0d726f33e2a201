import HeadEnd.Proofs.EventLog
import HeadEnd.Proofs.Session.Loss
import Mathlib.Logic.Relation

/-! # Steady meters

A meter whose answers to reads do not depend on the reads before them. What only reads comes to one
result with such a meter, whatever was read before.
-/

namespace HeadEnd

variable {σ : Type} {rules : Rules Answer σ} {s t u : σ}

variable (rules) in
/-- Reads lead from the one state to the other. -/
def ReadsTo : σ → σ → Prop :=
  Relation.ReflTransGen fun s t => ∃ question answer, question.IsRead ∧ rules question s answer t

theorem ReadsTo.tail {question : Question} {answer : Answer question} (h : ReadsTo rules s t)
    (hread : question.IsRead) (hrules : rules question t answer u) : ReadsTo rules s u :=
  Relation.ReflTransGen.tail h ⟨question, answer, hread, hrules⟩

variable (rules s) in
/-- Wherever reads lead from the state, a read has an answer, the same one everywhere, and the
connection is not lost. -/
structure IsSteady : Prop where
  answered : ∀ {t}, ReadsTo rules s t → ∀ {question : Question}, question.IsRead →
    ∃ answer u, rules question t answer u
  alike : ∀ {t t'}, ReadsTo rules s t → ReadsTo rules s t' →
    ∀ {question answer answer' u u'}, question.IsRead → rules question t answer u →
      rules question t' answer' u' → answer' = answer
  lossless : ∀ {t}, ReadsTo rules s t → ∀ {question answer u}, question.IsRead →
    rules question t answer u → ¬ Turn.IsLoss ⟨question, answer⟩

variable {α : Type} {a : α} {x : Session α}

variable (rules s) in
/-- Wherever reads have led from the state, the dialogue comes to its end, with this result only, and
does no more than reads do. -/
def ComesTo (x : Session α) (a : α) : Prop :=
  ∀ t, ReadsTo rules s t →
    (∃ u, Dialogue.Runs rules x t a u) ∧
      ∀ a' u, Dialogue.Runs rules x t a' u → a' = a ∧ ReadsTo rules s u

theorem comesTo_done (a : α) : ComesTo rules s (.done a) a := by
  intro t ht
  refine ⟨⟨t, .done a t⟩, fun a' u hruns => ?_⟩
  obtain ⟨rfl, rfl⟩ := Dialogue.runs_done_iff.mp hruns
  exact ⟨rfl, ht⟩

namespace IsSteady

variable {R : α → Prop}

/-- What asks nothing but reads comes to one result. -/
theorem exists_comesTo (h : IsSteady rules s) (hx : x.Within Question.IsRead R) :
    ∃ a, R a ∧ ComesTo rules s x a := by
  induction hx with
  | @done a ha => exact ⟨a, ha, comesTo_done a⟩
  | @ask question next hread _ ih =>
      obtain ⟨answer, _, hanswer⟩ := h.answered .refl hread
      obtain ⟨a, ha, hnext⟩ := ih answer
      refine ⟨a, ha, fun t ht => ⟨?_, fun a' u hruns => ?_⟩⟩
      · obtain ⟨answer', t', hanswer'⟩ := h.answered ht hread
        obtain rfl : answer' = answer := h.alike .refl ht hread hanswer hanswer'
        obtain ⟨u, hruns⟩ := (hnext t' (ht.tail hread hanswer')).1
        exact ⟨u, .ask hanswer' hruns⟩
      · obtain ⟨answer', t', hanswer', hruns⟩ := Dialogue.runs_ask_iff.mp hruns
        obtain rfl : answer' = answer := h.alike .refl ht hread hanswer hanswer'
        exact (hnext t' (ht.tail hread hanswer')).2 a' u hruns

/-- In the history of what asks nothing but reads the connection is not lost. -/
theorem exists_history (h : IsSteady rules s) (hx : x.Within Question.IsRead R) {t u : σ}
    (ht : ReadsTo rules s t) (hruns : Dialogue.Runs rules x t a u) (before : List (Turn Answer)) :
    ∃ history, Dialogue.Runs (recording fun turn => ¬ turn.IsLoss) x before a history := by
  induction hx generalizing t before with
  | done _ =>
      obtain ⟨rfl, -⟩ := Dialogue.runs_done_iff.mp hruns
      exact ⟨before, .done _ before⟩
  | @ask question next hread _ ih =>
      obtain ⟨answer, t', hanswer, hruns⟩ := Dialogue.runs_ask_iff.mp hruns
      obtain ⟨history, hnext⟩ :=
        ih answer (ht.tail hread hanswer) hruns (before ++ [⟨question, answer⟩])
      exact ⟨history, .ask ⟨h.lossless ht hread hanswer, rfl⟩ hnext⟩

end IsSteady

end HeadEnd
