import PhiCalculus.Proofs.Histories

/-!
# Queries

A query is a request together with where it is made: in which surroundings, from which state, and
with how many steps that may nest inside of it.  Slots may compute anything that can be done by
operations (`Computations`).  A run asks queries, each of which asks others in turn
(`Query.Within`), and what single changes do has been done when a query begins in the midst of a
run, and has been done from where it ends until the run ends.  Where slots compute expressions, a
query about objects in custody asks about such objects only (`Query.Within.keeps`).

So what a run does to a state can be traced to the queries that do it.  A query does something
itself if none of the queries does it that it asks (`Query.Itself`).  If requests of most kinds
leave something alone by themselves, and it does not stay, then somewhere in the run a query of one
of the other kinds has changed it itself (`Query.exists_itself`).
-/

set_option autoImplicit false

namespace PhiCalculus

open PhiCalculus.Action

variable {α β : Type} {c : Computations}

/-! ## Answers -/

/-- Answers requests that nest no deeper than allowed. -/
abbrev answered (c : Computations) (steps : Nat) {α : Type} (q : Request α) : Action α :=
  answeredUntil c (fun _ => false) steps q

theorem answered_succ (c : Computations) (steps : Nat) (q : Request α) :
    answered c (steps + 1) q = answerBy c (answered c steps) q :=
  stoppable_never _

/-- Where slots compute expressions, these are the answers of the evaluator. -/
theorem answered_ofExpressions (steps : Nat) :
    @answered .ofExpressions steps = @answerWithin steps := by
  funext α q
  exact answeredUntil_ofExpressions steps q

theorem settles_answered (c : Computations) (steps : Nat) :
    Answerer.Settles (answered c steps) := by
  induction steps with
  | zero => exact fun _ _ _ _ _ h => by cases h
  | succ steps ih =>
      intro r o frame s t h
      have resolved : answerBy c (answered c steps) (.resolve r) frame s = .answer o t := by
        rw [← answered_succ]
        exact h
      exact Answerer.Settles.resolveView ih resolved

/-! ## Queries of a run -/

/-- A request, made somewhere with a number of steps that may nest inside of it. -/
structure Query where
  {α : Type}
  request : Request α
  steps : Nat
  frame : Frame
  state : State

/-- How the query is answered. -/
def Query.outcome (c : Computations) (q : Query) : Outcome q.α :=
  answerBy c (answered c q.steps) q.request q.frame q.state

/-- A run asks the query by itself: it depends on how the query is answered. -/
inductive Computations.Asks (c : Computations) (x : Answerer → Action α) :
    Nat → Frame → State → Query → Prop where
  | mk {β : Type} {steps : Nat} {frame around : Frame} {s t : State} {q : Request β} :
      DependsOn x (answered c (steps + 1)) frame s q around t →
        Asks c x (steps + 1) frame s ⟨q, steps, around, t⟩

namespace Query

/-- The second query is asked by the first one. -/
def Asks (c : Computations) (q d : Query) : Prop :=
  c.Asks (fun ask => answerBy c ask q.request) q.steps q.frame q.state d

/-- The second query is asked while the first one is answered. -/
abbrev Within (c : Computations) : Query → Query → Prop := Relation.ReflTransGen (Asks c)

end Query

/-- The query is asked somewhere in the run. -/
def Computations.Meets (c : Computations) (x : Answerer → Action α) (steps : Nat) (frame : Frame)
    (s : State) (d : Query) : Prop :=
  ∃ q, c.Asks x steps frame s q ∧ q.Within c d

theorem Query.Asks.fewer {q d : Query} (asks : q.Asks c d) : d.steps < q.steps := by
  obtain ⟨request, steps, frame, s⟩ := q
  cases asks
  exact Nat.lt_succ_self _

/-! ## What single changes do -/

section

variable {R : State → State → Prop} {catching : Prop} {x : Answerer → Action α} {steps : Nat}
  {frame : Frame} {s : State} {q d : Query} (refl : ∀ s, R s s)
  (trans : ∀ ⦃s t u : State⦄, R s t → R t u → R s u)
  (changes : ∀ ⦃s t : State⦄, s.Changes t → R s t)
include refl trans changes

theorem Computations.Asks.starts (asks : c.Asks x steps frame s q)
    (made : Stepwise State.Changes catching x) : R s q.state := by
  cases asks with
  | mk depends =>
      obtain ⟨ask', same, differs⟩ := depends
      exact (made.mono changes).moves_to refl trans (moves_of_changes refl trans changes c _ _) same
        differs

/-- What single changes do has been done from where a query is answered to where the run ends. -/
theorem Computations.Asks.ends (asks : c.Asks x steps frame s q)
    (made : Stepwise State.Changes catching x) :
    R (q.outcome c).state (x (answered c steps) frame s).state := by
  classical
  cases asks with
  | @mk β steps frame around s t q depends =>
      have moves : Answerer.Moves R (answered c (steps + 1)) :=
        moves_of_changes refl trans changes c _ _
      -- cut the run short where the query has been answered
      let u := (answered c (steps + 1) q around t).state
      let cut : Answerer := fun {γ} q' around' t' =>
        if Elsewhere q around t q' around' t' then answered c (steps + 1) q' around' t'
        else @Outcome.unfinished γ u
      have earlier : Answerer.Upto R cut (answered c (steps + 1)) := by
        intro γ q' around' t'
        show Outcome.Upto R (if _ then _ else _) _
        split
        · exact .same _
        · rename_i here
          cases not_not.mp here
          exact .short (refl u)
      have short : x cut frame s = @Outcome.unfinished α u :=
        made.reaches_of_dependsOn depends cut (fun _ _ _ elsewhere => if_pos elsewhere) u
          (if_neg (not_not_intro rfl))
      have upto := (made.mono changes).upto trans moves earlier frame s
      rw [short] at upto
      have here : u = (Query.outcome c ⟨q, steps, around, t⟩).state :=
        congrArg (fun answer : Action β => (answer around t).state) (answered_succ c steps q)
      rw [← here]
      generalize x (answered c (steps + 1)) frame s = o at upto
      cases upto with
      | same => exact refl u
      | short moved => exact moved

namespace Query

theorem moves (q : Query) : R q.state (q.outcome c).state :=
  ((changes_answerBy c q.request).mono changes).moves trans
    (moves_of_changes refl trans changes c _ _) q.frame q.state

theorem Within.starts (within : q.Within c d) : R q.state d.state := by
  induction within with
  | refl => exact refl _
  | tail _ asks ih =>
      exact trans ih (Computations.Asks.starts refl trans changes asks (changes_answerBy c _))

theorem Within.ends (within : q.Within c d) : R (d.outcome c).state (q.outcome c).state := by
  induction within with
  | refl => exact refl _
  | tail _ asks ih =>
      exact trans (Computations.Asks.ends refl trans changes asks (changes_answerBy c _)) ih

end Query

theorem Computations.Meets.starts (meets : c.Meets x steps frame s d)
    (made : Stepwise State.Changes catching x) : R s d.state := by
  obtain ⟨q, asks, within⟩ := meets
  exact trans (asks.starts refl trans changes made) (within.starts refl trans changes)

end

/-- **The heap has grown when a query begins in the midst of another, and grows from where it ends
until the other one does.** -/
theorem Query.Within.grows {q d : Query} (within : q.Within c d) :
    q.state.heap.Grows d.state.heap ∧ (d.outcome c).state.heap.Grows (q.outcome c).state.heap :=
  ⟨within.starts (R := State.Grows) State.Grows.refl State.Grows.trans State.Changes.grows,
    within.ends (R := State.Grows) State.Grows.refl State.Grows.trans State.Changes.grows⟩

theorem Query.grows (c : Computations) (q : Query) :
    q.state.heap.Grows (q.outcome c).state.heap :=
  q.moves (R := State.Grows) State.Grows.refl State.Grows.trans State.Changes.grows

/-- The heap has grown when a request has been answered. -/
theorem answered_grows {steps : Nat} {q : Request α} {frame : Frame} {a : α} {s t : State}
    (ends : answered c steps q frame s = .answer a t) : s.heap.Grows t.heap := by
  have grown : s.Grows (answered c steps q frame s).state :=
    moves_answeredUntil c (fun _ => false) steps q frame s
  rwa [ends] at grown

/-! ## What queries are about -/

namespace Query

variable {ι : Type} {W : Custody ι} {i : ι} {q d : Query}

/-- The query is about objects in custody, in some setting. -/
def InCustody (W : Custody ι) (i : ι) (q : Query) : Prop :=
  ∃ setting : W.Setting, setting.frame = q.frame ∧ q.request.Proper setting.held q.state ∧
    W.Holds i (q.request.refs ++ setting.held) q.state

/-- Where slots compute expressions, queries ask about objects in custody. -/
theorem Asks.keeps (asks : q.Asks .ofExpressions d) (here : q.InCustody W i) :
    d.InCustody W i := by
  obtain ⟨request, steps, frame, s⟩ := q
  obtain ⟨setting, rfl, proper, holds⟩ := here
  have same (ask : Answerer) : answerBy .ofExpressions ask request = answer ask request := by
    cases request <;> rfl
  cases asks with
  | mk depends =>
      obtain ⟨ask', others, differs⟩ := depends
      rw [answered_ofExpressions] at others differs
      simp only [same] at differs
      obtain ⟨around, surrounds, properly, -, reaches⟩ :=
        (Custody.careful_answer request proper).at_request (Custody.keeps_answerWithin _) others
          differs holds
      exact ⟨around, surrounds, properly, reaches⟩

/-- **A query about objects in custody asks about objects in custody,** however deep. -/
theorem Within.keeps (within : q.Within .ofExpressions d) (here : q.InCustody W i) :
    d.InCustody W i := by
  induction within with
  | refl => exact here
  | tail _ asks ih => exact asks.keeps ih

end Query

/-! ## Who does it -/

section

variable {K : State → State → Prop}

namespace Query

/-- From where the query begins to where it ends, `K` does not hold. -/
def Breaks (c : Computations) (K : State → State → Prop) (q : Query) : Prop :=
  ¬ K q.state (q.outcome c).state

/-- The query breaks `K`, and none that it asks does. -/
structure Itself (c : Computations) (K : State → State → Prop) (q : Query) : Prop where
  breaks : q.Breaks c K
  others : ∀ d, q.Asks c d → ¬ d.Breaks c K

end Query

/-- Whatever the first one answers, the second one answers. -/
def Answerer.Echoes (ask ask' : Answerer) : Prop :=
  ∀ {α : Type} (q : Request α) frame s a t, ask q frame s = .answer a t →
    ask' q frame s = .answer a t

/-- Requests of that kind keep `K` by themselves. -/
def Request.Keeps (c : Computations) (K : State → State → Prop) (q : Request α) : Prop :=
  ∀ ask : Answerer, ask.Moves K → ask.Settles → (answerBy c ask q).Moves K

/-- What does not keep `K`, but does where requests do, reaches one that does not. -/
theorem Stepwise.reaches_break {R : State → State → Prop} {catching : Prop}
    {x : Answerer → Action α} {ask : Answerer} {frame : Frame} {s : State}
    (made : Stepwise R catching x) (refl : ∀ s, K s s) (settles : ask.Settles)
    (keeps : ∀ ask' : Answerer, ask'.Moves K → ask'.Settles → ask'.Echoes ask →
      K s (x ask' frame s).state)
    (broken : ¬ K s (x ask frame s).state) :
    ∃ (β : Type) (q : Request β) (around : Frame) (t : State),
      Reaches x ask frame s q around t ∧ ¬ K t (ask q around t).state := by
  classical
  -- cut every request short that does not keep it
  let cut : Answerer := fun {γ} q around t =>
    if K t (ask q around t).state then ask q around t else @Outcome.unfinished γ t
  have moves : cut.Moves K := by
    intro γ q around t
    show K t (if _ then _ else _ : Outcome γ).state
    split
    · assumption
    · exact refl t
  have echoes : cut.Echoes ask := by
    intro γ q around t a u h
    change (if _ then _ else _ : Outcome γ) = _ at h
    split at h
    · exact h
    · cases h
  have settles' : cut.Settles := fun _ _ _ _ _ h => settles (echoes _ _ _ _ _ h)
  rcases made.reaches_or_same ask frame s cut with same | ⟨β, q, around, t, reaches, differs⟩
  · exact absurd (same ▸ keeps cut moves settles' echoes) broken
  · exact ⟨β, q, around, t, reaches, fun kept => differs (if_pos kept)⟩

/-- **What a run breaks, it asks a query to break,** if it does not do so by itself. -/
theorem Computations.asks_break {R : State → State → Prop} {catching : Prop}
    {x : Answerer → Action α} {steps : Nat} {frame : Frame} {s : State}
    (made : Stepwise R catching x) (refl : ∀ s, K s s)
    (keeps : ∀ ask : Answerer, ask.Moves K → ask.Settles → ask.Echoes (answered c steps) →
      K s (x ask frame s).state)
    (broken : ¬ K s (x (answered c steps) frame s).state) :
    ∃ q, c.Asks x steps frame s q ∧ q.Breaks c K := by
  obtain ⟨β, q, around, t, reaches, breaks⟩ :=
    made.reaches_break refl (settles_answered c steps) keeps broken
  cases steps with
  | zero => exact absurd (refl t) breaks
  | succ steps =>
      rw [answered_succ] at breaks
      exact ⟨⟨q, steps, around, t⟩, .mk reaches.dependsOn, breaks⟩

variable {culprit : {α : Type} → Request α → Prop}

/-- **What a query breaks is broken in the midst of it by a query itself,** which is of a kind that
need not keep it. -/
theorem Query.exists_itself (refl : ∀ s, K s s)
    (others : ∀ {α : Type} (q : Request α), ¬ culprit q → q.Keeps c K) (q : Query)
    (broken : q.Breaks c K) : ∃ d, q.Within c d ∧ culprit d.request ∧ d.Itself c K := by
  induction fewer : q.steps using Nat.strongRecOn generalizing q with
  | ind steps ih =>
      by_cases further : ∃ d, q.Asks c d ∧ d.Breaks c K
      · obtain ⟨d, asks, breaks⟩ := further
        obtain ⟨e, within, is, itself⟩ := ih d.steps (fewer ▸ asks.fewer) d breaks rfl
        exact ⟨e, .head asks within, is, itself⟩
      · have innermost (d : Query) (asks : q.Asks c d) : ¬ d.Breaks c K := fun breaks =>
          further ⟨d, asks, breaks⟩
        refine ⟨q, .refl, ?_, broken, innermost⟩
        by_contra other
        obtain ⟨d, asks, breaks⟩ := Computations.asks_break (changes_answerBy c q.request) refl
          (fun ask moves settles _ => others q.request other ask moves settles q.frame q.state)
          broken
        exact innermost d asks breaks

end

end PhiCalculus
