import PhiCalculus.Proofs.CarefulExpressions
import PhiCalculus.Proofs.Existence

/-!
# Histories

A client of a runtime performs operations on objects that it has in hand, drops objects, and makes
some of them global (`Moment.Does`).  While an operation is performed, requests are answered, each
in the midst of another and one after the other (`Call.Asks.in_order`).  So a history has more
moments than a client sees: those at which a request begins to be answered, and those at which it
has been (`Call.Then`).

What is in custody at a moment is in custody at every later one (`Moment.Before.keeps`), and so is
whatever a single change of a state keeps (`Moment.Reached.numbered`).
-/

set_option autoImplicit false

namespace PhiCalculus

open PhiCalculus.Action

/-! ## What is in use during a call -/

namespace Activity

variable {α : Type}

/-- Results of what is done mention objects. -/
@[reducible] def mentions : Activity α → Mentions α
  | operation op => op.mentions
  | request q => q.mentions
  | main _ => inferInstanceAs (Mentions Value)
  | handler _ _ => inferInstanceAs (Mentions Value)
  | final _ => inferInstanceAs (Mentions Unit)

/-- The objects that are put in use for what is done. -/
def refs : Activity α → List Ref
  | request q => q.refs
  | _ => []

/-- An operation is performed that binds an owner. -/
def Owns : Activity α → Prop
  | operation op => op.Owns
  | _ => False

/-- An operation is performed on objects in use; a request is proper. -/
def Proper (frame : Frame) (s : State) : Activity α → Prop
  | operation op => (∀ x ∈ op.operands, x ∈ frame.held) ∧ op.Proper s
  | request q => q.Proper frame.held s
  | _ => False

end Activity

/-- Operations are performed and requests are answered with care. -/
theorem Custody.careful_activity {ι α : Type} {W : Custody ι} {a : Activity α} {frame : Frame}
    {s : State} (free : a.Owns → ∀ s r, W.Owner s r) (proper : a.Proper frame s) :
    @Custody.Cares ι α a.mentions W (.of frame) (a.refs ++ frame.held) (fun _ _ => True) s
      (a.refs ++ frame.held) fun ask => a.run ask := by
  cases a with
  | operation op => exact careful_operation op free proper.1 proper.2
  | request q =>
      let _ := q.mentions
      let setting : W.Setting := .of frame
      have properly : q.Proper setting.held s := proper
      exact (careful_answer q properly).weaken fun _ _ _ => trivial
  | _ => exact proper.elim

namespace Call

/-- The objects in use while the call is in progress. -/
def inUse (c : Call) : List Ref := c.activity.refs ++ c.frame.held

/-- The objects that the result mentions. -/
def told (c : Call) : List Ref := @Outcome.refs c.α c.activity.mentions c.outcome

/-- The call is about objects in use. -/
def Proper (c : Call) : Prop := c.activity.Proper c.frame c.state

/-! ## The order of calls -/

/-- The second call answers a request that the first one makes. -/
inductive Asks : Call → Call → Prop where
  | mk {α β : Type} {a : Activity α} {steps : Nat} {frame around : Frame} {s t : State}
      {q : Request β} :
      DependsOn (fun ask => a.run ask) (answerWithin (steps + 1)) frame s q around t →
        Asks ⟨a, steps + 1, frame, s⟩ ⟨.request q, steps, around, t⟩

/-- Among the requests that the first call makes, the one comes before the other: where the one is
cut short, the call is, no matter how the other one would be answered. -/
inductive AsksFirst : Call → Call → Call → Prop where
  | mk {α β γ : Type} {a : Activity α} {steps : Nat} {frame around around' : Frame} {s t t' : State}
      {q : Request β} {q' : Request γ} :
      Asks ⟨a, steps + 1, frame, s⟩ ⟨.request q, steps, around, t⟩ →
        Asks ⟨a, steps + 1, frame, s⟩ ⟨.request q', steps, around', t'⟩ →
          Elsewhere q around t q' around' t' →
            (∀ ask' : Answerer,
              (∀ {δ : Type} (p : Request δ) before u, Elsewhere q around t p before u →
                Elsewhere q' around' t' p before u →
                  ask' p before u = answerWithin (steps + 1) p before u) →
                ∀ u, ask' q around t = @Outcome.unfinished β u →
                  a.run ask' frame s = @Outcome.unfinished α u) →
              AsksFirst ⟨a, steps + 1, frame, s⟩ ⟨.request q, steps, around, t⟩
                ⟨.request q', steps, around', t'⟩

/-- The second call is in progress during the first one. -/
abbrev Within : Call → Call → Prop := Relation.ReflTransGen Asks

end Call

/-- A moment in the midst of an operation: a call begins, or has ended. -/
inductive Instant where
  | start (c : Call)
  | done (c : Call)

/-- What is there at an instant.  What a call was about is in use still when it has ended. -/
def Instant.moment : Instant → Moment
  | start c => ⟨c.state, c.inUse⟩
  | done c => ⟨c.outcome.state, c.told ++ c.inUse⟩

/-- During a call, the one instant comes right before the other. -/
inductive Call.Then (root : Call) : Instant → Instant → Prop where
  | asks {c d : Call} : root.Within c → c.Asks d → Then root (.start c) (.start d)
  | ends {c : Call} : root.Within c → Then root (.start c) (.done c)
  | resumes {c d : Call} : root.Within c → c.Asks d → Then root (.done d) (.done c)
  | goesOn {c d e : Call} : root.Within c → c.AsksFirst d e → Then root (.done d) (.start e)

theorem Call.Asks.not_owns {c d : Call} (asks : c.Asks d) : ¬ d.activity.Owns := by
  cases asks
  exact id

theorem Call.Within.owns {root c : Call} (within : root.Within c) (owns : c.activity.Owns) :
    root.activity.Owns := by
  cases within with
  | refl => exact owns
  | tail _ asks => exact absurd owns asks.not_owns

section

variable {ι : Type} {W : Custody ι} {c d e root : Call} {i j : ι}

theorem Call.Proper.ends (free : c.activity.Owns → ∀ s r, W.Owner s r) (proper : c.Proper)
    (here : W.Holds i c.inUse c.state) : W.Holds i (c.told ++ c.inUse) c.outcome.state :=
  (Custody.careful_activity free proper).held (Custody.keeps_answerWithin _) here

variable (all : W.Whole)
include all

theorem Call.Asks.keeps (free : c.activity.Owns → ∀ s r, W.Owner s r) (asks : c.Asks d)
    (proper : c.Proper) (here : W.Holds i c.inUse c.state) :
    d.Proper ∧ W.Holds i d.inUse d.state := by
  cases asks with
  | mk depends =>
      obtain ⟨ask', same, differs⟩ := depends
      have reached := (Custody.careful_activity free proper).reached all
        (Custody.keeps_answerWithin _) same differs here
      exact ⟨reached.1, reached.2.2⟩

/-- **What is in custody when a call is made is in custody in the midst of it.** -/
theorem Call.Within.keeps (free : root.activity.Owns → ∀ s r, W.Owner s r)
    (within : root.Within c) (proper : root.Proper) (here : W.Holds i root.inUse root.state) :
    c.Proper ∧ W.Holds i c.inUse c.state := by
  induction within with
  | refl => exact ⟨proper, here⟩
  | tail within asks ih =>
      exact asks.keeps all (fun owns => free (Call.Within.owns within owns)) ih.1 ih.2

variable (free : ∀ s r, W.Owner s r)
include free

theorem Call.Asks.resumes (asks : c.Asks d) (proper : c.Proper)
    (start : W.Holds j c.inUse c.state) (here : W.Holds i (d.told ++ d.inUse) d.outcome.state) :
    W.Holds i (c.told ++ c.inUse) c.outcome.state := by
  cases asks with
  | mk depends =>
      obtain ⟨ask', same, differs⟩ := depends
      exact (Custody.careful_activity (fun _ => free) proper).resumed all
        (Custody.keeps_answerWithin _) same differs start here

theorem Call.AsksFirst.goesOn (asks : c.AsksFirst d e) (proper : c.Proper)
    (start : W.Holds j c.inUse c.state)
    (here : W.Holds i (d.told ++ d.inUse) d.outcome.state) : W.Holds i e.inUse e.state := by
  cases asks with
  | mk _ asks other first =>
      cases asks with
      | mk depends =>
          obtain ⟨ask', same, differs⟩ := depends
          exact (Custody.careful_activity (fun _ => free) proper).later all
            (Custody.keeps_answerWithin _) other first same differs start here

/-- **During a call, what is in custody stays in custody** from one instant to the next. -/
theorem Call.Then.keeps {x y : Instant} (next : root.Then x y) (proper : root.Proper)
    (start : W.Holds j root.inUse root.state)
    (here : W.Holds i x.moment.inUse x.moment.state) :
    W.Holds i y.moment.inUse y.moment.state := by
  cases next with
  | asks within asks =>
      exact (asks.keeps all (fun _ => free) (within.keeps all (fun _ => free) proper start).1 here).2
  | ends within => exact (within.keeps all (fun _ => free) proper start).1.ends (fun _ => free) here
  | resumes within asks =>
      obtain ⟨proper', start'⟩ := within.keeps all (fun _ => free) proper start
      exact asks.resumes all free proper' start' here
  | goesOn within asks =>
      obtain ⟨proper', start'⟩ := within.keeps all (fun _ => free) proper start
      exact asks.goesOn all free proper' start' here

end

/-! ## Requests come one after the other -/

/-- Two requests on which a careful run depends are one request, or the one is made before the
other. -/
theorem Custody.Careful.in_order {ι α β γ : Type} {W : Custody ι} {mα : Mentions α}
    {keeps known : List Ref} {post : α → State → Prop} {s t t' : State}
    {run : Answerer → Outcome α} {ask ask₁ ask₂ : Answerer} {q : Request β} {around : Frame}
    {q' : Request γ} {around' : Frame} (careful : W.Careful keeps post s known run)
    (asked : W.Keeps ask)
    (same₁ : ∀ {δ : Type} (p : Request δ) before u, Elsewhere q around t p before u →
      ask₁ p before u = ask p before u) (differs₁ : run ask₁ ≠ run ask)
    (same₂ : ∀ {δ : Type} (p : Request δ) before u, Elsewhere q' around' t' p before u →
      ask₂ p before u = ask p before u) (differs₂ : run ask₂ ≠ run ask) {i : ι}
    (here : W.Holds i known s) :
    let cut {ε : Type} (p : Request ε) (before : Frame) (u : State) : Prop :=
      ∀ ask' : Answerer, (∀ {δ : Type} (p' : Request δ) before' u',
        Elsewhere q around t p' before' u' → Elsewhere q' around' t' p' before' u' →
          ask' p' before' u' = ask p' before' u') →
        ∀ v, ask' p before u = @Outcome.unfinished ε v → run ask' = @Outcome.unfinished α v
    ¬ Elsewhere q around t q' around' t' ∨ cut q around t ∨ cut q' around' t' := by
  induction careful with
  | ends => exact absurd rfl differs₁
  | @asks s known δ p before u next grown holds proper short _ ih =>
      by_cases first : Elsewhere q around t p before.frame u
      · by_cases second : Elsewhere q' around' t' p before.frame u
        · change next (ask₁ p before.frame u) ask₁ ≠ next (ask p before.frame u) ask at differs₁
          change next (ask₂ p before.frame u) ask₂ ≠ next (ask p before.frame u) ask at differs₂
          rw [same₁ p before.frame u first] at differs₁
          rw [same₂ p before.frame u second] at differs₂
          refine (ih (ask p before.frame u) (asked.grows _ _ _) (asked.sound _ _ _) differs₁ differs₂
            (asked.holds proper i (holds i here))).imp id (.imp (fun cut ask' agrees v is => ?_)
              fun cut ask' agrees v is => ?_)
          all_goals
            change next (ask' p before.frame u) ask' = _
            rw [agrees p before.frame u first second]
            exact cut ask' agrees v is
        · cases not_not.mp second
          refine .inr (.inr fun ask' _ v is => ?_)
          change next (ask' q' before.frame t') ask' = _
          rw [is, short]
      · cases not_not.mp first
        refine .inr (.inl fun ask' _ v is => ?_)
        change next (ask' q before.frame t) ask' = _
        rw [is, short]
  | idle none => exact absurd here (none i)

/-- **Of two requests that a call makes, one comes before the other.** -/
theorem Call.Asks.in_order {ι : Type} {W : Custody ι} {c d e : Call} {i : ι}
    (free : ∀ s r, W.Owner s r) (proper : c.Proper) (here : W.Holds i c.inUse c.state)
    (asks : c.Asks d) (asks' : c.Asks e) : d = e ∨ c.AsksFirst d e ∨ c.AsksFirst e d := by
  obtain @⟨α, β, a, steps, frame, around, s, t, q, ask₁, same₁, differs₁⟩ := asks
  obtain @⟨_, γ, _, _, _, around', _, t', q', ask₂, same₂, differs₂⟩ := asks'
  have order := (Custody.careful_activity (fun _ => free) proper).in_order
    (Custody.keeps_answerWithin _) same₁ differs₁ same₂ differs₂ here
  by_cases other : Elsewhere q around t q' around' t'
  · rcases order.resolve_left (not_not_intro other) with first | first
    · exact .inr (.inl (.mk ⟨_, same₁, differs₁⟩ ⟨_, same₂, differs₂⟩ other first))
    · refine .inr (.inr (.mk ⟨_, same₂, differs₂⟩ ⟨_, same₁, differs₁⟩ other.symm ?_))
      exact fun ask' agrees => first ask' fun p before u one two => agrees p before u two one
  · cases not_not.mp other
    exact .inl rfl

/-! ## What single changes keep -/

/-- **What every single change does has been done when a request is made.** -/
theorem Stepwise.moves_to {R : State → State → Prop} {catching : Prop} {α β : Type}
    {x : Answerer → Action α} {frame around : Frame} {s t : State} {q : Request β}
    {ask ask' : Answerer} (h : Stepwise R catching x) (refl : ∀ s, R s s)
    (trans : ∀ ⦃s t u : State⦄, R s t → R t u → R s u) (asked : ask.Moves R)
    (same : ∀ {γ : Type} (q' : Request γ) around' t', Elsewhere q around t q' around' t' →
      ask' q' around' t' = ask q' around' t')
    (differs : x ask' frame s ≠ x ask frame s) : R s t := by
  induction h generalizing frame s with
  | base part =>
      cases part with
      | request q' =>
          by_cases elsewhere : Elsewhere q around t q' frame s
          · exact absurd (same q' frame s elsewhere) differs
          · cases not_not.mp elsewhere
            exact refl t
      | change _ => exact absurd rfl differs
  | @bind _ _ x f first _ ihFirst ihRest =>
      by_cases begins : x ask' frame s = x ask frame s
      · change (x ask' >>= fun a => f a ask') frame s ≠ (x ask >>= fun a => f a ask) frame s
          at differs
        rw [bind_apply, bind_apply, begins] at differs
        have moved := Stepwise.moves trans first asked frame s
        cases ending : x ask frame s with
        | answer a u =>
            rw [ending] at differs moved
            exact trans moved (ihRest a differs)
        | failure f u => exact absurd (by rw [ending]) differs
        | unfinished => exact absurd (by rw [ending]) differs
      · exact ihFirst begins
  | hold refs _ ih => exact ih differs
  | deeper _ ih => exact ih differs
  | @recover _ _ x k first _ _ ihFirst ihRest =>
      by_cases begins : x ask' frame s = x ask frame s
      · change (Action.observe (x ask') >>= fun e => k e ask') frame s ≠
          (Action.observe (x ask) >>= fun e => k e ask) frame s at differs
        rw [bind_apply, bind_apply, Action.observe, Action.observe, begins] at differs
        have moved := Stepwise.moves trans first asked frame s
        cases ending : x ask frame s with
        | answer a u =>
            rw [ending] at differs moved
            exact trans moved (ihRest (.ok a) differs)
        | failure f u =>
            rw [ending] at differs moved
            exact trans moved (ihRest (.error f) differs)
        | unfinished => exact absurd (by rw [ending]) differs
      · exact ihFirst begins

section

variable {R : State → State → Prop} (refl : ∀ s, R s s)
  (trans : ∀ ⦃s t u : State⦄, R s t → R t u → R s u)
  (changes : ∀ ⦃s t : State⦄, s.Changes t → R s t)
include refl trans changes

theorem moves_answerWithin (steps : Nat) : Answerer.Moves R (answerWithin steps) := by
  induction steps with
  | zero => exact fun _ _ s => refl s
  | succ steps ih =>
      intro α q
      have moves := ((changes_answerBy .ofExpressions q).mono changes).moves trans ih
      cases q <;> exact moves

omit refl trans in
theorem Activity.made_of_changes {α : Type} (a : Activity α) :
    Stepwise R True fun ask => a.run ask := by
  refine Stepwise.mono ?_ changes
  cases a with
  | operation op => exact op.stepwise
  | request q =>
      have made := changes_answerBy .ofExpressions q
      cases q <;> exact made
  | main r => exact (performs_runMain r).stepwise
  | handler r payload => exact (performs_runCatch r payload).stepwise
  | final r => exact (performs_runFinally r).stepwise

/-- What every single change does has been done when a call ends. -/
theorem Call.moves (c : Call) : R c.state c.outcome.state :=
  (c.activity.made_of_changes changes).moves trans
    (moves_answerWithin refl trans changes c.steps) c.frame c.state

/-- What every single change does has been done when a call begins in the midst of another. -/
theorem Call.Within.moves {root c : Call} (within : root.Within c) : R root.state c.state := by
  induction within with
  | refl => exact refl _
  | tail _ asks ih =>
      refine trans ih ?_
      obtain ⟨ask', same, differs⟩ := asks
      exact (Activity.made_of_changes changes _).moves_to refl trans
        (moves_answerWithin refl trans changes _) same differs

end

/-! ## Looking into calls -/

/-- What is made of requests reaches those on which it depends. -/
theorem Stepwise.reaches_of_dependsOn {R : State → State → Prop} {catching : Prop} {α β : Type}
    {x : Answerer → Action α} {ask : Answerer} {frame around : Frame} {s t : State} {q : Request β}
    (h : Stepwise R catching x) (depends : DependsOn x ask frame s q around t) :
    Reaches x ask frame s q around t := by
  obtain ⟨ask', same, differs⟩ := depends
  rcases h.reaches_or_same ask frame s ask' with agrees | ⟨γ, q', around', t', reaches, other⟩
  · exact absurd agrees differs
  · have here : ¬ Elsewhere q around t q' around' t' := fun elsewhere =>
      other (same q' around' t' elsewhere)
    cases not_not.mp here
    exact reaches

/-- **A call that ends is cut short nowhere.** -/
theorem Call.Within.finished {root c : Call} (within : root.Within c)
    (ends : root.outcome.isUnfinished = false) : c.outcome.isUnfinished = false := by
  induction within with
  | refl => exact ends
  | tail _ asks ih =>
      cases asks with
      | @mk _ _ a steps frame around s t q depends =>
          cases ending : Call.outcome ⟨.request q, steps, around, t⟩ with
          | @unfinished u =>
              have made := a.made_of_changes (R := State.Changes) fun _ _ => id
              have cut : Call.outcome ⟨a, steps + 1, frame, s⟩ = @Outcome.unfinished _ u :=
                made.reaches_of_dependsOn depends (answerWithin (steps + 1)) (fun _ _ _ _ => rfl) u
                  ending
              rw [cut] at ih
              cases ih
          | _ => rfl

/-- **A call that would be cut short at marked requests answers one.** -/
theorem Call.unmarked_or_within {marked : {α : Type} → Request α → Frame → State → Bool}
    (c : Call) : c.Unmarked marked ∨ ∃ (β : Type) (q : Request β) (steps : Nat) (around : Frame)
      (t : State), c.Within ⟨.request q, steps, around, t⟩ ∧ marked q around t = true := by
  obtain @⟨α, a, steps, frame, s⟩ := c
  induction steps generalizing α a frame s with
  | zero => exact .inl rfl
  | succ steps ih =>
      have made := a.made_of_changes (R := State.Changes) fun _ _ => id
      rcases made.reaches_or_same (answerWithin (steps + 1)) frame s
        (answerUntil marked (steps + 1)) with same | ⟨β, q, around, t, reaches, differs⟩
      · exact .inl same
      · have asks : Call.Asks ⟨a, steps + 1, frame, s⟩ ⟨.request q, steps, around, t⟩ :=
          .mk reaches.dependsOn
        cases mark : marked q around t with
        | true => exact .inr ⟨β, q, steps, around, t, .single asks, mark⟩
        | false =>
            have asked : answerUntil marked (steps + 1) q around t =
                answer (answerUntil marked steps) q around t := if_neg (by simp [mark])
            rcases ih (.request q) around t with unmarked | ⟨γ, q', steps', around', t', within, is⟩
            · exact absurd (asked.trans unmarked) differs
            · exact .inr ⟨γ, q', steps', around', t', .head asks within, is⟩

/-! ## Clients -/

namespace Moment

/-- A client performs an operation on objects that it has in hand. -/
inductive Performs : Moment → Call → Prop where
  | mk {α : Type} {op : Operation α} {steps depth : Nat} {tracing : Bool} {s : State}
      {held : List Ref} : (∀ x ∈ op.operands, x ∈ held) → op.Proper s →
        Performs ⟨s, held⟩ ⟨.operation op, steps, ⟨depth, tracing, held⟩, s⟩

/-- What a client does: it performs operations, and then has in hand what they answered as well; it
drops objects, makes some global, and asks the registry for vertices. -/
inductive Does : Moment → Moment → Prop where
  | performs {m : Moment} {c : Call} : m.Performs c → Does m (Instant.done c).moment
  | drops {s : State} {held less : List Ref} : (∀ x ∈ less, x ∈ held) → Does ⟨s, held⟩ ⟨s, less⟩
  | defines {s : State} {held : List Ref} (name : String) {r : Ref} : r ∈ held →
      Does ⟨s, held⟩ ⟨s.define name r, held⟩
  | asks {s : State} {held : List Ref} (q : Registry.Query) :
      Does ⟨s, held⟩ ⟨{ s with registry := (s.registry.ask q).2 }, held⟩

/-- Before anything was made. -/
def first : Moment := ⟨{}, []⟩

/-- A client can get there. -/
abbrev Reached : Moment → Prop := Relation.ReflTransGen Does first

/-- In a history, the one moment comes right before the other: a client does something in between,
or both are in the midst of an operation that it performs. -/
inductive Next : Moment → Moment → Prop where
  | does {m m' : Moment} : m.Reached → m.Does m' → Next m m'
  | within {m : Moment} {root : Call} {x y : Instant} : m.Reached → m.Performs root →
      root.Then x y → Next x.moment y.moment

/-- In a history, the one moment comes before the other, or they are the same. -/
abbrev Before : Moment → Moment → Prop := Relation.ReflTransGen Next

variable {m m' x y : Moment} {c root : Call}

theorem Performs.start (performs : m.Performs c) : (Instant.start c).moment = m := by
  cases performs
  rfl

theorem Performs.proper (performs : m.Performs c) : c.Proper := by
  cases performs with
  | mk operands proper => exact ⟨operands, proper⟩

/-- Global objects may be redefined with known ones. -/
theorem After.define {known : List Ref} {s : State} (after : m.After known s) {r : Ref}
    (there : r ∈ known) (name : String) : m.After known (s.define name r) := by
  have rooted (x : Ref) (there' : x ∈ roots ⟨s.define name r, known⟩) : x ∈ roots ⟨s, known⟩ := by
    rw [mem_roots_iff] at there' ⊢
    refine there'.elim (fun global => ?_) .inr
    obtain ⟨entry, entered, rfl⟩ := List.mem_map.mp global
    rcases State.mem_insertEntry entered with old | rfl
    · exact .inl (List.mem_map.mpr ⟨entry, old, rfl⟩)
    · exact .inr there
  exact ⟨⟨after.closed, after.older, fun x there => after.exist x (rooted x there)⟩, after.before,
    after.grows, fun x there => after.spared x (rooted x there), after.still, after.apart⟩

/-- **What is lost when a client does something stays lost.** -/
theorem Does.keeps (does : x.Does y) (after : m.After x.inUse x.state) :
    m.After y.inUse y.state := by
  cases does with
  | performs performs =>
      cases performs with
      | mk operands proper =>
          exact Call.Proper.ends (W := custody) (fun _ _ _ => trivial) ⟨operands, proper⟩ after
  | drops less => exact custody.fewer after less
  | defines name there => exact after.define there name
  | asks q => exact custody.seen after rfl rfl

theorem intact_first : first.Intact where
  closed := by
    intro r x holds
    exact absurd (Heap.exist_of_holds holds) (Nat.not_lt_zero _)
  older := nofun
  exist := nofun

/-- Wherever a client gets, nothing is lost that never was. -/
theorem Reached.after_first (reached : m.Reached) : first.After m.inUse m.state := by
  induction reached with
  | refl => exact After.refl intact_first fun _ => id
  | tail _ does ih => exact does.keeps ih

/-- **What is lost stays lost** from one moment of a history to the next. -/
theorem Next.keeps (next : x.Next y) (after : m.After x.inUse x.state) :
    m.After y.inUse y.state := by
  cases next with
  | does _ does => exact does.keeps after
  | within reached performs next =>
      have start := reached.after_first
      rw [← performs.start] at start
      exact next.keeps (W := custody) trivial (fun _ _ => trivial) performs.proper start after

/-- **What is lost stays lost** throughout a history. -/
theorem Before.keeps (before : x.Before y) (after : m.After x.inUse x.state) :
    m.After y.inUse y.state := by
  induction before with
  | refl => exact after
  | tail _ next ih => exact next.keeps ih

/-- Wherever a client gets is a moment of a history. -/
theorem Reached.before (reached : m.Reached) : first.Before m := by
  induction reached with
  | refl => exact .refl
  | tail there does ih => exact ih.tail (.does there does)

/-- At every moment of a history, objects refer to objects that were made. -/
theorem Before.intact (before : first.Before m) : m.Intact :=
  (before.keeps (After.refl intact_first fun _ => id)).toIntact

/-- **What is gone at some moment is gone at every later moment.** -/
theorem Before.lost (began : first.Before m) (before : m.Before m') {r : Ref} (lost : m.Lost r) :
    m'.Gone r :=
  (before.keeps (After.refl began.intact fun _ => id)).gone lost

theorem Before.grows (began : first.Before m) (before : m.Before m') :
    m.state.heap.Grows m'.state.heap :=
  (before.keeps (After.refl began.intact fun _ => id)).grows

/-- What single changes, definitions and queries keep holds at every moment of a history. -/
theorem Before.invariant {P : State → Prop} (empty : P {})
    (changes : ∀ ⦃s t : State⦄, s.Changes t → P s → P t)
    (defines : ∀ {s : State} (name : String) (r : Ref), P s → P (s.define name r))
    (asks : ∀ {s : State} (q : Registry.Query), P s →
      P { s with registry := (s.registry.ask q).2 }) (before : first.Before m) : P m.state := by
  let R (s t : State) : Prop := P s → P t
  have refl (s : State) : R s s := id
  have trans ⦃s t u : State⦄ (first : R s t) (second : R t u) : R s u := fun h => second (first h)
  have does {x y : Moment} (does : x.Does y) (here : P x.state) : P y.state := by
    cases does with
    | performs performs =>
        cases performs with
        | mk _ _ => exact Call.moves (R := R) refl trans changes _ here
    | drops _ => exact here
    | defines name _ => exact defines name _ here
    | asks q => exact asks q here
  have reached {x : Moment} (reached : x.Reached) : P x.state := by
    induction reached with
    | refl => exact empty
    | tail _ step ih => exact does step ih
  cases before with
  | refl => exact empty
  | tail _ next =>
      cases next with
      | does there step => exact does step (reached there)
      | @within m' root x y there performs next =>
          have start : P root.state := by
            have here := reached there
            rwa [← performs.start] at here
          have within {c : Call} (within : root.Within c) : P c.state ∧ P c.outcome.state :=
            have begins := within.moves (R := R) refl trans changes start
            ⟨begins, Call.moves (R := R) refl trans changes c begins⟩
          cases next with
          | asks inside asks => exact (within (inside.tail asks)).1
          | ends inside => exact (within inside).2
          | resumes inside asks => exact (within inside).2
          | goesOn inside asks =>
              cases asks with
              | mk _ asks' _ _ => exact (within (inside.tail asks')).1

end Moment

end PhiCalculus
