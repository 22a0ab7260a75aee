import PhiCalculus.Proofs.Signals

/-!
# Requests that a run reaches

What is made of requests makes them one after the other.  Where its outcome differs with other
answers, it reaches a request that is answered otherwise (`Stepwise.reaches_or_same`), and it
depends on that request (`Reaches.dependsOn`).

So there is a way to see that something happens inside a run: let the evaluation be cut short where
it would happen (`answerUntil`).  If the run then ends otherwise, it happens in the run
(`Call.exists_inside`).
-/

set_option autoImplicit false

namespace PhiCalculus

open PhiCalculus.Action

/-! ## Reaching a request -/

/-- The request is another one, or made elsewhere. -/
abbrev Elsewhere {β γ : Type} (q : Request β) (around : Frame) (t : State) (q' : Request γ)
    (around' : Frame) (t' : State) : Prop :=
  (⟨γ, q', around', t'⟩ : (γ : Type) × Request γ × Frame × State) ≠ ⟨β, q, around, t⟩

/-- The run is cut short where that request is cut short, if everything else is answered as it
is. -/
def Reaches {α β : Type} (x : Answerer → Action α) (ask : Answerer) (frame : Frame) (s : State)
    (q : Request β) (around : Frame) (t : State) : Prop :=
  ∀ ask' : Answerer,
    (∀ {γ : Type} (q' : Request γ) around' t', Elsewhere q around t q' around' t' →
      ask' q' around' t' = ask q' around' t') →
    ∀ u, ask' q around t = @Outcome.unfinished β u → x ask' frame s = @Outcome.unfinished α u

/-- Where the outcome differs with other answers, a request is reached that is answered
otherwise. -/
def ReachesOrSame {α : Type} (x : Answerer → Action α) (ask ask' : Answerer) (frame : Frame)
    (s : State) : Prop :=
  x ask' frame s = x ask frame s ∨
    ∃ (β : Type) (q : Request β) (around : Frame) (t : State),
      Reaches x ask frame s q around t ∧ ask' q around t ≠ ask q around t

variable {α β : Type} {frame around : Frame} {s t : State} {ask ask' : Answerer}

/-- The run depends on a request that it reaches. -/
theorem Reaches.dependsOn {x : Answerer → Action α} {q : Request β}
    (reaches : Reaches x ask frame s q around t) : DependsOn x ask frame s q around t := by
  classical
  -- cut the request short in a state in which the run does not end
  let o := x ask frame s
  let u : State := { o.state with trace := "" :: o.state.trace }
  let ask' : Answerer := fun {γ} q' around' t' =>
    if Elsewhere q around t q' around' t' then ask q' around' t' else @Outcome.unfinished γ u
  have same {γ : Type} (q' : Request γ) (around' : Frame) (t' : State)
      (elsewhere : Elsewhere q around t q' around' t') :
      ask' q' around' t' = ask q' around' t' := if_pos elsewhere
  refine ⟨ask', same, fun agrees => ?_⟩
  have short := reaches ask' same u (if_neg (not_not_intro rfl))
  have ended : o.state.trace = "" :: o.state.trace :=
    congrArg (fun o : Outcome α => o.state.trace) (agrees.symm.trans short)
  exact absurd (congrArg List.length ended) (by simp)

/-- What goes on alike after a first part that is cut short is cut short. -/
theorem ReachesOrSame.bind {x : Answerer → Action α} {f : α → Answerer → Action β}
    (first : ∀ ask', ReachesOrSame x ask ask' frame s)
    (rest : ∀ a t ask', ReachesOrSame (f a) ask ask' frame t) :
    ReachesOrSame (fun ask => x @ask >>= fun a => f a @ask) ask ask' frame s := by
  rcases first ask' with same | ⟨γ, q, around, u, reaches, differs⟩
  · cases ending : x ask frame s with
    | answer a t =>
        rcases rest a t ask' with same' | ⟨γ, q, around, u, reaches, differs⟩
        · exact .inl (((bind_of_answer (same.trans ending) _).trans same').trans
            (bind_of_answer ending _).symm)
        · refine .inr ⟨γ, q, around, u, fun ask'' agrees v short => ?_, differs⟩
          rcases first ask'' with same'' | ⟨δ, q', around', u', reaches', differs'⟩
          · exact (bind_of_answer (same''.trans ending) _).trans (reaches ask'' agrees v short)
          · -- the first part can only have reached the request itself
            have here : ¬ Elsewhere q around u q' around' u' := fun elsewhere =>
              differs' (agrees q' around' u' elsewhere)
            cases not_not.mp here
            exact bind_of_unfinished (reaches' ask'' agrees v short) _
    | failure f t =>
        exact .inl ((bind_of_failure (same.trans ending) _).trans (bind_of_failure ending _).symm)
    | unfinished =>
        exact .inl ((bind_of_unfinished (same.trans ending) _).trans
          (bind_of_unfinished ending _).symm)
  · refine .inr ⟨γ, q, around, u, fun ask'' agrees v short => ?_, differs⟩
    exact bind_of_unfinished (reaches ask'' agrees v short) _

theorem ReachesOrSame.observe {x : Answerer → Action α} (h : ReachesOrSame x ask ask' frame s) :
    ReachesOrSame (fun ask => Action.observe (x @ask)) ask ask' frame s := by
  rcases h with same | ⟨γ, q, around, u, reaches, differs⟩
  · refine .inl ?_
    show Action.observe (x ask') frame s = Action.observe (x ask) frame s
    rw [Action.observe, Action.observe, same]
  · refine .inr ⟨γ, q, around, u, fun ask'' agrees v short => ?_, differs⟩
    exact observe_of_unfinished (reaches ask'' agrees v short)

/-- **What is made of requests ends the same, or reaches one that is answered otherwise.** -/
theorem Stepwise.reaches_or_same {R : State → State → Prop} {catching : Prop}
    {x : Answerer → Action α} (h : Stepwise R catching x) (ask : Answerer) (frame : Frame)
    (s : State) (ask' : Answerer) : ReachesOrSame x ask ask' frame s := by
  induction h generalizing ask' frame s with
  | base part =>
      cases part with
      | request q =>
          by_cases same : ask' q frame s = ask q frame s
          · exact .inl same
          · exact .inr ⟨_, q, frame, s, fun _ _ _ short => short, same⟩
      | change _ => exact .inl rfl
  | bind _ _ first rest => exact .bind (first frame s) fun a t => rest a frame t
  | hold refs _ ih => exact ih _ s ask'
  | deeper _ ih => exact ih _ s ask'
  | recover _ _ _ first rest =>
      exact .bind (fun ask' => (first frame s ask').observe) fun e t => rest e frame t

/-! ## Looking into runs -/

/-- Whether it was cut short. -/
def Outcome.isUnfinished {α : Type} : Outcome α → Bool
  | unfinished => true
  | _ => false

/-- Answers as the evaluator does, but is cut short at the requests that are marked. -/
def answerUntil (marked : {α : Type} → Request α → Frame → State → Bool) :
    Nat → {α : Type} → Request α → Action α
  | 0, _, _ => fun _ s => @Outcome.unfinished _ s
  | steps + 1, _, request => fun frame s =>
    if marked request frame s then @Outcome.unfinished _ s
    else answer (answerUntil marked steps) request frame s

section

variable {marked : {α : Type} → Request α → Frame → State → Bool}

/-- Inside of the call a marked request is answered. -/
def Call.Meets (marked : {α : Type} → Request α → Frame → State → Bool) (c : Call) : Prop :=
  ∃ (α : Type) (q : Request α) (steps : Nat) (frame : Frame) (s : State),
    c.Inside ⟨.request q, steps, frame, s⟩ ∧ marked q frame s = true

theorem Call.Meets.of_makes {c d : Call} (makes : c.Makes d) (meets : d.Meets marked) :
    c.Meets marked := by
  obtain ⟨α, q, steps, frame, s, inside, mark⟩ := meets
  exact ⟨α, q, steps, frame, s, .head makes inside, mark⟩

/-- The call ends as if it were not cut short at marked requests. -/
def Call.Unmarked (marked : {α : Type} → Request α → Frame → State → Bool) (c : Call) : Prop :=
  c.activity.run (answerUntil marked c.steps) c.frame c.state = c.outcome

/-- What is no attempt meets what the requests meet that it reaches. -/
theorem Call.unmarked_or_meets_of_requests {c : Call} (other : c.activity.attempt? = none)
    (requests : ∀ {β : Type} (q : Request β) steps around t, c.steps = steps + 1 →
      Call.Unmarked marked ⟨.request q, steps, around, t⟩ ∨
        Call.Meets marked ⟨.request q, steps, around, t⟩) :
    c.Unmarked marked ∨ c.Meets marked := by
  obtain ⟨a, steps, frame, s⟩ := c
  rcases (a.stepwise other).reaches_or_same (answerWithin steps) frame s
    (answerUntil marked steps) with same | ⟨β, q, around, t, reaches, differs⟩
  · exact .inl same
  · cases steps with
    | zero => exact absurd rfl differs
    | succ steps =>
        have makes : Call.Makes ⟨a, steps + 1, frame, s⟩ ⟨.request q, steps, around, t⟩ :=
          .request other reaches.dependsOn
        cases mark : marked q around t with
        | true => exact .inr ⟨β, q, steps, around, t, .single makes, mark⟩
        | false =>
            have asked : answerUntil marked (steps + 1) q around t =
                answer (answerUntil marked steps) q around t := if_neg (by simp [mark])
            rcases requests q steps around t rfl with unmarked | meets
            · exact absurd (asked.trans unmarked) differs
            · exact .inr (meets.of_makes makes)

/-- An attempt meets what its parts meet. -/
theorem Call.unmarked_or_meets_of_parts {r : Ref} {steps : Nat} {frame : Frame} {s : State}
    (parts : ∀ c : Call, c.steps = steps → c.activity.attempt? = none →
      c.Unmarked marked ∨ c.Meets marked) :
    (Call.attempt r steps frame s).Unmarked marked ∨
      (Call.attempt r steps frame s).Meets marked := by
  rcases parts (Call.mainPart r steps frame s) rfl rfl with mainSame | meets
  swap
  · exact .inr (meets.of_makes .main)
  have mainSame : runMain (answerUntil marked steps) r (frame.holding [r]) s =
      runMain (answerWithin steps) r (frame.holding [r]) s := mainSame
  show PhiCalculus.attempt (answerUntil marked steps) r (frame.holding [r]) s =
    PhiCalculus.attempt (answerWithin steps) r (frame.holding [r]) s ∨ _
  rw [PhiCalculus.attempt, PhiCalculus.attempt, bind_apply, bind_apply, Action.observe,
    Action.observe, mainSame]
  -- what follows the main part, which ends in `main`
  suffices rest : ∀ main t, (runMain (answerWithin steps) r).Ends (frame.holding [r]) s main t →
      (handle (answerUntil marked steps) r main >>= concludeAttempt (answerUntil marked steps) r)
          (frame.holding [r]) t =
        (handle (answerWithin steps) r main >>= concludeAttempt (answerWithin steps) r)
          (frame.holding [r]) t ∨ (Call.attempt r steps frame s).Meets marked by
    cases ending : runMain (answerWithin steps) r (frame.holding [r]) s with
    | answer v t => exact rest (.ok v) t ending
    | failure f t => exact rest (.error f) t ending
    | unfinished => exact .inl rfl
  intro main t mainEnds
  -- what follows the handler, which leaves `outcome`
  have final (outcome : Except Failure Value) (u : State)
      (handled : (handle (answerWithin steps) r main).Ends (frame.holding [r]) t (.ok outcome) u) :
      concludeAttempt (answerUntil marked steps) r outcome (frame.holding [r]) u =
        concludeAttempt (answerWithin steps) r outcome (frame.holding [r]) u ∨
          (Call.attempt r steps frame s).Meets marked := by
    rcases parts ⟨.final r, steps, (frame.holding [r]).holding (outcomeRefs outcome), u⟩ rfl rfl
      with same | meets
    · refine .inl ?_
      have same : hold (outcomeRefs outcome) (runFinally (answerUntil marked steps) r)
          (frame.holding [r]) u = hold (outcomeRefs outcome) (runFinally (answerWithin steps) r)
            (frame.holding [r]) u := same
      rw [concludeAttempt, concludeAttempt, bind_apply, bind_apply, same]
    · exact .inr (meets.of_makes (.final mainEnds handled))
  by_cases aimed : ∃ payload, main = .error (.raise (t.heap.vertex r) payload)
  · obtain ⟨payload, rfl⟩ := aimed
    rcases parts ⟨.handler r payload, steps, frame.holding [r], t⟩ rfl rfl with same | meets
    swap
    · exact .inr (meets.of_makes (.handler mainEnds))
    have same : runCatch (answerUntil marked steps) r payload (frame.holding [r]) t =
        runCatch (answerWithin steps) r payload (frame.holding [r]) t := same
    rw [bind_apply, bind_apply, handle_aimed, handle_aimed, Action.observe, Action.observe, same]
    have handled {outcome : Except Failure Value} {u : State}
        (ending : (runCatch (answerWithin steps) r payload).Ends (frame.holding [r]) t outcome u) :
        (handle (answerWithin steps) r (.error (.raise (t.heap.vertex r) payload))).Ends
          (frame.holding [r]) t (.ok outcome) u :=
      (handle_aimed payload).trans (ends_observe.mpr ⟨outcome, rfl, ending⟩)
    cases ending : runCatch (answerWithin steps) r payload (frame.holding [r]) t with
    | answer v u => exact final (.ok v) u (handled ending)
    | failure f u => exact final (.error f) u (handled ending)
    | unfinished => exact .inl rfl
  · have other : ∀ payload, main ≠ .error (.raise (t.heap.vertex r) payload) :=
      fun payload same => aimed ⟨payload, same⟩
    rw [bind_of_answer (handle_other other), bind_of_answer (handle_other other)]
    exact final main t (handle_other other)

/-- **A call that would be cut short at marked requests meets one.** -/
theorem Call.unmarked_or_meets (c : Call) : c.Unmarked marked ∨ c.Meets marked := by
  obtain @⟨α, a, steps, frame, s⟩ := c
  induction steps using Nat.strongRecOn generalizing α a frame s with
  | ind steps ih =>
      have parts (c : Call) (here : c.steps = steps) (other : c.activity.attempt? = none) :
          c.Unmarked marked ∨ c.Meets marked := by
        refine Call.unmarked_or_meets_of_requests other fun q fewer around t same => ?_
        exact ih fewer (by omega) (.request q) around t
      cases isAttempt : a.attempt? with
      | none => exact parts ⟨a, steps, frame, s⟩ rfl isAttempt
      | some r =>
          cases a with
          | request q =>
              cases q with
              | eval e self =>
                  cases e with
                  | native n =>
                      cases n with
                      | attempt => exact Call.unmarked_or_meets_of_parts parts
                      | _ => cases isAttempt
                  | _ => cases isAttempt
              | _ => cases isAttempt
          | _ => cases isAttempt

end

end PhiCalculus
