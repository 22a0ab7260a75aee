import Mathlib.Logic.Relation
import PhiCalculus.Proofs.Attempts
import PhiCalculus.Proofs.Operations

/-!
# Where raises end

A raise names the attempt that it is aimed at and carries an object.  It is made when what an object
that raises decorates is evaluated (`Heap.Raiser`); the main part of an attempt is given one
(`Heap.Raiser.of_attempt`).  From there it leaves, one after the other, the calls that are in
progress: requests that are being answered, the parts of attempts, and at last the operation that
the run consists of (`Call`).

A call makes another if its outcome depends on how that one ends, and an attempt makes the calls of
its parts (`Call.Makes`).  A raise comes out of a call unchanged if it comes out of the call that it
makes and that ends in the raise (`Call.Carries`), except in an attempt: there it may be handled,
if it came out of the main part and is aimed at the attempt, or its place is taken by the failure of
the final part (`Call.Stops`).

That this is all that can become of a raise is shown for one call (`Call.Makes.carries`), from the
fact that nothing but attempts looks at raises (`Stepwise.passes`), and then by induction on the
calls in progress (`raise_carried_or_stopped`).
-/

set_option autoImplicit false

namespace PhiCalculus

open PhiCalculus.Action

/-! ## Objects that raise -/

/-- The object raises what is put into it, aimed at the target. -/
structure Heap.Raiser (h : Heap) (target r : Ref) : Prop where
  home : (h.cell r).home? = some target
  decorates : h.slot? r phi = some (.composite (.native .signal))
  argument : ∃ content, h.slot? r "ex" = some (.free content)

namespace Heap.Raiser

variable {target r : Ref} {s t : State}

/-- The object given to the main part of an attempt raises, aimed at the attempt. -/
theorem of_attempt (s : State) (attempt : Ref) :
    (s.raiser attempt).2.heap.Raiser attempt (s.raiser attempt).1 := by
  have made : (s.raiser attempt).2.heap.cell (s.raiser attempt).1 =
      ⟨s.registry.next.1, .table (signalTable attempt)⟩ := s.heap.cell_alloc_self _
  constructor
  · rw [made]
    rfl
  · rw [Heap.slot?, made]
    rfl
  · refine ⟨none, ?_⟩
    rw [Heap.slot?, made]
    rfl

/-- An object that raises does so in any later heap. -/
theorem grows {h h' : Heap} (raiser : h.Raiser target r) (grown : h.Grows h') :
    h'.Raiser target r := by
  have old : r.index < h.size := Heap.lt_size_of_slot? raiser.decorates
  obtain ⟨content, held⟩ := raiser.argument
  obtain ⟨content', held', _⟩ := grown.free held
  exact ⟨(grown.cell r old).home?.trans raiser.home, grown.composite raiser.decorates,
    content', held'⟩

/-- A copy raises as the object that it is a copy of. -/
theorem copyTable {table : Table} (raiser : s.heap.Raiser target r)
    (kind : (s.heap.cell r).kind = .table table) :
    (s.copyTable table).2.heap.Raiser target (s.copyTable table).1 := by
  have made : (s.copyTable table).2.heap.cell (s.copyTable table).1 =
      ⟨s.registry.next.1, .table { table with owner := none, slots := table.slots.copy }⟩ :=
    s.heap.cell_alloc_self _
  have slots : (s.heap.cell r).slots = table.slots := by rw [Cell.slots, kind]
  have slot (name : String) : (s.copyTable table).2.heap.slot? (s.copyTable table).1 name =
      (s.heap.slot? r name).map Slot.copy := by
    rw [Heap.slot?, made, Heap.slot?, slots]
    exact Slots.find?_copy table.slots name
  constructor
  · rw [made]
    have home := raiser.home
    rw [Cell.home?, kind] at home
    exact home
  · rw [slot, raiser.decorates]
    rfl
  · obtain ⟨content, held⟩ := raiser.argument
    exact ⟨content, by rw [slot, held]; rfl⟩

/-- The copy of an object that raises, made through any views of it, raises in the same way. -/
theorem of_copyOf (raiser : s.heap.Raiser target r) {steps : Nat} {frame : Frame} {base c : Ref}
    {s₀ : State} (settled : settle (answerWithin steps) base frame s₀ = .answer r s)
    (h : copyOf (answerWithin steps) base frame s₀ = .answer c t) : t.heap.Raiser target c := by
  obtain ⟨table, kind, _⟩ := table_of_slot? raiser.decorates
  have copied := (bind_of_answer settled _).symm.trans h
  rw [hold_apply] at copied
  cases (copyConcrete_table kind).symm.trans copied
  exact raiser.copyTable kind

/-- So does what a binding of it derives. -/
theorem of_bindTo (raiser : s.heap.Raiser target r) {steps : Nat} {frame : Frame} {base c : Ref}
    {key : Key} {value : Ref} {s₀ : State}
    (settled : settle (answerWithin steps) base frame s₀ = .answer r s)
    (h : bindTo (answerWithin steps) base key value frame s₀ = .answer c t) :
    t.heap.Raiser target c := by
  obtain ⟨table, kind, _⟩ := table_of_slot? raiser.decorates
  have derived := (bind_of_answer settled _).symm.trans h
  rw [hold_apply] at derived
  obtain ⟨copy, u, copied, rest⟩ := bind_eq_answer.mp derived
  have copyRaises := raiser.of_copyOf (settle_of_concrete (isView_of_table kind)) copied
  rw [hold_apply] at rest
  obtain ⟨owner, w, owned, rest⟩ := bind_eq_answer.mp rest
  have looked := grows_of_answer ((straight_ownerOf r).stepwise.mono State.Creates.changes) owned
  have copyRaises := copyRaises.grows looked
  have written {around : Frame} {w : State} (raises : w.heap.Raiser target copy)
      (ends : (placeOf (answerWithin steps) copy key >>= fun place =>
        write (answerWithin steps) place value >>= fun _ => pure copy) around w = .answer c t) :
      t.heap.Raiser target c := by
    obtain ⟨place, w₁, placed, ends⟩ := bind_eq_answer.mp ends
    obtain ⟨_, w₂, wrote, ends⟩ := bind_eq_answer.mp ends
    have found := grows_of_answer
      ((straight_placeOf copy key).stepwise.mono State.Creates.changes) placed
    have grown := grows_of_answer
      ((straight_write place value).stepwise.mono State.Edits.changes) wrote
    cases ends
    exact (raises.grows found).grows grown
  cases owner with
  | none => exact written copyRaises rest
  | some owner =>
      obtain ⟨_, w₁, moved, rest⟩ := bind_eq_answer.mp rest
      have grown := grows_of_answer
        ((straight_moveTo copy owner).stepwise.mono State.Edits.changes) moved
      exact written (copyRaises.grows grown) rest

/-- The raise is aimed at the home of the object and carries what was put into it. -/
theorem evaluates (raiser : s.heap.Raiser target r) {steps : Nat} {frame : Frame} {v : Vertex}
    {p : Ref} (h : answer (answerWithin steps) (.eval (.native .signal) r) frame s =
      .failure (.raise v p) t) :
    v = s.heap.vertex target ∧ s.heap.slot? r "ex" = some (.free (some p)) ∧ t = s := by
  obtain ⟨table, kind, _⟩ := table_of_slot? raiser.decorates
  obtain ⟨content, held⟩ := raiser.argument
  change signal (answerWithin steps) r (frame.holding [r]) s = _ at h
  cases steps with
  | zero => cases h
  | succ steps =>
      have look : answerWithin (steps + 1) (.find r sigma) (frame.holding [r]) s =
          findHome r ((frame.holding [r]).holding [r]) s := by
        show findPlace (answerWithin steps) r sigma ((frame.holding [r]).holding [r]) s = _
        rw [findPlace, bind_of_answer (cell_apply r _ s), kind]
        rfl
      have found : findHome r ((frame.holding [r]).holding [r]) s =
          .answer (.fixed r sigma target) s ∨
            findHome r ((frame.holding [r]).holding [r]) s =
              .failure (.homeGone (s.heap.subject r)) s := by
        rw [findHome, bind_of_answer (frame_apply _ s), bind_of_answer (cell_apply r _ s),
          raiser.home]
        show (asks (fun u => u.home? _ r) >>= _) _ s = _ ∨
          (asks (fun u => u.home? _ r) >>= _) _ s = _
        rw [bind_of_answer (asks_apply _ _ s), State.home?, raiser.home]
        dsimp only
        split
        · exact .inl rfl
        · exact .inr rfl
      rcases found with found | gone
      · rw [signal, bind_of_answer (look.trans found)] at h
        rw [bind_of_answer (show answerWithin (steps + 1) (.read (.fixed r sigma target)) _ s =
          .answer target s from rfl), hold_apply,
          bind_of_answer (find_declared held (by decide) steps)] at h
        cases content with
        | none =>
            rw [bind_of_failure (read_empty held steps)] at h
            cases h
        | some payload =>
            rw [bind_of_answer (read_bound held steps)] at h
            cases h
            exact ⟨rfl, held, rfl⟩
      · rw [signal, bind_of_failure (look.trans gone)] at h
        cases h

end Heap.Raiser

/-! ## Calls -/

/-- What is done in a run: an operation, the answer to a request, or a part of an attempt. -/
inductive Activity : Type → Type 1 where
  | operation {α : Type} (op : Operation α) : Activity α
  | request {α : Type} (q : Request α) : Activity α
  | main (attempt : Ref) : Activity Value
  | handler (attempt payload : Ref) : Activity Value
  | final (attempt : Ref) : Activity Unit

namespace Activity

variable {α : Type}

/-- What is done by means of answers to requests. -/
def run (ask : Answerer) : Activity α → Action α
  | operation op => op.run ask
  | request q => answer ask q
  | main attempt => runMain ask attempt
  | handler attempt payload => runCatch ask attempt payload
  | final attempt => runFinally ask attempt

/-- The attempt that is evaluated, if this is its evaluation. -/
def attempt? : Activity α → Option Ref
  | request (.eval (.native .attempt) r) => some r
  | _ => none

/-- The attempt whose main part this is. -/
def main? : Activity α → Option Ref
  | main attempt => some attempt
  | _ => none

/-- Whatever is done, except for evaluating an attempt, lets raises pass. -/
theorem stepwise (a : Activity α) (other : a.attempt? = none) :
    Stepwise State.Changes False fun ask => a.run ask := by
  cases a with
  | operation op => exact op.stepwise
  | request q =>
      cases q with
      | find r name =>
          exact .hold [r] ((straight_findPlace r name).stepwise.mono State.Creates.changes)
      | read p => exact .hold p.refs ((straight_readPlace p).stepwise.mono State.Fills.changes)
      | resolve r => exact .hold [r] (straight_resolveView r).stepwise
      | dataize r => exact .hold [r] ((stepwise_dataizeObject r).mono State.Creates.changes)
      | eval e self =>
          have noAttempt : e ≠ .native .attempt := by
            rintro rfl
            cases other
          have goesOn := (straight_evalExpr self noAttempt).mono State.Creates.changes
          exact .hold [self] goesOn.stepwise
  | main attempt => exact (performs_runMain attempt).stepwise
  | handler attempt payload => exact (performs_runCatch attempt payload).stepwise
  | final attempt => exact (performs_runFinally attempt).stepwise

end Activity

/-- Something done in a run: with how many steps that may nest, in which surroundings, and from
which state. -/
structure Call where
  {α : Type}
  activity : Activity α
  steps : Nat
  frame : Frame
  state : State

namespace Call

/-- How the call ends. -/
def outcome (c : Call) : Outcome c.α := c.activity.run (answerWithin c.steps) c.frame c.state

/-- The evaluation of what an attempt decorates. -/
def attempt (r : Ref) (steps : Nat) (frame : Frame) (s : State) : Call :=
  ⟨.request (.eval (.native .attempt) r), steps, frame, s⟩

/-- The main part of that evaluation. -/
def mainPart (r : Ref) (steps : Nat) (frame : Frame) (s : State) : Call :=
  ⟨.main r, steps, frame.holding [r], s⟩

/-- The evaluation of what an object that raises decorates. -/
def signal (r : Ref) (steps : Nat) (frame : Frame) (s : State) : Call :=
  ⟨.request (.eval (.native .signal) r), steps, frame, s⟩

/-- The call ends in a raise with that target and that payload. -/
def Raises (v : Vertex) (p : Ref) (c : Call) : Prop := ∃ t, c.outcome = .failure (.raise v p) t

end Call

/-- The run depends on how that request ends, made in those surroundings and that state: if it
ended in another way, and nothing else did, the outcome could be another.  What is made of the
answer does not matter for this, since a run is cut short where a request is. -/
def DependsOn {α β : Type} (x : Answerer → Action α) (ask : Answerer) (frame : Frame) (s : State)
    (q : Request β) (around : Frame) (t : State) : Prop :=
  ∃ ask' : Answerer,
    (∀ {γ : Type} (q' : Request γ) around' t',
      (⟨γ, q', around', t'⟩ : (γ : Type) × Request γ × Frame × State) ≠ ⟨β, q, around, t⟩ →
        ask' q' around' t' = ask q' around' t') ∧
      x ask' frame s ≠ x ask frame s

/-- The second call is in progress while the first one is, and right inside it. -/
inductive Call.Makes : Call → Call → Prop where
  /-- Whatever is no attempt makes the requests that it depends on. -/
  | request {α β : Type} {a : Activity α} {steps : Nat} {frame around : Frame} {s t : State}
      {q : Request β} : a.attempt? = none →
        DependsOn (fun ask => a.run ask) (answerWithin (steps + 1)) frame s q around t →
          Makes ⟨a, steps + 1, frame, s⟩ ⟨.request q, steps, around, t⟩
  | main {r : Ref} {steps : Nat} {frame : Frame} {s : State} :
      Makes (.attempt r steps frame s) (.mainPart r steps frame s)
  | handler {r payload : Ref} {steps : Nat} {frame : Frame} {s t : State} :
      (Call.mainPart r steps frame s).outcome =
          .failure (.raise (t.heap.vertex r) payload) t →
        Makes (.attempt r steps frame s) ⟨.handler r payload, steps, frame.holding [r], t⟩
  | final {r : Ref} {steps : Nat} {frame : Frame} {s s₁ s₂ : State}
      {main outcome : Except Failure Value} :
      (runMain (answerWithin steps) r).Ends (frame.holding [r]) s main s₁ →
        (handle (answerWithin steps) r main).Ends (frame.holding [r]) s₁ (.ok outcome) s₂ →
          Makes (.attempt r steps frame s)
            ⟨.final r, steps, (frame.holding [r]).holding (outcomeRefs outcome), s₂⟩

/-- The second call is in progress while the first one is. -/
abbrev Call.Inside : Call → Call → Prop := Relation.ReflTransGen Call.Makes

/-- A raise at the target may come out of the call: it is not the main part of an attempt that is
the target. -/
def Call.LetsOut (v : Vertex) (c : Call) : Prop :=
  ∀ r, c.activity.main? = some r → c.outcome.state.heap.vertex r ≠ v

/-- The raise in which the last call ends comes out of the first one, and of every call between
them.  It comes out of the main part of no attempt that it is aimed at. -/
inductive Call.Carries (v : Vertex) (p : Ref) : Call → Call → Prop where
  | here {d : Call} : d.Raises v p → Carries v p d d
  | through {c c' d : Call} : c.Makes c' → c.Raises v p → c'.LetsOut v →
      Carries v p c' d → Carries v p c d

/-- The raise that comes out of the second call ends in the first one, an attempt. -/
inductive Call.Stops (v : Vertex) (p : Ref) : Call → Call → Prop where
  /-- It came out of the main part and is aimed at the attempt.  The handler runs on the payload,
  from the state in which the main part ended. -/
  | caught {r : Ref} {steps : Nat} {frame : Frame} {s t : State} :
      t.heap.vertex r = v →
        (Call.mainPart r steps frame s).outcome = .failure (.raise v p) t →
          (Call.attempt r steps frame s).outcome =
              (observe (runCatch (answerWithin steps) r p) >>=
                concludeAttempt (answerWithin steps) r) (frame.holding [r]) t →
            Stops v p (.attempt r steps frame s) (.mainPart r steps frame s)
  /-- The final part of the attempt fails, and its failure is what the attempt ends in. -/
  | replaced {r : Ref} {steps : Nat} {frame around : Frame} {s t u : State} {c' : Call}
      {f : Failure} : Call.Makes (.attempt r steps frame s) c' → c'.LetsOut v →
        Call.Makes (.attempt r steps frame s) ⟨.final r, steps, around, t⟩ →
          Call.outcome ⟨.final r, steps, around, t⟩ = .failure f u →
            (Call.attempt r steps frame s).outcome = .failure f u →
              Stops v p (.attempt r steps frame s) c'
  /-- The final part does not end within the steps allowed, and so the attempt does not. -/
  | unfinished {r : Ref} {steps : Nat} {frame around : Frame} {s t u : State} {c' : Call} :
      Call.Makes (.attempt r steps frame s) c' → c'.LetsOut v →
        Call.Makes (.attempt r steps frame s) ⟨.final r, steps, around, t⟩ →
          Call.outcome ⟨.final r, steps, around, t⟩ = @Outcome.unfinished Unit u →
            (Call.attempt r steps frame s).outcome = @Outcome.unfinished Ref u →
              Stops v p (.attempt r steps frame s) c'

/-! ## One call -/

section

variable {v : Vertex} {p r : Ref} {steps : Nat} {frame : Frame} {s s₁ s₂ : State}

/-- After its main part and the handler an attempt is left with its final part. -/
theorem attempt_of_handled {ask : Answerer} {main outcome : Except Failure Value}
    (mainEnds : (runMain ask r).Ends frame s main s₁)
    (handled : (handle ask r main).Ends frame s₁ (.ok outcome) s₂) :
    attempt ask r frame s = concludeAttempt ask r outcome frame s₂ := by
  have seen : observe (runMain ask r) frame s = .answer main s₁ :=
    ends_observe.mpr ⟨main, rfl, mainEnds⟩
  have passed : handle ask r main frame s₁ = .answer outcome s₂ := handled
  rw [attempt, bind_of_answer seen, bind_of_answer passed]
  rfl

/-- A raise that is left after the handler comes out of the attempt, unless the final part fails or
does not end. -/
theorem raises_or_stops {main : Except Failure Value}
    (mainEnds : (runMain (answerWithin steps) r).Ends (frame.holding [r]) s main s₁)
    (handled : (handle (answerWithin steps) r main).Ends (frame.holding [r]) s₁
      (.ok (.error (.raise v p))) s₂) {c' : Call}
    (makes : Call.Makes (.attempt r steps frame s) c') (letsOut : c'.LetsOut v) :
    (Call.attempt r steps frame s).Raises v p ∨ Call.Stops v p (.attempt r steps frame s) c' := by
  have whole : (Call.attempt r steps frame s).outcome =
      concludeAttempt (answerWithin steps) r (.error (.raise v p)) (frame.holding [r]) s₂ :=
    attempt_of_handled mainEnds handled
  have final : Call.Makes (.attempt r steps frame s)
      ⟨.final r, steps, (frame.holding [r]).holding [p], s₂⟩ := .final mainEnds handled
  have last : hold [p] (runFinally (answerWithin steps) r) (frame.holding [r]) s₂ =
      Call.outcome ⟨.final r, steps, (frame.holding [r]).holding [p], s₂⟩ := rfl
  cases ending : Call.outcome ⟨.final r, steps, (frame.holding [r]).holding [p], s₂⟩ with
  | answer a u => exact .inl ⟨u, whole.trans (bind_of_answer (last.trans ending) _)⟩
  | failure f u =>
      have fails := whole.trans (bind_of_failure (last.trans ending) _)
      exact .inr (.replaced makes letsOut final ending fails)
  | @unfinished u =>
      have stops := whole.trans (bind_of_unfinished (last.trans ending) _)
      exact .inr (.unfinished makes letsOut final ending stops)

/-- Where the outcome depends on a request that ends in a raise, and nothing looks at raises, the
raise is the outcome. -/
theorem DependsOn.passes {α β : Type} {x : Answerer → Action α}
    (h : Stepwise State.Changes False x) {ask : Answerer} {q : Request β} {around : Frame}
    {t u : State} (depends : DependsOn x ask frame s q around t)
    (raised : ask q around t = .failure (.raise v p) u) :
    x ask frame s = .failure (.raise v p) u := by
  obtain ⟨ask', same, differs⟩ := depends
  have agree : ask.AgreesUnless ask' (.raise v p) u := by
    intro γ q' around' t'
    by_cases here : (⟨γ, q', around', t'⟩ : (γ : Type) × Request γ × Frame × State) =
        ⟨β, q, around, t⟩
    · cases here
      exact .inr raised
    · exact .inl (same q' around' t' here)
  exact (h.passes rfl agree frame s).resolve_left differs

/-- **What becomes of a raise in the call that it comes out to.**  It comes out of that call as
well, with the same target and the same payload, and not out of the main part of an attempt that it
is aimed at; or it ends in that call, which is an attempt. -/
theorem Call.Makes.carries {c c' : Call} (makes : c.Makes c') (raised : c'.Raises v p) :
    (c.Raises v p ∧ c'.LetsOut v) ∨ c.Stops v p c' := by
  obtain ⟨t, ending⟩ := raised
  cases makes with
  | @request α β a steps frame around s u q other depends =>
      have letsOut : Call.LetsOut v ⟨.request q, steps, around, u⟩ :=
        fun r isMain => by cases isMain
      exact .inl ⟨⟨t, depends.passes (a.stepwise other) ending⟩, letsOut⟩
  | @main r steps frame s =>
      have mainEnds : (runMain (answerWithin steps) r).Ends (frame.holding [r]) s
          (.error (.raise v p)) t := ending
      by_cases aimed : t.heap.vertex r = v
      · subst aimed
        refine .inr (.caught rfl ending ?_)
        refine (bind_of_answer (observe_of_failure mainEnds) _).trans ?_
        show (handle (answerWithin steps) r (.error (.raise (t.heap.vertex r) p)) >>=
          concludeAttempt (answerWithin steps) r) (frame.holding [r]) t = _
        rw [bind_apply, handle_aimed, bind_apply]
      · have letsOut : (Call.mainPart r steps frame s).LetsOut v := by
          intro r' isMain
          cases isMain
          rw [ending]
          exact aimed
        have other : ∀ payload, (.error (.raise v p) : Except Failure Value) ≠
            .error (.raise (t.heap.vertex r) payload) := by
          intro payload same
          cases same
          exact aimed rfl
        have passed : (handle (answerWithin steps) r (.error (.raise v p))).Ends
            (frame.holding [r]) t (.ok (.error (.raise v p))) t := handle_other other
        rcases raises_or_stops mainEnds passed .main letsOut with raises | stops
        · exact .inl ⟨raises, letsOut⟩
        · exact .inr stops
  | @handler r payload steps frame s u mainRaised =>
      have letsOut : Call.LetsOut v ⟨.handler r payload, steps, frame.holding [r], u⟩ :=
        fun r' isMain => by cases isMain
      have mainEnds : (runMain (answerWithin steps) r).Ends (frame.holding [r]) s
          (.error (.raise (u.heap.vertex r) payload)) u := mainRaised
      have handled : (handle (answerWithin steps) r
          (.error (.raise (u.heap.vertex r) payload))).Ends (frame.holding [r]) u
            (.ok (.error (.raise v p))) t :=
        (handle_aimed payload).trans (observe_of_failure ending)
      rcases raises_or_stops mainEnds handled (.handler mainRaised) letsOut with raises | stops
      · exact .inl ⟨raises, letsOut⟩
      · exact .inr stops
  | @final r steps frame s s₁ s₂ main outcome mainEnds handled =>
      have last : hold (outcomeRefs outcome) (runFinally (answerWithin steps) r)
          (frame.holding [r]) s₂ = .failure (.raise v p) t := ending
      have whole : (Call.attempt r steps frame s).outcome = .failure (.raise v p) t :=
        (attempt_of_handled mainEnds handled).trans (bind_of_failure last _)
      exact .inl ⟨⟨t, whole⟩, fun r' isMain => by cases isMain⟩

/-! ## All calls in progress -/

/-- What becomes of the raise in which the second call ends, as far as the first one: it comes out
of it, or it ends in an attempt between the two. -/
def Call.Fate (v : Vertex) (p : Ref) (c d : Call) : Prop :=
  Call.Carries v p c d ∨
    ∃ e e' : Call, c.Inside e ∧ e.Makes e' ∧ Call.Carries v p e' d ∧ Call.Stops v p e e'

theorem Call.Carries.raises {c d : Call} (h : Call.Carries v p c d) : c.Raises v p := by
  cases h with
  | here raises => exact raises
  | through _ raises _ _ => exact raises

/-- A raise comes out of all calls in progress, or ends in one of them. -/
theorem raise_carried_or_stopped {c d : Call} (inside : c.Inside d) (raised : d.Raises v p) :
    Call.Fate v p c d := by
  induction inside using Relation.ReflTransGen.head_induction_on with
  | refl => exact .inl (.here raised)
  | @head c c' makes rest ih =>
      rcases ih with carries | ⟨e, e', between, makes', carries, stops⟩
      · rcases makes.carries carries.raises with ⟨raises, passed⟩ | stops
        · exact .inl (.through makes raises passed carries)
        · exact .inr ⟨c, c', .refl, makes, carries, stops⟩
      · exact .inr ⟨e, e', .head makes between, makes', carries, stops⟩

end

/-! ## Raises of objects that raise -/

/-- **Raises reach the attempt that they are aimed at.**  Take an object that raises, aimed at some
attempt.  Its copies and what bindings of it derive, also through views of it, raise in the same
way.  Whenever what it decorates is evaluated, inside of any calls in progress, and this ends in a
raise, then the raise is aimed at that attempt and carries what was put into the object.  From then
on the raise comes out of every call unchanged, as far as the operation that the run consists of; or
it comes out so as far as the main part of the attempt that it is aimed at, the innermost one in
progress, whose handler then runs on the payload; or the final part of an attempt on the way fails,
and its failure takes the place of the raise, or that part does not end. -/
theorem raises_reach_their_attempt {s : State} {target r : Ref}
    (raiser : s.heap.Raiser target r) :
    (∀ {steps frame base s₀}, settle (answerWithin steps) base frame s₀ = .answer r s →
      (∀ {c t}, copyOf (answerWithin steps) base frame s₀ = .answer c t →
          t.heap.Raiser target c) ∧
        ∀ {key value c t}, bindTo (answerWithin steps) base key value frame s₀ = .answer c t →
          t.heap.Raiser target c) ∧
      ∀ {c : Call} {steps frame}, c.Inside (.signal r steps frame s) →
        ∀ {v p t}, (Call.signal r steps frame s).outcome = .failure (.raise v p) t →
          v = s.heap.vertex target ∧ s.heap.slot? r "ex" = some (.free (some p)) ∧
            Call.Fate v p c (.signal r steps frame s) := by
  refine ⟨?_, ?_⟩
  · intro steps frame base s₀ settled
    exact ⟨raiser.of_copyOf settled, raiser.of_bindTo settled⟩
  · intro c steps frame inside v p t raised
    obtain ⟨aimed, carried, _⟩ := raiser.evaluates raised
    exact ⟨aimed, carried, raise_carried_or_stopped inside ⟨t, raised⟩⟩

/-- An action that goes over to a request depends on it, if the request fails. -/
theorem DependsOn.of_request {α : Type} {x : Answerer → Action α} {ask : Answerer} {frame : Frame}
    {s : State} {q : Request α} {around : Frame} {t u : State} {f : Failure}
    (goes : ∀ ask' : Answerer, x ask' frame s = ask' q around t)
    (fails : ask q around t = .failure f u) : DependsOn x ask frame s q around t := by
  classical
  let ask' : Answerer := fun {γ} q' around' t' =>
    if (⟨γ, q', around', t'⟩ : (γ : Type) × Request γ × Frame × State) = ⟨α, q, around, t⟩ then
      @Outcome.unfinished γ t'
    else ask q' around' t'
  refine ⟨ask', ?_, ?_⟩
  · intro γ q' around' t' elsewhere
    exact if_neg elsewhere
  · have stopped : ask' q around t = @Outcome.unfinished α t := if_pos rfl
    rw [goes ask', goes ask, stopped, fails]
    simp

/-- An object that raises, aimed at the prototype of attempts, with itself put into it. -/
def State.withRaiser : State :=
  (State.initial.alloc (.table { signalTable ⟨0⟩ with
    slots := [("ex", .free (some ⟨1⟩)), (phi, .composite (.native .signal))] })).2

/-- Reading what that object decorates raises it. -/
theorem read_raiser_raises :
    let read : Call := ⟨.operation (.get (.slot ⟨1⟩ phi)), 3, {}, State.withRaiser⟩
    Call.Fate ⟨1⟩ ⟨1⟩ read (.signal ⟨1⟩ 1 ⟨0, false, [⟨1⟩]⟩ State.withRaiser) := by
  intro read
  have raiser : State.withRaiser.heap.Raiser ⟨0⟩ ⟨1⟩ := ⟨rfl, rfl, _, rfl⟩
  have raised : (Call.signal ⟨1⟩ 1 ⟨0, false, [⟨1⟩]⟩ State.withRaiser).outcome =
      .failure (.raise ⟨1⟩ ⟨1⟩) State.withRaiser := rfl
  have inside : read.Inside (.signal ⟨1⟩ 1 ⟨0, false, [⟨1⟩]⟩ State.withRaiser) := by
    refine .head (.request rfl (.of_request (fun _ => rfl) raised)) (.single ?_)
    exact .request rfl (.of_request (fun _ => rfl) raised)
  exact ((raises_reach_their_attempt raiser).2 inside raised).2.2

end PhiCalculus
