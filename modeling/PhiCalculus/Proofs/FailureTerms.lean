import Mathlib.Logic.Relation
import PhiCalculus.Proofs.FailureSources
import PhiCalculus.Proofs.Reaching

/-!
# The terms of failures

A dataization adds the term of its object to a failure that has none and is no raise; every other
failure passes it.  So what comes out of a dataization is a raise as it was made, or a failure with
one term.

Whose term that is can be read off the requests that are made.  A failure with a term that comes
out of a request came out of one that it made, and so on down to the dataization that added the
term.  From there the plain failure leads further down to the request that made it, and there is no
other dataization on the way (`failures_have_the_term_of_the_innermost`).
-/

set_option autoImplicit false

namespace PhiCalculus

open PhiCalculus.Action Relation

/-! ## Requests that are made -/

/-- A request that is made, with the steps that it may nest, where it is made and in which
state. -/
structure Asked where
  {α : Type}
  request : Request α
  steps : Nat
  frame : Frame
  state : State

/-- Answers requests that nest no deeper than allowed, where slots compute what is given. -/
def Computations.answers (c : Computations) (steps : Nat) : Answerer :=
  answeredUntil c (fun _ => false) steps

theorem Computations.answers_succ (c : Computations) (steps : Nat) {α : Type} (q : Request α) :
    c.answers (steps + 1) q = answerBy c (c.answers steps) q :=
  stoppable_never _

namespace Asked

variable (c : Computations)

/-- The request is answered by the failure. -/
def Fails (f : Failure) (d : Asked) : Prop :=
  ∃ t, c.answers d.steps d.request d.frame d.state = .failure f t

/-- The second request is made to answer the first. -/
def Makes (d d' : Asked) : Prop :=
  d.steps = d'.steps + 1 ∧
    Reaches (fun ask => answerBy c ask d.request) (c.answers d'.steps) d.frame d.state
      d'.request d'.frame d'.state

/-- The second request is made to answer the first, and answered by the failure. -/
def Leads (f : Failure) (d d' : Asked) : Prop := d.Makes c d' ∧ d'.Fails c f

/-- The second request leads on and is itself no dataization. -/
def LeadsInside (f : Failure) (d d' : Asked) : Prop :=
  d.Leads c f d' ∧ d'.request.dataized? = none

/-- No request that it makes is answered by the failure. -/
def Originates (f : Failure) (d : Asked) : Prop := ∀ d', ¬ d.Leads c f d'

/-- The request dataizes an object, on the way to its value there is the failure `source`, and the
object has that term then. -/
def Places (term : String) (source : Failure) (d : Asked) : Prop :=
  ∃ o steps t, d.request.dataized? = some o ∧ d.steps = steps + 1 ∧
    deeper (forceValue (c.answers steps) o) (d.frame.holding [o]) d.state = .failure source t ∧
    t.heap.term? o = some term

end Asked

/-! ## One term at most -/

/-- The failure has one term at most, and a raise has none. -/
def Failure.Single : Failure → Prop
  | .during _ source => source.isPlaced = false ∧ source.isRaise = false
  | _ => True

theorem Failure.single_of_plain {f : Failure} (isPlain : f.isPlaced = false) : f.Single := by
  cases f with
  | during term source => cases isPlain
  | _ => trivial

section

variable {α : Type} {c : Computations} {f : Failure} {d d' : Asked}

/-- What has a term or is a raise passes; anything else gets the term of the object. -/
theorem place_fails {r : Ref} {source : Failure} {frame : Frame} {s t : State}
    (fails : place r source frame s = .failure f t) :
    ((source.isRaise || source.isPlaced) = true ∧ f = source) ∨
      (source.isRaise = false ∧ source.isPlaced = false ∧
        ∃ term, s.heap.term? r = some term ∧ f = .during term source) := by
  rw [place] at fails
  split at fails
  · rename_i passes
    cases fails
    exact .inl ⟨passes, rfl⟩
  · rename_i other
    simp only [Bool.or_eq_true, not_or, Bool.not_eq_true] at other
    refine .inr ⟨other.1, other.2, ?_⟩
    rw [bind_apply, finite] at fails
    cases term : s.heap.term? r with
    | none =>
        rw [term] at fails
        cases fails
    | some text =>
        rw [term] at fails
        cases fails
        exact ⟨text, rfl, rfl⟩

/-- A dataization fails where there is a failure on the way to the value. -/
theorem dataizeObject_fails {ask : Answerer} {r : Ref} {frame : Frame} {s t : State}
    (fails : dataizeObject ask r frame s = .failure f t) :
    ∃ source u, deeper (forceValue ask r) frame s = .failure source u ∧
      place r source frame u = .failure f t := by
  rw [dataizeObject, bind_of_answer (frame_apply frame s)] at fails
  cases ending : deeper (forceValue ask r) frame s with
  | failure source u =>
      rw [bind_of_answer (observe_of_failure ending)] at fails
      exact ⟨source, u, rfl, fails⟩
  | answer v u =>
      -- leaving a line in the trace does not fail
      rw [bind_of_answer (observe_of_answer ending)] at fails
      have line : (leaveLine frame.depth r v).FailsWithin fun _ => False :=
        .bind (.finite _) fun _ => .bind (.finite _) fun _ => .change _
      have never : Action.FailsWithin (fun _ => False)
          (if frame.tracing then do leaveLine frame.depth r v; pure v else pure v) :=
        .ite (.bind line fun _ => .pure v) (.pure v)
      exact (never frame u f t fails).elim
  | unfinished =>
      rw [bind_of_unfinished (observe_of_unfinished ending)] at fails
      cases fails

theorem within_dataizeObject {ask : Answerer} (h : ask.Within Failure.Single) (r : Ref) :
    (dataizeObject ask r).FailsWithin Failure.Single := by
  intro frame s f t fails
  obtain ⟨source, u, inner, outer⟩ := dataizeObject_fails fails
  rcases place_fails outer with ⟨-, rfl⟩ | ⟨noRaise, isPlain, term, -, rfl⟩
  · exact within_forceValue (fun _ _ => trivial) h.asked r _ s f u inner
  · exact ⟨isPlain, noRaise⟩

/-- Whatever is asked, a failure has one term at most. -/
theorem within_answers (isPlain : c.Plain) (steps : Nat) :
    Answerer.Within Failure.Single (c.answers steps) := by
  refine ⟨fun _ => Failure.single_of_plain, ?_⟩
  induction steps with
  | zero =>
      intro α q frame s f t ends
      cases ends
  | succ steps ih =>
      intro α q
      have h : Answerer.Within Failure.Single (c.answers steps) :=
        ⟨fun _ => Failure.single_of_plain, ih⟩
      rw [c.answers_succ]
      cases dataizes : q.dataized? with
      | none => exact within_answerBy h isPlain dataizes
      | some r =>
          cases q with
          | dataize o => exact .hold [o] (within_dataizeObject h o)
          | _ => cases dataizes

/-! ## Where a failure comes from -/

/-- What makes no such failure of itself, and ends in it, has asked for something that ends in
it. -/
theorem reaches_failure {R : State → State → Prop} {catching : Prop}
    {x : Answerer → Action α} (stepwise : Stepwise R catching x)
    (passes : ∀ ask' : Answerer,
      (∀ {β : Type} (q : Request β), Action.FailsWithin (· ≠ f) (ask' q)) →
        (x ask').FailsWithin (· ≠ f))
    {ask : Answerer} {frame : Frame} {s t : State} (fails : x ask frame s = .failure f t) :
    ∃ (β : Type) (q : Request β) (around : Frame) (u v : State),
      Reaches x ask frame s q around u ∧ ask q around u = .failure f v := by
  classical
  -- cut short whatever is answered by the failure
  let ask' : Answerer := fun {β} q around u =>
    if ∃ v, ask q around u = .failure f v then @Outcome.unfinished β u else ask q around u
  have never {β : Type} (q : Request β) : Action.FailsWithin (· ≠ f) (ask' q) := by
    rintro around u e v ends rfl
    by_cases failed : ∃ v, ask q around u = .failure e v
    · cases (if_pos failed).symm.trans ends
    · exact failed ⟨v, (if_neg failed).symm.trans ends⟩
  rcases stepwise.reaches_or_same ask frame s ask' with same | ⟨β, q, around, u, reaches, differs⟩
  · exact absurd rfl (passes ask' never frame s f t (same.trans fails))
  · by_cases failed : ∃ v, ask q around u = .failure f v
    · obtain ⟨v, failed⟩ := failed
      exact ⟨β, q, around, u, v, reaches, failed⟩
    · exact absurd (if_neg failed) differs

namespace Asked

theorem Fails.steps_pos (fails : d.Fails c f) : ∃ steps, d.steps = steps + 1 := by
  obtain ⟨t, ends⟩ := fails
  cases count : d.steps with
  | zero =>
      rw [count] at ends
      cases ends
  | succ steps => exact ⟨steps, rfl⟩

/-- What a request reaches and fails in leads on. -/
theorem leads_of_reaches {steps : Nat} (count : d.steps = steps + 1) {q : Request α}
    {around : Frame} {u v : State}
    (reaches : Reaches (fun ask => answerBy c ask d.request) (c.answers steps) d.frame d.state q
      around u)
    (fails : c.answers steps q around u = .failure f v) :
    d.Leads c f ⟨q, steps, around, u⟩ :=
  ⟨⟨count, reaches⟩, ⟨v, fails⟩⟩

/-- A failure with a term came out of a request, if the one it came out of is no dataization. -/
theorem leads_of_placed (isPlain : c.Plain) (placed : f.isPlaced = true) (fails : d.Fails c f)
    (other : d.request.dataized? = none) : ∃ d', d.Leads c f d' := by
  obtain ⟨steps, count⟩ := fails.steps_pos
  obtain ⟨t, ends⟩ := fails
  rw [count, c.answers_succ] at ends
  have passes (ask' : Answerer)
      (never : ∀ {β : Type} (q : Request β), Action.FailsWithin (· ≠ f) (ask' q)) :
      (answerBy c ask' d.request).FailsWithin (· ≠ f) := by
    refine within_answerBy ⟨fun e plain same => ?_, never⟩ isPlain other
    rw [same, placed] at plain
    cases plain
  obtain ⟨β, q, around, u, v, reaches, failed⟩ :=
    reaches_failure (changes_answerBy c d.request) passes ends
  exact ⟨_, leads_of_reaches count reaches failed⟩

/-- What the way down to a value reaches is reached by the dataization. -/
theorem reaches_of_forceValue {o : Ref} {ask : Answerer} {frame around : Frame} {s u : State}
    {q : Request α}
    (reaches : Reaches (fun ask => deeper (forceValue ask o)) ask (frame.holding [o]) s q around
      u) :
    Reaches (fun ask => answerBy c ask (.dataize o)) ask frame s q around u := by
  intro ask' agrees v short
  have ends := reaches ask' agrees v short
  exact bind_of_unfinished (observe_of_unfinished ends) _

/-- On the way down to a value, a failure came out of a request, if it is not that there is no
value. -/
theorem leads_of_forceValue {o : Ref} {steps : Nat} {t : State}
    (dataizes : d.request.dataized? = some o) (count : d.steps = steps + 1)
    (fails : deeper (forceValue (c.answers steps) o) (d.frame.holding [o]) d.state = .failure f t)
    (other : ∀ object reason, f ≠ .notData object reason) : ∃ d', d.Leads c f d' := by
  obtain ⟨request, _, frame, s⟩ := d
  cases request with
  | dataize r =>
      cases dataizes
      have passes (ask' : Answerer)
          (never : ∀ {β : Type} (q : Request β), Action.FailsWithin (· ≠ f) (ask' q)) :
          (deeper (forceValue ask' o)).FailsWithin (· ≠ f) :=
        .deeper (within_forceValue (fun object reason same => other object reason same.symm)
          never o)
      obtain ⟨β, q, around, u, v, reaches, failed⟩ :=
        reaches_failure (.deeper (@stepwise_forceValue True o)) passes fails
      exact ⟨_, leads_of_reaches count (reaches_of_forceValue reaches) failed⟩
  | _ => cases dataizes

/-- A dataization that fails has let a failure pass or added the term of its object. -/
theorem passes_or_places {o : Ref} (dataizes : d.request.dataized? = some o)
    (fails : d.Fails c f) :
    ((f.isRaise || f.isPlaced) = true ∧ ∃ steps t, d.steps = steps + 1 ∧
      deeper (forceValue (c.answers steps) o) (d.frame.holding [o]) d.state = .failure f t) ∨
    ∃ term source, f = .during term source ∧ source.isRaise = false ∧ source.isPlaced = false ∧
      d.Places c term source := by
  obtain ⟨steps, count⟩ := fails.steps_pos
  obtain ⟨t, ends⟩ := fails
  rw [count, c.answers_succ] at ends
  obtain ⟨request, _, frame, s⟩ := d
  cases request with
  | dataize r =>
      cases dataizes
      obtain ⟨source, u, inner, outer⟩ := dataizeObject_fails ends
      rcases place_fails outer with ⟨passes, rfl⟩ | ⟨noRaise, isPlain, term, known, rfl⟩
      · exact .inl ⟨passes, steps, u, count, inner⟩
      · exact .inr ⟨term, source, rfl, noRaise, isPlain, o, steps, u, rfl, count, inner, known⟩
  | _ => cases dataizes

/-- A dataization fails in raises and in failures with a term. -/
theorem passed_or_placed {o : Ref} (dataizes : d.request.dataized? = some o)
    (fails : d.Fails c f) : (f.isRaise || f.isPlaced) = true := by
  rcases passes_or_places dataizes fails with ⟨passes, -⟩ | ⟨term, source, rfl, -⟩
  · exact passes
  · rfl

theorem Leads.fewer (leads : d.Leads c f d') : d'.steps < d.steps := by
  have more : d.steps = d'.steps + 1 := leads.1.1
  omega

/-- Following the failure from request to request comes to one where it was made. -/
theorem exists_origin (f : Failure) (d : Asked) :
    ∃ m, ReflTransGen (Leads c f) d m ∧ m.Originates c f := by
  induction count : d.steps using Nat.strongRecOn generalizing d with
  | ind steps ih =>
      by_cases origin : d.Originates c f
      · exact ⟨d, .refl, origin⟩
      · rw [Originates, not_forall_not] at origin
        obtain ⟨d', leads⟩ := origin
        have fewer : d'.steps < steps := count ▸ leads.fewer
        obtain ⟨m, chain, origin⟩ := ih d'.steps fewer d' rfl
        exact ⟨m, .head leads chain, origin⟩

/-- What leads to a plain failure that is no raise is no dataization. -/
theorem Leads.inside (isPlain : f.isPlaced = false) (noRaise : f.isRaise = false)
    (leads : d.Leads c f d') : d.LeadsInside c f d' := by
  refine ⟨leads, ?_⟩
  cases dataizes : d'.request.dataized? with
  | none => rfl
  | some o =>
      have passed := passed_or_placed dataizes leads.2
      rw [isPlain, noRaise] at passed
      cases passed

/-- A failure with a term came out of the dataization that added it. -/
theorem exists_place (isPlain : c.Plain) {term : String} {source : Failure}
    (fails : d.Fails c (.during term source)) :
    ∃ e, ReflTransGen (Leads c (.during term source)) d e ∧ e.Places c term source := by
  induction count : d.steps using Nat.strongRecOn generalizing d with
  | ind steps ih =>
      have passes (leads : ∃ d', d.Leads c (.during term source) d') :
          ∃ e, ReflTransGen (Leads c (.during term source)) d e ∧ e.Places c term source := by
        obtain ⟨d', leads⟩ := leads
        have fewer : d'.steps < steps := count ▸ leads.fewer
        obtain ⟨e, chain, places⟩ := ih d'.steps fewer leads.2 rfl
        exact ⟨e, .head leads chain, places⟩
      cases dataizes : d.request.dataized? with
      | none => exact passes (leads_of_placed isPlain rfl fails dataizes)
      | some o =>
          rcases passes_or_places dataizes fails with ⟨-, n, t, count', inner⟩ | placed
          · exact passes (leads_of_forceValue dataizes count' inner nofun)
          · obtain ⟨term', source', same, -, -, places⟩ := placed
            cases same
            exact ⟨d, .refl, places⟩

/-- The failure was made by the second request, while the first was the innermost dataization.
What the dataization makes itself is that there is no value. -/
structure Arises (c : Computations) (source : Failure) (e m : Asked) : Prop where
  inside : ReflTransGen (LeadsInside c source) e m
  originates : m.Originates c source
  own : m = e → ∃ object reason, source = .notData object reason

/-- What a dataization adds its term to arose in it, with no other dataization between. -/
theorem Places.exists_arises {term : String} {source : Failure} (places : d.Places c term source)
    (noRaise : source.isRaise = false) (isPlain : source.isPlaced = false) :
    ∃ m, d.Arises c source m := by
  obtain ⟨m, chain, originates⟩ := exists_origin (c := c) source d
  have inside : ReflTransGen (LeadsInside c source) d m :=
    ReflTransGen.mono (fun _ _ leads => leads.inside isPlain noRaise) _ _ chain
  refine ⟨m, inside, originates, ?_⟩
  rintro rfl
  obtain ⟨o, steps, t, dataizes, count, inner, -⟩ := places
  by_contra other
  obtain ⟨d', leads⟩ := leads_of_forceValue dataizes count inner fun object reason same =>
    other ⟨object, reason, same⟩
  exact originates d' leads

end Asked

open Asked

/-- **A dataization fails in a raise as it was made, or in a failure with the term of the innermost
dataization.**  A raise passes all dataizations on its way from the request that made it.  Any other
failure was made without a term, by a request that has no other dataization between itself and the
one that added the term; all dataizations around that one let the failure pass.  The term is that
of its object in the state in which the failure reached it, and the kind of the failure is that of
the one that was made. -/
theorem failures_have_the_term_of_the_innermost (isPlain : c.Plain) {o : Ref}
    (dataizes : d.request.dataized? = some o) (fails : d.Fails c f) :
    (∃ target payload m, f = .raise target payload ∧
      ReflTransGen (Leads c f) d m ∧ m.Originates c f) ∨
    ∃ term source e m, f = .during term source ∧
      source.isPlaced = false ∧ source.isRaise = false ∧ f.kind = source.kind ∧
      ReflTransGen (Leads c f) d e ∧ e.Places c term source ∧ e.Arises c source m := by
  cases f with
  | raise target payload =>
      obtain ⟨m, chain, originates⟩ := exists_origin (c := c) (.raise target payload) d
      exact .inl ⟨target, payload, m, rfl, chain, originates⟩
  | during term source =>
      have ⟨t, ends⟩ := fails
      have single : source.isPlaced = false ∧ source.isRaise = false :=
        (within_answers isPlain d.steps).asked d.request d.frame d.state _ t ends
      obtain ⟨e, chain, places⟩ := exists_place isPlain fails
      obtain ⟨m, arises⟩ := places.exists_arises single.2 single.1
      exact .inr ⟨term, source, e, m, rfl, single.1, single.2, rfl, chain, places, arises⟩
  | _ => cases passed_or_placed dataizes fails

end

/-- An object that reads its unbound slot, and one around it that dataizes the first. -/
def State.nested : State :=
  let (reader, s) := State.initial.alloc (.table
    { form := "reader"
      slots := [("x", .free none), (phi, .composite (.get .self "x"))] })
  (s.alloc (.table { form := "outer", slots := [(phi, .composite (.force (.object reader)))] })).2

/-- The failure of the reader keeps its term when it comes out of the object around it. -/
theorem reader_keeps_its_term :
    let outer : Asked := ⟨.dataize ⟨2⟩, 10, {}, State.nested⟩
    let source : Failure := .notYetBound "x" (.object ⟨2⟩ "reader")
    let f : Failure := .during "reader⟦x ↦ Ø, φ ↦ λ⟧" source
    outer.Fails .ofExpressions f ∧ ∃ e m : Asked,
      ReflTransGen (Asked.Leads .ofExpressions f) outer e ∧
        e.Places .ofExpressions "reader⟦x ↦ Ø, φ ↦ λ⟧" source ∧
        e.Arises .ofExpressions source m := by
  intro outer source f
  have fails : outer.Fails .ofExpressions f := ⟨State.nested, rfl⟩
  refine ⟨fails, ?_⟩
  rcases failures_have_the_term_of_the_innermost Computations.plain_ofExpressions rfl fails with
    ⟨target, payload, m, raised, -⟩ | ⟨term, cause, e, m, same, -, -, -, chain, places, arises⟩
  · exact absurd raised nofun
  · obtain ⟨rfl, rfl⟩ := Failure.during.inj same
    exact ⟨e, m, chain, places, arises⟩

end PhiCalculus
