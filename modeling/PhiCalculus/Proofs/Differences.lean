import PhiCalculus.Proofs.VeiledRuns

/-!
# Differences in one object

Two states that differ in one object both differ from a third one, in which that object refers to no
more than it does in either.  What comes across neither that object nor anything that depends on it
when it runs from the third state, ends alike from the other two (`TracksFrom.across`), and leaves
the same effects in both (`State.SameEffects`).
-/

set_option autoImplicit false

namespace PhiCalculus

open PhiCalculus.Action

variable {α : Type} {frame : Frame} {s s' t t' u u' w w' : State} {m o r x : Ref}

/-! ## States that differ in one object -/

namespace State

/-- The object is that one, or a view that has kept one that shows it. -/
inductive Shows (s : State) (o : Ref) : Ref → Prop where
  | itself : Shows s o o
  | kept {r x : Ref} {v : View} : (s.heap.cell r).kind = .view v (some x) → Shows s o x →
      Shows s o r

/-- A value shows no other object. -/
theorem not_shows_of_value {v : Value} (kind : (s.heap.cell x).kind = .data v) (other : x ≠ o) :
    ¬ s.Shows o x := by
  intro shows
  cases shows with
  | itself => exact other rfl
  | kept kind' _ => cases kind'.symm.trans kind

/-- The state underlies the other one: they are the same but for the object, and this refers to no
more in the first. -/
structure Underlies (s : State) (o : Ref) (s' : State) : Prop where
  size : s'.heap.size = s.heap.size
  same : ∀ r, r ≠ o → s'.heap.cell r = s.heap.cell r
  outside : (s.heap.cell o).Veils (s'.heap.cell o)
  exist : o.index < s.heap.size
  registry : s'.registry = s.registry
  globals : s'.globals = s.globals
  counters : s'.counters = s.counters
  trace : s'.trace = s.trace

theorem Shows.of_same (same : ∀ r, r ≠ o → s'.heap.cell r = s.heap.cell r)
    (concrete : (s.heap.cell o).isView = false) (shows : s.Shows o r) : s'.Shows o r := by
  induction shows with
  | itself => exact .itself
  | @kept r x v kind _ ih =>
      have other : r ≠ o := by
        rintro rfl
        rw [Cell.isView, kind] at concrete
        cases concrete
      exact .kept (by rw [same r other, kind]) ih

/-- The same objects show one that is no view. -/
theorem Underlies.shows_eq (under : s.Underlies o s') (concrete : (s.heap.cell o).isView = false)
    (concrete' : (s'.heap.cell o).isView = false) : s.Shows o = s'.Shows o :=
  funext fun _ => propext
    ⟨.of_same under.same concrete, .of_same (fun r other => (under.same r other).symm) concrete'⟩

/-- The state with that in the place of the object. -/
def put (s : State) (o : Ref) (k : Kind) : State :=
  { s with heap := s.heap.update o fun _ => k }

theorem cell_put_self (s : State) (exist : o.index < s.heap.size) (k : Kind) :
    (s.put o k).heap.cell o = ⟨s.heap.vertex o, k⟩ :=
  s.heap.cell_update_self exist _

theorem kind_put (s : State) (exist : o.index < s.heap.size) (k : Kind) :
    ((s.put o k).heap.cell o).kind = k :=
  congrArg Cell.kind (s.cell_put_self exist k)

theorem cell_put (s : State) (other : r ≠ o) (k : Kind) :
    (s.put o k).heap.cell r = s.heap.cell r :=
  s.heap.cell_update_of_ne other _

/-- What refers to less underlies what refers to more in its place. -/
theorem underlies_put {k k' : Kind} (exist : o.index < s.heap.size)
    (outside : (Cell.mk (s.heap.vertex o) k).Veils ⟨s.heap.vertex o, k'⟩) :
    (s.put o k).Underlies o (s.put o k') where
  size := (s.heap.size_update o _).trans (s.heap.size_update o _).symm
  same _ other := (s.cell_put other k').trans (s.cell_put other k).symm
  outside := by rwa [s.cell_put_self exist, s.cell_put_self exist]
  exist := exist.trans_eq (s.heap.size_update o _).symm
  registry := rfl
  globals := rfl
  counters := rfl
  trace := rfl

/-- So it underlies the state itself. -/
theorem underlies_of_kind {k k' : Kind} (exist : o.index < s.heap.size)
    (kind : (s.heap.cell o).kind = k')
    (outside : (Cell.mk (s.heap.vertex o) k).Veils ⟨s.heap.vertex o, k'⟩) :
    (s.put o k).Underlies o s where
  size := (s.heap.size_update o _).symm
  same _ other := (s.cell_put other k).symm
  outside := by
    rw [s.cell_put_self exist]
    subst kind
    exact outside
  exist := exist.trans_eq (s.heap.size_update o _).symm
  registry := rfl
  globals := rfl
  counters := rfl
  trace := rfl

end State

/-- The veil over the object and the views that have kept it, with what else is in use in the second
state. -/
def Veil.between (o : Ref) (s s' : State) (more : List Ref) : Veil where
  covers := s.Shows o
  first := s.heap.cell
  second := s'.heap.cell
  more := more

namespace State

theorem Underlies.veils (under : s.Underlies o s') (more : List Ref) :
    s.Veils (.between o s s' more) s' where
  size := under.size
  same r other := under.same r fun same => other (same ▸ .itself)
  first _ _ := rfl
  second _ _ := rfl
  outside r _ := by
    by_cases same : r = o
    · exact same ▸ under.outside
    · show (s.heap.cell r).Veils (s'.heap.cell r)
      rw [under.same r same]
      exact .refl _
  exist r shows := by
    cases shows with
    | itself => exact under.exist
    | kept kind _ => exact Heap.lt_size_of_view kind
  behind _ _ _ kind shows := .kept kind shows
  registry := under.registry
  globals := under.globals
  counters := under.counters
  lines := congrArg (List.map leadingDots) under.trace

/-- What else is in use has no bearing on how states differ. -/
theorem Veils.inUse {more : List Ref} (veils : t.Veils (.between o s s' more) t')
    (more' : List Ref) : t.Veils (.between o s s' more') t' :=
  ⟨veils.size, veils.same, veils.first, veils.second, veils.outside, veils.exist, veils.behind,
    veils.registry, veils.globals, veils.counters, veils.lines⟩

/-- From the one state and from the other one, the same has been done.  The veiled objects have been
left as they were, all others are the same, new ones and their vertices included, and the same
dataizations have left their lines in the trace. -/
structure SameEffects (veiled : Ref → Prop) (s s' t t' : State) : Prop where
  size : t'.heap.size = t.heap.size
  same : ∀ r, ¬ veiled r → t'.heap.cell r = t.heap.cell r
  still : ∀ r, veiled r → t.heap.cell r = s.heap.cell r ∧ t'.heap.cell r = s'.heap.cell r
  vertex : ∀ r, t'.heap.vertex r = t.heap.vertex r
  registry : t'.registry = t.registry
  globals : t'.globals = t.globals
  counters : t'.counters = t.counters
  lines : t'.trace.map leadingDots = t.trace.map leadingDots

/-- What still differs in that object only has come by the same effects. -/
theorem Veils.sameEffects {s₀ : State} {more more' : List Ref}
    (veils : t.Veils (.between o s₀ s more) u)
    (veils' : t.Veils (.between o s₀ s' more') u') : SameEffects (s₀.Shows o) s s' u u' where
  size := veils'.size.trans veils.size.symm
  same r seen := (veils'.same r seen).trans (veils.same r seen).symm
  still r here := ⟨veils.second r here, veils'.second r here⟩
  vertex r := (veils'.vertex r).trans (veils.vertex r).symm
  registry := veils'.registry.trans veils.registry.symm
  globals := veils'.globals.trans veils.globals.symm
  counters := veils'.counters.trans veils.counters.symm
  lines := veils'.lines.trans veils.lines.symm

/-- Dataizations of values leave lines of the same depth. -/
theorem Veils.tells {veiled : Veil} (veils : s.Veils veiled s') {around around' : Frame}
    {v v' : Value}
    (depth : around'.depth = around.depth) (tracing : around'.tracing = around.tracing)
    (tells : s.Tells around r v w) (tells' : s'.Tells around' r v' w') : w.Veils veiled w' := by
  cases tells with
  | nothing silent =>
      cases tells' with
      | nothing => exact veils
      | line traced => cases (tracing.symm.trans traced).symm.trans silent
  | line traced =>
      cases tells' with
      | nothing silent => cases (tracing.symm.trans silent).symm.trans traced
      | line =>
          refine veils.tell ?_
          rw [leadingDots_traceLine, leadingDots_traceLine, depth]

end State

/-! ## Runs from states that differ -/

namespace Failure

variable {f f' f'' : Failure}

theorem Like.symm (like : f.Like f') : f'.Like f := by
  induction like with
  | same f => exact .same f
  | during term term' _ ih => exact .during term' term ih

theorem Like.trans (like : f.Like f') (like' : f'.Like f'') : f.Like f'' := by
  induction like generalizing f'' with
  | same f => exact like'
  | during term term' like ih =>
      cases like' with
      | same => exact .during term term' like
      | during _ term'' like' => exact .during term term'' (ih like')

theorem Like.ofMissing (like : f.Like f') : f.ofMissing.Like f'.ofMissing := by
  cases like with
  | same => exact .same _
  | during term term' like => exact .during term term' like

end Failure

/-- What is found is the same but for terms. -/
inductive FoundAlike : Except Failure α → Except Failure α → Prop where
  | ok (a : α) : FoundAlike (.ok a) (.ok a)
  | error {f f' : Failure} : f.Like f' → FoundAlike (.error f) (.error f')

theorem Failure.Seen.alike {first second : Veil} {post post' : α → Prop}
    {e e' e'' : Except Failure α}
    (seen : Failure.Seen first post e e') (seen' : Failure.Seen second post' e e'') :
    FoundAlike e' e'' := by
  cases seen with
  | ok => cases seen' with | ok => exact .ok _
  | error like => cases seen' with | error like' => exact .error (like.symm.trans like')

/-- In all states that differ in veiled objects only, the action goes the same way. -/
def TracksFrom (veiled : Ref → Prop) (x : Answerer → Action α) (around : Frame) (s₀ : State) :
    Prop :=
  ∀ (veil : Veil) (frame : Frame) (s : State), veil.covers = veiled →
    Abreast veil around frame s₀ s → Tracks veil anything x around frame s₀ s

/-- From the bare place on, the action comes across nothing that is veiled there from either of the
other two, and from all three of them, the terms that it asks for come to an end. -/
structure Computations.Detached (c : Computations) (first second : Veil) (x : Answerer → Action α)
    (bare a b : Link) : Prop where
  heedless : c.Heedless first x bare.frame bare.state
  heedless' : c.Heedless second x bare.frame bare.state
  bare : c.Legible x bare.frame bare.state
  legible : c.Legible x a.frame a.state
  legible' : c.Legible x b.frame b.state

theorem Computations.Detached.symm {c : Computations} {first second : Veil}
    {x : Answerer → Action α} {bare a b : Link} (detached : c.Detached first second x bare a b) :
    c.Detached second first x bare b a :=
  ⟨detached.heedless', detached.heedless, detached.bare, detached.legible', detached.legible⟩

/-- **What comes across no veiled object ends alike whatever these objects are.** -/
theorem TracksFrom.across {x : Answerer → Action α} {first second : Veil} {bare a b : Link}
    {result : Except Failure α}
    (detached : Computations.ofExpressions.Detached first second x bare a b)
    (tracks : TracksFrom first.covers x bare.frame bare.state)
    (made : Stepwise State.Creates True x) (covers : second.covers = first.covers)
    (something : 0 < bare.state.heap.size)
    (here : Abreast first bare.frame a.frame bare.state a.state)
    (here' : Abreast second bare.frame b.frame bare.state b.state)
    (runs : Computations.ofExpressions.Runs x a.frame a.state result t) :
    ∃ result₀ t₀ result' t', Computations.ofExpressions.Runs x bare.frame bare.state result₀ t₀ ∧
      Computations.ofExpressions.Runs x b.frame b.state result' t' ∧ FoundAlike result result' ∧
        t₀.Veils first t ∧ t₀.Veils second t' := by
  obtain ⟨result₀, t₀, runs₀, seen, veils⟩ := (tracks first a.frame a.state rfl here).backward made
    detached.heedless detached.bare detached.legible something (here.states.size ▸ something) runs
  obtain ⟨result', t', runs', seen', veils'⟩ := (tracks second b.frame b.state covers here').forward
    made detached.heedless' detached.bare detached.legible' something
    (here'.states.size ▸ something) runs₀
  exact ⟨result₀, t₀, result', t', runs₀, runs', seen.alike seen', veils, veils'⟩

theorem tracksFrom_forceFor {veiled : Ref → Prop} {around : Frame} {s₀ : State} (o : Ref)
    (seen : ¬ veiled x) : TracksFrom veiled (fun ask => forceFor ask o x) around s₀ := by
  rintro veil frame s rfl here ask ask' agree
  exact here.forceFor agree o seen

theorem tracksFrom_ask {veiled : Ref → Prop} {around : Frame} {s₀ : State} (q : Request α) :
    TracksFrom veiled (fun ask => ask q) around s₀ := by
  rintro veil frame s rfl here ask ask' agree
  exact here.asked agree q

/-! ## Values -/

section

variable {c : Computations} {v : Value} {d : Query} {steps : Nat}

/-- Nothing is asked of a value to look for its value. -/
theorem not_meets_of_value (kind : (s.heap.cell x).kind = .data v) :
    ¬ c.Meets (fun ask => forceFor ask o x) steps frame s d := by
  have value : (s.heap.cell x).value? = some v := by rw [Cell.value?, kind]
  have gives (ask : Answerer) : forceFor ask o x frame s = .answer v s := by
    rw [forceFor, bind_of_answer (cell_apply x frame s), value]
    rfl
  rintro ⟨q, asks, _⟩
  cases asks with
  | mk depends =>
      obtain ⟨ask', _, differs⟩ := depends
      exact differs ((gives ask').trans (gives _).symm)

theorem detached_of_value {first second : Veil} {bare a b : Link}
    (kind₀ : (bare.state.heap.cell x).kind = .data v) (kind : (a.state.heap.cell x).kind = .data v)
    (kind' : (b.state.heap.cell x).kind = .data v) :
    c.Detached first second (fun ask => forceFor ask o x) bare a b :=
  ⟨fun _ _ meets => absurd meets (not_meets_of_value kind₀),
    fun _ _ meets => absurd meets (not_meets_of_value kind₀),
    fun _ _ meets => absurd meets (not_meets_of_value kind₀),
    fun _ _ meets => absurd meets (not_meets_of_value kind),
    fun _ _ meets => absurd meets (not_meets_of_value kind')⟩

/-- A value is dataized without asking for anything else. -/
theorem meets_dataize_of_value (kind : (s.heap.cell x).kind = .data v)
    (meets : c.Meets (fun ask => ask (.dataize x)) steps frame s d) :
    ∃ steps, d = ⟨.dataize x, steps, frame, s⟩ := by
  have forces (ask : Answerer) : deeper (forceValue ask x) (frame.holding [x]) s = .answer v s := by
    have value : (s.heap.cell x).value? = some v := by rw [Cell.value?, kind]
    show forceValue ask x _ s = _
    rw [forceValue, bind_of_answer (cell_apply x _ s), value]
    rfl
  have ends (ask : Answerer) : answerBy c ask (.dataize x) frame s =
      endTake (frame.holding [x]) x (.ok v) (frame.holding [x]) s := by
    show dataizeObject ask x (frame.holding [x]) s = _
    rw [dataizeObject_apply, bind_of_answer (observe_of_answer (forces ask))]
  obtain ⟨q, asks, within⟩ := meets
  cases asks with
  | @mk β steps _ around _ t q depends =>
      obtain ⟨ask', same, differs⟩ := depends
      have here := not_not.mp fun elsewhere =>
        differs (same (.dataize x) frame s (Ne.symm elsewhere))
      cases here
      refine ⟨steps, ?_⟩
      cases Relation.ReflTransGen.cases_head within with
      | inl is => exact is.symm
      | inr further =>
          obtain ⟨_, asks, _⟩ := further
          cases asks with
          | mk depends =>
              obtain ⟨ask', _, differs⟩ := depends
              exact absurd ((ends ask').trans (ends _).symm) differs

/-- Dataizing a number, a text or the like notices nothing else. -/
theorem heedless_dataize_of_value {veiled : Veil} (kind : (s.heap.cell x).kind = .data v)
    (scalar : v.items = []) (seen : ¬ veiled x) :
    c.Heedless veiled (fun ask => ask (.dataize x)) frame s := by
  intro steps d meets notices
  obtain ⟨k, is⟩ := meets_dataize_of_value kind meets
  have about : d.request.dataized? = some x := by rw [is]; rfl
  cases notices with
  | about there veiled =>
      subst is
      rw [List.mem_singleton.mp there] at veiled
      exact seen veiled
  | @given d a t outcome shown =>
      subst is
      have ends : c.Ends (.dataize x) frame s (.ok a) t :=
        runs_request.mpr ⟨k, outcome⟩
      obtain ⟨same, _⟩ := (dataize_data kind).mp ends
      cases same
      refine shown fun y there => ?_
      rw [scalar] at there
      cases there
  | derives => cases about
  | clings => cases about
  | strays => cases about

/-- Without a trace it asks for no term. -/
theorem legible_dataize_of_value (kind : (s.heap.cell x).kind = .data v)
    (silent : frame.tracing = false) : c.Legible (fun ask => ask (.dataize x)) frame s := by
  intro steps d meets stalls
  obtain ⟨k, is⟩ := meets_dataize_of_value kind meets
  cases stalls with
  | @mk r steps' frame' s' u found forces untold =>
      cases is
      have value : (Link.taken x frame s).IsValue v := kind
      obtain ⟨rfl, rfl⟩ := (Link.forces_value (c := c) value).unique ⟨_, forces⟩
      cases untold with
      | object traced => cases silent.symm.trans traced
      | value traced => cases silent.symm.trans traced

end

end PhiCalculus
