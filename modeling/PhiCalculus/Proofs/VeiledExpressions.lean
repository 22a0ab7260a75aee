import PhiCalculus.Proofs.Selection
import PhiCalculus.Proofs.VeiledObjects

/-!
# Expressions that do not notice veiled objects

Dataizations, methods, attempts and expressions, too, go the same way in states that differ in
veiled objects only, if the requests that they make are answered alike.  A dataization ends alike
where the terms come to an end that it asks for (`State.Untold`).
-/

set_option autoImplicit false

namespace PhiCalculus

open PhiCalculus.Action

/-- A dataization of the object asks for a term that does not come to an end: for its line in the
trace, or for the failure that it has found. -/
inductive State.Untold (s : State) (tracing : Bool) (r : Ref) : Except Failure Value → Prop where
  | object {v : Value} : tracing = true → s.heap.term? r = none → Untold s tracing r (.ok v)
  | value {v : Value} : tracing = true → s.heap.valueTerm? v = none → Untold s tracing r (.ok v)
  | failure {f : Failure} : (f.isRaise || f.isPlaced) = false → s.heap.term? r = none →
      Untold s tracing r (.error f)

section

variable {α β : Type} {veiled : Veil} {ask ask' : Answerer} {frame frame' : Frame}
  {s s' : State} {r o x value : Ref} {name : String}

namespace Abreast

section

variable (agree : ask.Agrees veiled ask') (here : Abreast veiled frame frame' s s')
include agree here

/-! ## Dataization -/

theorem findData (r : Ref) : Follows veiled (fun p : Place => ∀ x ∈ p.refs, ¬ veiled x)
    (findData ask r frame s) (findData ask' r frame' s') := by
  refine here.recover (agree (.find r delta) here) fun here seen => ?_
  cases seen with
  | ok seen => exact here.answer seen
  | @error f f' like plain =>
      cases like with
      | same f =>
          cases f with
          | noSuchAttribute attr object =>
              exact ite (fun _ => here.fails rfl) fun _ => here.fails rfl
          | _ => exact .failure here.states (.same _) plain
      | during term term' like => exact .failure here.states (.during term term' like) plain

theorem forceFor (o : Ref) (seen : ¬ veiled r) : Follows veiled anything
    (forceFor ask o r frame s) (forceFor ask' o r frame' s') := by
  refine here.cell seen ?_
  cases (s.heap.cell r).value? with
  | some v => exact here.answer trivial
  | none =>
      refine here.bind (here.findData agree r) fun place _ _ here _ => ?_
      refine here.bind (agree (.read place) here) fun found t _ here seen' => here.cell seen' ?_
      cases (t.heap.cell found).value? with
      | some v => exact here.answer trivial
      | none =>
          exact asks (here.states.subject o) (here.failsAbout fun _ => rfl)

omit agree in
/-- Where a dataization ends, the trace gets a line of the same depth. -/
theorem endTake {post : Value → Prop} {e e' : Except Failure Value} (r : Ref)
    (seen : Failure.Seen veiled post e e') (told : ¬ s.Untold frame.tracing r e)
    (told' : ¬ s'.Untold frame'.tracing r e') : Follows veiled post
    (endTake frame r e frame s) (endTake frame' r e' frame' s') := by
  cases seen with
  | @ok v holds =>
      cases traced : frame.tracing with
      | false =>
          rw [PhiCalculus.endTake, PhiCalculus.endTake, here.tracing, traced]
          exact here.answer holds
      | true =>
          have traced' := here.tracing.trans traced
          obtain ⟨term, known⟩ := Option.ne_none_iff_exists'.mp (mt (.object traced) told)
          obtain ⟨term', known'⟩ := Option.ne_none_iff_exists'.mp (mt (.object traced') told')
          obtain ⟨value, shown⟩ := Option.ne_none_iff_exists'.mp (mt (.value traced) told)
          obtain ⟨value', shown'⟩ := Option.ne_none_iff_exists'.mp (mt (.value traced') told')
          rw [endTake_traced traced, endTake_traced traced', known, known', shown, shown',
            here.depth]
          refine .answer (here.states.tell ?_) holds
          rw [leadingDots_traceLine, leadingDots_traceLine]
  | @error f f' like plain =>
      have same := like.plain
      rw [PhiCalculus.endTake, PhiCalculus.endTake, PhiCalculus.place, PhiCalculus.place, same.1,
        same.2]
      refine ite (fun _ => .failure here.states like plain) fun other => ?_
      have other : (f.isRaise || f.isPlaced) = false := Bool.not_eq_true _ ▸ other
      have other' : (f'.isRaise || f'.isPlaced) = false := by rw [same.1, same.2, other]
      obtain ⟨term, known⟩ := Option.ne_none_iff_exists'.mp (mt (.failure other) told)
      obtain ⟨term', known'⟩ := Option.ne_none_iff_exists'.mp (mt (.failure other') told')
      rw [bind_apply, bind_apply, finite, finite, known, known']
      refine .failure here.states (.during term term' like) ?_
      rintro _ ⟨⟩

omit agree in
/-- A dataization ends alike if looking for the value does. -/
theorem dataizeObject {deep deep' : Frame} (within : deep = { frame with depth := frame.depth + 1 })
    (within' : deep' = { frame' with depth := frame'.depth + 1 })
    (forced : Follows veiled anything (forceValue ask r deep s) (forceValue ask' r deep' s'))
    (told : ∀ found u, (forceValue ask r).Ends deep s found u → ¬ u.Untold frame.tracing r found)
    (told' : ∀ found u, (forceValue ask' r).Ends deep' s' found u →
      ¬ u.Untold frame'.tracing r found) : Follows veiled anything
    (dataizeObject ask r frame s) (dataizeObject ask' r frame' s') := by
  have looks (ask : Answerer) (frame : Frame) (s : State) :
      Action.deeper (forceValue ask r) frame s =
      forceValue ask r { frame with depth := frame.depth + 1 } s := rfl
  rw [dataizeObject_apply, dataizeObject_apply, bind_apply, bind_apply, observe, observe, looks,
    looks, ← within, ← within']
  generalize looked : forceValue ask r deep s = o at forced
  generalize looked' : forceValue ask' r deep' s' = o' at forced
  cases forced with
  | answer states _ =>
      exact (here.go states).endTake r (.ok trivial) (told _ _ looked) (told' _ _ looked')
  | failure states like plain =>
      exact (here.go states).endTake r (.error like plain) (told _ _ looked) (told' _ _ looked')
  | unfinished => exact .unfinished
  | lost h => exact .lost h
  | lost' h => exact .lost' h

/-! ## Methods -/

theorem fetch (r : Ref) (attr : String) :
    Follows veiled (fun v : Value => ∀ x ∈ v.items, ¬ veiled x)
    (fetch ask r attr frame s) (fetch ask' r attr frame' s') := by
  refine here.bind (agree (.find r attr) here) fun p _ _ here _ => ?_
  have here := here.holding p.refs
  exact here.bind (agree (.read p) here) fun o _ _ here _ => agree (.dataize o) here

theorem fetchAs (r : Ref) (attr : String) (tag : TypeTag) (part : Value → Option α) :
    Follows veiled (fun a => ∃ v, part v = some a ∧ ∀ x ∈ v.items, ¬ veiled x)
      (fetchAs ask r attr tag part frame s) (fetchAs ask' r attr tag part frame' s') := by
  rw [fetchAs_eq, fetchAs_eq]
  refine here.bind (here.fetch agree r attr) fun v _ _ here seen => ?_
  rw [demand]
  by_cases tagged : v.tag = tag
  · rw [if_pos tagged]
    cases has : part v with
    | some a => exact here.answer ⟨v, has, seen⟩
    | none => exact here.fails rfl
  · rw [if_neg tagged]
    exact here.fails rfl

omit agree in
theorem makes (v : Value) :
    Follows veiled anything (Action.data v frame s) (Action.data v frame' s') :=
  (here.data v).weaken fun _ _ _ _ => trivial

omit agree in
theorem concludes [Mentions α] {given : Except Failure α}
    (seen : ∀ x ∈ Mentions.refs given, ¬ veiled x) : Follows veiled anything
      (Action.conclude given frame s) (Action.conclude given frame' s') := by
  cases given with
  | ok a => exact here.answer trivial
  | error f => exact .failure here.states (.same f) seen

omit agree in
theorem stringObjects (texts : List String) : Follows veiled anything
    (stringObjects texts frame s) (stringObjects texts frame' s') := by
  induction texts generalizing s s' with
  | nil => exact here.answer trivial
  | cons text rest ih =>
      exact here.bind (here.data _) fun r _ _ here _ =>
        here.bind (ih here) fun refs _ _ here _ => here.answer trivial

/-- A method of one value goes on from it. -/
theorem unary {r : Ref} {tag : TypeTag} {part : Value → Option α} {k k' : α → Action Ref}
    (rest : ∀ a {t t'}, Abreast veiled frame frame' t t' →
      Follows veiled anything (k a frame t) (k' a frame' t')) :
    Follows veiled anything ((PhiCalculus.fetchAs ask r sigma tag part >>= k) frame s)
      ((PhiCalculus.fetchAs ask' r sigma tag part >>= k') frame' s') :=
  here.bind (here.fetchAs agree r sigma tag part) fun a _ _ here _ => rest a here

/-- A method of two values goes on from both. -/
theorem binary {β : Type} {r : Ref} {attr : String} {tag tag' : TypeTag} {part : Value → Option α}
    {part' : Value → Option β} {k k' : α → β → Action Ref}
    (rest : ∀ a b {t t'}, Abreast veiled frame frame' t t' →
      Follows veiled anything (k a b frame t) (k' a b frame' t')) :
    Follows veiled anything
      ((do
        let a ← PhiCalculus.fetchAs ask r sigma tag part
        let b ← PhiCalculus.fetchAs ask r attr tag' part'
        k a b : Action Ref) frame s)
      ((do
        let a ← PhiCalculus.fetchAs ask' r sigma tag part
        let b ← PhiCalculus.fetchAs ask' r attr tag' part'
        k' a b : Action Ref) frame' s') :=
  here.unary agree fun a _ _ here =>
    here.bind (here.fetchAs agree r attr tag' part') fun b _ _ here _ => rest a b here

theorem methodResult (m : Method) (r : Ref) : Follows veiled anything
    (methodResult ask m r frame s) (methodResult ask' m r frame' s') := by
  cases m with
  | eq =>
      refine here.bind (here.fetch agree r sigma) fun a _ _ here _ => ?_
      refine here.bind ((here.holding a.items).fetch agree r "x") fun b t t' here _ => ?_
      refine asks ?_ (here.makes _)
      exact congrArg (Value.same · a b) (funext here.states.vertex)
  | int op =>
      have binaryInt : Follows veiled anything
          ((do
            let a ← fetchInt ask r sigma
            let b ← fetchInt ask r "x"
            Action.data (← Action.conclude (integerResult op a b)) : Action Ref) frame s)
          ((do
            let a ← fetchInt ask' r sigma
            let b ← fetchInt ask' r "x"
            Action.data (← Action.conclude (integerResult op a b)) : Action Ref) frame' s') := by
        refine here.binary agree fun a b _ _ here => ?_
        refine here.bind (here.concludes ?_) fun v _ _ here _ => here.makes v
        rw [Custody.refs_integerResult]
        exact nofun
      cases op <;> first | exact binaryInt | exact here.unary agree fun a _ _ here => here.makes _
  | float op =>
      have binaryFloat : Follows veiled anything
          ((do
            let a ← fetchFloat ask r sigma
            let b ← fetchFloat ask r "x"
            Action.data (realResult op a b) : Action Ref) frame s)
          ((do
            let a ← fetchFloat ask' r sigma
            let b ← fetchFloat ask' r "x"
            Action.data (realResult op a b) : Action Ref) frame' s') :=
        here.binary agree fun a b _ _ here => here.makes _
      cases op <;> first | exact binaryFloat | exact here.unary agree fun a _ _ here => here.makes _
  | negation => exact here.unary agree fun a _ _ here => here.makes _
  | conjunction => exact here.binary agree fun a b _ _ here => here.makes _
  | disjunction => exact here.binary agree fun a b _ _ here => here.makes _
  | choose =>
      refine here.unary agree fun a _ _ here => ?_
      exact here.bind (agree (.find r _) here) fun branch _ _ here _ =>
        here.asked agree (.read branch)
  | stringLength => exact here.unary agree fun a _ _ here => here.makes _
  | concat => exact here.binary agree fun a b _ _ here => here.makes _
  | bytesSize => exact here.unary agree fun a _ _ here => here.makes _
  | arrayLength => exact here.unary agree fun a _ _ here => here.makes _
  | element =>
      refine here.bind (here.fetchAs agree r sigma .array _) fun items _ _ here found => ?_
      refine here.bind ((here.holding items).fetchAs agree r "i" .int _) fun index _ _ here _ =>
        here.concludes fun x there => ?_
      obtain ⟨v, has, seen⟩ := found
      cases v <;> cases has
      exact seen x (Custody.refs_elementAt there)
  | find =>
      refine here.binary agree fun p text _ _ here => ?_
      exact here.bind (here.stringObjects _) fun found _ _ here _ => here.makes _

/-! ## Attempts -/

theorem signal (r : Ref) : Follows veiled anything
    (signal ask r frame s) (signal ask' r frame' s') := by
  refine here.bind (agree (.find r sigma) here) fun home _ _ here _ => ?_
  refine here.bind (agree (.read home) here) fun target _ _ here _ => ?_
  have here := here.holding [target]
  refine here.bind (agree (.find r "ex") here) fun argument _ _ here _ => ?_
  refine here.bind (agree (.read argument) here) fun payload _ _ here seen => ?_
  refine asks (here.states.vertex target) (.failure here.states (.same _) ?_)
  exact List.forall_mem_singleton.mpr seen

theorem partOf (r : Ref) (name : String) : Follows veiled (¬ veiled ·)
    (partOf ask r name frame s) (partOf ask' r name frame' s') := by
  refine here.bind (agree (.find r name) here) fun p _ _ here _ => ?_
  refine here.bind (agree (.read p) here) fun prototype _ _ here seen => ?_
  refine here.bind ((here.holding p.refs).copyOf agree seen) fun part _ _ here copied => ?_
  exact here.bind ((here.holding [part]).moveTo agree copied r) fun _ _ _ here _ =>
    here.answer copied

theorem runMain (r : Ref) : Follows veiled (fun v : Value => ∀ x ∈ v.items, ¬ veiled x)
    (runMain ask r frame s) (runMain ask' r frame' s') := by
  refine here.bind (here.partOf agree r "main") fun main _ _ here seen => ?_
  have here := here.holding [main]
  refine here.bind (here.placeAt agree seen 0) fun first _ _ here reached => ?_
  refine here.bind (here.alloc nofun) fun raiser _ _ here made => ?_
  exact here.bind (here.write agree reached made) fun _ _ _ here _ => agree (.dataize main) here

theorem runCatch (r payload : Ref) : Follows veiled (fun v : Value => ∀ x ∈ v.items, ¬ veiled x)
    (runCatch ask r payload frame s) (runCatch ask' r payload frame' s') := by
  refine here.bind ((here.holding [payload]).partOf agree r "catch") fun handler _ _ here _ => ?_
  exact here.bind (here.view _) fun applied _ _ here _ => agree (.dataize applied) here

theorem runFinally (r : Ref) : Follows veiled anything
    (runFinally ask r frame s) (runFinally ask' r frame' s') := by
  refine here.bind (here.partOf agree r "finally") fun final _ _ here _ => ?_
  exact here.bind (agree (.dataize final) here) fun _ _ _ here _ => here.answer trivial

theorem concludeAttempt {e e' : Except Failure Value} (r : Ref) (seen : Failure.Seen veiled
      (fun v : Value => ∀ x ∈ v.items, ¬ veiled x) e e') : Follows veiled anything
    (concludeAttempt ask r e frame s) (concludeAttempt ask' r e' frame' s') := by
  have same : outcomeRefs e' = outcomeRefs e := by
    cases seen with
    | ok => rfl
    | error like _ => cases like <;> rfl
  rw [PhiCalculus.concludeAttempt, PhiCalculus.concludeAttempt, same]
  refine here.bind ((here.holding (outcomeRefs e)).runFinally agree r) fun _ _ _ here _ => ?_
  exact here.bind (here.conclude seen) fun v _ _ here _ => here.makes v

theorem attempt (r : Ref) : Follows veiled anything
    (attempt ask r frame s) (attempt ask' r frame' s') := by
  refine here.recover (here.runMain agree r) fun {e e' t t'} here seen => ?_
  show Follows veiled anything ((handle ask r e >>= PhiCalculus.concludeAttempt ask r) frame t)
    ((handle ask' r e' >>= PhiCalculus.concludeAttempt ask' r) frame' t')
  by_cases aimed : ∃ payload, e = .error (.raise (t.heap.vertex r) payload)
  · obtain ⟨payload, rfl⟩ := aimed
    obtain rfl : e' = .error (.raise (t.heap.vertex r) payload) := by
      cases seen with
      | error like _ => rw [like.eq rfl]
    have handled' : handle ask' r (.error (.raise (t.heap.vertex r) payload)) frame' t' =
        observe (PhiCalculus.runCatch ask' r payload) frame' t' := by
      rw [← here.states.vertex r]
      exact handle_aimed payload
    rw [bind_apply, bind_apply, handled', handle_aimed, ← bind_apply, ← bind_apply]
    exact here.recover (here.runCatch agree r payload) fun here seen =>
      here.concludeAttempt agree r seen
  · have other : ∀ payload, e ≠ .error (.raise (t.heap.vertex r) payload) :=
      fun payload same => aimed ⟨payload, same⟩
    have other' : ∀ payload, e' ≠ .error (.raise (t'.heap.vertex r) payload) := by
      rintro payload rfl
      rw [here.states.vertex r] at seen
      cases seen with
      | error like _ =>
          cases like with
          | same => exact other payload rfl
    rw [bind_of_answer (handle_other other), bind_of_answer (handle_other other')]
    exact here.concludeAttempt agree r seen

/-! ## Expressions -/

theorem evalAll (self : Ref) (es : List Expr) : Follows veiled anything
    (evalAll ask self es frame s) (evalAll ask' self es frame' s') := by
  induction es generalizing frame frame' s s' with
  | nil => exact here.answer trivial
  | cons e rest ih =>
      refine here.bind (agree (.eval e self) here) fun r _ _ here _ => ?_
      exact here.bind (ih (here.holding [r])) fun refs _ _ here _ => here.answer trivial

omit agree in
theorem labelled (type label : String) (v : Value) : Follows veiled anything
    (labelled type label v frame s) (labelled type label v frame' s') := by
  rw [Action.labelled, Action.labelled, here.states.registry]
  rcases best : s.registry.bestOf type label with ⟨f | vertex, registry⟩
  · have states : State.Veils veiled { s with registry := registry }
        { s' with registry := registry } := { here.states with registry := rfl }
    have plain : f.refs = [] := by
      unfold Registry.bestOf at best
      split at best <;> cases best <;> rfl
    exact (here.go states).fails plain
  · have noView (w : View) (x : Ref) (same : Kind.data v = .view w (some x)) : ¬ veiled x := by
      cases same
    obtain ⟨place, states⟩ := here.states.push (c := ⟨vertex, .data v⟩) noView registry
    dsimp only
    rw [place]
    exact .answer states trivial

omit agree in
theorem literal (type text : String) : Follows veiled anything
    (literal type text frame s) (literal type text frame' s') := by
  unfold PhiCalculus.literal
  cases TypeTag.ofName? type with
  | none => exact here.fails rfl
  | some tag =>
      dsimp only
      cases Value.parse tag text with
      | error fault => exact here.fails rfl
      | ok v =>
          dsimp only
          cases v.label with
          | none => exact here.fails rfl
          | some label => exact here.labelled type label v

theorem evalSlots (self : Ref) (attrs : List (String × SlotExpr)) (slots : Slots) :
    Follows veiled anything (evalSlots ask self slots attrs frame s)
      (evalSlots ask' self slots attrs frame' s') := by
  induction attrs generalizing slots frame frame' s s' with
  | nil => exact here.answer trivial
  | cons attr rest ih =>
      obtain ⟨name, slot⟩ := attr
      cases slot with
      | bound e =>
          exact here.bind (agree (.eval e self) here) fun r _ _ here _ => ih (here.holding [r]) _
      | _ => exact ih here _

theorem buildObject (self : Ref) (form : String) (home : Option Expr)
    (attrs : List (String × SlotExpr)) : Follows veiled anything
      (buildObject ask self form home attrs frame s)
      (buildObject ask' self form home attrs frame' s') := by
  have builds (t : Table) {frame frame' : Frame} {s s' : State}
      (here : Abreast veiled frame frame' s s') : Follows veiled anything
        (Action.alloc (.table t) frame s) (Action.alloc (.table t) frame' s') :=
    (here.alloc (k := .table t) nofun).weaken fun _ _ _ _ => trivial
  cases home with
  | none =>
      exact here.bind (here.evalSlots agree self attrs []) fun slots _ _ here _ => builds _ here
  | some e =>
      refine here.bind (agree (.eval e self) here) fun home _ _ here _ => ?_
      exact here.bind ((here.holding [home]).evalSlots agree self attrs []) fun slots _ _ here _ =>
        builds _ here

theorem evalExpr (seen : ¬ veiled r) {e : Expr} (near : ∀ name, e = .name name →
      s.heap.slot? r name = none → ¬ s.Strays veiled frame.held name r) : Follows veiled anything
    (evalExpr ask r e frame s) (evalExpr ask' r e frame' s') := by
  have evaluates {γ : Type} {post : γ → Prop} (e : Expr) {k k' : Ref → Action γ}
      (rest : ∀ o {t t'}, Abreast veiled frame frame' t t' → ¬ veiled o →
        Follows veiled post (k o frame t) (k' o frame' t')) :
      Follows veiled post ((ask (.eval e r) >>= k) frame s) ((ask' (.eval e r) >>= k') frame' s') :=
    here.bind (agree (.eval e r) here) fun o _ _ here seen => rest o here seen
  have views (v : View) {t t' : State} (here : Abreast veiled frame frame' t t') :
      Follows veiled anything (Action.view v frame t) (Action.view v frame' t') :=
    (here.view v).weaken fun _ _ _ _ => trivial
  cases e with
  | self => exact here.answer trivial
  | depth =>
      show Follows veiled anything (Action.data (countValue frame.depth) frame s)
        (Action.data (countValue frame'.depth) frame' s')
      rw [here.depth]
      exact here.makes _
  | object o => exact here.answer trivial
  | data v => exact here.makes v
  | literal type text => exact here.literal type text
  | array items => exact here.bind (here.evalAll agree r items) fun refs _ _ here _ => here.makes _
  | global name =>
      refine asks (here.states.global? name) ?_
      cases s.global? name with
      | some o => exact here.answer trivial
      | none => exact here.fails rfl
  | name n => exact here.lookUp agree seen (near n rfl)
  | get e name =>
      refine evaluates e fun o _ _ here _ => ?_
      refine here.bind (agree (.find o name) here) fun p _ _ here _ => ?_
      exact (here.holding [o]).asked agree (.read p)
  | method e name => exact evaluates e fun o _ _ here _ => views _ here
  | bind e key value =>
      refine evaluates e fun base _ _ here _ => ?_
      exact here.bind (agree (.eval value r) (here.holding [base])) fun argument _ _ here _ =>
        views _ here
  | copied e => exact evaluates e fun o _ _ here _ => views _ here
  | unvar e => exact evaluates e fun o _ _ here _ => views _ here
  | copy e =>
      exact evaluates e fun o _ _ here seen => ((here.holding [o]).copyOf agree seen).weaken
        fun _ _ _ _ => trivial
  | resolved e =>
      exact evaluates e fun o _ _ here seen =>
        (here.settle agree seen).weaken fun _ _ _ _ => trivial
  | force e =>
      exact evaluates e fun o _ _ here _ => here.bind (agree (.dataize o) here) fun v _ _ here _ =>
        here.makes v
  | fail message => exact here.fails rfl
  | raise target payload =>
      refine evaluates target fun o _ _ here _ => ?_
      refine here.bind (agree (.eval payload r) (here.holding [o])) fun p _ _ here seen' => ?_
      refine asks (here.states.vertex o) (.failure here.states (.same _) ?_)
      exact List.forall_mem_singleton.mpr seen'
  | count counter e =>
      have counted : Follows veiled anything (Action.change (·.count counter) frame s)
          (Action.change (·.count counter) frame' s') := .answer (here.states.count counter) trivial
      exact here.bind counted fun _ _ _ here _ => here.asked agree (.eval e r)
  | counter name =>
      refine asks ?_ (here.makes _)
      rw [State.counter, State.counter, here.states.counters]
  | build form home attrs => exact here.buildObject agree r form home attrs
  | native n =>
      cases n with
      | method m => exact here.methodResult agree m r
      | attempt => exact here.attempt agree r
      | signal => exact here.signal agree r

end

end Abreast

end

end PhiCalculus
