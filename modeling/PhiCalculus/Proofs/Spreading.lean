import PhiCalculus.Proofs.Arguments
import PhiCalculus.Proofs.Marks
import PhiCalculus.Proofs.Owners

/-!
# Spreading arguments

Where a slot takes any number of arguments, an argument adds itself, or the elements of an array if
it is to be spread (`State.Secluded.collects`).  In runs of checked programs that is decided by the
node of the argument and by what it hands on (`Program.arguments_are_spread`).

The flag of the node does not decide alone: an object can hand on an array that it was given to be
spread, without the flag, and it is spread (`Program.flag_does_not_decide`).
-/

set_option autoImplicit false

namespace PhiCalculus

open PhiCalculus.Action

/-! ## What is collected -/

/-- It ends in an object with just that one item more in the slot. -/
def Outcome.AddsItem (name : String) (old : List Ref) (value : Ref) (o : Outcome Ref) : Prop :=
  ∃ r t, o = .answer r t ∧ t.heap.slot? r name = some (.vararg (old ++ [value]))

/-- It ends in an object with just the elements of an array more in the slot, if that is what the
argument is dataized to.  It fails if the argument is no array or dataizing it fails, and it is cut
short only there. -/
inductive Outcome.AddsElements (name : String) (old : List Ref) (value : Ref) (steps : Nat)
    (s : State) : Outcome Ref → Prop where
  | elements {r : Ref} {items : List Ref} {t u : State} :
      Dataizes value s t (.answer (.array items) u) →
        t.heap.slot? r name = some (.vararg (old ++ items)) →
          AddsElements name old value steps s (.answer r t)
  | noArray {v : Value} {t u : State} : v.tag ≠ .array → Dataizes value s t (.answer v u) →
      AddsElements name old value steps s (.failure (.typeMismatch name .array v.tag) t)
  | fails {f : Failure} {t u : State} : Dataizes value s t (.failure f u) →
      AddsElements name old value steps s (.failure f t)
  | unfinished {frame : Frame} {t u : State} : s.heap.Grows t.heap →
      answerWithin steps (.dataize value) frame t = @Outcome.unfinished Value u →
        AddsElements name old value steps s (@Outcome.unfinished Ref u)

namespace State.Secluded

variable {aside : Ref → Prop} {known : List Ref} {s : State} {base value : Ref} {key : Key}
  {name : String} {old : List Ref}

/-- **What an argument adds where arguments are collected.** -/
theorem collects (here : s.Secluded aside known) (there : base ∈ known) (given : value ∈ known)
    (concrete : (s.heap.cell base).isView = false)
    (lands : (s.heap.cell base).slots.landing? key = some name)
    (vararg : s.heap.slot? base name = some (.vararg old)) (steps : Nat) (frame : Frame) :
    let bound := bindTo (answerWithin steps) base key value frame s
    ((s.heap.cell value).isUnvar = false → bound.AddsItem name old value) ∧
      ((s.heap.cell value).isUnvar = true → bound.AddsElements name old value steps s) := by
  intro bound
  have collects : (s.heap.cell base).slots.collecting? key = some name :=
    Slots.collecting?_eq_some.mpr ⟨lands, old, vararg⟩
  have matched : Matched s base [(key, value)] steps bound :=
    (here.bound there given concrete steps frame).matched
  clear_value bound
  have never {C : Prop} (single : (s.heap.cell value).isUnvar = false)
      (marked : (s.heap.cell value).isUnvar = true) : C :=
    absurd (single.symm.trans marked) Bool.false_ne_true
  cases matched with
  | @accepted o t like taken =>
      obtain ⟨-, items, adds, took⟩ := taken.single
      have added := adds name collects
      cases items with
      | error f => cases (Slots.take_unspread lands vararg).symm.trans took
      | ok items =>
          have copied : (s.heap.cell base).slots.copy.find? name = some (.vararg old) := by
            rw [Slots.find?_copy, show (s.heap.cell base).slots.find? name = _ from vararg]
            rfl
          have slots := Except.ok.inj ((Slots.take_vararg lands vararg).symm.trans took)
          have found : t.heap.slot? o name = some (.vararg (old ++ items)) := by
            rw [Heap.slot?, ← slots]
            exact Slots.find?_set_self copied
          cases added with
          | itself single =>
              exact ⟨fun _ => ⟨o, t, rfl, found⟩, never single⟩
          | elements marked dataizes =>
              exact ⟨(never · marked), fun _ => .elements dataizes found⟩
  | @refused o t refusal like taken =>
      obtain ⟨-, items, adds, took⟩ := taken.single
      have added := adds name collects
      cases items with
      | ok items => cases (Slots.take_vararg lands vararg).symm.trans took
      | error f =>
          have fails := Except.error.inj ((Slots.take_unspread lands vararg).symm.trans took)
          rw [← fails]
          cases added with
          | noArray marked other dataizes =>
              exact ⟨(never · marked), fun _ => .noArray other dataizes⟩
          | fails marked dataizes =>
              exact ⟨(never · marked), fun _ => .fails dataizes⟩
  | @unfinished before after key' value' t u v slots around is taken collects' marked later cut =>
      obtain ⟨rfl, same⟩ := List.append_eq_singleton_iff.mp is.symm |>.resolve_right
        (fun two => List.cons_ne_nil _ _ two.2)
      cases same
      cases taken
      exact ⟨(never · marked), fun _ => .unfinished later cut⟩

/-- What is behind a known object is known then, and it is no view. -/
theorem settled (here : s.Secluded aside known) (there : base ∈ known) {steps : Nat} {frame : Frame}
    {b : Ref} {t : State} (ends : settle (answerWithin steps) base frame s = .answer b t) :
    t.Secluded aside (b :: known) ∧ (t.heap.cell b).isView = false ∧ s.heap.Grows t.heap := by
  cases isView : (s.heap.cell base).isView with
  | false =>
      cases (settle_of_concrete isView).symm.trans ends
      exact ⟨here.fewer fun x is => (List.mem_cons.mp is).elim (fun same => same ▸ there) id,
        isView, Heap.Grows.refl _⟩
  | true =>
      have asked : settle (answerWithin steps) base frame s =
          answerWithin steps (.resolve base) frame s := by
        rw [settle, bind_of_answer (cell_apply base frame s), isView]
        rfl
      rw [asked] at ends
      have left := here.answered (.resolve base) (List.forall_mem_singleton.mpr there) trivial
        frame steps
      have grown := Custody.grows_answerWithin steps (.resolve base) frame s
      have sound := Custody.concrete_answerWithin steps (.resolve base) frame s
      rw [ends] at left grown sound
      exact ⟨left.1, sound b t rfl, grown⟩

end State.Secluded

/-! ## Arguments in runs -/

/-- The evaluation of an object with an argument. -/
def Call.ofArgument (e : Expr) (key : Key) (n : Node) (self : Ref) (steps : Nat) (frame : Frame)
    (s : State) : Call :=
  ⟨.request (.eval (.bind e key n.expr) self), steps, frame, s⟩

/-- Arguments are spread just where that is said.  Let an object with an argument be evaluated in any
run of the program: this gives a view that binds the argument.  Whenever the object of the view is
derived and the argument lands on a slot that takes any number of them, the argument adds the
elements of an array if it is said to be spread where it was evaluated, and itself if not. -/
def Program.SpreadsWhere (p : Program) (spread : Heap → Ref → Node → Prop) : Prop :=
  ∀ ⦃earlier : List String⦄ ⦃depth : Nat⦄ ⦃tracing : Bool⦄ ⦃root : String⦄ ⦃limit : Nat⦄ ⦃e : Expr⦄
    ⦃key : Key⦄ ⦃n : Node⦄ ⦃self w : Ref⦄ ⦃steps : Nat⦄ ⦃frame : Frame⦄ ⦃s t : State⦄,
    (p.runOf earlier ⟨depth, tracing, []⟩ root limit).Within
        (.ofArgument e key n self steps frame s) →
      (Call.ofArgument e key n self steps frame s).outcome = .answer w t →
        ∃ base value, (t.heap.cell w).kind = .view (.bind base key value) none ∧
          ∀ ⦃m : Moment⦄ ⦃steps : Nat⦄ ⦃around : Frame⦄ ⦃b : Ref⦄ ⦃u : State⦄ ⦃name : String⦄
            ⦃old : List Ref⦄, p.Visits m → t.heap.Grows m.state.heap →
            settle (answerWithin steps) base around m.state = .answer b u →
              (u.heap.cell b).slots.landing? key = some name →
                u.heap.slot? b name = some (.vararg old) →
                  let derived :=
                    derivedBy (answerWithin steps) (.bind base key value) around m.state
                  (¬ spread t.heap self n → derived.AddsItem name old value) ∧
                    (spread t.heap self n → derived.AddsElements name old value steps u)

namespace Program

variable {p : Program} {s t : State} {self w : Ref} {e value : Expr} {key : Key} {n : Node}
  {frame : Frame} {steps : Nat}

/-- An expression with an argument is evaluated for an instance of an abstraction. -/
theorem grounded_of_fits (fits : s.Fits p) (owners : s.OwnersConcrete)
    (request : (Request.eval (.bind e key value) self).Fits p s.heap) :
    (Expr.bind e key value).Written ∧ s.heap.Grounded self ∧
      ∀ name origin, s.heap.slot? self name ≠ some (.composite origin) := by
  obtain ⟨ordinary, role, plays, computes⟩ := request
  rcases plays.evaluates fits.checked computes with
    ⟨decl, outer, _, _, rfl, scopes, -, -, written⟩ | ⟨n, -, same⟩
  · refine ⟨written, ⟨?_, fun o owned => (owners self o owned).2, fun o homed => ?_⟩,
      fun name origin found => ?_⟩
    · obtain ⟨home, t, kind, -⟩ := plays.made
      exact ⟨t, kind⟩
    · obtain ⟨d, rest, -, around⟩ := plays.written_of_home homed
      obtain ⟨home, t, kind, -⟩ := around.made
      exact isView_of_table kind
    · obtain ⟨home, t, kind, -, slots⟩ := plays.made
      rw [Heap.slot?, Cell.slots, kind] at found
      obtain ⟨slot, declared, made⟩ := slots.sound name _ (Slots.mem_of_find? found)
      cases made
      rcases (scopes.written fits.checked).plain.kinds name _ declared with is | is | ⟨_, is⟩ <;>
        cases is
  · cases same

/-- When a part of an expression was evaluated, everything is still as in a run. -/
theorem holds_of_part (frame : Frame) (fits : s.Fits p)
    (request : (Request.eval e self).Fits p s.heap) (written : e.Written)
    (concrete : (s.heap.cell self).isView = false)
    (here : Moment.custody.withOwners.Holds Moment.first (self :: frame.held) s) {r : Ref}
    (ends : answerWithin steps (.eval e self) frame s = .answer r t) :
    t.Fits p ∧ Moment.custody.withOwners.Holds Moment.first (r :: self :: frame.held) t ∧
      s.heap.Grows t.heap := by
  have asked : (answerWithin steps (.eval e self) frame s).state.Fits p :=
    have alike := Likeness.asks_same p frame.held steps (.eval e self)
      (Likeness.at_same fits frame) request
    alike.fits
  have proper : (Request.eval e self).Proper frame.held s := by
    refine ⟨request.1.exist, concrete, ?_⟩
    rw [written.refs]
    exact nofun
  have grown := Custody.grows_answerWithin steps (.eval e self) frame s
  let setting : Moment.custody.withOwners.Setting := .of frame
  have holds : Moment.custody.withOwners.Holds Moment.first
      ((Request.eval e self).told (answerWithin steps (.eval e self) frame s) ++ self :: frame.held)
        (answerWithin steps (.eval e self) frame s).state :=
    (Custody.keeps_answerWithin steps).holds (show Request.Proper setting.held s _ from proper)
      Moment.first here
  rw [ends] at asked grown holds
  exact ⟨asked, holds, grown⟩

/-- **What an argument of a run is**: there is a view that binds it, and it is to be spread if its
node has the flag or hands on what has it. -/
theorem argument_evaluated (fits : s.Fits p)
    (request : (Request.eval (.bind e key n.expr) self).Fits p s.heap)
    (here : Moment.custody.withOwners.Holds Moment.first (self :: frame.held) s)
    (ends : (Call.ofArgument e key n self steps frame s).outcome = .answer w t) :
    ∃ base value, (t.heap.cell w).kind = .view (.bind base key value) none ∧
      base.index < t.heap.size ∧ value.index < t.heap.size ∧
        ((t.heap.cell value).isUnvar = true ↔ t.heap.Spreads self n) := by
  let W := Moment.custody.withOwners
  have evaluated : evalExpr (answerWithin steps) self (.bind e key n.expr)
    (frame.holding [self]) s = .answer w t := ends
  obtain ⟨base, s₁, first, rest⟩ := bind_eq_answer.mp evaluated
  obtain ⟨value, s₂, second, last⟩ := bind_eq_answer.mp rest
  have part {e' : Expr} (part : ∀ {whole : Expr}, whole.Part (.bind e key n.expr) → whole.Part e') :
      (Request.eval e' self).Fits p s.heap := by
    obtain ⟨ordinary, role, plays, computes⟩ := request
    exact ⟨ordinary, role, plays, computes.part part⟩
  obtain ⟨written, grounded, -⟩ := grounded_of_fits fits here.2 request
  obtain ⟨table, kind⟩ := grounded.table
  have concrete := isView_of_table kind
  cases written with
  | bind key writtenBase writtenValue =>
      obtain ⟨fits₁, here₁, grown₁⟩ := holds_of_part (frame.holding [self]) fits
        (part .base) writtenBase concrete
        (W.fewer here fun x there => by simpa [Frame.holding] using there) first
      obtain ⟨-, grounded, plain⟩ := grounded_of_fits fits₁ here₁.2 (request.grows grown₁)
      obtain ⟨-, here₂, grown₂⟩ := holds_of_part ((frame.holding [self]).holding [base])
        fits₁ ((part .argument).grows grown₁) writtenValue
        ((grown₁.cell self request.1.exist).isView.trans concrete)
        (W.fewer here₁ fun x there => by simpa [Frame.holding, or_left_comm] using there) second
      have grown₃ := grows_of_alloc last
      have there : value.index < s₂.heap.size := W.exist here₂ List.mem_cons_self
      refine ⟨base, value, kind_of_alloc last, ?_, Nat.lt_of_lt_of_le there grown₃.size, ?_⟩
      · exact Nat.lt_of_lt_of_le (W.exist here₁ List.mem_cons_self) (grown₂.trans grown₃).size
      · exact Node.isUnvar_iff (Nat.lt_of_lt_of_le request.1.exist grown₁.size) grounded plain
          second there grown₃

/-- **Arguments are spread where they have the flag, or hand on what has it.**  In runs of a checked
program, an argument that lands on a slot which takes any number of them adds the elements of an
array if its node has the flag for spreading.  It adds them as well if the node is nothing but a name
that the object itself declares, with an array to be spread in the slot of that name.  In every other
case it adds itself, whatever it is; so a name of an enclosing object is never spread. -/
theorem arguments_are_spread (checked : p.check = .ok ()) : p.SpreadsWhere Heap.Spreads := by
  intro earlier depth tracing root limit e key n self w steps frame s t within ends
  have fits := p.fits_of_within checked within
  have holds := p.holds_of_within checked within
  have request : (Request.eval (.bind e key n.expr) self).Fits p s.heap := fits.activity
  obtain ⟨base, value, kind, there, given, marks⟩ :=
    argument_evaluated fits.state request holds ends
  refine ⟨base, value, kind, ?_⟩
  intro m steps around b u name old visits later settled lands vararg
  have known : ∀ x ∈ [base, value], x.index < m.state.heap.size := by
    intro x is
    rcases List.mem_pair.mp is with rfl | rfl
    · exact Nat.lt_of_lt_of_le there later.size
    · exact Nat.lt_of_lt_of_le given later.size
  have here : m.state.Secluded (fun _ => False) [base, value] :=
    .of_intact (visits.before checked).intact known fun _ => id
  obtain ⟨here', concrete, grown⟩ := here.settled List.mem_cons_self settled
  have collects := here'.collects List.mem_cons_self
    (show value ∈ [b, base, value] by simp) concrete lands vararg steps around
  have same : (u.heap.cell value).isUnvar = (t.heap.cell value).isUnvar :=
    ((later.trans grown).cell value given).isUnvar
  have derived : derivedBy (answerWithin steps) (.bind base key value) around m.state =
      bindTo (answerWithin steps) b key value around u := bindTo_of_settled settled concrete
  rw [same, ← Bool.not_eq_true, marks] at collects
  intro bound
  rw [show bound = _ from derived]
  exact collects

end Program

/-! ## A program that relays what it is given -/

/-- How a request is answered does not depend on the steps, if they are enough. -/
theorem answerWithin_eq {α : Type} {q : Request α} {frame : Frame} {s : State} (steps steps' : Nat)
    (ends : (answerWithin steps q frame s).isUnfinished = false)
    (ends' : (answerWithin steps' q frame s).isUnfinished = false) :
    answerWithin steps q frame s = answerWithin steps' q frame s := by
  have more {n m : Nat} (le : n ≤ m) (ends : (answerWithin n q frame s).isUnfinished = false) :
      answerWithin m q frame s = answerWithin n q frame s := by
    let never : State → Bool := fun _ => false
    have upto : (answeredUntil .ofExpressions never n q frame s).Upto State.Grows
        (answeredUntil .ofExpressions never m q frame s) :=
      upto_answeredUntil State.Grows.refl State.Grows.trans State.Changes.grows .ofExpressions
        (fun _ => id) le q frame s
    rw [answeredUntil_ofExpressions, answeredUntil_ofExpressions] at upto
    generalize answerWithin m q frame s = o, answerWithin n q frame s = o' at upto ends ⊢
    cases upto with
    | same => rfl
    | short _ => cases ends
  exact (more (Nat.le_max_left steps steps') ends).symm.trans (more (Nat.le_max_right _ _) ends')

/-- A program with an object that takes any number of arguments, and another one that gives it its
own argument.  This one is given an array to be spread. -/
def Program.relaying : Program where
  name := "app"
  objects :=
    [.abstraction (some "count") 1 [⟨"items", true⟩]
      [.application (some "@") 2 (.method "length")
        [.application none 3 (.ref "items") [] false false] false false],
    .abstraction (some "relay") 4 [⟨"xs", false⟩]
      [.application (some "@") 5 (.ref "count")
        [.application none 6 (.ref "xs") [] false false] false false],
    .abstraction (some "app") 7 []
      [.application (some "@") 8 (.ref "relay")
        [.application none 9 .array [.data none 10 "int" "1", .data none 11 "int" "2",
          .data none 12 "int" "3"] false true] false false]]

namespace Program

/-- The node that stands for the argument of the one object and gives it to the other. -/
def relayed : Node := .application none 6 (.ref "xs") [] false false

/-- How many items the argument adds to what has been collected. -/
def itemsAdded (base value : Ref) (key : Key) (t : State) : Option Nat :=
  match settle (answerWithin 20) base {} t with
  | .answer b u =>
    match (u.heap.cell b).slots.landing? key with
    | some name =>
      match u.heap.slot? b name, derivedBy (answerWithin 20) (.bind base key value) {} t with
      | some (.vararg old), .answer o v =>
        match v.heap.slot? o name with
        | some (.vararg items) => some (items.length - old.length)
        | _ => none
      | _, _ => none
    | none => none
  | _ => none

/-- Whether an object is evaluated with that argument, and the argument adds three items to it. -/
def marksRelayed {α : Type} : Request α → Frame → State → Bool
  | .eval (.bind e key (.name n)) self, frame, s =>
    n == "xs" &&
      match answerWithin 20 (.eval (.bind e key (.name n)) self) frame s with
      | .answer w t =>
        match (t.heap.cell w).kind with
        | .view (.bind base key' value) none => key' == key && itemsAdded base value key t == some 3
        | _ => false
      | _ => false
  | _, _, _ => false

theorem itemsAdded_eq_some {base value : Ref} {key : Key} {t : State} {k : Nat}
    (adds : itemsAdded base value key t = some k) :
    ∃ b u name old o v items, settle (answerWithin 20) base {} t = .answer b u ∧
      (u.heap.cell b).slots.landing? key = some name ∧
        u.heap.slot? b name = some (.vararg old) ∧
          derivedBy (answerWithin 20) (.bind base key value) {} t = .answer o v ∧
            v.heap.slot? o name = some (.vararg items) ∧ k = items.length - old.length := by
  rw [itemsAdded] at adds
  split at adds
  · next b u settled =>
    split at adds
    · next name lands =>
      split at adds
      · next old o v vararg derived =>
        split at adds
        · next items found =>
          exact ⟨b, u, name, old, o, v, items, settled, lands, vararg, derived, found,
            (Option.some.inj adds).symm⟩
        · cases adds
      · cases adds
    · cases adds
  · cases adds

/-- In the run of the program, the argument is evaluated, and it adds three items. -/
theorem relaying_adds : ∃ e key self steps frame s w t base value,
    (relaying.runOf [] {} "app" stepLimit).Within (.ofArgument e key relayed self steps frame s) ∧
      (Call.ofArgument e key relayed self steps frame s).outcome = .answer w t ∧
        (t.heap.cell w).kind = .view (.bind base key value) none ∧
          itemsAdded base value key t = some 3 := by
  let run : Call := relaying.runOf [] {} "app" stepLimit
  have short : ¬ run.Unmarked marksRelayed := fun same =>
    absurd (congrArg Outcome.isUnfinished same) (by decide +kernel)
  have ends : run.outcome.isUnfinished = false := by decide +kernel
  obtain ⟨α, q, steps, frame, s, within, mark⟩ := (Call.unmarked_or_within _).resolve_left short
  have finished := Call.Within.finished within ends
  cases q with
  | eval e self =>
      cases e with
      | bind e key argument =>
          cases argument with
          | name n =>
              simp only [marksRelayed, Bool.and_eq_true, beq_iff_eq] at mark
              obtain ⟨rfl, mark⟩ := mark
              split at mark
              · next w t evaluated =>
                have outcome : (Call.ofArgument e key relayed self steps frame s).outcome =
                    .answer w t := by
                  refine (answerWithin_eq (steps + 1) 20 finished ?_).trans evaluated
                  rw [evaluated]
                  rfl
                split at mark
                · next base key' value kind =>
                  simp only [Bool.and_eq_true, beq_iff_eq] at mark
                  obtain ⟨rfl, adds⟩ := mark
                  exact ⟨e, key', self, steps, frame, s, w, t, base, value, within, outcome, kind,
                    adds⟩
                · cases mark
              · cases mark
          | _ => cases mark
      | _ => cases mark
  | _ => cases mark

/-- Wherever arguments are spread, this one is, and it adds the three elements of the array. -/
theorem relayed_is_spread {spread : Heap → Ref → Node → Prop}
    (spreads : relaying.SpreadsWhere spread) : ∃ e key self steps frame s w t base value,
      (relaying.runOf [] {} "app" stepLimit).Within (.ofArgument e key relayed self steps frame s) ∧
        (Call.ofArgument e key relayed self steps frame s).outcome = .answer w t ∧
          (t.heap.cell w).kind = .view (.bind base key value) none ∧
            spread t.heap self relayed ∧ ∃ o u name old items,
              derivedBy (answerWithin 20) (.bind base key value) {} t = .answer o u ∧
                u.heap.slot? o name = some (.vararg (old ++ items)) ∧ items.length = 3 := by
  obtain ⟨e, key, self, steps, frame, s, w, t, base, value, within, outcome, kind, adds⟩ :=
    relaying_adds
  obtain ⟨b, u, name, old, o, v, all, settled, lands, vararg, derived, found, three⟩ :=
    itemsAdded_eq_some adds
  obtain ⟨base', value', kind', derives⟩ := spreads within outcome
  cases kind.symm.trans kind'
  let now : Moment := (Instant.done (.ofArgument e key relayed self steps frame s)).moment
  have state : now.state = t := congrArg Outcome.state outcome
  have grown : t.heap.Grows now.state.heap := state ▸ Heap.Grows.refl _
  obtain ⟨itself, elements⟩ := derives (.done within : relaying.Visits now) grown
    (state ▸ settled) lands vararg
  rw [state, derived] at itself elements
  have spread : spread t.heap self relayed := by
    by_contra other
    obtain ⟨o, v, is, added⟩ := itself other
    cases is
    cases found.symm.trans added
    simp at three
  refine ⟨e, key, self, steps, frame, s, w, t, base, value, within, outcome, kind, spread, ?_⟩
  cases elements spread with
  | @elements _ items _ _ _ added =>
      cases found.symm.trans added
      exact ⟨o, v, name, old, items, derived, added, by simpa using three.symm⟩

/-- The array is spread, although the node that relays it does not have the flag. -/
theorem relayed_array_is_spread : ∃ e key self steps frame s w t base value,
    (relaying.runOf [] {} "app" stepLimit).Within (.ofArgument e key relayed self steps frame s) ∧
      (Call.ofArgument e key relayed self steps frame s).outcome = .answer w t ∧
        (t.heap.cell w).kind = .view (.bind base key value) none ∧
          t.heap.Spreads self relayed ∧ ∃ o u name old items,
            derivedBy (answerWithin 20) (.bind base key value) {} t = .answer o u ∧
              u.heap.slot? o name = some (.vararg (old ++ items)) ∧ items.length = 3 :=
  relayed_is_spread (arguments_are_spread (by decide))

/-- The flag alone does not decide what is spread. -/
theorem flag_does_not_decide : relaying.check = .ok () ∧
    ¬ relaying.SpreadsWhere fun _ _ n => n.unvar = true := by
  refine ⟨by decide, fun spreads => ?_⟩
  obtain ⟨_, _, _, _, _, _, _, _, _, _, _, _, _, flag, -⟩ := relayed_is_spread spreads
  exact Bool.false_ne_true flag

end Program

end PhiCalculus
