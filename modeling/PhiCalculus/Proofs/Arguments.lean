import PhiCalculus.Proofs.Binding
import PhiCalculus.Proofs.Histories

/-!
# Chains of bound arguments

Arguments are bound to an object one on the other: each by a view of the view before, up to the
object (`Heap.Chain`).  Looking behind the last view looks behind the views before it first, so the
arguments are bound in their order (`State.Secluded.resolved`).  What comes of them is what they
make of the slots of the object (`Moment.arguments_bind_as_they_match`).
-/

set_option autoImplicit false

namespace PhiCalculus

open PhiCalculus.Action

variable {ask : Answerer} {s t : State} {frame : Frame} {base v w value : Ref} {key : Key}
  {args : List (Key × Ref)} {views known : List Ref}

/-! ## Views that bind an argument -/

theorem bindTo_of_unfinished (cut : settle ask v frame s = @Outcome.unfinished _ t) :
    bindTo ask v key value frame s = @Outcome.unfinished _ t := by
  rw [bindTo, bind_of_unfinished cut]

/-- What is behind a view that binds an argument, if nothing is kept in it yet. -/
theorem settle_bind {steps : Nat} (kind : (s.heap.cell w).kind = .view (.bind v key value) none) :
    settle (answerWithin (steps + 1)) w frame s =
      (bindTo (answerWithin steps) v key value >>= fun derived =>
        keepResult w derived >>= fun kept => settle (answerWithin steps) kept)
          (frame.holding [w]) s := by
  have isView : (s.heap.cell w).isView = true := by rw [Cell.isView, kind]
  have resolved : resolveView (answerWithin steps) w (frame.holding [w]) s = _ :=
    bind_of_answer (cell_apply w (frame.holding [w]) s) _
  rw [kind] at resolved
  rw [settle, bind_of_answer (cell_apply w frame s), isView]
  exact resolved

/-! ## Chains -/

/-- The views bind the arguments to an object, one on the other, and nothing is kept in them. -/
inductive Heap.Chain (h : Heap) (base : Ref) : List (Key × Ref) → Ref → List Ref → Prop where
  | base : Chain h base [] base []
  | bind {args : List (Key × Ref)} {v w value : Ref} {views : List Ref} {key : Key} :
      Chain h base args v views → (h.cell w).kind = .view (.bind v key value) none →
        Chain h base (args ++ [(key, value)]) w (w :: views)

theorem Heap.Chain.last {h : Heap} (chain : h.Chain base args v views) : v = base ∨ v ∈ views := by
  cases chain with
  | base => exact .inl rfl
  | bind _ _ => exact .inr List.mem_cons_self

namespace State.Secluded

/-- A view that was set aside may become known when it keeps its result. -/
theorem kept {keep : Ref → Prop} {op : View} {c : Ref}
    (here : s.Secluded (fun x => keep x ∨ x = w) (c :: known)) (other : ¬ keep w)
    (kind : (s.heap.cell w).kind = .view op none) (refs : ∀ x ∈ op.refs, ¬ keep x) :
    let t : State := { s with heap := s.heap.setResult w c }
    t.Secluded keep (c :: known) ∧ s.heap.Grows t.heap ∧ t.heap.cell c = s.heap.cell c ∧
      ∀ r, keep r → t.heap.cell r = s.heap.cell r := by
  intro t
  have free (v : View) (kept : Ref) : (s.heap.cell w).kind ≠ .view v (some kept) := by
    rw [kind]
    nofun
  have exist : w.index < s.heap.size := here.1.before w (.inr rfl)
  have apart : c ≠ w := fun same => (here.1.of_known List.mem_cons_self).2 (.inr same)
  have revealed := here.reveal exist fun x refers is => by
    rw [Cell.refs, Cell.home?, kind] at refers
    rcases refers with refers | homed
    · exact is.resolve_left (refs x (by simpa using refers))
    · cases homed
  have known' := revealed.congr keep fun x =>
    ⟨fun is => is.1.resolve_right is.2, fun is => ⟨.inl is, fun same => other (same ▸ is)⟩⟩
  refine ⟨(of_custody (seclusion.result known' List.mem_cons_self
    (List.mem_cons_of_mem _ List.mem_cons_self) free)).fewer fun x => List.mem_cons_of_mem w,
    s.heap.grows_setResult free, Heap.cell_update_of_ne _ apart _, fun r is => ?_⟩
  exact Heap.cell_update_of_ne _ (fun same : r = w => other (same ▸ is)) _

/-- An argument is bound after the ones that are bound by the views below. -/
theorem Binds.bindTo {aside : Ref → Prop} {steps : Nat} {frame : Frame}
    (below : Binds aside known s base args (steps - 1) (settle (answerWithin steps) v frame s))
    (given : value ∈ known) :
    Binds aside known s base (args ++ [(key, value)]) steps
      (PhiCalculus.bindTo (answerWithin steps) v key value frame s) := by
  cases settled : settle (answerWithin steps) v frame s with
  | failure f t =>
      rw [settled] at below
      rw [bindTo_of_failed settled]
      exact .failing (below.matched.stopped [(key, value)] nofun) below.grows
  | @unfinished t =>
      rw [settled] at below
      rw [bindTo_of_unfinished settled]
      exact .unfinished (below.matched.stopped [(key, value)] nofun) below.grows
  | answer o t =>
      rw [settled] at below
      have concrete : (t.heap.cell o).isView = false := by
        cases below.matched with
        | accepted like _ => exact like.concrete
      rw [bindTo_of_settled settled concrete]
      exact below.snoc ((below.secluded o t rfl).1.bound List.mem_cons_self
        (List.mem_cons_of_mem _ given) concrete steps frame)

/-- The view that was set aside keeps what it binds the argument in. -/
theorem Binds.kept {keep : Ref → Prop} {steps : Nat} {frame : Frame} {op : View} {c : Ref}
    {u : State} (bound : Binds (fun x => keep x ∨ x = w) known s base args steps (.answer c u))
    (nonempty : args ≠ []) (exist : ∀ arg ∈ args, arg.2.index < s.heap.size) (other : ¬ keep w)
    (kind : (s.heap.cell w).kind = .view op none) (refs : ∀ x ∈ op.refs, ¬ keep x) :
    Binds keep known s base args steps
      ((keepResult w c >>= fun kept => settle (answerWithin steps) kept) frame u) := by
  obtain ⟨matched, grown, secluded⟩ := bound
  obtain ⟨hidden, still⟩ := secluded c u rfl
  cases matched with
  | accepted like taken =>
      have kind' : (u.heap.cell w).kind = .view op none := by rw [still w (.inr rfl), kind]
      obtain ⟨secluded, grown', same, still'⟩ := hidden.kept other kind' refs
      rw [bind_of_answer (keepResult_of_none kind' c),
        settle_of_concrete (by rw [same]; exact like.concrete)]
      refine ⟨.accepted ?_ ?_, grown.trans grown', ?_⟩
      · rw [same]
        exact like
      · rw [same]
        exact taken.later nonempty exist grown'
      · rintro _ _ ⟨⟩
        exact ⟨secluded, fun r is => (still' r is).trans (still r (.inl is))⟩

/-- **Binding arguments one on the other ends as they match.** -/
theorem resolved {keep : Ref → Prop} (chain : s.heap.Chain base args v views)
    (distinct : views.Nodup) (others : ∀ w ∈ views, ¬ keep w)
    (here : s.Secluded (fun x => keep x ∨ x ∈ views) known) (there : base ∈ known)
    (given : ∀ arg ∈ args, arg.2 ∈ known) (concrete : (s.heap.cell base).isView = false)
    {steps : Nat} (enough : args.length ≤ steps) (frame : Frame) :
    Binds keep known s base args (steps - 1) (settle (answerWithin steps) v frame s) := by
  induction chain generalizing keep steps frame with
  | base =>
      rw [settle_of_concrete concrete]
      refine ⟨.accepted ⟨rfl, rfl, rfl, concrete⟩ (.nil _ _), Heap.Grows.refl _, ?_⟩
      rintro _ _ ⟨⟩
      refine ⟨(here.congr keep fun x => by simp).fewer fun x is => ?_, fun _ _ => rfl⟩
      exact (List.mem_cons.mp is).elim (fun same => same ▸ there) id
  | @bind args v w value views key chain kind ih =>
      obtain ⟨N, rfl⟩ : ∃ N, steps = N + 1 :=
        Nat.exists_eq_add_one_of_ne_zero (by simp at enough; omega)
      have shorter : args.length ≤ N := by simpa using enough
      have given' : ∀ arg ∈ args, arg.2 ∈ known := fun arg is =>
        given arg (List.mem_append_left _ is)
      have valueKnown : value ∈ known := given (key, value) (by simp)
      obtain ⟨new, distinct⟩ := List.nodup_cons.mp distinct
      -- the views below are bound while this one is set aside
      have below : Binds (fun x => keep x ∨ x = w) known s base args (N - 1)
          (settle (answerWithin N) v (frame.holding [w]) s) :=
        ih distinct (fun x is => not_or.mpr ⟨others x (List.mem_cons_of_mem _ is),
          fun same : x = w => new (same ▸ is)⟩)
          (here.congr _ fun x => by simp only [List.mem_cons]; tauto) given' shorter _
      have bound : Binds _ known s base (args ++ [(key, value)]) N _ := below.bindTo valueKnown
      have refs : ∀ x ∈ (View.bind v key value).refs, ¬ keep x := by
        have known {x : Ref} (is : x ∈ known) : ¬ keep x := fun kept =>
          (here.1.of_known is).2 (.inl kept)
        intro x is
        rcases List.mem_pair.mp is with rfl | rfl
        · exact chain.last.elim (fun same => same ▸ known there)
            fun is => others _ (List.mem_cons_of_mem _ is)
        · exact known valueKnown
      rw [settle_bind kind, Nat.add_sub_cancel]
      cases ends : bindTo (answerWithin N) v key value (frame.holding [w]) s with
      | failure f t =>
          rw [ends] at bound
          rw [bind_of_failure ends]
          exact .failing bound.matched bound.grows
      | @unfinished t =>
          rw [ends] at bound
          rw [bind_of_unfinished ends]
          exact .unfinished bound.matched bound.grows
      | answer c u =>
          rw [ends] at bound
          rw [bind_of_answer ends]
          exact bound.kept (List.append_ne_nil_of_right_ne_nil _ (List.cons_ne_nil _ _))
            (fun arg is => here.exist (given arg is)) (others w List.mem_cons_self) kind refs

end State.Secluded

/-! ## Arguments one on the other -/

/-- Makes views that bind arguments to an object, one on the other. -/
def bindEach (base : Ref) (args : List (Key × Ref)) : Action Ref :=
  args.foldlM (fun v arg => view (.bind v arg.1 arg.2)) base

theorem Heap.Chain.of_cells {h h' : Heap} (chain : h.Chain base args v views)
    (same : ∀ x ∈ views, h'.cell x = h.cell x) : h'.Chain base args v views := by
  induction chain with
  | base => exact .base
  | bind _ kind ih =>
      refine .bind (ih fun x there => same x (List.mem_cons_of_mem _ there)) ?_
      rw [same _ List.mem_cons_self, kind]

/-- Views that were just made are known to nobody. -/
theorem State.Secluded.bindEach {made : List (Key × Ref)} (chain : s.heap.Chain base made v views)
    (distinct : views.Nodup) (here : s.Secluded (· ∈ views) known) (there : base ∈ known)
    (given : ∀ arg ∈ args, arg.2 ∈ known) (frame : Frame) :
    ∃ w t views', PhiCalculus.bindEach v args frame s = .answer w t ∧
      t.heap.cell base = s.heap.cell base ∧ t.heap.Chain base (made ++ args) w views' ∧
        views'.Nodup ∧ t.Secluded (· ∈ views') known := by
  induction args generalizing s v made views with
  | nil =>
      refine ⟨v, s, views, rfl, rfl, ?_, distinct, here⟩
      rwa [List.append_nil]
  | cons arg rest ih =>
      obtain ⟨key, value⟩ := arg
      let c : Cell := ⟨(s.registry.next).1, .view (.bind v key value) none⟩
      have exist : ∀ x ∈ views, x.index < s.heap.size := fun x is => here.1.before x is
      have refs : ∀ x ∈ c.refs, x.index < s.heap.size := by
        intro x is
        have is : x ∈ [v, value] := is
        rcases List.mem_pair.mp is with rfl | rfl
        · exact chain.last.elim (fun same => same ▸ here.exist there) (exist x)
        · exact here.exist (given (key, x) List.mem_cons_self)
      have concealed : State.Secluded (s.alloc (.view (.bind v key value) none)).2
          (fun x => x ∈ views ∨ x = ⟨s.heap.size⟩) known := here.conceal (c := c) rfl rfl refs nofun
      have hidden : State.Secluded (s.alloc (.view (.bind v key value) none)).2
          (· ∈ (⟨s.heap.size⟩ :: views : List Ref)) known :=
        concealed.congr _ fun x => by rw [List.mem_cons, or_comm]
      have old {x : Ref} (is : x.index < s.heap.size) :
          (s.alloc (.view (.bind v key value) none)).2.heap.cell x = s.heap.cell x :=
        s.heap.cell_alloc_of_lt c is
      have longer := (chain.of_cells fun x is => old (exist x is)).bind
        (congrArg Cell.kind (s.heap.cell_alloc_self c))
      obtain ⟨w, t, views', ends, same, whole⟩ := ih longer (List.nodup_cons.mpr
        ⟨fun is => Nat.lt_irrefl _ (exist _ is), distinct⟩) hidden
        fun arg is => given arg (List.mem_cons_of_mem _ is)
      rw [List.append_assoc] at whole
      refine ⟨w, t, views', ?_, same.trans (old (here.exist there)), whole⟩
      rw [PhiCalculus.bindEach, List.foldlM_cons, bind_of_answer (view_apply _ frame s)]
      exact ends

/-! ## Objects with arguments -/

/-- What is behind an object is found the same way whether it is a view or not. -/
theorem resolve_eq_settle (v : Ref) (steps : Nat) (frame : Frame) (s : State) :
    answerWithin (steps + 1) (.resolve v) frame s =
      settle (answerWithin (steps + 1)) v frame s := by
  cases isView : (s.heap.cell v).isView with
  | true =>
      rw [settle, bind_of_answer (cell_apply v frame s), isView]
      rfl
  | false =>
      rw [settle_of_concrete isView]
      have resolved : resolveView (answerWithin steps) v (frame.holding [v]) s = _ :=
        bind_of_answer (cell_apply v (frame.holding [v]) s) _
      cases kind : (s.heap.cell v).kind with
      | view op result => simp [Cell.isView, kind] at isView
      | _ =>
          rw [kind] at resolved
          exact resolved

/-- What has filled a slot is what is read from it from then on. -/
theorem read_filled {o : Ref} {name : String}
    (filled : (s.heap.cell o).slots.find? name = some (.free (some value)))
    (grown : s.heap.Grows t.heap) (steps : Nat) (frame : Frame) :
    answerWithin (steps + 1) (.read (.slot o name)) frame t = .answer value t := by
  obtain ⟨content, found, stays⟩ := grown.free (r := o) filled
  rw [stays value rfl] at found
  exact read_bound found steps

namespace Moment

/-- **Arguments bind as they match.**  At any moment of a history let arguments be bound to an
object, one on the other, each by a view of the view before.  The object behind the last view is
like the object, with slots that are what the arguments make of its slots, the first argument first
(`TakesAll`): the same names in the same order, and each argument on the slot that it lands on, which
for the position 0 is the first one that is declared among those that are open then.  An argument
that fills an empty slot is what is read from that slot from then on; what other arguments
add, themselves or the elements of an array, comes in order.  The first argument that is refused
decides the failure.  Looking behind the last view is only cut short where an array is spread. -/
theorem arguments_bind_as_they_match {m : Moment} (began : first.Before m) {base : Ref}
    {args : List (Key × Ref)} (exist : base.index < m.state.heap.size)
    (given : ∀ arg ∈ args, arg.2.index < m.state.heap.size)
    (concrete : (m.state.heap.cell base).isView = false) (around : Frame) :
    ∃ v s, bindEach base args around m.state = .answer v s ∧
      s.heap.cell base = m.state.heap.cell base ∧ ∀ steps frame, args.length < steps →
        Matched s base args (steps - 1) (answerWithin steps (.resolve v) frame s) ∧
        ∀ o t, answerWithin steps (.resolve v) frame s = .answer o t →
          (t.heap.cell o).slots.names = (m.state.heap.cell base).slots.names ∧
          ∀ before key value after, args = before ++ (key, value) :: after →
            ∃ u slots name, TakesAll s (m.state.heap.cell base).slots before u (.ok slots) ∧
              slots.landing? key = some name ∧
              (key = .position 0 →
                ∃ slot, List.find? (fun s => s.2.isOpen) slots = some (name, slot)) ∧
              ((slots.find? name = some (.free none) ∧
                  ∀ later steps frame, t.heap.Grows later.heap →
                    answerWithin (steps + 1) (.read (.slot o name)) frame later =
                      .answer value later) ∨
                ∃ w old items more, slots.find? name = some (.vararg old) ∧
                  Adds name value u w (.ok items) ∧
                    t.heap.slot? o name = some (.vararg (old ++ items ++ more))) := by
  have intact := began.intact
  have nothing : m.state.Secluded (· ∈ ([] : List Ref)) (base :: args.map (·.2)) := by
    refine .of_intact intact (fun r there => ?_) fun _ => List.not_mem_nil
    rcases List.mem_cons.mp there with rfl | there
    · exact exist
    · obtain ⟨arg, is, rfl⟩ := List.mem_map.mp there
      exact given arg is
  obtain ⟨v, s, views, made, same, chain, apart, hidden⟩ :=
    nothing.bindEach .base List.nodup_nil List.mem_cons_self
      (fun arg is => List.mem_cons_of_mem _ (List.mem_map_of_mem is)) around
  refine ⟨v, s, made, same, fun steps frame enough => ?_⟩
  obtain ⟨steps, rfl⟩ := Nat.exists_eq_add_one_of_ne_zero (Nat.ne_zero_of_lt enough)
  have bound := (hidden.congr (fun x => False ∨ x ∈ views) fun x => by simp).resolved
    chain apart (fun _ _ => id) List.mem_cons_self
    (fun arg is => List.mem_cons_of_mem _ (List.mem_map_of_mem is)) (by rwa [same])
    (Nat.le_of_lt enough) frame
  rw [← resolve_eq_settle] at bound
  refine ⟨bound.matched, fun o t ends => ?_⟩
  have matched := bound.matched
  rw [ends] at matched
  cases matched with
  | accepted like taken =>
      rw [same] at taken
      refine ⟨taken.names, ?_⟩
      rintro before key value after rfl
      obtain ⟨u, slots, name, takes, lands, landed⟩ := taken.landed
      refine ⟨u, slots, name, takes, lands, fun next => Slots.first_of_landing (next ▸ lands), ?_⟩
      rcases landed with ⟨empty, filled⟩ | collected
      · exact .inl ⟨empty, fun later steps frame grown => read_filled filled grown steps frame⟩
      · exact .inr collected

/-! ## A function and its arguments -/

/-- What a client has in hand after an operation that gives an object. -/
def performing (m : Moment) (op : Operation Ref) : Moment :=
  (Instant.done ⟨.operation op, 0, { held := m.inUse }, m.state⟩).moment

theorem Reached.performing {m : Moment} (reached : m.Reached) (op : Operation Ref)
    (operands : ∀ x ∈ op.operands, x ∈ m.inUse) (proper : op.Proper m.state) :
    (m.performing op).Reached :=
  reached.tail (.performs (.mk operands proper))

/-- A function of one argument and any number of others, and some arguments: a number, and an array
that holds it and is to be spread. -/
def withFunction : Moment :=
  (((first.performing (.build "f" none [("x", .free none), ("rest", .vararg [])])).performing
    (.data (.int 7))).performing (.data (.array [⟨1⟩]))).performing (.view (.unvar ⟨2⟩))

theorem reached_withFunction : withFunction.Reached := by
  have nothing : first.Reached := .refl
  have function := nothing.performing
    (.build "f" none [("x", .free none), ("rest", .vararg [])]) (by decide) trivial
  have number := function.performing (.data (.int 7)) (by decide) trivial
  have array := number.performing (.data (.array [⟨1⟩])) (by decide) trivial
  exact array.performing _ (by decide) trivial

/-- The number is what is read from the slot that it fills, and the array is spread. -/
theorem function_takes_arguments : ∃ v s o t,
    bindEach ⟨0⟩ [(.position 0, ⟨1⟩), (.position 0, ⟨3⟩), (.name "rest", ⟨2⟩)] {}
      withFunction.state = .answer v s ∧
    answerWithin 9 (.resolve v) {} s = .answer o t ∧
      (t.heap.cell o).slots.names = ["x", "rest"] ∧
        answerWithin 1 (.read (.slot o "x")) {} t = .answer ⟨1⟩ t ∧
          (t.heap.slot? o "rest").map Slot.refs = some [⟨1⟩, ⟨2⟩] := by
  let args : List (Key × Ref) := [(.position 0, ⟨1⟩), (.position 0, ⟨3⟩), (.name "rest", ⟨2⟩)]
  obtain ⟨v, s, made, -, resolved⟩ := @arguments_bind_as_they_match _
    reached_withFunction.before ⟨0⟩ args (by decide) (by decide) (by decide) {}
  have seen : ((bindEach ⟨0⟩ args >>= fun v => answerWithin 9 (.resolve v)) {}
      withFunction.state).answer?.bind (fun found =>
        (found.2.heap.slot? found.1 "rest").map Slot.refs) = some [⟨1⟩, ⟨2⟩] := by decide +kernel
  rw [bind_of_answer made] at seen
  cases ends : answerWithin 9 (.resolve v) {} s with
  | answer o t =>
      rw [ends] at seen
      obtain ⟨names, landed⟩ := (resolved 9 {} (by decide)).2 o t ends
      obtain ⟨u, slots, name, taken, lands, -, ⟨-, reads⟩ | ⟨w, old, items, more, vararg, -⟩⟩ :=
        landed [] (.position 0) ⟨1⟩ _ rfl
      · cases taken
        cases lands
        exact ⟨v, s, o, t, made, ends, names, reads t 0 {} (Heap.Grows.refl _), seen⟩
      · cases taken
        cases lands
        cases vararg
  | failure f t =>
      rw [ends] at seen
      cases seen
  | unfinished =>
      rw [ends] at seen
      cases seen

end Moment

end PhiCalculus
