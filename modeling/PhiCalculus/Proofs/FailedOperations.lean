import PhiCalculus.Proofs.Arguments
import PhiCalculus.Proofs.Memoization
import PhiCalculus.Proofs.Views

/-!
# Operations that fail

An operation that fails leaves what it acts on as it was.  A write is refused at once, or an array
is to be spread and that fails before anything is added.  An owner is refused at once.  A read fails
where its computation does, and keeps nothing.  Where arguments are bound one on the other and one
of them fails, the views before it stand for what they have found.

To fail at once changes nothing.  Otherwise something was evaluated first, and that can do anything
that operations do, also to the place that the operation acts on.  So what holds in every case is
that what was at a place is there still, or else a computation has written to it by itself in the
midst (`Computations.WritesAt`).  Expressions never do (`ofExpressions_writesAt`).
-/

set_option autoImplicit false

namespace PhiCalculus

open PhiCalculus.Action

variable {α β : Type} {c : Computations} {ask : Answerer} {s t u : State} {frame around : Frame}
  {b o r w x base value : Ref} {key : Key} {args : List (Key × Ref)} {views : List Ref}
  {name : String} {e : Expr} {p : Place} {f : Failure} {steps : Nat}

/-! ## What is at a place -/

/-- What is at the place, but for what was computed there. -/
def Place.written (h : Heap) (p : Place) : Slot := (p.state h).copy

/-- An object that is the same when bare has the same at its places. -/
theorem Place.written_of_bare {h h' : Heap}
    (same : (h'.cell p.object).bare = (h.cell p.object).bare) : p.written h' = p.written h := by
  cases p with
  | slot r name =>
      have copied (h : Heap) : (Place.slot r name).written h =
          ((h.cell r).slots.copy.find? name).getD (.free none) := by
        rw [written, state, Heap.slot?, Slots.find?_copy]
        cases (h.cell r).slots.find? name <;> rfl
      have copies : (h'.cell r).slots.copy = (h.cell r).slots.copy := Cell.slots_of_bare same
      rw [copied, copied, copies]
  | owner r =>
      have owners : (h'.cell r).owner? = (h.cell r).owner? := Cell.owner?_of_bare same
      rw [written, written, state, state, owners]
  | fixed r name content => rfl

/-- The heap grows, and the place, if its object exists, has what it had, but for what is computed
there. -/
structure State.Upholds (p : Place) (s t : State) : Prop where
  grows : s.heap.Grows t.heap
  same : p.object.index < s.heap.size → p.written t.heap = p.written s.heap

namespace State.Upholds

theorem refl (s : State) : s.Upholds p s := ⟨Heap.Grows.refl _, fun _ => rfl⟩

theorem trans ⦃s t u : State⦄ (first : s.Upholds p t) (second : t.Upholds p u) : s.Upholds p u :=
  ⟨first.grows.trans second.grows, fun exist =>
    (second.same (Nat.lt_of_lt_of_le exist first.grows.size)).trans (first.same exist)⟩

end State.Upholds

theorem State.Retains.upholds (retains : s.Retains p.object t) : s.Upholds p t :=
  ⟨retains.grows, fun exist => Place.written_of_bare (retains.bare exist)⟩

/-- To uphold what is at one place is a way to spare objects. -/
@[reducible] def Sparing.upholding (p : Place) : Sparing where
  first := p.object.index + 1
  Spares := State.Upholds p
  trans := State.Upholds.trans
  grows _ _ h := h.grows
  creates _ _ h := h.leaves.retains.upholds
  disposes _ _ _ disposable grown others :=
    ((Sparing.retaining p.object).disposes disposable grown others).upholds

/-! ## Who writes at a place -/

/-- In the midst of the run a slot computation is evaluated that writes at the place by itself. -/
def Computations.WritesAt (c : Computations) (x : Answerer → Action α) (steps : Nat) (frame : Frame)
    (s : State) (p : Place) : Prop :=
  ∃ q, c.Meets x steps frame s q ∧ q.request.Evaluates ∧ q.Itself c (State.Upholds p)

/-- **No request but a computation writes at a place by itself.** -/
theorem Request.upholds (q : Request α) (other : ¬ q.Evaluates) : q.Keeps c (State.Upholds p) :=
  (Sparing.upholding p).keeps (fun _ _ fills => fills.retains.upholds)
    (fun _ _ grown few => ⟨grown, fun exist => absurd exist (Nat.not_lt_of_le (Nat.le_of_lt_succ few))⟩)
    q other

/-- What spares the objects that exist leaves what is at a place there, unless a computation writes
in the midst. -/
theorem Computations.written_or_writesAt {x : Answerer → Action α} {post : α → State → Prop}
    (made : Stepwise State.Changes True x)
    (obeys : ∀ ask : Answerer, ask.Moves (State.Upholds p) → ask.Settles →
      Obeys (.upholding p) (fun _ => True) (x ask) post)
    (exist : p.object.index < s.heap.size) :
    p.written (x (answered c steps) frame s).state.heap = p.written s.heap ∨
      c.WritesAt x steps frame s p := by
  by_cases upholds : s.Upholds p (x (answered c steps) frame s).state
  · exact .inl (upholds.same exist)
  · obtain ⟨q, asks, breaks⟩ := Computations.asks_break made State.Upholds.refl
      (fun ask moves settles _ => (obeys ask moves settles frame s exist trivial).1) upholds
    obtain ⟨d, within, evaluates, itself⟩ :=
      q.exists_itself State.Upholds.refl (fun p other => p.upholds other) breaks
    exact .inr ⟨d, ⟨q, asks, within⟩, evaluates, itself⟩

/-- What only adds objects by itself leaves what is at a place there, unless a computation writes in
the midst. -/
theorem Computations.written_or_writesAt_of_creates {x : Answerer → Action α}
    (made : Stepwise State.Creates True x) (exist : p.object.index < s.heap.size) :
    p.written (x (answered c steps) frame s).state.heap = p.written s.heap ∨
      c.WritesAt x steps frame s p :=
  written_or_writesAt (made.mono State.Creates.changes)
    (fun _ moves _ => obeys_of_creates (S := .upholding p) moves made) exist

/-- **Expressions write at no place that is there when they are evaluated.** -/
theorem ofExpressions_writesAt {x : Answerer → Action α} :
    ¬ Computations.ofExpressions.WritesAt x steps frame s p := by
  rintro ⟨⟨q, steps, around, t⟩, -, -, itself⟩
  have same : Query.outcome .ofExpressions ⟨q, steps, around, t⟩ =
      answerWithin (steps + 1) q around t :=
    (congrArg (fun x => x around t) (answered_succ .ofExpressions steps q)).symm.trans
      (congrArg (fun x => x around t) (answeredUntil_ofExpressions (steps + 1) q))
  have spares : t.Spares (p.object.index + 1) (answerWithin (steps + 1) q around t).state :=
    (sound_answerWithin (steps + 1)).spares _ q around t
  rw [← same] at spares
  exact itself.breaks ⟨spares.grows, fun exist =>
    Place.written_of_bare (spares.bare _ (Nat.lt_succ_self _) exist)⟩

/-! ## Writes that fail -/

namespace Place

/-- Nothing can be written at the place: it holds something, computes what is in it, is not
declared, or only shows something. -/
def Refuses (h : Heap) : Place → Prop
  | slot r name => h.slot? r name ≠ some (.free none) ∧ ∀ items, h.slot? r name ≠ some (.vararg items)
  | owner r => (h.cell r).owner?.isSome
  | fixed _ _ _ => True

end Place

/-- How a write fails. -/
inductive WriteFails (ask : Answerer) (value : Ref) (frame : Frame) (s : State) :
    Place → Failure → State → Prop where
  /-- It is refused at once. -/
  | refused {p : Place} : p.Refuses s.heap →
      WriteFails ask value frame s p (.alreadyBound p.name (s.heap.subject p.object)) s
  /-- What is to be spread fails to dataize. -/
  | undataized {r : Ref} {name : String} {items : List Ref} {f : Failure} {t : State} :
      s.heap.slot? r name = some (.vararg items) → (s.heap.cell value).isUnvar = true →
        ask (.dataize value) frame s = .failure f t →
          WriteFails ask value frame s (.slot r name) f t
  /-- What is to be spread is no array. -/
  | noArray {r : Ref} {name : String} {items : List Ref} {v : Value} {t : State} :
      s.heap.slot? r name = some (.vararg items) → (s.heap.cell value).isUnvar = true →
        ask (.dataize value) frame s = .answer v t → v.tag ≠ .array →
          WriteFails ask value frame s (.slot r name) (.typeMismatch name .array v.tag) t

theorem spread_of_tag {v : Value} (marked : (s.heap.cell value).isUnvar = true)
    (dataizes : ask (.dataize value) frame s = .answer v t) (other : v.tag ≠ .array) :
    spread ask name value frame s = .failure (.typeMismatch name .array v.tag) t := by
  rw [spread_marked marked, bind_of_answer dataizes]
  cases v with
  | array items => exact absurd rfl other
  | _ => rfl

theorem write_of_refuses (refuses : p.Refuses s.heap) :
    write ask p value frame s = .failure (.alreadyBound p.name (s.heap.subject p.object)) s := by
  cases p with
  | fixed r name content => rfl
  | owner r =>
      obtain ⟨o, owned⟩ := Option.isSome_iff_exists.mp refuses
      exact (own_bound owned ask value frame).2
  | slot r name =>
      obtain ⟨noFree, noVararg⟩ := refuses
      cases found : s.heap.slot? r name with
      | some slot =>
          refine write_refused found ?_
          rcases slot with (_ | _) | _ | items | _
          · exact absurd found noFree
          · rfl
          · rfl
          · exact absurd found (noVararg items)
          · rfl
      | none =>
          have filled : write ask (.slot r name) value frame s = fill r name value frame s := by
            rw [write, bind_of_answer (asks_apply _ frame s), found]
          rw [filled, fill, bind_of_answer (asks_apply _ frame s), found]
          rfl

/-- Giving an owner fails where there is one. -/
theorem owner?_of_failure {r : Ref} (fails : write ask (.owner r) value frame s = .failure f t) :
    (s.heap.cell r).owner?.isSome := by
  cases kind : (s.heap.cell r).kind with
  | table table =>
      cases owned : table.owner with
      | none => cases (ownConcrete_free kind owned value).symm.trans fails
      | some o =>
          rw [Cell.owner?, kind]
          exact Option.isSome_of_eq_some owned
  | data v => cases (ownConcrete_data kind value).symm.trans fails
  | view v result =>
      have passed : ownConcrete r value frame s = .answer () s := by
        rw [ownConcrete, bind_of_answer (cell_apply r frame s), kind]
        rfl
      cases passed.symm.trans fails

/-- Adding to a slot that takes any number of arguments fails where the argument is to be spread and
gives no array. -/
theorem WriteFails.of_vararg {r : Ref} {name : String} {items : List Ref}
    (vararg : s.heap.slot? r name = some (.vararg items))
    (fails : write ask (.slot r name) value frame s = .failure f t) :
    WriteFails ask value frame s (.slot r name) f t := by
  cases marked : (s.heap.cell value).isUnvar with
  | false => cases (write_vararg vararg marked).symm.trans fails
  | true =>
      have spreads : spread ask name value frame s = .failure f t := by
        rw [write, bind_of_answer (asks_apply _ frame s), vararg] at fails
        refine (bind_eq_failure.mp fails).resolve_right ?_
        rintro ⟨_, _, _, ⟨⟩⟩
      rw [spread_marked marked] at spreads
      rcases bind_eq_failure.mp spreads with dataizes | ⟨v, u, dataizes, rest⟩
      · exact .undataized vararg marked dataizes
      · cases v with
        | array items => cases rest
        | _ =>
            cases rest
            refine .noArray vararg marked dataizes ?_
            rintro ⟨⟩

/-- **A write fails by being refused, or because what is to be spread gives no array.** -/
theorem write_fails_iff :
    write ask p value frame s = .failure f t ↔ WriteFails ask value frame s p f t := by
  constructor
  · intro fails
    by_cases refuses : p.Refuses s.heap
    · cases (write_of_refuses refuses).symm.trans fails
      exact .refused refuses
    · cases p with
      | fixed r name content => exact absurd trivial refuses
      | owner r => exact absurd (owner?_of_failure fails) refuses
      | slot r name =>
          rcases not_and_or.mp refuses with empty | vararg
          · have empty := not_not.mp empty
            cases ((write_free empty value).trans (fill_empty empty value)).symm.trans fails
          · obtain ⟨items, vararg⟩ := not_forall_not.mp vararg
            exact .of_vararg vararg fails
  · rintro (refuses | ⟨vararg, marked, dataizes⟩ | ⟨vararg, marked, dataizes, other⟩)
    · exact write_of_refuses refuses
    · refine write_unspread vararg ?_
      rw [spread_marked marked]
      exact bind_of_failure dataizes _
    · exact write_unspread vararg (spread_of_tag marked dataizes other)

/-! ## Moves that fail -/

/-- A move fails where what is to be moved is looked for, or because that has an owner. -/
theorem moveTo_fails_iff {owner : Ref} :
    moveTo ask r owner frame s = .failure f t ↔ settle ask r frame s = .failure f t ∨
      ∃ o, settle ask r frame s = .answer o t ∧ (t.heap.cell o).owner?.isSome ∧
        f = .alreadyBound rho (t.heap.subject o) := by
  rw [moveTo, bind_eq_failure]
  refine or_congr_right ⟨?_, ?_⟩
  · rintro ⟨o, u, settled, refused⟩
    have fails : WriteFails ask owner frame u (.owner o) f t := write_fails_iff.mp refused
    cases fails with
    | refused owned => exact ⟨o, settled, owned, rfl⟩
  · rintro ⟨o, settled, owned, rfl⟩
    have refused : write ask (.owner o) owner frame t = _ := write_of_refuses owned
    exact ⟨o, t, settled, refused⟩

/-! ## Reads that fail -/

/-- A read fails where the computation does. -/
theorem read_fails_iff (uncomputed : s.heap.slot? r name = some (.once e none)) :
    (Query.reading r name steps frame s).outcome c = .failure f t ↔
      answered c steps (.eval e r) (frame.holding [r]) s = .failure f t := by
  have read : (Query.reading r name steps frame s).outcome c =
      (answered c steps (.eval e r) >>= keep r name) (frame.holding [r]) s :=
    read_uncomputed uncomputed c _ frame
  rw [read, bind_eq_failure]
  refine or_iff_left ?_
  rintro ⟨x, u, evaluated, failed⟩
  obtain ⟨cache, once, -⟩ := (answered_grows evaluated).once uncomputed
  cases cache with
  | none => cases (keep_uncomputed once x).symm.trans failed
  | some kept => cases (keep_computed once x).symm.trans failed

/-! ## Chains that fail -/

/-- What is written in the midst of a part is written in the midst of the whole. -/
theorem Computations.WritesAt.inside {x : Answerer → Action α} {y : Answerer → Action β}
    {steps' : Nat} (inside : ∀ d, c.Asks x steps frame s d → c.Meets y steps' around t d)
    (writes : c.WritesAt x steps frame s p) : c.WritesAt y steps' around t p := by
  obtain ⟨d, ⟨q, asks, within⟩, rest⟩ := writes
  obtain ⟨q', asks', within'⟩ := inside q asks
  exact ⟨d, ⟨q', asks', within'.trans within⟩, rest⟩

/-- Looking through a view asks what is behind it. -/
theorem settle_asks (isView : (s.heap.cell r).isView = true) :
    c.Asks (fun ask => settle ask r) (steps + 1) frame s (.resolving r steps frame s) :=
  .mk (Reaches.dependsOn fun ask _ u cut =>
    (settle_of_view isView).trans (cut : ask (.resolve r) frame s = @Outcome.unfinished _ u))

/-- What deriving an object asks is asked when the view is looked through. -/
theorem settle_meets {v : View} (unresolved : (s.heap.cell r).kind = .view v none) {d : Query}
    (asks : c.Asks (fun ask => derivedBy ask v) steps (frame.holding [r]) s d) :
    c.Meets (fun ask => settle ask r) (steps + 1) frame s d :=
  ⟨_, settle_asks (isView_of_view unresolved), .single (Query.resolving_asks unresolved asks)⟩

/-- What looking through the base asks is asked when an argument is bound. -/
theorem bindTo_asks_settle {d : Query} (asks : c.Asks (fun ask => settle ask b) steps frame s d) :
    c.Asks (fun ask => bindTo ask b key value) steps frame s d := by
  cases asks with
  | mk depends =>
      have made : Stepwise State.Creates True fun ask => settle ask b :=
        (straight_settle b).stepwise
      have reaches := made.reaches_of_dependsOn depends
      exact .mk (Reaches.dependsOn fun ask same u cut => bindTo_of_unfinished (reaches ask same u cut))

/-- What binding an argument to the object behind the base asks is asked when it is bound to the
base. -/
theorem bindTo_asks_bound (settled : settle (answered c steps) b frame s = .answer o u)
    {d : Query} (asks : c.Asks (fun ask => bindTo ask o key value) steps frame u d) :
    c.Asks (fun ask => bindTo ask b key value) steps frame s d := by
  have concrete := (settles_answered c steps).settle settled
  cases asks with
  | @mk γ steps _ around _ t q depends =>
      have first : Stepwise State.Creates True fun ask => settle ask b :=
        (straight_settle b).stepwise
      have made : Stepwise State.Edits True fun ask => bindTo ask o key value :=
        (straight_bindTo o key value).stepwise
      have reaches := made.reaches_of_dependsOn depends
      refine .mk (Reaches.dependsOn fun ask agrees v cut => ?_)
      rcases first.reaches_or_same (answered c (steps + 1)) frame s ask with
        same | ⟨δ, q', around', t', reaches', differs⟩
      · exact (bindTo_of_settled (same.trans settled) concrete).trans (reaches ask agrees v cut)
      · -- looking through the base can only have reached the request itself
        have here : ¬ Elsewhere q around t q' around' t' := fun elsewhere =>
          differs (agrees q' around' t' elsewhere)
        cases not_not.mp here
        exact bindTo_of_unfinished (reaches' ask agrees v cut)

/-- Looked through in the state `s`, the object `w` led to `x` in the state `u`.  From the state `t` on
it still does, at no cost, and what was at the places of `x` is there in `t`, but for what
computations have written. -/
structure Remains (c : Computations) (W : Place → Prop) (s : State) (w x : Ref) (u t : State) :
    Prop where
  gives : ∃ steps frame, settle (answered c steps) w frame s = .answer x u
  grows : u.heap.Grows t.heap
  stands : x.index < u.heap.size → ∀ {t' : State}, t.heap.Grows t'.heap →
    t'.heap.StandsFor w x ∧ ∃ enough, ∀ steps, enough ≤ steps → ∀ frame,
      settle (answered c steps) w frame t' = .answer x t'
  same : ∀ p : Place, p.object = x → x.index < u.heap.size →
    p.written t.heap = p.written u.heap ∨ W p

namespace Remains

variable {W W' : Place → Prop}

theorem found (settled : settle (answered c steps) w frame s = .answer x t) :
    Remains c W s w x t t where
  gives := ⟨steps, frame, settled⟩
  grows := .refl _
  stands exist _ grown :=
    have stands := (standsFor_of_settle settled).grows grown exist
    ⟨stands, stands.settles c⟩
  same _ _ _ := .inl rfl

theorem later {v : State} (remains : Remains c W s w x v u) (wider : ∀ p, W p → W' p)
    (grown : u.heap.Grows t.heap) (same : ∀ p : Place, p.object.index < u.heap.size →
      p.written t.heap = p.written u.heap ∨ W' p) : Remains c W' s w x v t where
  gives := remains.gives
  grows := remains.grows.trans grown
  stands exist _ grown' := remains.stands exist (grown.trans grown')
  same p here exist := by
    rcases remains.same p here exist with unchanged | writes
    · have exist' : p.object.index < u.heap.size :=
        Nat.lt_of_lt_of_le (here ▸ exist) remains.grows.size
      exact (same p exist').imp_left fun unchanged' => unchanged'.trans unchanged
    · exact .inr (wider p writes)

end Remains

/-- How arguments bound one on the other fail to be bound. -/
inductive ChainFails (c : Computations) (W : Place → Prop) (s : State) (base : Ref) (f : Failure)
    (t : State) : List (Key × Ref) → Prop where
  /-- What is behind the base is not found. -/
  | base {args : List (Key × Ref)} {steps : Nat} {frame : Frame} :
      settle (answered c steps) base frame s = .failure f t → ChainFails c W s base f t args
  /-- One of the arguments fails to be bound to what the view before it has found.  The base and the
  views before it stand for what they have found, and go on to do so. -/
  | argument {before after : List (Key × Ref)} {key : Key} {value below o : Ref}
      {earlier : List Ref} {steps : Nat} {frame : Frame} {u : State} :
      s.heap.Chain base before below earlier →
        settle (answered c steps) below frame s = .answer o u →
          bindTo (answered c steps) o key value frame u = .failure f t →
            (∃ x v, Remains c W s base x v t) →
              (∀ w ∈ earlier, ∃ x v, x.index < v.heap.size ∧ Remains c W s w x v t) →
                ChainFails c W s base f t (before ++ (key, value) :: after)

theorem ChainFails.snoc {W W' : Place → Prop} (fails : ChainFails c W s base f t args)
    (wider : ∀ p, W p → W' p) (arg : Key × Ref) : ChainFails c W' s base f t (args ++ [arg]) := by
  have further {w x : Ref} {v : State} (remains : Remains c W s w x v t) :
      Remains c W' s w x v t := remains.later wider (.refl _) fun _ _ => .inl rfl
  cases fails with
  | base fails => exact .base fails
  | @argument before after key value below o earlier steps frame u chain settled fails first others =>
      rw [List.append_assoc, List.cons_append]
      refine .argument chain settled fails ?_ fun w there => ?_
      · obtain ⟨x, v, remains⟩ := first
        exact ⟨x, v, further remains⟩
      · obtain ⟨x, v, exist, remains⟩ := others w there
        exact ⟨x, v, exist, further remains⟩

/-- A view that has kept nothing is looked through by deriving an object. -/
theorem settle_unresolved {v : View} (unresolved : (s.heap.cell w).kind = .view v none) :
    settle (answered c (steps + 1)) w frame s =
      (derivedBy (answered c steps) v >>= fun derived =>
        keepResult w derived >>= fun kept => settle (answered c steps) kept)
          (frame.holding [w]) s := by
  rw [settle_of_view (isView_of_view unresolved), answered_succ, resolve_unresolved unresolved]

/-- How a view that binds an argument is looked through: the argument is bound to what the view
before has found, and the copy is kept unless the view has kept one by then. -/
theorem settle_binding (unresolved : (s.heap.cell w).kind = .view (.bind b key value) none)
    (settled : settle (answered c steps) b (frame.holding [w]) s = .answer o u) :
    match bindTo (answered c steps) o key value (frame.holding [w]) u with
    | .answer _ v => ∃ x t, settle (answered c (steps + 1)) w frame s = .answer x t ∧
        x.index < t.heap.size ∧ ∀ p, State.Upholds p v t
    | .failure f t => settle (answered c (steps + 1)) w frame s = .failure f t
    | @Outcome.unfinished _ t => settle (answered c (steps + 1)) w frame s = @Outcome.unfinished _ t := by
  have derives : derivedBy (answered c steps) (.bind b key value) (frame.holding [w]) s =
      bindTo (answered c steps) o key value (frame.holding [w]) u :=
    bindTo_of_settled settled ((settles_answered c steps).settle settled)
  rw [← derives]
  cases ends : derivedBy (answered c steps) (.bind b key value) (frame.holding [w]) s with
  | failure f t => exact (settle_unresolved unresolved).trans (bind_of_failure ends _)
  | @unfinished t => exact (settle_unresolved unresolved).trans (bind_of_unfinished ends _)
  | answer x v =>
      have whole : settle (answered c (steps + 1)) w frame s =
          (Query.resolving w steps frame s).outcome c := by
        rw [settle_of_view (isView_of_view unresolved), answered_succ]
        rfl
      have more : ∀ base, View.bind b key value ≠ .unvar base := nofun
      have exist := derived_exists more ends
      have grown := derivedBy_grows c (.bind b key value) steps (frame.holding [w]) s
      rw [ends] at grown
      obtain ⟨result, kind, -⟩ := (grown.cell w (Heap.lt_size_of_view unresolved)).view unresolved
      cases result with
      | none =>
          let resolution : Resolution c w (.bind b key value) x steps frame s v :=
            ⟨unresolved, ends, kind⟩
          refine ⟨x, _, whole.trans resolution.answers,
            Nat.lt_of_lt_of_le exist resolution.grows.size, fun p => ?_⟩
          have fills : State.Fills v { v with heap := v.heap.setResult w x } :=
            .result x fun w' kept derived => by cases kind.symm.trans derived
          exact fills.retains.upholds
      | some y =>
          have answers := (Query.resolving_kept unresolved more ends kind).1
          have kept : ((Query.resolving w steps frame s).outcome c).state = v := by
            rw [answers, Outcome.state]
          have found := Query.finds_of_kept (Query.resolving w steps frame s) unresolved
            (by rw [kept]; exact kind)
          exact ⟨y, v, whole.trans answers, kept ▸ (found.existing more).concrete.1, fun p => .refl v⟩

/-- How a chain of bindings is looked through. -/
inductive ChainEnds (c : Computations) (W : Place → Prop) (s : State) (base : Ref)
    (args : List (Key × Ref)) (views : List Ref) : Outcome Ref → Prop where
  /-- The base and all views remain what they have found. -/
  | found {o : Ref} {t : State} : (∃ x u, Remains c W s base x u t) →
      (∀ w ∈ views, ∃ x u, x.index < u.heap.size ∧ Remains c W s w x u t) →
        ChainEnds c W s base args views (.answer o t)
  | fails {f : Failure} {t : State} : ChainFails c W s base f t args →
      ChainEnds c W s base args views (.failure f t)
  | unfinished {t : State} : ChainEnds c W s base args views (@Outcome.unfinished _ t)

/-- One more argument is bound, to what the views before have found. -/
theorem Heap.Chain.settles_bound {v : Ref} {W W' : Place → Prop}
    (chain : s.heap.Chain base args v views) (wider : ∀ p, W p → W' p)
    (unresolved : (s.heap.cell w).kind = .view (.bind v key value) none)
    (settled : settle (answered c steps) v (frame.holding [w]) s = .answer o u)
    (first : ∃ x u', Remains c W s base x u' u)
    (others : ∀ w ∈ views, ∃ x u', x.index < u'.heap.size ∧ Remains c W s w x u' u)
    (bound : ∀ p : Place, p.object.index < u.heap.size →
      p.written (bindTo (answered c steps) o key value (frame.holding [w]) u).state.heap =
        p.written u.heap ∨ W' p) :
    ChainEnds c W' s base (args ++ [(key, value)]) (w :: views)
      (settle (answered c (steps + 1)) w frame s) := by
  have grown : u.heap.Grows
      (bindTo (answered c steps) o key value (frame.holding [w]) u).state.heap :=
    derivedBy_grows c (.bind o key value) steps (frame.holding [w]) u
  have ends := settle_binding unresolved settled
  cases binds : bindTo (answered c steps) o key value (frame.holding [w]) u with
  | @unfinished t =>
      rw [binds] at ends
      rw [ends]
      exact .unfinished
  | failure f t =>
      rw [binds] at ends bound grown
      rw [ends]
      refine .fails (.argument chain settled binds ?_ fun w' there => ?_)
      · obtain ⟨x, v', remains⟩ := first
        exact ⟨x, v', remains.later wider grown bound⟩
      · obtain ⟨x, v', exist, remains⟩ := others w' there
        exact ⟨x, v', exist, remains.later wider grown bound⟩
  | answer copy v =>
      rw [binds] at ends bound grown
      obtain ⟨x, t, answers, exist, upholds⟩ := ends
      have grown' : u.heap.Grows t.heap := grown.trans (upholds (.owner w)).grows
      have bound' (p : Place) (exist : p.object.index < u.heap.size) :
          p.written t.heap = p.written u.heap ∨ W' p :=
        (bound p exist).imp_left fun same =>
          ((upholds p).same (Nat.lt_of_lt_of_le exist grown.size)).trans same
      rw [answers]
      refine .found ?_ fun w' there => ?_
      · obtain ⟨x, v', remains⟩ := first
        exact ⟨x, v', remains.later wider grown' bound'⟩
      · rcases List.mem_cons.mp there with rfl | there
        · exact ⟨x, t, exist, .found answers⟩
        · obtain ⟨x, v', exist, remains⟩ := others w' there
          exact ⟨x, v', exist, remains.later wider grown' bound'⟩

/-- **A chain of bindings is looked through view by view.**  Whatever becomes of the last one, those
that have found something remain what they have found. -/
theorem Heap.Chain.settles {v : Ref} (chain : s.heap.Chain base args v views) (steps : Nat)
    (frame : Frame) :
    ChainEnds c (c.WritesAt (fun ask => settle ask v) steps frame s) s base args views
      (settle (answered c steps) v frame s) := by
  induction chain generalizing steps frame with
  | base =>
      cases settled : settle (answered c steps) base frame s with
      | answer o t => exact .found ⟨o, t, .found settled⟩ nofun
      | failure f t => exact .fails (.base settled)
      | unfinished => exact .unfinished
  | @bind args v w value views key chain unresolved ih =>
      cases steps with
      | zero =>
          rw [settle_of_view (isView_of_view unresolved)]
          exact .unfinished
      | succ n =>
          -- what is written while the view before is looked through
          have wider (p : Place) (writes : c.WritesAt (fun ask => settle ask v) n
              (frame.holding [w]) s p) : c.WritesAt (fun ask => settle ask w) (n + 1) frame s p :=
            writes.inside fun d asks => settle_meets unresolved (bindTo_asks_settle asks)
          have before := ih n (frame.holding [w])
          cases settled : settle (answered c n) v (frame.holding [w]) s with
          | failure f t =>
              have whole : settle (answered c (n + 1)) w frame s = .failure f t :=
                (settle_unresolved unresolved).trans (bind_of_failure (bindTo_of_failed settled) _)
              rw [settled] at before
              rw [whole]
              cases before with
              | fails failed => exact .fails (failed.snoc wider _)
          | @unfinished t =>
              have whole : settle (answered c (n + 1)) w frame s = @Outcome.unfinished _ t :=
                (settle_unresolved unresolved).trans
                  (bind_of_unfinished (bindTo_of_unfinished settled) _)
              rw [whole]
              exact .unfinished
          | answer o u =>
              rw [settled] at before
              cases before with
              | found first others =>
                  refine chain.settles_bound wider unresolved settled first others fun p exist => ?_
                  -- what is written while the argument is bound
                  exact (Computations.written_or_writesAt
                    ((straight_bindTo o key value).stepwise.mono State.Edits.changes)
                    (fun _ moves settles => obeys_bindTo moves settles o key value) exist).imp_right
                    fun writes => writes.inside fun d asks =>
                      settle_meets unresolved (bindTo_asks_bound settled asks)

/-! ## What failures leave -/

/-- A slot that takes any number of arguments has the items that it had, unless a computation writes
there while the argument is dataized. -/
theorem items_or_writesAt {items : List Ref} (vararg : s.heap.slot? r name = some (.vararg items)) :
    (Place.slot r name).state (answered c steps (.dataize value) frame s).state.heap =
        (Place.slot r name).state s.heap ∨
      c.WritesAt (fun ask => ask (.dataize value)) steps frame s (.slot r name) := by
  have exist : (Place.slot r name).object.index < s.heap.size := Heap.lt_size_of_slot? vararg
  have made : Stepwise State.Creates True fun ask => ask (.dataize value) := Stepwise.request _
  refine (Computations.written_or_writesAt_of_creates made exist).imp_left fun written => ?_
  have grown : s.heap.Grows (answered c steps (.dataize value) frame s).state.heap :=
    moves_answeredUntil c _ steps (.dataize value) frame s
  obtain ⟨items', vararg', -⟩ := grown.vararg vararg
  rw [Place.written, Place.written, Place.state, Place.state, vararg, vararg'] at written
  rw [Place.state, Place.state, vararg, vararg']
  exact written

/-- What operations leave that fail when they are performed in a state. -/
structure FailsInPlace (c : Computations) (s : State) : Prop where
  /-- A write that fails was refused at once, or what is to be spread did not give an array.  In any
  case the place has what it had, unless a computation wrote there meanwhile. -/
  put : ∀ {p value steps frame f t}, write (answered c steps) p value frame s = .failure f t →
    WriteFails (answered c steps) value frame s p f t ∧
      (p.state t.heap = p.state s.heap ∨
        c.WritesAt (fun ask => ask (.dataize value)) steps frame s p)
  /-- What is written, computed or not declared refuses every write. -/
  refuses : ∀ {p : Place}, p.Refuses s.heap → ∀ (ask : Answerer) value frame,
    write ask p value frame s = .failure (.alreadyBound p.name (s.heap.subject p.object)) s
  /-- A move that fails has not found what is to be moved, or that has an owner in the state in which
  it was found, and nothing is changed in this state.  All objects have the owners that they had,
  unless a computation bound one meanwhile. -/
  moveTo : ∀ {r owner steps frame f t}, moveTo (answered c steps) r owner frame s = .failure f t →
    (settle (answered c steps) r frame s = .failure f t ∨
      ∃ o, settle (answered c steps) r frame s = .answer o t ∧ (t.heap.cell o).owner?.isSome ∧
        f = .alreadyBound rho (t.heap.subject o)) ∧
      ∀ y : Ref, y.index < s.heap.size → (t.heap.cell y).owner? = (s.heap.cell y).owner? ∨
        c.WritesAt (fun ask => settle ask r) steps frame s (.owner y)
  /-- A read that fails is one whose computation fails, in the same state.  The slot keeps nothing,
  unless a read of it has succeeded meanwhile. -/
  read : ∀ {r name e}, s.heap.slot? r name = some (.once e none) → ∀ {steps frame f t},
    (Query.reading r name steps frame s).outcome c = .failure f t →
      answered c steps (.eval e r) (frame.holding [r]) s = .failure f t ∧
        (t.heap.slot? r name = some (.once e none) ∨
          ∃ x, t.heap.slot? r name = some (.once e (some x)) ∧ ∃ steps' around u v,
            (Query.reading r name steps frame s).Within c (.reading r name steps' around u) ∧
              (Query.reading r name steps' around u).outcome c = .answer x v)
  /-- Where arguments are bound one on the other and that fails, the base is not found or one of the
  arguments fails to be bound; then the base and the views before remain what they have found.  All
  objects have at their places what they had, unless a computation wrote there meanwhile. -/
  chain : ∀ {base args v views}, s.heap.Chain base args v views → ∀ {steps frame f t},
    settle (answered c steps) v frame s = .failure f t →
      ChainFails c (c.WritesAt (fun ask => settle ask v) steps frame s) s base f t args ∧
        ∀ p : Place, p.object.index < s.heap.size → p.written t.heap = p.written s.heap ∨
          c.WritesAt (fun ask => settle ask v) steps frame s p

/-- **Operations that fail leave what they act on as it was.**  Whatever slots compute and in
whatever state, a write, a move, a read or a chain of bindings that fails has changed nothing itself:
`FailsInPlace` says for each of them where it fails and what is left.  What is left can differ from
what was there only where a computation that was evaluated meanwhile writes there itself, and where
slots compute expressions, none ever does. -/
theorem failures_leave_what_was (c : Computations) (s : State) :
    FailsInPlace c s ∧ ∀ {α : Type} (x : Answerer → Action α) steps frame s p,
      ¬ Computations.ofExpressions.WritesAt x steps frame s p := by
  refine ⟨?_, fun x steps frame s p => ofExpressions_writesAt⟩
  constructor
  case put =>
    intro p value steps frame f t failed
    have fails := write_fails_iff.mp failed
    have kept {r : Ref} {name : String} {items : List Ref}
        (vararg : s.heap.slot? r name = some (.vararg items)) :
        (Place.slot r name).state (answered c steps (.dataize value) frame s).state.heap =
            (Place.slot r name).state s.heap ∨
          c.WritesAt (fun ask => ask (.dataize value)) steps frame s (.slot r name) :=
      items_or_writesAt vararg
    refine ⟨fails, ?_⟩
    cases fails with
    | refused refuses => exact .inl rfl
    | undataized vararg _ dataizes =>
        have kept := kept vararg
        rwa [dataizes] at kept
    | noArray vararg _ dataizes _ =>
        have kept := kept vararg
        rwa [dataizes] at kept
  case refuses => exact fun refuses ask value frame => write_of_refuses refuses
  case moveTo =>
    intro r owner steps frame f t failed
    have fails := moveTo_fails_iff.mp failed
    refine ⟨fails, fun y exist => ?_⟩
    have made : Stepwise State.Creates True fun ask => settle ask r := (straight_settle r).stepwise
    have kept : (Place.owner y).written (settle (answered c steps) r frame s).state.heap =
        (Place.owner y).written s.heap ∨
          c.WritesAt (fun ask => settle ask r) steps frame s (.owner y) :=
      Computations.written_or_writesAt_of_creates made exist
    have after : (settle (answered c steps) r frame s).state = t := by
      rcases fails with fails | ⟨o, found, -⟩
      · rw [fails, Outcome.state]
      · rw [found, Outcome.state]
    rw [after] at kept
    exact kept.imp_left fun same => Slot.free.inj same
  case read =>
    intro r name e uncomputed steps frame f t failed
    exact ⟨(read_fails_iff uncomputed).mp failed, uncomputed_or_read uncomputed failed⟩
  case chain =>
    intro base args v views chain steps frame f t failed
    have ends : ChainEnds c (c.WritesAt (fun ask => settle ask v) steps frame s) s base args views
        (settle (answered c steps) v frame s) := chain.settles steps frame
    rw [failed] at ends
    cases ends with
    | fails fails =>
        refine ⟨fails, fun p exist => ?_⟩
        have made : Stepwise State.Creates True fun ask => settle ask v :=
          (straight_settle v).stepwise
        have kept : p.written (settle (answered c steps) v frame s).state.heap =
            p.written s.heap ∨ c.WritesAt (fun ask => settle ask v) steps frame s p :=
          Computations.written_or_writesAt_of_creates (x := fun ask => settle ask v) made exist
        rwa [failed] at kept

/-- A number is not spread over the slot of a function, and nothing is added to the slot. -/
example :
    let function : Table := { form := "f", slots := [("args", .vararg [⟨1⟩])] }
    let s := ((((State.initial.allocData (.int 7)).2.alloc (.table function)).2.alloc
      (.view (.unvar ⟨1⟩) none)).2)
    ∃ t, write (answerWithin 9) (.slot ⟨2⟩ "args") ⟨3⟩ {} s =
        .failure (.typeMismatch "args" .array .int) t ∧
      t.heap.slot? ⟨2⟩ "args" = some (.vararg [⟨1⟩]) :=
  ⟨_, rfl, rfl⟩

end PhiCalculus
