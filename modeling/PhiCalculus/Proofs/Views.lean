import PhiCalculus.Proofs.Copies

/-!
# Views

A view finds the object that it stands for when it is used for the first time, and keeps it.  What
it finds is never a view, so from then on every use of the view is a use of that object
(`Heap.StandsFor.uses`).

While the object is looked for, the view may be used already.  If that use succeeds, the view has
kept what it has found when the first use comes to its end, which then gives this object as well, or
fails for a reason of its own.  So what a view keeps has been derived by a use in the midst of which
no other use has succeeded (`Resolution`), and a use that fails leaves the view as it was unless
another one has succeeded in its midst (`views_resolve_once`).  What a view finds need not exist
where references lead nowhere, but in a history it does (`Moment.Before.finds_existing`).

A view that binds an argument derives a copy of what its base stands for (`BindsCopy`).  While an
object is derived, nothing is written to those that exist but by what computations do
(`LeavesAlone`).
-/

set_option autoImplicit false

namespace PhiCalculus

open PhiCalculus.Action

variable {α : Type} {c : Computations} {ask : Answerer} {s t u : State} {frame : Frame}
  {o r x base value : Ref} {key : Key} {v : View} {h h' : Heap}

/-! ## What a view stands for -/

/-- Views that have kept what they found lead from the one object to the other, which is no view. -/
inductive Heap.StandsFor (h : Heap) : Ref → Ref → Prop where
  | itself {o : Ref} : (h.cell o).isView = false → StandsFor h o o
  | kept {r x o : Ref} {v : View} : (h.cell r).kind = .view v (some x) → StandsFor h x o →
      StandsFor h r o

namespace Heap.StandsFor

theorem concrete (stands : h.StandsFor r o) : (h.cell o).isView = false := by
  induction stands with
  | itself concrete => exact concrete
  | kept _ _ ih => exact ih

/-- A view that stands for an object has kept one that leads to it. -/
theorem of_view {result : Option Ref} (stands : h.StandsFor r o)
    (kind : (h.cell r).kind = .view v result) : ∃ x, result = some x ∧ h.StandsFor x o := by
  cases stands with
  | itself concrete => simp [Cell.isView, kind] at concrete
  | kept kind' rest =>
      cases kind.symm.trans kind'
      exact ⟨_, rfl, rest⟩

/-- A view stands for one object. -/
theorem unique {o' : Ref} (stands : h.StandsFor r o) (stands' : h.StandsFor r o') : o = o' := by
  induction stands with
  | itself concrete =>
      cases stands' with
      | itself _ => rfl
      | kept kind _ => simp [Cell.isView, kind] at concrete
  | kept kind _ ih =>
      obtain ⟨x, same, rest⟩ := stands'.of_view kind
      cases same
      exact ih rest

/-- A view stands for its object as long as there are objects. -/
theorem grows (stands : h.StandsFor r o) (grown : h.Grows h') (exist : o.index < h.size) :
    h'.StandsFor r o := by
  induction stands with
  | itself concrete => exact .itself (((grown.cell _ exist).isView).trans concrete)
  | kept kind _ ih =>
      obtain ⟨result, kind', stays⟩ := (grown.cell _ (Heap.lt_size_of_view kind)).view kind
      rw [stays _ rfl] at kind'
      exact .kept kind' (ih exist)

end Heap.StandsFor

/-! ## Resolving -/

/-- What is kept is looked behind, and nothing else is done. -/
theorem resolve_kept (kind : (s.heap.cell r).kind = .view v (some x)) (c : Computations)
    (ask : Answerer) (frame : Frame) :
    answerBy c ask (.resolve r) frame s = settle ask x (frame.holding [r]) s := by
  have resolved : resolveView ask r (frame.holding [r]) s = settle ask x (frame.holding [r]) s := by
    rw [resolveView, bind_of_answer (cell_apply r _ s), kind]
  exact resolved

/-- Where nothing is kept, an object is derived, and kept unless the view has kept one by then. -/
theorem resolve_unresolved (unresolved : (s.heap.cell r).kind = .view v none) (c : Computations)
    (ask : Answerer) (frame : Frame) :
    answerBy c ask (.resolve r) frame s =
      (derivedBy ask v >>= fun derived => keepResult r derived >>= fun kept => settle ask kept)
        (frame.holding [r]) s := by
  have resolved : resolveView ask r (frame.holding [r]) s =
      (derivedBy ask v >>= fun derived => keepResult r derived >>= fun kept => settle ask kept)
        (frame.holding [r]) s := by
    rw [resolveView, bind_of_answer (cell_apply r _ s), unresolved]
  exact resolved

theorem settle_grows (c : Computations) (r : Ref) (steps : Nat) (frame : Frame) (s : State) :
    s.heap.Grows (settle (answered c steps) r frame s).state.heap := by
  have made : Stepwise State.Grows True fun ask => settle ask r :=
    (straight_settle r).stepwise.mono fun _ _ creates => creates.changes.grows
  exact made.moves State.Grows.trans (moves_answeredUntil c _ _) frame s

theorem derivedBy_grows (c : Computations) (v : View) (steps : Nat) (frame : Frame) (s : State) :
    s.heap.Grows (derivedBy (answered c steps) v frame s).state.heap := by
  have made : Stepwise State.Grows True fun ask => derivedBy ask v :=
    (straight_derivedBy v).stepwise.mono fun _ _ edits => edits.changes.grows
  exact made.moves State.Grows.trans (moves_answeredUntil c _ _) frame s

/-- What looking through views leads to is what the views stand for then. -/
theorem standsFor_of_settle {steps : Nat}
    (settled : settle (answered c steps) r frame s = .answer o t) : t.heap.StandsFor r o := by
  induction steps generalizing r frame s t with
  | zero =>
      cases isView : (s.heap.cell r).isView with
      | true =>
          rw [settle_of_view isView] at settled
          cases settled
      | false =>
          rw [settle_of_concrete isView] at settled
          cases settled
          exact .itself isView
  | succ steps ih =>
      cases kind : (s.heap.cell r).kind with
      | table table =>
          have concrete := isView_of_table kind
          rw [settle_of_concrete concrete] at settled
          cases settled
          exact .itself concrete
      | data v =>
          have concrete := isView_of_data kind
          rw [settle_of_concrete concrete] at settled
          cases settled
          exact .itself concrete
      | view v result =>
          rw [settle_of_view (isView_of_view kind), answered_succ] at settled
          -- the view has kept what is looked behind in the end
          obtain ⟨x, u, kind', settled⟩ : ∃ x u, (u.heap.cell r).kind = .view v (some x) ∧
              settle (answered c steps) x (frame.holding [r]) u = .answer o t := by
            cases result with
            | some x => exact ⟨x, s, kind, (resolve_kept kind c _ frame).symm.trans settled⟩
            | none =>
                rw [resolve_unresolved kind] at settled
                obtain ⟨derived, u, derives, rest⟩ := bind_eq_answer.mp settled
                obtain ⟨x, w, keeps, settled⟩ := bind_eq_answer.mp rest
                have grown := derivedBy_grows c v steps (frame.holding [r]) s
                rw [derives] at grown
                obtain ⟨result, kind', _⟩ := (grown.cell r (Heap.lt_size_of_view kind)).view kind
                exact ⟨x, w, kind_keepResult kind' keeps, settled⟩
          have grown := settle_grows c x steps (frame.holding [r]) u
          rw [settled] at grown
          obtain ⟨result, kind'', stays⟩ :=
            (grown.cell r (Heap.lt_size_of_view kind')).view kind'
          rw [stays x rfl] at kind''
          exact .kept kind'' (ih settled)

/-! ## Using what is resolved -/

/-- Whatever is done with the view is done with the object.  One step more is needed to look names
up, and the view is in use meanwhile. -/
structure Uses (c : Computations) (steps : Nat) (frame : Frame) (s : State) (r o : Ref) : Prop where
  resolved : answered c steps (.resolve r) frame s = .answer o s
  copy : copyOf (answered c steps) r frame s = copyOf (answered c steps) o frame s
  moveTo : ∀ owner,
    moveTo (answered c steps) r owner frame s = moveTo (answered c steps) o owner frame s
  owner : ownerOf (answered c steps) r frame s = ownerOf (answered c steps) o frame s
  ownAttr : ∀ name,
    ownPlace? (answered c steps) r name frame s = ownPlace? (answered c steps) o name frame s
  attrAt : ∀ i, placeAt (answered c steps) r i frame s = placeAt (answered c steps) o i frame s
  attr : ∀ name, answered c (steps + 1) (.find r name) frame s =
    answered c steps (.find o name) (frame.holding [r]) s
  /-- Where the value of the view is looked for. -/
  take : findData (answered c (steps + 1)) r frame s =
    findData (answered c steps) o (frame.holding [r]) s

/-- Where to read a value depends on where its attribute is found. -/
theorem findData_of_found {ask ask' : Answerer} {frame frame' : Frame}
    (found : ask (.find r delta) frame s = ask' (.find o delta) frame' t) :
    findData ask r frame s = findData ask' o frame' t := by
  have seen : observe (ask (.find r delta)) frame s = observe (ask' (.find o delta)) frame' t := by
    rw [observe, observe, found]
  rw [findData, findData, bind_apply, bind_apply, seen]
  cases observe (ask' (.find o delta)) frame' t with
  | answer result u =>
      cases result with
      | ok place => rfl
      | error f =>
          cases f with
          | noSuchAttribute attr object => cases known : attr == delta <;> simp only [known] <;> rfl
          | _ => rfl
  | failure f u => rfl
  | unfinished => rfl

/-- With enough steps the object is found that a view stands for, and nothing changes. -/
theorem Heap.StandsFor.settles (stands : s.heap.StandsFor r o) (c : Computations) :
    ∃ enough, ∀ steps, enough ≤ steps → ∀ frame,
      settle (answered c steps) r frame s = .answer o s := by
  induction stands with
  | itself concrete => exact ⟨0, fun steps _ frame => settle_of_concrete concrete⟩
  | @kept r x o v kind _ ih =>
      obtain ⟨enough, settles⟩ := ih
      refine ⟨enough + 1, fun steps more frame => ?_⟩
      obtain ⟨steps, rfl⟩ : ∃ k, steps = k + 1 := ⟨steps - 1, by omega⟩
      rw [settle_of_view (isView_of_view kind), answered_succ, resolve_kept kind]
      exact settles steps (Nat.le_of_succ_le_succ more) _

/-- **Every use of a view is a use of the object that it stands for.** -/
theorem Heap.StandsFor.uses (stands : s.heap.StandsFor r o) {result : Option Ref}
    (kind : (s.heap.cell r).kind = .view v result) (c : Computations) :
    ∃ enough, ∀ steps, enough ≤ steps → ∀ frame, Uses c steps frame s r o := by
  obtain ⟨enough, settles⟩ := stands.settles c
  refine ⟨enough, fun steps more frame => ?_⟩
  have concrete := stands.concrete
  have settled := settles steps more
  have resolved (frame : Frame) : answered c steps (.resolve r) frame s = .answer o s :=
    (settle_of_view (isView_of_view kind)).symm.trans (settled frame)
  have found (name : String) : answered c (steps + 1) (.find r name) frame s =
      answered c steps (.find o name) (frame.holding [r]) s := by
    have place : findPlace (answered c steps) r name (frame.holding [r]) s =
        answered c steps (.find o name) (frame.holding [r]) s := by
      rw [findPlace, bind_of_answer (cell_apply r _ s), kind]
      exact bind_of_answer (resolved _) _
    rw [answered_succ]
    exact place
  constructor
  case resolved => exact resolved frame
  case copy => exact copyOf_of_settled (settled frame) concrete
  case moveTo =>
    intro owner
    rw [moveTo_of_concrete concrete, moveTo, bind_of_answer (settled frame)]
  case owner =>
    rw [ownerOf_of_concrete concrete, ownerOf, bind_of_answer (settled frame)]
    rfl
  case ownAttr =>
    intro name
    rw [ownPlace?_of_concrete concrete, ownPlace?, bind_of_answer (settled frame)]
    rfl
  case attrAt =>
    intro i
    rw [placeAt, placeAt, bind_of_answer (settled frame),
      bind_of_answer (settle_of_concrete concrete)]
  case attr => exact found
  case take => exact findData_of_found (found delta)

/-! ## Who resolves a view -/

/-- A view that has kept nothing has kept nothing then. -/
def State.Awaits (r : Ref) (v : View) (s t : State) : Prop :=
  (s.heap.cell r).kind = .view v none → (t.heap.cell r).kind = .view v none

/-- A change that leaves views alone. -/
theorem Heap.kind_update_of_view {f : Kind → Kind} {result : Option Ref}
    (kind : (h.cell r).kind = .view v result) (same : f (.view v result) = .view v result) :
    ((h.update o f).cell r).kind = .view v result := by
  by_cases here : r = o
  · subst here
    rw [h.cell_update_self (Heap.lt_size_of_view kind)]
    simpa only [kind] using same
  · rwa [h.cell_update_of_ne here]

namespace State.Awaits

theorem refl (s : State) : s.Awaits r v s := id

theorem trans ⦃s t u : State⦄ (first : s.Awaits r v t) (second : t.Awaits r v u) :
    s.Awaits r v u := fun unresolved => second (first unresolved)

end State.Awaits

theorem State.Edits.awaits ⦃s t : State⦄ (edits : s.Edits t) : s.Awaits r v t := by
  intro unresolved
  have exist := Heap.lt_size_of_view unresolved
  cases edits with
  | creates h =>
      cases h with
      | observed heap => rwa [heap]
      | alloc k => exact (congrArg Cell.kind (s.heap.cell_alloc_of_lt _ exist)).trans unresolved
      | data v => exact (congrArg Cell.kind (s.heap.cell_alloc_of_lt _ exist)).trans unresolved
  | write value found => exact Heap.kind_update_of_view unresolved rfl
  | append items found => exact Heap.kind_update_of_view unresolved rfl
  | own owner free => exact Heap.kind_update_of_view unresolved rfl

/-- No request makes a view keep something by itself but that it be resolved. -/
theorem Request.awaits (q : Request α) (other : ¬ q.Resolves r) :
    q.Keeps c (State.Awaits r v) := by
  intro ask moves _
  refine (stepwise_answerBy_of State.Edits.awaits c q (fun o n computed _ => ?_)
    fun w derived resolves => ?_).moves State.Awaits.trans moves
  · intro frame s unresolved
    have kept : (keep o n computed frame s).state = s ∨ ∃ new, _ = _ := state_keep computed
    rcases kept with same | ⟨new, set⟩
    · rwa [same]
    · rw [set]
      exact Heap.kind_update_of_view unresolved rfl
  · intro frame s unresolved
    have ne : r ≠ w := fun same => other (same ▸ resolves)
    have kept : (keepResult w derived frame s).state = s ∨ _ = _ := state_keepResult derived
    rcases kept with same | set
    · rwa [same]
    · rw [set]
      exact (congrArg Cell.kind (s.heap.cell_update_of_ne ne _)).trans unresolved

/-- The view is resolved. -/
abbrev Query.resolving (r : Ref) (steps : Nat) (frame : Frame) (s : State) : Query :=
  ⟨.resolve r, steps, frame, s⟩

theorem Query.eq_resolving {q : Query} (resolves : q.request.Resolves r) :
    ∃ steps frame s, q = .resolving r steps frame s := by
  obtain ⟨request, steps, frame, s⟩ := q
  cases request with
  | resolve o =>
      obtain rfl : o = r := resolves
      exact ⟨steps, frame, s, rfl⟩
  | _ => exact resolves.elim

/-- What the derivation asks is asked when a view is resolved that has kept nothing. -/
theorem Query.resolving_asks (unresolved : (s.heap.cell r).kind = .view v none) {steps : Nat}
    {d : Query}
    (asks : c.Asks (fun ask => derivedBy ask v) steps (frame.holding [r]) s d) :
    (Query.resolving r steps frame s).Asks c d := by
  cases asks with
  | mk depends =>
      have made : Stepwise State.Edits True fun ask => derivedBy ask v :=
        (straight_derivedBy v).stepwise
      have reaches := made.reaches_of_dependsOn depends
      refine .mk (Reaches.dependsOn fun ask same w cut => ?_)
      show answerBy c ask (.resolve r) frame s = _
      rw [resolve_unresolved unresolved]
      exact bind_of_unfinished (reaches ask same w cut) _

/-- No object is spared. -/
@[reducible] def Sparing.nothing : Sparing where
  first := 0
  Spares := State.Grows
  trans := State.Grows.trans
  grows _ _ grown := grown
  creates _ _ h := h.grows
  disposes _ _ _ _ grown _ := grown

theorem obeys_derived (c : Computations) (steps : Nat) (v : View) :
    Obeys Sparing.nothing (fun _ => True) (derivedBy (answered c steps) v) fun derived s =>
      (s.heap.cell derived).isView = false ∧
        ((∀ base, v ≠ .unvar base) → derived.index < s.heap.size) :=
  have asked : Answerer.Moves Sparing.nothing.Spares (answered c steps) :=
    moves_answeredUntil c _ steps
  obeys_derivedBy asked (settles_answered c steps) v

/-- What a view derives is no view. -/
theorem derived_concrete {steps : Nat}
    (derives : derivedBy (answered c steps) v frame s = .answer x t) :
    (t.heap.cell x).isView = false :=
  ((obeys_derived c steps v frame s (Nat.zero_le _) trivial).2 x t derives).1

/-- Unless it is the object behind other views, what a view derives exists. -/
theorem derived_exists (more : ∀ base, v ≠ .unvar base) {steps : Nat}
    (derives : derivedBy (answered c steps) v frame s = .answer x t) : x.index < t.heap.size :=
  ((obeys_derived c steps v frame s (Nat.zero_le _) trivial).2 x t derives).2 more

/-- A use of the view in the midst of which no other has succeeded finds the object, and the view
keeps it. -/
structure Resolution (c : Computations) (r : Ref) (v : View) (x : Ref) (steps : Nat) (frame : Frame)
    (s t : State) : Prop where
  unresolved : (s.heap.cell r).kind = .view v none
  derives : derivedBy (answered c steps) v (frame.holding [r]) s = .answer x t
  still : (t.heap.cell r).kind = .view v none

namespace Resolution

variable {steps : Nat} (resolution : Resolution c r v x steps frame s t)
include resolution

theorem answers : (Query.resolving r steps frame s).outcome c =
    .answer x { t with heap := t.heap.setResult r x } := by
  have concrete := derived_concrete resolution.derives
  have other : x ≠ r := by
    rintro rfl
    exact absurd (concrete.symm.trans (isView_of_view resolution.still)) nofun
  have concrete' : ((t.heap.setResult r x).cell x).isView = false := by
    rw [Heap.setResult, t.heap.cell_update_of_ne other]
    exact concrete
  have resolved : (Query.resolving r steps frame s).outcome c = _ :=
    resolve_unresolved resolution.unresolved c (answered c steps) frame
  rw [resolved, bind_of_answer resolution.derives,
    bind_of_answer (keepResult_of_none resolution.still x)]
  exact settle_of_concrete concrete'

theorem grows : t.heap.Grows (t.heap.setResult r x) :=
  t.heap.grows_setResult fun w kept kind => by cases resolution.still.symm.trans kind

theorem keeps : ((t.heap.setResult r x).cell r).kind = .view v (some x) :=
  kind_setResult resolution.still x

end Resolution

/-- What makes a view keep an object itself is a use that finds it. -/
theorem Query.Itself.resolution {steps : Nat}
    (itself : (Query.resolving r steps frame s).Itself c (State.Awaits r v)) :
    ∃ x t, Resolution c r v x steps frame s t := by
  obtain ⟨unresolved, filled⟩ := Classical.not_imp.mp itself.breaks
  have resolved : (Query.resolving r steps frame s).outcome c = _ :=
    resolve_unresolved unresolved c (answered c steps) frame
  -- to derive the object leaves the view as it was
  have awaits : s.Awaits r v (derivedBy (answered c steps) v (frame.holding [r]) s).state := by
    by_contra broken
    have made : Stepwise State.Edits True fun ask => derivedBy ask v :=
      (straight_derivedBy v).stepwise
    obtain ⟨d, asks, breaks⟩ := Computations.asks_break made State.Awaits.refl
      (fun ask moves _ _ => (made.mono State.Edits.awaits).moves State.Awaits.trans moves _ s)
      broken
    exact itself.others d (Query.resolving_asks unresolved asks) breaks
  have still := awaits unresolved
  cases ending : derivedBy (answered c steps) v (frame.holding [r]) s with
  | answer x t =>
      rw [ending] at still
      exact ⟨x, t, unresolved, ending, still⟩
  | failure f t =>
      rw [resolved, bind_of_failure ending] at filled
      rw [ending] at still
      exact absurd still filled
  | @unfinished t =>
      rw [resolved, bind_of_unfinished ending] at filled
      rw [ending] at still
      exact absurd still filled

/-- In the midst of the query, or by the query itself, the object is found that the view keeps. -/
def Query.Finds (c : Computations) (q : Query) (r : Ref) (v : View) (x : Ref) : Prop :=
  ∃ steps frame s t, q.Within c (.resolving r steps frame s) ∧
    Resolution c r v x steps frame s t

/-- **What a view has kept, a use of it has found.** -/
theorem Query.finds_of_kept (q : Query) (unresolved : (q.state.heap.cell r).kind = .view v none)
    (resolved : ((q.outcome c).state.heap.cell r).kind = .view v (some x)) : q.Finds c r v x := by
  have breaks : q.Breaks c (State.Awaits r v) := fun awaits => by
    cases (awaits unresolved).symm.trans resolved
  obtain ⟨d, within, resolves, itself⟩ :=
    q.exists_itself State.Awaits.refl (fun p other => p.awaits other) breaks
  obtain ⟨steps, frame, s, rfl⟩ := d.eq_resolving resolves
  obtain ⟨y, t, resolution⟩ := itself.resolution
  have grown := within.grows.2
  rw [resolution.answers] at grown
  obtain ⟨result, kind, stays⟩ :=
    (grown.cell r (Heap.lt_size_of_view resolution.keeps)).view resolution.keeps
  rw [stays y rfl] at kind
  cases kind.symm.trans resolved
  exact ⟨steps, frame, s, t, within, resolution⟩

/-- The object is found like that, and exists when the use ends that finds it. -/
def Query.FindsExisting (c : Computations) (q : Query) (r : Ref) (v : View) (x : Ref) : Prop :=
  ∃ steps frame s t, q.Within c (.resolving r steps frame s) ∧
    Resolution c r v x steps frame s t ∧ x.index < t.heap.size

/-- Unless the view is the object behind others, what is found exists. -/
theorem Query.Finds.existing {q : Query} (finds : q.Finds c r v x)
    (more : ∀ base, v ≠ .unvar base) : q.FindsExisting c r v x := by
  obtain ⟨steps, frame, s, t, within, resolution⟩ := finds
  exact ⟨steps, frame, s, t, within, resolution, derived_exists more resolution.derives⟩

/-- What exists when a view has found it is no view from then on. -/
theorem Query.FindsExisting.concrete {q : Query} (finds : q.FindsExisting c r v x) :
    x.index < (q.outcome c).state.heap.size ∧ ((q.outcome c).state.heap.cell x).isView = false := by
  obtain ⟨steps, frame, s, t, within, resolution, exist⟩ := finds
  have concrete := derived_concrete resolution.derives
  have grown : t.heap.Grows (q.outcome c).state.heap := by
    have ends := within.grows.2
    rw [resolution.answers] at ends
    exact resolution.grows.trans ends
  exact ⟨Nat.lt_of_lt_of_le exist grown.size, ((grown.cell x exist).isView).trans concrete⟩

/-- The queries in the midst of another nest less deep. -/
theorem Query.Within.fewer {q d : Query} (within : q.Within c d) : d.steps ≤ q.steps := by
  induction within with
  | refl => exact Nat.le_refl _
  | tail _ asks ih => exact Nat.le_trans (Nat.le_of_lt asks.fewer) ih

/-- **What a view has kept while an object is derived for it, it gives instead.**  A use in the
midst of the derivation has found it. -/
theorem Query.resolving_kept (unresolved : (s.heap.cell r).kind = .view v none)
    (more : ∀ base, v ≠ .unvar base) {steps : Nat} {y : Ref}
    (derives : derivedBy (answered c steps) v (frame.holding [r]) s = .answer x t)
    (kept : (t.heap.cell r).kind = .view v (some y)) :
    (Query.resolving r steps frame s).outcome c = .answer y t ∧
      ∃ steps' < steps, ∃ frame' s' t',
        (Query.resolving r steps frame s).Within c (.resolving r steps' frame' s') ∧
          Resolution c r v y steps' frame' s' t' := by
  have resolved : (Query.resolving r steps frame s).outcome c =
      settle (answered c steps) y (frame.holding [r]) t := by
    refine (resolve_unresolved unresolved c (answered c steps) frame).trans ?_
    rw [bind_of_answer derives, bind_of_answer (keepResult_of_some kept x)]
  have grown := settle_grows c y steps (frame.holding [r]) t
  rw [← resolved] at grown
  have finds : (Query.resolving r steps frame s).Finds c r v y := by
    obtain ⟨result, kind, stays⟩ := (grown.cell r (Heap.lt_size_of_view kept)).view kept
    rw [stays y rfl] at kind
    exact Query.finds_of_kept _ unresolved kind
  constructor
  · have concrete : (t.heap.cell y).isView = false := by
      cases kind : (t.heap.cell y).kind with
      | view w result =>
          have view := (grown.cell y (Heap.lt_size_of_view kind)).isView
          rw [(finds.existing more).concrete.2, isView_of_view kind] at view
          cases view
      | table table => exact isView_of_table kind
      | data value => exact isView_of_data kind
    rw [resolved, settle_of_concrete concrete]
  · obtain ⟨steps', frame', s', t', within, resolution⟩ := finds
    refine ⟨steps', ?_, frame', s', t', within, resolution⟩
    rcases within.cases_head with same | ⟨d, asks, within⟩
    · -- the use itself comes too late
      cases same
      cases derives.symm.trans resolution.derives
      cases kept.symm.trans resolution.still
    · exact Nat.lt_of_le_of_lt (Query.Within.fewer within) asks.fewer

/-! ## What is left alone -/

/-- The heap grows, and the object, if it exists, gains nothing but caches and results. -/
structure State.Retains (y : Ref) (s t : State) : Prop where
  grows : s.heap.Grows t.heap
  bare : y.index < s.heap.size → (t.heap.cell y).bare = (s.heap.cell y).bare

namespace State.Retains

variable {y : Ref}

theorem refl (s : State) : s.Retains y s := ⟨Heap.Grows.refl _, fun _ => rfl⟩

theorem trans ⦃s t u : State⦄ (first : s.Retains y t) (second : t.Retains y u) : s.Retains y u :=
  ⟨first.grows.trans second.grows, fun exist =>
    (second.bare (Nat.lt_of_lt_of_le exist first.grows.size)).trans (first.bare exist)⟩

end State.Retains

theorem State.Leaves.retains {y : Ref} (leaves : s.Leaves y t) : s.Retains y t :=
  ⟨leaves.grows, fun exist => congrArg Cell.bare (leaves.same exist)⟩

theorem State.Fills.retains {y : Ref} ⦃s t : State⦄ (fills : s.Fills t) : s.Retains y t :=
  ⟨fills.grows, fun exist =>
    (fills.spares (n := y.index + 1)).bare y (Nat.lt_succ_self _) exist⟩

/-- To let one object gain nothing but caches and results is a way to spare objects. -/
@[reducible] def Sparing.retaining (y : Ref) : Sparing where
  first := y.index + 1
  Spares := State.Retains y
  trans := State.Retains.trans
  grows _ _ h := h.grows
  creates _ _ h := h.leaves.retains
  disposes _ _ _ disposable grown others :=
    ((Sparing.leaving y).disposes disposable grown others).retains

/-- Where filling caches and keeping results spares objects, all requests but computations do so by
themselves. -/
theorem Sparing.keeps (S : Sparing) (fills : ∀ ⦃s t : State⦄, s.Fills t → S.Spares s t)
    (few : ∀ ⦃s t : State⦄, s.heap.Grows t.heap → s.heap.size < S.first → S.Spares s t)
    (q : Request α) (other : ¬ q.Evaluates) : q.Keeps c S.Spares := by
  intro ask moves settles
  have filling {β : Type} {x : Answerer → Action β} (made : Stepwise State.Fills True x) :
      (x ask).Moves S.Spares := (made.mono fills).moves S.trans moves
  have looks {β : Type} {x : Answerer → Action β} (made : Stepwise State.Creates True x) :
      (x ask).Moves S.Spares := filling (made.mono fun _ _ => .creates)
  cases q with
  | find r name => exact looks (.hold [r] (straight_findPlace r name).stepwise)
  | dataize r => exact looks (.hold [r] (stepwise_dataizeObject r))
  | eval e self => exact absurd trivial other
  | read p => exact filling (.hold p.refs (straight_readPlace p).stepwise)
  | resolve r =>
      exact S.resolves moves settles
        (fun derived frame s => fills ((acts_keepResult r derived).moves frame s)) few

/-- **No request but a computation does more to an object, by itself, than fill caches and keep
results.** -/
theorem Request.retains {y : Ref} (q : Request α) (other : ¬ q.Evaluates) :
    q.Keeps c (State.Retains y) :=
  (Sparing.retaining y).keeps (fun _ _ fills => fills.retains) (fun _ _ grown few =>
    ⟨grown, fun exist => absurd exist (Nat.not_lt_of_le (Nat.le_of_lt_succ few))⟩) q other

/-- In the midst of the run a slot computation is evaluated that by itself does more to the object
than fill caches and keep results. -/
def Computations.Writes (c : Computations) (x : Answerer → Action α) (steps : Nat) (frame : Frame)
    (s : State) (y : Ref) : Prop :=
  ∃ q, c.Meets x steps frame s q ∧ q.request.Evaluates ∧ q.Itself c (State.Retains y)

/-- What a run does not do to an object by itself a computation does in the midst. -/
theorem Computations.writes_of_touched {x : Answerer → Action α} {steps : Nat} {y : Ref}
    (made : Stepwise State.Changes True x)
    (retains : ∀ ask : Answerer, ask.Moves (State.Retains y) → ask.Settles →
      ask.Echoes (answered c steps) → s.Retains y (x ask frame s).state)
    (exist : y.index < s.heap.size)
    (touched : ¬ s.heap.Untouched (x (answered c steps) frame s).state.heap y) :
    c.Writes x steps frame s y := by
  have broken : ¬ s.Retains y (x (answered c steps) frame s).state :=
    fun retains => touched (Heap.untouched_of_bare retains.grows exist (retains.bare exist))
  obtain ⟨q, asks, breaks⟩ := Computations.asks_break made State.Retains.refl retains broken
  obtain ⟨d, within, evaluates, itself⟩ :=
    q.exists_itself State.Retains.refl (fun p other => p.retains other) breaks
  exact ⟨d, ⟨q, asks, within⟩, evaluates, itself⟩

/-! ## Views that bind an argument -/

/-- To bind an argument to a concrete object ends in a copy of it, with its owner, to which the
argument has been written. -/
theorem bindTo_answers (concrete : (s.heap.cell o).isView = false)
    (derives : bindTo ask o key value frame s = .answer x t) :
    ∃ u, s.Copied o (s.heap.cell o).owner? x u ∧
      (placeOf ask x key >>= fun place => write ask place value)
        ((frame.holding [o]).holding [x]) u = .answer () t := by
  cases kind : (s.heap.cell o).kind with
  | view v result => simp [Cell.isView, kind] at concrete
  | data v => cases (bindTo_data kind).symm.trans derives
  | table table =>
      rw [bindTo_table kind] at derives
      obtain ⟨place, u, found, rest⟩ := bind_eq_answer.mp derives
      obtain ⟨_, _, written, ends⟩ := bind_eq_answer.mp rest
      cases ends
      have owner : (s.heap.cell o).owner? = table.owner := by rw [Cell.owner?, kind]
      rw [owner]
      exact ⟨_, State.copied_alloc kind table.owner, bind_eq_answer.mpr ⟨place, u, found, written⟩⟩

/-- Filling a slot does not concern the owner. -/
theorem owner?_of_filled {name : String} (ends : fill x name value frame s = .answer () t) :
    (t.heap.cell x).owner? = (s.heap.cell x).owner? := by
  cases found : s.heap.slot? x name with
  | none =>
      rw [fill, bind_of_answer (asks_apply _ frame s), found] at ends
      cases ends
  | some slot =>
      rcases slot with (_ | _) | _ | _ | _
      case free.none =>
        cases (fill_empty found value).symm.trans ends
        exact s.heap.owner?_setSlot x name _ x
      all_goals
        rw [fill, bind_of_answer (asks_apply _ frame s), found] at ends
        cases ends

theorem owner?_of_appended {name : String} {items : List Ref}
    (ends : append x name items frame s = .answer () t) :
    (t.heap.cell x).owner? = (s.heap.cell x).owner? := by
  rw [append, changeHeap_apply] at ends
  cases ends
  split
  · exact s.heap.owner?_setSlot x name _ x
  · rfl

/-- Where slots compute expressions, the owner stays while an argument is written. -/
theorem owner?_of_written {steps : Nat}
    (written : (placeOf (answerWithin steps) x key >>= fun place =>
      write (answerWithin steps) place value) frame s = .answer () t)
    (exist : x.index < s.heap.size) (concrete : (s.heap.cell x).isView = false) :
    (t.heap.cell x).owner? = (s.heap.cell x).owner? := by
  have sound := sound_answerWithin steps
  have stays {β : Type} {y : Answerer → Action β} (made : Stepwise State.Creates True y) {a : β}
      {s t : State} (exist : x.index < s.heap.size)
      (ends : y (answerWithin steps) frame s = .answer a t) :
      x.index < t.heap.size ∧ (t.heap.cell x).owner? = (s.heap.cell x).owner? := by
    have spared := spares_of_creates (sound.bare (x.index + 1)) made frame s
    rw [ends] at spared
    exact ⟨Nat.lt_of_lt_of_le exist spared.grows.size,
      (spared.untouched (Nat.lt_succ_self _) exist).owner⟩
  obtain ⟨place, u, found, written⟩ := bind_eq_answer.mp written
  obtain ⟨name, rfl⟩ := placeOf_concrete concrete found
  obtain ⟨exist', looked⟩ := stays (straight_placeOf x key).stepwise exist found
  refine Eq.trans ?_ looked
  rw [write, bind_of_answer (asks_apply _ frame u)] at written
  rcases declared : u.heap.slot? x name with _ | (_ | _ | old | _) <;> rw [declared] at written
  case some.vararg =>
    obtain ⟨items, w, spreads, appended⟩ := bind_eq_answer.mp written
    have spread := stays (straight_spread name value).stepwise exist' spreads
    exact (owner?_of_appended appended).trans spread.2
  all_goals exact owner?_of_filled written

/-! ## What comes of views -/

/-- What comes of uses of a view that are made in a state. -/
structure ResolvedOnce (c : Computations) (r : Ref) (v : View) (s : State) : Prop where
  /-- A use that succeeds finds an object that is no view, and every later use is one of it. -/
  succeeds : ∀ {steps frame o t}, (Query.resolving r steps frame s).outcome c = .answer o t →
    (t.heap.cell o).isView = false ∧ (∃ x, (t.heap.cell r).kind = .view v (some x)) ∧
      ∀ {u}, o.index < t.heap.size → Later c t u →
        ∃ enough, ∀ steps, enough ≤ steps → ∀ frame, Uses c steps frame u r o
  /-- Where nothing is kept, every use tries to derive an object from scratch. -/
  tries : (s.heap.cell r).kind = .view v none → ∀ (ask : Answerer) frame,
    settle ask r frame s = ask (.resolve r) frame s ∧
      answerBy c ask (.resolve r) frame s =
        (derivedBy ask v >>= fun derived => keepResult r derived >>= fun kept => settle ask kept)
          (frame.holding [r]) s
  /-- A use that fails leaves the view as it was, unless a use in its midst has found an object.
  The view keeps that.  If it exists when the use in the midst ends, every later use is one of it. -/
  fails : (s.heap.cell r).kind = .view v none → ∀ {steps frame f t},
    (Query.resolving r steps frame s).outcome c = .failure f t →
      (t.heap.cell r).kind = .view v none ∨ ∃ x, (t.heap.cell r).kind = .view v (some x) ∧
        (Query.resolving r steps frame s).Finds c r v x ∧
          ((∀ base, v ≠ .unvar base) ∨ (Query.resolving r steps frame s).FindsExisting c r v x →
            ∀ {u}, Later c t u →
              ∃ enough, ∀ steps, enough ≤ steps → ∀ frame, Uses c steps frame u r x)
  /-- What the view has kept when a use succeeds has been found by it, or by a use in its midst, and
  leads to what the use gives. -/
  finds : (s.heap.cell r).kind = .view v none → ∀ {steps frame o t},
    (Query.resolving r steps frame s).outcome c = .answer o t →
      ∃ x, (t.heap.cell r).kind = .view v (some x) ∧ t.heap.StandsFor x o ∧
        (Query.resolving r steps frame s).Finds c r v x

/-- To bind an argument makes a copy of what the base stands for. -/
structure BindsCopy (c : Computations) (base : Ref) (key : Key) (value : Ref) : Prop where
  /-- It is bound to what the base stands for. -/
  base : ∀ {steps frame s o u}, settle (answered c steps) base frame s = .answer o u →
    (u.heap.cell o).isView = false ∧ bindTo (answered c steps) base key value frame s =
      bindTo (answered c steps) o key value frame u
  /-- The copy has the home and the owner of that object, if it has one, and then the argument is
  written to the copy. -/
  copies : ∀ {steps frame s o x t}, (s.heap.cell o).isView = false →
    bindTo (answered c steps) o key value frame s = .answer x t →
      ∃ u, s.Copied o (s.heap.cell o).owner? x u ∧
        (placeOf (answered c steps) x key >>= fun place =>
          write (answered c steps) place value) ((frame.holding [o]).holding [x]) u = .answer () t
  /-- Where slots compute expressions, the owner is the same still when the argument has landed. -/
  owner : ∀ {steps frame s o x t}, (s.heap.cell o).isView = false →
    bindTo (answerWithin steps) o key value frame s = .answer x t →
      (t.heap.cell x).owner? = (s.heap.cell o).owner?

/-- A run leaves those objects alone that exist when it begins. -/
structure LeavesAlone (c : Computations) (x : Answerer → Action α) : Prop where
  /-- They gain nothing but caches and results, unless a computation in the midst of the run does
  more to them. -/
  computes : ∀ {steps : Nat} {frame : Frame} {s : State} {y : Ref}, y.index < s.heap.size →
    ¬ s.heap.Untouched (x (answered c steps) frame s).state.heap y → c.Writes x steps frame s y
  /-- Where slots compute expressions, none does. -/
  bare : ∀ {steps : Nat} {frame : Frame} {s : State} {y : Ref}, y.index < s.heap.size →
    s.heap.Untouched (x (answerWithin steps) frame s).state.heap y

theorem bindsCopy (c : Computations) (base : Ref) (key : Key) (value : Ref) :
    BindsCopy c base key value where
  base {steps frame s o u} settled := by
    have concrete := (settles_answered c steps).settle settled
    exact ⟨concrete, bindTo_of_settled settled concrete⟩
  copies concrete derives := bindTo_answers concrete derives
  owner concrete derives := by
    obtain ⟨u, copied, written⟩ := bindTo_answers concrete derives
    exact (owner?_of_written written copied.exist copied.concrete).trans copied.owned

/-- What spares existing objects whatever it asks leaves them alone. -/
theorem LeavesAlone.of_obeys {x : Answerer → Action α} {post : Sparing → α → State → Prop}
    (made : Stepwise State.Changes True x)
    (obeys : ∀ (S : Sparing) (ask : Answerer), ask.Moves S.Spares → ask.Settles →
      Obeys S (fun _ => True) (x ask) (post S)) : LeavesAlone c x where
  computes {steps frame s y} exist touched :=
    Computations.writes_of_touched made
      (fun ask moves settles _ => (obeys (.retaining y) ask moves settles frame s exist trivial).1)
      exist touched
  bare {steps frame s y} exist := by
    have sound := sound_answerWithin steps
    have spared := obeys (.bare (y.index + 1)) _ (sound.bare _) sound.settles frame s exist trivial
    exact spared.1.untouched (Nat.lt_succ_self _) exist

/-- To derive an object leaves those alone that exist. -/
theorem leavesAlone (c : Computations) (v : View) : LeavesAlone c fun ask => derivedBy ask v := by
  have made : Stepwise State.Edits True fun ask => derivedBy ask v :=
    (straight_derivedBy v).stepwise
  exact .of_obeys (made.mono State.Edits.changes) fun _ _ moves settles =>
    obeys_derivedBy moves settles v

/-! ## Views in a history -/

/-- What a known view stands for exists. -/
theorem State.Secluded.exist_of_resolved {aside : Ref → Prop} {known : List Ref}
    (here : s.Secluded aside known) (there : r ∈ known) {steps : Nat}
    (resolved : answerWithin steps (.resolve r) frame s = .answer o t) : o.index < t.heap.size := by
  have ends := (here.answered (.resolve r) (List.forall_mem_singleton.mpr there) trivial frame
    steps).1
  rw [resolved] at ends
  exact ends.exist List.mem_cons_self

namespace Moment.Before

variable {m : Moment} (began : Moment.first.Before m) (exist : r.index < m.state.heap.size)
include began exist

/-- In a history, nothing keeps an existing view from being known. -/
theorem secluded : m.state.Secluded (fun _ => False) [r] :=
  .of_intact began.intact (List.forall_mem_singleton.mpr exist) fun _ => id

/-- In a history, what an existing view stands for exists. -/
theorem exist_of_resolved {steps : Nat}
    (resolved : answerWithin steps (.resolve r) frame m.state = .answer o t) :
    o.index < t.heap.size :=
  (began.secluded exist).exist_of_resolved List.mem_cons_self resolved

/-- **In a history, what is found for an existing view exists by then.** -/
theorem finds_existing {steps : Nat}
    (finds : (Query.resolving r steps frame m.state).Finds .ofExpressions r v x) :
    (Query.resolving r steps frame m.state).FindsExisting .ofExpressions r v x := by
  obtain ⟨steps', frame', s, t, within, resolution⟩ := finds
  refine ⟨steps', frame', s, t, within, resolution, ?_⟩
  have known : (Query.resolving r steps frame m.state).InCustody seclusion
      (m.state.heap, fun _ => False) :=
    ⟨⟨frame, [], False.elim⟩, rfl, trivial, began.secluded exist⟩
  -- the view is known where the use begins that finds the object
  obtain ⟨setting, -, -, holds⟩ := within.keeps known
  have answers := resolution.answers
  rw [Query.outcome, answered_ofExpressions] at answers
  have resolved : answerWithin (steps' + 1) (.resolve r) frame' s = _ := answers
  have there := (State.Secluded.of_custody holds).exist_of_resolved List.mem_cons_self resolved
  rwa [Heap.setResult, Heap.size_update] at there

end Moment.Before

/-! ## Views resolve once -/

theorem resolvedOnce {result : Option Ref} (view : (s.heap.cell r).kind = .view v result) :
    ResolvedOnce c r v s := by
  have kept {steps : Nat} {frame : Frame} {t : State}
      (after : ((Query.resolving r steps frame s).outcome c).state = t) :
      ∃ result, (t.heap.cell r).kind = .view v result := by
    have grown := (Query.resolving r steps frame s).grows c
    rw [after] at grown
    obtain ⟨result, kind, _⟩ := (grown.cell r (Heap.lt_size_of_view view)).view view
    exact ⟨result, kind⟩
  have stands {steps : Nat} {frame : Frame} {o : Ref} {t : State}
      (ends : (Query.resolving r steps frame s).outcome c = .answer o t) :
      t.heap.StandsFor r o ∧ ∃ x, (t.heap.cell r).kind = .view v (some x) := by
    have settled : settle (answered c (steps + 1)) r frame s = .answer o t := by
      rw [settle_of_view (isView_of_view view), answered_succ]
      exact ends
    have stands := standsFor_of_settle settled
    refine ⟨stands, ?_⟩
    obtain ⟨result, kind⟩ := kept (congrArg Outcome.state ends)
    obtain ⟨x, rfl, _⟩ := stands.of_view kind
    exact ⟨x, kind⟩
  have uses {t u : State} {o : Ref} {result : Option Ref} (stands : t.heap.StandsFor r o)
      (kind : (t.heap.cell r).kind = .view v result) (exist : o.index < t.heap.size)
      (later : Later c t u) :
      ∃ enough, ∀ steps, enough ≤ steps → ∀ frame, Uses c steps frame u r o := by
    obtain ⟨_, kind', _⟩ := (later.grows.cell r (Heap.lt_size_of_view kind)).view kind
    exact (stands.grows later.grows exist).uses kind' c
  constructor
  case succeeds =>
    intro steps frame o t ends
    obtain ⟨stands, x, kind⟩ := stands ends
    refine ⟨stands.concrete, ⟨x, kind⟩, fun {u} exist later => ?_⟩
    exact uses stands kind exist later
  case tries =>
    exact fun unresolved ask frame => ⟨settle_of_view (isView_of_view unresolved),
      resolve_unresolved unresolved c ask frame⟩
  case fails =>
    intro unresolved steps frame f t failed
    have after : ((Query.resolving r steps frame s).outcome c).state = t := by
      rw [failed, Outcome.state]
    obtain ⟨result, kind⟩ := kept after
    cases result with
    | none => exact .inl kind
    | some x =>
        have found := Query.finds_of_kept (Query.resolving r steps frame s) unresolved (after ▸ kind)
        refine .inr ⟨x, kind, found, fun known {u} later => ?_⟩
        obtain ⟨exist, concrete⟩ := (known.elim found.existing id).concrete
        rw [after] at exist concrete
        exact uses (.kept kind (.itself concrete)) kind exist later
  case finds =>
    intro unresolved steps frame o t ends
    have after : ((Query.resolving r steps frame s).outcome c).state = t := by
      rw [ends, Outcome.state]
    obtain ⟨stands, x, kind⟩ := stands ends
    obtain ⟨y, same, rest⟩ := stands.of_view kind
    cases same
    exact ⟨x, kind, rest, Query.finds_of_kept _ unresolved (after ▸ kind)⟩

/-- **Views resolve once, to something concrete, and leave their base alone.**  A use of a view that
succeeds finds an object that is no view, and every later use of the view is one of that object.  A
use that fails leaves the view as it was, unless the view has been used in the midst of it with
success; then the view keeps what that use has found, and that is what later uses act on.  In a
history, what an existing view gives, or keeps, exists.

A view that binds an argument finds a new copy of what its base stands for, with the same home and
the same owner, if there is one.  When an object is derived, for this view or any other, those that
exist gain nothing but caches and results, unless a computation in the midst of it does more to
them; where slots compute expressions, none does. -/
theorem views_resolve_once {result : Option Ref} (view : (s.heap.cell r).kind = .view v result) :
    ResolvedOnce c r v s ∧
    ((∀ base, v ≠ .unvar base) → result = none → ∀ {steps frame o t},
      (Query.resolving r steps frame s).outcome c = .answer o t →
        (Query.resolving r steps frame s).Finds c r v o) ∧
    (∀ base key value, BindsCopy c base key value) ∧
    (∀ w : View, LeavesAlone c fun ask => derivedBy ask w) ∧
    ∀ {m : Moment}, Moment.first.Before m → r.index < m.state.heap.size → ∀ {steps frame},
      (∀ {o t}, answerWithin steps (.resolve r) frame m.state = .answer o t →
        o.index < t.heap.size) ∧
      ∀ {x}, (Query.resolving r steps frame m.state).Finds .ofExpressions r v x →
        (Query.resolving r steps frame m.state).FindsExisting .ofExpressions r v x := by
  have once : ResolvedOnce c r v s := resolvedOnce view
  refine ⟨once, ?_, bindsCopy c, leavesAlone c, fun began exist _ _ =>
    ⟨began.exist_of_resolved exist, began.finds_existing exist⟩⟩
  rintro more rfl steps frame o t ends
  obtain ⟨x, _, stands, found⟩ := once.finds view ends
  have after : ((Query.resolving r steps frame s).outcome c).state = t := by
    rw [ends, Outcome.state]
  obtain rfl := stands.unique (.itself (after ▸ (found.existing more).concrete.2))
  exact found

/-- A view of an object with an empty slot finds a copy and stands for it from then on. -/
theorem binding_resolves_once : ∃ t,
    (Query.resolving ⟨2⟩ 1 {} State.withBinding).outcome .ofExpressions = .answer ⟨3⟩ t ∧
      (t.heap.cell ⟨3⟩).isView = false ∧ ∃ enough, ∀ steps, enough ≤ steps → ∀ frame,
        Uses .ofExpressions steps frame t ⟨2⟩ ⟨3⟩ := by
  have view : (State.withBinding.heap.cell ⟨2⟩).kind =
      .view (.bind ⟨1⟩ (.position 0) ⟨0⟩) none := rfl
  let q := Query.resolving ⟨2⟩ 1 {} State.withBinding
  have ends : q.outcome .ofExpressions = .answer ⟨3⟩ (q.outcome .ofExpressions).state := rfl
  have once : ResolvedOnce .ofExpressions ⟨2⟩ _ State.withBinding := (views_resolve_once view).1
  obtain ⟨concrete, _, uses⟩ := once.succeeds ends
  exact ⟨_, ends, concrete, uses (by decide) (.refl _)⟩

/-! ## A view that is used while it is resolved -/

/-- The value of what is in the slot `view` of an object. -/
def Expr.viewed : Expr := .force (.get .self "view")

/-- An object whose slot `picked` gives the value of another of its slots, depending on the depth:
first of `outer`, then of `next`, then of `inner`. -/
def pickerSlots (outer : Expr) : Slots :=
  [("view", .free none), ("outer", .composite outer), ("next", .composite (.data (.int 9))),
    ("inner", .composite (.data (.int 5))),
    ("picked", .composite (.force (.bind (.get (.array [.method .self "outer", .method .self "next",
      .method .self "inner"]) "at") (.position 0) .depth)))]

/-- A view of what the object picks is in a slot of the object itself. -/
def State.withPicker (outer : Expr) : State :=
  [Deed.mk (.build "picker" none (pickerSlots outer)) 0 {}, ⟨.view (.method ⟨1⟩ "picked"), 0, {}⟩,
    ⟨.put (.slot ⟨1⟩ "view") ⟨2⟩, 0, {}⟩].foldl (Deed.after .ofExpressions) .initial

/-- What a view has kept. -/
def Cell.result? (d : Cell) : Option Ref :=
  match d.kind with
  | .view _ result => result
  | _ => none

def Outcome.isFailure {α : Type} : Outcome α → Bool
  | failure _ _ => true
  | _ => false

/-- The view is used, and so is what it picks: `outer`, which uses the view again, with success, and
fails then.  So that use fails, but the view has kept what the other one has found, and gives it
from then on. -/
theorem failed_use_leaves_a_result :
    let s := State.withPicker (.get .viewed "missing")
    Later .ofExpressions .initial s ∧
      (s.heap.cell ⟨2⟩).kind = .view (.method ⟨1⟩ "picked") none ∧
        ∃ f t, (Query.resolving ⟨2⟩ 24 {} s).outcome .ofExpressions = .failure f t ∧
          (t.heap.cell ⟨2⟩).kind = .view (.method ⟨1⟩ "picked") (some ⟨20⟩) ∧
            ∀ (ask : Answerer) frame,
              answerBy .ofExpressions ask (.resolve ⟨2⟩) frame t = .answer ⟨20⟩ t := by
  intro s
  let q := Query.resolving ⟨2⟩ 24 {} s
  have view : (s.heap.cell ⟨2⟩).kind = .view (.method ⟨1⟩ "picked") none := rfl
  have fails : (q.outcome .ofExpressions).isFailure = true := by decide +kernel
  have result : ((q.outcome .ofExpressions).state.heap.cell ⟨2⟩).result? = some ⟨20⟩ := by
    decide +kernel
  have concrete : ((q.outcome .ofExpressions).state.heap.cell ⟨20⟩).isView = false := by
    decide +kernel
  have grown := q.grows .ofExpressions
  refine ⟨Deed.later_foldl _ _, view, ?_⟩
  cases failed : q.outcome .ofExpressions with
  | failure f t =>
      rw [failed] at result concrete grown
      obtain ⟨kept, kind, _⟩ := (grown.cell ⟨2⟩ (Heap.lt_size_of_view view)).view view
      have kind' : (t.heap.cell ⟨2⟩).kind = .view (.method ⟨1⟩ "picked") kept := kind
      have same : kept = some ⟨20⟩ := by rwa [Outcome.state, Cell.result?, kind'] at result
      subst same
      exact ⟨f, t, rfl, kind', fun ask frame =>
        (resolve_kept kind' _ ask frame).trans (settle_of_concrete concrete)⟩
  | _ => rw [failed] at fails; cases fails

end PhiCalculus
