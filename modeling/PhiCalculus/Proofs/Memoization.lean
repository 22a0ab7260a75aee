import PhiCalculus.Proofs.Queries

/-!
# Slots that are computed once

A slot that is computed once keeps the object that the first read computes for it.  While it is
computed, the computation may read the slot again, and then the slot may have kept an object already
when the computation ends; that object stays (`keep_computed`).

A read that succeeds leaves its object in the slot, in whatever state it is made
(`read_leaves_it`).  Only reads of a slot fill it by themselves, so where it has been filled, a read
of it has succeeded with what is in it (`Query.exists_read`).  Hence all reads of a slot that
succeed give one object, and a read that fails leaves the slot as it was unless a read in the midst
of it has succeeded (`computed_once`).
-/

set_option autoImplicit false

namespace PhiCalculus

open PhiCalculus.Action

variable {c : Computations} {ask : Answerer} {s t u : State} {frame : Frame} {r x : Ref}
  {name : String} {e : Expr}

/-! ## Reading such a slot -/

/-- What is kept is read, and nothing is asked for. -/
theorem read_computed (computed : s.heap.slot? r name = some (.once e (some x)))
    (c : Computations) (ask : Answerer) (frame : Frame) :
    answerBy c ask (.read (.slot r name)) frame s = .answer x s := by
  have place : readPlace ask (.slot r name) (frame.holding [r]) s = .answer x s := by
    rw [readPlace, bind_of_answer (asks_apply _ _ s), computed]
    rfl
  exact place

/-- Where nothing is kept, reading computes an object and keeps it. -/
theorem read_uncomputed (uncomputed : s.heap.slot? r name = some (.once e none))
    (c : Computations) (ask : Answerer) (frame : Frame) :
    answerBy c ask (.read (.slot r name)) frame s =
      (ask (.eval e r) >>= keep r name) (frame.holding [r]) s := by
  have place : readPlace ask (.slot r name) (frame.holding [r]) s =
      (ask (.eval e r) >>= keep r name) (frame.holding [r]) s := by
    rw [readPlace, bind_of_answer (asks_apply _ _ s), uncomputed]
  exact place

/-- A read of the slot. -/
abbrev Query.reading (r : Ref) (name : String) (steps : Nat) (frame : Frame) (s : State) : Query :=
  ⟨.read (.slot r name), steps, frame, s⟩

/-- **A read that succeeds leaves its object in the slot.** -/
theorem read_leaves_it {cache : Option Ref} (once : s.heap.slot? r name = some (.once e cache))
    {steps : Nat} (ends : (Query.reading r name steps frame s).outcome c = .answer x t) :
    t.heap.slot? r name = some (.once e (some x)) := by
  change answerBy c (answered c steps) (.read (.slot r name)) frame s = _ at ends
  cases cache with
  | some kept =>
      rw [read_computed once] at ends
      cases ends
      exact once
  | none =>
      rw [read_uncomputed once] at ends
      obtain ⟨y, u, evaluated, kept⟩ := bind_eq_answer.mp ends
      obtain ⟨cache, once', _⟩ := (answered_grows evaluated).once once
      exact keep_once once' kept

theorem Query.eq_reading {q : Query} (reads : q.request.Reads r name) :
    ∃ steps frame s, q = .reading r name steps frame s := by
  obtain ⟨request, steps, frame, s⟩ := q
  cases request with
  | read p =>
      cases p with
      | slot o n =>
          obtain ⟨rfl, rfl⟩ := reads
          exact ⟨steps, frame, s, rfl⟩
      | _ => exact reads.elim
  | _ => exact reads.elim

/-! ## Who fills the slot -/

/-- A slot that has kept nothing has kept nothing then. -/
def State.Delays (r : Ref) (name : String) (e : Expr) (s t : State) : Prop :=
  s.heap.slot? r name = some (.once e none) → t.heap.slot? r name = some (.once e none)

namespace State.Delays

theorem refl (s : State) : s.Delays r name e s := id

theorem trans ⦃s t u : State⦄ (first : s.Delays r name e t) (second : t.Delays r name e u) :
    s.Delays r name e u := fun uncomputed => second (first uncomputed)

/-- A change of another slot. -/
theorem of_setSlot {o : Ref} {other : String} {new : Slot} (ne : r ≠ o ∨ name ≠ other) :
    s.Delays r name e { s with heap := s.heap.setSlot o other new } :=
  fun uncomputed => (slot?_setSlot_of_ne ne).trans uncomputed

/-- What is written is no slot that is computed. -/
theorem of_other {o : Ref} {other : String} {old new : Slot}
    (found : s.heap.slot? o other = some old) (written : old ≠ .once e none) :
    s.Delays r name e { s with heap := s.heap.setSlot o other new } := by
  intro uncomputed
  refine of_setSlot ?_ uncomputed
  by_contra same
  obtain ⟨rfl, rfl⟩ : r = o ∧ name = other := by simpa only [not_or, not_not] using same
  exact written (Option.some.inj (found.symm.trans uncomputed))

end State.Delays

theorem State.Edits.delays ⦃s t : State⦄ (h : s.Edits t) : s.Delays r name e t := by
  cases h with
  | creates h =>
      intro uncomputed
      cases h with
      | observed heap => rwa [heap]
      | alloc k => exact Heap.slot?_alloc _ uncomputed
      | data v => exact Heap.slot?_alloc _ uncomputed
  | write value found => exact .of_other found nofun
  | append items found => exact .of_other found nofun
  | own owner free =>
      exact fun uncomputed => (s.heap.slot?_setOwner _ owner r name).trans uncomputed

/-- No request fills the slot by itself but a read of it. -/
theorem Request.delays {α : Type} (q : Request α) (other : ¬ q.Reads r name) :
    q.Keeps c (State.Delays r name e) := by
  intro ask moves _
  refine (stepwise_answerBy_of State.Edits.delays c q (fun o n computed reads => ?_)
    fun v derived _ => ?_).moves State.Delays.trans moves
  · intro frame s
    have ne : r ≠ o ∨ name ≠ n := by
      by_contra same
      obtain ⟨rfl, rfl⟩ : r = o ∧ name = n := by simpa only [not_or, not_not] using same
      exact other reads
    have kept : (keep o n computed frame s).state = s ∨ ∃ new, _ = _ := state_keep computed
    rcases kept with same | ⟨new, set⟩
    · rw [same]
      exact .refl s
    · rw [set]
      exact .of_setSlot ne
  · intro frame s uncomputed
    have kept : (keepResult v derived frame s).state = s ∨ _ = _ := state_keepResult derived
    rcases kept with same | set
    · rwa [same]
    · rw [set]
      exact (s.heap.slot?_setResult v derived r name).trans uncomputed

/-- Where nothing is kept, a read asks for the computation. -/
theorem Query.reading_asks (uncomputed : s.heap.slot? r name = some (.once e none)) (steps : Nat) :
    (Query.reading r name (steps + 1) frame s).Asks c ⟨.eval e r, steps, frame.holding [r], s⟩ := by
  refine .mk (Reaches.dependsOn fun ask _ v cut => ?_)
  show answerBy c ask (.read (.slot r name)) frame s = _
  rw [read_uncomputed uncomputed]
  exact bind_of_unfinished cut _

/-- A read that fills the slot itself succeeds with what it fills it with. -/
theorem Query.Itself.succeeds {steps : Nat}
    (itself : (Query.reading r name steps frame s).Itself c (State.Delays r name e)) :
    ∃ x t, (Query.reading r name steps frame s).outcome c = .answer x t ∧
      t.heap.slot? r name = some (.once e (some x)) := by
  obtain ⟨uncomputed, filled⟩ := Classical.not_imp.mp itself.breaks
  have read : (Query.reading r name steps frame s).outcome c =
      (answered c steps (.eval e r) >>= keep r name) (frame.holding [r]) s :=
    read_uncomputed uncomputed c _ frame
  -- the computation itself leaves the slot as it was
  have still : (answered c steps (.eval e r) (frame.holding [r]) s).state.heap.slot? r name =
      some (.once e none) := by
    cases steps with
    | zero => exact uncomputed
    | succ steps =>
        have delays := not_not.mp (itself.others _ (Query.reading_asks uncomputed steps))
        rw [answered_succ]
        exact delays uncomputed
  cases ending : answered c steps (.eval e r) (frame.holding [r]) s with
  | answer x t =>
      rw [ending] at still
      have ends := read.trans ((bind_of_answer ending _).trans (keep_uncomputed still x))
      exact ⟨x, _, ends, slot?_setSlot still⟩
  | failure f t =>
      rw [read, bind_of_failure ending] at filled
      rw [ending] at still
      exact absurd still filled
  | @unfinished t =>
      rw [read, bind_of_unfinished ending] at filled
      rw [ending] at still
      exact absurd still filled

/-- **Where a slot has been filled, a read of it has succeeded with what is in it.** -/
theorem Query.exists_read (q : Query) (uncomputed : q.state.heap.slot? r name = some (.once e none))
    (computed : (q.outcome c).state.heap.slot? r name = some (.once e (some x))) :
    ∃ steps frame s t, q.Within c (.reading r name steps frame s) ∧
      (Query.reading r name steps frame s).outcome c = .answer x t := by
  have breaks : q.Breaks c (State.Delays r name e) := fun delays => by
    cases (delays uncomputed).symm.trans computed
  obtain ⟨d, within, reads, itself⟩ :=
    q.exists_itself State.Delays.refl (fun p other => p.delays other) breaks
  obtain ⟨steps, frame, s, rfl⟩ := d.eq_reading reads
  obtain ⟨y, t, ends, filled⟩ := itself.succeeds
  have grown := within.grows.2
  rw [ends] at grown
  obtain ⟨cache, found, stays⟩ := grown.once filled
  rw [stays y rfl] at found
  cases found.symm.trans computed
  exact ⟨steps, frame, s, t, within, ends⟩

/-- The slot that was read in vain keeps nothing, unless a read of it has succeeded in the midst. -/
theorem uncomputed_or_read {steps : Nat} {f : Failure}
    (uncomputed : s.heap.slot? r name = some (.once e none))
    (failed : (Query.reading r name steps frame s).outcome c = .failure f t) :
    t.heap.slot? r name = some (.once e none) ∨
      ∃ x, t.heap.slot? r name = some (.once e (some x)) ∧ ∃ steps' around u v,
        (Query.reading r name steps frame s).Within c (.reading r name steps' around u) ∧
          (Query.reading r name steps' around u).outcome c = .answer x v := by
  let q := Query.reading r name steps frame s
  have after : (q.outcome c).state = t := by rw [failed, Outcome.state]
  have grown : s.heap.Grows t.heap := after ▸ q.grows c
  obtain ⟨cache, found, _⟩ := grown.once uncomputed
  cases cache with
  | none => exact .inl found
  | some x => exact .inr ⟨x, found, q.exists_read uncomputed (after ▸ found)⟩

/-! ## Reads in a row -/

/-- From the first state to the last a slot is read again and again, and anything may be done in
between; these are the objects that the reads give that succeed. -/
inductive Readings (c : Computations) (r : Ref) (name : String) :
    State → List Ref → State → Prop where
  | nothing (s : State) : Readings c r name s [] s
  | between {s t u : State} {xs : List Ref} : Later c s t → Readings c r name t xs u →
      Readings c r name s xs u
  | read {s t u : State} {steps : Nat} {frame : Frame} {x : Ref} {xs : List Ref} :
      (Query.reading r name steps frame s).outcome c = .answer x t → Readings c r name t xs u →
        Readings c r name s (x :: xs) u

/-- What has been read is in the slot from then on. -/
theorem Readings.kept {xs : List Ref} (readings : Readings c r name s xs t) {cache : Option Ref}
    (once : s.heap.slot? r name = some (.once e cache)) :
    ∃ cache', t.heap.slot? r name = some (.once e cache') ∧ Stays cache cache' ∧
      ∀ x ∈ xs, cache' = some x := by
  induction readings generalizing cache with
  | nothing s => exact ⟨cache, once, .refl cache, nofun⟩
  | between later _ ih =>
      obtain ⟨cache', once', stays⟩ := later.grows.once once
      obtain ⟨cache'', once'', stays', all⟩ := ih once'
      exact ⟨cache'', once'', stays.trans stays', all⟩
  | @read s t u steps frame x xs ends _ ih =>
      have grown := (Query.reading r name steps frame s).grows c
      rw [ends] at grown
      obtain ⟨cache', once', stays⟩ := grown.once once
      cases (read_leaves_it once ends).symm.trans once'
      obtain ⟨cache'', once'', stays', all⟩ := ih once'
      refine ⟨cache'', once'', stays.trans stays', fun y there => ?_⟩
      rcases List.mem_cons.mp there with rfl | there
      · exact stays' y rfl
      · exact all y there

/-! ## What reads do -/

/-- What reads do that are made in a state, of a slot that computes `e` once. -/
structure ComputedOnce (c : Computations) (r : Ref) (name : String) (e : Expr) (s : State) :
    Prop where
  /-- A read that succeeds leaves its object in the slot.  From then on every read gives it and asks
  for nothing. -/
  succeeds : ∀ {steps frame x t}, (Query.reading r name steps frame s).outcome c = .answer x t →
    t.heap.slot? r name = some (.once e (some x)) ∧
      ∀ {u}, Later c t u → ∀ (ask : Answerer) frame,
        answerBy c ask (.read (.slot r name)) frame u = .answer x u
  /-- Where nothing is kept, a read invokes the computation, and what that gives is kept unless the
  slot has kept an object by then. -/
  invokes : s.heap.slot? r name = some (.once e none) → ∀ (ask : Answerer) frame,
    answerBy c ask (.read (.slot r name)) frame s =
      (ask (.eval e r) >>= keep r name) (frame.holding [r]) s
  /-- A read that fails leaves the slot as it was, unless a read in the midst of it succeeds. -/
  fails : s.heap.slot? r name = some (.once e none) → ∀ {steps frame f t},
    (Query.reading r name steps frame s).outcome c = .failure f t →
      t.heap.slot? r name = some (.once e none) ∨
        ∃ x, t.heap.slot? r name = some (.once e (some x)) ∧ ∃ steps' around u v,
          (Query.reading r name steps frame s).Within c (.reading r name steps' around u) ∧
            (Query.reading r name steps' around u).outcome c = .answer x v
  /-- What a read in the midst of a read gives is what the slot keeps, and what the outer one gives
  if it succeeds. -/
  reenters : ∀ {steps frame steps' around t x u},
    (Query.reading r name steps frame s).Within c (.reading r name steps' around t) →
      (Query.reading r name steps' around t).outcome c = .answer x u →
        ((Query.reading r name steps frame s).outcome c).state.heap.slot? r name =
            some (.once e (some x)) ∧
          ∀ y v, (Query.reading r name steps frame s).outcome c = .answer y v → y = x
  /-- A copy keeps nothing yet, and a read of it invokes the computation for the copy. -/
  copies : ∀ (ask : Answerer) frame, ∃ copy t, copyOf ask r frame s = .answer copy t ∧ copy ≠ r ∧
    t.heap.slot? copy name = some (.once e none) ∧ ∀ (ask : Answerer) frame,
      answerBy c ask (.read (.slot copy name)) frame t =
        (ask (.eval e copy) >>= keep copy name) (frame.holding [copy]) t

/-- Copying an object gives a new one, with its computed slots starting over. -/
theorem copyOf_once {cache : Option Ref} (once : s.heap.slot? r name = some (.once e cache))
    (ask : Answerer) (frame : Frame) : ∃ copy t, copyOf ask r frame s = .answer copy t ∧
      copy ≠ r ∧ t.heap.slot? copy name = some (.once e none) := by
  obtain ⟨table, kind, declared⟩ := table_of_slot? once
  refine ⟨_, _, copyOf_table kind, fun same => ?_, ?_⟩
  · have exist : r.index < s.heap.size := Heap.lt_size_of_slot? once
    exact Nat.lt_irrefl _ (same ▸ exist : (s.copyTable table).1.index < s.heap.size)
  · rw [Heap.slot?, show (s.copyTable table).2.heap.cell (s.copyTable table).1 = _ from
      s.heap.cell_alloc_self _]
    show table.slots.copy.find? name = _
    rw [Slots.find?_copy, declared]
    rfl

/-- **A slot that is computed once gives one object.**  Let a slot of an object compute `e` once,
whether or not it has kept an object yet.  In every later state it still does, and reads do what
`ComputedOnce` says.  In particular, whatever is done in between and however many reads fail, all
reads that succeed give the same object. -/
theorem computed_once {cache : Option Ref} (once : s.heap.slot? r name = some (.once e cache))
    (later : Later c s t) :
    (∃ cache', t.heap.slot? r name = some (.once e cache') ∧ Stays cache cache') ∧
      ComputedOnce c r name e t ∧
        ∀ {xs u}, Readings c r name t xs u → ∀ x ∈ xs, ∀ y ∈ xs, x = y := by
  obtain ⟨cache', once', stays⟩ := later.grows.once once
  refine ⟨⟨cache', once', stays⟩, ?_, fun readings x there y there' => ?_⟩
  · constructor
    case succeeds =>
      intro steps frame x u ends
      have kept := read_leaves_it once' ends
      refine ⟨kept, fun {v} later' ask around => ?_⟩
      obtain ⟨cache'', found, stays'⟩ := later'.grows.once kept
      rw [stays' x rfl] at found
      exact read_computed found c ask around
    case invokes => exact fun uncomputed ask frame => read_uncomputed uncomputed c ask frame
    case fails =>
      intro uncomputed steps frame f u failed
      exact uncomputed_or_read uncomputed failed
    case reenters =>
      intro steps frame steps' around u x v within ends
      obtain ⟨begins, rest⟩ := within.grows
      obtain ⟨inner, found, _⟩ := begins.once once'
      rw [ends] at rest
      obtain ⟨outer, kept, stays'⟩ := rest.once (read_leaves_it found ends)
      rw [stays' x rfl] at kept
      refine ⟨kept, fun y w ends' => ?_⟩
      rw [ends'] at kept
      cases kept.symm.trans (read_leaves_it once' ends')
      rfl
    case copies =>
      intro ask frame
      obtain ⟨copy, u, copied, new, uncomputed⟩ := copyOf_once once' ask frame
      exact ⟨copy, u, copied, new, uncomputed, fun ask frame =>
        read_uncomputed uncomputed c ask frame⟩
  · obtain ⟨kept, _, _, all⟩ := readings.kept once'
    exact Option.some.inj ((all x there).symm.trans (all y there'))

/-- An object with a slot that is computed once. -/
def State.withCell : State :=
  (State.initial.alloc (.table
    { form := "cell", slots := [("x", .once (.data (.string "x")) none)] })).2

/-- The object that the first read of it gives is what every other read gives then. -/
theorem cell_gives_one_object : ∃ x t,
    (Query.reading ⟨1⟩ "x" 1 {} State.withCell).outcome .ofExpressions = .answer x t ∧
      ∀ (ask : Answerer) frame,
        answerBy .ofExpressions ask (.read (.slot ⟨1⟩ "x")) frame t = .answer x t := by
  have declared : State.withCell.heap.slot? ⟨1⟩ "x" = some (.once (.data (.string "x")) none) := rfl
  let q := Query.reading ⟨1⟩ "x" 1 {} State.withCell
  have ends : q.outcome .ofExpressions = .answer ⟨2⟩ (q.outcome .ofExpressions).state := rfl
  have once : ComputedOnce .ofExpressions ⟨1⟩ "x" (.data (.string "x")) State.withCell :=
    (computed_once declared (.refl _)).2.1
  exact ⟨⟨2⟩, _, ends, (once.succeeds ends).2 (.refl _)⟩

end PhiCalculus
