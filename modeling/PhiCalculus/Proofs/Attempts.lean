import PhiCalculus.Proofs.Persistence

/-!
# What an attempt does

An attempt has three parts, each in a free slot that may be empty.  A part is run as a copy of the
object in its slot that is owned by the attempt (`Prepares`).

First the main part runs.  Its copy is given a new object that raises, aimed at the attempt, in the
first of its open slots (`MainEnds`).  If, and only if, this ended in a raise aimed at the attempt,
the handler runs, with the payload bound to the first of its open slots (`CatchEnds`).  Then,
whatever happened, the final part runs once (`FinallyEnds`).  If it fails, so does the attempt, and
in the same way; otherwise the attempt ends as the handler did, or else as the main part did
(`AttemptEnds`).

Each part may fail before it is dataized: its slot may be empty, the object in the slot may be a
view that cannot be looked through, and the copy may have no open slot.  The main result is that
this describes the outcomes of an attempt exactly (`attempt_ends_iff`).
-/

set_option autoImplicit false

namespace PhiCalculus

open PhiCalculus.Action

/-! ## The parts -/

/-- The object is an attempt: it decorates what the attempt gives, and its parts are free slots,
written or not. -/
structure Heap.IsAttempt (h : Heap) (r : Ref) : Prop where
  decorates : h.slot? r phi = some (.composite (.native .attempt))
  part : ∀ name ∈ ["main", "catch", "finally"], ∃ content, h.slot? r name = some (.free content)

/-- A new object like a table, but with the given owner, and where it is. -/
def State.ownedCopy (s : State) (t : Table) (owner : Ref) : Ref × State :=
  s.alloc (.table { t with owner := some owner, slots := t.slots.copy })

/-- A part of the attempt is copied and owned by the attempt.  A value is its own copy and has no
owner. -/
inductive Prepares (ask : Answerer) (r : Ref) (name : String) (frame : Frame) (s : State) :
    Except Failure Ref → State → Prop where
  | unbound : s.heap.slot? r name = some (.free none) →
      Prepares ask r name frame s (.error (.notYetBound name (s.heap.subject r))) s
  | unresolved {x : Ref} {f : Failure} {t : State} : s.heap.slot? r name = some (.free (some x)) →
      (settle ask x).Ends (frame.holding [r]) s (.error f) t →
        Prepares ask r name frame s (.error f) t
  | object {x o : Ref} {t : State} {table : Table} :
      s.heap.slot? r name = some (.free (some x)) →
        (settle ask x).Ends (frame.holding [r]) s (.ok o) t →
          (t.heap.cell o).kind = .table table →
            Prepares ask r name frame s (.ok (t.ownedCopy table r).1) (t.ownedCopy table r).2
  | value {x o : Ref} {t : State} {v : Value} : s.heap.slot? r name = some (.free (some x)) →
      (settle ask x).Ends (frame.holding [r]) s (.ok o) t →
        (t.heap.cell o).kind = .data v → Prepares ask r name frame s (.ok o) t

/-- An object is put into the slot that is found under a name.  It is refused if that one is not open:
the name of an open slot leads to another slot where several have the same name. -/
inductive Heap.Puts (h : Heap) (m : Ref) (name : String) (v : Ref) :
    Except Failure Unit → Heap → Prop where
  | free : h.slot? m name = some (.free none) →
      Puts h m name v (.ok ()) (h.setSlot m name (.free (some v)))
  | vararg {items : List Ref} : h.slot? m name = some (.vararg items) →
      Puts h m name v (.ok ()) (h.setSlot m name (.vararg (items ++ [v])))
  | refused : (∀ slot, h.slot? m name = some slot → slot.isOpen = false) →
      Puts h m name v (.error (.alreadyBound name (h.subject m))) h

/-- A new object that raises, aimed at the attempt, and where it is. -/
def State.raiser (s : State) (r : Ref) : Ref × State := s.alloc (.table (signalTable r))

/-- How the main part ends. -/
inductive MainEnds (ask : Answerer) (r : Ref) (frame : Frame) (s : State) :
    Except Failure Value → State → Prop where
  | unprepared {f : Failure} {t : State} : Prepares ask r "main" frame s (.error f) t →
      MainEnds ask r frame s (.error f) t
  | closed {m : Ref} {t : State} : Prepares ask r "main" frame s (.ok m) t →
      (t.heap.cell m).slots.openNames = [] →
        MainEnds ask r frame s (.error (.noSuchAttribute "#0" (t.heap.subject m))) t
  | refused {m : Ref} {t : State} {name : String} {rest : List String} {f : Failure} {h : Heap} :
      Prepares ask r "main" frame s (.ok m) t →
        (t.heap.cell m).slots.openNames = name :: rest →
          (t.raiser r).2.heap.Puts m name (t.raiser r).1 (.error f) h →
            MainEnds ask r frame s (.error f) { (t.raiser r).2 with heap := h }
  | ran {m : Ref} {t u : State} {name : String} {rest : List String} {h : Heap}
      {outcome : Except Failure Value} :
      Prepares ask r "main" frame s (.ok m) t →
        (t.heap.cell m).slots.openNames = name :: rest →
          (t.raiser r).2.heap.Puts m name (t.raiser r).1 (.ok ()) h →
            (ask (.dataize m)).Ends (frame.holding [m]) { (t.raiser r).2 with heap := h }
                outcome u →
              MainEnds ask r frame s outcome u

/-- How the handler ends when it runs on the payload. -/
inductive CatchEnds (ask : Answerer) (r payload : Ref) (frame : Frame) (s : State) :
    Except Failure Value → State → Prop where
  | unprepared {f : Failure} {t : State} :
      Prepares ask r "catch" (frame.holding [payload]) s (.error f) t →
        CatchEnds ask r payload frame s (.error f) t
  | ran {m : Ref} {t u : State} {outcome : Except Failure Value} :
      Prepares ask r "catch" (frame.holding [payload]) s (.ok m) t →
        (ask (.dataize (t.alloc (.view (.bind m (.position 0) payload) none)).1)).Ends frame
            (t.alloc (.view (.bind m (.position 0) payload) none)).2 outcome u →
          CatchEnds ask r payload frame s outcome u

/-- How the final part ends. -/
inductive FinallyEnds (ask : Answerer) (r : Ref) (frame : Frame) (s : State) :
    Except Failure Value → State → Prop where
  | unprepared {f : Failure} {t : State} : Prepares ask r "finally" frame s (.error f) t →
      FinallyEnds ask r frame s (.error f) t
  | ran {m : Ref} {t u : State} {outcome : Except Failure Value} :
      Prepares ask r "finally" frame s (.ok m) t → (ask (.dataize m)).Ends frame t outcome u →
        FinallyEnds ask r frame s outcome u

/-- What becomes of the outcome of the main part before the final part runs: a raise aimed at the
attempt, which has the given vertex, is handled, and anything else passes. -/
inductive Handles (ask : Answerer) (r : Ref) (vertex : Vertex) (frame : Frame) :
    Except Failure Value → State → Except Failure Value → State → Prop where
  | caught {payload : Ref} {s t : State} {outcome : Except Failure Value} :
      CatchEnds ask r payload frame s outcome t →
        Handles ask r vertex frame (.error (.raise vertex payload)) s outcome t
  | passed {outcome : Except Failure Value} {s : State} :
      (∀ payload, outcome ≠ .error (.raise vertex payload)) →
        Handles ask r vertex frame outcome s outcome s

/-- How an attempt ends. -/
inductive AttemptEnds (ask : Answerer) (r : Ref) (frame : Frame) (s : State) :
    Except Failure Ref → State → Prop where
  | finallyFailed {main outcome : Except Failure Value} {s₁ s₂ t : State} {f : Failure} :
      MainEnds ask r frame s main s₁ →
        Handles ask r (s.heap.vertex r) frame main s₁ outcome s₂ →
          FinallyEnds ask r (frame.holding (outcomeRefs outcome)) s₂ (.error f) t →
            AttemptEnds ask r frame s (.error f) t
  | failed {main : Except Failure Value} {s₁ s₂ t : State} {f : Failure} {v : Value} :
      MainEnds ask r frame s main s₁ →
        Handles ask r (s.heap.vertex r) frame main s₁ (.error f) s₂ →
          FinallyEnds ask r (frame.holding (outcomeRefs (.error f))) s₂ (.ok v) t →
            AttemptEnds ask r frame s (.error f) t
  | gave {main : Except Failure Value} {s₁ s₂ t : State} {result v : Value} :
      MainEnds ask r frame s main s₁ →
        Handles ask r (s.heap.vertex r) frame main s₁ (.ok result) s₂ →
          FinallyEnds ask r (frame.holding (outcomeRefs (.ok result))) s₂ (.ok v) t →
            AttemptEnds ask r frame s (.ok (t.allocData result).1) (t.allocData result).2

/-! ## Preparing a part -/

section Parts

variable {steps : Nat} {r : Ref} {name : String} {frame : Frame} {s t : State}

/-- A copy of a table is owned at once. -/
theorem moveTo_copyTable {ask : Answerer} {table : Table} :
    moveTo ask (s.copyTable table).1 r frame (s.copyTable table).2 =
      .answer () (s.ownedCopy table r).2 := by
  have made : ((s.copyTable table).2.heap.cell (s.copyTable table).1).kind =
      .table { table with owner := none, slots := table.slots.copy } :=
    congrArg Cell.kind (s.heap.cell_alloc_self _)
  have heap : (s.copyTable table).2.heap.setOwner (s.copyTable table).1 r =
      (s.ownedCopy table r).2.heap := s.heap.update_alloc _ _
  rw [moveTo_of_concrete (isView_of_table made), ownConcrete_free made rfl, heap]
  rfl

theorem own_copyTable {ask : Answerer} {table : Table} :
    hold [(s.copyTable table).1] (moveTo ask (s.copyTable table).1 r) frame
        (s.copyTable table).2 = .answer () (s.ownedCopy table r).2 :=
  moveTo_copyTable

/-- A value accepts any owner. -/
theorem moveTo_value {ask : Answerer} {v : Value} (kind : (s.heap.cell r).kind = .data v)
    (owner : Ref) : moveTo ask r owner frame s = .answer () s := by
  rw [moveTo_of_concrete (isView_of_data kind)]
  exact ownConcrete_data kind owner

theorem own_value {ask : Answerer} {v : Value} (kind : (s.heap.cell r).kind = .data v)
    (owner : Ref) : hold [r] (moveTo ask r owner) frame s = .answer () s :=
  moveTo_value kind owner

/-- What follows the look-up of a part: the object in the slot is copied and owned. -/
theorem partOf_of_bound {x : Ref} (bound : s.heap.slot? r name = some (.free (some x)))
    (plain : name ∉ reserved) (result : Except Failure Ref) :
    (partOf (answerWithin (steps + 1)) r name).Ends frame s result t ↔
      (hold [r] (copyOf (answerWithin (steps + 1)) x) >>= fun part =>
        hold [part] (moveTo (answerWithin (steps + 1)) part r) >>= fun _ => pure part).Ends
          frame s result t := by
  rw [partOf, ends_bind_of_answer (find_declared bound plain steps),
    ends_bind_of_answer (read_bound bound steps)]
  rfl

theorem prepares_of_ends {result : Except Failure Ref}
    (part : ∃ content, s.heap.slot? r name = some (.free content)) (plain : name ∉ reserved)
    (h : (partOf (answerWithin (steps + 1)) r name).Ends frame s result t) :
    Prepares (answerWithin (steps + 1)) r name frame s result t := by
  obtain ⟨content, found⟩ := part
  cases content with
  | none =>
      rw [partOf, ends_bind_of_answer (find_declared found plain steps),
        ends_bind_of_failure (read_empty found steps)] at h
      obtain ⟨rfl, rfl⟩ := h
      exact .unbound found
  | some x =>
      rw [partOf_of_bound found plain] at h
      rcases ends_bind.mp h with ⟨f, uncopied, rfl⟩ | ⟨m, u, copied, owned⟩
      · rcases ends_bind.mp (ends_hold.mp uncopied) with ⟨e, unsettled, same⟩ | ⟨o, w, _, rest⟩
        · cases same
          exact .unresolved found unsettled
        · rw [ends_hold, copyConcrete, ends_bind_of_answer (cell_apply o _ w)] at rest
          cases kind : (w.heap.cell o).kind <;> rw [kind] at rest <;> cases rest
      · rcases ends_bind.mp (ends_hold.mp copied) with ⟨e, _, same⟩ | ⟨o, w, settled, rest⟩
        · cases same
        have concrete := (sound_answerWithin (steps + 1)).settles.settle settled
        rw [ends_hold] at rest
        cases kind : (w.heap.cell o).kind with
        | table table =>
            cases (copyConcrete_table kind).symm.trans rest
            rw [ends_bind_of_answer own_copyTable] at owned
            cases result <;> cases owned
            exact .object found settled kind
        | data v =>
            cases (copyConcrete_data kind).symm.trans rest
            rw [ends_bind_of_answer (own_value kind r)] at owned
            cases result <;> cases owned
            exact .value found settled kind
        | view v kept => simp [Cell.isView, kind] at concrete

theorem ends_of_prepares {result : Except Failure Ref} (plain : name ∉ reserved)
    (h : Prepares (answerWithin (steps + 1)) r name frame s result t) :
    (partOf (answerWithin (steps + 1)) r name).Ends frame s result t := by
  cases h with
  | unbound found =>
      rw [partOf, ends_bind_of_answer (find_declared found plain steps),
        ends_bind_of_failure (read_empty found steps)]
      exact ⟨rfl, rfl⟩
  | unresolved found unsettled =>
      rw [partOf_of_bound found plain]
      exact ends_bind.mpr (.inl ⟨_, ends_hold.mpr (ends_bind.mpr (.inl ⟨_, unsettled, rfl⟩)), rfl⟩)
  | @object x o w table found settled kind =>
      rw [partOf_of_bound found plain]
      have copied : (hold [r] (copyOf (answerWithin (steps + 1)) x)).Ends frame s
          (.ok (w.copyTable table).1) (w.copyTable table).2 :=
        ends_hold.mpr (ends_bind.mpr (.inr ⟨o, w, settled, copyConcrete_table kind⟩))
      have owned : (hold [(w.copyTable table).1] (moveTo (answerWithin (steps + 1))
          (w.copyTable table).1 r) >>= fun _ => pure (w.copyTable table).1).Ends frame
            (w.copyTable table).2 (.ok (w.ownedCopy table r).1) (w.ownedCopy table r).2 := by
        rw [ends_bind_of_answer own_copyTable]
        rfl
      exact ends_bind.mpr (.inr ⟨_, _, copied, owned⟩)
  | @value x o t v found settled kind =>
      rw [partOf_of_bound found plain]
      have copied : (hold [r] (copyOf (answerWithin (steps + 1)) x)).Ends frame s (.ok o) t :=
        ends_hold.mpr (ends_bind.mpr (.inr ⟨o, t, settled, copyConcrete_data kind⟩))
      have owned : (hold [o] (moveTo (answerWithin (steps + 1)) o r) >>= fun _ => pure o).Ends
          frame t (.ok o) t := by
        rw [ends_bind_of_answer (own_value kind r)]
        rfl
      exact ends_bind.mpr (.inr ⟨_, _, copied, owned⟩)

/-- A part of an attempt is prepared as described. -/
theorem prepares_iff {result : Except Failure Ref} (isAttempt : s.heap.IsAttempt r)
    (isPart : name ∈ ["main", "catch", "finally"]) :
    (partOf (answerWithin (steps + 1)) r name).Ends frame s result t ↔
      Prepares (answerWithin (steps + 1)) r name frame s result t := by
  have plain : name ∉ reserved := by
    simp only [List.mem_cons, List.not_mem_nil, or_false] at isPart
    rcases isPart with rfl | rfl | rfl <;> decide
  exact ⟨prepares_of_ends (isAttempt.part name isPart) plain, ends_of_prepares plain⟩

/-- What was prepared is no view. -/
theorem Prepares.concrete {ask : Answerer} {m : Ref}
    (h : Prepares ask r name frame s (.ok m) t) : (t.heap.cell m).isView = false := by
  cases h with
  | @object x o w table _ _ _ =>
      have made : ((w.ownedCopy table r).2.heap.cell (w.ownedCopy table r).1).kind =
          .table { table with owner := some r, slots := table.slots.copy } :=
        congrArg Cell.kind (w.heap.cell_alloc_self _)
      exact isView_of_table made
  | value _ _ kind => exact isView_of_data kind

/-! ## Running the parts -/

/-- An object that is not to be spread is put into a slot, or refused. -/
theorem write_ends_iff {ask : Answerer} {m v : Ref} {result : Except Failure Unit}
    (single : (s.heap.cell v).isUnvar = false) :
    (write ask (.slot m name) v).Ends frame s result t ↔
      ∃ h, s.heap.Puts m name v result h ∧ t = { s with heap := h } := by
  have refuses (closed : ∀ slot, s.heap.slot? m name = some slot → slot.isOpen = false) :
      write ask (.slot m name) v frame s =
        .failure (.alreadyBound name (s.heap.subject m)) s := by
    rw [write, bind_of_answer (asks_apply _ frame s)]
    cases found : s.heap.slot? m name with
    | none =>
        show fill m name v frame s = _
        rw [fill, bind_of_answer (asks_apply _ frame s), found]
        rfl
    | some slot =>
        have shut := closed slot found
        rcases slot with (_ | p) | _ | _ | _
        · cases shut
        · exact fill_bound found v
        · show fill m name v frame s = _
          rw [fill, bind_of_answer (asks_apply _ frame s), found]
          rfl
        · cases shut
        · show fill m name v frame s = _
          rw [fill, bind_of_answer (asks_apply _ frame s), found]
          rfl
  constructor
  · intro h
    by_cases closed : ∀ slot, s.heap.slot? m name = some slot → slot.isOpen = false
    · have failed := refuses closed
      cases result <;> cases failed.symm.trans h
      exact ⟨_, .refused closed, rfl⟩
    · push Not at closed
      obtain ⟨slot, found, isOpen⟩ := closed
      rcases slot with (_ | p) | _ | items | _
      · have wrote := ((write_free found v).trans (fill_empty found v) : write ask _ v frame s = _)
        cases result <;> cases wrote.symm.trans h
        exact ⟨_, .free found, rfl⟩
      · exact absurd rfl isOpen
      · exact absurd rfl isOpen
      · have wrote : write ask (.slot m name) v frame s = _ := write_vararg found single
        cases result <;> cases wrote.symm.trans h
        exact ⟨_, .vararg found, rfl⟩
      · exact absurd rfl isOpen
  · rintro ⟨h, puts, rfl⟩
    cases puts with
    | free found => exact (write_free found v).trans (fill_empty found v)
    | vararg found => exact write_vararg found single
    | refused closed => exact refuses closed

/-- A new object that raises is not to be spread. -/
theorem raiser_single (u : State) (r : Ref) :
    ((u.raiser r).2.heap.cell (u.raiser r).1).isUnvar = false := by
  have made : (u.raiser r).2.heap.cell (u.raiser r).1 = _ := u.heap.cell_alloc_self _
  rw [made]
  rfl

/-- The first place of a copy that was prepared, if it has an open slot. -/
theorem Prepares.placeAt_first {ask ask' : Answerer} {m : Ref} {frame' : Frame}
    {rest : List String} (h : Prepares ask r name frame s (.ok m) t) {first : String}
    (names : (t.heap.cell m).slots.openNames = first :: rest) :
    placeAt ask' m 0 frame' t = .answer (.slot m first) t := by
  refine placeAt_open h.concrete ?_
  rw [names]
  rfl

theorem Prepares.placeAt_closed {ask ask' : Answerer} {m : Ref} {frame' : Frame}
    (h : Prepares ask r name frame s (.ok m) t)
    (names : (t.heap.cell m).slots.openNames = []) :
    placeAt ask' m 0 frame' t = .failure (.noSuchAttribute "#0" (t.heap.subject m)) t := by
  refine placeAt_none h.concrete ?_
  rw [names]
  rfl

/-- The main part ends as described. -/
theorem mainEnds_iff {outcome : Except Failure Value} (isAttempt : s.heap.IsAttempt r) :
    (runMain (answerWithin (steps + 1)) r).Ends frame s outcome t ↔
      MainEnds (answerWithin (steps + 1)) r frame s outcome t := by
  have part {result : Except Failure Ref} {u : State} :
      (partOf (answerWithin (steps + 1)) r "main").Ends frame s result u ↔
        Prepares (answerWithin (steps + 1)) r "main" frame s result u :=
    prepares_iff isAttempt (by decide)
  constructor
  · intro h
    rcases ends_bind.mp h with ⟨f, failed, rfl⟩ | ⟨m, u, prepared, rest⟩
    · exact .unprepared (part.mp failed)
    have prepared := part.mp prepared
    rw [ends_hold] at rest
    cases names : (u.heap.cell m).slots.openNames with
    | nil =>
        obtain ⟨rfl, rfl⟩ := (ends_bind_of_failure (prepared.placeAt_closed names)).mp rest
        exact .closed prepared names
    | cons name others =>
        rw [ends_bind_of_answer (prepared.placeAt_first names),
          ends_bind_of_answer (alloc_apply _ _ u)] at rest
        rcases ends_bind.mp rest with ⟨f, refused, rfl⟩ | ⟨_, w, wrote, run⟩
        · obtain ⟨h, puts, rfl⟩ := (write_ends_iff (raiser_single u r)).mp refused
          exact .refused prepared names puts
        · obtain ⟨h, puts, rfl⟩ := (write_ends_iff (raiser_single u r)).mp wrote
          exact .ran prepared names puts run
  · intro h
    cases h with
    | unprepared failed => exact ends_bind.mpr (.inl ⟨_, part.mpr failed, rfl⟩)
    | @closed m u prepared names =>
        refine ends_bind.mpr (.inr ⟨m, t, part.mpr prepared, ends_hold.mpr ?_⟩)
        exact (ends_bind_of_failure (prepared.placeAt_closed names)).mpr ⟨rfl, rfl⟩
    | @refused m u name others f h prepared names puts =>
        refine ends_bind.mpr (.inr ⟨m, u, part.mpr prepared, ends_hold.mpr ?_⟩)
        rw [ends_bind_of_answer (prepared.placeAt_first names),
          ends_bind_of_answer (alloc_apply _ _ u)]
        exact ends_bind.mpr (.inl ⟨f, (write_ends_iff (raiser_single u r)).mpr ⟨h, puts, rfl⟩, rfl⟩)
    | @ran m u w name others h outcome prepared names puts run =>
        refine ends_bind.mpr (.inr ⟨m, u, part.mpr prepared, ends_hold.mpr ?_⟩)
        rw [ends_bind_of_answer (prepared.placeAt_first names),
          ends_bind_of_answer (alloc_apply _ _ u)]
        exact ends_bind.mpr
          (.inr ⟨(), _, (write_ends_iff (raiser_single u r)).mpr ⟨h, puts, rfl⟩, run⟩)

/-- The handler ends as described. -/
theorem catchEnds_iff {payload : Ref} {outcome : Except Failure Value}
    (isAttempt : s.heap.IsAttempt r) :
    (runCatch (answerWithin (steps + 1)) r payload).Ends frame s outcome t ↔
      CatchEnds (answerWithin (steps + 1)) r payload frame s outcome t := by
  have part {result : Except Failure Ref} {u : State} :
      (hold [payload] (partOf (answerWithin (steps + 1)) r "catch")).Ends frame s result u ↔
        Prepares (answerWithin (steps + 1)) r "catch" (frame.holding [payload]) s result u :=
    ends_hold.trans (prepares_iff isAttempt (by decide))
  constructor
  · intro h
    rcases ends_bind.mp h with ⟨f, failed, rfl⟩ | ⟨m, u, prepared, rest⟩
    · exact .unprepared (part.mp failed)
    · exact .ran (part.mp prepared) ((ends_bind_of_answer (view_apply _ frame u)).mp rest)
  · intro h
    cases h with
    | unprepared failed => exact ends_bind.mpr (.inl ⟨_, part.mpr failed, rfl⟩)
    | @ran m u _ _ prepared run =>
        exact ends_bind.mpr (.inr ⟨m, u, part.mpr prepared,
          (ends_bind_of_answer (view_apply _ frame u)).mpr run⟩)

/-- The final part ends as described; its value is dropped. -/
theorem finallyEnds_iff {result : Except Failure Unit} (isAttempt : s.heap.IsAttempt r) :
    (runFinally (answerWithin (steps + 1)) r).Ends frame s result t ↔
      ∃ final : Except Failure Value, result = final.map (fun _ => ()) ∧
        FinallyEnds (answerWithin (steps + 1)) r frame s final t := by
  have part {result : Except Failure Ref} {u : State} :
      (partOf (answerWithin (steps + 1)) r "finally").Ends frame s result u ↔
        Prepares (answerWithin (steps + 1)) r "finally" frame s result u :=
    prepares_iff isAttempt (by decide)
  constructor
  · intro h
    rcases ends_bind.mp h with ⟨f, failed, rfl⟩ | ⟨m, u, prepared, rest⟩
    · exact ⟨.error f, rfl, .unprepared (part.mp failed)⟩
    rcases ends_bind.mp rest with ⟨f, failed, rfl⟩ | ⟨v, w, run, ends⟩
    · exact ⟨.error f, rfl, .ran (part.mp prepared) failed⟩
    · cases result <;> cases ends
      exact ⟨.ok v, rfl, .ran (part.mp prepared) run⟩
  · rintro ⟨final, rfl, h⟩
    cases h with
    | unprepared failed => exact ends_bind.mpr (.inl ⟨_, part.mpr failed, rfl⟩)
    | @ran m u _ _ prepared run =>
        refine ends_bind.mpr (.inr ⟨m, u, part.mpr prepared, ?_⟩)
        cases final with
        | error f => exact ends_bind.mpr (.inl ⟨f, run, rfl⟩)
        | ok v => exact ends_bind.mpr (.inr ⟨v, t, run, rfl⟩)

/-- A raise aimed at the attempt is handled. -/
theorem handle_aimed {ask : Answerer} (payload : Ref) :
    handle ask r (.error (.raise (s.heap.vertex r) payload)) frame s =
      observe (runCatch ask r payload) frame s := by
  rw [handle, bind_of_answer (vertex_apply r frame s), beq_self_eq_true]
  rfl

/-- Any other outcome passes. -/
theorem handle_other {ask : Answerer} {main : Except Failure Value}
    (other : ∀ payload, main ≠ .error (.raise (s.heap.vertex r) payload)) :
    handle ask r main frame s = .answer main s := by
  rcases main with f | v
  · cases f with
    | raise target payload =>
        have differs : (target == s.heap.vertex r) = false := by
          refine beq_eq_false_iff_ne.mpr fun same => other payload ?_
          rw [same]
        rw [handle, bind_of_answer (vertex_apply r frame s), differs]
        rfl
    | _ => rfl
  · rfl

/-- The outcome of the main part is handled as described. -/
theorem handles_iff {main : Except Failure Value}
    {result : Except Failure (Except Failure Value)} (isAttempt : s.heap.IsAttempt r) :
    (handle (answerWithin (steps + 1)) r main).Ends frame s result t ↔
      ∃ outcome, result = .ok outcome ∧
        Handles (answerWithin (steps + 1)) r (s.heap.vertex r) frame main s outcome t := by
  by_cases aimed : ∃ payload, main = .error (.raise (s.heap.vertex r) payload)
  · obtain ⟨payload, rfl⟩ := aimed
    have same : (handle (answerWithin (steps + 1)) r
        (.error (.raise (s.heap.vertex r) payload))).Ends frame s result t ↔
          (observe (runCatch (answerWithin (steps + 1)) r payload)).Ends frame s result t := by
      cases result <;> simp only [Ends, handle_aimed]
    rw [same, ends_observe]
    constructor
    · rintro ⟨outcome, rfl, h⟩
      exact ⟨outcome, rfl, .caught ((catchEnds_iff isAttempt).mp h)⟩
    · rintro ⟨outcome, rfl, h⟩
      cases h with
      | caught h => exact ⟨outcome, rfl, (catchEnds_iff isAttempt).mpr h⟩
      | passed other => exact absurd rfl (other payload)
  · have other : ∀ payload, main ≠ .error (.raise (s.heap.vertex r) payload) :=
      fun payload h => aimed ⟨payload, h⟩
    constructor
    · intro h
      cases result <;> cases (handle_other other).symm.trans h
      exact ⟨main, rfl, .passed other⟩
    · rintro ⟨outcome, rfl, h⟩
      cases h with
      | caught _ => exact absurd rfl (other _)
      | passed _ => exact handle_other other

/-! ## The whole attempt -/

/-- An attempt stays one: its parts are free slots in any later heap. -/
theorem Heap.IsAttempt.grows {h h' : Heap} (isAttempt : h.IsAttempt r) (grown : h.Grows h') :
    h'.IsAttempt r := by
  refine ⟨grown.composite isAttempt.decorates, ?_⟩
  intro name isPart
  obtain ⟨content, found⟩ := isAttempt.part name isPart
  obtain ⟨content', found', _⟩ := grown.free found
  exact ⟨content', found'⟩

theorem Heap.IsAttempt.vertex {h h' : Heap} (isAttempt : h.IsAttempt r) (grown : h.Grows h') :
    h'.vertex r = h.vertex r :=
  grown.vertex (Heap.lt_size_of_slot? isAttempt.decorates)

/-- The state in which an action ends has grown if the action spares what exists. -/
theorem grows_of_ends {α : Type} {x : Action α} (spares : x.Moves (State.Spares 0))
    {result : Except Failure α} (h : x.Ends frame s result t) : s.heap.Grows t.heap := by
  have grown := (spares frame s).grows
  rwa [h.state] at grown

/-- After the main part the attempt is still there, as the same object. -/
theorem isAttempt_of_mainEnds {main : Except Failure Value} (isAttempt : s.heap.IsAttempt r)
    (h : MainEnds (answerWithin (steps + 1)) r frame s main t) :
    t.heap.IsAttempt r ∧ t.heap.vertex r = s.heap.vertex r := by
  have sound := sound_answerWithin (steps + 1)
  have spares := Obeys.moves (fun n => obeys_runMain (sound.bare n) sound.settles r) 0
  have grown := grows_of_ends spares ((mainEnds_iff isAttempt).mpr h)
  exact ⟨isAttempt.grows grown, isAttempt.vertex grown⟩

/-- So it is after the handler. -/
theorem isAttempt_of_handles {main outcome : Except Failure Value}
    (isAttempt : s.heap.IsAttempt r)
    (h : Handles (answerWithin (steps + 1)) r (s.heap.vertex r) frame main s outcome t) :
    t.heap.IsAttempt r := by
  have spares := spares_handle (sound_answerWithin (steps + 1)) r main 0
  have handled := (handles_iff isAttempt).mpr ⟨outcome, rfl, h⟩
  exact isAttempt.grows (grows_of_ends spares handled)

/-- What is left of an attempt after its main part and the handler. -/
def concludeAttempt (ask : Answerer) (r : Ref) (outcome : Except Failure Value) : Action Ref := do
  hold (outcomeRefs outcome) (runFinally ask r)
  data (← conclude outcome)

/-- First the main part runs, then its outcome is handled. -/
theorem attempt_begins {result : Except Failure Ref} (isAttempt : s.heap.IsAttempt r) :
    (attempt (answerWithin (steps + 1)) r).Ends frame s result t ↔
      ∃ main s₁ outcome s₂, MainEnds (answerWithin (steps + 1)) r frame s main s₁ ∧
        Handles (answerWithin (steps + 1)) r (s₁.heap.vertex r) frame main s₁ outcome s₂ ∧
          (concludeAttempt (answerWithin (steps + 1)) r outcome).Ends frame s₂ result t := by
  constructor
  · intro h
    rcases ends_bind.mp h with ⟨_, failed, _⟩ | ⟨main, s₁, seen, rest⟩
    · obtain ⟨_, same, _⟩ := ends_observe.mp failed
      cases same
    obtain ⟨_, same, ended⟩ := ends_observe.mp seen
    cases same
    have mainEnds := (mainEnds_iff isAttempt).mp ended
    obtain ⟨isAttempt₁, _⟩ := isAttempt_of_mainEnds isAttempt mainEnds
    rcases ends_bind.mp rest with ⟨_, failed, _⟩ | ⟨outcome, s₂, handled, rest⟩
    · obtain ⟨_, same, _⟩ := (handles_iff isAttempt₁).mp failed
      cases same
    obtain ⟨_, same, handles⟩ := (handles_iff isAttempt₁).mp handled
    cases same
    exact ⟨main, s₁, outcome, s₂, mainEnds, handles, rest⟩
  · rintro ⟨main, s₁, outcome, s₂, mainEnds, handles, rest⟩
    obtain ⟨isAttempt₁, _⟩ := isAttempt_of_mainEnds isAttempt mainEnds
    have ended := (mainEnds_iff isAttempt).mpr mainEnds
    have handled := (handles_iff isAttempt₁).mpr ⟨outcome, rfl, handles⟩
    refine ends_bind.mpr (.inr ⟨main, s₁, ends_observe.mpr ⟨main, rfl, ended⟩, ?_⟩)
    exact ends_bind.mpr (.inr ⟨outcome, s₂, handled, rest⟩)

/-- Then the final part runs, and the attempt fails as it did or ends as what was handled. -/
theorem attempt_concludes {outcome : Except Failure Value} {result : Except Failure Ref}
    (isAttempt : s.heap.IsAttempt r) :
    (concludeAttempt (answerWithin (steps + 1)) r outcome).Ends frame s result t ↔
      (∃ f, FinallyEnds (answerWithin (steps + 1)) r (frame.holding (outcomeRefs outcome)) s
          (.error f) t ∧ result = .error f) ∨
        ∃ v u, FinallyEnds (answerWithin (steps + 1)) r (frame.holding (outcomeRefs outcome)) s
          (.ok v) u ∧ (conclude outcome >>= data).Ends frame u result t := by
  have final {last : Except Failure Unit} {u : State} :
      (hold (outcomeRefs outcome) (runFinally (answerWithin (steps + 1)) r)).Ends frame s last u ↔
        ∃ final : Except Failure Value, last = final.map (fun _ => ()) ∧
          FinallyEnds (answerWithin (steps + 1)) r (frame.holding (outcomeRefs outcome)) s
            final u :=
    ends_hold.trans (finallyEnds_iff isAttempt)
  constructor
  · intro h
    rcases ends_bind.mp h with ⟨f, failed, rfl⟩ | ⟨_, u, ended, rest⟩
    · obtain ⟨last, same, ends⟩ := final.mp failed
      cases last <;> cases same
      exact .inl ⟨_, ends, rfl⟩
    · obtain ⟨last, same, ends⟩ := final.mp ended
      cases last <;> cases same
      exact .inr ⟨_, u, ends, rest⟩
  · rintro (⟨f, ends, rfl⟩ | ⟨v, u, ends, rest⟩)
    · exact ends_bind.mpr (.inl ⟨f, final.mpr ⟨_, rfl, ends⟩, rfl⟩)
    · exact ends_bind.mpr (.inr ⟨(), u, final.mpr ⟨_, rfl, ends⟩, rest⟩)

/-- An attempt ends as described. -/
theorem attemptEnds_iff {result : Except Failure Ref} (isAttempt : s.heap.IsAttempt r) :
    (attempt (answerWithin (steps + 1)) r).Ends frame s result t ↔
      AttemptEnds (answerWithin (steps + 1)) r frame s result t := by
  rw [attempt_begins isAttempt]
  constructor
  · rintro ⟨main, s₁, outcome, s₂, mainEnds, handles, rest⟩
    obtain ⟨isAttempt₁, vertex⟩ := isAttempt_of_mainEnds isAttempt mainEnds
    have isAttempt₂ := isAttempt_of_handles isAttempt₁ handles
    rw [vertex] at handles
    rcases (attempt_concludes isAttempt₂).mp rest with ⟨f, ends, rfl⟩ | ⟨v, u, ends, rest⟩
    · exact .finallyFailed mainEnds handles ends
    cases outcome with
    | error f =>
        obtain ⟨rfl, rfl⟩ := (ends_bind_of_failure rfl).mp rest
        exact .failed mainEnds handles ends
    | ok value =>
        have gave := (ends_bind_of_answer rfl).mp rest
        cases result <;> cases gave
        exact .gave mainEnds handles ends
  · have begun {main outcome : Except Failure Value} {s₁ s₂ : State}
        (mainEnds : MainEnds (answerWithin (steps + 1)) r frame s main s₁)
        (handles : Handles (answerWithin (steps + 1)) r (s.heap.vertex r) frame main s₁ outcome
          s₂) : s₂.heap.IsAttempt r ∧ Handles (answerWithin (steps + 1)) r (s₁.heap.vertex r)
            frame main s₁ outcome s₂ := by
      obtain ⟨isAttempt₁, vertex⟩ := isAttempt_of_mainEnds isAttempt mainEnds
      rw [← vertex] at handles
      exact ⟨isAttempt_of_handles isAttempt₁ handles, handles⟩
    intro h
    cases h with
    | @finallyFailed main outcome s₁ s₂ _ f mainEnds handles ends =>
        obtain ⟨isAttempt₂, handles⟩ := begun mainEnds handles
        refine ⟨main, s₁, outcome, s₂, mainEnds, handles, ?_⟩
        exact (attempt_concludes isAttempt₂).mpr (.inl ⟨f, ends, rfl⟩)
    | @failed main s₁ s₂ _ f v mainEnds handles ends =>
        obtain ⟨isAttempt₂, handles⟩ := begun mainEnds handles
        refine ⟨main, s₁, .error f, s₂, mainEnds, handles, ?_⟩
        exact (attempt_concludes isAttempt₂).mpr (.inr ⟨v, t, ends, rfl⟩)
    | @gave main s₁ s₂ u value v mainEnds handles ends =>
        obtain ⟨isAttempt₂, handles⟩ := begun mainEnds handles
        refine ⟨main, s₁, .ok value, s₂, mainEnds, handles, ?_⟩
        exact (attempt_concludes isAttempt₂).mpr (.inr ⟨v, u, ends, rfl⟩)

end Parts

/-- **What the object decorated by an attempt is evaluated to.**  Reading the decorated object of an
attempt, whatever its parts hold, ends in an answer or a failure exactly as described: the main part
runs with an object that raises; if it ends in a raise aimed at the attempt, and only then, the
handler runs on the payload, once; the final part runs once in any case; and the failure of the
final part comes before the outcome of the handler, and that before the outcome of the main part.
Where fewer than three steps may nest, the reading does not end. -/
theorem attempt_ends_iff {s t : State} {r : Ref} (isAttempt : s.heap.IsAttempt r) (steps : Nat)
    (frame : Frame) (result : Except Failure Ref) :
    (answerWithin steps (.read (.slot r phi))).Ends frame s result t ↔
      ∃ inner, steps = inner + 3 ∧
        AttemptEnds (answerWithin (inner + 1)) r ((frame.holding [r]).holding [r]) s result t := by
  match steps with
  | 0 =>
      refine ⟨fun h => ?_, fun ⟨_, few, _⟩ => by omega⟩
      cases result <;> cases h
  | 1 =>
      refine ⟨fun h => ?_, fun ⟨_, few, _⟩ => by omega⟩
      cases result <;> cases (read_composite isAttempt.decorates 0).symm.trans h
  | 2 =>
      refine ⟨fun h => ?_, fun ⟨_, few, _⟩ => by omega⟩
      cases result <;> cases (read_composite isAttempt.decorates 1).symm.trans h
  | inner + 3 =>
      have runs : answerWithin (inner + 3) (.read (.slot r phi)) frame s =
          attempt (answerWithin (inner + 1)) r ((frame.holding [r]).holding [r]) s :=
        read_composite isAttempt.decorates (inner + 2)
      have same : (answerWithin (inner + 3) (.read (.slot r phi))).Ends frame s result t ↔
          AttemptEnds (answerWithin (inner + 1)) r ((frame.holding [r]).holding [r]) s
            result t := by
        rw [← attemptEnds_iff isAttempt]
        cases result <;> simp only [Ends, runs]
      rw [same]
      constructor
      · intro h
        exact ⟨inner, rfl, h⟩
      · rintro ⟨inner', enough, h⟩
        obtain rfl : inner' = inner := by omega
        exact h

/-- An attempt whose main part raises the value 7 and whose handler gives what it is called with. -/
def State.withAttempt : State :=
  let payload := State.initial.allocData (.int 7)
  let main := payload.2.alloc (.table
    { form := "main"
      slots := [("e", .free none),
        (phi, .composite (.bind (.get .self "e") (.position 0) (.object payload.1)))] })
  let handler := main.2.alloc (.table
    { form := "catch", slots := [("ex", .free none), (phi, .composite (.get .self "ex"))] })
  let final := handler.2.allocData (.bool true)
  (final.2.alloc (.table
    { form := "try"
      slots := [("main", .free (some main.1)), ("catch", .free (some handler.1)),
        ("finally", .free (some final.1)), (phi, .composite (.native .attempt))] })).2

/-- Whether the answer is that integer. -/
def Outcome.isInt (n : Int64) : Outcome Ref → Bool
  | answer r s =>
    match (s.heap.cell r).value? with
    | some (.int m) => m == n
    | _ => false
  | _ => false

/-- The raise of the main part is handled, and the attempt gives the value that was raised. -/
theorem raised_seven_is_given :
    ∃ r t, AttemptEnds (answerWithin 7) ⟨5⟩ ((Frame.holding {} [⟨5⟩]).holding [⟨5⟩])
      State.withAttempt (.ok r) t ∧ (Outcome.answer r t).isInt 7 = true := by
  have isAttempt : State.withAttempt.heap.IsAttempt ⟨5⟩ := by
    refine ⟨rfl, ?_⟩
    intro name isPart
    simp only [List.mem_cons, List.not_mem_nil, or_false] at isPart
    rcases isPart with rfl | rfl | rfl <;> exact ⟨_, rfl⟩
  have seven : (answerWithin 9 (.read (.slot ⟨5⟩ phi)) {} State.withAttempt).isInt 7 = true := by
    decide +kernel
  cases ending : answerWithin 9 (.read (.slot ⟨5⟩ phi)) {} State.withAttempt with
  | answer r t =>
      obtain ⟨inner, enough, ends⟩ := (attempt_ends_iff isAttempt 9 {} (.ok r)).mp ending
      obtain rfl : inner = 6 := by omega
      rw [ending] at seven
      exact ⟨r, t, ends, seven⟩
  | failure f t =>
      rw [ending] at seven
      cases seven
  | unfinished =>
      rw [ending] at seven
      cases seven

end PhiCalculus
