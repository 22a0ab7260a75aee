import PhiCalculus.Proofs.Composition
import PhiCalculus.Proofs.Growth

/-!
# Operations on concrete objects

An object that is no view needs no request to be looked through.  On such an object the operations
end at once: copying makes a table or gives the value itself, owning and writing change the object
or fail because it is bound already, and looking a place up tells where it is.
-/

set_option autoImplicit false

namespace PhiCalculus

open PhiCalculus.Action

variable {ask : Answerer} {r : Ref} {s : State} {frame : Frame}

/-! ## Looking through views -/

theorem settle_of_concrete (concrete : (s.heap.cell r).isView = false) :
    settle ask r frame s = .answer r s := by
  rw [settle, bind_of_answer (cell_apply r frame s), concrete]
  rfl

theorem settle_of_view (isView : (s.heap.cell r).isView = true) :
    settle ask r frame s = ask (.resolve r) frame s := by
  rw [settle, bind_of_answer (cell_apply r frame s), isView]
  rfl

theorem isView_of_table {t : Table} (kind : (s.heap.cell r).kind = .table t) :
    (s.heap.cell r).isView = false := by
  rw [Cell.isView, kind]

theorem isView_of_data {v : Value} (kind : (s.heap.cell r).kind = .data v) :
    (s.heap.cell r).isView = false := by
  rw [Cell.isView, kind]

theorem Cell.isView_of_isData {d : Cell} (isData : d.isData = true) : d.isView = false := by
  rw [Cell.isData, Cell.value?] at isData
  cases kind : d.kind with
  | data v => rw [Cell.isView, kind]
  | table t => simp [kind] at isData
  | view v result => simp [kind] at isData

theorem isView_of_view {v : View} {result : Option Ref}
    (kind : (s.heap.cell r).kind = .view v result) : (s.heap.cell r).isView = true := by
  rw [Cell.isView, kind]

/-- An object that is no view is the one behind it. -/
theorem resolveView_of_concrete (concrete : (s.heap.cell r).isView = false) :
    resolveView ask r frame s = .answer r s := by
  rw [resolveView, bind_of_answer (cell_apply r frame s)]
  cases kind : (s.heap.cell r).kind with
  | table t => rfl
  | data v => rfl
  | view v result => simp [Cell.isView, kind] at concrete

/-- The objects behind views are no views. -/
def Answerer.Settles (ask : Answerer) : Prop :=
  ∀ ⦃r o : Ref⦄ ⦃frame : Frame⦄ ⦃s t : State⦄,
    ask (.resolve r) frame s = .answer o t → (t.heap.cell o).isView = false

theorem Answerer.Settles.settle (settles : ask.Settles) {o : Ref} {t : State}
    (h : settle ask r frame s = .answer o t) : (t.heap.cell o).isView = false := by
  cases isView : (s.heap.cell r).isView with
  | true =>
      rw [settle_of_view isView] at h
      exact settles h
  | false =>
      rw [settle_of_concrete isView] at h
      cases h
      exact isView

theorem Answerer.Settles.resolveView (settles : ask.Settles) {o : Ref} {t : State}
    (h : resolveView ask r frame s = .answer o t) : (t.heap.cell o).isView = false := by
  rw [PhiCalculus.resolveView, bind_of_answer (cell_apply r frame s)] at h
  cases kind : (s.heap.cell r).kind with
  | table table =>
      rw [kind] at h
      cases h
      exact isView_of_table kind
  | data v =>
      rw [kind] at h
      cases h
      exact isView_of_data kind
  | view v result =>
      rw [kind] at h
      cases result with
      | some kept => exact settles.settle h
      | none =>
          obtain ⟨derived, u, _, rest⟩ := bind_eq_answer.mp h
          obtain ⟨kept, u', _, settled⟩ := bind_eq_answer.mp rest
          exact settles.settle settled

/-! ## Copies -/

/-- The state in which a table was copied, and where the copy is. -/
def State.copyTable (s : State) (t : Table) : Ref × State :=
  s.alloc (.table { t with owner := none, slots := t.slots.copy })

theorem copyConcrete_table {t : Table} (kind : (s.heap.cell r).kind = .table t) :
    copyConcrete r frame s = .answer (s.copyTable t).1 (s.copyTable t).2 := by
  rw [copyConcrete, bind_of_answer (cell_apply r frame s), kind]
  rfl

theorem copyConcrete_data {v : Value} (kind : (s.heap.cell r).kind = .data v) :
    copyConcrete r frame s = .answer r s := by
  rw [copyConcrete, bind_of_answer (cell_apply r frame s), kind]
  rfl

/-- A copy is one of the object behind any views. -/
theorem copyOf_of_settled {o : Ref} {t : State} (settled : settle ask r frame s = .answer o t)
    (concrete : (t.heap.cell o).isView = false) :
    copyOf ask r frame s = copyOf ask o frame t := by
  rw [copyOf, copyOf, bind_of_answer settled, bind_of_answer (settle_of_concrete concrete)]

theorem copyOf_table {t : Table} (kind : (s.heap.cell r).kind = .table t) :
    copyOf ask r frame s = .answer (s.copyTable t).1 (s.copyTable t).2 := by
  rw [copyOf, bind_of_answer (settle_of_concrete (isView_of_table kind))]
  exact copyConcrete_table kind

theorem copyOf_data {v : Value} (kind : (s.heap.cell r).kind = .data v) :
    copyOf ask r frame s = .answer r s := by
  rw [copyOf, bind_of_answer (settle_of_concrete (isView_of_data kind))]
  exact copyConcrete_data kind

/-! ## Owners -/

theorem ownConcrete_free {t : Table} (kind : (s.heap.cell r).kind = .table t)
    (free : t.owner = none) (owner : Ref) :
    ownConcrete r owner frame s = .answer () { s with heap := s.heap.setOwner r owner } := by
  rw [ownConcrete, bind_of_answer (cell_apply r frame s), kind]
  simp only [free]
  rfl

theorem ownConcrete_bound {t : Table} (kind : (s.heap.cell r).kind = .table t) {p : Ref}
    (bound : t.owner = some p) (owner : Ref) :
    ownConcrete r owner frame s = .failure (.alreadyBound rho (s.heap.subject r)) s := by
  rw [ownConcrete, bind_of_answer (cell_apply r frame s), kind]
  simp only [bound]
  rfl

theorem ownConcrete_data {v : Value} (kind : (s.heap.cell r).kind = .data v) (owner : Ref) :
    ownConcrete r owner frame s = .answer () s := by
  rw [ownConcrete, bind_of_answer (cell_apply r frame s), kind]
  rfl

theorem moveTo_of_concrete (concrete : (s.heap.cell r).isView = false) (owner : Ref) :
    moveTo ask r owner frame s = ownConcrete r owner frame s := by
  rw [moveTo, bind_of_answer (settle_of_concrete concrete)]

theorem ownerOf_of_concrete (concrete : (s.heap.cell r).isView = false) :
    ownerOf ask r frame s = .answer (s.heap.cell r).owner? s := by
  rw [ownerOf, bind_of_answer (settle_of_concrete concrete)]
  rfl

/-! ## Places -/

theorem ownPlace?_of_concrete (concrete : (s.heap.cell r).isView = false) (name : String) :
    ownPlace? ask r name frame s =
      .answer ((s.heap.slot? r name).map fun _ => .slot r name) s := by
  rw [ownPlace?, bind_of_answer (settle_of_concrete concrete)]
  rfl

theorem placeAt_open (concrete : (s.heap.cell r).isView = false) {i : Nat} {name : String}
    (isOpen : (s.heap.cell r).slots.openNames[i]? = some name) :
    placeAt ask r i frame s = .answer (.slot r name) s := by
  rw [placeAt, bind_of_answer (settle_of_concrete concrete),
    bind_of_answer (cell_apply r frame s), isOpen]
  rfl

theorem placeAt_none (concrete : (s.heap.cell r).isView = false) {i : Nat}
    (none : (s.heap.cell r).slots.openNames[i]? = none) :
    placeAt ask r i frame s =
      .failure (.noSuchAttribute ("#" ++ toString i) (s.heap.subject r)) s := by
  rw [placeAt, bind_of_answer (settle_of_concrete concrete),
    bind_of_answer (cell_apply r frame s), none]
  rfl

/-- A key leads to a slot of the object itself, if it leads anywhere. -/
theorem placeOf_concrete (concrete : (s.heap.cell r).isView = false) {key : Key} {p : Place}
    {t : State} (found : placeOf ask r key frame s = .answer p t) : ∃ name, p = .slot r name := by
  cases key with
  | position i =>
      cases isOpen : (s.heap.cell r).slots.openNames[i]? with
      | some name =>
          cases (placeAt_open concrete isOpen).symm.trans found
          exact ⟨name, rfl⟩
      | none => cases (placeAt_none concrete isOpen).symm.trans found
  | name n =>
      rw [placeOf, bind_of_answer (ownPlace?_of_concrete concrete n)] at found
      generalize (s.heap.slot? r n) = slot at found
      cases slot with
      | some slot =>
          cases found
          exact ⟨n, rfl⟩
      | none => cases found

/-! ## Writing -/

variable {name : String}

theorem fill_empty (empty : s.heap.slot? r name = some (.free none)) (value : Ref) :
    fill r name value frame s =
      .answer () { s with heap := s.heap.setSlot r name (.free (some value)) } := by
  rw [fill, bind_of_answer (asks_apply _ frame s), empty]
  rfl

theorem fill_bound {p : Ref} (bound : s.heap.slot? r name = some (.free (some p))) (value : Ref) :
    fill r name value frame s = .failure (.alreadyBound name (s.heap.subject r)) s := by
  rw [fill, bind_of_answer (asks_apply _ frame s), bound]
  rfl

theorem write_free {content : Option Ref} (free : s.heap.slot? r name = some (.free content))
    (value : Ref) : write ask (.slot r name) value frame s = fill r name value frame s := by
  rw [write, bind_of_answer (asks_apply _ frame s), free]

theorem write_vararg {items : List Ref} (vararg : s.heap.slot? r name = some (.vararg items))
    {value : Ref} (single : (s.heap.cell value).isUnvar = false) :
    write ask (.slot r name) value frame s =
      .answer () { s with heap := s.heap.setSlot r name (.vararg (items ++ [value])) } := by
  rw [write, bind_of_answer (asks_apply _ frame s), vararg]
  have alone : spread ask name value frame s = .answer [value] s := by
    rw [spread, bind_of_answer (cell_apply value frame s), single]
    rfl
  refine (bind_of_answer alone _).trans ?_
  rw [append, changeHeap_apply, vararg]

/-! ## What is written elsewhere -/

section

variable {o : Ref} (other : o ≠ r)
include other

theorem cell_ownConcrete_of_ne (owner : Ref) :
    (ownConcrete r owner frame s).state.heap.cell o = s.heap.cell o := by
  simp only [ownConcrete, bind_apply, cell_apply]
  cases (s.heap.cell r).kind with
  | table t =>
      cases owned : t.owner with
      | none =>
          simp only [owned]
          exact s.heap.cell_update_of_ne other _
      | some _ =>
          simp only [owned]
          rfl
  | data v => rfl
  | view v result => rfl

theorem cell_fill_of_ne (value : Ref) :
    (fill r name value frame s).state.heap.cell o = s.heap.cell o := by
  simp only [fill, bind_apply, asks_apply]
  cases s.heap.slot? r name with
  | none => rfl
  | some slot =>
      rcases slot with (_ | _) | _ | _ | _
      · exact s.heap.cell_update_of_ne other _
      all_goals rfl

theorem cell_append_of_ne (items : List Ref) :
    (append r name items frame s).state.heap.cell o = s.heap.cell o := by
  simp only [append, changeHeap_apply, Outcome.state]
  cases s.heap.slot? r name with
  | none => rfl
  | some slot =>
      rcases slot with _ | _ | _ | _
      case vararg => exact s.heap.cell_update_of_ne other _
      all_goals rfl

end

/-! ## Requests about declared slots -/

/-- What declares a slot is a table. -/
theorem table_of_slot? {slot : Slot} (found : s.heap.slot? r name = some slot) :
    ∃ t, (s.heap.cell r).kind = .table t ∧ t.slots.find? name = some slot := by
  rw [Heap.slot?, Cell.slots] at found
  cases kind : (s.heap.cell r).kind with
  | table t =>
      rw [kind] at found
      exact ⟨t, rfl, found⟩
  | data v => simp [kind, Slots.find?] at found
  | view v result => simp [kind, Slots.find?] at found

theorem slot?_setSlot {old new : Slot} (found : s.heap.slot? r name = some old) :
    (s.heap.setSlot r name new).slot? r name = some new := by
  obtain ⟨table, kind, declared⟩ := table_of_slot? found
  rw [Heap.slot?, Heap.setSlot, Heap.cell_update_self _ (Heap.lt_size_of_slot? found), kind]
  exact Slots.find?_set_self declared

theorem kind_setResult {v : View} {result : Option Ref}
    (kind : (s.heap.cell r).kind = .view v result) (x : Ref) :
    ((s.heap.setResult r x).cell r).kind = .view v (some x) := by
  rw [Heap.setResult, Heap.cell_update_self _ (Heap.lt_size_of_view kind), kind]

/-- Setting one slot leaves the others alone. -/
theorem slot?_setSlot_of_ne {o : Ref} {other : String} {new : Slot}
    (ne : o ≠ r ∨ other ≠ name) :
    (s.heap.setSlot r name new).slot? o other = s.heap.slot? o other := by
  by_cases same : o = r
  · subst same
    by_cases exist : o.index < s.heap.size
    · rw [Heap.slot?, Heap.setSlot, Heap.cell_update_self _ exist, Heap.slot?, Cell.slots, Cell.slots]
      cases (s.heap.cell o).kind with
      | table table => exact Slots.find?_set_of_ne (ne.resolve_left fun h => h rfl)
      | data v => rfl
      | view v result => rfl
    · have out : ¬ o.index < (s.heap.setSlot o name new).size := by
        rwa [Heap.setSlot, Heap.size_update]
      rw [Heap.slot?, Heap.cell_of_ge _ out, Heap.slot?, Heap.cell_of_ge _ exist]
  · rw [Heap.slot?, Heap.setSlot, Heap.cell_update_of_ne _ same, Heap.slot?]

theorem find_declared {slot : Slot} (found : s.heap.slot? r name = some slot)
    (plain : name ∉ reserved) (steps : Nat) :
    answerWithin (steps + 1) (.find r name) frame s = .answer (.slot r name) s := by
  obtain ⟨t, kind, declared⟩ := table_of_slot? found
  simp only [reserved, List.mem_cons, List.not_mem_nil, or_false, not_or] at plain
  obtain ⟨noOwner, noHome, noSelf⟩ := plain
  have place : findPlace (answerWithin steps) r name (frame.holding [r]) s =
      .answer (.slot r name) s := by
    rw [findPlace, bind_of_answer (cell_apply r _ s), kind]
    simp [noOwner, noHome, noSelf, declared]
  exact place

theorem read_bound {x : Ref} (found : s.heap.slot? r name = some (.free (some x))) (steps : Nat) :
    answerWithin (steps + 1) (.read (.slot r name)) frame s = .answer x s := by
  have place : readPlace (answerWithin steps) (.slot r name) (frame.holding [r]) s =
      .answer x s := by
    rw [readPlace, bind_of_answer (asks_apply _ _ s), found]
    rfl
  exact place

theorem read_empty (found : s.heap.slot? r name = some (.free none)) (steps : Nat) :
    answerWithin (steps + 1) (.read (.slot r name)) frame s =
      .failure (.notYetBound name (s.heap.subject r)) s := by
  have place : readPlace (answerWithin steps) (.slot r name) (frame.holding [r]) s =
      .failure (.notYetBound name (s.heap.subject r)) s := by
    rw [readPlace, bind_of_answer (asks_apply _ _ s), found]
    rfl
  exact place

theorem read_composite {origin : Expr} (found : s.heap.slot? r name = some (.composite origin))
    (steps : Nat) :
    answerWithin (steps + 1) (.read (.slot r name)) frame s =
      answerWithin steps (.eval origin r) (frame.holding [r]) s := by
  have place : readPlace (answerWithin steps) (.slot r name) (frame.holding [r]) s =
      answerWithin steps (.eval origin r) (frame.holding [r]) s := by
    rw [readPlace, bind_of_answer (asks_apply _ _ s), found]
  exact place

/-! ## Keeping what a slot computes -/

section

variable {origin : Expr}

theorem keep_computed {kept : Ref} (computed : s.heap.slot? r name = some (.once origin (some kept)))
    (x : Ref) : keep r name x frame s = .answer kept s := by
  rw [keep, bind_of_answer (asks_apply _ frame s), computed]
  rfl

theorem keep_uncomputed (uncomputed : s.heap.slot? r name = some (.once origin none)) (x : Ref) :
    keep r name x frame s =
      .answer x { s with heap := s.heap.setSlot r name (.once origin (some x)) } := by
  rw [keep, bind_of_answer (asks_apply _ frame s), uncomputed]
  rfl

/-- What keeping answers is in the slot then. -/
theorem keep_once {cache : Option Ref} (once : s.heap.slot? r name = some (.once origin cache))
    {x y : Ref} {t : State} (ends : keep r name x frame s = .answer y t) :
    t.heap.slot? r name = some (.once origin (some y)) := by
  cases cache with
  | some kept =>
      cases (keep_computed once x).symm.trans ends
      exact once
  | none =>
      cases (keep_uncomputed once x).symm.trans ends
      exact slot?_setSlot once

end

/-- Keeping sets the slot or does nothing. -/
theorem state_keep (x : Ref) :
    (keep r name x frame s).state = s ∨
      ∃ new, (keep r name x frame s).state = { s with heap := s.heap.setSlot r name new } := by
  simp only [keep, bind_apply, asks_apply]
  cases s.heap.slot? r name with
  | none => exact .inl rfl
  | some slot =>
      rcases slot with _ | ⟨origin, _ | kept⟩ | _ | _
      case once.none => exact .inr ⟨_, rfl⟩
      all_goals exact .inl rfl

/-! ## Keeping what a view derives -/

/-- The result of a view is kept where there is none. -/
theorem keepResult_of_none {v : View} (kind : (s.heap.cell r).kind = .view v none) (x : Ref) :
    keepResult r x frame s = .answer x { s with heap := s.heap.setResult r x } := by
  rw [keepResult, bind_of_answer (cell_apply r frame s), kind]
  rfl

theorem keepResult_of_some {v : View} {kept : Ref}
    (kind : (s.heap.cell r).kind = .view v (some kept)) (x : Ref) :
    keepResult r x frame s = .answer kept s := by
  rw [keepResult, bind_of_answer (cell_apply r frame s), kind]
  rfl

/-- What keeping answers the view has kept then. -/
theorem kind_keepResult {v : View} {result : Option Ref}
    (kind : (s.heap.cell r).kind = .view v result) {x y : Ref} {t : State}
    (ends : keepResult r x frame s = .answer y t) : (t.heap.cell r).kind = .view v (some y) := by
  cases result with
  | some kept =>
      cases (keepResult_of_some kind x).symm.trans ends
      exact kind
  | none =>
      cases (keepResult_of_none kind x).symm.trans ends
      exact kind_setResult kind x

theorem state_keepResult (x : Ref) :
    (keepResult r x frame s).state = s ∨
      (keepResult r x frame s).state = { s with heap := s.heap.setResult r x } := by
  simp only [keepResult, bind_apply, cell_apply]
  cases (s.heap.cell r).kind with
  | view v result =>
      cases result with
      | none => exact .inr rfl
      | some kept => exact .inl rfl
  | _ => exact .inr rfl

end PhiCalculus
