import PhiCalculus.Proofs.Matching

/-!
# Binding arguments

A view that binds an argument derives a copy of its base with the argument written.  The copy is
made before the argument is written, and writing may dataize an array first that is to be spread;
while that is done, nobody knows the copy (`State.Secluded.copied`).  When the argument has landed,
the copy is handed out (`State.Secluded.handed`).

So binding an argument ends as the argument matches with the slots of the base (`Matched`): in a
copy whose slots have taken the argument, or in its refusal (`State.Secluded.bound`).
-/

set_option autoImplicit false

namespace PhiCalculus

open PhiCalculus.Action

variable {ask : Answerer} {s t : State} {frame : Frame} {o r value : Ref} {key : Key} {name : String}
  {table : Table}

/-! ## Binding one argument -/

/-- The state in which a table was copied along with its owner, and where the copy is. -/
def State.keptCopy (s : State) (table : Table) : Ref × State :=
  s.alloc (.table { table with slots := table.slots.copy })

theorem State.kind_keptCopy (s : State) (table : Table) :
    ((s.keptCopy table).2.heap.cell (s.keptCopy table).1).kind =
      .table { table with slots := table.slots.copy } :=
  congrArg Cell.kind (s.heap.cell_alloc_self _)

theorem find?_copy_of_found {slots : Slots} {slot : Slot} (found : slots.find? name = some slot) :
    slots.copy.find? name = some slot.copy := by
  rw [Slots.find?_copy, found]
  rfl

theorem State.slot?_keptCopy {slot : Slot} (found : table.slots.find? name = some slot) :
    (s.keptCopy table).2.heap.slot? (s.keptCopy table).1 name = some slot.copy := by
  rw [Heap.slot?, Cell.slots, s.kind_keptCopy table]
  exact find?_copy_of_found found

/-- The argument is written to a slot of the copy, which is handed out then. -/
def writeCopy (ask : Answerer) (copy : Ref) (name : String) (value : Ref) : Action Ref :=
  write ask (.slot copy name) value >>= fun _ => pure copy

theorem bindTo_of_settled (settled : settle ask r frame s = .answer o t)
    (concrete : (t.heap.cell o).isView = false) :
    bindTo ask r key value frame s = bindTo ask o key value frame t := by
  rw [bindTo, bindTo, bind_of_answer settled, bind_of_answer (settle_of_concrete concrete)]

theorem bindTo_of_failed {f : Failure} (fails : settle ask r frame s = .failure f t) :
    bindTo ask r key value frame s = .failure f t := by
  rw [bindTo, bind_of_failure fails]

/-- A copy that has no owner yet leaves the owner and the kind of an object as they are. -/
theorem State.owner?_copyTable (kind : (s.heap.cell o).kind = .table table) :
    ((s.copyTable table).2.heap.cell o).isView = false ∧
      ((s.copyTable table).2.heap.cell o).owner? = table.owner := by
  by_cases exist : o.index < s.heap.size
  · have same : (s.copyTable table).2.heap.cell o = s.heap.cell o := s.heap.cell_alloc_of_lt _ exist
    rw [same]
    exact ⟨isView_of_table kind, by rw [Cell.owner?, kind]⟩
  · -- what does not exist passes for an empty table
    have empty : table = { form := "" } := by
      rw [s.heap.cell_of_ge exist] at kind
      exact (Kind.table.inj kind).symm
    subst empty
    by_cases made : o = (s.copyTable { form := "" }).1
    · have same : (s.copyTable { form := "" }).2.heap.cell o = _ := made ▸ s.heap.cell_alloc_self _
      rw [same]
      exact ⟨rfl, rfl⟩
    · have out : ¬ o.index < (s.copyTable { form := "" }).2.heap.size := by
        have size : (s.copyTable { form := "" }).2.heap.size = s.heap.size + 1 := s.heap.size_alloc _
        have other : o.index ≠ s.heap.size := fun same => made (congrArg Ref.mk same)
        omega
      rw [Heap.cell_of_ge _ out]
      exact ⟨rfl, rfl⟩

/-- The copy is of the same kind, and owned by the same object, before the argument lands on it. -/
theorem bindTo_table (kind : (s.heap.cell o).kind = .table table) :
    bindTo ask o key value frame s =
      (placeOf ask (s.keptCopy table).1 key >>= fun place =>
        write ask place value >>= fun _ => pure (s.keptCopy table).1)
          ((frame.holding [o]).holding [(s.keptCopy table).1]) (s.keptCopy table).2 := by
  have concrete := isView_of_table kind
  have copied : copyOf ask o (frame.holding [o]) s =
      .answer (s.copyTable table).1 (s.copyTable table).2 := copyOf_table kind
  have owner : ownerOf ask o ((frame.holding [o]).holding [(s.copyTable table).1])
      (s.copyTable table).2 = .answer table.owner (s.copyTable table).2 := by
    rw [ownerOf_of_concrete (State.owner?_copyTable kind).1, (State.owner?_copyTable kind).2]
  rw [bindTo, bind_of_answer (settle_of_concrete concrete), hold_apply]
  refine (bind_of_answer copied _).trans ((bind_of_answer owner _).trans ?_)
  cases owned : table.owner with
  | none =>
      have as : s.keptCopy table = s.copyTable table := by
        rw [State.keptCopy, State.copyTable, ← owned]
      rw [as]
  | some owner =>
      have as : s.keptCopy table = s.ownedCopy table owner := by
        rw [State.keptCopy, State.ownedCopy, ← owned]
      have moved : moveTo ask (s.copyTable table).1 owner
          ((frame.holding [o]).holding [(s.copyTable table).1]) (s.copyTable table).2 =
            .answer () (s.ownedCopy table owner).2 := moveTo_copyTable
      rw [as]
      exact bind_of_answer moved _

/-- A value takes no arguments. -/
theorem bindTo_data {v : Value} (kind : (s.heap.cell o).kind = .data v) :
    bindTo ask o key value frame s = .failure (.noSuchAttribute key.sought (s.heap.subject o)) s := by
  have concrete := isView_of_data kind
  have copied : copyOf ask o (frame.holding [o]) s = .answer o s := copyOf_data kind
  have nowhere : (s.heap.cell o).slots.landing? key = none := by
    rw [Cell.slots, kind]
    cases key <;> rfl
  have owner : (s.heap.cell o).owner? = none := by rw [Cell.owner?, kind]
  rw [bindTo, bind_of_answer (settle_of_concrete concrete), hold_apply]
  refine (bind_of_answer copied _).trans ((bind_of_answer (ownerOf_of_concrete concrete) _).trans ?_)
  rw [owner]
  exact bind_of_failure (placeOf_nowhere concrete nowhere) _

/-! ## Writing -/

/-- A slot that is written or computes its content refuses an argument. -/
theorem write_refused {slot : Slot} (found : s.heap.slot? r name = some slot)
    (closed : slot.isOpen = false) :
    write ask (.slot r name) value frame s = .failure (.alreadyBound name (s.heap.subject r)) s := by
  have refused : fill r name value frame s = .failure (.alreadyBound name (s.heap.subject r)) s := by
    rw [fill, bind_of_answer (asks_apply _ frame s), found]
    cases slot with
    | free content =>
        cases content with
        | none => cases closed
        | some _ => rfl
    | once _ _ => rfl
    | composite _ => rfl
    | vararg _ => cases closed
  rw [write, bind_of_answer (asks_apply _ frame s), found]
  cases slot with
  | vararg _ => cases closed
  | _ => exact refused

/-- What a spread argument adds is added at the end. -/
theorem write_spread {old items : List Ref} (vararg : s.heap.slot? r name = some (.vararg old))
    (vararg' : t.heap.slot? r name = some (.vararg old))
    (spreads : spread ask name value frame s = .answer items t) :
    write ask (.slot r name) value frame s =
      .answer () { t with heap := t.heap.setSlot r name (.vararg (old ++ items)) } := by
  rw [write, bind_of_answer (asks_apply _ frame s), vararg]
  refine (bind_of_answer spreads _).trans ?_
  rw [append, changeHeap_apply, vararg']

theorem write_unspread {old : List Ref} {f : Failure}
    (vararg : s.heap.slot? r name = some (.vararg old))
    (fails : spread ask name value frame s = .failure f t) :
    write ask (.slot r name) value frame s = .failure f t := by
  rw [write, bind_of_answer (asks_apply _ frame s), vararg]
  exact bind_of_failure fails _

theorem write_unfinished {old : List Ref} (vararg : s.heap.slot? r name = some (.vararg old))
    (cut : spread ask name value frame s = @Outcome.unfinished _ t) :
    write ask (.slot r name) value frame s = @Outcome.unfinished _ t := by
  rw [write, bind_of_answer (asks_apply _ frame s), vararg]
  exact bind_of_unfinished cut _

/-- What an argument is spread to, by how dataizing it ends. -/
theorem spread_marked (marked : (s.heap.cell value).isUnvar = true) :
    spread ask name value frame s = (ask (.dataize value) >>= fun v =>
      match v with
      | .array items => pure items
      | other => fail (.typeMismatch name .array other.tag)) frame s := by
  rw [spread, bind_of_answer (cell_apply value frame s), marked]
  rfl

/-! ## What binding ends in -/

/-- Apart from its slots, the one object is as the other, and no view. -/
structure Cell.Resembles (c c' : Cell) : Prop where
  form : c'.form = c.form
  home : c'.home? = c.home?
  owner : c'.owner? = c.owner?
  concrete : c'.isView = false

theorem Cell.Resembles.trans {c c' c'' : Cell} (first : c.Resembles c') (second : c'.Resembles c'') :
    c.Resembles c'' where
  form := second.form.trans first.form
  home := second.home.trans first.home
  owner := second.owner.trans first.owner
  concrete := second.concrete

/-- An object that is a copy but for what became of its slots. -/
theorem Cell.Resembles.of_table {c c' : Cell} (kind : c.kind = .table table) {slots : Slots}
    (made : c'.kind = .table { table with slots := slots }) : c.Resembles c' := by
  refine ⟨?_, ?_, ?_, ?_⟩ <;>
    simp only [Cell.form, Cell.home?, Cell.owner?, Cell.isView, kind, made]

/-- Binding arguments to an object ends as the arguments match with its slots: in an object like it
with slots that are what the arguments make of its slots, or in the refusal of an object like it.
It is cut short only where an argument is spread, by dataizing it with the steps that are left. -/
inductive Matched (s : State) (base : Ref) (args : List (Key × Ref)) (steps : Nat) :
    Outcome Ref → Prop where
  | accepted {o : Ref} {t : State} : (s.heap.cell base).Resembles (t.heap.cell o) →
      TakesAll s (s.heap.cell base).slots args t (.ok (t.heap.cell o).slots) →
        Matched s base args steps (.answer o t)
  | refused {o : Ref} {t : State} {refusal : Refusal} :
      (s.heap.cell base).Resembles (t.heap.cell o) →
        TakesAll s (s.heap.cell base).slots args t (.error refusal) →
          Matched s base args steps (.failure (refusal (t.heap.subject o)) t)
  | unfinished (before after : List (Key × Ref)) {key : Key} {value : Ref} {t u v : State}
      {slots : Slots} {frame : Frame} : args = before ++ (key, value) :: after →
        TakesAll s (s.heap.cell base).slots before t (.ok slots) →
          (slots.collecting? key).isSome → (t.heap.cell value).isUnvar = true →
            t.heap.Grows u.heap → answerWithin (steps - after.length) (.dataize value) frame u =
              @Outcome.unfinished Value v →
                Matched s base args steps (@Outcome.unfinished Ref v)

namespace Matched

variable {args : List (Key × Ref)} {steps : Nat} {outcome : Outcome Ref}

/-- Arguments after the ones that are not all bound do not matter. -/
theorem stopped (more : List (Key × Ref)) (matched : Matched s o args (steps - more.length) outcome)
    (stops : ∀ c u, outcome ≠ .answer c u) : Matched s o (args ++ more) steps outcome := by
  cases matched with
  | accepted _ _ => exact absurd rfl (stops _ _)
  | refused like taken => exact .refused like (taken.stopped more)
  | @unfinished before after _ _ _ _ _ _ frame is taken collects marked later cut =>
      refine .unfinished before (after ++ more) (by simp [is]) taken collects marked later
        (?_ : answerWithin _ _ frame _ = _)
      rwa [List.length_append, Nat.add_comm, ← Nat.sub_sub]

/-- One more argument is bound to what the ones before are bound in. -/
theorem snoc {fewer : Nat} (matched : Matched s o args fewer (.answer r t))
    (last : Matched t r [(key, value)] steps outcome) :
    Matched s o (args ++ [(key, value)]) steps outcome := by
  cases matched with
  | accepted like taken =>
      cases last with
      | accepted like' taken' => exact .accepted (like.trans like') (taken.snoc taken'.single)
      | refused like' taken' => exact .refused (like.trans like') (taken.snoc taken'.single)
      | @unfinished before after _ _ _ _ _ _ _ is taken' collects marked later cut =>
          obtain ⟨rfl, same⟩ := List.append_eq_singleton_iff.mp is.symm |>.resolve_right
            (fun two => List.cons_ne_nil _ _ two.2)
          cases same
          cases taken'
          exact .unfinished args [] rfl taken collects marked later cut

end Matched

namespace State.Secluded

variable {aside : Ref → Prop} {known : List Ref} {steps : Nat}

/-- How spreading an argument ends where some objects are secluded: they stay so. -/
inductive Spreads (aside : Ref → Prop) (known : List Ref) (name : String) (value : Ref)
    (steps : Nat) (frame : Frame) (s : State) : Outcome (List Ref) → Prop where
  | adds {items : List Ref} {t : State} : Adds name value s t (.ok items) →
      s.heap.Grows t.heap → t.Secluded aside (items ++ known) →
        (∀ r, aside r → t.heap.cell r = s.heap.cell r) →
          Spreads aside known name value steps frame s (.answer items t)
  | fails {f : Failure} {t : State} : Adds name value s t (.error f) →
      s.heap.Grows t.heap → (∀ r, aside r → t.heap.cell r = s.heap.cell r) →
        Spreads aside known name value steps frame s (.failure f t)
  | unfinished {t : State} : (s.heap.cell value).isUnvar = true →
      answerWithin steps (.dataize value) frame s = @Outcome.unfinished Value t →
        Spreads aside known name value steps frame s (@Outcome.unfinished _ t)

theorem spreads (here : s.Secluded aside known) (given : value ∈ known) (name : String)
    (steps : Nat) (frame : Frame) :
    Spreads aside known name value steps frame s
      (spread (answerWithin steps) name value frame s) := by
  cases marked : (s.heap.cell value).isUnvar with
  | false =>
      have alone : spread (answerWithin steps) name value frame s = .answer [value] s := by
        rw [spread, bind_of_answer (cell_apply value frame s), marked]
        rfl
      rw [alone]
      refine .adds (.itself marked) (Heap.Grows.refl _) (here.fewer fun x there => ?_) fun _ _ => rfl
      rcases List.mem_append.mp there with only | there
      · exact List.mem_singleton.mp only ▸ given
      · exact there
  | true =>
      have left := here.answered (.dataize value) (List.forall_mem_singleton.mpr given) trivial
        frame steps
      have grown := Custody.grows_answerWithin steps (.dataize value) frame s
      rw [spread_marked marked]
      cases ends : answerWithin steps (.dataize value) frame s with
      | answer v t =>
          rw [ends] at left grown
          rw [bind_of_answer ends]
          have dataizes : Dataizes value s t (.answer v t) :=
            ⟨steps, frame, s, Heap.Grows.refl _, ends, Heap.Grows.refl _⟩
          have mismatch (other : v.tag ≠ .array) : Spreads aside known name value steps frame s
              (.failure (.typeMismatch name .array v.tag) t) :=
            .fails (.noArray marked other dataizes) grown left.2
          cases v with
          | array items => exact .adds (.elements marked dataizes) grown left.1 left.2
          | _ => exact mismatch fun is => by cases is
      | failure f t =>
          rw [ends] at left grown
          rw [bind_of_failure ends]
          exact .fails (.fails marked ⟨steps, frame, s, Heap.Grows.refl _, ends, Heap.Grows.refl _⟩)
            grown left.2
      | @unfinished t =>
          rw [bind_of_unfinished ends]
          exact .unfinished marked ends

theorem keptCopy_aside (here : s.Secluded aside known) (table : Table) (is : aside r) :
    (s.keptCopy table).2.heap.cell r = s.heap.cell r :=
  s.heap.cell_alloc_of_lt _ (here.1.before r is)

/-- What a copy refers to, the object refers to. -/
theorem apart_of_copy (here : s.Secluded aside known) (there : o ∈ known)
    (kind : (s.heap.cell o).kind = .table table) {c : Cell} {x : Ref}
    (copied : c.kind = .table { table with slots := table.slots.copy })
    (refers : x ∈ c.refs ∨ c.home? = some x) : x.index < s.heap.size ∧ ¬ aside x := by
  rw [Cell.refs, Cell.home?, copied] at refers
  refine here.apart there (refers.imp (fun refers => ?_) fun homed => ?_)
  · rw [Cell.refs, kind]
    exact (List.mem_append.mp refers).elim (List.mem_append_left _)
      fun copied => List.mem_append_right _ (Custody.refs_copy copied)
  · rw [Cell.home?, kind]
    exact homed

/-- A copy that is not handed out yet. -/
theorem copied (here : s.Secluded aside known) (there : o ∈ known)
    (kind : (s.heap.cell o).kind = .table table) :
    (s.keptCopy table).2.Secluded (fun x => aside x ∨ x = (s.keptCopy table).1) known :=
  here.conceal rfl rfl (fun _ refers => (here.apart_of_copy there kind rfl (.inl refers)).1)
    fun _ homed => (here.apart_of_copy there kind rfl (.inr homed)).1

/-- The copy is handed out when the argument has landed. -/
theorem handed (here : s.Secluded aside known) (there : o ∈ known)
    (kind : (s.heap.cell o).kind = .table table) {u : State} {known' : List Ref}
    (hidden : u.Secluded (fun x => aside x ∨ x = (s.keptCopy table).1) known')
    (grown : (s.keptCopy table).2.heap.Grows u.heap)
    (still : u.heap.cell (s.keptCopy table).1 = (s.keptCopy table).2.heap.cell (s.keptCopy table).1)
    {old new : Slot} (found : table.slots.copy.find? name = some old) (grows : old.Grows new)
    (refs : ∀ x ∈ new.refs, x ∈ old.refs ∨ x ∈ known') :
    let t : State := { u with heap := u.heap.setSlot (s.keptCopy table).1 name new }
    t.Secluded aside ((s.keptCopy table).1 :: known') ∧
      (t.heap.cell (s.keptCopy table).1).kind =
        .table { table with slots := table.slots.copy.set name new } ∧
      u.heap.Grows t.heap ∧ ∀ x, aside x → t.heap.cell x = u.heap.cell x := by
  intro t
  have kind' : (u.heap.cell (s.keptCopy table).1).kind =
      .table { table with slots := table.slots.copy } := by
    rw [still, s.kind_keptCopy table]
  have exist : (s.keptCopy table).1.index < u.heap.size :=
    Nat.lt_of_lt_of_le (Nat.lt_of_lt_of_eq (Nat.lt_succ_self s.heap.size)
      (s.heap.size_alloc _).symm) grown.size
  have new' : ¬ aside (s.keptCopy table).1 := fun is =>
    Nat.lt_irrefl _ (here.1.before _ is)
  have revealed := (hidden.reveal exist fun x refers is =>
    is.resolve_left (here.apart_of_copy there kind kind' refers).2).congr aside
      fun x => ⟨fun is => is.1.resolve_right is.2, fun is => ⟨.inl is, fun same => new' (same ▸ is)⟩⟩
  have slot : u.heap.slot? (s.keptCopy table).1 name = some old := by
    rw [Heap.slot?, Cell.slots, kind']
    exact found
  refine ⟨of_custody (seclusion.slot revealed List.mem_cons_self slot grows fun x there =>
    (refs x there).imp id (List.mem_cons_of_mem _)), ?_, Heap.grows_setSlot _ slot grows,
    fun x is => Heap.cell_update_of_ne _ (by rintro rfl; exact new' is) _⟩
  show ((u.heap.setSlot _ name new).cell _).kind = _
  rw [Heap.setSlot, Heap.cell_update_self _ exist, kind']

/-- Arguments are bound as they match, and what is set aside is left alone. -/
structure Binds (aside : Ref → Prop) (known : List Ref) (s : State) (base : Ref)
    (args : List (Key × Ref)) (steps : Nat) (outcome : Outcome Ref) : Prop where
  matched : Matched s base args steps outcome
  grows : s.heap.Grows outcome.state.heap
  secluded : ∀ o t, outcome = .answer o t →
    t.Secluded aside (o :: known) ∧ ∀ r, aside r → t.heap.cell r = s.heap.cell r

namespace Binds

variable {args : List (Key × Ref)}

/-- Nothing is handed out where an argument is refused. -/
theorem failing {f : Failure} (matched : Matched s o args steps (.failure f t))
    (grown : s.heap.Grows t.heap) : Binds aside known s o args steps (.failure f t) :=
  ⟨matched, grown, fun _ _ is => by cases is⟩

/-- Nothing is handed out where binding is cut short. -/
theorem unfinished (matched : Matched s o args steps (@Outcome.unfinished Ref t))
    (grown : s.heap.Grows t.heap) :
    Binds aside known s o args steps (@Outcome.unfinished Ref t) :=
  ⟨matched, grown, fun _ _ is => by cases is⟩

/-- The argument is refused by the copy. -/
theorem refused (kind : (s.heap.cell o).kind = .table table) {slots : Slots}
    (made : (t.heap.cell r).kind = .table { table with slots := slots })
    (grown : s.heap.Grows t.heap) (items : Except Failure (List Ref)) {refusal : Refusal}
    (adds : ∀ name, table.slots.collecting? key = some name → Adds name value s t items)
    (took : table.slots.take key value items = .error refusal) :
    Binds aside known s o [(key, value)] steps (.failure (refusal (t.heap.subject r)) t) := by
  have slots : (s.heap.cell o).slots = table.slots := by rw [Cell.slots, kind]
  refine .failing (.refused (Cell.Resembles.of_table kind made) ?_) grown
  rw [slots]
  exact .stop ⟨grown, items, adds, took⟩

/-- The argument is accepted by the copy. -/
theorem accepted (kind : (s.heap.cell o).kind = .table table) {slots : Slots}
    (made : (t.heap.cell r).kind = .table { table with slots := slots })
    (grown : s.heap.Grows t.heap) (items : Except Failure (List Ref))
    (adds : ∀ name, table.slots.collecting? key = some name → Adds name value s t items)
    (took : table.slots.take key value items = .ok slots)
    (secluded : t.Secluded aside (r :: known))
    (still : ∀ x, aside x → t.heap.cell x = s.heap.cell x) :
    Binds aside known s o [(key, value)] steps (.answer r t) where
  matched := by
    have slots : (s.heap.cell o).slots = table.slots := by rw [Cell.slots, kind]
    refine .accepted (Cell.Resembles.of_table kind made) ?_
    rw [slots, Cell.slots, made]
    exact .next ⟨grown, items, adds, took⟩ (.nil _ _)
  grows := grown
  secluded o u is := by
    cases is
    exact ⟨secluded, still⟩

/-- One more argument is bound to what the ones before are bound in. -/
theorem snoc {fewer : Nat} {outcome : Outcome Ref}
    (binds : Binds aside known s o args fewer (.answer r t))
    (last : Binds aside (r :: known) t r [(key, value)] steps outcome) :
    Binds aside known s o (args ++ [(key, value)]) steps outcome where
  matched := binds.matched.snoc last.matched
  grows := binds.grows.trans last.grows
  secluded c u is := by
    obtain ⟨hidden, still⟩ := last.secluded c u is
    refine ⟨hidden.fewer fun x there => ?_,
      fun x set => (still x set).trans ((binds.secluded r t rfl).2 x set)⟩
    exact (List.mem_cons.mp there).elim (fun same => same ▸ List.mem_cons_self)
      fun there => List.mem_cons_of_mem _ (List.mem_cons_of_mem _ there)

end Binds

/-! ### Where the argument lands -/

section

variable (kind : (s.heap.cell o).kind = .table table) (lands : table.slots.landing? key = some name)
include kind lands

/-- A slot that is written or computes its content refuses the argument. -/
theorem landed_closed {slot : Slot} (found : table.slots.find? name = some slot)
    (closed : slot.isOpen = false) :
    Binds aside known s o [(key, value)] steps
      (writeCopy (answerWithin steps) (s.keptCopy table).1 name value frame
        (s.keptCopy table).2) := by
  have closed' : slot.copy.isOpen = false := by rw [Slot.isOpen_copy, closed]
  have uncollected : table.slots.collecting? key = none :=
    Slots.collecting?_single lands found fun items is => by
      subst is
      cases closed
  rw [writeCopy, bind_of_failure (write_refused (State.slot?_keptCopy found) closed')]
  exact .refused kind (s.kind_keptCopy table) (s.grows_alloc _) (.ok [])
    (adds_uncollected uncollected) (Slots.take_closed lands found closed)

variable (here : s.Secluded aside known) (there : o ∈ known) (given : value ∈ known)
include here there given

/-- An empty slot is filled with the argument. -/
theorem landed_empty (empty : table.slots.find? name = some (.free none)) :
    Binds aside known s o [(key, value)] steps
      (writeCopy (answerWithin steps) (s.keptCopy table).1 name value frame
        (s.keptCopy table).2) := by
  have declared : (s.keptCopy table).2.heap.slot? (s.keptCopy table).1 name = some (.free none) :=
    State.slot?_keptCopy empty
  have uncollected : table.slots.collecting? key = none :=
    Slots.collecting?_single lands empty fun items is => by cases is
  obtain ⟨secluded, kind', grown, same⟩ := here.handed there kind (here.copied there kind)
    (Heap.Grows.refl _) rfl (find?_copy_of_found empty) (.free (Stays.of_none (some value)))
    fun x is => .inr (List.mem_singleton.mp is ▸ given)
  rw [writeCopy, bind_of_answer ((write_free declared value).trans (fill_empty declared value))]
  exact .accepted kind kind' ((s.grows_alloc _).trans grown) (.ok [])
    (adds_uncollected uncollected) (Slots.take_empty lands empty) secluded
    fun x is => (same x is).trans (here.keptCopy_aside table is)

/-- A slot that takes any number of arguments has what the argument is spread to after what it had.
Nobody knows the copy while the argument is spread. -/
theorem landed_collected {old : List Ref}
    (vararg : table.slots.find? name = some (.vararg old)) :
    Binds aside known s o [(key, value)] steps
      (writeCopy (answerWithin steps) (s.keptCopy table).1 name value frame
        (s.keptCopy table).2) := by
  have declared : (s.keptCopy table).2.heap.slot? (s.keptCopy table).1 name = some (.vararg old) :=
    State.slot?_keptCopy vararg
  have grown : s.heap.Grows (s.keptCopy table).2.heap := s.grows_alloc _
  have hidden := here.copied there kind
  have spreads := hidden.spreads given name steps frame
  have adds {t u : State} {more : Except Failure (List Ref)}
      (adds : Adds name value (s.keptCopy table).2 t more) (later : t.heap.Grows u.heap)
      (name' : String) (collects : table.slots.collecting? key = some name') :
      Adds name' value s u more := by
    cases lands.symm.trans (Slots.collecting?_eq_some.mp collects).1
    exact adds.within (here.exist given) grown later
  cases ends : spread (answerWithin steps) name value frame (s.keptCopy table).2 with
  | answer more t =>
      rw [ends] at spreads
      cases spreads with
      | adds added grown' hidden' still =>
          have same : t.heap.cell (s.keptCopy table).1 = _ := still _ (.inr rfl)
          have declared' : t.heap.slot? (s.keptCopy table).1 name = some (.vararg old) := by
            rw [Heap.slot?, same]
            exact declared
          obtain ⟨secluded, kind', grown'', others⟩ := here.handed there kind hidden' grown' same
            (find?_copy_of_found vararg) (.vararg (List.prefix_append old more)) fun x is =>
              (List.mem_append.mp is).imp id (List.mem_append_left _)
          rw [writeCopy, bind_of_answer (write_spread declared declared' ends)]
          refine .accepted kind kind' (grown.trans (grown'.trans grown'')) (.ok more)
            (adds added grown'') (Slots.take_vararg lands vararg) (secluded.fewer fun x is => ?_)
            fun x is => (others x is).trans
              ((still x (.inl is)).trans (here.keptCopy_aside table is))
          rcases List.mem_cons.mp is with rfl | is
          · exact List.mem_cons_self
          · exact List.mem_cons_of_mem _ (List.mem_append_right _ is)
  | failure f t =>
      rw [ends] at spreads
      cases spreads with
      | fails added grown' still =>
          have made := (congrArg Cell.kind (still _ (.inr rfl))).trans (s.kind_keptCopy table)
          rw [writeCopy, bind_of_failure (write_unspread declared ends)]
          exact .refused kind made (grown.trans grown') (.error f) (adds added (Heap.Grows.refl _))
            (Slots.take_unspread lands vararg)
  | @unfinished t =>
      rw [ends] at spreads
      cases spreads with
      | unfinished marked cut =>
          have slots : (s.heap.cell o).slots = table.slots := by rw [Cell.slots, kind]
          have collects : ((s.heap.cell o).slots.collecting? key).isSome := by
            rw [slots, Slots.collecting?_eq_some.mpr ⟨lands, old, vararg⟩]
            rfl
          have grown' := Custody.grows_answerWithin steps (.dataize value) frame
            (s.keptCopy table).2
          rw [cut] at grown'
          rw [writeCopy, bind_of_unfinished (write_unfinished declared ends)]
          exact .unfinished (.unfinished [] [] rfl (.nil _ _) collects
            ((grown.cell value (here.exist given)).isUnvar ▸ marked) grown cut)
            (grown.trans grown')

/-- What follows when the argument lands on a slot of the copy. -/
theorem landed : Binds aside known s o [(key, value)] steps
    (writeCopy (answerWithin steps) (s.keptCopy table).1 name value frame
      (s.keptCopy table).2) := by
  obtain ⟨slot, found⟩ := Slots.find?_of_landing lands
  cases slot with
  | once _ _ => exact landed_closed kind lands found rfl
  | composite _ => exact landed_closed kind lands found rfl
  | free content =>
      cases content with
      | some _ => exact landed_closed kind lands found rfl
      | none => exact landed_empty kind lands here there given found
  | vararg _ => exact landed_collected kind lands here there given found

end

/-- **Binding an argument ends as it matches**, and leaves alone what is set aside. -/
theorem bound (here : s.Secluded aside known) (there : o ∈ known) (given : value ∈ known)
    (concrete : (s.heap.cell o).isView = false) (steps : Nat) (frame : Frame) :
    Binds aside known s o [(key, value)] steps
      (bindTo (answerWithin steps) o key value frame s) := by
  cases kind : (s.heap.cell o).kind with
  | view v result => simp [Cell.isView, kind] at concrete
  | data v =>
      have slots : (s.heap.cell o).slots = [] := by rw [Cell.slots, kind]
      have nowhere : (s.heap.cell o).slots.landing? key = none := by
        rw [slots]
        cases key <;> rfl
      rw [bindTo_data kind]
      exact .failing (.refused ⟨rfl, rfl, rfl, concrete⟩ (.stop ⟨Heap.Grows.refl _, .ok [],
        adds_uncollected (Slots.collecting?_nowhere nowhere), Slots.take_nowhere nowhere⟩))
        (Heap.Grows.refl _)
  | table table =>
      have landing : ((s.keptCopy table).2.heap.cell (s.keptCopy table).1).slots.landing? key =
          table.slots.landing? key := by
        rw [Cell.slots, s.kind_keptCopy table]
        exact Slots.landing?_copy
      have copied := isView_of_table (s.kind_keptCopy table)
      rw [bindTo_table kind]
      cases lands : table.slots.landing? key with
      | none =>
          rw [bind_of_failure (placeOf_nowhere copied (landing.trans lands))]
          exact .refused kind (s.kind_keptCopy table) (s.grows_alloc _) (.ok [])
            (adds_uncollected (Slots.collecting?_nowhere lands)) (Slots.take_nowhere lands)
      | some name =>
          rw [bind_of_answer (placeOf_landing copied (landing.trans lands))]
          exact landed kind lands here there given

end State.Secluded

end PhiCalculus
