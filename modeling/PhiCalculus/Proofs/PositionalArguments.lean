import PhiCalculus.Proofs.OpenParameters

/-!
# Positional arguments

A positional argument is bound to the first open parameter.  That one is open no more, unless it
takes any number of arguments, and then it is the last (`bindTo_position`).  So arguments that are
bound one after the other fill the slots of the parameters in their places (`GivenInTurn.fills`),
and an abstraction is translated without loss (`declarations_are_kept`).
-/

set_option autoImplicit false

namespace PhiCalculus

open PhiCalculus.Action

variable {params : List Parameter} {attrs : List Node} {slots : Slots} {name : String}
  {p : Parameter} {ask : Answerer} {frame : Frame} {o r x value : Ref} {s t u : State} {key : Key}

/-! ## The next argument -/

theorem sublist_of_openParams {rest : List Parameter} (first : s.openParams r params = p :: rest) :
    (p :: rest).Sublist params :=
  first ▸ List.filter_sublist

/-- What takes any number of arguments comes last. -/
theorem rest_of_vararg {rest : List Parameter} (last : ∀ p ∈ params.dropLast, p.vararg = false)
    (among : (p :: rest).Sublist params) (vararg : p.vararg = true) : rest = [] := by
  obtain ⟨front, back, rfl, there, later⟩ := List.cons_sublist_iff.mp among
  obtain ⟨before, between, rfl⟩ := List.append_of_mem there
  by_contra more
  have early : p ∈ (before ++ p :: between ++ back).dropLast := by
    refine mem_dropLast_iff.mpr ⟨before, between ++ back, by simp, ?_⟩
    intro none
    rw [(List.append_eq_nil_iff.mp none).2, List.sublist_nil] at later
    exact more later
  rw [last p early] at vararg
  cases vararg

/-! ### Binding to a copy -/

section

variable {table : Table} (kind : (s.heap.cell o).kind = .table table)
  (lands : table.slots.landing? key = some name)
include kind lands

/-- An argument is written to the slot of the copy on which it lands. -/
theorem bindTo_landing : bindTo ask o key value frame s =
    (write ask (.slot (s.keptCopy table).1 name) value >>= fun _ => pure (s.keptCopy table).1)
      ((frame.holding [o]).holding [(s.keptCopy table).1]) (s.keptCopy table).2 := by
  have made := s.kind_keptCopy table
  have landing : ((s.keptCopy table).2.heap.cell (s.keptCopy table).1).slots.landing? key =
      some name := by
    rw [Cell.slots, made, ← lands]
    exact Slots.landing?_copy
  rw [bindTo_table kind, bind_of_answer (placeOf_landing (isView_of_table made) landing)]

/-- An argument fills the slot if that is empty. -/
theorem bindTo_empty (empty : table.slots.find? name = some (.free none)) :
    bindTo ask o key value frame s = .answer (s.keptCopy table).1
      { (s.keptCopy table).2 with
        heap := (s.keptCopy table).2.heap.setSlot (s.keptCopy table).1 name
          (.free (some value)) } := by
  have declared : (s.keptCopy table).2.heap.slot? (s.keptCopy table).1 name = some (.free none) :=
    State.slot?_keptCopy empty
  rw [bindTo_landing kind lands,
    bind_of_answer ((write_free declared value).trans (fill_empty declared value))]
  rfl

/-- An argument that is not to be spread is collected in a slot that takes any number of them. -/
theorem bindTo_vararg {old : List Ref} (vararg : table.slots.find? name = some (.vararg old))
    (exist : value.index < s.heap.size) (single : (s.heap.cell value).isUnvar = false) :
    bindTo ask o key value frame s = .answer (s.keptCopy table).1
      { (s.keptCopy table).2 with
        heap := (s.keptCopy table).2.heap.setSlot (s.keptCopy table).1 name
          (.vararg (old ++ [value])) } := by
  have declared : (s.keptCopy table).2.heap.slot? (s.keptCopy table).1 name = some (.vararg old) :=
    State.slot?_keptCopy vararg
  have same : (s.keptCopy table).2.heap.cell value = s.heap.cell value :=
    s.heap.cell_alloc_of_lt _ exist
  rw [bindTo_landing kind lands, bind_of_answer (write_vararg declared (same ▸ single))]
  rfl

end

/-- The slots of the copy when one of them was written. -/
theorem State.slots_keptCopy {table : Table} {old : Slot}
    (found : table.slots.find? name = some old) (slot : Slot) :
    (((s.keptCopy table).2.heap.setSlot (s.keptCopy table).1 name slot).cell
      (s.keptCopy table).1).slots = table.slots.copy.set name slot := by
  have exist := Heap.lt_size_of_slot? (State.slot?_keptCopy (s := s) found)
  rw [Heap.setSlot, Heap.cell_update_self _ exist, s.kind_keptCopy table, Cell.slots]

/-! ### Arguments in turn -/

/-- The object takes a positional argument and becomes another one, where the argument has filled
the slot of the first open parameter, or is the last of those that it has collected. -/
structure TakesNext (params : List Parameter) (s : State) (r value : Ref) (t : State) (x : Ref)
    (p : Parameter) (rest : List Parameter) : Prop where
  first : s.openParams r params = p :: rest
  left : t.openParams x params = if p.vararg then p :: rest else rest
  filled : p.vararg = false → t.heap.slot? x p.name = some (.free (some value))
  collected : p.vararg = true → value.index < s.heap.size → (s.heap.cell value).isUnvar = false →
    ∃ old, s.heap.slot? r p.name = some (.vararg old) ∧
      t.heap.slot? x p.name = some (.vararg (old ++ [value]))

section

variable {table : Table} {rest : List Parameter} (lawful : LawfulDeclarations params attrs)
  (kind : (s.heap.cell r).kind = .table table)
  (first : s.openParams r params = p :: rest)
  (lands : table.slots.landing? (.position 0) = some p.name)
include lawful kind first lands

/-- The first open parameter takes a single argument. -/
theorem takesNext_single (empty : table.slots.find? p.name = some (.free none))
    (single : p.vararg = false) (ends : bindTo ask r (.position 0) value frame s = .answer x t) :
    TakesNext params s r value t x p rest := by
  cases (bindTo_empty kind lands empty).symm.trans ends
  have copied : table.slots.copy.find? p.name = some (.free none) := find?_copy_of_found empty
  have slots := State.slots_keptCopy (s := s) empty (.free (some value))
  have apart : (p :: rest).Pairwise fun q q' => q.name ≠ q'.name := by
    have names := lawful.distinct_slots
    rw [names_startingSlots] at names
    exact (List.pairwise_map.mp (List.nodup_append.mp names).1).sublist
      (sublist_of_openParams first)
  refine ⟨first, ?_, fun _ => ?_, fun vararg => ?_⟩
  · rw [State.openParams, slots, Slots.openParams_set copied rfl, Slots.openParams_copy,
      ← openParams_of_table kind, first, single]
    have others : ∀ q ∈ rest, decide (q.name ≠ p.name) = true := by
      intro q there
      simpa using fun same => List.rel_of_pairwise_cons apart there (Eq.symm same)
    rw [List.filter_cons_of_neg (by simp), List.filter_eq_self.mpr others]
    rfl
  · rw [Heap.slot?, slots]
    exact Slots.find?_set_self copied
  · rw [single] at vararg
    cases vararg

/-- The first open parameter takes any number of arguments. -/
theorem takesNext_vararg {steps : Nat} {old : List Ref}
    (collects : table.slots.find? p.name = some (.vararg old)) (vararg : p.vararg = true)
    (ends : bindTo (answerWithin steps) r (.position 0) value frame s = .answer x t) :
    TakesNext params s r value t x p rest := by
  have found : s.heap.slot? r p.name = some (.vararg old) := by
    rw [Heap.slot?, Cell.slots, kind]
    exact collects
  refine ⟨first, ?_, fun single => ?_, fun _ exist single => ⟨old, found, ?_⟩⟩
  · have sublist := sublist_of_openParams first
    obtain rfl := rest_of_vararg lawful.only_last_vararg sublist vararg
    obtain ⟨rfl, later⟩ := bindTo_keptCopy kind ends
    have kept := ((State.keeps_keptCopy (Slots.Grows.refl table.slots)).grows later).slots_grow
    obtain ⟨slot, found', more⟩ := kept.find? (find?_copy_of_found collects)
    have still : (t.heap.cell (s.keptCopy table).1).slots.isOpen p.name = true := by
      rw [Slots.isOpen, found', Option.any_some]
      cases more with
      | vararg longer => rfl
    have there : p ∈ t.openParams (s.keptCopy table).1 params :=
      List.mem_filter.mpr ⟨sublist.subset List.mem_cons_self, still⟩
    have fewer := Slots.openParams_sublist kept params
    rw [Slots.openParams_copy, ← openParams_of_table kind, first] at fewer
    rw [vararg]
    exact fewer.eq_of_length_le (List.length_pos_of_mem there)
  · rw [single] at vararg
    cases vararg
  · cases (bindTo_vararg kind lands collects exist single).symm.trans ends
    rw [Heap.slot?, State.slots_keptCopy collects]
    exact Slots.find?_set_self (find?_copy_of_found collects)

end

/-- **A positional argument is bound to the first open parameter.** -/
theorem bindTo_position {steps : Nat} (lawful : LawfulDeclarations params attrs)
    (keeps : s.Keeps (startingSlots params attrs) r)
    (ends : bindTo (answerWithin steps) r (.position 0) value frame s = .answer x t) :
    ∃ p rest, TakesNext params s r value t x p rest := by
  obtain ⟨table, kind, grown⟩ := keeps.table
  have landing := landing?_position lawful.distinct_slots keeps 0
  rw [Cell.slots, kind] at landing
  cases first : s.openParams r params with
  | nil =>
      have made := s.kind_keptCopy table
      have nowhere : ((s.keptCopy table).2.heap.cell (s.keptCopy table).1).slots.landing?
          (.position 0) = none := by
        rw [Cell.slots, made]
        exact Slots.landing?_copy.trans (by rw [landing, first]; rfl)
      rw [bindTo_table kind,
        bind_of_failure (placeOf_nowhere (isView_of_table made) nowhere)] at ends
      cases ends
  | cons p rest =>
      have lands : table.slots.landing? (.position 0) = some p.name := by
        rw [landing, first]
        rfl
      have inside : p ∈ table.slots.openParams params := by
        rw [← openParams_of_table kind, first]
        exact List.mem_cons_self
      obtain ⟨there, isOpen⟩ := List.mem_filter.mp inside
      have found := find?_param_of_grown lawful.distinct_slots grown there
      refine ⟨p, rest, ?_⟩
      cases vararg : p.vararg with
      | true =>
          rw [vararg] at found
          obtain ⟨old, collects⟩ := found
          exact takesNext_vararg lawful kind first lands collects vararg ends
      | false =>
          rw [vararg] at found
          obtain ⟨content, found⟩ := found
          rw [Slots.isOpen, found] at isOpen
          cases content with
          | none => exact takesNext_single lawful kind first lands found vararg ends
          | some _ => cases isOpen

/-- Positional arguments are bound one after the other, each to what came of the one before it. -/
inductive GivenInTurn : Ref → State → List Ref → Ref → State → Prop where
  | nil (r : Ref) (s : State) : GivenInTurn r s [] r s
  | cons {r x y value : Ref} {s t u : State} {values : List Ref} {steps : Nat} {frame : Frame} :
      bindTo (answerWithin steps) r (.position 0) value frame s = .answer x t →
        GivenInTurn x t values y u → GivenInTurn r s (value :: values) y u

theorem GivenInTurn.descends {values : List Ref} (given : GivenInTurn r s values x t)
    (from_ : Descends o u r s) : Descends o u x t := by
  induction given with
  | nil => exact from_
  | cons ends _ ih => exact ih (from_.bound ends)

/-- What has filled a slot is in it in all that comes of the object. -/
theorem Descends.filled (descends : Descends r s x t) (keeps : s.Keeps slots r)
    (full : s.heap.slot? r name = some (.free (some value))) :
    t.heap.slot? x name = some (.free (some value)) := by
  have kept := (descends.keeps Slots.copy_copy keeps.of_copy).slots_grow
  obtain ⟨slot, found, grown⟩ := kept.find? (find?_copy_of_found full)
  rw [Heap.slot?, found]
  cases grown with
  | free stays => rw [stays value rfl]

/-- **Each argument fills the slot of the parameter in its place.** -/
theorem GivenInTurn.fills {values : List Ref} (lawful : LawfulDeclarations params attrs)
    (given : GivenInTurn r s values x t) (keeps : s.Keeps (startingSlots params attrs) r) {i : Nat}
    (there : values[i]? = some value) (isOpen : (s.openParams r params)[i]? = some p)
    (single : p.vararg = false) : t.heap.slot? x p.name = some (.free (some value)) := by
  induction given generalizing i with
  | nil => cases there
  | @cons r y x first s u t values steps frame ends later ih =>
      obtain ⟨q, rest, takes⟩ := bindTo_position lawful keeps ends
      have kept : u.Keeps (startingSlots params attrs) y :=
        (Descends.itself.bound ends).keeps (copy_startingSlots params attrs) keeps
      rw [takes.first] at isOpen
      cases i with
      | zero =>
          cases there
          cases isOpen
          exact (later.descends .itself).filled kept (takes.filled single)
      | succ i =>
          rw [List.getElem?_cons_succ] at there isOpen
          cases vararg : q.vararg with
          | true =>
              have among := sublist_of_openParams takes.first
              rw [rest_of_vararg lawful.only_last_vararg among vararg] at isOpen
              cases isOpen
          | false =>
              refine ih kept there ?_
              rw [takes.left, vararg]
              exact isOpen

/-! ## Objects as declared -/

/-- From the one state to the other an object was made, with a vertex of its own. -/
structure State.Gains (s : State) (table : Table) (o : Ref) (t : State) : Prop where
  new : o.index = s.heap.size
  size : t.heap.size = s.heap.size + 1
  kind : (t.heap.cell o).kind = .table table
  draws : s.registry.next = (t.heap.vertex o, t.registry)
  vertex : s.registry.Sound → t.heap.vertex o = ⟨s.registry.size + 1⟩
  vertices : s.registry.Sound → t.registry.size = s.registry.size + 1
  others : ∀ r : Ref, r.index < s.heap.size → t.heap.cell r = s.heap.cell r
  globals : t.globals = s.globals

theorem State.gains_alloc (s : State) (table : Table) :
    s.Gains table (s.alloc (.table table)).1 (s.alloc (.table table)).2 := by
  have vertex : (s.alloc (.table table)).2.heap.vertex (s.alloc (.table table)).1 =
      s.registry.next.1 := congrArg Cell.vertex (s.heap.cell_alloc_self _)
  have registry : (s.alloc (.table table)).2.registry = s.registry.next.2 := rfl
  constructor
  · rfl
  · exact s.heap.size_alloc _
  · exact s.kind_alloc _
  · rw [vertex, registry]
  · intro sound
    rw [vertex, sound.next_eq]
  · intro sound
    rw [registry, sound.next_eq]
    rfl
  · exact fun _ exist => s.heap.cell_alloc_of_lt _ exist
  · rfl

/-- What comes of an object takes positional arguments for the parameters, one after the other. -/
structure TakesInTurn (params : List Parameter) (o : Ref) (s : State) : Prop where
  /-- At first all parameters are open. -/
  starts : s.openParams o params = params
  /-- A position is that of an open parameter. -/
  places : ∀ {r t}, Descends o s r t → ∀ (ask : Answerer) (frame : Frame) (i : Nat),
    placeAt ask r i frame t = match (t.openParams r params)[i]? with
      | some p => .answer (.slot r p.name) t
      | none => .failure (.noSuchAttribute ("#" ++ toString i) (t.heap.subject r)) t
  /-- An argument is bound to the first one, which is open no more unless it collects arguments. -/
  takes : ∀ {r t}, Descends o s r t → ∀ {steps value frame x u},
    bindTo (answerWithin steps) r (.position 0) value frame t = .answer x u →
      ∃ p rest, TakesNext params t r value u x p rest
  /-- When several are bound, each has filled the slot of the parameter in its place. -/
  fills : ∀ {r t}, Descends o s r t → ∀ {values x u}, GivenInTurn r t values x u →
    ∀ {i : Nat} {value} {p : Parameter}, values[i]? = some value →
      (t.openParams r params)[i]? = some p → p.vararg = false →
        u.heap.slot? x p.name = some (.free (some value))
  /-- No parameter is opened later on. -/
  fewer : ∀ {r t x u}, Descends o s r t → Descends r t x u →
    (u.openParams x params).Sublist (t.openParams r params)

theorem takesInTurn {table : Table} (lawful : LawfulDeclarations params attrs)
    (exist : o.index < s.heap.size) (kind : (s.heap.cell o).kind = .table table)
    (slots : table.slots = startingSlots params attrs) : TakesInTurn params o s := by
  have starts : s.Keeps (startingSlots params attrs) o :=
    ⟨exist, table, kind, slots ▸ Slots.Grows.refl _⟩
  have keeps {r : Ref} {t : State} (descends : Descends o s r t) :=
    descends.keeps (copy_startingSlots params attrs) starts
  constructor
  · rw [openParams_of_table kind, slots]
    exact openParams_startingSlots lawful.distinct_slots
  · intro r t descends ask frame i
    exact placeAt_param lawful.distinct_slots (keeps descends) ask frame i
  · intro r t descends steps value frame x u ends
    exact bindTo_position lawful (keeps descends) ends
  · intro r t descends values x u given i value p there isOpen single
    exact given.fills lawful (keeps descends) there isOpen single
  · intro r t x u descends later
    have before := keeps descends
    have kept := (later.keeps Slots.copy_copy (before.of_copy)).slots_grow
    have fewer := Slots.openParams_sublist kept params
    rwa [Slots.openParams_copy] at fewer

/-- **Abstractions are translated without loss.**  Of a checked abstraction every home gets a new
object with a vertex of its own that has one slot for each parameter and each attribute, in the
order of the declaration and with nothing written or computed yet.  Positional arguments are bound
to its parameters one after the other, whatever else becomes of the object.  When a checked program
is loaded, its objects are made in the same way and are global. -/
theorem declarations_are_kept :
    (∀ {root : Node}, root.check = .ok () →
      ∀ {own : Option String} {line : Nat} {params : List Parameter} {attrs : List Node},
        root.Within (.abstraction own line params attrs) →
          (startingSlots params attrs).names.Nodup ∧
          (∀ (home : Ref) (steps : Nat) (frame : Frame) (s : State), ∃ o t,
            answerWithin (steps + 2) (.eval (Node.abstraction own line params attrs).expr home)
              frame s = .answer o t ∧ s.Gains (Node.table own (some home) params attrs) o t) ∧
          ∀ {o : Ref} {s : State} {home : Option Ref}, o.index < s.heap.size →
            (s.heap.cell o).kind = .table (Node.table own home params attrs) →
              TakesInTurn params o s) ∧
    ∀ {p : Program} {s : State}, p.load = .ok s → p.Loaded s := by
  constructor
  · intro root checked own line params attrs within
    have checked := Node.check_of_within checked within
    have lawful := Node.lawful_of_check checked
    refine ⟨lawful.distinct_slots, ?_, ?_⟩
    · intro home steps frame s
      exact ⟨_, _, Node.builds_as_declared checked home steps frame s, s.gains_alloc _⟩
    · intro o s home exist kind
      exact takesInTurn lawful exist kind rfl
  · intro p s loads
    cases checked : p.check with
    | error fault =>
        rw [Program.load, checked] at loads
        cases loads
    | ok _ =>
        rw [Program.load, checked] at loads
        cases loads
        exact p.loaded checked

/-- A program with a function of one argument and any number of others. -/
def Program.collecting : Program where
  name := "f"
  objects := [.abstraction (some "f") 1 [{ name := "x" }, { name := "xs", vararg := true }]
    [.application (some "@") 2 (.ref "x") [] false false]]

/-- The prototype of the function is global after that of attempts, and what is given second lands
where arguments are collected. -/
theorem collecting_is_translated : ∃ s r, Program.collecting.load = .ok s ∧
    s.globals.map (·.1) = ["try", "f"] ∧ ("f", r) ∈ s.globals ∧
      (s.heap.cell r).slots.names = ["x", "xs", phi] ∧
        placeAt evaluate r 1 {} s = .answer (.slot r "xs") s := by
  obtain ⟨translated, loaded⟩ := declarations_are_kept
  have checked : ∀ n ∈ Program.collecting.objects, n.check = .ok () := by decide
  have loads : Program.collecting.load = .ok Program.collecting.base := rfl
  have begins := loaded loads
  obtain ⟨name, line, params, attrs, r, is, global, kind⟩ :=
    begins.objects _ (List.mem_singleton_self _)
  cases is
  obtain ⟨-, -, takes⟩ := translated (checked _ (List.mem_singleton_self _)) .root
  have exist : r.index < Program.collecting.base.heap.size :=
    Program.defined_base _ _ global
  have inTurn := takes exist kind
  refine ⟨_, r, loads, begins.names, global, ?_, ?_⟩
  · rw [Cell.slots, kind]
    rfl
  · rw [inTurn.places .itself, inTurn.starts]
    rfl

end PhiCalculus
