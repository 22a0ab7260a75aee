import PhiCalculus.Proofs.Arguments
import PhiCalculus.Proofs.Declarations

/-!
# Open parameters

An object of an abstraction goes on to have the slots of its declaration in their order, and so has
everything that comes of it: its copies and what it becomes when arguments are bound
(`Descends.keeps`).  What it computes is closed from the start, and nothing opens again.  So the
open slots are at all times those of some parameters, in their order (`openNames_of_grown`), and a
position is that of an open parameter (`placeAt_param`).
-/

set_option autoImplicit false

namespace PhiCalculus

open PhiCalculus.Action

variable {params : List Parameter} {attrs : List Node} {slots slots' : Slots} {name : String}
  {slot slot' : Slot} {p : Parameter} {ask : Answerer} {frame : Frame} {o r x value : Ref}
  {s t u : State} {key : Key}

/-! ## Open slots -/

/-- No slot opens again. -/
theorem Slot.Grows.isOpen (grown : slot.Grows slot') (isOpen : slot'.isOpen = true) :
    slot.isOpen = true := by
  cases grown with
  | @free content content' stays =>
      cases content with
      | none => rfl
      | some x =>
          rw [stays x rfl] at isOpen
          cases isOpen
  | once stays => cases isOpen
  | vararg longer => rfl
  | composite origin => cases isOpen

theorem Slots.find?_of_mem (distinct : slots.names.Nodup) (there : (name, slot) ∈ slots) :
    slots.find? name = some slot := by
  induction slots with
  | nil => cases there
  | cons first rest ih =>
      obtain ⟨n, old⟩ := first
      rw [names, List.map_cons, List.nodup_cons] at distinct
      rw [find?_cons]
      rcases List.mem_cons.mp there with here | there
      · cases here
        simp
      · have other : name ≠ n := by
          intro same
          exact distinct.1 (same ▸ List.mem_map_of_mem (f := (·.1)) there)
        rw [if_neg (by simpa using other)]
        exact ih distinct.2 there

/-- Whether the slot of that name is open. -/
def Slots.isOpen (slots : Slots) (name : String) : Bool := (slots.find? name).any Slot.isOpen

theorem Slots.openNames_eq (distinct : slots.names.Nodup) :
    slots.openNames = slots.names.filter slots.isOpen := by
  have same : ∀ entry ∈ slots, (slots.isOpen entry.1) = entry.2.isOpen := by
    intro entry there
    rw [isOpen, find?_of_mem distinct there, Option.any_some]
  rw [openNames, names, List.filter_map, List.filter_congr fun entry there =>
    (same entry there).symm]
  rfl

theorem Slots.isOpen_of_grows (grown : slots.Grows slots') (isOpen : slots'.isOpen name = true) :
    slots.isOpen name = true := by
  rw [Slots.isOpen, Option.any_eq_true] at isOpen
  obtain ⟨slot', found', isOpen⟩ := isOpen
  have declared : (slots.find? name).isSome = true := by
    rw [isSome_find?_iff, ← grown.names, ← isSome_find?_iff, found']
    rfl
  obtain ⟨slot, found⟩ := Option.isSome_iff_exists.mp declared
  obtain ⟨later, found'', grown⟩ := grown.find? found
  obtain rfl := Option.some.inj (found'.symm.trans found'')
  rw [Slots.isOpen, found, Option.any_some]
  exact grown.isOpen isOpen

/-- The parameters of which the slots are open. -/
def Slots.openParams (slots : Slots) (params : List Parameter) : List Parameter :=
  params.filter fun p => slots.isOpen p.name

theorem Slots.openParams_sublist (grown : slots.Grows slots') (params : List Parameter) :
    (slots'.openParams params).Sublist (slots.openParams params) :=
  List.monotone_filter_right params fun _ => isOpen_of_grows grown

theorem Slots.isOpen_copy : slots.copy.isOpen name = slots.isOpen name := by
  rw [isOpen, isOpen, find?_copy]
  cases slots.find? name with
  | none => rfl
  | some slot => exact slot.isOpen_copy

theorem Slots.openParams_copy (params : List Parameter) :
    slots.copy.openParams params = slots.openParams params := by
  simp only [openParams, isOpen_copy]

/-- When a slot is written, the parameters that are left open are the others. -/
theorem Slots.openParams_set {old : Slot} (found : slots.find? p.name = some old)
    (closed : slot.isOpen = false) (params : List Parameter) :
    (slots.set p.name slot).openParams params =
      (slots.openParams params).filter fun q => q.name ≠ p.name := by
  rw [openParams, openParams, List.filter_filter]
  apply List.filter_congr
  intro q _
  by_cases same : q.name = p.name
  · rw [isOpen, same, find?_set_self found, Option.any_some, closed]
    simp
  · rw [isOpen, isOpen, find?_set_of_ne same]
    simp [same]

/-! ## The slots of a declaration -/

theorem find?_param (distinct : (startingSlots params attrs).names.Nodup) (there : p ∈ params) :
    (startingSlots params attrs).find? p.name = some p.slot :=
  Slots.find?_of_mem distinct
    (List.mem_append_left _ (List.mem_map.mpr ⟨p, there, rfl⟩))

theorem find?_attr (distinct : (startingSlots params attrs).names.Nodup) {n : Node}
    (there : n ∈ attrs) : (startingSlots params attrs).find? n.attr = some (.once n.expr none) :=
  Slots.find?_of_mem distinct
    (List.mem_append_right _ (List.mem_map.mpr ⟨n, there, rfl⟩))

theorem Parameter.isOpen_slot (p : Parameter) : p.slot.isOpen = true := by
  rw [slot]
  split <;> rfl

/-- At first the slots of all parameters are open. -/
theorem openParams_startingSlots (distinct : (startingSlots params attrs).names.Nodup) :
    (startingSlots params attrs).openParams params = params := by
  apply List.filter_eq_self.mpr
  intro p there
  rw [Slots.isOpen, find?_param distinct there, Option.any_some]
  exact p.isOpen_slot

theorem copy_startingSlots (params : List Parameter) (attrs : List Node) :
    (startingSlots params attrs).copy = startingSlots params attrs := by
  have same (p : Parameter) : p.slot.copy = p.slot := by
    rw [Parameter.slot]
    split <;> rfl
  rw [startingSlots, Slots.copy, List.map_append, List.map_map, List.map_map]
  congr 1
  simp [same]

/-- **The open slots are those of parameters**, in their order. -/
theorem openNames_of_grown (distinct : (startingSlots params attrs).names.Nodup)
    (grown : (startingSlots params attrs).Grows slots) :
    slots.openNames = (slots.openParams params).map Parameter.name := by
  have closed : (attrs.map Node.attr).filter slots.isOpen = [] := by
    apply List.filter_eq_nil_iff.mpr
    intro name there isOpen
    obtain ⟨n, among, rfl⟩ := List.mem_map.mp there
    have before := Slots.isOpen_of_grows grown isOpen
    rw [Slots.isOpen, find?_attr distinct among] at before
    cases before
  rw [Slots.openNames_eq (grown.names ▸ distinct), grown.names, names_startingSlots,
    List.filter_append, closed, List.append_nil, List.filter_map]
  rfl

/-- The slot of a parameter stays one that takes one argument, or any number of them. -/
theorem find?_param_of_grown (distinct : (startingSlots params attrs).names.Nodup)
    (grown : (startingSlots params attrs).Grows slots) (there : p ∈ params) :
    if p.vararg then ∃ items, slots.find? p.name = some (.vararg items)
      else ∃ content, slots.find? p.name = some (.free content) := by
  obtain ⟨slot, found, grown⟩ := grown.find? (find?_param distinct there)
  rw [found]
  obtain ⟨name, vararg⟩ := p
  cases vararg with
  | true =>
      cases grown with
      | vararg longer => exact ⟨_, rfl⟩
  | false =>
      cases grown with
      | free stays => exact ⟨_, rfl⟩

/-! ## What comes of an object -/

/-- What comes of an object: the object at any later time, copies, and what it becomes when an
argument is bound to it. -/
inductive Descends (o : Ref) (s : State) : Ref → State → Prop where
  | itself : Descends o s o s
  | later {r : Ref} {t u : State} : Descends o s r t → t.heap.Grows u.heap → Descends o s r u
  | copied {r x : Ref} {t u : State} {ask : Answerer} {frame : Frame} : Descends o s r t →
      copyOf ask r frame t = .answer x u → Descends o s x u
  | bound {r x value : Ref} {t u : State} {key : Key} {steps : Nat} {frame : Frame} :
      Descends o s r t → bindTo (answerWithin steps) r key value frame t = .answer x u →
        Descends o s x u

/-- The object has slots that those have grown to. -/
structure State.Keeps (s : State) (slots : Slots) (r : Ref) : Prop where
  exist : r.index < s.heap.size
  table : ∃ table, (s.heap.cell r).kind = .table table ∧ slots.Grows table.slots

namespace State.Keeps

theorem concrete (keeps : s.Keeps slots r) : (s.heap.cell r).isView = false := by
  obtain ⟨table, kind, -⟩ := keeps.table
  exact isView_of_table kind

theorem slots_grow (keeps : s.Keeps slots r) : slots.Grows (s.heap.cell r).slots := by
  obtain ⟨table, kind, grown⟩ := keeps.table
  rw [Cell.slots, kind]
  exact grown

theorem grows (keeps : s.Keeps slots r) (grown : s.heap.Grows t.heap) : t.Keeps slots r where
  exist := Nat.lt_of_lt_of_le keeps.exist grown.size
  table := by
    obtain ⟨table, kind, kept⟩ := keeps.table
    have cell := (grown.cell r keeps.exist).kind
    rw [kind] at cell
    cases later : (t.heap.cell r).kind with
    | table table' =>
        rw [later] at cell
        cases cell with
        | table _ _ _ slots => exact ⟨table', rfl, kept.trans slots⟩
    | data v =>
        rw [later] at cell
        cases cell
    | view v result =>
        rw [later] at cell
        cases cell

end State.Keeps

theorem Slots.Grows.copy (grown : slots.Grows slots') : slots.copy.Grows slots'.copy := by
  induction grown with
  | nil => exact .nil
  | cons head _ ih => exact .cons ⟨head.1, head.2.copy⟩ ih

theorem Slots.copy_copy : slots.copy.copy = slots.copy := by
  simp [copy, Function.comp_def, Slot.copy_copy]

/-- What an object has computed it had not computed when it was made. -/
theorem Slots.copy_grows : slots.copy.Grows slots := by
  induction slots with
  | nil => exact .nil
  | cons entry rest ih =>
      refine .cons ⟨rfl, ?_⟩ ih
      show entry.2.copy.Grows entry.2
      cases entry.2 with
      | once origin cache => exact .once (Stays.of_none cache)
      | _ => exact .refl _

theorem State.Keeps.of_copy (keeps : s.Keeps slots r) : s.Keeps (s.heap.cell r).slots.copy r where
  exist := keeps.exist
  table := by
    obtain ⟨table, kind, -⟩ := keeps.table
    refine ⟨table, kind, ?_⟩
    rw [Cell.slots, kind]
    exact Slots.copy_grows

/-- A new table with slots that those have grown to. -/
theorem State.keeps_alloc {table : Table} (grown : slots.Grows table.slots) :
    (s.alloc (.table table)).2.Keeps slots (s.alloc (.table table)).1 where
  exist := Nat.lt_of_lt_of_eq (Nat.lt_succ_self _) (s.heap.size_alloc _).symm
  table := ⟨table, congrArg Cell.kind (s.heap.cell_alloc_self _), grown⟩

theorem State.keeps_keptCopy {table : Table} (grown : slots.Grows table.slots) :
    (s.keptCopy table).2.Keeps slots.copy (s.keptCopy table).1 :=
  State.keeps_alloc grown.copy

/-- When an argument has been bound, the copy has gone on from when it was made. -/
theorem bindTo_keptCopy {table : Table} {steps : Nat} (kind : (s.heap.cell o).kind = .table table)
    (ends : bindTo (answerWithin steps) o key value frame s = .answer x t) :
    x = (s.keptCopy table).1 ∧ (s.keptCopy table).2.heap.Grows t.heap := by
  rw [bindTo_table kind] at ends
  constructor
  · obtain ⟨place, u, -, rest⟩ := bind_eq_answer.mp ends
    obtain ⟨_, v, -, handed⟩ := bind_eq_answer.mp rest
    cases handed
    rfl
  · have made : Stepwise State.Edits True fun ask =>
        placeOf ask (s.keptCopy table).1 key >>= fun place =>
          write ask place value >>= fun _ => pure (s.keptCopy table).1 :=
      .bind ((straight_placeOf _ key).stepwise.mono State.Creates.edits) fun place =>
        .bind (straight_write place value).stepwise fun _ =>
          (Stepwise.act (.pure _)).mono State.Creates.edits
    exact grows_of_answer (made.mono State.Edits.changes) ends

/-- **What comes of an object keeps its slots**, where these start over to themselves. -/
theorem Descends.keeps (descends : Descends o s r t) (starts : slots.copy = slots)
    (keeps : s.Keeps slots o) : t.Keeps slots r := by
  induction descends with
  | itself => exact keeps
  | later _ grown ih => exact ih.grows grown
  | copied _ ends ih =>
      obtain ⟨table, kind, grown⟩ := ih.table
      cases (copyOf_table kind).symm.trans ends
      exact State.keeps_alloc (starts ▸ grown.copy)
  | bound _ ends ih =>
      obtain ⟨table, kind, grown⟩ := ih.table
      obtain ⟨rfl, later⟩ := bindTo_keptCopy kind ends
      exact (starts ▸ State.keeps_keptCopy grown).grows later

/-! ## Positions -/

/-- The parameters of an object of which the slots are open. -/
def State.openParams (s : State) (r : Ref) (params : List Parameter) : List Parameter :=
  (s.heap.cell r).slots.openParams params

theorem openParams_of_table {table : Table} (kind : (s.heap.cell r).kind = .table table) :
    s.openParams r params = table.slots.openParams params := by
  rw [State.openParams, Cell.slots, kind]

section

variable (distinct : (startingSlots params attrs).names.Nodup)
  (keeps : s.Keeps (startingSlots params attrs) r)
include distinct keeps

theorem landing?_position (i : Nat) : (s.heap.cell r).slots.landing? (.position i) =
    (s.openParams r params)[i]?.map Parameter.name := by
  rw [Slots.landing?, openNames_of_grown distinct keeps.slots_grow, List.getElem?_map]
  rfl

/-- **A position is that of an open parameter**, in their order. -/
theorem placeAt_param (ask : Answerer) (frame : Frame) (i : Nat) :
    placeAt ask r i frame s = match (s.openParams r params)[i]? with
      | some p => .answer (.slot r p.name) s
      | none => .failure (.noSuchAttribute ("#" ++ toString i) (s.heap.subject r)) s := by
  have landing := landing?_position distinct keeps i
  cases isOpen : (s.openParams r params)[i]? with
  | some p => exact placeAt_open keeps.concrete (landing.trans (by rw [isOpen]; rfl))
  | none => exact placeAt_none keeps.concrete (landing.trans (by rw [isOpen]; rfl))

end

end PhiCalculus
