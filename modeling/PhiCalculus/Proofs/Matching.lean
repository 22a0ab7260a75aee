import PhiCalculus.Proofs.Landing
import PhiCalculus.Proofs.Seclusion

/-!
# Matching arguments with slots

What a list of arguments makes of the slots of an object can be told without copying any object:
each argument in turn lands on a slot, fills it or is collected there, or is refused
(`Slots.take`, `TakesAll`).  What an argument adds where arguments are collected is the argument
itself, or the elements of an array that is to be spread (`Adds`).

Binding an argument to an object makes a copy of it, with slots that are what the argument makes of
those of the object (`State.Secluded.bound`).
-/

set_option autoImplicit false

namespace PhiCalculus

open PhiCalculus.Action

/-! ## Slots and arguments -/

theorem Slot.copy_copy (slot : Slot) : slot.copy.copy = slot.copy := by
  cases slot <;> rfl

theorem Slot.isOpen_copy (slot : Slot) : slot.copy.isOpen = slot.isOpen := by
  cases slot <;> rfl

theorem Slot.Grows.copy {slot slot' : Slot} (grown : slot.Grows slot') :
    slot.copy.Grows slot'.copy := by
  cases grown with
  | once _ => exact .refl _
  | free stays => exact .free stays
  | vararg longer => exact .vararg longer
  | composite origin => exact .composite origin

/-- Why an argument is not accepted by an object. -/
abbrev Refusal : Type := Subject → Failure

namespace Slots

/-- A copy of the slots on which an argument has landed, or why it is refused.  The items are what
it adds where arguments are collected. -/
def take (slots : Slots) (key : Key) (value : Ref) (items : Except Failure (List Ref)) :
    Except Refusal Slots :=
  match slots.landing? key with
  | none => .error (.noSuchAttribute key.sought)
  | some name =>
    match slots.find? name with
    | some (.free none) => .ok (slots.copy.set name (.free (some value)))
    | some (.vararg old) =>
      match items with
      | .ok items => .ok (slots.copy.set name (.vararg (old ++ items)))
      | .error f => .error fun _ => f
    | _ => .error (.alreadyBound name)

/-- The slot that collects arguments with that key, if there is one. -/
def collecting? (slots : Slots) (key : Key) : Option String :=
  (slots.landing? key).filter fun name => (slots.find? name).any fun
    | .vararg _ => true
    | _ => false

variable {slots : Slots} {name : String} {slot : Slot} {key : Key} {value : Ref}
  {items : Except Failure (List Ref)}

@[simp] theorem names_copy : slots.copy.names = slots.names := by
  simp [copy, names]

@[simp] theorem openNames_copy : slots.copy.openNames = slots.openNames := by
  simp [openNames, copy, List.filter_map, Function.comp_def, Slot.isOpen_copy]

@[simp] theorem landing?_copy : slots.copy.landing? key = slots.landing? key := by
  cases key with
  | name n => simp [landing?, find?_copy, Function.comp_def]
  | position i => simp [landing?]

/-- An argument for the next open slot lands on the first one that is empty or takes any number of
arguments. -/
theorem landing?_next :
    slots.landing? (.position 0) = (List.find? (fun s => s.2.isOpen) slots).map (·.1) := by
  rw [landing?, openNames, List.getElem?_map, ← List.head?_eq_getElem?, List.head?_filter]

theorem first_of_landing (lands : slots.landing? (.position 0) = some name) :
    ∃ slot, List.find? (fun s => s.2.isOpen) slots = some (name, slot) := by
  rw [landing?_next] at lands
  obtain ⟨⟨_, slot⟩, first, rfl⟩ := Option.map_eq_some_iff.mp lands
  exact ⟨slot, first⟩

/-- An argument lands on a slot that is declared. -/
theorem find?_of_landing (lands : slots.landing? key = some name) :
    ∃ slot, slots.find? name = some slot := by
  cases key with
  | name n =>
      obtain ⟨slot, found, rfl⟩ := Option.map_eq_some_iff.mp lands
      exact ⟨slot, found⟩
  | position i => exact find?_of_open lands

/-! ### Where an argument lands -/

theorem take_nowhere (nowhere : slots.landing? key = none) :
    slots.take key value items = .error (.noSuchAttribute key.sought) := by
  rw [take, nowhere]

section

variable (lands : slots.landing? key = some name)
include lands

theorem take_empty (empty : slots.find? name = some (.free none)) :
    slots.take key value items = .ok (slots.copy.set name (.free (some value))) := by
  simp only [take, lands, empty]

theorem take_vararg {old more : List Ref} (vararg : slots.find? name = some (.vararg old)) :
    slots.take key value (.ok more) = .ok (slots.copy.set name (.vararg (old ++ more))) := by
  simp only [take, lands, vararg]

theorem take_unspread {old : List Ref} {f : Failure}
    (vararg : slots.find? name = some (.vararg old)) :
    slots.take key value (.error f) = .error fun _ => f := by
  simp only [take, lands, vararg]

theorem take_closed (found : slots.find? name = some slot) (closed : slot.isOpen = false) :
    slots.take key value items = .error (.alreadyBound name) := by
  simp only [take, lands, found]
  cases slot with
  | free content =>
      cases content with
      | none => cases closed
      | some _ => rfl
  | vararg _ => cases closed
  | _ => rfl

end

theorem collecting?_eq_some : slots.collecting? key = some name ↔
    slots.landing? key = some name ∧ ∃ old, slots.find? name = some (.vararg old) := by
  rw [collecting?, Option.filter_eq_some_iff]
  refine and_congr Iff.rfl ?_
  rw [Option.any_eq_true]
  constructor
  · rintro ⟨slot, found, collects⟩
    cases slot with
    | vararg old => exact ⟨old, found⟩
    | _ => cases collects
  · rintro ⟨old, found⟩
    exact ⟨_, found, rfl⟩

theorem collecting?_nowhere (nowhere : slots.landing? key = none) :
    slots.collecting? key = none := by
  rw [collecting?, nowhere]
  rfl

/-- Nothing is collected where the slot takes a single argument or none. -/
theorem collecting?_single (lands : slots.landing? key = some name)
    (found : slots.find? name = some slot) (single : ∀ items, slot ≠ .vararg items) :
    slots.collecting? key = none := by
  rw [Option.eq_none_iff_forall_ne_some]
  intro name' collects
  obtain ⟨lands', items, vararg⟩ := collecting?_eq_some.mp collects
  cases lands.symm.trans lands'
  exact single items (Option.some.inj (found.symm.trans vararg))

/-- What an argument does that is accepted: it fills an empty slot, or it is collected. -/
theorem take_cases {slots' : Slots} (took : slots.take key value items = .ok slots') :
    ∃ name, slots.landing? key = some name ∧
      ((slots.find? name = some (.free none) ∧
          slots' = slots.copy.set name (.free (some value))) ∨
        ∃ old more, slots.find? name = some (.vararg old) ∧ items = .ok more ∧
          slots' = slots.copy.set name (.vararg (old ++ more))) := by
  rw [take] at took
  cases lands : slots.landing? key with
  | none =>
      rw [lands] at took
      cases took
  | some name =>
      refine ⟨name, rfl, ?_⟩
      simp only [lands] at took
      split at took
      · next empty =>
        cases took
        exact .inl ⟨empty, rfl⟩
      · next old vararg =>
        cases items with
        | ok more =>
            cases took
            exact .inr ⟨old, more, vararg, rfl, rfl⟩
        | error f => cases took
      · cases took

/-- The slots have the same names in the same order when they have taken an argument. -/
theorem names_of_take {slots' : Slots} (took : slots.take key value items = .ok slots') :
    slots'.names = slots.names := by
  obtain ⟨name, -, ⟨-, rfl⟩ | ⟨old, more, -, -, rfl⟩⟩ := take_cases took <;> simp

/-- Slots that take an argument keep what other arguments have filled and collected. -/
theorem grows_of_take {slots' : Slots} (took : slots.take key value items = .ok slots')
    {other : String} (found : slots.find? other = some slot) :
    ∃ slot', slots'.find? other = some slot' ∧ slot.copy.Grows slot' := by
  have copied : slots.copy.find? other = some slot.copy := by rw [find?_copy, found]; rfl
  obtain ⟨name, -, ⟨empty, rfl⟩ | ⟨old, more, vararg, -, rfl⟩⟩ := take_cases took
  all_goals
    by_cases same : other = name
    · subst same
      rw [find?_set_self copied]
      refine ⟨_, rfl, ?_⟩
      first
        | cases found.symm.trans empty
          exact .free (Stays.of_none _)
        | cases found.symm.trans vararg
          exact .vararg (List.prefix_append old more)
    · rw [find?_set_of_ne same]
      exact ⟨_, copied, .refl _⟩

end Slots

/-! ## What an argument adds -/

/-- In between two states, dataizing the object ends that way. -/
def Dataizes (value : Ref) (s t : State) (o : Outcome Value) : Prop :=
  ∃ steps frame u, s.heap.Grows u.heap ∧ answerWithin steps (.dataize value) frame u = o ∧
    o.state.heap.Grows t.heap

/-- In between two states, this is what an argument adds to the slot of that name, which takes any
number of arguments: itself, or the elements of the array that it is to be spread as. -/
inductive Adds (name : String) (value : Ref) (s t : State) : Except Failure (List Ref) → Prop where
  | itself : (s.heap.cell value).isUnvar = false → Adds name value s t (.ok [value])
  | elements {items : List Ref} {u : State} : (s.heap.cell value).isUnvar = true →
      Dataizes value s t (.answer (.array items) u) → Adds name value s t (.ok items)
  | noArray {v : Value} {u : State} : (s.heap.cell value).isUnvar = true → v.tag ≠ .array →
      Dataizes value s t (.answer v u) →
        Adds name value s t (.error (.typeMismatch name .array v.tag))
  | fails {f : Failure} {u : State} : (s.heap.cell value).isUnvar = true →
      Dataizes value s t (.failure f u) → Adds name value s t (.error f)

theorem Cell.Grows.isUnvar {c c' : Cell} (grown : c.Grows c') : c'.isUnvar = c.isUnvar := by
  obtain ⟨v, k⟩ := c
  obtain ⟨v', k'⟩ := c'
  cases grown.kind with
  | table _ _ _ _ => rfl
  | data _ => rfl
  | @view v _ _ _ => cases v <;> rfl

/-- What is added in a while is added in any longer while. -/
theorem Adds.within {name : String} {value : Ref} {s s' t t' : State}
    {items : Except Failure (List Ref)} (adds : Adds name value s' t' items)
    (exist : value.index < s.heap.size) (before : s.heap.Grows s'.heap)
    (after : t'.heap.Grows t.heap) : Adds name value s t items := by
  have same := (before.cell value exist).isUnvar
  have longer {o : Outcome Value} : Dataizes value s' t' o → Dataizes value s t o :=
    fun ⟨steps, frame, u, grown, ends, grown'⟩ =>
      ⟨steps, frame, u, before.trans grown, ends, grown'.trans after⟩
  cases adds with
  | itself plain => exact .itself (same ▸ plain)
  | elements marked ends => exact .elements (same ▸ marked) (longer ends)
  | noArray marked other ends => exact .noArray (same ▸ marked) other (longer ends)
  | fails marked ends => exact .fails (same ▸ marked) (longer ends)

/-- Nothing needs to be told about what is added where no argument is collected. -/
theorem adds_uncollected {slots : Slots} {key : Key} {value : Ref} {s t : State}
    {items : Except Failure (List Ref)} (uncollected : slots.collecting? key = none)
    (name : String) (collects : slots.collecting? key = some name) : Adds name value s t items := by
  cases uncollected.symm.trans collects

/-- In between two states, this is what an argument makes of slots. -/
def Takes (s : State) (slots : Slots) (key : Key) (value : Ref) (t : State)
    (result : Except Refusal Slots) : Prop :=
  s.heap.Grows t.heap ∧ ∃ items,
    (∀ name, slots.collecting? key = some name → Adds name value s t items) ∧
      slots.take key value items = result

theorem Takes.later {s t u : State} {slots : Slots} {key : Key} {value : Ref}
    {result : Except Refusal Slots} (takes : Takes s slots key value t result)
    (exist : value.index < s.heap.size) (later : t.heap.Grows u.heap) :
    Takes s slots key value u result := by
  obtain ⟨grown, items, adds, took⟩ := takes
  exact ⟨grown.trans later, items,
    fun name collects => (adds name collects).within exist (Heap.Grows.refl _) later, took⟩

/-- In between two states, this is what arguments make of slots, one after the other.  The first one
that is refused decides. -/
inductive TakesAll : State → Slots → List (Key × Ref) → State → Except Refusal Slots → Prop where
  | nil (s : State) (slots : Slots) : TakesAll s slots [] s (.ok slots)
  | next {s t u : State} {slots slots' : Slots} {key : Key} {value : Ref} {rest : List (Key × Ref)}
      {result : Except Refusal Slots} : Takes s slots key value t (.ok slots') →
        TakesAll t slots' rest u result → TakesAll s slots ((key, value) :: rest) u result
  | stop {s t : State} {slots : Slots} {key : Key} {value : Ref} {rest : List (Key × Ref)}
      {refusal : Refusal} : Takes s slots key value t (.error refusal) →
        TakesAll s slots ((key, value) :: rest) t (.error refusal)

namespace TakesAll

variable {s t u : State} {slots slots' : Slots} {args : List (Key × Ref)} {key : Key} {value : Ref}
  {result : Except Refusal Slots}

/-- One more argument. -/
theorem snoc (taken : TakesAll s slots args t (.ok slots'))
    (last : Takes t slots' key value u result) :
    TakesAll s slots (args ++ [(key, value)]) u result := by
  generalize first : Except.ok slots' = before at taken
  induction taken with
  | nil =>
      cases first
      cases result with
      | ok slots' => exact .next last (.nil _ _)
      | error refusal => exact .stop last
  | next first' _ ih => exact .next first' (ih last first)
  | stop _ => cases first

/-- A single argument. -/
theorem single (taken : TakesAll s slots [(key, value)] t result) :
    Takes s slots key value t result := by
  cases taken with
  | next takes rest =>
      cases rest
      exact takes
  | stop takes => exact takes

/-- Arguments after the one that is refused do not matter. -/
theorem stopped {refusal : Refusal} (refused : TakesAll s slots args t (.error refusal))
    (more : List (Key × Ref)) : TakesAll s slots (args ++ more) t (.error refusal) := by
  generalize first : Except.error refusal = result at refused
  induction refused with
  | nil => cases first
  | next took _ ih => exact .next took (ih first)
  | stop refused => exact .stop refused

/-- What happens after the last argument does not matter. -/
theorem later (taken : TakesAll s slots args t result) (nonempty : args ≠ [])
    (exist : ∀ arg ∈ args, arg.2.index < s.heap.size) (later : t.heap.Grows u.heap) :
    TakesAll s slots args u result := by
  induction taken with
  | nil => exact absurd rfl nonempty
  | @next _ _ _ _ _ _ _ rest _ takes taken ih =>
      cases rest with
      | nil =>
          cases taken
          exact .next (takes.later (exist _ List.mem_cons_self) later) (.nil _ _)
      | cons arg rest =>
          exact .next takes (ih (List.cons_ne_nil arg rest) (fun arg is =>
            Nat.lt_of_lt_of_le (exist arg (List.mem_cons_of_mem _ is)) takes.1.size) later)
  | stop takes => exact .stop (takes.later (exist _ List.mem_cons_self) later)

/-- **The names stay, in their order.** -/
theorem names (taken : TakesAll s slots args t (.ok slots')) : slots'.names = slots.names := by
  generalize first : Except.ok slots' = result at taken
  induction taken with
  | nil =>
      cases first
      rfl
  | next took _ ih =>
      obtain ⟨-, items, -, took⟩ := took
      exact (ih first).trans (Slots.names_of_take took)
  | stop _ => cases first

/-- What one argument has filled or collected the others leave. -/
theorem grows (taken : TakesAll s slots args t (.ok slots')) {name : String} {slot : Slot}
    (found : slots.find? name = some slot) :
    ∃ slot', slots'.find? name = some slot' ∧ slot.copy.Grows slot'.copy := by
  generalize accepted : Except.ok slots' = result at taken
  induction taken generalizing slot with
  | nil =>
      cases accepted
      exact ⟨slot, found, .refl _⟩
  | next takes _ ih =>
      obtain ⟨-, items, -, took⟩ := takes
      obtain ⟨slot₁, found₁, grown⟩ := Slots.grows_of_take took found
      obtain ⟨slot', found', grown'⟩ := ih found₁ accepted
      exact ⟨slot', found', (Slot.copy_copy slot ▸ grown.copy).trans grown'⟩
  | stop _ => cases accepted

/-- What has filled a slot stays in it. -/
theorem filled (taken : TakesAll s slots args t (.ok slots')) {name : String}
    (found : slots.find? name = some (.free (some value))) :
    slots'.find? name = some (.free (some value)) := by
  obtain ⟨slot', found', grown⟩ := taken.grows found
  rw [found']
  cases slot' with
  | free content =>
      cases grown with
      | free stays => rw [stays value rfl]
  | _ => cases grown

/-- What has been collected is followed by what is collected later. -/
theorem collected (taken : TakesAll s slots args t (.ok slots')) {name : String} {items : List Ref}
    (found : slots.find? name = some (.vararg items)) :
    ∃ more, slots'.find? name = some (.vararg (items ++ more)) := by
  obtain ⟨slot', found', grown⟩ := taken.grows found
  rw [found']
  cases slot' with
  | vararg items' =>
      cases grown with
      | vararg longer =>
          obtain ⟨more, rfl⟩ := longer
          exact ⟨more, rfl⟩
  | _ => cases grown

/-- **What became of each argument**: it has filled an empty slot for good, or what it adds comes in
its slot after what the arguments before it added. -/
theorem landed {before after : List (Key × Ref)}
    (taken : TakesAll s slots (before ++ (key, value) :: after) t (.ok slots')) :
    ∃ u slots₁ name, TakesAll s slots before u (.ok slots₁) ∧ slots₁.landing? key = some name ∧
      ((slots₁.find? name = some (.free none) ∧ slots'.find? name = some (.free (some value))) ∨
        ∃ v old items more, slots₁.find? name = some (.vararg old) ∧
          Adds name value u v (.ok items) ∧
            slots'.find? name = some (.vararg (old ++ items ++ more))) := by
  induction before generalizing s slots with
  | cons first before ih =>
      cases taken with
      | next takes rest =>
          obtain ⟨u, slots₁, name, taken, lands⟩ := ih rest
          exact ⟨u, slots₁, name, .next takes taken, lands⟩
  | nil =>
      cases taken with
      | @next _ v _ _ slots₂ _ _ _ _ takes rest =>
          obtain ⟨-, items, adds, took⟩ := takes
          obtain ⟨name, lands, ⟨empty, rfl⟩ | ⟨old, more, vararg, rfl, rfl⟩⟩ :=
            Slots.take_cases took
          · have copied : slots.copy.find? name = some (.free none) := by
              rw [Slots.find?_copy, empty]
              rfl
            exact ⟨s, slots, name, .nil _ _, lands,
              .inl ⟨empty, rest.filled (Slots.find?_set_self copied)⟩⟩
          · have copied : slots.copy.find? name = some (.vararg old) := by
              rw [Slots.find?_copy, vararg]
              rfl
            obtain ⟨later, found⟩ := rest.collected (Slots.find?_set_self copied)
            exact ⟨s, slots, name, .nil _ _, lands, .inr ⟨v, old, more, later, vararg,
              adds name (Slots.collecting?_eq_some.mpr ⟨lands, old, vararg⟩), found⟩⟩

end TakesAll

end PhiCalculus
