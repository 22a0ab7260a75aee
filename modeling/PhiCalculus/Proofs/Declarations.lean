import PhiCalculus.Proofs.AlikeExpressions
import PhiCalculus.Proofs.Installed
import PhiCalculus.Proofs.Vertices
import PhiCalculus.Proofs.WellFormed

/-!
# What abstractions declare

An abstraction declares a slot for each parameter and then one for each attribute, and an object is
made with these slots (`startingSlots`).  Declaring a slot would replace an earlier one of the same
name.  In a checked abstraction all names are different, so every slot comes after those before it
(`declareAll_startingSlots`).

Inside a home an abstraction builds a new object, which draws the next vertex
(`Node.builds_as_declared`).  At the top level it makes a prototype without a home.  The prototypes
are global under the names of the abstractions in their order, after the prototype of attempts, or
one of them is in its place (`Program.loaded`).
-/

set_option autoImplicit false

namespace PhiCalculus

open PhiCalculus.Action

/-! ## Slots as they are declared -/

/-- The slot of a parameter, to which no argument was bound. -/
def Parameter.slot (p : Parameter) : Slot := if p.vararg then .vararg [] else .free none

/-- The name under which an attribute is declared. -/
def Node.attr (n : Node) : String := attrName (n.name.getD "")

/-- The slots of an object of an abstraction for which nothing was evaluated yet. -/
def startingSlots (params : List Parameter) (attrs : List Node) : Slots :=
  params.map (fun p => (p.name, p.slot)) ++ attrs.map fun n => (n.attr, .once n.expr none)

theorem names_startingSlots (params : List Parameter) (attrs : List Node) :
    (startingSlots params attrs).names = params.map Parameter.name ++ attrs.map Node.attr := by
  simp [startingSlots, Slots.names, Function.comp_def]

variable {params : List Parameter} {attrs : List Node} {slots : Slots} {name : String} {slot : Slot}

/-- Where names are different, the first one is new and the others differ from it as well. -/
theorem Slots.new_of_nodup {names : List String} (distinct : (slots.names ++ name :: names).Nodup)
    (slot : Slot) :
    name ∉ slots.names ∧ ((slots ++ [(name, slot)]).names ++ names).Nodup := by
  constructor
  · intro there
    exact (List.nodup_append.mp distinct).2.2 name there name List.mem_cons_self rfl
  · simpa [Slots.names] using distinct

theorem declareAll_params {decl : Declared}
    (distinct : (slots.names ++ params.map Parameter.name).Nodup) :
    declareAll slots (Parameter.slots params ++ decl) =
      declareAll (slots ++ params.map fun p => (p.name, p.slot)) decl := by
  induction params generalizing slots with
  | nil => simp [Parameter.slots]
  | cons p rest ih =>
      obtain ⟨new, distinct⟩ := Slots.new_of_nodup distinct p.slot
      have step : declareAll slots (Parameter.slots (p :: rest) ++ decl) =
          declareAll (slots.declare p.name p.slot) (Parameter.slots rest ++ decl) := by
        obtain ⟨name, vararg⟩ := p
        cases vararg <;> rfl
      rw [step, Slots.declare_new new, ih distinct, List.append_assoc]
      rfl

theorem declareAll_attrs (distinct : (slots.names ++ attrs.map Node.attr).Nodup) :
    declareAll slots (Node.attrSlots attrs) =
      slots ++ attrs.map fun n => (n.attr, .once n.expr none) := by
  induction attrs generalizing slots with
  | nil =>
      rw [Node.attrSlots, List.map_nil, List.append_nil]
      rfl
  | cons n rest ih =>
      obtain ⟨new, distinct⟩ := Slots.new_of_nodup distinct (.once n.expr none)
      have step : declareAll slots (Node.attrSlots (n :: rest)) =
          declareAll (slots.declare n.attr (.once n.expr none)) (Node.attrSlots rest) := by
        rw [Node.attrSlots]
        rfl
      rw [step, Slots.declare_new new, ih distinct, List.append_assoc]
      rfl

/-- **Where all names are different, there is a slot for each of them in their order.** -/
theorem declareAll_startingSlots (distinct : (startingSlots params attrs).names.Nodup) :
    declareAll [] (Parameter.slots params ++ Node.attrSlots attrs) =
      startingSlots params attrs := by
  rw [names_startingSlots] at distinct
  have params_distinct : (Slots.names [] ++ params.map Parameter.name).Nodup :=
    (List.nodup_append.mp distinct).1
  rw [declareAll_params params_distinct, declareAll_attrs]
  · rfl
  · simpa [Slots.names, Function.comp_def] using distinct

/-! ## Checked abstractions -/

theorem LawfulDeclarations.distinct_slots (lawful : LawfulDeclarations params attrs) :
    (startingSlots params attrs).names.Nodup := by
  have same : attrs.filterMap Node.slotName = attrs.map Node.attr := by
    rw [← List.filterMap_eq_map]
    apply List.filterMap_congr
    intro n there
    obtain ⟨own, named, -⟩ := lawful.attrs_named n there
    simp [Node.slotName, Node.attr, named]
  rw [names_startingSlots, ← same]
  exact lawful.distinct

theorem Node.no_fault_of_check {n : Node} (checked : n.check = .ok ()) :
    ∀ a f, ¬ n.Violates a f := by
  have reports := n.check_reports
  rw [checked] at reports
  exact reports

theorem Node.lawful_of_check {own : Option String} {line : Nat}
    (checked : (Node.abstraction own line params attrs).check = .ok ()) :
    LawfulDeclarations params attrs :=
  lawfulDeclarations_of_no_fault (Node.no_fault_of_check checked)

/-- What is below a checked node is checked as well. -/
theorem Node.check_of_within {root n : Node} (checked : root.check = .ok ())
    (within : root.Within n) : n.check = .ok () := by
  have none : ∀ a f, ¬ n.Violates a f := by
    induction within with
    | root => exact no_fault_of_check checked
    | child _ below ih => exact no_fault_of_child ih below
  have reports := n.check_reports
  cases result : n.check with
  | ok _ => rfl
  | error fault =>
      rw [result] at reports
      obtain ⟨a, breaks, -⟩ := reports
      exact absurd breaks (none a fault)

/-! ## Built objects -/

/-- The object that an abstraction builds, or its prototype if there is no home. -/
def Node.table (own : Option String) (home : Option Ref) (params : List Parameter)
    (attrs : List Node) : Table :=
  { form := own.getD "[]", home := home, slots := startingSlots params attrs }

/-- **In its home a checked abstraction builds an object as declared.** -/
theorem Node.builds_as_declared {own : Option String} {line : Nat}
    (checked : (Node.abstraction own line params attrs).check = .ok ()) (home : Ref) (steps : Nat)
    (frame : Frame) (s : State) :
    answerWithin (steps + 2) (.eval (Node.abstraction own line params attrs).expr home) frame s =
      .answer (s.alloc (.table (Node.table own (some home) params attrs))).1
        (s.alloc (.table (Node.table own (some home) params attrs))).2 := by
  have written := Node.written_of_check _ checked
  rw [Node.expr] at written ⊢
  cases written with
  | build plain _ =>
      have slots := declareAll_startingSlots (Node.lawful_of_check checked).distinct_slots
      have build : buildObject (answerWithin (steps + 1)) home (own.getD "[]") (some .self)
          (Parameter.slots params ++ Node.attrSlots attrs) (frame.holding [home]) s =
            (do
              let slots ← hold [home] (evalSlots (answerWithin (steps + 1)) home []
                (Parameter.slots params ++ Node.attrSlots attrs))
              Action.alloc (.table { form := own.getD "[]", home := some home, slots := slots }))
              (frame.holding [home]) s := rfl
      rw [evalSlots_plain _ _ plain, slots] at build
      exact build

/-! ## Global objects -/

namespace State

theorem names_insertEntry {α : Type} (name : String) (a : α) (entries : List (String × α)) :
    (insertEntry name a entries).map (·.1) =
      if name ∈ entries.map (·.1) then entries.map (·.1) else entries.map (·.1) ++ [name] := by
  induction entries with
  | nil => rfl
  | cons entry rest ih =>
      obtain ⟨n, old⟩ := entry
      simp only [insertEntry, beq_iff_eq]
      by_cases same : n = name
      · simp [same]
      · rw [if_neg same, List.map_cons, ih]
        by_cases later : name ∈ rest.map (·.1)
        · have taken : name ∈ ((n, old) :: rest).map (·.1) := List.mem_cons_of_mem _ later
          rw [if_pos later, if_pos taken]
          rfl
        · have new : name ∉ ((n, old) :: rest).map (·.1) := by
            intro there
            rcases List.mem_cons.mp there with here | there
            · exact same here.symm
            · exact later there
          rw [if_neg later, if_neg new]
          rfl

theorem names_installNode {n : Node} {t : Table} {name : String} (makes : n.Makes name t)
    (s : State) : (s.installNode n).globals.map (·.1) =
      if name ∈ s.globals.map (·.1) then s.globals.map (·.1)
        else s.globals.map (·.1) ++ [name] := by
  cases makes with
  | abstraction _ line params attrs =>
      exact names_insertEntry name (s.alloc (.table (Node.prototype name params attrs))).1 s.globals

/-- Objects with names of their own come after the global objects that there are, but for those that
take the place of one. -/
theorem names_install {objects : List Node} (made : ∀ n ∈ objects, ∃ name t, n.Makes name t)
    (distinct : (objects.filterMap Node.name).Nodup) (s : State) :
    (objects.foldl installNode s).globals.map (·.1) = s.globals.map (·.1) ++
      (objects.filterMap Node.name).filter fun name => name ∉ s.globals.map (·.1) := by
  induction objects generalizing s with
  | nil => simp
  | cons n rest ih =>
      obtain ⟨name, t, makes⟩ := made n List.mem_cons_self
      rw [List.filterMap_cons_some makes.name, List.nodup_cons] at distinct
      rw [List.foldl_cons, ih (fun m there => made m (List.mem_cons_of_mem _ there)) distinct.2,
        names_installNode makes, List.filterMap_cons_some makes.name, List.filter_cons]
      by_cases taken : name ∈ s.globals.map (·.1)
      · rw [if_pos taken]
        simp [taken]
      · have others : ∀ m ∈ rest.filterMap Node.name,
            decide (m ∉ s.globals.map (·.1) ++ [name]) = decide (m ∉ s.globals.map (·.1)) := by
          intro m there
          have other : m ≠ name := by
            rintro rfl
            exact distinct.1 there
          simp [other]
        rw [if_neg taken, List.filter_congr others, if_pos (by simpa using taken),
          List.append_assoc]
        rfl

end State

/-- The global objects of a program that was loaded. -/
structure Program.Loaded (p : Program) (s : State) : Prop where
  /-- The prototype of attempts comes first, or the object of the program that has its name. -/
  names : s.globals.map (·.1) = "try" :: (p.objects.filterMap Node.name).filter (· ≠ "try")
  distinct : (s.globals.map (·.1)).Nodup
  objects : ∀ n ∈ p.objects, ∃ name line params attrs r,
    n = .abstraction (some name) line params attrs ∧ (name, r) ∈ s.globals ∧
      (s.heap.cell r).kind = .table (Node.table (some name) none params attrs)
  attempt : (∀ n ∈ p.objects, n.name ≠ some "try") →
    ∃ r, ("try", r) ∈ s.globals ∧ (s.heap.cell r).kind = .table attemptTable

/-- **The global objects of a checked program are made as declared.** -/
theorem Program.loaded {p : Program} (checked : p.check = .ok ()) : p.Loaded p.base := by
  obtain ⟨allowed, different⟩ := checkObjects_iff.mp checked
  have installed := p.installed_base checked
  have made : ∀ n ∈ p.objects, ∃ name t, n.Makes name t := fun n there => (allowed n there).makes
  have apart : (p.objects.filterMap Node.name).Nodup := by
    have reports := p.check_reports
    rw [checked] at reports
    exact (p.wellFormed_iff.mpr reports).distinct
  have names : p.base.globals.map (·.1) =
      "try" :: (p.objects.filterMap Node.name).filter (· ≠ "try") := by
    have first : State.initial.globals.map (·.1) = ["try"] := rfl
    rw [Program.base, State.install, State.names_install made apart, first]
    simp
  have entry {name : String} {r : Ref} (global : p.base.global? name = some r) :
      (name, r) ∈ p.base.globals := by
    obtain ⟨before, after, entries, -⟩ := List.lookup_eq_some_iff.mp global
    rw [entries]
    simp
  constructor
  · exact names
  · rw [names, List.nodup_cons]
    exact ⟨by simp, apart.filter _⟩
  · intro n there
    obtain ⟨name, t, makes⟩ := made n there
    obtain ⟨i, first⟩ := List.getElem?_of_mem there
    have global := installed.global?.mpr (.inl ⟨i, n, first, makes.name, rfl⟩)
    have kind := installed.object first makes
    cases makes with
    | abstraction _ line params attrs =>
        refine ⟨name, line, params, attrs, _, rfl, entry global, kind.trans ?_⟩
        rw [Node.prototype, declareAll_startingSlots
          (Node.lawful_of_check (allowed _ there).checked).distinct_slots]
        rfl
  · intro none
    exact ⟨_, entry (installed.global?.mpr (.inr ⟨none, rfl, rfl⟩)), installed.attempt⟩

end PhiCalculus
