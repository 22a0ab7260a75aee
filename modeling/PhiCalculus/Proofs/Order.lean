import PhiCalculus.Proofs.Independence

/-!
# The order of definitions does not matter

The objects of a program get their vertices in the order in which they are written, and so does
every object that is made after them.  Otherwise the order decides nothing: with its objects in any
other order, a program ends at the same object in a value of the same type with the same term, or in
a failure that differs in vertices only (`Program.order_does_not_matter`).

A prototype is found by its name in both orders (`Program.reorder`), and what a run makes comes
after the prototypes in both.  That is a placement, so the two runs are alike.
-/

set_option autoImplicit false

namespace PhiCalculus

/-! ## Ends that match -/

/-- Two runs end in values of the same type with the same term, in failures that match, or not at
all. -/
inductive Outcome.Matches : Outcome Value → Outcome Value → Prop where
  | answer {v v' : Value} {t t' : State} : v'.tag = v.tag →
      t'.heap.valueTerm? v' = t.heap.valueTerm? v → Matches (.answer v t) (.answer v' t')
  | failure {f f' : Failure} {t t' : State} : f.Matches f' →
      Matches (.failure f t) (.failure f' t')
  | unfinished {t t' : State} : Matches (@Outcome.unfinished _ t) (@Outcome.unfinished _ t')

/-- Two programs have the same fault, or their runs end in the same way. -/
inductive RunsMatch : Except TreeFault (Outcome Value) → Except TreeFault (Outcome Value) → Prop
    where
  | fault (f : TreeFault) : RunsMatch (.error f) (.error f)
  | ends {o o' : Outcome Value} : o.Matches o' → RunsMatch (.ok o) (.ok o')

variable {p p' : Program} {start : State}

/-- **Runs in other places end in the same way.** -/
theorem Placement.matches (π : Placement p p' start) (numbered : start.Numbered) (name : String)
    {frame : Frame} (exist : ∀ r ∈ frame.held, r.index < start.heap.size) :
    (dataizeGlobal name { frame with held := [] } p.base).Matches
      (dataizeGlobal name frame start) := by
  have here := π.at_start numbered exist
  cases global : p.base.global? name with
  | none =>
      have unknown : start.global? name = none := by rw [π.global?, global]; rfl
      rw [dataizeGlobal_of_unknown global, dataizeGlobal_of_unknown unknown]
      exact .failure ⟨rfl, rfl, rfl⟩
  | some root =>
      have ends := Likeness.alike_globalValue
        ((π.likeness frame.held exist).asks_answerWithin stepLimit) here
        (Option.isSome_iff_exists.mpr ⟨root, global⟩)
      unfold dataizeGlobal evaluate
      generalize globalValue _ name _ p.base = o at ends
      generalize globalValue _ name _ start = o' at ends
      cases ends with
      | answer next same =>
          obtain ⟨rfl, items⟩ := same
          exact .answer (Value.tag_rename _) (Likeness.alike_valueTerm? (here.go next) items)
      | failure _ fails => exact .failure fails.matches
      | unfinished => exact .unfinished
      | cut silent => cases silent

/-! ## Prototypes in another order -/

/-- Where the prototypes of a program are in another one that has the same objects. -/
def Program.reorder (p p' : Program) : Ref → Ref
  | ⟨0⟩ => ⟨0⟩
  | ⟨i + 1⟩ =>
    match p.objects[i]? with
    | some n => ⟨(p'.objects.map Node.name).idxOf n.name + 1⟩
    | none => ⟨i + 1⟩

/-- Among objects with names of their own, an object is found by its name. -/
theorem idxOf_name {objects : List Node} (distinct : (objects.map Node.name).Nodup) {i : Nat}
    {n : Node} (there : objects[i]? = some n) : (objects.map Node.name).idxOf n.name = i := by
  obtain ⟨early, rfl⟩ := List.getElem?_eq_some_iff.mp there
  have found := distinct.idxOf_getElem i (by simpa using early)
  rwa [List.getElem_map] at found

namespace Program

theorem reorder_of_some {i : Nat} {n : Node} (there : p.objects[i]? = some n) :
    p.reorder p' ⟨i + 1⟩ = ⟨(p'.objects.map Node.name).idxOf n.name + 1⟩ := by
  rw [reorder, there]

theorem reorder_of_none {i : Nat} (none : p.objects[i]? = none) :
    p.reorder p' ⟨i + 1⟩ = ⟨i + 1⟩ := by
  rw [reorder, none]

section

variable (checked' : p'.check = .ok ()) (perm : p'.objects.Perm p.objects)
include checked' perm

/-- The prototype of an object is where the other program has it. -/
theorem reorder_object {i : Nat} {n : Node} (there : p.objects[i]? = some n) :
    ∃ j, p.reorder p' ⟨i + 1⟩ = ⟨j + 1⟩ ∧ p'.objects[j]? = some n := by
  obtain ⟨j, there'⟩ := List.getElem?_of_mem (perm.mem_iff.mpr (List.mem_of_getElem? there))
  refine ⟨j, ?_, there'⟩
  rw [reorder_of_some there, idxOf_name (checkObjects_iff.mp checked').2 there']

/-- The same names are global in both orders, for the same objects. -/
theorem global?_reorder (checked : p.check = .ok ()) {name : String} {r : Ref}
    (global : p.base.global? name = some r) :
    p'.base.global? name = some (p.reorder p' r) := by
  refine (installed_base checked').global?.mpr ?_
  rcases (installed_base checked).global?.mp global with
    ⟨i, n, there, named, rfl⟩ | ⟨unnamed, rfl, rfl⟩
  · obtain ⟨j, same, there'⟩ := reorder_object checked' perm there
    exact .inl ⟨j, n, there', named, same⟩
  · exact .inr ⟨fun n there => unnamed n (perm.mem_iff.mp there), rfl, rfl⟩

end

section

variable (checked : p.check = .ok ()) (checked' : p'.check = .ok ())
  (perm : p'.objects.Perm p.objects)
include checked checked' perm

/-- Reordering back leads to where the prototype was. -/
theorem reorder_reorder : Function.LeftInverse (p'.reorder p) (p.reorder p') := by
  rintro ⟨_ | i⟩
  · rfl
  · cases there : p.objects[i]? with
    | some n =>
        obtain ⟨j, same, there'⟩ := reorder_object checked' perm there
        rw [same, reorder_of_some there', idxOf_name (checkObjects_iff.mp checked).2 there]
    | none =>
        have beyond : p'.objects[i]? = none := by
          rw [List.getElem?_eq_none_iff, perm.length_eq]
          exact List.getElem?_eq_none_iff.mp there
        rw [reorder_of_none there, reorder_of_none beyond]

/-- **The prototypes of a program are in the heap of the other one, in another order.** -/
def reordering : Placement p p' p'.base where
  place := p.reorder p'
  injective := (reorder_reorder checked checked' perm).injective
  before := p'.fits_base checked'
  checked := checked
  size := by
    rw [(installed_base checked).size, (installed_base checked').size, perm.length_eq]
  early := by
    rintro ⟨_ | i⟩ early
    · rw [(installed_base checked').size]
      exact Nat.succ_pos _
    · rw [(installed_base checked).size] at early
      obtain ⟨j, same, there⟩ := reorder_object checked' perm
        (List.getElem?_eq_getElem (Nat.lt_of_succ_lt_succ early))
      rw [same, (installed_base checked').size]
      exact Nat.succ_lt_succ (List.getElem?_eq_some_iff.mp there).1
  late := by
    rintro ⟨_ | i⟩ late
    · rw [(installed_base checked).size] at late
      exact absurd late (Nat.not_succ_le_zero _)
    · rw [(installed_base checked).size] at late ⊢
      rw [(installed_base checked').size, perm.length_eq,
        reorder_of_none (List.getElem?_eq_none (Nat.le_of_succ_le_succ late))]
  prototypes := by
    rintro ⟨_ | i⟩ early
    · exact (installed_base checked').attempt.trans (installed_base checked).attempt.symm
    · rw [(installed_base checked).size] at early
      have there := List.getElem?_eq_getElem (Nat.lt_of_succ_lt_succ early)
      obtain ⟨j, same, there'⟩ := reorder_object checked' perm there
      obtain ⟨name, t, makes⟩ :=
        ((checkObjects_iff.mp checked).1 _ (List.mem_of_getElem? there)).makes
      rw [same, (installed_base checked').object there' makes,
        (installed_base checked).object there makes]
  global? name := by
    cases global : p.base.global? name with
    | some r => exact global?_reorder checked' perm checked global
    | none =>
        cases global' : p'.base.global? name with
        | none => rfl
        | some r =>
            cases global.symm.trans (global?_reorder checked perm.symm checked' global')

end

end Program

/-- **The order of definitions does not matter.**  With its objects in another order, a checked
program has the same fault if it does not have the object that is asked for; otherwise its run ends
in the same way, in a value of the same type with the same term or in a failure that matches, or
does not end either. -/
theorem Program.order_does_not_matter (checked : p.check = .ok ()) {objects : List Node}
    (perm : objects.Perm p.objects) (root : String) (tracing : Bool) :
    RunsMatch (p.run (some root) tracing)
      (run { p with objects := objects } (some root) tracing) := by
  have checked' := p.check_perm perm checked
  have has : Program.has { p with objects := objects } root = p.has root := perm.any_eq
  rw [run_of_checked checked, run_of_checked checked', Program.root, Program.root, has]
  split
  · have nothing : ∀ r ∈ ({ tracing := tracing } : Frame).held,
        r.index < (base { p with objects := objects }).heap.size :=
      fun _ there => absurd there List.not_mem_nil
    exact .ends ((reordering checked checked' perm).matches (numbered_base _) root nothing)
  · exact .fault _

/-- The type and the term of the value that an evaluation ended in. -/
def Outcome.shown? : Outcome Value → Option (TypeTag × Option String)
  | answer v t => some (v.tag, t.heap.valueTerm? v)
  | _ => none

/-- A program that gives the name of attempts to an object of its own. -/
def Program.trying : Program where
  name := "app"
  objects := [
    .abstraction (some "app") 1 [] [.application (some "@") 2 (.ref "try") [] false false],
    .abstraction (some "try") 3 [] [.data (some "@") 4 "int" "42"]]

/-- The value is the same if its objects are written in the other order. -/
theorem Program.trying_in_another_order :
    ∃ v t, Program.run { Program.trying with objects := Program.trying.objects.reverse }
      (some "app") false = .ok (.answer v t) ∧ v.tag = .int ∧
        t.heap.valueTerm? v = some "42" := by
  have first : (Program.trying.run (some "app") false).toOption.bind Outcome.shown? =
      some (.int, some "42") := by decide +kernel
  have same := Program.trying.order_does_not_matter (by decide)
    (List.reverse_perm Program.trying.objects) "app" false
  generalize Program.trying.run (some "app") false = ends at first same
  generalize Program.run _ (some "app") false = ends' at same
  cases same with
  | fault => cases first
  | ends matching =>
      cases matching with
      | @answer v v' t t' tag term =>
          obtain ⟨shown, text⟩ := Prod.mk.inj (Option.some.inj first)
          exact ⟨v', t', rfl, tag.trans shown, term.trans text⟩
      | failure => cases first
      | unfinished => cases first

end PhiCalculus
