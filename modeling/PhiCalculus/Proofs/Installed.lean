import PhiCalculus.Proofs.RunState

/-!
# What a program installs

The objects of a checked program have names of their own (`checkObjects_iff`).  When it is loaded,
each of them is added as a prototype after the prototype of attempts, in order, and is global under
its name; attempts stay global unless an object has their name (`Program.installed_base`).
-/

set_option autoImplicit false

namespace PhiCalculus

/-! ## Checked objects -/

/-- What an object of a program has to be, where some names are taken. -/
structure Node.Allowed (taken : List String) (n : Node) : Prop where
  named : ∃ name, n.name = some name ∧ name ∉ taken
  isAbstraction : n.isAbstraction = true
  checked : n.check = .ok ()

theorem Node.allowed_cons {taken : List String} {name : String} {n : Node} :
    n.Allowed (name :: taken) ↔ n.Allowed taken ∧ n.name ≠ some name := by
  constructor
  · rintro ⟨⟨own, named, free⟩, isAbstraction, checked⟩
    rw [List.mem_cons, not_or] at free
    exact ⟨⟨⟨own, named, free.2⟩, isAbstraction, checked⟩,
      fun same => free.1 (Option.some.inj (named.symm.trans same))⟩
  · rintro ⟨⟨⟨own, named, free⟩, isAbstraction, checked⟩, other⟩
    refine ⟨⟨own, named, ?_⟩, isAbstraction, checked⟩
    rw [List.mem_cons, not_or]
    exact ⟨fun same => other (same ▸ named), free⟩

/-- The check of the first object, and of those after it. -/
theorem checkObjects_cons {program name : String} {taken : List String} {n : Node}
    {rest : List Node} (named : n.name = some name) :
    checkObjects program taken (n :: rest) = .ok () ↔
      n.Allowed taken ∧ checkObjects program (name :: taken) rest = .ok () := by
  have allowed : n.Allowed taken ↔
      n.isAbstraction = true ∧ taken.contains name = false ∧ n.check = .ok () := by
    rw [List.contains_eq_mem, decide_eq_false_iff_not]
    constructor
    · rintro ⟨⟨own, same, free⟩, isAbstraction, checked⟩
      cases named.symm.trans same
      exact ⟨isAbstraction, free, checked⟩
    · rintro ⟨isAbstraction, free, checked⟩
      exact ⟨⟨name, named, free⟩, isAbstraction, checked⟩
  rw [checkObjects, named, allowed]
  dsimp only
  cases n.isAbstraction with
  | false => simp
  | true =>
      cases taken.contains name with
      | true => simp
      | false =>
          cases n.check with
          | error fault => simp [bind, Except.bind]
          | ok _ => simp [bind, Except.bind]

/-- **Objects pass their check if each one does and no two have the same name**, whatever their
order is. -/
theorem checkObjects_iff {program : String} {taken : List String} {objects : List Node} :
    checkObjects program taken objects = .ok () ↔
      (∀ n ∈ objects, n.Allowed taken) ∧ (objects.map Node.name).Nodup := by
  induction objects generalizing taken with
  | nil => simp [checkObjects]
  | cons n rest ih =>
      rw [List.forall_mem_cons, List.map_cons, List.nodup_cons]
      cases named : n.name with
      | none =>
          refine iff_of_false (by simp [checkObjects, named]) ?_
          rintro ⟨⟨allowed, -⟩, -⟩
          obtain ⟨name, same, -⟩ := allowed.named
          cases named.symm.trans same
      | some name =>
          have other : some name ∉ rest.map Node.name ↔ ∀ m ∈ rest, m.name ≠ some name := by simp
          rw [checkObjects_cons named, ih, other]
          simp only [Node.allowed_cons, forall_and]
          tauto

/-- The order of its objects does not matter for the check of a program. -/
theorem Program.check_perm {p : Program} {objects : List Node} (perm : objects.Perm p.objects)
    (checked : p.check = .ok ()) : check { p with objects := objects } = .ok () := by
  obtain ⟨allowed, distinct⟩ := checkObjects_iff.mp checked
  refine checkObjects_iff.mpr ⟨fun n there => allowed n (perm.mem_iff.mp there), ?_⟩
  exact (perm.map Node.name).nodup_iff.mpr distinct

/-! ## Installed objects -/

/-- The tree of an object makes a prototype with that content global under that name. -/
inductive Node.Makes : Node → String → Table → Prop where
  | abstraction (name : String) (line : Nat) (params : List Parameter) (attrs : List Node) :
      Makes (.abstraction (some name) line params attrs) name (Node.prototype name params attrs)

theorem Node.Makes.name {n : Node} {name : String} {t : Table} (makes : n.Makes name t) :
    n.name = some name := by
  cases makes
  rfl

theorem Node.Makes.unique {n : Node} {name name' : String} {t t' : Table} (makes : n.Makes name t)
    (makes' : n.Makes name' t') : t' = t := by
  cases makes
  cases makes'
  rfl

theorem Node.Allowed.makes {taken : List String} {n : Node} (allowed : n.Allowed taken) :
    ∃ name t, n.Makes name t := by
  obtain ⟨⟨name, named, -⟩, isAbstraction, -⟩ := allowed
  cases n with
  | abstraction own line params attrs =>
      cases named
      exact ⟨name, _, .abstraction name line params attrs⟩
  | application => cases isAbstraction
  | data => cases isAbstraction

/-- What is at a place in a list to which an element is added. -/
theorem getElem?_concat_iff {α : Type} {l : List α} {x y : α} {i : Nat} :
    (l ++ [x])[i]? = some y ↔ l[i]? = some y ∨ i = l.length ∧ y = x := by
  rw [List.getElem?_append]
  split
  · next early => simp [Nat.ne_of_lt early]
  · next late =>
    rw [List.getElem?_eq_none (Nat.le_of_not_lt late), List.getElem?_singleton]
    split
    · next last => simp [show i = l.length by omega, eq_comm]
    · next beyond => simp [show i ≠ l.length by omega]

/-- The prototype of attempts and those of the objects are there in order, and are global. -/
structure State.Installed (objects : List Node) (s : State) : Prop where
  size : s.heap.size = objects.length + 1
  attempt : (s.heap.cell ⟨0⟩).kind = .table attemptTable
  object : ∀ {i n name t}, objects[i]? = some n → n.Makes name t →
    (s.heap.cell ⟨i + 1⟩).kind = .table t
  global? : ∀ {name r}, s.global? name = some r ↔
    (∃ i n, objects[i]? = some n ∧ n.name = some name ∧ r = ⟨i + 1⟩) ∨
      ((∀ n ∈ objects, n.name ≠ some name) ∧ name = "try" ∧ r = ⟨0⟩)

namespace State.Installed

variable {s : State} {objects : List Node}

theorem initial : State.initial.Installed [] where
  size := rfl
  attempt := rfl
  object there _ := by cases there
  global? {name r} := by
    have entry : State.initial.global? name = if name = "try" then some ⟨0⟩ else none :=
      State.global?_define _ "try" name ⟨0⟩
    rw [entry]
    split
    · next same => simp [same, eq_comm]
    · next other => simp [other]

/-- One more object is installed. -/
theorem concat (installed : s.Installed objects) {n : Node} {own : String} {t : Table}
    (makes : n.Makes own t) (other : ∀ m ∈ objects, m.name ≠ some own) :
    (s.installNode n).Installed (objects ++ [n]) := by
  cases makes with
  | abstraction _ line params attrs =>
  have size : (s.alloc (.table (Node.prototype own params attrs))).2.heap.size =
      objects.length + 1 + 1 := (s.heap.size_alloc _).trans (congrArg (· + 1) installed.size)
  have old {r : Ref} (exist : r.index < objects.length + 1) :
      (s.alloc (.table (Node.prototype own params attrs))).2.heap.cell r = s.heap.cell r :=
    s.heap.cell_alloc_of_lt _ (installed.size ▸ exist)
  have new : ((s.alloc (.table (Node.prototype own params attrs))).2.heap.cell
      ⟨objects.length + 1⟩).kind = .table (Node.prototype own params attrs) := by
    rw [← installed.size]
    exact congrArg Cell.kind (s.heap.cell_alloc_self _)
  have first {i : Nat} {m : Node} : (objects ++ [.abstraction (some own) line params attrs])[i]? =
      some m ↔ objects[i]? = some m ∨
        i = objects.length ∧ m = .abstraction (some own) line params attrs := getElem?_concat_iff
  exact {
    size := size.trans (by rw [List.length_append]; rfl)
    attempt := (congrArg Cell.kind (old (Nat.succ_pos _))).trans installed.attempt
    object := by
      intro i m name t' there makes
      rcases first.mp there with there | ⟨rfl, rfl⟩
      · have early := (List.getElem?_eq_some_iff.mp there).1
        exact (congrArg Cell.kind (old (Nat.succ_lt_succ early))).trans
          (installed.object there makes)
      · rw [(Node.Makes.abstraction own line params attrs).unique makes]
        exact new
    global? := by
      intro name r
      rw [State.installNode, State.global?_define]
      by_cases same : name = own
      · subst same
        rw [if_pos rfl]
        constructor
        · intro is
          cases is
          exact .inl ⟨objects.length, _, first.mpr (.inr ⟨rfl, rfl⟩), rfl,
            congrArg Ref.mk installed.size⟩
        · rintro (⟨i, m, there, named, rfl⟩ | ⟨unnamed, -, -⟩)
          · rcases first.mp there with there | ⟨rfl, rfl⟩
            · exact absurd named (other m (List.mem_of_getElem? there))
            · exact congrArg (some ∘ Ref.mk) installed.size
          · exact absurd rfl (unnamed _ (List.mem_append_right _ List.mem_cons_self))
      · rw [if_neg same]
        refine installed.global?.trans (or_congr ?_ (and_congr_left' ?_))
        · constructor
          · rintro ⟨i, m, there, rest⟩
            exact ⟨i, m, first.mpr (.inl there), rest⟩
          · rintro ⟨i, m, there, named, rest⟩
            rcases first.mp there with there | ⟨rfl, rfl⟩
            · exact ⟨i, m, there, named, rest⟩
            · exact absurd (Option.some.inj named).symm same
        · rw [List.forall_mem_append, List.forall_mem_singleton]
          exact (and_iff_left fun named => same (Option.some.inj named).symm).symm }

end State.Installed

/-- **A checked program begins with its objects installed.** -/
theorem Program.installed_base {p : Program} (checked : p.check = .ok ()) :
    p.base.Installed p.objects := by
  obtain ⟨allowed, distinct⟩ := checkObjects_iff.mp checked
  rw [Program.base, State.install]
  generalize p.objects = objects at allowed distinct
  induction objects using List.reverseRecOn with
  | nil => exact .initial
  | append_singleton objects n ih =>
      rw [List.foldl_append]
      obtain ⟨name, t, makes⟩ := (allowed n (by simp)).makes
      rw [List.map_append, List.nodup_append] at distinct
      have installed := ih (fun m there => allowed m (List.mem_append_left _ there)) distinct.1
      refine installed.concat makes fun m there same => ?_
      refine distinct.2.2 m.name (List.mem_map_of_mem there) n.name (by simp) ?_
      rw [same, makes.name]

/-- **The root of a checked program is a global object.** -/
theorem Program.isSome_global?_root {p : Program} (checked : p.check = .ok ())
    {root : Option String} {name : String} (chosen : p.root root = .ok name) :
    (p.base.global? name).isSome = true := by
  have global {n : Node} (there : n ∈ p.objects) (named : n.name = some name) :
      (p.base.global? name).isSome = true := by
    obtain ⟨i, first⟩ := List.getElem?_of_mem there
    refine Option.isSome_iff_exists.mpr ⟨⟨i + 1⟩, ?_⟩
    exact (installed_base checked).global?.mpr (.inl ⟨i, n, first, named, rfl⟩)
  have among {n : String} (has : p.has n = true) (same : n = name) :
      (p.base.global? name).isSome = true := by
    obtain ⟨node, there, named⟩ := List.any_eq_true.mp has
    exact global there (same ▸ beq_iff_eq.mp named)
  cases root with
  | some wanted =>
      simp only [Program.root] at chosen
      split at chosen
      · next has => exact among has (Except.ok.inj chosen)
      · cases chosen
  | none =>
      simp only [Program.root] at chosen
      split at chosen
      · next has => exact among has (Except.ok.inj chosen)
      · cases first : p.objects with
        | nil => simp [first] at chosen
        | cons n rest =>
            cases named : n.name with
            | none => simp [first, named] at chosen
            | some own =>
                simp only [first, List.head?_cons, Option.bind_some, named] at chosen
                exact global (first ▸ List.mem_cons_self)
                  (named.trans (congrArg some (Except.ok.inj chosen)))

end PhiCalculus
