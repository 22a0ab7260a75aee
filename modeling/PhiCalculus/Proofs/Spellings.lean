import PhiCalculus.Proofs.PositionalArguments
import PhiCalculus.Proofs.Resolution

/-!
# Names as they are written

The sign `@` is another spelling of `φ`.  The names of attributes, of arguments and of references
are read so (`attrName`), and what is declared under a name is what the name leads to, written
either way.  A named argument lands on the slot that was declared so and on no other, and a
reference in one of the attributes reads that slot (`Addressed`).

The names of parameters are taken as they are written.  So a parameter `@` has a slot that is called
just that, while every name that leads anywhere is read before it does.  No argument lands there and
no reference reads it (`Unaddressed`).
-/

set_option autoImplicit false

namespace PhiCalculus

open PhiCalculus.Action

variable {params : List Parameter} {attrs : List Node} {slots : Slots} {name m : String} {i : Nat}
  {ask : Answerer} {frame : Frame} {o r value : Ref} {s t : State} {key : Key}

/-! ## Declared names -/

/-- The names in an abstraction, as they are written. -/
def writtenNames (params : List Parameter) (attrs : List Node) : List String :=
  params.map Parameter.name ++ attrs.map fun n => n.name.getD ""

/-- Nothing is read as the sign `@`. -/
theorem attrName_ne_at (m : String) : attrName m ≠ "@" := by
  rw [attrName]
  split
  · decide
  · next other => simpa using other

theorem attrName_of_ne (other : m ≠ "@") : attrName m = m := by
  rw [attrName, if_neg (by simpa using other)]

/-- The slot is called what its name is read as, if it is not that of a parameter `@`. -/
theorem name_of_written (there : (writtenNames params attrs)[i]? = some m)
    (proper : m = "@" → params.length ≤ i) :
    (startingSlots params attrs).names[i]? = some (attrName m) := by
  rw [names_startingSlots]
  by_cases early : i < params.length
  · have other : m ≠ "@" := fun same => Nat.not_le_of_lt early (proper same)
    rw [writtenNames, List.getElem?_append_left (by simpa using early)] at there
    rw [List.getElem?_append_left (by simpa using early), there, attrName_of_ne other]
  · have late : (params.map Parameter.name).length ≤ i := by simpa using early
    rw [writtenNames, List.getElem?_append_right late, List.getElem?_map] at there
    obtain ⟨n, own, rfl⟩ := Option.map_eq_some_iff.mp there
    rw [List.getElem?_append_right late, List.getElem?_map, own]
    rfl

/-- A parameter `@` has a slot that is called so. -/
theorem name_of_param (there : (writtenNames params attrs)[i]? = some m)
    (early : i < params.length) : (startingSlots params attrs).names[i]? = some m := by
  rw [writtenNames, List.getElem?_append_left (by simpa using early)] at there
  rw [names_startingSlots, List.getElem?_append_left (by simpa using early), there]

theorem Slots.exists_of_name (there : slots.names[i]? = some name) :
    ∃ slot, slots[i]? = some (name, slot) := by
  rw [names, List.getElem?_map] at there
  obtain ⟨⟨n, slot⟩, entry, rfl⟩ := Option.map_eq_some_iff.mp there
  exact ⟨slot, entry⟩

/-! ## Names that lead to a slot -/

/-- The name `m` leads to the slot called `name` and to no other.  An argument of that name is bound
to it, and a reference of that name reads it. -/
structure Addressed (m name : String) (slot : Slot) (r : Ref) (t : State) : Prop where
  lands : ∀ (ask : Answerer) (frame : Frame),
    placeOf ask r (argumentKey (some m)) frame t = .answer (.slot r name) t
  /-- An empty slot is filled, and all others are copied. -/
  fills : slot = .free none → ∀ (ask : Answerer) (value : Ref) (frame : Frame), ∃ x u,
    bindTo ask r (argumentKey (some m)) value frame t = .answer x u ∧
      (u.heap.cell x).slots = (t.heap.cell r).slots.copy.set name (.free (some value))
  /-- Where arguments are collected, the argument is added. -/
  collects : ∀ {old}, slot = .vararg old → ∀ (ask : Answerer) (value : Ref) (frame : Frame),
    value.index < t.heap.size → (t.heap.cell value).isUnvar = false → ∃ x u,
      bindTo ask r (argumentKey (some m)) value frame t = .answer x u ∧
        (u.heap.cell x).slots = (t.heap.cell r).slots.copy.set name (.vararg (old ++ [value]))
  /-- A slot that is written or computed refuses the argument. -/
  refuses : slot.isOpen = false → ∀ (ask : Answerer) (value : Ref) (frame : Frame), ∃ subject u,
    bindTo ask r (argumentKey (some m)) value frame t = .failure (.alreadyBound name subject) u
  /-- A reference is the first part of an application that begins with it. -/
  refers : ∀ (own : Option String) (line : Nat) (args : List Node) (copy unvar : Bool),
    (Node.application own line (.ref m) args copy unvar).expr.Part (.name (attrName m))
  reads : ∀ (steps : Nat) (frame : Frame),
    answerWithin (steps + 1) (.eval (.name (attrName m)) r) frame t =
      answerWithin steps (.read (.slot r name)) (frame.holding [r]) t

/-- Arguments are bound to what the expression begins with. -/
theorem part_of_bindAll {whole e : Expr} {args : List (Key × Expr)}
    (part : whole.Part (bindAll e args)) : whole.Part e := by
  induction args generalizing e with
  | nil => exact part
  | cons arg rest ih => exact (ih part).base

theorem part_of_ref (m : String) (own : Option String) (line : Nat) (args : List Node)
    (copy unvar : Bool) :
    (Node.application own line (.ref m) args copy unvar).expr.Part (.name (attrName m)) := by
  have begins {whole : Expr}
      (part : whole.Part (applied line (.ref m) copy (Node.arguments args))) :
      whole.Part (.name (attrName m)) := by
    have start := part_of_bindAll part
    cases copy with
    | false => exact start
    | true => exact start.copied
  rw [Node.expr]
  cases unvar with
  | false => exact begins .whole
  | true => exact begins Expr.Part.whole.unvar

theorem addressed {slot : Slot} (keeps : t.Keeps slots r)
    (found : t.heap.slot? r (attrName m) = some slot) : Addressed m (attrName m) slot r t := by
  obtain ⟨table, kind, -⟩ := keeps.table
  have slots : (t.heap.cell r).slots = table.slots := by rw [Cell.slots, kind]
  have declared : table.slots.find? (attrName m) = some slot := by
    rw [← slots]
    exact found
  have lands : table.slots.landing? (argumentKey (some m)) = some (attrName m) := by
    rw [argumentKey, Slots.landing?, declared]
    rfl
  constructor
  · intro ask frame
    exact placeOf_landing keeps.concrete (slots ▸ lands)
  · rintro rfl ask value frame
    refine ⟨_, _, bindTo_empty kind lands declared, ?_⟩
    rw [slots]
    exact State.slots_keptCopy declared _
  · rintro old rfl ask value frame exist single
    refine ⟨_, _, bindTo_vararg kind lands declared exist single, ?_⟩
    rw [slots]
    exact State.slots_keptCopy declared _
  · intro closed ask value frame
    have closed' : slot.copy.isOpen = false := by rw [Slot.isOpen_copy, closed]
    rw [bindTo_landing kind lands,
      bind_of_failure (write_refused (State.slot?_keptCopy declared) closed')]
    exact ⟨_, _, rfl⟩
  · exact part_of_ref m
  · intro steps frame
    exact lookUp_of_own (by rw [found]; rfl) (answerWithin steps) (frame.holding [r])

/-! ## Names that lead nowhere -/

/-- No name leads to the slot that is called `@`. -/
structure Unaddressed (r : Ref) (t : State) : Prop where
  lands : ∀ (m : String) (ask : Answerer) (frame : Frame),
    placeOf ask r (argumentKey (some m)) frame t ≠ .answer (.slot r "@") t
  /-- The name itself is read as `φ`. -/
  misses : t.heap.slot? r phi = none → ∀ (ask : Answerer) (frame : Frame),
    placeOf ask r (argumentKey (some "@")) frame t =
      .failure (.noSuchAttribute phi (t.heap.subject r)) t
  /-- What is read of the slot does not matter to any reference. -/
  reads : ∀ (m : String) (ask ask' : Answerer) (frame : Frame),
    (∀ name, name ≠ "@" → ask (.read (.slot r name)) = ask' (.read (.slot r name))) →
      lookUp ask r (attrName m) frame t = lookUp ask' r (attrName m) frame t

theorem unaddressed (concrete : (t.heap.cell r).isView = false) : Unaddressed r t := by
  constructor
  · intro m ask frame lands
    cases found : t.heap.slot? r (attrName m) with
    | none =>
        have nowhere : (t.heap.cell r).slots.landing? (argumentKey (some m)) = none :=
          Option.map_eq_none_iff.mpr found
        cases (placeOf_nowhere concrete nowhere).symm.trans lands
    | some slot =>
        have landing : (t.heap.cell r).slots.landing? (argumentKey (some m)) = some (attrName m) :=
          Option.map_eq_some_iff.mpr ⟨slot, found, rfl⟩
        have same := (placeOf_landing concrete landing).symm.trans lands
        injection same with place
        injection place with _ name
        exact attrName_ne_at m name
  · intro none ask frame
    have nowhere : (t.heap.cell r).slots.landing? (argumentKey (some "@")) = .none :=
      Option.map_eq_none_iff.mpr none
    exact placeOf_nowhere concrete nowhere
  · intro m ask ask' frame same
    cases own : (t.heap.slot? r (attrName m)).isSome with
    | true =>
        rw [lookUp_of_own own, lookUp_of_own own]
        exact congrFun (congrFun (same _ (attrName_ne_at m)) frame) t
    | false =>
        rw [lookUp, lookUp, bind_of_answer (frame_apply _ _), bind_of_answer (frame_apply _ _),
          bind_of_answer (asks_apply _ _ _), bind_of_answer (asks_apply _ _ _), own]
        rfl

/-! ## Names as declared -/

/-- **What is declared under a name is what the name leads to**, unless it is a parameter written
`@`.  In all that comes of an object of a checked abstraction, the slot of a name has the place of
the name in the declaration.  An argument of that name is bound to it and a reference of that name
reads it.  The slot of a parameter `@` has its place as well, but no name leads there. -/
theorem names_lead_to_what_they_declare {root : Node} (checked : root.check = .ok ())
    {own : Option String} {line : Nat} (within : root.Within (.abstraction own line params attrs))
    {home : Option Ref} (exist : o.index < s.heap.size)
    (kind : (s.heap.cell o).kind = .table (Node.table own home params attrs))
    (descends : Descends o s r t) :
    (t.heap.cell r).slots.names.Nodup ∧ ∀ i m, (writtenNames params attrs)[i]? = some m →
      (¬ (m = "@" ∧ i < params.length) → ∃ slot,
        (t.heap.cell r).slots[i]? = some (attrName m, slot) ∧ Addressed m (attrName m) slot r t) ∧
      (m = "@" ∧ i < params.length →
        (∃ slot, (t.heap.cell r).slots[i]? = some ("@", slot)) ∧ Unaddressed r t) := by
  have distinct := (Node.lawful_of_check (Node.check_of_within checked within)).distinct_slots
  have starts : s.Keeps (startingSlots params attrs) o := ⟨exist, _, kind, Slots.Grows.refl _⟩
  have keeps := descends.keeps (copy_startingSlots params attrs) starts
  have names : (t.heap.cell r).slots.names = (startingSlots params attrs).names :=
    keeps.slots_grow.names
  have apart : (t.heap.cell r).slots.names.Nodup := names ▸ distinct
  refine ⟨apart, ?_⟩
  intro i m there
  constructor
  · intro proper
    have late : m = "@" → params.length ≤ i := fun same =>
      Nat.le_of_not_lt fun early => proper ⟨same, early⟩
    obtain ⟨slot, entry⟩ := Slots.exists_of_name (names ▸ name_of_written there late)
    exact ⟨slot, entry, addressed keeps (Slots.find?_of_mem apart (List.mem_of_getElem? entry))⟩
  · rintro ⟨rfl, early⟩
    exact ⟨Slots.exists_of_name (names ▸ name_of_param there early), unaddressed keeps.concrete⟩

/-- A function of one argument, which is called `@`. -/
def Node.signed : Node :=
  .abstraction (some "f") 1 [{ name := "@" }] [.application (some "y") 2 (.ref "@") [] false false]

/-- A program that gives the function its argument by name and asks for what refers to it. -/
def Program.signed : Program where
  name := "app"
  objects := [.signed, .abstraction (some "app") 3 [] [.application (some "@") 4 (.method "y")
    [.application none 5 (.ref "f") [.data (some "@") 6 "int" "5"] false false] false false]]

/-- In the function the name of the parameter leads nowhere, and that of the attribute to the second
slot. -/
theorem signed_has_an_unaddressed_slot : ∃ r, ("f", r) ∈ Program.signed.base.globals ∧
    (Program.signed.base.heap.cell r).slots.names = ["@", "y"] ∧
      placeOf evaluate r (argumentKey (some "@")) {} Program.signed.base =
        .failure (.noSuchAttribute phi (Program.signed.base.heap.subject r)) Program.signed.base ∧
          placeOf evaluate r (argumentKey (some "y")) {} Program.signed.base =
            .answer (.slot r "y") Program.signed.base := by
  have loaded := Program.signed.loaded (by decide)
  obtain ⟨name, line, params, attrs, r, is, global, kind⟩ :=
    loaded.objects .signed List.mem_cons_self
  cases is
  have exist : r.index < Program.signed.base.heap.size := Program.signed.defined_base _ global
  have checked : Node.signed.check = .ok () := by decide
  obtain ⟨-, leads⟩ := names_lead_to_what_they_declare checked .root exist kind .itself
  obtain ⟨-, unaddressed⟩ := (leads 0 "@" rfl).2 ⟨rfl, by decide⟩
  obtain ⟨slot, -, addressed⟩ := (leads 1 "y" rfl).1 (by decide)
  have slots : (Program.signed.base.heap.cell r).slots =
      startingSlots [{ name := "@" }] [.application (some "y") 2 (.ref "@") [] false false] := by
    rw [Cell.slots, kind]
    rfl
  refine ⟨r, global, ?_, ?_, addressed.lands evaluate {}⟩
  · rw [slots]
    rfl
  · refine unaddressed.misses ?_ evaluate {}
    rw [Heap.slot?, slots]
    rfl

/-- The function declares a slot `@`, which is empty, and still has no slot for an argument `@`.  So
the program, which passes its check, fails. -/
theorem Program.signed_finds_no_slot :
    Program.signed.check = .ok () ∧
      (∃ r, Program.signed.base.global? "f" = some r ∧
        Program.signed.base.heap.slot? r "@" = some (.free none) ∧
          ∀ ask frame, ∃ f, placeOf ask r (argumentKey (some "@")) frame Program.signed.base =
            .failure f Program.signed.base) ∧
        ∃ f t object, Program.signed.run none false = .ok (.failure f t) ∧
          f.cause = .noSuchAttribute phi object := by
  refine ⟨by decide, ⟨⟨1⟩, rfl, rfl, fun ask frame => ⟨_, rfl⟩⟩, ?_⟩
  have cause : ((Program.signed.run none false).toOption.bind Outcome.failure?).map
      Failure.cause = some (.noSuchAttribute phi (.object ⟨10⟩ "f")) := by decide +kernel
  cases runs : Program.signed.run none false with
  | error fault =>
      rw [runs] at cause
      cases cause
  | ok outcome =>
      rw [runs] at cause
      cases outcome with
      | failure f t => exact ⟨f, t, _, rfl, Option.some.inj cause⟩
      | answer v t => cases cause
      | unfinished => cases cause

end PhiCalculus
