import PhiCalculus.Proofs.Calls

/-!
# Names in scope

The homes of an instance lead outwards through instances of the abstractions around the one it was
made of, one for each (`Heap.Plays.outwards`).  A name that is not declared where it stands is
looked up along them, so it stands for the attribute of the instance of the nearest abstraction that
declares it, provided that this instance and those between still exist
(`Program.names_are_lexical`).

An object refers to its home weakly.  A raise can carry an object out of an attempt, and with it
nothing that keeps the object around it in existence.  When the handler evaluates a name for it
then, the home is gone, and a global object of that name takes the place of the attribute
(`Program.escaping_is_not_lexical`).
-/

set_option autoImplicit false

namespace PhiCalculus

open PhiCalculus.Action

/-! ## Around an object -/

/-- The object that many homes outwards. -/
def Heap.outwards (h : Heap) : Nat → Ref → Option Ref
  | 0, r => some r
  | k + 1, r => (h.cell r).home?.bind (h.outwards k)

/-- What an abstraction declares by name. -/
abbrev Declared.names (decl : Declared) : List String := decl.map (·.1)

namespace Heap.Plays

variable {p : Program} {h : Heap} {r : Ref} {name : String}

/-- An instance has just the attributes that its abstraction declares. -/
theorem isSome_slot?_iff {role : Role} (plays : h.Plays p role r) :
    (h.slot? r name).isSome = true ↔ name ∈ Declared.names role.declared := by
  obtain ⟨home, t, kind, -, slots⟩ := plays.made
  rw [Heap.slot?, Cell.slots, kind]
  exact slots.isSome_find?_iff

theorem not_declared {decl : Declared} {outer : List Declared}
    (plays : h.Plays p (.abstraction (decl :: outer)) r)
    (own : (h.slot? r name).isSome = false) : name ∉ decl.names := by
  intro there
  rw [plays.isSome_slot?_iff.mpr there] at own
  cases own

/-- The home of an instance is an instance of the abstraction around. -/
theorem around {decl : Declared} {outer : List Declared}
    (plays : h.Plays p (.abstraction (decl :: outer)) r) (written : outer ≠ []) :
    ∃ home, (h.cell r).home? = some home ∧ home.index < r.index ∧
      h.Plays p (.abstraction outer) home := by
  cases plays with
  | top => exact absurd rfl written
  | @inner _ _ home _ made _ _ older plays =>
      obtain ⟨t, kind, homed, -⟩ := made
      refine ⟨home, ?_, older, plays⟩
      rw [Cell.home?, kind]
      exact homed

/-- An instance with a home is written in another abstraction. -/
theorem written_of_home {decl : Declared} {outer : List Declared} {home : Ref}
    (plays : h.Plays p (.abstraction (decl :: outer)) r) (homed : (h.cell r).home? = some home) :
    ∃ d rest, outer = d :: rest ∧ h.Plays p (.abstraction (d :: rest)) home := by
  cases plays with
  | top made =>
      obtain ⟨t, kind, homeless, -⟩ := made
      rw [Cell.home?, kind] at homed
      cases homeless.symm.trans homed
  | @inner _ _ x _ made _ _ _ plays =>
      obtain ⟨t, kind, homed', -⟩ := made
      rw [Cell.home?, kind] at homed
      cases homed'.symm.trans homed
      cases plays with
      | top made scopes => exact ⟨_, _, rfl, .top made scopes⟩
      | inner made scopes ordinary older plays =>
          exact ⟨_, _, rfl, .inner made scopes ordinary older plays⟩

/-- Going outwards from an instance leads to an instance of each abstraction around. -/
theorem outwards (inner : List Declared) {d : Declared} {rest : List Declared}
    (plays : h.Plays p (.abstraction (inner ++ d :: rest)) r) :
    ∃ outer, h.outwards inner.length r = some outer ∧
      h.Plays p (.abstraction (d :: rest)) outer := by
  induction inner generalizing r with
  | nil => exact ⟨r, rfl, plays⟩
  | cons e inner ih =>
      obtain ⟨home, homed, -, plays⟩ := plays.around (by simp)
      obtain ⟨outer, found, plays⟩ := ih plays
      refine ⟨outer, ?_, plays⟩
      rw [List.length_cons, Heap.outwards, homed]
      exact found

theorem home?_of_present {s : State} {held : List Ref} {home : Ref}
    (homed : (s.heap.cell r).home? = some home) (present : (s.home? held r).isSome = true) :
    s.home? held r = some home := by
  obtain ⟨x, found⟩ := Option.isSome_iff_exists.mp present
  rw [found, ← State.home?_eq found, homed]

/-- Going from home to home, none of which is gone, leads to the nearest object that declares the
name. -/
theorem enclosing?_eq {s : State} {decl d : Declared} {inner rest : List Declared}
    (plays : s.heap.Plays p (.abstraction (decl :: (inner ++ d :: rest))) r)
    (skipped : ∀ e ∈ inner, name ∉ Declared.names e) (declared : name ∈ d.names) {held : List Ref}
    (present : ∀ k ≤ inner.length, ∀ x, s.heap.outwards k r = some x →
      (s.home? (x :: held) x).isSome = true) {fuel : Nat} (enough : r.index < fuel) :
    s.enclosing? held name fuel r = s.heap.outwards (inner.length + 1) r := by
  induction inner generalizing decl r fuel with
  | nil =>
      obtain ⟨fuel, rfl⟩ : ∃ n, fuel = n + 1 := ⟨fuel - 1, by omega⟩
      obtain ⟨home, homed, -, plays⟩ := plays.around (by simp)
      have found := home?_of_present homed (present 0 (Nat.zero_le _) r rfl)
      have has := plays.isSome_slot?_iff.mpr declared
      simp only [State.enclosing?, found, has, if_true, List.length_nil, Heap.outwards, homed,
        Option.bind_some]
  | cons e inner ih =>
      obtain ⟨fuel, rfl⟩ : ∃ n, fuel = n + 1 := ⟨fuel - 1, by omega⟩
      obtain ⟨home, homed, older, plays⟩ := plays.around (by simp)
      have found := home?_of_present homed (present 0 (Nat.zero_le _) r rfl)
      have hasNot : (s.heap.slot? home name).isSome = false := by
        rw [← Bool.not_eq_true, plays.isSome_slot?_iff]
        exact skipped e List.mem_cons_self
      have outer : s.heap.outwards (inner.length + 1 + 1) r =
          s.heap.outwards (inner.length + 1) home := by
        rw [Heap.outwards, homed, Option.bind_some]
      rw [List.length_cons, outer, State.enclosing?, found]
      simp only [hasNot, Bool.false_eq_true, if_false]
      refine ih plays (fun e there => skipped e (List.mem_cons_of_mem _ there)) ?_ (by omega)
      intro k near x there
      refine present (k + 1) (Nat.succ_le_succ near) x ?_
      rw [Heap.outwards, homed]
      exact there

end Heap.Plays

/-! ## Lexical scoping -/

/-- The answer is a view of that attribute of that object, and there the attribute is found from
then on. -/
def Outcome.IsAttribute (o : Outcome Ref) (object : Ref) (name : String) : Prop :=
  ∃ r t, o = .answer r t ∧ (t.heap.cell r).kind = .view (.method object name) none ∧
    ∀ u : State, t.heap.Grows u.heap → ∀ steps frame,
      answerWithin (steps + 1) (.find object name) frame u = .answer (.slot object name) u

/-- The evaluation of a name for an object. -/
def Call.ofName (name : String) (self : Ref) (steps : Nat) (frame : Frame) (s : State) : Call :=
  ⟨.request (.eval (.name name) self), steps, frame, s⟩

/-- In every run, a name that is not declared by the abstraction where it stands but by one around
gives the attribute of the instance of the nearest such abstraction, in which the object was
built. -/
def Program.Lexical (p : Program) : Prop :=
  ∀ {earlier frame₀ root steps₀ name self steps frame s},
    (p.runOf earlier frame₀ root steps₀).Inside (.ofName name self steps frame s) →
      ∀ {decl d : Declared} {inner rest : List Declared},
        s.heap.Plays p (.abstraction (decl :: (inner ++ d :: rest))) self →
          (∀ e ∈ decl :: inner, name ∉ Declared.names e) → name ∈ d.names →
            ∃ outer, s.heap.outwards (inner.length + 1) self = some outer ∧
              s.heap.Plays p (.abstraction (d :: rest)) outer ∧
                (Call.ofName name self steps frame s).outcome.IsAttribute outer name

section

variable {p : Program} {s : State} {name root : String} {self outer : Ref} {steps : Nat}
  {frame : Frame}

/-- A name that the nearest object around declares is a view of its attribute. -/
theorem lookUp_of_enclosing {ask : Answerer} (frame : Frame)
    (own : (s.heap.slot? self name).isSome = false)
    (around : s.enclosing? frame.held name (self.index + 1) self = some outer) :
    lookUp ask self name frame s = Action.view (.method outer name) frame s := by
  rw [lookUp, bind_of_answer (frame_apply _ _), bind_of_answer (asks_apply _ _ _), own,
    if_neg (by simp), bind_of_answer (asks_apply _ _ _), around]

/-- A name that no object around is found to declare is a copy of a global object, if anything. -/
theorem lookUp_of_global {ask : Answerer} (frame : Frame)
    (own : (s.heap.slot? self name).isSome = false)
    (around : s.enclosing? frame.held name (self.index + 1) self = none) :
    lookUp ask self name frame s =
      (match s.global? name with
        | some g => Action.view (.copy g)
        | none => noSuchAttribute name self) frame s := by
  rw [lookUp, bind_of_answer (frame_apply _ _), bind_of_answer (asks_apply _ _ _), own,
    if_neg (by simp), bind_of_answer (asks_apply _ _ _), around]
  exact bind_of_answer (asks_apply _ _ _) _

/-- Where the nearest object around declares the name, it gives the attribute of that object. -/
theorem isAttribute_of_enclosing? (fits : s.Fits p)
    (own : (s.heap.slot? self name).isSome = false)
    (around : s.enclosing? (self :: frame.held) name (self.index + 1) self = some outer)
    {slot : Slot} (declared : s.heap.slot? outer name = some slot) :
    (Call.ofName name self steps frame s).outcome.IsAttribute outer name := by
  refine ⟨_, _, lookUp_of_enclosing (frame.holding [self]) own around, s.kind_alloc _, ?_⟩
  intro u grown steps frame
  obtain ⟨slot', found, -⟩ := ((s.grows_alloc _).trans grown).slot declared
  exact find_declared found (fits.unreserved declared) steps

/-- Where no object around is found to declare the name, it gives no attribute of one. -/
theorem not_isAttribute_of_enclosing? (own : (s.heap.slot? self name).isSome = false)
    (around : s.enclosing? (self :: frame.held) name (self.index + 1) self = none) :
    ¬ (Call.ofName name self steps frame s).outcome.IsAttribute outer name := by
  rintro ⟨r, t, answered, kind, -⟩
  have looked := (lookUp_of_global (frame.holding [self]) own around).symm.trans answered
  cases global : s.global? name with
  | none => simp [global] at looked
  | some g =>
      rw [global] at looked
      cases looked
      cases (s.kind_alloc (.view (.copy g) none)).symm.trans kind

/-- **Names are looked up lexically.**  Whenever a name is evaluated in a run of a checked program,
it is for an instance of the abstraction where it stands.  If this abstraction does not declare it
but one around it does, the name gives the attribute of the instance of the nearest such
abstraction, as long as that instance and those between still exist. -/
theorem Program.names_are_lexical (checked : p.check = .ok ()) {earlier : List String}
    {frame₀ : Frame} {steps₀ : Nat}
    (inside : (p.runOf earlier frame₀ root steps₀).Inside (.ofName name self steps frame s)) :
    (∃ decl outer attr origin, s.heap.Plays p (.abstraction (decl :: outer)) self ∧
      (attr, .once origin) ∈ decl ∧ origin.Part (.name name)) ∧
    ∀ {decl d : Declared} {inner rest : List Declared},
      s.heap.Plays p (.abstraction (decl :: (inner ++ d :: rest))) self →
        (∀ e ∈ decl :: inner, name ∉ Declared.names e) → name ∈ d.names →
          ∃ outer, s.heap.outwards (inner.length + 1) self = some outer ∧
            s.heap.Plays p (.abstraction (d :: rest)) outer ∧
              ((∀ k ≤ inner.length, ∀ x, s.heap.outwards k self = some x →
                  (s.home? (x :: self :: frame.held) x).isSome = true) →
                (Call.ofName name self steps frame s).outcome.IsAttribute outer name) := by
  obtain ⟨state, activity⟩ := Call.Inside.fits (p := p) inside
    ⟨(p.fits_base checked).dataizing frame₀ earlier, trivial⟩
  have fits : s.Fits p := state
  obtain ⟨-, role, plays, computes⟩ : Request.Fits p s.heap (.eval (.name name) self) := activity
  constructor
  · rcases plays.evaluates checked computes with
      ⟨decl, outer, attr, origin, rfl, -, declared, part, -⟩ | ⟨n, -, same⟩
    · exact ⟨decl, outer, attr, origin, plays, declared, part⟩
    · cases same
  · intro decl d inner rest plays skipped declared
    have own : (s.heap.slot? self name).isSome = false := by
      rw [← Bool.not_eq_true, plays.isSome_slot?_iff]
      exact skipped decl List.mem_cons_self
    obtain ⟨outer, found, plays'⟩ := Heap.Plays.outwards (decl :: inner) plays
    refine ⟨outer, found, plays', fun present => ?_⟩
    obtain ⟨slot, has⟩ := Option.isSome_iff_exists.mp (plays'.isSome_slot?_iff.mpr declared)
    refine isAttribute_of_enclosing? fits own ?_ has
    rw [plays.enclosing?_eq (fun e there => skipped e (List.mem_cons_of_mem _ there)) declared
      present (Nat.lt_succ_self _)]
    exact found

end

/-! ## Objects that outlive the ones they were built in -/

/-- Marks the evaluation of a name that only the home of the object declares, where the home is gone
or where it is not. -/
def marksHome (gone : Bool) {α : Type} : Request α → Frame → State → Bool
  | .eval (.name n) self, frame, s =>
    (s.heap.slot? self n).isNone &&
      ((s.heap.cell self).home?.any fun home => (s.heap.slot? home n).isSome) &&
        (s.home? (self :: self :: frame.held) self).isNone == gone
  | _, _, _ => false

theorem Call.Meets.name_of_home {c : Call} {gone : Bool} (meets : c.Meets (marksHome gone)) :
    ∃ name self home steps frame s, c.Inside (.ofName name self steps frame s) ∧
      (s.heap.slot? self name).isSome = false ∧ (s.heap.cell self).home? = some home ∧
        (s.heap.slot? home name).isSome = true ∧
          (s.home? (self :: self :: frame.held) self).isNone = gone := by
  obtain ⟨α, q, steps, frame, s, inside, mark⟩ := meets
  cases q with
  | eval e self =>
      cases e with
      | name name =>
          simp only [marksHome, Bool.and_eq_true, beq_iff_eq, Option.any_eq_true] at mark
          obtain ⟨⟨own, home, homed, has⟩, present⟩ := mark
          refine ⟨name, self, home, steps, frame, s, inside, ?_, homed, has, present⟩
          rw [← Option.not_isNone, own]
          rfl
      | _ => cases mark
  | _ => cases mark

/-- A program with an object that refers to `y` of the object around it. -/
def Program.nested : Program where
  name := "app"
  objects := [.abstraction (some "app") 1 []
    [.data (some "y") 2 "int" "2",
      .abstraction (some "x") 3 [] [.application (some "@") 4 (.ref "y") [] false false],
      .application (some "@") 5 (.ref "x") [] false false]]

/-- While the object around it is in use, the name gives its attribute. -/
theorem Program.nested_name_is_lexical : ∃ name self outer steps frame s,
    (Program.nested.runOf [] {} "app" stepLimit).Inside (.ofName name self steps frame s) ∧
      s.heap.outwards 1 self = some outer ∧
        (Call.ofName name self steps frame s).outcome.IsAttribute outer name := by
  have short : ¬ (Program.nested.runOf [] {} "app" stepLimit).Unmarked (marksHome false) :=
    fun same => absurd (congrArg Outcome.isUnfinished same) (by decide +kernel)
  obtain ⟨name, self, home, steps, frame, s, inside, own, homed, has, present⟩ :=
    (Call.unmarked_or_meets _).resolve_left short |>.name_of_home
  obtain ⟨⟨decl, _, _, _, plays, -, -⟩, lexical⟩ :=
    Program.names_are_lexical (p := Program.nested) (by decide) inside
  obtain ⟨d, rest, rfl, around⟩ := plays.written_of_home homed
  have skipped : ∀ e ∈ [decl], name ∉ Declared.names e :=
    List.forall_mem_singleton.mpr (plays.not_declared own)
  obtain ⟨outer, found, -, gives⟩ :=
    @lexical decl d [] rest plays skipped (around.isSome_slot?_iff.mp has)
  refine ⟨name, self, outer, steps, frame, s, inside, found, gives fun k near x there => ?_⟩
  obtain rfl : k = 0 := Nat.le_zero.mp near
  cases there
  rw [← Option.not_isNone, present]
  rfl

/-- A program whose main part sends to the handler an object that refers to `y` of the main part.
There is a global object `y` as well. -/
def Program.escaping : Program where
  name := "app"
  objects :=
    [.abstraction (some "app") 1 [] [.application (some "@") 2 (.ref "try")
      [.abstraction none 3 [⟨"r", false⟩]
        [.data (some "y") 4 "int" "2",
          .abstraction (some "x") 5 [] [.application (some "@") 6 (.ref "y") [] false false],
          .application (some "@") 7 (.ref "r") [.application none 8 (.ref "x") [] false false]
            false false],
        .abstraction none 9 [⟨"e", false⟩] [.application (some "@") 10 (.ref "e") [] false false],
        .data none 11 "bool" "true"] false false],
     .abstraction (some "y") 12 [] [.data (some "@") 13 "int" "7"]]

/-- When the handler evaluates that object, the main part is gone, and the name does not give its
attribute. -/
theorem Program.escaping_is_not_lexical :
    Program.escaping.check = .ok () ∧ ¬ Program.escaping.Lexical := by
  refine ⟨by decide, fun lexical => ?_⟩
  have short : ¬ (Program.escaping.runOf [] {} "app" stepLimit).Unmarked (marksHome true) :=
    fun same => absurd (congrArg Outcome.isUnfinished same) (by decide +kernel)
  obtain ⟨name, self, home, steps, frame, s, inside, own, homed, has, gone⟩ :=
    (Call.unmarked_or_meets _).resolve_left short |>.name_of_home
  obtain ⟨-, role, plays, computes⟩ : Request.Fits _ s.heap (.eval (.name name) self) :=
    (Call.Inside.fits inside ⟨Program.escaping.fits_base (by decide), trivial⟩).activity
  rcases plays.evaluates (by decide) computes with
    ⟨decl, _, _, _, rfl, -, -, -, -⟩ | ⟨n, -, same⟩
  · obtain ⟨d, rest, rfl, around⟩ := plays.written_of_home homed
    have skipped : ∀ e ∈ [decl], name ∉ Declared.names e :=
      List.forall_mem_singleton.mpr (plays.not_declared own)
    obtain ⟨outer, -, -, gives⟩ :=
      lexical inside plays skipped (around.isSome_slot?_iff.mp has)
    refine not_isAttribute_of_enclosing? own ?_ gives
    rw [State.enclosing?, Option.isNone_iff_eq_none.mp gone]
  · cases same

end PhiCalculus
