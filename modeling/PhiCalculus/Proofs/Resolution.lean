import PhiCalculus.Proofs.Histories
import PhiCalculus.Proofs.Identity
import PhiCalculus.Proofs.Scoping

/-!
# How names are resolved

A home is older than what was built in it, and its vertex is smaller.  So the homes around an object
form one finite chain (`State.Homes`), and the search for one that declares a name ends, with the
first of them that does (`State.Homes.enclosing?_eq`).  A name is the content of an own slot, or
else a view of the attribute of the first home that declares it, or else a copy of a global object,
or else an error; what an object decorates is not asked (`Program.names_resolve_as_specified`).
-/

set_option autoImplicit false

namespace PhiCalculus

open PhiCalculus.Action

/-! ## The homes around an object -/

/-- The homes around an object from the nearest one outwards, up to where there is none or where it
is gone. -/
inductive State.Homes (s : State) (held : List Ref) : Ref → List Ref → Prop where
  | ends {r : Ref} : s.home? (r :: held) r = none → Homes s held r []
  | outwards {r home : Ref} {chain : List Ref} : s.home? (r :: held) r = some home →
      Homes s held home chain → Homes s held r (home :: chain)

namespace State.Homes

variable {s : State} {held chain chain' : List Ref} {r : Ref} {name : String}

/-- There is one chain of homes around an object. -/
theorem unique (homes : s.Homes held r chain) (homes' : s.Homes held r chain') :
    chain' = chain := by
  induction homes generalizing chain' with
  | ends none =>
      cases homes' with
      | ends _ => rfl
      | outwards found _ => cases none.symm.trans found
  | outwards found _ ih =>
      cases homes' with
      | ends none => cases none.symm.trans found
      | outwards found' rest =>
          cases found.symm.trans found'
          rw [ih rest]

variable (older : ∀ r home, (s.heap.cell r).home? = some home → home.index < r.index)
include older

/-- There are finitely many homes around an object, since each is older than the one before. -/
theorem exist (held : List Ref) (r : Ref) :
    ∃ chain, s.Homes held r chain ∧ chain.length ≤ r.index := by
  induction at_ : r.index using Nat.strongRecOn generalizing r with
  | ind n ih =>
      subst at_
      cases found : s.home? (r :: held) r with
      | none => exact ⟨[], .ends found, Nat.zero_le _⟩
      | some home =>
          have before := older r home (State.home?_eq found)
          obtain ⟨chain, homes, short⟩ := ih home.index before home rfl
          exact ⟨home :: chain, .outwards found homes, Nat.succ_le_of_lt (by omega)⟩

/-- The search finds the first home that declares the name, whatever is left of its allowance. -/
theorem enclosing?_eq (homes : s.Homes held r chain) {fuel : Nat} (enough : r.index < fuel) :
    s.enclosing? held name fuel r = chain.find? fun x => (s.heap.slot? x name).isSome := by
  induction homes generalizing fuel with
  | ends none =>
      obtain ⟨fuel, rfl⟩ := Nat.exists_eq_add_one_of_ne_zero (Nat.ne_zero_of_lt enough)
      rw [State.enclosing?, none, List.find?_nil]
  | @outwards r home chain found _ ih =>
      obtain ⟨fuel, rfl⟩ := Nat.exists_eq_add_one_of_ne_zero (Nat.ne_zero_of_lt enough)
      have before := older r home (State.home?_eq found)
      have shorter : home.index < fuel := by omega
      rw [State.enclosing?, found, List.find?_cons, ← ih shorter]
      cases has : (s.heap.slot? home name).isSome <;> simp [has]

end State.Homes

/-! ## Vertices rise -/

/-- What is no value has a greater vertex than everything that is older. -/
structure State.Rising (s : State) : Prop extends State.Labelled s where
  rises : ∀ a r : Ref, a.index < r.index → r.index < s.heap.size →
    (s.heap.cell r).isData = false → (s.heap.vertex a).number < (s.heap.vertex r).number

namespace State.Rising

variable {s t : State}

/-- An object is added; what is no value gets a new vertex. -/
theorem add (n : s.Rising) {v : Vertex} {k : Kind} {g : Registry}
    (fresh : (⟨v, k⟩ : Cell).isData = false → v.number = s.registry.size + 1)
    (labelled : State.Labelled { s with heap := (s.heap.alloc ⟨v, k⟩).2, registry := g }) :
    State.Rising { s with heap := (s.heap.alloc ⟨v, k⟩).2, registry := g } := by
  refine ⟨labelled, fun a r younger there plain => ?_⟩
  have exist : a.index < s.heap.size :=
    Nat.lt_of_lt_of_le younger (Nat.le_of_lt_succ (there.trans_eq (s.heap.size_alloc _)))
  have same : (s.heap.alloc ⟨v, k⟩).2.cell a = s.heap.cell a := s.heap.cell_alloc_of_lt _ exist
  rcases s.heap.lt_size_alloc.mp there with old | rfl
  · have same' : (s.heap.alloc ⟨v, k⟩).2.cell r = s.heap.cell r := s.heap.cell_alloc_of_lt _ old
    simp only [Heap.vertex, same, same'] at plain ⊢
    exact n.rises a r younger old plain
  · have self : (s.heap.alloc ⟨v, k⟩).2.cell ⟨s.heap.size⟩ = ⟨v, k⟩ := s.heap.cell_alloc_self _
    simp only [Heap.vertex, same, self] at plain ⊢
    rw [fresh plain]
    exact Nat.lt_succ_of_le (n.used a exist)

/-- Vertices of objects do not change, and no object becomes a value. -/
theorem of_grown (n : s.Rising) (grown : s.heap.Grows t.heap) (size : t.heap.size = s.heap.size)
    (labelled : t.Labelled) : t.Rising := by
  refine ⟨labelled, fun a r younger there plain => ?_⟩
  rw [size] at there
  rw [grown.vertex there, grown.vertex (Nat.lt_trans younger there)]
  rw [(grown.cell r there).isData] at plain
  exact n.rises a r younger there plain

end State.Rising

/-- The registry may hand out vertices for nothing. -/
theorem State.Labelled.asks {s : State} (n : s.Labelled) (q : Registry.Query) :
    State.Labelled { s with registry := (s.registry.ask q).2 } := by
  rcases s.registry.ask_cases q with ⟨_, f, rejected⟩ | ⟨_, v, g, answered, hands⟩
  · rw [rejected]
    exact n
  · rw [answered]
    exact n.hands hands

/-- Whatever changes keeps vertices rising. -/
theorem State.Changes.rising ⦃s t : State⦄ (h : s.Changes t) (n : s.Rising) : t.Rising := by
  have labelled := h.labelled n.toLabelled
  have grown := h.grows
  cases h with
  | fills h =>
      cases h with
      | creates h =>
          cases h with
          | observed heap registry => exact n.of_grown grown (by rw [heap]) labelled
          | alloc k plain =>
              refine n.add (fun _ => ?_) labelled
              exact ((Registry.Hands.next (g := s.registry)).fresh_or n.registry).resolve_right nofun
          | data v => exact n.add nofun labelled
      | cache computed => exact n.of_grown grown (Heap.size_update _ _ _) labelled
      | result derived => exact n.of_grown grown (Heap.size_update _ _ _) labelled
  | write value => exact n.of_grown grown (Heap.size_update _ _ _) labelled
  | append items => exact n.of_grown grown (Heap.size_update _ _ _) labelled
  | own owner => exact n.of_grown grown (Heap.size_update _ _ _) labelled

/-! ## Runs of programs are histories -/

theorem Slots.refs_declareAll {slots : Slots} {decl : Declared} (none : slots.refs = [])
    (nothing : ∀ name e, (name, e) ∈ decl → e.refs = []) : (declareAll slots decl).refs = [] := by
  induction decl generalizing slots with
  | nil => exact none
  | cons a rest ih =>
      obtain ⟨name, e⟩ := a
      have first := nothing name e List.mem_cons_self
      have later (n : String) (e : SlotExpr) (there : (n, e) ∈ rest) : e.refs = [] :=
        nothing n e (List.mem_cons_of_mem _ there)
      have declared {slot : Slot} (empty : slot.refs = []) : (slots.declare name slot).refs = [] := by
        refine List.eq_nil_iff_forall_not_mem.mpr fun x there => ?_
        obtain ⟨n, s, there, refers⟩ := Slots.mem_refs.mp there
        rcases Slots.mem_declare there with there | ⟨-, rfl⟩
        · exact List.not_mem_nil (none ▸ Slots.mem_refs.mpr ⟨n, s, there, refers⟩)
        · exact List.not_mem_nil (empty ▸ refers)
      cases e with
      | free => exact ih (declared rfl) later
      | vararg => exact ih (declared rfl) later
      | bound e => exact ih none later
      | once e => exact ih (declared first) later
      | composite e => exact ih (declared first) later

namespace Moment

/-- A client can build a prototype that refers to nothing, and make it global. -/
theorem Reached.prototype {s : State} (reached : Reached ⟨s, []⟩) {form : String} {slots : Slots}
    (nothing : slots.refs = []) (name : String) :
    let made := s.alloc (.table { form := form, slots := slots })
    Reached ⟨made.2.define name made.1, []⟩ := by
  intro made
  have built : Performs ⟨s, []⟩ ⟨.operation (.build form none slots), 0, {}, s⟩ :=
    .mk (by simp [Operation.operands, nothing]) trivial
  have bound := (reached.tail (.performs built)).tail (.defines name List.mem_cons_self)
  exact bound.tail (.drops nofun)

/-- A client can dataize global objects one after the other. -/
theorem Reached.dataizing {s : State} (reached : Reached ⟨s, []⟩) (depth : Nat) (tracing : Bool)
    (names : List String) : Reached ⟨s.dataizing ⟨depth, tracing, []⟩ names, []⟩ := by
  induction names generalizing s with
  | nil => exact reached
  | cons name rest ih =>
      have performed : Performs ⟨s, []⟩
          ⟨.operation (.global name), stepLimit, ⟨depth, tracing, []⟩, s⟩ := .mk nofun trivial
      exact ih ((reached.tail (.performs performed)).tail (.drops nofun))

end Moment

/-- A client can load a checked program. -/
theorem Program.reached_base {p : Program} (checked : p.check = .ok ()) :
    Moment.Reached ⟨p.base, []⟩ := by
  have initial : Moment.Reached ⟨State.initial, []⟩ :=
    have nothing : attemptTable.slots.refs = [] := rfl
    Moment.Reached.prototype .refl nothing "try"
  have installed (objects : List Node) (among : ∀ n ∈ objects, n ∈ p.objects) {s : State}
      (reached : Moment.Reached ⟨s, []⟩) :
      Moment.Reached ⟨objects.foldl State.installNode s, []⟩ := by
    induction objects generalizing s with
    | nil => exact reached
    | cons n rest ih =>
        obtain ⟨name, line, params, attrs, rfl, written⟩ :=
          checked_objects checked n (among n List.mem_cons_self)
        refine ih (fun n later => among n (List.mem_cons_of_mem _ later)) ?_
        refine reached.prototype (Slots.refs_declareAll rfl fun n e there => ?_) name
        exact written.plain.refs (fun n o there => (written.computed n o there).refs) there
  exact installed p.objects (fun _ => id) initial

/-- The moments in runs of a program: a request begins to be answered, or has been. -/
inductive Program.Visits (p : Program) : Moment → Prop where
  | start {earlier : List String} {depth : Nat} {tracing : Bool} {root : String} {steps : Nat}
      {c : Call} : (p.runOf earlier ⟨depth, tracing, []⟩ root steps).Within c →
        Visits p (Instant.start c).moment
  | done {earlier : List String} {depth : Nat} {tracing : Bool} {root : String} {steps : Nat}
      {c : Call} : (p.runOf earlier ⟨depth, tracing, []⟩ root steps).Within c →
        Visits p (Instant.done c).moment

namespace Program.Visits

variable {p : Program} {m : Moment}

/-- Moments in runs are moments of histories. -/
theorem before (visits : p.Visits m) (checked : p.check = .ok ()) : Moment.first.Before m := by
  have run {earlier : List String} {depth : Nat} {tracing : Bool} {root : String} {steps : Nat}
      {c : Call} (within : (p.runOf earlier ⟨depth, tracing, []⟩ root steps).Within c) :
      Moment.first.Before (Instant.start c).moment ∧
        Moment.first.Before (Instant.done c).moment := by
    have reached := (p.reached_base checked).dataizing depth tracing earlier
    have performs : Moment.Performs ⟨p.base.dataizing ⟨depth, tracing, []⟩ earlier, []⟩
        (p.runOf earlier ⟨depth, tracing, []⟩ root steps) := .mk nofun trivial
    have start : Moment.first.Before (Instant.start c).moment := by
      induction within with
      | refl => exact reached.before
      | tail within asks ih => exact ih.tail (.within reached performs (.asks within asks))
    exact ⟨start, start.tail (.within reached performs (.ends within))⟩
  cases visits with
  | start within => exact (run within).1
  | done within => exact (run within).2

end Program.Visits

theorem Call.Asks.fits {p : Program} {c d : Call} (asks : c.Asks d) (fits : c.Fits p) :
    d.Fits p := by
  cases asks with
  | mk depends =>
      obtain ⟨state, activity⟩ := Call.Fits.of_dependsOn fits.state fits.activity depends
      exact ⟨state, activity⟩

/-- What a call of a run ends in is a state of the run. -/
theorem Call.Fits.outcome {p : Program} {c : Call} (fits : c.Fits p) :
    c.outcome.state.Fits p := by
  obtain ⟨a, steps, frame, s⟩ := c
  obtain ⟨state, about⟩ := fits
  have asked : (Likeness.same p frame.held).Asks (answerWithin steps) (answerWithin steps) :=
    Likeness.asks_same p frame.held steps
  have here := Likeness.at_same state frame
  cases a with
  | operation op =>
      cases op with
      | global name => exact state.globalValue asked name
      | _ => cases about
  | request q => exact (Likeness.asks_same p frame.held (steps + 1) q here about).fits
  | main r => exact (Likeness.alike_runMain asked here about).fits
  | handler r payload => exact (Likeness.alike_runCatch asked here about.1 about.2).fits
  | final r => exact (Likeness.alike_runFinally asked here about).fits

/-- Whatever is done in the midst of a run of a checked program is done as in a run. -/
theorem Program.fits_of_within {p : Program} (checked : p.check = .ok ()) {earlier : List String}
    {depth : Nat} {tracing : Bool} {root : String} {steps : Nat} {c : Call}
    (within : (p.runOf earlier ⟨depth, tracing, []⟩ root steps).Within c) : c.Fits p := by
  induction within with
  | refl => exact ⟨(p.fits_base checked).dataizing _ earlier, trivial⟩
  | tail _ asks ih => exact asks.fits ih

/-- The states at moments in runs of a checked program are states of runs. -/
theorem Program.Visits.fits {p : Program} {m : Moment} (visits : p.Visits m)
    (checked : p.check = .ok ()) : m.state.Fits p := by
  cases visits with
  | start within => exact (p.fits_of_within checked within).state
  | done within => exact (p.fits_of_within checked within).outcome

/-! ## Names -/

theorem Moment.Before.rising {m : Moment} (began : Moment.first.Before m) : m.state.Rising := by
  refine began.invariant (P := State.Rising) ?_ State.Changes.rising ?_ ?_
  · refine ⟨⟨⟨Registry.sound_empty, nofun, nofun, nofun⟩, ?_⟩, nofun⟩
    intro r v key kind
    cases Nat.not_lt_zero _ (Heap.lt_size_of_kind kind)
  · exact fun name r n => ⟨n.toLabelled.of_heap rfl rfl, n.rises⟩
  · exact fun q n => n.of_grown (Heap.Grows.refl _) rfl (n.toLabelled.asks q)

/-- What is kept in a slot is what is read. -/
theorem read_kept {s : State} {frame : Frame} {r x : Ref} {name : String} {slot : Slot}
    (found : s.heap.slot? r name = some slot)
    (content : slot = .free (some x) ∨ ∃ origin, slot = .once origin (some x)) (steps : Nat) :
    answerWithin (steps + 1) (.read (.slot r name)) frame s = .answer x s := by
  rcases content with rfl | ⟨origin, rfl⟩
  · exact read_bound found steps
  · have place : readPlace (answerWithin steps) (.slot r name) (frame.holding [r]) s =
        .answer x s := by
      rw [readPlace, bind_of_answer (asks_apply _ _ s), found]
      rfl
    exact place

/-- A name that the object itself declares is what is in its slot. -/
theorem lookUp_of_own {s : State} {self : Ref} {name : String} (own : (s.heap.slot? self name).isSome = true)
    (ask : Answerer) (frame : Frame) :
    lookUp ask self name frame s = ask (.read (.slot self name)) frame s := by
  rw [lookUp, bind_of_answer (frame_apply _ _), bind_of_answer (asks_apply _ _ _), if_pos own]

/-- **Names are resolved as specified.**  At any moment of any run of a checked program every home
is older than what was built in it and has a smaller vertex, so the homes around an object are
finitely many, and they form one chain.  A name in the scope of an object is what is in its own slot of that name.  If it
declares none, the name is a view of the attribute of the first home that does, whatever is declared
further out; if there is none, it is a copy of the global object of that name, and otherwise the
object has no such attribute.  Reserved names are declared nowhere. -/
theorem Program.names_resolve_as_specified {p : Program} (checked : p.check = .ok ()) {m : Moment}
    (visits : p.Visits m) :
    (∀ {r home : Ref}, (m.state.heap.cell r).home? = some home → home.index < r.index ∧
      (m.state.heap.vertex home).number < (m.state.heap.vertex r).number) ∧
    ∀ (scope : Ref) (name : String) (around : Frame), ∃ chain,
      m.state.Homes around.held scope chain ∧
      (∀ chain', m.state.Homes around.held scope chain' → chain' = chain) ∧
      chain.length ≤ scope.index ∧
      (∀ slot, m.state.heap.slot? scope name = some slot →
        (∀ ask : Answerer, lookUp ask scope name around m.state =
          ask (.read (.slot scope name)) around m.state) ∧
        ∀ x, slot = .free (some x) ∨ (∃ origin, slot = .once origin (some x)) → ∀ steps,
          lookUp (answerWithin (steps + 1)) scope name around m.state = .answer x m.state) ∧
      (m.state.heap.slot? scope name = none → ∀ ask : Answerer,
        (∀ inner outer rest, chain = inner ++ outer :: rest →
          (∀ x ∈ inner, m.state.heap.slot? x name = none) →
            (m.state.heap.slot? outer name).isSome = true →
              lookUp ask scope name around m.state = view (.method outer name) around m.state) ∧
        ((∀ x ∈ chain, m.state.heap.slot? x name = none) →
          (∀ g, m.state.global? name = some g →
            lookUp ask scope name around m.state = view (.copy g) around m.state) ∧
          (m.state.global? name = none → lookUp ask scope name around m.state =
            .failure (.noSuchAttribute name (m.state.heap.subject scope)) m.state))) ∧
      (name ∈ reserved → ∀ x ∈ scope :: chain, m.state.heap.slot? x name = none) := by
  have began := visits.before checked
  have older := began.intact.older
  refine ⟨fun {r home} homed => ?_, fun scope name around => ?_⟩
  · have exist : r.index < m.state.heap.size := by
      by_contra out
      rw [m.state.heap.cell_of_ge out] at homed
      cases homed
    have plain : (m.state.heap.cell r).isData = false := by
      cases kind : (m.state.heap.cell r).kind with
      | table t => simp [Cell.isData, Cell.value?, kind]
      | data v => simp [Cell.home?, kind] at homed
      | view v result => simp [Cell.home?, kind] at homed
    exact ⟨older r home homed, began.rising.rises home r (older r home homed) exist plain⟩
  · obtain ⟨chain, homes, short⟩ := State.Homes.exist older around.held scope
    have search : m.state.enclosing? around.held name (scope.index + 1) scope = _ :=
      homes.enclosing?_eq older (Nat.lt_succ_self _)
    refine ⟨chain, homes, fun _ => homes.unique, short, fun slot own => ⟨fun ask => ?_, fun x content steps => ?_⟩,
      fun none ask => ⟨fun inner outer rest split skipped declares => ?_, fun skipped => ?_⟩,
      fun isReserved x _ => ?_⟩
    · exact lookUp_of_own (by rw [own]; rfl) ask around
    · rw [lookUp_of_own (by rw [own]; rfl)]
      exact read_kept own content steps
    · have own : (m.state.heap.slot? scope name).isSome = false := by rw [none]; rfl
      refine lookUp_of_enclosing around own (search.trans ?_)
      rw [split, List.find?_append, List.find?_eq_none.mpr, Option.none_or, List.find?_cons, declares]
      intro x there
      rw [skipped x there]
      simp
    · have own : (m.state.heap.slot? scope name).isSome = false := by rw [none]; rfl
      have nothing := search.trans (List.find?_eq_none.mpr fun x there => by
        rw [skipped x there]
        simp)
      rw [lookUp_of_global around own nothing]
      refine ⟨fun g global => by rw [global], fun none => by rw [none]; rfl⟩
    · by_contra declared
      obtain ⟨slot, found⟩ := Option.ne_none_iff_exists'.mp declared
      exact (visits.fits checked).unreserved found isReserved

/-- While the object around it is in use, the name is a view of its attribute. -/
theorem Program.nested_name_is_resolved : ∃ m scope home name, Program.nested.Visits m ∧
    m.state.heap.slot? scope name = none ∧ (m.state.heap.cell scope).home? = some home ∧
      (m.state.heap.vertex home).number < (m.state.heap.vertex scope).number ∧
        ∀ ask around, (m.state.home? (scope :: around.held) scope).isSome = true →
          lookUp ask scope name around m.state = view (.method home name) around m.state := by
  have short : ¬ (Program.nested.runOf [] {} "app" stepLimit).Unmarked (marksHome false) :=
    fun same => absurd (congrArg Outcome.isUnfinished same) (by decide +kernel)
  obtain ⟨α, q, steps, frame, s, within, mark⟩ := (Call.unmarked_or_within _).resolve_left short
  obtain ⟨name, scope, home, own, homed, declares⟩ : ∃ name scope home,
      s.heap.slot? scope name = none ∧ (s.heap.cell scope).home? = some home ∧
        (s.heap.slot? home name).isSome = true := by
    cases q with
    | eval e self =>
        cases e with
        | name n =>
            simp only [marksHome, Bool.and_eq_true, Option.any_eq_true] at mark
            obtain ⟨⟨own, home, homed, declares⟩, -⟩ := mark
            exact ⟨n, self, home, Option.isNone_iff_eq_none.mp own, homed, declares⟩
        | _ => cases mark
    | _ => cases mark
  have visits : Program.nested.Visits (Instant.start ⟨.request q, steps, frame, s⟩).moment :=
    .start within
  obtain ⟨older, resolves⟩ := Program.names_resolve_as_specified (by decide) visits
  refine ⟨_, scope, home, name, visits, own, homed, (older homed).2, fun ask around present => ?_⟩
  obtain ⟨chain, homes, -, -, -, outwards, -⟩ := resolves scope name around
  cases homes with
  | ends gone =>
      rw [gone] at present
      cases present
  | @outwards _ home' chain found _ =>
      cases (State.home?_eq found).symm.trans homed
      exact (outwards own ask).1 [] home chain rfl (List.forall_mem_nil _) declares

end PhiCalculus
