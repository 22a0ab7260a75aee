import PhiCalculus.Proofs.AlikeObjects

/-!
# Lookups that are alike

Names are found, slots are read and names in scope are resolved alike on objects that are alike.
Homes get older from one to the next, so the search for the object around another that declares a
name comes to the same end in both runs, although the places of the objects differ
(`Likeness.At.enclosing?`).

What a slot computes belongs to the role of its object, so that it can be evaluated in a run; and
what a name of an enclosing object stands for is a view of an object that still exists.
-/

set_option autoImplicit false

namespace PhiCalculus

open PhiCalculus.Action

namespace Likeness

variable {p : Program} {L : Likeness p} {r o : Ref} {frame frame' : Frame} {s s' t t' : State}

/-! ## Homes -/

/-- Homes correspond, and are gone in both runs or in none. -/
theorem At.home? (here : L.At frame frame' s s') (exist : r.index < s.heap.size) :
    s'.home? frame'.held (L.place r) = (s.home? frame.held r).map L.place := by
  rw [State.home?, State.home?, Cell.home?_of_rename (here.kind exist)]
  cases homed : (s.heap.cell r).home? with
  | none => rfl
  | some home =>
      have ordinary := here.fits.ordinary_of_home homed
      obtain ⟨refs, exist, held, held'⟩ := here.held
      simp only [Option.map_some]
      rw [Cell.isData_of_rename (here.kind ordinary.exist), held, held',
        L.isAlive here.alike here.fits exist ordinary]
      split <;> rfl

/-- **The same object around another declares a name in both runs.**  The steps of the search are
bounded by the place of the object, as homes are older. -/
theorem At.enclosing? (here : L.At frame frame' s s') (name : String) {scopes : List Declared}
    (plays : s.heap.Plays p (.abstraction scopes) r) (exist : r.index < s.heap.size)
    {fuel fuel' : Nat} (enough : r.index < fuel) (enough' : r.index < fuel') :
    s'.enclosing? frame'.held name fuel' (L.place r) =
      (s.enclosing? frame.held name fuel r).map L.place := by
  generalize role : Role.abstraction scopes = abstraction at plays
  induction plays generalizing scopes fuel fuel' with
  | @top decl r made _ =>
      obtain ⟨fuel, rfl⟩ : ∃ n, fuel = n + 1 := ⟨fuel - 1, by omega⟩
      obtain ⟨fuel', rfl⟩ : ∃ n, fuel' = n + 1 := ⟨fuel' - 1, by omega⟩
      obtain ⟨t, kind, homeless, -⟩ := made
      have around : s'.home? (L.place r :: frame'.held) (L.place r) =
          (s.home? (r :: frame.held) r).map L.place := (here.holding (exist_one exist)).home? exist
      have alone : s.home? (r :: frame.held) r = none := by
        simp only [State.home?, Cell.home?, kind, homeless]
      rw [State.enclosing?, State.enclosing?, around, alone]
      rfl
  | @inner decl outer home r made _ ordinary older _ ih =>
      obtain ⟨fuel, rfl⟩ : ∃ n, fuel = n + 1 := ⟨fuel - 1, by omega⟩
      obtain ⟨fuel', rfl⟩ : ∃ n, fuel' = n + 1 := ⟨fuel' - 1, by omega⟩
      obtain ⟨t, kind, homed, -⟩ := made
      have around : s'.home? (L.place r :: frame'.held) (L.place r) =
          (s.home? (r :: frame.held) r).map L.place := (here.holding (exist_one exist)).home? exist
      rw [State.enclosing?, State.enclosing?, around]
      cases found : s.home? (r :: frame.held) r with
      | none => rfl
      | some x =>
          have same : x = home := by
            have found := State.home?_eq found
            rw [Cell.home?, kind] at found
            exact Option.some.inj (found.symm.trans homed)
          subst same
          simp only [Option.map_some, here.slot? ordinary.exist, Option.isSome_map]
          split
          · rfl
          · exact ih ordinary.exist (by omega) (by omega) rfl
  | attempt => cases role
  | signal => cases role
  | method => cases role

/-! ## Attributes of values -/

/-- On a value that is no array, or under a name that is no index, a method is found. -/
theorem findOnValue_method {v : Value} {name : String}
    (plain : (name == delta || name == xi) = false)
    (other : ∀ items i, v = .array items → indexOf? name ≠ some i) :
    findOnValue r v name =
      match Method.ofName? v.tag name with
      | some m => do
        let o ← Action.alloc (.table (methodTable r v.tag name m))
        pure (.fixed r name o)
      | none => noSuchAttribute name r := by
  unfold findOnValue
  rw [if_neg (by simp [plain])]
  cases v with
  | array items =>
      cases index : indexOf? name with
      | none => rfl
      | some i => exact absurd index (other items i rfl)
  | _ => rfl

theorem findOnValue_element {items : List Ref} {name : String} {i : Nat}
    (plain : (name == delta || name == xi) = false) (index : indexOf? name = some i) :
    findOnValue r (.array items) name =
      match items[i]? with
      | some item => pure (.fixed r (toString i) item)
      | none => noSuchAttribute name r := by
  unfold findOnValue
  refine (if_neg (by simp [plain])).trans ?_
  generalize indexOf? name = found at index ⊢
  subst index
  dsimp only
  rw [getElem?_unpack]
  cases items[i]? <;> rfl

theorem rename_methodTable (σ : Ref → Ref) (receiver : Ref) (tag : TypeTag) (name : String)
    (m : Method) : (methodTable receiver tag name m).rename σ =
      methodTable (σ receiver) tag name m := by
  simp [methodTable, Table.rename, Slots.rename, Slot.rename, Function.comp_def]

section

variable (here : L.At frame frame' s s')
include here

/-- A new method of a value. -/
theorem fits_methodTable {v : Value} (kind : (s.heap.cell r).kind = .data v) {name : String}
    {m : Method} (named : Method.ofName? v.tag name = some m) :
    (s.alloc (.table (methodTable r v.tag name m))).2.Fits p := by
  have exist : r.index < s.heap.size :=
    Heap.lt_size_of_isData (by simp [Cell.isData, Cell.value?, kind])
  have ordinary := here.fits.ordinary exist fun t isTable => by cases kind.symm.trans isTable
  have grown := s.grows_alloc (.table (methodTable r v.tag name m))
  refine here.fits.allocTable (.method m) ?_ rfl ?_
  · exact .method ⟨_, s.kind_alloc _, rfl, Role.declared_method r v.tag name m⟩
      (ordinary.grows grown) (Heap.kind_data_of_grows kind exist grown) named
  · intro n slot there x shown
    rcases List.mem_append.mp there with there | there
    · obtain ⟨param, -, same⟩ := List.mem_map.mp there
      cases same
      cases shown
    · cases List.mem_singleton.mp there
      cases shown

theorem alike_findOnValue {v : Value} (kind : (s.heap.cell r).kind = .data v) (name : String) :
    L.Ends (fun place place' t _ => place' = place.rename L.place ∧ place.Fits p t.heap) s s'
      (findOnValue r v name frame s)
      (findOnValue (L.place r) (v.rename L.place) name frame' s') := by
  have exist : r.index < s.heap.size :=
    Heap.lt_size_of_isData (by simp [Cell.isData, Cell.value?, kind])
  have ordinary := here.fits.ordinary exist fun t isTable => by cases kind.symm.trans isTable
  cases plain : (name == delta || name == xi) with
  | true =>
      unfold findOnValue
      rw [if_pos plain, if_pos plain]
      exact here.answer ⟨rfl, ordinary, ordinary⟩
  | false =>
      by_cases element : ∃ items i, v = .array items ∧ indexOf? name = some i
      · obtain ⟨items, i, rfl, index⟩ := element
        rw [Value.rename, findOnValue_element plain index, findOnValue_element plain index,
          List.getElem?_map]
        cases found : items[i]? with
        | none => exact here.failure (.noSuchAttribute (here.subject exist))
        | some item =>
            refine here.answer ⟨rfl, ordinary, ?_⟩
            exact here.fits.ordinary_of_items kind (List.mem_of_getElem? found)
      · have other (items : List Ref) (i : Nat) (array : v = .array items) :
            indexOf? name ≠ some i := fun index => element ⟨items, i, array, index⟩
        have other' (items : List Ref) (i : Nat) (array : v.rename L.place = .array items) :
            indexOf? name ≠ some i := by
          cases v with
          | array items' => exact other items' i rfl
          | _ => cases array
        rw [findOnValue_method plain other, findOnValue_method plain other', Value.tag_rename]
        cases named : Method.ofName? v.tag name with
        | none => exact here.failure (.noSuchAttribute (here.subject exist))
        | some m =>
            refine here.bind (alike_alloc here ?_ (fits_methodTable here kind named)) ?_
            · rw [Kind.rename, rename_methodTable]
            · intro o o' t t' here next new
              exact here.answer ⟨by rw [Place.rename, new.same.1],
                ordinary.grows next.grows, new.same.2⟩

theorem alike_findHome (ordinary : s.heap.Ordinary p r) {table : Table}
    (kind : (s.heap.cell r).kind = .table table) :
    L.Ends (fun place place' t _ => place' = place.rename L.place ∧ place.Fits p t.heap ∧
        ∃ home, table.home = some home ∧ place = .fixed r sigma home) s s'
      (findHome r frame s) (findHome (L.place r) frame' s') := by
  refine .reads (frame_apply _ _) (frame_apply _ _) ?_
  refine .reads (cell_apply _ _ _) (cell_apply _ _ _) ?_
  have homed : (s.heap.cell r).home? = table.home := by rw [Cell.home?, kind]
  rw [Cell.home?_of_rename (here.kind ordinary.exist), homed]
  cases has : table.home with
  | none => exact here.failure (.noSuchAttribute (here.subject ordinary.exist))
  | some home =>
      refine .reads (asks_apply _ _ _) (asks_apply _ _ _) ?_
      rw [here.home? ordinary.exist]
      cases found : s.home? frame.held r with
      | none => exact here.failure (.homeGone (here.subject ordinary.exist))
      | some x =>
          have same := State.home?_eq found
          refine here.answer ⟨rfl, ⟨ordinary, here.fits.ordinary_of_home same⟩, x, ?_, rfl⟩
          rw [← homed, same] at has
          exact has.symm

theorem alike_keep {name : String} {computed : Ref} (ordinary : s.heap.Ordinary p r)
    (kept : s.heap.Ordinary p computed) :
    L.Ends (fun o o' t _ => L.Same o o' t) s s' (keep r name computed frame s)
      (keep (L.place r) name (L.place computed) frame' s') := by
  refine .reads (asks_apply _ _ _) (asks_apply _ _ _) ?_
  have found' := here.slot? ordinary.exist name
  rw [found']
  cases found : s.heap.slot? r name with
  | none => exact here.answer ⟨rfl, kept⟩
  | some slot =>
      rw [found] at found'
      rcases slot with _ | ⟨origin, _ | cached⟩ | _ | _
      · exact here.answer ⟨rfl, kept⟩
      · -- nothing has been kept so far
        have grown : (Slot.once origin none).Grows (.once origin (some computed)) :=
          .once (Stays.of_none _)
        have grows := s.heap.grows_setSlot found grown
        have fits := here.fits.setSlot ordinary found grown (by simpa [Slot.shown] using kept)
        exact .answer ⟨L.setSlot name (.once origin (some computed)) here.alike ordinary, fits,
          grows, s'.heap.grows_setSlot found' (.once (Stays.of_none _))⟩ ⟨rfl, kept.grows grows⟩
      · exact here.answer ⟨rfl, here.fits.ordinary_of_slot found (by simp [Slot.shown])⟩
      · exact here.answer ⟨rfl, kept⟩
      · exact here.answer ⟨rfl, kept⟩

end

/-! ## Requests -/

section

variable {ask ask' : Answerer} (asked : L.Asks ask ask') (here : L.At frame frame' s s')
include asked here

theorem alike_findPlace (ordinary : s.heap.Ordinary p r) (name : String) :
    L.Ends (L.Answered (.find r name)) s s' (findPlace ask r name frame s)
      (findPlace ask' (L.place r) name frame' s') := by
  have exist := ordinary.exist
  refine .reads (cell_apply _ _ _) (cell_apply _ _ _) ?_
  rw [here.kind exist]
  cases kind : (s.heap.cell r).kind with
  | view v result =>
      have view {t t' : State} (next : L.Then s s' t t') {table : Table}
          (isTable : (t.heap.cell r).kind = .table table) : False := by
        have same := (next.grows.cell r exist).isView
        rw [Cell.isView, Cell.isView, kind, isTable] at same
        cases same
      have found : L.Ends (fun place place' t _ =>
          place' = place.rename L.place ∧ place.Fits p t.heap) s s'
          ((ask (.resolve r) >>= fun o => ask (.find o name)) frame s)
          ((ask' (.resolve (L.place r)) >>= fun o => ask' (.find o name)) frame' s') := by
        refine here.bind (asked (.resolve r) here ordinary) ?_
        rintro o _ t t' here - ⟨⟨rfl, ordinary⟩, -⟩
        exact (asked (.find o name) here ordinary).weaken fun _ found => ⟨found.1, found.2.1⟩
      exact found.weaken fun next found =>
        ⟨found.1, found.2, fun _ _ isTable => (view next isTable).elim⟩
  | data v =>
      refine (alike_findOnValue here kind name).weaken fun next found => ⟨found.1, found.2, ?_⟩
      intro _ table isTable
      cases (Heap.kind_data_of_grows kind exist next.grows).symm.trans isTable
  | table table =>
      simp only [Kind.rename, Table.rename, Slots.find?_rename, Option.isSome_map]
      split
      · next owner =>
        refine here.answer ⟨rfl, ordinary, fun home => ?_⟩
        rw [home] at owner
        cases owner
      · split
        · next self =>
          refine here.answer ⟨rfl, ⟨ordinary, ordinary⟩, fun home => ?_⟩
          rw [home] at self
          cases self
        · split
          · next home =>
            cases beq_iff_eq.mp home
            refine (alike_findHome here ordinary kind).weaken fun next found => ?_
            obtain ⟨same, fits, at', homed, rfl⟩ := found
            refine ⟨same, fits, fun _ table' kind' => ⟨at', ?_, rfl⟩⟩
            have kept := (next.grows.cell r exist).home?
            rw [Cell.home?, Cell.home?, kind, kind'] at kept
            exact kept.trans homed
          · next other =>
            have plain : name ≠ sigma := fun home => other (beq_iff_eq.mpr home)
            split
            · exact here.answer ⟨rfl, ordinary, fun home => absurd home plain⟩
            · split
              · refine here.bind (asked (.read (.slot r phi)) here ordinary) ?_
                rintro o _ t t' here - ⟨⟨rfl, ordinary⟩, -⟩
                refine (asked (.find o name) here ordinary).weaken fun _ found => ?_
                exact ⟨found.1, found.2.1, fun home => absurd home plain⟩
              · exact here.failure (.noSuchAttribute (here.subject exist))

theorem alike_readPlace {place : Place} (fits : place.Fits p s.heap) :
    L.Ends (L.Answered (.read place)) s s' (readPlace ask place frame s)
      (readPlace ask' (place.rename L.place) frame' s') := by
  cases place with
  | fixed r name content =>
      refine here.answer ⟨⟨rfl, fits.2⟩, fun r name content same => ?_⟩
      cases same
      rfl
  | owner r =>
      have ordinary : s.heap.Ordinary p r := fits
      refine .reads (cell_apply _ _ _) (cell_apply _ _ _) ?_
      rw [Cell.owner?_of_rename (here.kind ordinary.exist)]
      cases owned : (s.heap.cell r).owner? with
      | none => exact here.failure (.notYetBound (here.subject ordinary.exist))
      | some owner => exact here.answer ⟨⟨rfl, here.fits.ordinary_of_owner owned⟩, by simp⟩
  | slot r name =>
      have ordinary : s.heap.Ordinary p r := fits
      suffices read : L.Ends (fun o o' t _ => L.Same o o' t) s s'
          (readPlace ask (.slot r name) frame s)
          (readPlace ask' (.slot (L.place r) name) frame' s') from
        read.weaken fun _ same => ⟨same, by simp⟩
      refine .reads (asks_apply _ _ _) (asks_apply _ _ _) ?_
      rw [here.slot? ordinary.exist]
      cases found : s.heap.slot? r name with
      | none => exact here.failure (.notYetBound (here.subject ordinary.exist))
      | some slot =>
          rcases slot with (_ | content) | ⟨origin, _ | kept⟩ | items | origin
          · exact here.failure (.notYetBound (here.subject ordinary.exist))
          · exact here.answer ⟨rfl, here.fits.ordinary_of_slot found (by simp [Slot.shown])⟩
          · have computes := here.fits.computes found (.inl ⟨_, rfl⟩)
            refine here.bind (asked (.eval origin r) here ⟨ordinary, computes⟩) ?_
            rintro o _ t t' here next ⟨⟨rfl, computed⟩, -⟩
            exact alike_keep here (ordinary.grows next.grows) computed
          · exact here.answer ⟨rfl, here.fits.ordinary_of_slot found (by simp [Slot.shown])⟩
          · exact alike_data here ⟨rfl, fun x there => here.fits.ordinary_of_slot found there⟩
          · have computes := here.fits.computes found (.inr rfl)
            exact (asked (.eval origin r) here ⟨ordinary, computes⟩).weaken fun _ same => same.1

theorem alike_lookUp (ordinary : s.heap.Ordinary p r) {scopes : List Declared}
    (plays : s.heap.Plays p (.abstraction scopes) r) (name : String) :
    L.Ends (fun o o' t _ => L.Same o o' t) s s' (lookUp ask r name frame s)
      (lookUp ask' (L.place r) name frame' s') := by
  refine .reads (frame_apply _ _) (frame_apply _ _) ?_
  refine .reads (asks_apply _ _ _) (asks_apply _ _ _) ?_
  rw [here.slot? ordinary.exist, Option.isSome_map]
  split
  · exact (asked (.read (.slot r name)) here ordinary).weaken fun _ same => same.1
  · refine .reads (asks_apply _ _ _) (asks_apply _ _ _) ?_
    have further := L.later r ordinary.late
    rw [here.enclosing? name plays ordinary.exist (Nat.lt_succ_self _) (by omega)]
    cases around : s.enclosing? frame.held name (r.index + 1) r with
    | some outer =>
        have found := here.fits.ordinary_of_enclosing around
        exact alike_view here rfl fun x there => List.mem_singleton.mp there ▸ found
    | none =>
        refine .reads (asks_apply _ _ _) (asks_apply _ _ _) ?_
        rw [L.global? name here.alike]
        cases global : s.global? name with
        | some g => exact alike_view here rfl (here.fits.exist_of_global global)
        | none => exact here.failure (.noSuchAttribute (here.subject ordinary.exist))

end

/-! ## Views -/

section

variable {ask ask' : Answerer} (asked : L.Asks ask ask') (here : L.At frame frame' s s')
include asked here

/-- An argument is written into a copy. -/
theorem alike_writeTo {c value : Ref} (new : s.heap.Ordinary p c)
    (concrete : (s.heap.cell c).isView = false) (written : s.heap.Ordinary p value) (key : Key) :
    L.Ends (fun c c' t _ => L.Same c c' t ∧ (t.heap.cell c).isView = false) s s'
      ((placeOf ask c key >>= fun place => write ask place value >>= fun _ => pure c) frame s)
      ((placeOf ask' (L.place c) key >>= fun place =>
        write ask' place (L.place value) >>= fun _ => pure (L.place c)) frame' s') := by
  refine here.bind (alike_placeOf asked here new key) ?_
  intro place place' t t' here next declares
  refine here.bind (alike_write asked here declares (written.grows next.grows)) ?_
  intro _ _ u u' here next' _
  have next := next.trans next'
  exact here.answer ⟨⟨rfl, new.grows next.grows⟩,
    (next.grows.cell c new.exist).isView.trans concrete⟩

theorem alike_bindTo {base value : Ref} (ordinary : s.heap.Ordinary p base)
    (written : s.heap.Ordinary p value) (key : Key) :
    L.Ends (fun c c' t _ => L.Same c c' t ∧ (t.heap.cell c).isView = false) s s'
      (bindTo ask base key value frame s)
      (bindTo ask' (L.place base) key (L.place value) frame' s') := by
  refine here.bind (alike_settle asked here ordinary.exist) ?_
  rintro o _ t₁ t₁' here next₁ ⟨⟨rfl, exist, concrete⟩, -⟩
  have here := here.holding (exist_one exist)
  refine here.bind (alike_copyOf asked here exist) ?_
  rintro c _ t₂ t₂' here next₂ ⟨⟨rfl, new⟩, concrete', free⟩
  have here := here.holding (exist_one new.exist)
  have written := written.grows (next₁.trans next₂).grows
  -- the object that is copied is no view, so its owner is read off at once
  have concrete := ((next₂.grows.cell o exist).isView).trans concrete
  have exist := Nat.lt_of_lt_of_le exist next₂.grows.size
  refine .reads (ownerOf_of_concrete concrete)
    (ownerOf_of_concrete ((Cell.isView_of_rename (here.kind exist)).trans concrete)) ?_
  rw [Cell.owner?_of_rename (here.kind exist)]
  cases owned : (t₂.heap.cell o).owner? with
  | none => exact alike_writeTo asked here new concrete' written key
  | some owner =>
      have owns := here.fits.ordinary_of_owner owned
      refine here.bind (alike_moveTo here new concrete' free owns) ?_
      intro _ _ t₃ t₃' here next₃ _
      exact alike_writeTo asked here (new.grows next₃.grows)
        ((next₃.grows.cell c new.exist).isView.trans concrete') (written.grows next₃.grows) key

theorem alike_methodOf {base : Ref} (ordinary : s.heap.Ordinary p base) (name : String) :
    L.Ends (fun c c' t _ => L.Same c c' t ∧ (t.heap.cell c).isView = false) s s'
      (methodOf ask base name frame s) (methodOf ask' (L.place base) name frame' s') := by
  refine here.bind (alike_settle asked here ordinary.exist) ?_
  rintro o _ t₁ t₁' here next₁ ⟨⟨rfl, exist, -⟩, still⟩
  have owns := still ordinary
  have here := here.holding (exist_one exist)
  refine here.bind (asked (.find o name) here owns) ?_
  rintro place _ t₂ t₂' here next₂ ⟨rfl, fits, -⟩
  refine here.bind (asked (.read place) here fits) ?_
  rintro found _ t₃ t₃' here next₃ ⟨⟨rfl, found_ordinary⟩, -⟩
  refine .reads (cell_apply _ _ _) (cell_apply _ _ _) ?_
  rw [Cell.isData_of_rename (here.kind found_ordinary.exist)]
  split
  · next isData =>
    refine here.answer ⟨⟨rfl, found_ordinary⟩, ?_⟩
    rw [Cell.isData, Cell.value?] at isData
    rw [Cell.isView]
    cases kind : (t₃.heap.cell found).kind <;> simp_all
  · have here := here.holding (exist_one found_ordinary.exist)
    refine here.bind (alike_copyOf asked here found_ordinary.exist) ?_
    rintro c _ t₄ t₄' here next₄ ⟨⟨rfl, new⟩, concrete, free⟩
    have owns := owns.grows ((next₂.trans next₃).trans next₄).grows
    refine here.bind (alike_moveTo here new concrete free owns) ?_
    intro _ _ t₅ t₅' here next₅ _
    exact here.answer ⟨⟨rfl, new.grows next₅.grows⟩,
      (next₅.grows.cell c new.exist).isView.trans concrete⟩

theorem alike_derivedBy {v : View} (fits : v.Fits p s.heap) :
    L.Ends (fun c c' t _ => L.Same c c' t ∧ (t.heap.cell c).isView = false) s s'
      (derivedBy ask v frame s) (derivedBy ask' (v.rename L.place) frame' s') := by
  cases v with
  | bind base key value =>
      exact alike_bindTo asked here (fits base (by simp [View.refs]))
        (fits value (by simp [View.refs])) key
  | method base name => exact alike_methodOf asked here (fits base (by simp [View.refs])) name
  | copy base =>
      exact (alike_copyOf asked here fits).weaken fun _ copied => ⟨copied.same, copied.concrete⟩
  | unvar base =>
      have ordinary := fits base (by simp [View.refs])
      exact (alike_settle asked here ordinary.exist).weaken fun _ settled =>
        ⟨⟨settled.1.same, settled.2 ordinary⟩, settled.1.concrete⟩

omit asked in
theorem alike_keepResult {derived : Ref} (ordinary : s.heap.Ordinary p r)
    (isView : (s.heap.cell r).isView = true) (kept : s.heap.Ordinary p derived)
    (concrete : (s.heap.cell derived).isView = false) :
    L.Ends (fun o o' t _ => L.Same o o' t) s s' (keepResult r derived frame s)
      (keepResult (L.place r) (L.place derived) frame' s') := by
  have kind' := here.kind ordinary.exist
  refine .reads (cell_apply _ _ _) (cell_apply _ _ _) ?_
  rw [kind']
  cases kind : (s.heap.cell r).kind with
  | table t => simp [Cell.isView, kind] at isView
  | data v => simp [Cell.isView, kind] at isView
  | view v result =>
      cases result with
      | some x => exact here.answer ⟨rfl, ((here.fits.view kind).2 x rfl).1⟩
      | none =>
          have grows : s.heap.Grows (s.heap.setResult r derived) :=
            s.heap.grows_setResult (by simp [kind])
          refine .answer ⟨L.setResult derived here.alike ordinary,
            here.fits.setResult ordinary kind kept concrete, grows,
            s'.heap.grows_setResult ?_⟩ ⟨rfl, kept.grows grows⟩
          simp [kind', kind, Kind.rename]

theorem alike_resolveView (ordinary : s.heap.Ordinary p r) :
    L.Ends (L.Answered (.resolve r)) s s' (resolveView ask r frame s)
      (resolveView ask' (L.place r) frame' s') := by
  refine .reads (cell_apply _ _ _) (cell_apply _ _ _) ?_
  rw [here.kind ordinary.exist]
  cases kind : (s.heap.cell r).kind with
  | table t => exact here.answer ⟨⟨rfl, ordinary⟩, by rw [Cell.isView, kind]⟩
  | data v => exact here.answer ⟨⟨rfl, ordinary⟩, by rw [Cell.isView, kind]⟩
  | view v result =>
      have look {x : Ref} {t t' : State} (here : L.At frame frame' t t')
          (kept : t.heap.Ordinary p x) : L.Ends (L.Answered (.resolve r)) t t'
            (settle ask x frame t) (settle ask' (L.place x) frame' t') :=
        (alike_settle asked here kept.exist).weaken fun _ settled =>
          ⟨⟨settled.1.same, settled.2 kept⟩, settled.1.concrete⟩
      cases result with
      | some x => exact look here ((here.fits.view kind).2 x rfl).1
      | none =>
          refine here.bind (alike_derivedBy asked here (here.fits.view kind).1) ?_
          rintro derived _ t₁ t₁' here next₁ ⟨⟨rfl, new⟩, concrete⟩
          have isView : (t₁.heap.cell r).isView = true := by
            rw [(next₁.grows.cell r ordinary.exist).isView, Cell.isView, kind]
          have still := ordinary.grows next₁.grows
          refine here.bind (alike_keepResult here still isView new concrete) ?_
          rintro kept _ t₂ t₂' here - ⟨rfl, ordinary⟩
          exact look here ordinary

end

end Likeness

end PhiCalculus
