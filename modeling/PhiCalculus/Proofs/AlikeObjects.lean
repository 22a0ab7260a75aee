import PhiCalculus.Proofs.Likeness

/-!
# Operations on objects that are alike

Requests correspond if they are about objects that correspond (`Request.rename`).  Where requests
that correspond are answered alike (`Likeness.Asks`), operations on objects that correspond end
alike: looking through views, copying, owning, looking places up, reading and writing them.

Each of these facts also says what the operation gives in a run: an ordinary object that is no view
for a copy, a slot that the object declares for a place to be written.  A request is made in a run
only for ordinary objects, and an expression is evaluated only for an object whose role it belongs
to (`Request.Fits`).
-/

set_option autoImplicit false

namespace PhiCalculus

open PhiCalculus.Action

/-! ## Requests -/

/-- The objects of the place are ordinary. -/
def Place.Fits (p : Program) (h : Heap) : Place → Prop
  | .slot r _ => h.Ordinary p r
  | .owner r => h.Ordinary p r
  | .fixed r _ content => h.Ordinary p r ∧ h.Ordinary p content

theorem Place.Fits.grows {p : Program} {h h' : Heap} {place : Place} (fits : place.Fits p h)
    (grown : h.Grows h') : place.Fits p h' := by
  cases place with
  | slot r name => exact Heap.Ordinary.grows fits grown
  | owner r => exact Heap.Ordinary.grows fits grown
  | fixed r name content => exact ⟨fits.1.grows grown, fits.2.grows grown⟩

theorem Place.Fits.refs {p : Program} {h : Heap} {place : Place} (fits : place.Fits p h) :
    ∀ r ∈ place.refs, r.index < h.size := by
  cases place with
  | slot r name => simpa [Place.refs] using Heap.Ordinary.exist fits
  | owner r => simpa [Place.refs] using Heap.Ordinary.exist fits
  | fixed r name content => simpa [Place.refs] using ⟨fits.1.exist, fits.2.exist⟩

namespace Request

variable {α : Type}

/-- The request about the objects that correspond. -/
def rename (σ : Ref → Ref) : Request α → Request α
  | find r name => find (σ r) name
  | read place => read (place.rename σ)
  | resolve r => resolve (σ r)
  | dataize r => dataize (σ r)
  | eval e self => eval e (σ self)

/-- The request is one that can be made in a run of the program. -/
def Fits (p : Program) (h : Heap) : Request α → Prop
  | find r _ => h.Ordinary p r
  | read place => place.Fits p h
  | resolve r => h.Ordinary p r
  | dataize r => h.Ordinary p r
  | eval e self => h.Ordinary p self ∧ ∃ role, h.Plays p role self ∧ role.Computes e

theorem rename_id (q : Request α) : q.rename id = q := by
  cases q with
  | read place => rw [rename, Place.rename_id]
  | _ => rfl

theorem refs_rename (σ : Ref → Ref) (q : Request α) : (q.rename σ).refs = q.refs.map σ := by
  cases q with
  | read place => exact place.refs_rename
  | _ => rfl

theorem Fits.grows {p : Program} {h h' : Heap} {q : Request α} (fits : q.Fits p h)
    (grown : h.Grows h') : q.Fits p h' := by
  cases q with
  | read place => exact Place.Fits.grows fits grown
  | eval e self =>
      obtain ⟨ordinary, role, plays, computes⟩ := fits
      exact ⟨ordinary.grows grown, role, plays.grows ordinary.exist grown, computes⟩
  | _ => exact Heap.Ordinary.grows fits grown

theorem Fits.refs {p : Program} {h : Heap} {q : Request α} (fits : q.Fits p h) :
    ∀ r ∈ q.refs, r.index < h.size := by
  cases q with
  | read place => exact Place.Fits.refs fits
  | eval e self => simpa [Request.refs] using fits.1.exist
  | _ => simpa [Request.refs] using Heap.Ordinary.exist fits

end Request

namespace Likeness

variable {p : Program} (L : Likeness p)

/-- An ordinary object, and the one that corresponds to it. -/
def Same (r r' : Ref) (t : State) : Prop := r' = L.place r ∧ t.heap.Ordinary p r

/-- Ordinary objects, and those that correspond to them. -/
def AllSame (refs refs' : List Ref) (t : State) : Prop :=
  refs' = refs.map L.place ∧ ∀ r ∈ refs, t.heap.Ordinary p r

/-- A value, and the one that corresponds to it. -/
def SameValue (v v' : Value) (t : State) : Prop :=
  v' = v.rename L.place ∧ ∀ r ∈ v.items, t.heap.Ordinary p r

/-- An object that is no view, and the one that corresponds to it. -/
structure Settled (o o' : Ref) (t : State) : Prop where
  same : o' = L.place o
  exist : o.index < t.heap.size
  concrete : (t.heap.cell o).isView = false

/-- A new object of that kind, and the one that corresponds to it, in the state where it was
made. -/
structure New (s : State) (k : Kind) (r r' : Ref) (t : State) : Prop where
  same : L.Same r r' t
  last : r = ⟨s.heap.size⟩
  state : t = (s.alloc k).2

/-- An ordinary object without an owner that is no view, as copies are. -/
structure Copied (c c' : Ref) (t : State) : Prop where
  same : L.Same c c' t
  concrete : (t.heap.cell c).isView = false
  free : (t.heap.cell c).owner? = none

/-- A slot that an ordinary object declares. -/
def Declares (place place' : Place) (t : State) : Prop :=
  ∃ o name slot, place = .slot o name ∧ place' = .slot (L.place o) name ∧ t.heap.Ordinary p o ∧
    t.heap.slot? o name = some slot

/-- What the answers to a request are.  The home that is found on a table is its home, what is read
off a fixed place is there already, and a value is its own value. -/
def Answered {α : Type} : Request α → α → α → State → State → Prop
  | .find r name, place, place', t, _ => place' = place.rename L.place ∧ place.Fits p t.heap ∧
      (name = sigma → ∀ table, (t.heap.cell r).kind = .table table →
        ∃ home, table.home = some home ∧ place = .fixed r sigma home)
  | .read place, o, o', t, _ => L.Same o o' t ∧ ∀ r name content,
      place = .fixed r name content → o = content
  | .resolve _, o, o', t, _ => L.Same o o' t ∧ (t.heap.cell o).isView = false
  | .dataize r, v, v', t, _ => L.SameValue v v' t ∧ ∀ w, (t.heap.cell r).kind = .data w → v = w
  | .eval e self, o, o', t, _ => L.Same o o' t ∧ (e = .self → o = self)

/-- Requests that correspond are answered alike, if they can be made in a run. -/
def Asks (ask ask' : Answerer) : Prop :=
  ∀ {α : Type} (q : Request α) {frame frame' : Frame} {s s' : State}, L.At frame frame' s s' →
    q.Fits p s.heap →
      L.Ends (L.Answered q) s s' (ask q frame s) (ask' (q.rename L.place) frame' s')

variable {L} {r o : Ref} {frame frame' : Frame} {s s' t t' : State}

theorem SameValue.grows {v v' : Value} (same : L.SameValue v v' s) (next : L.Then s s' t t') :
    L.SameValue v v' t :=
  ⟨same.1, fun r there => (same.2 r there).grows next.grows⟩

theorem exist_one (exist : r.index < s.heap.size) : ∀ x ∈ [r], x.index < s.heap.size := by
  simpa using exist

/-! ## New objects -/

section

variable (here : L.At frame frame' s s')
include here

theorem alike_alloc {k k' : Kind} (renamed : k' = k.rename L.place) (fits : (s.alloc k).2.Fits p) :
    L.Ends (fun r r' t _ => L.New s k r r' t) s s' (Action.alloc k frame s)
      (Action.alloc k' frame' s') := by
  subst renamed
  obtain ⟨same, alike⟩ := L.alloc k here.alike
  refine .answer ⟨alike, fits, s.grows_alloc k, s'.grows_alloc _⟩ ⟨⟨same, ?_⟩, rfl, rfl⟩
  exact here.fits.ordinary_alloc rfl

theorem alike_view {v v' : View} (renamed : v' = v.rename L.place) (fits : v.Fits p s.heap) :
    L.Ends (fun r r' t _ => L.Same r r' t) s s' (Action.view v frame s)
      (Action.view v' frame' s') := by
  subst renamed
  exact (alike_alloc here rfl (here.fits.allocView fits)).weaken fun _ new => new.same

theorem alike_data {v v' : Value} (same : L.SameValue v v' s) :
    L.Ends (fun r r' t _ => L.Same r r' t) s s' (Action.data v frame s)
      (Action.data v' frame' s') := by
  obtain ⟨rfl, items⟩ := same
  obtain ⟨place, alike⟩ := L.allocData v here.alike
  have fits := here.fits.allocData items
  refine .answer ⟨alike, fits, s.grows_allocData v, s'.grows_allocData _⟩ ⟨place, ?_⟩
  exact here.fits.ordinary_alloc rfl

end

/-! ## Copies and owners -/

section

variable (here : L.At frame frame' s s')
include here

/-- A copy of a table plays the role of the table. -/
theorem fits_copyTable {t : Table} (exist : o.index < s.heap.size)
    (kind : (s.heap.cell o).kind = .table t) : (s.copyTable t).2.Fits p := by
  obtain ⟨role, plays⟩ := here.fits.plays exist kind
  have grown := s.grows_alloc (.table { t with owner := none, slots := t.slots.copy })
  refine here.fits.allocTable role ?_ rfl ?_
  · refine (plays.grows exist grown).of_copy (t := t) ?_ (s.kind_alloc _) rfl
      (fun _ slots => slots.copy) (Nat.le_of_lt exist)
    exact (congrArg Cell.kind (s.heap.cell_alloc_of_lt _ exist)).trans kind
  · intro name slot there x shown
    obtain ⟨old, there', same⟩ := List.mem_map.mp there
    cases same
    refine here.fits.contents exist kind there' ?_
    rcases old with ⟨_, _ | _ | _ | _⟩
    · exact shown
    · cases shown
    · exact shown
    · exact shown

theorem alike_copyConcrete (exist : o.index < s.heap.size)
    (concrete : (s.heap.cell o).isView = false) :
    L.Ends (fun c c' t _ => L.Copied c c' t) s s' (copyConcrete o frame s)
      (copyConcrete (L.place o) frame' s') := by
  have kind' := here.kind exist
  cases kind : (s.heap.cell o).kind with
  | table t =>
      rw [kind, Kind.rename] at kind'
      rw [copyConcrete_table kind, copyConcrete_table kind']
      have renamed : Kind.table { t.rename L.place with
          owner := none, slots := (Slots.rename L.place t.slots).copy } =
          Kind.rename L.place (.table { t with owner := none, slots := t.slots.copy }) := by
        rw [Slots.copy_rename]
        rfl
      refine (alike_alloc here renamed (fits_copyTable here exist kind)).weaken fun _ new => ?_
      obtain ⟨same, rfl, rfl⟩ := new
      have made := s.kind_alloc (.table { t with owner := none, slots := t.slots.copy })
      exact ⟨same, by rw [Cell.isView, made], by rw [Cell.owner?, made]⟩
  | data v =>
      rw [kind, Kind.rename] at kind'
      rw [copyConcrete_data kind, copyConcrete_data kind']
      refine here.answer ⟨⟨rfl, ?_⟩, concrete, by rw [Cell.owner?, kind]⟩
      exact here.fits.ordinary exist fun t isTable => by cases kind.symm.trans isTable
  | view v result => simp [Cell.isView, kind] at concrete

/-- Owning a copy succeeds. -/
theorem alike_ownConcrete {owner : Ref} (ordinary : s.heap.Ordinary p o)
    (free : (s.heap.cell o).owner? = none) (owns : s.heap.Ordinary p owner) :
    L.Ends (fun _ _ _ _ => True) s s' (ownConcrete o owner frame s)
      (ownConcrete (L.place o) (L.place owner) frame' s') := by
  have kind' := here.kind ordinary.exist
  cases kind : (s.heap.cell o).kind with
  | table t =>
      rw [kind, Kind.rename] at kind'
      have unowned : t.owner = none := by rwa [Cell.owner?, kind] at free
      have unowned' : (t.rename L.place).owner = none := by
        simp only [Table.rename, unowned, Option.map_none]
      rw [ownConcrete_free kind unowned, ownConcrete_free kind' unowned']
      refine .answer ⟨L.setOwner owner here.alike ordinary,
        here.fits.setOwner ordinary kind unowned owns, s.heap.grows_setOwner free,
        s'.heap.grows_setOwner ?_⟩ trivial
      simp only [Cell.owner?, kind', unowned']
  | data v =>
      rw [kind, Kind.rename] at kind'
      rw [ownConcrete_data kind, ownConcrete_data kind']
      exact here.answer trivial
  | view v result =>
      rw [kind, Kind.rename] at kind'
      simp only [ownConcrete, bind_of_answer (cell_apply _ _ _), kind, kind']
      exact here.answer trivial

end

section Operations

variable {ask ask' : Answerer} (asked : L.Asks ask ask') (here : L.At frame frame' s s')
include here

/-- Owning a copy that is no view succeeds. -/
theorem alike_moveTo {owner : Ref} (ordinary : s.heap.Ordinary p o)
    (concrete : (s.heap.cell o).isView = false) (free : (s.heap.cell o).owner? = none)
    (owns : s.heap.Ordinary p owner) :
    L.Ends (fun _ _ _ _ => True) s s' (moveTo ask o owner frame s)
      (moveTo ask' (L.place o) (L.place owner) frame' s') := by
  have concrete' := Cell.isView_of_rename (here.kind ordinary.exist)
  rw [moveTo_of_concrete concrete, moveTo_of_concrete (concrete'.trans concrete)]
  exact alike_ownConcrete here ordinary free owns

include asked

theorem alike_settle (exist : r.index < s.heap.size) :
    L.Ends (fun o o' t _ => L.Settled o o' t ∧ (s.heap.Ordinary p r → t.heap.Ordinary p o)) s s'
      (settle ask r frame s) (settle ask' (L.place r) frame' s') := by
  refine .reads (cell_apply r _ _) (cell_apply _ _ _) ?_
  rw [Cell.isView_of_rename (here.kind exist)]
  cases isView : (s.heap.cell r).isView with
  | false => exact here.answer ⟨⟨rfl, exist, isView⟩, id⟩
  | true =>
      have ordinary : s.heap.Ordinary p r :=
        here.fits.ordinary exist fun t kind => by simp [Cell.isView, kind] at isView
      refine (asked (.resolve r) here ordinary).weaken fun _ answered => ?_
      obtain ⟨⟨same, ordinary⟩, concrete⟩ := answered
      exact ⟨⟨same, ordinary.exist, concrete⟩, fun _ => ordinary⟩

theorem alike_copyOf (exist : r.index < s.heap.size) :
    L.Ends (fun c c' t _ => L.Copied c c' t) s s' (copyOf ask r frame s)
      (copyOf ask' (L.place r) frame' s') := by
  refine here.bind (alike_settle asked here exist) fun here _ ⟨settled, _⟩ => ?_
  obtain ⟨rfl, exist, concrete⟩ := settled
  exact alike_copyConcrete (here.holding (exist_one exist)) exist concrete

/-! ## Places -/

theorem alike_placeAt (ordinary : s.heap.Ordinary p r) (position : Nat) :
    L.Ends (fun place place' t _ => L.Declares place place' t) s s' (placeAt ask r position frame s)
      (placeAt ask' (L.place r) position frame' s') := by
  refine here.bind (alike_settle asked here ordinary.exist) ?_
  intro o _ t _ here _ ⟨settled, still⟩
  obtain ⟨rfl, exist, _⟩ := settled
  refine .reads (cell_apply _ _ _) (cell_apply _ _ _) ?_
  rw [Cell.slots_of_rename (here.kind exist), Slots.openNames_rename]
  cases isOpen : (t.heap.cell o).slots.openNames[position]? with
  | none => exact here.failure (.noSuchAttribute (here.subject exist))
  | some name =>
      obtain ⟨slot, found⟩ := Slots.find?_of_open isOpen
      exact here.answer ⟨o, name, slot, rfl, rfl, still ordinary, found⟩

theorem alike_ownPlace? (ordinary : s.heap.Ordinary p r) (name : String) :
    L.Ends (fun place place' t _ => (place = none ∧ place' = none) ∨
        ∃ q q', place = some q ∧ place' = some q' ∧ L.Declares q q' t) s s'
      (ownPlace? ask r name frame s) (ownPlace? ask' (L.place r) name frame' s') := by
  refine here.bind (alike_settle asked here ordinary.exist) ?_
  intro o _ t _ here _ ⟨settled, still⟩
  obtain ⟨rfl, exist, _⟩ := settled
  refine here.answer ?_
  dsimp only
  rw [here.slot? exist]
  cases found : t.heap.slot? o name with
  | none => exact .inl ⟨rfl, rfl⟩
  | some slot => exact .inr ⟨_, _, rfl, rfl, o, name, slot, rfl, rfl, still ordinary, found⟩

theorem alike_placeOf (ordinary : s.heap.Ordinary p r) (key : Key) :
    L.Ends (fun place place' t _ => L.Declares place place' t) s s' (placeOf ask r key frame s)
      (placeOf ask' (L.place r) key frame' s') := by
  cases key with
  | position i => exact alike_placeAt asked here ordinary i
  | name n =>
      refine here.bind (alike_ownPlace? asked here ordinary n) ?_
      rintro _ _ t t' here next (⟨rfl, rfl⟩ | ⟨q, q', rfl, rfl, declares⟩)
      · exact here.failure (.noSuchAttribute (here.subject (ordinary.grows next.grows).exist))
      · exact here.answer declares

/-! ## Writing -/

omit asked in
/-- A slot refuses what is written twice, and it is not the owner. -/
theorem alike_refuse {name : String} {slot : Slot} (found : s.heap.slot? o name = some slot) :
    L.Ends (fun _ _ _ _ => True) s s' (refuse (.slot o name) frame s)
      (refuse (.slot (L.place o) name) frame' s') := by
  refine here.failure (.alreadyBound ?_ (here.subject (Heap.lt_size_of_slot? found)))
  intro same
  have plain := here.fits.unreserved found
  simp [reserved, show name = rho from same] at plain

omit asked in
theorem alike_fill {name : String} {slot : Slot} {value : Ref} (ordinary : s.heap.Ordinary p o)
    (found : s.heap.slot? o name = some slot) (written : s.heap.Ordinary p value) :
    L.Ends (fun _ _ _ _ => True) s s' (fill o name value frame s)
      (fill (L.place o) name (L.place value) frame' s') := by
  refine .reads (asks_apply _ _ _) (asks_apply _ _ _) ?_
  have found' := here.slot? ordinary.exist name
  rw [found', found]
  rcases slot with (_ | content) | _ | _ | _
  · -- an empty slot
    have grown : (Slot.free none).Grows (.free (some value)) := .free (Stays.of_none _)
    have grown' : (Slot.free none).Grows (.free (some (L.place value))) := .free (Stays.of_none _)
    rw [found] at found'
    refine .answer ⟨L.setSlot name (.free (some value)) here.alike ordinary,
      here.fits.setSlot ordinary found grown ?_, s.heap.grows_setSlot found grown,
      s'.heap.grows_setSlot found' grown'⟩ trivial
    simpa [Slot.shown] using written
  all_goals exact alike_refuse here found

omit asked in
theorem alike_append {name : String} {items items' : List Ref} (ordinary : s.heap.Ordinary p o)
    (same : L.AllSame items items' s) :
    L.Ends (fun _ _ _ _ => True) s s' (append o name items frame s)
      (append (L.place o) name items' frame' s') := by
  obtain ⟨rfl, items_ordinary⟩ := same
  simp only [append, changeHeap_apply]
  have found' := here.slot? ordinary.exist name
  rw [found']
  cases found : s.heap.slot? o name with
  | none => exact here.answer trivial
  | some slot =>
      cases slot with
      | vararg old =>
          rw [found] at found'
          have alike := L.setSlot name (.vararg (old ++ items)) here.alike ordinary
          rw [Slot.rename, List.map_append] at alike
          have grown : (Slot.vararg old).Grows (.vararg (old ++ items)) :=
            .vararg (List.prefix_append _ _)
          refine .answer ⟨alike, here.fits.setSlot ordinary found grown ?_,
            s.heap.grows_setSlot found grown,
            s'.heap.grows_setSlot found' (.vararg (List.prefix_append _ _))⟩ trivial
          intro x shown
          rcases List.mem_append.mp shown with before | added
          · exact here.fits.ordinary_of_slot found before
          · exact items_ordinary x added
      | _ => exact here.answer trivial

theorem alike_spread (name : String) (plain : name ≠ sigma) {value : Ref}
    (ordinary : s.heap.Ordinary p value) :
    L.Ends (fun items items' t _ => L.AllSame items items' t) s s'
      (spread ask name value frame s) (spread ask' name (L.place value) frame' s') := by
  refine .reads (cell_apply _ _ _) (cell_apply _ _ _) ?_
  rw [Cell.isUnvar_of_rename (here.kind ordinary.exist)]
  split
  · refine here.bind (asked (.dataize value) here ordinary) ?_
    rintro v v' t t' here _ ⟨⟨rfl, items⟩, -⟩
    cases v with
    | array refs => exact here.answer ⟨rfl, items⟩
    | _ => exact here.failure (.typeMismatch _ _ plain)
  · exact here.answer ⟨rfl, by simpa using ordinary⟩

/-- Writing an argument into a slot that an ordinary object declares. -/
theorem alike_write {place place' : Place} (declares : L.Declares place place' s) {value : Ref}
    (written : s.heap.Ordinary p value) :
    L.Ends (fun _ _ _ _ => True) s s' (write ask place value frame s)
      (write ask' place' (L.place value) frame' s') := by
  obtain ⟨o, name, slot, rfl, rfl, ordinary, found⟩ := declares
  have plain : name ≠ sigma := by
    rintro rfl
    exact here.fits.unreserved found (by decide)
  refine .reads (asks_apply _ _ _) (asks_apply _ _ _) ?_
  rw [here.slot? ordinary.exist name, found]
  cases slot with
  | vararg items =>
      refine here.bind (alike_spread asked here name plain written) fun here next same => ?_
      exact alike_append here (ordinary.grows next.grows) same
  | _ => exact alike_fill here ordinary found written

end Operations

end Likeness

end PhiCalculus
