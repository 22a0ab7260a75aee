import PhiCalculus.Eval.Place
import PhiCalculus.Proofs.Growth

/-!
# Renaming objects

Two heaps may have the same objects at different places.  A renaming says for each place of the one
heap where its object is in the other.  What refers to objects, in slots, views, values and places,
is renamed with them; expressions are left as they are, since those of programs refer to none.

Where the objects of one heap are found renamed in another, they have the same terms
(`Heap.termAt_rename`); with the identity this says that more steps change nothing in a term.
-/

set_option autoImplicit false

namespace PhiCalculus

/-! ## Lists of optional results -/

section Lists

variable {α α' β : Type}

theorem isSome_mapM_iff {f : α → Option β} {as : List α} :
    (as.mapM f).isSome = true ↔ ∀ a ∈ as, (f a).isSome = true := by
  induction as with
  | nil => simp
  | cons a rest ih =>
      rw [List.mapM_cons, List.forall_mem_cons, ← ih]
      cases f a with
      | none => simp
      | some b => cases rest.mapM f <;> simp

/-- Where every result of the one function is a result of the other for renamed arguments, so are
the lists of them. -/
theorem mapM_eq_some_map {f : α → Option β} {g : α' → Option β} {σ : α → α'} {as : List α}
    {bs : List β} (sub : ∀ a ∈ as, ∀ b, f a = some b → g (σ a) = some b)
    (h : as.mapM f = some bs) : (as.map σ).mapM g = some bs := by
  induction as generalizing bs with
  | nil => exact h
  | cons a rest ih =>
      rw [List.mapM_cons] at h
      rw [List.map_cons, List.mapM_cons]
      cases first : f a with
      | none => simp [first] at h
      | some b =>
          rw [first] at h
          rw [sub a List.mem_cons_self b first]
          cases others : rest.mapM f with
          | none => simp [others] at h
          | some more =>
              rw [others] at h
              rw [ih (fun a' there => sub a' (List.mem_cons_of_mem a there)) others]
              exact h

theorem mapM_map_eq {f : α → Option β} {g : α' → Option β} {σ : α → α'} {as : List α}
    (same : ∀ a ∈ as, g (σ a) = f a) : (as.map σ).mapM g = as.mapM f := by
  induction as with
  | nil => rfl
  | cons a rest ih =>
      rw [List.map_cons, List.mapM_cons, List.mapM_cons, same a List.mem_cons_self,
        ih fun a' there => same a' (List.mem_cons_of_mem _ there)]

end Lists

/-! ## What refers to objects -/

variable (σ : Ref → Ref)

def Value.rename : Value → Value
  | array items => array (items.map σ)
  | v => v

def View.rename : View → View
  | bind base key value => bind (σ base) key (σ value)
  | method base name => method (σ base) name
  | copy base => copy (σ base)
  | unvar base => unvar (σ base)

def Slot.rename : Slot → Slot
  | free content => free (content.map σ)
  | once origin cache => once origin (cache.map σ)
  | vararg items => vararg (items.map σ)
  | composite origin => composite origin

def Slots.rename (slots : Slots) : Slots := slots.map fun s => (s.1, s.2.rename σ)

def Table.rename (t : Table) : Table where
  form := t.form
  home := t.home.map σ
  owner := t.owner.map σ
  slots := Slots.rename σ t.slots

def Kind.rename : Kind → Kind
  | table t => table (t.rename σ)
  | data v => data (v.rename σ)
  | view v result => view (v.rename σ) (result.map σ)

def Place.rename : Place → Place
  | slot object name => slot (σ object) name
  | owner object => owner (σ object)
  | fixed object name content => fixed (σ object) name (σ content)

variable {σ}

@[simp] theorem Value.items_rename (v : Value) : (v.rename σ).items = v.items.map σ := by
  cases v <;> rfl

@[simp] theorem Value.tag_rename (v : Value) : (v.rename σ).tag = v.tag := by
  cases v <;> rfl

@[simp] theorem Value.termOf_rename (v : Value) (texts : List String) :
    (v.rename σ).termOf texts = v.termOf texts := by
  cases v <;> rfl

theorem Value.rename_id (v : Value) : v.rename id = v := by
  cases v <;> simp [Value.rename]

theorem View.rename_id (v : View) : v.rename id = v := by
  cases v <;> rfl

theorem Slot.rename_id (s : Slot) : s.rename id = s := by
  cases s <;> simp [Slot.rename]

theorem Slots.rename_id (slots : Slots) : Slots.rename id slots = slots := by
  simp [Slots.rename, Slot.rename_id]

theorem Place.rename_id (p : Place) : p.rename id = p := by
  cases p <;> rfl

theorem Kind.rename_id (k : Kind) : k.rename id = k := by
  cases k with
  | table t => simp [Kind.rename, Table.rename, Slots.rename_id]
  | data v => rw [Kind.rename, Value.rename_id]
  | view v result => simp [Kind.rename, View.rename_id]

/-! ## What renamed objects have -/

namespace Slots

theorem find?_rename (slots : Slots) (name : String) :
    (Slots.rename σ slots).find? name = (slots.find? name).map (Slot.rename σ) := by
  induction slots with
  | nil => rfl
  | cons a rest ih =>
      obtain ⟨n, s⟩ := a
      rw [find?_cons, rename, List.map_cons, find?_cons]
      split
      · rfl
      · exact ih

theorem openNames_rename (slots : Slots) : (Slots.rename σ slots).openNames = slots.openNames := by
  have same (s : Slot) : (s.rename σ).isOpen = s.isOpen := by
    rcases s with (_ | _) | _ | _ | _ <;> rfl
  rw [openNames, openNames, rename, List.filter_map, List.map_map]
  simp only [Function.comp_def, same]

theorem copy_rename (slots : Slots) :
    (Slots.rename σ slots).copy = Slots.rename σ slots.copy := by
  have same (s : Slot) : (s.rename σ).copy = s.copy.rename σ := by
    cases s <;> rfl
  simp only [copy, rename, List.map_map, Function.comp_def, same]

end Slots

namespace Cell

variable {c c' : Cell} (same : c'.kind = c.kind.rename σ)
include same

theorem form_of_rename : c'.form = c.form := by
  rw [form, form, same]
  cases c.kind with
  | table t => rfl
  | data v => exact congrArg TypeTag.name v.tag_rename
  | view v result => cases v <;> rfl

theorem slots_of_rename : c'.slots = Slots.rename σ c.slots := by
  rw [slots, slots, same]
  cases c.kind <;> rfl

theorem home?_of_rename : c'.home? = c.home?.map σ := by
  rw [home?, home?, same]
  cases c.kind <;> rfl

theorem owner?_of_rename : c'.owner? = c.owner?.map σ := by
  rw [owner?, owner?, same]
  cases c.kind <;> rfl

theorem value?_of_rename : c'.value? = c.value?.map (Value.rename σ) := by
  rw [value?, value?, same]
  cases c.kind <;> rfl

theorem isView_of_rename : c'.isView = c.isView := by
  rw [isView, isView, same]
  cases c.kind <;> rfl

theorem isData_of_rename : c'.isData = c.isData := by
  rw [isData, isData, value?_of_rename same]
  cases c.value? <;> rfl

theorem isUnvar_of_rename : c'.isUnvar = c.isUnvar := by
  rw [isUnvar, isUnvar, same]
  cases c.kind with
  | view v result => cases v <;> rfl
  | _ => rfl

end Cell

@[simp] theorem Place.refs_rename (p : Place) : (p.rename σ).refs = p.refs.map σ := by
  cases p <;> rfl

/-- Values are equal where their elements have equal vertices. -/
theorem Value.same_rename {vertex vertex' : Ref → Vertex} {v w : Value}
    (same : ∀ a ∈ v.items, ∀ b ∈ w.items, (vertex' (σ a) = vertex' (σ b) ↔ vertex a = vertex b)) :
    Value.same vertex' (v.rename σ) (w.rename σ) = Value.same vertex v w := by
  cases v with
  | array as =>
      cases w with
      | array bs =>
          simp only [Value.rename, Value.same, List.map_map]
          rw [Bool.eq_iff_iff, beq_iff_eq, beq_iff_eq]
          simp only [Value.items] at same
          induction as generalizing bs with
          | nil => cases bs <;> simp
          | cons a rest ih =>
              cases bs with
              | nil => simp
              | cons b more =>
                  have rest := ih more fun x there y there' =>
                    same x (List.mem_cons_of_mem _ there) y (List.mem_cons_of_mem _ there')
                  simp only [List.map_cons, Function.comp_apply, List.cons.injEq, rest,
                    same a List.mem_cons_self b List.mem_cons_self]
      | _ => rfl
  | _ => cases w <;> rfl

/-! ## Terms -/

namespace Heap

variable {h h' : Heap}

section

variable (same : ∀ r, (h'.cell (σ r)).kind = (h.cell r).kind.rename σ) {fuel fuel' : Nat}
  (object : ∀ {depth r text}, h.termAt fuel depth r = some text →
    h'.termAt fuel' depth (σ r) = some text)

include same object in
/-- The term of an object is put together from terms of objects and slots. -/
theorem termAt_rename_succ
    (slot : ∀ {depth s text}, h.slotTermAt fuel depth s = some text →
      h'.slotTermAt fuel' depth (s.rename σ) = some text)
    {depth : Nat} {r : Ref} {text : String} (ends : h.termAt (fuel + 1) depth r = some text) :
    h'.termAt (fuel' + 1) depth (σ r) = some text := by
  rw [termAt] at ends ⊢
  rw [same r]
  split at ends
  · next deep => rwa [if_pos deep]
  · next shallow =>
    rw [if_neg shallow]
    cases kind : (h.cell r).kind with
    | data v =>
        simp only [kind, Option.map_eq_some_iff] at ends
        obtain ⟨texts, items, rfl⟩ := ends
        have shown := mapM_eq_some_map (σ := σ) (fun _ _ _ => object) items
        simp [Kind.rename, shown]
    | view v result =>
        cases result with
        | some result =>
            simp only [kind] at ends
            exact object ends
        | none =>
            simp only [kind] at ends
            cases v with
            | bind base key value =>
                simp only [Option.bind_eq_bind, Option.bind_eq_some_iff] at ends
                obtain ⟨b, first, v, second, last⟩ := ends
                simp [Kind.rename, View.rename, object first, object second, last]
            | _ =>
                obtain ⟨b, first, rfl⟩ := Option.map_eq_some_iff.mp ends
                simp [Kind.rename, View.rename, object first]
    | table t =>
        simp only [kind, Option.map_eq_some_iff] at ends
        obtain ⟨texts, slots, rfl⟩ := ends
        refine Option.map_eq_some_iff.mpr ⟨texts, ?_, rfl⟩
        refine mapM_eq_some_map (fun s _ text ends => ?_) slots
        obtain ⟨inner, shown, rfl⟩ := Option.map_eq_some_iff.mp ends
        exact Option.map_eq_some_iff.mpr ⟨inner, slot shown, rfl⟩

include object in
/-- The term of a slot is put together from terms of objects. -/
theorem slotTermAt_rename_succ {depth : Nat} {s : Slot} {text : String}
    (ends : h.slotTermAt (fuel + 1) depth s = some text) :
    h'.slotTermAt (fuel' + 1) depth (s.rename σ) = some text := by
  rw [slotTermAt] at ends ⊢
  split at ends
  · next deep => rwa [if_pos deep]
  · next shallow =>
    rw [if_neg shallow]
    cases s with
    | free content =>
        cases content with
        | none => exact ends
        | some r => exact object ends
    | once origin cache =>
        cases cache with
        | none => exact ends
        | some r => exact object ends
    | vararg items =>
        obtain ⟨texts, shown, rfl⟩ := Option.map_eq_some_iff.mp ends
        have renamed := mapM_eq_some_map (σ := σ) (fun _ _ _ => object) shown
        exact Option.map_eq_some_iff.mpr ⟨texts, renamed, rfl⟩
    | composite origin => exact ends

end

/-- **Renamed objects have the same terms, with as many steps or more.** -/
theorem termAt_rename (same : ∀ r, (h'.cell (σ r)).kind = (h.cell r).kind.rename σ)
    {fuel fuel' : Nat} (more : fuel ≤ fuel') :
    (∀ {depth r text}, h.termAt fuel depth r = some text →
        h'.termAt fuel' depth (σ r) = some text) ∧
      ∀ {depth s text}, h.slotTermAt fuel depth s = some text →
        h'.slotTermAt fuel' depth (s.rename σ) = some text := by
  induction fuel generalizing fuel' with
  | zero => constructor <;> (intro _ _ _ ends; simp [termAt, slotTermAt] at ends)
  | succ fuel ih =>
      obtain ⟨fuel', rfl⟩ : ∃ n, fuel' = n + 1 := ⟨fuel' - 1, by omega⟩
      obtain ⟨object, slot⟩ := ih (Nat.le_of_succ_le_succ more)
      exact ⟨termAt_rename_succ same object slot, slotTermAt_rename_succ object⟩

/-- A term that ends is the same with more steps. -/
theorem termAt_mono {fuel fuel' : Nat} (more : fuel ≤ fuel') {depth : Nat} {r : Ref} {text : String}
    (ends : h.termAt fuel depth r = some text) : h.termAt fuel' depth r = some text :=
  (termAt_rename (σ := id) (fun _ => (Kind.rename_id _).symm) more).1 ends

end Heap

end PhiCalculus
