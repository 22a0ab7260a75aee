import PhiCalculus.Proofs.MethodObjects
import PhiCalculus.Proofs.MethodViews
import PhiCalculus.Proofs.Binding

/-!
# Applied methods

To apply a method of a value, a program makes views: one of the method, and one for each argument
around it (`State.Applies`).  Resolving the outermost view finds the method on the value, copies its
object and writes the arguments to further copies, so that it gives an object of the method with
those arguments (`State.Applies.settles`).  Nothing else is touched on the way but that the views
keep what they find.
-/

set_option autoImplicit false

namespace PhiCalculus

open PhiCalculus.Action

variable {c : Computations} {frame : Frame} {s t u : State} {o q r w x y base : Ref}
  {key : Key} {attr : String} {i : MethodCall} {bound : String → Option Ref} {path : List Ref}

/-! ## Slots of the objects of methods -/

namespace Method

variable {m : Method}

theorem copy_slots : (m.slots bound).copy = m.slots bound := by
  simp [slots, Slots.copy, Slot.copy]

theorem params_nodup : m.params.Nodup := by
  rcases m with _ | op | op | _ <;> try cases op
  all_goals decide

theorem set_params {params : List String} (distinct : params.Nodup) (param : attr ∈ params)
    (rest : Slots) :
    Slots.set (params.map (fun p => (p, .free (bound p))) ++ rest) attr (.free (some x)) =
      params.map (fun p => (p, .free (Function.update bound attr (some x) p))) ++ rest := by
  induction params with
  | nil => cases param
  | cons p params ih =>
      obtain ⟨fresh, distinct⟩ := List.nodup_cons.mp distinct
      rw [List.map_cons, List.cons_append, Slots.set]
      by_cases same : p = attr
      · subst same
        have others (n : String) (there : n ∈ params) :
            Function.update bound p (some x) n = bound n :=
          Function.update_of_ne (fun is => by rw [is] at there; exact fresh there) _ _
        rw [if_pos (by simp), List.map_cons, Function.update_self, List.cons_append]
        congr 2
        exact List.map_congr_left fun n there => by rw [others n there]
      · have later : attr ∈ params := (List.mem_cons.mp param).resolve_left (Ne.symm same)
        rw [if_neg (by simpa using same), ih distinct later, List.map_cons, List.cons_append,
          Function.update_of_ne same]

/-- Writing an argument. -/
theorem set_slots (param : attr ∈ m.params) :
    (m.slots bound).set attr (.free (some x)) = m.slots (Function.update bound attr (some x)) :=
  set_params params_nodup param _

end Method

/-! ## Views that apply a method -/

/-- The object applies the method: it is an object of the method, or a view that has kept one, or
the view of the method itself, or it binds an argument to what applies the method.  What is listed
are the views that have kept nothing. -/
inductive State.Applies (s : State) (i : MethodCall) :
    List Ref → Ref → (String → Option Ref) → Prop where
  | object {o : Ref} {bound : String → Option Ref} : s.Embodies o i bound → Applies s i [] o bound
  | kept {w o : Ref} {v : View} {bound : String → Option Ref} :
      (s.heap.cell w).kind = .view v (some o) → s.Embodies o i bound → Applies s i [] w bound
  | method {w : Ref} : (s.heap.cell i.receiver).kind = .data i.value →
      (s.heap.cell w).kind = .view (.method i.receiver i.name) none → Applies s i [w] w fun _ => none
  | bind {path : List Ref} {base w x : Ref} {key : Key} {attr : String}
      {bound : String → Option Ref} : Applies s i path base bound →
        (s.heap.cell w).kind = .view (.bind base key x) none → w ∉ path →
          (i.method.slots bound).landing? key = some attr → attr ∈ i.method.params →
            bound attr = none → Applies s i (w :: path) w (Function.update bound attr (some x))

/-- Everything there is stays as it is, but for those objects. -/
def State.SameBut (path : List Ref) (s t : State) : Prop :=
  s.heap.size ≤ t.heap.size ∧
    ∀ x : Ref, x.index < s.heap.size → x ∉ path → t.heap.cell x = s.heap.cell x

theorem State.SameBut.trans {path' : List Ref} (first : s.SameBut path t)
    (second : t.SameBut path' u) (sub : path ⊆ path') : s.SameBut path' u :=
  ⟨first.1.trans second.1, fun x exist out =>
    (second.2 x (exist.trans_le first.1) out).trans (first.2 x exist fun there => out (sub there))⟩

theorem State.sameBut_alloc (s : State) (k : Kind) (path : List Ref) :
    s.SameBut path (s.alloc k).2 :=
  ⟨Nat.le_of_lt (Nat.lt_of_lt_of_eq (Nat.lt_succ_self _) (s.heap.size_alloc _).symm),
    fun _ exist _ => s.heap.cell_alloc_of_lt _ exist⟩

/-! ## The name of a method -/

namespace MethodCall

theorem plain (i : MethodCall) : i.name ≠ delta ∧ i.name ∉ reserved := by
  have unnamed (name : String) (special : name ∈ delta :: reserved) (tag : TypeTag) :
      Method.ofName? tag name = none := by
    have all : ∀ name ∈ delta :: reserved, ∀ tag ∈ [TypeTag.int, .float, .bool, .char, .string,
        .bytes, .regex, .array], Method.ofName? tag name = none := by decide
    exact all name special tag (by cases tag <;> decide)
  constructor
  · intro same
    cases i.named.symm.trans (unnamed i.name (same ▸ List.mem_cons_self) i.value.tag)
  · intro special
    cases i.named.symm.trans (unnamed i.name (List.mem_cons_of_mem _ special) i.value.tag)

/-- No method of arrays is called like the index of an element. -/
theorem unindexed (i : MethodCall) (items : List Ref) (array : i.value = .array items) :
    indexOf? i.name = none := by
  have named := i.named
  rw [array, Value.tag, Method.ofName?] at named
  split at named
  · next same =>
    rw [eq_of_beq same]
    decide
  · unfold Method.ofType? at named
    split at named <;> simp_all
    all_goals decide

end MethodCall

/-! ## The single steps -/

/-- The object of the method that a value answers with is copied for the view. -/
theorem runs_methodOf (kind : (s.heap.cell i.receiver).kind = .data i.value) :
    ∃ o t, c.Runs (fun ask => methodOf ask i.receiver i.name) frame s (.ok o) t ∧
      t.Embodies o i (fun _ => none) ∧ s.SameBut [] t := by
  let made := i.table none fun _ => none
  let u := (s.alloc (.table made)).2
  let d := (s.alloc (.table made)).1
  have finds : Link.Finds c ⟨i.receiver, frame.holding [i.receiver], s⟩ i.name
      (.ok (.fixed i.receiver i.name d)) u :=
    (Link.AnswersAsValue.method i.plain.1 i.unindexed i.named).finds kind i.plain.2
  obtain ⟨steps, finds⟩ := finds
  have found := ends_of_more (Link.stepwise_ask _) (Nat.le_succ steps) finds
  have settled : settle (answered c (steps + 1)) i.receiver frame s = .answer i.receiver s :=
    settle_of_concrete (isView_of_data kind)
  have new : (u.heap.cell d).kind = .table made := congrArg Cell.kind (s.heap.cell_alloc_self _)
  have copied : methodOf (answered c (steps + 1)) i.receiver i.name frame s =
      .answer (u.ownedCopy made i.receiver).1 (u.ownedCopy made i.receiver).2 := by
    rw [methodOf_of_found settled found]
    exact methodFrom_table (settle_of_concrete (isView_of_table new)) new
  have same : s.SameBut [] (u.ownedCopy made i.receiver).2 :=
    (s.sameBut_alloc _ []).trans (u.sameBut_alloc _ []) (List.Subset.refl _)
  refine ⟨_, _, ⟨steps + 1, copied⟩, ⟨?_, some i.receiver, ?_⟩, same⟩
  · rw [same.2 _ (Heap.lt_size_of_kind kind) (List.not_mem_nil)]
    exact kind
  · refine (congrArg Cell.kind (u.heap.cell_alloc_self _)).trans ?_
    show Kind.table { made with owner := some i.receiver, slots := Slots.copy made.slots } = _
    rw [show made.slots.copy = made.slots from Method.copy_slots]
    rfl

/-- An argument is written to a copy of an object of the method. -/
theorem bindTo_method {ask : Answerer} (is : s.Embodies o i bound)
    (lands : (i.method.slots bound).landing? key = some attr) (param : attr ∈ i.method.params)
    (empty : bound attr = none) :
    ∃ o' t, bindTo ask o key x frame s = .answer o' t ∧
      t.Embodies o' i (Function.update bound attr (some x)) ∧ s.SameBut [] t := by
  obtain ⟨owner, kind⟩ := is.kind
  let table := i.table owner bound
  let d := (s.keptCopy table).1
  let u := (s.keptCopy table).2
  have new : (u.heap.cell d).kind = .table table := by
    refine (s.kind_keptCopy table).trans ?_
    show Kind.table { table with slots := Slots.copy table.slots } = _
    rw [show table.slots.copy = table.slots from Method.copy_slots]
  have copy : u.Embodies d i bound := by
    refine ⟨?_, owner, new⟩
    exact (congrArg Cell.kind (s.heap.cell_alloc_of_lt _ (Heap.lt_size_of_kind is.receiver))).trans
      is.receiver
  have landing : (u.heap.cell d).slots.landing? key = some attr := by rw [copy.slots]; exact lands
  have free : u.heap.slot? d attr = some (.free none) := by rw [copy.argument param, empty]
  let t : State := { u with heap := u.heap.setSlot d attr (.free (some x)) }
  have bound' : bindTo ask o key x frame s = .answer d t := by
    rw [bindTo_table kind, bind_of_answer (placeOf_landing copy.concrete landing)]
    exact bind_of_answer ((write_free free x).trans (fill_empty free x)) _
  have kept : s.SameBut [] t := by
    have grown : s.heap.size ≤ u.heap.size := (s.sameBut_alloc (.table _) []).1
    refine ⟨grown.trans (Nat.le_of_eq (u.heap.size_update _ _).symm), fun y exist _ => ?_⟩
    · have other : y ≠ d := fun same => absurd (congrArg Ref.index same) (Nat.ne_of_lt exist)
      refine (u.heap.cell_update_of_ne other _).trans ?_
      exact s.heap.cell_alloc_of_lt _ exist
  refine ⟨d, t, bound', ⟨?_, owner, ?_⟩, kept⟩
  · rw [kept.2 _ (Heap.lt_size_of_kind is.receiver) List.not_mem_nil]
    exact is.receiver
  · have set : (t.heap.cell d).kind = _ :=
      congrArg Cell.kind (u.heap.cell_update_self (Heap.lt_size_of_slot? free) _)
    rw [set, new]
    show Kind.table { table with slots := Slots.set table.slots attr (.free (some x)) } = _
    rw [show table.slots.set attr (.free (some x)) = _ from Method.set_slots param]
    rfl

/-- A view that derives a new object keeps it. -/
theorem resolve_of_derived {v : View} (unresolved : (s.heap.cell w).kind = .view v none)
    (derives : c.Runs (fun ask => derivedBy ask v) (frame.holding [w]) s (.ok o) t)
    (still : (t.heap.cell w).kind = .view v none) :
    c.Ends (.resolve w) frame s (.ok o) { t with heap := t.heap.setResult w o } := by
  obtain ⟨steps, derives⟩ := derives
  exact runs_request.mpr ⟨steps, Resolution.answers ⟨unresolved, derives, still⟩⟩

/-! ## All steps -/

/-- Looking behind what applies the method leads to an object of it, and only the views that have
kept nothing are touched. -/
structure Settles (c : Computations) (i : MethodCall) (frame : Frame) (s : State) (path : List Ref)
    (q : Ref) (bound : String → Option Ref) (o : Ref) (t : State) : Prop where
  runs : c.Runs (fun ask => settle ask q) frame s (.ok o) t
  embodies : t.Embodies o i bound
  same : s.SameBut path t

/-- A view that derives an object of the method keeps it. -/
theorem settles_of_derived {v : View} (unresolved : (s.heap.cell w).kind = .view v none)
    (derives : c.Runs (fun ask => derivedBy ask v) (frame.holding [w]) s (.ok o) t)
    (is : t.Embodies o i bound) (same : s.SameBut path t) (out : w ∉ path) :
    Settles c i frame s (w :: path) w bound o { t with heap := t.heap.setResult w o } := by
  have exist := Heap.lt_size_of_view unresolved
  have still : (t.heap.cell w).kind = .view v none := by rw [same.2 w exist out, unresolved]
  have others (y : Ref) (ne : y ≠ w) : (t.heap.setResult w o).cell y = t.heap.cell y :=
    t.heap.cell_update_of_ne ne _
  refine ⟨?_, ⟨?_, ?_⟩, ⟨same.1.trans (Nat.le_of_eq (t.heap.size_update _ _).symm), ?_⟩⟩
  · obtain ⟨steps, ends⟩ := resolve_of_derived unresolved derives still
    exact ⟨steps, (settle_of_view (isView_of_view unresolved)).trans ends⟩
  · have ne : i.receiver ≠ w := by
      rintro same
      have kind := is.receiver
      rw [same, still] at kind
      cases kind
    exact (congrArg Cell.kind (others _ ne)).trans is.receiver
  · obtain ⟨owner, kind⟩ := is.kind
    have ne : o ≠ w := by
      rintro rfl
      cases still.symm.trans kind
    exact ⟨owner, (congrArg Cell.kind (others _ ne)).trans kind⟩
  · intro y exist' out'
    obtain ⟨ne, out'⟩ := not_or.mp (mt List.mem_cons.mpr out')
    exact (others y ne).trans (same.2 y exist' out')

/-- **What applies the method leads to an object of the method with the arguments.** -/
theorem State.Applies.settles (applies : s.Applies i path q bound) (c : Computations)
    (frame : Frame) : ∃ o t, Settles c i frame s path q bound o t := by
  induction applies generalizing frame with
  | @object o bound is =>
      exact ⟨o, s, ⟨0, settle_of_concrete is.concrete⟩, is, Nat.le_refl _, fun _ _ _ => rfl⟩
  | @kept w o v bound kind is =>
      refine ⟨o, s, ⟨1, ?_⟩, is, Nat.le_refl _, fun _ _ _ => rfl⟩
      refine (settle_of_view (isView_of_view kind)).trans ?_
      rw [answered_succ]
      exact (resolve_kept kind c _ frame).trans (settle_of_concrete is.concrete)
  | @method w value unresolved =>
      obtain ⟨o, t, runs, is, same⟩ := runs_methodOf (c := c) value
      exact ⟨o, _, settles_of_derived unresolved runs is same List.not_mem_nil⟩
  | @bind path base w x key attr bound applies unresolved out lands param empty ih =>
      obtain ⟨d, u, ⟨steps, settled⟩, is, same⟩ := ih (frame.holding [w])
      obtain ⟨o, t, binds, is', same'⟩ := bindTo_method (x := x) is lands param empty
      have derives : c.Runs (fun ask => derivedBy ask (.bind base key x)) (frame.holding [w]) s
          (.ok o) t := ⟨steps, (bindTo_of_settled settled is.concrete).trans binds⟩
      exact ⟨o, _, settles_of_derived unresolved derives is'
        (same.trans ⟨same'.1, fun y exist _ => same'.2 y exist List.not_mem_nil⟩
          (List.Subset.refl _)) out⟩

/-- Dataizing the object comes to an object of the method with those arguments, one level deeper.
Until then nothing else changes but those views. -/
structure Calls (c : Computations) (q : Ref) (frame : Frame) (s : State) (i : MethodCall)
    (path : List Ref) (bound : String → Option Ref) (b : Link) : Prop where
  comes : (Link.taken q frame s).ComesTo c b
  embodies : b.state.Embodies b.object i bound
  same : s.SameBut path b.state
  depth : b.frame.depth = frame.depth + 1
  tracing : b.frame.tracing = frame.tracing

/-- **Dataizing what applies the method comes to an object of the method.** -/
theorem State.Applies.calls (applies : s.Applies i path q bound) (c : Computations)
    (frame : Frame) : ∃ b, Calls c q frame s i path bound b := by
  let a := Link.taken q frame s
  obtain ⟨o, t, ⟨steps, settled⟩, is, same⟩ := applies.settles c a.inside
  cases view : (s.heap.cell q).isView with
  | true =>
      have behind : a.Behind c ⟨o, a.inside, t⟩ :=
        ⟨view, rfl, steps, (settle_of_view view).symm.trans settled⟩
      exact ⟨_, .of_behind behind is.concrete, is, same, rfl, rfl⟩
  | false =>
      cases (settle_of_concrete view).symm.trans settled
      exact ⟨a, .refl view, is, same, rfl, rfl⟩

end PhiCalculus
