import PhiCalculus.Proofs.Lifetimes
import PhiCalculus.Proofs.Reaching

/-!
# The objects that an evaluation knows

A function of the evaluator works with objects that it knows: those that are in use around it, those
that its arguments mention, and those that objects it knows hold.  A property of states that speaks
of the objects known, and that every change made with known objects keeps, is a `Custody`.

What a function does is a sequence of requests and changes.  It is `Custody.Careful` if it makes
every request about objects that it knows then, and if whatever it goes on with after the request is
held by what was in use during the request, or came with the answer.  So nothing that a function
keeps for later can go out of existence in between, and a custody that holds when a call is made
holds in every later moment of it (`Custody.Careful.held`, `Custody.Careful.at_request`,
`Custody.Careful.resumed`, `Custody.Careful.later`).
-/

set_option autoImplicit false

namespace PhiCalculus

open PhiCalculus.Action

variable {α β : Type}

/-! ## What is mentioned -/

/-- The objects that an answer mentions. -/
class Mentions (α : Type) where
  refs : α → List Ref

namespace Mentions

instance : Mentions Ref := ⟨fun r => [r]⟩

instance : Mentions Place := ⟨Place.refs⟩

instance : Mentions Value := ⟨Value.items⟩

instance : Mentions Slots := ⟨Slots.refs⟩

instance : Mentions (List Ref) := ⟨id⟩

instance : Mentions Unit := ⟨fun _ => []⟩

instance : Mentions Int64 := ⟨fun _ => []⟩

instance : Mentions Float := ⟨fun _ => []⟩

instance : Mentions Bool := ⟨fun _ => []⟩

instance : Mentions String := ⟨fun _ => []⟩

instance : Mentions (List UInt8) := ⟨fun _ => []⟩

instance : Mentions Pattern := ⟨fun _ => []⟩

instance [Mentions α] : Mentions (Option α) := ⟨fun a => a.elim [] refs⟩

end Mentions

/-- A raise carries an object. -/
def Failure.refs : Failure → List Ref
  | raise _ payload => [payload]
  | _ => []

instance [Mentions α] : Mentions (Except Failure α) where
  refs
    | .ok a => Mentions.refs a
    | .error f => f.refs

/-- The objects that the result of an action mentions. -/
def Outcome.refs [Mentions α] : Outcome α → List Ref
  | answer a _ => Mentions.refs a
  | failure f _ => f.refs
  | unfinished => []

namespace Request

/-- Answers to requests mention objects. -/
@[reducible] def mentions : Request α → Mentions α
  | find _ _ => inferInstanceAs (Mentions Place)
  | read _ => inferInstanceAs (Mentions Ref)
  | resolve _ => inferInstanceAs (Mentions Ref)
  | dataize _ => inferInstanceAs (Mentions Value)
  | eval _ _ => inferInstanceAs (Mentions Ref)

/-- The objects that the answer to a request mentions. -/
def told (q : Request α) (o : Outcome α) : List Ref := @Outcome.refs α q.mentions o

/-- An expression is evaluated for an object that is no view, and the objects that it refers to are
held by that object or known. -/
def Proper (known : List Ref) (s : State) : Request α → Prop
  | eval e self => self.index < s.heap.size ∧ (s.heap.cell self).isView = false ∧
      ∀ x ∈ e.refs, x ∈ s.heap.holds self ∨ x ∈ known
  | _ => True

/-- The object behind views is no view. -/
def Sound (o : Outcome α) : Request α → Prop
  | resolve _ => ∀ r t, o = .answer r t → (t.heap.cell r).isView = false
  | _ => True

end Request

/-! ## What objects hold in later heaps -/

theorem Slot.Grows.refs {s s' : Slot} (grown : s.Grows s') {x : Ref} (there : x ∈ s.refs) :
    x ∈ s'.refs := by
  have stays {a b : Option Ref} (kept : Stays a b) (there : x ∈ a.toList) : x ∈ b.toList := by
    rw [Option.mem_toList] at there ⊢
    exact kept x there
  cases grown with
  | free kept => exact stays kept there
  | once kept =>
      rw [Slot.refs, List.mem_append] at there ⊢
      exact there.imp (stays kept) id
  | vararg longer => exact longer.subset there
  | composite origin => exact there

theorem Slots.mem_refs {slots : Slots} {x : Ref} :
    x ∈ slots.refs ↔ ∃ name slot, (name, slot) ∈ slots ∧ x ∈ slot.refs := by
  simp only [Slots.refs, List.mem_flatMap, Prod.exists]

theorem Slots.Grows.refs {slots slots' : Slots} (grown : Slots.Grows slots slots') {x : Ref}
    (there : x ∈ slots.refs) : x ∈ slots'.refs := by
  induction grown with
  | nil => exact there
  | cons head _ ih =>
      rw [Slots.refs, List.flatMap_cons, List.mem_append] at there ⊢
      exact there.imp head.2.refs ih

theorem Cell.Grows.refs {c c' : Cell} (grown : c.Grows c') {x : Ref} (there : x ∈ c.refs) :
    x ∈ c'.refs := by
  have stays {a b : Option Ref} (kept : Stays a b) (there : x ∈ a.toList) : x ∈ b.toList := by
    rw [Option.mem_toList] at there ⊢
    exact kept x there
  obtain ⟨v, k⟩ := c
  obtain ⟨v', k'⟩ := c'
  cases grown.kind with
  | table _ _ owner slots =>
      rw [Cell.refs, List.mem_append] at there ⊢
      exact there.imp (stays owner) slots.refs
  | data v => exact there
  | view kept =>
      rw [Cell.refs, List.mem_append] at there ⊢
      exact there.imp id (stays kept)

/-- What an object refers to it holds. -/
theorem Heap.holds_of_refs {h : Heap} {r x : Ref} (there : x ∈ (h.cell r).refs) :
    x ∈ h.holds r := by
  simp only [Heap.holds]
  split
  · split
    · exact List.mem_cons_of_mem _ there
    · exact there
  · exact there

/-- A home that is a value is held. -/
theorem Heap.holds_of_home {h : Heap} {r home : Ref} (homed : (h.cell r).home? = some home)
    (isData : (h.cell home).isData = true) : home ∈ h.holds r := by
  simp only [Heap.holds, homed, isData, if_true]
  exact List.mem_cons_self

/-- What an object holds it refers to, or it is a value and its home. -/
theorem Heap.refs_or_home {h : Heap} {r x : Ref} (there : x ∈ h.holds r) :
    x ∈ (h.cell r).refs ∨ ((h.cell r).home? = some x ∧ (h.cell x).isData = true) := by
  simp only [Heap.holds] at there
  split at there
  · next home homed =>
    split at there
    · next isData =>
      rcases List.mem_cons.mp there with rfl | there
      · exact .inr ⟨homed, isData⟩
      · exact .inl there
    · exact .inl there
  · exact .inl there

/-- Where an object is added, only that object may have a home that it did not have before. -/
theorem Heap.home?_of_alloc {h : Heap} {c : Cell} {r home : Ref}
    (homed : ((h.alloc c).2.cell r).home? = some home) :
    (r.index < h.size ∧ (h.cell r).home? = some home) ∨ (r = ⟨h.size⟩ ∧ c.home? = some home) := by
  rcases h.cell_alloc_cases c r with ⟨old, same⟩ | ⟨new, same⟩ | ⟨-, same⟩ <;> rw [same] at homed
  · exact .inl ⟨old, homed⟩
  · exact .inr ⟨new, homed⟩
  · cases homed

/-- Where an object is added, only that object holds what it did not hold before. -/
theorem Heap.holds_of_alloc {h : Heap} {c : Cell} {r x : Ref}
    (exist : ∀ home, (h.cell r).home? = some home → home.index < h.size)
    (held : x ∈ (h.alloc c).2.holds r) :
    x ∈ h.holds r ∨ (r = ⟨h.size⟩ ∧
      (x ∈ c.refs ∨ (c.home? = some x ∧ ((h.alloc c).2.cell x).isData = true))) := by
  have there := Heap.refs_or_home held
  rcases h.cell_alloc_cases c r with ⟨-, same⟩ | ⟨new, same⟩ | ⟨out, -⟩
  · rw [same] at there
    rcases there with referred | ⟨homed, isData⟩
    · exact .inl (Heap.holds_of_refs referred)
    · rw [h.cell_alloc_of_lt c (exist x homed)] at isData
      exact .inl (Heap.holds_of_home homed isData)
  · rw [same] at there
    exact .inr ⟨new, there⟩
  · exact absurd (Heap.exist_of_holds held) out

/-- What an object holds it holds later on. -/
theorem Heap.Grows.holds {h h' : Heap} (grown : h.Grows h') {r x : Ref} (there : x ∈ h.holds r) :
    x ∈ h'.holds r := by
  have cell := grown.cell r (Heap.exist_of_holds there)
  rcases Heap.refs_or_home there with there | ⟨homed, isData⟩
  · exact Heap.holds_of_refs (cell.refs there)
  · refine Heap.holds_of_home (cell.home?.trans homed) ?_
    rw [(grown.cell x (Heap.lt_size_of_isData isData)).isData, isData]

/-! ## Custodies -/

/-- A property of states that speaks of objects known, and that every change made with known objects
keeps.  It comes as a family, one property for each index. -/
structure Custody (ι : Type) where
  /-- The property of that index holds in the state, and these objects may be known. -/
  Holds : ι → List Ref → State → Prop
  /-- Whether everything in use counts as known. -/
  Whole : Prop
  /-- The object may own others. -/
  Owner : State → Ref → Prop
  exist : ∀ {i known s r}, Holds i known s → r ∈ known → r.index < s.heap.size
  fewer : ∀ {i known less s}, Holds i known s → (∀ x ∈ less, x ∈ known) → Holds i less s
  both : ∀ {i known more s}, Holds i known s → Holds i more s → Holds i (known ++ more) s
  held : ∀ {i known s r x}, Holds i known s → r ∈ known → x ∈ s.heap.holds r → Holds i [x] s
  global : ∀ {i known s name r}, Holds i known s → s.global? name = some r → Holds i [r] s
  home : ∀ {i known inUse s r home}, Holds i known s → r ∈ known →
    (Whole → ∀ x ∈ inUse, x ∈ known) → s.home? inUse r = some home → Holds i [home] s
  owner_concrete : ∀ {s r}, (s.heap.cell r).isView = false → Owner s r
  owner_bound : ∀ {i known s r o}, Holds i known s → (s.heap.cell r).owner? = some o → Owner s o
  seen : ∀ {i known s t}, Holds i known s → t.heap = s.heap → t.globals = s.globals →
    Holds i known t
  add : ∀ {i known s t c}, Holds i known s → t.heap = (s.heap.alloc c).2 → t.globals = s.globals →
    c.owner? = none → (∀ x ∈ c.refs, x ∈ known) →
      (∀ home, c.home? = some home →
        home ∈ known ∨ ∃ r ∈ known, (s.heap.cell r).home? = some home) →
          Holds i (⟨s.heap.size⟩ :: known) t
  slot : ∀ {i known s r name old new}, Holds i known s → r ∈ known →
    s.heap.slot? r name = some old → old.Grows new → (∀ x ∈ new.refs, x ∈ old.refs ∨ x ∈ known) →
      Holds i known { s with heap := s.heap.setSlot r name new }
  own : ∀ {i known s r o}, Holds i known s → r ∈ known → o ∈ known → Owner s o →
    (s.heap.cell r).owner? = none → Holds i known { s with heap := s.heap.setOwner r o }
  result : ∀ {i known s r x}, Holds i known s → r ∈ known → x ∈ known →
    (∀ v kept, (s.heap.cell r).kind ≠ .view v (some kept)) →
      Holds i known { s with heap := s.heap.setResult r x }

namespace Custody

variable {ι : Type} (W : Custody ι)

/-- From the state on, the one objects can only be known where the others are. -/
def Yields (s : State) (known more : List Ref) : Prop :=
  ∀ i u, s.heap.Grows u.heap → W.Holds i known u → W.Holds i more u

namespace Yields

variable {W} {s t : State} {known more rest : List Ref}

theorem of_subset (sub : ∀ x ∈ more, x ∈ known) : W.Yields s known more :=
  fun _ _ _ holds => W.fewer holds sub

theorem refl : W.Yields s known known := of_subset fun _ there => there

theorem trans (first : W.Yields s known more) (second : W.Yields s more rest) :
    W.Yields s known rest :=
  fun i u grown holds => second i u grown (first i u grown holds)

theorem both (first : W.Yields s known more) (second : W.Yields s known rest) :
    W.Yields s known (more ++ rest) :=
  fun i u grown holds => W.both (first i u grown holds) (second i u grown holds)

theorem grows (h : W.Yields s known more) (grown : s.heap.Grows t.heap) : W.Yields t known more :=
  fun i u later holds => h i u (grown.trans later) holds

/-- What a known object holds may be known. -/
theorem held {r : Ref} {xs : List Ref} (h : W.Yields s known [r])
    (holds : ∀ x ∈ xs, x ∈ s.heap.holds r) : W.Yields s known xs := by
  intro i u grown here
  induction xs with
  | nil => exact W.fewer here nofun
  | cons x rest ih =>
      have first := W.held (h i u grown here) List.mem_cons_self
        (grown.holds (holds x List.mem_cons_self))
      exact W.both first (ih fun y there => holds y (List.mem_cons_of_mem _ there))

/-- What every one of the objects may be. -/
theorem each (h : ∀ x ∈ more, W.Yields s known [x]) : W.Yields s known more := by
  intro i u grown here
  induction more with
  | nil => exact W.fewer here nofun
  | cons x rest ih =>
      exact W.both (h x List.mem_cons_self i u grown here)
        (ih fun y there => h y (List.mem_cons_of_mem _ there))

end Yields

/-! ## Settings -/

/-- What surrounds an action, and the objects that are known all along. -/
structure Setting where
  frame : Frame
  held : List Ref
  whole : W.Whole → held = frame.held

variable {W}

/-- The setting in which everything in use is known. -/
def Setting.of (frame : Frame) : W.Setting := ⟨frame, frame.held, fun _ => rfl⟩

theorem Setting.covers (setting : W.Setting) (all : W.Whole) {x : Ref}
    (there : x ∈ setting.frame.held) : x ∈ setting.held := by
  rwa [setting.whole all]

/-- The setting with more objects in use, which are known. -/
def Setting.holding (setting : W.Setting) (refs : List Ref) : W.Setting where
  frame := setting.frame.holding refs
  held := refs ++ setting.held
  whole all := congrArg (refs ++ ·) (setting.whole all)

theorem Setting.held_holding (setting : W.Setting) (refs : List Ref) :
    (setting.holding refs).held = refs ++ setting.held := rfl

/-- The setting one dataization deeper. -/
def Setting.deeper (setting : W.Setting) : W.Setting where
  frame := { setting.frame with depth := setting.frame.depth + 1 }
  held := setting.held
  whole := setting.whole

variable (W)

/-! ## Care -/

/-- What is done from a state on, knowing some objects, is made of requests and changes in such a
way that each request is about objects known then, and that what is done after it knows no more than
what was in use during the request and what came with the answer.  In the end there are `keeps`
among the known objects, along with those that the result mentions.  Nothing is asked where nothing
is in custody. -/
inductive Careful [Mentions α] (keeps : List Ref) (post : α → State → Prop) :
    State → List Ref → (Answerer → Outcome α) → Prop where
  | ends {s : State} {known : List Ref} {o : Outcome α} : s.heap.Grows o.state.heap →
      (∀ i, W.Holds i known s → W.Holds i (o.refs ++ keeps) o.state) →
        (∀ a t, o = .answer a t → post a t) → Careful keeps post s known fun _ => o
  | asks {s : State} {known : List Ref} {β : Type} {q : Request β} {around : W.Setting} {t : State}
      {k : Outcome β → Answerer → Outcome α} : s.heap.Grows t.heap →
      (∀ i, W.Holds i known s → W.Holds i (q.refs ++ around.held) t) → q.Proper around.held t →
        (∀ u ask, k (@Outcome.unfinished β u) ask = @Outcome.unfinished α u) →
          (∀ o : Outcome β, t.heap.Grows o.state.heap → q.Sound o →
            Careful keeps post o.state (q.told o ++ (q.refs ++ around.held)) (k o)) →
              Careful keeps post s known fun ask => k (ask q around.frame t) ask
  | idle {s : State} {known : List Ref} {run : Answerer → Outcome α} :
      (∀ i, ¬ W.Holds i known s) → Careful keeps post s known run

namespace Careful

variable {W} {mα : Mentions α} {mβ : Mentions β} {keeps keeps' known known' : List Ref}
  {post : α → State → Prop} {setting : W.Setting} {s t : State}

/-- What is done from a later state on, knowing no more. -/
theorem enter {run : Answerer → Outcome α} (h : W.Careful keeps post t known' run)
    (grown : s.heap.Grows t.heap) (knows : ∀ i, W.Holds i known s → W.Holds i known' t) :
    W.Careful keeps post s known run := by
  cases h with
  | ends later holds holds' =>
      exact .ends (grown.trans later) (fun i here => holds i (knows i here)) holds'
  | asks later holds proper short next =>
      exact .asks (grown.trans later) (fun i here => holds i (knows i here)) proper short next
  | idle none => exact .idle fun i here => none i (knows i here)

theorem weaken {post' : α → State → Prop} {run : Answerer → Outcome α}
    (h : W.Careful keeps post s known run) (later : ∀ a t, post a t → post' a t) :
    W.Careful keeps post' s known run := by
  induction h with
  | ends grown holds holds' => exact .ends grown holds fun a t is => later a t (holds' a t is)
  | asks grown holds proper short _ ih => exact .asks grown holds proper short ih
  | idle none => exact .idle none

/-- What can be told from what is in custody. -/
theorem assuming {P : Prop} {run : Answerer → Outcome α} (gives : ∀ i, W.Holds i known s → P)
    (h : P → W.Careful keeps post s known run) : W.Careful keeps post s known run := by
  by_cases holds : ∃ i, W.Holds i known s
  · obtain ⟨i, here⟩ := holds
    exact h (gives i here)
  · exact .idle (not_exists.mp holds)

theorem of_eq {run run' : Answerer → Outcome α} (h : W.Careful keeps post s known run')
    (same : ∀ ask : Answerer, run ask = run' ask) : W.Careful keeps post s known run := by
  rwa [show run = run' from funext same]

theorem answer {a : α} (grown : s.heap.Grows t.heap)
    (holds : ∀ i, W.Holds i known s → W.Holds i (Mentions.refs a ++ keeps) t) (is : post a t) :
    W.Careful keeps post s known fun _ => .answer a t :=
  .ends grown holds fun _ _ same => by cases same; exact is

/-- An action that answers at once. -/
theorem pure {a : α} (knows : W.Yields s known (Mentions.refs a ++ keeps)) (is : post a s) :
    W.Careful keeps post s known fun _ => .answer a s :=
  answer (Heap.Grows.refl _) (fun i here => knows i s (Heap.Grows.refl _) here) is

/-- An action that fails at once. -/
theorem fail {f : Failure} (knows : W.Yields s known (f.refs ++ keeps)) :
    W.Careful keeps post s known fun _ => (.failure f s : Outcome α) :=
  .ends (Heap.Grows.refl _) (fun i here => knows i s (Heap.Grows.refl _) here) nofun

/-- A single request. -/
theorem request {q : Request β} (same : q.mentions = mβ) (proper : q.Proper setting.held s)
    (knows : W.Yields s known (q.refs ++ setting.held))
    (stays : W.Yields s (q.refs ++ setting.held) keeps) :
    W.Careful keeps (fun a t => q.Sound (.answer a t)) s known fun ask =>
      ask q setting.frame s := by
  refine .asks (k := fun o _ => o) (Heap.Grows.refl _)
    (fun i here => knows i s (Heap.Grows.refl _) here) proper (fun _ _ => rfl) fun o later sound => ?_
  refine .ends (Heap.Grows.refl _) (fun i here => ?_) fun a t is => by rw [← is]; exact sound
  rw [← same]
  refine W.both (W.fewer here fun _ there => List.mem_append_left _ there) ?_
  exact stays i o.state later (W.fewer here fun _ there => List.mem_append_right _ there)

/-! ### Putting together -/

/-- What follows an answer; anything else passes. -/
def followed (o : Outcome α) (k : α → State → Outcome β) : Outcome β :=
  match o with
  | .answer a t => k a t
  | .failure f t => .failure f t
  | @Outcome.unfinished _ t => @Outcome.unfinished _ t

theorem following {run : Answerer → Outcome α} {k : α → State → Answerer → Outcome β}
    {mid : α → State → Prop} {post : β → State → Prop} (first : W.Careful keeps mid s known run)
    (rest : ∀ a t, s.heap.Grows t.heap → mid a t →
      W.Careful keeps' post t (Mentions.refs a ++ keeps) (k a t))
    (less : W.Yields s keeps keeps') :
    W.Careful keeps' post s known fun ask => followed (run ask) fun a t => k a t ask := by
  induction first with
  | @ends s known o grown holds is =>
      cases o with
      | answer a t => exact (rest a t grown (is a t rfl)).enter grown holds
      | failure f t =>
          refine .ends grown (fun i here => ?_) nofun
          have ends := holds i here
          exact W.both (W.fewer ends fun _ there => List.mem_append_left _ there)
            (less i _ grown (W.fewer ends fun _ there => List.mem_append_right _ there))
      | @unfinished t =>
          exact .ends grown (fun i here => less i _ grown (holds i here)) nofun
  | @asks s known γ q around t next grown holds proper short _ ih =>
      refine .asks (k := fun o ask => followed (next o ask) fun a t => k a t ask) grown holds
        proper (fun u ask => by rw [short]; rfl) fun o later sound => ?_
      have beyond := grown.trans later
      exact ih o later sound (fun a t on mid => rest a t (beyond.trans on) mid) (less.grows beyond)
  | idle none => exact .idle none

/-- How an action ended, as an answer. -/
def observed (o : Outcome α) : Outcome (Except Failure α) :=
  match o with
  | .answer a t => .answer (.ok a) t
  | .failure f t => .answer (.error f) t
  | @Outcome.unfinished _ t => @Outcome.unfinished _ t

theorem observing {run : Answerer → Outcome α} {mid : α → State → Prop}
    (first : W.Careful keeps mid s known run) :
    W.Careful keeps (fun (e : Except Failure α) t => ∀ a, e = .ok a → mid a t) s known
      fun ask => observed (run ask) := by
  induction first with
  | @ends s known o grown holds is =>
      cases o with
      | answer a t =>
          refine answer grown holds fun b same => ?_
          cases same
          exact is a t rfl
      | failure f t => exact answer grown holds nofun
      | @unfinished t => exact .ends grown holds nofun
  | @asks s known γ q around t next grown holds proper short _ ih =>
      exact .asks (k := fun o ask => observed (next o ask)) grown holds proper
        (fun u ask => by rw [short]; rfl) ih
  | idle none => exact .idle none

end Careful

/-! ## Runs with care -/

/-- Answers make the heap grow, they give no view for what is behind views, and what was in custody
when a request was made is in custody when it is answered. -/
structure Keeps (ask : Answerer) : Prop where
  grows : ∀ {α : Type} (q : Request α) (frame : Frame) (s : State),
    s.heap.Grows (ask q frame s).state.heap
  sound : ∀ {α : Type} (q : Request α) (frame : Frame) (s : State), q.Sound (ask q frame s)
  holds : ∀ {α : Type} {q : Request α} {setting : W.Setting} {s : State},
    q.Proper setting.held s → ∀ i, W.Holds i (q.refs ++ setting.held) s →
      W.Holds i (q.told (ask q setting.frame s) ++ (q.refs ++ setting.held))
        (ask q setting.frame s).state

namespace Careful

variable {W} {mα : Mentions α} {keeps known : List Ref} {post : α → State → Prop} {s t : State}
  {run : Answerer → Outcome α} {ask ask' : Answerer} {β : Type} {q : Request β} {around : Frame}

/-- What is in custody at the start is in custody in the end. -/
theorem held (careful : W.Careful keeps post s known run) (asked : W.Keeps ask) {i : ι}
    (here : W.Holds i known s) : W.Holds i ((run ask).refs ++ keeps) (run ask).state := by
  induction careful with
  | ends _ holds _ => exact holds i here
  | asks _ holds proper _ _ ih =>
      exact ih _ (asked.grows _ _ _) (asked.sound _ _ _) (asked.holds proper i (holds i here))
  | idle none => exact absurd here (none i)

/-- What is in custody at the start is in custody at each request, in the setting in which the
request is made. -/
theorem at_request (careful : W.Careful keeps post s known run) (asked : W.Keeps ask)
    (same : ∀ {γ : Type} (q' : Request γ) around' t', Elsewhere q around t q' around' t' →
      ask' q' around' t' = ask q' around' t')
    (differs : run ask' ≠ run ask) {i : ι} (here : W.Holds i known s) :
    ∃ setting : W.Setting, setting.frame = around ∧ q.Proper setting.held t ∧
      s.heap.Grows t.heap ∧ W.Holds i (q.refs ++ setting.held) t := by
  induction careful with
  | ends => exact absurd rfl differs
  | @asks s known γ q' setting t' next grown holds proper _ _ ih =>
      by_cases elsewhere : Elsewhere q around t q' setting.frame t'
      · change next (ask' q' setting.frame t') ask' ≠ next (ask q' setting.frame t') ask at differs
        rw [same q' setting.frame t' elsewhere] at differs
        obtain ⟨setting', surrounds, properly, later, reaches⟩ := ih (ask q' setting.frame t')
          (asked.grows _ _ _) (asked.sound _ _ _) differs (asked.holds proper i (holds i here))
        exact ⟨setting', surrounds, properly, (grown.trans (asked.grows _ _ _)).trans later, reaches⟩
      · cases not_not.mp elsewhere
        exact ⟨setting, rfl, proper, grown, holds i here⟩
  | idle none => exact absurd here (none i)

variable (all : W.Whole)
include all

/-- Where everything in use is known, it is in custody at each request. -/
theorem reached (careful : W.Careful keeps post s known run) (asked : W.Keeps ask)
    (same : ∀ {γ : Type} (q' : Request γ) around' t', Elsewhere q around t q' around' t' →
      ask' q' around' t' = ask q' around' t')
    (differs : run ask' ≠ run ask) {i : ι} (here : W.Holds i known s) :
    q.Proper around.held t ∧ s.heap.Grows t.heap ∧ W.Holds i (q.refs ++ around.held) t := by
  obtain ⟨setting, rfl, reaches⟩ := careful.at_request asked same differs here
  rwa [setting.whole all] at reaches

/-- What is in custody when a request was answered is in custody in the end. -/
theorem resumed (careful : W.Careful keeps post s known run) (asked : W.Keeps ask)
    (same : ∀ {γ : Type} (q' : Request γ) around' t', Elsewhere q around t q' around' t' →
      ask' q' around' t' = ask q' around' t')
    (differs : run ask' ≠ run ask) {i j : ι} (start : W.Holds j known s)
    (here : W.Holds i (q.told (ask q around t) ++ (q.refs ++ around.held)) (ask q around t).state) :
    W.Holds i ((run ask).refs ++ keeps) (run ask).state := by
  induction careful with
  | ends => exact absurd rfl differs
  | @asks s known γ q' setting t' next grown holds proper _ careful ih =>
      by_cases elsewhere : Elsewhere q around t q' setting.frame t'
      · change next (ask' q' setting.frame t') ask' ≠ next (ask q' setting.frame t') ask at differs
        rw [same q' setting.frame t' elsewhere] at differs
        exact ih (ask q' setting.frame t') (asked.grows _ _ _) (asked.sound _ _ _) differs
          (asked.holds proper j (holds j start))
      · cases not_not.mp elsewhere
        rw [← setting.whole all] at here
        exact (careful _ (asked.grows _ _ _) (asked.sound _ _ _)).held asked here
  | idle none => exact absurd start (none j)

variable {γ : Type} {q₂ : Request γ} {around₂ : Frame} {t₂ : State} {ask₂ : Answerer}

/-- What is in custody when a request was answered is in custody at each later request: one that is
reached, but not before the first one is. -/
theorem later (careful : W.Careful keeps post s known run) (asked : W.Keeps ask)
    (other : Elsewhere q around t q₂ around₂ t₂)
    (first : ∀ ask' : Answerer,
      (∀ {δ : Type} (q' : Request δ) around' t', Elsewhere q around t q' around' t' →
        Elsewhere q₂ around₂ t₂ q' around' t' → ask' q' around' t' = ask q' around' t') →
        ∀ u, ask' q around t = @Outcome.unfinished β u → run ask' = @Outcome.unfinished α u)
    (same : ∀ {δ : Type} (q' : Request δ) around' t', Elsewhere q₂ around₂ t₂ q' around' t' →
      ask₂ q' around' t' = ask q' around' t')
    (differs : run ask₂ ≠ run ask) {i j : ι} (start : W.Holds j known s)
    (here : W.Holds i (q.told (ask q around t) ++ (q.refs ++ around.held)) (ask q around t).state) :
    W.Holds i (q₂.refs ++ around₂.held) t₂ := by
  induction careful with
  | ends => exact absurd rfl differs
  | @asks s known δ q' setting t' next grown holds proper short careful ih =>
      by_cases elsewhere : Elsewhere q around t q' setting.frame t'
      · by_cases elsewhere₂ : Elsewhere q₂ around₂ t₂ q' setting.frame t'
        · change next (ask₂ q' setting.frame t') ask₂ ≠ next (ask q' setting.frame t') ask at differs
          rw [same q' setting.frame t' elsewhere₂] at differs
          refine ih (ask q' setting.frame t') (asked.grows _ _ _) (asked.sound _ _ _) ?_ differs
            (asked.holds proper j (holds j start))
          intro ask' agrees u cut
          have ends : next (ask' q' setting.frame t') ask' = _ := first ask' agrees u cut
          rwa [agrees q' setting.frame t' elsewhere elsewhere₂] at ends
        · -- the second request comes first, but the run is cut short where the first one is
          cases not_not.mp elsewhere₂
          classical
          let u : State := { t with trace := "" :: t.trace }
          let cut : Answerer := fun {ε} q' around' t' =>
            if Elsewhere q around t q' around' t' then
              if Elsewhere q₂ setting.frame t₂ q' around' t' then ask q' around' t'
              else @Outcome.unfinished ε u
            else @Outcome.unfinished ε t
          have ends : next (cut q₂ setting.frame t₂) cut = _ := first cut
            (fun q' around' t' one two => (if_pos one).trans (if_pos two)) t
            (if_neg (not_not_intro rfl))
          have second : cut q₂ setting.frame t₂ = @Outcome.unfinished γ u :=
            (if_pos elsewhere).trans (if_neg (not_not_intro rfl))
          rw [second, short] at ends
          have traces := congrArg (fun o : Outcome α => o.state.trace.length) ends
          simp [u, Outcome.state] at traces
      · cases not_not.mp elsewhere
        have rest := careful (ask q setting.frame t) (asked.grows _ _ _) (asked.sound _ _ _)
        change next (ask₂ q setting.frame t) ask₂ ≠ next (ask q setting.frame t) ask at differs
        rw [same q setting.frame t fun is => other is.symm] at differs
        rw [← setting.whole all] at here
        exact (rest.reached all asked same differs here).2.2
  | idle none => exact absurd start (none j)

end Careful

end Custody

end PhiCalculus
