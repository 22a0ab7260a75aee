import PhiCalculus.Proofs.VeiledExpressions

/-!
# Evaluations that do not notice veiled objects

A request is answered alike in states that differ in veiled objects only, if nothing that is asked
meanwhile notices a veiled object (`Request.tracked`), and the same holds of everything that is made
of requests (`Tracks.of_heedless`).  So where one of the runs ends, the other one does
(`Tracks.forward`, `Tracks.backward`).
-/

set_option autoImplicit false

namespace PhiCalculus

open PhiCalculus.Action

/-! ## Requests that notice nothing -/

/-- The query comes across a veiled object: it is about a veiled object or is answered with one, it
resolves a view that derives from one, or it looks for a home, or around an object for a name, and
meets a home that is veiled or clings to what is veiled. -/
inductive Query.Notices (c : Computations) (veiled : Veil) : Query → Prop where
  | about {d : Query} {x : Ref} : x ∈ d.request.refs → veiled x → Notices c veiled d
  | given {d : Query} {a : d.α} {t : State} : d.outcome c = .answer a t →
      ¬ d.request.Spares veiled.covers a → Notices c veiled d
  | derives {r x : Ref} {v : View} {kept : Option Ref} {steps : Nat} {frame : Frame} {s : State} :
      (s.heap.cell r).kind = .view v kept → x ∈ v.refs → veiled x →
        Notices c veiled ⟨.resolve r, steps, frame, s⟩
  | clings {r : Ref} {steps : Nat} {frame : Frame} {s : State} :
      s.Clings veiled (r :: frame.held) r →
      Notices c veiled ⟨.find r sigma, steps, frame, s⟩
  | strays {name : String} {r : Ref} {steps : Nat} {frame : Frame} {s : State} :
      s.heap.slot? r name = none → s.Strays veiled (r :: frame.held) name r →
        Notices c veiled ⟨.eval (.name name) r, steps, frame, s⟩

/-- The query is a dataization that asks for a term which does not come to an end. -/
inductive Query.Stalls (c : Computations) : Query → Prop where
  | mk {r : Ref} {steps : Nat} {frame : Frame} {s u : State} {found : Except Failure Value} :
      (forceValue (answered c steps) r).Ends (Link.taken r frame s).frame s found u →
        u.Untold frame.tracing r found → Stalls c ⟨.dataize r, steps, frame, s⟩

variable {α : Type} {veiled : Veil} {frame frame' : Frame} {s s' : State}

/-- **A request that notices nothing itself is answered alike,** if the others are; a dataization is
the subject of `Abreast.dataizeObject`. -/
theorem Abreast.answers {ask ask' : Answerer} (agree : ask.Agrees veiled ask')
    (here : Abreast veiled frame frame' s s') {c : Computations} {steps : Nat} {q : Request α}
    (heedless : ¬ Query.Notices c veiled ⟨q, steps, frame, s⟩) (other : q.dataized? = none) :
    Follows veiled anything (PhiCalculus.answer ask q frame s)
      (PhiCalculus.answer ask' q frame' s') := by
  have seen (x : Ref) (there : x ∈ q.refs) : ¬ veiled x := fun is => heedless (.about there is)
  have here := here.holding q.refs
  cases q with
  | find r name =>
      refine here.findPlace agree (seen r List.mem_cons_self) name fun is clings => ?_
      subst is
      exact heedless (.clings clings)
  | read p => exact here.readPlace agree seen
  | resolve r =>
      exact here.resolveView agree (seen r List.mem_cons_self) fun v kept kind x there is =>
        heedless (.derives kind there is)
  | dataize r => cases other
  | eval e self =>
      refine here.evalExpr agree (seen self List.mem_cons_self) fun name is undeclared strays => ?_
      subst is
      exact heedless (.strays undeclared strays)

/-- Nothing that is asked while the action runs comes across a veiled object. -/
def Computations.Heedless (c : Computations) (veiled : Veil) (x : Answerer → Action α)
    (frame : Frame) (s : State) : Prop :=
  ∀ steps d, c.Meets x steps frame s d → ¬ d.Notices c veiled

/-- Every dataization that is asked for while the action runs has the terms that it asks for. -/
def Computations.Legible (c : Computations) (x : Answerer → Action α) (frame : Frame) (s : State) :
    Prop :=
  ∀ steps d, c.Meets x steps frame s d → ¬ d.Stalls c

/-! ## Runs that are cut short -/

open Classical in
/-- Answers requests, but is cut short with nothing left at a request in the midst of which
something with the property is asked. -/
noncomputable def Computations.lostAt (c : Computations) (P : Query → Prop) (steps : Nat) :
    Answerer :=
  fun {β} q around t =>
    if ∃ k, steps = k + 1 ∧ ∃ d, Query.Within c ⟨q, k, around, t⟩ d ∧ P d then
      @Outcome.unfinished β { t with heap := {} }
    else answered c steps q around t

/-- A run that meets nothing with the property is not cut short. -/
theorem lostAt_eq {c : Computations} {x : Answerer → Action α} {R : State → State → Prop}
    {catching : Prop} (made : Stepwise R catching x) {P : Query → Prop} {steps : Nat}
    (calm : ∀ d, c.Meets x steps frame s d → ¬ P d) :
    x (c.lostAt P steps) frame s = x (answered c steps) frame s := by
  rcases made.reaches_or_same (answered c steps) frame s (c.lostAt P steps) with
    same | ⟨β, q, around, t, reaches, differs⟩
  · exact same
  · by_cases trouble : ∃ k, steps = k + 1 ∧ ∃ d, Query.Within c ⟨q, k, around, t⟩ d ∧ P d
    · obtain ⟨k, rfl, d, within, is⟩ := trouble
      exact absurd is (calm d ⟨_, .mk reaches.dependsOn, within⟩)
    · exact absurd (if_neg trouble) differs

/-- What a part asks is asked by the whole, which is cut short where the part is. -/
theorem Computations.Asks.of_part {β : Type} {c : Computations} {x : Answerer → Action α}
    {y : Answerer → Action β} {R : State → State → Prop} {catching : Prop} {steps : Nat} {d : Query}
    (asks : c.Asks x steps frame s d) (made : Stepwise R catching x)
    (cut : ∀ (ask : Answerer) u, x ask frame s = @Outcome.unfinished α u →
      y ask frame' s' = @Outcome.unfinished β u) : c.Asks y steps frame' s' d := by
  cases asks with
  | mk depends =>
      have reaches := made.reaches_of_dependsOn depends
      exact .mk (Reaches.dependsOn fun ask same u short => cut ask u (reaches ask same u short))

/-- A dataization asks what is asked to look for the value. -/
theorem Query.asks_of_forceValue {c : Computations} {r : Ref} {steps : Nat} {d : Query}
    (asks : c.Asks (fun ask => forceValue ask r) steps (Link.taken r frame s).frame s d) :
    Query.Asks c ⟨.dataize r, steps, frame, s⟩ d := by
  have made : Stepwise State.Creates True fun ask => forceValue ask r := stepwise_forceValue r
  refine asks.of_part made fun ask u short => ?_
  show dataizeObject ask r (frame.holding [r]) s = _
  have cut : deeper (forceValue ask r) (frame.holding [r]) s = @Outcome.unfinished Value u := short
  rw [dataizeObject_apply]
  exact bind_of_unfinished (observe_of_unfinished cut) _

/-! ## Two runs -/

/-- The action goes the same way in states that differ in veiled objects only, whichever way
requests are answered that agrees. -/
def Tracks (veiled : Veil) (post : α → Prop) (x : Answerer → Action α) (frame frame' : Frame)
    (s s' : State) : Prop :=
  ∀ ask ask' : Answerer, ask.Agrees veiled ask' →
    Follows veiled post (x ask frame s) (x ask' frame' s')

/-- The request is answered alike where nothing notices a veiled object and no dataization stalls. -/
def Request.Tracked (veiled : Veil) (steps : Nat) (q : Request α) : Prop :=
  ∀ {frame frame' : Frame} {s s' : State}, Abreast veiled frame frame' s s' →
    (∀ d, Query.Within .ofExpressions ⟨q, steps, frame, s⟩ d →
      ¬ d.Notices .ofExpressions veiled ∧ ¬ d.Stalls .ofExpressions) →
    (∀ d, Query.Within .ofExpressions ⟨q, steps, frame', s'⟩ d → ¬ d.Stalls .ofExpressions) →
      Follows veiled (q.Spares veiled.covers) (answered .ofExpressions (steps + 1) q frame s)
        (answered .ofExpressions (steps + 1) q frame' s')

/-- What is asked is answered alike, so the whole action ends alike. -/
theorem Tracks.follows {x : Answerer → Action α} {R : State → State → Prop} {catching : Prop}
    {post : α → Prop} {steps : Nat} (tracks : Tracks veiled post x frame frame' s s')
    (made : Stepwise R catching x)
    (asked : ∀ k, steps = k + 1 → ∀ {β : Type} (q : Request β), q.Tracked veiled k)
    (calm : ∀ d, Computations.ofExpressions.Meets x steps frame s d →
      ¬ d.Notices .ofExpressions veiled ∧ ¬ d.Stalls .ofExpressions)
    (legible : ∀ d, Computations.ofExpressions.Meets x steps frame' s' d →
      ¬ d.Stalls .ofExpressions) :
    Follows veiled post (x (answered .ofExpressions steps) frame s)
      (x (answered .ofExpressions steps) frame' s') := by
  classical
  let c := Computations.ofExpressions
  let troubled (d : Query) : Prop := d.Notices c veiled ∨ d.Stalls c
  -- each run is lost at a request in the midst of which something goes wrong, so the others agree
  have agree : Answerer.Agrees veiled (c.lostAt troubled steps) (c.lostAt (·.Stalls c) steps) := by
    intro β q around around' t t' here
    show Follows veiled _ (if _ then _ else _) (if _ then _ else _)
    split
    · exact .lost rfl
    · next calm =>
      split
      · exact .lost' rfl
      · next legible =>
        cases steps with
        | zero => exact .unfinished
        | succ k =>
            refine asked k rfl q here (fun d within => ?_) fun d within stalls =>
              legible ⟨k, rfl, d, within, stalls⟩
            exact not_or.mp fun trouble => calm ⟨k, rfl, d, within, trouble⟩
  have follows := tracks _ _ agree
  rwa [lostAt_eq made fun d meets => not_or.mpr (calm d meets), lostAt_eq made legible] at follows

/-- **A request is answered alike in states that differ in veiled objects only,** if nothing that is
asked meanwhile notices a veiled object, and no dataization stalls. -/
theorem Request.tracked (veiled : Veil) (steps : Nat) (q : Request α) : q.Tracked veiled steps := by
  let c := Computations.ofExpressions
  induction steps using Nat.strongRecOn generalizing α with
  | ind steps ih =>
      intro frame frame' s s' here calm legible
      have fewer (k : Nat) (is : steps = k + 1) {β : Type} (q : Request β) : q.Tracked veiled k :=
        ih k (by omega) q
      have itself : ¬ Query.Notices c veiled ⟨q, steps, frame, s⟩ := (calm _ .refl).1
      have follows : Follows veiled anything (answered c (steps + 1) q frame s)
          (answered c (steps + 1) q frame' s') := by
        rw [answered_succ]
        cases dataizes : q.dataized? with
        | none =>
            let x : Answerer → Action α := fun ask => answerBy c ask q
            have same (ask : Answerer) : x ask = PhiCalculus.answer ask q := by cases q <;> rfl
            have tracks : Tracks veiled anything x frame frame' s s' := by
              intro ask ask' agree
              rw [same, same]
              exact Abreast.answers agree here itself dataizes
            have asked {frame : Frame} {s : State} {d : Query} (meets : c.Meets x steps frame s d) :
                Query.Within c ⟨q, steps, frame, s⟩ d :=
              let ⟨_, asks, within⟩ := meets
              .head asks within
            exact tracks.follows (changes_answerBy c q) fewer (fun d meets => calm d (asked meets))
              fun d meets => legible d (asked meets)
        | some r =>
            cases q with
            | dataize r =>
                let x : Answerer → Action Value := fun ask => forceValue ask r
                have made : Stepwise State.Creates True x := stepwise_forceValue r
                have around := here.holding [r]
                have seen : ¬ veiled r := fun is => itself (.about List.mem_cons_self is)
                have tracks : Tracks veiled anything x (Link.taken r frame s).frame
                    (Link.taken r frame' s').frame s s' :=
                  fun ask ask' agree => around.deeper.forceFor agree r seen
                have asked {frame : Frame} {s : State} {d : Query}
                    (meets : c.Meets x steps (Link.taken r frame s).frame s d) :
                      Query.Within c ⟨.dataize r, steps, frame, s⟩ d :=
                  let ⟨_, asks, within⟩ := meets
                  .head (Query.asks_of_forceValue asks) within
                have forced := tracks.follows made fewer (fun d meets => calm d (asked meets))
                  fun d meets => legible d (asked meets)
                exact around.dataizeObject rfl rfl forced
                  (fun _ _ ends untold => (calm _ .refl).2 (.mk ends untold))
                  fun _ _ ends untold => legible _ .refl (.mk ends untold)
            | _ => cases dataizes
      refine follows.weaken fun a t ends _ => by_contra fun noticed => ?_
      rw [answered_succ] at ends
      exact itself (.given ends noticed)

/-! ## Ends of runs -/

namespace Tracks

variable {x : Answerer → Action α} {post : α → Prop} {result result' : Except Failure α}
  {t t' : State}

section

variable (tracks : Tracks veiled post x frame frame' s s') (made : Stepwise State.Creates True x)
  (heedless : Computations.ofExpressions.Heedless veiled x frame s)
  (legible : Computations.ofExpressions.Legible x frame s)
  (legible' : Computations.ofExpressions.Legible x frame' s')
include tracks made heedless legible legible'

/-- **What notices no veiled object does not depend on any:** it goes the same way in states that
differ in veiled objects only. -/
theorem of_heedless (steps : Nat) : Follows veiled post (x (answered .ofExpressions steps) frame s)
    (x (answered .ofExpressions steps) frame' s') :=
  tracks.follows made (fun k _ _ q => q.tracked veiled k)
    (fun d meets => ⟨heedless steps d meets, legible steps d meets⟩) (legible' steps)

/-- Where one of the runs ends, both do, and alike. -/
theorem of_ends {steps : Nat} (something : 0 < s.heap.size) (something' : 0 < s'.heap.size)
    (ends : (∃ result t, (x (answered .ofExpressions steps)).Ends frame s result t) ∨
      ∃ result t, (x (answered .ofExpressions steps)).Ends frame' s' result t) :
    ∃ result result' t t', (x (answered .ofExpressions steps)).Ends frame s result t ∧
      (x (answered .ofExpressions steps)).Ends frame' s' result' t' ∧
        Failure.Seen veiled post result result' ∧ t.Veils veiled t' := by
  have follows := tracks.of_heedless made heedless legible legible' steps
  have grown (frame : Frame) (s : State) :
      s.Grows (x (answered .ofExpressions steps) frame s).state :=
    (made.mono State.Creates.grows).moves State.Grows.trans (moves_answeredUntil _ _ steps) frame s
  have grows := grown frame s
  have grows' := grown frame' s'
  generalize before : x (answered .ofExpressions steps) frame s = o at follows grows
  generalize after : x (answered .ofExpressions steps) frame' s' = o' at follows grows'
  cases follows with
  | answer states holds =>
      exact ⟨_, _, _, _, (ends_of_answer before).mpr ⟨rfl, rfl⟩,
        (ends_of_answer after).mpr ⟨rfl, rfl⟩, .ok holds, states⟩
  | failure states like plain =>
      exact ⟨_, _, _, _, (ends_of_failure before).mpr ⟨rfl, rfl⟩,
        (ends_of_failure after).mpr ⟨rfl, rfl⟩, .error like plain, states⟩
  | lost empty =>
      exact absurd (something.trans_le grows.size) (by rw [Outcome.state, empty]; decide)
  | lost' empty =>
      exact absurd (something'.trans_le grows'.size) (by rw [Outcome.state, empty]; decide)
  | unfinished =>
      rcases ends with ⟨_, _, ends⟩ | ⟨_, _, ends⟩
      · exact absurd ends (not_ends_of_unfinished before)
      · exact absurd ends (not_ends_of_unfinished after)

/-- Where the first run ends, the second one does. -/
theorem forward (something : 0 < s.heap.size) (something' : 0 < s'.heap.size)
    (runs : Computations.ofExpressions.Runs x frame s result t) :
    ∃ result' t', Computations.ofExpressions.Runs x frame' s' result' t' ∧
      Failure.Seen veiled post result result' ∧ t.Veils veiled t' := by
  obtain ⟨steps, ends⟩ := runs
  obtain ⟨first, second, u, u', before, after, seen, states⟩ :=
    tracks.of_ends made heedless legible legible' something something' (.inl ⟨_, _, ends⟩)
  obtain ⟨rfl, rfl⟩ := before.unique ends
  exact ⟨second, u', ⟨steps, after⟩, seen, states⟩

/-- Where the second run ends, the first one does. -/
theorem backward (something : 0 < s.heap.size) (something' : 0 < s'.heap.size)
    (runs : Computations.ofExpressions.Runs x frame' s' result' t') :
    ∃ result t, Computations.ofExpressions.Runs x frame s result t ∧
      Failure.Seen veiled post result result' ∧ t.Veils veiled t' := by
  obtain ⟨steps, ends⟩ := runs
  obtain ⟨first, second, u, u', before, after, seen, states⟩ :=
    tracks.of_ends made heedless legible legible' something something' (.inr ⟨_, _, ends⟩)
  obtain ⟨rfl, rfl⟩ := after.unique ends
  exact ⟨first, u, ⟨steps, before⟩, seen, states⟩

end

end Tracks

end PhiCalculus
