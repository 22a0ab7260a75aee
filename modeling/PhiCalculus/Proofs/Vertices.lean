import Mathlib.Data.List.Basic
import Mathlib.Data.List.Induction
import PhiCalculus.Registry

/-!
# How vertices are numbered

The vertices that a registry has handed out are the numbers from 1 to its size.  A ticket and an
array get a number that nobody had before, and labelled values get the same number exactly if they
have the same type and label, whatever happened in between (`Registry.numbers_are_dense`).

Tickets are counted apart from the list that all keys share, so it takes an invariant that no ticket
of the list is ahead of the counter (`Registry.Sound`).  A type and a label are one text there, and
the text names both because no name of a type has a blank (`VertexKey.labelled_inj`).
-/

set_option autoImplicit false

namespace PhiCalculus

/-! ## Keys -/

/-- The type and the label under which a value shares its vertex; an array has none. -/
def Value.key? (v : Value) : Option (TypeTag × String) := v.label.map (v.tag, ·)

namespace TypeTag

theorem name_injective : Function.Injective name := fun t t' same => by
  have known := ofName?_name t
  rw [same, ofName?_name] at known
  exact (Option.some.inj known).symm

/-- The name of a type is the text before the first blank. -/
theorem takeWhile_name (t : TypeTag) (rest : List Char) :
    (t.name.toList ++ ' ' :: rest).takeWhile (· != ' ') = t.name.toList := by
  have noBlank : t.name.toList.all (· != ' ') = true := by
    cases t <;> decide
  rw [List.takeWhile_append_of_pos (List.all_eq_true.mp noBlank),
    List.takeWhile_cons_of_neg (by decide), List.append_nil]

end TypeTag

/-- The text of a key names the type and the label. -/
theorem VertexKey.labelled_inj {key key' : TypeTag × String} :
    labelled key.1 key.2 = labelled key'.1 key'.2 ↔ key = key' := by
  obtain ⟨t, label⟩ := key
  obtain ⟨t', label'⟩ := key'
  refine ⟨fun same => ?_, fun same => by rw [same]⟩
  have texts : t.name.toList ++ ' ' :: label.toList = t'.name.toList ++ ' ' :: label'.toList := by
    simpa using congrArg String.toList (content.inj same)
  have names := congrArg (List.takeWhile (· != ' ')) texts
  rw [TypeTag.takeWhile_name, TypeTag.takeWhile_name] at names
  obtain rfl := TypeTag.name_injective (String.toList_inj.mp names)
  have labels := List.cons.inj (List.append_cancel_left texts)
  rw [String.toList_inj.mp labels.2]

namespace Registry

/-! ## One key -/

section Register

variable {g : Registry} {key key' : VertexKey} {v w : Vertex}

/-- A key is known already, or it gets the next number. -/
theorem register_cases (g : Registry) (key : VertexKey) :
    (g.find? key = some (g.register key).1 ∧ (g.register key).2 = g) ∨
      (g.find? key = none ∧ g.register key =
        (⟨g.size + 1⟩, { g with seen := (key, ⟨g.size + 1⟩) :: g.seen })) := by
  rw [register]
  cases found : g.find? key with
  | some v => exact .inl ⟨rfl, rfl⟩
  | none => exact .inr ⟨rfl, rfl⟩

theorem find?_register (g : Registry) (key key' : VertexKey) :
    (g.register key).2.find? key' =
      if key' = key then some (g.register key).1 else g.find? key' := by
  rcases g.register_cases key with ⟨known, same⟩ | ⟨-, new⟩
  · rw [same]
    split
    · next here => rw [here, known]
    · rfl
  · rw [new, find?, List.lookup_cons]
    by_cases here : key' = key
    · rw [if_pos here, here, beq_self_eq_true]
    · rw [if_neg here, beq_false_of_ne here]
      rfl

/-- The numbers do not go beyond the size, two keys have two numbers, and no ticket is ahead of the
counter. -/
structure Sound (g : Registry) : Prop where
  used : ∀ {key v}, g.find? key = some v → 1 ≤ v.number ∧ v.number ≤ g.size
  apart : ∀ {key key' v}, g.find? key = some v → g.find? key' = some v → key = key'
  drawn : ∀ {n v}, g.find? (.ticket n) = some v → n ≤ g.count

theorem sound_empty : Sound {} := ⟨nofun, nofun, nofun⟩

/-- The next ticket was not drawn before. -/
theorem Sound.next_ticket (sound : g.Sound) : g.find? (.ticket (g.count + 1)) = none := by
  cases found : g.find? (.ticket (g.count + 1)) with
  | none => rfl
  | some v => exact absurd (sound.drawn found) (Nat.not_succ_le_self _)

/-- A key gets a number of its own. -/
theorem Sound.register (sound : g.Sound) (drawn : ∀ n, key = .ticket n → n ≤ g.count) :
    (g.register key).2.Sound := by
  rcases g.register_cases key with ⟨-, same⟩ | ⟨-, new⟩
  · rwa [same]
  have size : (g.register key).2.size = g.size + 1 := by rw [new]; rfl
  have count : (g.register key).2.count = g.count := by rw [new]
  have cases' {k : VertexKey} {v : Vertex} (found : (g.register key).2.find? k = some v) :
      (k = key ∧ v.number = g.size + 1) ∨ g.find? k = some v := by
    rw [find?_register] at found
    split at found
    · next here =>
      refine .inl ⟨here, ?_⟩
      rw [← Option.some.inj found, new]
    · exact .inr found
  refine ⟨fun {k v} found => ?_, fun {k k' v} found found' => ?_, fun {n v} found => ?_⟩
  · rw [size]
    rcases cases' found with ⟨-, last⟩ | found
    · omega
    · exact (sound.used found).imp_right Nat.le_succ_of_le
  · rcases cases' found with ⟨here, last⟩ | found <;>
      rcases cases' found' with ⟨here', last'⟩ | found'
    · exact here.trans here'.symm
    · have used := (sound.used found').2
      omega
    · have used := (sound.used found).2
      omega
    · exact sound.apart found found'
  · rw [count]
    rcases cases' found with ⟨here, -⟩ | found
    · exact drawn n here.symm
    · exact sound.drawn found

end Register

/-! ## What is handed out -/

/-- The vertex belongs to the values of that type and label. -/
def Labels (g : Registry) (key : TypeTag × String) (v : Vertex) : Prop :=
  g.find? (.labelled key.1 key.2) = some v

/-- The registry hands out a vertex, for a type and label or for the next ticket. -/
inductive Hands (g : Registry) : Option (TypeTag × String) → Vertex → Registry → Prop where
  | next : Hands g none g.next.1 g.next.2
  | content (key : TypeTag × String) :
      Hands g (some key) (g.content key.1 key.2).1 (g.content key.1 key.2).2

theorem hands_best (g : Registry) (v : Value) : g.Hands v.key? (g.best v).1 (g.best v).2 := by
  rw [Value.key?, best]
  cases v.label with
  | none => exact .next
  | some label => exact .content (v.tag, label)

namespace Sound

variable {g : Registry} {v : Vertex}

theorem next (sound : g.Sound) : g.next.2.Sound := by
  have counted : Sound { g with count := g.count + 1 } :=
    ⟨sound.used, sound.apart, fun found => Nat.le_succ_of_le (sound.drawn found)⟩
  refine counted.register fun n here => ?_
  cases here
  exact Nat.le_refl _

theorem next_eq (sound : g.Sound) : g.next = (⟨g.size + 1⟩,
    { count := g.count + 1, seen := (.ticket (g.count + 1), ⟨g.size + 1⟩) :: g.seen }) := by
  rcases register_cases { g with count := g.count + 1 } (.ticket (g.count + 1)) with
    ⟨known, -⟩ | ⟨-, new⟩
  · cases sound.next_ticket.symm.trans known
  · exact new

/-- A vertex has one label at most. -/
theorem label_unique (sound : g.Sound) {k k' : TypeTag × String} (known : g.Labels k v)
    (known' : g.Labels k' v) : k = k' :=
  VertexKey.labelled_inj.mp (sound.apart known known')

end Sound

namespace Hands

variable {g g' : Registry} {key : Option (TypeTag × String)} {v : Vertex}

/-- The vertex is the next number, or it has the label already and nothing changes. -/
theorem cases (hands : g.Hands key v g') (sound : g.Sound) :
    (v = ⟨g.size + 1⟩ ∧ g'.size = g.size + 1 ∧ ∀ k w, key = some k → ¬ g.Labels k w) ∨
      (g' = g ∧ ∃ k, key = some k ∧ g.Labels k v) := by
  cases hands with
  | next =>
      rw [sound.next_eq]
      exact .inl ⟨rfl, rfl, nofun⟩
  | content key =>
      rcases g.register_cases (.labelled key.1 key.2) with ⟨known, same⟩ | ⟨unknown, new⟩
      · exact .inr ⟨same, key, rfl, known⟩
      · refine .inl ?_
        rw [Registry.content, new]
        refine ⟨rfl, rfl, fun k w here known => ?_⟩
        cases here
        cases unknown.symm.trans known

/-- The vertex is new, or it has the label already. -/
theorem fresh_or (hands : g.Hands key v g') (sound : g.Sound) :
    v.number = g.size + 1 ∨ ∃ k, key = some k ∧ g.Labels k v :=
  (hands.cases sound).imp (fun fresh => congrArg Vertex.number fresh.1) And.right

theorem sound (hands : g.Hands key v g') (sound : g.Sound) : g'.Sound := by
  cases hands with
  | next => exact sound.next
  | content key => exact sound.register nofun

theorem size (hands : g.Hands key v g') (sound : g.Sound) : g.size ≤ g'.size := by
  rcases hands.cases sound with ⟨-, size, -⟩ | ⟨same, -⟩
  · rw [size]
    exact Nat.le_succ _
  · exact Nat.le_of_eq (congrArg Registry.size same.symm)

/-- What has been handed out then is what had been before, and the vertex. -/
theorem within_iff (hands : g.Hands key v g') (sound : g.Sound) {w : Vertex} :
    (1 ≤ w.number ∧ w.number ≤ g'.size) ↔ (1 ≤ w.number ∧ w.number ≤ g.size) ∨ w = v := by
  rcases hands.cases sound with ⟨rfl, size, -⟩ | ⟨rfl, k, -, known⟩
  · have last : w = ⟨g.size + 1⟩ ↔ w.number = g.size + 1 :=
      ⟨congrArg Vertex.number, congrArg Vertex.mk⟩
    rw [size, last]
    omega
  · refine (or_iff_left_of_imp ?_).symm
    rintro rfl
    exact sound.used known

theorem used (hands : g.Hands key v g') (sound : g.Sound) :
    1 ≤ v.number ∧ v.number ≤ g'.size :=
  (hands.within_iff sound).mpr (.inr rfl)

/-- Labels belong to what they belonged to, and the label asked for to what is handed out. -/
theorem labels (hands : g.Hands key v g') {k : TypeTag × String} {w : Vertex} :
    g'.Labels k w ↔ if key = some k then w = v else g.Labels k w := by
  cases hands with
  | next =>
      rw [if_neg nofun, Labels, Registry.next, find?_register, if_neg nofun]
      exact Iff.rfl
  | content key =>
      rw [Labels, Registry.content, find?_register]
      by_cases same : key = k
      · subst same
        rw [if_pos rfl, if_pos rfl]
        exact ⟨fun given => (Option.some.inj given).symm, fun given => congrArg some given.symm⟩
      · rw [if_neg fun here => same (VertexKey.labelled_inj.mp here).symm,
          if_neg fun here => same (Option.some.inj here)]
        exact Iff.rfl

/-- What is handed out has the label that it was handed out for, and no other. -/
theorem labels_iff (hands : g.Hands key v g') (sound : g.Sound) {k : TypeTag × String} :
    g'.Labels k v ↔ key = some k := by
  rw [hands.labels]
  split
  · next same => exact iff_of_true rfl same
  · next other =>
    refine iff_of_false (fun known => ?_) other
    rcases hands.cases sound with ⟨rfl, -, -⟩ | ⟨-, k', rfl, known'⟩
    · exact absurd (sound.used known).2 (Nat.not_succ_le_self _)
    · exact other (congrArg some (sound.label_unique known' known))

/-- Vertices that were there keep their labels and get no others. -/
theorem labels_of_used (hands : g.Hands key v g') (sound : g.Sound) {w : Vertex}
    (used : w.number ≤ g.size) {k : TypeTag × String} : g'.Labels k w ↔ g.Labels k w := by
  rcases hands.cases sound with ⟨rfl, -, unknown⟩ | ⟨rfl, -⟩
  · rw [hands.labels]
    split
    · next same =>
      refine iff_of_false (fun here => ?_) (unknown k w same)
      subst here
      exact absurd used (Nat.not_succ_le_self _)
    · exact Iff.rfl
  · exact Iff.rfl

end Hands

/-! ## Queries -/

/-- What a registry is asked for: a new vertex, that of a value, or that of a literal given by the
name of its type and its label. -/
inductive Query where
  | next
  | best (v : Value)
  | bestOf (tag label : String)

namespace Query

/-- The type and the label that a query is for. -/
def key? : Query → Option (TypeTag × String)
  | next => none
  | best v => v.key?
  | bestOf tag label => ((TypeTag.ofName? tag).filter (· ≠ .array)).map (·, label)

/-- The query is for something that is never shared. -/
inductive Fresh : Query → Prop where
  | next : Fresh next
  | array (items : List Ref) : Fresh (best (.array items))

/-- The query is for a label of a type that has none, or that does not exist. -/
inductive Rejected : Query → Prop where
  | unknown {tag : String} (label : String) : TypeTag.ofName? tag = none →
      Rejected (bestOf tag label)
  | array {tag : String} (label : String) : TypeTag.ofName? tag = some .array →
      Rejected (bestOf tag label)

end Query

/-- The answer to a query, and the registry that it leaves. -/
def ask (g : Registry) : Query → Except Failure Vertex × Registry
  | .next => (.ok g.next.1, g.next.2)
  | .best v => (.ok (g.best v).1, (g.best v).2)
  | .bestOf tag label => g.bestOf tag label

/-- A query that is rejected changes nothing; any other one hands out a vertex. -/
theorem ask_cases (g : Registry) (q : Query) :
    (q.Rejected ∧ ∃ f, g.ask q = (.error f, g)) ∨
      ¬ q.Rejected ∧ ∃ v g', g.ask q = (.ok v, g') ∧ g.Hands q.key? v g' := by
  cases q with
  | next => exact .inr ⟨nofun, _, _, rfl, .next⟩
  | best v => exact .inr ⟨nofun, _, _, rfl, g.hands_best v⟩
  | bestOf tag label =>
      rw [ask, bestOf, Query.key?]
      split
      · next none => exact .inl ⟨.unknown label none, _, rfl⟩
      · next array => exact .inl ⟨.array label array, _, rfl⟩
      · next t other known =>
        refine .inr ⟨?_, _, _, rfl, ?_⟩
        · rintro (⟨_, none⟩ | ⟨_, array⟩)
          · cases none.symm.trans known
          · exact other (Option.some.inj (known.symm.trans array))
        · rw [known, Option.filter_some_pos (by simpa using other)]
          exact .content (t, label)

/-- The registry after queries. -/
def after (queries : List Query) : Registry :=
  queries.foldl (fun g q => (g.ask q).2) {}

/-- Queries with the answers that they get one after the other. -/
def answers (g : Registry) : List Query → List (Query × Except Failure Vertex)
  | [] => []
  | q :: rest => (q, (g.ask q).1) :: (g.ask q).2.answers rest

theorem after_concat (queries : List Query) (q : Query) :
    after (queries ++ [q]) = ((after queries).ask q).2 := by
  rw [after, List.foldl_append]
  rfl

theorem answers_concat (g : Registry) (queries : List Query) (q : Query) :
    g.answers (queries ++ [q]) =
      g.answers queries ++ [(q, ((queries.foldl (fun g q => (g.ask q).2) g).ask q).1)] := by
  induction queries generalizing g with
  | nil => rfl
  | cons first rest ih => exact congrArg ((first, (g.ask first).1) :: ·) (ih (g.ask first).2)

/-- The registry knows the queries that were answered: which numbers they got, and with which
label. -/
structure Answered (g : Registry) (past : List (Query × Except Failure Vertex)) : Prop where
  sound : g.Sound
  numbers : ∀ v : Vertex, (∃ q, (q, .ok v) ∈ past) ↔ 1 ≤ v.number ∧ v.number ≤ g.size
  labels : ∀ {q : Query} {v : Vertex}, (q, .ok v) ∈ past →
    ∀ key, g.Labels key v ↔ q.key? = some key

namespace Answered

variable {g : Registry} {past : List (Query × Except Failure Vertex)}

theorem used (answered : g.Answered past) {q : Query} {v : Vertex} (there : (q, .ok v) ∈ past) :
    1 ≤ v.number ∧ v.number ≤ g.size :=
  (answered.numbers v).mp ⟨q, there⟩

/-- One more query is answered. -/
theorem ask (answered : g.Answered past) (q : Query) :
    (g.ask q).2.Answered (past ++ [(q, (g.ask q).1)]) := by
  have mem {q' : Query} {answer : Except Failure Vertex} {v : Vertex} :
      (q', Except.ok v) ∈ past ++ [(q, answer)] ↔
        (q', .ok v) ∈ past ∨ q' = q ∧ answer = .ok v := by
    rw [List.mem_append, List.mem_singleton, Prod.mk.injEq, eq_comm (a := Except.ok v)]
  rcases g.ask_cases q with ⟨-, f, rejected⟩ | ⟨-, v, g', given, hands⟩
  · rw [rejected]
    refine ⟨answered.sound, fun v => ?_, fun there => ?_⟩
    · rw [← answered.numbers]
      exact exists_congr fun q' => mem.trans (or_iff_left nofun)
    · exact answered.labels ((mem.mp there).resolve_right nofun)
  · rw [given]
    refine ⟨hands.sound answered.sound, fun w => ?_, fun {q' w} there key => ?_⟩
    · rw [exists_congr fun q' => mem, exists_or, answered.numbers, hands.within_iff answered.sound]
      refine or_congr Iff.rfl ⟨?_, ?_⟩
      · rintro ⟨_, -, given⟩
        exact (Except.ok.inj given).symm
      · rintro rfl
        exact ⟨q, rfl, rfl⟩
    · rcases mem.mp there with there | ⟨rfl, again⟩
      · rw [hands.labels_of_used answered.sound (answered.used there).2]
        exact answered.labels there key
      · rw [← Except.ok.inj again]
        exact hands.labels_iff answered.sound

/-- A query gets the vertex of an earlier one exactly if both are for the same label. -/
theorem shares_iff (answered : g.Answered past) {q q' : Query} {v w : Vertex}
    (there : (q', .ok v) ∈ past) (given : (g.ask q).1 = .ok w) :
    v = w ↔ ∃ key, q'.key? = some key ∧ q.key? = some key := by
  rcases g.ask_cases q with ⟨-, f, rejected⟩ | ⟨-, w', g', given', hands⟩
  · rw [rejected] at given
    cases given
  · rw [given'] at given
    obtain rfl := Except.ok.inj given
    have used := (answered.used there).2
    constructor
    · rintro rfl
      rcases hands.cases answered.sound with ⟨rfl, -⟩ | ⟨-, key, here, known⟩
      · exact absurd used (Nat.not_succ_le_self _)
      · exact ⟨key, (answered.labels there key).mp known, here⟩
    · rintro ⟨key, early, here⟩
      have known := (answered.labels there key).mpr early
      have labels := (hands.labels_of_used answered.sound used).mpr known
      rwa [hands.labels, if_pos here] at labels

/-- What is never shared gets the next number. -/
theorem fresh (answered : g.Answered past) {q : Query} (fresh : q.Fresh) :
    (g.ask q).1 = .ok ⟨g.size + 1⟩ ∧ ∀ q', (q', .ok ⟨g.size + 1⟩) ∉ past := by
  refine ⟨?_, fun q' there => absurd (answered.used there).2 (Nat.not_succ_le_self _)⟩
  have next : (.ok g.next.1 : Except Failure Vertex) = .ok ⟨g.size + 1⟩ := by
    rw [answered.sound.next_eq]
  cases fresh <;> exact next

end Answered

/-- Whatever is asked, the registry knows what it answered. -/
theorem answered_after (queries : List Query) : (after queries).Answered (answers {} queries) := by
  induction queries using List.reverseRecOn with
  | nil => exact ⟨sound_empty, fun v => by simp [answers, after, size]; omega, nofun⟩
  | append_singleton queries q ih =>
      rw [after_concat, answers_concat]
      exact ih.ask q

/-- **The vertices handed out are the numbers from 1 to the size.**  After any queries, a ticket or
an array gets the next one; one query more gets the vertex of an earlier one exactly if both are for
the same type and label; and a query that is rejected, which are those for arrays and unknown types,
changes nothing. -/
theorem numbers_are_dense (queries : List Query) (q : Query) :
    (∀ v : Vertex, (∃ q', (q', .ok v) ∈ answers {} queries) ↔
      1 ≤ v.number ∧ v.number ≤ (after queries).size) ∧
    (q.Fresh → ((after queries).ask q).1 = .ok ⟨(after queries).size + 1⟩ ∧
      ∀ q', (q', .ok ⟨(after queries).size + 1⟩) ∉ answers {} queries) ∧
    (∀ (q' : Query) (v w : Vertex), (q', .ok v) ∈ answers {} queries →
      ((after queries).ask q).1 = .ok w →
      (v = w ↔ ∃ key, q'.key? = some key ∧ q.key? = some key)) ∧
    (q.Rejected ↔ ∃ f, ((after queries).ask q).1 = .error f) ∧
    (q.Rejected → ((after queries).ask q).2 = after queries) := by
  have answered := answered_after queries
  refine ⟨answered.numbers, answered.fresh, fun q' v w => answered.shares_iff, ?_, ?_⟩
  · rcases (after queries).ask_cases q with ⟨rejected, f, is⟩ | ⟨accepted, v, g', is, -⟩
    · exact iff_of_true rejected ⟨f, congrArg Prod.fst is⟩
    · exact iff_of_false accepted fun ⟨f, is'⟩ => by rw [is] at is'; cases is'
  · intro rejected
    rcases (after queries).ask_cases q with ⟨-, f, is⟩ | ⟨accepted, -⟩
    · rw [is]
    · exact absurd rejected accepted

end Registry

end PhiCalculus
