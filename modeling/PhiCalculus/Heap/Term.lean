import PhiCalculus.Heap

/-!
# Terms of objects

The term of an object shows its slots and what is in them, down to a limit of depth.  Rendering a
term computes nothing: an empty slot is shown as `Ø`, a slot not yet computed as `λ`, a view by
how it derives its object.

The elements of an array are shown in full again, so an array that contains itself has no finite
term.  Along any path through a term fewer than twenty steps lie between one array and the next,
and a finite path meets no array twice; this bounds the allowance of steps that suffices.
-/

set_option autoImplicit false

namespace PhiCalculus

/-- The depth below which a term is abbreviated. -/
def termDepth : Nat := 6

/-- What stands for the parts that are left out. -/
def leftOut : String := "…"

/-- The slots of an object after its form. -/
def tableTerm (form : String) (slots : List String) : String :=
  form ++ "⟦" ++ Value.commas slots ++ "⟧"

mutual

/-- The term of an object at some depth. -/
def Heap.termAt (h : Heap) : Nat → Nat → Ref → Option String
  | 0, _, _ => none
  | fuel + 1, depth, r =>
    if termDepth < depth then some leftOut
    else
      let inner := h.termAt fuel (depth + 1)
      match (h.cell r).kind with
      | .data v => (v.items.mapM (h.termAt fuel 0)).map v.termOf
      | .view _ (some result) => h.termAt fuel depth result
      | .view (.bind base key value) none => do
        let base ← inner base
        let value ← inner value
        some (base ++ "(" ++ key.text ++ " ↦ " ++ value ++ ")")
      | .view (.method base name) none => (inner base).map (· ++ "." ++ name)
      | .view (.copy base) none => (inner base).map (· ++ "′")
      | .view (.unvar base) none => (inner base).map (· ++ "...")
      | .table t =>
        (t.slots.mapM fun (name, s) =>
          (h.slotTermAt fuel (depth + 1) s).map ((name ++ " ↦ ") ++ ·)).map (tableTerm t.form)

/-- The term of a slot at some depth. -/
def Heap.slotTermAt (h : Heap) : Nat → Nat → Slot → Option String
  | 0, _, _ => none
  | fuel + 1, depth, s =>
    if termDepth < depth then some leftOut
    else
      let inner := h.termAt fuel (depth + 1)
      match s with
      | .free (some r) => inner r
      | .free none => some "Ø"
      | .once _ (some r) => inner r
      | .once _ none => some "λ"
      | .vararg items => (items.mapM inner).map Value.arrayTerm
      | .composite _ => some "λ"

end

namespace Heap

/-- The steps that suffice for a term, if it is finite. -/
def termFuel (h : Heap) : Nat := 20 * (h.size + 1)

/-- The term of an object; there is none when it would be infinite. -/
def term? (h : Heap) (r : Ref) : Option String := h.termAt h.termFuel 0 r

/-- The term of a value. -/
def valueTerm? (h : Heap) (v : Value) : Option String := (v.items.mapM h.term?).map v.termOf

end Heap

/-- A slot as it is described: its behaviour, and what is in it. -/
def Heap.slotText (h : Heap) : Slot → String
  | .free (some r) => "Free(" ++ (h.subject r).text ++ ")"
  | .free none => "Free(Ø)"
  | .once _ (some r) => "Once(" ++ (h.subject r).text ++ ")"
  | .once _ none => "Once(λ)"
  | .vararg items => "Vararg(" ++ toString items.length ++ " items)"
  | .composite _ => "Composite(λ)"

end PhiCalculus
