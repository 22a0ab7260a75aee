import Mathlib.Data.List.Induction
import Mathlib.Tactic.SplitIfs
import PhiCalculus.Value.Literal

/-!
# Escapes

From the left, the text of a literal falls into pieces: a backslash takes the next character along,
whatever it is, and any other character is a piece of its own (`Text.Pieces`).  So a backslash that
was taken along by the one before starts nothing.  A text has its pieces in one way only
(`Text.pieces_iff`), and it denotes what they denote, one after the other
(`Text.Pieces.decodeEscapes_eq`).

Most pieces denote themselves.  The others are enough to write every text
(`Text.decodeEscapes_encodeEscapes`), so each one is the value of a literal
(`Value.escapes_are_decoded`).
-/

set_option autoImplicit false

namespace PhiCalculus

namespace Text

/-! ## Pieces -/

/-- A piece of the text of a literal. -/
inductive Piece where
  /-- A character other than a backslash. -/
  | plain (c : Char)
  /-- A backslash and the character after it. -/
  | pair (c : Char)
  /-- A backslash with nothing after it. -/
  | lone
  deriving DecidableEq

/-- What a piece denotes: four of the pairs are escapes, and every other piece stays as written. -/
def Piece.denotes : Piece → List Char
  | plain c => [c]
  | pair 'n' => ['\n']
  | pair 'r' => ['\r']
  | pair 't' => ['\t']
  | pair '\\' => ['\\']
  | pair c => ['\\', c]
  | lone => ['\\']

/-- The text consists of the pieces, which do not overlap. -/
inductive Pieces : List Char → List Piece → Prop where
  | nil : Pieces [] []
  | plain {c : Char} {rest : List Char} {pieces : List Piece} : c ≠ '\\' → Pieces rest pieces →
      Pieces (c :: rest) (.plain c :: pieces)
  | pair {c : Char} {rest : List Char} {pieces : List Piece} : Pieces rest pieces →
      Pieces ('\\' :: c :: rest) (.pair c :: pieces)
  | lone : Pieces ['\\'] [.lone]

variable {text front back rest : List Char} {pieces pieces' fronts backs : List Piece} {c : Char}

/-- What is put after a text without a lone backslash at its end leaves its pieces as they are. -/
theorem Pieces.append (split : Pieces front fronts) (whole : .lone ∉ fronts)
    (split' : Pieces back backs) : Pieces (front ++ back) (fronts ++ backs) := by
  induction split with
  | nil => exact split'
  | plain other _ ih => exact .plain other (ih (List.not_mem_of_not_mem_cons whole))
  | pair _ ih => exact .pair (ih (List.not_mem_of_not_mem_cons whole))
  | lone => exact absurd List.mem_cons_self whole

theorem Pieces.unique (split : Pieces text pieces) (split' : Pieces text pieces') :
    pieces' = pieces := by
  induction split generalizing pieces' with
  | nil =>
      cases split'
      rfl
  | plain other _ ih =>
      cases split' with
      | plain _ split' => rw [ih split']
      | pair _ => exact absurd rfl other
      | lone => exact absurd rfl other
  | pair _ ih =>
      cases split' with
      | plain other _ => exact absurd rfl other
      | pair split' => rw [ih split']
  | lone =>
      cases split' with
      | plain other _ => exact absurd rfl other
      | lone => rfl

/-- **Every text has pieces**, found from the left with one character looked ahead. -/
theorem exists_pieces (text : List Char) : ∃ pieces, Pieces text pieces := by
  -- after a backslash the text goes on behind the character that it has taken along
  induction text using List.twoStepInduction with
  | nil => exact ⟨[], .nil⟩
  | singleton c =>
      by_cases backslash : c = '\\'
      · subst backslash
        exact ⟨_, .lone⟩
      · exact ⟨_, .plain backslash .nil⟩
  | cons_cons c d rest ih ih' =>
      by_cases backslash : c = '\\'
      · subst backslash
        obtain ⟨pieces, split⟩ := ih
        exact ⟨_, .pair split⟩
      · obtain ⟨pieces, split⟩ := ih' d
        exact ⟨_, .plain backslash split⟩

/-- The pieces of a text are what it consists of and nothing else. -/
theorem pieces_iff (split : Pieces text pieces) : Pieces text pieces' ↔ pieces' = pieces := by
  constructor
  · exact split.unique
  · rintro rfl
    exact split

/-- A text without a backslash is taken character by character. -/
theorem pieces_plain (none : '\\' ∉ text) : Pieces text (text.map .plain) := by
  induction text with
  | nil => exact .nil
  | cons c rest ih =>
      rw [List.mem_cons, not_or] at none
      exact .plain (Ne.symm none.1) (ih none.2)

/-! ## Decoding -/

theorem decodeEscapes_plain (other : c ≠ '\\') :
    decodeEscapes (c :: rest) = c :: decodeEscapes rest := by
  rw [decodeEscapes] <;> simp [other]

theorem decodeEscapes_pair :
    decodeEscapes ('\\' :: c :: rest) = (Piece.pair c).denotes ++ decodeEscapes rest := by
  unfold Piece.denotes
  split <;> simp_all [decodeEscapes]

/-- **A text denotes what its pieces denote.** -/
theorem Pieces.decodeEscapes_eq (split : Pieces text pieces) :
    decodeEscapes text = pieces.flatMap Piece.denotes := by
  induction split with
  | nil => rfl
  | plain other _ ih =>
      rw [decodeEscapes_plain other, List.flatMap_cons, ih]
      rfl
  | pair _ ih => rw [decodeEscapes_pair, List.flatMap_cons, ih]
  | lone => rfl

theorem decodeEscapes_of_no_backslash (none : '\\' ∉ text) : decodeEscapes text = text := by
  rw [(pieces_plain none).decodeEscapes_eq, List.flatMap_map]
  exact List.flatMap_singleton' text

/-- **What is written with escapes denotes what was to be written.** -/
theorem decodeEscapes_encodeEscapes (text : List Char) :
    decodeEscapes (encodeEscapes text) = text := by
  induction text with
  | nil => rfl
  | cons c rest ih =>
      have escaped {d : Char} (means : (Piece.pair d).denotes = [c]) :
          decodeEscapes ('\\' :: d :: encodeEscapes rest) = c :: rest := by
        rw [decodeEscapes_pair, means, ih]
        rfl
      simp only [encodeEscapes, beq_iff_eq]
      split_ifs with backslash newline carriage tab
      · exact escaped (by rw [backslash]; rfl)
      · exact escaped (by rw [newline]; rfl)
      · exact escaped (by rw [carriage]; rfl)
      · exact escaped (by rw [tab]; rfl)
      · rw [decodeEscapes_plain backslash, ih]

end Text

/-! ## Literals -/

namespace Value

open Text

theorem parse_string (text : String) :
    parse .string text = .ok (.string (String.ofList (decodeEscapes text.toList))) := rfl

theorem parse_char_eq_ok {text : String} {v : Value} :
    parse .char text = .ok v ↔ ∃ c, decodeEscapes text.toList = [c] ∧ v = .char c := by
  rw [parse]
  split
  · next c one => simp [one, eq_comm]
  · next other => simpa using fun c one => absurd one (other c)

/-- **Every text and every character is the value of a literal: the one in which backslashes, line
ends and tabs are written as escapes.**  Any text consists of pieces in just one way, and as a
string literal it denotes what they denote in their order.  An escaped backslash is a piece, so
what comes after it is read as if it stood alone, and without a backslash nothing changes.  As a
character literal the text is read just if its pieces denote one character. -/
theorem escapes_are_decoded :
    (∀ s : String, parse .string (String.ofList (encodeEscapes s.toList)) = .ok (.string s)) ∧
    (∀ c : Char, parse .char (String.ofList (encodeEscapes [c])) = .ok (.char c)) ∧
    ∀ text : String, ∃ pieces, (∀ pieces', Pieces text.toList pieces' ↔ pieces' = pieces) ∧
      parse .string text = .ok (.string (String.ofList (pieces.flatMap Piece.denotes))) ∧
      (.lone ∉ pieces → ∀ rest t, parse .string rest = .ok (.string t) →
        parse .string (text ++ "\\\\" ++ rest) =
          .ok (.string (String.ofList (pieces.flatMap Piece.denotes) ++ "\\" ++ t))) ∧
      ('\\' ∉ text.toList → parse .string text = .ok (.string text)) ∧
      ∀ v, parse .char text = .ok v ↔ ∃ c, pieces.flatMap Piece.denotes = [c] ∧ v = .char c := by
  refine ⟨fun s => ?_, fun c => ?_, fun text => ?_⟩
  · rw [parse_string, String.toList_ofList, decodeEscapes_encodeEscapes, String.ofList_toList]
  · refine parse_char_eq_ok.mpr ⟨c, ?_, rfl⟩
    rw [String.toList_ofList, decodeEscapes_encodeEscapes]
  · obtain ⟨pieces, split⟩ := exists_pieces text.toList
    have denotes := split.decodeEscapes_eq
    refine ⟨pieces, fun _ => pieces_iff split, ?_, fun whole rest t read => ?_, fun none => ?_,
      fun v => ?_⟩
    · rw [parse_string, denotes]
    · obtain ⟨rests, split'⟩ := exists_pieces rest.toList
      obtain rfl : String.ofList (decodeEscapes rest.toList) = t := by
        simpa [parse_string] using read
      have joined := (split.append whole (.pair (c := '\\') split')).decodeEscapes_eq
      have spelled : (text ++ "\\\\" ++ rest).toList =
          text.toList ++ '\\' :: '\\' :: rest.toList := by
        simp
      rw [parse_string, spelled, joined, List.flatMap_append, List.flatMap_cons,
        split'.decodeEscapes_eq, String.ofList_append, String.ofList_append, String.append_assoc]
      rfl
    · rw [parse_string, decodeEscapes_of_no_backslash none, String.ofList_toList]
    · rw [parse_char_eq_ok, denotes]

/-- After a pair that is no escape there is an escaped backslash, and the letter behind it stays a
letter. -/
theorem escaped_backslash_starts_nothing : parse .string "\\d\\\\n" = .ok (.string "\\d\\n") := by
  obtain ⟨-, -, reads⟩ := escapes_are_decoded
  obtain ⟨pieces, only, -, joins, -⟩ := reads "\\d"
  obtain rfl := (only [.pair 'd']).mp (.pair .nil)
  exact joins (by decide) "n" "n" rfl

end Value

end PhiCalculus
