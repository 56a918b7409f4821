import FieldRules.Message.Template
import FieldRules.Proofs.Cutting

/-!
# Places for parameters

* `placeCount`: how many places a template has.
* `Filled`: a text is a template with one parameter in each of its places.
* `filled_fillChars`: that is what filling a template gives if there are as many
  parameters as places.
-/

namespace FieldRules.Message

open Text

/-- The number of places of a template. -/
def placeCount : List Char → Nat
  | [] => 0
  | c :: rest => (if placeMark.isPrefixOf (c :: rest) then 1 else 0) + placeCount rest

/-- The text is the template with a parameter in each of its places, in order. -/
inductive Filled : (template : List Char) → (params : List (List Char)) → (text : List Char) → Prop
  | rest {piece : List Char} (hfree : ¬ placeMark <:+: piece) : Filled piece [] piece
  | place {piece template param text : List Char} {params : List (List Char)}
      (hfree : ¬ placeMark <:+: piece) (hrest : Filled template params text) :
      Filled (piece ++ placeMark ++ template) (param :: params) (piece ++ param ++ text)

variable {template before after : List Char}

theorem placeCount_cons_of_not {c : Char} {rest : List Char} (hnot : ¬ placeMark <+: c :: rest) :
    placeCount (c :: rest) = placeCount rest := by
  rw [placeCount, if_neg (by rwa [List.isPrefixOf_iff_prefix]), Nat.zero_add]

/-- No place begins within another one. -/
theorem placeCount_placeMark (after : List Char) :
    placeCount (placeMark ++ after) = placeCount after + 1 := by
  have hlead : placeMark.isPrefixOf (':' :: ("param".toList ++ after)) = true :=
    List.isPrefixOf_iff_prefix.2 ⟨after, rfl⟩
  change placeCount (':' :: ("param".toList ++ after)) = _
  rw [placeCount, if_pos hlead]
  have hinner : placeCount ("param".toList ++ after) = placeCount after := by
    simp only [String.reduceToList, List.cons_append, List.nil_append]
    iterate 5
      rw [placeCount_cons_of_not (by simp [placeMark])]
  rw [hinner, Nat.add_comm]

theorem placeCount_eq_zero_of_splitAt? (h : splitAt? placeMark template = none) :
    placeCount template = 0 := by
  rw [splitAt?_eq_none_iff] at h
  induction template with
  | nil => rfl
  | cons c rest ih =>
    rw [List.infix_cons_iff, not_or] at h
    rw [placeCount_cons_of_not h.1, ih h.2]

theorem placeCount_of_splitAt? (h : splitAt? placeMark template = some (before, after)) :
    placeCount template = placeCount after + 1 := by
  induction template generalizing before with
  | nil => cases h
  | cons c rest ih =>
    rw [splitAt?] at h
    cases hlead : dropLead? placeMark (c :: rest) with
    | some found =>
      rw [hlead] at h
      cases h
      rw [dropLead?_eq_some_iff.1 hlead, placeCount_placeMark]
    | none =>
      rw [hlead] at h
      obtain ⟨⟨piece, found⟩, hrest, heq⟩ := Option.map_eq_some_iff.1 h
      cases heq
      rw [placeCount_cons_of_not (dropLead?_eq_none_iff.1 hlead), ih hrest]

/-- With one parameter for each place, filling a template leaves no place. -/
theorem filled_fillChars {params : List (List Char)}
    (hcount : placeCount template = params.length) :
    Filled template params (fillChars template params) := by
  induction params generalizing template with
  | nil =>
    refine .rest ?_
    rw [← splitAt?_eq_none_iff]
    cases hsplit : splitAt? placeMark template with
    | none => rfl
    | some found =>
      rw [placeCount_of_splitAt? hsplit] at hcount
      cases hcount
  | cons param params ih =>
    rw [fillChars]
    cases hsplit : splitAt? placeMark template with
    | none =>
      rw [placeCount_eq_zero_of_splitAt? hsplit] at hcount
      cases hcount
    | some found =>
      obtain ⟨before, after⟩ := found
      rw [placeCount_of_splitAt? hsplit, List.length_cons, Nat.add_right_cancel_iff] at hcount
      rw [eq_append_of_splitAt? hsplit]
      exact .place (not_infix_of_splitAt? nofun hsplit) (ih hcount)

end FieldRules.Message
