/-!
# Cutting text at separators

* `split` cuts at every separator and keeps empty pieces, so a text with `n`
  separators has `n + 1` pieces.
* `splitOnce` cuts at the first separator only.
* `dropLead?` and `splitAt?` look for a whole word, at the start of a text or
  at the first place where it stands.
-/

namespace FieldRules.Text

/-- The pieces between the separators. -/
def split (sep : Char) : List Char → List (List Char)
  | [] => [[]]
  | c :: rest =>
    if c = sep then
      [] :: split sep rest
    else
      match split sep rest with
      | [] => [[c]]
      | piece :: pieces => (c :: piece) :: pieces

/-- The text before and after the first separator for which `isSep` holds. -/
def splitOnce (isSep : Char → Bool) : List Char → Option (List Char × List Char)
  | [] => none
  | c :: rest =>
    if isSep c then
      some ([], rest)
    else
      (splitOnce isSep rest).map fun (before, after) => (c :: before, after)

/-- What follows `word` in a text that starts with it. -/
def dropLead? : (word text : List Char) → Option (List Char)
  | [], text => some text
  | _ :: _, [] => none
  | w :: word, c :: text => if w = c then dropLead? word text else none

/-- The text before and after the first place where `word` stands. -/
def splitAt? (word : List Char) : List Char → Option (List Char × List Char)
  | [] => (dropLead? word []).map fun after => ([], after)
  | c :: rest =>
    match dropLead? word (c :: rest) with
    | some after => some ([], after)
    | none => (splitAt? word rest).map fun (before, after) => (c :: before, after)

/-- A text that starts with `word` is `word` followed by the rest. -/
theorem eq_append_of_dropLead? {word text after : List Char}
    (h : dropLead? word text = some after) : text = word ++ after := by
  induction word generalizing text with
  | nil =>
    simp only [dropLead?, Option.some.injEq] at h
    simp [h]
  | cons w word ih =>
    cases text with
    | nil => simp [dropLead?] at h
    | cons c text =>
      rw [dropLead?] at h
      split at h
      · next eq => rw [ih h, eq, List.cons_append]
      · simp at h

/-- Cutting at a word loses nothing but the word. -/
theorem eq_append_of_splitAt? {word text before after : List Char}
    (h : splitAt? word text = some (before, after)) : text = before ++ word ++ after := by
  induction text generalizing before with
  | nil =>
    simp only [splitAt?, Option.map_eq_some_iff, Prod.mk.injEq] at h
    obtain ⟨rest, eq, rfl, rfl⟩ := h
    simpa using eq_append_of_dropLead? eq
  | cons c text ih =>
    rw [splitAt?] at h
    split at h
    · next eq =>
      simp only [Option.some.injEq, Prod.mk.injEq] at h
      obtain ⟨rfl, rfl⟩ := h
      simpa using eq_append_of_dropLead? eq
    · simp only [Option.map_eq_some_iff, Prod.mk.injEq] at h
      obtain ⟨⟨piece, rest⟩, eq, rfl, rfl⟩ := h
      simp [ih eq]

end FieldRules.Text
