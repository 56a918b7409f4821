import Mathlib.Logic.ExistsUnique
import FieldRules.Message.Template
import FieldRules.Proofs.Cutting

/-!
# Templates and their layouts

A layout is a template that is cut at its places: the piece in front of the first
place, and the piece behind each place.  The mark of a place cannot begin within
another one, so there is only one way to cut.

* `exists_intercalate_eq`, `eq_of_intercalate_eq`: every text can be cut at its
  places, and in one way only.
* `fillChars_intercalate`: what comes in front of which piece when the places are
  filled.
* `fill_by_layout`: the law of filling.
-/

namespace FieldRules.Message

open Text

/-- A template cut at its places.  No piece holds the mark of a place. -/
@[ext]
structure Layout where
  front : String
  behind : List String
  clear : ∀ piece ∈ front :: behind, ¬ placeMark <:+: piece.toList

namespace Layout

/-- The template, with the mark of a place between any two pieces. -/
def text (layout : Layout) : String :=
  ":param".intercalate (layout.front :: layout.behind)

/-- What comes to stand in the places: the first parameters, one for each place, and
the mark in each place for which there is no parameter. -/
def fillers (layout : Layout) (params : List String) : List String :=
  params.take layout.behind.length ++
    List.replicate (layout.behind.length - params.length) ":param"

/-- The pieces with what comes to stand between them. -/
def filled (layout : Layout) (params : List String) : String :=
  layout.front ++
    String.join (List.zipWith (· ++ ·) (layout.fillers params) layout.behind)

end Layout

/-! ## The pieces of a template -/

variable {front piece : List Char} {behind : List (List Char)}

theorem splitAt?_placeMark_append (hfront : ¬ placeMark <:+: front) (after : List Char) :
    splitAt? placeMark (front ++ (placeMark ++ after)) = some (front, after) :=
  splitAt?_append (by decide) hfront after

theorem splitAt?_intercalate_cons (hfront : ¬ placeMark <:+: front) (piece : List Char)
    (behind : List (List Char)) :
    splitAt? placeMark (placeMark.intercalate (front :: piece :: behind)) =
      some (front, placeMark.intercalate (piece :: behind)) := by
  rw [List.intercalate_cons_cons, List.append_assoc]
  exact splitAt?_placeMark_append hfront _

theorem splitAt?_intercalate_singleton (hfront : ¬ placeMark <:+: front) :
    splitAt? placeMark (placeMark.intercalate [front]) = none := by
  rwa [List.intercalate_singleton, splitAt?_eq_none_iff]

/-- Every text can be cut at its places. -/
theorem exists_intercalate_eq (template : List Char) : ∃ front behind,
    (∀ piece ∈ front :: behind, ¬ placeMark <:+: piece) ∧
      placeMark.intercalate (front :: behind) = template := by
  induction hlength : template.length using Nat.strongRecOn generalizing template with
  | ind length ih =>
    cases hsplit : splitAt? placeMark template with
    | none =>
      refine ⟨template, [], ?_, List.intercalate_singleton⟩
      rw [List.forall_mem_singleton]
      exact splitAt?_eq_none_iff.1 hsplit
    | some found =>
      obtain ⟨before, after⟩ := found
      have htemplate := eq_append_of_splitAt? hsplit
      have hshorter : after.length < length := by
        rw [← hlength, htemplate, List.length_append, List.length_append]
        have : placeMark.length = 6 := rfl
        omega
      obtain ⟨piece, behind, hclear, hafter⟩ := ih _ hshorter after rfl
      refine ⟨before, piece :: behind, ?_, ?_⟩
      · rw [List.forall_mem_cons]
        exact ⟨not_infix_of_splitAt? nofun hsplit, hclear⟩
      · rw [List.intercalate_cons_cons, hafter, htemplate]

/-- There is only one way to cut a text at its places. -/
theorem eq_of_intercalate_eq {front' : List Char} {behind' : List (List Char)}
    (hclear : ∀ piece ∈ front :: behind, ¬ placeMark <:+: piece)
    (hclear' : ∀ piece ∈ front' :: behind', ¬ placeMark <:+: piece)
    (htext : placeMark.intercalate (front :: behind) = placeMark.intercalate (front' :: behind')) :
    front = front' ∧ behind = behind' := by
  -- both texts are cut at their first place
  have hsplit := congrArg (splitAt? placeMark) htext
  rw [List.forall_mem_cons] at hclear hclear'
  induction behind generalizing front front' behind' with
  | nil =>
    rw [splitAt?_intercalate_singleton hclear.1] at hsplit
    cases behind' with
    | nil => exact ⟨by simpa using htext, rfl⟩
    | cons piece' behind' =>
      rw [splitAt?_intercalate_cons hclear'.1] at hsplit
      cases hsplit
  | cons piece behind ih =>
    rw [splitAt?_intercalate_cons hclear.1] at hsplit
    cases behind' with
    | nil =>
      rw [splitAt?_intercalate_singleton hclear'.1] at hsplit
      cases hsplit
    | cons piece' behind' =>
      rw [splitAt?_intercalate_cons hclear'.1, Option.some.injEq, Prod.mk.injEq] at hsplit
      obtain ⟨hfront, hrest⟩ := hsplit
      obtain ⟨hpiece, hbehind⟩ := ih (List.forall_mem_cons.1 hclear.2)
        (List.forall_mem_cons.1 hclear'.2) hrest (congrArg _ hrest)
      exact ⟨hfront, congrArg₂ List.cons hpiece hbehind⟩

/-! ## Filled places -/

/-- Without parameters the marks stay where they are. -/
theorem intercalate_eq_zipWith (front : List Char) (behind : List (List Char)) :
    placeMark.intercalate (front :: behind) =
      front ++
        (List.zipWith (· ++ ·) (List.replicate behind.length placeMark) behind).flatten := by
  induction behind generalizing front with
  | nil => simp
  | cons piece behind ih =>
    rw [List.intercalate_cons_cons, ih, List.length_cons, List.replicate_succ,
      List.zipWith_cons_cons, List.flatten_cons]
    simp only [List.append_assoc]

/-- The parameters come in front of the first pieces, in order.  Whatever they are, the
text is looked through from behind the place that was filled last. -/
theorem fillChars_intercalate (hclear : ∀ piece ∈ front :: behind, ¬ placeMark <:+: piece)
    (params : List (List Char)) :
    fillChars (placeMark.intercalate (front :: behind)) params =
      front ++ (List.zipWith (· ++ ·)
        (params.take behind.length ++
          List.replicate (behind.length - params.length) placeMark) behind).flatten := by
  induction params generalizing front behind with
  | nil =>
    rw [fillChars, intercalate_eq_zipWith]
    simp
  | cons param params ih =>
    rw [List.forall_mem_cons] at hclear
    rw [fillChars]
    cases behind with
    | nil =>
      rw [splitAt?_intercalate_singleton hclear.1]
      simp
    | cons piece behind =>
      rw [splitAt?_intercalate_cons hclear.1]
      dsimp only
      rw [ih hclear.2, List.length_cons, List.length_cons, List.take_succ_cons,
        Nat.add_sub_add_right, List.cons_append, List.zipWith_cons_cons, List.flatten_cons]
      simp only [List.append_assoc]

/-! ## The law of filling -/

namespace Layout

variable {layout other : Layout}

theorem toList_text (layout : Layout) :
    layout.text.toList =
      placeMark.intercalate (layout.front.toList :: layout.behind.map String.toList) := by
  rw [text, String.toList_intercalate, List.map_cons]
  rfl

theorem clear_toList (layout : Layout) :
    ∀ piece ∈ layout.front.toList :: layout.behind.map String.toList, ¬ placeMark <:+: piece := by
  rw [← List.map_cons, List.forall_mem_map]
  exact layout.clear

theorem exists_text_eq (template : String) : ∃ layout : Layout, layout.text = template := by
  obtain ⟨front, behind, hclear, htext⟩ := exists_intercalate_eq template.toList
  refine ⟨⟨String.ofList front, behind.map String.ofList, ?_⟩, ?_⟩
  · rw [← List.map_cons, List.forall_mem_map]
    intro piece hmem
    rw [String.toList_ofList]
    exact hclear piece hmem
  · rw [← String.toList_inj, toList_text, ← htext, List.map_map, String.toList_ofList]
    congr 2
    exact List.map_id'' (fun piece => String.toList_ofList) behind

theorem eq_of_text_eq (htext : layout.text = other.text) : layout = other := by
  rw [← String.toList_inj, toList_text, toList_text] at htext
  obtain ⟨hfront, hbehind⟩ := eq_of_intercalate_eq layout.clear_toList other.clear_toList htext
  have hinjective : Function.Injective String.toList := fun _ _ => String.toList_inj.1
  exact Layout.ext (hinjective hfront) (List.map_injective_iff.2 hinjective hbehind)

theorem toList_filled (layout : Layout) (params : List String) :
    (layout.filled params).toList =
      layout.front.toList ++ (List.zipWith (· ++ ·)
        ((layout.fillers params).map String.toList) (layout.behind.map String.toList)).flatten := by
  rw [filled, String.toList_append, String.toList_join, List.flatMap_def, List.map_zipWith,
    List.zipWith_map]
  simp only [String.toList_append]

theorem fill_text (layout : Layout) (params : List String) :
    fill layout.text params = layout.filled params := by
  rw [← String.toList_inj, fill, String.toList_ofList, toList_text,
    fillChars_intercalate layout.clear_toList, toList_filled, fillers, List.map_append,
    List.map_take, List.map_replicate, List.length_map, List.length_map]
  rfl

end Layout

/-- Every template has one layout, and to fill it is to put the parameters in front of
the pieces behind its places, from left to right.  Nothing else is looked at or
changed, whatever the parameters hold. -/
theorem fill_by_layout :
    (∀ template : String, ∃! layout : Layout, layout.text = template) ∧
      ∀ (layout : Layout) (params : List String),
        fill layout.text params = layout.filled params := by
  refine ⟨fun template => ?_, Layout.fill_text⟩
  obtain ⟨layout, htext⟩ := Layout.exists_text_eq template
  refine ⟨layout, htext, fun other hother => ?_⟩
  exact Layout.eq_of_text_eq (hother.trans htext.symm)

/-- The parameters complete a mark between them, and hold one; neither is filled. -/
example : fill ":param:param and :param" ["a:par", "am", ":param", "b"] = "a:param and :param" := by
  decide +kernel

end FieldRules.Message
