import FieldRules.Proofs.RenderedClauses

/-!
# Literal patterns as text

`LiteralPattern.render` writes a pattern in the modern spelling.  A slash in the
pattern must not look like its end: behind it and the flag letters that follow,
there must be neither a bar nor the marker of a message text.

* `splitBody_append`: the pattern ends at its last slash.
* `readModern_render`: reading undoes rendering, whatever clauses follow.
-/

namespace FieldRules.Rule

open Text Literal

/-- The opening that patterns are rendered with. -/
def opening : List Char := "pattern=/".toList

namespace LiteralPattern

/-- A pattern as a text, from behind the opening. -/
def body (literal : LiteralPattern) : List Char :=
  literal.source.toList ++ '/' :: (literal.flags.toList ++ renderMessage literal.alt)

/-- A pattern as a text. -/
def render (literal : LiteralPattern) : List Char :=
  opening ++ literal.body

/-- The pattern can be read back from its text: behind no slash after its first
character is there, after the flag letters, what would make the slash its end. -/
@[mk_iff]
structure WellFormed (literal : LiteralPattern) : Prop where
  source_ne : literal.source.toList ≠ []
  source_open : ∀ before after, literal.source.toList = before ++ '/' :: after → before ≠ [] →
    ¬ ['|'] <+: after.dropWhile (· ∈ flagLetters) ∧
      ¬ ':' :: altMarker <+: after.dropWhile (· ∈ flagLetters)
  flags : literal.flags.toList ⊆ flagLetters
  alt : ∀ alt ∈ literal.alt, '|' ∉ alt.toList

/-- What follows the slashes behind the first character, as a check of the tails of
a text. -/
theorem forall_behind_slash_iff {text : List Char} {Good : List Char → Prop} :
    (∀ before after, text = before ++ '/' :: after → before ≠ [] → Good after) ↔
      ∀ rest ∈ text.tail.tails, rest.head? = some '/' → Good rest.tail := by
  constructor
  · intro hgood rest hrest hslash
    obtain ⟨before, hbefore⟩ := (List.mem_tails _ _).1 hrest
    obtain ⟨after, rfl⟩ := List.head?_eq_some_iff.1 hslash
    cases text with
    | nil => exact absurd hbefore (by simp)
    | cons c text =>
      rw [List.tail_cons] at hbefore
      exact hgood (c :: before) after (by rw [List.cons_append, hbefore]) (List.cons_ne_nil _ _)
  · rintro hgood before after rfl hne
    obtain ⟨c, before, rfl⟩ := List.exists_cons_of_ne_nil hne
    exact hgood ('/' :: after) ((List.mem_tails _ _).2 (List.suffix_append _ _)) rfl

instance (literal : LiteralPattern) : Decidable literal.WellFormed :=
  decidable_of_iff' _ <|
    (wellFormed_iff literal).trans <|
      and_congr_right fun _ => and_congr_left fun _ => forall_behind_slash_iff

end LiteralPattern

namespace Literal

variable {source flags rest text : List Char}

/-! ## The end of a pattern -/

/-- A pattern does not end at a slash with another slash behind it, if nothing
between them ends it. -/
theorem mayEnd_append (hbar : ¬ ['|'] <+: text) (hmarker : ¬ ':' :: altMarker <+: text)
    (rest : List Char) : mayEnd (text ++ '/' :: rest) = false := by
  cases text with
  | nil => rfl
  | cons c text =>
    rw [List.cons_append]
    unfold mayEnd
    split
    · contradiction
    · next heq =>
      cases heq
      exact absurd (List.prefix_append ['|'] text) hbar
    · next heq =>
      cases heq
      rw [Bool.eq_false_iff, ne_eq, List.isPrefixOf_iff_prefix]
      intro hbegin
      have htext : altMarker <+: text := prefix_of_prefix_append (by simp [altMarker]) hbegin
      exact hmarker (List.cons_prefix_cons.2 ⟨rfl, htext⟩)
    · rfl

/-- The pattern ends at the first slash that may end it, and so do the flags behind it. -/
theorem splitBody_append (hflags : flags ⊆ flagLetters)
    (hrest : ∀ c ∈ rest.head?, c ∉ flagLetters) (hend : mayEnd rest = true) (first : Bool)
    (hfirst : first = true → source ≠ [])
    (hopen : ∀ before after, source = before ++ '/' :: after → (first = true → before ≠ []) →
      ¬ ['|'] <+: after.dropWhile (· ∈ flagLetters) ∧
        ¬ ':' :: altMarker <+: after.dropWhile (· ∈ flagLetters)) :
    splitBody first (source ++ '/' :: (flags ++ rest)) = some (source, flags, rest) := by
  induction source generalizing first with
  | nil =>
    have hfalse : first = false := by
      cases first with
      | false => rfl
      | true => exact absurd rfl (hfirst rfl)
    obtain ⟨htake, hdrop⟩ := takeWhile_dropWhile_append (p := (· ∈ flagLetters))
      (fun c hc => decide_eq_true (hflags hc)) (by simpa using hrest)
    rw [List.nil_append, splitBody, htake, hdrop, hfalse, hend]
    rfl
  | cons c source ih =>
    have hnot : (decide (c = '/') && !first &&
        mayEnd ((source ++ '/' :: (flags ++ rest)).dropWhile (· ∈ flagLetters))) = false := by
      by_cases hslash : c = '/' ∧ first = false
      · obtain ⟨rfl, rfl⟩ := hslash
        obtain ⟨hbar, hmarker⟩ := hopen [] source rfl nofun
        rw [dropWhile_append_cons (by decide), mayEnd_append hbar hmarker, Bool.and_false]
      · rw [not_and, Bool.not_eq_false] at hslash
        by_cases hc : c = '/'
        · rw [hslash hc, Bool.not_true, Bool.and_false, Bool.false_and]
        · rw [decide_eq_false hc, Bool.false_and, Bool.false_and]
    -- what is left no longer begins the pattern, so each of its slashes counts
    have hbehind := ih false nofun fun before after heq _ =>
      hopen (c :: before) after (by rw [heq, List.cons_append]) fun _ => List.cons_ne_nil c before
    rw [List.cons_append, splitBody]
    dsimp only
    rw [hnot, if_neg Bool.false_ne_true, hbehind]
    rfl

/-! ## The message text -/

variable {alt : Option String}

theorem splitAlt_append (halt : ∀ text ∈ alt, '|' ∉ text.toList)
    (hrest : ∀ c ∈ rest.head?, c = '|') :
    splitAlt (renderMessage alt ++ rest) = (alt.map String.toList, rest) := by
  unfold splitAlt
  cases alt with
  | none =>
    have hlead : dropLead? (':' :: altMarker) rest = none := by
      cases rest with
      | nil => rfl
      | cons c rest =>
        cases hrest c rfl
        rfl
    rw [renderMessage, List.nil_append, hlead]
    rfl
  | some alt =>
    have hfree : ∀ c ∈ alt.toList, decide (c ≠ '|') = true := by
      intro c hc
      rw [decide_eq_true_iff]
      rintro rfl
      exact halt alt rfl hc
    obtain ⟨htake, hdrop⟩ := takeWhile_dropWhile_append hfree
      fun c hc => by rw [hrest c hc]; rfl
    rw [renderMessage, List.append_assoc, dropLead?_append]
    dsimp only
    rw [htake, hdrop]
    rfl

/-- A pattern may end before a message text, a bar or the end of the chain, and
no flag letter stands there. -/
theorem mayEnd_renderMessage (alt : Option String) (hrest : ∀ c ∈ rest.head?, c = '|') :
    mayEnd (renderMessage alt ++ rest) = true ∧
      ∀ c ∈ (renderMessage alt ++ rest).head?, c ∉ flagLetters := by
  cases alt with
  | some alt =>
    refine ⟨?_, ?_⟩
    · rw [renderMessage, List.append_assoc, List.cons_append, mayEnd,
        List.isPrefixOf_iff_prefix]
      exact List.prefix_append _ _
    · rintro c ⟨⟩
      decide
  | none =>
    cases rest with
    | nil =>
      refine ⟨rfl, ?_⟩
      rintro c ⟨⟩
    | cons c rest =>
      cases hrest c rfl
      refine ⟨rfl, ?_⟩
      rintro c ⟨⟩
      decide

/-- Reading undoes rendering, whatever clauses follow the pattern. -/
theorem readModern_render {literal : LiteralPattern} (hliteral : literal.WellFormed)
    (hrest : ∀ c ∈ rest.head?, c = '|') :
    readModern opening (literal.body ++ rest) = .ok (literal, rest) := by
  obtain ⟨hend, hflag⟩ := mayEnd_renderMessage literal.alt hrest
  have hbody : splitBody true (literal.body ++ rest) =
      some (literal.source.toList, literal.flags.toList, renderMessage literal.alt ++ rest) := by
    have hsplit := splitBody_append hliteral.flags hflag hend true
      (fun _ => hliteral.source_ne)
      fun before after heq hne => hliteral.source_open before after heq (hne rfl)
    simpa only [LiteralPattern.body, List.append_assoc, List.cons_append] using hsplit
  unfold readModern
  rw [hbody]
  dsimp only
  rw [splitAlt_append hliteral.alt hrest]
  dsimp only
  rw [ofList_toList_message, String.ofList_toList, String.ofList_toList]

end Literal

end FieldRules.Rule
