import FieldRules.Proofs.CompiledRules

/-!
# The fields that rules name

A clause compares the value of its field with that of another one if its keyword
is one of the five spellings of `match` and `different`.  The other field is its
first parameter.

* `Rule.Clause.Compares`: what a clause says.
* `Rule.target?_of_resolve`: a clause compares just if its validator does.
* `Rule.comparesWith_iff`: the fields that compiled rules compare with are those
  that the text of the rules names.
-/

namespace FieldRules

/-- Every item has its result. -/
theorem exists_mem_of_mapM_eq_ok {ε α β : Type} {f : α → Except ε β} {items : List α}
    {results : List β} (h : items.mapM f = .ok results) :
    ∀ item ∈ items, ∃ result ∈ results, f item = .ok result := by
  induction items generalizing results with
  | nil =>
    intro item hmem
    cases hmem
  | cons head rest ih =>
    rw [List.mapM_cons] at h
    obtain ⟨first, hfirst, h⟩ := bind_eq_ok h
    obtain ⟨others, hothers, h⟩ := bind_eq_ok h
    cases h
    intro item hmem
    rcases List.mem_cons.1 hmem with rfl | hmem
    · exact ⟨first, List.mem_cons_self, hfirst⟩
    · obtain ⟨result, hresult, hitem⟩ := ih hothers item hmem
      exact ⟨result, List.mem_cons_of_mem first hresult, hitem⟩

namespace Rule

variable {clause : Clause} {literal : Option LiteralPattern} {v : Validator} {field : String}

/-- The keywords of the rules that compare with another field. -/
def comparisons : List String :=
  ["match", "same", "match_input", "different", "different_input"]

/-- The clause compares the value with that of another field. -/
def Clause.Compares (clause : Clause) (field : String) : Prop :=
  normalize clause.name ∈ comparisons ∧ clause.params.head? = some field

/-- One of the clauses that a text writes down compares with another field. -/
def ComparesWith (rules field : String) : Prop :=
  ∃ chain, Chain.parse rules = .ok chain ∧ ∃ clause ∈ chain.clauses, clause.Compares field

/-- Whether rules of the family compare with another field. -/
def Family.compares : Family → Bool
  | matching _ => true
  | _ => false

/-- Only these keywords name rules that compare. -/
theorem mem_comparisons_iff (name : String) :
    name ∈ comparisons ↔ ∃ entry, findEntry name = some entry ∧ entry.family.compares = true := by
  constructor
  · intro hmem
    have hentries : ∀ name ∈ comparisons, ∃ entry ∈ findEntry name,
        entry.family.compares = true := by
      decide +kernel
    exact hentries name hmem
  · rintro ⟨entry, hentry, hcompares⟩
    have hnames : ∀ entry ∈ entries, entry.family.compares = true →
        ∀ name ∈ entry.name :: entry.aliases, name ∈ comparisons := by
      decide +kernel
    obtain ⟨hmem, hname⟩ := of_findEntry hentry
    exact hnames entry hmem hcompares name hname

/-! ## Clauses and their validators -/

/-- What a validator compares with, if its rule compares at all. -/
theorem target?_of_build {entry : Entry} (h : entry.build clause literal = .ok v) :
    (∃ target, v.target? = some target ∧ target.field = field) ↔
      entry.family.compares = true ∧ clause.params.head? = some field := by
  obtain ⟨hadmits, -, hmakes⟩ := makes_of_build h
  unfold Validator.target?
  generalize entry.family = family, v.params = shown, v.check = check at hmakes hadmits ⊢
  cases hmakes with
  | matching operator label =>
    cases hhead : clause.params with
    | nil =>
      rw [hhead] at hadmits
      cases hadmits
    | cons first rest => simp [Family.compares]
  | auto hcheck =>
    obtain ⟨length, number, rfl, -⟩ := of_autoCheck hcheck
    simp [Family.compares]
  | _ => simp [Family.compares]

/-- The rules on dates look at their own value only. -/
theorem target?_of_buildDate {name : String} {format : Date.Format} {bound : Option Bound}
    {params : List String} (h : buildDate name format bound params = .ok v) :
    v.target? = none := by
  obtain ⟨p, conditions, -, rfl, -⟩ := of_buildDate h
  rfl

/-- A clause compares with a field just if its validator does. -/
theorem target?_of_resolve (h : clause.resolve literal = .ok v) :
    (∃ target, v.target? = some target ∧ target.field = field) ↔ clause.Compares field := by
  unfold Clause.resolve at h
  dsimp only at h
  rw [Clause.Compares, mem_comparisons_iff]
  cases hentry : findEntry (normalize clause.name) with
  | some entry =>
    rw [hentry] at h
    obtain ⟨validator, hbuild, h⟩ := bind_eq_ok h
    cases h
    have hiff : (∃ target, validator.target? = some target ∧ target.field = field) ↔
        entry.family.compares = true ∧ clause.params.head? = some field :=
      target?_of_build hbuild
    simpa [Validator.target?] using hiff
  | none =>
    rw [hentry] at h
    cases hdate : findDate (normalize clause.name) with
    | none =>
      rw [hdate] at h
      cases h
    | some found =>
      rw [hdate] at h
      obtain ⟨validator, hbuild, h⟩ := bind_eq_ok h
      cases h
      have hnone := target?_of_buildDate hbuild
      simp only [Validator.target?] at hnone ⊢
      simp [hnone]

/-! ## Chains -/

/-- Compiled rules compare with the fields that their text names. -/
theorem comparesWith_iff {rules : String} {compiled : Compiled}
    (h : compile rules = .ok compiled) :
    (∃ target ∈ compiled.targets, target.field = field) ↔ ComparesWith rules field := by
  obtain ⟨chain, hchain, h⟩ := bind_eq_ok h
  obtain ⟨validators, hvalidators, h⟩ := bind_eq_ok h
  cases h
  constructor
  · rintro ⟨target, hmem, hfield⟩
    obtain ⟨v, hv, htarget⟩ := List.mem_filterMap.1 hmem
    obtain ⟨clause, hclause, hresolve⟩ := mem_of_mapM_eq_ok hvalidators v hv
    have hcompares : clause.Compares field :=
      (target?_of_resolve hresolve).1 ⟨target, htarget, hfield⟩
    exact ⟨chain, hchain, clause, hclause, hcompares⟩
  · rintro ⟨found, hfound, clause, hclause, hcompares⟩
    obtain rfl : chain = found := Except.ok.inj (hchain.symm.trans hfound)
    obtain ⟨v, hv, hresolve⟩ := exists_mem_of_mapM_eq_ok hvalidators clause hclause
    obtain ⟨target, htarget, hfield⟩ := (target?_of_resolve hresolve).2 hcompares
    exact ⟨target, List.mem_filterMap.2 ⟨v, hv, htarget⟩, hfield⟩

end Rule

end FieldRules
