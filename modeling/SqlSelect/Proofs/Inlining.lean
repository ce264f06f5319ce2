import Mathlib.Data.List.Forall2
import SqlSelect.Proofs.Outcome

/-!
# Literals in place of other operands

A filter compares its column with a parameter, with a literal or with a value that is determined when the statement is
built. The text behind the equals sign does not tell which of these it comes from. So a literal can stand in place of
the others: the value that is found in place of its computation, and the text `@column` in place of a parameter
(`Filter.Inlined`). A value that is refused has no such literal.

The clause is formed of three things in each filter, its column, its fault and its comparison, and none of them changes.
So it does not matter in how many filters literals are put in place, nor where among them values are refused
(`Query.build_of_inlined`).
-/

namespace SqlSelect

/-- The second filter is the first one, or has in its place a literal that is written alike. -/
inductive Filter.Inlined : Filter → Filter → Prop where
  | same (f : Filter) : Inlined f f
  | computed (column : String) (value : Literal) : Inlined (.computed column (.ok value)) (.literal column value)
  | placeholder (column : String) : Inlined (.placeholder column) (.literal column ("@" ++ column))

/-- Any of the filters may be inlined, each at its place. -/
structure Filters.Inlined (filters filters' : Filters) : Prop where
  primary : Option.Rel Filter.Inlined filters.primary filters'.primary
  secondary : List.Forall₂ Filter.Inlined filters.secondary filters'.secondary

/-! ## One filter -/

namespace Filter.Inlined
variable {f f' : Filter}

theorem column_eq (h : f.Inlined f') : f'.column = f.column := by
  cases h with
  | same => rfl
  | computed => rfl
  | placeholder => rfl

theorem fault_eq (h : f.Inlined f') : f'.operand.fault = f.operand.fault := by
  cases h with
  | same => rfl
  | computed => rfl
  | placeholder => rfl

theorem comparison_eq (h : f.Inlined f') (owner : String) : f'.comparison owner = f.comparison owner := by
  cases h with
  | same => rfl
  | computed => rfl
  | placeholder => rfl

end Filter.Inlined

/-! ## All filters -/

namespace Filters.Inlined
variable {filters filters' : Filters}

/-- Whether filters are shown at all depends on a column. -/
theorem shown (h : filters.Inlined filters') : List.Forall₂ Filter.Inlined filters.shown filters'.shown := by
  obtain ⟨primary, secondary⟩ := filters
  obtain ⟨primary', secondary'⟩ := filters'
  obtain ⟨hprimary, hsecondary⟩ := h
  unfold Filters.shown
  cases hprimary with
  | none => exact .nil
  | some hf =>
    simp only [hf.column_eq]
    split
    · exact .nil
    · exact .cons hf hsecondary

theorem fault_eq (h : filters.Inlined filters') : filters'.fault = filters.fault := by
  have hfaults : filters.shown.map (·.operand.fault) = filters'.shown.map (·.operand.fault) := by
    rw [← List.forall₂_eq_eq_eq]
    exact List.rel_map (fun _ _ hf => hf.fault_eq.symm) h.shown
  have hfirst : ∀ fs : List Filter, fs.findSome? (·.operand.fault) = (fs.map (·.operand.fault)).findSome? id := by
    intro fs
    rw [List.findSome?_map]
    rfl
  rw [Filters.fault, Filters.fault, hfirst, hfirst, hfaults]

end Filters.Inlined

theorem Clause.conditionsText_of_inlined {fs fs' : List Filter} (h : List.Forall₂ Filter.Inlined fs fs')
    (owner : String) : conditionsText owner fs' = conditionsText owner fs := by
  cases h with
  | nil => rfl
  | @cons f f' secondary secondary' hf hsecondary =>
    have hrow : secondary.map (" AND " ++ ·.comparison owner) = secondary'.map (" AND " ++ ·.comparison owner) := by
      rw [← List.forall₂_eq_eq_eq]
      exact List.rel_map (fun _ _ hg => congrArg (" AND " ++ ·) (hg.comparison_eq owner).symm) hsecondary
    rw [conditionsText, conditionsText, hf.comparison_eq owner, hrow]

theorem Clause.conditions_of_inlined {filters filters' : Filters} (h : filters.Inlined filters') (table : String) :
    conditions table filters' = conditions table filters := by
  rw [conditions_eq, conditions_eq, h.fault_eq, conditionsText_of_inlined h.shown]

namespace Query

/-- **A value that is determined is written as the value itself**, and a parameter as the text `@column`. So either can
be replaced by its literal in any of the filters, whatever becomes of the others. -/
theorem build_of_inlined {q : Query} {filters : Filters} (h : q.filters.Inlined filters) :
    ({ q with filters } : Query).build = q.build := by
  have hconditions : ∀ table, Clause.conditions table filters = Clause.conditions table q.filters :=
    Clause.conditions_of_inlined h
  simp only [build, hconditions]

/-- The values of the first filters are inlined, one that is found further on is not, and the last is refused. Without
the last filter the query builds. -/
theorem build_of_inlined_around_refused :
    let found : Filters := ⟨some (.computed "Id" (.ok (.signed 7))),
      [.placeholder "Kind", .computed "Rank" (.ok .null), .placeholder "Kind"]⟩
    let inlined : Filters := ⟨some (.literal "Id" (7 : Int64)),
      [.literal "Kind" "@Kind", .computed "Rank" (.ok .null), .placeholder "Kind"]⟩
    let refused : Filter := .computed "Score" (.error "no score")
    let q : Query := { table := "Users", filters := found }
    found.Inlined inlined ∧
      ({ q with filters := inlined } : Query).build =
        .ok "SELECT u.* FROM [Users] u WHERE u.Id = 7 AND u.Kind = @Kind AND u.Rank = NULL AND u.Kind = @Kind" ∧
      ({ q.andFilter refused with
        filters := { inlined with secondary := inlined.secondary ++ [refused] } } : Query).build =
          .error (.computedValue "no score") := by
  intro found inlined refused q
  have hsecondary : List.Forall₂ Filter.Inlined found.secondary inlined.secondary :=
    .cons (.placeholder "Kind") (.cons (.same _) (.cons (.same _) .nil))
  have hinlined : found.Inlined inlined := ⟨.some (.computed "Id" (.signed 7)), hsecondary⟩
  have hmore : (q.andFilter refused).filters.Inlined { inlined with secondary := inlined.secondary ++ [refused] } :=
    ⟨hinlined.primary, List.rel_append hsecondary (.cons (.same refused) .nil)⟩
  refine ⟨hinlined, ?_, ?_⟩
  · rw [build_of_inlined (q := q) hinlined]
    exact build_eq_ok_iff.2 ⟨by decide, by decide +kernel⟩
  · rw [build_of_inlined hmore]
    exact build_eq_error_iff.2 (by decide)

end Query

end SqlSelect
