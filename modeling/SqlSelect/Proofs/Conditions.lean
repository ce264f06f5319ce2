import SqlSelect.Proofs.Failure

/-!
# Further filters

A WHERE clause is written filter by filter, and what has been written is never taken back: further secondary filters
are added behind it (`Clause.conditionsText_append`), and whatever refuses its value first decides the error
(`Filters.fault_append`). Together they say how the clause of a longer list of filters comes from that of a shorter one
(`Clause.conditions_append_eq`). All this hangs on a primary filter on a column, without which there is no clause.
-/

namespace SqlSelect

namespace Filters
variable {primary : Filter}

theorem shown_of_primary (h : isBlank primary.column = false) (secondary : List Filter) :
    shown ⟨some primary, secondary⟩ = primary :: secondary := by
  simp [shown, h]

theorem shown_eq_nil {filters : Filters} (h : ∀ primary ∈ filters.primary, isBlank primary.column = true) :
    filters.shown = [] := by
  unfold shown
  cases hp : filters.primary with
  | none => rfl
  | some primary => simp [h primary hp]

/-- Whether a filter further on has a value does not matter behind one that has none. -/
theorem fault_append (h : isBlank primary.column = false) (s g : List Filter) :
    fault ⟨some primary, s ++ g⟩ = (fault ⟨some primary, s⟩).or (g.findSome? (·.operand.fault)) := by
  rw [fault, fault, shown_of_primary h, shown_of_primary h, ← List.cons_append, List.findSome?_append]

theorem findSome?_fault_eq_none {g : List Filter} (h : ∀ f ∈ g, ∀ reason, f.operand ≠ .computed (.error reason)) :
    g.findSome? (·.operand.fault) = none :=
  List.findSome?_eq_none_iff.2 fun f hf => Operand.fault_eq_none_iff.2 (h f hf)

theorem findSome?_fault_eq_some {before after : List Filter} {f : Filter} {reason : String}
    (hbefore : ∀ f' ∈ before, ∀ other, f'.operand ≠ .computed (.error other))
    (hf : f.operand = .computed (.error reason)) :
    (before ++ f :: after).findSome? (·.operand.fault) = some (.computedValue reason) := by
  have hfault : f.operand.fault = some (.computedValue reason) := Operand.fault_eq_some_iff.2 ⟨reason, hf, rfl⟩
  rw [List.findSome?_append, findSome?_fault_eq_none hbefore, Option.none_or, List.findSome?_cons, hfault]

end Filters

namespace Clause
variable {table : String} {primary : Filter}

theorem conditionsText_append (owner : String) (primary : Filter) (s g : List Filter) :
    conditionsText owner (primary :: (s ++ g)) =
      conditionsText owner (primary :: s) ++ String.join (g.map (" AND " ++ ·.comparison owner)) := by
  rw [conditionsText, conditionsText, List.map_append, String.join_append]
  simp only [String.append_assoc]

/-- The clause of more filters continues that of fewer. -/
theorem conditions_append_eq (ht : isBlank table = false) (hp : isBlank primary.column = false) (s g : List Filter) :
    conditions table ⟨some primary, s ++ g⟩ =
      conditions table ⟨some primary, s⟩ >>= fun text =>
        outcome (g.findSome? (·.operand.fault))
          (text ++ String.join (g.map (" AND " ++ ·.comparison (Alias.ofTable table)))) := by
  rw [conditions_eq, conditions_eq, tableFault_of_not_isBlank ht, Option.none_or, Option.none_or,
    Filters.fault_append hp, Filters.shown_of_primary hp, Filters.shown_of_primary hp, conditionsText_append,
    outcome_bind]
  cases Filters.fault ⟨some primary, s⟩ <;> rfl

theorem conditions_eq_empty (ht : isBlank table = false) {filters : Filters}
    (h : ∀ primary ∈ filters.primary, isBlank primary.column = true) : conditions table filters = .ok "" := by
  have hshown := Filters.shown_eq_nil h
  rw [conditions_eq, tableFault_of_not_isBlank ht, Filters.fault, hshown, List.findSome?_nil, Option.or_none,
    outcome_none, conditionsText]

/-- **More filters add their conditions behind those of fewer**, or the error of the first that has none; an earlier
error stays. All this goes for a primary filter on a column, for without one there is no clause. -/
theorem conditions_append {table : String} (ht : isBlank table = false) :
    let owner := Alias.ofTable table
    (∀ (primary : Filter) (s g : List Filter), isBlank primary.column = false →
      (∀ error, conditions table ⟨some primary, s⟩ = .error error →
        conditions table ⟨some primary, s ++ g⟩ = .error error) ∧
      ∀ text, conditions table ⟨some primary, s⟩ = .ok text →
        ((∀ f ∈ g, ∀ reason, f.operand ≠ .computed (.error reason)) →
          conditions table ⟨some primary, s ++ g⟩ = .ok (text ++ String.join (g.map fun f =>
            " AND " ++ owner ++ "." ++ f.column ++ " = " ++ f.operand.written f.column))) ∧
        ∀ before f after reason, g = before ++ f :: after → f.operand = .computed (.error reason) →
          (∀ f' ∈ before, ∀ other, f'.operand ≠ .computed (.error other)) →
          conditions table ⟨some primary, s ++ g⟩ = .error (.computedValue reason)) ∧
    ∀ filters : Filters, (∀ primary ∈ filters.primary, isBlank primary.column = true) →
      conditions table filters = .ok "" := by
  intro owner
  refine ⟨fun primary s g hp => ⟨?_, fun text htext => ⟨?_, ?_⟩⟩, fun filters => conditions_eq_empty ht⟩
  · intro error herror
    rw [conditions_append_eq ht hp, herror]
    rfl
  · intro hg
    have hconditions : (g.map fun f => " AND " ++ owner ++ "." ++ f.column ++ " = " ++ f.operand.written f.column) =
        g.map (" AND " ++ ·.comparison owner) := by
      simp only [Filter.comparison, qualified, String.append_assoc]
    rw [conditions_append_eq ht hp, htext, Filters.findSome?_fault_eq_none hg, hconditions]
    rfl
  · rintro before f after reason rfl hf hbefore
    rw [conditions_append_eq ht hp, htext, Filters.findSome?_fault_eq_some hbefore hf]
    rfl

/-- Filters behind two others: all with values, on a column twice and on a blank one; then two without values. -/
theorem conditions_append_of_two :
    let primary : Filter := .literal "Id" (7 : Int64)
    let s : List Filter := [.placeholder "Kind"]
    let g : List Filter := [.literal "Kind" true, .computed "" (.ok .null), .placeholder "Kind"]
    let before : List Filter := [.placeholder "Kind"]
    let after : List Filter := [.computed "Rank" (.error "too late")]
    isBlank "Users" = false ∧ isBlank primary.column = false ∧
      conditions "Users" ⟨some primary, s⟩ = .ok " WHERE u.Id = 7 AND u.Kind = @Kind" ∧
      (∀ f ∈ g, ∀ reason, f.operand ≠ .computed (.error reason)) ∧
      conditions "Users" ⟨some primary, s ++ g⟩ = .ok (" WHERE u.Id = 7 AND u.Kind = @Kind" ++
        " AND u.Kind = TRUE AND u. = NULL AND u.Kind = @Kind") ∧
      conditions "Users" ⟨some primary, s ++ (before ++ .computed "Score" (.error "no score") :: after)⟩ =
        .error (.computedValue "no score") ∧
      conditions "Users" ⟨some primary, s ++ (before ++ .computed "Score" (.error "no score") :: after) ++ g⟩ =
        .error (.computedValue "no score") ∧
      conditions "Users" ⟨some (.computed " " (.error "no value")), s ++ g⟩ = .ok "" := by
  intro primary s g before after
  have ht : isBlank "Users" = false := by decide
  have hp : isBlank primary.column = false := by decide
  have htext : conditions "Users" ⟨some primary, s⟩ = .ok " WHERE u.Id = 7 AND u.Kind = @Kind" := by
    rw [conditions_eq]
    exact outcome_eq_ok_iff.2 ⟨by decide, by decide +kernel⟩
  have hg : ∀ f ∈ g, ∀ reason, f.operand ≠ .computed (.error reason) := by
    simp [g, Filter.literal, Filter.computed, Filter.placeholder]
  have hbefore : ∀ f' ∈ before, ∀ other, f'.operand ≠ .computed (.error other) := by
    simp [before, Filter.placeholder]
  obtain ⟨hmore, hnone⟩ := conditions_append ht
  have herror : conditions "Users" ⟨some primary, s ++ (before ++ .computed "Score" (.error "no score") :: after)⟩ =
      .error (.computedValue "no score") :=
    ((hmore primary s _ hp).2 _ htext).2 before _ after "no score" rfl rfl hbefore
  refine ⟨ht, hp, htext, hg, ?_, herror, ?_, ?_⟩
  · rw [((hmore primary s g hp).2 _ htext).1 hg]
    exact congrArg Except.ok (by decide +kernel)
  · exact (hmore primary _ g hp).1 _ herror
  · refine hnone _ ?_
    rintro _ ⟨⟩
    decide

end Clause

end SqlSelect
