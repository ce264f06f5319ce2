import SqlSelect.Proofs.Outcome

/-!
# When building fails

A query can fail to build for five reasons, which are looked at in a fixed order whatever else is wrong with it:
its table, the columns or the expression of its projection, the table of a join, and last a filter whose value is
refused. `Query.build_fails_iff` says for each of them exactly when it is the one reported, and that nothing else
counts: `Query.outline` forgets the sort key and the names of columns and keys, and fails as the query itself does.
-/

namespace SqlSelect

/-! ## Outlines -/

def Projection.outline : Projection → Projection
  | all => all
  | count => count
  | specific columns => specific (columns.map fun _ => "")
  | custom expression columns => custom expression (columns.map fun _ => "")

def Join.outline (join : Join) : Join :=
  { join with localKey := "", foreignKey := "" }

/-- Of the columns only one thing is kept: whether the primary one is blank. -/
def Filters.outline (filters : Filters) : Filters where
  primary := filters.primary.map fun f => { f with column := if isBlank f.column then "" else "_" }
  secondary := filters.secondary.map fun f => { f with column := "" }

def Query.outline (q : Query) : Query where
  table := q.table
  projection := q.projection.outline
  joins := q.joins.map Join.outline
  filters := q.filters.outline
  sortKey := none

theorem Projection.fault_outline (projection : Projection) : projection.outline.fault = projection.fault := by
  match projection with
  | all | count | specific [] | specific (_ :: _) | custom _ _ => rfl

theorem joinsFault_outline (joins : List Join) : joinsFault (joins.map Join.outline) = joinsFault joins := by
  rw [joinsFault, joinsFault, List.any_map]
  rfl

theorem Filters.fault_outline (filters : Filters) : filters.outline.fault = filters.fault := by
  have hsecondary : (filters.secondary.map fun f => { f with column := "" }).findSome? (·.operand.fault) =
      filters.secondary.findSome? (·.operand.fault) := by
    rw [List.findSome?_map]
    rfl
  unfold Filters.fault Filters.shown Filters.outline
  cases filters.primary with
  | none => rfl
  | some primary =>
    cases hb : isBlank primary.column with
    | true => simp [hb, show isBlank "" = true from by decide]
    | false => simp [hb, show isBlank "_" = false from by decide, List.findSome?_cons, hsecondary]

theorem Query.fault_outline (q : Query) : q.outline.fault = q.fault := by
  unfold Query.fault
  rw [← q.projection.fault_outline, ← joinsFault_outline q.joins, ← q.filters.fault_outline]
  rfl

/-! ## The five reasons -/

namespace Query

def LacksTable (q : Query) : Prop :=
  isBlank q.table = true

def LacksColumns (q : Query) : Prop :=
  q.projection = .specific []

def LacksExpression (q : Query) : Prop :=
  ∃ expression columns, q.projection = .custom expression columns ∧ isBlank expression = true

def LacksJoinTable (q : Query) : Prop :=
  ∃ join ∈ q.joins, isBlank join.table = true

/-- There is a primary filter on a column, and among it and the secondary filters behind it `reason` is why the first
one without a value has none. -/
def Refused (q : Query) (reason : String) : Prop :=
  ∃ primary, q.filters.primary = some primary ∧ isBlank primary.column = false ∧
    ∃ before f after, primary :: q.filters.secondary = before ++ f :: after ∧
      f.operand = .computed (.error reason) ∧ ∀ g ∈ before, ∀ other, g.operand ≠ .computed (.error other)

end Query

theorem Operand.fault_eq_some_iff {operand : Operand} {error : BuildError} :
    operand.fault = some error ↔ ∃ reason, operand = .computed (.error reason) ∧ error = .computedValue reason := by
  match operand with
  | placeholder | literal _ | computed (.ok _) => simp [Operand.fault]
  | computed (.error reason) => simp [Operand.fault, eq_comm]

theorem Operand.fault_eq_none_iff {operand : Operand} :
    operand.fault = none ↔ ∀ reason, operand ≠ .computed (.error reason) := by
  match operand with
  | placeholder | literal _ | computed (.ok _) | computed (.error _) => simp [Operand.fault]

theorem joinsFault_eq_none {joins : List Join} (h : ∀ join ∈ joins, isBlank join.table = false) :
    joinsFault joins = none := by
  have hany : joins.any (isBlank ·.table) = false := by simpa using h
  rw [joinsFault, hany]
  rfl

namespace Query

variable {q : Query}

theorem fault_of_lacksTable (h : q.LacksTable) : q.fault = some (.missingArgument .table) := by
  unfold LacksTable at h
  simp [fault, tableFault, h]

theorem tableFault_eq_none (h : ¬ q.LacksTable) : tableFault q.table = none := by
  unfold LacksTable at h
  simp [tableFault, h]

theorem fault_of_lacksColumns (ht : ¬ q.LacksTable) (h : q.LacksColumns) :
    q.fault = some (.missingArgument .columns) := by
  rw [fault, tableFault_eq_none ht, h]
  rfl

theorem fault_of_lacksExpression (ht : ¬ q.LacksTable) (h : q.LacksExpression) :
    q.fault = some (.missingArgument .customExpression) := by
  obtain ⟨expression, columns, hp, hb⟩ := h
  rw [fault, tableFault_eq_none ht, hp]
  simp [Projection.fault, hb]

theorem projection_fault_eq_none (hc : ¬ q.LacksColumns) (he : ¬ q.LacksExpression) : q.projection.fault = none := by
  unfold LacksColumns at hc
  unfold LacksExpression at he
  match hp : q.projection with
  | .all | .count | .specific (_ :: _) => rfl
  | .specific [] => exact absurd hp hc
  | .custom expression columns =>
    have hb : isBlank expression ≠ true := fun hb => he ⟨expression, columns, hp, hb⟩
    simp [Projection.fault, hb]

theorem fault_of_lacksJoinTable (ht : ¬ q.LacksTable) (hc : ¬ q.LacksColumns) (he : ¬ q.LacksExpression)
    (h : q.LacksJoinTable) : q.fault = some (.missingArgument .joinTable) := by
  have hany : q.joins.any (isBlank ·.table) = true := List.any_eq_true.2 h
  rw [fault, tableFault_eq_none ht, projection_fault_eq_none hc he, joinsFault, hany]
  rfl

theorem fault_of_complete (ht : ¬ q.LacksTable) (hc : ¬ q.LacksColumns) (he : ¬ q.LacksExpression)
    (hj : ¬ q.LacksJoinTable) : q.fault = q.filters.fault := by
  have hjoins : joinsFault q.joins = none := by
    refine joinsFault_eq_none fun join hm => ?_
    rw [← Bool.not_eq_true]
    exact fun hb => hj ⟨join, hm, hb⟩
  rw [fault, tableFault_eq_none ht, projection_fault_eq_none hc he, hjoins]
  rfl

/-- The filters of a query with no primary filter on a column are not looked at. -/
theorem shown_eq_cons_iff {primary : Filter} {secondary : List Filter} :
    q.filters.shown = primary :: secondary ↔
      q.filters.primary = some primary ∧ isBlank primary.column = false ∧ q.filters.secondary = secondary := by
  unfold Filters.shown
  cases q.filters.primary with
  | none => simp
  | some f =>
    cases hb : isBlank f.column with
    | true =>
      simp only [hb, if_true, Option.some.injEq, reduceCtorEq, false_iff]
      rintro ⟨rfl, hf, -⟩
      exact absurd (hb.symm.trans hf) (by decide)
    | false =>
      simp only [hb, Bool.false_eq_true, if_false, List.cons.injEq, Option.some.injEq]
      constructor
      · rintro ⟨rfl, rfl⟩; exact ⟨rfl, hb, rfl⟩
      · rintro ⟨rfl, -, rfl⟩; exact ⟨rfl, rfl⟩

theorem filters_fault_eq_some_iff {error : BuildError} :
    q.filters.fault = some error ↔ ∃ reason, q.Refused reason ∧ error = .computedValue reason := by
  rw [Filters.fault, List.findSome?_eq_some_iff]
  constructor
  · rintro ⟨before, f, after, hs, hf, hbefore⟩
    obtain ⟨reason, hop, rfl⟩ := Operand.fault_eq_some_iff.1 hf
    obtain ⟨primary, secondary, hcons⟩ : ∃ primary secondary, before ++ f :: after = primary :: secondary := by
      cases before with
      | nil => exact ⟨f, after, rfl⟩
      | cons g before => exact ⟨g, before ++ f :: after, rfl⟩
    obtain ⟨hp, hb, hsec⟩ := shown_eq_cons_iff.1 (hs.trans hcons)
    refine ⟨reason, ⟨primary, hp, hb, before, f, after, ?_, hop, ?_⟩, rfl⟩
    · rw [hcons, hsec]
    · exact fun g hg => Operand.fault_eq_none_iff.1 (hbefore g hg)
  · rintro ⟨reason, ⟨primary, hp, hb, before, f, after, hs, hop, hbefore⟩, rfl⟩
    refine ⟨before, f, after, ?_, Operand.fault_eq_some_iff.2 ⟨reason, hop, rfl⟩, ?_⟩
    · rw [← hs]
      exact shown_eq_cons_iff.2 ⟨hp, hb, rfl⟩
    · exact fun g hg => Operand.fault_eq_none_iff.2 (hbefore g hg)

theorem filters_fault_eq_none_iff : q.filters.fault = none ↔ ∀ reason, ¬ q.Refused reason := by
  rw [Option.eq_none_iff_forall_ne_some]
  constructor
  · intro h reason hr
    exact h _ (filters_fault_eq_some_iff.2 ⟨reason, hr, rfl⟩)
  · intro h error he
    obtain ⟨reason, hr, -⟩ := filters_fault_eq_some_iff.1 he
    exact h reason hr

theorem exists_build_eq_ok_iff : (∃ text, q.build = .ok text) ↔ q.fault = none := by
  simp [build_eq_ok_iff]

theorem table_not_blank_of_build {text : String} (h : q.build = .ok text) : isBlank q.table = false := by
  rw [← Bool.not_eq_true]
  intro hb
  have hfault := (build_eq_ok_iff.1 h).1
  rw [fault_of_lacksTable hb] at hfault
  cases hfault

theorem projection_ne_of_build {text : String} (h : q.build = .ok text) : q.projection ≠ .specific [] := by
  intro hp
  have hfault := (build_eq_ok_iff.1 h).1
  rw [fault_of_lacksColumns (by simp [LacksTable, table_not_blank_of_build h]) hp] at hfault
  cases hfault

theorem joins_not_blank_of_build {text : String} (h : q.build = .ok text) :
    ∀ join ∈ q.joins, isBlank join.table = false := by
  have hfault := (build_eq_ok_iff.1 h).1
  simp only [fault, Option.or_eq_none_iff, joinsFault, ite_eq_right_iff, reduceCtorEq, imp_false] at hfault
  simpa using hfault.2.2.1

/-- **When building fails, and with which error.** -/
theorem build_fails_iff (q : Query) :
    (q.build = .error (.missingArgument .table) ↔ q.LacksTable) ∧
    (q.build = .error (.missingArgument .columns) ↔ ¬ q.LacksTable ∧ q.LacksColumns) ∧
    (q.build = .error (.missingArgument .customExpression) ↔
      ¬ q.LacksTable ∧ ¬ q.LacksColumns ∧ q.LacksExpression) ∧
    (q.build = .error (.missingArgument .joinTable) ↔
      ¬ q.LacksTable ∧ ¬ q.LacksColumns ∧ ¬ q.LacksExpression ∧ q.LacksJoinTable) ∧
    (∀ reason, q.build = .error (.computedValue reason) ↔
      ¬ q.LacksTable ∧ ¬ q.LacksColumns ∧ ¬ q.LacksExpression ∧ ¬ q.LacksJoinTable ∧ q.Refused reason) ∧
    ((∃ text, q.build = .ok text) ↔ ¬ q.LacksTable ∧ ¬ q.LacksColumns ∧ ¬ q.LacksExpression ∧ ¬ q.LacksJoinTable ∧
      ∀ reason, ¬ q.Refused reason) ∧
    (∀ error, q.build = .error error ↔ q.outline.build = .error error) := by
  have hargs : Argument.columns ≠ .table ∧ Argument.customExpression ≠ .table ∧ Argument.joinTable ≠ .table ∧
      Argument.customExpression ≠ .columns ∧ Argument.joinTable ≠ .columns ∧
      Argument.joinTable ≠ .customExpression := by decide
  obtain ⟨hct, het, hjt, hec, hjc, hje⟩ := hargs
  simp only [build_eq_error_iff, exists_build_eq_ok_iff, fault_outline, implies_true, and_true]
  -- In each case the fault is known, and every line of the statement speaks of that fault alone.
  by_cases ht : q.LacksTable
  · simp [fault_of_lacksTable ht, ht, hct.symm, het.symm, hjt.symm]
  by_cases hc : q.LacksColumns
  · simp [fault_of_lacksColumns ht hc, ht, hc, hct, hec.symm, hjc.symm]
  by_cases he : q.LacksExpression
  · simp [fault_of_lacksExpression ht he, ht, hc, he, het, hec, hje.symm]
  by_cases hj : q.LacksJoinTable
  · simp [fault_of_lacksJoinTable ht hc he hj, ht, hc, he, hj, hjt, hjc, hje]
  · have hmissing : ∀ argument, q.filters.fault ≠ some (.missingArgument argument) := by
      intro argument h
      obtain ⟨_, _, herror⟩ := filters_fault_eq_some_iff.1 h
      cases herror
    simp [fault_of_complete ht hc he hj, ht, hc, he, hj, hmissing, filters_fault_eq_some_iff,
      filters_fault_eq_none_iff]

end Query

end SqlSelect
