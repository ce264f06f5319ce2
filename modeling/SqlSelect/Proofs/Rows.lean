import SqlSelect.Proofs.Fragments
import SqlSelect.Proofs.Numbering

/-!
# The rows of a statement

What is selected and from which rows are two questions, and a statement answers one behind the other. What stands
behind the SELECT clause, `Query.rows`, does not look at the projection (`Query.rows_project`), and so statements that
differ in nothing but their projections are about the same rows (`Query.build_eq_ok_iff_rows`).

A projection without a fault of its own fails where the rows do and only there (`Query.build_project`). To count the
rows and to list them are two such projections, which is what somebody needs who shows a list page by page.
-/

namespace SqlSelect

theorem map_outcome {α β : Type} (f : α → β) (fault : Option BuildError) (value : α) :
    (outcome fault value).map f = outcome fault (f value) := by
  cases fault <;> rfl

namespace Query
variable {q : Query}

/-- What stands behind the SELECT clause. -/
def rows (q : Query) : BuildResult String := do
  let source ← Clause.source q.table
  let joins ← Clause.joins q.table q.joins
  let conditions ← Clause.conditions q.table q.filters
  let order ← Clause.order q.table q.sortKey
  return source ++ joins ++ conditions ++ order

theorem rows_project (q : Query) (projection : Projection) : (q.project projection).rows = q.rows := rfl

theorem build_eq_rows (q : Query) :
    q.build = Clause.select q.table q.projection q.joins >>= fun select => q.rows.map (select ++ ·) := by
  change _ = Clause.select q.table q.projection q.joins >>= fun select => (select ++ ·) <$> q.rows
  simp only [build_eq_clauses, rows, map_bind, map_pure, String.append_assoc]

theorem build_eq_ok_iff_rows {text : String} :
    q.build = .ok text ↔ ∃ select rows, Clause.select q.table q.projection q.joins = .ok select ∧ q.rows = .ok rows ∧
      text = select ++ rows := by
  rw [build_eq_rows]
  cases Clause.select q.table q.projection q.joins with
  | error error => simp [bind, Except.bind]
  | ok select => cases q.rows <;> simp [bind, Except.bind, Except.map, eq_comm]

theorem rows_eq (q : Query) :
    let owner := Alias.ofTable q.table
    q.rows = outcome ((tableFault q.table).or ((joinsFault q.joins).or q.filters.fault))
      (Clause.sourceText q.table ++ Clause.joinsText owner q.joins ++ Clause.conditionsText owner q.filters.shown ++
        Clause.orderPart owner q.sortKey) := by
  rw [rows, Clause.source_eq, Clause.joins_eq, Clause.conditions_eq, Clause.order_eq]
  cases tableFault q.table with
  | some error => rfl
  | none => cases joinsFault q.joins <;> cases q.filters.fault <;> rfl

theorem rows_opening {rows : String} (h : q.rows = .ok rows) : ∃ rest, rows = " FROM [" ++ rest := by
  have hopening : " FROM [" = " FROM " ++ "[" := by decide
  rw [rows_eq] at h
  obtain ⟨-, rfl⟩ := outcome_eq_ok_iff.1 h
  simp only [Clause.sourceText, declaration, hopening, String.append_assoc]
  exact ⟨_, rfl⟩

/-- A projection without a fault leaves it to the rows whether there is a statement. -/
theorem build_project {projection : Projection} (h : projection.fault = none) (q : Query) :
    (q.project projection).build =
      q.rows.map (Clause.selectText (Alias.ofTable q.table) q.joins projection ++ ·) := by
  have hselect : Clause.select q.table projection q.joins =
      outcome (tableFault q.table) (Clause.selectText (Alias.ofTable q.table) q.joins projection) := by
    rw [Clause.select_eq, h, Option.or_none]
  rw [build_eq_rows, rows_project, rows_eq, map_outcome]
  change Clause.select q.table projection q.joins >>= _ = _
  rw [hselect]
  cases tableFault q.table with
  | some error => rfl
  | none => exact map_outcome _ _ _

/-- **Counting the rows and listing them fail alike, and otherwise speak of the same rows.** So it is with any two
projections that build: behind their SELECT clauses stands the same. -/
theorem build_count_and_list (q : Query) :
    let owner := Alias.ofTable q.table
    let stars := String.join ((Join.aliases q.joins).map fun name => ", " ++ name ++ ".*")
    (∀ error, q.selectCount.build = .error error ↔ q.selectAll.build = .error error) ∧
    (∀ text text', q.selectCount.build = .ok text → q.selectAll.build = .ok text' →
      ∃ rows rest, rows = " FROM [" ++ rest ∧ text = "SELECT COUNT(*)" ++ rows ∧
        text' = "SELECT " ++ owner ++ ".*" ++ stars ++ rows) ∧
    ∀ projection projection' text text', (q.project projection).build = .ok text →
      (q.project projection').build = .ok text' →
      ∃ select select' rows, Clause.select q.table projection q.joins = .ok select ∧
        Clause.select q.table projection' q.joins = .ok select' ∧ q.rows = .ok rows ∧ text = select ++ rows ∧
        text' = select' ++ rows := by
  intro owner stars
  have hcount : q.selectCount.build = q.rows.map ("SELECT COUNT(*)" ++ ·) := build_project rfl q
  have hall : q.selectAll.build = q.rows.map ("SELECT " ++ owner ++ ".*" ++ stars ++ ·) := by
    rw [← Clause.allColumns_eq_stars]
    exact build_project rfl q
  refine ⟨fun error => ?_, fun text text' htext htext' => ?_, ?_⟩
  · rw [hcount, hall, map_eq_error_iff, map_eq_error_iff]
  · rw [hcount, map_eq_ok_iff] at htext
    obtain ⟨rows, hrows, rfl⟩ := htext
    obtain ⟨rest, hrest⟩ := rows_opening hrows
    rw [hall, hrows] at htext'
    exact ⟨rows, rest, hrest, rfl, (Except.ok.inj htext').symm⟩
  · intro projection projection' text text' htext htext'
    obtain ⟨select, rows, hselect, hrows, rfl⟩ := build_eq_ok_iff_rows.1 htext
    obtain ⟨select', rows', hselect', hrows', rfl⟩ := build_eq_ok_iff_rows.1 htext'
    obtain rfl : rows = rows' := Except.ok.inj (hrows.symm.trans hrows')
    exact ⟨select, select', rows, hselect, hselect', hrows, rfl, rfl⟩

/-- The number of a customer's orders and the orders themselves; two columns of them behind an expression; and what both
come to if a filter has no value, although only one of the two projections asks for joined tables. -/
theorem build_count_and_list_of_orders :
    let q : Query := {
      table := "Orders"
      joins := [⟨.left, "Notes", "Id", "OrderId"⟩, ⟨.inner, "Customers", "CustomerId", "Id"⟩]
      filters := ⟨some ⟨"CustomerId", .placeholder⟩, []⟩
      sortKey := some ⟨"Id", .descending⟩ }
    let rows := " FROM [Orders] o INNER JOIN [Customers] c0 ON o.CustomerId = c0.Id" ++
      " LEFT JOIN [Notes] n1 ON o.Id = n1.OrderId WHERE o.CustomerId = @CustomerId ORDER BY o.Id DESC"
    let text := "SELECT COUNT(*)" ++ rows
    let text' := "SELECT o.*, c0.*, n1.*" ++ rows
    let custom : Projection := .custom "1 AS One" ["Id", "Total"]
    let refused := q.andComputed "Total" (.error "no total")
    q.selectCount.build = .ok text ∧ q.selectAll.build = .ok text' ∧
      (q.project custom).build = .ok ("SELECT 1 AS One, o.Id,o.Total" ++ rows) ∧
      (∃ rows', text = "SELECT COUNT(*)" ++ rows' ∧ text' = "SELECT o.*, c0.*, n1.*" ++ rows') ∧
      refused.selectCount.build = .error (.computedValue "no total") ∧
      refused.selectAll.build = .error (.computedValue "no total") := by
  intro q rows text text' custom refused
  have hcount : q.selectCount.build = .ok text := build_eq_ok_iff.2 ⟨by decide, by decide +kernel⟩
  have hall : q.selectAll.build = .ok text' := build_eq_ok_iff.2 ⟨by decide, by decide +kernel⟩
  have hcustom : (q.project custom).build = .ok ("SELECT 1 AS One, o.Id,o.Total" ++ rows) :=
    build_eq_ok_iff.2 ⟨by decide, by decide +kernel⟩
  have hrefused : refused.selectCount.build = .error (.computedValue "no total") := build_eq_error_iff.2 (by decide)
  obtain ⟨-, hcommon, -⟩ := build_count_and_list q
  obtain ⟨rows', -, -, htext, htext'⟩ := hcommon text text' hcount hall
  have hstars : "SELECT " ++ Alias.ofTable q.table ++ ".*" ++
      String.join ((Join.aliases q.joins).map fun name => ", " ++ name ++ ".*") = "SELECT o.*, c0.*, n1.*" := by
    decide +kernel
  rw [hstars] at htext'
  exact ⟨hcount, hall, hcustom, ⟨rows', htext, htext'⟩, hrefused, ((build_count_and_list refused).1 _).1 hrefused⟩

end Query

end SqlSelect
