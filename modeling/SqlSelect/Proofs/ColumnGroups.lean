import SqlSelect.Proofs.Failure
import SqlSelect.Proofs.Projections
import SqlSelect.Proofs.Rows

/-!
# Columns in groups

Columns come in groups of several shapes, and a group is nothing but the columns that it holds (`ColumnGroup.items`).
Each shape is written behind the columns that are there already, and so any number of groups, whatever their shapes, is
written as all their columns in a row (`ColumnGroup.collect_eq`). A query that selects by groups selects these columns
(`Query.selectSpecificOf_eq`, `Query.selectCustomOf_eq`) and does not know how they were grouped.

Groups may hold nothing, all of them or one after the other. To select nothing is a fault, unless an expression stands
in front: behind it nothing is read as everything (`Query.build_custom_eq_rows`).
-/

namespace SqlSelect

namespace Query
variable {q : Query}

theorem project_inj {projection projection' : Projection} :
    q.project projection = q.project projection' ↔ projection = projection' :=
  ⟨congrArg Query.projection, congrArg q.project⟩

/-- No other part of a query can be the reason why columns are missing. -/
theorem build_eq_missing_columns_iff (ht : isBlank q.table = false) :
    q.build = .error (.missingArgument .columns) ↔ q.projection = .specific [] := by
  have htable : ¬ q.LacksTable := fun h => absurd (ht.symm.trans h) Bool.false_ne_true
  rw [build_eq_error_iff]
  refine ⟨fun hfault => ?_, fun hc => fault_of_lacksColumns htable hc⟩
  by_contra hc
  by_cases he : q.LacksExpression
  · exact absurd (hfault.symm.trans (fault_of_lacksExpression htable he)) (by decide)
  by_cases hj : q.LacksJoinTable
  · exact absurd (hfault.symm.trans (fault_of_lacksJoinTable htable hc he hj)) (by decide)
  rw [fault_of_complete htable hc he hj] at hfault
  obtain ⟨reason, -, hreason⟩ := filters_fault_eq_some_iff.1 hfault
  exact BuildError.noConfusion hreason

theorem build_specific_eq_missing_columns_iff (ht : isBlank q.table = false) (columns : List String) :
    (q.project (.specific columns)).build = .error (.missingArgument .columns) ↔ columns = [] := by
  rw [build_eq_missing_columns_iff (q := q.project (.specific columns)) ht]
  exact iff_of_eq (Projection.specific.injEq columns [])

/-- Behind an expression stands what would be selected without it, and behind that the same rows. -/
theorem build_custom_eq_rows {expression : String} (he : isBlank expression = false) (q : Query)
    (columns : List String) :
    let rest := q.rows.map (Clause.columnsText (Alias.ofTable q.table) q.joins columns ++ ·)
    (q.project (.ofColumns columns)).build = rest.map ("SELECT " ++ ·) ∧
      (q.project (.custom expression columns)).build = rest.map ("SELECT " ++ expression ++ ", " ++ ·) := by
  intro rest
  have hmap : ∀ opening, rest.map (opening ++ ·) =
      q.rows.map (opening ++ Clause.columnsText (Alias.ofTable q.table) q.joins columns ++ ·) := by
    intro opening
    cases h : q.rows <;> simp [rest, h, Except.map, String.append_assoc]
  constructor
  · rw [build_project (Projection.fault_ofColumns columns), Clause.selectText_ofColumns, hmap]
  · rw [build_project (Projection.fault_custom_of_not_isBlank he columns), Clause.selectText_custom, hmap]

/-- **Columns may be given in any groups**: a query knows the columns and not how they were grouped. Groups that hold
none are the only way to leave the columns out, which is a fault unless an expression stands in front. -/
theorem select_of_groups :
    (∀ group : ColumnGroup, group.toList = group.items) ∧
    (∀ groups : List ColumnGroup, ColumnGroup.collect groups = groups.flatMap ColumnGroup.toList) ∧
    (∀ (q : Query) (expression : String) (groups : List ColumnGroup) (whole : ColumnGroup),
      whole.items = groups.flatMap ColumnGroup.items →
      q.selectSpecificOf groups = q.selectSpecific whole ∧
      q.selectCustomOf expression groups = q.selectCustom expression whole) ∧
    (∀ (q : Query) (expression : String) (groups groups' : List ColumnGroup),
      let same := groups.flatMap ColumnGroup.items = groups'.flatMap ColumnGroup.items
      (q.selectSpecificOf groups = q.selectSpecificOf groups' ↔ same) ∧
      (q.selectCustomOf expression groups = q.selectCustomOf expression groups' ↔ same)) ∧
    (∀ (q : Query) (groups : List ColumnGroup), isBlank q.table = false →
      ((q.selectSpecificOf groups).build = .error (.missingArgument .columns) ↔ ∀ group ∈ groups, group.items = [])) ∧
    ∀ (q : Query) (expression : String) (groups : List ColumnGroup), isBlank expression = false →
      ∃ rest : BuildResult String,
        (q.selectCustomOf expression groups).build = rest.map ("SELECT " ++ expression ++ ", " ++ ·) ∧
        ((∀ group ∈ groups, group.items = []) → q.selectAll.build = rest.map ("SELECT " ++ ·)) ∧
        ((∃ group ∈ groups, group.items ≠ []) → (q.selectSpecificOf groups).build = rest.map ("SELECT " ++ ·)) := by
  refine ⟨ColumnGroup.toList_eq_items, ?_, ?_, ?_, ?_, ?_⟩
  · intro groups
    rw [ColumnGroup.collect_eq, funext ColumnGroup.toList_eq_items]
  · intro q expression groups whole hwhole
    rw [selectSpecificOf_eq, selectSpecific_eq, selectCustomOf_eq, selectCustom_eq, hwhole]
    exact ⟨rfl, rfl⟩
  · intro q expression groups groups' same
    simp only [selectSpecificOf_eq, selectCustomOf_eq, project_inj, Projection.specific.injEq, Projection.custom.injEq,
      true_and]
    exact ⟨Iff.rfl, Iff.rfl⟩
  · intro q groups ht
    rw [selectSpecificOf_eq, ← List.flatMap_eq_nil_iff]
    exact build_specific_eq_missing_columns_iff ht _
  · intro q expression groups he
    obtain ⟨hcolumns, hcustom⟩ := build_custom_eq_rows he q (groups.flatMap ColumnGroup.items)
    refine ⟨_, by rw [selectCustomOf_eq, hcustom], fun hnone => ?_, fun hsome => ?_⟩
    · rw [← hcolumns, List.flatMap_eq_nil_iff.2 hnone]
      rfl
    · obtain ⟨group, hgroup, hitems⟩ := hsome
      have hne : groups.flatMap ColumnGroup.items ≠ [] := fun h => hitems (List.flatMap_eq_nil_iff.1 h group hgroup)
      rw [← hcolumns, selectSpecificOf_eq, Projection.ofColumns_of_ne_nil hne]

/-- A column twice, one without a name and groups of all shapes, some of which hold nothing; the same columns in two
groups; and groups that hold nothing, with and without an expression. -/
theorem select_of_groups_of_users :
    let q : Query := { table := "Users", joins := [⟨.left, "Orders", "Id", "BuyerId"⟩] }
    let slice : Subarray String := #["Rank", "Id", "", "Name", "Rank"].toSubarray 1 4
    let groups : List ColumnGroup := [.name "Id", .vector #v[], .slice slice, .array #[], .list ["Total"]]
    let groups' : List ColumnGroup := [.array #["Id", "Id"], .vector #v["", "Name", "Total"]]
    let nothing : List ColumnGroup := [.list [], .array #[]]
    let whole : ColumnGroup := .array #["Id", "Id", "", "Name", "Total"]
    isBlank q.table = false ∧ isBlank "1 AS One" = false ∧
      whole.items = groups.flatMap ColumnGroup.items ∧ q.selectSpecificOf groups = q.selectSpecific whole ∧
      groups.flatMap ColumnGroup.items = groups'.flatMap ColumnGroup.items ∧
      q.selectCustomOf "1 AS One" groups = q.selectCustomOf "1 AS One" groups' ∧
      (∀ group ∈ nothing, group.items = []) ∧
      (q.selectSpecificOf nothing).build = .error (.missingArgument .columns) ∧
      (∃ rest : BuildResult String, (q.selectCustomOf "1 AS One" nothing).build = rest.map ("SELECT 1 AS One, " ++ ·) ∧
        q.selectAll.build = rest.map ("SELECT " ++ ·)) ∧
      (∃ group ∈ groups, group.items ≠ []) ∧
      (∃ rest : BuildResult String, (q.selectCustomOf "1 AS One" groups).build = rest.map ("SELECT 1 AS One, " ++ ·) ∧
        (q.selectSpecificOf groups).build = rest.map ("SELECT " ++ ·)) := by
  intro q slice groups groups' nothing whole
  have ht : isBlank q.table = false := by decide
  have he : isBlank "1 AS One" = false := by decide
  have hwhole : whole.items = groups.flatMap ColumnGroup.items := by decide
  have hsame : groups.flatMap ColumnGroup.items = groups'.flatMap ColumnGroup.items := by decide
  have hnothing : ∀ group ∈ nothing, group.items = [] := by simp [nothing, ColumnGroup.items]
  have hsome : ∃ group ∈ groups, group.items ≠ [] := ⟨.name "Id", List.mem_cons_self, List.cons_ne_nil _ _⟩
  obtain ⟨-, -, hone, hregroup, hmissing, hcustom⟩ := select_of_groups
  obtain ⟨rest, hfollows, hall, -⟩ := hcustom q "1 AS One" nothing he
  obtain ⟨rest', hfollows', -, hspecific⟩ := hcustom q "1 AS One" groups he
  exact ⟨ht, he, hwhole, (hone q "1 AS One" groups whole hwhole).1, hsame,
    (hregroup q "1 AS One" groups groups').2.2 hsame, hnothing, (hmissing q nothing ht).2 hnothing,
    ⟨rest, hfollows, hall hnothing⟩, hsome, rest', hfollows', hspecific hsome⟩

end Query

end SqlSelect
