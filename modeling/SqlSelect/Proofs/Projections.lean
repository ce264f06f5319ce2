import SqlSelect.Proofs.Numbering

/-!
# Expressions in front of columns

An expression may stand in front of the selected columns, and it is all that the two ways to select them differ by.
Behind `SELECT `, and behind the expression and its comma, stands the same text (`Clause.columnsText`): the columns that
are given, with nothing of the joined tables, or all columns of all tables if none are given.
-/

namespace SqlSelect

namespace Clause

/-- The given columns of the source, or all columns of all tables. -/
def columnsText (owner : String) (joins : List Join) : List String → String
  | [] => owner ++ ".*" ++ String.join ((Join.aliases joins).map fun name => ", " ++ name ++ ".*")
  | columns => ",".intercalate (columns.map fun column => owner ++ "." ++ column)

theorem columnsText_of_ne_nil {columns : List String} (h : columns ≠ []) (owner : String) (joins : List Join) :
    columnsText owner joins columns = ",".intercalate (columns.map fun column => owner ++ "." ++ column) := by
  cases columns with
  | nil => exact absurd rfl h
  | cons column columns => rfl

theorem allColumns_eq_columnsText (opening owner : String) (joins : List Join) :
    allColumns opening owner joins = opening ++ columnsText owner joins [] := by
  rw [allColumns_eq_stars, columnsText]
  simp only [String.append_assoc]

theorem sourceColumns_eq_columnsText {columns : List String} (h : columns ≠ []) (opening owner : String)
    (joins : List Join) : sourceColumns opening owner columns = opening ++ columnsText owner joins columns := by
  rw [sourceColumns_eq_intercalate, columnsText_of_ne_nil h]
  rfl

theorem selectText_custom (owner expression : String) (joins : List Join) (columns : List String) :
    selectText owner joins (.custom expression columns) =
      "SELECT " ++ expression ++ ", " ++ columnsText owner joins columns := by
  cases columns with
  | nil => exact allColumns_eq_columnsText _ owner joins
  | cons column columns => exact sourceColumns_eq_columnsText (List.cons_ne_nil _ _) _ owner joins

end Clause

namespace Projection

/-- The given columns without an expression, or all columns if none are given. -/
def ofColumns : List String → Projection
  | [] => all
  | columns => specific columns

theorem ofColumns_of_ne_nil {columns : List String} (h : columns ≠ []) : ofColumns columns = specific columns := by
  cases columns with
  | nil => exact absurd rfl h
  | cons column columns => rfl

theorem fault_ofColumns (columns : List String) : (ofColumns columns).fault = none := by
  cases columns <;> rfl

theorem fault_custom_of_isBlank {expression : String} (h : isBlank expression = true) (columns : List String) :
    (custom expression columns).fault = some (.missingArgument .customExpression) := by
  simp [fault, h]

theorem fault_custom_of_not_isBlank {expression : String} (h : isBlank expression = false) (columns : List String) :
    (custom expression columns).fault = none := by
  simp [fault, h]

end Projection

namespace Clause

theorem selectText_ofColumns (owner : String) (joins : List Join) (columns : List String) :
    selectText owner joins (.ofColumns columns) = "SELECT " ++ columnsText owner joins columns := by
  cases columns with
  | nil => exact allColumns_eq_columnsText _ owner joins
  | cons column columns => exact sourceColumns_eq_columnsText (List.cons_ne_nil _ _) _ owner joins

theorem select_of_isBlank {table : String} (h : isBlank table = true) (projection : Projection) (joins : List Join) :
    select table projection joins = .error (.missingArgument .table) := by
  rw [select_eq, tableFault_of_isBlank h, Option.some_or, outcome_some]

/-- **An expression stands in front of what would be selected without it**: the columns that are given or, if there are
none, all columns of all tables. -/
theorem select_custom_follows_ofColumns (table expression : String) (columns : List String) (joins : List Join) :
    let owner := Alias.ofTable table
    (isBlank table = true →
      select table (.custom expression columns) joins = .error (.missingArgument .table) ∧
      select table (.ofColumns columns) joins = .error (.missingArgument .table)) ∧
    (isBlank table = false → isBlank expression = true →
      select table (.custom expression columns) joins = .error (.missingArgument .customExpression)) ∧
    (isBlank table = false → isBlank expression = false → ∃ body,
      select table (.ofColumns columns) joins = .ok ("SELECT " ++ body) ∧
      select table (.custom expression columns) joins = .ok ("SELECT " ++ expression ++ ", " ++ body) ∧
      (columns = [] →
        body = owner ++ ".*" ++ String.join ((Join.aliases joins).map fun name => ", " ++ name ++ ".*")) ∧
      (columns ≠ [] → body = ",".intercalate (columns.map fun column => owner ++ "." ++ column))) := by
  intro owner
  refine ⟨fun ht => ⟨select_of_isBlank ht _ joins, select_of_isBlank ht _ joins⟩, fun ht he => ?_, fun ht he => ?_⟩
  · rw [select_eq, tableFault_of_not_isBlank ht, Projection.fault_custom_of_isBlank he, Option.none_or, outcome_some]
  · refine ⟨columnsText owner joins columns, ?_, ?_, ?_, ?_⟩
    · rw [select_eq_ok ht (Projection.fault_ofColumns columns), selectText_ofColumns]
    · rw [select_eq_ok ht (Projection.fault_custom_of_not_isBlank he columns), selectText_custom]
    · rintro rfl
      rfl
    · intro hne
      exact columnsText_of_ne_nil hne owner joins

/-- An expression in front of all columns of two tables, in front of two columns, one of them without a name, and where
there is none. -/
theorem select_custom_follows_ofColumns_of_orders :
    let joins : List Join := [⟨.left, "Orders", "Id", "BuyerId"⟩]
    isBlank "Customers" = false ∧ isBlank "1 AS One" = false ∧ isBlank " " = true ∧
      select "Customers" .all joins = .ok "SELECT c.*, o0.*" ∧
      select "Customers" (.custom "1 AS One" []) joins = .ok "SELECT 1 AS One, c.*, o0.*" ∧
      select "Customers" (.specific ["Id", ""]) joins = .ok "SELECT c.Id,c." ∧
      select "Customers" (.custom "1 AS One" ["Id", ""]) joins = .ok "SELECT 1 AS One, c.Id,c." ∧
      select "Customers" (.custom " " ["Id"]) joins = .error (.missingArgument .customExpression) ∧
      select " " (.custom "1 AS One" []) joins = .error (.missingArgument .table) := by
  intro joins
  have ht : isBlank "Customers" = false := by decide
  have he : isBlank "1 AS One" = false := by decide
  have hb : isBlank " " = true := by decide
  obtain ⟨-, -, hstars⟩ := select_custom_follows_ofColumns "Customers" "1 AS One" [] joins
  obtain ⟨body, hall, hcustom, hbody, -⟩ := hstars ht he
  obtain ⟨-, -, hcolumns⟩ := select_custom_follows_ofColumns "Customers" "1 AS One" ["Id", ""] joins
  obtain ⟨body', hspecific, hcustom', -, hbody'⟩ := hcolumns ht he
  rw [hbody rfl] at hall hcustom
  rw [hbody' (List.cons_ne_nil _ _)] at hspecific hcustom'
  refine ⟨ht, he, hb, hall.trans ?_, hcustom.trans ?_, hspecific.trans ?_, hcustom'.trans ?_, ?_, ?_⟩
  · exact congrArg Except.ok (by decide)
  · exact congrArg Except.ok (by decide)
  · exact congrArg Except.ok (by decide)
  · exact congrArg Except.ok (by decide)
  · exact (select_custom_follows_ofColumns "Customers" " " ["Id"] joins).2.1 ht hb
  · exact ((select_custom_follows_ofColumns " " "1 AS One" [] joins).1 hb).1

end Clause

end SqlSelect
