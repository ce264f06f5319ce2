import SqlSelect.Join
import SqlSelect.Literal

/-!
# The clauses of a statement

What each of the five clauses is made of, and its text. A clause needs the name of the source table
and fails if there is none; each brings the blank in front of it along, the first one excepted.

* SELECT opens the statement. What joined tables contribute to it stands in the order of the joins
  and under their aliases.
* FROM declares the source table.
* JOIN stands once for each join, in the order and under the aliases that the joins' numbers give.
* WHERE is opened by the primary filter. Without one, or with one on a blank column, there is no
  clause, whatever the secondary filters are, and no value is computed.
* ORDER BY is left out for a sort key on a blank column. The ascending direction is not written.
-/

namespace SqlSelect

/-! ## Errors -/

/-- A part that is needed to build something; it is known by its name alone. -/
structure Argument where
  name : String
  deriving DecidableEq, Repr

/-! The parts that the clauses of a statement cannot do without. -/

def Argument.table : Argument :=
  ⟨"table"⟩

def Argument.columns : Argument :=
  ⟨"columns"⟩

def Argument.customExpression : Argument :=
  ⟨"custom expression"⟩

def Argument.joinTable : Argument :=
  ⟨"join table"⟩

inductive BuildError where
  | missingArgument (argument : Argument)
  | computedValue (reason : String)
  | literalFormat (detail : String)
  deriving DecidableEq, Repr

namespace BuildError

def message : BuildError → String
  | missingArgument argument => "builder missing required argument: " ++ argument.name
  | computedValue reason => "builder sql valuer error: " ++ reason
  | literalFormat detail => "builder failed to format literal: " ++ detail

end BuildError

abbrev BuildResult (α : Type) : Type :=
  Except BuildError α

/-! ## Source table -/

/-- The name of the source table, unless it is blank. -/
def requireTable (table : String) : BuildResult String :=
  if isBlank table then .error (.missingArgument .table) else .ok table

def sourceAlias (table : String) : BuildResult String :=
  (requireTable table).map Alias.ofTable

/-- A table with its alias, as it is declared. -/
def declaration (table owner : String) : String :=
  "[" ++ table ++ "] " ++ owner

def Clause.source (table : String) : BuildResult String := do
  let owner ← sourceAlias table
  return " FROM " ++ declaration table owner

/-! ## Projection -/

def qualified (owner column : String) : String :=
  owner ++ "." ++ column

theorem qualified_ne_empty (owner column : String) : qualified owner column ≠ "" := by
  simp [qualified]

inductive Projection where
  /-- All columns of the source and of every joined table. -/
  | all
  /-- The number of rows. -/
  | count
  /-- Columns of the source table. -/
  | specific (columns : List String)
  /-- An expression as it stands, then the given columns; all columns if none are given. -/
  | custom (expression : String) (columns : List String)
  deriving DecidableEq, Repr

instance : Inhabited Projection := ⟨.all⟩

namespace Clause

def star (owner : String) : String :=
  qualified owner "*"

theorem star_eq (owner : String) : star owner = owner ++ ".*" := by
  rw [star, qualified, String.append_assoc]
  rfl

/-- All columns of the source, then all columns of each joined table. -/
def allColumns (opening owner : String) (joins : List Join) : String :=
  match (Join.aliases joins).map star with
  | [] => opening ++ star owner
  | stars => appendItems ", " (opening ++ star owner ++ ", ") stars

def sourceColumns (opening owner : String) (columns : List String) : String :=
  appendItems "," opening (columns.map (qualified owner))

/-- What is qualified is never empty, so no column is left out. -/
theorem filter_map_qualified {α : Type} (f : α → String) (g : α → String) (xs : List α) :
    ((xs.map fun x => qualified (f x) (g x)).filter (· ≠ "")) = xs.map fun x => qualified (f x) (g x) := by
  refine List.filter_eq_self.2 fun item hitem => ?_
  obtain ⟨x, -, rfl⟩ := List.mem_map.1 hitem
  simpa using qualified_ne_empty (f x) (g x)

theorem allColumns_eq_intercalate (opening owner : String) (joins : List Join) :
    allColumns opening owner joins = opening ++ ", ".intercalate ((owner :: Join.aliases joins).map star) := by
  unfold allColumns
  cases Join.aliases joins with
  | nil => rw [List.map_singleton, String.intercalate_singleton]; rfl
  | cons first others =>
    have hstars := filter_map_qualified (fun name : String => name) (fun _ => "*") (first :: others)
    calc appendItems ", " (opening ++ star owner ++ ", ") ((first :: others).map star)
        = opening ++ star owner ++ ", " ++ ", ".intercalate ((first :: others).map star) := by
          rw [appendItems_eq]; exact congrArg (_ ++ ", ".intercalate ·) hstars
      _ = opening ++ ", ".intercalate ((owner :: first :: others).map star) := by
          simp only [List.map_cons, String.intercalate_cons_cons, String.append_assoc]

theorem allColumns_eq (opening owner : String) (joins : List Join) :
    allColumns opening owner joins =
      opening ++ star owner ++ String.join ((Join.aliases joins).map (", " ++ star ·)) := by
  rw [allColumns_eq_intercalate, List.map_cons, intercalate_cons, List.map_map, String.append_assoc]
  rfl

theorem sourceColumns_eq_intercalate (opening owner : String) (columns : List String) :
    sourceColumns opening owner columns = opening ++ ",".intercalate (columns.map (qualified owner)) := by
  rw [sourceColumns, appendItems_eq]
  exact congrArg (opening ++ ",".intercalate ·) (filter_map_qualified (fun _ => owner) (fun column => column) columns)

theorem sourceColumns_cons (opening owner column : String) (columns : List String) :
    sourceColumns opening owner (column :: columns) =
      opening ++ qualified owner column ++ String.join (columns.map ("," ++ qualified owner ·)) := by
  rw [sourceColumns_eq_intercalate, List.map_cons, intercalate_cons, List.map_map, String.append_assoc]
  rfl

def select (table : String) (projection : Projection) (joins : List Join) : BuildResult String := do
  let owner ← sourceAlias table
  match projection with
  | .all => return allColumns "SELECT " owner joins
  | .count => return "SELECT COUNT(*)"
  | .specific [] => throw (.missingArgument .columns)
  | .specific columns => return sourceColumns "SELECT " owner columns
  | .custom expression columns =>
    if isBlank expression then throw (.missingArgument .customExpression)
    else
      let opening := "SELECT " ++ expression ++ ", "
      return if columns = [] then allColumns opening owner joins
        else sourceColumns opening owner columns

/-! ## Joined tables -/

/-- A join under its alias. -/
def joinText (owner joined : String) (join : Join) : String :=
  " " ++ join.kind.keyword ++ " " ++ declaration join.table joined ++ " ON " ++
    qualified owner join.localKey ++ " = " ++ qualified joined join.foreignKey

/-- A numbered join, whose table must have a name. -/
def join (owner : String) (numbered : Join × Nat) : BuildResult String :=
  if isBlank numbered.1.table then .error (.missingArgument .joinTable)
  else .ok (joinText owner (Alias.ofJoin numbered.1.table numbered.2) numbered.1)

def joins (table : String) (joins : List Join) : BuildResult String := do
  let owner ← sourceAlias table
  let clauses ← (Join.numbered joins).mapM (join owner)
  return String.join clauses

end Clause

/-! ## Filters -/

inductive Operand where
  /-- A parameter, to be bound by whoever runs the statement. It is named like the column. -/
  | placeholder
  | literal (value : Literal)
  /-- A value that is determined when the statement is built, or the reason why there is none. -/
  | computed (result : Except String Literal)

def Operand.text (column : String) : Operand → BuildResult String
  | placeholder => .ok ("@" ++ column)
  | literal value => .ok value.text
  | computed (.ok value) => .ok value.text
  | computed (.error reason) => .error (.computedValue reason)

structure Filter where
  column : String
  operand : Operand

namespace Filter

def placeholder (column : String) : Filter :=
  ⟨column, .placeholder⟩

def literal {α : Type} [ToLiteral α] (column : String) (value : α) : Filter :=
  ⟨column, .literal (toLiteral value)⟩

def computed (column : String) (result : Except String Literal) : Filter :=
  ⟨column, .computed result⟩

/-- The comparison as it stands behind its keyword. -/
def condition (owner : String) (f : Filter) : BuildResult String :=
  (f.operand.text f.column).map fun value => qualified owner f.column ++ " = " ++ value

theorem condition_computed_ok (owner column : String) (value : Literal) :
    (computed column (.ok value)).condition owner = (literal column value).condition owner := rfl

end Filter

structure Filters where
  primary : Option Filter := none
  secondary : List Filter := []

def Filters.isEmpty (filters : Filters) : Bool :=
  filters.primary.isNone && filters.secondary.isEmpty

namespace Clause

def conditions (table : String) (filters : Filters) : BuildResult String := do
  let owner ← sourceAlias table
  match filters.primary with
  | none => return ""
  | some primary =>
    if isBlank primary.column then return ""
    else
      let first ← primary.condition owner
      let others ← filters.secondary.mapM (·.condition owner)
      return " WHERE " ++ first ++ String.join (others.map (" AND " ++ ·))

end Clause

/-! ## Sort key -/

inductive Direction where
  | ascending
  | descending
  deriving DecidableEq, Repr

instance : Inhabited Direction := ⟨.ascending⟩

def Direction.keyword : Direction → String
  | ascending => "ASC"
  | descending => "DESC"

structure SortKey where
  column : String
  direction : Direction
  deriving DecidableEq, Repr

namespace Clause

def orderText (owner : String) (key : SortKey) : String :=
  " ORDER BY " ++ qualified owner key.column ++
    match key.direction with
    | .ascending => ""
    | .descending => " " ++ Direction.descending.keyword

def order (table : String) (sortKey : Option SortKey) : BuildResult String := do
  let owner ← sourceAlias table
  match sortKey with
  | none => return ""
  | some key => return if isBlank key.column then "" else orderText owner key

end Clause

end SqlSelect
