import SqlSelect.Clause

/-!
# Queries

A `Query` records what a statement is to say. It is put together by small changes that never fail:

* projection, table, primary filter and sort key hold the last one given;
* joins and secondary filters hold all that were given, in order.

`Query.build` is its statement, and each build gives one `BuildEvent` for a log. An `Edit` is one
change as a value, and a `Session` is a query together with what its builds have given so far.
-/

namespace SqlSelect

/-! ## Groups of columns

Callers hold column names in many shapes; a `ColumnGroup` is a group of names in one of them.
`ColumnGroup.collect` writes any number of groups one behind the other into one list.
-/

inductive ColumnGroup where
  | name (column : String)
  | list (columns : List String)
  | array (columns : Array String)
  | slice (columns : Subarray String)
  | vector {n : Nat} (columns : Vector String n)

namespace ColumnGroup

instance : Coe String ColumnGroup := ⟨name⟩
instance : Coe (List String) ColumnGroup := ⟨list⟩
instance : Coe (Array String) ColumnGroup := ⟨array⟩
instance : Coe (Subarray String) ColumnGroup := ⟨slice⟩
instance {n : Nat} : CoeOut (Vector String n) ColumnGroup := ⟨vector⟩

def appendTo (columns : Array String) : ColumnGroup → Array String
  | name column => columns.push column
  | list more => more.foldl Array.push columns
  | array more => more.foldl Array.push columns
  | slice more => more.foldl Array.push columns
  | vector more => more.foldl Array.push columns

def toList (group : ColumnGroup) : List String :=
  (group.appendTo #[]).toList

def collect (groups : List ColumnGroup) : List String :=
  (groups.foldl appendTo #[]).toList

/-- The columns that a group holds, in their order. -/
def items : ColumnGroup → List String
  | name column => [column]
  | list columns => columns
  | array columns => columns.toList
  | slice columns => (columns.array.extract columns.start columns.stop).toList
  | vector columns => columns.toList

/-- A group is written behind what is there already, whatever that is. -/
theorem toList_appendTo (columns : Array String) (group : ColumnGroup) :
    (group.appendTo columns).toList = columns.toList ++ group.items := by
  cases group with
  | name column => simp [appendTo, items]
  | list more => simp [appendTo, items]
  | array more => simp [appendTo, items, ← Array.foldl_toList]
  | slice more => simp [appendTo, items, ← Subarray.foldl_toList, Subarray.toList_eq]
  | vector more => simp [appendTo, items, ← Vector.foldl_toList]

theorem toList_eq_items (group : ColumnGroup) : group.toList = group.items := by
  rw [toList, toList_appendTo, List.nil_append]

theorem toList_foldl_appendTo (columns : Array String) (groups : List ColumnGroup) :
    (groups.foldl appendTo columns).toList = columns.toList ++ groups.flatMap items := by
  induction groups generalizing columns with
  | nil => rw [List.foldl_nil, List.flatMap_nil, List.append_nil]
  | cons group groups ih =>
    rw [List.foldl_cons, ih, toList_appendTo, List.flatMap_cons, List.append_assoc]

theorem collect_eq (groups : List ColumnGroup) : collect groups = groups.flatMap items := by
  rw [collect, toList_foldl_appendTo, List.nil_append]

end ColumnGroup

structure Query where
  table : String := ""
  projection : Projection := .all
  joins : List Join := []
  filters : Filters := {}
  sortKey : Option SortKey := none

namespace Query

def empty : Query :=
  {}

/-! ## Projection -/

def project (q : Query) (projection : Projection) : Query :=
  { q with projection }

def selectAll (q : Query) : Query :=
  q.project .all

def selectCount (q : Query) : Query :=
  q.project .count

def selectSpecific (q : Query) (columns : ColumnGroup) : Query :=
  q.project (.specific columns.toList)

def selectCustom (q : Query) (expression : String) (columns : ColumnGroup) : Query :=
  q.project (.custom expression columns.toList)

/-- The columns of all groups. -/
def selectSpecificOf (q : Query) (groups : List ColumnGroup) : Query :=
  q.selectSpecific (.list (ColumnGroup.collect groups))

/-- An expression, then the columns of all groups. -/
def selectCustomOf (q : Query) (expression : String) (groups : List ColumnGroup) : Query :=
  q.selectCustom expression (.list (ColumnGroup.collect groups))

theorem selectSpecific_eq (q : Query) (group : ColumnGroup) :
    q.selectSpecific group = q.project (.specific group.items) := by
  rw [selectSpecific, group.toList_eq_items]

theorem selectCustom_eq (q : Query) (expression : String) (group : ColumnGroup) :
    q.selectCustom expression group = q.project (.custom expression group.items) := by
  rw [selectCustom, group.toList_eq_items]

theorem selectSpecificOf_eq (q : Query) (groups : List ColumnGroup) :
    q.selectSpecificOf groups = q.project (.specific (groups.flatMap ColumnGroup.items)) := by
  rw [selectSpecificOf, selectSpecific_eq, ← ColumnGroup.collect_eq]
  rfl

theorem selectCustomOf_eq (q : Query) (expression : String) (groups : List ColumnGroup) :
    q.selectCustomOf expression groups =
      q.project (.custom expression (groups.flatMap ColumnGroup.items)) := by
  rw [selectCustomOf, selectCustom_eq, ← ColumnGroup.collect_eq]
  rfl

/-! ## Tables -/

def fromTable (q : Query) (table : String) : Query :=
  { q with table }

def join (q : Query) (join : Join) : Query :=
  { q with joins := q.joins ++ [join] }

def innerJoin (q : Query) (table localKey foreignKey : String) : Query :=
  q.join ⟨.inner, table, localKey, foreignKey⟩

def leftJoin (q : Query) (table localKey foreignKey : String) : Query :=
  q.join ⟨.left, table, localKey, foreignKey⟩

/-! ## Filters -/

def whereFilter (q : Query) (filter : Filter) : Query :=
  { q with filters := { q.filters with primary := some filter } }

def wherePlaceholder (q : Query) (column : String) : Query :=
  q.whereFilter (.placeholder column)

def whereLiteral {α : Type} [ToLiteral α] (q : Query) (column : String) (value : α) : Query :=
  q.whereFilter (.literal column value)

def whereComputed (q : Query) (column : String) (result : Except String Literal) : Query :=
  q.whereFilter (.computed column result)

def andFilter (q : Query) (filter : Filter) : Query :=
  { q with filters := { q.filters with secondary := q.filters.secondary ++ [filter] } }

def andPlaceholder (q : Query) (column : String) : Query :=
  q.andFilter (.placeholder column)

def andLiteral {α : Type} [ToLiteral α] (q : Query) (column : String) (value : α) : Query :=
  q.andFilter (.literal column value)

def andComputed (q : Query) (column : String) (result : Except String Literal) : Query :=
  q.andFilter (.computed column result)

/-! ## Order -/

def sortBy (q : Query) (key : SortKey) : Query :=
  { q with sortKey := some key }

def orderBy (q : Query) (column : String) : Query :=
  q.sortBy ⟨column, .ascending⟩

def orderByDescending (q : Query) (column : String) : Query :=
  q.sortBy ⟨column, .descending⟩

/-! ## Building a statement -/

/-- The table is asked for before the clauses, each of which asks for it again. -/
def build (q : Query) : BuildResult String := do
  let table ← requireTable q.table
  let select ← Clause.select table q.projection q.joins
  let source ← Clause.source table
  let joins ← Clause.joins table q.joins
  let conditions ← Clause.conditions table q.filters
  let order ← Clause.order table q.sortKey
  return select ++ source ++ joins ++ conditions ++ order

end Query

/-! ## Build events -/

/-- How much attention an event asks for. -/
inductive Severity where
  | debug
  | warn
  deriving DecidableEq, Repr

inductive BuildEvent where
  | built (table statement : String)
  | failed (table : String) (error : BuildError)
  deriving DecidableEq, Repr

namespace BuildEvent

def severity : BuildEvent → Severity
  | built .. => .debug
  | failed .. => .warn

def message : BuildEvent → String
  | built .. => "built select statement"
  | failed .. => "failed to build select statement"

end BuildEvent

def Query.event (q : Query) : BuildEvent :=
  match q.build with
  | .ok statement => .built q.table statement
  | .error error => .failed q.table error

/-! ## Edits -/

inductive Edit where
  | selectAll
  | selectCount
  | selectSpecific (columns : ColumnGroup)
  | selectCustom (expression : String) (columns : ColumnGroup)
  | fromTable (table : String)
  | innerJoin (table localKey foreignKey : String)
  | leftJoin (table localKey foreignKey : String)
  | join (join : Join)
  | wherePlaceholder (column : String)
  | whereLiteral (column : String) (value : Literal)
  | whereComputed (column : String) (result : Except String Literal)
  | whereFilter (filter : Filter)
  | andPlaceholder (column : String)
  | andLiteral (column : String) (value : Literal)
  | andComputed (column : String) (result : Except String Literal)
  | andFilter (filter : Filter)
  | orderBy (column : String)
  | orderByDescending (column : String)

namespace Query

def edit (q : Query) : Edit → Query
  | .selectAll => q.selectAll
  | .selectCount => q.selectCount
  | .selectSpecific columns => q.selectSpecific columns
  | .selectCustom expression columns => q.selectCustom expression columns
  | .fromTable table => q.fromTable table
  | .innerJoin table localKey foreignKey => q.innerJoin table localKey foreignKey
  | .leftJoin table localKey foreignKey => q.leftJoin table localKey foreignKey
  | .join join => q.join join
  | .wherePlaceholder column => q.wherePlaceholder column
  | .whereLiteral column value => q.whereLiteral column value
  | .whereComputed column result => q.whereComputed column result
  | .whereFilter filter => q.whereFilter filter
  | .andPlaceholder column => q.andPlaceholder column
  | .andLiteral column value => q.andLiteral column value
  | .andComputed column result => q.andComputed column result
  | .andFilter filter => q.andFilter filter
  | .orderBy column => q.orderBy column
  | .orderByDescending column => q.orderByDescending column

def ofEdits (edits : List Edit) : Query :=
  edits.foldl edit empty

theorem ofEdits_concat (edits : List Edit) (last : Edit) :
    ofEdits (edits ++ [last]) = (ofEdits edits).edit last := by
  simp [ofEdits]

end Query

/-! ## Sessions -/

inductive Action where
  | edit (edit : Edit)
  | build

def Action.edit? : Action → Option Edit
  | edit e => some e
  | build => none

structure Session where
  query : Query := .empty
  results : List (BuildResult String) := []

namespace Session

def act (s : Session) : Action → Session
  | .edit e => { s with query := s.query.edit e }
  | .build => { s with results := s.results ++ [s.query.build] }

def ofActions (actions : List Action) : Session :=
  actions.foldl act {}

theorem ofActions_concat (actions : List Action) (last : Action) :
    ofActions (actions ++ [last]) = (ofActions actions).act last := by
  simp [ofActions]

end Session

end SqlSelect
