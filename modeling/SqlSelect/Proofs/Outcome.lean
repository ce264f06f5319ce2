import SqlSelect.Query

/-!
# Outcomes

Whether something can be built and what it says if so are two questions, and `outcome` puts their answers together.
Each clause is such an outcome: of the first fault in what it needs, and of a text that is formed without asking for
faults.

* `tableFault`, `Projection.fault`, `joinsFault`, `Filters.fault`: what is missing or refused in each part of a query;
* `Clause.selectText`, `Clause.joinsText`, `Clause.conditionsText`, `Clause.orderPart`: the texts of the clauses;
* `Query.fault`, `Query.statement`: both of a whole query, and `Query.build_eq` that building is their outcome.
-/

namespace SqlSelect

variable {α β : Type}

def outcome (fault : Option BuildError) (value : α) : BuildResult α :=
  match fault with
  | none => .ok value
  | some error => .error error

@[simp] theorem outcome_none (value : α) : outcome none value = .ok value := rfl

@[simp] theorem outcome_some (error : BuildError) (value : α) : outcome (some error) value = .error error := rfl

theorem outcome_eq_error_iff {fault : Option BuildError} {value : α} {error : BuildError} :
    outcome fault value = .error error ↔ fault = some error := by
  cases fault <;> simp

theorem outcome_eq_ok_iff {fault : Option BuildError} {value text : α} :
    outcome fault value = .ok text ↔ fault = none ∧ value = text := by
  cases fault <;> simp

theorem outcome_bind (fault : Option BuildError) (value : α) (next : α → BuildResult β) :
    outcome fault value >>= next = match fault with | none => next value | some error => .error error := by
  cases fault <;> rfl

/-- Of a list of steps, the first fault counts. -/
theorem mapM_outcome (fault : α → Option BuildError) (value : α → β) (xs : List α) :
    xs.mapM (fun x => outcome (fault x) (value x)) = outcome (xs.findSome? fault) (xs.map value) := by
  induction xs with
  | nil => rfl
  | cons x xs ih =>
    rw [List.mapM_cons, outcome_bind, List.findSome?_cons]
    cases fault x with
    | some error => rfl
    | none =>
      change (xs.mapM (fun x => outcome (fault x) (value x)) >>= fun ys => pure (value x :: ys)) = _
      rw [ih, outcome_bind]
      cases xs.findSome? fault <;> rfl

/-! ## Source table -/

def tableFault (table : String) : Option BuildError :=
  if isBlank table then some (.missingArgument .table) else none

theorem tableFault_of_not_isBlank {table : String} (h : isBlank table = false) : tableFault table = none := by
  simp [tableFault, h]

theorem tableFault_of_isBlank {table : String} (h : isBlank table = true) :
    tableFault table = some (.missingArgument .table) := by
  simp [tableFault, h]

theorem requireTable_eq (table : String) : requireTable table = outcome (tableFault table) table := by
  unfold requireTable tableFault
  split <;> rfl

theorem sourceAlias_eq (table : String) : sourceAlias table = outcome (tableFault table) (Alias.ofTable table) := by
  rw [sourceAlias, requireTable_eq]
  cases tableFault table <;> rfl

def Clause.sourceText (table : String) : String :=
  " FROM " ++ declaration table (Alias.ofTable table)

theorem Clause.source_eq (table : String) : source table = outcome (tableFault table) (sourceText table) := by
  rw [source, sourceAlias_eq, outcome_bind]
  cases tableFault table <;> rfl

/-! ## Projection -/

def Projection.fault : Projection → Option BuildError
  | specific [] => some (.missingArgument .columns)
  | custom expression _ => if isBlank expression then some (.missingArgument .customExpression) else none
  | _ => none

theorem Projection.fault_specific {columns : List String} (h : columns ≠ []) : (specific columns).fault = none := by
  cases columns with
  | nil => exact absurd rfl h
  | cons column columns => rfl

def Clause.selectText (owner : String) (joins : List Join) : Projection → String
  | .all => allColumns "SELECT " owner joins
  | .count => "SELECT COUNT(*)"
  | .specific columns => sourceColumns "SELECT " owner columns
  | .custom expression [] => allColumns ("SELECT " ++ expression ++ ", ") owner joins
  | .custom expression columns => sourceColumns ("SELECT " ++ expression ++ ", ") owner columns

/-- Of the joins, only their aliases are selected. -/
theorem Clause.selectText_congr {owner : String} {joins joins' : List Join}
    (h : Join.aliases joins = Join.aliases joins') (projection : Projection) :
    selectText owner joins projection = selectText owner joins' projection := by
  have hall : ∀ opening, allColumns opening owner joins = allColumns opening owner joins' := by
    intro opening
    rw [allColumns_eq, allColumns_eq, h]
  match projection with
  | .all | .custom _ [] => exact hall _
  | .count | .specific _ | .custom _ (_ :: _) => rfl

theorem Clause.select_eq (table : String) (projection : Projection) (joins : List Join) :
    select table projection joins =
      outcome ((tableFault table).or projection.fault) (selectText (Alias.ofTable table) joins projection) := by
  rw [select, sourceAlias_eq, outcome_bind]
  cases tableFault table with
  | some error => rfl
  | none =>
    match projection with
    | .all | .count | .specific [] | .specific (_ :: _) => rfl
    | .custom expression columns =>
      cases hb : isBlank expression <;> cases columns <;> simp [Projection.fault, hb, selectText] <;> rfl

theorem Clause.select_eq_ok {table : String} {projection : Projection} (ht : isBlank table = false)
    (hp : projection.fault = none) (joins : List Join) :
    select table projection joins = .ok (selectText (Alias.ofTable table) joins projection) := by
  rw [select_eq, tableFault_of_not_isBlank ht, hp, Option.or_none, outcome_none]

/-! ## Joins -/

/-- All joins without a table are reported alike, so neither their number nor their place matters. -/
def joinsFault (joins : List Join) : Option BuildError :=
  if joins.any (isBlank ·.table) then some (.missingArgument .joinTable) else none

/-- The clause of a numbered join. -/
def Clause.numberedText (owner : String) (numbered : Join × Nat) : String :=
  joinText owner (Alias.ofJoin numbered.1.table numbered.2) numbered.1

def Clause.joinsText (owner : String) (joins : List Join) : String :=
  String.join ((Join.numbered joins).map (numberedText owner))

/-- The clauses of some numbered joins. -/
def joinRow (owner : String) (entries : List (Join × Nat)) : String :=
  String.join (entries.map (Clause.numberedText owner))

theorem joinRow_cons (owner : String) (entry : Join × Nat) (entries : List (Join × Nat)) :
    joinRow owner (entry :: entries) = Clause.numberedText owner entry ++ joinRow owner entries := by
  rw [joinRow, List.map_cons, String.join_cons, joinRow]

theorem joinRow_singleton (owner : String) (entry : Join × Nat) :
    joinRow owner [entry] = Clause.numberedText owner entry := by
  rw [joinRow, List.map_singleton, String.join_cons, String.join_nil, String.append_empty]

theorem joinRow_append (owner : String) (entries more : List (Join × Nat)) :
    joinRow owner (entries ++ more) = joinRow owner entries ++ joinRow owner more := by
  rw [joinRow, List.map_append, String.join_append, joinRow, joinRow]

theorem Clause.joinsText_eq_joinRow (owner : String) (joins : List Join) :
    joinsText owner joins = joinRow owner (Join.numbered joins) := rfl

theorem findSome?_if (p : α → Bool) (b : β) (xs : List α) :
    xs.findSome? (fun x => if p x then some b else none) = if xs.any p then some b else none := by
  induction xs with
  | nil => rfl
  | cons x xs ih =>
    rw [List.findSome?_cons, List.any_cons, ih]
    cases p x <;> rfl

/-- Numbering neither loses a join nor invents one. -/
theorem any_numbered (p : Join → Bool) (joins : List Join) :
    (Join.numbered joins).any (fun numbered => p numbered.1) = joins.any p := by
  calc (Join.numbered joins).any (fun numbered => p numbered.1)
      = ((Join.numbered joins).map Prod.fst).any p := by rw [List.any_map]; rfl
    _ = (Join.inRenderOrder joins).any p := by rw [Join.map_fst_numbered]
    _ = joins.any p := by
      rw [Bool.eq_iff_iff, List.any_eq_true, List.any_eq_true]
      simp only [Join.mem_inRenderOrder]

theorem Clause.joins_eq (table : String) (js : List Join) :
    joins table js = outcome ((tableFault table).or (joinsFault js)) (joinsText (Alias.ofTable table) js) := by
  have hjoin : ∀ owner, join owner = fun numbered => outcome (if isBlank numbered.1.table then
      some (.missingArgument .joinTable) else none) (numberedText owner numbered) := by
    intro owner
    funext numbered
    unfold join
    split <;> rfl
  rw [joins, sourceAlias_eq, outcome_bind]
  cases tableFault table with
  | some error => rfl
  | none =>
    change (Join.numbered js).mapM (join (Alias.ofTable table)) >>= (fun clauses => pure (String.join clauses)) = _
    rw [hjoin, mapM_outcome, findSome?_if (fun numbered : Join × Nat => isBlank numbered.1.table),
      any_numbered (fun join => isBlank join.table), ← joinsFault, outcome_bind]
    cases joinsFault js <;> rfl

/-! ## Filters -/

def Operand.fault : Operand → Option BuildError
  | computed (.error reason) => some (.computedValue reason)
  | _ => none

/-- The text of an operand without a fault. -/
def Operand.written (column : String) : Operand → String
  | placeholder => "@" ++ column
  | literal value => value.text
  | computed (.ok value) => value.text
  | computed (.error _) => ""

theorem Operand.text_eq (column : String) (operand : Operand) :
    operand.text column = outcome operand.fault (operand.written column) := by
  match operand with
  | placeholder | literal _ | computed (.ok _) | computed (.error _) => rfl

def Filter.comparison (owner : String) (f : Filter) : String :=
  qualified owner f.column ++ " = " ++ f.operand.written f.column

theorem Filter.condition_eq (owner : String) (f : Filter) :
    f.condition owner = outcome f.operand.fault (f.comparison owner) := by
  rw [condition, Operand.text_eq]
  cases f.operand.fault <;> rfl

/-- The filters that a statement shows: none at all without a primary filter on a column. -/
def Filters.shown (filters : Filters) : List Filter :=
  match filters.primary with
  | none => []
  | some primary => if isBlank primary.column then [] else primary :: filters.secondary

def Filters.fault (filters : Filters) : Option BuildError :=
  filters.shown.findSome? (·.operand.fault)

def Clause.conditionsText (owner : String) : List Filter → String
  | [] => ""
  | primary :: secondary =>
    " WHERE " ++ primary.comparison owner ++ String.join (secondary.map (" AND " ++ ·.comparison owner))

theorem Clause.conditions_eq (table : String) (filters : Filters) :
    conditions table filters =
      outcome ((tableFault table).or filters.fault) (conditionsText (Alias.ofTable table) filters.shown) := by
  rw [conditions, sourceAlias_eq, outcome_bind]
  cases tableFault table with
  | some error => rfl
  | none =>
    rw [Filters.fault, Filters.shown]
    cases filters.primary with
    | none => rfl
    | some primary =>
      cases hb : isBlank primary.column with
      | true => simp [hb, conditionsText]; rfl
      | false =>
        simp only [hb, Bool.false_eq_true, if_false, Filter.condition_eq, outcome_bind, mapM_outcome,
          List.findSome?_cons]
        cases primary.operand.fault with
        | some error => rfl
        | none =>
          cases filters.secondary.findSome? (·.operand.fault) with
          | some error => rfl
          | none =>
            simp only [conditionsText, List.map_map, Function.comp_def]
            rfl

/-! ## Sort key -/

/-- What stands behind the sort column. -/
def Clause.directionText : Direction → String
  | .ascending => ""
  | .descending => " DESC"

theorem Clause.orderText_eq (owner : String) (key : SortKey) :
    orderText owner key = " ORDER BY " ++ (qualified owner key.column ++ directionText key.direction) := by
  rw [← String.append_assoc]
  unfold orderText
  cases key.direction <;> rfl

def Clause.orderPart (owner : String) (sortKey : Option SortKey) : String :=
  match sortKey with
  | none => ""
  | some key => if isBlank key.column then "" else orderText owner key

/-- A sort key has no faults. -/
theorem Clause.order_eq (table : String) (sortKey : Option SortKey) :
    order table sortKey = outcome (tableFault table) (orderPart (Alias.ofTable table) sortKey) := by
  rw [order, sourceAlias_eq, outcome_bind]
  cases tableFault table <;> cases sortKey <;> rfl

/-! ## Query -/

namespace Query

/-- The fault that decides: the parts of a query are looked at in the order of the clauses. -/
def fault (q : Query) : Option BuildError :=
  (tableFault q.table).or (q.projection.fault.or ((joinsFault q.joins).or q.filters.fault))

theorem fault_eq_none_iff {q : Query} :
    q.fault = none ↔
      tableFault q.table = none ∧ q.projection.fault = none ∧ joinsFault q.joins = none ∧ q.filters.fault = none := by
  simp only [fault, Option.or_eq_none_iff]

/-- What a query without a fault says. -/
def statement (q : Query) : String :=
  let owner := Alias.ofTable q.table
  Clause.selectText owner q.joins q.projection ++ Clause.sourceText q.table ++ Clause.joinsText owner q.joins ++
    Clause.conditionsText owner q.filters.shown ++ Clause.orderPart owner q.sortKey

/-- The SELECT clause asks for the table too, and first of all, so nothing is lost without the check before it. -/
theorem build_eq_clauses (q : Query) :
    q.build = do
      let select ← Clause.select q.table q.projection q.joins
      let source ← Clause.source q.table
      let joins ← Clause.joins q.table q.joins
      let conditions ← Clause.conditions q.table q.filters
      let order ← Clause.order q.table q.sortKey
      return select ++ source ++ joins ++ conditions ++ order := by
  rw [build, requireTable_eq, outcome_bind]
  cases ht : tableFault q.table with
  | none => rfl
  | some error =>
    rw [Clause.select_eq, ht]
    rfl

theorem build_eq (q : Query) : q.build = outcome q.fault q.statement := by
  rw [build_eq_clauses, Clause.select_eq, Clause.source_eq, Clause.joins_eq, Clause.conditions_eq, Clause.order_eq,
    fault]
  cases tableFault q.table with
  | some error => rfl
  | none => cases q.projection.fault <;> cases joinsFault q.joins <;> cases q.filters.fault <;> rfl

theorem build_eq_error_iff {q : Query} {error : BuildError} : q.build = .error error ↔ q.fault = some error := by
  rw [build_eq, outcome_eq_error_iff]

theorem build_eq_ok_iff {q : Query} {text : String} : q.build = .ok text ↔ q.fault = none ∧ q.statement = text := by
  rw [build_eq, outcome_eq_ok_iff]

end Query

end SqlSelect
