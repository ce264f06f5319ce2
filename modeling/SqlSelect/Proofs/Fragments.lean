import SqlSelect.Proofs.Outcome

/-!
# Statements are made of fragments

Each clause can be built on its own, and a statement is nothing but its clauses one behind the other: it has the text
of all five if they all have one, and otherwise the error of the first that has none.

Nothing is put between two clauses. That the last word of one does not run into the keyword of the next is up to the
clauses: the first one begins with its keyword, and each of the others brings a blank in front of it along
(`Clause.OpensWith`) unless it is empty.
-/

namespace SqlSelect

/-! ## Results in a row -/

section Sequence
variable {α β : Type} {result : BuildResult α} {results : List (BuildResult α)} {values : List α} {error : BuildError}

theorem map_eq_ok_iff {f : α → β} {value : β} : result.map f = .ok value ↔ ∃ x, result = .ok x ∧ f x = value := by
  cases result <;> simp [Except.map]

theorem map_eq_error_iff {f : α → β} : result.map f = .error error ↔ result = .error error := by
  cases result <;> simp [Except.map]

theorem mapM_id_cons_ok (value : α) (results : List (BuildResult α)) :
    List.mapM id (.ok value :: results) = (results.mapM id).map (value :: ·) := by
  rw [List.mapM_cons]
  cases results.mapM id <;> rfl

theorem mapM_id_cons_error (error : BuildError) (results : List (BuildResult α)) :
    List.mapM id (.error error :: results) = .error error := by
  rw [List.mapM_cons]
  rfl

theorem mapM_id_eq_ok_iff : results.mapM id = .ok values ↔ results = values.map .ok := by
  induction results generalizing values with
  | nil =>
    change Except.ok [] = Except.ok values ↔ _
    rw [Except.ok.injEq, eq_comm, eq_comm (a := []), List.map_eq_nil_iff]
  | cons result results ih =>
    cases result with
    | error error =>
      rw [mapM_id_cons_error]
      cases values <;> simp
    | ok value =>
      rw [mapM_id_cons_ok, map_eq_ok_iff]
      cases values with
      | nil => simp
      | cons first values =>
        simp only [ih, List.map_cons, List.cons.injEq, Except.ok.injEq]
        constructor
        · rintro ⟨rest, hrest, rfl, rfl⟩
          exact ⟨rfl, hrest⟩
        · rintro ⟨rfl, hrest⟩
          exact ⟨values, hrest, rfl, rfl⟩

/-- Whatever comes behind the first error does not matter. -/
theorem mapM_id_eq_error_iff :
    results.mapM id = .error error ↔
      ∃ (values : List α) (later : _), results = values.map .ok ++ .error error :: later := by
  induction results with
  | nil =>
    change Except.ok [] = Except.error error ↔ _
    simp
  | cons result results ih =>
    cases result with
    | error first =>
      rw [mapM_id_cons_error, Except.error.injEq]
      constructor
      · rintro rfl
        exact ⟨[], results, rfl⟩
      · rintro ⟨values, later, h⟩
        cases values with
        | nil => simpa using (List.cons.inj h).1
        | cons value values => cases (List.cons.inj h).1
    | ok value =>
      rw [mapM_id_cons_ok, map_eq_error_iff, ih]
      constructor
      · rintro ⟨values, later, rfl⟩
        exact ⟨value :: values, later, rfl⟩
      · rintro ⟨values, later, h⟩
        cases values with
        | nil => cases (List.cons.inj h).1
        | cons other values => exact ⟨values, later, (List.cons.inj h).2⟩

end Sequence

/-! ## How a clause begins -/

namespace Clause

/-- The text begins with a single blank and one of the keywords, which another blank ends. -/
def OpensWith (keywords : List String) (text : String) : Prop :=
  ∃ keyword ∈ keywords, ∃ rest, text = " " ++ keyword ++ " " ++ rest

theorem OpensWith.ne_empty {keywords : List String} {text : String} (h : OpensWith keywords text) : text ≠ "" := by
  obtain ⟨keyword, -, rest, rfl⟩ := h
  simp

theorem allColumns_opening (opening owner : String) (joins : List Join) :
    ∃ rest, allColumns opening owner joins = opening ++ rest := by
  rw [allColumns_eq, String.append_assoc]
  exact ⟨_, rfl⟩

theorem sourceColumns_opening (opening owner : String) (columns : List String) :
    ∃ rest, sourceColumns opening owner columns = opening ++ rest := by
  cases columns with
  | nil => exact ⟨"", by simp [sourceColumns, appendItems]⟩
  | cons column columns =>
    rw [sourceColumns_cons, String.append_assoc]
    exact ⟨_, rfl⟩

theorem selectText_opening (owner : String) (joins : List Join) (projection : Projection) :
    ∃ rest, selectText owner joins projection = "SELECT " ++ rest := by
  match projection with
  | .all => exact allColumns_opening "SELECT " owner joins
  | .count => exact ⟨"COUNT(*)", rfl⟩
  | .specific columns => exact sourceColumns_opening "SELECT " owner columns
  | .custom expression columns =>
    have hopening : ∃ rest,
        selectText owner joins (.custom expression columns) = "SELECT " ++ expression ++ ", " ++ rest := by
      cases columns with
      | nil => exact allColumns_opening _ owner joins
      | cons column columns => exact sourceColumns_opening _ owner (column :: columns)
    obtain ⟨rest, h⟩ := hopening
    rw [h]
    simp only [String.append_assoc]
    exact ⟨_, rfl⟩

theorem opensWith_sourceText (table : String) : OpensWith ["FROM"] (sourceText table) :=
  ⟨"FROM", List.mem_singleton_self _, declaration table (Alias.ofTable table), rfl⟩

/-- The first join stands for all of them. -/
theorem opensWith_joinsText (owner : String) (joins : List Join) :
    joinsText owner joins = "" ∨ OpensWith ["INNER JOIN", "LEFT JOIN"] (joinsText owner joins) := by
  unfold joinsText
  cases Join.numbered joins with
  | nil => exact Or.inl rfl
  | cons entry entries =>
    right
    have hkeyword : entry.1.kind.keyword ∈ ["INNER JOIN", "LEFT JOIN"] := by
      cases entry.1.kind <;> decide
    refine ⟨entry.1.kind.keyword, hkeyword, ?_⟩
    rw [List.map_cons, String.join_cons, numberedText, joinText]
    simp only [String.append_assoc]
    exact ⟨_, rfl⟩

theorem opensWith_conditionsText (owner : String) (filters : List Filter) :
    conditionsText owner filters = "" ∨ OpensWith ["WHERE"] (conditionsText owner filters) := by
  cases filters with
  | nil => exact Or.inl rfl
  | cons primary secondary =>
    right
    refine ⟨"WHERE", List.mem_singleton_self _, ?_⟩
    rw [conditionsText, String.append_assoc]
    exact ⟨_, rfl⟩

theorem opensWith_orderPart (owner : String) (sortKey : Option SortKey) :
    orderPart owner sortKey = "" ∨ OpensWith ["ORDER BY"] (orderPart owner sortKey) := by
  cases sortKey with
  | none => exact Or.inl rfl
  | some key =>
    cases hb : isBlank key.column with
    | true => exact Or.inl (by simp [orderPart, hb])
    | false =>
      right
      refine ⟨"ORDER BY", List.mem_singleton_self _, qualified owner key.column ++ directionText key.direction, ?_⟩
      simp only [orderPart, hb, Bool.false_eq_true, if_false, orderText_eq]
      rfl

section
variable {table text : String}

theorem select_opening {projection : Projection} {joins : List Join} (h : select table projection joins = .ok text) :
    ∃ rest, text = "SELECT " ++ rest := by
  rw [select_eq] at h
  obtain ⟨-, rfl⟩ := outcome_eq_ok_iff.1 h
  exact selectText_opening _ joins projection

theorem opensWith_source (h : source table = .ok text) : OpensWith ["FROM"] text := by
  rw [source_eq] at h
  obtain ⟨-, rfl⟩ := outcome_eq_ok_iff.1 h
  exact opensWith_sourceText table

theorem opensWith_joins {js : List Join} (h : joins table js = .ok text) :
    text = "" ∨ OpensWith ["INNER JOIN", "LEFT JOIN"] text := by
  rw [joins_eq] at h
  obtain ⟨-, rfl⟩ := outcome_eq_ok_iff.1 h
  exact opensWith_joinsText _ js

theorem opensWith_conditions {filters : Filters} (h : conditions table filters = .ok text) :
    text = "" ∨ OpensWith ["WHERE"] text := by
  rw [conditions_eq] at h
  obtain ⟨-, rfl⟩ := outcome_eq_ok_iff.1 h
  exact opensWith_conditionsText _ filters.shown

theorem opensWith_order {sortKey : Option SortKey} (h : order table sortKey = .ok text) :
    text = "" ∨ OpensWith ["ORDER BY"] text := by
  rw [order_eq] at h
  obtain ⟨-, rfl⟩ := outcome_eq_ok_iff.1 h
  exact opensWith_orderPart _ sortKey

end

end Clause

/-! ## The clauses of a query -/

namespace Query

/-- The clauses of a query in the order of its statement, each built on its own. -/
def clauses (q : Query) : List (BuildResult String) :=
  [Clause.select q.table q.projection q.joins, Clause.source q.table, Clause.joins q.table q.joins,
    Clause.conditions q.table q.filters, Clause.order q.table q.sortKey]

theorem build_eq_mapM_clauses (q : Query) : q.build = (q.clauses.mapM id).map String.join := by
  change _ = String.join <$> q.clauses.mapM id
  rw [build_eq_clauses, clauses]
  simp only [List.mapM_cons, List.mapM_nil, id, map_bind, map_pure, bind_assoc, pure_bind, String.join_cons,
    String.join_nil, String.append_empty, String.append_assoc]

theorem clauses_of_isBlank {q : Query} (h : isBlank q.table = true) :
    ∀ clause ∈ q.clauses, clause = .error (.missingArgument .table) := by
  simp [clauses, Clause.select_eq, Clause.source_eq, Clause.joins_eq, Clause.conditions_eq, Clause.order_eq,
    tableFault_of_isBlank h]

/-- The clauses of a query without a fault. -/
theorem clauses_of_fault_eq_none {q : Query} (h : q.fault = none) :
    let owner := Alias.ofTable q.table
    q.clauses = [Clause.selectText owner q.joins q.projection, Clause.sourceText q.table,
      Clause.joinsText owner q.joins, Clause.conditionsText owner q.filters.shown,
      Clause.orderPart owner q.sortKey].map .ok := by
  obtain ⟨ht, hp, hj, hf⟩ := fault_eq_none_iff.1 h
  simp only [clauses, Clause.select_eq, Clause.source_eq, Clause.joins_eq, Clause.conditions_eq, Clause.order_eq, ht,
    hp, hj, hf]
  rfl

/-- **A statement is its clauses one behind the other**, and each of them can be built alone. How a clause begins tells
which one it is, whatever it was built from. -/
theorem build_iff_clauses (q : Query) :
    (∀ text, q.build = .ok text ↔ ∃ texts : List String, q.clauses = texts.map .ok ∧ String.join texts = text) ∧
    (∀ error, q.build = .error error ↔
      ∃ (texts : List String) (later : _), q.clauses = texts.map .ok ++ .error error :: later) ∧
    (isBlank q.table = true → q.build = .error (.missingArgument .table) ∧
      ∀ clause ∈ q.clauses, clause = .error (.missingArgument .table)) ∧
    (∀ table projection joins text, Clause.select table projection joins = .ok text →
      ∃ rest, text = "SELECT " ++ rest) ∧
    (∀ table text, Clause.source table = .ok text → text ≠ "" ∧ Clause.OpensWith ["FROM"] text) ∧
    (∀ table joins text, Clause.joins table joins = .ok text →
      text = "" ∨ Clause.OpensWith ["INNER JOIN", "LEFT JOIN"] text) ∧
    (∀ table filters text, Clause.conditions table filters = .ok text →
      text = "" ∨ Clause.OpensWith ["WHERE"] text) ∧
    ∀ table sortKey text, Clause.order table sortKey = .ok text → text = "" ∨ Clause.OpensWith ["ORDER BY"] text := by
  refine ⟨fun text => ?_, fun error => ?_, fun ht => ⟨?_, clauses_of_isBlank ht⟩, fun _ _ _ _ => Clause.select_opening,
    fun _ _ h => ?_, fun _ _ _ => Clause.opensWith_joins, fun _ _ _ => Clause.opensWith_conditions,
    fun _ _ _ => Clause.opensWith_order⟩
  · rw [build_eq_mapM_clauses, map_eq_ok_iff]
    simp only [mapM_id_eq_ok_iff]
  · rw [build_eq_mapM_clauses, map_eq_error_iff, mapM_id_eq_error_iff]
  · have hselect : Clause.select q.table q.projection q.joins = .error (.missingArgument .table) :=
      clauses_of_isBlank ht _ List.mem_cons_self
    rw [build_eq_mapM_clauses, map_eq_error_iff, clauses, hselect, mapM_id_cons_error]
  · exact ⟨(Clause.opensWith_source h).ne_empty, Clause.opensWith_source h⟩

/-- A statement of all five clauses, and what becomes of it without a table, although its columns are missing too. -/
theorem build_iff_clauses_of_five :
    let q : Query := {
      table := "Customers"
      projection := .count
      joins := [⟨.left, "Orders", "Id", "CustomerId"⟩]
      filters := ⟨some ⟨"Id", .placeholder⟩, []⟩
      sortKey := some ⟨"Id", .ascending⟩ }
    let q' : Query := { q with table := "\t", projection := .specific [] }
    let text := "SELECT COUNT(*) FROM [Customers] c LEFT JOIN [Orders] o0 ON c.Id = o0.CustomerId WHERE c.Id = @Id " ++
      "ORDER BY c.Id"
    q.build = .ok text ∧ (∃ texts, q.clauses = texts.map .ok ∧ String.join texts = text) ∧
      isBlank q'.table = true ∧ q'.build = .error (.missingArgument .table) := by
  intro q q' text
  have hbuild : q.build = .ok text := build_eq_ok_iff.2 ⟨by decide, by decide +kernel⟩
  have hblank : isBlank q'.table = true := by decide
  exact ⟨hbuild, ((build_iff_clauses q).1 text).1 hbuild, hblank, ((build_iff_clauses q').2.2.1 hblank).1⟩

end Query

end SqlSelect
