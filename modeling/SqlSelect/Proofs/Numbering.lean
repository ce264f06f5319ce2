import Mathlib.Data.List.Nodup
import SqlSelect.Proofs.Failure

/-!
# The order and the numbers of joins

The joins of a query are used in two places, and each of them brings the joins into render order and numbers them for
itself. What is shown here of that order:

* it loses no join and invents none (`Join.perm_inRenderOrder`), and up to the number of inner joins it holds these
  and from there on the left ones (`Join.kind_eq_of_getElem?`);
* a second time it changes nothing (`Join.inRenderOrder_inRenderOrder`), and the text of a statement depends on the
  joins by their render order alone (`Query.build_inRenderOrder`).

Both places, written out join by join (`Clause.allColumns_eq_stars`, `Clause.joinsText_eq_zipWith`), walk through one
list of aliases in this order, and so the list of selected columns and the JOIN clauses agree on the names.
-/

namespace SqlSelect

namespace Join
variable {joins joins' : List Join}

theorem perm_inRenderOrder (joins : List Join) : (inRenderOrder joins).Perm joins := by
  have hleft : ofKind .left joins = joins.filter fun join => !decide (join.kind = .inner) := by
    unfold ofKind
    congr 1
    funext join
    cases join.kind <;> rfl
  rw [inRenderOrder, hleft]
  exact List.filter_append_perm _ joins

theorem kind_eq_of_getElem? {k : Nat} {join : Join} (h : (inRenderOrder joins)[k]? = some join) :
    join.kind = if k < (ofKind .inner joins).length then .inner else .left := by
  rw [inRenderOrder, List.getElem?_append] at h
  split_ifs at h ⊢ with hk
  · exact kind_of_mem_ofKind (List.mem_of_getElem? h)
  · exact kind_of_mem_ofKind (List.mem_of_getElem? h)

theorem inRenderOrder_inRenderOrder (joins : List Join) :
    inRenderOrder (inRenderOrder joins) = inRenderOrder joins := by
  rw [inRenderOrder, ofKind_inRenderOrder, ofKind_inRenderOrder, ← inRenderOrder]

theorem numbered_inRenderOrder (joins : List Join) : numbered (inRenderOrder joins) = numbered joins := by
  rw [numbered, inRenderOrder_inRenderOrder, ← numbered]

theorem aliases_inRenderOrder (joins : List Join) : aliases (inRenderOrder joins) = aliases joins := by
  rw [aliases, numbered_inRenderOrder, ← aliases]

theorem length_aliases (joins : List Join) : (aliases joins).length = joins.length := by
  rw [aliases, List.length_map, length_numbered, (perm_inRenderOrder joins).length_eq]

/-- Joins and aliases side by side, instead of joins with their numbers. -/
theorem map_numbered {α : Type} (f : Join → String → α) (joins : List Join) :
    (numbered joins).map (fun entry => f entry.1 (Alias.ofJoin entry.1.table entry.2)) =
      List.zipWith f (inRenderOrder joins) (aliases joins) := by
  rw [aliases, ← map_fst_numbered, List.zipWith_map, List.zipWith_self]

end Join

namespace Clause

/-- The clauses of the joins, each with the alias that it declares. -/
theorem joinsText_eq_zipWith (owner : String) (joins : List Join) :
    joinsText owner joins =
      String.join (List.zipWith (fun join joined => joinText owner joined join) (Join.inRenderOrder joins)
        (Join.aliases joins)) := by
  rw [← Join.map_numbered, joinsText]
  rfl

theorem select_congr {joins joins' : List Join} (h : Join.aliases joins = Join.aliases joins') (table : String)
    (projection : Projection) : select table projection joins = select table projection joins' := by
  rw [select_eq, select_eq, selectText_congr h]

/-- What is selected by `*`, written out. -/
theorem allColumns_eq_stars (opening owner : String) (joins : List Join) :
    allColumns opening owner joins =
      opening ++ owner ++ ".*" ++ String.join ((Join.aliases joins).map fun name => ", " ++ name ++ ".*") := by
  simp only [allColumns_eq, star_eq, String.append_assoc]

/-- The clause of a join, written out. -/
theorem joinText_eq (owner joined : String) (join : Join) :
    joinText owner joined join = " " ++ join.kind.keyword ++ " [" ++ join.table ++ "] " ++ joined ++ " ON " ++ owner ++
      "." ++ join.localKey ++ " = " ++ joined ++ "." ++ join.foreignKey := by
  have hliteral : " [" = " " ++ "[" := by decide
  rw [joinText, declaration, qualified, qualified, hliteral]
  simp only [String.append_assoc]

/-- **The SELECT list and the JOIN clauses name the joined tables alike**: both walk through one list of aliases, in one
order of the joins. -/
theorem joined_tables_named_alike {table expression : String} {joins : List Join} (ht : isBlank table = false)
    (hj : ∀ join ∈ joins, isBlank join.table = false) (he : isBlank expression = false) :
    let owner := Alias.ofTable table
    let names := Join.aliases joins
    let order := Join.inRenderOrder joins
    let stars := String.join (names.map fun name => ", " ++ name ++ ".*")
    Clause.source table = .ok (" FROM [" ++ table ++ "] " ++ owner) ∧
      names.length = joins.length ∧ order.Perm joins ∧
      (∀ (k : Nat) (join : Join), order[k]? = some join →
        join.kind.keyword = if k < (Join.ofKind .inner joins).length then "INNER JOIN" else "LEFT JOIN") ∧
      Clause.select table .all joins = .ok ("SELECT " ++ owner ++ ".*" ++ stars) ∧
      Clause.select table (.custom expression []) joins =
        .ok ("SELECT " ++ expression ++ ", " ++ owner ++ ".*" ++ stars) ∧
      Clause.joins table joins = .ok (String.join (List.zipWith (fun join name =>
        " " ++ join.kind.keyword ++ " [" ++ join.table ++ "] " ++ name ++ " ON " ++ owner ++ "." ++ join.localKey ++
          " = " ++ name ++ "." ++ join.foreignKey) order names)) := by
  intro owner names order stars
  have htable : tableFault table = none := by rw [tableFault, ht]; rfl
  refine ⟨?_, Join.length_aliases joins, Join.perm_inRenderOrder joins, ?_, ?_, ?_, ?_⟩
  · have hliteral : " FROM [" = " FROM " ++ "[" := by decide
    rw [source_eq, htable, sourceText, declaration, hliteral]
    simp only [outcome_none, String.append_assoc]
    rfl
  · intro k join hk
    rw [Join.kind_eq_of_getElem? hk]
    split_ifs <;> rfl
  · rw [select_eq, htable, selectText, allColumns_eq_stars]
    rfl
  · rw [select_eq, htable, selectText, allColumns_eq_stars, Projection.fault, he]
    rfl
  · rw [joins_eq, htable, joinsFault_eq_none hj, joinsText_eq_zipWith]
    simp only [joinText_eq]
    rfl

/-- One table joined three times, with the inner join registered between the two left ones. -/
theorem joined_tables_named_alike_for_one_table :
    let joins : List Join :=
      [⟨.left, "Orders", "Id", "BuyerId"⟩, ⟨.inner, "Orders", "Id", "PayerId"⟩, ⟨.left, "Orders", "Id", "BuyerId"⟩]
    isBlank "Customers" = false ∧ (∀ join ∈ joins, isBlank join.table = false) ∧ isBlank "1 AS One" = false ∧
      Clause.select "Customers" .all joins = .ok "SELECT c.*, o0.*, o1.*, o2.*" ∧
      Clause.select "Customers" (.custom "1 AS One" []) joins = .ok "SELECT 1 AS One, c.*, o0.*, o1.*, o2.*" ∧
      Clause.joins "Customers" joins = .ok (" INNER JOIN [Orders] o0 ON c.Id = o0.PayerId" ++
        " LEFT JOIN [Orders] o1 ON c.Id = o1.BuyerId" ++ " LEFT JOIN [Orders] o2 ON c.Id = o2.BuyerId") := by
  intro joins
  have ht : isBlank "Customers" = false := by decide
  have hj : ∀ join ∈ joins, isBlank join.table = false := by decide
  have he : isBlank "1 AS One" = false := by decide
  obtain ⟨-, -, -, -, hall, hcustom, hclauses⟩ := joined_tables_named_alike ht hj he
  refine ⟨ht, hj, he, hall.trans ?_, hcustom.trans ?_, hclauses.trans ?_⟩
  · exact congrArg Except.ok (by decide)
  · exact congrArg Except.ok (by decide)
  · exact congrArg Except.ok (by decide)

end Clause

namespace Query

/-- The query with its joins in render order, whatever the order of their registration was. -/
def inRenderOrder (q : Query) : Query :=
  { q with joins := Join.inRenderOrder q.joins }

/-- Inner and left joins may be registered in turns. -/
theorem build_inRenderOrder (q : Query) : q.inRenderOrder.build = q.build := by
  have hselect : ∀ table, Clause.select table q.projection (Join.inRenderOrder q.joins) =
      Clause.select table q.projection q.joins :=
    fun table => Clause.select_congr (Join.aliases_inRenderOrder q.joins) table q.projection
  have hjoins : ∀ table, Clause.joins table (Join.inRenderOrder q.joins) = Clause.joins table q.joins := by
    intro table
    rw [Clause.joins, Join.numbered_inRenderOrder, ← Clause.joins]
  simp only [build, inRenderOrder, hselect, hjoins]

end Query

end SqlSelect
