import SqlSelect.Proofs.Fragments
import SqlSelect.Proofs.Numbering

/-!
# One more join

Registering a join changes a statement in one or two places only: where the JOIN clauses are and, if the columns of
joined tables are selected, in the SELECT clause. A left join comes last in both places. An inner join comes behind
the other inner joins, and so the left joins behind it are renumbered.

* `Join.numbered_concat_of_left`, `Join.numbered_concat_of_inner`: the numbers after one more join;
* `Projection.selectsJoins`, `Clause.starsText`: whether joins come up in the SELECT clause, and with what;
* `Clause.selectText_concat_of_left`, `Clause.joinsText_concat_of_left`, and the same `of_inner`: what becomes of the
  two clauses. No other clause looks at the joins (`Query.statement_join`).
-/

namespace SqlSelect

/-! ## Numbers -/

namespace Join
variable {join : Join}

def numberedInner (joins : List Join) : List (Join × Nat) :=
  (ofKind .inner joins).zipIdx

/-- The numbers of the left joins begin where those of the inner joins end. -/
def numberedLeft (joins : List Join) : List (Join × Nat) :=
  (ofKind .left joins).zipIdx (ofKind .inner joins).length

theorem numbered_eq (joins : List Join) : numbered joins = numberedInner joins ++ numberedLeft joins := by
  rw [numbered, inRenderOrder, List.zipIdx_append, Nat.zero_add, numberedInner, numberedLeft]

theorem ofKind_concat_same (joins : List Join) :
    ofKind join.kind (joins ++ [join]) = ofKind join.kind joins ++ [join] := by
  rw [ofKind_append]
  simp [ofKind]

theorem ofKind_concat_other {kind : JoinKind} (h : join.kind ≠ kind) (joins : List Join) :
    ofKind kind (joins ++ [join]) = ofKind kind joins := by
  rw [ofKind_append]
  simp [ofKind, h]

theorem numbered_concat_of_left (h : join.kind = .left) (joins : List Join) :
    numbered (joins ++ [join]) = numbered joins ++ [(join, joins.length)] := by
  have hinner : ofKind .inner (joins ++ [join]) = ofKind .inner joins := ofKind_concat_other (by simp [h]) joins
  have hleft : ofKind .left (joins ++ [join]) = ofKind .left joins ++ [join] := by
    rw [← h]
    exact ofKind_concat_same joins
  have horder : inRenderOrder (joins ++ [join]) = inRenderOrder joins ++ [join] := by
    rw [inRenderOrder, hinner, hleft, ← List.append_assoc, ← inRenderOrder]
  rw [numbered, horder, List.zipIdx_append, (perm_inRenderOrder joins).length_eq, Nat.zero_add]
  rfl

/-- The join under the next number. -/
def renumber (entry : Join × Nat) : Join × Nat :=
  (entry.1, entry.2 + 1)

theorem numbered_concat_of_inner (h : join.kind = .inner) (joins : List Join) :
    numbered (joins ++ [join]) =
      numberedInner joins ++ (join, (numberedInner joins).length) :: (numberedLeft joins).map renumber := by
  have hinner : numberedInner (joins ++ [join]) = numberedInner joins ++ [(join, (numberedInner joins).length)] := by
    rw [numberedInner, ← h, ofKind_concat_same, List.zipIdx_append, h, numberedInner, List.length_zipIdx, Nat.zero_add]
    rfl
  have hleft : numberedLeft (joins ++ [join]) = (numberedLeft joins).map renumber := by
    have hlength : (ofKind .inner (joins ++ [join])).length = (ofKind .inner joins).length + 1 := by
      rw [← h, ofKind_concat_same, List.length_append, List.length_singleton]
    rw [numberedLeft, ofKind_concat_other (by simp [h]), hlength, List.zipIdx_succ, numberedLeft]
    rfl
  rw [numbered_eq, hinner, hleft, List.append_assoc]
  rfl

end Join

/-! ## The two places -/

def Projection.selectsJoins : Projection → Bool
  | all => true
  | custom _ columns => columns.isEmpty
  | _ => false

namespace Clause

/-- All columns of a numbered join. -/
def starText (numbered : Join × Nat) : String :=
  ", " ++ Alias.ofJoin numbered.1.table numbered.2 ++ ".*"

def starsText (projection : Projection) (entries : List (Join × Nat)) : String :=
  if projection.selectsJoins then String.join (entries.map starText) else ""

theorem starsText_singleton (projection : Projection) (join : Join) (index : Nat) :
    starsText projection [(join, index)] =
      if projection.selectsJoins then ", " ++ Alias.ofJoin join.table index ++ ".*" else "" := by
  unfold starsText
  split
  · rw [List.map_singleton, String.join_cons, String.join_nil, String.append_empty]
    rfl
  · rfl

theorem starsText_append (projection : Projection) (entries more : List (Join × Nat)) :
    starsText projection (entries ++ more) = starsText projection entries ++ starsText projection more := by
  unfold starsText
  split
  · rw [List.map_append, String.join_append]
  · rfl

/-- Joins stand at the end of the SELECT clause. -/
theorem selectText_eq_starsText (owner : String) (joins : List Join) (projection : Projection) :
    selectText owner joins projection =
      selectText owner [] projection ++ starsText projection (Join.numbered joins) := by
  have hall : ∀ opening, allColumns opening owner joins =
      allColumns opening owner [] ++ String.join ((Join.numbered joins).map starText) := by
    intro opening
    have hnone : Join.aliases [] = [] := rfl
    rw [allColumns_eq_stars, allColumns_eq_stars, hnone, List.map_nil, String.join_nil, String.append_empty,
      Join.aliases, List.map_map]
    rfl
  cases projection with
  | all => exact hall _
  | count => exact String.append_empty.symm
  | specific columns => exact String.append_empty.symm
  | custom expression columns =>
    cases columns with
    | nil => exact hall _
    | cons column columns => exact String.append_empty.symm

section Concat
variable {join : Join} (owner : String) (joins : List Join) (projection : Projection)

theorem selectText_concat_of_left (h : join.kind = .left) :
    selectText owner (joins ++ [join]) projection =
      selectText owner joins projection ++ starsText projection [(join, joins.length)] := by
  rw [selectText_eq_starsText, Join.numbered_concat_of_left h, starsText_append, ← String.append_assoc,
    ← selectText_eq_starsText]

theorem joinsText_concat_of_left (h : join.kind = .left) :
    joinsText owner (joins ++ [join]) = joinsText owner joins ++ numberedText owner (join, joins.length) := by
  rw [joinsText_eq_joinRow, Join.numbered_concat_of_left h, joinRow_append, ← joinsText_eq_joinRow, joinRow_singleton]

theorem selectText_concat_of_inner (h : join.kind = .inner) :
    selectText owner (joins ++ [join]) projection =
      selectText owner [] projection ++ starsText projection (Join.numberedInner joins) ++
        starsText projection [(join, (Join.numberedInner joins).length)] ++
        starsText projection ((Join.numberedLeft joins).map Join.renumber) := by
  rw [selectText_eq_starsText, Join.numbered_concat_of_inner h, List.append_cons, starsText_append, starsText_append]
  simp only [String.append_assoc]

theorem joinsText_concat_of_inner (h : join.kind = .inner) :
    joinsText owner (joins ++ [join]) =
      joinRow owner (Join.numberedInner joins) ++ numberedText owner (join, (Join.numberedInner joins).length) ++
        joinRow owner ((Join.numberedLeft joins).map Join.renumber) := by
  rw [joinsText_eq_joinRow, Join.numbered_concat_of_inner h, joinRow_append, joinRow_cons, String.append_assoc]

end Concat

end Clause

/-! ## Statements -/

namespace Query
variable {q : Query} {join : Join}

theorem statement_join (q : Query) (join : Join) :
    let owner := Alias.ofTable q.table
    (q.join join).statement = Clause.selectText owner (q.joins ++ [join]) q.projection ++ Clause.sourceText q.table ++
      Clause.joinsText owner (q.joins ++ [join]) ++ Clause.conditionsText owner q.filters.shown ++
      Clause.orderPart owner q.sortKey := rfl

/-- A join of a table with a name adds no fault. -/
theorem fault_join (h : q.fault = none) (hj : isBlank join.table = false) : (q.join join).fault = none := by
  obtain ⟨ht, hp, hjoins, hf⟩ := fault_eq_none_iff.1 h
  have hmore : joinsFault (q.joins ++ [join]) = none := by
    unfold joinsFault at *
    rw [List.any_append]
    simpa [hj] using hjoins
  exact fault_eq_none_iff.2 ⟨ht, hp, hmore, hf⟩

/-- **Registering one more join changes a statement where it should and nowhere else.** A left join comes last; an
inner one moves the left joins up by one number, wherever their aliases stand. -/
theorem build_one_more_join {q : Query} {text table localKey foreignKey : String} (h : q.build = .ok text)
    (ht : isBlank table = false) :
    let owner := Alias.ofTable q.table
    let inner := Join.numberedInner q.joins
    let left := Join.numberedLeft q.joins
    let renumbered := left.map Join.renumber
    let stars := fun entries : List (Join × Nat) => if q.projection.selectsJoins then
      String.join (entries.map fun entry => ", " ++ Alias.ofJoin entry.1.table entry.2 ++ ".*") else ""
    let fragments := fun entries : List (Join × Nat) => String.join (entries.map fun entry =>
      " " ++ entry.1.kind.keyword ++ " [" ++ entry.1.table ++ "] " ++ Alias.ofJoin entry.1.table entry.2 ++ " ON " ++
        owner ++ "." ++ entry.1.localKey ++ " = " ++ Alias.ofJoin entry.1.table entry.2 ++ "." ++ entry.1.foreignKey)
    let last := Alias.ofJoin table q.joins.length
    let lastInner := Alias.ofJoin table inner.length
    ∃ select source joins conditions order head,
      q.clauses = [select, source, joins, conditions, order].map .ok ∧
      Clause.select q.table q.projection [] = .ok head ∧
      text = select ++ source ++ joins ++ conditions ++ order ∧
      select = head ++ stars inner ++ stars left ∧
      joins = fragments inner ++ fragments left ∧
      (q.leftJoin table localKey foreignKey).build = .ok (
        select ++ (if q.projection.selectsJoins then ", " ++ last ++ ".*" else "") ++ source ++
          joins ++ (" LEFT JOIN [" ++ table ++ "] " ++ last ++ " ON " ++ owner ++ "." ++ localKey ++ " = " ++
            last ++ "." ++ foreignKey) ++ conditions ++ order) ∧
      (q.innerJoin table localKey foreignKey).build = .ok (
        head ++ stars inner ++ (if q.projection.selectsJoins then ", " ++ lastInner ++ ".*" else "") ++
          stars renumbered ++ source ++
          fragments inner ++ (" INNER JOIN [" ++ table ++ "] " ++ lastInner ++ " ON " ++ owner ++ "." ++ localKey ++
            " = " ++ lastInner ++ "." ++ foreignKey) ++ fragments renumbered ++ conditions ++ order) := by
  intro owner inner left renumbered stars fragments last lastInner
  have htable := table_not_blank_of_build h
  obtain ⟨hfault, rfl⟩ := build_eq_ok_iff.1 h
  have hstars : Clause.starsText q.projection = stars := rfl
  have hfragments : joinRow owner = fragments := by
    funext entries
    simp only [fragments, ← Clause.joinText_eq]
    rfl
  refine ⟨_, _, _, _, _, Clause.selectText owner [] q.projection, clauses_of_fault_eq_none hfault, ?_, rfl, ?_, ?_,
    build_eq_ok_iff.2 ⟨fault_join hfault ht, ?_⟩, build_eq_ok_iff.2 ⟨fault_join hfault ht, ?_⟩⟩
  · obtain ⟨-, hprojection, -⟩ := fault_eq_none_iff.1 hfault
    exact Clause.select_eq_ok htable hprojection []
  · rw [Clause.selectText_eq_starsText, Join.numbered_eq, Clause.starsText_append, hstars, String.append_assoc]
  · rw [Clause.joinsText_eq_joinRow, Join.numbered_eq, joinRow_append, hfragments]
  · have hkeyword : " LEFT JOIN [" = " " ++ JoinKind.left.keyword ++ " [" := by decide
    rw [leftJoin, statement_join, Clause.selectText_concat_of_left owner _ _ rfl, Clause.starsText_singleton,
      Clause.joinsText_concat_of_left owner _ rfl, Clause.numberedText, Clause.joinText_eq, hkeyword]
    simp only [String.append_assoc]
    rfl
  · have hkeyword : " INNER JOIN [" = " " ++ JoinKind.inner.keyword ++ " [" := by decide
    rw [innerJoin, statement_join, Clause.selectText_concat_of_inner owner _ _ rfl, Clause.starsText_singleton,
      Clause.joinsText_concat_of_inner owner _ rfl, Clause.numberedText, Clause.joinText_eq, hkeyword, hfragments, hstars]
    simp only [String.append_assoc]
    rfl

/-- A join more between two inner joins and two left ones, once of each kind. -/
theorem build_one_more_join_among_four :
    let q : Query := {
      table := "Customers"
      joins := [⟨.left, "Orders", "Id", "BuyerId"⟩, ⟨.inner, "Towns", "TownId", "Id"⟩,
        ⟨.left, "Orders", "Id", "PayerId"⟩, ⟨.inner, "Countries", "CountryId", "Id"⟩]
      filters := ⟨some ⟨"Id", .placeholder⟩, []⟩
      sortKey := some ⟨"Name", .descending⟩ }
    let rest := " WHERE c.Id = @Id ORDER BY c.Name DESC"
    let innerJoins := " FROM [Customers] c INNER JOIN [Towns] t0 ON c.TownId = t0.Id" ++
      " INNER JOIN [Countries] c1 ON c.CountryId = c1.Id"
    let text := "SELECT c.*, t0.*, c1.*, o2.*, o3.*" ++ innerJoins ++
      " LEFT JOIN [Orders] o2 ON c.Id = o2.BuyerId LEFT JOIN [Orders] o3 ON c.Id = o3.PayerId" ++ rest
    q.build = .ok text ∧ isBlank "Streets" = false ∧
      (q.leftJoin "Streets" "StreetId" "Id").build = .ok ("SELECT c.*, t0.*, c1.*, o2.*, o3.*, s4.*" ++ innerJoins ++
        " LEFT JOIN [Orders] o2 ON c.Id = o2.BuyerId LEFT JOIN [Orders] o3 ON c.Id = o3.PayerId" ++
        " LEFT JOIN [Streets] s4 ON c.StreetId = s4.Id" ++ rest) ∧
      (q.innerJoin "Streets" "StreetId" "Id").build = .ok ("SELECT c.*, t0.*, c1.*, s2.*, o3.*, o4.*" ++ innerJoins ++
        " INNER JOIN [Streets] s2 ON c.StreetId = s2.Id" ++
        " LEFT JOIN [Orders] o3 ON c.Id = o3.BuyerId LEFT JOIN [Orders] o4 ON c.Id = o4.PayerId" ++ rest) := by
  intro q rest innerJoins text
  have hfault : q.fault = none := by decide
  have hbuild : q.build = .ok text := build_eq_ok_iff.2 ⟨hfault, by decide +kernel⟩
  have ht : isBlank "Streets" = false := by decide
  obtain ⟨select, source, joins, conditions, order, head, hclauses, hhead, -, -, -, hleft, hinner⟩ :=
    @build_one_more_join q text "Streets" "StreetId" "Id" hbuild ht
  have htexts := (clauses_of_fault_eq_none hfault).symm.trans hclauses
  simp only [List.map_cons, List.map_nil, List.cons.injEq, Except.ok.injEq, and_true] at htexts
  obtain ⟨rfl, rfl, rfl, rfl, rfl⟩ := htexts
  rw [Clause.select_eq] at hhead
  obtain ⟨-, rfl⟩ := outcome_eq_ok_iff.1 hhead
  refine ⟨hbuild, ht, hleft.trans (congrArg Except.ok ?_), hinner.trans (congrArg Except.ok ?_)⟩
  · decide +kernel
  · decide +kernel

end Query

end SqlSelect
