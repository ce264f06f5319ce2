import Mathlib.Data.List.Forall2
import SqlSelect.Proofs.Numbering
import SqlSelect.Proofs.Scope

/-!
# The names of tables in a statement

A table comes up in many places of a statement, but by its name only where it is declared. Everywhere else stands its
alias. So a table can be renamed to one with the same alias (`Query.Renamed`), and of the statement nothing changes but
what stands in the brackets of that declaration.

* `Query.tables`: the names in the order in which a statement declares them;
* `Clause.gaps`: what stands between the brackets of the declarations and behind the last of them;
* `Query.statement_eq_woven`: names and gaps in turn are the statement;
* `Clause.gaps_of_renamed`, `Query.fault_of_renamed`: renaming changes neither the gaps nor the fault.

A name is blank exactly if it has no alias (`Alias.ofTable_eq_empty_iff`), and so renaming adds no name where one is
missing.
-/

namespace SqlSelect

/-! ## Renaming -/

/-- The same join, of a table that goes by the same alias. -/
structure Join.Renamed (join join' : Join) : Prop where
  kind : join'.kind = join.kind
  table : Alias.ofTable join'.table = Alias.ofTable join.table
  localKey : join'.localKey = join.localKey
  foreignKey : join'.foreignKey = join.foreignKey

/-- The same query but for the names of tables, each of which goes by the same alias. -/
structure Query.Renamed (q q' : Query) : Prop where
  table : Alias.ofTable q'.table = Alias.ofTable q.table
  projection : q'.projection = q.projection
  joins : List.Forall₂ Join.Renamed q.joins q'.joins
  filters : q'.filters = q.filters
  sortKey : q'.sortKey = q.sortKey

theorem Alias.ofTable_eq_empty_iff {table : String} : ofTable table = "" ↔ isBlank table = true := by
  constructor
  · intro h
    by_contra hb
    exact ofTable_ne_empty (Bool.eq_false_iff.2 hb) h
  · exact ofTable_of_isBlank

theorem Alias.isBlank_eq_of_ofTable_eq {table table' : String} (h : ofTable table' = ofTable table) :
    isBlank table' = isBlank table := by
  rw [Bool.eq_iff_iff, ← ofTable_eq_empty_iff, ← ofTable_eq_empty_iff, h]

/-! ## Joins -/

namespace Join
variable {joins joins' : List Join}

/-- Both joins under the same number. -/
def RenamedEntry (entry entry' : Join × Nat) : Prop :=
  entry.1.Renamed entry'.1 ∧ entry'.2 = entry.2

theorem renamed_ofKind (h : List.Forall₂ Renamed joins joins') (kind : JoinKind) :
    List.Forall₂ Renamed (ofKind kind joins) (ofKind kind joins') := by
  unfold ofKind
  refine List.rel_filter ?_ h
  intro join join' hj
  simp only [hj.kind]

theorem renamed_inRenderOrder (h : List.Forall₂ Renamed joins joins') :
    List.Forall₂ Renamed (inRenderOrder joins) (inRenderOrder joins') := by
  unfold inRenderOrder
  exact List.rel_append (renamed_ofKind h .inner) (renamed_ofKind h .left)

theorem renamed_zipIdx (h : List.Forall₂ Renamed joins joins') (start : Nat) :
    List.Forall₂ RenamedEntry (joins.zipIdx start) (joins'.zipIdx start) := by
  induction h generalizing start with
  | nil => exact .nil
  | cons hj _ ih => exact .cons ⟨hj, rfl⟩ (ih (start + 1))

theorem renamed_numbered (h : List.Forall₂ Renamed joins joins') :
    List.Forall₂ RenamedEntry (numbered joins) (numbered joins') :=
  renamed_zipIdx (renamed_inRenderOrder h) 0

theorem RenamedEntry.ofJoin_eq {entry entry' : Join × Nat} (h : RenamedEntry entry entry') :
    Alias.ofJoin entry'.1.table entry'.2 = Alias.ofJoin entry.1.table entry.2 := by
  unfold Alias.ofJoin
  rw [h.1.table, h.2]

theorem aliases_of_renamed (h : List.Forall₂ Renamed joins joins') : aliases joins' = aliases joins := by
  unfold aliases
  rw [eq_comm, ← List.forall₂_eq_eq_eq]
  exact List.rel_map (fun _ _ hentry => hentry.ofJoin_eq.symm) (renamed_numbered h)

end Join

/-! ## Gaps -/

namespace Clause
variable {owner after before : String} {entries entries' : List (Join × Nat)}

/-- What stands behind the brackets of a join. -/
def behindName (owner : String) (entry : Join × Nat) : String :=
  let joined := Alias.ofJoin entry.1.table entry.2
  " " ++ joined ++ joinCondition owner joined entry.1

/-- What stands behind the brackets of a declaration, and behind those of each of the joins that follow. -/
def gaps (owner after : String) : String → List (Join × Nat) → List String
  | before, [] => [before ++ after]
  | before, entry :: entries => (before ++ joinLead entry.1.kind) :: gaps owner after (behindName owner entry) entries

theorem length_gaps (owner after before : String) (entries : List (Join × Nat)) :
    (gaps owner after before entries).length = entries.length + 1 := by
  induction entries generalizing before with
  | nil => rfl
  | cons entry entries ih => rw [gaps, List.length_cons, List.length_cons, ih]

/-- A gap ends with the keyword of the join behind it. -/
theorem getElem?_gaps {k : Nat} {entry : Join × Nat} (h : entries[k]? = some entry) :
    ∃ lead, (gaps owner after before entries)[k]? = some (lead ++ joinLead entry.1.kind) := by
  induction entries generalizing before k with
  | nil => cases h
  | cons first entries ih =>
    cases k with
    | zero =>
      obtain rfl : first = entry := Option.some.inj h
      exact ⟨before, rfl⟩
    | succ k => exact ih h

theorem gaps_of_renamed (h : List.Forall₂ Join.RenamedEntry entries entries') (owner after before : String) :
    gaps owner after before entries' = gaps owner after before entries := by
  induction h generalizing before with
  | nil => rfl
  | @cons entry entry' _ _ hentry _ ih =>
    have hbehind : behindName owner entry' = behindName owner entry := by
      simp only [behindName, joinCondition, hentry.ofJoin_eq, hentry.1.localKey, hentry.1.foreignKey]
    rw [gaps, gaps, hentry.1.kind, hbehind, ih]

/-- Names in brackets, each followed by its gap. -/
def woven (names gaps : List String) : String :=
  String.join (List.zipWith (fun name gap => "[" ++ name ++ "]" ++ gap) names gaps)

theorem woven_cons (name gap : String) (names gaps : List String) :
    woven (name :: names) (gap :: gaps) = "[" ++ name ++ "]" ++ gap ++ woven names gaps := by
  rw [woven, List.zipWith_cons_cons, String.join_cons, woven]

theorem numberedText_eq_behindName (owner : String) (entry : Join × Nat) :
    numberedText owner entry = joinLead entry.1.kind ++ ("[" ++ entry.1.table ++ "]" ++ behindName owner entry) := by
  have hclose : "] " = "]" ++ " " := by decide
  rw [numberedText_eq, declaration, hclose, behindName]
  simp only [String.append_assoc]

/-- A declaration, the joins behind it and what comes last. -/
theorem woven_gaps (owner after name before : String) (entries : List (Join × Nat)) :
    woven (name :: entries.map (·.1.table)) (gaps owner after before entries) =
      "[" ++ name ++ "]" ++ before ++ joinRow owner entries ++ after := by
  induction entries generalizing name before with
  | nil =>
    rw [List.map_nil, gaps, woven_cons, joinRow, List.map_nil, String.join_nil]
    simp only [woven, List.zipWith_nil_left, String.join_nil, String.append_empty, String.append_assoc]
  | cons entry entries ih =>
    rw [List.map_cons, gaps, woven_cons, ih, joinRow_cons, numberedText_eq_behindName]
    simp only [String.append_assoc]

end Clause

/-! ## Statements -/

namespace Query
variable {q q' : Query}

/-- The names of the tables in the order of their declarations. -/
def tables (q : Query) : List String :=
  q.table :: (Join.inRenderOrder q.joins).map (·.table)

/-- What stands behind the brackets of each declaration. -/
def gaps (q : Query) : List String :=
  let owner := Alias.ofTable q.table
  let after := Clause.conditionsText owner q.filters.shown ++ Clause.orderPart owner q.sortKey
  Clause.gaps owner after (" " ++ owner) (Join.numbered q.joins)

theorem statement_eq_woven (q : Query) :
    q.statement =
      Clause.selectText (Alias.ofTable q.table) q.joins q.projection ++ " FROM " ++ Clause.woven q.tables q.gaps := by
  have hclose : "] " = "]" ++ " " := by decide
  rw [tables, gaps, ← Join.map_fst_numbered, List.map_map, Function.comp_def, Clause.woven_gaps, statement,
    Clause.joinsText_eq_joinRow, Clause.sourceText, declaration, hclose]
  simp only [String.append_assoc]

theorem Renamed.gaps_eq (h : q.Renamed q') : q'.gaps = q.gaps := by
  unfold gaps
  rw [h.table, h.filters, h.sortKey]
  exact Clause.gaps_of_renamed (Join.renamed_numbered h.joins) _ _ _

theorem Renamed.selectText_eq (h : q.Renamed q') (owner : String) :
    Clause.selectText owner q'.joins q'.projection = Clause.selectText owner q.joins q.projection := by
  rw [h.projection]
  exact Clause.selectText_congr (Join.aliases_of_renamed h.joins) q.projection

theorem Renamed.fault_eq (h : q.Renamed q') : q'.fault = q.fault := by
  have htable : tableFault q'.table = tableFault q.table := by
    unfold tableFault
    rw [Alias.isBlank_eq_of_ofTable_eq h.table]
  have hjoins : joinsFault q'.joins = joinsFault q.joins := by
    have hblank : q.joins.map (isBlank ·.table) = q'.joins.map (isBlank ·.table) := by
      rw [← List.forall₂_eq_eq_eq]
      exact List.rel_map (fun _ _ hj => (Alias.isBlank_eq_of_ofTable_eq hj.table).symm) h.joins
    have hany : ∀ joins : List Join, joins.any (isBlank ·.table) = (joins.map (isBlank ·.table)).any id := by
      intro joins
      rw [List.any_map]
      rfl
    unfold joinsFault
    rw [hany, hany, hblank]
  unfold fault
  rw [htable, hjoins, h.projection, h.filters]

/-- **A statement shows the name of a table once, in the brackets of its declaration, and nothing else depends on it**
but for the alias. What stands between the names is a gap, and the gaps stay as they are. -/
theorem build_of_renamed {q q' : Query} (h : q.Renamed q') :
    (∃ error, q.build = .error error ∧ q'.build = .error error) ∨
    ∃ select gaps, gaps.length = q.joins.length + 1 ∧
      (∀ (k : Nat) (join : Join), (Join.inRenderOrder q.joins)[k]? = some join →
        ∃ lead, gaps[k]? = some (lead ++ " " ++ join.kind.keyword ++ " ")) ∧
      q.build = .ok (select ++ " FROM " ++
        String.join (List.zipWith (fun name gap => "[" ++ name ++ "]" ++ gap) q.tables gaps)) ∧
      q'.build = .ok (select ++ " FROM " ++
        String.join (List.zipWith (fun name gap => "[" ++ name ++ "]" ++ gap) q'.tables gaps)) := by
  cases hfault : q.fault with
  | some error =>
    left
    exact ⟨error, build_eq_error_iff.2 hfault, build_eq_error_iff.2 (h.fault_eq.trans hfault)⟩
  | none =>
    right
    refine ⟨Clause.selectText (Alias.ofTable q.table) q.joins q.projection, q.gaps, ?_, ?_, ?_, ?_⟩
    · unfold gaps
      rw [Clause.length_gaps, Join.length_numbered, (Join.perm_inRenderOrder q.joins).length_eq]
    · intro k join hk
      have hentry : (Join.numbered q.joins)[k]? = some (join, k) := by
        rw [Join.getElem?_numbered, hk, Option.map_some]
      obtain ⟨lead, hlead⟩ := Clause.getElem?_gaps hentry
      refine ⟨lead, hlead.trans ?_⟩
      simp only [joinLead, String.append_assoc]
    · exact build_eq_ok_iff.2 ⟨hfault, statement_eq_woven q⟩
    · refine build_eq_ok_iff.2 ⟨h.fault_eq.trans hfault, ?_⟩
      rw [statement_eq_woven, h.table, h.selectText_eq, h.gaps_eq]
      rfl

/-- Names of other lengths, with a point in one and a bracket in another. The join registered last comes first. -/
theorem build_of_renamed_with_brackets :
    let q : Query := {
      table := "Users"
      joins := [⟨.left, "Orders", "Id", "BuyerId"⟩, ⟨.inner, "Towns", "TownId", "Id"⟩]
      filters := ⟨some ⟨"Id", .placeholder⟩, []⟩ }
    let q' : Query := { q with
      table := "u.s"
      joins := [⟨.left, "o] x", "Id", "BuyerId"⟩, ⟨.inner, "T", "TownId", "Id"⟩] }
    let text := "SELECT u.*, t0.*, o1.* FROM [Users] u INNER JOIN [Towns] t0 ON u.TownId = t0.Id" ++
      " LEFT JOIN [Orders] o1 ON u.Id = o1.BuyerId WHERE u.Id = @Id"
    let text' := "SELECT u.*, t0.*, o1.* FROM [u.s] u INNER JOIN [T] t0 ON u.TownId = t0.Id" ++
      " LEFT JOIN [o] x] o1 ON u.Id = o1.BuyerId WHERE u.Id = @Id"
    q.Renamed q' ∧ q.build = .ok text ∧ q'.build = .ok text' ∧
      ∃ select gaps, gaps.length = 3 ∧
        text = select ++ " FROM " ++ String.join
          (List.zipWith (fun name gap => "[" ++ name ++ "]" ++ gap) ["Users", "Towns", "Orders"] gaps) ∧
        text' = select ++ " FROM " ++ String.join
          (List.zipWith (fun name gap => "[" ++ name ++ "]" ++ gap) ["u.s", "T", "o] x"] gaps) := by
  intro q q' text text'
  have hrenamed : q.Renamed q' := by
    refine ⟨by decide, rfl, ?_, rfl, rfl⟩
    exact .cons ⟨rfl, by decide, rfl, rfl⟩ (.cons ⟨rfl, by decide, rfl, rfl⟩ .nil)
  have hbuild : q.build = .ok text := build_eq_ok_iff.2 ⟨by decide, by decide +kernel⟩
  have hbuild' : q'.build = .ok text' := build_eq_ok_iff.2 ⟨by decide, by decide +kernel⟩
  refine ⟨hrenamed, hbuild, hbuild', ?_⟩
  rcases build_of_renamed hrenamed with ⟨error, herror, -⟩ | ⟨select, gaps, hlength, -, htext, htext'⟩
  · rw [hbuild] at herror
    cases herror
  · exact ⟨select, gaps, hlength, Except.ok.inj (hbuild.symm.trans htext), Except.ok.inj (hbuild'.symm.trans htext')⟩

end Query

end SqlSelect
