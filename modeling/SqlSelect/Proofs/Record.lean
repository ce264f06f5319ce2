import Mathlib.Data.List.Induction
import SqlSelect.Proofs.Numbering
import SqlSelect.Query

/-!
# What edits record

An edit gives one part of a query and leaves the others as they are. What it gives can be read off the edit itself,
without the query that it changes. It is either held until the next edit of that part (`Edit.table?`,
`Edit.projection?`, `Edit.primary?`, `Edit.sortKey?`) or added to what was given before (`Edit.join?`,
`Edit.secondary?`). So a course of edits can be read part by part: the query that it leads to holds the last of what is
held and all of what is added (`Query.ofEdits_eq`), no building in between changes that (`Session.query_ofActions`),
and courses that agree part by part (`Edit.Agree`) build the same.
-/

namespace SqlSelect

namespace Edit

/-! ## The parts that an edit gives -/

def table? : Edit → Option String
  | .fromTable table => some table
  | _ => none

def projection? : Edit → Option Projection
  | .selectAll => some .all
  | .selectCount => some .count
  | .selectSpecific columns => some (.specific columns.items)
  | .selectCustom expression columns => some (.custom expression columns.items)
  | _ => none

def join? : Edit → Option Join
  | .innerJoin table localKey foreignKey => some ⟨.inner, table, localKey, foreignKey⟩
  | .leftJoin table localKey foreignKey => some ⟨.left, table, localKey, foreignKey⟩
  | .join given => some given
  | _ => none

def primary? : Edit → Option Filter
  | .wherePlaceholder column => some ⟨column, .placeholder⟩
  | .whereLiteral column value => some ⟨column, .literal value⟩
  | .whereComputed column result => some ⟨column, .computed result⟩
  | .whereFilter filter => some filter
  | _ => none

def secondary? : Edit → Option Filter
  | .andPlaceholder column => some ⟨column, .placeholder⟩
  | .andLiteral column value => some ⟨column, .literal value⟩
  | .andComputed column result => some ⟨column, .computed result⟩
  | .andFilter filter => some filter
  | _ => none

def sortKey? : Edit → Option SortKey
  | .orderBy column => some ⟨column, .ascending⟩
  | .orderByDescending column => some ⟨column, .descending⟩
  | _ => none

/-- What the last edit of a part has given. -/
def last? {α : Type} (part : Edit → Option α) (edits : List Edit) : Option α :=
  (edits.filterMap part).getLast?

theorem last?_concat {α : Type} (part : Edit → Option α) (edits : List Edit) (e : Edit) :
    last? part (edits ++ [e]) = (part e).or (last? part edits) := by
  rw [last?, List.filterMap_append, List.getLast?_append]
  cases h : part e <;> simp [h, last?]

theorem filterMap_concat {α : Type} (part : Edit → Option α) (edits : List Edit) (e : Edit) :
    (edits ++ [e]).filterMap part = edits.filterMap part ++ (part e).toList := by
  rw [List.filterMap_append]
  cases h : part e <;> simp [h]

theorem last?_eq_none_iff {α : Type} {part : Edit → Option α} {edits : List Edit} :
    last? part edits = none ↔ ∀ e ∈ edits, part e = none := by
  rw [last?, List.getLast?_eq_none_iff, List.filterMap_eq_nil_iff]

end Edit

/-! ## Courses of edits -/

namespace Query

/-- What one edit does to each part. -/
theorem edit_eq (q : Query) (e : Edit) :
    q.edit e = {
      table := e.table?.getD q.table
      projection := e.projection?.getD q.projection
      joins := q.joins ++ e.join?.toList
      filters := ⟨e.primary?.or q.filters.primary, q.filters.secondary ++ e.secondary?.toList⟩
      sortKey := e.sortKey?.or q.sortKey } := by
  -- An edit gives one part, and to the others `getD`, `or` and `++` have nothing to add.
  cases e <;>
    simp [edit, selectSpecific_eq, selectCustom_eq, Edit.table?, Edit.projection?, Edit.join?, Edit.primary?,
      Edit.secondary?, Edit.sortKey?] <;> rfl

/-- What a course of edits makes of each part. -/
theorem ofEdits_eq (edits : List Edit) :
    ofEdits edits = {
      table := (Edit.last? Edit.table? edits).getD ""
      projection := (Edit.last? Edit.projection? edits).getD .all
      joins := edits.filterMap Edit.join?
      filters := ⟨Edit.last? Edit.primary? edits, edits.filterMap Edit.secondary?⟩
      sortKey := Edit.last? Edit.sortKey? edits } := by
  induction edits using List.reverseRecOn with
  | nil => rfl
  | append_singleton edits e ih =>
    rw [ofEdits_concat, ih, edit_eq]
    simp only [Edit.last?_concat, Edit.filterMap_concat, Option.getD_or]

end Query

/-! ## Building in between -/

namespace Session

theorem query_ofActions (actions : List Action) :
    (ofActions actions).query = Query.ofEdits (actions.filterMap Action.edit?) := by
  induction actions using List.reverseRecOn with
  | nil => rfl
  | append_singleton actions last ih =>
    rw [ofActions_concat, List.filterMap_append]
    cases last with
    | edit e =>
      change (ofActions actions).query.edit e = Query.ofEdits (actions.filterMap Action.edit? ++ [e])
      rw [Query.ofEdits_concat, ih]
    | build =>
      change (ofActions actions).query = Query.ofEdits (actions.filterMap Action.edit? ++ [])
      rw [List.append_nil, ih]

/-- What has been built stays as it is. -/
theorem results_prefix (before after : List Action) :
    (ofActions before).results <+: (ofActions (before ++ after)).results := by
  induction after using List.reverseRecOn with
  | nil => simp
  | append_singleton after last ih =>
    rw [← List.append_assoc, ofActions_concat]
    cases last with
    | edit e => exact ih
    | build => exact ih.trans (List.prefix_append ..)

/-- A building gives what the edits before it make of the query, whatever has been built before and is edited later. -/
theorem results_of_build (before after : List Action) :
    (ofActions (before ++ .build :: after)).results[(ofActions before).results.length]? =
      some (Query.ofEdits (before.filterMap Action.edit?)).build := by
  have hsplit : before ++ .build :: after = before ++ [.build] ++ after := List.append_cons ..
  have hresults : (ofActions (before ++ [.build])).results =
      (ofActions before).results ++ [(Query.ofEdits (before.filterMap Action.edit?)).build] := by
    rw [ofActions_concat, ← query_ofActions]
    rfl
  obtain ⟨rest, hrest⟩ := results_prefix (before ++ [.build]) after
  rw [hsplit, ← hrest, hresults]
  simp

/-- **What a session records**: the last of what is held, all of what is added, and nothing of how often it was built in
between. -/
theorem query_records (actions : List Action) :
    let q := (ofActions actions).query
    let edits := actions.filterMap Action.edit?
    q.table = (Edit.last? Edit.table? edits).getD "" ∧
      q.projection = (Edit.last? Edit.projection? edits).getD .all ∧
      q.joins = edits.filterMap Edit.join? ∧
      q.filters.primary = Edit.last? Edit.primary? edits ∧
      q.filters.secondary = edits.filterMap Edit.secondary? ∧
      q.sortKey = Edit.last? Edit.sortKey? edits ∧
      (q.filters.isEmpty = true ↔ ∀ e ∈ edits, e.primary? = none ∧ e.secondary? = none) := by
  intro q edits
  have hq : q = _ := (query_ofActions actions).trans (Query.ofEdits_eq edits)
  rw [hq]
  refine ⟨rfl, rfl, rfl, rfl, rfl, rfl, ?_⟩
  rw [Filters.isEmpty, Bool.and_eq_true, Option.isNone_iff_eq_none, List.isEmpty_iff, Edit.last?_eq_none_iff,
    List.filterMap_eq_nil_iff, forall₂_and]

/-- A session in which every part is given more than once, in turns and with builds in between; what two more edits
change; and a session that gives no filter. -/
theorem query_records_of_buyers :
    let columns : Subarray String := #["Rank", "Id", "Name", "Id"].toSubarray 1 4
    let actions : List Action := [
      .build, .edit (.andPlaceholder "Year"), .edit (.leftJoin "Orders" "Id" "BuyerId"), .edit .selectCount, .build,
      .edit (.fromTable "Orders"), .edit (.wherePlaceholder "Id"), .edit (.andLiteral "Total" (.signed 7)),
      .edit (.selectCustom "1 AS One" (.slice columns)), .edit (.orderByDescending "Name"),
      .edit (.innerJoin "Towns" "TownId" "Id"), .build, .edit (.whereComputed "Rank" (.error "no rank")),
      .edit (.andComputed "Year" (.ok .null)), .edit (.fromTable "Customers"), .edit .selectAll,
      .edit (.join ⟨.left, "Orders", "Id", "BuyerId"⟩), .edit (.orderBy "Rank"),
      .edit (.whereLiteral "Name" (.string "Li")), .edit (.andFilter ⟨"", .computed (.error "no value")⟩),
      .edit (.selectSpecific (.slice columns)), .build]
    let more : List Action := actions ++ [
      .edit (.whereFilter ⟨"Id", .computed (.ok (.signed 1))⟩), .build, .edit (.selectCustom "2 AS Two" (.name "Name"))]
    let q := (ofActions actions).query
    let q' := (ofActions more).query
    (q.table = "Customers" ∧ q.projection = .specific ["Id", "Name", "Id"] ∧
      q.joins = [⟨.left, "Orders", "Id", "BuyerId"⟩, ⟨.inner, "Towns", "TownId", "Id"⟩,
        ⟨.left, "Orders", "Id", "BuyerId"⟩] ∧
      q.filters.primary = some ⟨"Name", .literal (.string "Li")⟩ ∧
      q.filters.secondary = [⟨"Year", .placeholder⟩, ⟨"Total", .literal (.signed 7)⟩, ⟨"Year", .computed (.ok .null)⟩,
        ⟨"", .computed (.error "no value")⟩] ∧
      q.sortKey = some ⟨"Rank", .ascending⟩ ∧ q.filters.isEmpty = false) ∧
    (q'.projection = .custom "2 AS Two" ["Name"] ∧ q'.filters.primary = some ⟨"Id", .computed (.ok (.signed 1))⟩ ∧
      q'.table = q.table ∧ q'.joins = q.joins ∧ q'.filters.secondary = q.filters.secondary ∧ q'.sortKey = q.sortKey) ∧
    (ofActions [.build, .edit .selectCount, .build]).query.filters.isEmpty = true := by
  intro columns actions more q q'
  have hcolumns : ColumnGroup.items (.slice columns) = ["Id", "Name", "Id"] := by decide
  obtain ⟨htable, hprojection, hjoins, hprimary, hsecondary, hsortKey, hempty⟩ := query_records actions
  obtain ⟨htable', hprojection', hjoins', hprimary', hsecondary', hsortKey', -⟩ := query_records more
  refine ⟨⟨htable, hprojection.trans (congrArg Projection.specific hcolumns), hjoins, hprimary, hsecondary, hsortKey,
    ?_⟩, ⟨hprojection', hprimary', htable'.trans htable.symm, hjoins'.trans hjoins.symm,
      hsecondary'.trans hsecondary.symm, hsortKey'.trans hsortKey.symm⟩, ?_⟩
  · refine Bool.eq_false_iff.2 fun h => ?_
    have hnone := (hempty.1 h (.andPlaceholder "Year") List.mem_cons_self).2
    cases hnone
  · exact (query_records [.build, .edit .selectCount, .build]).2.2.2.2.2.2.2 (by decide)

end Session

/-! ## Courses that agree part by part -/

/-- The two courses give the same, part by part: it does not matter by which edits, nor how the parts are interleaved,
nor how the joins of one kind are interleaved with those of the other. -/
structure Edit.Agree (edits edits' : List Edit) : Prop where
  table : last? table? edits = last? table? edits'
  projection : last? projection? edits = last? projection? edits'
  innerJoins : (edits.filterMap join?).filter (·.kind = .inner) = (edits'.filterMap join?).filter (·.kind = .inner)
  leftJoins : (edits.filterMap join?).filter (·.kind = .left) = (edits'.filterMap join?).filter (·.kind = .left)
  primary : last? primary? edits = last? primary? edits'
  secondary : edits.filterMap secondary? = edits'.filterMap secondary?
  sortKey : last? sortKey? edits = last? sortKey? edits'

namespace Query

/-- **The order of the edits does not matter** beyond what `Edit.Agree` asks for, even if the joins are recorded in
different order. -/
theorem build_ofEdits_congr {edits edits' : List Edit} (h : Edit.Agree edits edits') :
    (ofEdits edits).build = (ofEdits edits').build := by
  have hjoins := Join.inRenderOrder_eq_iff.2 ⟨h.innerJoins, h.leftJoins⟩
  have hquery : (ofEdits edits).inRenderOrder = (ofEdits edits').inRenderOrder := by
    rw [inRenderOrder, inRenderOrder, ofEdits_eq, ofEdits_eq]
    simp only [h.table, h.projection, hjoins, h.primary, h.secondary, h.sortKey]
  rw [← build_inRenderOrder, hquery, build_inRenderOrder]

/-- Two such courses. The first one goes astray three times on the way and registers the left join first. -/
theorem build_ofEdits_congr_of_detour :
    let edits : List Edit := [
      .selectSpecific (.list []), .fromTable "", .leftJoin "Orders" "Id" "BuyerId", .andPlaceholder "Year",
      .whereComputed "Id" (.error "no value"), .innerJoin "Towns" "TownId" "Id", .orderByDescending "Id", .selectAll,
      .fromTable "Customers", .whereFilter (.placeholder "Id"), .orderBy "Name"]
    let edits' : List Edit := [
      .orderBy "Name", .wherePlaceholder "Id", .join ⟨.inner, "Towns", "TownId", "Id"⟩, .fromTable "Customers",
      .selectAll, .join ⟨.left, "Orders", "Id", "BuyerId"⟩, .andFilter (.placeholder "Year")]
    Edit.Agree edits edits' ∧ (ofEdits edits).joins ≠ (ofEdits edits').joins ∧
      (ofEdits edits).build = (ofEdits edits').build ∧
      (ofEdits edits').build = .ok ("SELECT c.*, t0.*, o1.* FROM [Customers] c " ++
        "INNER JOIN [Towns] t0 ON c.TownId = t0.Id LEFT JOIN [Orders] o1 ON c.Id = o1.BuyerId " ++
        "WHERE c.Id = @Id AND c.Year = @Year ORDER BY c.Name") := by
  intro edits edits'
  have h : Edit.Agree edits edits' := ⟨rfl, rfl, rfl, rfl, rfl, rfl, rfl⟩
  exact ⟨h, by decide, build_ofEdits_congr h, build_eq_ok_iff.2 ⟨by decide, by decide +kernel⟩⟩

end Query

end SqlSelect
