import SqlSelect.Proofs.Outcome

/-!
# No column is left out

Items are written with a separator between them, and empty ones are passed over (`appendItems_eq`). Where the separator
is a single character that no item holds, the items can be read off the text again, and all but the empty ones are
there (`split_appendItems`).

What a statement selects is written in this way. But whatever it selects stands behind the name of a table and a point,
and so nothing is ever passed over: neither a column of the source, even one without a name, nor a table of which all
columns are selected.
-/

namespace SqlSelect

/-- A separator that no item holds tells the items apart. -/
theorem split_appendItems {mark : Char} {items : List String} (hsome : ∃ item ∈ items, item ≠ "")
    (hmark : ∀ item ∈ items, mark ∉ item.toList) (text : String) :
    ∃ written, appendItems (.singleton mark) text items = text ++ written ∧
      (written.split mark).toList.map (·.copy) = items.filter (· ≠ "") := by
  have hkept : ∀ item ∈ items.filter (· ≠ ""), mark ∉ item.toList := fun item hitem =>
    hmark item (List.mem_filter.1 hitem).1
  have hne : items.filter (· ≠ "") ≠ [] := by
    obtain ⟨item, hitem, h⟩ := hsome
    exact List.ne_nil_of_mem (List.mem_filter.2 ⟨hitem, decide_eq_true h⟩)
  refine ⟨_, appendItems_eq _ text items, ?_⟩
  rw [String.toList_split_intercalate hkept, if_neg hne]

namespace Clause

/-- **Of the items only the empty ones are left out, and of what is selected nothing is**: a qualified column is never
empty, not even that of an empty name. -/
theorem select_leaves_out_no_column :
    (∀ (separator text : String) (items : List String),
      appendItems separator text items = text ++ separator.intercalate (items.filter (· ≠ ""))) ∧
    (∀ (mark : Char) (text : String) (items : List String), (∃ item ∈ items, item ≠ "") →
      (∀ item ∈ items, mark ∉ item.toList) →
      ∃ written, appendItems (.singleton mark) text items = text ++ written ∧
        (written.split mark).toList.map (·.copy) = items.filter (· ≠ "")) ∧
    (∀ (opening owner : String) (columns : List String) (joins : List Join),
      sourceColumns opening owner columns =
        opening ++ ",".intercalate (columns.map fun column => owner ++ "." ++ column) ∧
      allColumns opening owner joins =
        opening ++ ", ".intercalate ((owner :: Join.aliases joins).map fun name => name ++ ".*")) ∧
    ∀ (table : String) (columns : List String) (joins : List Join), isBlank table = false → columns ≠ [] →
      let owner := Alias.ofTable table
      let items := columns.map fun column => owner ++ "." ++ column
      ∃ written, select table (.specific columns) joins = .ok ("SELECT " ++ written) ∧
        written = ",".intercalate items ∧
        (',' ∉ owner.toList → (∀ column ∈ columns, ',' ∉ column.toList) →
          (written.split ',').toList.map (·.copy) = items) := by
  refine ⟨appendItems_eq, fun mark text items hsome hmark => split_appendItems hsome hmark text, ?_, ?_⟩
  · intro opening owner columns joins
    have hstar : star = fun name => name ++ ".*" := funext star_eq
    exact ⟨sourceColumns_eq_intercalate opening owner columns, hstar ▸ allColumns_eq_intercalate opening owner joins⟩
  · intro table columns joins ht hne owner items
    refine ⟨_, ?_, rfl, fun howner hcolumns => ?_⟩
    · rw [select_eq_ok ht (Projection.fault_specific hne), selectText, sourceColumns_eq_intercalate]
      rfl
    · have hmark : ∀ item ∈ items, ',' ∉ item.toList := by
        intro item hitem
        obtain ⟨column, hcolumn, rfl⟩ := List.mem_map.1 hitem
        simp [howner, hcolumns column hcolumn]
      have hitems : items ≠ [] := fun h => hne (List.map_eq_nil_iff.1 h)
      exact (String.toList_split_intercalate hmark).trans (if_neg hitems)

/-- Empty items in front, in a row and at the end; and a column without a name, one twice and a blank one. -/
theorem select_leaves_out_no_column_of_users :
    let items := ["", "Id", "", "", "Name", ""]
    let columns := ["", "Id", " ", "Id"]
    (∃ item ∈ items, item ≠ "") ∧ (∀ item ∈ items, ';' ∉ item.toList) ∧
      appendItems ";" "; " items = "; Id;Name" ∧
      (∃ written, appendItems (.singleton ';') "; " items = "; " ++ written ∧
        (written.split ';').toList.map (·.copy) = ["Id", "Name"]) ∧
      isBlank "Users" = false ∧ columns ≠ [] ∧ ',' ∉ (Alias.ofTable "Users").toList ∧
      (∀ column ∈ columns, ',' ∉ column.toList) ∧
      (∃ written, select "Users" (.specific columns) [] = .ok ("SELECT " ++ written) ∧ written = "u.,u.Id,u. ,u.Id" ∧
        (written.split ',').toList.map (·.copy) = ["u.", "u.Id", "u. ", "u.Id"]) := by
  intro items columns
  have hsome : ∃ item ∈ items, item ≠ "" := by decide
  have hmark : ∀ item ∈ items, ';' ∉ item.toList := by decide
  have ht : isBlank "Users" = false := by decide
  have hne : columns ≠ [] := List.cons_ne_nil _ _
  have howner : ',' ∉ (Alias.ofTable "Users").toList := by decide
  have hcolumns : ∀ column ∈ columns, ',' ∉ column.toList := by decide
  obtain ⟨happend, hsplit, -, hselect⟩ := select_leaves_out_no_column
  obtain ⟨rest, hrest, hkept⟩ := hsplit ';' "; " items hsome hmark
  obtain ⟨written, htext, hwritten, hread⟩ := hselect "Users" columns [] ht hne
  refine ⟨hsome, hmark, (happend ";" "; " items).trans (by decide), ⟨rest, hrest, hkept.trans (by decide)⟩, ht, hne,
    howner, hcolumns, written, htext, ?_, ?_⟩
  · exact hwritten.trans (by decide)
  · exact (hread howner hcolumns).trans (by decide)

end Clause

end SqlSelect
