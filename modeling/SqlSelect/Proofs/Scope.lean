import SqlSelect.Proofs.Aliases
import SqlSelect.Proofs.Qualifiers
import SqlSelect.Proofs.ReadBack

/-!
# Qualifiers are in scope

Each clause forms the aliases it needs anew, so that they fit together is a property of whole statements. Here it is
read off the text of a statement alone: its declarations are the aliases of the source table and of the joins, in this
order, and whatever stands in front of a point is one of them.
-/

namespace SqlSelect

section Pieces
variable {P : String → Prop} {lead table name owner column r : String}

/-! ## Declarations and columns -/

theorem not_mem_declaration {d : Char} (hlead : d ∉ lead.toList) (ht : IsName table) (hn : IsAlias name)
    (hd : isWord d = false) (hbracket : d ∉ "[] ".toList) : d ∉ (lead ++ declaration table name).toList := by
  have hopen : d ∉ "[".toList := fun hmem => hbracket (List.mem_append_left "] ".toList hmem)
  have hclose : d ∉ "] ".toList := fun hmem => hbracket (List.mem_append_right "[".toList hmem)
  have htable : d ∉ ("[" ++ table).toList := not_mem_append hopen (not_mem_of_isWord ht.chars hd)
  exact not_mem_append hlead (not_mem_append (not_mem_append htable hclose) (not_mem_of_isWord hn.chars hd))

theorem declared_declaration_append (hlead : ']' ∉ lead.toList) (ht : IsName table) (hn : IsAlias name)
    (hr : Stops isWord r) : declared (lead ++ declaration table name ++ r) = name :: declared r := by
  have hopen : ']' ∉ "[".toList := by decide
  simp only [declaration, String.append_assoc]
  rw [declared_append_of_no_bracket hlead, declared_append_of_no_bracket hopen,
    declared_append_of_no_bracket (not_mem_of_isWord ht.chars isWord_bracket), declared_bracket_append hn.chars hr]

theorem keyless_declaration (hlead : Keyless lead) (ht : IsName table) (hn : IsAlias name) :
    Keyless (lead ++ declaration table name) := by
  have hopen : Keyless ("[" ++ table) :=
    Keyless.append (by decide) (keyless_of_no_blank (not_mem_of_isWord ht.chars isWord_blank)) (Or.inl (by decide))
  have hclose : Keyless ("] " ++ name) :=
    Keyless.append (by decide) (keyless_of_no_blank (not_mem_of_isWord hn.chars isWord_blank)) (Or.inr hn.uncapitalized)
  have hboth : declaration table name = "[" ++ table ++ ("] " ++ name) := by
    rw [declaration, String.append_assoc]
  rw [hboth]
  refine hlead.append (hopen.append hclose (Or.inr ?_)) (Or.inr ?_)
  · exact stops_append (c := ']') rfl rfl _
  · rw [String.append_assoc]
    exact stops_append (c := '[') rfl rfl _

theorem bracket_not_mem_qualified (howner : IsAlias owner) (hcolumn : IsName column) :
    ']' ∉ (qualified owner column).toList :=
  not_mem_qualified (not_mem_of_isWord howner.chars isWord_bracket) (by decide)
    (not_mem_of_isWord hcolumn.chars isWord_bracket)

theorem refers_column (hP : P owner) (hlead : '.' ∉ lead.toList) (hclosed : Closed lead) (howner : IsAlias owner)
    (hcolumn : IsName column) : Refers P (lead ++ qualified owner column) :=
  refers_qualified hP hlead hclosed howner.chars (not_mem_of_isWord hcolumn.chars isWord_point)

/-- A column behind a piece without keywords. -/
theorem keyless_qualified (hlead : Keyless lead) (howner : IsAlias owner) (hcolumn : ' ' ∉ column.toList) :
    Keyless (lead ++ qualified owner column) := by
  refine hlead.append (keyless_of_no_blank ?_) (Or.inr ?_)
  · exact not_mem_qualified (not_mem_of_isWord howner.chars isWord_blank) (by decide) hcolumn
  · rw [qualified, String.append_assoc]
    exact howner.uncapitalized.append (stops_append (c := '.') rfl rfl _)

/-! ## Joins -/

def joinLead (kind : JoinKind) : String :=
  " " ++ kind.keyword ++ " "

def joinCondition (owner joined : String) (join : Join) : String :=
  " ON " ++ qualified owner join.localKey ++ (" = " ++ qualified joined join.foreignKey)

theorem numberedText_eq (owner : String) (join : Join) (index : Nat) :
    Clause.numberedText owner (join, index) = joinLead join.kind ++
      declaration join.table (Alias.ofJoin join.table index) ++
        joinCondition owner (Alias.ofJoin join.table index) join := by
  simp only [Clause.numberedText, Clause.joinText, joinLead, joinCondition, String.append_assoc]

theorem joinLead_spec (kind : JoinKind) :
    '.' ∉ (joinLead kind).toList ∧ ']' ∉ (joinLead kind).toList ∧ Keyless (joinLead kind) := by
  cases kind <;> decide

theorem head_joinCondition (owner joined : String) (join : Join) :
    (joinCondition owner joined join).toList.head? = some ' ' := by
  simp [joinCondition]

theorem head_numberedText (owner : String) (entry : Join × Nat) :
    (Clause.numberedText owner entry).toList.head? = some ' ' := by
  simp [Clause.numberedText, Clause.joinText]

theorem not_mem_joinCondition {join : Join} {joined : String} (hj : join.Clean) (howner : IsAlias owner)
    (hjoined : IsAlias joined) : ']' ∉ (joinCondition owner joined join).toList := by
  have hlocal := bracket_not_mem_qualified howner hj.localKey
  have hforeign := bracket_not_mem_qualified hjoined hj.foreignKey
  exact not_mem_append (not_mem_append (by decide) hlocal) (not_mem_append (by decide) hforeign)

theorem declared_numberedText_append {join : Join} (hj : join.Clean) (index : Nat) (howner : IsAlias owner)
    (r : String) :
    declared (Clause.numberedText owner (join, index) ++ r) = Alias.ofJoin join.table index :: declared r := by
  have hjoined := hj.table.isAlias_ofJoin index
  rw [numberedText_eq, String.append_assoc, declared_declaration_append (joinLead_spec join.kind).2.1 hj.table hjoined
    (stops_append (head_joinCondition _ _ _) rfl r),
    declared_append_of_no_bracket (not_mem_joinCondition hj howner hjoined)]

theorem detached_joinRow (owner : String) (entries : List (Join × Nat)) : Detached (joinRow owner entries) := by
  cases entries with
  | nil => exact detached_empty
  | cons entry entries =>
    rw [joinRow_cons]
    exact detached_append (head_numberedText owner entry) _

theorem joinsText_eq_of_getElem? {joins : List Join} {k : Nat} {join : Join}
    (hk : (Join.inRenderOrder joins)[k]? = some join) :
    Clause.joinsText owner joins = joinRow owner ((Join.numbered joins).take k) ++
      (Clause.numberedText owner (join, k) ++ joinRow owner ((Join.numbered joins).drop (k + 1))) := by
  have hentry : (Join.numbered joins)[k]? = some (join, k) := by
    rw [Join.getElem?_numbered, hk, Option.map_some]
  obtain ⟨hlt, hget⟩ := List.getElem?_eq_some_iff.1 hentry
  have hdrop : (Join.numbered joins).drop k = (join, k) :: (Join.numbered joins).drop (k + 1) := by
    rw [List.drop_eq_getElem_cons hlt, hget]
  rw [← joinRow_cons, ← hdrop, joinRow, joinRow, ← String.join_append, ← List.map_append, List.take_append_drop]
  rfl

/-- A row of joins declares their aliases, whatever their numbers are. -/
theorem declared_joinRow_append {entries : List (Join × Nat)} (h : ∀ entry ∈ entries, entry.1.Clean)
    (howner : IsAlias owner) (r : String) :
    declared (joinRow owner entries ++ r) =
      entries.map (fun entry => Alias.ofJoin entry.1.table entry.2) ++ declared r := by
  induction entries with
  | nil => rw [joinRow, List.map_nil, String.join_nil, String.empty_append]; rfl
  | cons entry entries ih =>
    rw [joinRow_cons, String.append_assoc,
      declared_numberedText_append (h entry List.mem_cons_self) entry.2 howner,
      ih fun e he => h e (List.mem_cons_of_mem _ he)]
    rfl

/-- The condition compares a column of the source with one of the joined table. -/
theorem refers_numberedText {join : Join} (hj : join.Clean) (index : Nat) (howner : IsAlias owner) (hP : P owner)
    (hP' : P (Alias.ofJoin join.table index)) : Refers P (Clause.numberedText owner (join, index)) := by
  have hjoined := hj.table.isAlias_ofJoin index
  have hcondition : Refers P (joinCondition owner (Alias.ofJoin join.table index) join) := by
    refine Refers.append ?_ ?_ (apart_append (c := ' ') rfl rfl _)
    · exact refers_column hP (by decide) (by decide) howner hj.localKey
    · exact refers_column hP' (by decide) (by decide) hjoined hj.foreignKey
  rw [numberedText_eq]
  refine Refers.append (refers_of_no_point ?_) hcondition (stops_of_head (head_joinCondition _ _ _) rfl)
  exact not_mem_declaration (joinLead_spec join.kind).1 hj.table hjoined isWord_point (by decide)

theorem keyless_numberedText {join : Join} (hj : join.Clean) (index : Nat) (howner : IsAlias owner) :
    Keyless (Clause.numberedText owner (join, index)) := by
  have hjoined := hj.table.isAlias_ofJoin index
  have hcondition : Keyless (joinCondition owner (Alias.ofJoin join.table index) join) := by
    refine Keyless.append ?_ ?_ (Or.inr (stops_append (c := ' ') rfl rfl _))
    · exact keyless_qualified (by decide) howner (not_mem_of_isWord hj.localKey.chars isWord_blank)
    · exact keyless_qualified (by decide) hjoined (not_mem_of_isWord hj.foreignKey.chars isWord_blank)
  rw [numberedText_eq]
  exact (keyless_declaration (joinLead_spec join.kind).2.2 hj.table hjoined).append hcondition
    (Or.inr (stops_of_head (head_joinCondition _ _ _) rfl))

/-! ## Filters and sort key -/

theorem refers_comparison {f : Filter} (hf : f.Clean) (howner : IsAlias owner) (hlead : '.' ∉ lead.toList)
    (hclosed : Closed lead) : Refers (· = owner) (lead ++ f.comparison owner) := by
  have hwritten : '.' ∉ (f.operand.written f.column).toList := fun hmem =>
    absurd (hf.operand.isOperandChar_written hf.column '.' hmem) (by decide)
  rw [Filter.comparison, String.append_assoc, ← String.append_assoc]
  refine Refers.append ?_ (refers_of_no_point ?_) (apart_append (c := ' ') rfl rfl _)
  · exact refers_column rfl hlead hclosed howner hf.column
  · exact not_mem_append (by decide) hwritten

theorem not_mem_comparison {f : Filter} (hf : f.Clean) (howner : IsAlias owner) :
    ']' ∉ (f.comparison owner).toList := by
  have hwritten : ']' ∉ (f.operand.written f.column).toList := fun hmem =>
    absurd (hf.operand.isOperandChar_written hf.column ']' hmem) (by decide)
  have hcolumn := bracket_not_mem_qualified howner hf.column
  exact not_mem_append (not_mem_append hcolumn (by decide)) hwritten

theorem not_mem_conditionsText {fs : List Filter} (hfs : ∀ f ∈ fs, f.Clean) (howner : IsAlias owner) :
    ']' ∉ (Clause.conditionsText owner fs).toList := by
  cases fs with
  | nil => simp [Clause.conditionsText]
  | cons f fs =>
    have hrow : ∀ s ∈ fs.map (" AND " ++ ·.comparison owner), ']' ∉ s.toList := by
      intro s hs
      obtain ⟨g, hg, rfl⟩ := List.mem_map.1 hs
      exact not_mem_append (by decide) (not_mem_comparison (hfs g (List.mem_cons_of_mem _ hg)) howner)
    have hfirst := not_mem_comparison (hfs f List.mem_cons_self) howner
    exact not_mem_append (not_mem_append (by decide) hfirst) (not_mem_join hrow)

theorem not_mem_orderText {key : SortKey} (hk : IsName key.column) (howner : IsAlias owner) :
    ']' ∉ (Clause.orderText owner key).toList := by
  have hdirection : ']' ∉ (Clause.directionText key.direction).toList := by
    cases key.direction <;> decide
  have hcolumn := bracket_not_mem_qualified howner hk
  rw [Clause.orderText_eq]
  exact not_mem_append (by decide) (not_mem_append hcolumn hdirection)

theorem refers_conditionsText {fs : List Filter} (hfs : ∀ f ∈ fs, f.Clean) (howner : IsAlias owner) :
    Refers (· = owner) (Clause.conditionsText owner fs) := by
  cases fs with
  | nil => exact refers_of_no_point (by simp [Clause.conditionsText])
  | cons f fs =>
    have hrow : Refers (· = owner) (String.join (fs.map (" AND " ++ ·.comparison owner))) ∧
        Apart (String.join (fs.map (" AND " ++ ·.comparison owner))) := by
      refine refers_join fun s hs => ?_
      obtain ⟨g, hg, rfl⟩ := List.mem_map.1 hs
      refine ⟨?_, apart_append (c := ' ') rfl rfl _⟩
      exact refers_comparison (hfs g (List.mem_cons_of_mem _ hg)) howner (by decide) (by decide)
    have hfirst : Refers (· = owner) (" WHERE " ++ f.comparison owner) :=
      refers_comparison (hfs f List.mem_cons_self) howner (by decide) (by decide)
    exact hfirst.append hrow.1 hrow.2

theorem refers_orderText {key : SortKey} (hk : IsName key.column) (howner : IsAlias owner) :
    Refers (· = owner) (Clause.orderText owner key) := by
  have hfirst : Refers (· = owner) (" ORDER BY " ++ qualified owner key.column) :=
    refers_column rfl (by decide) (by decide) howner hk
  have hdirection : '.' ∉ (Clause.directionText key.direction).toList := by
    cases key.direction <;> decide
  rw [Clause.orderText_eq, ← String.append_assoc]
  exact hfirst.append (refers_of_no_point hdirection) ((Clause.detached_directionText _).stops rfl)

/-! ## Selected items -/

theorem Selects.separator_spec {joins : List Join} {projection : Projection} {first : Item} {others : List Item}
    {separator : String} (h : Selects owner joins projection first others separator) :
    '.' ∉ separator.toList ∧ Closed separator ∧ Keyless separator ∧ separator.toList.head? = some ',' := by
  rcases h.separator with rfl | rfl <;> decide

end Pieces

/-! ## Statements -/

namespace Query
variable {q : Query} {text : String}

/-- What stands in front of the filters and the sort key. -/
def headText (q : Query) : String :=
  Clause.selectText (Alias.ofTable q.table) q.joins q.projection ++ Clause.sourceText q.table ++
    Clause.joinsText (Alias.ofTable q.table) q.joins

theorem statement_eq_headText_append (q : Query) : q.statement = q.headText ++ q.tailText := by
  simp only [statement, headText, tailText, String.append_assoc]

namespace Clean

theorem isAlias_source (h : q.Clean) : IsAlias (Alias.ofTable q.table) :=
  h.isAlias List.mem_cons_self

theorem clean_of_mem_numbered (h : q.Clean) {entry : Join × Nat} (he : entry ∈ Join.numbered q.joins) :
    entry.1.Clean :=
  h.joins entry.1 (Join.mem_of_mem_numbered he)

theorem refers_selectText (h : q.Clean) (hs : q.projection ≠ .specific []) :
    Refers (· ∈ Alias.ofTable q.table :: Join.aliases q.joins)
      (Clause.selectText (Alias.ofTable q.table) q.joins q.projection) := by
  rcases h.projection.count_or_selects hs (Alias.ofTable q.table) q.joins with hcount | ⟨first, others, separator, hsel⟩
  · rw [hcount]
    exact refers_of_no_point (by simp [Clause.selectText])
  · have hitem : ∀ item ∈ first :: others, ∀ {lead : String}, '.' ∉ lead.toList → Closed lead →
        Refers (· ∈ Alias.ofTable q.table :: Join.aliases q.joins) (lead ++ item.text) := by
      intro item hi lead hlead hclosed
      have howner := hsel.owners item hi
      have hcolumn := hsel.not_mem_column hi isWord_point (by decide)
      exact refers_qualified howner hlead hclosed (h.isAlias howner).chars hcolumn
    obtain ⟨hpoint, hclosed, -, hhead⟩ := hsel.separator_spec
    have hrow : ∀ s ∈ others.map (separator ++ ·.text),
        Refers (· ∈ Alias.ofTable q.table :: Join.aliases q.joins) s ∧ Apart s := by
      intro s hmem
      obtain ⟨item, hi, rfl⟩ := List.mem_map.1 hmem
      exact ⟨hitem item (List.mem_cons_of_mem _ hi) hpoint hclosed, apart_append hhead rfl _⟩
    rw [hsel.text]
    exact (hitem first List.mem_cons_self (by decide) (by decide)).append (refers_join hrow).1 (refers_join hrow).2

theorem keyless_selectText (h : q.Clean) (hs : q.projection ≠ .specific []) :
    Keyless (Clause.selectText (Alias.ofTable q.table) q.joins q.projection) := by
  rcases h.projection.count_or_selects hs (Alias.ofTable q.table) q.joins with hcount | ⟨first, others, separator, hsel⟩
  · rw [hcount]
    exact (by decide : Keyless "SELECT COUNT(*)")
  · have hitem : ∀ item ∈ first :: others, ∀ {lead : String}, Keyless lead → Keyless (lead ++ item.text) :=
      fun item hi lead hlead =>
        keyless_qualified hlead (h.isAlias (hsel.owners item hi)) (hsel.not_mem_column hi isWord_blank (by decide))
    obtain ⟨-, -, hkeyless, hhead⟩ := hsel.separator_spec
    have hrow : ∀ s ∈ others.map (separator ++ ·.text), Keyless s ∧ Stops Char.isUpper s := by
      intro s hmem
      obtain ⟨item, hi, rfl⟩ := List.mem_map.1 hmem
      exact ⟨hitem item (List.mem_cons_of_mem _ hi) hkeyless, stops_append hhead rfl _⟩
    rw [hsel.text]
    exact (hitem first List.mem_cons_self (by decide)).append (keyless_join hrow).1 (Or.inr (keyless_join hrow).2)

theorem refers_joinsText (h : q.Clean) :
    Refers (· ∈ Alias.ofTable q.table :: Join.aliases q.joins) (Clause.joinsText (Alias.ofTable q.table) q.joins) ∧
      Apart (Clause.joinsText (Alias.ofTable q.table) q.joins) := by
  refine refers_join fun s hs => ?_
  obtain ⟨entry, he, rfl⟩ := List.mem_map.1 hs
  constructor
  · refine refers_numberedText (h.clean_of_mem_numbered he) entry.2 h.isAlias_source List.mem_cons_self ?_
    exact List.mem_cons_of_mem _ (List.mem_map_of_mem he)
  · exact stops_of_head (head_numberedText _ entry) rfl

theorem keyless_joinsText (h : q.Clean) :
    Keyless (Clause.joinsText (Alias.ofTable q.table) q.joins) ∧
      Stops Char.isUpper (Clause.joinsText (Alias.ofTable q.table) q.joins) := by
  refine keyless_join fun s hs => ?_
  obtain ⟨entry, he, rfl⟩ := List.mem_map.1 hs
  constructor
  · exact keyless_numberedText (h.clean_of_mem_numbered he) entry.2 h.isAlias_source
  · exact stops_of_head (head_numberedText _ entry) rfl

theorem refers_headText (h : q.Clean) (hs : q.projection ≠ .specific []) :
    Refers (· ∈ Alias.ofTable q.table :: Join.aliases q.joins) q.headText := by
  have hsource : Refers (· ∈ Alias.ofTable q.table :: Join.aliases q.joins) (Clause.sourceText q.table) :=
    refers_of_no_point (not_mem_declaration (by decide) h.table h.isAlias_source isWord_point (by decide))
  have hapart : Apart (Clause.sourceText q.table) := apart_append (c := ' ') rfl rfl _
  obtain ⟨hjoins, hjoinsApart⟩ := h.refers_joinsText
  exact ((h.refers_selectText hs).append hsource hapart).append hjoins hjoinsApart

theorem keyless_headText (h : q.Clean) (hs : q.projection ≠ .specific []) : Keyless q.headText := by
  have hsource : Keyless (Clause.sourceText q.table) := keyless_declaration (by decide) h.table h.isAlias_source
  have hblank : Stops Char.isUpper (Clause.sourceText q.table) := stops_append (c := ' ') rfl rfl _
  obtain ⟨hjoins, hjoinsStops⟩ := h.keyless_joinsText
  exact ((h.keyless_selectText hs).append hsource (Or.inr hblank)).append hjoins (Or.inr hjoinsStops)

theorem refers_tailText (h : q.Clean) : Refers (· = Alias.ofTable q.table) q.tailText := by
  have hconditions := refers_conditionsText (fun f hf => h.clean_of_mem_shown hf) h.isAlias_source
  have horder : Refers (· = Alias.ofTable q.table) (Clause.orderPart (Alias.ofTable q.table) q.sortKey) := by
    rw [h.orderPart_eq]
    cases hk : q.sortKey with
    | none => exact refers_of_no_point (by simp)
    | some key => exact refers_orderText (h.sortKey key hk) h.isAlias_source
  exact hconditions.append horder ((h.detached_orderPart _).1.stops rfl)

theorem declared_tailText (h : q.Clean) : declared q.tailText = [] := by
  apply declared_of_no_bracket
  have horder : ']' ∉ (Clause.orderPart (Alias.ofTable q.table) q.sortKey).toList := by
    rw [h.orderPart_eq]
    cases hk : q.sortKey with
    | none => simp
    | some key => exact not_mem_orderText (h.sortKey key hk) h.isAlias_source
  exact not_mem_append (not_mem_conditionsText (fun f hf => h.clean_of_mem_shown hf) h.isAlias_source) horder

/-- What is declared up to some join. -/
theorem declared_append_joinRow (h : q.Clean) (hs : q.projection ≠ .specific []) {entries : List (Join × Nat)}
    (hentries : ∀ entry ∈ entries, entry ∈ Join.numbered q.joins) {r : String} (hr : Detached r) :
    declared (Clause.selectText (Alias.ofTable q.table) q.joins q.projection ++ Clause.sourceText q.table ++
        joinRow (Alias.ofTable q.table) entries ++ r) =
      Alias.ofTable q.table :: (entries.map (fun entry => Alias.ofJoin entry.1.table entry.2) ++ declared r) := by
  have hselect : ']' ∉ (Clause.selectText (Alias.ofTable q.table) q.joins q.projection).toList :=
    h.not_mem_selectText hs (Or.inr rfl)
  have hrest : Stops isWord (joinRow (Alias.ofTable q.table) entries ++ r) :=
    Stops.append ((detached_joinRow _ entries).stops rfl) (hr.stops rfl)
  rw [String.append_assoc, String.append_assoc, declared_append_of_no_bracket hselect, Clause.sourceText,
    declared_declaration_append (by decide) h.table h.isAlias_source hrest,
    declared_joinRow_append (fun entry he => h.clean_of_mem_numbered (hentries entry he)) h.isAlias_source]

theorem declared_statement (h : q.Clean) (hs : q.projection ≠ .specific []) :
    declared q.statement = Alias.ofTable q.table :: Join.aliases q.joins := by
  have hall := h.declared_append_joinRow hs (fun _ he => he) h.detached_tailText.1
  rw [h.declared_tailText, List.append_nil] at hall
  rw [statement_eq_headText_append]
  exact hall

/-- A statement around one of its joins. -/
theorem exists_statement_eq_of_join (h : q.Clean) (hs : q.projection ≠ .specific []) {k : Nat} {join : Join}
    (hk : (Join.inRenderOrder q.joins)[k]? = some join) :
    ∃ before after,
      q.statement = before ++ Clause.numberedText (Alias.ofTable q.table) (join, k) ++ after ∧
        declared before = Alias.ofTable q.table :: (Join.aliases q.joins).take k := by
  refine ⟨Clause.selectText (Alias.ofTable q.table) q.joins q.projection ++ Clause.sourceText q.table ++
      joinRow (Alias.ofTable q.table) ((Join.numbered q.joins).take k),
    joinRow (Alias.ofTable q.table) ((Join.numbered q.joins).drop (k + 1)) ++ q.tailText, ?_, ?_⟩
  · rw [statement_eq_headText_append, headText, joinsText_eq_of_getElem? hk]
    simp only [String.append_assoc]
  · have hbefore := h.declared_append_joinRow hs (fun _ he => List.mem_of_mem_take (i := k) he) detached_empty
    rw [String.append_empty, declared_empty, List.append_nil] at hbefore
    rw [hbefore, Join.aliases, List.map_take]

end Clean

/-- **Every qualifier of a statement is in scope.** What stands in front of a point is declared exactly once, and behind
the joins only the source table is referred to. -/
theorem qualifiers_in_scope (h : q.Clean) (hb : q.build = .ok text) :
    declared text = Alias.ofTable q.table :: Join.aliases q.joins ∧
      (∃ before after, declared before = [] ∧
        text = before ++ (" FROM [" ++ q.table ++ "] " ++ Alias.ofTable q.table) ++ after) ∧
      (∀ before word after, QualifierAt text before word after → (declared text).count word = 1) ∧
      (∀ (k : Nat) (join : Join), (Join.inRenderOrder q.joins)[k]? = some join →
        ∃ before name after, declared before = (declared text).take (k + 1) ∧ (declared text)[k + 1]? = some name ∧
          text = before ++ (" " ++ join.kind.keyword ++ " [" ++ join.table ++ "] " ++ name ++ " ON " ++
            Alias.ofTable q.table ++ "." ++ join.localKey ++ " = " ++ name ++ "." ++ join.foreignKey) ++ after) ∧
      ∀ front keyword rest word after, keyword ∈ conditionKeywords →
        QualifierAt text (front ++ keyword ++ rest) word after → word = Alias.ofTable q.table := by
  have hs := projection_ne_of_build hb
  obtain ⟨-, rfl⟩ := build_eq_ok_iff.1 hb
  have hdeclared := h.declared_statement hs
  have hnodup := Join.aliases_nodup (table_not_blank_of_build hb) (joins_not_blank_of_build hb)
  have htail : Apart q.tailText := h.detached_tailText.1.stops rfl
  rw [hdeclared]
  refine ⟨rfl, ?_, ?_, ?_, ?_⟩
  · refine ⟨Clause.selectText (Alias.ofTable q.table) q.joins q.projection,
      Clause.joinsText (Alias.ofTable q.table) q.joins ++ q.tailText, ?_, ?_⟩
    · exact declared_of_no_bracket (h.not_mem_selectText hs (Or.inr rfl))
    · have hliteral : " FROM [" = " FROM " ++ "[" := by decide
      rw [statement_eq_headText_append, headText, Clause.sourceText, declaration, hliteral]
      simp only [String.append_assoc]
  · intro before word after hq
    rw [statement_eq_headText_append] at hq
    have hrest : Refers (· ∈ Alias.ofTable q.table :: Join.aliases q.joins) q.tailText := by
      refine h.refers_tailText.mono fun name hname => ?_
      rw [hname]
      exact List.mem_cons_self
    exact List.count_eq_one_of_mem hnodup ((h.refers_headText hs).append hrest htail before word after hq)
  · intro k join hk
    obtain ⟨before, after, hsplit, hbefore⟩ := h.exists_statement_eq_of_join hs hk
    refine ⟨before, Alias.ofJoin join.table k, after, hbefore, ?_, ?_⟩
    · rw [List.getElem?_cons_succ, Join.aliases, Join.numbered, List.getElem?_map, List.getElem?_zipIdx, hk]
      simp
    · have hliteral : " [" = " " ++ "[" := by decide
      rw [hsplit, numberedText_eq, joinLead, declaration, joinCondition, qualified, qualified, hliteral]
      simp only [String.append_assoc]
  · intro front keyword rest word after hkeyword hq
    rw [statement_eq_headText_append] at hq
    rcases hq.append htail with ⟨rest', hq, -⟩ | ⟨front', hq, -⟩
    · -- Nothing in front of the conditions looks like one of their keywords.
      have hkeyless := h.keyless_headText hs
      rw [hq.text_eq, String.append_assoc] at hkeyless
      exact absurd hkeyword hkeyless.not_mem_conditionKeywords
    · exact h.refers_tailText front' word after hq

/-- A table that is named like an alias and joined with itself, and columns that are named like keywords. -/
theorem qualifiers_in_scope_joined_with_itself :
    let q : Query := {
      table := "1"
      projection := .all
      joins := [⟨.left, "Orders", "ON", "WHERE"⟩, ⟨.inner, "1", "a", "b"⟩]
      filters := ⟨some ⟨"AND", .placeholder⟩, []⟩
      sortKey := some ⟨"x", .descending⟩ }
    let rest := "*, o1.* FROM [1] 1 INNER JOIN [1] 10 ON 1.a = 10.b LEFT JOIN [Orders] o1 ON 1.ON = o1.WHERE " ++
      "WHERE 1.AND = @AND ORDER BY 1.x DESC"
    let text := "SELECT 1.*, " ++ ("10" ++ ("." ++ rest))
    q.Clean ∧ q.build = .ok text ∧ declared text = ["1", "10", "o1"] ∧
      QualifierAt text "SELECT 1.*, " "10" rest ∧
      ∀ before word after, QualifierAt text before word after → word ∈ ["1", "10", "o1"] := by
  intro q rest text
  have h : q.Clean := by decide
  have hb : q.build = .ok text := build_eq_ok_iff.2 ⟨by decide, by decide +kernel⟩
  obtain ⟨hdeclared, -, hcount, -⟩ := qualifiers_in_scope h hb
  have haliases : Alias.ofTable q.table :: Join.aliases q.joins = ["1", "10", "o1"] := by decide
  rw [haliases] at hdeclared
  have hfirst : QualifierAt text "SELECT 1.*, " "10" rest :=
    ⟨rfl, by decide, List.all_eq_true.1 (by decide), by decide⟩
  refine ⟨h, hb, hdeclared, hfirst, fun before word after hq => ?_⟩
  have hword := hcount before word after hq
  rw [hdeclared] at hword
  exact List.count_pos_iff.1 (by omega)

end Query

end SqlSelect
