import SqlSelect.Proofs.Failure
import SqlSelect.Proofs.Words

/-!
# Clean queries

A query is clean when all its names are words, its projection holds no expression, and its filters compare with
parameters or with values that are written without quotes. Such a query builds as soon as its projection selects
something (`Query.Clean.fault_eq_none`), and of each part of its statement it is known which characters it is made of:
names and aliases are words, and operands bring no more than `@` and `-` along.
-/

namespace SqlSelect

inductive Operand.Plain : Operand → Prop
  | placeholder : Plain .placeholder
  | null : Plain (.literal .null)
  | bool (b : Bool) : Plain (.literal (.bool b))
  | signed (n : Int64) : Plain (.literal (.signed n))

structure Filter.Clean (f : Filter) : Prop where
  column : IsName f.column
  operand : f.operand.Plain

structure Join.Clean (join : Join) : Prop where
  table : IsName join.table
  localKey : IsName join.localKey
  foreignKey : IsName join.foreignKey

inductive Projection.Clean : Projection → Prop
  | all : Clean .all
  | count : Clean .count
  | specific {columns : List String} (names : ∀ column ∈ columns, IsName column) : Clean (.specific columns)

structure Query.Clean (q : Query) : Prop where
  table : IsName q.table
  projection : q.projection.Clean
  joins : ∀ join ∈ q.joins, join.Clean
  primary : ∀ f ∈ q.filters.primary, f.Clean
  secondary : ∀ f ∈ q.filters.secondary, f.Clean
  sortKey : ∀ key ∈ q.sortKey, IsName key.column

/-! Whether a query is clean can be computed. -/

instance : DecidablePred Operand.Plain
  | .placeholder => isTrue .placeholder
  | .literal .null => isTrue .null
  | .literal (.bool b) => isTrue (.bool b)
  | .literal (.signed n) => isTrue (.signed n)
  | .literal (.unsigned _) | .literal (.double _) | .literal (.string _) | .literal (.dateTime _) | .computed _ =>
    isFalse nofun

instance (f : Filter) : Decidable f.Clean :=
  decidable_of_iff (IsName f.column ∧ f.operand.Plain) ⟨fun h => ⟨h.1, h.2⟩, fun h => ⟨h.column, h.operand⟩⟩

instance (join : Join) : Decidable join.Clean :=
  decidable_of_iff (IsName join.table ∧ IsName join.localKey ∧ IsName join.foreignKey)
    ⟨fun h => ⟨h.1, h.2.1, h.2.2⟩, fun h => ⟨h.table, h.localKey, h.foreignKey⟩⟩

instance : DecidablePred Projection.Clean
  | .all => isTrue .all
  | .count => isTrue .count
  | .specific columns =>
    decidable_of_iff (∀ column ∈ columns, IsName column) ⟨.specific, fun h => by cases h; assumption⟩
  | .custom _ _ => isFalse nofun

instance (q : Query) : Decidable q.Clean :=
  decidable_of_iff (IsName q.table ∧ q.projection.Clean ∧ (∀ join ∈ q.joins, join.Clean) ∧
      (∀ f ∈ q.filters.primary, f.Clean) ∧ (∀ f ∈ q.filters.secondary, f.Clean) ∧
      ∀ key ∈ q.sortKey, IsName key.column)
    ⟨fun h => ⟨h.1, h.2.1, h.2.2.1, h.2.2.2.1, h.2.2.2.2.1, h.2.2.2.2.2⟩,
      fun h => ⟨h.table, h.projection, h.joins, h.primary, h.secondary, h.sortKey⟩⟩

/-! ## Building -/

theorem Operand.Plain.fault_eq_none {operand : Operand} (h : operand.Plain) : operand.fault = none := by
  cases h <;> rfl

theorem Projection.Clean.fault_eq_none {projection : Projection} (h : projection.Clean)
    (hs : projection ≠ .specific []) : projection.fault = none := by
  cases h with
  | all => rfl
  | count => rfl
  | @specific columns names =>
    cases columns with
    | nil => exact absurd rfl hs
    | cons column columns => rfl

namespace Query.Clean
variable {q : Query}

/-- The columns of a clean query are not blank, so its primary filter brings all secondary ones along. -/
theorem shown_eq (h : q.Clean) :
    q.filters.shown = match q.filters.primary with | none => [] | some f => f :: q.filters.secondary := by
  unfold Filters.shown
  cases hp : q.filters.primary with
  | none => rfl
  | some f => simp [(h.primary f hp).column.not_blank]

theorem clean_of_mem_shown (h : q.Clean) {f : Filter} (hf : f ∈ q.filters.shown) : f.Clean := by
  rw [h.shown_eq] at hf
  cases hp : q.filters.primary with
  | none => rw [hp] at hf; cases hf
  | some g =>
    rw [hp] at hf
    rcases List.mem_cons.1 hf with rfl | hf
    · exact h.primary f hp
    · exact h.secondary f hf

theorem fault_eq_none (h : q.Clean) (hs : q.projection ≠ .specific []) : q.fault = none := by
  have hjoins : joinsFault q.joins = none := joinsFault_eq_none fun join hj => (h.joins join hj).table.not_blank
  have hfilters : q.filters.fault = none :=
    List.findSome?_eq_none_iff.2 fun f hf => (h.clean_of_mem_shown hf).operand.fault_eq_none
  rw [fault, hjoins, hfilters, h.projection.fault_eq_none hs, tableFault, h.table.not_blank]
  rfl

theorem orderPart_eq (h : q.Clean) (owner : String) :
    Clause.orderPart owner q.sortKey = match q.sortKey with | none => "" | some key => Clause.orderText owner key := by
  unfold Clause.orderPart
  cases hk : q.sortKey with
  | none => rfl
  | some key => simp [(h.sortKey key hk).not_blank]

end Query.Clean

/-! ## Characters -/

theorem Clause.detached_directionText (direction : Direction) : Detached (directionText direction) := by
  cases direction with
  | ascending => exact detached_empty
  | descending => exact detached_of_head (by decide)

/-- The characters of operands. -/
def isOperandChar (c : Char) : Bool :=
  isWord c || c == '@' || c == '-'

theorem isOperandChar_of_isWord {c : Char} (h : isWord c = true) : isOperandChar c = true := by
  simp [isOperandChar, h]

theorem Numeral.isOperandChar_signed (n : Int) : ∀ c ∈ (signed n).toList, isOperandChar c = true := by
  intro c hc
  rw [toList_signed] at hc
  rcases List.mem_append.1 hc with hc | hc
  · by_cases hn : n < 0
    · rw [if_pos hn] at hc
      rw [List.mem_singleton.1 hc]
      rfl
    · rw [if_neg hn] at hc
      cases hc
  · exact isOperandChar_of_isWord (isWord_of_isDigit (Numeral.isDigit_of_mem_digits hc))

theorem Operand.Plain.isOperandChar_written {operand : Operand} (h : operand.Plain) {column : String}
    (hc : IsName column) : ∀ c ∈ (operand.written column).toList, isOperandChar c = true := by
  intro c hmem
  cases h with
  | placeholder =>
    rw [written, String.toList_append] at hmem
    rcases List.mem_append.1 hmem with hmem | hmem
    · rw [List.mem_singleton.1 hmem]; rfl
    · exact isOperandChar_of_isWord (hc.chars c hmem)
  | null =>
    have hnull : ("NULL".toList.all isOperandChar) = true := by decide
    exact List.all_eq_true.1 hnull c hmem
  | bool b =>
    have hbool : ∀ b : Bool, ((Literal.bool b).text.toList.all isOperandChar) = true := by decide
    exact List.all_eq_true.1 (hbool b) c hmem
  | signed n => exact Numeral.isOperandChar_signed _ c hmem

theorem not_mem_qualified {d : Char} {owner column : String} (howner : d ∉ owner.toList) (hpoint : d ∉ ".".toList)
    (hcolumn : d ∉ column.toList) : d ∉ (qualified owner column).toList :=
  not_mem_append (not_mem_append howner hpoint) hcolumn

/-! ## Operands tell themselves apart -/

/-- No other operand begins with a sign or a digit, as a numeral does. -/
theorem Numeral.signed_ne {n : Int} {c : Char} (hc : c ≠ '-' ∧ c.isDigit = false) {s : String}
    (hs : s.toList.head? = some c) : signed n ≠ s := by
  intro h
  rw [← h] at hs
  rcases head_signed hs with hminus | hdigit
  · exact hc.1 hminus
  · exact absurd (hc.2.symm.trans hdigit) (by decide)

theorem Literal.text_bool_injective {b b' : Bool} (h : (bool b).text = (bool b').text) : b = b' := by
  revert b b'
  decide

theorem Operand.Plain.written_inj {operand operand' : Operand} (h : operand.Plain) (h' : operand'.Plain)
    {column : String} (heq : operand.written column = operand'.written column) : operand = operand' := by
  have hplaceholder : ("@" ++ column).toList.head? = some '@' := by simp
  have hnull : Literal.null.text.toList.head? = some 'N' := by decide
  have hbool : ∀ b, (Literal.bool b).text.toList.head? = some (if b then 'T' else 'F') := by decide
  have hletter : ∀ b : Bool, (if b then 'T' else 'F') ≠ '@' ∧ (if b then 'T' else 'F') ≠ 'N' ∧
      (if b then 'T' else 'F') ≠ '-' ∧ (if b then 'T' else 'F').isDigit = false := by decide
  have hhead : (operand.written column).toList.head? = (operand'.written column).toList.head? := by rw [heq]
  -- The first character tells the kinds apart, so only operands of one kind are left to compare.
  cases h with
  | placeholder =>
    cases h' with
    | placeholder => rfl
    | null => exact absurd (hplaceholder.symm.trans (hhead.trans hnull)) (by decide)
    | bool b => exact absurd (Option.some.inj (hplaceholder.symm.trans (hhead.trans (hbool b)))).symm (hletter b).1
    | signed n => exact absurd heq.symm (Numeral.signed_ne (by decide) hplaceholder)
  | null =>
    cases h' with
    | placeholder => exact absurd (hnull.symm.trans (hhead.trans hplaceholder)) (by decide)
    | null => rfl
    | bool b => exact absurd (Option.some.inj (hnull.symm.trans (hhead.trans (hbool b)))).symm (hletter b).2.1
    | signed n => exact absurd heq.symm (Numeral.signed_ne (by decide) hnull)
  | bool b =>
    cases h' with
    | placeholder => exact absurd (Option.some.inj ((hbool b).symm.trans (hhead.trans hplaceholder))) (hletter b).1
    | null => exact absurd (Option.some.inj ((hbool b).symm.trans (hhead.trans hnull))) (hletter b).2.1
    | bool b' => rw [Literal.text_bool_injective heq]
    | signed n => exact absurd heq.symm (Numeral.signed_ne (hletter b).2.2 (hbool b))
  | signed n =>
    cases h' with
    | placeholder => exact absurd heq (Numeral.signed_ne (by decide) hplaceholder)
    | null => exact absurd heq (Numeral.signed_ne (by decide) hnull)
    | bool b => exact absurd heq (Numeral.signed_ne (hletter b).2.2 (hbool b))
    | signed n' => rw [Int64.toInt_inj.1 (Numeral.signed_injective heq)]

/-! ## Selected items -/

/-- A column, or `*`, behind the alias of its table. -/
structure Item where
  owner : String
  column : String

def Item.text (item : Item) : String :=
  qualified item.owner item.column

/-- What a clean projection other than the number of rows selects, with what stands between two items. -/
structure Selects (owner : String) (joins : List Join) (projection : Projection) (first : Item) (others : List Item)
    (separator : String) : Prop where
  text : Clause.selectText owner joins projection =
    "SELECT " ++ first.text ++ String.join (others.map (separator ++ ·.text))
  separator : separator = "," ∨ separator = ", "
  owners : ∀ item ∈ first :: others, item.owner ∈ owner :: Join.aliases joins
  columns : ∀ item ∈ first :: others, item.column = "*" ∨ IsName item.column

theorem selects_all (owner : String) (joins : List Join) :
    Selects owner joins .all ⟨owner, "*"⟩ ((Join.aliases joins).map (⟨·, "*"⟩)) ", " where
  text := by
    rw [Clause.selectText, Clause.allColumns_eq, List.map_map]
    rfl
  separator := Or.inr rfl
  owners := by
    intro item hitem
    rcases List.mem_cons.1 hitem with rfl | hitem
    · exact List.mem_cons_self
    · obtain ⟨name, hname, rfl⟩ := List.mem_map.1 hitem
      exact List.mem_cons_of_mem _ hname
  columns := by
    intro item hitem
    rcases List.mem_cons.1 hitem with rfl | hitem
    · exact Or.inl rfl
    · obtain ⟨name, -, rfl⟩ := List.mem_map.1 hitem
      exact Or.inl rfl

theorem selects_specific (owner : String) (joins : List Join) {column : String} {columns : List String}
    (names : ∀ c ∈ column :: columns, IsName c) :
    Selects owner joins (.specific (column :: columns)) ⟨owner, column⟩ (columns.map (⟨owner, ·⟩)) "," where
  text := by
    rw [Clause.selectText, Clause.sourceColumns_cons, List.map_map]
    rfl
  separator := Or.inl rfl
  owners := by
    intro item hitem
    rcases List.mem_cons.1 hitem with rfl | hitem
    · exact List.mem_cons_self
    · obtain ⟨name, -, rfl⟩ := List.mem_map.1 hitem
      exact List.mem_cons_self
  columns := by
    intro item hitem
    rcases List.mem_cons.1 hitem with rfl | hitem
    · exact Or.inr (names column List.mem_cons_self)
    · obtain ⟨name, hname, rfl⟩ := List.mem_map.1 hitem
      exact Or.inr (names name (List.mem_cons_of_mem _ hname))

theorem Selects.not_mem_column {owner : String} {joins : List Join} {projection : Projection} {first : Item}
    {others : List Item} {separator : String} (h : Selects owner joins projection first others separator) {item : Item}
    (hi : item ∈ first :: others) {d : Char} (hd : isWord d = false) (hstar : d ≠ '*') : d ∉ item.column.toList := by
  rcases h.columns item hi with hcolumn | hcolumn
  · rw [hcolumn]
    exact fun hmem => hstar (List.mem_singleton.1 hmem)
  · exact not_mem_of_isWord hcolumn.chars hd

theorem Projection.Clean.count_or_selects {projection : Projection} (h : projection.Clean)
    (hs : projection ≠ .specific []) (owner : String) (joins : List Join) :
    projection = .count ∨ ∃ first others separator, Selects owner joins projection first others separator := by
  cases h with
  | all => exact Or.inr ⟨_, _, _, selects_all owner joins⟩
  | count => exact Or.inl rfl
  | @specific columns names =>
    cases columns with
    | nil => exact absurd rfl hs
    | cons column columns => exact Or.inr ⟨_, _, _, selects_specific owner joins names⟩

namespace Query.Clean
variable {q : Query}

theorem isAlias (h : q.Clean) {name : String} (hn : name ∈ Alias.ofTable q.table :: Join.aliases q.joins) :
    IsAlias name := by
  rcases List.mem_cons.1 hn with rfl | hn
  · exact h.table.isAlias_ofTable
  · obtain ⟨⟨join, index⟩, hmem, rfl⟩ := List.mem_map.1 hn
    exact (h.joins join (Join.mem_of_mem_numbered hmem)).table.isAlias_ofJoin index

/-- What is selected holds no brackets, so the first one in a statement belongs to the first table. -/
theorem not_mem_selectText (h : q.Clean) (hs : q.projection ≠ .specific []) {d : Char} (hd : d = '[' ∨ d = ']') :
    d ∉ (Clause.selectText (Alias.ofTable q.table) q.joins q.projection).toList := by
  have hword : isWord d = false := by
    rcases hd with rfl | rfl <;> decide
  have hstar : d ≠ '*' := by
    rcases hd with rfl | rfl <;> decide
  have hliterals : d ∉ "SELECT COUNT(*)".toList ∧ d ∉ "SELECT ".toList ∧ d ∉ ".".toList ∧ d ∉ ",".toList ∧
      d ∉ ", ".toList := by
    rcases hd with rfl | rfl <;> decide
  obtain ⟨hcountLiteral, hselect, hpoint, hcomma, hblank⟩ := hliterals
  rcases h.projection.count_or_selects hs (Alias.ofTable q.table) q.joins with hcount | ⟨first, others, separator, hsel⟩
  · rw [hcount]
    exact hcountLiteral
  · have hitem : ∀ item ∈ first :: others, d ∉ item.text.toList := by
      intro item hi
      have howner := not_mem_of_isWord (h.isAlias (hsel.owners item hi)).chars hword
      exact not_mem_qualified howner hpoint (hsel.not_mem_column hi hword hstar)
    have hseparator : d ∉ separator.toList := by
      rcases hsel.separator with rfl | rfl
      · exact hcomma
      · exact hblank
    have hrow : ∀ s ∈ others.map (separator ++ ·.text), d ∉ s.toList := by
      intro s hmem
      obtain ⟨item, hi, rfl⟩ := List.mem_map.1 hmem
      exact not_mem_append hseparator (hitem item (List.mem_cons_of_mem _ hi))
    rw [hsel.text]
    exact not_mem_append (not_mem_append hselect (hitem first List.mem_cons_self)) (not_mem_join hrow)

end Query.Clean

end SqlSelect
