import SqlSelect.Proofs.Clean

/-!
# A statement can be read back

The clauses of a statement stand one behind the other with nothing between them but their own first words, and yet of
two clean queries with the same statement everything that statements show is the same. The proof reads a statement
from left to right. A piece ends where its class of characters does (`append_inj_of_stops`), and what comes next is
told by the letter behind the blank: `mark` is `I` or `L` in front of a join, `W` in front of the filters, `A` in front
of a further filter and `O` in front of the sort key.
-/

namespace SqlSelect

/-- The second character of a text. -/
def mark (r : String) : Option Char :=
  r.toList[1]?

section Pieces
variable {owner : String} {r r' : String}

theorem qualified_append_inj {column column' : String} (hc : IsName column) (hc' : IsName column')
    (hr : Stops isWord r) (hr' : Stops isWord r')
    (h : qualified owner column ++ r = qualified owner column' ++ r') : column = column' ∧ r = r' := by
  simp only [qualified, String.append_assoc, String.append_right_inj] at h
  exact append_inj_of_stops hc.chars hc'.chars hr hr' h

theorem IsName.ne_of_mem {name : String} (h : IsName name) {d : Char} (hd : isWord d = false) :
    ∀ c ∈ name.toList, (c != d) = true := by
  intro c hc
  rw [bne_iff_ne]
  exact ne_of_isWord (h.chars c hc) hd

/-- Two rows of pieces, numbered from `start`, in front of texts that do not begin with one more piece. `E` is what has
to stand behind a piece for it to be read off. -/
theorem join_append_inj {α : Type} {piece : α → Nat → String} {E : String → Prop} {xs xs' : List α}
    (hpiece : ∀ x ∈ xs, ∀ x' ∈ xs', ∀ i t t', E t → E t' → piece x i ++ t = piece x' i ++ t' → x = x' ∧ t = t')
    (hE : ∀ x i t, E (piece x i ++ t)) (hr : E r) (hr' : E r') (hend : ∀ x i t, piece x i ++ t ≠ r)
    (hend' : ∀ x i t, piece x i ++ t ≠ r') (start : Nat)
    (h : String.join ((xs.zipIdx start).map fun entry => piece entry.1 entry.2) ++ r =
      String.join ((xs'.zipIdx start).map fun entry => piece entry.1 entry.2) ++ r') : xs = xs' ∧ r = r' := by
  have hrow : ∀ (ys : List α) (first : Nat) (t : String), E t →
      E (String.join ((ys.zipIdx first).map fun entry => piece entry.1 entry.2) ++ t) := by
    intro ys first t ht
    cases ys with
    | nil => simpa using ht
    | cons y ys =>
      rw [List.zipIdx_cons, List.map_cons, String.join_cons, String.append_assoc]
      exact hE _ _ _
  induction xs generalizing xs' start with
  | nil =>
    cases xs' with
    | nil => exact ⟨rfl, by simpa using h⟩
    | cons x' xs' =>
      rw [List.zipIdx_nil, List.map_nil, String.join_nil, String.empty_append, List.zipIdx_cons, List.map_cons,
        String.join_cons, String.append_assoc] at h
      exact absurd h.symm (hend _ _ _)
  | cons x xs ih =>
    cases xs' with
    | nil =>
      rw [List.zipIdx_nil, List.map_nil, String.join_nil, String.empty_append, List.zipIdx_cons, List.map_cons,
        String.join_cons, String.append_assoc] at h
      exact absurd h (hend' _ _ _)
    | cons x' xs' =>
      rw [List.zipIdx_cons, List.zipIdx_cons, List.map_cons, List.map_cons, String.join_cons, String.join_cons,
        String.append_assoc, String.append_assoc] at h
      obtain ⟨rfl, htail⟩ := hpiece x List.mem_cons_self x' List.mem_cons_self start _ _ (hrow xs _ r hr)
        (hrow xs' _ r' hr') h
      have hpiece' : ∀ y ∈ xs, ∀ y' ∈ xs', ∀ i t t', E t → E t' → piece y i ++ t = piece y' i ++ t' → y = y' ∧ t = t' :=
        fun y hy y' hy' => hpiece y (List.mem_cons_of_mem _ hy) y' (List.mem_cons_of_mem _ hy')
      obtain ⟨rfl, hrest⟩ := ih hpiece' (start + 1) htail
      exact ⟨rfl, hrest⟩

/-- The same for a row without numbers. -/
theorem join_map_append_inj {α : Type} {piece : α → String} {E : String → Prop} {xs xs' : List α}
    (hpiece : ∀ x ∈ xs, ∀ x' ∈ xs', ∀ t t', E t → E t' → piece x ++ t = piece x' ++ t' → x = x' ∧ t = t')
    (hE : ∀ x t, E (piece x ++ t)) (hr : E r) (hr' : E r') (hend : ∀ x t, piece x ++ t ≠ r)
    (hend' : ∀ x t, piece x ++ t ≠ r')
    (h : String.join (xs.map piece) ++ r = String.join (xs'.map piece) ++ r') : xs = xs' ∧ r = r' := by
  have hzip : ∀ ys : List α, ys.map piece = (ys.zipIdx 0).map fun entry => piece entry.1 := by
    intro ys
    calc ys.map piece = ((ys.zipIdx 0).map Prod.fst).map piece := by rw [List.zipIdx_map_fst]
      _ = (ys.zipIdx 0).map fun entry => piece entry.1 := by rw [List.map_map]; rfl
  rw [hzip, hzip] at h
  exact join_append_inj (fun x hx x' hx' _ => hpiece x hx x' hx') (fun x _ => hE x) hr hr' (fun x _ => hend x)
    (fun x _ => hend' x) 0 h

/-! ## Joins -/

theorem mark_numberedText (join : Join) (index : Nat) :
    mark (Clause.numberedText owner (join, index) ++ r) =
      match join.kind with | .inner => some 'I' | .left => some 'L' := by
  cases hk : join.kind <;> simp [mark, Clause.numberedText, Clause.joinText, hk, JoinKind.keyword]

theorem numberedText_append_inj {join join' : Join} (hj : join.Clean) (hj' : join'.Clean) (index : Nat)
    (hr : Detached r) (hr' : Detached r')
    (h : Clause.numberedText owner (join, index) ++ r = Clause.numberedText owner (join', index) ++ r') :
    join = join' ∧ r = r' := by
  have hkind : join.kind = join'.kind := by
    have hm : mark (Clause.numberedText owner (join, index) ++ r) = _ := mark_numberedText join index
    rw [h, mark_numberedText] at hm
    revert hm
    cases join.kind <;> cases join'.kind <;> simp
  simp only [Clause.numberedText, Clause.joinText, declaration, qualified, hkind, String.append_assoc,
    String.append_right_inj] at h
  obtain ⟨htable, hon⟩ := append_inj_of_stops (hj.table.ne_of_mem isWord_bracket) (hj'.table.ne_of_mem isWord_bracket)
    (stops_append (c := ']') rfl rfl _) (stops_append (c := ']') rfl rfl _) h
  rw [htable] at hon
  simp only [String.append_right_inj] at hon
  obtain ⟨hlocal, heq⟩ := append_inj_of_stops hj.localKey.chars hj'.localKey.chars
    (stops_append (c := ' ') rfl rfl _) (stops_append (c := ' ') rfl rfl _) hon
  simp only [String.append_right_inj] at heq
  obtain ⟨hforeign, hrest⟩ := append_inj_of_stops hj.foreignKey.chars hj'.foreignKey.chars (hr.stops rfl)
    (hr'.stops rfl) heq
  refine ⟨?_, hrest⟩
  cases join
  cases join'
  simp_all

theorem joinsText_append_inj {js js' : List Join} (hjs : ∀ join ∈ js, join.Clean) (hjs' : ∀ join ∈ js', join.Clean)
    (hr : Detached r) (hr' : Detached r') (hm : mark r ≠ some 'I' ∧ mark r ≠ some 'L')
    (hm' : mark r' ≠ some 'I' ∧ mark r' ≠ some 'L')
    (h : Clause.joinsText owner js ++ r = Clause.joinsText owner js' ++ r') :
    Join.inRenderOrder js = Join.inRenderOrder js' ∧ r = r' := by
  have hend : ∀ {s : String}, mark s ≠ some 'I' ∧ mark s ≠ some 'L' → ∀ (join : Join) (index : Nat) (t : String),
      Clause.numberedText owner (join, index) ++ t ≠ s := by
    rintro s ⟨hi, hl⟩ join index t rfl
    rw [mark_numberedText] at hi hl
    cases hk : join.kind <;> simp [hk] at hi hl
  refine join_append_inj (fun join hj join' hj' index t t' ht ht' => ?_) (fun join index t => ?_) hr hr' (hend hm)
    (hend hm') 0 h
  · exact numberedText_append_inj (hjs join (Join.mem_inRenderOrder.1 hj)) (hjs' join' (Join.mem_inRenderOrder.1 hj'))
      index ht ht'
  · simp only [Clause.numberedText, Clause.joinText, String.append_assoc]
    exact detached_append (by decide) _

/-! ## Filters -/

theorem comparison_append_inj {f f' : Filter} (hf : f.Clean) (hf' : f'.Clean) (hr : Detached r) (hr' : Detached r')
    (h : f.comparison owner ++ r = f'.comparison owner ++ r') : f = f' ∧ r = r' := by
  simp only [Filter.comparison, String.append_assoc] at h
  obtain ⟨hcolumn, hequals⟩ := qualified_append_inj hf.column hf'.column (stops_append (c := ' ') rfl rfl _)
    (stops_append (c := ' ') rfl rfl _) h
  rw [String.append_right_inj, hcolumn] at hequals
  obtain ⟨hwritten, hrest⟩ := append_inj_of_stops (hf.operand.isOperandChar_written hf'.column)
    (hf'.operand.isOperandChar_written hf'.column) (hr.stops rfl) (hr'.stops rfl) hequals
  refine ⟨?_, hrest⟩
  have hoperand := hf.operand.written_inj hf'.operand hwritten
  cases f
  cases f'
  simp_all

theorem conditionsText_append_inj {fs fs' : List Filter} (hfs : ∀ f ∈ fs, f.Clean) (hfs' : ∀ f ∈ fs', f.Clean)
    (hr : Detached r) (hr' : Detached r') (hm : mark r ≠ some 'W' ∧ mark r ≠ some 'A')
    (hm' : mark r' ≠ some 'W' ∧ mark r' ≠ some 'A')
    (h : Clause.conditionsText owner fs ++ r = Clause.conditionsText owner fs' ++ r') : fs = fs' ∧ r = r' := by
  have hwhere : ∀ t : String, mark (" WHERE " ++ t) = some 'W' := by
    intro t
    simp [mark]
  have hand : ∀ {s : String}, mark s ≠ some 'A' → ∀ (f : Filter) (t : String),
      " AND " ++ f.comparison owner ++ t ≠ s := by
    rintro s hs f t rfl
    simp [mark] at hs
  have hdetached : ∀ (f : Filter) (t : String), Detached (" AND " ++ f.comparison owner ++ t) := by
    intro f t
    rw [String.append_assoc]
    exact detached_append (by decide) _
  cases fs with
  | nil =>
    cases fs' with
    | nil => exact ⟨rfl, by simpa [Clause.conditionsText] using h⟩
    | cons f' fs' =>
      simp only [Clause.conditionsText, String.empty_append, String.append_assoc] at h
      rw [h, hwhere] at hm
      exact absurd rfl hm.1
  | cons f fs =>
    cases fs' with
    | nil =>
      simp only [Clause.conditionsText, String.empty_append, String.append_assoc] at h
      rw [← h, hwhere] at hm'
      exact absurd rfl hm'.1
    | cons f' fs' =>
      simp only [Clause.conditionsText, String.append_assoc, String.append_right_inj] at h
      have hrow : ∀ (gs : List Filter) {t : String}, Detached t →
          Detached (String.join (gs.map (" AND " ++ ·.comparison owner)) ++ t) := by
        intro gs t ht
        cases gs with
        | nil => simpa using ht
        | cons g gs =>
          rw [List.map_cons, String.join_cons, String.append_assoc]
          exact hdetached g _
      obtain ⟨rfl, htail⟩ := comparison_append_inj (hfs f List.mem_cons_self) (hfs' f' List.mem_cons_self)
        (hrow fs hr) (hrow fs' hr') h
      have hpiece : ∀ g ∈ fs, ∀ g' ∈ fs', ∀ t t', Detached t → Detached t' →
          " AND " ++ g.comparison owner ++ t = " AND " ++ g'.comparison owner ++ t' → g = g' ∧ t = t' := by
        intro g hg g' hg' t t' ht ht' heq
        rw [String.append_assoc, String.append_assoc, String.append_right_inj] at heq
        have hgClean := hfs g (List.mem_cons_of_mem _ hg)
        have hgClean' := hfs' g' (List.mem_cons_of_mem _ hg')
        exact comparison_append_inj hgClean hgClean' ht ht' heq
      obtain ⟨rfl, hrest⟩ := join_map_append_inj hpiece hdetached hr hr' (hand hm.2) (hand hm'.2) htail
      exact ⟨rfl, hrest⟩

/-! ## Sort key -/

theorem orderText_inj {key key' : SortKey} (hk : IsName key.column) (hk' : IsName key'.column)
    (h : Clause.orderText owner key = Clause.orderText owner key') : key = key' := by
  obtain ⟨column, direction⟩ := key
  obtain ⟨column', direction'⟩ := key'
  rw [Clause.orderText_eq, Clause.orderText_eq, String.append_right_inj] at h
  obtain ⟨rfl, hdirection⟩ := qualified_append_inj hk hk' ((Clause.detached_directionText direction).stops rfl)
    ((Clause.detached_directionText direction').stops rfl) h
  cases direction <;> cases direction' <;> simp [Clause.directionText] at hdirection ⊢

/-! ## Projection -/

theorem sourceColumns_inj {columns columns' : List String} (hc : ∀ c ∈ columns, IsName c) (hne : columns ≠ [])
    (hc' : ∀ c ∈ columns', IsName c) (hne' : columns' ≠ [])
    (h : Clause.sourceColumns "SELECT " owner columns = Clause.sourceColumns "SELECT " owner columns') :
    columns = columns' := by
  obtain ⟨first, others, rfl⟩ := List.exists_cons_of_ne_nil hne
  obtain ⟨first', others', rfl⟩ := List.exists_cons_of_ne_nil hne'
  have hstops : ∀ (column t : String), Stops isWord ("," ++ qualified owner column ++ t) := by
    intro column t
    rw [String.append_assoc]
    exact stops_append (c := ',') rfl rfl _
  have hrow : ∀ cs : List String, Stops isWord (String.join (cs.map ("," ++ qualified owner ·))) := by
    intro cs
    cases cs with
    | nil => exact stops_empty _
    | cons c cs => rw [List.map_cons, String.join_cons]; exact hstops c _
  have hpiece : ∀ c ∈ others, ∀ c' ∈ others', ∀ t t', Stops isWord t → Stops isWord t' →
      "," ++ qualified owner c ++ t = "," ++ qualified owner c' ++ t' → c = c' ∧ t = t' := by
    intro c hmem c' hmem' t t' ht ht' heq
    rw [String.append_assoc, String.append_assoc, String.append_right_inj] at heq
    exact qualified_append_inj (hc c (List.mem_cons_of_mem _ hmem)) (hc' c' (List.mem_cons_of_mem _ hmem')) ht ht' heq
  have hend : ∀ (column t : String), "," ++ qualified owner column ++ t ≠ "" := by
    intro column t hnil
    simp at hnil
  rw [Clause.sourceColumns_cons, Clause.sourceColumns_cons, String.append_assoc, String.append_assoc,
    String.append_right_inj] at h
  obtain ⟨rfl, htail⟩ := qualified_append_inj (hc first List.mem_cons_self) (hc' first' List.mem_cons_self)
    (hrow others) (hrow others') h
  have htail' : String.join (others.map ("," ++ qualified owner ·)) ++ "" =
      String.join (others'.map ("," ++ qualified owner ·)) ++ "" := by rw [htail]
  obtain ⟨rfl, -⟩ := join_map_append_inj hpiece hstops (stops_empty _) (stops_empty _) hend hend htail'
  rfl

/-- Behind the alias, `*` is no column. -/
theorem allColumns_ne_sourceColumns (joins : List Join) {columns : List String} (hc : ∀ c ∈ columns, IsName c)
    (hne : columns ≠ []) :
    Clause.allColumns "SELECT " owner joins ≠ Clause.sourceColumns "SELECT " owner columns := by
  obtain ⟨first, others, rfl⟩ := List.exists_cons_of_ne_nil hne
  intro h
  simp only [Clause.allColumns_eq, Clause.sourceColumns_cons, Clause.star, qualified, String.append_assoc,
    String.append_right_inj] at h
  have hfirst := hc first List.mem_cons_self
  obtain ⟨c, rest, hl⟩ := List.exists_cons_of_ne_nil
    (fun hnil => hfirst.ne_empty (String.toList_eq_nil_iff.1 hnil))
  have hhead : some '*' = some c := by
    simpa [hl] using congrArg (·.toList.head?) h
  have hw := hfirst.chars c (by simp [hl])
  rw [← Option.some.inj hhead] at hw
  exact absurd hw (by decide)

/-- An alias has a point behind it, unlike `COUNT`. -/
theorem qualified_ne_count (ho : ∀ c ∈ owner.toList, isWord c = true) (column r : String) :
    "SELECT " ++ (qualified owner column ++ r) ≠ "SELECT COUNT(*)" := by
  intro h
  have hparen : Stops isWord "(*)" := by
    intro c hc
    cases hc
    decide
  have hsplit : "SELECT " ++ (owner ++ ("." ++ (column ++ r))) = "SELECT " ++ ("COUNT" ++ "(*)") := by
    simp only [qualified, String.append_assoc] at h
    exact h
  have hcount : ∀ c ∈ "COUNT".toList, isWord c = true := List.all_eq_true.1 (by decide)
  obtain ⟨-, hrest⟩ := append_inj_of_stops ho hcount (stops_append (c := '.') rfl rfl _) hparen
    ((String.append_right_inj "SELECT ").1 hsplit)
  simpa using congrArg (·.toList.head?) hrest

theorem selectText_inj {js js' : List Join} {projection projection' : Projection}
    (ho : ∀ c ∈ owner.toList, isWord c = true) (hp : projection.Clean) (hs : projection ≠ .specific [])
    (hp' : projection'.Clean) (hs' : projection' ≠ .specific [])
    (h : Clause.selectText owner js projection = Clause.selectText owner js' projection') :
    projection = projection' := by
  have hall : ∀ ks : List Join, Clause.allColumns "SELECT " owner ks ≠ "SELECT COUNT(*)" := by
    intro ks
    rw [Clause.allColumns_eq, String.append_assoc]
    exact qualified_ne_count ho _ _
  have hspecific : ∀ cs : List String, cs ≠ [] → Clause.sourceColumns "SELECT " owner cs ≠ "SELECT COUNT(*)" := by
    intro cs hne
    obtain ⟨first, others, rfl⟩ := List.exists_cons_of_ne_nil hne
    rw [Clause.sourceColumns_cons, String.append_assoc]
    exact qualified_ne_count ho _ _
  have hne : ∀ cs : List String, Projection.specific cs ≠ .specific [] → cs ≠ [] := fun cs h h' => h (h' ▸ rfl)
  cases hp with
  | all =>
    cases hp' with
    | all => rfl
    | count => exact absurd h (hall js)
    | @specific columns names => exact absurd h (allColumns_ne_sourceColumns js names (hne columns hs'))
  | count =>
    cases hp' with
    | all => exact absurd h.symm (hall js')
    | count => rfl
    | @specific columns names => exact absurd h.symm (hspecific columns (hne columns hs'))
  | @specific columns names =>
    cases hp' with
    | all => exact absurd h.symm (allColumns_ne_sourceColumns js' names (hne columns hs))
    | count => exact absurd h (hspecific columns (hne columns hs))
    | @specific columns' names' =>
      rw [sourceColumns_inj names (hne columns hs) names' (hne columns' hs') h]

end Pieces

/-! ## Statements -/

namespace Query
variable {q q' : Query}

/-- What stands behind the joins. -/
def tailText (q : Query) : String :=
  Clause.conditionsText (Alias.ofTable q.table) q.filters.shown ++ Clause.orderPart (Alias.ofTable q.table) q.sortKey

theorem statement_eq (q : Query) :
    q.statement = Clause.selectText (Alias.ofTable q.table) q.joins q.projection ++ " FROM " ++ ("[" ++ (q.table ++
      ("] " ++ (Alias.ofTable q.table ++ (Clause.joinsText (Alias.ofTable q.table) q.joins ++ q.tailText))))) := by
  simp only [statement, Clause.sourceText, declaration, tailText, String.append_assoc]

/-- The first bracket of a statement opens its source table, and the next one closes it. -/
theorem statement_inj_table (h : q.Clean) (hs : q.projection ≠ .specific []) (h' : q'.Clean)
    (hs' : q'.projection ≠ .specific []) (heq : q.statement = q'.statement) :
    q.table = q'.table ∧
      Clause.selectText (Alias.ofTable q.table) q.joins q.projection =
        Clause.selectText (Alias.ofTable q'.table) q'.joins q'.projection ∧
      Clause.joinsText (Alias.ofTable q.table) q.joins ++ q.tailText =
        Clause.joinsText (Alias.ofTable q'.table) q'.joins ++ q'.tailText := by
  have hopening : ∀ {p : Query}, p.Clean → p.projection ≠ .specific [] →
      ∀ c ∈ (Clause.selectText (Alias.ofTable p.table) p.joins p.projection ++ " FROM ").toList, (c != '[') = true := by
    intro p hp hps c hc
    have hfrom : '[' ∉ " FROM ".toList := by decide
    rw [bne_iff_ne]
    rintro rfl
    rw [String.toList_append, List.mem_append] at hc
    rcases hc with hc | hc
    · exact hp.not_mem_selectText hps (Or.inl rfl) hc
    · exact hfrom hc
  rw [statement_eq, statement_eq] at heq
  obtain ⟨hselect, hbracket⟩ := append_inj_of_stops (hopening h hs) (hopening h' hs')
    (stops_append (c := '[') rfl rfl _) (stops_append (c := '[') rfl rfl _) heq
  rw [String.append_right_inj] at hbracket
  obtain ⟨htable, hrest⟩ := append_inj_of_stops (h.table.ne_of_mem isWord_bracket) (h'.table.ne_of_mem isWord_bracket)
    (stops_append (c := ']') rfl rfl _) (stops_append (c := ']') rfl rfl _) hbracket
  rw [htable, String.append_right_inj, String.append_right_inj] at hrest
  refine ⟨htable, (String.append_left_inj _).1 hselect, ?_⟩
  rw [htable]
  exact hrest

/-- What follows the joins is empty or begins with the filters or with the sort key. -/
theorem Clean.detached_orderPart (h : q.Clean) (owner : String) :
    Detached (Clause.orderPart owner q.sortKey) ∧
      (mark (Clause.orderPart owner q.sortKey) = none ∨ mark (Clause.orderPart owner q.sortKey) = some 'O') := by
  rw [h.orderPart_eq]
  cases q.sortKey with
  | none => exact ⟨detached_empty, Or.inl rfl⟩
  | some key =>
    refine ⟨?_, Or.inr ?_⟩
    · simp only [Clause.orderText_eq]
      exact detached_append (by decide) _
    · simp [Clause.orderText_eq, mark]

theorem Clean.detached_tailText (h : q.Clean) :
    Detached q.tailText ∧ mark q.tailText ≠ some 'I' ∧ mark q.tailText ≠ some 'L' := by
  obtain ⟨hdetached, hmark⟩ := h.detached_orderPart (Alias.ofTable q.table)
  unfold tailText
  cases q.filters.shown with
  | nil =>
    rw [Clause.conditionsText, String.empty_append]
    refine ⟨hdetached, ?_⟩
    rcases hmark with hmark | hmark <;> rw [hmark] <;> decide
  | cons f fs =>
    simp only [Clause.conditionsText, String.append_assoc]
    refine ⟨detached_append (by decide) _, ?_⟩
    simp [mark]

theorem tailText_inj (h : q.Clean) (h' : q'.Clean) (htable : q.table = q'.table) (heq : q.tailText = q'.tailText) :
    q.filters.shown = q'.filters.shown ∧ q.sortKey = q'.sortKey := by
  have hmark : ∀ {p : Query}, p.Clean → ∀ owner, mark (Clause.orderPart owner p.sortKey) ≠ some 'W' ∧
      mark (Clause.orderPart owner p.sortKey) ≠ some 'A' := by
    intro p hp owner
    rcases (hp.detached_orderPart owner).2 with hm | hm <;> rw [hm] <;> decide
  unfold tailText at heq
  rw [htable] at heq
  obtain ⟨hshown, horder⟩ := conditionsText_append_inj (fun f hf => h.clean_of_mem_shown hf)
    (fun f hf => h'.clean_of_mem_shown hf) (h.detached_orderPart _).1 (h'.detached_orderPart _).1 (hmark h _)
    (hmark h' _) heq
  refine ⟨hshown, ?_⟩
  rw [h.orderPart_eq, h'.orderPart_eq] at horder
  cases hk : q.sortKey with
  | none =>
    cases hk' : q'.sortKey with
    | none => rfl
    | some key' =>
      rw [hk, hk'] at horder
      simp [Clause.orderText] at horder
  | some key =>
    cases hk' : q'.sortKey with
    | none =>
      rw [hk, hk'] at horder
      simp [Clause.orderText] at horder
    | some key' =>
      rw [hk, hk'] at horder
      rw [orderText_inj (h.sortKey key hk) (h'.sortKey key' hk') horder]

theorem shown_eq_iff (h : q.Clean) (h' : q'.Clean) :
    q.filters.shown = q'.filters.shown ↔ q.filters.primary = q'.filters.primary ∧
      (q.filters.primary ≠ none → q.filters.secondary = q'.filters.secondary) := by
  rw [h.shown_eq, h'.shown_eq]
  cases q.filters.primary <;> cases q'.filters.primary <;> simp

/-- **Clean queries build, and their statement can be read back.** All that is lost are secondary filters without a
primary one, and how the two kinds of joins were interleaved. -/
theorem build_eq_iff_of_clean (h : q.Clean) (hs : q.projection ≠ .specific []) (h' : q'.Clean)
    (hs' : q'.projection ≠ .specific []) :
    (∃ text, q.build = .ok text) ∧ (∃ text, q'.build = .ok text) ∧
      (q.build = q'.build ↔
        q.table = q'.table ∧ q.projection = q'.projection ∧
        q.joins.filter (·.kind = .inner) = q'.joins.filter (·.kind = .inner) ∧
        q.joins.filter (·.kind = .left) = q'.joins.filter (·.kind = .left) ∧
        q.filters.primary = q'.filters.primary ∧ q.sortKey = q'.sortKey ∧
        (q.filters.primary ≠ none → q.filters.secondary = q'.filters.secondary)) := by
  have hbuild : q.build = .ok q.statement := build_eq_ok_iff.2 ⟨h.fault_eq_none hs, rfl⟩
  have hbuild' : q'.build = .ok q'.statement := build_eq_ok_iff.2 ⟨h'.fault_eq_none hs', rfl⟩
  refine ⟨⟨_, hbuild⟩, ⟨_, hbuild'⟩, ?_⟩
  rw [hbuild, hbuild', Except.ok.injEq]
  constructor
  · intro heq
    obtain ⟨htable, hselect, hrest⟩ := statement_inj_table h hs h' hs' heq
    rw [htable] at hselect hrest
    obtain ⟨hdetached, hmark⟩ := h.detached_tailText
    obtain ⟨hdetached', hmark'⟩ := h'.detached_tailText
    obtain ⟨horder, htail⟩ := joinsText_append_inj h.joins h'.joins hdetached hdetached' hmark hmark' hrest
    obtain ⟨hshown, hkey⟩ := tailText_inj h h' htable htail
    obtain ⟨hinner, hleft⟩ := Join.inRenderOrder_eq_iff.1 horder
    obtain ⟨hprimary, hsecondary⟩ := (shown_eq_iff h h').1 hshown
    have hprojection := selectText_inj (h'.isAlias List.mem_cons_self).chars h.projection hs h'.projection hs' hselect
    exact ⟨htable, hprojection, hinner, hleft, hprimary, hkey, hsecondary⟩
  · rintro ⟨htable, hprojection, hinner, hleft, hprimary, hkey, hsecondary⟩
    have horder := Join.inRenderOrder_eq_iff.2 ⟨hinner, hleft⟩
    have hshown := (shown_eq_iff h h').2 ⟨hprimary, hsecondary⟩
    have hselect : Clause.selectText (Alias.ofTable q'.table) q.joins q'.projection =
        Clause.selectText (Alias.ofTable q'.table) q'.joins q'.projection :=
      Clause.selectText_congr (by rw [Join.aliases, Join.aliases, Join.numbered, Join.numbered, horder]) _
    rw [statement, statement, htable, hprojection, hselect, hshown, hkey]
    simp only [Clause.joinsText, Join.numbered, horder]

/-- A column may be named like a keyword, and a value may look like another. -/
theorem build_eq_iff_of_clean_interleaved :
    let orders : Join := ⟨.left, "Orders", "Id", "CustomerId"⟩
    let where_ : Join := ⟨.inner, "WHERE", "AND", "NULL"⟩
    let q : Query := {
      table := "Customers"
      projection := .specific ["FROM", "_1"]
      joins := [orders, where_]
      filters := ⟨some ⟨"NULL", .literal .null⟩, [⟨"a", .placeholder⟩, ⟨"a", .literal (.signed (-7))⟩]⟩
      sortKey := some ⟨"DESC", .descending⟩ }
    let q' : Query := { q with joins := [where_, orders] }
    let q'' : Query := { q with filters := ⟨q.filters.primary, q.filters.secondary.reverse⟩ }
    (q.Clean ∧ q'.Clean ∧ q''.Clean ∧ q.projection ≠ .specific []) ∧
      q.build = .ok ("SELECT c.FROM,c._1 FROM [Customers] c INNER JOIN [WHERE] w0 ON c.AND = w0.NULL " ++
        "LEFT JOIN [Orders] o1 ON c.Id = o1.CustomerId WHERE c.NULL = NULL AND c.a = @a AND c.a = -7 " ++
        "ORDER BY c.DESC DESC") ∧
      q.build = q'.build ∧ q.build ≠ q''.build := by
  intro orders where_ q q' q''
  have hclean : q.Clean ∧ q'.Clean ∧ q''.Clean ∧ q.projection ≠ .specific [] := by decide
  obtain ⟨h, h', h'', hs⟩ := hclean
  refine ⟨⟨h, h', h'', hs⟩, build_eq_ok_iff.2 ⟨by decide, by decide +kernel⟩, ?_, fun heq => ?_⟩
  · exact (build_eq_iff_of_clean h hs h' hs).2.2.2 ⟨rfl, rfl, rfl, rfl, rfl, rfl, fun _ => rfl⟩
  · have hsecondary := ((build_eq_iff_of_clean h hs h'' hs).2.2.1 heq).2.2.2.2.2.2 nofun
    cases hsecondary

end Query

end SqlSelect
