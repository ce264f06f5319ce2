import SqlSelect.Join

/-!
# Words and where they end

A word is a text of ASCII letters, digits and underscores. Pieces of a statement that consist of such characters can
be found again because of what stands behind them:

* `Stops p r` : the text `r` does not begin with a character of the class `p`;
* `takeWhile_append_of_stops` : a text of the class is what the class reads off in front of such an `r`;
* `append_inj_of_stops` : so of two equal texts, each cut where its class ends, the parts are equal;
* `Detached r` : the text `r` begins with a blank, if it begins at all.
-/

namespace SqlSelect

def isWord (c : Char) : Bool :=
  c.isAlphanum || c == '_'

/-- A name of words alone needs no quotes anywhere. -/
structure IsName (name : String) : Prop where
  ne_empty : name ≠ ""
  chars : ∀ c ∈ name.toList, isWord c = true

theorem isName_iff {name : String} : IsName name ↔ name ≠ "" ∧ name.toList.all isWord = true :=
  ⟨fun h => ⟨h.ne_empty, List.all_eq_true.2 h.chars⟩, fun h => ⟨h.1, List.all_eq_true.1 h.2⟩⟩

instance (name : String) : Decidable (IsName name) :=
  decidable_of_iff _ isName_iff.symm

def Stops (p : Char → Bool) (r : String) : Prop :=
  ∀ c, r.toList.head? = some c → p c = false

section Stops
variable {p : Char → Bool} {s s' r r' : String}

theorem stops_empty (p : Char → Bool) : Stops p "" := by
  intro c hc
  simp at hc

theorem stops_of_head {c : Char} (hs : s.toList.head? = some c) (hc : p c = false) : Stops p s := by
  intro d hd
  rw [hs] at hd
  cases hd
  exact hc

theorem stops_append {c : Char} (hs : s.toList.head? = some c) (hc : p c = false) (r : String) : Stops p (s ++ r) := by
  apply stops_of_head ?_ hc
  rw [String.toList_append, List.head?_append, hs]
  rfl

/-- Behind an empty piece, the next one counts. -/
theorem Stops.append (hs : Stops p s) (hr : Stops p r) : Stops p (s ++ r) := by
  intro c hc
  rw [String.toList_append, List.head?_append] at hc
  cases hhead : s.toList.head? with
  | none => exact hr c (by simpa [hhead] using hc)
  | some d => exact hs c (by simpa [hhead] using hc)

theorem takeWhile_append_of_stops (hs : ∀ c ∈ s.toList, p c = true) (hr : Stops p r) :
    (s ++ r).toList.takeWhile p = s.toList := by
  have hnil : r.toList.takeWhile p = [] := by
    cases hl : r.toList with
    | nil => rfl
    | cons c rest => rw [List.takeWhile_cons, hr c (by rw [hl]; rfl)]; rfl
  rw [String.toList_append, List.takeWhile_append_of_pos hs, hnil, List.append_nil]

theorem append_inj_of_stops (hs : ∀ c ∈ s.toList, p c = true) (hs' : ∀ c ∈ s'.toList, p c = true) (hr : Stops p r)
    (hr' : Stops p r') (h : s ++ r = s' ++ r') : s = s' ∧ r = r' := by
  have hl : s = s' := by
    rw [← String.toList_inj, ← takeWhile_append_of_stops hs hr, h, takeWhile_append_of_stops hs' hr']
  subst hl
  exact ⟨rfl, (String.append_right_inj s).1 h⟩

end Stops

/-- The text is empty or begins with a blank, as the clauses behind the first one do. -/
def Detached (r : String) : Prop :=
  ∀ c, r.toList.head? = some c → c = ' '

theorem detached_empty : Detached "" := by
  intro c hc
  simp at hc

theorem detached_of_head {s : String} (hs : s.toList.head? = some ' ') : Detached s := by
  intro c hc
  rw [hs] at hc
  exact (Option.some.inj hc).symm

theorem detached_append {s : String} (hs : s.toList.head? = some ' ') (r : String) : Detached (s ++ r) := by
  apply detached_of_head
  rw [String.toList_append, List.head?_append, hs]
  rfl

theorem Detached.stops {p : Char → Bool} {r : String} (h : Detached r) (hp : p ' ' = false) : Stops p r :=
  fun c hc => h c hc ▸ hp

/-! ## Rows of pieces -/

theorem not_mem_append {d : Char} {a b : String} (ha : d ∉ a.toList) (hb : d ∉ b.toList) : d ∉ (a ++ b).toList := by
  rw [String.toList_append, List.mem_append, not_or]
  exact ⟨ha, hb⟩

/-- What goes over to two pieces from both of them goes over to a row. -/
theorem join_of_append {C : String → Prop} (hempty : C "") (happend : ∀ {a b : String}, C a → C b → C (a ++ b))
    {pieces : List String} (h : ∀ s ∈ pieces, C s) : C (String.join pieces) := by
  induction pieces with
  | nil => exact hempty
  | cons s pieces ih =>
    rw [String.join_cons]
    exact happend (h s List.mem_cons_self) (ih fun t ht => h t (List.mem_cons_of_mem _ ht))

theorem not_mem_join {d : Char} {pieces : List String} (h : ∀ s ∈ pieces, d ∉ s.toList) :
    d ∉ (String.join pieces).toList :=
  join_of_append (C := fun s => d ∉ s.toList) (by simp) not_mem_append h

/-! ## Characters of words -/

theorem isUpper_iff_toNat {c : Char} : c.isUpper = true ↔ 65 ≤ c.toNat ∧ c.toNat ≤ 90 :=
  decide_eq_true_iff

theorem isWord_iff_toNat {c : Char} : isWord c = true ↔
    (65 ≤ c.toNat ∧ c.toNat ≤ 90) ∨ (97 ≤ c.toNat ∧ c.toNat ≤ 122) ∨ (48 ≤ c.toNat ∧ c.toNat ≤ 57) ∨
      c.toNat = 95 := by
  have hlower : c.isLower = true ↔ 97 ≤ c.toNat ∧ c.toNat ≤ 122 := by
    show (decide (97 ≤ c.toNat) && decide (c.toNat ≤ 122)) = true ↔ _
    rw [Bool.and_eq_true, decide_eq_true_eq, decide_eq_true_eq]
  have hdigit : c.isDigit = true ↔ 48 ≤ c.toNat ∧ c.toNat ≤ 57 := by
    show (decide (48 ≤ c.toNat) && decide (c.toNat ≤ 57)) = true ↔ _
    rw [Bool.and_eq_true, decide_eq_true_eq, decide_eq_true_eq]
  have hline : c = '_' ↔ c.toNat = 95 := Char.toNat_inj.symm
  show (((c.isUpper || c.isLower) || c.isDigit) || c == '_') = true ↔ _
  rw [Bool.or_eq_true, Bool.or_eq_true, Bool.or_eq_true, beq_iff_eq, isUpper_iff_toNat, hlower, hdigit, hline,
    or_assoc, or_assoc]

theorem isWord_point : isWord '.' = false := by decide

theorem isWord_blank : isWord ' ' = false := by decide

theorem isWord_bracket : isWord ']' = false := by decide

theorem ne_of_isWord {c d : Char} (hc : isWord c = true) (hd : isWord d = false) : c ≠ d := by
  rintro rfl
  exact absurd (hd.symm.trans hc) (by decide)

theorem not_mem_of_isWord {s : String} (hs : ∀ c ∈ s.toList, isWord c = true) {d : Char} (hd : isWord d = false) :
    d ∉ s.toList :=
  fun hmem => ne_of_isWord (hs d hmem) hd rfl

theorem isWhiteSpace_of_isWord {c : Char} (h : isWord c = true) : isWhiteSpace c = false := by
  have hc := isWord_iff_toNat.1 h
  simp only [isWhiteSpace, whiteSpaceRuns, List.any_cons, List.any_nil, Bool.or_false, Bool.or_eq_false_iff,
    Bool.and_eq_false_iff, decide_eq_false_iff_not]
  omega

theorem isWord_of_isDigit {c : Char} (h : c.isDigit = true) : isWord c = true := by
  simp [isWord, Char.isAlphanum, h]

/-- Among the ASCII characters, only the capitals have another lower case. -/
theorem lowerCase_of_lt {c : Char} (h : c.toNat < 128) :
    lowerCase c = [if 65 ≤ c.toNat ∧ c.toNat ≤ 90 then Char.ofNat (c.toNat + 32) else c] := by
  have hdot : c ≠ '\u0130' := by
    rintro rfl
    exact absurd h (by decide)
  have hruns : caseRuns = ⟨0x41, 0x5A, 1, 32⟩ :: caseRuns.tail := rfl
  have hbeyond : caseRuns.tail.all (fun run => 128 ≤ run.first) = true := by decide
  have htail : caseRuns.tail.find? (·.covers c.toNat) = none := by
    refine List.find?_eq_none.2 fun run hrun hcovers => ?_
    have hfirst : 128 ≤ run.first := by simpa using List.all_eq_true.1 hbeyond run hrun
    simp only [CaseRun.covers, Bool.and_eq_true, decide_eq_true_eq] at hcovers
    omega
  rw [lowerCase, if_neg hdot, simpleLowerCase, hruns, List.find?_cons, htail]
  simp only [CaseRun.covers, Nat.mod_one, beq_self_eq_true, Bool.and_true]
  by_cases hc : 65 ≤ c.toNat ∧ c.toNat ≤ 90
  · rw [if_pos hc, decide_eq_true hc.1, decide_eq_true hc.2]
    rfl
  · rw [if_neg hc, ← Bool.decide_and, decide_eq_false hc]

theorem isUpper_eq_false_iff {c : Char} : c.isUpper = false ↔ ¬ (65 ≤ c.toNat ∧ c.toNat ≤ 90) := by
  rw [← Bool.not_eq_true, isUpper_iff_toNat]

/-- The lower case of a character of a word is one, and no capital. -/
theorem isWord_of_mem_lowerCase {c d : Char} (h : isWord c = true) (hd : d ∈ lowerCase c) :
    isWord d = true ∧ d.isUpper = false := by
  have hc := isWord_iff_toNat.1 h
  rw [lowerCase_of_lt (by omega), List.mem_singleton] at hd
  subst hd
  by_cases hcapital : 65 ≤ c.toNat ∧ c.toNat ≤ 90
  · have hvalid : (c.toNat + 32).isValidChar := Or.inl (by omega)
    have hlower : (Char.ofNat (c.toNat + 32)).toNat = c.toNat + 32 := by
      rw [Char.ofNat, dif_pos hvalid]
      rfl
    rw [if_pos hcapital, isWord_iff_toNat, isUpper_eq_false_iff, hlower]
    omega
  · rw [if_neg hcapital]
    exact ⟨h, isUpper_eq_false_iff.2 hcapital⟩

theorem IsName.not_blank {name : String} (h : IsName name) : isBlank name = false := by
  obtain ⟨c, rest, hl⟩ := List.exists_cons_of_ne_nil (fun hnil => h.ne_empty (String.toList_eq_nil_iff.1 hnil))
  simp [isBlank, hl, isWhiteSpace_of_isWord (h.chars c (by simp [hl]))]

/-- A word that does not begin with a capital. -/
structure IsAlias (name : String) : Prop where
  chars : ∀ c ∈ name.toList, isWord c = true
  uncapitalized : Stops Char.isUpper name

/-- The alias of a name is a single character. -/
theorem IsName.toList_ofTable {table : String} (h : IsName table) :
    ∃ c, isWord c = true ∧ c.isUpper = false ∧ (Alias.ofTable table).toList = [c] := by
  obtain ⟨first, rest, hl⟩ := List.exists_cons_of_ne_nil (fun hnil => h.ne_empty (String.toList_eq_nil_iff.1 hnil))
  have hfirst : isWord first = true := h.chars first (by simp [hl])
  have hlt : first.toNat < 128 := by
    have := isWord_iff_toNat.1 hfirst
    omega
  have halias : (Alias.ofTable table).toList = lowerCase first := by simp [Alias.ofTable, hl, h.not_blank]
  have hlower := lowerCase_of_lt hlt
  rw [hlower] at halias
  obtain ⟨hword, hupper⟩ := isWord_of_mem_lowerCase hfirst (by rw [hlower]; exact List.mem_singleton_self _)
  exact ⟨_, hword, hupper, halias⟩

theorem IsName.isAlias_ofTable {table : String} (h : IsName table) : IsAlias (Alias.ofTable table) := by
  obtain ⟨letter, hword, hupper, hl⟩ := h.toList_ofTable
  constructor
  · intro c hc
    rw [hl, List.mem_singleton] at hc
    rwa [hc]
  · intro c hc
    rw [hl] at hc
    cases hc
    exact hupper

theorem IsName.isAlias_ofJoin {table : String} (h : IsName table) (index : Nat) :
    IsAlias (Alias.ofJoin table index) := by
  obtain ⟨letter, -, hupper, hl⟩ := h.toList_ofTable
  constructor
  · intro c hc
    rw [Alias.ofJoin, String.toList_append, String.toList_ofList] at hc
    rcases List.mem_append.1 hc with hc | hc
    · exact h.isAlias_ofTable.chars c hc
    · exact isWord_of_isDigit (Numeral.isDigit_of_mem_digits hc)
  · exact stops_append (by rw [hl]; rfl) hupper _

end SqlSelect
