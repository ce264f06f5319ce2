import SqlSelect.Proofs.Aliases

/-!
# Aliases that are white space

A name is not blank if there is any character in it that is not white space, but its alias is taken from its first
character, whichever that is. So a table whose name begins with a space has a space for an alias, and a statement shows
nothing where it stands (`Query.alias_of_leading_space`).

This is the only way to such an alias. Lower case neither makes white space nor changes any: none of the capitals is
white space, and none of their lower cases is (`caseRuns_apart`). So an alias begins as its table's name does
(`Alias.isWhiteSpace_head_ofTable`), and the number of a join stands behind that.
-/

namespace SqlSelect

/-! ## White space and lower case -/

theorem isWhiteSpace_iff {c : Char} :
    isWhiteSpace c = true ↔ ∃ white ∈ whiteSpaceRuns, white.1 ≤ c.toNat ∧ c.toNat ≤ white.2 := by
  simp [isWhiteSpace, List.any_eq_true]

theorem isWhiteSpace_of_toNat_eq_zero {c : Char} (h : c.toNat = 0) : isWhiteSpace c = false := by
  simp [isWhiteSpace, whiteSpaceRuns, h]

/-- Neither the capitals of a run nor their lower cases meet white space. -/
theorem caseRuns_apart : ∀ run ∈ caseRuns, ∀ white ∈ whiteSpaceRuns,
    (run.last < white.1 ∨ white.2 < run.first) ∧
      (run.last + run.shift < white.1 ∨ white.2 < run.first + run.shift) := by
  decide +kernel

theorem simpleLowerCase_of_isWhiteSpace {c : Char} (h : isWhiteSpace c = true) : simpleLowerCase c = c := by
  obtain ⟨white, hwhite, hc⟩ := isWhiteSpace_iff.1 h
  have hnone : caseRuns.find? (·.covers c.toNat) = none := by
    refine List.find?_eq_none.2 fun run hrun hcovers => ?_
    have hapart := (caseRuns_apart run hrun white hwhite).1
    simp only [CaseRun.covers, Bool.and_eq_true, decide_eq_true_eq] at hcovers
    omega
  rw [simpleLowerCase, hnone]

/-- What is not a code point comes out as the first of all. -/
theorem toNat_ofNat_eq_or (n : Nat) : (Char.ofNat n).toNat = n ∨ (Char.ofNat n).toNat = 0 := by
  by_cases h : n.isValidChar
  · have hchar : Char.ofNat n = Char.ofNatAux n h := dif_pos h
    exact Or.inl (congrArg Char.toNat hchar)
  · exact Or.inr (congrArg Char.toNat (dif_neg h))

theorem isWhiteSpace_shifted {run : CaseRun} (hrun : run ∈ caseRuns) {code : Nat} (hcovers : run.covers code = true) :
    isWhiteSpace (Char.ofNat (code + run.shift).toNat) = false := by
  simp only [CaseRun.covers, Bool.and_eq_true, decide_eq_true_eq] at hcovers
  by_cases hzero : (Char.ofNat (code + run.shift).toNat).toNat = 0
  · exact isWhiteSpace_of_toNat_eq_zero hzero
  · have hcode := (toNat_ofNat_eq_or (code + run.shift).toNat).resolve_right hzero
    rw [← Bool.not_eq_true, isWhiteSpace_iff]
    rintro ⟨white, hwhite, hc⟩
    have hapart := (caseRuns_apart run hrun white hwhite).2
    omega

theorem isWhiteSpace_simpleLowerCase (c : Char) : isWhiteSpace (simpleLowerCase c) = isWhiteSpace c := by
  cases h : isWhiteSpace c with
  | true => rw [simpleLowerCase_of_isWhiteSpace h, h]
  | false =>
    unfold simpleLowerCase
    split
    · next run hfind =>
      have hcovers : run.covers c.toNat = true := by simpa using List.find?_some hfind
      exact isWhiteSpace_shifted (List.mem_of_find?_eq_some hfind) hcovers
    · exact h

theorem lowerCase_of_isWhiteSpace {c : Char} (h : isWhiteSpace c = true) : lowerCase c = [c] := by
  have hdot : c ≠ '\u0130' := by
    rintro rfl
    exact absurd h (by decide)
  rw [lowerCase, if_neg hdot, simpleLowerCase_of_isWhiteSpace h]

theorem isWhiteSpace_of_mem_lowerCase {c d : Char} (h : isWhiteSpace c = false) (hd : d ∈ lowerCase c) :
    isWhiteSpace d = false := by
  unfold lowerCase at hd
  split at hd
  · rcases List.mem_pair.1 hd with rfl | rfl <;> decide
  · rw [List.mem_singleton] at hd
    rw [hd, isWhiteSpace_simpleLowerCase, h]

/-! ## Aliases -/

namespace Alias
variable {table : String} {first : Char} {rest : List Char}

theorem toList_ofTable_of_cons (h : isBlank table = false) (hl : table.toList = first :: rest) :
    (ofTable table).toList = lowerCase first := by
  obtain ⟨first', rest', hl', halias⟩ := toList_ofTable h
  obtain ⟨rfl, -⟩ := List.cons.inj (hl.symm.trans hl')
  exact halias

theorem ofTable_of_isWhiteSpace (h : isBlank table = false) (hl : table.toList = first :: rest)
    (hfirst : isWhiteSpace first = true) : ofTable table = String.singleton first := by
  rw [← String.toList_inj, toList_ofTable_of_cons h hl, lowerCase_of_isWhiteSpace hfirst, String.toList_singleton]

theorem isWhiteSpace_of_mem_ofTable (h : isBlank table = false) (hl : table.toList = first :: rest)
    (hfirst : isWhiteSpace first = false) : ∀ c ∈ (ofTable table).toList, isWhiteSpace c = false := by
  rw [toList_ofTable_of_cons h hl]
  exact fun c hc => isWhiteSpace_of_mem_lowerCase hfirst hc

/-- The first character of a name, and of whatever begins with its alias. -/
theorem isWhiteSpace_head_ofTable (h : isBlank table = false) (name : List Char) :
    ∃ first letter, table.toList.head? = some first ∧ ((ofTable table).toList ++ name).head? = some letter ∧
      isWhiteSpace letter = isWhiteSpace first := by
  obtain ⟨first, rest, hl, halias⟩ := toList_ofTable h
  refine ⟨first, ?_⟩
  rw [hl, halias]
  cases hlower : lowerCase first with
  | nil => exact absurd hlower (lowerCase_ne_nil first)
  | cons letter letters =>
    refine ⟨letter, rfl, rfl, ?_⟩
    cases hfirst : isWhiteSpace first with
    | true =>
      rw [lowerCase_of_isWhiteSpace hfirst] at hlower
      rw [← (List.cons.inj hlower).1, hfirst]
    | false => exact isWhiteSpace_of_mem_lowerCase hfirst (hlower ▸ List.mem_cons_self)

end Alias

namespace Query

/-- The tables of a query, each with its alias. -/
def namedTables (q : Query) : List (String × String) :=
  (q.table, Alias.ofTable q.table) ::
    (Join.numbered q.joins).map fun entry => (entry.1.table, Alias.ofJoin entry.1.table entry.2)

/-- A table whose name begins with a space, joined with one whose name begins with an ideographic space. Neither name is
blank, and both aliases begin with white space. -/
theorem alias_of_leading_space :
    let q : Query := { table := " A", joins := [⟨.left, "\u3000B", "Id", "Id"⟩] }
    isBlank " A" = false ∧ isBlank "\u3000B" = false ∧
      q.build = .ok "SELECT  .*, \u30000.* FROM [ A]   LEFT JOIN [\u3000B] \u30000 ON  .Id = \u30000.Id" ∧
      q.namedTables = [(" A", " "), ("\u3000B", "\u30000")] ∧
      isWhiteSpace ' ' = true ∧ isWhiteSpace '\u3000' = true ∧
      ¬ ∀ table, isBlank table = false → ∀ c ∈ (Alias.ofTable table).toList, isWhiteSpace c = false := by
  intro q
  have htable : isBlank " A" = false := by decide
  have hspace : isWhiteSpace ' ' = true := by decide
  have hbuild : q.build = .ok "SELECT  .*, \u30000.* FROM [ A]   LEFT JOIN [\u3000B] \u30000 ON  .Id = \u30000.Id" :=
    build_eq_ok_iff.2 ⟨by decide, by decide +kernel⟩
  refine ⟨htable, by decide, hbuild, by decide, hspace, by decide, fun h => ?_⟩
  have hnot := h " A" htable ' ' (by decide)
  rw [hspace] at hnot
  cases hnot

/-- **An alias is white space exactly if the name of its table begins with white space**: the blank check looks for
anything to see in the name, and the alias takes its first character. -/
theorem aliases_begin_like_tables :
    (∀ table, isBlank table = false → ∃ first rest, table.toList = first :: rest ∧ Alias.ofTable table ≠ "" ∧
      (isWhiteSpace first = true → Alias.ofTable table = String.singleton first) ∧
      (isWhiteSpace first = false → ∀ c ∈ (Alias.ofTable table).toList, isWhiteSpace c = false)) ∧
    ∀ (q : Query) (text : String), q.build = .ok text → ∀ named ∈ q.namedTables, ∃ first letter,
      named.1.toList.head? = some first ∧ named.2.toList.head? = some letter ∧
        isWhiteSpace letter = isWhiteSpace first := by
  refine ⟨fun table ht => ?_, fun q text hbuild named hnamed => ?_⟩
  · obtain ⟨first, rest, hl, -⟩ := Alias.toList_ofTable ht
    exact ⟨first, rest, hl, Alias.ofTable_ne_empty ht, Alias.ofTable_of_isWhiteSpace ht hl,
      Alias.isWhiteSpace_of_mem_ofTable ht hl⟩
  · rcases List.mem_cons.1 hnamed with rfl | hnamed
    · simpa using Alias.isWhiteSpace_head_ofTable (table_not_blank_of_build hbuild) []
    · obtain ⟨entry, hentry, rfl⟩ := List.mem_map.1 hnamed
      have hj := joins_not_blank_of_build hbuild entry.1 (Join.mem_of_mem_numbered hentry)
      rw [Alias.toList_ofJoin]
      exact Alias.isWhiteSpace_head_ofTable hj _

/-- A capital with a dot has two characters for its lower case, and a space behind it does not matter. The joined table
begins with a space. -/
theorem aliases_begin_like_tables_of_two :
    let q : Query := { table := "\u0130 A", joins := [⟨.left, " B", "Id", "Id"⟩] }
    isBlank "\u0130 A" = false ∧ isBlank " B" = false ∧
      q.build = .ok "SELECT i\u0307.*,  0.* FROM [\u0130 A] i\u0307 LEFT JOIN [ B]  0 ON i\u0307.Id =  0.Id" ∧
      (∀ c ∈ (Alias.ofTable "\u0130 A").toList, isWhiteSpace c = false) ∧ Alias.ofTable " B" = String.singleton ' ' ∧
      ∃ first letter, " B".toList.head? = some first ∧ " 0".toList.head? = some letter ∧
        isWhiteSpace letter = isWhiteSpace first := by
  intro q
  have htable : isBlank "\u0130 A" = false := by decide +kernel
  have hjoin : isBlank " B" = false := by decide +kernel
  have hbuild : q.build =
      .ok "SELECT i\u0307.*,  0.* FROM [\u0130 A] i\u0307 LEFT JOIN [ B]  0 ON i\u0307.Id =  0.Id" :=
    build_eq_ok_iff.2 ⟨by decide +kernel, by decide +kernel⟩
  obtain ⟨hof, hnamed⟩ := aliases_begin_like_tables
  refine ⟨htable, hjoin, hbuild, ?_, ?_, hnamed q _ hbuild (" B", " 0") (by decide +kernel)⟩
  · obtain ⟨first, rest, hl, -, -, hseen⟩ := hof "\u0130 A" htable
    obtain rfl : '\u0130' = first := (List.cons.inj hl).1
    exact hseen (by decide)
  · obtain ⟨first, rest, hl, -, hwhite, -⟩ := hof " B" hjoin
    obtain rfl : ' ' = first := (List.cons.inj hl).1
    exact hwhite (by decide)

end Query

end SqlSelect
