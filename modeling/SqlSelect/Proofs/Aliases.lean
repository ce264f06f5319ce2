import Mathlib.Data.List.Nodup
import SqlSelect.Proofs.Failure

/-!
# Aliases are distinct

An alias has no mark between the letter and the number, and the letter may be a digit, so aliases can only be told
apart from behind the letter: `Alias.serial` cuts the lower case of one character off, be it one character or the two
of `İ`, and leaves nothing of a source table and the number of a join. The numbers of the joins differ, whatever the
tables are. A blank table would break this: it has no letter, and the cut would go into the number.
-/

namespace SqlSelect

namespace Alias

/-- What stands behind the letter of an alias. -/
def serial (name : String) : List Char :=
  match name.toList with
  | [] => []
  | _ :: '\u0307' :: rest => rest
  | _ :: rest => rest

theorem toList_ofTable {table : String} (h : isBlank table = false) :
    ∃ first rest, table.toList = first :: rest ∧ (ofTable table).toList = lowerCase first := by
  cases hl : table.toList with
  | nil => exact absurd (String.toList_inj.1 hl) (ne_empty_of_not_isBlank h)
  | cons first rest =>
    refine ⟨first, rest, rfl, ?_⟩
    simp [ofTable, hl, h]

theorem toList_ofJoin (table : String) (index : Nat) :
    (ofJoin table index).toList = (ofTable table).toList ++ Numeral.digits index := by
  simp [ofJoin]

/-- The cut finds the end of the letter, as no number begins with a combining dot. -/
theorem serial_of_lowerCase {name : String} {c : Char} {digits : List Char} (h : name.toList = lowerCase c ++ digits)
    (hd : ∀ d ∈ digits, d.isDigit = true) : serial name = digits := by
  unfold serial lowerCase at *
  rw [h]
  split_ifs with hc
  · rfl
  · cases digits with
    | nil => rfl
    | cons d digits =>
      have hne : d ≠ '\u0307' := by
        rintro rfl
        exact absurd (hd _ List.mem_cons_self) (by decide)
      simp only [List.cons_append, List.nil_append]
      split
      · next heq => cases heq
      · next heq =>
        simp only [List.cons.injEq] at heq
        exact absurd heq.2.1 hne
      · next heq =>
        simp only [List.cons.injEq] at heq
        exact heq.2.symm

theorem serial_ofTable {table : String} (h : isBlank table = false) : serial (ofTable table) = [] := by
  obtain ⟨first, rest, -, hl⟩ := toList_ofTable h
  exact serial_of_lowerCase (by simpa using hl) (by simp)

theorem serial_ofJoin {table : String} (h : isBlank table = false) (index : Nat) :
    serial (ofJoin table index) = Numeral.digits index := by
  obtain ⟨first, rest, -, hl⟩ := toList_ofTable h
  exact serial_of_lowerCase (by rw [toList_ofJoin, hl]) fun d hd => Numeral.isDigit_of_mem_digits hd

end Alias

namespace Join

theorem aliases_map_serial {joins : List Join} (h : ∀ join ∈ joins, isBlank join.table = false) :
    (aliases joins).map Alias.serial = (List.range' 0 (inRenderOrder joins).length).map Numeral.digits := by
  have hserial : ∀ entry ∈ numbered joins,
      Alias.serial (Alias.ofJoin entry.1.table entry.2) = Numeral.digits entry.2 :=
    fun entry he => Alias.serial_ofJoin (h entry.1 (mem_of_mem_numbered he)) _
  calc (aliases joins).map Alias.serial
      = (numbered joins).map fun entry => Numeral.digits entry.2 := by
        rw [aliases, List.map_map]
        exact List.map_congr_left hserial
    _ = ((numbered joins).map Prod.snd).map Numeral.digits := by rw [List.map_map]; rfl
    _ = (List.range' 0 (inRenderOrder joins).length).map Numeral.digits := by
        rw [numbered, List.zipIdx_map_snd]

theorem aliases_ne_empty {joins : List Join} {name : String} (h : name ∈ aliases joins) : name ≠ "" := by
  obtain ⟨⟨join, index⟩, -, rfl⟩ := List.mem_map.1 h
  exact Alias.ofJoin_ne_empty join.table index

theorem aliases_nodup {table : String} {joins : List Join} (ht : isBlank table = false)
    (hj : ∀ join ∈ joins, isBlank join.table = false) : (Alias.ofTable table :: aliases joins).Nodup := by
  apply List.Nodup.of_map Alias.serial
  rw [List.map_cons, Alias.serial_ofTable ht, aliases_map_serial hj, List.nodup_cons]
  constructor
  · intro hmem
    obtain ⟨index, -, hnil⟩ := List.mem_map.1 hmem
    exact Numeral.digits_ne_nil index hnil
  · exact List.Nodup.map Numeral.digits_injective (List.nodup_range' 1)

end Join

/-- **No two tables of a statement share an alias.** -/
theorem Query.aliases_distinct {q : Query} {text : String} (h : q.build = .ok text) :
    (∀ name ∈ Alias.ofTable q.table :: Join.aliases q.joins, name ≠ "") ∧
      (Alias.ofTable q.table :: Join.aliases q.joins).Nodup := by
  have ht := table_not_blank_of_build h
  refine ⟨fun name hname => ?_, Join.aliases_nodup ht (joins_not_blank_of_build h)⟩
  rcases List.mem_cons.1 hname with rfl | hname
  · exact Alias.ofTable_ne_empty ht
  · exact Join.aliases_ne_empty hname

/-- Eleven joins of a table that begins with `1`, so that the number `10` stands behind a `1` and behind a `İ`. -/
theorem Query.aliases_distinct_behind_digits :
    let q : Query := {
      table := "1"
      joins := ⟨.left, "İzmir", "a", "b"⟩ :: List.replicate 10 ⟨.inner, "1st", "a", "b"⟩ }
    (∃ text, q.build = .ok text) ∧
      Alias.ofTable q.table :: Join.aliases q.joins =
        ["1", "10", "11", "12", "13", "14", "15", "16", "17", "18", "19", "i\u030710"] ∧
      (∀ name ∈ Alias.ofTable q.table :: Join.aliases q.joins, name ≠ "") ∧
      (Alias.ofTable q.table :: Join.aliases q.joins).Nodup := by
  intro q
  have hbuild : q.build = .ok q.statement := build_eq_ok_iff.2 ⟨by decide, rfl⟩
  exact ⟨⟨_, hbuild⟩, by decide, aliases_distinct hbuild⟩

end SqlSelect
