import SqlSelect.Number.Decimal
import SqlSelect.Text

/-!
# Aliases and joins

An alias is the short name by which a statement refers to a table: the lower case of the first
character, and for a joined table the number of its join behind it.

A `Join` ties a further table to the source table of a statement: its row goes with a source row
when the source's `localKey` equals its `foreignKey`. A statement holds all inner joins before all
left joins, each kind in the order of registration (`Join.inRenderOrder`). The joins are numbered
through from 0 in that order (`Join.numbered`), so a table joined twice has two aliases.
-/

namespace SqlSelect

namespace Alias

/-- Nothing for a blank name. Of any other the first character counts, even if it is white space. -/
def ofTable (table : String) : String :=
  match table.toList with
  | [] => ""
  | first :: _ => if isBlank table then "" else String.ofList (lowerCase first)

def ofJoin (table : String) (index : Nat) : String :=
  ofTable table ++ String.ofList (Numeral.digits index)

theorem ofTable_of_isBlank {table : String} (h : isBlank table = true) : ofTable table = "" := by
  unfold ofTable
  split
  · rfl
  · rw [if_pos h]

theorem ofTable_ne_empty {table : String} (h : isBlank table = false) : ofTable table ≠ "" := by
  unfold ofTable
  split
  · next hl => exact absurd (String.toList_inj.1 hl) (ne_empty_of_not_isBlank h)
  · next first _ _ => simpa [h] using lowerCase_ne_nil first

theorem ofJoin_ne_empty (table : String) (index : Nat) : ofJoin table index ≠ "" := by
  simp [ofJoin, Numeral.digits_ne_nil]

end Alias

/-! ## Joins -/

inductive JoinKind where
  | inner
  | left
  deriving DecidableEq, Repr

def JoinKind.keyword : JoinKind → String
  | inner => "INNER JOIN"
  | left => "LEFT JOIN"

structure Join where
  kind : JoinKind
  table : String
  localKey : String
  foreignKey : String
  deriving DecidableEq, Repr

namespace Join

def ofKind (kind : JoinKind) (joins : List Join) : List Join :=
  joins.filter (·.kind = kind)

def inRenderOrder (joins : List Join) : List Join :=
  ofKind .inner joins ++ ofKind .left joins

def numbered (joins : List Join) : List (Join × Nat) :=
  (inRenderOrder joins).zipIdx

def aliases (joins : List Join) : List String :=
  (numbered joins).map fun (join, index) => Alias.ofJoin join.table index

theorem ofKind_append (kind : JoinKind) (joins more : List Join) :
    ofKind kind (joins ++ more) = ofKind kind joins ++ ofKind kind more :=
  List.filter_append ..

theorem kind_of_mem_ofKind {kind : JoinKind} {join : Join} {joins : List Join}
    (h : join ∈ ofKind kind joins) : join.kind = kind := by
  simpa using (List.mem_filter.1 h).2

theorem mem_inRenderOrder {join : Join} {joins : List Join} :
    join ∈ inRenderOrder joins ↔ join ∈ joins := by
  cases hk : join.kind <;> simp [inRenderOrder, ofKind, hk]

/-- The two kinds keep apart in render order. -/
theorem ofKind_inRenderOrder (kind : JoinKind) (joins : List Join) :
    ofKind kind (inRenderOrder joins) = ofKind kind joins := by
  have hsame : ofKind kind (ofKind kind joins) = ofKind kind joins :=
    List.filter_eq_self.2 fun join hj => decide_eq_true (kind_of_mem_ofKind hj)
  have hother : ∀ other, other ≠ kind → ofKind kind (ofKind other joins) = [] := by
    intro other hne
    refine List.filter_eq_nil_iff.2 fun join hj hk => ?_
    rw [kind_of_mem_ofKind hj] at hk
    exact hne (of_decide_eq_true hk)
  rw [inRenderOrder, ofKind_append]
  cases kind with
  | inner => rw [hsame, hother .left (by decide), List.append_nil]
  | left => rw [hsame, hother .inner (by decide), List.nil_append]

theorem inRenderOrder_eq_iff {joins joins' : List Join} :
    inRenderOrder joins = inRenderOrder joins' ↔
      ofKind .inner joins = ofKind .inner joins' ∧ ofKind .left joins = ofKind .left joins' := by
  constructor
  · intro h
    constructor
    · rw [← ofKind_inRenderOrder, h, ofKind_inRenderOrder]
    · rw [← ofKind_inRenderOrder, h, ofKind_inRenderOrder]
  · rintro ⟨hinner, hleft⟩
    rw [inRenderOrder, inRenderOrder, hinner, hleft]

theorem map_fst_numbered (joins : List Join) : (numbered joins).map Prod.fst = inRenderOrder joins :=
  List.zipIdx_map_fst ..

theorem getElem?_numbered (joins : List Join) (i : Nat) :
    (numbered joins)[i]? = (inRenderOrder joins)[i]?.map (·, i) := by
  rw [numbered, List.getElem?_zipIdx, Nat.zero_add]

theorem mem_of_mem_numbered {entry : Join × Nat} {joins : List Join} (h : entry ∈ numbered joins) :
    entry.1 ∈ joins := by
  have hfst : entry.1 ∈ (numbered joins).map Prod.fst := List.mem_map_of_mem h
  rwa [map_fst_numbered, mem_inRenderOrder] at hfst

theorem length_numbered (joins : List Join) :
    (numbered joins).length = (inRenderOrder joins).length :=
  List.length_zipIdx

end Join

end SqlSelect
