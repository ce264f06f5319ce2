import SqlSelect.Proofs.Numbering

/-!
# Numbering is a stable partition

Numbering brings the inner joins in front of the left ones and keeps the order of registration otherwise. Of equal
joins the numbered list does not tell which is which, so the order is followed here from the positions at which joins
were registered:

* `Join.earlier`: how many joins of a kind are registered before a position;
* `Join.place`: the number that this gives the join at the position. It is the one that numbering gives
  (`Join.getElem?_numbered_place`), and among joins of one kind it grows with the position (`Join.place_lt_place`).
-/

namespace SqlSelect.Join

variable {joins joins' : List Join} {join join' : Join} {p p' : Nat}

def earlier (kind : JoinKind) (joins : List Join) (p : Nat) : Nat :=
  (ofKind kind (joins.take p)).length

/-- A left join comes behind all inner joins, those registered after it included. -/
def place (kind : JoinKind) (joins : List Join) (p : Nat) : Nat :=
  match kind with
  | .inner => earlier .inner joins p
  | .left => (ofKind .inner joins).length + earlier .left joins p

/-! ## Within one kind -/

theorem earlier_length (kind : JoinKind) (joins : List Join) :
    earlier kind joins joins.length = (ofKind kind joins).length := by
  rw [earlier, List.take_length]

theorem earlier_lt_earlier (h : joins[p]? = some join) (hp : p < p') :
    earlier join.kind joins p < earlier join.kind joins p' := by
  have hnext : earlier join.kind joins (p + 1) = earlier join.kind joins p + 1 := by
    unfold earlier
    rw [List.take_add_one, h, ofKind_append, List.length_append]
    simp [ofKind]
  have hmono : earlier join.kind joins (p + 1) ≤ earlier join.kind joins p' := by
    apply List.IsPrefix.length_le
    apply List.IsPrefix.filter
    exact List.take_prefix_take_left hp
  omega

theorem earlier_lt_length (h : joins[p]? = some join) :
    earlier join.kind joins p < (ofKind join.kind joins).length := by
  obtain ⟨hp, -⟩ := List.getElem?_eq_some_iff.1 h
  rw [← earlier_length]
  exact earlier_lt_earlier h hp

/-- The joins of its kind that are registered before a join are those in front of it. -/
theorem getElem?_ofKind_earlier (h : joins[p]? = some join) :
    (ofKind join.kind joins)[earlier join.kind joins p]? = some join := by
  obtain ⟨hp, hget⟩ := List.getElem?_eq_some_iff.1 h
  have hsplit : joins = joins.take p ++ join :: joins.drop (p + 1) := by
    rw [← hget, ← List.drop_eq_getElem_cons hp, List.take_append_drop]
  have hkind : ofKind join.kind joins =
      ofKind join.kind (joins.take p) ++ join :: ofKind join.kind (joins.drop (p + 1)) := by
    conv_lhs => rw [hsplit, ofKind_append]
    simp [ofKind]
  rw [hkind, earlier, List.getElem?_append_right (Nat.le_refl _), Nat.sub_self, List.getElem?_cons_zero]

/-! ## Across the kinds -/

theorem getElem?_inRenderOrder_place (h : joins[p]? = some join) :
    (inRenderOrder joins)[place join.kind joins p]? = some join := by
  have hlt := earlier_lt_length h
  have hget := getElem?_ofKind_earlier h
  unfold inRenderOrder place
  cases hk : join.kind with
  | inner =>
    rw [hk] at hlt hget
    rw [List.getElem?_append_left hlt, hget]
  | left =>
    rw [hk] at hget
    rw [List.getElem?_append_right (Nat.le_add_right _ _), Nat.add_sub_cancel_left, hget]

theorem getElem?_numbered_place (h : joins[p]? = some join) :
    (numbered joins)[place join.kind joins p]? = some (join, place join.kind joins p) := by
  rw [getElem?_numbered, getElem?_inRenderOrder_place h, Option.map_some]

theorem place_lt_place (h : joins[p]? = some join) (hk : join.kind = join'.kind) (hp : p < p') :
    place join.kind joins p < place join'.kind joins p' := by
  have hlt := earlier_lt_earlier h hp
  rw [← hk]
  unfold place
  cases hkind : join.kind with
  | inner => rwa [hkind] at hlt
  | left =>
    rw [hkind] at hlt
    exact Nat.add_lt_add_left hlt _

theorem lt_of_inner_of_left {i k : Nat} {entry entry' : Join × Nat} (h : (numbered joins)[i]? = some entry)
    (h' : (numbered joins)[k]? = some entry') (hinner : entry.1.kind = .inner) (hleft : entry'.1.kind = .left) :
    i < k := by
  rw [getElem?_numbered, Option.map_eq_some_iff] at h h'
  obtain ⟨join, hjoin, rfl⟩ := h
  obtain ⟨join', hjoin', rfl⟩ := h'
  have hi := kind_eq_of_getElem? hjoin
  have hk := kind_eq_of_getElem? hjoin'
  rw [hinner] at hi
  rw [hleft] at hk
  split_ifs at hi hk
  omega

theorem numbered_eq_iff : numbered joins = numbered joins' ↔
    ofKind .inner joins = ofKind .inner joins' ∧ ofKind .left joins = ofKind .left joins' := by
  rw [← inRenderOrder_eq_iff]
  constructor
  · intro h
    rw [← map_fst_numbered, h, map_fst_numbered]
  · intro h
    rw [numbered, h, ← numbered]

/-- **Numbering is a stable partition without gaps.** What is numbered alike registers the same inner joins and the
same left ones in the same order, and may differ in how the two kinds were registered in turns. -/
theorem numbered_is_stable_partition (joins : List Join) :
    (numbered joins).length = joins.length ∧
    (∀ (i : Nat) (entry : Join × Nat), (numbered joins)[i]? = some entry → entry.2 = i) ∧
    ((numbered joins).map Prod.fst).Perm joins ∧
    (∀ (i k : Nat) (entry entry' : Join × Nat), (numbered joins)[i]? = some entry → (numbered joins)[k]? = some entry' →
      entry.1.kind = .inner → entry'.1.kind = .left → i < k) ∧
    (∀ (p : Nat) (join : Join), joins[p]? = some join →
      (numbered joins)[place join.kind joins p]? = some (join, place join.kind joins p)) ∧
    (∀ (p p' : Nat) (join join' : Join), joins[p]? = some join → joins[p']? = some join' → join.kind = join'.kind →
      p < p' → place join.kind joins p < place join'.kind joins p') ∧
    (aliases joins).length = joins.length ∧
    (∀ i : Nat, (aliases joins)[i]? = (numbered joins)[i]?.map fun entry => Alias.ofJoin entry.1.table i) ∧
    numbered ((numbered joins).map Prod.fst) = numbered joins ∧
    ∀ joins', numbered joins = numbered joins' ↔
      ofKind .inner joins = ofKind .inner joins' ∧ ofKind .left joins = ofKind .left joins' := by
  refine ⟨?_, ?_, ?_, ?_, ?_, ?_, length_aliases joins, ?_, ?_, fun joins' => numbered_eq_iff⟩
  · rw [length_numbered, (perm_inRenderOrder joins).length_eq]
  · intro i entry h
    rw [getElem?_numbered, Option.map_eq_some_iff] at h
    obtain ⟨join, -, rfl⟩ := h
    rfl
  · rw [map_fst_numbered]
    exact perm_inRenderOrder joins
  · intro i k entry entry' h h' hinner hleft
    exact lt_of_inner_of_left h h' hinner hleft
  · intro p join h
    exact getElem?_numbered_place h
  · intro p p' join join' h _ hk hp
    exact place_lt_place h hk hp
  · intro i
    rw [aliases, List.getElem?_map, getElem?_numbered]
    cases (inRenderOrder joins)[i]? <;> rfl
  · rw [map_fst_numbered, numbered_inRenderOrder]

/-- Two joins, each registered twice: by their positions alone the equal ones are told apart. -/
theorem numbered_is_stable_partition_of_twins :
    let orders : Join := ⟨.left, "Orders", "Id", "BuyerId"⟩
    let towns : Join := ⟨.inner, "Towns", "TownId", "Id"⟩
    let joins := [orders, towns, orders, towns]
    joins[0]? = some orders ∧ joins[2]? = some orders ∧ 0 < 2 ∧
      numbered joins = [(towns, 0), (towns, 1), (orders, 2), (orders, 3)] ∧
      (numbered joins)[place .left joins 0]? = some (orders, 2) ∧
      (numbered joins)[place .left joins 2]? = some (orders, 3) ∧
      place .left joins 0 < place .left joins 2 ∧
      numbered joins = numbered [towns, orders, towns, orders] := by
  intro orders towns joins
  have hfirst : joins[0]? = some orders := rfl
  have hsecond : joins[2]? = some orders := rfl
  obtain ⟨-, -, -, -, hplace, hstable, -, -, -, hiff⟩ := numbered_is_stable_partition joins
  refine ⟨hfirst, hsecond, by decide, by decide, hplace 0 orders hfirst, hplace 2 orders hsecond, ?_, ?_⟩
  · exact hstable 0 2 orders orders hfirst hsecond rfl (by decide)
  · exact (hiff _).2 ⟨by decide, by decide⟩

end SqlSelect.Join
