import Mathlib.Data.List.Chain
import SqlSelect.Clause
import SqlSelect.Proofs.Words

/-!
# Qualifiers and declarations in a text

What a text refers to and what it declares is read off its characters alone.

* `QualifierAt text before word after` : behind `before`, a longest run of word characters with a point behind it;
* `declared text` : the words right behind `] `, in order;
* `Refers P text` : all qualifiers of the text have the property `P`;
* `Keyless text` : nothing in the text looks like a keyword of `conditionKeywords`.

The last three go over from two pieces to both of them together, each under a condition on where the pieces meet
(`Refers.append`, `declared_append_of_no_bracket`, `Keyless.append`).
-/

namespace SqlSelect

theorem append_eq_append_iff {a b c d : String} :
    a ++ b = c ++ d ↔ (∃ x, c = a ++ x ∧ b = x ++ d) ∨ ∃ x, a = c ++ x ∧ d = x ++ b := by
  constructor
  · intro h
    have hl : a.toList ++ b.toList = c.toList ++ d.toList := by
      rw [← String.toList_append, h, String.toList_append]
    rcases List.append_eq_append_iff.1 hl with ⟨x, hc, hb⟩ | ⟨x, ha, hd⟩
    · exact Or.inl ⟨String.ofList x, String.toList_inj.1 (by simpa using hc), String.toList_inj.1 (by simpa using hb)⟩
    · exact Or.inr ⟨String.ofList x, String.toList_inj.1 (by simpa using ha), String.toList_inj.1 (by simpa using hd)⟩
  · rintro (⟨x, rfl, rfl⟩ | ⟨x, rfl, rfl⟩)
    · rw [String.append_assoc]
    · rw [String.append_assoc]

/-! ## Qualifiers -/

/-- The text does not end in a word, so a word behind it begins there. -/
def Closed (s : String) : Prop :=
  ∀ c, s.toList.getLast? = some c → isWord c = false

theorem closed_iff {s : String} : Closed s ↔ s.toList.getLast?.all (fun c => !isWord c) = true := by
  unfold Closed
  cases s.toList.getLast? <;> simp

instance (s : String) : Decidable (Closed s) :=
  decidable_of_iff _ closed_iff.symm

structure QualifierAt (text before word after : String) : Prop where
  text_eq : text = before ++ (word ++ ("." ++ after))
  ne_empty : word ≠ ""
  chars : ∀ c ∈ word.toList, isWord c = true
  /-- The run does not begin earlier. -/
  closed : Closed before

/-- What may stand behind a piece without touching its qualifiers. -/
def Apart (s : String) : Prop :=
  Stops (fun c => isWord c || c == '.') s

section Append
variable {a b before word after : String}

theorem apart_append {c : Char} {s : String} (hs : s.toList.head? = some c) (hc : (isWord c || c == '.') = false)
    (r : String) : Apart (s ++ r) :=
  stops_append hs hc r

theorem QualifierAt.append (h : QualifierAt (a ++ b) before word after) (hb : Apart b) :
    (∃ rest, QualifierAt a before word rest ∧ after = rest ++ b) ∨
      ∃ front, QualifierAt b front word after ∧ before = a ++ front := by
  have hhead : ∀ c rest, b.toList = c :: rest → isWord c = false ∧ c ≠ '.' := by
    intro c rest hl
    have hc := hb c (by rw [hl]; rfl)
    simpa using hc
  rcases append_eq_append_iff.1 h.text_eq with ⟨x, hbefore, htail⟩ | ⟨x, ha, htail⟩
  · refine Or.inr ⟨x, ⟨htail, h.ne_empty, h.chars, fun c hc => ?_⟩, hbefore⟩
    apply h.closed
    rw [hbefore, String.toList_append, List.getLast?_append, hc]
    rfl
  · rcases append_eq_append_iff.1 htail with ⟨y, hx, hdot⟩ | ⟨y, hword, hdot⟩
    · -- The run and its point lie in `a`, as `b` does not begin with a point.
      have hl : '.' :: after.toList = y.toList ++ b.toList := by
        rw [← String.toList_append, ← hdot, String.toList_append]
        rfl
      cases hy : y.toList with
      | nil =>
        rw [hy, List.nil_append] at hl
        exact absurd rfl (hhead '.' _ hl.symm).2
      | cons c rest =>
        rw [hy, List.cons_append, List.cons.injEq] at hl
        obtain ⟨rfl, hafter⟩ := hl
        have hysplit : y = "." ++ String.ofList rest := String.toList_inj.1 (by simpa using hy)
        refine Or.inl ⟨String.ofList rest, ⟨?_, h.ne_empty, h.chars, h.closed⟩, ?_⟩
        · rw [ha, hx, hysplit]
        · exact String.toList_inj.1 (by simpa using hafter)
    · -- Otherwise `b` would begin with the rest of the run or with the point.
      exfalso
      have hl : b.toList = y.toList ++ '.' :: after.toList := by
        rw [hdot, String.toList_append, String.toList_append]
        rfl
      cases hy : y.toList with
      | nil =>
        rw [hy, List.nil_append] at hl
        exact (hhead '.' _ hl).2 rfl
      | cons c rest =>
        rw [hy, List.cons_append] at hl
        have hw : isWord c = true := h.chars c (by rw [hword, String.toList_append, hy]; simp)
        exact absurd (hw.symm.trans (hhead c _ hl).1) (by decide)

end Append

/-- Without a point there is no qualifier. -/
theorem QualifierAt.point_mem {text before word after : String} (h : QualifierAt text before word after) :
    '.' ∈ text.toList := by
  rw [h.text_eq]
  simp

/-- A text that begins with a point goes on behind it, unless there is a further point. -/
theorem point_append_cases {x b b' : String} (h : "." ++ b = x ++ ("." ++ b')) :
    x = "" ∧ b = b' ∨ '.' ∈ x.toList ∧ '.' ∈ b.toList := by
  have hl : '.' :: b.toList = x.toList ++ '.' :: b'.toList := by
    simpa using congrArg String.toList h
  cases hx : x.toList with
  | nil =>
    rw [hx, List.nil_append, List.cons.injEq] at hl
    exact Or.inl ⟨String.toList_eq_nil_iff.1 hx, String.toList_inj.1 hl.2⟩
  | cons c rest =>
    rw [hx, List.cons_append, List.cons.injEq] at hl
    refine Or.inr ⟨?_, ?_⟩
    · rw [← hl.1]
      exact List.mem_cons_self
    · rw [hl.2]
      simp

/-- A text with a single point is cut at it in one way only. -/
theorem point_append_inj {a b a' b' : String} (ha' : '.' ∉ a'.toList) (hb' : '.' ∉ b'.toList)
    (h : a ++ ("." ++ b) = a' ++ ("." ++ b')) : a = a' ∧ b = b' := by
  rcases append_eq_append_iff.1 h with ⟨x, ha, hx⟩ | ⟨x, ha, hx⟩
  · rcases point_append_cases hx with ⟨rfl, hb⟩ | ⟨hmem, -⟩
    · exact ⟨by rw [ha, String.append_empty], hb⟩
    · refine absurd ?_ ha'
      rw [ha, String.toList_append]
      exact List.mem_append_right _ hmem
  · rcases point_append_cases hx with ⟨rfl, hb⟩ | ⟨-, hmem⟩
    · exact ⟨by rw [ha, String.append_empty], hb.symm⟩
    · exact absurd hmem hb'

/-- No character of a word ends a text that does not end in a word. -/
theorem eq_empty_of_closed {a x : String} (hclosed : Closed (a ++ x)) (hx : ∀ c ∈ x.toList, isWord c = true) :
    x = "" := by
  rw [← String.toList_eq_nil_iff, ← List.getLast?_eq_none_iff, ← Option.not_isSome_iff_eq_none,
    Option.isSome_iff_exists]
  rintro ⟨c, hc⟩
  have hlast : (a ++ x).toList.getLast? = some c := by
    rw [String.toList_append, List.getLast?_append, hc]
    rfl
  exact absurd ((hclosed c hlast).symm.trans (hx c (List.mem_of_getLast? hc))) (by decide)

/-- In a column, what refers is its owner. -/
theorem QualifierAt.eq_of_qualified {lead owner column before word after : String}
    (h : QualifierAt (lead ++ qualified owner column) before word after) (hlead : '.' ∉ lead.toList)
    (hclosed : Closed lead) (howner : ∀ c ∈ owner.toList, isWord c = true) (hcolumn : '.' ∉ column.toList) :
    before = lead ∧ word = owner := by
  have hpoint : '.' ∉ (lead ++ owner).toList := not_mem_append hlead (not_mem_of_isWord howner isWord_point)
  have htext : (before ++ word) ++ ("." ++ after) = (lead ++ owner) ++ ("." ++ column) := by
    have heq := h.text_eq
    simp only [qualified, String.append_assoc] at heq ⊢
    exact heq.symm
  obtain ⟨hrun, -⟩ := point_append_inj hpoint hcolumn htext
  rcases append_eq_append_iff.1 hrun with ⟨x, hx, hword⟩ | ⟨x, hx, howner'⟩
  · have hnil : x = "" := by
      apply eq_empty_of_closed (a := before)
      · rwa [← hx]
      · intro c hc
        exact h.chars c (by rw [hword, String.toList_append]; exact List.mem_append_left _ hc)
    subst hnil
    exact ⟨by rw [hx, String.append_empty], by rw [hword, String.empty_append]⟩
  · have hnil : x = "" := by
      apply eq_empty_of_closed (a := lead)
      · rw [← hx]
        exact h.closed
      · intro c hc
        exact howner c (by rw [howner', String.toList_append]; exact List.mem_append_left _ hc)
    subst hnil
    exact ⟨by rw [hx, String.append_empty], by rw [howner', String.empty_append]⟩

/-! ## References of a text -/

def Refers (P : String → Prop) (text : String) : Prop :=
  ∀ before word after, QualifierAt text before word after → P word

section Refers
variable {P : String → Prop} {a b : String}

theorem refers_of_no_point (h : '.' ∉ a.toList) : Refers P a :=
  fun _ _ _ hq => absurd hq.point_mem h

theorem refers_qualified {lead owner column : String} (hP : P owner) (hlead : '.' ∉ lead.toList)
    (hclosed : Closed lead) (howner : ∀ c ∈ owner.toList, isWord c = true) (hcolumn : '.' ∉ column.toList) :
    Refers P (lead ++ qualified owner column) := by
  intro before word after hq
  rwa [(hq.eq_of_qualified hlead hclosed howner hcolumn).2]

theorem Refers.append (ha : Refers P a) (hb : Refers P b) (hapart : Apart b) : Refers P (a ++ b) := by
  intro before word after hq
  rcases hq.append hapart with ⟨rest, hq, -⟩ | ⟨front, hq, -⟩
  · exact ha _ _ _ hq
  · exact hb _ _ _ hq

theorem Refers.mono {Q : String → Prop} (h : ∀ word, P word → Q word) (ha : Refers P a) : Refers Q a :=
  fun before word after hq => h word (ha before word after hq)

theorem refers_join {pieces : List String} (h : ∀ s ∈ pieces, Refers P s ∧ Apart s) :
    Refers P (String.join pieces) ∧ Apart (String.join pieces) :=
  join_of_append ⟨refers_of_no_point (by simp), stops_empty _⟩
    (fun ha hb => ⟨ha.1.append hb.1 hb.2, ha.2.append hb.2⟩) h

end Refers

/-! ## Declarations -/

/-- The words right behind `] `. -/
def declaredIn : List Char → List String
  | [] => []
  | ']' :: ' ' :: rest => String.ofList (rest.takeWhile isWord) :: declaredIn rest
  | _ :: rest => declaredIn rest

def declared (text : String) : List String :=
  declaredIn text.toList

section Declared
variable {s r name : String}

@[simp] theorem declared_empty : declared "" = [] := rfl

theorem declaredIn_cons_of_ne {c : Char} (hc : c ≠ ']') (rest : List Char) :
    declaredIn (c :: rest) = declaredIn rest := by
  rw [declaredIn]
  intro more h
  exact absurd h hc

theorem declared_append_of_no_bracket (h : ']' ∉ s.toList) (r : String) : declared (s ++ r) = declared r := by
  have hlist : ∀ l : List Char, ']' ∉ l → declaredIn (l ++ r.toList) = declaredIn r.toList := by
    intro l
    induction l with
    | nil => intro _; rfl
    | cons c rest ih =>
      intro hl
      rw [List.mem_cons, not_or] at hl
      rw [List.cons_append, declaredIn_cons_of_ne (Ne.symm hl.1), ih hl.2]
  rw [declared, declared, String.toList_append]
  exact hlist _ h

theorem declared_of_no_bracket (h : ']' ∉ s.toList) : declared s = [] := by
  rw [← String.append_empty (s := s), declared_append_of_no_bracket h, declared_empty]

/-- A declared word is read off whole, and declares nothing further. -/
theorem declared_bracket_append (hname : ∀ c ∈ name.toList, isWord c = true) (hr : Stops isWord r) :
    declared ("] " ++ (name ++ r)) = name :: declared r := by
  have hbracket : ']' ∉ name.toList := not_mem_of_isWord hname isWord_bracket
  have hcons : ("] " ++ (name ++ r)).toList = ']' :: ' ' :: (name ++ r).toList := String.toList_append ..
  rw [← declared_append_of_no_bracket hbracket r, declared, hcons, declaredIn, takeWhile_append_of_stops hname hr,
    String.ofList_toList]
  rfl

end Declared

/-! ## Keywords of conditions -/

/-- What stands in front of a condition and of the sort key. -/
def conditionKeywords : List String :=
  [" WHERE ", " AND ", " ORDER BY "]

/-- Each of the keywords has one of three letters behind a blank; this text has none there. -/
def Keyless (s : String) : Prop :=
  s.toList.IsChain fun a b => a = ' ' → b ∉ ['W', 'A', 'B']

instance (s : String) : Decidable (Keyless s) :=
  inferInstanceAs (Decidable (s.toList.IsChain fun a b => a = ' ' → b ∉ ['W', 'A', 'B']))

section Keyless
variable {a b s : String}

theorem Keyless.not_mem_conditionKeywords {front rest : String} (h : Keyless (front ++ s ++ rest)) :
    s ∉ conditionKeywords := by
  have hs : Keyless s := by
    refine List.IsChain.infix h ⟨front.toList, rest.toList, ?_⟩
    rw [String.toList_append, String.toList_append]
  have hkeywords : ∀ keyword ∈ conditionKeywords, ¬ Keyless keyword := by decide
  exact fun hmem => hkeywords s hmem hs

theorem keyless_of_no_blank (h : ' ' ∉ s.toList) : Keyless s := by
  refine List.isChain_iff_forall_rel_of_append_cons_cons.2 fun a b front rest hl hblank => ?_
  refine absurd ?_ h
  rw [hl, hblank]
  simp

/-- Either the first piece does not end in a blank, or the second one does not begin with a capital. -/
theorem Keyless.append (ha : Keyless a) (hb : Keyless b)
    (h : a.toList.getLast? ≠ some ' ' ∨ Stops Char.isUpper b) : Keyless (a ++ b) := by
  have hletters : ['W', 'A', 'B'].all Char.isUpper = true := by decide
  rw [Keyless, String.toList_append]
  refine List.IsChain.append ha hb fun c hc d hd hblank hmem => ?_
  rcases h with hlast | hstops
  · rw [hblank] at hc
    exact hlast hc
  · exact absurd ((hstops d hd).symm.trans (List.all_eq_true.1 hletters d hmem)) (by decide)

theorem keyless_join {pieces : List String} (h : ∀ s ∈ pieces, Keyless s ∧ Stops Char.isUpper s) :
    Keyless (String.join pieces) ∧ Stops Char.isUpper (String.join pieces) :=
  join_of_append ⟨keyless_of_no_blank (by simp), stops_empty _⟩
    (fun ha hb => ⟨ha.1.append hb.1 (Or.inr hb.2), ha.2.append hb.2⟩) h

end Keyless

end SqlSelect
