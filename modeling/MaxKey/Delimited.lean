import Mathlib.Data.List.Basic

namespace Delimited

variable {α : Type*}

/-- The first field of the second pair takes in the separator and what the second field of the first
pair begins with. -/
def Swallows (sep : List α) (p q : List α × List α) : Prop :=
  ∃ w, q.1 = p.1 ++ (sep ++ w) ∧ p.2 = w ++ (sep ++ q.2)

/-- One of two different readings of a text. -/
def Shifted (sep : List α) (p q : List α × List α) : Prop := Swallows sep p q ∨ Swallows sep q p

variable {c : α} {w xs ys : List α} {p q : List α × List α}

theorem Swallows.fst_ne {sep : List α} (h : Swallows sep p q) (hsep : sep ≠ []) : p.1 ≠ q.1 := by
  obtain ⟨x, hfirst, -⟩ := h
  intro hsame
  have hnil : sep ++ x = [] := by
    apply (List.append_right_inj p.1).mp
    rw [← hfirst, hsame, List.append_nil]
  exact hsep (List.append_eq_nil_iff.mp hnil).1

theorem Shifted.fst_ne {sep : List α} (h : Shifted sep p q) (hsep : sep ≠ []) : p.1 ≠ q.1 := by
  rcases h with h | h
  · exact h.fst_ne hsep
  · exact (h.fst_ne hsep).symm

/-- If the first field of the one text is no longer, the other swallows its separator or they agree. -/
theorem swallows_of_append (hc : c ∉ w) (hfirst : q.1 = p.1 ++ xs)
    (hrest : (c :: w) ++ p.2 = xs ++ ((c :: w) ++ q.2)) : p = q ∨ Swallows (c :: w) p q := by
  cases xs with
  | nil =>
    left
    rw [List.append_nil] at hfirst
    rw [List.nil_append] at hrest
    exact Prod.ext hfirst.symm (List.append_cancel_left hrest)
  | cons d xs =>
    right
    rw [List.cons_append, List.cons_append] at hrest
    obtain ⟨hhead, htail⟩ := List.cons.inj hrest
    rw [← hhead] at hfirst
    rcases List.append_eq_append_iff.mp htail with ⟨x, hx, hp⟩ | ⟨x, hw, hp⟩
    · exact ⟨x, by rw [hfirst, hx, List.cons_append], hp⟩
    · -- a separator cannot begin within another
      cases x with
      | nil =>
        rw [List.append_nil] at hw
        exact ⟨[], by rw [hfirst, hw, List.append_nil], hp.symm⟩
      | cons d x =>
        have hd : c = d := (List.cons.inj hp).1
        rw [hw, hd] at hc
        exact absurd (List.mem_append_right xs List.mem_cons_self) hc

/-- A text of two fields can be read in another way exactly if the separator stands in one of them
too. -/
theorem append_eq_iff (hc : c ∉ w) :
    p.1 ++ ((c :: w) ++ p.2) = q.1 ++ ((c :: w) ++ q.2) ↔ p = q ∨ Shifted (c :: w) p q := by
  constructor
  · intro h
    rcases List.append_eq_append_iff.mp h with ⟨xs, hfirst, hrest⟩ | ⟨xs, hfirst, hrest⟩
    · rcases swallows_of_append hc hfirst hrest with hsame | hshift
      · exact .inl hsame
      · exact .inr (.inl hshift)
    · rcases swallows_of_append hc hfirst hrest with hsame | hshift
      · exact .inl hsame.symm
      · exact .inr (.inr hshift)
  · have hjoins : ∀ p q : List α × List α, Swallows (c :: w) p q →
        p.1 ++ ((c :: w) ++ p.2) = q.1 ++ ((c :: w) ++ q.2) := by
      intro p q ⟨x, hfirst, hrest⟩
      rw [hfirst, hrest]
      simp only [List.append_assoc]
    rintro (rfl | hshift | hshift)
    · rfl
    · exact hjoins p q hshift
    · exact (hjoins q p hshift).symm

theorem not_shifted_of_not_infix {sep : List α} (hp : ¬ sep <:+: p.1) (hq : ¬ sep <:+: q.1) :
    ¬ Shifted sep p q := by
  have hpart : ∀ p q : List α × List α, Swallows sep p q → sep <:+: q.1 := by
    rintro p q ⟨x, hfirst, -⟩
    exact ⟨p.1, x, by rw [hfirst, List.append_assoc]⟩
  rintro (hshift | hshift)
  · exact hq (hpart p q hshift)
  · exact hp (hpart q p hshift)

theorem intercalate_cons (sep part : List α) (parts : List (List α)) :
    sep.intercalate (part :: parts) = part ++ parts.flatMap (sep ++ ·) := by
  induction parts generalizing part with
  | nil => rw [List.intercalate_singleton, List.flatMap_nil, List.append_nil]
  | cons next parts ih =>
    rw [List.intercalate_cons_cons, ih, List.flatMap_cons]
    simp only [List.append_assoc]

section Joined

variable [BEq α] [LawfulBEq α]

theorem splitOn_intercalate {parts : List (List α)} (hparts : parts ≠ []) :
    ([c].intercalate parts).splitOn c = parts.flatMap (List.splitOn c) := by
  induction parts with
  | nil => exact absurd rfl hparts
  | cons part rest ih =>
    cases rest with
    | nil => rw [List.intercalate_singleton, List.flatMap_singleton]
    | cons next rest =>
      rw [List.intercalate_cons_cons, List.append_assoc, List.singleton_append,
        List.splitOn_append_cons_self, ih (List.cons_ne_nil _ _)]
      exact List.flatMap_cons.symm

/-- Joined texts are equal exactly if the parts are made of the same pieces between separators. -/
theorem intercalate_eq_iff {parts parts' : List (List α)} (hparts : parts ≠ []) (hparts' : parts' ≠ []) :
    [c].intercalate parts = [c].intercalate parts' ↔
      parts.flatMap (List.splitOn c) = parts'.flatMap (List.splitOn c) := by
  rw [← splitOn_intercalate hparts, ← splitOn_intercalate hparts']
  constructor
  · exact fun h => congrArg (List.splitOn c) h
  · intro h
    have hjoined := congrArg (List.intercalate [c]) h
    rwa [List.intercalate_splitOn, List.intercalate_splitOn] at hjoined

theorem flatMap_splitOn {parts : List (List α)} (h : ∀ part ∈ parts, c ∉ part) :
    parts.flatMap (List.splitOn c) = parts := by
  induction parts with
  | nil => rfl
  | cons part rest ih =>
    rw [List.flatMap_cons, ih fun x hx => h x (List.mem_cons_of_mem part hx),
      List.splitOn_eq_singleton (h part List.mem_cons_self), List.singleton_append]

omit [LawfulBEq α] in
/-- Splitting takes the last part of the first text together with the first part of the second. -/
theorem splitOn_append {init : List (List α)} {last first : List α} {more : List (List α)} (c : α)
    (hx : xs.splitOn c = init ++ [last]) (hy : ys.splitOn c = first :: more) :
    (xs ++ ys).splitOn c = init ++ (last ++ first) :: more := by
  induction xs generalizing init last with
  | nil =>
    have hsingle : init ++ [last] = [] ++ [[]] := by
      rw [← hx]
      rfl
    obtain ⟨hinit, hlast⟩ := List.append_inj' hsingle rfl
    rw [hinit, List.cons.inj hlast |>.1, List.nil_append, List.nil_append, List.nil_append, hy]
  | cons d xs ih =>
    rw [List.splitOn_cons_eq_if_modifyHead] at hx
    rw [List.cons_append, List.splitOn_cons_eq_if_modifyHead]
    split_ifs at hx ⊢ with hd
    · cases init with
      | nil =>
        -- what is left still has a part
        have hnil : xs.splitOn c = [] := (List.cons.inj (hx.trans (List.nil_append _))).2
        exact absurd hnil (List.splitOn_ne_nil c xs)
      | cons part init =>
        rw [List.cons_append] at hx
        obtain ⟨hpart, hrest⟩ := List.cons.inj hx
        rw [ih hrest, ← hpart, List.cons_append]
    · cases hsplit : xs.splitOn c with
      | nil => exact absurd hsplit (List.splitOn_ne_nil c xs)
      | cons head tail =>
        rw [hsplit] at hx
        have hmod : (d :: head) :: tail = init ++ [last] := hx
        cases init with
        | nil =>
          obtain ⟨hhead, htail⟩ := List.cons.inj hmod
          have hone : xs.splitOn c = [] ++ [head] := by rw [hsplit, htail]; rfl
          rw [ih hone, ← hhead]
          rfl
        | cons part init =>
          rw [List.cons_append] at hmod
          obtain ⟨hhead, htail⟩ := List.cons.inj hmod
          have hrest : xs.splitOn c = (head :: init) ++ [last] := by rw [hsplit, htail]; rfl
          rw [ih hrest, ← hhead]
          rfl

omit [LawfulBEq α] in
/-- A text that begins with another has the same parts, but for what the last one goes on with. -/
theorem splitOn_of_prefix (c : α) (h : xs <+: ys) : ∃ init last rest more,
    xs.splitOn c = init ++ [last] ∧ ys.splitOn c = init ++ (last ++ rest) :: more := by
  obtain ⟨zs, rfl⟩ := h
  have hne := List.splitOn_ne_nil c xs
  cases hz : zs.splitOn c with
  | nil => exact absurd hz (List.splitOn_ne_nil c zs)
  | cons rest more =>
    have hx : xs.splitOn c = (xs.splitOn c).dropLast ++ [(xs.splitOn c).getLast hne] :=
      (List.dropLast_append_getLast hne).symm
    exact ⟨_, _, rest, more, hx, splitOn_append c hx hz⟩

end Joined

end Delimited
