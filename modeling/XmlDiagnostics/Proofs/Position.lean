import XmlDiagnostics.Position

/-! # The order of positions

Positions are in the order of their points, a linear one, lines before columns. A position with counts that words can
name has these counts before it (`point_ofCounts`), and the counts before a position are those of its point, but for
the least word, which counts as the one behind the greatest (`counts?_eq_some_iff`). -/

namespace XmlDiagnostics

namespace Point

theorem le_refl (p : Point) : p ≤ p := .inr ⟨rfl, Int.le_refl _⟩

theorem le_trans {p q r : Point} (h₁ : p ≤ q) (h₂ : q ≤ r) : p ≤ r := by
  rw [le_def] at *
  omega

theorem le_antisymm {p q : Point} (h₁ : p ≤ q) (h₂ : q ≤ p) : p = q := by
  rw [le_def] at h₁ h₂
  obtain ⟨line, column⟩ := p
  obtain ⟨line', column'⟩ := q
  simp only [mk.injEq]
  simp only at h₁ h₂
  omega

theorem le_total (p q : Point) : p ≤ q ∨ q ≤ p := by
  rw [le_def, le_def]
  omega

theorem lt_iff_not_le {p q : Point} : p < q ↔ ¬ q ≤ p := by
  rw [lt_def, le_def]
  omega

theorem ne_of_lt {p q : Point} (h : p < q) : p ≠ q := by
  rintro rfl
  exact lt_iff_not_le.mp h (le_refl p)

end Point

namespace Position

theorem le_refl (p : Position) : p ≤ p := Point.le_refl _

theorem le_trans {p q r : Position} (h₁ : p ≤ q) (h₂ : q ≤ r) : p ≤ r := Point.le_trans h₁ h₂

theorem le_antisymm {p q : Position} (h₁ : p ≤ q) (h₂ : q ≤ p) : p = q := point_inj.mp (Point.le_antisymm h₁ h₂)

theorem le_total (p q : Position) : p ≤ q ∨ q ≤ p := Point.le_total _ _

theorem lt_iff_not_le {p q : Position} : p < q ↔ ¬ q ≤ p := Point.lt_iff_not_le

theorem ne_of_lt {p q : Position} (h : p < q) : p ≠ q := fun hsame => Point.ne_of_lt h (congrArg point hsame)

/-! ### Words -/

theorem toInt_ofInt_of_le_limit {n : Nat} (h : n ≤ limit) : (Int32.ofInt n).toInt = n := by
  rw [limit] at h
  exact Int32.toInt_ofInt_of_le (by omega) (by omega)

theorem point_ofCounts (lines columns : Nat) : (ofCounts lines columns).point =
    ⟨(min (lines + 1) limit : Nat), (min (columns + 1) limit : Nat)⟩ := by
  simp only [point, line, column, ofCounts]
  rw [toInt_ofInt_of_le_limit (Nat.min_le_right ..), toInt_ofInt_of_le_limit (Nat.min_le_right ..)]

/-- Columns before one that a position names can be named too. -/
theorem point_ofCounts_of_le {p : Position} {l k k' : Nat} (h : p.point = ⟨l + 1, k + 1⟩) (hk : k' ≤ k) :
    (ofCounts l k').point = ⟨l + 1, k' + 1⟩ := by
  have hline := p.lineWord.toInt_lt
  have hcolumn := p.columnWord.toInt_lt
  rw [point, Point.mk.injEq, line, column] at h
  rw [point_ofCounts, Point.mk.injEq, limit]
  omega

theorem before?_eq_some_iff {word : Int32} {n : Nat} :
    before? word = some n ↔ n ≤ limit ∧ word = Int32.ofInt (n + 1) := by
  have hlt := (word - 1).toInt_lt
  have hone : Int32.ofInt 1 = 1 := rfl
  simp only [before?]
  rw [Option.ite_none_right_eq_some, Option.some.injEq]
  constructor
  · rintro ⟨hle, rfl⟩
    refine ⟨by rw [limit]; omega, ?_⟩
    rw [Int.toNat_of_nonneg hle, Int32.ofInt_add, Int32.ofInt_toInt, hone, Int32.sub_add_cancel]
  · rintro ⟨hn, rfl⟩
    rw [Int32.ofInt_add, hone, Int32.add_sub_cancel, toInt_ofInt_of_le_limit hn]
    omega

/-- The counts before a position are those of its point, where the least word stands for the number behind the
greatest one. -/
theorem counts?_eq_some_iff {p : Position} {l k : Nat} : p.counts? = some (l, k) ↔
    l ≤ limit ∧ k ≤ limit ∧ p = ⟨Int32.ofInt (l + 1), Int32.ofInt (k + 1)⟩ := by
  have hcounts : (do return (← before? p.lineWord, ← before? p.columnWord)) = some (l, k) ↔
      before? p.lineWord = some l ∧ before? p.columnWord = some k := by
    cases before? p.lineWord <;> cases before? p.columnWord <;> simp
  have hpair : p = ⟨Int32.ofInt (l + 1), Int32.ofInt (k + 1)⟩ ↔
      p.lineWord = Int32.ofInt (l + 1) ∧ p.columnWord = Int32.ofInt (k + 1) := by
    cases p
    rw [mk.injEq]
  rw [counts?, Option.ite_none_right_eq_some, hcounts, before?_eq_some_iff, before?_eq_some_iff, hpair]
  constructor
  · rintro ⟨-, ⟨hl, hline⟩, hk, hcolumn⟩
    exact ⟨hl, hk, hline, hcolumn⟩
  · rintro ⟨hl, hk, hline, hcolumn⟩
    refine ⟨decide_eq_true fun hunknown => ?_, ⟨hl, hline⟩, hk, hcolumn⟩
    -- the line of an unknown position is the word before zero, which is none of the words meant here
    have hbefore : before? p.lineWord = some l := before?_eq_some_iff.mpr ⟨hl, hline⟩
    rw [hunknown] at hbefore
    exact absurd hbefore (by rw [show before? unknown.lineWord = none from rfl]; exact nofun)

theorem counts?_of_point {p : Position} {l k : Nat} (h : p.point = ⟨l + 1, k + 1⟩) : p.counts? = some (l, k) := by
  have hline : p.lineWord.toInt = l + 1 := congrArg Point.line h
  have hcolumn : p.columnWord.toInt = k + 1 := congrArg Point.column h
  have hline' := p.lineWord.toInt_lt
  have hcolumn' := p.columnWord.toInt_lt
  refine counts?_eq_some_iff.mpr ⟨by rw [limit]; omega, by rw [limit]; omega, ?_⟩
  rw [← hline, ← hcolumn, Int32.ofInt_toInt, Int32.ofInt_toInt]

/-- Before the greatest column there is a next one. -/
theorem point_nextColumn {p : Position} (h : p.column < limit) : p.nextColumn.point = ⟨p.line, p.column + 1⟩ := by
  have hge := p.columnWord.le_toInt
  simp only [column, limit] at h
  have hcolumn : (p.columnWord + 1).toInt = p.columnWord.toInt + 1 := by
    have hone : Int32.ofInt 1 = 1 := rfl
    rw [← hone, ← Int32.ofInt_toInt p.columnWord, ← Int32.ofInt_add, Int32.ofInt_toInt]
    exact Int32.toInt_ofInt_of_le (by omega) (by omega)
  rw [point, Point.mk.injEq]
  exact ⟨rfl, hcolumn⟩

end Position

end XmlDiagnostics
