import Mathlib.Data.List.Infix
import Mathlib.Data.List.Induction
import Mathlib.Data.Int.Order.Basic
import ScriptHost.Measure.Round

/-!
# When measuring stops without improvement

The loop over the counts of all rounds keeps the best count and starts anew only at a strictly
better one. So it finds the least count and the number of rounds after its first occurrence
(`isPlateau_plateau`), and measuring stops without improvement exactly if each of the last three
counts is at least the least of those before them (`stopReason?_eq_noImprovement_iff`).
-/

namespace ScriptHost.Measure

/-- The least count of a sequence and the number of counts after its first occurrence. -/
def IsPlateau (seq : List Int) (p : Plateau) : Prop :=
  ∃ before after, seq = before ++ p.best :: after ∧ (∀ x ∈ before, p.best < x) ∧
    (∀ x ∈ after, p.best ≤ x) ∧
    after.length = p.since

/-- One more round. -/
lemma IsPlateau.next {seq : List Int} {p : Plateau} (h : IsPlateau seq p) (x : Int) :
    IsPlateau (seq ++ [x]) (p.next x) := by
  obtain ⟨before, after, rfl, hbefore, hafter, hlength⟩ := h
  rw [Plateau.next]
  split
  · next hx =>
    refine ⟨before ++ p.best :: after, [], rfl, fun y hy => ?_, fun y hy =>
      absurd hy List.not_mem_nil, rfl⟩
    rcases List.mem_append.1 hy with hy | hy
    · exact hx.trans (hbefore y hy)
    · rcases List.mem_cons.1 hy with rfl | hy
      · exact hx
      · exact hx.trans_le (hafter y hy)
  · next hx =>
    refine ⟨before, after ++ [x], by simp, hbefore, fun y hy => ?_, by simp [hlength]⟩
    rcases List.mem_append.1 hy with hy | hy
    · exact hafter y hy
    · obtain rfl := List.mem_singleton.1 hy
      exact le_of_not_gt hx

/-- The loop finds the least count and the number of counts after its first occurrence. -/
theorem isPlateau_plateau (first : Int) (later : List Int) :
    IsPlateau (first :: later) (plateau first later) := by
  induction later using List.reverseRecOn with
  | nil => exact ⟨[], [], rfl, by simp, by simp, rfl⟩
  | append_singleton later x ih =>
    have hnext : plateau first (later ++ [x]) = (plateau first later).next x := by
      rw [plateau, List.foldl_append]
      rfl
    rw [hnext, ← List.cons_append]
    exact ih.next x

/-- Each of the last three counts is at least the least of those before them. -/
def StaysAbove (seq : List Int) : Prop :=
  ∃ earlier last, seq = earlier ++ last ∧ last.length = patience ∧
    ∃ least ∈ earlier, (∀ x ∈ earlier, least ≤ x) ∧ ∀ x ∈ last, least ≤ x

lemma IsPlateau.patience_le_iff {seq : List Int} {p : Plateau} (h : IsPlateau seq p) :
    patience ≤ p.since ↔ StaysAbove seq := by
  obtain ⟨before, after, rfl, hbefore, hafter, hlength⟩ := h
  rw [← hlength]
  constructor
  · intro hpatience
    refine ⟨before ++ p.best :: after.take (after.length - patience),
      after.drop (after.length - patience), ?_, ?_,
      p.best, by simp, fun x hx => ?_, fun x hx => hafter x (List.mem_of_mem_drop hx)⟩
    · rw [List.append_assoc, List.cons_append, List.take_append_drop]
    · rw [List.length_drop]
      omega
    · rcases List.mem_append.1 hx with hx | hx
      · exact (hbefore x hx).le
      · rcases List.mem_cons.1 hx with rfl | hx
        · exact le_rfl
        · exact hafter x (List.mem_of_mem_take hx)
  · rintro ⟨earlier, last, hseq, hlast, least, hmem, hearlier, habove⟩
    -- The least count is the best one, so its first occurrence is among the earlier counts.
    have hbest : least ≤ p.best := by
      have hp : p.best ∈ earlier ++ last := hseq ▸ List.mem_append_right _ List.mem_cons_self
      rcases List.mem_append.1 hp with hp | hp
      · exact hearlier _ hp
      · exact habove _ hp
    have hshort : before.length < earlier.length := by
      by_contra hlong
      have hhead : earlier <+: before := by
        refine List.prefix_of_prefix_length_le ?_ (List.prefix_append before (p.best :: after))
          (not_lt.1 hlong)
        rw [hseq]
        exact List.prefix_append earlier last
      exact absurd (hbefore least (hhead.subset hmem)) (not_lt.2 hbest)
    have htotal := congrArg List.length hseq
    rw [List.length_append, List.length_append, List.length_cons, hlast] at htotal
    omega

lemma IsPlateau.best_le {seq : List Int} {p : Plateau} (h : IsPlateau seq p) :
    ∀ x ∈ seq, p.best ≤ x := by
  obtain ⟨before, after, rfl, hbefore, hafter, -⟩ := h
  intro x hx
  rcases List.mem_append.1 hx with hx | hx
  · exact (hbefore x hx).le
  · rcases List.mem_cons.1 hx with rfl | hx
    · exact le_rfl
    · exact hafter x hx

/-- A sequence has one least count, and that occurs first in one place. -/
lemma IsPlateau.unique {seq : List Int} {p q : Plateau} (hp : IsPlateau seq p)
    (hq : IsPlateau seq q) :
    p = q := by
  have hbest : p.best = q.best := by
    refine le_antisymm (hp.best_le _ ?_) (hq.best_le _ ?_)
    · obtain ⟨before, after, rfl, -⟩ := hq
      simp
    · obtain ⟨before, after, rfl, -⟩ := hp
      simp
  have hsince : ∀ {p : Plateau}, IsPlateau seq p → p.since = seq.length - 1 - seq.idxOf p.best := by
    rintro p ⟨before, after, rfl, hbefore, -, hlength⟩
    have hnew : p.best ∉ before := fun h => (hbefore _ h).false
    rw [List.idxOf_append_of_notMem hnew, List.idxOf_cons_self, List.length_append,
      List.length_cons]
    omega
  obtain ⟨best, since⟩ := p
  obtain rfl : best = q.best := hbest
  exact congrArg (Plateau.mk q.best) ((hsince hp).trans (hsince hq).symm)

/-- What is decided after a round with some benchmarks below the target. -/
lemma exists_stopReason?_eq (coverage : Float) (earlier : List Int) (count : Nat) :
    ∃ p, IsPlateau (earlier ++ [(count : Int)]) p ∧ stopReason? coverage earlier (some count) =
      if coverage < leastCoverage then none else if count == 0 then some .noneBelow
      else if patience ≤ p.since then some (.noImprovement p) else none := by
  cases earlier with
  | nil => exact ⟨_, isPlateau_plateau count [], rfl⟩
  | cons first later => exact ⟨_, isPlateau_plateau first (later ++ [(count : Int)]), rfl⟩

/-- The benchmarks below the target are counted exactly if some benchmark did not fail. -/
lemma ShareReport.belowCount?_eq_some_iff {r : ShareReport} {count : Nat} :
    r.belowCount? = some count ↔ (∃ x ∈ r.shares, 0.0 ≤ x.2) ∧ r.belowCount = count := by
  have hvalid : r.valid.isEmpty = false ↔ ∃ x ∈ r.shares, 0.0 ≤ x.2 := by
    simp only [valid, List.isEmpty_eq_false_iff_exists_mem, List.mem_filter, List.mem_map,
      decide_eq_true_eq]
    exact ⟨fun ⟨x, ⟨y, hy, hx⟩, hle⟩ => ⟨y, hy, hx ▸ hle⟩, fun ⟨y, hy, hle⟩ =>
      ⟨y.2, ⟨y, hy, rfl⟩, hle⟩⟩
  rw [← hvalid, belowCount?]
  cases r.valid.isEmpty <;> simp

/-- Measuring stops without improvement exactly if coverage is high enough, some benchmark was
measured, some benchmark is below the target, and each of the last three counts is at least the
least of those before them. What it then tells is the least count of all and how many counts came
after its first occurrence. -/
theorem stopReason?_eq_noImprovement_iff (coverage : Float) (earlier : List Int) (r : ShareReport)
    (p : Plateau) :
    stopReason? coverage earlier r.belowCount? = some (.noImprovement p) ↔
      ¬ coverage < leastCoverage ∧ (∃ x ∈ r.shares, 0.0 ≤ x.2) ∧ r.belowCount ≠ 0 ∧
        StaysAbove (earlier ++ [(r.belowCount : Int)]) ∧
        IsPlateau (earlier ++ [(r.belowCount : Int)]) p := by
  rcases hcount? : r.belowCount? with _ | count
  · constructor
    · intro hstop
      cases hstop
    · rintro ⟨-, hmeasured, -⟩
      rw [ShareReport.belowCount?_eq_some_iff.2 ⟨hmeasured, rfl⟩] at hcount?
      cases hcount?
  · obtain ⟨hmeasured, rfl⟩ := ShareReport.belowCount?_eq_some_iff.1 hcount?
    obtain ⟨q, hq, hstop⟩ := exists_stopReason?_eq coverage earlier r.belowCount
    rw [hstop]
    constructor
    · intro hstop
      split_ifs at hstop with hcoverage hzero hpatience
      · cases hstop
      · obtain rfl : q = p := by simpa using hstop
        exact ⟨hcoverage, hmeasured, by simpa using hzero, hq.patience_le_iff.1 hpatience, hq⟩
    · rintro ⟨hcoverage, -, hzero, habove, hp⟩
      obtain rfl := hq.unique hp
      rw [if_neg hcoverage, if_neg (by simpa using hzero), if_pos (hq.patience_le_iff.2 habove)]

end ScriptHost.Measure
