import ScriptHost.Proofs.Acts

/-!
# Sequences of requests

Requests are made one after the other, and each of them has an outcome: one that fails does not keep
the next one from being made. Requests that leave the world as it is can be inserted anywhere, and
the other outcomes do not change (`InsertsFreely.of_kept`).
-/

namespace ScriptHost

variable {ρ : Type} (perform : ρ → Act Value)

/-- The world after a request. -/
def worldAfter (r : ρ) (w : World) : World :=
  ((perform r).carryOut w).2

/-- The world after some requests. -/
def worldAfterAll (rs : List ρ) (w : World) : World :=
  rs.foldl (fun w r => worldAfter perform r w) w

/-- Requests that are made one after the other, each with its outcome. -/
def trace : List ρ → World → List (ρ × Except Fault Value)
  | [], _ => []
  | r :: rs, w => (r, ((perform r).carryOut w).1) :: trace rs (worldAfter perform r w)

lemma worldAfterAll_cons (r : ρ) (rs : List ρ) (w : World) :
    worldAfterAll perform (r :: rs) w = worldAfterAll perform rs (worldAfter perform r w) := rfl

lemma worldAfterAll_append (rs rs' : List ρ) (w : World) :
    worldAfterAll perform (rs ++ rs') w = worldAfterAll perform rs' (worldAfterAll perform rs w) :=
  List.foldl_append

variable {perform}

/-- What every request preserves is preserved by all of them. -/
lemma worldAfterAll_induction {P : World → Prop} {rs : List ρ}
    (hstep : ∀ r ∈ rs, ∀ w, P w → P (worldAfter perform r w)) {w : World} (hw : P w) :
    P (worldAfterAll perform rs w) := by
  induction rs generalizing w with
  | nil => exact hw
  | cons r rs ih =>
    rw [worldAfterAll_cons]
    exact ih (fun r' hr' => hstep r' (List.mem_cons_of_mem r hr')) (hstep r List.mem_cons_self w hw)

/-- What holds of the outcome of each request, in worlds that all requests preserve, holds of every
outcome. -/
lemma forall_mem_trace {P : World → Prop} {Q : ρ → Except Fault Value → Prop} {rs : List ρ}
    (hstep : ∀ r ∈ rs, ∀ w, P w → P (worldAfter perform r w) ∧ Q r ((perform r).carryOut w).1)
    {w : World} (hw : P w) : ∀ x ∈ trace perform rs w, Q x.1 x.2 := by
  induction rs generalizing w with
  | nil => exact fun x hx => absurd hx List.not_mem_nil
  | cons r rs ih =>
    obtain ⟨hnext, hr⟩ := hstep r List.mem_cons_self w hw
    intro x hx
    rcases List.mem_cons.1 hx with rfl | hx
    · exact hr
    · exact ih (fun r' hr' => hstep r' (List.mem_cons_of_mem r hr')) hnext x hx

/-- Without the requests that leave the world as it is, the others have the same outcomes and lead
to the same world. -/
lemma trace_filter {P : World → Prop} (hstep : ∀ r w, P w → P (worldAfter perform r w))
    {keep : ρ → Bool}
    {rs : List ρ} (hkeep : ∀ r ∈ rs, keep r = false → ∀ w, P w → worldAfter perform r w = w)
    {w : World}
    (hw : P w) : (trace perform rs w).filter (fun x => keep x.1) =
      trace perform (rs.filter keep) w ∧
      worldAfterAll perform rs w = worldAfterAll perform (rs.filter keep) w := by
  induction rs generalizing w with
  | nil => exact ⟨rfl, rfl⟩
  | cons r rs ih =>
    have hrest := fun w => ih (w := w) fun r' hr' => hkeep r' (List.mem_cons_of_mem r hr')
    rw [trace, worldAfterAll_cons, List.filter_cons, List.filter_cons]
    cases hr : keep r with
    | true =>
      obtain ⟨htrace, hafter⟩ := hrest _ (hstep r w hw)
      rw [if_pos rfl, if_pos rfl, htrace, trace, hafter, worldAfterAll_cons]
      exact ⟨rfl, rfl⟩
    | false =>
      rw [hkeep r List.mem_cons_self hr w hw]
      exact hrest w hw

lemma map_trace {σ : Type} (f : σ → ρ) (zs : List σ) (w : World) :
    (trace (fun z => perform (f z)) zs w).map (fun x => (f x.1, x.2)) =
      trace perform (zs.map f) w := by
  induction zs generalizing w with
  | nil => rfl
  | cons z zs ih =>
    rw [trace, List.map_cons, ih, List.map_cons, trace]
    rfl

variable (perform) in
/-- Requests of a kind can be inserted anywhere in a sequence of requests: those that were inserted
are marked by `true`, and the others have the outcomes that they have without them, and lead to the
same world. -/
def InsertsFreely (kind : ρ → Prop) (w : World) : Prop :=
  ∀ zs : List (ρ × Bool), (∀ z ∈ zs, z.2 = true → kind z.1) →
    ((trace (fun z => perform z.1) zs w).filter fun x => !x.1.2).map (fun x => (x.1.1, x.2)) =
        trace perform ((zs.filter fun z => !z.2).map Prod.fst) w ∧
      worldAfterAll perform (zs.map Prod.fst) w =
        worldAfterAll perform ((zs.filter fun z => !z.2).map Prod.fst) w

lemma InsertsFreely.of_kept {P : World → Prop} (hstep : ∀ r w, P w → P (worldAfter perform r w))
    {kind : ρ → Prop}
    (hkept : ∀ r w, kind r → P w → worldAfter perform r w = w) {w : World} (hw : P w) :
    InsertsFreely perform kind w := by
  intro zs hzs
  have hinserted : ∀ z ∈ zs, (!z.2) = false → ∀ w, P w →
      worldAfter (fun z : ρ × Bool => perform z.1) z w = w :=
    fun z hz hmark w hw => hkept z.1 w (hzs z hz (by simpa using hmark)) hw
  obtain ⟨htrace, hafter⟩ := trace_filter (fun z w hw => hstep z.1 w hw) hinserted hw
  rw [htrace, map_trace]
  refine ⟨rfl, ?_⟩
  unfold worldAfterAll at hafter ⊢
  rw [List.foldl_map, List.foldl_map]
  exact hafter

end ScriptHost
