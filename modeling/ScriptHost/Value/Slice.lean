/-!
# Slices of sequences

A slice takes the items from one index up to another, every so many. Negative indices count from the
end, and indices beyond the ends are moved to them.
-/

namespace ScriptHost.Slice

/-- An index moved into a sequence of length `n`; `low` and `high` are where it may go at most. -/
def clamp (n : Nat) (low high : Int) (i : Int) : Int :=
  let i := if i < 0 then i + n else i
  if i < low then low else if high < i then high else i

/-- The items from index `lo` on, up to `hi`. -/
def slice {α : Type} (lo hi : Option Int) (xs : List α) : List α :=
  let n := xs.length
  let a := (lo.map (clamp n 0 n)).getD 0
  let b := (hi.map (clamp n 0 n)).getD n
  (xs.take b.toNat).drop a.toNat

/-- The items at `count` indices from `i` on, in steps. -/
def pick {α : Type} (xs : Array α) (step : Int) : Nat → Int → List α
  | 0, _ => []
  | count + 1, i =>
    match xs[i.toNat]? with
    | some x => x :: pick xs step count (i + step)
    | none => []

/-- The items from index `lo` on, up to `hi`, in steps other than zero; a negative step goes
backwards. -/
def stepped {α : Type} (lo hi : Option Int) (step : Int) (xs : List α) : List α :=
  let n := xs.length
  if 0 < step then
    let a := (lo.map (clamp n 0 n)).getD 0
    let b := (hi.map (clamp n 0 n)).getD n
    if a < b then pick xs.toArray step ((b - a - 1) / step + 1).toNat a else []
  else
    let a := (lo.map (clamp n (-1) (n - 1))).getD (n - 1)
    let b := (hi.map (clamp n (-1) (n - 1))).getD (-1)
    if b < a then pick xs.toArray step ((a - b - 1) / (-step) + 1).toNat a else []

end ScriptHost.Slice
