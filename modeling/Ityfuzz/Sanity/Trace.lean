import Ityfuzz.Spec.Trace

/-! The instrumented runs compute what the code computes: forgetting the log, `getAllHopsRun`
is `getAllHopsAt` and `dfsRun` is `dfs` (`getAllHopsRun_proj`, `dfsRun_proj`). A `dfs` call on a
pegged token records a route and enters nothing; the other calls enter their token
(`enteredCalls`, `peggedCalls`). -/

namespace ITY

section Proj

variable {P : List (String × String)}

theorem hopsRunStep_proj {recurT : String → List String → HopMap × List String × List (String × Nat)}
    {recur : String → List String → HopMap × List String}
    (h : ∀ t K, ((recurT t K).1, (recurT t K).2.1) = recur t K) (acc : HopMap × List String × List (String × Nat))
    (i : PairData) :
    ((hopsRunStep P recurT acc i).1, (hopsRunStep P recurT acc i).2.1) = hopsStep P recur (acc.1, acc.2.1) i := by
  unfold hopsRunStep hopsStep
  split
  · rfl
  · rw [← h]

theorem foldl_hopsRunStep_proj {recurT : String → List String → HopMap × List String × List (String × Nat)}
    {recur : String → List String → HopMap × List String}
    (h : ∀ t K, ((recurT t K).1, (recurT t K).2.1) = recur t K) :
    ∀ (l : List PairData) (acc : HopMap × List String × List (String × Nat)),
      ((l.foldl (hopsRunStep P recurT) acc).1, (l.foldl (hopsRunStep P recurT) acc).2.1) =
        l.foldl (hopsStep P recur) (acc.1, acc.2.1)
  | [], _ => rfl
  | i :: l, acc => by
    rw [List.foldl_cons, List.foldl_cons, ← hopsRunStep_proj h acc i]
    exact foldl_hopsRunStep_proj h l _

theorem getAllHopsRun_proj (onchain : OnChainConfig) (network : String) :
    ∀ n d t K, ((getAllHopsRun onchain network n d t K).1, (getAllHopsRun onchain network n d t K).2.1) =
      getAllHopsAt onchain network n t K
  | 0, _, _, _ => rfl
  | n + 1, d, _, _ =>
    foldl_hopsRunStep_proj (getAllHopsRun_proj onchain network n (d + 1)) _ _

theorem getAllHopsRun_succ (onchain : OnChainConfig) (network : String) (n d : Nat) (t : String)
    (K : List String) :
    getAllHopsRun onchain network (n + 1) d t K =
      (getPair onchain t network false).foldl
        (hopsRunStep (getPeggedToken network) (getAllHopsRun onchain network n (d + 1)))
        ((∅ : HopMap).insert t (getPair onchain t network false), K.insert t, [(t, d)]) := rfl

theorem getAllHopsRun_map (onchain : OnChainConfig) (network : String) (n d : Nat) (t : String)
    (K : List String) :
    (getAllHopsRun onchain network n d t K).1 = (getAllHopsAt onchain network n t K).1 :=
  congrArg Prod.fst (getAllHopsRun_proj onchain network n d t K)

theorem getAllHopsRun_known (onchain : OnChainConfig) (network : String) (n d : Nat) (t : String)
    (K : List String) :
    (getAllHopsRun onchain network n d t K).2.1 = (getAllHopsAt onchain network n t K).2 :=
  congrArg Prod.snd (getAllHopsRun_proj onchain network n d t K)

/-- What `dfs` returns of a `dfsRun` outcome. -/
def dfsOutcome (r : Except DfsStop (List String × List (List PairData) × List (String × Nat))) :
    Option (List String × List (List PairData)) :=
  r.toOption.map fun r => (r.1, r.2.1)

@[simp] theorem dfsOutcome_ok (r : List String × List (List PairData) × List (String × Nat)) :
    dfsOutcome (.ok r) = some (r.1, r.2.1) := rfl

@[simp] theorem dfsOutcome_error (e : DfsStop) : dfsOutcome (.error e) = none := rfl

variable {recurT : String → List PairData → List String → List (List PairData) →
      Except DfsStop (List String × List (List PairData) × List (String × Nat))}
  {recur : String → List PairData → List String → List (List PairData) →
      Option (List String × List (List PairData))}

theorem dfsRunStep_proj (h : ∀ t path V R, dfsOutcome (recurT t path V R) = recur t path V R)
    (path : List PairData) (acc : List String × List (List PairData) × List (String × Nat))
    (hop : PairData) :
    dfsOutcome (dfsRunStep recurT path acc hop) = dfsStep recur path (acc.1, acc.2.1) hop := by
  unfold dfsRunStep dfsStep
  split
  · rfl
  · rw [← h]
    cases recurT hop.next (path ++ [hop]) acc.1 acc.2.1 <;> rfl

theorem foldlM_dfsRunStep_proj (h : ∀ t path V R, dfsOutcome (recurT t path V R) = recur t path V R)
    (path : List PairData) :
    ∀ (l : List PairData) (acc : List String × List (List PairData) × List (String × Nat)),
      dfsOutcome (l.foldlM (dfsRunStep recurT path) acc) = l.foldlM (dfsStep recur path) (acc.1, acc.2.1)
  | [], _ => rfl
  | hop :: l, acc => by
    have hstep := dfsRunStep_proj h path acc hop
    rw [List.foldlM_cons, List.foldlM_cons]
    cases hr : dfsRunStep recurT path acc hop with
    | error e => rw [hr] at hstep; rw [← hstep]; rfl
    | ok acc' =>
      rw [hr] at hstep
      rw [← hstep]
      exact foldlM_dfsRunStep_proj h path l acc'

theorem dfsRun_proj (onchain : OnChainConfig) (network : String) (P : List (String × String))
    (hops : HopMap) :
    ∀ f t path V R, dfsOutcome (dfsRun onchain network P hops f t path V R) =
      dfs onchain network P hops f t path V R
  | 0, _, _, _, _ => rfl
  | f + 1, t, path, V, R => by
    simp only [dfsRun, dfs]
    split
    · cases getPeggedNextHop onchain t network <;> rfl
    · cases hops.lookup t with
      | none => rfl
      | some hs => exact foldlM_dfsRunStep_proj (dfsRun_proj onchain network P hops f) path hs _

end Proj

section Log

variable (P : List (String × String))

/-- The logged calls that entered their token, those on a token that is not pegged. -/
def enteredCalls (calls : List (String × Nat)) : List (String × Nat) :=
  calls.filter fun e => !isPeggedToken P e.1

/-- The tokens the logged calls entered, in order. -/
def enteredTokens (calls : List (String × Nat)) : List String := (enteredCalls P calls).map (·.1)

/-- The logged calls on a pegged token, each of which added one route. -/
def peggedCalls (calls : List (String × Nat)) : Nat :=
  (calls.filter fun e => isPeggedToken P e.1).length

variable {P}

@[simp] theorem enteredCalls_nil : enteredCalls P [] = [] := rfl

@[simp] theorem enteredCalls_cons (e : String × Nat) (L : List (String × Nat)) :
    enteredCalls P (e :: L) = if isPeggedToken P e.1 then enteredCalls P L else e :: enteredCalls P L := by
  by_cases h : isPeggedToken P e.1 <;> simp [enteredCalls, h]

@[simp] theorem enteredCalls_append (L L' : List (String × Nat)) :
    enteredCalls P (L ++ L') = enteredCalls P L ++ enteredCalls P L' := List.filter_append _ _

@[simp] theorem enteredTokens_nil : enteredTokens P [] = [] := rfl

@[simp] theorem enteredTokens_cons (e : String × Nat) (L : List (String × Nat)) :
    enteredTokens P (e :: L) =
      if isPeggedToken P e.1 then enteredTokens P L else e.1 :: enteredTokens P L := by
  by_cases h : isPeggedToken P e.1 <;> simp [enteredTokens, h]

@[simp] theorem enteredTokens_append (L L' : List (String × Nat)) :
    enteredTokens P (L ++ L') = enteredTokens P L ++ enteredTokens P L' := by
  simp [enteredTokens]

@[simp] theorem peggedCalls_nil : peggedCalls P [] = 0 := rfl

@[simp] theorem peggedCalls_cons (e : String × Nat) (L : List (String × Nat)) :
    peggedCalls P (e :: L) = (if isPeggedToken P e.1 then 1 else 0) + peggedCalls P L := by
  by_cases h : isPeggedToken P e.1 <;> simp [peggedCalls, h, Nat.add_comm]

@[simp] theorem peggedCalls_append (L L' : List (String × Nat)) :
    peggedCalls P (L ++ L') = peggedCalls P L + peggedCalls P L' := by
  simp [peggedCalls]

end Log

section Equations

variable {onchain : OnChainConfig} {network : String} {P : List (String × String)} {hops : HopMap}
  {f : Nat} {t : String} {path : List PairData} {V : List String} {R : List (List PairData)}

theorem foldlM_cons_eq_ok {α β ε : Type} {g : β → α → Except ε β} {a : α} {l : List α} {b r : β} :
    (a :: l).foldlM g b = .ok r ↔ ∃ b', g b a = .ok b' ∧ l.foldlM g b' = .ok r := by
  rw [List.foldlM_cons]
  cases g b a <;> simp [bind, Except.bind]

/-- A call at a pegged token that returns records one route and enters nothing. -/
theorem dfsRun_pegged_ok {r : List String × List (List PairData) × List (String × Nat)}
    (h : dfsRun onchain network P hops f t path V R = .ok r) (hp : isPeggedToken P t = true) :
    ∃ g, getPeggedNextHop onchain t network = some g ∧ r = (V, R ++ [path ++ [g]], [(t, path.length)]) := by
  cases f with
  | zero => cases h
  | succ f =>
    simp only [dfsRun, hp, if_true] at h
    split at h
    · cases h; exact ⟨_, ‹_›, rfl⟩
    · cases h

theorem dfsRun_unpegged_none (hp : isPeggedToken P t = false) (hl : hops.lookup t = none) :
    dfsRun onchain network P hops (f + 1) t path V R = .ok (V.insert t, R, [(t, path.length)]) := by
  simp [dfsRun, hp, hl]

theorem dfsRun_unpegged_some {l : List PairData} (hp : isPeggedToken P t = false)
    (hl : hops.lookup t = some l) :
    dfsRun onchain network P hops (f + 1) t path V R =
      l.foldlM (dfsRunStep (dfsRun onchain network P hops f) path) (V.insert t, R, [(t, path.length)]) := by
  simp [dfsRun, hp, hl]

variable {recur : String → List PairData → List String → List (List PairData) →
    Except DfsStop (List String × List (List PairData) × List (String × Nat))}
  {acc : List String × List (List PairData) × List (String × Nat)} {p : PairData}

theorem dfsRunStep_visited (h : p.next ∈ acc.1) : dfsRunStep recur path acc p = .ok acc :=
  if_pos (by simpa using h)

theorem dfsRunStep_fresh (h : p.next ∉ acc.1) :
    dfsRunStep recur path acc p =
      (recur p.next (path ++ [p]) acc.1 acc.2.1).map fun r => (r.1, r.2.1, acc.2.2 ++ r.2.2) :=
  if_neg (by simpa using h)

/-- What a turn of the loop of `dfs` that goes on can have done: skipped a visited token, or
added what the call on a fresh one returned. -/
theorem dfsRunStep_eq_ok {a : List String × List (List PairData) × List (String × Nat)} :
    dfsRunStep recur path acc p = .ok a ↔ (p.next ∈ acc.1 ∧ a = acc) ∨
      (p.next ∉ acc.1 ∧ ∃ rc, recur p.next (path ++ [p]) acc.1 acc.2.1 = .ok rc ∧
        a = (rc.1, rc.2.1, acc.2.2 ++ rc.2.2)) := by
  by_cases hv : p.next ∈ acc.1
  · rw [dfsRunStep_visited hv]
    simp [hv, eq_comm]
  · rw [dfsRunStep_fresh hv]
    cases recur p.next (path ++ [p]) acc.1 acc.2.1 <;> simp [hv, Except.map, eq_comm]

variable {recurH : String → List String → HopMap × List String × List (String × Nat)}
  {accH : HopMap × List String × List (String × Nat)}

theorem hopsRunStep_of_skip (h : (isPeggedToken P p.next || accH.2.1.contains p.next) = true) :
    hopsRunStep P recurH accH p = accH := if_pos h

theorem hopsRunStep_of_descend (hp : isPeggedToken P p.next = false) (hk : p.next ∉ accH.2.1) :
    hopsRunStep P recurH accH p =
      ((recurH p.next accH.2.1).1 ∪ accH.1, (recurH p.next accH.2.1).2.1,
        accH.2.2 ++ (recurH p.next accH.2.1).2.2) :=
  if_neg (by simp [hp, hk])

end Equations

end ITY
