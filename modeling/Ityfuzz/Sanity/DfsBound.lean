import Ityfuzz.Sanity.Trace

/-! What a `dfs` call costs. Measured by the keys of `hops` not yet visited (`keysLeft`) and the
pairs stored under them (`pairsLeft`), a call on a token not in `visited` enters each token at
most once, makes at most one call more than the pairs it uses up, records one route per call on
a pegged token, and lies no deeper than the keys left (`RunBound`, `dfsRun_bound`). So one level
of fuel per key left and one more never runs out (`dfsRun_ne_outOfFuel`), and more fuel changes
nothing (`dfsRun_add_fuel`): the fuel of the model is not a bound of the code. -/

namespace ITY

section Measure

variable (hops : HopMap)

/-- The sum of `g` over the entries of `hops` whose key is not in `V`. -/
def unvisited (g : (Sigma fun _ : String => List PairData) → Nat) (V : List String) : Nat :=
  ((hops.entries.filter fun e => e.1 ∉ V).map g).sum

/-- The keys of `hops` not in `V`. -/
def keysLeft (V : List String) : Nat := unvisited hops (fun _ => 1) V

/-- The total length of the lists `hops` stores for keys not in `V`. -/
def pairsLeft (V : List String) : Nat := unvisited hops (fun e => e.2.length) V

variable {hops}

theorem unvisited_anti (g : (Sigma fun _ : String => List PairData) → Nat) {V V' : List String}
    (h : V ⊆ V') : unvisited hops g V' ≤ unvisited hops g V :=
  List.Sublist.sum_le_sum
    ((List.monotone_filter_right _ fun e he => by
      simp only [decide_eq_true_eq] at he ⊢; exact fun hv => he (h hv)).map g)
    (fun _ _ => Nat.zero_le _)

theorem sum_filter_insert (g : (Sigma fun _ : String => List PairData) → Nat) {t : String}
    {V : List String} (ht : t ∉ V) :
    ∀ {es : List (Sigma fun _ : String => List PairData)} {hs : List PairData}, es.NodupKeys →
      (⟨t, hs⟩ : Sigma fun _ : String => List PairData) ∈ es →
      ((es.filter fun e => e.1 ∉ V.insert t).map g).sum + g ⟨t, hs⟩ =
        ((es.filter fun e => e.1 ∉ V).map g).sum
  | [], _, _, h => absurd h (List.not_mem_nil _)
  | e :: es, hs, hnd, hmem => by
    obtain ⟨he, hnd'⟩ := List.nodupKeys_cons.1 hnd
    have hkey : ∀ e' ∈ e :: es, e'.1 ≠ t → decide (e'.1 ∉ V.insert t) = decide (e'.1 ∉ V) :=
      fun e' _ h => by simp only [List.mem_insert_iff, h, false_or]
    rcases List.mem_cons.1 hmem with rfl | hmem
    · have htl : es.filter (fun e => e.1 ∉ V.insert t) = es.filter (fun e => e.1 ∉ V) :=
        List.filter_congr fun e' he' =>
          hkey e' (List.mem_cons_of_mem _ he') fun h => he (h ▸ List.mem_keys_of_mem he' :)
      have h1 : decide (t ∉ V.insert t) = false := by simp
      have h2 : decide (t ∉ V) = true := by simpa using ht
      simp only [List.filter_cons, h1, h2, htl, Bool.false_eq_true, ↓reduceIte, List.map_cons,
        List.sum_cons]
      omega
    · have ih := sum_filter_insert g ht hnd' hmem
      have h3 := hkey e (List.mem_cons_self _ _) fun h => he (by rw [h]; exact List.mem_keys_of_mem hmem)
      simp only [List.filter_cons, h3]
      split
      · simp only [List.map_cons, List.sum_cons, ← ih]
        omega
      · exact ih

theorem unvisited_insert (g : (Sigma fun _ : String => List PairData) → Nat) {t : String}
    {V : List String} {hs : List PairData} (ht : t ∉ V) (hl : hops.lookup t = some hs) :
    unvisited hops g (V.insert t) + g ⟨t, hs⟩ = unvisited hops g V :=
  sum_filter_insert g ht hops.nodupKeys (AList.mem_lookup_iff.1 hl)

variable (hops)

theorem keysLeft_anti {V V' : List String} (h : V ⊆ V') : keysLeft hops V' ≤ keysLeft hops V :=
  unvisited_anti _ h

theorem pairsLeft_anti {V V' : List String} (h : V ⊆ V') : pairsLeft hops V' ≤ pairsLeft hops V :=
  unvisited_anti _ h

variable {hops}

theorem keysLeft_nil : keysLeft hops [] = hops.keys.length := by
  simp [keysLeft, unvisited, AList.keys, List.keys]

theorem pairsLeft_nil : pairsLeft hops [] = ((hops.entries.map fun e => e.2.length)).sum := by
  simp [pairsLeft, unvisited]

end Measure


section Bound

variable (P : List (String × String)) (hops : HopMap)

/-- What a `dfs` run from `visited = V` and `routes = R` did when it returned `r`: `visited`
grew by the tokens it entered, each once, and `routes` by one route per call on a pegged token;
it made at most `nc` calls and `np` routes more than the pairs of `hops` it used up, and its
calls lie at most `d` plus the keys left deep. -/
structure RunBound (nc np d : Nat) (V : List String) (R : List (List PairData))
    (r : List String × List (List PairData) × List (String × Nat)) : Prop where
  visited : r.1 = (enteredTokens P r.2.2).reverse ++ V
  nodup : V.Nodup → r.1.Nodup
  routes : ∃ new, r.2.1 = R ++ new ∧ new.length = peggedCalls P r.2.2
  calls : r.2.2.length + pairsLeft hops r.1 ≤ nc + pairsLeft hops V
  pegged : peggedCalls P r.2.2 + pairsLeft hops r.1 ≤ np + pairsLeft hops V
  depth : ∀ e ∈ r.2.2, e.2 ≤ d + keysLeft hops V

variable {P hops}

variable {nc np d : Nat} {V : List String} {R : List (List PairData)}
  {r : List String × List (List PairData) × List (String × Nat)}

theorem RunBound.subset (h : RunBound P hops nc np d V R r) : V ⊆ r.1 := by
  rw [h.visited]; exact List.subset_append_right _ _

theorem runBound_nil (nc np d : Nat) (V : List String) (R : List (List PairData)) :
    RunBound P hops nc np d V R (V, R, []) :=
  ⟨by simp, id, ⟨[], by simp, by simp⟩, by simp, by simp, by simp⟩

theorem RunBound.mono {nc' np' : Nat} (h : RunBound P hops nc np d V R r) (hc : nc ≤ nc')
    (hp : np ≤ np') : RunBound P hops nc' np' d V R r :=
  ⟨h.visited, h.nodup, h.routes, by have := h.calls; omega, by have := h.pegged; omega, h.depth⟩

theorem RunBound.append {n₁ p₁ n₂ p₂ : Nat} {r' : List String × List (List PairData) × List (String × Nat)}
    (h₁ : RunBound P hops n₁ p₁ d V R r) (h₂ : RunBound P hops n₂ p₂ d r.1 r.2.1 r') :
    RunBound P hops (n₁ + n₂) (p₁ + p₂) d V R (r'.1, r'.2.1, r.2.2 ++ r'.2.2) where
  visited := by simp [h₂.visited, h₁.visited]
  nodup hV := h₂.nodup (h₁.nodup hV)
  routes := by
    obtain ⟨n₁', h₁r, h₁n⟩ := h₁.routes
    obtain ⟨n₂', h₂r, h₂n⟩ := h₂.routes
    exact ⟨n₁' ++ n₂', by simp [h₂r, h₁r], by simp [h₁n, h₂n]⟩
  calls := by have := h₁.calls; have := h₂.calls; simp only [List.length_append]; omega
  pegged := by have := h₁.pegged; have := h₂.pegged; simp only [peggedCalls_append]; omega
  depth e he := by
    rcases List.mem_append.1 he with he | he
    · exact h₁.depth e he
    · have := keysLeft_anti hops h₁.subset
      have := h₂.depth e he
      omega


variable {recur : String → List PairData → List String → List (List PairData) →
    Except DfsStop (List String × List (List PairData) × List (String × Nat))} {path : List PairData}

/-- The loop of a `dfs` call over `l`: each turn either skips a visited token or adds one
child call's bound. -/
theorem foldlM_dfsRunStep_bound
    (hrec : ∀ t p V R r, t ∉ V → recur t p V R = .ok r → RunBound P hops 1 1 p.length V R r) :
    ∀ (l : List PairData) (V R L r), l.foldlM (dfsRunStep recur path) (V, R, L) = .ok r →
      ∃ new, r.2.2 = L ++ new ∧ RunBound P hops l.length l.length (path.length + 1) V R (r.1, r.2.1, new)
  | [], V, R, L, r, h => by
    cases h
    exact ⟨[], by simp, runBound_nil _ _ _ _ _⟩
  | hop :: l, V, R, L, r, h => by
    obtain ⟨a, h₁, h₂⟩ := foldlM_cons_eq_ok.1 h
    rcases dfsRunStep_eq_ok.1 h₁ with ⟨-, rfl⟩ | ⟨hv, rc, hc, rfl⟩
    · obtain ⟨new, hL, hb⟩ := foldlM_dfsRunStep_bound hrec l V R L r h₂
      exact ⟨new, hL, hb.mono (by simp) (by simp)⟩
    · obtain ⟨new, hL, hb⟩ := foldlM_dfsRunStep_bound hrec l _ _ _ r h₂
      have hcb := hrec _ _ _ _ _ hv hc
      rw [List.length_append, List.length_singleton] at hcb
      refine ⟨rc.2.2 ++ new, by rw [hL, List.append_assoc], ?_⟩
      rw [List.length_cons, Nat.add_comm l.length 1]
      exact hcb.append hb

/-- A `dfs` call on a token not in `visited`: one call more than the pairs it uses up, one route
if the token is pegged, none otherwise, and depths at most `path.len()` plus the keys left. -/
theorem dfsRun_bound (onchain : OnChainConfig) (network : String) :
    ∀ f t path V R r, t ∉ V → dfsRun onchain network P hops f t path V R = .ok r →
      RunBound P hops 1 (if isPeggedToken P t then 1 else 0) path.length V R r
  | 0, _, _, _, _, _, _, h => by cases h
  | f + 1, t, path, V, R, ⟨V', R', L'⟩, ht, h => by
    have hins := List.insert_of_not_mem ht
    have hnd : V.Nodup → (V.insert t).Nodup := fun hV => by rw [hins]; exact List.nodup_cons.2 ⟨ht, hV⟩
    cases hp : isPeggedToken P t
    case true =>
      obtain ⟨g, -, hr⟩ := dfsRun_pegged_ok h hp
      cases hr
      exact ⟨by simp [hp], id, ⟨_, rfl, by simp [hp]⟩, by simp, by simp [hp], by simp⟩
    cases hl : hops.lookup t with
    | none =>
      rw [dfsRun_unpegged_none hp hl] at h
      cases h
      have := pairsLeft_anti hops (List.subset_insert t V)
      exact ⟨by simp [hp, hins], hnd, ⟨[], by simp, by simp [hp]⟩, by simp; omega, by simp [hp]; omega, by simp⟩
    | some hs =>
      rw [dfsRun_unpegged_some hp hl] at h
      obtain ⟨new, hL, hv, hnd', ⟨n, hn, hnl⟩, hc, hpg, hd⟩ := foldlM_dfsRunStep_bound
        (fun t' p V₁ R₁ r₁ ht' h' => (dfsRun_bound onchain network f t' p V₁ R₁ r₁ ht' h').mono le_rfl
          (by split <;> omega)) hs _ _ _ _ h
      have hk : keysLeft hops (V.insert t) + 1 = keysLeft hops V := unvisited_insert _ ht hl
      have hw : pairsLeft hops (V.insert t) + hs.length = pairsLeft hops V := unvisited_insert _ ht hl
      dsimp only at hL hv hn hnl hc hpg hd
      subst hL
      refine ⟨by simp [hv, hp, hins], fun hV => hnd' (hnd hV), ⟨n, hn, by simp [hnl, hp]⟩,
        by simp only [List.singleton_append, List.length_cons]; omega, by simp [hp]; omega, fun e he => ?_⟩
      rcases List.mem_cons.1 he with rfl | he
      · simp
      · have := hd e he
        omega

end Bound

section Fuel

variable {P : List (String × String)} {hops : HopMap}
  {recur : String → List PairData → List String → List (List PairData) →
    Except DfsStop (List String × List (List PairData) × List (String × Nat))} {path : List PairData}

/-- The loop never runs out of fuel if no child call does on a token not in `visited`, with
fewer keys left than its fuel `f`. -/
theorem foldlM_dfsRunStep_ne_outOfFuel {f : Nat}
    (hfuel : ∀ t p V R, t ∉ V → keysLeft hops V < f → recur t p V R ≠ .error .outOfFuel)
    (hrec : ∀ t p V R r, t ∉ V → recur t p V R = .ok r → RunBound P hops 1 1 p.length V R r) :
    ∀ (l : List PairData) (V R L), keysLeft hops V < f →
      l.foldlM (dfsRunStep recur path) (V, R, L) ≠ .error .outOfFuel
  | [], _, _, _, _ => nofun
  | hop :: l, V, R, L, hV => by
    rw [List.foldlM_cons]
    by_cases hv : hop.next ∈ V
    · rw [dfsRunStep_visited hv]
      exact foldlM_dfsRunStep_ne_outOfFuel hfuel hrec l V R L hV
    · rw [dfsRunStep_fresh hv]
      cases hc : recur hop.next (path ++ [hop]) V R with
      | error e =>
        cases e with
        | panic => nofun
        | outOfFuel => exact absurd hc (hfuel _ _ _ _ hv hV)
      | ok rc =>
        have := keysLeft_anti hops (hrec _ _ _ _ _ hv hc).subset
        exact foldlM_dfsRunStep_ne_outOfFuel hfuel hrec l _ _ _ (by omega)

/-- One level of fuel per key of `hops` not yet visited, and one more, is enough. -/
theorem dfsRun_ne_outOfFuel (onchain : OnChainConfig) (network : String) :
    ∀ f t path V R, t ∉ V → keysLeft hops V < f →
      dfsRun onchain network P hops f t path V R ≠ .error .outOfFuel
  | 0, _, _, _, _, _, h => absurd h (Nat.not_lt_zero _)
  | f + 1, t, path, V, R, ht, hf => by
    simp only [dfsRun]
    split
    · split <;> nofun
    · split
      · nofun
      · rename_i hs hl
        have hk : keysLeft hops (V.insert t) + 1 = keysLeft hops V := unvisited_insert _ ht hl
        exact foldlM_dfsRunStep_ne_outOfFuel (dfsRun_ne_outOfFuel onchain network f)
          (fun t' p V₁ R₁ r₁ ht' h' => (dfsRun_bound onchain network f t' p V₁ R₁ r₁ ht' h').mono le_rfl
            (by split <;> omega)) hs _ _ _ (by omega)

/-- The loop panics only where a child call does. -/
theorem foldlM_dfsRunStep_ne_panic (hrec : ∀ t p V R, recur t p V R ≠ .error .panic) :
    ∀ (l : List PairData) acc, l.foldlM (dfsRunStep recur path) acc ≠ .error .panic
  | [], _ => nofun
  | hop :: l, acc => by
    rw [List.foldlM_cons]
    by_cases hv : hop.next ∈ acc.1
    · rw [dfsRunStep_visited hv]
      exact foldlM_dfsRunStep_ne_panic hrec l acc
    · rw [dfsRunStep_fresh hv]
      rcases hc : recur hop.next (path ++ [hop]) acc.1 acc.2.1 with (_ | _) | rc
      · exact absurd hc (hrec _ _ _ _)
      · nofun
      · exact foldlM_dfsRunStep_ne_panic hrec l _

/-- Without a pegged token `dfs` never calls `get_pegged_next_hop`, so it never panics. -/
theorem dfsRun_ne_panic (onchain : OnChainConfig) (network : String) (hP : ∀ t, isPeggedToken P t = false) :
    ∀ f t path V R, dfsRun onchain network P hops f t path V R ≠ .error .panic
  | 0, _, _, _, _ => nofun
  | f + 1, t, path, V, R => by
    simp only [dfsRun, hP, Bool.false_eq_true, if_false]
    split
    · nofun
    · exact foldlM_dfsRunStep_ne_panic (dfsRun_ne_panic onchain network hP f) _ _

theorem dfsRunStep_congr
    {recur' : String → List PairData → List String → List (List PairData) →
      Except DfsStop (List String × List (List PairData) × List (String × Nat))}
    (h : ∀ t p V R, recur t p V R ≠ .error .outOfFuel → recur' t p V R = recur t p V R)
    (acc : List String × List (List PairData) × List (String × Nat)) (hop : PairData)
    (hne : dfsRunStep recur path acc hop ≠ .error .outOfFuel) :
    dfsRunStep recur' path acc hop = dfsRunStep recur path acc hop := by
  unfold dfsRunStep at hne ⊢
  split
  · rfl
  · rename_i hv
    rw [if_neg hv] at hne
    rw [h]
    intro hc
    rw [hc] at hne
    exact hne rfl

/-- Where the loop does not run out of fuel, it only sees child calls that did not either. -/
theorem foldlM_dfsRunStep_congr
    {recur' : String → List PairData → List String → List (List PairData) →
      Except DfsStop (List String × List (List PairData) × List (String × Nat))}
    (h : ∀ t p V R, recur t p V R ≠ .error .outOfFuel → recur' t p V R = recur t p V R) :
    ∀ (l : List PairData) acc, l.foldlM (dfsRunStep recur path) acc ≠ .error .outOfFuel →
      l.foldlM (dfsRunStep recur' path) acc = l.foldlM (dfsRunStep recur path) acc
  | [], _, _ => rfl
  | hop :: l, acc, hne => by
    simp only [List.foldlM_cons] at hne ⊢
    cases hs : dfsRunStep recur path acc hop with
    | error e =>
      rw [hs] at hne
      rw [dfsRunStep_congr h acc hop (by rw [hs]; exact hne), hs]
      rfl
    | ok acc' =>
      rw [hs] at hne
      rw [dfsRunStep_congr h acc hop (by rw [hs]; nofun), hs]
      exact foldlM_dfsRunStep_congr h l acc' hne

/-- A run that did not run out of fuel gives the same result with one more level. -/
theorem dfsRun_succ_fuel (onchain : OnChainConfig) (network : String) :
    ∀ f t path V R, dfsRun onchain network P hops f t path V R ≠ .error .outOfFuel →
      dfsRun onchain network P hops (f + 1) t path V R = dfsRun onchain network P hops f t path V R
  | 0, _, _, _, _, h => absurd rfl h
  | f + 1, t, path, V, R, h => by
    simp only [dfsRun] at h ⊢
    split
    · rfl
    · split
      · rfl
      · rename_i hp _ hs hl
        rw [if_neg hp, hl] at h
        exact foldlM_dfsRunStep_congr (dfsRun_succ_fuel onchain network f) hs _ h

theorem dfsRun_add_fuel (onchain : OnChainConfig) (network : String) {f : Nat} {t : String}
    {path : List PairData} {V : List String} {R : List (List PairData)}
    (h : dfsRun onchain network P hops f t path V R ≠ .error .outOfFuel) :
    ∀ k, dfsRun onchain network P hops (f + k) t path V R = dfsRun onchain network P hops f t path V R
  | 0 => rfl
  | k + 1 => by
    have ih := dfsRun_add_fuel onchain network h k
    rw [← Nat.add_assoc, dfsRun_succ_fuel onchain network _ _ _ _ _ (by rw [ih]; exact h), ih]

/-- `dfs` itself, forgetting the log: with more fuel than keys left it is what the code computes. -/
theorem dfs_add_fuel (onchain : OnChainConfig) (network : String) {f : Nat} {t : String}
    {path : List PairData} {V : List String} {R : List (List PairData)} (ht : t ∉ V)
    (hf : keysLeft hops V < f) (k : Nat) :
    dfs onchain network P hops (f + k) t path V R = dfs onchain network P hops f t path V R := by
  rw [← dfsRun_proj, ← dfsRun_proj,
    dfsRun_add_fuel onchain network (dfsRun_ne_outOfFuel onchain network f t path V R ht hf) k]

end Fuel

end ITY
