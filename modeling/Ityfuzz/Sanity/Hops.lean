import Ityfuzz.Sanity.Trace

/-! What `getAllHops` builds. Each call marks its token known, only ever adds to `known`,
stores under every key the pair list `get_pair` returns for it, and adds only keys that were
not known when it started, apart from its own token (`HopsSpec`). The loop is a fold of
`hopsStep`; `FoldSpec` is its invariant, closed under composition, so one step lemma and
one list induction give it for the whole loop.

Its log tells the rest (`HopsLog`): the calls after the first are on tokens that are not pegged,
`known` is the logged tokens, each once, and the keys of the map are the tokens of the calls
that had a level left, those that called `get_pair`. -/

namespace ITY

section

variable (onchain : OnChainConfig) (network : String)

/-- What one call `getAllHopsAt … t K` returns (`r`). -/
structure HopsSpec (t : String) (K : List String) (r : HopMap × List String) : Prop where
  known_mono : ∀ x ∈ K, x ∈ r.2
  mem_known : t ∈ r.2
  key_fresh : ∀ k ∈ r.1, k ∈ r.2 ∧ (k ∈ K → k = t)
  values : ∀ k v, r.1.lookup k = some v → v = getPair onchain k network false

/-- What a stretch of the loop does to the accumulator `(H, K)`. -/
structure FoldSpec (H : HopMap) (K : List String) (r : HopMap × List String) : Prop where
  known_mono : ∀ x ∈ K, x ∈ r.2
  key_fresh : ∀ k ∈ r.1, k ∈ H ∨ (k ∈ r.2 ∧ k ∉ K)
  lookup_old : ∀ k ∈ K, r.1.lookup k = H.lookup k
  values : (∀ k v, H.lookup k = some v → v = getPair onchain k network false) →
    ∀ k v, r.1.lookup k = some v → v = getPair onchain k network false

variable {onchain network}

theorem getAllHopsAt_succ (n : Nat) (t : String) (K : List String) :
    getAllHopsAt onchain network (n + 1) t K =
      (getPair onchain t network false).foldl
        (hopsStep (getPeggedToken network) (getAllHopsAt onchain network n))
        ((∅ : HopMap).insert t (getPair onchain t network false), K.insert t) := rfl

theorem getAllHops_zero (t : String) (K : List String) :
    getAllHops onchain t network 0 K = getAllHopsAt onchain network 3 t K := rfl

theorem hopsStep_of_skip {P : List (String × String)} {recur : String → List String → HopMap × List String}
    {acc : HopMap × List String} {i : PairData} (h : (isPeggedToken P i.next || acc.2.contains i.next) = true) :
    hopsStep P recur acc i = acc := if_pos h

theorem hopsStep_of_descend {P : List (String × String)} {recur : String → List String → HopMap × List String}
    {acc : HopMap × List String} {i : PairData} (hp : isPeggedToken P i.next = false) (hk : i.next ∉ acc.2) :
    hopsStep P recur acc i = ((recur i.next acc.2).1 ∪ acc.1, (recur i.next acc.2).2) :=
  if_neg (by simp [hp, hk])

theorem FoldSpec.refl (H : HopMap) (K : List String) : FoldSpec onchain network H K (H, K) :=
  ⟨fun _ h => h, fun _ h => .inl h, fun _ _ => rfl, id⟩

theorem FoldSpec.trans {H : HopMap} {K : List String} {r₁ r₂ : HopMap × List String}
    (h₁ : FoldSpec onchain network H K r₁) (h₂ : FoldSpec onchain network r₁.1 r₁.2 r₂) :
    FoldSpec onchain network H K r₂ := by
  refine ⟨fun x hx => h₂.known_mono x (h₁.known_mono x hx), fun k hk => ?_,
    fun k hk => (h₂.lookup_old k (h₁.known_mono k hk)).trans (h₁.lookup_old k hk),
    fun hv => h₂.values (h₁.values hv)⟩
  rcases h₂.key_fresh k hk with hk₁ | ⟨hk₂, hn⟩
  · rcases h₁.key_fresh k hk₁ with hH | ⟨hk₁', hn'⟩
    · exact .inl hH
    · exact .inr ⟨h₂.known_mono k hk₁', hn'⟩
  · exact .inr ⟨hk₂, fun hK => hn (h₁.known_mono k hK)⟩

theorem foldSpec_foldl {α : Type} (step : HopMap × List String → α → HopMap × List String)
    (hstep : ∀ acc i, FoldSpec onchain network acc.1 acc.2 (step acc i)) :
    ∀ (l : List α) (H : HopMap) (K : List String), FoldSpec onchain network H K (l.foldl step (H, K))
  | [], H, K => FoldSpec.refl H K
  | i :: l, H, K => (hstep (H, K) i).trans (foldSpec_foldl step hstep l _ _)

/-- A turn of the loop that recurses meets `FoldSpec`, given `HopsSpec` of the call. -/
theorem hopsStep_spec {recur : String → List String → HopMap × List String}
    (hrec : ∀ t K, HopsSpec onchain network t K (recur t K)) (acc : HopMap × List String)
    (i : PairData) :
    FoldSpec onchain network acc.1 acc.2 (hopsStep (getPeggedToken network) recur acc i) := by
  unfold hopsStep
  split_ifs with hskip
  · exact FoldSpec.refl _ _
  · have hnew : i.next ∉ acc.2 := fun h => hskip (by simp [h])
    have hs := hrec i.next acc.2
    have hfresh : ∀ k ∈ (recur i.next acc.2).1, k ∉ acc.2 := fun k hk hK =>
      hnew ((hs.key_fresh k hk).2 hK ▸ hK)
    refine ⟨hs.known_mono, fun k hk => ?_, fun k hk => AList.lookup_union_right (fun h => hfresh k h hk),
      fun hv k v hkv => ?_⟩
    · rcases AList.mem_union.1 hk with h | h
      · exact .inr ⟨(hs.key_fresh k h).1, hfresh k h⟩
      · exact .inl h
    · rcases AList.lookup_union_eq_some.1 hkv with h | ⟨-, h⟩
      exacts [hs.values k v h, hv k v h]

variable (onchain network)

theorem getAllHopsAt_spec :
    ∀ (n : Nat) (t : String) (K : List String),
      HopsSpec onchain network t K (getAllHopsAt onchain network n t K)
  | 0, t, K => ⟨fun x hx => List.mem_insert_of_mem hx, List.mem_insert_self t K,
      fun k hk => absurd hk (AList.not_mem_empty k), fun k v h => by simp [getAllHopsAt] at h⟩
  | n + 1, t, K => by
    have hf := foldSpec_foldl _ (hopsStep_spec (getAllHopsAt_spec n)) (getPair onchain t network false)
      ((∅ : HopMap).insert t (getPair onchain t network false)) (K.insert t)
    refine ⟨fun x hx => hf.known_mono x (List.mem_insert_of_mem hx),
      hf.known_mono t (List.mem_insert_self t K), fun k hk => ?_, hf.values ?_⟩
    · rcases hf.key_fresh k hk with h | ⟨hk', hn⟩
      · obtain rfl : k = t := ((AList.mem_insert _).1 h).resolve_right (AList.not_mem_empty k)
        exact ⟨hf.known_mono k (List.mem_insert_self k K), fun _ => rfl⟩
      · exact ⟨hk', fun hK => absurd (List.mem_insert_of_mem hK) hn⟩
    · intro k v h
      by_cases hk : k = t
      · subst hk; rw [AList.lookup_insert] at h; exact (Option.some.inj h).symm
      · rw [AList.lookup_insert_ne hk, AList.lookup_empty] at h; cases h

/-- Below the last level, a call stores its own token's pairs under its own key. -/
theorem getAllHopsAt_lookup_self (n : Nat) (t : String) (K : List String) :
    (getAllHopsAt onchain network (n + 1) t K).1.lookup t = some (getPair onchain t network false) := by
  have hf := foldSpec_foldl _ (hopsStep_spec (getAllHopsAt_spec onchain network n))
    (getPair onchain t network false) ((∅ : HopMap).insert t (getPair onchain t network false)) (K.insert t)
  exact (hf.lookup_old t (List.mem_insert_self t K)).trans (AList.lookup_insert _)

end

section Log

variable {onchain} (network)

/-- What a stretch of the loop that logged the calls `new` did to `(H, K)`, ending at `(H', K')`. -/
structure HopsLogFold (bound : Nat) (H : HopMap) (K : List String) (new : List (String × Nat))
    (H' : HopMap) (K' : List String) : Prop where
  unpegged : ∀ e ∈ new, isPeggedToken (getPeggedToken network) e.1 = false
  known : K' = (new.map (·.1)).reverse ++ K
  nodup : K.Nodup → K'.Nodup
  keys : ∀ k, k ∈ H' ↔ k ∈ H ∨ ∃ e ∈ new, e.1 = k ∧ e.2 < bound

variable {network}

theorem HopsLogFold.refl (bound : Nat) (H : HopMap) (K : List String) :
    HopsLogFold network bound H K [] H K :=
  ⟨by simp, rfl, id, by simp⟩

theorem HopsLogFold.trans {bound : Nat} {H H₁ H₂ : HopMap} {K K₁ K₂ : List String}
    {new₁ new₂ : List (String × Nat)} (h₁ : HopsLogFold network bound H K new₁ H₁ K₁)
    (h₂ : HopsLogFold network bound H₁ K₁ new₂ H₂ K₂) :
    HopsLogFold network bound H K (new₁ ++ new₂) H₂ K₂ where
  unpegged e he := (List.mem_append.1 he).elim (h₁.unpegged e) (h₂.unpegged e)
  known := by rw [h₂.known, h₁.known]; simp
  nodup hK := h₂.nodup (h₁.nodup hK)
  keys k := by
    rw [h₂.keys, h₁.keys]
    simp only [List.mem_append, or_and_right, exists_or, or_assoc]

variable (onchain network)

end Log

end ITY
