import Ityfuzz.Spec.Offchain

/-! What `OffChainConfig` builds. Addresses survive their trip through strings
(`addressFromStr_addrDebug`), so the `in_token == pair.token0` test of `build_pair_cache`
compares addresses. A pair whose probes succeed leaves its entries in the caches (`Cached`),
and later pairs only add to them. `initialize` stops at the first pair that fails, with the
caches as the pairs before it left them (`initializeFrom_error_iff`). -/

namespace ITY

theorem hexDigits_length : ∀ k n, (hexDigits k n).length = k
  | 0, _ => rfl
  | k + 1, n => by simp [hexDigits, hexDigits_length k]

theorem toDigit_hexChar {d : Nat} (h : d < 16) : toDigit (hexChar d) 16 = some d := by
  have key : ∀ d < 16, toDigit (hexChar d) 16 = some d := by decide
  exact key d h

theorem digitsValue_append (cs : List Char) (c : Char) (r : Nat) :
    digitsValue (cs ++ [c]) r = (digitsValue cs r).bind fun v => (toDigit c r).map (v * r + ·) := by
  simp [digitsValue, List.foldlM_append]

theorem digitsValue_hexDigits : ∀ k n, digitsValue (hexDigits k n) 16 = some (n % 16 ^ k)
  | 0, n => by simp [hexDigits, digitsValue, Nat.mod_one]
  | k + 1, n => by
    rw [hexDigits, digitsValue_append, digitsValue_hexDigits k, Option.some_bind,
      toDigit_hexChar (Nat.mod_lt n (by decide)), Option.map_some', Nat.pow_succ', Nat.mod_mul]
    congr 1
    omega

/-- `from_str` reads back what `{:?}` printed. -/
theorem addressFromStr_addrDebug (a : EVMAddress) : addressFromStr (addrDebug a) = some a := by
  have hs : (addrDebug a).toList = '0' :: 'x' :: hexDigits 40 a.toNat := rfl
  have htake : (addrDebug a).toList.take 2 = ['0', 'x'] := by rw [hs]; rfl
  have hdrop : (addrDebug a).toList.drop 2 = hexDigits 40 a.toNat := by rw [hs]; rfl
  unfold addressFromStr
  rw [if_pos htake, hdrop, if_pos (hexDigits_length 40 _), digitsValue_hexDigits, Option.map_some']
  refine congrArg some (BitVec.eq_of_toNat_eq ?_)
  rw [BitVec.toNat_ofNat, show (16 : Nat) = 2 ^ 4 from rfl, ← Nat.pow_mul, Nat.mod_mod,
    Nat.mod_eq_of_lt a.isLt]

theorem addrDebug_injective {a b : EVMAddress} (h : addrDebug a = addrDebug b) : a = b := by
  have ha := addressFromStr_addrDebug a
  rw [h, addressFromStr_addrDebug] at ha
  exact (Option.some.inj ha).symm

namespace OffChainConfig

section Cache

variable {cfg : OffChainConfig} {pair : EVMAddress} {p : PairProbe}

@[simp] theorem getPair_addrDebug (a : EVMAddress) :
    cfg.getPair (addrDebug a) = some (cfg.pairCache a) := by
  simp [getPair, addressFromStr_addrDebug]

@[simp] theorem fetchReserve_addrDebug (a : EVMAddress) :
    cfg.fetchReserve (addrDebug a) =
      some ((cfg.reservesCache a).map fun r => (toString r.1.toNat, toString r.2.toNat)) := by
  simp [fetchReserve, addressFromStr_addrDebug]

@[simp] theorem buildPairCache_reservesCache (t : EVMAddress) (pd : OffChainPairData) :
    (cfg.buildPairCache t pd).reservesCache = cfg.reservesCache := rfl

@[simp] theorem buildPairCache_balanceCache (t : EVMAddress) (pd : OffChainPairData) :
    (cfg.buildPairCache t pd).balanceCache = cfg.balanceCache := rfl

theorem mem_cachePair_pairCache {Q t : EVMAddress} {q : PairProbe} {e : OffChainPairData} :
    e ∈ (cfg.cachePair Q q).pairCache t ↔ e ∈ cfg.pairCache t ∨
      ((t = q.token0 ∨ t = q.token1) ∧ e = seenFrom t (pairDataOf Q q)) := by
  simp only [cachePair, buildPairCache]
  by_cases h1 : t = q.token1 <;> by_cases h0 : t = q.token0
  · subst h1; simp [h0]
  · subst h1; simp [h0]
  · subst h0; simp [h1]
  · simp [h0, h1]

/-- The entry of the token that is `token0`: `in_ = 0`, `next` the other token. -/
theorem seenFrom_token0 : seenFrom p.token0 (pairDataOf pair p) =
    { pairDataOf pair p with
      in_ := 0, next := addrDebug p.token1, inToken := addrDebug p.token0,
      interface := "uniswapv2", srcExact := "uniswapv2_eth",
      src := if isPeggedToken getPeggedToken (addrDebug p.token0) then "pegged" else "lp" } := by
  simp [seenFrom, pairDataOf]

/-- The entry of the token that is `token1` only: `in_ = 1`, and `next` is `token1` itself. -/
theorem seenFrom_token1 (h : p.token0 ≠ p.token1) : seenFrom p.token1 (pairDataOf pair p) =
    { pairDataOf pair p with
      in_ := 1, next := addrDebug p.token1, inToken := addrDebug p.token1,
      interface := "uniswapv2", srcExact := "uniswapv2_eth",
      src := if isPeggedToken getPeggedToken (addrDebug p.token1) then "pegged" else "lp" } := by
  have hne : addrDebug p.token1 ≠ addrDebug p.token0 := fun he => h (addrDebug_injective he).symm
  simp [seenFrom, pairDataOf, hne]

/-- The caches hold what `build_cache` writes for `pair` when its probes read `p`. -/
structure Cached (cfg : OffChainConfig) (pair : EVMAddress) (p : PairProbe) : Prop where
  side0 : seenFrom p.token0 (pairDataOf pair p) ∈ cfg.pairCache p.token0
  side1 : seenFrom p.token1 (pairDataOf pair p) ∈ cfg.pairCache p.token1
  reserves : cfg.reservesCache pair = some (p.reserves0, p.reserves1)
  balance0 : cfg.balanceCache (pair, p.token0) =
    some (if p.token0 = p.token1 then p.balance1 else p.balance0)
  balance1 : cfg.balanceCache (pair, p.token1) = some p.balance1

theorem pairCache_subset_cachePair (q : PairProbe) (t : EVMAddress) :
    cfg.pairCache t ⊆ (cfg.cachePair pair q).pairCache t :=
  fun _ he => mem_cachePair_pairCache.2 (.inl he)

theorem cachePair_cached : Cached (cfg.cachePair pair p) pair p := by
  refine ⟨mem_cachePair_pairCache.2 (.inr ⟨.inl rfl, rfl⟩),
    mem_cachePair_pairCache.2 (.inr ⟨.inr rfl, rfl⟩), by simp [cachePair], ?_, by simp [cachePair]⟩
  by_cases h : p.token0 = p.token1 <;> simp [cachePair, h]

/-- A pair's entries survive the writes of another pair. -/
theorem Cached.cachePair_ne {Q : EVMAddress} (h : Cached cfg pair p) (hQ : Q ≠ pair) (q : PairProbe) :
    Cached (cfg.cachePair Q q) pair p := by
  refine ⟨pairCache_subset_cachePair q _ h.side0, pairCache_subset_cachePair q _ h.side1, ?_, ?_, ?_⟩
  · simp [cachePair, Ne.symm hQ, h.reserves]
  · simp [cachePair, Ne.symm hQ, h.balance0]
  · simp [cachePair, Ne.symm hQ, h.balance1]

end Cache

section Run

variable {vm : ProbeVM}

theorem buildCache_eq_ok {cfg cfg' : OffChainConfig} {pair : EVMAddress}
    (h : cfg.buildCache vm pair = .ok cfg') : ∃ p, probePair vm pair = .ok p ∧ cfg' = cfg.cachePair pair p := by
  unfold buildCache at h
  cases hp : probePair vm pair with
  | error e => rw [hp] at h; cases h
  | ok p => rw [hp] at h; cases h; exact ⟨p, rfl, rfl⟩

/-- The loop over `pre ++ post` is the loop over `pre`, then, if it did not fail, over `post`. -/
theorem initializeFrom_append (pre post : List EVMAddress) (cfg : OffChainConfig) :
    initializeFrom vm (pre ++ post) cfg =
      match initializeFrom vm pre cfg with
      | (cfg', .ok ()) => initializeFrom vm post cfg'
      | (cfg', .error e) => (cfg', .error e) := by
  induction pre generalizing cfg with
  | nil => rfl
  | cons pair pre ih =>
    simp only [List.cons_append, initializeFrom]
    split <;> simp [ih]

/-- A run fails exactly at a pair before which every pair succeeded: the failing pair writes
nothing, and the pairs after it are never built. -/
theorem initializeFrom_error_iff (pairs : List EVMAddress) (cfg cfg' : OffChainConfig) (e : CacheFailure) :
    initializeFrom vm pairs cfg = (cfg', .error e) ↔
      ∃ pre pair post, pairs = pre ++ pair :: post ∧ initializeFrom vm pre cfg = (cfg', .ok ()) ∧
        cfg'.buildCache vm pair = .error e := by
  induction pairs generalizing cfg with
  | nil => simp [initializeFrom]
  | cons pair pairs ih =>
    constructor
    · intro h
      simp only [initializeFrom] at h
      split at h
      · obtain ⟨pre, q, post, rfl, hpre, hq⟩ := (ih _).1 h
        exact ⟨pair :: pre, q, post, rfl, by simp only [initializeFrom, *], hq⟩
      · cases h
        exact ⟨[], pair, pairs, rfl, rfl, ‹_›⟩
    · rintro ⟨pre, q, post, hpairs, hpre, hq⟩
      rw [hpairs, initializeFrom_append, hpre]
      simp [initializeFrom, hq]

/-- Entries already cached survive a run over other pairs. -/
theorem Cached.persist {pair : EVMAddress} {p : PairProbe} :
    ∀ {pairs : List EVMAddress} {cfg cfg' : OffChainConfig} {r : Except CacheFailure Unit},
      Cached cfg pair p → pair ∉ pairs → initializeFrom vm pairs cfg = (cfg', r) → Cached cfg' pair p
  | [], _, _, _, h, _, hrun => by cases hrun; exact h
  | q :: pairs, cfg, _, _, h, hq, hrun => by
    simp only [initializeFrom] at hrun
    split at hrun
    · obtain ⟨pq, -, rfl⟩ := buildCache_eq_ok ‹_›
      exact (h.cachePair_ne (fun he => hq (he ▸ List.mem_cons_self q pairs)) pq).persist
        (fun hm => hq (List.mem_cons_of_mem q hm)) hrun
    · cases hrun; exact h

/-- After a run that returns `Ok`, every pair of the run had all its probes succeed, and the
caches hold its entries. -/
theorem initializeFrom_ok :
    ∀ {pairs : List EVMAddress} {cfg cfg' : OffChainConfig}, pairs.Nodup →
      initializeFrom vm pairs cfg = (cfg', .ok ()) →
      ∀ pair ∈ pairs, ∃ p, probePair vm pair = .ok p ∧ Cached cfg' pair p
  | [], _, _, _, _, pair, hp => absurd hp (List.not_mem_nil pair)
  | q :: pairs, cfg, _, hnd, hrun, pair, hp => by
    simp only [initializeFrom] at hrun
    split at hrun
    · obtain ⟨pq, hpq, rfl⟩ := buildCache_eq_ok ‹_›
      rcases List.mem_cons.1 hp with rfl | hp
      · exact ⟨pq, hpq, cachePair_cached.persist (List.nodup_cons.1 hnd).1 hrun⟩
      · exact initializeFrom_ok (List.nodup_cons.1 hnd).2 hrun pair hp
    · cases hrun

/-- Every entry of the caches was written for a pair of `done` whose probes succeeded. -/
structure WrittenBy (vm : ProbeVM) (done : List EVMAddress) (cfg : OffChainConfig) : Prop where
  pairs : ∀ t e, e ∈ cfg.pairCache t → ∃ Q ∈ done, ∃ q, probePair vm Q = .ok q ∧
    (t = q.token0 ∨ t = q.token1) ∧ e = seenFrom t (pairDataOf Q q)
  reserves : ∀ Q r, cfg.reservesCache Q = some r → Q ∈ done
  balances : ∀ Q t b, cfg.balanceCache (Q, t) = some b → Q ∈ done

theorem writtenBy_new (pairs : List EVMAddress) : WrittenBy vm [] (new pairs) :=
  ⟨fun _ _ h => absurd h (List.not_mem_nil _), fun _ _ h => (by cases h), fun _ _ _ h => (by cases h)⟩

theorem WrittenBy.mono {done done' : List EVMAddress} {cfg : OffChainConfig} (h : WrittenBy vm done cfg)
    (hd : done ⊆ done') : WrittenBy vm done' cfg :=
  ⟨fun t e he => (h.pairs t e he).imp fun _ ⟨hQ, rest⟩ => ⟨hd hQ, rest⟩,
    fun Q r hr => hd (h.reserves Q r hr), fun Q t b hb => hd (h.balances Q t b hb)⟩

theorem WrittenBy.cachePair {done : List EVMAddress} {cfg : OffChainConfig} {Q : EVMAddress}
    {q : PairProbe} (h : WrittenBy vm done cfg) (hq : probePair vm Q = .ok q) :
    WrittenBy vm (Q :: done) (cfg.cachePair Q q) := by
  have h' := h.mono (List.subset_cons_self Q done)
  refine ⟨fun t e he => ?_, fun Q' r hr => ?_, fun Q' t b hb => ?_⟩
  · rcases mem_cachePair_pairCache.1 he with he | ⟨ht, rfl⟩
    · exact h'.pairs t e he
    · exact ⟨Q, List.mem_cons_self Q done, q, hq, ht, rfl⟩
  · simp only [OffChainConfig.cachePair, buildPairCache_reservesCache] at hr
    split_ifs at hr with hQ'
    · exact hQ' ▸ List.mem_cons_self Q done
    · exact h'.reserves Q' r hr
  · simp only [OffChainConfig.cachePair, buildPairCache_balanceCache] at hb
    split_ifs at hb with h1 h0
    · exact (Prod.mk.inj h1).1 ▸ List.mem_cons_self Q done
    · exact (Prod.mk.inj h0).1 ▸ List.mem_cons_self Q done
    · exact h'.balances Q' t b hb

/-- A run writes only for the pairs it went through. -/
theorem WrittenBy.initializeFrom :
    ∀ {pairs done : List EVMAddress} {cfg cfg' : OffChainConfig} {r : Except CacheFailure Unit},
      WrittenBy vm done cfg → OffChainConfig.initializeFrom vm pairs cfg = (cfg', r) →
      WrittenBy vm (pairs ++ done) cfg'
  | [], _, _, _, _, h, hrun => by cases hrun; exact h
  | q :: pairs, done, cfg, _, _, h, hrun => by
    simp only [OffChainConfig.initializeFrom] at hrun
    split at hrun
    · obtain ⟨pq, hpq, rfl⟩ := buildCache_eq_ok ‹_›
      exact ((h.cachePair hpq).initializeFrom hrun).mono fun x hx => by
        simp only [List.mem_append, List.mem_cons] at hx ⊢; tauto
    · cases hrun
      exact h.mono fun x hx => List.mem_append_right _ hx

/-- No cache holds anything for `pair`. -/
structure NoEntry (cfg : OffChainConfig) (pair : EVMAddress) : Prop where
  pairs : ∀ t e, e ∈ cfg.pairCache t → e.pair ≠ addrDebug pair
  reserves : cfg.reservesCache pair = none
  balances : ∀ t, cfg.balanceCache (pair, t) = none

theorem WrittenBy.noEntry {done : List EVMAddress} {cfg : OffChainConfig} {pair : EVMAddress}
    (h : WrittenBy vm done cfg) (hp : pair ∉ done) : NoEntry cfg pair := by
  refine ⟨fun t e he hpair => ?_, ?_, fun t => ?_⟩
  · obtain ⟨Q, hQ, q, -, -, rfl⟩ := h.pairs t e he
    have : Q = pair := addrDebug_injective (by simpa [seenFrom, pairDataOf] using hpair)
    exact hp (this ▸ hQ)
  · cases hr : cfg.reservesCache pair with
    | none => rfl
    | some r => exact absurd (h.reserves pair r hr) hp
  · cases hb : cfg.balanceCache (pair, t) with
    | none => rfl
    | some b => exact absurd (h.balances pair t b hb) hp

/-- Every entry of `pair_cache` is backed by the other caches: it was built under one of the
two tokens of a pair from a probe that succeeded, and the caches hold that pair as the same
probe read it. -/
def Agrees (vm : ProbeVM) (cfg : OffChainConfig) : Prop :=
  ∀ t e, e ∈ cfg.pairCache t → ∃ Q q, probePair vm Q = .ok q ∧ (t = q.token0 ∨ t = q.token1) ∧
    e = seenFrom t (pairDataOf Q q) ∧ Cached cfg Q q

theorem agrees_new (pairs : List EVMAddress) : Agrees vm (new pairs) :=
  fun _ _ h => absurd h (List.not_mem_nil _)

/-- The writes of one pair keep the caches in step: a pair written again is written from the
same probe. -/
theorem Agrees.cachePair {cfg : OffChainConfig} {Q : EVMAddress} {q : PairProbe} (h : Agrees vm cfg)
    (hq : probePair vm Q = .ok q) : Agrees vm (cfg.cachePair Q q) := fun t e he => by
  rcases mem_cachePair_pairCache.1 he with he | ⟨ht, rfl⟩
  · obtain ⟨Q', q', hq', ht, rfl, hc⟩ := h t e he
    rcases eq_or_ne Q' Q with rfl | hQ
    · obtain rfl := Except.ok.inj (hq'.symm.trans hq)
      exact ⟨_, _, hq, ht, rfl, cachePair_cached⟩
    · exact ⟨Q', q', hq', ht, rfl, hc.cachePair_ne hQ.symm q⟩
  · exact ⟨Q, q, hq, ht, rfl, cachePair_cached⟩

theorem Agrees.initializeFrom :
    ∀ {pairs : List EVMAddress} {cfg cfg' : OffChainConfig} {r : Except CacheFailure Unit},
      Agrees vm cfg → OffChainConfig.initializeFrom vm pairs cfg = (cfg', r) → Agrees vm cfg'
  | [], _, _, _, h, hrun => by cases hrun; exact h
  | _ :: _, _, _, _, h, hrun => by
    simp only [OffChainConfig.initializeFrom] at hrun
    split at hrun
    · obtain ⟨pq, hpq, rfl⟩ := buildCache_eq_ok ‹_›
      exact (h.cachePair hpq).initializeFrom hrun
    · cases hrun
      exact h

end Run

end OffChainConfig

end ITY
