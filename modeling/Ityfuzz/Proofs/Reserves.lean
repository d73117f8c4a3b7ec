import Ityfuzz.Spec.FetchPath
import Ityfuzz.Proofs.Routes

/-! The reserve strings of path discovery, read twice. `add_reserve_info` reads them with
`i128::from_str_radix(s, 16)` and compares them against `10^(decimals - 1)` computed in
`EVMU256`, which wraps: from `257` decimals on the threshold is `0` and any positive reserve
passes (`addReserveInfo_significance`). `fetch_uniswap_path` decodes the same strings with
`hex::decode`, which refuses what `from_str_radix` accepts on an odd length or with a sign
(`decodeReserve_of_accepted`). -/

namespace ITY

theorem toDigit_lt {c : Char} {r d : Nat} (h : toDigit c r = some d) : d < r := by
  have key : ∀ k : Nat, (if k < r then some k else none) = some d → d < r := fun k hk => by
    split at hk
    · cases hk; assumption
    · cases hk
  exact key _ h

/-- `hex::decode` succeeds exactly on an even number of hex digits. -/
theorem hexDecodeChars_isSome : ∀ cs : List Char,
    (hexDecodeChars cs).isSome ↔ cs.length % 2 = 0 ∧ ∀ c ∈ cs, (toDigit c 16).isSome
  | [] => by simp [hexDecodeChars]
  | [_] => by simp [hexDecodeChars]
  | a :: b :: rest => by
    have ih := hexDecodeChars_isSome rest
    have hlen : (a :: b :: rest).length % 2 = rest.length % 2 := by simp; omega
    rw [hlen]
    cases ha : toDigit a 16 <;> cases hb : toDigit b 16 <;> cases hr : hexDecodeChars rest <;>
      simp_all [hexDecodeChars]

theorem hexDecodeChars_cons_cons {a b : Char} {rest : List Char} {bytes : List UInt8} :
    hexDecodeChars (a :: b :: rest) = some bytes ↔ ∃ x y t, toDigit a 16 = some x ∧
      toDigit b 16 = some y ∧ hexDecodeChars rest = some t ∧ UInt8.ofNat (16 * x + y) :: t = bytes := by
  simp only [hexDecodeChars, Option.bind_eq_bind, Option.bind_eq_some, Option.pure_def,
    Option.some.injEq, exists_and_left]

theorem foldlM_digits_of_hexDecodeChars : ∀ {cs : List Char} {bytes : List UInt8},
    hexDecodeChars cs = some bytes → ∀ acc,
      cs.foldlM (fun acc c => (toDigit c 16).map (acc * 16 + ·)) acc =
        some (bytes.foldl (fun acc b => acc * 256 + b.toNat) acc)
  | [], _, h, acc => by cases h; rfl
  | [_], _, h, _ => by cases h
  | a :: b :: rest, bytes, h, acc => by
    obtain ⟨x, y, t, ha, hb, hr, rfl⟩ := hexDecodeChars_cons_cons.1 h
    have hbyte : (UInt8.ofNat (16 * x + y)).toNat = 16 * x + y :=
      Nat.mod_eq_of_lt (by have := toDigit_lt ha; have := toDigit_lt hb; omega)
    simp only [List.foldlM_cons, ha, hb, Option.map_some', Option.some_bind, List.foldl_cons,
      hbyte, Option.bind_eq_bind]
    rw [foldlM_digits_of_hexDecodeChars hr]
    congr 2
    omega

theorem digitsValue_of_hexDecode {s : String} {bytes : List UInt8} (h : hexDecode s = some bytes) :
    digitsValue s.toList 16 = some (beValue bytes) :=
  foldlM_digits_of_hexDecodeChars h 0

theorem i128FromStrRadix_of_digits {s : String} {v : Int} (hv : i128FromStrRadix s 16 = some v)
    (hd : ∀ c ∈ s.toList, (toDigit c 16).isSome) :
    ∃ n, digitsValue s.toList 16 = some n ∧ n < 2 ^ 127 ∧ v = n := by
  have hplus : (toDigit '+' 16).isSome = false := by decide
  have hminus : (toDigit '-' 16).isSome = false := by decide
  unfold i128FromStrRadix at hv
  split at hv
  · cases hv
  · cases hv
  · cases hv
  · rename_i hs
    exact absurd (hd '-' (by rw [hs]; exact List.mem_cons_self _ _)) (by simp [hminus])
  · rename_i hs
    exact absurd (hd '+' (by rw [hs]; exact List.mem_cons_self _ _)) (by simp [hplus])
  · obtain ⟨n, hn, h⟩ := Option.bind_eq_some.1 hv
    split at h
    · cases h; exact ⟨n, hn, by assumption, rfl⟩
    · cases h

/-- The significance threshold of `decimals` as the spec states it: `10^(decimals - 1)` as a
natural number, and `0` for no decimals. -/
def minReserve (d : UInt32) : Nat := if d = 0 then 0 else 10 ^ (d.toNat - 1)

/-- The threshold `add_reserve_info` computes in `EVMU256` is `minReserve` wrapped to 256 bits. -/
theorem threshold_toNat (d : UInt32) :
    (if d = 0 then (0 : EVMU256) else u256Pow 10 (BitVec.ofNat 256 (d - 1).toNat)).toNat =
      minReserve d % 2 ^ 256 := by
  unfold minReserve
  split
  · simp
  · rename_i hd
    have hpos : d.toNat ≠ 0 := fun h => hd (UInt32.toNat.inj (by simpa using h))
    have h1 : (d - 1).toNat = d.toNat - 1 :=
      UInt32.toNat_sub_of_le d 1 (by rw [UInt32.le_def, BitVec.le_def]; change 1 ≤ d.toNat; omega)
    have hlt : d.toNat - 1 < 2 ^ 256 := by
      have := UInt32.toNat_lt_size d
      have hsize : UInt32.size = 4294967296 := rfl
      omega
    rw [u256Pow, BitVec.toNat_ofNat, BitVec.toNat_ofNat, h1, Nat.mod_eq_of_lt hlt]
    rfl

theorem pow_le_ten_pow_mod {e : Nat} (he : e < 256) : 2 ^ e ≤ 10 ^ e % 2 ^ 256 := by
  have hsplit : 2 ^ 256 = 2 ^ e * 2 ^ (256 - e) := by rw [← Nat.pow_add]; congr 1; omega
  have hten : 10 ^ e = 2 ^ e * 5 ^ e := by rw [← Nat.mul_pow]
  rw [hsplit, hten, Nat.mul_mod_mul_left]
  have hodd : 5 ^ e % 2 ^ (256 - e) ≠ 0 := by
    intro h0
    have h2 : 2 ^ 1 ∣ 2 ^ (256 - e) := Nat.pow_dvd_pow 2 (by omega)
    have := Nat.mod_mod_of_dvd (5 ^ e) h2
    rw [h0, Nat.pow_mod] at this
    simp at this
  exact Nat.le_mul_of_pos_right _ (Nat.pos_of_ne_zero hodd)

theorem ten_pow_mod_of_le {e : Nat} (he : 256 ≤ e) : 10 ^ e % 2 ^ 256 = 0 := by
  apply Nat.mod_eq_zero_of_dvd
  rw [show 10 ^ e = 2 ^ e * 5 ^ e by rw [← Nat.mul_pow]]
  exact Nat.dvd_trans (Nat.pow_dvd_pow 2 he) (Nat.dvd_mul_right _ _)

theorem ten_pow_mod_mid : ∀ e < 49, 2 ^ 127 ≤ 10 ^ (e + 78) % 2 ^ 256 := by decide

/-- Against a reserve below `2^127` the wrapped threshold gives the exact verdict up to `256`
decimals; from `257` decimals on it is `0`. -/
theorem lt_minReserve_mod_iff (d : UInt32) {r : Nat} (hr : r < 2 ^ 127) :
    minReserve d % 2 ^ 256 < r ↔ if 257 ≤ d.toNat then 0 < r else minReserve d < r := by
  unfold minReserve
  by_cases hd : d = 0
  · simp [hd]
  · have hpos : d.toNat ≠ 0 := fun h => hd (UInt32.toNat.inj (by simpa using h))
    simp only [hd, if_false]
    by_cases hsmall : d.toNat - 1 < 78
    · have : 10 ^ (d.toNat - 1) < 2 ^ 256 :=
        lt_of_le_of_lt (Nat.pow_le_pow_right (by decide) (by omega : d.toNat - 1 ≤ 77)) (by decide)
      rw [Nat.mod_eq_of_lt this, if_neg (by omega)]
    · by_cases hbig : 257 ≤ d.toNat
      · rw [ten_pow_mod_of_le (by omega), if_pos hbig]
      · rw [if_neg hbig]
        have hexact : 2 ^ 127 ≤ 10 ^ (d.toNat - 1) :=
          le_trans (by decide : 2 ^ 127 ≤ 10 ^ 78) (Nat.pow_le_pow_right (by decide) (by omega))
        have hwrap : 2 ^ 127 ≤ 10 ^ (d.toNat - 1) % 2 ^ 256 := by
          by_cases h127 : 127 ≤ d.toNat - 1
          · exact le_trans (Nat.pow_le_pow_right (by decide) h127) (pow_le_ten_pow_mod (by omega))
          · have := ten_pow_mod_mid (d.toNat - 1 - 78) (by omega)
            rwa [show d.toNat - 1 - 78 + 78 = d.toNat - 1 by omega] at this
        constructor <;> intro h <;> omega

theorem i128FromStrRadix_lt {s : String} {r : Nat} {v : Int} (hv : i128FromStrRadix s r = some v) :
    v < 2 ^ 127 := by
  unfold i128FromStrRadix at hv
  split at hv
  all_goals
    first
    | cases hv
    | obtain ⟨n, -, h⟩ := Option.bind_eq_some.1 hv
      split at h
      · cases h; omega
      · cases h

theorem verdict_eq (d : UInt32) {r : Int} (hr : 0 ≤ r) (hlt : r < 2 ^ 127) :
    decide ((if d = 0 then (0 : EVMU256) else u256Pow 10 (BitVec.ofNat 256 (d - 1).toNat)) <
      BitVec.ofNat 256 r.toNat) =
    decide (if 257 ≤ d.toNat then 0 < r.toNat else minReserve d < r.toNat) := by
  have hn : r.toNat < 2 ^ 127 := by omega
  rw [decide_eq_decide, BitVec.lt_def, threshold_toNat, BitVec.toNat_ofNat,
    Nat.mod_eq_of_lt (by omega : r.toNat < 2 ^ 256)]
  exact lt_minReserve_mod_iff d hn

/-- `add_reserve_info` on a pair other than `pegged_weth`, whose reserve strings read as
non-negative `r0` and `r1`: it stores the strings, and a side is significant when its reserve
exceeds `10^(decimals - 1)`, except that a side of `257` decimals or more passes with any
positive reserve. -/
theorem addReserveInfo_significance (onchain : OnChainConfig) (p : PairData) (r0 r1 : Int)
    (hsrc : p.src ≠ "pegged_weth")
    (h0 : i128FromStrRadix (onchain.fetchReserve p.pair).1 16 = some r0)
    (h1 : i128FromStrRadix (onchain.fetchReserve p.pair).2 16 = some r1)
    (hr0 : 0 ≤ r0) (hr1 : 0 ≤ r1) :
    addReserveInfo onchain p =
      some ({ p with initialReserves0 := (onchain.fetchReserve p.pair).1,
                     initialReserves1 := (onchain.fetchReserve p.pair).2 },
        decide (if 257 ≤ p.decimals0.toNat then 0 < r0.toNat else minReserve p.decimals0 < r0.toNat) &&
        decide (if 257 ≤ p.decimals1.toNat then 0 < r1.toNat else minReserve p.decimals1 < r1.toNat)) := by
  simp only [addReserveInfo, if_neg hsrc, h0, h1, u256OfI128, if_pos hr0, if_pos hr1, Option.some_bind,
    Option.bind_eq_bind, Option.pure_def]
  rw [verdict_eq _ hr0 (i128FromStrRadix_lt h0), verdict_eq _ hr1 (i128FromStrRadix_lt h1)]

/-- A pair whose token0 reports `257` decimals, with reserves `1` and `1`. -/
def highDecimalsPair : PairData :=
  { v2Pair "0x01" "0xbb" with decimals0 := 257 }

def unitReserves : OnChainConfig where
  chainName := "eth"
  getPair _ _ _ _ := []
  fetchReserve _ := ("1", "1")
  fetchUniswapPathCached a := ⟨[], false, 0, a⟩

theorem addReserveInfo_significance_high_decimals :
    highDecimalsPair.src ≠ "pegged_weth" ∧
    i128FromStrRadix (unitReserves.fetchReserve highDecimalsPair.pair).1 16 = some 1 ∧
    i128FromStrRadix (unitReserves.fetchReserve highDecimalsPair.pair).2 16 = some 1 ∧
    addReserveInfo unitReserves highDecimalsPair =
      some ({ highDecimalsPair with
          initialReserves0 := (unitReserves.fetchReserve highDecimalsPair.pair).1,
          initialReserves1 := (unitReserves.fetchReserve highDecimalsPair.pair).2 },
        decide (if 257 ≤ highDecimalsPair.decimals0.toNat then 0 < (1 : Int).toNat
          else minReserve highDecimalsPair.decimals0 < (1 : Int).toNat) &&
        decide (if 257 ≤ highDecimalsPair.decimals1.toNat then 0 < (1 : Int).toNat
          else minReserve highDecimalsPair.decimals1 < (1 : Int).toNat)) ∧
    (addReserveInfo unitReserves highDecimalsPair).map (·.2) = some true ∧
    ¬ minReserve highDecimalsPair.decimals0 < 1 :=
  ⟨by decide, by decide, by decide,
    addReserveInfo_significance unitReserves highDecimalsPair 1 1 (by decide) (by decide) (by decide)
      (by decide) (by decide), by decide, by decide⟩
end ITY
