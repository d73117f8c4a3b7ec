import Ityfuzz.Sanity.Step

/-! The flash-loan ledger over a whole run. `owed` and `earned` are `U512` words and every
increment is a `U256` value times `10^6`, below `2^276`: the first `2^236` events cannot
wrap either word, so read as natural numbers `owed` is `10^6` times the sum of the analysed
transaction values and `earned` `10^6` times the sum of the credited call values
(`Ledger`). Monotonicity from one event to the next is a corollary. -/

namespace ITY

/-- One call of the middleware on the ledger, under the middleware state it runs with. -/
inductive LedgerEvent
  | analyzeCall (fl : Flashloan) (input : EVMInput)
  | onStep (fl : Flashloan) (interp : Interpreter) (callers : List EVMAddress)

def LedgerEvent.apply : LedgerEvent → FlashloanData → Option FlashloanData
  | .analyzeCall fl input, d => some (fl.analyzeCall input d)
  | .onStep fl interp callers, d => fl.onStep interp callers d

/-- The ledger after a run; `none` once some `onStep` panics. -/
def ledgerRun : List LedgerEvent → FlashloanData → Option FlashloanData
  | [], d => some d
  | e :: es, d => (e.apply d).bind (ledgerRun es)

def analysedValues (evs : List LedgerEvent) : List EVMU256 :=
  evs.filterMap fun
    | .analyzeCall _ input => input.txnValue
    | .onStep .. => none

def creditedValues (evs : List LedgerEvent) : List EVMU256 :=
  evs.filterMap fun
    | .analyzeCall .. => none
    | .onStep _ interp callers => some (stepCredit interp callers)

@[simp] theorem analysedValues_snoc_analyzeCall (evs : List LedgerEvent) (fl : Flashloan)
    (input : EVMInput) :
    analysedValues (evs ++ [.analyzeCall fl input]) = analysedValues evs ++ input.txnValue.toList := by
  cases h : input.txnValue <;> simp [analysedValues, h]

@[simp] theorem analysedValues_snoc_onStep (evs : List LedgerEvent) (fl : Flashloan)
    (interp : Interpreter) (callers : List EVMAddress) :
    analysedValues (evs ++ [.onStep fl interp callers]) = analysedValues evs := by
  simp [analysedValues]

@[simp] theorem creditedValues_snoc_analyzeCall (evs : List LedgerEvent) (fl : Flashloan)
    (input : EVMInput) : creditedValues (evs ++ [.analyzeCall fl input]) = creditedValues evs := by
  simp [creditedValues]

@[simp] theorem creditedValues_snoc_onStep (evs : List LedgerEvent) (fl : Flashloan)
    (interp : Interpreter) (callers : List EVMAddress) :
    creditedValues (evs ++ [.onStep fl interp callers]) =
      creditedValues evs ++ [stepCredit interp callers] := by
  simp [creditedValues]

structure Ledger (evs : List LedgerEvent) (d : FlashloanData) : Prop where
  owed : d.owed.toNat = 10 ^ 6 * ((analysedValues evs).map BitVec.toNat).sum
  earned : d.earned.toNat = 10 ^ 6 * ((creditedValues evs).map BitVec.toNat).sum

theorem ledgerRun_snoc (evs : List LedgerEvent) (e : LedgerEvent) (d : FlashloanData) :
    ledgerRun (evs ++ [e]) d = (ledgerRun evs d).bind e.apply := by
  induction evs generalizing d with
  | nil => cases h : e.apply d <;> simp [ledgerRun, h]
  | cons e' evs ih => cases h : e'.apply d <;> simp [ledgerRun, h, ih]

theorem scale_toNat : scale.toNat = 10 ^ 6 := by simp [scale]; omega

theorem add_scaled_toNat (a : EVMU512) (v : EVMU256) (h : a.toNat + v.toNat * 10 ^ 6 < 2 ^ 512) :
    (a + v.setWidth 512 * scale).toNat = a.toNat + v.toNat * 10 ^ 6 := by
  have hv := v.isLt
  rw [BitVec.toNat_add, BitVec.toNat_mul, BitVec.toNat_setWidth, scale_toNat,
    Nat.mod_eq_of_lt (by omega : v.toNat < 2 ^ 512),
    Nat.mod_eq_of_lt (by omega : v.toNat * 10 ^ 6 < 2 ^ 512), Nat.mod_eq_of_lt h]

theorem sum_toNat_le (vs : List EVMU256) : (vs.map BitVec.toNat).sum ≤ vs.length * (2 ^ 256 - 1) := by
  induction vs with
  | nil => simp
  | cons v vs ih => have := v.isLt; simp only [List.map_cons, List.sum_cons, List.length_cons]; omega

/-- A sum of at most `n` words, scaled and increased by one more word, stays below `2^512`
while `n < 2^236`. -/
theorem scaled_sum_lt (vs : List EVMU256) (v : EVMU256) (n : Nat) (hvs : vs.length ≤ n)
    (hn : n + 1 ≤ 2 ^ 236) : 10 ^ 6 * (vs.map BitVec.toNat).sum + v.toNat * 10 ^ 6 < 2 ^ 512 := by
  have h1 := sum_toNat_le vs
  have h2 : vs.length * (2 ^ 256 - 1) ≤ n * (2 ^ 256 - 1) := Nat.mul_le_mul_right _ hvs
  have := v.isLt
  omega

theorem ledger_step {evs : List LedgerEvent} {e : LedgerEvent} {d d' : FlashloanData}
    (hL : Ledger evs d) (hn : (evs ++ [e]).length ≤ 2 ^ 236) (he : e.apply d = some d') :
    Ledger (evs ++ [e]) d' := by
  rw [List.length_append, List.length_singleton] at hn
  cases e with
  | analyzeCall fl input =>
    obtain rfl := (Option.some.inj he).symm
    have hlen : (analysedValues evs).length ≤ evs.length := List.length_filterMap_le _ _
    refine ⟨?_, by simpa using hL.earned⟩
    rw [analyzeCall_owed, add_scaled_toNat _ _ (hL.owed ▸ scaled_sum_lt _ _ _ hlen hn), hL.owed]
    cases h : input.txnValue <;> simp [h, List.sum_append]
    omega
  | onStep fl interp callers =>
    obtain rfl := onStep_some he
    have hlen : (creditedValues evs).length ≤ evs.length := List.length_filterMap_le _ _
    refine ⟨by simpa [Flashloan.stepEffect] using hL.owed, ?_⟩
    simp only [Flashloan.stepEffect]
    rw [add_scaled_toNat _ _ (hL.earned ▸ scaled_sum_lt _ _ _ hlen hn), hL.earned]
    simp [List.sum_append]; omega

theorem ledger_of_run (evs : List LedgerEvent) (d : FlashloanData) (hn : evs.length ≤ 2 ^ 236)
    (h : ledgerRun evs FlashloanData.new = some d) : Ledger evs d := by
  induction evs using List.reverseRecOn generalizing d with
  | nil =>
    obtain rfl := (Option.some.inj h).symm
    exact ⟨by simp [FlashloanData.new, analysedValues], by simp [FlashloanData.new, creditedValues]⟩
  | append_singleton evs e ih =>
    rw [ledgerRun_snoc, Option.bind_eq_some] at h
    obtain ⟨d₀, h₀, he⟩ := h
    exact ledger_step (ih d₀ (by simp at hn; omega) h₀) hn he

/-- Along every run of at most `2^236` events from `FlashloanData::new()`, `owed` is exactly
`10^6` times the analysed transaction values, `onStep` never changes it, and neither
`owed` nor `earned` decreases from one event to the next. -/
theorem ledger_exact_monotone (evs : List LedgerEvent) (e : LedgerEvent) (d d' : FlashloanData)
    (hn : (evs ++ [e]).length ≤ 2 ^ 236) (hrun : ledgerRun evs FlashloanData.new = some d)
    (he : e.apply d = some d') :
    d.owed.toNat = 10 ^ 6 * ((analysedValues evs).map BitVec.toNat).sum ∧
    d'.owed.toNat = 10 ^ 6 * ((analysedValues (evs ++ [e])).map BitVec.toNat).sum ∧
    (∀ fl interp callers, e = .onStep fl interp callers → d'.owed = d.owed) ∧
    d.owed.toNat ≤ d'.owed.toNat ∧ d.earned.toNat ≤ d'.earned.toNat := by
  have hL := ledger_of_run evs d (by simp at hn; omega) hrun
  have hL' := ledger_step hL hn he
  refine ⟨hL.owed, hL'.owed, ?_, ?_, ?_⟩
  · rintro fl interp callers rfl
    rw [onStep_some he]; rfl
  · rw [hL.owed, hL'.owed]
    apply Nat.mul_le_mul_left
    cases e <;> simp [List.sum_append]
  · rw [hL.earned, hL'.earned]
    apply Nat.mul_le_mul_left
    cases e <;> simp [List.sum_append]

/-- An analysed input of value `5`, then a CALL of value `3` to the registered caller `1`. -/
def callRun : List LedgerEvent :=
  [.analyzeCall (Flashloan.new none ⟨[], []⟩) ⟨.ABI, 0, 0, none, 0, some 5, false, 0, [], [0], 1⟩,
    .onStep (Flashloan.new none ⟨[], []⟩) ⟨0xf1, [0, 1, 3], 0⟩ [1]]

def callStep : LedgerEvent := .onStep (Flashloan.new none ⟨[], []⟩) ⟨0xf1, [0, 1, 2], 0⟩ [1]

/-- After `callRun`, `callStep` leaves `owed = 5·10^6` and raises `earned` from `3·10^6` to
`5·10^6`. -/
theorem ledger_exact_monotone_callRun :
    ∃ d d', ledgerRun callRun FlashloanData.new = some d ∧ callStep.apply d = some d' ∧
      d.owed.toNat = 10 ^ 6 * 5 ∧ d'.owed = d.owed ∧ d.earned.toNat = 10 ^ 6 * 3 ∧
      d'.earned.toNat = 10 ^ 6 * 5 ∧ d.owed.toNat ≤ d'.owed.toNat ∧ d.earned.toNat ≤ d'.earned.toNat := by
  obtain ⟨hd, -, hon, howed, hearned⟩ :=
    ledger_exact_monotone callRun callStep _ _ (by decide) rfl rfl
  have hL := ledger_of_run callRun _ (by decide) rfl
  exact ⟨_, _, rfl, rfl, hd.trans (by decide), hon _ _ _ rfl, hL.earned.trans (by decide),
    (ledger_step hL (e := callStep) (by decide) rfl).earned.trans (by decide), howed, hearned⟩

/-! What `onStep` does off the CALL path: CALLCODE reaches the first `match`'s returning
arm, although the second `match` reads a value for `0xf2`; and a stack shorter than
`stepReads` panics in an `unwrap`. -/

theorem onStep_callcode {fl : Flashloan} {interp : Interpreter} (callers : List EVMAddress)
    (d : FlashloanData) (h : interp.instruction = 0xf2) : fl.onStep interp callers d = some d := by
  rw [onStep_eq]
  simp [Flashloan.stepReads, Flashloan.stepEffect, stepCredit, h]

/-- A CALLCODE of value `1` to a registered caller that is also a known ERC-20 leaves the
ledger as it was: nothing credited, nothing flagged. -/
theorem onStep_callcode_ignored :
    ({ Flashloan.new none ⟨[], []⟩ with erc20Address := [1] }).onStep ⟨0xf2, [0, 1, 1], 0⟩ [1]
      FlashloanData.new = some FlashloanData.new :=
  onStep_callcode _ _ rfl

/-- A CALL reached with an empty stack panics in `interp.stack.peek(2).unwrap()`. -/
theorem onStep_call_empty_stack_panics :
    (Flashloan.new none ⟨[], []⟩).onStep ⟨0xf1, [], 0⟩ [] FlashloanData.new = none := rfl

end ITY
