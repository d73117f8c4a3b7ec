import Ityfuzz.Spec.Flashloan

/-! What one call of the middleware does to the ledger, said once. `onStep_eq` puts
`onStep` in a normal form: it panics exactly when the stack holds fewer words than the
step reads (`stepReads`), and otherwise applies `stepEffect`, which credits
`stepCredit` to `earned` and flags at most one address in each re-check set. Every
invariant of the ledger is derived from this lemma and from the field lemmas of
`analyzeCall`, never by unfolding the methods again. `onContractInsertion` gets the same
treatment: a known address is a no-op, and a fresh one is classified by two verdicts. -/

namespace ITY

/-- How many stack words `onStep` reads on this step. -/
def Flashloan.stepReads (fl : Flashloan) (interp : Interpreter) : Nat :=
  if interp.instruction = 0xf1 then 3
  else if interp.instruction = 0xfa then 2
  else if interp.instruction = 0x55 ∧ interp.address ∈ fl.pairAddress then 1
  else 0

def Interpreter.word (interp : Interpreter) (n : Nat) : EVMU256 := interp.stack.getD n 0

/-- The value `onStep` credits to `earned`: the value word of a CALL to a registered caller. -/
def stepCredit (interp : Interpreter) (callers : List EVMAddress) : EVMU256 :=
  if interp.instruction = 0xf1 ∧ 0 < interp.word 2 ∧
      convertU256ToH160 (interp.word 1) ∈ callers then interp.word 2
  else 0

def Flashloan.stepEffect (fl : Flashloan) (interp : Interpreter) (callers : List EVMAddress)
    (d : FlashloanData) : FlashloanData where
  oracleRecheckReserve :=
    if interp.instruction = 0x55 ∧ interp.address ∈ fl.pairAddress ∧ interp.word 0 = 8 then
      d.oracleRecheckReserve.insert interp.address
    else d.oracleRecheckReserve
  oracleRecheckBalance :=
    if (interp.instruction = 0xf1 ∨ interp.instruction = 0xfa) ∧
        convertU256ToH160 (interp.word 1) ∈ fl.erc20Address then
      d.oracleRecheckBalance.insert (convertU256ToH160 (interp.word 1))
    else d.oracleRecheckBalance
  owed := d.owed
  earned := d.earned + (stepCredit interp callers).setWidth 512 * scale

theorem all_contains_iff (sigs names : List String) :
    sigs.all names.contains = true ↔ sigs ⊆ names := by
  simp [List.all_eq_true, List.subset_def]

def isPairAbi (abi : List ABIConfig) : Bool :=
  abiSignaturesPair.all (abi.map (·.functionName)).contains

/-- Whether a first insertion registers the address as an ERC-20. -/
def erc20Verdict (endpoint : Option OnChainConfig) (abi : List ABIConfig) (oracleFree : Bool) :
    Bool :=
  abiSignaturesToken.all (abi.map (·.functionName)).contains && endpoint.isSome && oracleFree

section

variable {fl : Flashloan} {addr a : EVMAddress} {abi : List ABIConfig} {free : Bool}

theorem onContractInsertion_known (h : addr ∈ fl.knownAddresses) :
    fl.onContractInsertion addr abi free = (fl, false, false) := by
  simp [Flashloan.onContractInsertion, h]

theorem onContractInsertion_fresh (abi : List ABIConfig) (free : Bool) (a : EVMAddress)
    (h : addr ∉ fl.knownAddresses) :
    let r := fl.onContractInsertion addr abi free
    r.1.knownAddresses = fl.knownAddresses.insert addr ∧ r.1.endpoint = fl.endpoint ∧
    (a ∈ r.1.erc20Address ↔ a ∈ fl.erc20Address ∨ erc20Verdict fl.endpoint abi free ∧ a = addr) ∧
    (a ∈ r.1.pairAddress ↔ a ∈ fl.pairAddress ∨ isPairAbi abi ∧ a = addr) ∧
    r.2 = (erc20Verdict fl.endpoint abi free, isPairAbi abi) := by
  simp only [Flashloan.onContractInsertion, h, if_false, erc20Verdict, isPairAbi]
  rcases hE : fl.endpoint with _ | e <;>
    cases free <;> by_cases ht : abiSignaturesToken.all (abi.map (·.functionName)).contains <;>
    by_cases hp : abiSignaturesPair.all (abi.map (·.functionName)).contains <;>
    simp [Flashloan.getTokenContext, hE, ht, hp, or_comm]

end

section

variable {fl : Flashloan} {interp : Interpreter} {callers : List EVMAddress}
  {d d' : FlashloanData}

theorem onStep_eq : fl.onStep interp callers d =
    if fl.stepReads interp ≤ interp.stack.length then some (fl.stepEffect interp callers d)
    else none := by
  obtain ⟨op, st, addr⟩ := interp
  by_cases h1 : op = 0xf1
  · subst h1
    rcases st with _ | ⟨a, _ | ⟨b, _ | ⟨c, st⟩⟩⟩ <;>
      simp [Flashloan.onStep, Flashloan.stepReads, Flashloan.stepEffect, stepCredit,
        Interpreter.peek, Interpreter.word]
    split_ifs <;> simp
  by_cases h2 : op = 0xfa
  · subst h2
    rcases st with _ | ⟨a, _ | ⟨b, st⟩⟩ <;>
      simp [Flashloan.onStep, Flashloan.stepReads, Flashloan.stepEffect, stepCredit,
        Interpreter.peek, Interpreter.word]
    split_ifs <;> simp
  by_cases h3 : op = 0x55
  · subst h3
    by_cases hp : addr ∈ fl.pairAddress
    · rcases st with _ | ⟨a, st⟩ <;>
        simp [Flashloan.onStep, Flashloan.stepReads, Flashloan.stepEffect, stepCredit,
          Interpreter.peek, Interpreter.word, hp]
      split_ifs <;> simp
    · simp [Flashloan.onStep, Flashloan.stepReads, Flashloan.stepEffect, stepCredit, hp]
  · simp [Flashloan.onStep, Flashloan.stepReads, Flashloan.stepEffect, stepCredit, h1, h2, h3]

theorem onStep_some (h : fl.onStep interp callers d = some d') :
    d' = fl.stepEffect interp callers d := by
  rw [onStep_eq] at h
  split_ifs at h
  exact (Option.some.inj h).symm

theorem onStep_isSome_iff :
    (fl.onStep interp callers d).isSome ↔ fl.stepReads interp ≤ interp.stack.length := by
  rw [onStep_eq]; split_ifs <;> simp [*]

@[simp] theorem analyzeCall_owed (input : EVMInput) :
    (fl.analyzeCall input d).owed = d.owed + (input.txnValue.getD 0).setWidth 512 * scale := by
  unfold Flashloan.analyzeCall
  cases input.txnValue <;> dsimp only <;> split_ifs <;> simp

@[simp] theorem analyzeCall_earned (input : EVMInput) :
    (fl.analyzeCall input d).earned = d.earned := by
  unfold Flashloan.analyzeCall
  cases input.txnValue <;> dsimp only <;> split_ifs <;> rfl

theorem analyzeCall_recheck_balance (input : EVMInput) :
    (fl.analyzeCall input d).oracleRecheckBalance =
      if input.contract ∈ fl.erc20Address then d.oracleRecheckBalance.insert input.contract
      else d.oracleRecheckBalance := by
  unfold Flashloan.analyzeCall
  cases input.txnValue <;> dsimp only <;> split_ifs <;> rfl

theorem analyzeCall_recheck_reserve (input : EVMInput) :
    (fl.analyzeCall input d).oracleRecheckReserve =
      if input.contract ∈ fl.pairAddress then d.oracleRecheckReserve.insert input.contract
      else d.oracleRecheckReserve := by
  unfold Flashloan.analyzeCall
  cases input.txnValue <;> dsimp only <;> split_ifs <;> rfl

end

end ITY
