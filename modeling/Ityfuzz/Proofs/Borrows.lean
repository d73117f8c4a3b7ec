import Ityfuzz.Proofs.Artifacts
import Ityfuzz.Proofs.Routes

/-! The Borrow inputs of the corpus and the tokens of the flash-loan middleware.

`handle_contract_insertion!` adds a Borrow input for an address exactly when
`on_contract_insertion` has just put it in `erc20_address`; `on_pair_insertion` and `add_abi`
touch neither side. So along `initialize_corpus` the Borrow inputs of the corpus target exactly
the addresses the middleware holds as ERC-20 tokens (`BorrowsAgree`), and `analyze_call` on any
of them marks its token for a balance recheck (`initializeCorpus_borrows_erc20`). -/

namespace ITY

/-- The Borrow inputs of the corpus target exactly the addresses the middleware has registered
as ERC-20 tokens. -/
def BorrowsAgree (st : CorpusState) : Prop :=
  ∀ fl, st.flashloan = some fl →
    ∀ t, (∃ i ∈ st.corpus, i.inputType = .Borrow ∧ i.contract = t) ↔ t ∈ fl.erc20Address

theorem exists_borrow_append (l : List EVMInput) (x : EVMInput) (t : EVMAddress) :
    (∃ i ∈ l ++ [x], i.inputType = .Borrow ∧ i.contract = t) ↔
      (∃ i ∈ l, i.inputType = .Borrow ∧ i.contract = t) ∨ (x.inputType = .Borrow ∧ x.contract = t) := by
  simp only [List.mem_append, List.mem_singleton, or_and_right, exists_or, exists_eq_left]

namespace CorpusState

variable {env : InitEnv} {st : CorpusState}

theorem onPairInsertion_erc20Address (fl : Flashloan) (pair : EVMAddress) :
    (onPairInsertion env fl pair).erc20Address = fl.erc20Address := by
  unfold onPairInsertion; split <;> rfl

/-- `add_abi` adds no Borrow input and leaves the middleware alone. -/
theorem addAbi_borrows (a : ABIConfig) (addr : EVMAddress) :
    (addAbi env st a addr).flashloan = st.flashloan ∧
      ∀ t, (∃ i ∈ (addAbi env st a addr).corpus, i.inputType = .Borrow ∧ i.contract = t) ↔
        ∃ i ∈ st.corpus, i.inputType = .Borrow ∧ i.contract = t := by
  unfold addAbi
  split
  · exact ⟨rfl, fun _ => Iff.rfl⟩
  split
  · exact ⟨rfl, fun _ => Iff.rfl⟩
  · refine ⟨rfl, fun t => ?_⟩
    rw [addInput, exists_borrow_append]
    simp

theorem addAbis_borrowsAgree (addr : EVMAddress) :
    ∀ (abi : List ABIConfig) (st : CorpusState), BorrowsAgree st → BorrowsAgree (addAbis env addr abi st)
  | [], _, h => h
  | a :: abi, st, h => by
    cases hs : skipFunction a.functionName
    · rw [addAbis_cons_add hs]
      refine addAbis_borrowsAgree addr abi _ fun fl hfl t => ?_
      obtain ⟨hf, hc⟩ := @addAbi_borrows env st a addr
      rw [hc]
      exact h fl (hf ▸ hfl) t
    · rw [addAbis_cons_skip hs]
      exact addAbis_borrowsAgree addr abi st h

/-- `handle_contract_insertion!` adds a Borrow input exactly for the address it registers. -/
theorem handleContractInsertion_borrowsAgree (k : Nat) (addr : EVMAddress) (abi : List ABIConfig)
    (h : BorrowsAgree st) : BorrowsAgree (handleContractInsertion env k st addr abi) := by
  unfold handleContractInsertion
  rcases hfl : st.flashloan with _ | fl
  · exact fun fl' hfl' => h fl' (hfl ▸ hfl')
  by_cases hk : addr ∈ fl.knownAddresses
  · simp only [onContractInsertion_known hk, Bool.false_eq_true, if_false]
    exact fun fl' hfl' => h fl' (hfl ▸ hfl')
  obtain ⟨-, -, -, -, hr⟩ := onContractInsertion_fresh abi (env.oracleFree k) addr hk
  have herc := fun a => (onContractInsertion_fresh abi (env.oracleFree k) a hk).2.2.1
  simp only
  generalize fl.onContractInsertion addr abi (env.oracleFree k) = r at hr herc ⊢
  obtain ⟨fl', e, p⟩ := r
  obtain ⟨rfl, rfl⟩ := Prod.mk.inj hr
  have hold := h fl hfl
  have key : ∀ (st' : CorpusState), st'.corpus = st.corpus ++
      (if erc20Verdict fl.endpoint abi (env.oracleFree k) then
        [{ inputType := .Borrow, caller := env.randCaller st.corpus.length, contract := addr, data := none,
           sstateIdx := 0, txnValue := some borrowValue, step := false, liquidationPercent := 0,
           directData := [], randomness := [0], «repeat» := 1 }] else []) →
      (∀ fl'', st'.flashloan = some fl'' → fl''.erc20Address = fl'.erc20Address) → BorrowsAgree st' := by
    intro st' hc hf fl'' hfl'' t
    rw [hc, hf fl'' hfl'', herc t, ← hold t]
    split
    · rw [exists_borrow_append]
      simp [*, eq_comm]
    · simp [*]
  cases hv : erc20Verdict fl.endpoint abi (env.oracleFree k) <;> cases hp : isPairAbi abi <;>
    simp only [hv, hp, Bool.false_eq_true, if_true, if_false] at key ⊢ <;>
    exact key _ (by simp [registerBorrowTxn, addInput]) (by
      rintro _ ⟨⟩
      simp [onPairInsertion_erc20Address])

theorem corpusStep_borrowsAgree (k : Nat) (c : ContractInfo) (h : BorrowsAgree st) :
    BorrowsAgree (corpusStep env k st c) := by
  have h₂ := @handleContractInsertion_borrowsAgree env (recordArtifacts env st c (recoverAbi env c)) k
    c.deployedAddress (recoverAbi env c) h
  show BorrowsAgree (if c.deployedAddress ∈ env.blacklist then _ else _)
  split
  · exact h₂
  · exact addAbis_borrowsAgree _ _ _ h₂

end CorpusState

open CorpusState in
theorem initializeCorpusFrom_borrowsAgree (env : InitEnv) :
    ∀ (k : Nat) (cs : List ContractInfo) (st : CorpusState), BorrowsAgree st →
      BorrowsAgree (initializeCorpusFrom env k cs st)
  | _, [], _, h => h
  | k, c :: cs, _, h => initializeCorpusFrom_borrowsAgree env (k + 1) cs _ (corpusStep_borrowsAgree k c h)

theorem initializeCorpus_borrows_erc20 (env : InitEnv) (cs : List ContractInfo) (st : CorpusState)
    (h₀ : ∀ fl, st.flashloan = some fl →
      ∀ t, (∃ i ∈ st.corpus, i.inputType = .Borrow ∧ i.contract = t) ↔ t ∈ fl.erc20Address) :
    ∀ fl, (initializeCorpus env cs st).flashloan = some fl →
      (∀ t, (∃ i ∈ (initializeCorpus env cs st).corpus, i.inputType = .Borrow ∧ i.contract = t) ↔
        t ∈ fl.erc20Address) ∧
      ∀ i ∈ (initializeCorpus env cs st).corpus, i.inputType = .Borrow →
        ∀ d, i.contract ∈ (fl.analyzeCall i d).oracleRecheckBalance := by
  intro fl hfl
  have hag := initializeCorpusFrom_borrowsAgree env 0 cs st h₀ fl hfl
  refine ⟨hag, fun i hi hb d => ?_⟩
  rw [analyzeCall_recheck_balance, if_pos ((hag i.contract).1 ⟨i, hi, hb, rfl⟩)]
  exact List.mem_insert_self _ _

/-- A deployed ERC-20 at `9`, whose ABI has the four functions `on_contract_insertion` asks for. -/
def erc20Token : ContractInfo :=
  ⟨"Token", [], [⟨"(address)", 0x70a08231, "balanceOf", true, false, false⟩,
    ⟨"(address,uint256)", 0xa9059cbb, "transfer", false, false, false⟩,
    ⟨"(address,address,uint256)", 0x23b872dd, "transferFrom", false, false, false⟩,
    ⟨"(address,uint256)", 0x095ea7b3, "approve", false, false, false⟩], true, 9⟩

/-- An empty corpus, with a middleware on the `diamond` endpoint. -/
def borrowCorpus : CorpusState :=
  { emptyCorpus with flashloan := some (Flashloan.new (some diamond) ⟨[], []⟩) }

theorem initializeCorpus_borrows_erc20_token :
    (initializeCorpus failingEnv [erc20Token] borrowCorpus).flashloan.map (·.erc20Address) = some [9] ∧
    (initializeCorpus failingEnv [erc20Token] borrowCorpus).corpus.map (·.inputType) =
      [.Borrow, .ABI, .ABI, .ABI] ∧
    ∀ fl, (initializeCorpus failingEnv [erc20Token] borrowCorpus).flashloan = some fl →
      (∀ t, (∃ i ∈ (initializeCorpus failingEnv [erc20Token] borrowCorpus).corpus,
          i.inputType = .Borrow ∧ i.contract = t) ↔ t ∈ fl.erc20Address) ∧
        ∀ i ∈ (initializeCorpus failingEnv [erc20Token] borrowCorpus).corpus, i.inputType = .Borrow →
          ∀ d, i.contract ∈ (fl.analyzeCall i d).oracleRecheckBalance :=
  ⟨by decide, by decide, initializeCorpus_borrows_erc20 failingEnv [erc20Token] borrowCorpus
    fun _ hfl _ => by cases hfl; simp [borrowCorpus, emptyCorpus, Flashloan.new]⟩

end ITY
