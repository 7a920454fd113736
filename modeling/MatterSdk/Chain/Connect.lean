import MatterSdk.Chain.Session
import MatterSdk.Lib.Checks

/-!
# Connecting

What a client becomes of what it is told: which endpoint it takes, whether it signs, and for whom it
acts.  An endpoint that shows itself as mainnet is taken only when mainnet is asked for, and signed
for only when that is confirmed.
-/

namespace MatterSdk.Connect

open Session (Grant)

inductive Network where
  | testnet
  | mainnet
  | custom
deriving DecidableEq, Repr

/-- `default_rpc_url`. -/
def Network.defaultRpcUrl : Network → Option String
  | testnet => some "wss://node2.testnet.openmatter.network"
  | mainnet => some "wss://node2.mainnet.openmatter.network"
  | custom => none

/-- What a client is told before it connects; one without a key only reads. -/
structure Settings where
  network : Network
  rpcUrl : Option String
  key : Option String
  confirmed : Bool
  /-- The text that names the principal, if the chain is not to be asked. -/
  principal : Option String
deriving DecidableEq, Repr

/-- What comes of the texts and the endpoints that a client is told. -/
structure World where
  account : String → Option AccountId
  /-- Whether an endpoint shows itself as mainnet. -/
  mainnet : String → Option Bool
  principal : String → Option AccountId
  grant : String → AccountId → Option (Option Grant)

structure Client where
  url : String
  mainnet : Bool
  account : Option AccountId
  held : Option Grant

inductive Refusal where
  | wrongNetwork
  | mainnetNotConfirmed
  | other
deriving DecidableEq, Repr

def need {α : Type} : Option α → Except Refusal α
  | none => .error .other
  | some a => .ok a

@[simp] theorem need_eq_ok_iff {α : Type} {o : Option α} {a : α} : need o = .ok a ↔ o = some a := by
  cases o <;> simp [need]

theorem need_error {α : Type} {o : Option α} {e : Refusal} (failed : need o = .error e) :
    e = .other := by
  cases o <;> cases failed
  rfl

def Settings.url (s : Settings) : Option String := s.rpcUrl <|> s.network.defaultRpcUrl

/-- The account of the key, if there is one. -/
def signing (w : World) (s : Settings) : Except Refusal (Option AccountId) :=
  match s.key with
  | none => .ok none
  | some key => need ((w.account key).map some)

/-- The guards against spending real funds by accident. -/
def guards (s : Settings) (signs mainnet : Bool) : Except Refusal Unit :=
  if s.network = .testnet ∧ mainnet = true then .error .wrongNetwork
  else if mainnet = true ∧ signs = true ∧ s.confirmed = false then .error .mainnetNotConfirmed
  else .ok ()

/-- For whom the key acts. -/
def resolve (w : World) (s : Settings) (url : String) :
    Option AccountId → Except Refusal (Option Grant)
  | none => .ok none
  | some account =>
    match s.principal with
    | some text => need ((w.principal text).map fun principal => some (principal, .all))
    | none => need (w.grant url account)

/-- The chain is asked about the key after the guards, or before them. -/
def connect (eager : Bool) (w : World) (s : Settings) : Except Refusal Client := do
  let account ← signing w s
  let url ← need s.url
  let mainnet ← need (w.mainnet url)
  if eager then
    let held ← resolve w s url account
    guards s account.isSome mainnet
    return ⟨url, mainnet, account, held⟩
  else
    guards s account.isSome mainnet
    let held ← resolve w s url account
    return ⟨url, mainnet, account, held⟩

/-- A client that the settings lead to. -/
structure Admitted (w : World) (s : Settings) (c : Client) : Prop where
  url : s.url = some c.url
  mainnet : w.mainnet c.url = some c.mainnet
  /-- Only those who ask for mainnet, or for no network by name, get to it. -/
  asked : c.mainnet = true → s.network ≠ .testnet
  /-- Only a confirmed client signs for it. -/
  confirmed : c.mainnet = true → c.account.isSome = true → s.confirmed = true
  account : c.account = s.key.bind w.account
  /-- A key that is told and not understood is never passed over. -/
  keyed : s.key.isSome = c.account.isSome
  /-- Who only reads acts for nobody. -/
  reading : c.account = none → c.held = none
  overridden : ∀ text, c.account.isSome = true → s.principal = some text →
    ∃ principal, w.principal text = some principal ∧ c.held = some (principal, .all)
  granted : ∀ account, c.account = some account → s.principal = none →
    w.grant c.url account = some c.held

theorem resolve_error {w : World} {s : Settings} {url : String} {account : Option AccountId}
    {e : Refusal} (failed : resolve w s url account = .error e) : e = .other := by
  unfold resolve at failed
  split at failed
  · cases failed
  · split at failed <;> exact need_error failed

theorem signing_error {w : World} {s : Settings} {e : Refusal} (failed : signing w s = .error e) :
    e = .other := by
  unfold signing at failed
  split at failed
  · cases failed
  · exact need_error failed

theorem guards_ok_iff (s : Settings) (signs mainnet : Bool) :
    guards s signs mainnet = .ok () ↔
      (mainnet = true → s.network ≠ .testnet) ∧
        (mainnet = true → signs = true → s.confirmed = true) := by
  unfold guards
  split_ifs with wrong unconfirmed
  · simp [wrong]
  · simp [unconfirmed]
  · simp only [true_iff]
    refine ⟨fun here there => wrong ⟨there, here⟩, fun here signs => ?_⟩
    by_contra not_
    exact unconfirmed ⟨here, signs, by simpa using not_⟩

variable {w : World} {s : Settings} {url : String} {account : Option AccountId} {mainnet : Bool}

theorem signing_ok_iff :
    signing w s = .ok account ↔
      account = s.key.bind w.account ∧ s.key.isSome = account.isSome := by
  unfold signing
  cases s.key with
  | none => cases account <;> simp
  | some key =>
    rw [need_eq_ok_iff, Option.bind_some]
    generalize w.account key = known
    cases known <;> cases account <;> simp [eq_comm]

theorem resolve_ok_iff {held : Option Grant} :
    resolve w s url account = .ok held ↔
      (account = none → held = none) ∧
      (∀ text, account.isSome = true → s.principal = some text →
        ∃ principal, w.principal text = some principal ∧ held = some (principal, .all)) ∧
      ∀ own, account = some own → s.principal = none → w.grant url own = some held := by
  unfold resolve
  cases account with
  | none => cases held <;> simp
  | some own =>
    cases s.principal with
    | none => simp
    | some text => simp [eq_comm (a := held)]

/-- The checks of a connect, in whatever order they are made. -/
theorem connect_steps (eager : Bool) {c : Client} :
    connect eager w s = .ok c ↔ ∃ account url mainnet held,
      signing w s = .ok account ∧ s.url = some url ∧ w.mainnet url = some mainnet ∧
        guards s account.isSome mainnet = .ok () ∧ resolve w s url account = .ok held ∧
          c = ⟨url, mainnet, account, held⟩ := by
  simp only [connect, Checks.bind_ok_iff, need_eq_ok_iff]
  cases eager with
  | false =>
    simp only [Bool.false_eq_true, if_false, Checks.bind_ok_iff, pure, Except.pure]
    grind
  | true =>
    simp only [if_true, Checks.bind_ok_iff, pure, Except.pure]
    grind

theorem connect_ok_iff (eager : Bool) (c : Client) :
    connect eager w s = .ok c ↔ Admitted w s c := by
  rw [connect_steps]
  constructor
  · rintro ⟨account, url, mainnet, held, signed, to_, shown, passed, resolved, rfl⟩
    obtain ⟨asked, confirmed⟩ := (guards_ok_iff s account.isSome mainnet).mp passed
    obtain ⟨known, keyed⟩ := signing_ok_iff.mp signed
    obtain ⟨reading, overridden, granted⟩ := resolve_ok_iff.mp resolved
    exact ⟨to_, shown, asked, confirmed, known, keyed, reading, overridden, granted⟩
  · intro admitted
    exact ⟨c.account, c.url, c.mainnet, c.held,
      signing_ok_iff.mpr ⟨admitted.account, admitted.keyed⟩, admitted.url, admitted.mainnet,
      (guards_ok_iff _ _ _).mpr ⟨admitted.asked, admitted.confirmed⟩,
      resolve_ok_iff.mpr ⟨admitted.reading, admitted.overridden, admitted.granted⟩, rfl⟩

/-- Two worlds answer alike whatever a client of these settings asks. -/
structure Alike (s : Settings) (w w' : World) : Prop where
  account : ∀ key, s.key = some key → w.account key = w'.account key
  mainnet : ∀ url, s.url = some url → w.mainnet url = w'.mainnet url
  principal : ∀ text, s.principal = some text → w.principal text = w'.principal text
  grant : ∀ url account, s.url = some url → s.principal = none →
    w.grant url account = w'.grant url account

theorem connect_congr {w' : World} (alike : Alike s w w') (eager : Bool) :
    connect eager w s = connect eager w' s := by
  have signed : signing w s = signing w' s := by
    unfold signing
    cases told : s.key with
    | none => rfl
    | some key => simp only [alike.account key told]
  cases to_ : s.url with
  | none => simp only [connect, signed, to_, need, bind, Except.bind]
  | some url =>
    have resolved (account : Option AccountId) :
        resolve w s url account = resolve w' s url account := by
      unfold resolve
      cases account with
      | none => rfl
      | some own =>
        cases told : s.principal with
        | none => simp only [alike.grant url own to_ told]
        | some text => simp only [alike.principal text told]
    simp only [connect, signed, to_, need, alike.mainnet url to_, resolved, bind, Except.bind]

theorem admitted_congr {w' : World} (alike : Alike s w w') (c : Client) :
    Admitted w s c ↔ Admitted w' s c := by
  rw [← connect_ok_iff false, ← connect_ok_iff false, connect_congr alike]

/-- A guard refuses the settings, who the key acts for being known before in an eager connect. -/
def Guarded (eager : Bool) (w : World) (s : Settings) (refusal : Refusal) : Prop :=
  ∃ account url mainnet, signing w s = .ok account ∧ s.url = some url ∧
    w.mainnet url = some mainnet ∧ guards s account.isSome mainnet = .error refusal ∧
      (eager = true → ∃ held, resolve w s url account = .ok held)

theorem connect_guarded_iff (eager : Bool) {refusal : Refusal} (named : refusal ≠ .other) :
    connect eager w s = .error refusal ↔ Guarded eager w s refusal := by
  have needed {α : Type} (o : Option α) : need o ≠ .error refusal :=
    fun failed => named (need_error failed)
  have signed : signing w s ≠ .error refusal := fun failed => named (signing_error failed)
  have resolved (url : String) (account : Option AccountId) :
      resolve w s url account ≠ .error refusal := fun failed => named (resolve_error failed)
  unfold connect Guarded
  cases eager <;> simp only [Bool.false_eq_true, if_false, if_true, Checks.bind_error_iff,
    need_eq_ok_iff, needed, signed, resolved, false_or, pure, Except.pure, reduceCtorEq, and_false,
    exists_false, or_false]
  · grind
  · grind

/-- The results of a client are those of a connect to what it has read, if it read settings at all: the
clients that it makes are the ones admitted, and a guard is named for a refusal exactly where it
refuses. -/
structure Connects {ε γ : Type} (refusal : ε → Refusal) (client : γ → Client) (eager : Bool)
    (w : World) (read : Option Settings) (result : Except ε γ) : Prop where
  made : ∀ c, (∃ own, result = .ok own ∧ client own = c) ↔ ∃ s, read = some s ∧ Admitted w s c
  guarded : ∀ r, r ≠ .other →
    ((∃ e, result = .error e ∧ refusal e = r) ↔ ∃ s, read = some s ∧ Guarded eager w s r)

theorem connects_of_sim {ε γ : Type} {refusal : ε → Refusal} {client : γ → Client} {eager : Bool}
    {read : Option Settings} {result : Except ε γ}
    (same : Checks.Sim (fun own c => client own = c) (fun e r => refusal e = r) result
      (need read >>= connect eager w)) : Connects refusal client eager w read result := by
  have connected (r : Except Refusal Client) (proper : r ≠ .error .other) :
      (need read >>= connect eager w) = r ↔ ∃ s, read = some s ∧ connect eager w s = r := by
    cases read with
    | none => simpa [need, bind, Except.bind] using proper.symm
    | some s => simp [need, bind, Except.bind]
  generalize need read >>= connect eager w = answer at same connected
  constructor
  · intro c
    simp only [← connect_ok_iff eager, ← connected (.ok c) nofun]
    cases same with
    | ok related => simp [related]
    | error related => simp
  · intro r named
    have each (s : Settings) : Guarded eager w s r ↔ connect eager w s = .error r :=
      (connect_guarded_iff eager named).symm
    simp only [each, ← connected (.error r) (by simpa using named)]
    cases same with
    | ok related => simp
    | error related => simp [related]

end MatterSdk.Connect
