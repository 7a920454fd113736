import MatterSdk.Chain.Connect
import MatterSdk.Chain.Properties
import MatterSdk.Chain.RustClient
import MatterSdk.Lib.Text
import MatterSdk.Suri

/-!
# Clients of an environment

`from_env` of the Rust client with the constructors below it: what it reads of the variables of a
process, and what it makes of the endpoint that these lead to.
-/

namespace MatterSdk

open Connect (Network)

/-- The variables of a process, each a text of Unicode characters. -/
abbrev Env := String → Option String

/-- The first of the variables whose value has more than white space, and the value. -/
def firstSet (space : Char → Bool) (env : Env) : List String → Option (String × String)
  | [] => none
  | name :: rest =>
    match env name with
    | some value =>
      if Text.trim space value.toList = [] then firstSet space env rest else some (name, value)
    | none => firstSet space env rest

/-- The variable that a client takes its key from. -/
def keyVar (space : Char → Bool) (env : Env) : Option (String × String) :=
  firstSet space env ["MATTER_API_KEY", "MATTER_SIGNER_SEED"]

/-- The value of a variable without white space around it, if more is left than nothing. -/
def trimmed (space : Char → Bool) (env : Env) (name : String) : Option (List Char) :=
  ((env name).map fun value => Text.trim space value.toList).filter (· ≠ [])

def testnetGenesis : String := "d87ca10ad40194ff37525c0b5fc5997d94010107a399d03bf5672c0a7b30f058"

def mainnetTokenSymbol : String := "MTR"

/-- The mainnet guards, by what names the refusal. -/
def networkGuards {ε : Type} (testnet signs confirmed : Bool) (shown : Bool × String)
    (wrongNetwork : ε) (notConfirmed : String → ε) : Except ε Unit :=
  if testnet && shown.1 then .error wrongNetwork
  else if !shown.1 || !signs then .ok ()
  else if confirmed then .ok ()
  else .error (notConfirmed shown.2)

section

variable {ε α β : Type} {refusal : ε → Connect.Refusal}

/-- A step of a client that fails for no reason that a guard has. -/
theorem sim_need {x : Except ε α} (f : α → β) (plain : ∀ e, x = .error e → refusal e = .other) :
    Checks.Sim (fun a b => f a = b) (fun e e' => refusal e = e') x
      (Connect.need (x.toOption.map f)) := by
  cases x with
  | error e => exact .error (plain e rfl)
  | ok a => exact .ok rfl

theorem sim_need_mapError {δ : Type} {x : Except δ α} (g : δ → ε) (f : α → β)
    (plain : ∀ e, refusal (g e) = .other) :
    Checks.Sim (fun a b => f a = b) (fun e e' => refusal e = e') (x.mapError g)
      (Connect.need (x.toOption.map f)) := by
  cases x with
  | error e => exact .error (plain e)
  | ok a => exact .ok rfl

theorem sim_guards (s : Connect.Settings) {testnet : Bool} (signs : Bool) (shown : Bool × String)
    {wrong : ε} {unconfirmed : String → ε} (asked : testnet = decide (s.network = .testnet))
    (named : refusal wrong = .wrongNetwork)
    (named' : ∀ via, refusal (unconfirmed via) = .mainnetNotConfirmed) :
    Checks.Sim (fun _ _ => True) (fun e e' => refusal e = e')
      (networkGuards testnet signs s.confirmed shown wrong unconfirmed)
      (Connect.guards s signs shown.1) := by
  obtain ⟨shown, via⟩ := shown
  subst asked
  unfold networkGuards Connect.guards
  by_cases testnet : s.network = .testnet
  · cases shown <;> cases signs <;> cases s.confirmed <;> simp [testnet] <;>
      first | exact .error named | exact .ok trivial
  · cases shown <;> cases signs <;> cases s.confirmed <;> simp [testnet] <;>
      first | exact .error (named' via) | exact .ok trivial

/-- A key is understood as its account is known. -/
theorem sim_signing {δ κ : Type} {w : Connect.World} (s : Connect.Settings)
    (var : Option (String × String)) (parse : String → Except δ κ) (wrap : String → δ → ε)
    (account : κ → AccountId) (known : ∀ text, w.account text = (parse text).toOption.map account)
    (plain : ∀ name e, refusal (wrap name e) = .other) :
    s.key = var.map Prod.snd →
      Checks.Sim (fun key own => key.map account = own) (fun e e' => refusal e = e')
        (match var with
          | some (name, value) => ((parse value).mapError (wrap name)).map some
          | none => .ok none)
        (Connect.signing w s) := by
  intro told
  rw [Connect.signing, told]
  cases var with
  | none => exact .ok rfl
  | some var =>
    simp only [Option.map_some, known]
    cases parse var.2 with
    | error e => exact .error (plain var.1 e)
    | ok key => exact .ok rfl

/-- The principal of a client is the one that its variable names, or the one that the chain names. -/
theorem sim_resolving {μ : Type} {w : Connect.World} (s : Connect.Settings) {url : String}
    {account : AccountId} (text : Option (List Char)) (decode : List Char → Except ε AccountId)
    (named : AccountId → μ) (grant : μ → Option Session.Grant) {asked : Except ε μ}
    (known : ∀ l, w.principal (String.ofList l) = (decode l).toOption)
    (plain : ∀ l e, decode l = .error e → refusal e = .other)
    (all : ∀ principal, grant (named principal) = some (principal, .all))
    (found : Checks.Sim (fun mode held => grant mode = held) (fun e e' => refusal e = e') asked
      (Connect.need (w.grant url account))) :
    s.principal = text.map String.ofList →
      Checks.Sim (fun mode held => grant mode = held) (fun e e' => refusal e = e')
        (match text with
          | some l => (decode l).map named
          | none => asked)
        (Connect.resolve w s url (some account)) := by
  intro told
  rw [Connect.resolve, told]
  cases text with
  | none => exact found
  | some l =>
    simp only [Option.map_some, known]
    cases decoded : decode l with
    | error e => exact .error (plain l e decoded)
    | ok principal => exact .ok (all principal)

end

namespace Rust

/-- What a connect fails with: a variant of `SdkError` that it builds, or another. -/
inductive ConnectError where
  | config (detail : String)
  | wrongNetwork (expected actual : String)
  | mainnetNotConfirmed (chainName detectedVia : String)
  | key (e : KeyError)
  | other (e : SdkError)

structure MatterConfig where
  network : Network
  rpcUrl : Option String
  confirmMainnet : Bool

/-- The parser of keys, the libraries and the endpoints. -/
structure Outside (κ : Type) where
  hex : HexCrate
  parseKey : String → Except KeyError κ
  accountId : κ → AccountId
  dial : String → Except String ChainReports
  lookup : String → AccountId → Except SdkError (Option Grant)
  /-- `AccountId32::from_str`. -/
  ss58 : String → Option AccountId

/-- A `MatterClient`, with the endpoint that it talks to. -/
structure MatterClient (κ : Type) where
  url : String
  signer : Option κ
  properties : ChainProperties
  config : MatterConfig
  mode : Mode

def MatterConfig.forNetwork (network : Network) : MatterConfig where
  network := network
  rpcUrl := none
  confirmMainnet := false

def MatterConfig.resolveUrl (config : MatterConfig) : Except ConnectError String :=
  match config.rpcUrl with
  | some url => .ok url
  | none =>
    match config.network.defaultRpcUrl with
    | some url => .ok url
    | none => .error (.config "Network::Custom requires MatterConfig::rpc_url")

def ChainProperties.isMainnet (p : ChainProperties) : Bool × String :=
  if String.ofList (Hex.encode p.genesisHash) = testnetGenesis then (false, "genesis-hash")
  else (p.tokenSymbol = mainnetTokenSymbol, "token-symbol")

section

variable {κ : Type} (env : Env) (d : Outside κ)

def enforceNetworkGuards (config : MatterConfig) (signs : Bool) (p : ChainProperties) :
    Except ConnectError Unit :=
  networkGuards (config.network = .testnet) signs
    (config.confirmMainnet || env "MATTER_CONFIRM" = some "yes") p.isMainnet
    (.wrongNetwork "testnet" p.chainName) (.mainnetNotConfirmed p.chainName)

def badPrincipal (detail : String) : ConnectError := .config ("MATTER_PRINCIPAL " ++ detail)

/-- `principal_override`, of a text that is set. -/
def decodePrincipal : List Char → Except ConnectError AccountId
  | '0' :: 'x' :: hexBody =>
    match d.hex.decode (utf8 hexBody) with
    | .error _ => .error (badPrincipal "is not valid hex")
    | .ok bytes =>
      if bytes.length = 32 then .ok bytes else .error (badPrincipal "must be 32 bytes of hex")
  | text =>
    match d.ss58 (String.ofList text) with
    | some account => .ok account
    | none => .error (badPrincipal "is neither 0x-prefixed hex nor a valid SS58 address")

/-- `resolve`, of the account of a signer. -/
def resolveMode (url : String) (account : AccountId) : Except ConnectError Mode :=
  match trimmed Text.isWhiteSpace env "MATTER_PRINCIPAL" with
  | some text => (decodePrincipal d text).map fun principal => .decide none (some principal)
  | none => ((d.lookup url account).mapError .other).map fun found => .decide found none

/-- The connection to an endpoint, and the reading of its properties. -/
def openEndpoint (url : String) : Except ConnectError ChainProperties :=
  match d.dial url with
  | .error detail => .error (.other (rpcError url detail))
  | .ok reports => (readProperties reports).mapError .other

def build (config : MatterConfig) (signer : Option κ) : Except ConnectError (MatterClient κ) := do
  let url ← config.resolveUrl
  let properties ← openEndpoint d url
  enforceNetworkGuards env config signer.isSome properties
  match signer with
  | none => return ⟨url, none, properties, config, .direct⟩
  | some key => return ⟨url, some key, properties, config, ← resolveMode env d url (d.accountId key)⟩

/-- `from_env`, up to the key. -/
def envConfig : Except ConnectError MatterConfig := do
  let network ← match env "MATTER_NETWORK" with
    | some "mainnet" => .ok .mainnet
    | some "testnet" | none => .ok .testnet
    | some other =>
      .error (.config ("MATTER_NETWORK must be `testnet` or `mainnet`, got `" ++ other ++ "`"))
  return { MatterConfig.forNetwork network with rpcUrl := env "MATTER_RPC_URL" }

def envApiKey : Except ConnectError (Option κ) :=
  match keyVar Text.isWhiteSpace env with
  | some (_, value) => ((d.parseKey value).mapError .key).map some
  | none => .ok none

/-- `from_env`. -/
def fromEnv : Except ConnectError (MatterClient κ) := do
  let config ← envConfig env
  let key ← envApiKey env d
  build env d config key

end

/-! ## As a connect -/

def ConnectError.refusal : ConnectError → Connect.Refusal
  | wrongNetwork _ _ => .wrongNetwork
  | mainnetNotConfirmed _ _ => .mainnetNotConfirmed
  | _ => .other

def settingsOf (env : Env) (config : MatterConfig) : Connect.Settings where
  network := config.network
  rpcUrl := config.rpcUrl
  key := (keyVar Text.isWhiteSpace env).map Prod.snd
  confirmed := config.confirmMainnet || env "MATTER_CONFIRM" = some "yes"
  principal := (trimmed Text.isWhiteSpace env "MATTER_PRINCIPAL").map String.ofList

/-- What the variables tell the client, unless they name no network. -/
def settings (env : Env) : Option Connect.Settings :=
  (envConfig env).toOption.map (settingsOf env)

def Outside.world {κ : Type} (d : Outside κ) : Connect.World where
  account text := (d.parseKey text).toOption.map d.accountId
  mainnet url := (openEndpoint d url).toOption.map (·.isMainnet.1)
  principal text := (decodePrincipal d text.toList).toOption
  grant url account := (d.lookup url account).toOption

def MatterClient.client {κ : Type} (d : Outside κ) (c : MatterClient κ) : Connect.Client where
  url := c.url
  mainnet := c.properties.isMainnet.1
  account := c.signer.map d.accountId
  held := c.mode.grant

section

variable {κ : Type} (env : Env) (d : Outside κ)

theorem decodePrincipal_refusal (text : List Char) (e : ConnectError)
    (failed : decodePrincipal d text = .error e) : e.refusal = .other := by
  unfold decodePrincipal at failed
  split at failed
  · split at failed
    · cases failed
      rfl
    · split_ifs at failed
      cases failed
      rfl
  · split at failed <;> cases failed
    rfl

theorem sim_resolve (config : MatterConfig) (url : String) (account : AccountId) :
    Checks.Sim (fun mode held => mode.grant = held) (fun e e' => ConnectError.refusal e = e')
      (resolveMode env d url account)
      (Connect.resolve d.world (settingsOf env config) url (some account)) := by
  have found : Checks.Sim (fun mode held => Mode.grant mode = held)
      (fun e e' => ConnectError.refusal e = e')
      (((d.lookup url account).mapError .other).map fun found => Mode.decide found none)
      (Connect.need (d.world.grant url account)) := by
    simp only [Outside.world]
    cases d.lookup url account with
    | error e => exact .error rfl
    | ok found => cases found <;> exact .ok rfl
  have known (l : List Char) :
      d.world.principal (String.ofList l) = (decodePrincipal d l).toOption := by
    simp only [Outside.world, String.toList_ofList]
  exact sim_resolving (settingsOf env config) (trimmed Text.isWhiteSpace env "MATTER_PRINCIPAL")
    (decodePrincipal d) (fun principal => .decide none (some principal)) Mode.grant known
    (decodePrincipal_refusal d) (fun _ => rfl) found rfl

theorem sim_key (config : MatterConfig) :
    Checks.Sim (fun key account => key.map d.accountId = account)
      (fun e e' => ConnectError.refusal e = e') (envApiKey env d)
      (Connect.signing d.world (settingsOf env config)) :=
  sim_signing (settingsOf env config) (keyVar Text.isWhiteSpace env) d.parseKey
    (fun _ => ConnectError.key) d.accountId (fun _ => rfl) (fun _ _ => rfl) rfl

theorem sim_url (config : MatterConfig) :
    Checks.Sim (fun url url' => url = url') (fun e e' => ConnectError.refusal e = e')
      config.resolveUrl (Connect.need (settingsOf env config).url) := by
  simp only [MatterConfig.resolveUrl, Connect.Settings.url, settingsOf]
  cases config.rpcUrl with
  | some url => exact .ok rfl
  | none => cases config.network <;> first | exact .ok rfl | exact .error rfl

/-- The client of an environment is that of its settings. -/
theorem fromEnv_connects :
    Checks.Sim (fun c c' => c.client d = c') (fun e e' => ConnectError.refusal e = e')
      (fromEnv env d) (Connect.need (settings env) >>= Connect.connect false d.world) := by
  have unconfigured (e : ConnectError) (failed : envConfig env = .error e) : e.refusal = .other := by
    unfold envConfig at failed
    split at failed <;> cases failed
    rfl
  have unopened (url : String) (e : ConnectError) (failed : openEndpoint d url = .error e) :
      e.refusal = .other := by
    unfold openEndpoint at failed
    split at failed
    · cases failed
      rfl
    · rename_i reports _
      cases read : readProperties reports <;> rw [read] at failed <;> cases failed
      rfl
  refine (sim_need (settingsOf env) unconfigured).bind ?_
  rintro config _ rfl
  refine (sim_key env d config).bind ?_
  rintro key _ rfl
  refine (sim_url env config).bind ?_
  rintro url _ rfl
  refine (sim_need (fun p => p.isMainnet.1) (unopened url)).bind ?_
  rintro properties _ rfl
  simp only [Bool.false_eq_true, if_false, Option.isSome_map]
  refine (sim_guards (settingsOf env config) key.isSome properties.isMainnet rfl rfl
    fun _ => rfl).bind ?_
  rintro - - -
  cases key with
  | none => exact .ok rfl
  | some key =>
    refine (sim_resolve env d config url (d.accountId key)).bind ?_
    rintro mode _ rfl
    exact .ok rfl

end

end Rust

end MatterSdk
