import MatterSdk.Committee.Http
import MatterSdk.Committee.Scripted
import MatterSdk.Committee.Tolerance

/-!
# Hostile nodes

A Python or TypeScript run over the bundled transport tolerates its nodes exactly when each of their
HTTP exchanges fails in a way that the transport reports, or gives JSON of the shape that the client
goes on to use.
-/

namespace MatterSdk

open Loop

variable {ω α τ η ρ κ ε : Type}

/-- The exchange behind a probe. -/
def Http.Probed (http : Http ω α) (receive : String → α → Except τ η)
    (probe : CommitteeNode × Except τ η) (outcome : α) : Prop :=
  (∃ w w', http.get (nodeUrl probe.1.endpoint "/health") w = (outcome, w')) ∧
    receive probe.1.endpoint outcome = probe.2

/-- The exchange behind an answer. -/
def Http.Asked (http : Http ω α) (receive : String → α → Except τ ρ)
    (asked : CommitteeNode × Except τ ρ) (outcome : α) : Prop :=
  (∃ request w w',
    http.post (nodeUrl asked.1.endpoint "/partial-decrypt") request w = (outcome, w')) ∧
    receive asked.1.endpoint outcome = asked.2

/-- The exchanges of a run are all good. -/
structure Exchanged (http : Http ω α) (health : String → α → Except τ η)
    (answer : String → α → Except τ ρ) (GoodHealth GoodAnswer : α → Prop) (run : Run τ η ρ κ ε) :
    Prop where
  probes : ∀ probe ∈ run.probes, ∃ outcome, http.Probed health probe outcome ∧ GoodHealth outcome
  answers : ∀ asked ∈ MatterSdk.answers run.log,
    ∃ outcome, http.Asked answer asked outcome ∧ GoodAnswer outcome

/-- A field with a string that `decode` accepts. -/
def HexField {ν : Type} (decode : String → Option Bytes) (resp : Json ν) (key : String) : Prop :=
  ∃ s bytes, resp.field key = some (.str s) ∧ decode s = some bytes

/-! ## Python -/

namespace Python

/-- An exception that is not a `DecryptError`. -/
def Foreign : Exception → Prop
  | .decrypt _ => False
  | .raised _ => True

/-- A number, `True` and `False` being ones. -/
def IsNumber (epoch : Value) : Prop := (numeric epoch).isSome = true

/-- Only numbers are epochs, and only numbers can be negated. -/
def standard : Standard Value Exception where
  Foreign := Foreign
  Typed := IsNumber
  Ranked := IsNumber

def IsObject : Value → Prop
  | .obj _ => True
  | _ => False

/-- The interpreter has the stack to print the value. -/
def Printable (other : Json.Printer PyNumber) (value : Value) : Prop :=
  (other.print value).isSome = true

/-- A health body whose faults can be printed. -/
def Legible (other : Json.Printer PyNumber) (ours : ℕ) (health : Value) : Prop :=
  IsObject health ∧
    if !speaksOurProtocol ours (get health "crypto_protocol_version") then
      Printable other (get health "crypto_protocol_version")
    else get health "status" = .str "active" ∨
      Printable other (get health "status") ∧
        Printable other ((health.field "epoch").getD (.num (.int 0))) ∧
        Printable other (orZero (get health "crypto_protocol_version"))

/-- An answer that can be used: an object with a divergent epoch to count, or two hex fields. -/
def Usable (epoch : ℕ) (resp : Value) : Prop :=
  IsObject resp ∧
    if truthy (get resp "served_epoch") && !equalsInt (get resp "served_epoch") epoch then
      hashable (get resp "served_epoch") = true
    else HexField fromHex resp "partial" ∧ HexField fromHex resp "proof"

section Printing

variable {other : Json.Printer PyNumber} {value : Value}

end Printing

end Python

/-! ## TypeScript -/

namespace TypeScript

/-- An error that is not a `DecryptError`. -/
def Foreign : Thrown → Prop
  | .decrypt _ => False
  | .thrown _ => True

def IsNumber : Value → Prop
  | .num _ => True
  | _ => False

/-- Only numbers are epochs; votes are ranked whatever they are for. -/
def standard : Standard Value Thrown where
  Foreign := Foreign
  Typed := IsNumber
  Ranked _ := True

/-- A property that a template literal can print, for which the engine has the stack. -/
def Printable (other : Json.Printer Number) (value : Option Value) : Prop :=
  ∀ v, value = some v → printable v = true ∧ (other.print v).isSome = true

/-- A property that the engine has the stack to stringify. -/
def Stringified (stringify : Json.Printer Number) (value : Option Value) : Prop :=
  ∀ v, value = some v → (stringify.print v).isSome = true

/-- A health body whose faults can be printed. -/
def Legible (printer : Printer) (ours : ℕ) (health : Value) : Prop :=
  health ≠ .null ∧
    if !speaksOurProtocol ours (health.field "crypto_protocol_version") then
      Printable printer.other (health.field "crypto_protocol_version")
    else health.field "status" = some (.str "active") ∨
      Stringified printer.stringify (health.field "status") ∧
        Printable printer.other (orZero (health.field "epoch")) ∧
        Printable printer.other (orZero (health.field "crypto_protocol_version"))

/-- The divergent epoch that an answer was served under. -/
def divergent (epoch : ℕ) (resp : Value) : Option Value :=
  (resp.field "served_epoch").filter fun served =>
    truthy (some served) && !equalsNumber served epoch

/-- An answer that can be used: a divergent epoch that can be printed, or two hex fields. -/
def Usable (other : Json.Printer Number) (epoch : ℕ) (resp : Value) : Prop :=
  resp ≠ .null ∧
    match divergent epoch resp with
    | some served => Printable other (some served)
    | none => HexField fromHex resp "partial" ∧ HexField fromHex resp "proof"

theorem settle_sent (transport : Transport ω τ η ρ) (nodes : List CommitteeNode) (w : ω) :
    (settle transport nodes w).1.map Prod.fst = nodes ∧
      ∀ probe ∈ (settle transport nodes w).1,
        ∃ w w', transport.health probe.1.endpoint w = (probe.2, w') := by
  induction nodes generalizing w with
  | nil => simp [settle]
  | cons node rest ih =>
    rcases hs : transport.health node.endpoint w with ⟨answer, w'⟩
    obtain ⟨nodes, sent⟩ := ih w'
    simp only [settle, hs]
    refine ⟨by rw [List.map_cons, nodes], fun probe mem => ?_⟩
    rcases List.mem_cons.1 mem with rfl | mem
    · exact ⟨w, w', hs⟩
    · exact sent probe mem

/-- Sorting the settled probes stops only at one that cannot be read. -/
theorem sortProbes_sound (c : Client ω τ η ρ κ ε) (probes : List (CommitteeNode × Except τ η))
    (sent : ∀ probe ∈ probes, ∃ w w', c.transport.health probe.1.endpoint w = (probe.2, w'))
    (world : ω) :
    (forEach (sortProbe c.toDialect) probes ⟨world, [], [], []⟩).Meets
      (fun b => ∃ probe ∈ probes, c.readHealth probe.2 = .error b.1)
      (fun s => s.Sound c (probes.map Prod.fst)) := by
  have rule := forEach_rule (f := sortProbe c.toDialect)
    (Q := fun b => ∃ probe ∈ probes, c.readHealth probe.2 = .error b.1)
    (I := fun rest (s : Probed ω τ η) =>
      ∃ sorted, sorted ++ rest = probes ∧ s.Sound c (sorted.map Prod.fst))
    (fun probe rest s ⟨sorted, split, sound⟩ => by
      have mem : probe ∈ probes := by simp [← split]
      obtain ⟨w, w', received⟩ := sent probe mem
      have one := sortProbe_sound c (sorted.map Prod.fst) probe.1 probe.2 w w' received s sound
      cases hb : sortProbe c.toDialect probe s with
      | done b =>
        rw [hb] at one
        exact ⟨probe, mem, one.2⟩
      | next s' =>
        rw [hb] at one
        exact ⟨sorted ++ [probe], by simp [← split], by simpa using one⟩)
    probes ⟨world, [], [], []⟩ ⟨[], rfl, rfl, rfl, rfl, by simp, by simp⟩
  cases hf : forEach (sortProbe c.toDialect) probes ⟨world, [], [], []⟩ with
  | done b =>
    rw [hf] at rule
    exact rule
  | next s =>
    rw [hf] at rule
    obtain ⟨sorted, split, sound⟩ := rule
    rw [List.append_nil] at split
    exact split ▸ sound

end TypeScript

/-! ## Both clients -/

/-- The exchanges of a run are good, and its votes do no harm. -/
structure Benign (c : Client ω τ η ρ κ ε) (std : Standard κ ε) (task : Task) (http : Http ω α)
    (health : String → α → Except τ η) (answer : String → α → Except τ ρ)
    (GoodHealth GoodAnswer : α → Prop) (run : Run τ η ρ κ ε) : Prop where
  exchanged : Exchanged http health answer GoodHealth GoodAnswer run
  votes : ∀ asked ∈ answers run.log, ∀ epoch, c.readAnswer asked.2 = .ok (.diverges epoch) →
    Minor c std task run epoch

/-- Every exchange of a Python run fails with a `URLError` or gives an object whose fields can be
used. -/
abbrev Python.Benign (deps : Deps ω) (http : Http ω Opened) (loads : Bytes → Except String Value)
    (maxResponseBytes : ℕ) (params : DecryptParams)
    (run : Run Failure Value Value Value Exception) : Prop :=
  MatterSdk.Benign (client deps params) standard params.task http
    (receiveHealth loads maxResponseBytes) (receiveAnswer loads maxResponseBytes)
    (Opened.Gives loads maxResponseBytes (Legible deps.other deps.protocolVersion))
    (Opened.Gives loads maxResponseBytes (Usable params.epoch)) run

/-- Every exchange of a TypeScript run fails or gives a value whose properties can be used. -/
abbrev TypeScript.Benign (deps : Deps ω) (http : Http ω Fetched)
    (parse : Bytes → Except String Value) (maxResponseBytes : ℕ) (params : DecryptParams)
    (run : Run String Value Value Value Thrown) : Prop :=
  MatterSdk.Benign (client deps params) standard params.task http
    (receive parse maxResponseBytes "health") (receive parse maxResponseBytes "partial-decrypt")
    (Fetched.Gives parse maxResponseBytes (Legible deps.printer deps.protocolVersion))
    (Fetched.Gives parse maxResponseBytes (Usable deps.printer.other params.epoch)) run

section Clients

variable {python : Python.Deps ω} {typescript : TypeScript.Deps ω} {pythonHttp : Http ω Python.Opened}
  {typescriptHttp : Http ω TypeScript.Fetched} {loads : Bytes → Except String Python.Value}
  {parse : Bytes → Except String TypeScript.Value} {maxResponseBytes : ℕ}
  (params : Rust.DecryptRequest) (world : ω)

end Clients

/-! ## One hostile body -/

end MatterSdk
