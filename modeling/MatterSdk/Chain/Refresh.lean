import MatterSdk.Lib.SharedCache
import MatterSdk.Chain.Mode

/-!
# Concurrent refreshes

Failed calls of one client refresh its cached mode side by side.  Each refresh reads the mode, looks
up the grant on the chain and writes the mode if the scopes moved; nothing is checked again between
the read and the write.
-/

namespace MatterSdk

open SharedCache

namespace Rust

/-- A client after its connect resolved to `mode`, when its refreshes took some steps. -/
def refreshing (mode : Mode) (acts : List (Act (Option Grant))) : Shared Mode (Option Grant) :=
  run rescopedMode (.init mode) acts

/-- Each refresh of the run was fresh when it finished. -/
def FreshRun (mode : Mode) (acts : List (Act (Option Grant))) : Prop :=
  Steps rescopedMode (Fresh rescopedMode mode.named) (.init mode) acts

/-- The cached scopes are those of the most recent answer, if that names the principal. -/
def UpToDate (mode : Mode) (s : Shared Mode (Option Grant)) : Prop :=
  ∀ i principal scopes, s.latest = some (i, some (principal, scopes)) →
    mode.principal = some principal → s.cache.scopes = some scopes

theorem rescopedMode_compares (mode : Mode) :
    Compares rescopedMode mode.named fun previous => previous.principal = mode.principal where
  wanted _ _ named := Mode.principal_of_named named
  same _ fresh previously back := by rw [rescopedMode_eq previously fresh, if_pos back]
  other _ fresh previously moved := by rw [rescopedMode_eq previously fresh, if_neg moved]

/-- Neither the kind of the mode nor the principal ever changes. -/
theorem refreshing_principal (mode : Mode) (acts : List (Act (Option Grant))) :
    (refreshing mode acts).cache.principal = mode.principal :=
  (holds_run (rescopedMode_compares mode).kept rfl acts).1

/-- A run is fresh just if the cache keeps up with the answers at every step of it. -/
theorem freshRun_iff (mode : Mode) (acts : List (Act (Option Grant))) :
    FreshRun mode acts ↔
      Steps rescopedMode (fun s act => Tracks mode.named (step rescopedMode s act)) (.init mode)
        acts :=
  (steps_tracks_iff (rescopedMode_compares mode) (tracks_init mode) (holds_init rfl) acts).symm

theorem refreshing_upToDate {mode : Mode} {acts : List (Act (Option Grant))}
    (fresh : FreshRun mode acts) (quiet : (refreshing mode acts).Quiet) :
    UpToDate mode (refreshing mode acts) := by
  intro i principal scopes latest ours
  have tracks := tracks_run (rescopedMode_compares mode) rfl fresh
  cases mode with
  | direct => cases ours
  | delegated principal' scopes' =>
    obtain rfl : principal' = principal := Option.some.inj ours
    have named : (Mode.delegated principal' scopes').named (some (principal', scopes)) =
        some (.delegated principal' scopes) := if_pos rfl
    have cached : (refreshing (.delegated principal' scopes') acts).cache =
        .delegated principal' scopes := tracks.quiet quiet latest named
    rw [cached]
    rfl

end Rust

namespace Go

/-- A client whose connect found `held`; one that found none returns before it looks anything up,
which is a refresh that writes nothing. -/
def refreshing (held : Option Delegation) (acts : List (Act (Option Delegation))) :
    Shared (Option Delegation) (Option Delegation) :=
  run rescopedDelegation (.init held) acts

def FreshRun (held : Option Delegation) (acts : List (Act (Option Delegation))) : Prop :=
  Steps rescopedDelegation (Fresh rescopedDelegation (namedDelegation held)) (.init held) acts

def UpToDate (held : Option Delegation) (s : Shared (Option Delegation) (Option Delegation)) :
    Prop :=
  ∀ i fresh, s.latest = some (i, some fresh) →
    held.map Delegation.principal = some fresh.principal →
      s.cache.map Delegation.scopes = some fresh.scopes

theorem rescopedDelegation_compares (held : Option Delegation) :
    Compares rescopedDelegation (namedDelegation held) fun previous =>
      previous.map Delegation.principal = held.map Delegation.principal where
  wanted _ _ named := principal_of_namedDelegation named
  same _ fresh previously back := by rw [rescopedDelegation_eq previously fresh, if_pos back]
  other _ fresh previously moved := by rw [rescopedDelegation_eq previously fresh, if_neg moved]

theorem refreshing_principal (held : Option Delegation) (acts : List (Act (Option Delegation))) :
    (refreshing held acts).cache.map Delegation.principal = held.map Delegation.principal :=
  (holds_run (rescopedDelegation_compares held).kept rfl acts).1

theorem freshRun_iff (held : Option Delegation) (acts : List (Act (Option Delegation))) :
    FreshRun held acts ↔
      Steps rescopedDelegation
        (fun s act => Tracks (namedDelegation held) (step rescopedDelegation s act)) (.init held)
        acts :=
  (steps_tracks_iff (rescopedDelegation_compares held) (tracks_init held) (holds_init rfl)
    acts).symm

theorem refreshing_upToDate {held : Option Delegation} {acts : List (Act (Option Delegation))}
    (fresh : FreshRun held acts) (quiet : (refreshing held acts).Quiet) :
    UpToDate held (refreshing held acts) := by
  intro i found latest ours
  have tracks := tracks_run (rescopedDelegation_compares held) rfl fresh
  cases held with
  | none => cases ours
  | some held =>
    have ours : found.principal = held.principal := (Option.some.inj ours).symm
    have named : namedDelegation (some held) (some found) = some (some found) := if_pos ours
    have cached : (refreshing (some held) acts).cache = some found := tracks.quiet quiet latest named
    rw [cached]
    rfl

end Go

/-- Kind and principal never change, and once all refreshes have finished the scopes are those of
the most recent answer, if each refresh was fresh when it finished. -/
theorem refreshes_upToDate (mode : Rust.Mode) (acts : List (Act (Option Rust.Grant)))
    (held : Option Go.Delegation) (goActs : List (Act (Option Go.Delegation))) :
    ((Rust.refreshing mode acts).cache.principal = mode.principal ∧
        (Rust.FreshRun mode acts → (Rust.refreshing mode acts).Quiet →
          Rust.UpToDate mode (Rust.refreshing mode acts))) ∧
      (Go.refreshing held goActs).cache.map Go.Delegation.principal =
          held.map Go.Delegation.principal ∧
        (Go.FreshRun held goActs → (Go.refreshing held goActs).Quiet →
          Go.UpToDate held (Go.refreshing held goActs)) :=
  ⟨⟨Rust.refreshing_principal mode acts, Rust.refreshing_upToDate⟩,
    Go.refreshing_principal held goActs, Go.refreshing_upToDate⟩

/-- Two refreshes of which the one that looked up first finishes first. -/
def overlapping {α : Type} (older newer : α) : List (Act α) :=
  [.read 0, .read 1, .lookUp 0 older, .lookUp 1 newer, .finish 0, .finish 1]

/-- Two refreshes of which the one that looked up first finishes last. -/
def overtaken {α : Type} (older newer : α) : List (Act α) :=
  [.read 0, .read 1, .lookUp 0 older, .lookUp 1 newer, .finish 1, .finish 0]

theorem overlapping_quiet {κ α : Type} (store : κ → α → Option κ) (cache : κ) (older newer : α) :
    (run store (.init cache) (overlapping older newer)).Quiet := by
  intro i
  by_cases first : i = 0
  · subst first
    rfl
  · by_cases second : i = 1
    · subst second
      rfl
    · simp [overlapping, run, step, Shared.init, first, second]

/-- The first refresh finishes while the newer answer is pending, the second with that answer. -/
theorem overlapping_fresh {κ α : Type} (store want : κ → α → Option κ) {cache : κ} {older newer : α}
    (moved : want cache newer ≠ some cache) :
    Steps store (Fresh store (want cache)) (.init cache) (overlapping older newer) := by
  refine ⟨trivial, trivial, trivial, trivial, ?_, ?_, trivial⟩
  · rintro previous answer here j newest latest
    cases latest
    refine ⟨fun same => absurd same (by decide), fun _ done => ?_⟩
    exact absurd ⟨cache, newer, rfl⟩ done
  · rintro previous answer here j newest latest
    cases latest
    cases here
    exact ⟨fun _ wants => absurd wants moved, fun other => absurd rfl other⟩

/-- Two overlapping refreshes of either client end with the newer answer. -/
theorem refreshes_upToDate_overlapping :
    (Rust.FreshRun (.delegated [] ⟨0⟩) (overlapping (some ([], ⟨1⟩)) (some ([], ⟨2⟩))) ∧
      Rust.UpToDate (.delegated [] ⟨0⟩) (Rust.refreshing (.delegated [] ⟨0⟩)
        (overlapping (some ([], ⟨1⟩)) (some ([], ⟨2⟩)))) ∧
      (Rust.refreshing (.delegated [] ⟨0⟩)
        (overlapping (some ([], ⟨1⟩)) (some ([], ⟨2⟩)))).cache = .delegated [] ⟨2⟩) ∧
    Go.FreshRun (some ⟨[], ⟨0⟩⟩) (overlapping (some ⟨[], ⟨1⟩⟩) (some ⟨[], ⟨2⟩⟩)) ∧
      Go.UpToDate (some ⟨[], ⟨0⟩⟩) (Go.refreshing (some ⟨[], ⟨0⟩⟩)
        (overlapping (some ⟨[], ⟨1⟩⟩) (some ⟨[], ⟨2⟩⟩))) ∧
      (Go.refreshing (some ⟨[], ⟨0⟩⟩)
        (overlapping (some ⟨[], ⟨1⟩⟩) (some ⟨[], ⟨2⟩⟩))).cache = some ⟨[], ⟨2⟩⟩ := by
  have rust : Rust.FreshRun (.delegated [] ⟨0⟩) (overlapping (some ([], ⟨1⟩)) (some ([], ⟨2⟩))) :=
    overlapping_fresh _ Rust.Mode.named (by decide)
  have go : Go.FreshRun (some ⟨[], ⟨0⟩⟩) (overlapping (some ⟨[], ⟨1⟩⟩) (some ⟨[], ⟨2⟩⟩)) :=
    overlapping_fresh _ Go.namedDelegation (by decide)
  have upToDate := refreshes_upToDate (.delegated [] ⟨0⟩)
    (overlapping (some ([], ⟨1⟩)) (some ([], ⟨2⟩))) (some ⟨[], ⟨0⟩⟩)
    (overlapping (some ⟨[], ⟨1⟩⟩) (some ⟨[], ⟨2⟩⟩))
  exact ⟨⟨rust, upToDate.1.2 rust (overlapping_quiet _ _ _ _), rfl⟩,
    go, upToDate.2.2 go (overlapping_quiet _ _ _ _), rfl⟩

/-- The older answer is written over the newer one. -/
theorem overtaken_stale :
    ¬ ∀ (mode : Rust.Mode) (acts : List (Act (Option Rust.Grant))),
      (Rust.refreshing mode acts).Quiet → Rust.UpToDate mode (Rust.refreshing mode acts) := by
  intro claim
  have quiet : (Rust.refreshing (.delegated [] ⟨0⟩)
      (overtaken (some ([], ⟨1⟩)) (some ([], ⟨2⟩)))).Quiet := by
    intro i
    by_cases first : i = 0
    · subst first
      rfl
    · by_cases second : i = 1
      · subst second
        rfl
      · simp [Rust.refreshing, overtaken, run, step, Shared.init, first, second]
  cases claim _ _ quiet 1 [] ⟨2⟩ rfl rfl

end MatterSdk
