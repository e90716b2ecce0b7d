import VpnHub.Library.Transition
import VpnHub.Program.Engine

/-! The engine as a transition system over its public operations. -/

namespace VpnHub.Protocol.ProtocolEngine

open Config

variable {Conn : Type}

/-- A run of any operations with any arguments, each returning `Ok` or an error, from a new
engine for the given profile. -/
def RunFrom (env : Env Conn) (config : OpenVpnConfig) (ops : List Op)
    (e : ProtocolEngine Conn) : Prop :=
  ∃ now sessionId,
    Transition.Run (step env) (fun _ _ => True) (initial env config now sessionId) ops e

def Reachable (env : Env Conn) (config : OpenVpnConfig) (e : ProtocolEngine Conn) : Prop :=
  ∃ ops, RunFrom env config ops e

theorem Reachable.initial (env : Env Conn) (config : OpenVpnConfig) (now : Instant)
    (sessionId : UInt64) : Reachable env config (initial env config now sessionId) :=
  ⟨[], now, sessionId, .nil _⟩

theorem Reachable.step {env : Env Conn} {config : OpenVpnConfig} {e e' : ProtocolEngine Conn}
    {op : Op} (h : Reachable env config e) (hstep : step env e op = some e') :
    Reachable env config e' := by
  obtain ⟨ops, now, sessionId, run⟩ := h
  exact ⟨ops ++ [op], now, sessionId, run.snoc trivial hstep⟩

/-- What holds of a new engine and is kept by every operation holds in every reachable
state. -/
theorem Reachable.invariant {env : Env Conn} {config : OpenVpnConfig}
    {I : ProtocolEngine Conn → Prop}
    (start : ∀ now sessionId, I (ProtocolEngine.initial env config now sessionId))
    (preserved : ∀ e op e', ProtocolEngine.step env e op = some e' → I e → I e')
    {e : ProtocolEngine Conn} (h : Reachable env config e) : I e := by
  obtain ⟨ops, now, sessionId, run⟩ := h
  exact run.invariant (fun e op e' _ hstep => preserved e op e' hstep) (start now sessionId)

theorem step_eq_some {env : Env Conn} {e e' : ProtocolEngine Conn} {op : Op} :
    ProtocolEngine.step env e op = some e' ↔ ∃ r, (exec env op).run e = some (r, e') := by
  simp only [ProtocolEngine.step, Option.map_eq_some_iff, Prod.exists]
  constructor
  · rintro ⟨r, t, hrun, rfl⟩
    exact ⟨r, hrun⟩
  · rintro ⟨r, hrun⟩
    exact ⟨r, e', hrun, rfl⟩

end VpnHub.Protocol.ProtocolEngine
