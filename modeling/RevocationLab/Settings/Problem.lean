/-
**Checking settings.**

Settings that can be read may still make no sense: an address that is none, a limit of zero, a key
that is too short.  Every problem is reported, in a fixed order.

Main definitions:

* `Settings.Problem`, `Settings.Problem.message`;
* `Settings.problems` — the problems of settings.
-/

import RevocationLab.Settings.Basic
import RevocationLab.SocketAddress
import RevocationLab.Text.Quoted

set_option autoImplicit false

namespace RevocationLab

namespace Settings

/-- The fewest bits of an authority's key. -/
def minKeyBits : Nat := 1024

/-- What is wrong with settings. -/
inductive Problem where
  | bindAddress (text : String)
  | maxConnections
  | maxBodyBytes
  | keyBits (bits : Nat)
  | validityDays
  | metricsAddress (text : String)
  deriving DecidableEq, Repr

namespace Problem

/-- The name of the kind of problem. -/
def kind : Problem → String
  | bindAddress _ => "BindAddress"
  | maxConnections => "MaxConnections"
  | maxBodyBytes => "MaxBodyBytes"
  | keyBits _ => "KeyBits"
  | validityDays => "ValidityDays"
  | metricsAddress _ => "MetricsAddress"

/-- The text of a problem. -/
def message : Problem → String
  | bindAddress text => "listener.bind_address `" ++ text ++ "` is not a socket address"
  | maxConnections => "listener.max_connections must be greater than zero"
  | maxBodyBytes => "dispatch.max_body_bytes must be greater than zero"
  | keyBits bits => s!"authority.key_bits must be at least 1024, got {bits}"
  | validityDays => "authority.validity_days must be greater than zero"
  | metricsAddress text => "observability.metrics_address `" ++ text ++ "` is not a socket address"

/-- The kind of a problem with what it is about in parentheses. -/
def summary (p : Problem) : String :=
  match p with
  | bindAddress text => p.kind ++ "(" ++ Quoted.text text ++ ")"
  | keyBits bits => p.kind ++ "(" ++ toString bits ++ ")"
  | metricsAddress text => p.kind ++ "(" ++ Quoted.text text ++ ")"
  | _ => p.kind

end Problem

/-- The problem, if there is one. -/
def problemIf (wrong : Bool) (p : Problem) : List Problem := if wrong then [p] else []

/-- The problems of settings, in the order of the checks.  The address of the metrics counts only
when they are enabled. -/
def problems (s : Settings) : List Problem :=
  problemIf (SocketAddress.ofText? s.listener.bindAddress).isNone
      (.bindAddress s.listener.bindAddress)
    ++ problemIf (s.listener.maxConnections == 0) .maxConnections
    ++ problemIf (s.dispatch.maxBodyBytes == 0) .maxBodyBytes
    ++ problemIf (s.authority.keyBits < minKeyBits) (.keyBits s.authority.keyBits)
    ++ problemIf (s.authority.validityDays == 0) .validityDays
    ++ problemIf
      (s.observability.metricsEnabled
        && (SocketAddress.ofText? s.observability.metricsAddress).isNone)
      (.metricsAddress s.observability.metricsAddress)

end Settings

end RevocationLab
