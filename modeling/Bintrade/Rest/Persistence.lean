import Bintrade.Rest.PoolIdentity
import Bintrade.Rest.PoolOwnership
import Bintrade.System.HttpMessage

/-! Which connections go back to the pool after a response. The version of the response is
not looked at, and of its `Connection` fields only the last is, as a whole. -/

namespace Bintrade.Rest.HttpClient

open Bintrade.System

/-- The tokens of a comma-separated field value, in lower case. -/
def tokens (value : String) : List (List Char) :=
  (value.toList.splitOn ',').map fun token => (Http.trimBlanks token).map Char.toLower

def isConnectionField (field : String × String) : Bool := toLower field.1 = "connection"

/-- Some `Connection` field contains the token. -/
def RawResponse.hasToken (raw : RawResponse) (token : String) : Bool :=
  (raw.fields.filter isConnectionField).any fun field => token.toList ∈ tokens field.2

/-- The persistence rules: HTTP/1.1 keeps a connection unless told to close it, and earlier
versions close it unless told to keep it. -/
def RawResponse.allowsReuse (raw : RawResponse) : Bool :=
  if raw.version < 11 then raw.hasToken "keep-alive" else !raw.hasToken "close"

/-- Whenever a call receives the response, its connection is left idle in the pool only if
the response allows its reuse. -/
def KeepsPersistent (raw : RawResponse) : Prop :=
  ∀ (settings : Settings) (state after : State) (task id reserved : Nat) (sni : Bool),
    (machine settings).Reachable Machine.anyStep initial state →
      (state.phase task).held? = some (some id, reserved) →
        (machine settings).step state (.read task (.ok raw) sni) = some after →
          (∃ slot ∈ after.pool, slot.id = id ∧ slot.inUse = false) → raw.allowsReuse = true

theorem resKeepAlive_eq_false {raw : RawResponse} :
    resKeepAlive (toResponse raw) = false ↔ lastValue "connection" raw.fields = some "close" := by
  unfold resKeepAlive
  rw [find?_toResponse]
  cases lastValue "connection" raw.fields with
  | none => simp
  | some value => simp

/-- The first call of a client waits for its response. -/
theorem awaits_response :
    ∃ state, (machine orderClient).Reachable Machine.anyStep initial state ∧
      state.phase 0 = .reading 0 (some 0) 0 false ∧ state.pool = [⟨0, true, true⟩] :=
  ⟨_, @Machine.reachable_of_run _ _ (machine orderClient) Machine.anyStep initial _
    ([.execute 0 true] ++ connect 0 ++ [.write 0 (.ok ()) true]) _ rfl, rfl, rfl⟩

/-- A response that is not taken for the end of the connection leaves it idle in some run. -/
theorem exists_left_idle {raw : RawResponse} (kept : resKeepAlive (toResponse raw) = true) :
    ∃ state after, (machine orderClient).Reachable Machine.anyStep initial state ∧
      (state.phase 0).held? = some (some 0, 0) ∧
        (machine orderClient).step state (.read 0 (.ok raw) true) = some after ∧
          ∃ slot ∈ after.pool, slot.id = 0 ∧ slot.inUse = false := by
  obtain ⟨state, reached, waiting, pool⟩ := awaits_response
  have answered : ∃ after,
      (machine orderClient).step state (.read 0 (.ok raw) true) = some after ∧
        after.pool = [⟨0, false, true⟩] := by
    simp only [machine, step, waiting]
    refine ⟨_, rfl, ?_⟩
    simp only [State.setPhase, State.record, State.setPool, pool, kept]
    rfl
  obtain ⟨after, taken, released⟩ := answered
  refine ⟨state, after, reached, ?_, taken, ⟨0, false, true⟩, ?_, rfl, rfl⟩
  · rw [waiting]
    rfl
  · rw [released]
    exact List.mem_singleton_self _

theorem KeepsPersistent.allowsReuse {raw : RawResponse} (persistent : KeepsPersistent raw)
    (kept : resKeepAlive (toResponse raw) = true) : raw.allowsReuse = true := by
  obtain ⟨state, after, reached, held, taken, idle⟩ := exists_left_idle kept
  exact persistent orderClient state after 0 0 0 true reached held taken idle

/-- A response is handled as the persistence rules ask exactly if it allows the reuse of its
connection, or its last `Connection` field is `close` and nothing else. -/
theorem keeps_persistent_iff (raw : RawResponse) :
    KeepsPersistent raw ↔
      raw.allowsReuse = true ∨ lastValue "connection" raw.fields = some "close" := by
  constructor
  · intro persistent
    by_cases closed : lastValue "connection" raw.fields = some "close"
    · exact .inr closed
    · left
      have kept : resKeepAlive (toResponse raw) = true := by
        rw [← Bool.not_eq_false, resKeepAlive_eq_false]
        exact closed
      exact persistent.allowsReuse kept
  · rintro (allowed | closed)
    · intro settings state after task id reserved sni _ _ _ _
      exact allowed
    · intro settings state after task id reserved sni reached held taken idle
      have distinct := (Identified.initial.reachable reached).distinct
      have dropped := resKeepAlive_eq_false.mpr closed
      cases transition_of_step taken with
      | readCompletes waiting =>
        rw [waiting] at held
        cases held
        obtain ⟨slot, member, same, -⟩ := idle
        rw [dropped] at member
        exact absurd same (not_mem_release distinct settings.poolSize id slot member)

/-- A token in capitals, a token among others, and a response of HTTP/1.0. -/
theorem closing_response_kept :
    ¬ KeepsPersistent ⟨11, 200, [("Connection", "Close")], ""⟩ ∧
      ¬ KeepsPersistent ⟨11, 200, [("Connection", "close, upgrade")], ""⟩ ∧
        ¬ KeepsPersistent ⟨10, 200, [], ""⟩ := by
  refine ⟨?_, ?_, ?_⟩
  · intro persistent
    cases persistent.allowsReuse (by decide)
  · intro persistent
    cases persistent.allowsReuse (by decide)
  · intro persistent
    cases persistent.allowsReuse (by decide)

end Bintrade.Rest.HttpClient
