import LiveCounter.Proofs.Pacing
import LiveCounter.Proofs.Reasons

/-!
# Streams that stay alive

As long as writes succeed quickly, the next sign of life of a session that is served comes within one
keepalive period and the time of one write. So if silence is tolerated for longer than that, no watch
finds the session silent.
-/

namespace LiveCounter

namespace Hub

/-- Every write to the client of session `n` succeeds or fails within so many milliseconds. For a
scripted client this is a matter of its script, for a buffer it is a matter of who reads from it. -/
def Prompt (limit n : Nat) (hub : Hub) (operations : List Operation) : Transport → Prop
  | .scripted script =>
    ∀ attempt, (script attempt).reception = .accept ∧ (script attempt).delay ≤ limit
  | .channel _ => ∀ first, first <+: operations → ∀ connection service write,
    (hub.run first).connections[n]? = some connection → connection.service = some service →
      service.phase = .writing write → (hub.run first).now ≤ write.began + limit

/-- What is prompt in a run is prompt in its first part. -/
theorem Prompt.of_append {limit n : Nat} {hub : Hub} {first second : List Operation}
    {transport : Transport} (h : Prompt limit n hub (first ++ second) transport) :
    Prompt limit n hub first transport := by
  cases transport with
  | scripted script => exact h
  | channel buffer => exact fun part hpart => h part (hpart.trans (List.prefix_append _ _))

section Healthy

variable {policy : StreamPolicy} {period : Duration} {limit n : Nat} {before after : List Operation}
  {topic : Topic} {id : SessionId} {transport : Transport} {initial : Option Int64}

/-- A run goes on from where the client was accepted. -/
theorem run_connect :
    (Hub.new policy).run (before ++ .connect topic id transport initial :: after) =
      (((Hub.new policy).run before).connect topic id transport.client initial).2.run after := by
  rw [run_append]
  rfl

/-- The write at hand of a prompt client in a punctual run has not lasted long. -/
theorem le_began_of_prompt
    (haccepted : (((Hub.new policy).run before).connect topic id transport.client initial).1 = .ok n)
    (hpunctual : (Hub.new policy).Punctual (before ++ .connect topic id transport initial :: after))
    (hprompt : Prompt limit n
      (((Hub.new policy).run before).connect topic id transport.client initial).2 after transport)
    {connection : Connection} {service : Service} {write : Write}
    (hconnection : ((((Hub.new policy).run before).connect topic id transport.client
      initial).2.run after).connections[n]? = some connection)
    (hservice : connection.service = some service) (hwrite : service.phase = .writing write) :
    ((((Hub.new policy).run before).connect topic id transport.client initial).2.run after).now ≤
      write.began + limit := by
  cases transport with
  | channel buffer =>
    exact hprompt after List.prefix_rfl connection service write hconnection hservice hwrite
  | scripted script =>
    have honTime := onTime_run policy hpunctual connection
      (by rw [run_connect]; exact List.mem_of_getElem? hconnection)
    rw [run_connect] at honTime
    obtain ⟨later, hlater, haccepting⟩ := (lasting_accepting _ limit).run_one
      (fun _ _ _ _ h => h) (connections_connect haccepted)
      ⟨_, rfl, ⟨script, 0, rfl, hprompt⟩, fun write hwrite => by (cases hwrite)⟩ after
    obtain rfl := Option.some.inj (hconnection.symm.trans hlater)
    exact haccepting.le_began honTime hservice hwrite

/-- As long as the writes are quick the session is there, and its watch does not find it silent. -/
theorem exists_alive (hwhole : policy.clamped.WholeMillis)
    (hkeepalive : policy.clamped.keepaliveInterval = some period)
    (hshort : period + .ofMillis limit < policy.clamped.idleTimeout)
    (haccepted : (((Hub.new policy).run before).connect topic id transport.client initial).1 = .ok n)
    (hpunctual : (Hub.new policy).Punctual (before ++ .connect topic id transport initial :: after))
    (hprompt : Prompt limit n
      (((Hub.new policy).run before).connect topic id transport.client initial).2 after transport) :
    let hub := (((Hub.new policy).run before).connect topic id transport.client initial).2.run after
    ∃ connection, hub.connections[n]? = some connection ∧
      connection.watchFinding hub.policy hub.now ≠ .silent := by
  intro hub
  have hrun : (Hub.new policy).run (before ++ .connect topic id transport initial :: after) = hub :=
    run_connect
  obtain ⟨connection, hconnection, hsome⟩ := (lasting_isSome_service _ true).run_one
    (fun _ _ _ _ h => h) (connections_connect haccepted) rfl after
  obtain ⟨service, hservice⟩ := Option.isSome_iff_exists.mp hsome
  have hmem : connection ∈ hub.connections := List.mem_of_getElem? hconnection
  have hperiod : period.IsWhole := hwhole.keepaliveInterval period hkeepalive
  have hpolicy : hub.policy = policy.clamped := by
    rw [← hrun]
    exact policy_run _ _
  refine ⟨connection, hconnection, ?_⟩
  rw [hpolicy]
  refine Connection.watchFinding_ne_silent hservice
    (tended_run policy _ connection (hrun.symm ▸ hmem))
    (hrun ▸ onTime_run policy hpunctual connection (hrun.symm ▸ hmem))
    (paced_run hkeepalive hperiod hpunctual connection (hrun.symm ▸ hmem))
    (fun write hwrite => le_began_of_prompt haccepted hpunctual hprompt hconnection hservice hwrite) ?_
  rwa [← hperiod.add_ofMillis]

/-- A reason that no watch has given was given by a caller. -/
theorem demanded_of_idle (hwhole : policy.clamped.WholeMillis)
    (hkeepalive : policy.clamped.keepaliveInterval = some period)
    (hshort : period + .ofMillis limit < policy.clamped.idleTimeout)
    (haccepted : (((Hub.new policy).run before).connect topic id transport.client initial).1 = .ok n)
    (hpunctual : (Hub.new policy).Punctual (before ++ .connect topic id transport initial :: after))
    (hprompt : Prompt limit n
      (((Hub.new policy).run before).connect topic id transport.client initial).2 after transport)
    {connection : Connection}
    (hconnection : ((((Hub.new policy).run before).connect topic id transport.client
      initial).2.run after).connections[n]? = some connection)
    (hidle : connection.session.reason = some .idleTimeout) :
    ∃ operation ∈ after, operation.demanded? n = some .idleTimeout := by
  induction after using List.reverseRecOn generalizing connection with
  | nil =>
    rw [run_nil, connections_connect haccepted] at hconnection
    obtain rfl := Option.some.inj hconnection
    have hfresh := (Session.sameCourse_greeted
      (((Hub.new policy).run before).newcomer topic id).session topic initial).reason
    cases hfresh.symm.trans hidle
  | append_singleton after operation ih =>
    rw [← List.cons_append, ← List.append_assoc] at hpunctual
    have hpunctual := (punctual_append.mp hpunctual).1
    obtain ⟨earlier, hearlier, halive⟩ :=
      exists_alive hwhole hkeepalive hshort haccepted hpunctual hprompt.of_append
    rw [run_append, run_cons, run_nil, connections_step hearlier] at hconnection
    obtain rfl := Option.some.inj hconnection
    have hlast : earlier.session.reason = some .idleTimeout ∨
        operation.demanded? n = some .idleTimeout := by
      rcases Connection.reason_after hidle with hbefore | ⟨move, hmem, cause, hcause, hreason⟩
      · exact Or.inl hbefore
      · exact demanded_of_cause hearlier halive hmem hcause hreason
    rcases hlast with hbefore | hdemanded
    · obtain ⟨found, hmem, hdemanded⟩ := ih hpunctual hprompt.of_append hearlier hbefore
      exact ⟨found, List.mem_append_left _ hmem, hdemanded⟩
    · exact ⟨operation, List.mem_append_right _ (List.mem_singleton_self _), hdemanded⟩

end Healthy

/-- A session that is opened for a client stays alive as long as keepalives are sent, each write to
the client succeeds within so many milliseconds, and the keepalive period and such a write together
are shorter than the silence that is tolerated: in every punctual run a poll of its watch leaves the
session as it is, and it is closed for silence only if a caller gives that as the reason. -/
theorem quick_clients_keep_sessions_alive {policy : StreamPolicy} {period : Duration} {limit : Nat}
    (hwhole : policy.clamped.WholeMillis)
    (hkeepalive : policy.clamped.keepaliveInterval = some period)
    (hshort : period + .ofMillis limit < policy.clamped.idleTimeout)
    (before after : List Operation) (topic : Topic) (id : SessionId) (transport : Transport)
    (initial : Option Int64) (n : Nat)
    (haccepted : (((Hub.new policy).run before).connect topic id transport.client initial).1 = .ok n)
    (hpunctual : (Hub.new policy).Punctual (before ++ .connect topic id transport initial :: after))
    (hprompt : Prompt limit n
      (((Hub.new policy).run before).connect topic id transport.client initial).2 after transport) :
    let hub := (((Hub.new policy).run before).connect topic id transport.client initial).2.run after
    ∃ session, hub.session? n = some session ∧ (hub.pollWatch n).session? n = some session ∧
      (session.reason = some .idleTimeout →
        ∃ operation ∈ after, operation.demanded? n = some .idleTimeout) := by
  intro hub
  obtain ⟨connection, hconnection, halive⟩ :=
    exists_alive hwhole hkeepalive hshort haccepted hpunctual hprompt
  have hsession : hub.session? n = some connection.session := by
    rw [session?, hconnection, Option.map_some]
  refine ⟨connection.session, hsession, ?_, fun hidle => ?_⟩
  · rw [session?, connections_pollWatch, List.getElem?_modify_eq, hconnection]
    show some (connection.polledWatch hub.policy hub.now).session = _
    rw [Connection.polledWatch_eq halive]
    rfl
  · exact demanded_of_idle hwhole hkeepalive hshort haccepted hpunctual hprompt hconnection hidle

/-- A stream that is silent apart from its keepalives: one every three milliseconds after the last
write, which takes two, where ten are tolerated. -/
theorem quick_clients_keep_sessions_alive_past_timeout :
    let policy : StreamPolicy :=
      { StreamPolicy.default with
        idleTimeout := .ofMillis 10, detectionInterval := .ofMillis 4
        keepaliveInterval := some (.ofMillis 3) }
    let start := (((Hub.new policy).run []).connect (.random 0) ⟨0⟩
      (Transport.scripted fun _ => ⟨2, .accept⟩).client none).2
    let hub := start.run [.pollWatch 0, .pollWriter 0, .pass 3, .pollWriter 0, .pass 1, .pollWatch 0,
      .pass 1, .pollWriter 0, .pass 3, .pollWatch 0, .pollWriter 0, .pass 2, .pollWriter 0, .pass 2]
    hub.now = 12 ∧ ∃ session, hub.session? 0 = some session ∧
      (hub.pollWatch 0).session? 0 = some session ∧ session.reason ≠ some .idleTimeout := by
  intro policy start hub
  have hwhole : policy.clamped.WholeMillis :=
    ⟨by decide +kernel, by decide +kernel, by decide +kernel, by decide +kernel⟩
  obtain ⟨session, hsession, hpolled, hreason⟩ :=
    quick_clients_keep_sessions_alive hwhole
      (show policy.clamped.keepaliveInterval = some (.ofMillis 3) by decide +kernel)
      (show .ofMillis 3 + .ofMillis 2 < policy.clamped.idleTimeout by decide +kernel) []
      [.pollWatch 0, .pollWriter 0, .pass 3, .pollWriter 0, .pass 1, .pollWatch 0, .pass 1,
        .pollWriter 0, .pass 3, .pollWatch 0, .pollWriter 0, .pass 2, .pollWriter 0, .pass 2]
      (.random 0) ⟨0⟩ (.scripted fun _ => ⟨2, .accept⟩) none 0
      (by decide +kernel) (by decide +kernel) fun _ => ⟨rfl, Nat.le_refl _⟩
  refine ⟨by decide +kernel, session, hsession, hpolled, fun hidle => ?_⟩
  obtain ⟨operation, hmem, hdemanded⟩ := hreason hidle
  have hnone : ∀ operation ∈ ([.pollWatch 0, .pollWriter 0, .pass 3, .pollWriter 0, .pass 1,
      .pollWatch 0, .pass 1, .pollWriter 0, .pass 3, .pollWatch 0, .pollWriter 0, .pass 2,
      .pollWriter 0, .pass 2] : List Operation), operation.demanded? 0 = none := by decide
  rw [hnone operation hmem] at hdemanded
  cases hdemanded

end Hub

end LiveCounter
